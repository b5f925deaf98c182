import Mathlib.Data.Option.Basic
import Mathlib.Logic.Function.Basic

/-! # Chains of rules for packets -/

namespace Library
set_option autoImplicit true

inductive Verdict
  | accept
  | reject
  deriving DecidableEq

/-- What a rule does with a packet that it matches. -/
inductive Target
  | give (verdict : Verdict)
  | jump (chain : String)
  | leave
  | pass
  deriving DecidableEq

structure Rule (M : Type) where
  matching : M
  target : Target
  deriving DecidableEq

/-- The rules of the first chain and its policy, and the chains that there are besides. -/
structure PacketFilter (M : Type) where
  input : List (Rule M)
  policy : Verdict
  chains : String → Option (List (Rule M))

section Walk
variable {M P : Type} (holds : M → P → Bool)

/-- What a target says where it is known what the chains say. -/
def Target.outcome (inner : String → Option Verdict) : Target → Option (Option Verdict)
  | .give verdict => some (some verdict)
  | .jump chain => (inner chain).map some
  | .leave => some none
  | .pass => none

/-- The first rule that says something decides. -/
def firstOutcome (inner : String → Option Verdict) (packet : P) (rules : List (Rule M)) :
    Option Verdict :=
  (rules.findSome? fun rule =>
    if holds rule.matching packet then rule.target.outcome inner else none).join

/-- A packet in some rules. Chains are followed down to a depth. -/
def walk (chains : String → Option (List (Rule M))) (packet : P) :
    Nat → List (Rule M) → Option Verdict
  | 0 => firstOutcome holds (fun _ => none) packet
  | depth + 1 =>
    firstOutcome holds (fun chain => walk chains packet depth ((chains chain).getD [])) packet

def PacketFilter.decision (filter : PacketFilter M) (depth : Nat) (packet : P) : Verdict :=
  (walk holds filter.chains packet depth filter.input).getD filter.policy

/-! ## Single rules -/

variable {holds} {inner : String → Option Verdict} {chains : String → Option (List (Rule M))}
  {packet : P} {rules : List (Rule M)} {rule : Rule M}

theorem firstOutcome_unmatched (h : ∀ rule ∈ rules, holds rule.matching packet = false) :
    firstOutcome holds inner packet rules = none := by
  rw [firstOutcome, List.findSome?_eq_none_iff.2]
  · rfl
  · intro rule hrule
    rw [h rule hrule]
    rfl

theorem firstOutcome_skip (h : holds rule.matching packet = false) :
    firstOutcome holds inner packet (rule :: rules) = firstOutcome holds inner packet rules := by
  rw [firstOutcome, List.findSome?_cons, h]
  rfl

theorem firstOutcome_verdict (h : holds rule.matching packet = true)
    (htarget : rule.target = .give verdict) :
    firstOutcome holds inner packet (rule :: rules) = some verdict := by
  rw [firstOutcome, List.findSome?_cons, if_pos h, htarget]
  rfl

theorem firstOutcome_jump (h : holds rule.matching packet = true)
    (htarget : rule.target = .jump chain) :
    firstOutcome holds inner packet (rule :: rules) =
      (inner chain).or (firstOutcome holds inner packet rules) := by
  rw [firstOutcome, List.findSome?_cons, if_pos h, htarget, Target.outcome]
  cases inner chain with
  | none => rfl
  | some verdict => rfl

/-! ## Chains -/

theorem walk_unmatched (h : ∀ rule ∈ rules, holds rule.matching packet = false) (depth : Nat) :
    walk holds chains packet depth rules = none := by
  cases depth with
  | zero => exact firstOutcome_unmatched h
  | succ depth => exact firstOutcome_unmatched h

theorem walk_skip (rule : Rule M) (h : holds rule.matching packet = false) (depth : Nat) :
    walk holds chains packet depth (rule :: rules) = walk holds chains packet depth rules := by
  cases depth with
  | zero => exact firstOutcome_skip h
  | succ depth => exact firstOutcome_skip h

theorem walk_verdict (rule : Rule M) (h : holds rule.matching packet = true)
    (htarget : rule.target = .give verdict) (depth : Nat) :
    walk holds chains packet depth (rule :: rules) = some verdict := by
  cases depth with
  | zero => exact firstOutcome_verdict h htarget
  | succ depth => exact firstOutcome_verdict h htarget

theorem walk_jump (h : holds rule.matching packet = true) (htarget : rule.target = .jump chain)
    (depth : Nat) : walk holds chains packet (depth + 1) (rule :: rules) =
      (walk holds chains packet depth ((chains chain).getD [])).or
        (walk holds chains packet (depth + 1) rules) :=
  firstOutcome_jump h htarget

/-- The rules of a chain may be replaced where neither the old nor the new ones match. -/
theorem walk_update {new : List (Rule M)}
    (hold : ∀ rule ∈ (chains name).getD [], holds rule.matching packet = false)
    (hnew : ∀ rule ∈ new, holds rule.matching packet = false) (depth : Nat)
    (rules : List (Rule M)) :
    walk holds (Function.update chains name (some new)) packet depth rules =
      walk holds chains packet depth rules := by
  induction depth generalizing rules with
  | zero => rfl
  | succ depth ih =>
    have hinner : (fun chain => walk holds (Function.update chains name (some new)) packet depth
        ((Function.update chains name (some new) chain).getD [])) =
        fun chain => walk holds chains packet depth ((chains chain).getD []) := by
      funext chain
      rw [ih]
      by_cases hchain : chain = name
      · rw [hchain, Function.update_self, Option.getD_some, walk_unmatched hnew,
          walk_unmatched hold]
      · rw [Function.update_of_ne hchain]
    rw [walk, walk, hinner]

end Walk

end Library
