import AegisVPN.Library.Dicts
import AegisVPN.Library.TextLines

namespace AegisVPN
open Library
set_option autoImplicit true

/-! # Values in an environment file -/

/-! ## Reading -/

/-- What the dict has under a key. -/
def dictGet [DecidableEq κ] (d : List (κ × ν)) (key : κ) : Option ν := d.lookup key

theorem dictGet_nil [DecidableEq κ] (key : κ) : dictGet ([] : List (κ × ν)) key = none := rfl

theorem dictGet_cons [DecidableEq κ] (p : κ × ν) (d : List (κ × ν)) (key : κ) :
    dictGet (p :: d) key = if p.1 = key then some p.2 else dictGet d key := by
  rw [dictGet, List.lookup_cons, ← dictGet]
  by_cases h : p.1 = key
  · simp [h]
  · rw [if_neg h, beq_false_of_ne (Ne.symm h)]

theorem dictGet_append [DecidableEq κ] (d e : List (κ × ν)) (key : κ) :
    dictGet (d ++ e) key = (dictGet d key).or (dictGet e key) :=
  List.lookup_append

/-- What a line of the file assigns. -/
def parseEnvLine (line : List Char) : Option (List Char × List Char) :=
  let line := strip line
  if line = [] ∨ line.head? = some '#' ∨ '=' ∉ line then none
  else some (strip (line.takeWhile fun c => c != '='),
    strip (line.dropWhile fun c => c != '=').tail)

def parseEnv (blob : List Char) : List (List Char × List Char) :=
  dictOf ((splitLines blob).filterMap parseEnvLine)

/-! ## Writing -/

/-- Values by their keys, where all are parts of lines without blanks around them. -/
structure EnvUpdates where
  values : List (List Char × List Char)
  nodup : (values.map Prod.fst).Nodup
  keys : ∀ p ∈ values, '=' ∉ p.1 ∧ strip p.1 = p.1 ∧ OneLine p.1
  plain : ∀ p ∈ values, strip p.2 = p.2 ∧ OneLine p.2

/-- The key that a line is taken to assign where values are replaced. -/
def envKey (line : List Char) : List Char :=
  if '=' ∈ line then strip (line.takeWhile fun c => c != '=') else []

/-- The loop over the lines, with the updates that remain. -/
@[simp] def updateLines (remaining : List (List Char × List Char)) :
    List (List Char) → List (List Char)
  | [] => remaining.map fieldLine
  | line :: lines =>
    match dictGet remaining (envKey line) with
    | some value => fieldLine (envKey line, value) ::
        updateLines (remaining.filter fun p => p.1 ≠ envKey line) lines
    | none => line :: updateLines remaining lines

def updateEnvValues (blob : List Char) (updates : EnvUpdates) : List Char :=
  joinedLines (updateLines updates.values (splitLines blob)) ++ ['\n']

/-- The key of a line in the script for the control settings, with the blanks around it. -/
def settingKey (line : List Char) : List Char :=
  if '=' ∈ line then line.takeWhile fun c => c != '=' else []

/-- The loop of the script, with the keys that it has seen. -/
@[simp] def settingLines (values : List (List Char × List Char)) (seen : List (List Char)) :
    List (List Char) → List (List Char)
  | [] => (values.filter fun p => p.1 ∉ seen).map fieldLine
  | line :: lines =>
    match dictGet values (settingKey line) with
    | some value => fieldLine (settingKey line, value) ::
        settingLines values (settingKey line :: seen) lines
    | none => line :: settingLines values seen lines

def setNodeControlSettings (blob : List Char) (updates : EnvUpdates) : List Char :=
  joinedLines (settingLines updates.values [] (splitLines blob)) ++ ['\n']

/-! ## What a line assigns -/

/-- The line assigns the key. -/
def Assigns (key line : List Char) : Prop := ∃ p ∈ parseEnvLine line, p.1 = key

instance (key line : List Char) : Decidable (Assigns key line) :=
  inferInstanceAs (Decidable (∃ p ∈ parseEnvLine line, p.1 = key))

/-- The value of the key in the lines, where the last assignment wins. -/
def valueIn (key : List Char) (lines : List (List Char)) : Option (List Char) :=
  dictGet (lines.filterMap parseEnvLine).reverse key

theorem dictGet_parseEnv (blob key : List Char) :
    dictGet (parseEnv blob) key = valueIn key (splitLines blob) :=
  lookup_dictOf _ _

theorem parseEnvLine_eq (line : List Char) : parseEnvLine line =
    if '=' ∈ line ∧ (envKey line).head? ≠ some '#' then
      some (envKey line, strip ((strip line).dropWhile fun c => c != '=').tail)
    else none := by
  have hsign : isTextBlank '=' = false := by decide
  by_cases hmem : '=' ∈ line
  · have hstripped : '=' ∈ strip line := (mem_strip hsign).2 hmem
    have hkey : envKey line = strip ((strip line).takeWhile fun c => c != '=') := by
      rw [envKey, if_pos hmem, strip_takeWhile_strip hsign hmem]
    have hcomment : (strip line).head? = some '#' ↔ (envKey line).head? = some '#' := by
      rw [hkey]
      cases hline : strip line with
      | nil =>
        rw [hline] at hstripped
        cases hstripped
      | cons c text =>
        have hc : isTextBlank c = false := head_strip (by rw [hline]; rfl)
        by_cases heq : c = '='
        · subst heq
          simp [strip_nil]
        · rw [List.takeWhile_cons_of_pos (by simpa using heq), head_strip_cons hc]
          rfl
    have hne : strip line ≠ [] := List.ne_nil_of_mem hstripped
    by_cases hhead : (envKey line).head? = some '#'
    · rw [if_neg (by simp [hhead]), parseEnvLine, if_pos (.inr (.inl (hcomment.2 hhead)))]
    · rw [if_pos ⟨hmem, hhead⟩, parseEnvLine, if_neg, ← hkey]
      rintro (hnil | hstart | hnot)
      · exact hne hnil
      · exact hhead (hcomment.1 hstart)
      · exact hnot hstripped
  · rw [if_neg fun h => hmem h.1, parseEnvLine,
      if_pos (.inr (.inr fun h => hmem ((mem_strip hsign).1 h)))]

theorem assigns_iff : Assigns key line ↔
    '=' ∈ line ∧ envKey line = key ∧ key.head? ≠ some '#' := by
  rw [Assigns, parseEnvLine_eq]
  constructor
  · rintro ⟨p, hp, rfl⟩
    by_cases h : '=' ∈ line ∧ (envKey line).head? ≠ some '#'
    · rw [if_pos h] at hp
      cases hp
      exact ⟨h.1, rfl, h.2⟩
    · rw [if_neg h] at hp
      cases hp
  · rintro ⟨hmem, rfl, hhead⟩
    exact ⟨_, if_pos ⟨hmem, hhead⟩, rfl⟩

theorem takeWhile_field (h : '=' ∉ key) (value : List Char) :
    (fieldLine (key, value)).takeWhile (fun c => c != '=') = key := by
  rw [fieldLine, List.takeWhile_append_of_pos]
  · simp
  · intro c hc
    rw [bne_iff_ne]
    rintro rfl
    exact h hc

theorem envKey_field (h : '=' ∉ key) (hstrip : strip key = key) (value : List Char) :
    envKey (fieldLine (key, value)) = key := by
  rw [envKey, if_pos (by simp [fieldLine]), takeWhile_field h, hstrip]

/-- A written value is read back, unless the line is a comment. -/
theorem parseEnvLine_field (h : '=' ∉ key) (hstrip : strip key = key)
    (hvalue : strip value = value) : parseEnvLine (fieldLine (key, value)) =
      if key.head? = some '#' then none else some (key, value) := by
  have hself : strip (fieldLine (key, value)) = fieldLine (key, value) := by
    apply strip_eq_self
    · intro c hc
      cases key with
      | nil =>
        cases hc
        rfl
      | cons d key =>
        have hkey : c ∈ (strip (d :: key)).head? := by
          rw [hstrip]
          exact hc
        exact head_strip hkey
    · intro c hc
      rcases List.eq_nil_or_concat' value with rfl | ⟨text, last, rfl⟩
      · rw [fieldLine, List.getLast?_concat] at hc
        cases hc
        rfl
      · rw [fieldLine, ← List.cons_append, ← List.append_assoc, List.getLast?_concat] at hc
        cases hc
        exact last_strip (hvalue.symm ▸ List.getLast?_concat)
  have hdrop : (fieldLine (key, value)).dropWhile (fun c => c != '=') = '=' :: value := by
    rw [fieldLine, List.dropWhile_append_of_pos]
    · simp
    · intro c hc
      rw [bne_iff_ne]
      rintro rfl
      exact h hc
  rw [parseEnvLine_eq, envKey_field h hstrip, hself, hdrop, List.tail_cons, hvalue]
  by_cases hhead : key.head? = some '#'
  · rw [if_pos hhead, if_neg fun hboth => hboth.2 hhead]
  · rw [if_neg hhead, if_pos ⟨by simp [fieldLine], hhead⟩]

/-! ## Values in lines -/

/-- What a line gives a key. -/
def lineValue (key line : List Char) : Option (List Char) :=
  dictGet (parseEnvLine line).toList key

theorem valueIn_nil (key : List Char) : valueIn key [] = none := rfl

theorem valueIn_cons (key line : List Char) (lines : List (List Char)) :
    valueIn key (line :: lines) = (valueIn key lines).or (lineValue key line) := by
  rw [valueIn, valueIn, lineValue, ← dictGet_append, List.filterMap_cons]
  cases parseEnvLine line with
  | none => simp
  | some p => simp

theorem lineValue_isSome : (lineValue key line).isSome = true ↔ Assigns key line := by
  rw [lineValue, Assigns]
  cases parseEnvLine line with
  | none => simp [dictGet_nil]
  | some p =>
    rw [Option.toList_some, dictGet_cons, dictGet_nil]
    by_cases h : p.1 = key
    · simp [h]
    · simp [h]

theorem lineValue_eq_none : lineValue key line = none ↔ ¬ Assigns key line := by
  rw [← lineValue_isSome, ← Option.not_isSome_iff_eq_none]

theorem valueIn_eq_none : valueIn key lines = none ↔ ∀ line ∈ lines, ¬ Assigns key line := by
  induction lines with
  | nil => simp [valueIn_nil]
  | cons line lines ih =>
    rw [valueIn_cons, Option.or_eq_none_iff, ih, lineValue_eq_none, List.forall_mem_cons, and_comm]

/-- A key and a value as updates have them. -/
structure PlainUpdate (p : List Char × List Char) : Prop where
  sign : '=' ∉ p.1
  key : strip p.1 = p.1
  value : strip p.2 = p.2

theorem EnvUpdates.update (updates : EnvUpdates) (h : p ∈ updates.values) : PlainUpdate p :=
  { sign := (updates.keys p h).1
    key := (updates.keys p h).2.1
    value := (updates.plain p h).1 }

theorem lineValue_field (h : PlainUpdate p) (key : List Char) : lineValue key (fieldLine p) =
    if p.1 = key ∧ key.head? ≠ some '#' then some p.2 else none := by
  rw [lineValue, parseEnvLine_field h.sign h.key h.value]
  by_cases hkey : p.1 = key
  · subst hkey
    by_cases hhead : p.1.head? = some '#'
    · rw [if_pos hhead, if_neg fun hboth => hboth.2 hhead]
      rfl
    · rw [if_neg hhead, if_pos ⟨rfl, hhead⟩, Option.toList_some, dictGet_cons, if_pos rfl]
  · rw [if_neg fun hboth : p.1 = key ∧ key.head? ≠ some '#' => hkey hboth.1]
    by_cases hhead : p.1.head? = some '#'
    · rw [if_pos hhead]
      rfl
    · rw [if_neg hhead, Option.toList_some, dictGet_cons, if_neg hkey, dictGet_nil]

theorem mem_of_dictGet [DecidableEq κ] {d : List (κ × ν)} (h : dictGet d key = some value) :
    (key, value) ∈ d := by
  induction d with
  | nil => cases h
  | cons p d ih =>
    rw [dictGet_cons] at h
    by_cases hkey : p.1 = key
    · rw [if_pos hkey] at h
      cases h
      cases hkey
      exact List.mem_cons_self
    · rw [if_neg hkey] at h
      exact List.mem_cons_of_mem _ (ih h)

theorem dictGet_of_mem [DecidableEq κ] {d : List (κ × ν)} (hnodup : (d.map Prod.fst).Nodup)
    (h : p ∈ d) : dictGet d p.1 = some p.2 :=
  (lookup_eq_some_iff hnodup).2 h

theorem dictGet_filter_key [DecidableEq κ] (d : List (κ × ν)) (q : κ → Bool) (key : κ) :
    dictGet (d.filter fun p => q p.1) key = if q key then dictGet d key else none :=
  lookup_filter_key q d key

theorem valueIn_fields (h : ∀ p ∈ values, PlainUpdate p)
    (hnodup : (values.map Prod.fst).Nodup) (key : List Char) :
    valueIn key (values.map fieldLine) =
      if key.head? = some '#' then none else dictGet values key := by
  induction values with
  | nil => simp [valueIn_nil, dictGet_nil]
  | cons p values ih =>
    obtain ⟨hnot, hrest⟩ := List.nodup_cons.1 hnodup
    rw [List.map_cons, valueIn_cons, ih (fun q hq => h q (List.mem_cons_of_mem _ hq)) hrest,
      lineValue_field (h p List.mem_cons_self), dictGet_cons]
    by_cases hhead : key.head? = some '#'
    · simp [hhead]
    · by_cases hkey : p.1 = key
      · have hnone : dictGet values key = none := by
          apply Option.eq_none_iff_forall_ne_some.2
          intro value hvalue
          exact hnot (hkey ▸ List.mem_map_of_mem (mem_of_dictGet hvalue))
        simp [hhead, hkey, hnone]
      · simp [hhead, hkey]

/-! ## The replaced lines -/

/-- Updates that the loop may still have. -/
structure Remaining (remaining : List (List Char × List Char)) : Prop where
  plain : ∀ p ∈ remaining, PlainUpdate p
  nodup : (remaining.map Prod.fst).Nodup

theorem EnvUpdates.remaining (updates : EnvUpdates) : Remaining updates.values :=
  { plain := fun _ hp => updates.update hp
    nodup := updates.nodup }

theorem Remaining.filter (h : Remaining remaining) (key : List Char) :
    Remaining (remaining.filter fun p => p.1 ≠ key) :=
  { plain := fun p hp => h.plain p (List.mem_of_mem_filter hp)
    nodup := h.nodup.sublist (List.filter_sublist.map _) }

theorem dictGet_remaining (remaining : List (List Char × List Char)) (key other : List Char) :
    dictGet (remaining.filter fun p => p.1 ≠ key) other =
      if other ≠ key then dictGet remaining other else none := by
  rw [dictGet_filter_key remaining (fun k => decide (k ≠ key)) other]
  simp

theorem lineValue_of_ne (h : envKey line ≠ key) : lineValue key line = none :=
  lineValue_eq_none.2 fun hassigns => h (assigns_iff.1 hassigns).2.1

theorem valueIn_updateLines_other (h : Remaining remaining) (hkey : dictGet remaining key = none)
    (lines : List (List Char)) : valueIn key (updateLines remaining lines) = valueIn key lines := by
  induction lines generalizing remaining with
  | nil =>
    rw [updateLines, valueIn_fields h.plain h.nodup, hkey, ite_self, valueIn_nil]
  | cons line lines ih =>
    rw [updateLines, valueIn_cons]
    cases hmatch : dictGet remaining (envKey line) with
    | none => rw [valueIn_cons, ih h hkey]
    | some value =>
      have hne : envKey line ≠ key := by
        rintro rfl
        rw [hkey] at hmatch
        cases hmatch
      dsimp only
      rw [valueIn_cons, lineValue_of_ne hne, lineValue_field (h.plain _ (mem_of_dictGet hmatch)),
        if_neg fun hboth => hne hboth.1, ih (h.filter _)]
      rw [dictGet_remaining, hkey, ite_self]

/-- The lines after the first that is taken to assign the key. -/
def afterFirst (key : List Char) (lines : List (List Char)) : List (List Char) :=
  (lines.dropWhile fun line => envKey line ≠ key).tail

theorem afterFirst_cons (key line : List Char) (lines : List (List Char)) :
    afterFirst key (line :: lines) = if envKey line = key then lines else afterFirst key lines := by
  rw [afterFirst, List.dropWhile_cons]
  by_cases h : envKey line = key
  · simp [h]
  · simp [h, afterFirst]

theorem valueIn_updateLines (h : Remaining remaining) (hkey : dictGet remaining key = some value)
    (hname : key.head? ≠ some '#') (lines : List (List Char)) :
    valueIn key (updateLines remaining lines) =
      some ((valueIn key (afterFirst key lines)).getD value) := by
  induction lines generalizing remaining with
  | nil =>
    rw [updateLines, valueIn_fields h.plain h.nodup, hkey, if_neg hname]
    rfl
  | cons line lines ih =>
    rw [updateLines, afterFirst_cons]
    by_cases heq : envKey line = key
    · subst heq
      rw [hkey, if_pos rfl]
      dsimp only
      rw [valueIn_cons, valueIn_updateLines_other (h.filter _),
        lineValue_field (h.plain _ (mem_of_dictGet hkey)), if_pos ⟨rfl, hname⟩]
      · cases valueIn (envKey line) lines <;> rfl
      · rw [dictGet_remaining, if_neg (not_not.2 rfl)]
    · rw [if_neg heq]
      cases hmatch : dictGet remaining (envKey line) with
      | none => rw [valueIn_cons, ih h hkey, Option.some_or]
      | some _ =>
        dsimp only
        rw [valueIn_cons, ih (h.filter _), Option.some_or]
        rw [dictGet_remaining, if_pos (Ne.symm heq), hkey]

/-- The first line that is taken to assign the key does have an equals sign. -/
def FirstAssigns (key : List Char) (lines : List (List Char)) : Prop :=
  ∀ line ∈ lines.find? fun line => envKey line = key, '=' ∈ line

theorem FirstAssigns.head (h : FirstAssigns key (line :: lines)) (heq : envKey line = key) :
    '=' ∈ line :=
  h line (List.find?_cons_of_pos (by simpa using heq))

theorem FirstAssigns.tail (h : FirstAssigns key (line :: lines)) (hne : envKey line ≠ key) :
    FirstAssigns key lines := by
  intro other hother
  apply h other
  rw [List.find?_cons_of_neg (by simpa using hne)]
  exact hother

/-- An updated key has its new value where no second line assigns it, or the last one does with
this value. -/
theorem afterFirst_value_iff (hname : key.head? ≠ some '#') (hfirst : FirstAssigns key lines)
    (value : List Char) : (valueIn key (afterFirst key lines)).getD value = value ↔
      lines.countP (fun line => Assigns key line) ≤ 1 ∨ valueIn key lines = some value := by
  induction lines with
  | nil => simp [afterFirst, valueIn_nil]
  | cons line lines ih =>
    rw [afterFirst_cons, valueIn_cons]
    by_cases heq : envKey line = key
    · have hassigns : Assigns key line := assigns_iff.2 ⟨hfirst.head heq, heq, hname⟩
      obtain ⟨old, hold⟩ := Option.isSome_iff_exists.1 (lineValue_isSome.2 hassigns)
      rw [if_pos heq, List.countP_cons_of_pos (by simpa using hassigns), hold]
      cases hlast : valueIn key lines with
      | none =>
        have hcount : lines.countP (fun line => Assigns key line) = 0 := by
          rw [List.countP_eq_zero]
          intro other hother
          simpa using valueIn_eq_none.1 hlast other hother
        simp [hcount]
      | some last =>
        have hcount : 0 < lines.countP (fun line => Assigns key line) := by
          rw [List.countP_pos_iff]
          by_contra hnone
          rw [valueIn_eq_none.2 fun other hother hother' =>
            hnone ⟨other, hother, by simpa using hother'⟩] at hlast
          cases hlast
        rw [Option.getD_some, Option.some_or, Option.some.injEq]
        constructor
        · exact .inr
        · rintro (hle | hlast)
          · omega
          · exact hlast
    · have hnot : ¬ Assigns key line := fun hassigns => heq (assigns_iff.1 hassigns).2.1
      rw [if_neg heq, List.countP_cons_of_neg (by simpa using hnot), lineValue_of_ne heq,
        Option.or_none]
      exact ih (hfirst.tail heq)

/-- The line assigns no updated key. -/
def Unassigned (values : List (List Char × List Char)) (line : List Char) : Prop :=
  ∀ p ∈ values, ¬ Assigns p.1 line

instance (values : List (List Char × List Char)) (line : List Char) :
    Decidable (Unassigned values line) :=
  inferInstanceAs (Decidable (∀ p ∈ values, ¬ Assigns p.1 line))

theorem unassigned_field {values : List (List Char × List Char)} (h : PlainUpdate p)
    (hmem : p ∈ values) (hname : p.1.head? ≠ some '#') : ¬ Unassigned values (fieldLine p) := by
  intro hline
  apply hline p hmem
  rw [← lineValue_isSome, lineValue_field h, if_pos ⟨rfl, hname⟩]
  rfl

section Loop

variable {values remaining : List (List Char × List Char)} {lines : List (List Char)}

/-- The updates that remain are among all of them, and none has the name of a comment. -/
structure NamedUpdates (values remaining : List (List Char × List Char)) : Prop
    extends Remaining remaining where
  subset : ∀ p ∈ remaining, p ∈ values
  named : ∀ p ∈ remaining, p.1.head? ≠ some '#'

theorem NamedUpdates.filter (h : NamedUpdates values remaining) (key : List Char) :
    NamedUpdates values (remaining.filter fun p => p.1 ≠ key) :=
  { h.toRemaining.filter key with
    subset := fun p hp => h.subset p (List.mem_of_mem_filter hp)
    named := fun p hp => h.named p (List.mem_of_mem_filter hp) }

theorem NamedUpdates.field (h : NamedUpdates values remaining)
    (hmatch : dictGet remaining key = some value) :
    ¬ Unassigned values (fieldLine (key, value)) :=
  have hmem := mem_of_dictGet hmatch
  unassigned_field (h.plain _ hmem) (h.subset _ hmem) (h.named _ hmem)

theorem updateLines_kept (h : NamedUpdates values remaining)
    (hfirst : ∀ p ∈ remaining, FirstAssigns p.1 lines) :
    (lines.filter fun line => Unassigned values line).Sublist (updateLines remaining lines) := by
  induction lines generalizing remaining with
  | nil => exact List.nil_sublist _
  | cons line lines ih =>
    rw [updateLines]
    cases hmatch : dictGet remaining (envKey line) with
    | none =>
      have hrest : (lines.filter fun line => Unassigned values line).Sublist
          (updateLines remaining lines) := by
        apply ih h
        intro p hp
        apply (hfirst p hp).tail
        intro heq
        rw [heq, dictGet_of_mem h.nodup hp] at hmatch
        cases hmatch
      dsimp only
      by_cases hline : Unassigned values line
      · rw [List.filter_cons_of_pos (by simpa using hline)]
        exact hrest.cons_cons line
      · rw [List.filter_cons_of_neg (by simpa using hline)]
        exact hrest.cons line
    | some value =>
      have hmem := mem_of_dictGet hmatch
      have hassigns : Assigns (envKey line) line :=
        assigns_iff.2 ⟨(hfirst _ hmem).head rfl, rfl, h.named _ hmem⟩
      rw [List.filter_cons_of_neg (by
        simpa using fun hline : Unassigned values line => hline _ (h.subset _ hmem) hassigns)]
      apply List.Sublist.cons
      apply ih (h.filter _)
      intro p hp
      obtain ⟨hp, hne⟩ := List.mem_filter.1 hp
      exact (hfirst p hp).tail fun heq => of_decide_eq_true hne heq.symm

theorem countP_updateLines_le (h : NamedUpdates values remaining) (lines : List (List Char)) :
    (updateLines remaining lines).countP (fun line => Unassigned values line) ≤
      lines.countP fun line => Unassigned values line := by
  induction lines generalizing remaining with
  | nil =>
    rw [updateLines, List.countP_map, List.countP_nil, Nat.le_zero, List.countP_eq_zero]
    intro p hp
    simpa using unassigned_field (h.plain p hp) (h.subset p hp) (h.named p hp)
  | cons line lines ih =>
    rw [updateLines, List.countP_cons]
    cases hmatch : dictGet remaining (envKey line) with
    | none =>
      dsimp only
      rw [List.countP_cons]
      exact Nat.add_le_add_right (ih h) _
    | some value =>
      dsimp only
      rw [List.countP_cons_of_neg (by simpa using h.field hmatch)]
      exact (ih (h.filter _)).trans (Nat.le_add_right _ _)

/-- A line without an equals sign is lost where it is taken to assign an updated key. -/
theorem countP_updateLines_lt (h : NamedUpdates values remaining) (hp : p ∈ remaining)
    (hfirst : ¬ FirstAssigns p.1 lines) :
    (updateLines remaining lines).countP (fun line => Unassigned values line) <
      lines.countP fun line => Unassigned values line := by
  induction lines generalizing remaining with
  | nil =>
    apply absurd _ hfirst
    intro line hline
    cases hline
  | cons line lines ih =>
    rw [updateLines, List.countP_cons]
    by_cases heq : envKey line = p.1
    · have hsign : '=' ∉ line := by
        intro hmem
        apply hfirst
        intro other hother
        rw [List.find?_cons_of_pos (by simpa using heq)] at hother
        cases hother
        exact hmem
      have hline : Unassigned values line := fun q _ hassigns => hsign (assigns_iff.1 hassigns).1
      have hmatch : dictGet remaining (envKey line) = some p.2 := by
        rw [heq, dictGet_of_mem h.nodup hp]
      rw [hmatch]
      dsimp only
      rw [List.countP_cons_of_neg (by simpa using h.field hmatch), if_pos (by simpa using hline)]
      exact Nat.lt_succ_of_le (countP_updateLines_le (h.filter _) lines)
    · have hrest : ¬ FirstAssigns p.1 lines := by
        intro hlines
        apply hfirst
        intro other hother
        rw [List.find?_cons_of_neg (by simpa using heq)] at hother
        exact hlines other hother
      cases hmatch : dictGet remaining (envKey line) with
      | none =>
        dsimp only
        rw [List.countP_cons]
        exact Nat.add_lt_add_right (ih h hp hrest) _
      | some value =>
        dsimp only
        rw [List.countP_cons_of_neg (by simpa using h.field hmatch)]
        apply Nat.lt_of_lt_of_le (ih (h.filter _) (List.mem_filter.2 ⟨hp, _⟩) hrest)
          (Nat.le_add_right _ _)
        simpa using Ne.symm heq

theorem updateLines_again (h : Remaining remaining) (lines : List (List Char)) :
    updateLines remaining (updateLines remaining lines) = updateLines remaining lines := by
  induction lines generalizing remaining with
  | nil =>
    rw [updateLines]
    induction remaining with
    | nil => rfl
    | cons p remaining ih =>
      obtain ⟨hnot, hnodup⟩ := List.nodup_cons.1 h.nodup
      have hp := h.plain p List.mem_cons_self
      have hrest : (p :: remaining).filter (fun q => q.1 ≠ p.1) = remaining := by
        rw [List.filter_cons_of_neg (by simp), List.filter_eq_self]
        intro q hq
        simpa using fun heq : q.1 = p.1 => hnot (heq ▸ List.mem_map_of_mem hq)
      rw [List.map_cons, updateLines, envKey_field hp.sign hp.key, dictGet_cons, if_pos rfl]
      dsimp only
      rw [hrest, ih { plain := fun q hq => h.plain q (List.mem_cons_of_mem _ hq), nodup := hnodup }]
  | cons line lines ih =>
    rw [updateLines]
    cases hmatch : dictGet remaining (envKey line) with
    | none =>
      dsimp only
      rw [updateLines, hmatch]
      dsimp only
      rw [ih h]
    | some value =>
      have hp := h.plain _ (mem_of_dictGet hmatch)
      dsimp only
      rw [updateLines, envKey_field hp.sign hp.key, hmatch]
      dsimp only
      rw [ih (h.filter _)]

end Loop

/-! ## The lines of the script -/

section Script

variable {values : List (List Char × List Char)} {seen lines : List (List Char)}
  {key value : List Char}

theorem envKey_of_settingKey (hstrip : strip (settingKey line) = settingKey line) :
    envKey line = settingKey line := by
  by_cases hmem : '=' ∈ line
  · rw [settingKey, if_pos hmem] at hstrip ⊢
    rw [envKey, if_pos hmem, hstrip]
  · rw [envKey, settingKey, if_neg hmem, if_neg hmem]

theorem valueIn_unseen (h : Remaining values) (seen : List (List Char)) (key : List Char) :
    valueIn key ((values.filter fun p => p.1 ∉ seen).map fieldLine) =
      if key.head? = some '#' then none else if key ∉ seen then dictGet values key else none := by
  rw [valueIn_fields (fun p hp => h.plain p (List.mem_of_mem_filter hp))
      (h.nodup.sublist (List.filter_sublist.map _)),
    dictGet_filter_key values (fun k => decide (k ∉ seen)) key]
  simp only [decide_eq_true_eq]

theorem valueIn_settingLines_other (h : Remaining values) (hkey : dictGet values key = none)
    (seen lines : List (List Char)) :
    valueIn key (settingLines values seen lines) = valueIn key lines := by
  induction lines generalizing seen with
  | nil =>
    rw [settingLines, valueIn_unseen h, hkey, ite_self, ite_self, valueIn_nil]
  | cons line lines ih =>
    rw [settingLines, valueIn_cons]
    cases hmatch : dictGet values (settingKey line) with
    | none => rw [valueIn_cons, ih]
    | some value =>
      have hp := h.plain _ (mem_of_dictGet hmatch)
      have hne : settingKey line ≠ key := by
        rintro rfl
        rw [hkey] at hmatch
        cases hmatch
      have hline : envKey line ≠ key := by
        rw [envKey_of_settingKey hp.key]
        exact hne
      dsimp only
      rw [valueIn_cons, lineValue_of_ne hline, lineValue_field hp,
        if_neg fun hboth => hne hboth.1, ih]

theorem valueIn_settingLines_of_none (h : Remaining values) (hkey : dictGet values key = some value)
    (hnone : valueIn key lines = none) (seen : List (List Char)) :
    valueIn key (settingLines values seen lines) = none ∨
      valueIn key (settingLines values seen lines) = some value := by
  induction lines generalizing seen with
  | nil =>
    rw [settingLines, valueIn_unseen h, hkey]
    split
    · exact .inl rfl
    · split
      · exact .inr rfl
      · exact .inl rfl
  | cons line lines ih =>
    rw [valueIn_cons, Option.or_eq_none_iff] at hnone
    rw [settingLines]
    cases hmatch : dictGet values (settingKey line) with
    | none =>
      dsimp only
      rw [valueIn_cons, hnone.2, Option.or_none]
      exact ih hnone.1 seen
    | some other =>
      dsimp only
      rw [valueIn_cons, lineValue_field (h.plain _ (mem_of_dictGet hmatch))]
      rcases ih hnone.1 (settingKey line :: seen) with hrest | hrest
      · rw [hrest, Option.none_or]
        by_cases hboth : settingKey line = key ∧ key.head? ≠ some '#'
        · rw [hboth.1, hkey] at hmatch
          exact .inr ((if_pos hboth).trans hmatch.symm)
        · exact .inl (if_neg hboth)
      · exact .inr (by rw [hrest, Option.some_or])

theorem lineValue_setting (h : Remaining values) (hkey : dictGet values key = some value)
    (hname : key.head? ≠ some '#') (hline : settingKey line = key) (seen : List (List Char))
    (hnone : valueIn key lines = none) :
    valueIn key (settingLines values seen (line :: lines)) = some value := by
  rw [settingLines, hline, hkey]
  dsimp only
  rw [valueIn_cons, lineValue_field (h.plain _ (mem_of_dictGet hkey)), if_pos ⟨rfl, hname⟩]
  rcases valueIn_settingLines_of_none h hkey hnone (key :: seen) with hrest | hrest
  · rw [hrest, Option.none_or]
  · rw [hrest, Option.some_or]

theorem valueIn_settingLines_cons
    (hrest : ∀ seen', key ∉ seen' → valueIn key (settingLines values seen' lines) = some value)
    (hline : settingKey line ≠ key) (hseen : key ∉ seen) :
    valueIn key (settingLines values seen (line :: lines)) = some value := by
  rw [settingLines]
  cases dictGet values (settingKey line) with
  | none =>
    dsimp only
    rw [valueIn_cons, hrest seen hseen, Option.some_or]
  | some other =>
    dsimp only
    rw [valueIn_cons, hrest, Option.some_or]
    intro hmem
    cases hmem with
    | head => exact hline rfl
    | tail _ hmem => exact hseen hmem

theorem valueIn_settingLines_new (h : Remaining values) (hkey : dictGet values key = some value)
    (hname : key.head? ≠ some '#') (hseen : key ∉ seen) (hnone : valueIn key lines = none) :
    valueIn key (settingLines values seen lines) = some value := by
  induction lines generalizing seen with
  | nil => rw [settingLines, valueIn_unseen h, if_neg hname, if_pos hseen, hkey]
  | cons line lines ih =>
    rw [valueIn_cons, Option.or_eq_none_iff] at hnone
    by_cases hline : settingKey line = key
    · exact lineValue_setting h hkey hname hline seen hnone.1
    · exact valueIn_settingLines_cons (fun _ hseen' => ih hseen' hnone.1) hline hseen

/-- A key that one line assigns at most has the new value, though the line be kept. -/
theorem valueIn_settingLines_once (h : Remaining values) (hkey : dictGet values key = some value)
    (hname : key.head? ≠ some '#') (hseen : key ∉ seen) (hfirst : FirstAssigns key lines)
    (honce : lines.countP (fun line => Assigns key line) ≤ 1) :
    valueIn key (settingLines values seen lines) = some value := by
  have hp := h.plain _ (mem_of_dictGet hkey)
  induction lines generalizing seen with
  | nil => rw [settingLines, valueIn_unseen h, if_neg hname, if_pos hseen, hkey]
  | cons line lines ih =>
    by_cases heq : envKey line = key
    · have hassigns : Assigns key line := assigns_iff.2 ⟨hfirst.head heq, heq, hname⟩
      have hnone : valueIn key lines = none := by
        rw [List.countP_cons_of_pos (by simpa using hassigns)] at honce
        have hzero : lines.countP (fun line => Assigns key line) = 0 := by omega
        rw [valueIn_eq_none]
        intro other hother
        simpa using List.countP_eq_zero.1 hzero other hother
      by_cases hline : settingKey line = key
      · exact lineValue_setting h hkey hname hline seen hnone
      · exact valueIn_settingLines_cons
          (fun _ hseen' => valueIn_settingLines_new h hkey hname hseen' hnone) hline hseen
    · have hline : settingKey line ≠ key := by
        rintro rfl
        exact heq (envKey_of_settingKey hp.key)
      have hnot : ¬ Assigns key line := fun hassigns => heq (assigns_iff.1 hassigns).2.1
      rw [List.countP_cons_of_neg (by simpa using hnot)] at honce
      exact valueIn_settingLines_cons (fun _ hseen' => ih hseen' (hfirst.tail heq) honce) hline
        hseen

theorem valueIn_settingLines_same (h : Remaining values) (hkey : dictGet values key = some value)
    (hname : key.head? ≠ some '#') (hsame : valueIn key lines = some value)
    (seen : List (List Char)) : valueIn key (settingLines values seen lines) = some value := by
  induction lines generalizing seen with
  | nil => cases hsame
  | cons line lines ih =>
    rw [valueIn_cons] at hsame
    cases hrest : valueIn key lines with
    | some last =>
      rw [hrest, Option.some_or] at hsame
      cases hsame
      rw [settingLines]
      split
      · rw [valueIn_cons, ih hrest, Option.some_or]
      · rw [valueIn_cons, ih hrest, Option.some_or]
    | none =>
      rw [hrest, Option.none_or] at hsame
      by_cases hline : settingKey line = key
      · exact lineValue_setting h hkey hname hline seen hrest
      · have hunset : dictGet values (settingKey line) = none := by
          have hassigns : Assigns key line := lineValue_isSome.1 (hsame ▸ rfl)
          apply Option.eq_none_iff_forall_ne_some.2
          intro other hmatch
          have hp := h.plain _ (mem_of_dictGet hmatch)
          rw [← envKey_of_settingKey hp.key] at hline
          exact hline (assigns_iff.1 hassigns).2.1
        rw [settingLines, hunset]
        dsimp only
        rw [valueIn_cons, hsame]
        rcases valueIn_settingLines_of_none h hkey hrest seen with hvalue | hvalue
        · rw [hvalue, Option.none_or]
        · rw [hvalue, Option.some_or]

end Script

/-! ## The updated file -/

theorem oneLine_field (h : OneLine p.1) (hvalue : OneLine p.2) : OneLine (fieldLine p) := by
  intro c hc
  rw [fieldLine, List.mem_append, List.mem_cons] at hc
  rcases hc with hc | rfl | hc
  · exact h c hc
  · decide
  · exact hvalue c hc

theorem oneLine_updateLines (h : ∀ p ∈ remaining, OneLine p.1 ∧ OneLine p.2)
    (hlines : ∀ line ∈ lines, OneLine line) :
    ∀ line ∈ updateLines remaining lines, OneLine line := by
  induction lines generalizing remaining with
  | nil =>
    intro line hline
    obtain ⟨p, hp, rfl⟩ := List.mem_map.1 hline
    exact oneLine_field (h p hp).1 (h p hp).2
  | cons first lines ih =>
    obtain ⟨hhead, hrest⟩ := List.forall_mem_cons.1 hlines
    rw [updateLines]
    cases hmatch : dictGet remaining (envKey first) with
    | none => exact List.forall_mem_cons.2 ⟨hhead, ih h hrest⟩
    | some value =>
      have hp := h _ (mem_of_dictGet hmatch)
      exact List.forall_mem_cons.2 ⟨oneLine_field hp.1 hp.2,
        ih (fun p hp => h p (List.mem_of_mem_filter hp)) hrest⟩

theorem oneLine_settingLines (h : ∀ p ∈ values, OneLine p.1 ∧ OneLine p.2)
    (hlines : ∀ line ∈ lines, OneLine line) (seen : List (List Char)) :
    ∀ line ∈ settingLines values seen lines, OneLine line := by
  induction lines generalizing seen with
  | nil =>
    intro line hline
    obtain ⟨p, hp, rfl⟩ := List.mem_map.1 hline
    have hp := h p (List.mem_of_mem_filter hp)
    exact oneLine_field hp.1 hp.2
  | cons first lines ih =>
    obtain ⟨hhead, hrest⟩ := List.forall_mem_cons.1 hlines
    rw [settingLines]
    cases hmatch : dictGet values (settingKey first) with
    | none => exact List.forall_mem_cons.2 ⟨hhead, ih hrest _⟩
    | some value =>
      have hp := h _ (mem_of_dictGet hmatch)
      exact List.forall_mem_cons.2 ⟨oneLine_field hp.1 hp.2, ih hrest _⟩

theorem valueIn_joined (key : List Char) {lines : List (List Char)}
    (h : ∀ line ∈ lines, OneLine line) :
    valueIn key (splitLines (joinedLines lines ++ ['\n'])) = valueIn key lines := by
  rw [splitLines_joined h]
  by_cases hnil : lines = []
  · rw [if_pos hnil, hnil]
    rfl
  · rw [if_neg hnil]

theorem EnvUpdates.oneLine (updates : EnvUpdates) :
    ∀ p ∈ updates.values, OneLine p.1 ∧ OneLine p.2 :=
  fun p hp => ⟨(updates.keys p hp).2.2, (updates.plain p hp).2⟩

theorem oneLine_updated (blob : List Char) (updates : EnvUpdates) :
    ∀ line ∈ updateLines updates.values (splitLines blob), OneLine line :=
  oneLine_updateLines updates.oneLine fun _ hline => oneLine_of_mem_splitLines hline

theorem dictGet_updateEnvValues (blob : List Char) (updates : EnvUpdates) (key : List Char) :
    dictGet (parseEnv (updateEnvValues blob updates)) key =
      valueIn key (updateLines updates.values (splitLines blob)) := by
  rw [dictGet_parseEnv, updateEnvValues, valueIn_joined key (oneLine_updated blob updates)]

theorem dictGet_setNodeControlSettings (blob : List Char) (updates : EnvUpdates)
    (key : List Char) : dictGet (parseEnv (setNodeControlSettings blob updates)) key =
      valueIn key (settingLines updates.values [] (splitLines blob)) := by
  rw [dictGet_parseEnv, setNodeControlSettings, valueIn_joined key (oneLine_settingLines
    updates.oneLine (fun _ hline => oneLine_of_mem_splitLines hline) [])]

theorem updateLines_eq_nil (h : updateLines remaining lines = []) : remaining = [] := by
  cases lines with
  | nil => exact List.map_eq_nil_iff.1 h
  | cons line lines =>
    rw [updateLines] at h
    split at h
    · cases h
    · cases h

theorem updateEnvValues_again (blob : List Char) (updates : EnvUpdates) :
    updateEnvValues (updateEnvValues blob updates) updates = updateEnvValues blob updates := by
  have hagain := updateLines_again updates.remaining (splitLines blob)
  rw [updateEnvValues, updateEnvValues, splitLines_joined (oneLine_updated blob updates)]
  by_cases hnil : updateLines updates.values (splitLines blob) = []
  · rw [if_pos hnil, hnil, updateLines_eq_nil hnil]
    rfl
  · rw [if_neg hnil, hagain]

/-- The updates take effect in the file, and nothing else does. The script for the control
settings does the same with them. -/
structure EnvUpdates.TakeEffect (updates : EnvUpdates) (blob : List Char) : Prop where
  updated : ∀ p ∈ updates.values,
    dictGet (parseEnv (updateEnvValues blob updates)) p.1 = some p.2
  others : ∀ key ∉ updates.values.map Prod.fst,
    dictGet (parseEnv (updateEnvValues blob updates)) key = dictGet (parseEnv blob) key
  kept : ((splitLines blob).filter fun line => Unassigned updates.values line).Sublist
    (splitLines (updateEnvValues blob updates))
  again : updateEnvValues (updateEnvValues blob updates) updates = updateEnvValues blob updates
  script : ∀ key, dictGet (parseEnv (setNodeControlSettings blob updates)) key =
    dictGet (parseEnv (updateEnvValues blob updates)) key

/-- The keys are no comments, the first line of each has an equals sign, and no second line
assigns it, or the last one does with the new value. -/
structure EnvUpdates.Decisive (updates : EnvUpdates) (blob : List Char) : Prop where
  named : ∀ p ∈ updates.values, p.1.head? ≠ some '#'
  first : ∀ p ∈ updates.values, FirstAssigns p.1 (splitLines blob)
  once : ∀ p ∈ updates.values,
    (splitLines blob).countP (fun line => Assigns p.1 line) ≤ 1 ∨
      dictGet (parseEnv blob) p.1 = some p.2

theorem dictGet_eq_none [DecidableEq κ] {d : List (κ × ν)} (h : key ∉ d.map Prod.fst) :
    dictGet d key = none := by
  apply Option.eq_none_iff_forall_ne_some.2
  intro value hvalue
  exact h (List.mem_map_of_mem (mem_of_dictGet hvalue))

theorem not_assigns_comment (h : key.head? = some '#') (line : List Char) : ¬ Assigns key line :=
  fun hassigns => (assigns_iff.1 hassigns).2.2 h

theorem EnvUpdates.Decisive.takeEffect {updates : EnvUpdates} (h : updates.Decisive blob) :
    updates.TakeEffect blob := by
  have hnamed : NamedUpdates updates.values updates.values :=
    { updates.remaining with
      subset := fun _ hp => hp
      named := h.named }
  have hupdated : ∀ p ∈ updates.values,
      dictGet (parseEnv (updateEnvValues blob updates)) p.1 = some p.2 := by
    intro p hp
    rw [dictGet_updateEnvValues, valueIn_updateLines updates.remaining
      (dictGet_of_mem updates.nodup hp) (h.named p hp)]
    have honce := h.once p hp
    rw [dictGet_parseEnv] at honce
    rw [(afterFirst_value_iff (h.named p hp) (h.first p hp) p.2).2 honce]
  have hothers : ∀ key ∉ updates.values.map Prod.fst,
      dictGet (parseEnv (updateEnvValues blob updates)) key = dictGet (parseEnv blob) key := by
    intro key hkey
    rw [dictGet_updateEnvValues, valueIn_updateLines_other updates.remaining
      (dictGet_eq_none hkey), dictGet_parseEnv]
  refine ⟨hupdated, hothers, ?_, updateEnvValues_again blob updates, fun key => ?_⟩
  · rw [updateEnvValues, splitLines_joined (oneLine_updated blob updates)]
    have hkept := updateLines_kept hnamed h.first
    by_cases hnil : updateLines updates.values (splitLines blob) = []
    · rw [if_pos hnil]
      rw [hnil] at hkept
      exact hkept.trans (List.nil_sublist _)
    · rw [if_neg hnil]
      exact hkept
  · rw [dictGet_setNodeControlSettings]
    by_cases hkey : key ∈ updates.values.map Prod.fst
    · obtain ⟨p, hp, rfl⟩ := List.mem_map.1 hkey
      have hget := dictGet_of_mem updates.nodup hp
      rw [hupdated p hp]
      rcases h.once p hp with honce | hsame
      · exact valueIn_settingLines_once updates.remaining hget (h.named p hp)
          List.not_mem_nil (h.first p hp) honce
      · rw [dictGet_parseEnv] at hsame
        exact valueIn_settingLines_same updates.remaining hget (h.named p hp) hsame []
    · rw [hothers key hkey, valueIn_settingLines_other updates.remaining (dictGet_eq_none hkey),
        dictGet_parseEnv]

/-- The updates of a file take effect just where they are decisive. -/
theorem takeEffect_iff (updates : EnvUpdates) (blob : List Char) :
    updates.TakeEffect blob ↔ updates.Decisive blob := by
  constructor
  · intro h
    have hname : ∀ p ∈ updates.values, p.1.head? ≠ some '#' := by
      intro p hp hhead
      have hvalue := h.updated p hp
      rw [dictGet_parseEnv, valueIn_eq_none.2 fun line _ => not_assigns_comment hhead line]
        at hvalue
      cases hvalue
    have hnamed : NamedUpdates updates.values updates.values :=
      { updates.remaining with
        subset := fun _ hp => hp
        named := hname }
    have hfirst : ∀ p ∈ updates.values, FirstAssigns p.1 (splitLines blob) := by
      intro p hp
      by_contra hbad
      have hlt := countP_updateLines_lt hnamed hp hbad
      have hne : updateLines updates.values (splitLines blob) ≠ [] := by
        intro hnil
        rw [updateLines_eq_nil hnil] at hp
        cases hp
      have hkept := h.kept
      rw [updateEnvValues, splitLines_joined (oneLine_updated blob updates), if_neg hne] at hkept
      have hcount := hkept.countP_le (p := fun line => decide (Unassigned updates.values line))
      simp only [List.countP_filter, Bool.and_self] at hcount
      exact absurd hcount (Nat.not_le.2 hlt)
    refine ⟨hname, hfirst, fun p hp => ?_⟩
    have hvalue := h.updated p hp
    rw [dictGet_updateEnvValues, valueIn_updateLines updates.remaining
      (dictGet_of_mem updates.nodup hp) (hname p hp), Option.some.injEq] at hvalue
    rw [dictGet_parseEnv]
    exact (afterFirst_value_iff (hname p hp) (hfirst p hp) p.2).1 hvalue
  · exact fun h => h.takeEffect

def repeatedUpdates : EnvUpdates where
  values := [(['K'], ['3'])]
  nodup := List.nodup_singleton _
  keys := by
    intro p hp
    rw [List.mem_singleton.1 hp]
    exact ⟨by decide, rfl, List.forall_mem_singleton.2 rfl⟩
  plain := by
    intro p hp
    rw [List.mem_singleton.1 hp]
    exact ⟨rfl, List.forall_mem_singleton.2 rfl⟩

/-- The last of two assignments of a key keeps its old value in force. -/
theorem repeated_key_obsolete : ¬ repeatedUpdates.TakeEffect "K=1\nK=2\n".toList ∧
    dictGet (parseEnv (updateEnvValues "K=1\nK=2\n".toList repeatedUpdates)) ['K'] =
      some ['2'] := by
  have hvalue : dictGet (parseEnv (updateEnvValues "K=1\nK=2\n".toList repeatedUpdates)) ['K'] =
      some ['2'] := by decide
  refine ⟨fun h => ?_, hvalue⟩
  have hnew := h.updated (['K'], ['3']) List.mem_cons_self
  rw [hvalue] at hnew
  cases hnew

end AegisVPN
