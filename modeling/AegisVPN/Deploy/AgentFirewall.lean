import Mathlib.Data.Fintype.Basic
import AegisVPN.Library.PacketFilter

namespace AegisVPN
open Library
set_option autoImplicit true

/-! # The firewall of the agent API -/

/-! ## Addresses -/

structure Ipv4Address where
  first : Fin 256
  second : Fin 256
  third : Fin 256
  fourth : Fin 256
  deriving DecidableEq

def Ipv4Address.octets (address : Ipv4Address) : List (Fin 256) :=
  [address.first, address.second, address.third, address.fourth]

def Ipv4Address.compressed (address : Ipv4Address) : List Char :=
  ['.'].intercalate (address.octets.map fun octet => Nat.toDigits 10 octet.val)

def Ipv4Address.loopback (address : Ipv4Address) : Bool := address.first == 127

/-- At most three digits, of which the first is no zero. -/
def parseOctet (text : List Char) : Option (Fin 256) :=
  if text = [] ∨ 3 < text.length ∨ text.all Char.isDigit = false then none
  else if text ≠ ['0'] ∧ text.head? = some '0' then none
  else
    let value := Nat.ofDigitChars 10 text 0
    if h : value < 256 then some ⟨value, h⟩ else none

/-- What `ip_address` makes of a text, where that is an address of version 4. -/
def ipAddress4 (text : List Char) : Option Ipv4Address :=
  match text.splitOn '.' with
  | [first, second, third, fourth] => do
    .some ⟨← parseOctet first, ← parseOctet second, ← parseOctet third, ← parseOctet fourth⟩
  | _ => none

theorem parseOctet_toDigits (octet : Fin 256) :
    parseOctet (Nat.toDigits 10 octet) = some octet := by
  revert octet
  decide +kernel

theorem ipAddress4_compressed (address : Ipv4Address) :
    ipAddress4 address.compressed = some address := by
  have hplain : ∀ text ∈ address.octets.map (fun octet => Nat.toDigits 10 octet.val),
      '.' ∉ text := by
    intro text htext hdot
    obtain ⟨octet, -, rfl⟩ := List.mem_map.1 htext
    exact absurd (Nat.isDigit_of_mem_toDigits (by decide) (by decide) hdot) (by decide)
  rw [ipAddress4, Ipv4Address.compressed, List.splitOn_intercalate '.' hplain (by simp
    [Ipv4Address.octets])]
  simp only [Ipv4Address.octets, List.map_cons, List.map_nil, parseOctet_toDigits]
  rfl

/-! ## The script -/

inductive AgentSource
  | loopback
  | control (address : Ipv4Address)
  | anywhere
  deriving DecidableEq

/-- The commands of the script. -/
inductive FirewallLine
  | newChain
  | flush
  | append (source : AgentSource) (verdict : Verdict)
  | enter
  deriving DecidableEq

def AgentSource.text : AgentSource → String
  | .loopback => "-s 127.0.0.0/8 "
  | .control address => "-s " ++ String.ofList address.compressed ++ " "
  | .anywhere => ""

def verdictText : Verdict → String
  | .accept => "ACCEPT"
  | .reject => "REJECT --reject-with tcp-reset"

def FirewallLine.text : FirewallLine → String
  | .newChain => "iptables -N AEGIS_AGENT_API 2>/dev/null || true"
  | .flush => "iptables -F AEGIS_AGENT_API"
  | .append source verdict => "iptables -A AEGIS_AGENT_API -p tcp --dport 8444 " ++ source.text ++
      "-j " ++ verdictText verdict
  | .enter => "iptables -C INPUT -p tcp --dport 8444 -j AEGIS_AGENT_API 2>/dev/null || " ++
      "iptables -I INPUT 1 -p tcp --dport 8444 -j AEGIS_AGENT_API"

def agentFirewall (control : Ipv4Address) (publicAgent : Bool) : List FirewallLine :=
  [.newChain, .flush, .append .loopback .accept] ++
    (if publicAgent then [.append (.control control) .accept] else []) ++
    [.append .anywhere .reject, .enter]

/-- The text of the script. A text that is no address of version 4 raises. -/
def renderAgentFirewall (controlServerIp : List Char) (publicAgent : Bool) : Option String :=
  (ipAddress4 controlServerIp).map fun address =>
    "\n".intercalate ((agentFirewall address publicAgent).map FirewallLine.text) ++ "\n"

theorem renderAgentFirewall_compressed (control : Ipv4Address) (publicAgent : Bool) :
    renderAgentFirewall control.compressed publicAgent =
      some ("\n".intercalate ((agentFirewall control publicAgent).map FirewallLine.text) ++
        "\n") := by
  rw [renderAgentFirewall, ipAddress4_compressed, Option.map_some]

/-! ## Its effect -/

/-- What the rules look at. The rules of other programs look at what they like. -/
structure Packet (E : Type) where
  tcp : Bool
  destinationPort : Nat
  source : Ipv4Address
  rest : E

def Packet.toAgent (packet : Packet E) : Bool := packet.tcp && packet.destinationPort == 8444

inductive FirewallMatch (M : Type)
  | agentApi (source : AgentSource)
  | other (m : M)
  deriving DecidableEq

def AgentSource.covers : AgentSource → Ipv4Address → Bool
  | .loopback, address => address.loopback
  | .control own, address => address == own
  | .anywhere, _ => true

section Effect
variable {M E : Type} (others : M → Packet E → Bool)

def FirewallMatch.holds : FirewallMatch M → Packet E → Bool
  | .agentApi source, packet => packet.toAgent && source.covers packet.source
  | .other m, packet => others m packet

abbrev NodeFilter (M : Type) := PacketFilter (FirewallMatch M)

def agentChain : String := "AEGIS_AGENT_API"

def enterRule : Rule (FirewallMatch M) := ⟨.agentApi .anywhere, .jump agentChain⟩

def agentRule (source : AgentSource) (verdict : Verdict) : Rule (FirewallMatch M) :=
  ⟨.agentApi source, .give verdict⟩

def setAgentChain (filter : NodeFilter M) (rules : List (Rule (FirewallMatch M))) :
    NodeFilter M :=
  { filter with chains := Function.update filter.chains agentChain (some rules) }

/-- The chain is for the agent API only, and no rule comes before the one that enters it. -/
structure OwnChain (filter : NodeFilter M) : Prop where
  rules : ∀ rule ∈ (filter.chains agentChain).getD [], ∃ source verdict,
    rule = agentRule source verdict
  enters : enterRule ∈ filter.input → filter.input.head? = some enterRule

def agentRules (control : Ipv4Address) (publicAgent : Bool) : List (Rule (FirewallMatch M)) :=
  [agentRule .loopback .accept] ++
    (if publicAgent then [agentRule (.control control) .accept] else []) ++
    [agentRule .anywhere .reject]

/-! ## The chain -/

variable {filter filter' : NodeFilter M} {others : M → Packet E → Bool}

theorem setAgentChain_again (rules rules' : List (Rule (FirewallMatch M))) :
    setAgentChain (setAgentChain filter rules) rules' = setAgentChain filter rules' := by
  rw [setAgentChain, setAgentChain, Function.update_idem]
  rfl

theorem setAgentChain_rules (rules : List (Rule (FirewallMatch M))) :
    (setAgentChain filter rules).chains agentChain = some rules := by
  change Function.update filter.chains agentChain (some rules) agentChain = some rules
  rw [Function.update_self]

theorem not_toAgent_unmatched {packet : Packet E} (h : packet.toAgent = false)
    (source : AgentSource) :
    (FirewallMatch.agentApi source).holds others packet = false := by
  rw [FirewallMatch.holds, h, Bool.false_and]

/-- Other packets go through the chain, whatever the rules of the agent API in it. -/
theorem decision_setAgentChain (h : OwnChain filter) {rules : List (Rule (FirewallMatch M))}
    (hrules : ∀ rule ∈ rules, ∃ source verdict, rule = agentRule source verdict)
    {packet : Packet E} (hpacket : packet.toAgent = false) (depth : Nat) :
    (setAgentChain filter rules).decision (FirewallMatch.holds others) depth packet =
      filter.decision (FirewallMatch.holds others) depth packet := by
  have hunmatched : ∀ rules : List (Rule (FirewallMatch M)),
      (∀ rule ∈ rules, ∃ source verdict, rule = agentRule source verdict) →
      ∀ rule ∈ rules, rule.matching.holds others packet = false := by
    intro rules hown rule hrule
    obtain ⟨source, verdict, rfl⟩ := hown rule hrule
    exact not_toAgent_unmatched hpacket source
  rw [PacketFilter.decision, PacketFilter.decision, setAgentChain,
    walk_update (hunmatched _ h.rules) (hunmatched _ hrules)]

theorem OwnChain.setAgentChain (h : OwnChain filter) {rules : List (Rule (FirewallMatch M))}
    (hrules : ∀ rule ∈ rules, ∃ source verdict, rule = agentRule source verdict) :
    OwnChain (setAgentChain filter rules) where
  rules := by
    rw [setAgentChain_rules, Option.getD_some]
    exact hrules
  enters := h.enters

/-- What one command does to a filter whose chain is for the agent API only. -/
structure FilterKept (others : M → Packet E → Bool) (filter filter' : NodeFilter M) : Prop where
  own : OwnChain filter'
  decision : ∀ (packet : Packet E) (depth : Nat), packet.toAgent = false →
    filter'.decision (FirewallMatch.holds others) depth packet =
      filter.decision (FirewallMatch.holds others) depth packet

theorem FilterKept.refl (h : OwnChain filter) : FilterKept others filter filter :=
  ⟨h, fun _ _ _ => rfl⟩

theorem FilterKept.trans {middle : NodeFilter M} (h : FilterKept others filter middle)
    (h' : FilterKept others middle filter') : FilterKept others filter filter' :=
  ⟨h'.own, fun packet depth hpacket => (h'.decision packet depth hpacket).trans
    (h.decision packet depth hpacket)⟩

theorem kept_setAgentChain (h : OwnChain filter) {rules : List (Rule (FirewallMatch M))}
    (hrules : ∀ rule ∈ rules, ∃ source verdict, rule = agentRule source verdict) :
    FilterKept others filter (setAgentChain filter rules) :=
  ⟨h.setAgentChain hrules, fun _ depth hpacket => decision_setAgentChain h hrules hpacket depth⟩

theorem mem_agentRules {control : Ipv4Address} {publicAgent : Bool}
    {rule : Rule (FirewallMatch M)} (h : rule ∈ agentRules control publicAgent) :
    ∃ source verdict, rule = agentRule source verdict := by
  simp only [agentRules, List.mem_append, List.mem_singleton] at h
  obtain (rfl | h) | rfl := h
  · exact ⟨_, _, rfl⟩
  · split at h
    · exact ⟨_, _, List.mem_singleton.1 h⟩
    · cases h
  · exact ⟨_, _, rfl⟩

/-- Who reaches the agent once the script is through. -/
def admitted (control : Ipv4Address) (publicAgent : Bool) (source : Ipv4Address) : Bool :=
  source.loopback || (publicAgent && source == control)

theorem walk_agentRules {packet : Packet E} (h : packet.toAgent = true) (control : Ipv4Address)
    (publicAgent : Bool) (chains : String → Option (List (Rule (FirewallMatch M)))) (depth : Nat) :
    walk (FirewallMatch.holds others) chains packet depth (agentRules control publicAgent) =
      some (if admitted control publicAgent packet.source then .accept else .reject) := by
  have hholds : ∀ source : AgentSource, (FirewallMatch.agentApi source).holds others packet =
      source.covers packet.source := by
    intro source
    rw [FirewallMatch.holds, h, Bool.true_and]
  have hreject : walk (FirewallMatch.holds others) chains packet depth
      [agentRule .anywhere .reject] = some .reject :=
    walk_verdict (agentRule .anywhere .reject) (hholds .anywhere) rfl depth
  rw [agentRules, List.append_assoc, List.singleton_append]
  cases hloopback : packet.source.loopback with
  | true =>
    rw [walk_verdict (agentRule .loopback .accept) ((hholds .loopback).trans hloopback) rfl,
      admitted, hloopback]
    rfl
  | false =>
    rw [walk_skip (agentRule .loopback .accept) ((hholds .loopback).trans hloopback),
      admitted, hloopback]
    cases publicAgent with
    | false => exact hreject
    | true =>
      rw [if_pos rfl, List.singleton_append]
      cases hcontrol : packet.source == control with
      | true =>
        exact walk_verdict (agentRule (.control control) .accept)
          ((hholds (.control control)).trans hcontrol) rfl depth
      | false =>
        rw [walk_skip (agentRule (.control control) .accept)
          ((hholds (.control control)).trans hcontrol)]
        exact hreject

theorem setAgentChain_self {rules : List (Rule (FirewallMatch M))}
    (h : filter.chains agentChain = some rules) : setAgentChain filter rules = filter := by
  rw [setAgentChain, ← h, Function.update_eq_self]

/-! ## What the commands keep -/

variable [DecidableEq M]

/-- The shell stops at a command that fails. -/
def FirewallLine.perform (filter : NodeFilter M) : FirewallLine → Option (NodeFilter M)
  | .newChain => some (if (filter.chains agentChain).isSome then filter else
      setAgentChain filter [])
  | .flush => (filter.chains agentChain).map fun _ => setAgentChain filter []
  | .append source verdict => (filter.chains agentChain).map fun rules =>
      setAgentChain filter (rules ++ [agentRule source verdict])
  | .enter => some (if enterRule ∈ filter.input then filter else
      { filter with input := enterRule :: filter.input })

def performLines (filter : NodeFilter M) (lines : List FirewallLine) : Option (NodeFilter M) :=
  lines.foldlM FirewallLine.perform filter

theorem perform_kept {line : FirewallLine} (h : OwnChain filter)
    (hperform : line.perform filter = some filter') : FilterKept others filter filter' := by
  cases line with
  | newChain =>
    cases hperform
    split
    · exact .refl h
    · exact kept_setAgentChain h (fun rule hrule => by cases hrule)
  | flush =>
    obtain ⟨rules, -, rfl⟩ := Option.map_eq_some_iff.1 hperform
    exact kept_setAgentChain h (fun rule hrule => by cases hrule)
  | append source verdict =>
    obtain ⟨rules, hchain, rfl⟩ := Option.map_eq_some_iff.1 hperform
    refine kept_setAgentChain h fun rule hrule => ?_
    rcases List.mem_append.1 hrule with hrule | hrule
    · apply h.rules
      rw [hchain]
      exact hrule
    · exact ⟨source, verdict, List.mem_singleton.1 hrule⟩
  | enter =>
    cases hperform
    split
    · exact .refl h
    · refine ⟨⟨h.rules, fun _ => rfl⟩, fun packet depth hpacket => ?_⟩
      rw [PacketFilter.decision, PacketFilter.decision,
        walk_skip enterRule (not_toAgent_unmatched hpacket .anywhere)]

theorem performLines_kept {lines : List FirewallLine} (h : OwnChain filter)
    (hperform : performLines filter lines = some filter') : FilterKept others filter filter' := by
  induction lines generalizing filter with
  | nil =>
    cases hperform
    exact .refl h
  | cons line lines ih =>
    rw [performLines, List.foldlM_cons] at hperform
    obtain ⟨middle, hline, hrest⟩ := Option.bind_eq_some_iff.1 hperform
    have hkept : FilterKept others filter middle := perform_kept h hline
    exact hkept.trans (ih hkept.own hrest)

/-! ## The whole script -/

def enterChain (filter : NodeFilter M) : NodeFilter M :=
  if enterRule ∈ filter.input then filter else { filter with input := enterRule :: filter.input }

theorem performLines_agentFirewall (filter : NodeFilter M) (control : Ipv4Address)
    (publicAgent : Bool) : performLines filter (agentFirewall control publicAgent) =
      some (enterChain (setAgentChain filter (agentRules control publicAgent))) := by
  have hstart : ∃ chain, FirewallLine.perform filter .newChain = some chain ∧
      ∀ rules, setAgentChain chain rules = setAgentChain filter rules ∧
        (chain.chains agentChain).isSome = true := by
    refine ⟨_, rfl, fun rules => ?_⟩
    split
    · rename_i hsome
      exact ⟨rfl, hsome⟩
    · exact ⟨setAgentChain_again _ _, by rw [setAgentChain_rules]; rfl⟩
  obtain ⟨chain, hchain, hset⟩ := hstart
  have hflush : FirewallLine.perform chain .flush = some (setAgentChain filter []) := by
    obtain ⟨rules, hrules⟩ := Option.isSome_iff_exists.1 (hset []).2
    rw [FirewallLine.perform, hrules, Option.map_some, (hset []).1]
  have happend : ∀ rules source verdict,
      FirewallLine.perform (setAgentChain filter rules) (.append source verdict) =
        some (setAgentChain filter (rules ++ [agentRule source verdict])) := by
    intro rules source verdict
    rw [FirewallLine.perform, setAgentChain_rules, Option.map_some, setAgentChain_again]
  cases publicAgent with
  | false =>
    simp only [performLines, agentFirewall, agentRules, Bool.false_eq_true, if_false,
      List.append_nil, List.cons_append, List.nil_append, List.foldlM_cons, List.foldlM_nil, hchain,
      hflush, happend, Option.bind_eq_bind, Option.bind_some]
    rfl
  | true =>
    simp only [performLines, agentFirewall, agentRules, if_true, List.cons_append, List.nil_append,
      List.foldlM_cons, List.foldlM_nil, hchain, hflush, happend, Option.bind_eq_bind,
      Option.bind_some]
    rfl

theorem enterChain_input (h : OwnChain filter) :
    ∃ rest, (enterChain filter).input = enterRule :: rest ∧
      (enterChain filter).chains = filter.chains := by
  rw [enterChain]
  split
  · rename_i hmem
    obtain ⟨rest, hrest⟩ := List.head?_eq_some_iff.1 (h.enters hmem)
    exact ⟨rest, hrest, rfl⟩
  · exact ⟨_, rfl, rfl⟩

theorem decision_entered (h : OwnChain filter) (control : Ipv4Address) (publicAgent : Bool)
    {packet : Packet E} (hpacket : packet.toAgent = true) (depth : Nat) :
    (enterChain (setAgentChain filter (agentRules control publicAgent))).decision
        (FirewallMatch.holds others) (depth + 1) packet =
      if admitted control publicAgent packet.source then .accept else .reject := by
  have hown : OwnChain (setAgentChain filter (agentRules control publicAgent)) :=
    h.setAgentChain fun _ hrule => mem_agentRules hrule
  obtain ⟨rest, hinput, hchains⟩ := enterChain_input hown
  have henter : (enterRule : Rule (FirewallMatch M)).matching.holds others packet = true := by
    change (packet.toAgent && true) = true
    rw [hpacket, Bool.true_and]
  rw [PacketFilter.decision, hinput, walk_jump henter rfl, hchains, setAgentChain_rules,
    Option.getD_some, walk_agentRules hpacket, Option.some_or, Option.getD_some]

end Effect

/-- The script for the agent API, from any filter whose chain is its own: it runs to its end, the
agent then answers those who are admitted and nobody else, and a second run changes nothing. No
part of it changes what happens to other packets. -/
theorem agent_firewall_exact {M E : Type} [DecidableEq M] (others : M → Packet E → Bool)
    (control : Ipv4Address) (publicAgent : Bool) (filter : NodeFilter M) (h : OwnChain filter) :
    ∃ filter', performLines filter (agentFirewall control publicAgent) = some filter' ∧
      OwnChain filter' ∧
      (∀ (packet : Packet E) (depth : Nat), packet.toAgent = true →
        filter'.decision (FirewallMatch.holds others) (depth + 1) packet =
          if admitted control publicAgent packet.source then .accept else .reject) ∧
      (∀ n part, performLines filter ((agentFirewall control publicAgent).take n) =
          some part → ∀ (packet : Packet E) (depth : Nat), packet.toAgent = false →
        part.decision (FirewallMatch.holds others) depth packet =
          filter.decision (FirewallMatch.holds others) depth packet) ∧
      performLines filter' (agentFirewall control publicAgent) = some filter' := by
  have hrun := performLines_agentFirewall filter control publicAgent
  have hset : OwnChain (setAgentChain filter (agentRules control publicAgent)) :=
    h.setAgentChain fun _ hrule => mem_agentRules hrule
  have hkept : FilterKept others filter _ := performLines_kept h hrun
  refine ⟨_, hrun, hkept.own, fun packet depth hpacket => ?_, fun n part hpartial packet depth
    hpacket => ?_, ?_⟩
  · exact decision_entered h control publicAgent hpacket depth
  · have hkept' : FilterKept others filter part := performLines_kept h hpartial
    exact hkept'.decision packet depth hpacket
  · obtain ⟨rest, hinput, hchains⟩ := enterChain_input hset
    rw [performLines_agentFirewall, setAgentChain_self (by rw [hchains, setAgentChain_rules]),
      enterChain, if_pos (by rw [hinput]; exact List.mem_cons_self)]

/-- A node that lets through what goes to port 443, and nothing else. -/
def freshFilter : NodeFilter Nat := ⟨[⟨.other 443, .give .accept⟩], .reject, fun _ => none⟩

def portHolds (port : Nat) (packet : Packet Unit) : Bool := packet.destinationPort == port

def controlAddress : Ipv4Address := ⟨203, 0, 113, 10⟩

theorem agent_firewall_exact_fresh :
    ∃ filter', performLines freshFilter (agentFirewall controlAddress false) = some filter' ∧
      filter'.decision (FirewallMatch.holds portHolds) 1 ⟨true, 8444, ⟨198, 51, 100, 7⟩, ()⟩ =
        .reject ∧
      filter'.decision (FirewallMatch.holds portHolds) 1 ⟨true, 443, ⟨198, 51, 100, 7⟩, ()⟩ =
        .accept := by
  have hown : OwnChain freshFilter := ⟨fun _ hrule => absurd hrule List.not_mem_nil, by decide⟩
  obtain ⟨filter', hrun, -, hagent, hothers, -⟩ :=
    agent_firewall_exact portHolds controlAddress false freshFilter hown
  exact ⟨filter', hrun, hagent ⟨true, 8444, ⟨198, 51, 100, 7⟩, ()⟩ 0 rfl,
    hothers 5 filter' hrun ⟨true, 443, ⟨198, 51, 100, 7⟩, ()⟩ 1 rfl⟩

end AegisVPN
