import AegisVPN.Library.Urls
import AegisVPN.Bot.AutoselectProbe

namespace AegisVPN
open Library
set_option autoImplicit true

/-! ## Links as texts -/

def Link.netloc (link : Link) : List Char :=
  let address := link.host.toList ++ ':' :: link.port.elim "None".toList (Nat.toDigits 10)
  if link.userinfo = "" then address else link.userinfo.toList ++ '@' :: address

/-- The text of a link, as the bot puts it together. -/
def Link.text (link : Link) : List Char :=
  urlunsplit ⟨link.scheme.toList, link.netloc, link.path.toList, urlencode link.query,
    link.fragment.toList⟩

section Read
variable (texts : TextOps) (replaced : List UInt8 → String)

/-- The parts of a VLESS link; `none` where `urlsplit` or the port raises. -/
def readVless (text : List Char) : Option Link := do
  let parts ← urlsplit text
  let (userinfo, hostinfo) := splitUserinfo parts.netloc
  let port ← readPort (partitionAt ':' hostinfo).2
  return ⟨"vless", String.ofList (partitionAt ':' (userinfo.getD [])).1,
    texts.lower (String.ofList (partitionAt ':' hostinfo).1), port, String.ofList parts.path,
    parseQsl replaced parts.query, unquote replaced parts.fragment⟩

/-- The parts of a Hysteria link; the inner `none` is a port that is no number. A range of ports
counts with its first. -/
def readHy2 (text : List Char) : Option (Option Link) := do
  let parts ← urlsplit text
  let (userinfo, hostpart) :=
    if '@' ∈ parts.netloc then partitionAt '@' parts.netloc else ([], parts.netloc)
  let port := if ':' ∈ hostpart then (partitionAt ',' (partitionAt ':' hostpart).2).1
    else "443".toList
  return if port ≠ [] ∧ port.all Char.isDigit then
      some ⟨"hysteria2", String.ofList userinfo, String.ofList (partitionAt ':' hostpart).1,
        some (Nat.ofDigitChars 10 port 0), String.ofList parts.path,
        parseQsl replaced parts.query, unquote replaced parts.fragment⟩
    else none

/-- What a part of a network location is made of that needs no quoting: the UUIDs, the IPv4
addresses and the names of hosts are. -/
def Unquoted (text : String) : Prop := ∀ c ∈ text.toList, isUnreserved c = true

theorem Unquoted.not_mem {text : String} (h : Unquoted text) {c : Char}
    (hc : isUnreserved c = false) : c ∉ text.toList := fun hmem =>
  Bool.false_ne_true (hc.symm.trans (h c hmem))

/-- A link that the parsers read as it is. -/
structure Link.Readable (link : Link) (port : Nat) : Prop where
  path : link.path = ""
  query : link.query ≠ []
  userinfo : Unquoted link.userinfo
  named : link.userinfo ≠ ""
  host : Unquoted link.host
  bound : port ≤ 65535
  port : link.port = some port

variable {link : Link} {port : Nat}

theorem Link.Readable.netloc (h : link.Readable port) : link.netloc =
    link.userinfo.toList ++ '@' :: (link.host.toList ++ ':' :: Nat.toDigits 10 port) := by
  rw [Link.netloc, if_neg h.named, h.port]
  rfl

theorem digits_not_mem {n : Nat} {c : Char} (hc : c.isDigit = false) : c ∉ Nat.toDigits 10 n :=
  fun hmem => Bool.false_ne_true (hc.symm.trans (toDigits_isDigit hmem))

theorem Link.Readable.not_mem_address (h : link.Readable port) {c : Char}
    (hc : isUnreserved c = false) (hcolon : c ≠ ':') (hdigit : c.isDigit = false) :
    c ∉ link.host.toList ++ ':' :: Nat.toDigits 10 port := by
  simp only [List.mem_append, List.mem_cons, not_or]
  exact ⟨h.host.not_mem hc, hcolon, digits_not_mem hdigit⟩

theorem Link.Readable.plain (h : link.Readable port) : PlainNetloc link.netloc := by
  have hnot : ∀ c, isUnreserved c = false → c ≠ '@' → c ≠ ':' → c.isDigit = false →
      c ∉ link.netloc := by
    intro c hc hat hcolon hdigit hmem
    rw [h.netloc] at hmem
    rcases List.mem_append.1 hmem with hmem | hmem
    · exact h.userinfo.not_mem hc hmem
    · rcases List.mem_cons.1 hmem with hmem | hmem
      · exact hat hmem
      · exact h.not_mem_address hc hcolon hdigit hmem
  have hends : ∀ c ∈ ['/', '?', '#', '[', ']', '\t', '\r', '\n'], c ∉ link.netloc := by
    intro c hc
    have hall : isUnreserved c = false ∧ c ≠ '@' ∧ c ≠ ':' ∧ c.isDigit = false := by
      simp only [List.mem_cons, List.not_mem_nil, or_false] at hc
      rcases hc with rfl | rfl | rfl | rfl | rfl | rfl | rfl | rfl <;> decide
    exact hnot c hall.1 hall.2.1 hall.2.2.1 hall.2.2.2
  intro c hc
  have hfalse : ∀ l : List Char, (∀ d ∈ l, d ∉ link.netloc) → l.contains c = false := by
    intro l hl
    rw [← Bool.not_eq_true, List.contains_iff_mem]
    exact fun hmem => hl c hmem hc
  refine ⟨hfalse _ ?_, ?_, ?_, hfalse _ ?_⟩
  · exact fun d hd => hends d (List.mem_append_left ['[', ']', '\t', '\r', '\n'] hd)
  · rintro rfl
    exact hends _ (by simp) hc
  · rintro rfl
    exact hends _ (by simp) hc
  · exact fun d hd => hends d (List.mem_append_right ['/', '?', '#', '[', ']'] hd)

theorem urlencode_ne_nil {query : List (String × String)} (h : query ≠ []) :
    urlencode query ≠ [] := by
  intro hempty
  have hread := parseQsl_urlencode (fun _ => "") query
  rw [hempty] at hread
  exact h hread.symm

theorem urlencode_clean (query : List (String × String)) :
    ∀ c ∈ urlencode query, c ≠ '#' ∧ isLineEnd c = false := by
  intro c hc
  have hq := mem_urlencode hc
  constructor
  · rintro rfl
    revert hq
    decide
  · rcases hq with hq | rfl | rfl | rfl | rfl
    · exact isLineEnd_eq_false hq (by decide)
    · decide
    · decide
    · decide
    · decide

/-- The schemes of links. -/
def PlainScheme (scheme : String) : Prop :=
  scheme.toList.head?.any Char.isAlpha = true ∧ scheme.toList.all isSchemeChar = true ∧
    scheme.toList.map Char.toLower = scheme.toList

theorem plainScheme {scheme : String} (h : scheme = "vless" ∨ scheme = "hysteria2") :
    PlainScheme scheme := by
  rcases h with rfl | rfl
  · exact ⟨by decide, by decide, by decide⟩
  · exact ⟨by decide, by decide, by decide⟩

theorem Link.Readable.urlsplit_text (h : link.Readable port) (hscheme : PlainScheme link.scheme) :
    urlsplit link.text = some ⟨link.scheme.toList, link.netloc, [], urlencode link.query,
      link.fragment.toList.filter fun c => !isLineEnd c⟩ := by
  rw [Link.text, h.path]
  exact urlsplit_urlunsplit hscheme.1 hscheme.2.1 hscheme.2.2 h.plain (urlencode_ne_nil h.query)
    (urlencode_clean link.query)

/-- What is left of a label. -/
def labelRead (link : Link) : String :=
  unquote replaced (link.fragment.toList.filter fun c => !isLineEnd c)

theorem Link.Readable.userinfo_at (h : link.Readable port) : splitUserinfo link.netloc =
    (some link.userinfo.toList, link.host.toList ++ ':' :: Nat.toDigits 10 port) := by
  rw [h.netloc]
  exact splitUserinfo_at (h.not_mem_address (by decide) (by decide) (by decide)) _

theorem Link.Readable.hostinfo (h : link.Readable port) :
    partitionAt ':' (link.host.toList ++ ':' :: Nat.toDigits 10 port) =
      (link.host.toList, Nat.toDigits 10 port) :=
  partitionAt_before (h.host.not_mem (by decide)) _

/-- A VLESS link is read as it is, with the name of its host in lower case. -/
theorem readVless_text (h : link.Readable port) (hscheme : link.scheme = "vless") :
    readVless texts replaced link.text = some { link with
      host := texts.lower link.host
      fragment := labelRead replaced link } := by
  have huser : partitionAt ':' link.userinfo.toList = (link.userinfo.toList, []) :=
    partitionAt_none (h.userinfo.not_mem (by decide))
  obtain ⟨scheme, userinfo, host, port', path, query, fragment⟩ := link
  simp only [readVless, h.urlsplit_text (plainScheme (.inl hscheme)), Option.bind_eq_bind,
    Option.bind_some, h.userinfo_at, h.hostinfo, readPort_toDigits h.bound, Option.getD_some, huser,
    String.ofList_toList, parseQsl_urlencode, labelRead, String.ofList_nil]
  have hport := h.port
  have hpath := h.path
  simp only at hscheme hport hpath
  subst hscheme hport hpath
  rfl

theorem readHy2_text (h : link.Readable port) (hscheme : link.scheme = "hysteria2") :
    readHy2 replaced link.text = some (some { link with fragment := labelRead replaced link }) := by
  have hat : '@' ∈ link.netloc := by
    rw [h.netloc]
    exact List.mem_append_right _ List.mem_cons_self
  have huser : partitionAt '@' link.netloc =
      (link.userinfo.toList, link.host.toList ++ ':' :: Nat.toDigits 10 port) := by
    rw [h.netloc]
    exact partitionAt_before (h.userinfo.not_mem (by decide)) _
  have hcolon : ':' ∈ link.host.toList ++ ':' :: Nat.toDigits 10 port :=
    List.mem_append_right _ List.mem_cons_self
  have hrange : partitionAt ',' (Nat.toDigits 10 port) = (Nat.toDigits 10 port, []) :=
    partitionAt_none (digits_not_mem (by decide))
  have hdigits : Nat.toDigits 10 port ≠ [] ∧ (Nat.toDigits 10 port).all Char.isDigit = true :=
    ⟨Nat.toDigits_ne_nil, List.all_eq_true.2 fun c hc => toDigits_isDigit hc⟩
  obtain ⟨scheme, userinfo, host, port', path, query, fragment⟩ := link
  simp only [readHy2, h.urlsplit_text (plainScheme (.inr hscheme)), Option.bind_eq_bind,
    Option.bind_some, if_pos hat, huser, if_pos hcolon, h.hostinfo, hrange, if_pos hdigits,
    Nat.ofDigitChars_ten_toDigits,
    String.ofList_toList, parseQsl_urlencode, labelRead, String.ofList_nil]
  have hport := h.port
  have hpath := h.path
  simp only at hscheme hport hpath
  subst hscheme hport hpath
  rfl

end Read

/-! ## Configs of texts -/

section Render
variable (site : Site) (replaced : List UInt8 → String)

/-- The config of a link's text: the outer `none` where the parser raises, the inner one where
there is no config. -/
def linkTextToXrayConfig (server : Server D) (text : List Char) : Option (Option ClientConfig) :=
  let location := site.catalog.location server.id
  if "vless://".toList.isPrefixOf text then
    (readVless site.texts replaced text).map fun link =>
      vlessLinkToXrayConfig site.texts link location
  else if "hysteria2://".toList.isPrefixOf text then
    (readHy2 replaced text).map fun link =>
      link.bind fun link => hy2LinkToXrayConfig site.texts link location
  else some none

/-- The loop over the links: it ends at the first that has no config. -/
def xrayConfigsOf : List (Server D × List Char) → Option (Option (List ClientConfig))
  | [] => some (some [])
  | (server, text) :: pairs =>
    match linkTextToXrayConfig site replaced server text with
    | none => none
    | some none => some none
    | some (some config) =>
      (xrayConfigsOf pairs).map fun configs => configs.map fun configs => config :: configs

/-- What `build_xray_json_subscription` returns. -/
inductive XraySubscription
  | json (configs : List ClientConfig)
  | links (body : List (List Char))
  deriving DecidableEq

def buildXrayJsonTexts (pairs : List (Server D × List Char)) : Option XraySubscription :=
  (xrayConfigsOf site replaced pairs).map fun
    | none => .links (pairs.map Prod.snd)
    | some configs =>
      .json ((buildAutoselectConfig site.texts site.loadProbe configs).toList ++ configs)

end Render

end AegisVPN
