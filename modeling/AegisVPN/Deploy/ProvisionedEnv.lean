import AegisVPN.Deploy.LivePatch

namespace AegisVPN
open Library
set_option autoImplicit true

/-! # The environment file of a provisioned agent -/

/-! ## Whole files -/

abbrev EnvValues := List (List Char × List Char)

def renderEnv (env : EnvValues) : List Char := env.flatMap fun p => fieldLine p ++ ['\n']

/-- A value that is read back once it is written. -/
structure PlainField (p : List Char × List Char) : Prop extends PlainUpdate p where
  named : p.1.head? ≠ some '#'
  keyLine : OneLine p.1
  valueLine : OneLine p.2

structure PlainEnv (env : EnvValues) : Prop where
  nodup : (env.map Prod.fst).Nodup
  fields : ∀ p ∈ env, PlainField p

theorem splitLines_renderEnv {env : EnvValues} (h : ∀ p ∈ env, PlainField p) :
    splitLines (renderEnv env) = env.map fieldLine := by
  induction env with
  | nil => rfl
  | cons p env ih =>
    have hp := h p List.mem_cons_self
    rw [renderEnv, List.flatMap_cons, List.append_assoc, List.singleton_append,
      splitLines_line (oneLine_field hp.keyLine hp.valueLine), ← renderEnv,
      ih fun q hq => h q (List.mem_cons_of_mem _ hq), List.map_cons]

/-- What is written is read back. -/
theorem parseEnv_renderEnv {env : EnvValues} (h : PlainEnv env) :
    parseEnv (renderEnv env) = env := by
  have hread : ∀ p ∈ env, parseEnvLine (fieldLine p) = some p := by
    intro p hp
    have hfield := h.fields p hp
    rw [parseEnvLine_field hfield.sign hfield.key hfield.value, if_neg hfield.named]
  have hall : (env.map fieldLine).filterMap parseEnvLine = env := by
    rw [List.filterMap_map]
    exact (List.filterMap_congr hread).trans List.filterMap_some
  rw [parseEnv, splitLines_renderEnv h.fields, hall, dictOf_eq h.nodup]

theorem mem_of_strip (h : c ∈ strip text) : c ∈ text := by
  obtain ⟨before, after, heq, -, -⟩ := strip_split text
  rw [heq]
  exact List.mem_append_right _ (List.mem_append_left _ h)

theorem strip_strip (text : List Char) : strip (strip text) = strip text :=
  strip_eq_self (fun _ hc => head_strip hc) fun _ hc => last_strip hc

theorem plainField_of_parse (h : parseEnvLine line = some p) (hline : OneLine line) :
    PlainField p := by
  rw [parseEnvLine_eq] at h
  split at h
  · rename_i hassigns
    cases h
    have hkey : envKey line = strip (line.takeWhile fun c => c != '=') := if_pos hassigns.1
    exact
      { sign := by
          rw [hkey]
          intro hmem
          simpa using List.mem_takeWhile_imp (mem_of_strip hmem)
        key := by
          rw [hkey]
          exact strip_strip _
        value := strip_strip _
        named := hassigns.2
        keyLine := by
          rw [hkey]
          exact fun c hc => hline c ((List.takeWhile_prefix _).subset (mem_of_strip hc))
        valueLine := fun c hc => hline c (mem_of_strip
          ((List.dropWhile_suffix _).subset (List.mem_of_mem_tail (mem_of_strip hc)))) }
  · cases h

theorem plainEnv_parseEnv (blob : List Char) : PlainEnv (parseEnv blob) where
  nodup := dictOf_keys _
  fields := by
    rintro ⟨key, value⟩ hp
    obtain ⟨line, hline, hread⟩ := List.mem_filterMap.1
      (List.mem_reverse.1 (mem_of_lookup (mem_dictOf.1 hp)))
    exact plainField_of_parse hread (oneLine_of_mem_splitLines hline)

/-! ## Changes of values -/

theorem dictGet_setAll {env : EnvValues} (h : PlainEnv env) (fields : EnvValues) (key : List Char) :
    dictGet (fields.foldl dictSet env) key = (dictGet fields.reverse key).or (dictGet env key) :=
  (foldl_dictSet_spec h.nodup).2 key

theorem PlainEnv.setAll {env fields : EnvValues} (h : PlainEnv env)
    (hfields : ∀ p ∈ fields, PlainField p) : PlainEnv (fields.foldl dictSet env) where
  nodup := (foldl_dictSet_spec h.nodup).1
  fields := by
    rintro ⟨key, value⟩ hp
    have hget : dictGet (fields.foldl dictSet env) key = some value :=
      (lookup_eq_some_iff (foldl_dictSet_spec h.nodup).1).2 hp
    rw [dictGet_setAll h, Option.or_eq_some_iff] at hget
    rcases hget with hnew | ⟨-, hold⟩
    · exact hfields _ (List.mem_reverse.1 (mem_of_dictGet hnew))
    · exact h.fields _ (mem_of_dictGet hold)

theorem PlainEnv.setAll_self {env fields : EnvValues} (h : PlainEnv env)
    (hhas : ∀ p ∈ fields, dictGet env p.1 = some p.2) : fields.foldl dictSet env = env :=
  foldl_dictSet_self h.nodup fun p hp => mem_of_dictGet (hhas p hp)

def removeKeys (env : EnvValues) (keys : List (List Char)) : EnvValues :=
  env.filter fun p => !keys.contains p.1

theorem dictGet_removeKeys (env : EnvValues) (keys : List (List Char)) (key : List Char) :
    dictGet (removeKeys env keys) key = if key ∈ keys then none else dictGet env key := by
  rw [removeKeys, dictGet_filter_key env (fun k => !keys.contains k) key]
  by_cases h : key ∈ keys
  · simp [h]
  · simp [h]

theorem PlainEnv.removeKeys {env : EnvValues} (h : PlainEnv env) (keys : List (List Char)) :
    PlainEnv (removeKeys env keys) where
  nodup := h.nodup.sublist (List.filter_sublist.map _)
  fields := fun p hp => h.fields p (List.mem_of_mem_filter hp)

theorem PlainEnv.removeKeys_self {env : EnvValues} (h : PlainEnv env)
    (hnone : ∀ key ∈ keys, dictGet env key = none) : AegisVPN.removeKeys env keys = env := by
  refine List.filter_eq_self.2 fun p hp => ?_
  rw [Bool.not_eq_true', List.contains_eq_mem, decide_eq_false_iff_not]
  intro hkey
  have hsome := dictGet_of_mem h.nodup hp
  rw [hnone p.1 hkey] at hsome
  cases hsome

/-! ## The operations -/

/-- A host name or a secret, as a value of the file. -/
structure EnvToken where
  text : List Char
  ne_nil : text ≠ []
  stripped : strip text = text
  oneLine : OneLine text

inductive XrayNetwork
  | xhttp
  | tcp
  deriving DecidableEq

def XrayNetwork.text : XrayNetwork → List Char
  | .xhttp => "xhttp".toList
  | .tcp => "tcp".toList

inductive XhttpMode
  | auto
  | streamOne
  | streamUp
  | packetUp
  deriving DecidableEq

def XhttpMode.text : XhttpMode → List Char
  | .auto => "auto".toList
  | .streamOne => "stream-one".toList
  | .streamUp => "stream-up".toList
  | .packetUp => "packet-up".toList

def xhttpPathKey : List Char := "XHTTP_PATH".toList
def xhttpModeKey : List Char := "XHTTP_MODE".toList
def connIdleKey : List Char := "XRAY_CONN_IDLE".toList
def networkKey : List Char := "XRAY_NETWORK".toList
def tcpPortKey : List Char := "XRAY_TCP_PORT".toList
def grpcPortKey : List Char := "XRAY_GRPC_PORT".toList
def grpcServiceKey : List Char := "XRAY_GRPC_SERVICE".toList
def hy2EnabledKey : List Char := "HY2_ENABLED".toList
def statsUrlKey : List Char := "HY2_STATS_URL".toList
def statsSecretKey : List Char := "HY2_STATS_SECRET".toList
def serverNameKey : List Char := "REALITY_SERVER_NAME".toList
def realityDestKey : List Char := "REALITY_DEST".toList
def publicKeyKey : List Char := "PUBLIC_KEY".toList
def shortIdKey : List Char := "SHORT_ID".toList

/-- A value unless it is missing or empty. -/
def filled (env : EnvValues) (key : List Char) : Option (List Char) :=
  (dictGet env key).filter fun value => value != []

def setDefault (env : EnvValues) (p : List Char × List Char) : EnvValues :=
  if (dictGet env p.1).isSome then env else dictSet env p

inductive ProvisionError
  | missingKeys (network : XrayNetwork) (pubkey sid : Bool)

/-- The new file, the public key and the short id. -/
def setNetwork (file : List Char) (network : XrayNetwork) (xhttpMode : XhttpMode) :
    Except ProvisionError (List Char × List Char × List Char) :=
  let env := parseEnv file
  let env := if network = .xhttp then
      [(xhttpModeKey, xhttpMode.text), (connIdleKey, "300".toList)].foldl dictSet
        (setDefault env (xhttpPathKey, "/".toList))
    else env
  match filled env publicKeyKey, filled env shortIdKey with
  | some pubkey, some sid =>
    .ok (renderEnv ([(networkKey, network.text)].foldl dictSet env), pubkey, sid)
  | pubkey, sid => .error (.missingKeys network pubkey.isSome sid.isSome)

/-- The secret that is there, or else the drawn one. -/
def statsSecret (env : EnvValues) (drawn : EnvToken) : List Char :=
  (filled env statsSecretKey).getD drawn.text

def hy2Fields (secret : List Char) : EnvValues :=
  [(connIdleKey, "300".toList), (hy2EnabledKey, "true".toList),
    (statsUrlKey, "http://127.0.0.1:9999".toList), (statsSecretKey, secret)]

/-- The new file and the secret. -/
def provisionHy2AgentEnv (file : List Char) (drawn : EnvToken) : List Char × List Char :=
  let env := parseEnv file
  let secret := statsSecret env drawn
  (renderEnv ((hy2Fields secret).foldl dictSet env), secret)

/-- The first name of a list of server names. -/
def firstServerName (env : EnvValues) : List Char :=
  strip ((strip ((dictGet env serverNameKey).getD [])).takeWhile fun c => c != ',')

/-- The node has a server name of its own. -/
def HasServerName (env : EnvValues) : Prop :=
  firstServerName env ≠ [] ∧ firstServerName env ≠ "gateway.icloud.com".toList

instance (env : EnvValues) : Decidable (HasServerName env) :=
  inferInstanceAs (Decidable (_ ∧ _))

def realityFields (sni : EnvToken) : EnvValues :=
  [(serverNameKey, sni.text), (realityDestKey, sni.text ++ ":443".toList)]

def setServerName (geoSni : Option EnvToken) (env : EnvValues) : EnvValues :=
  match geoSni with
  | none => env
  | some sni => if HasServerName env then env else (realityFields sni).foldl dictSet env

/-- The new file and the secret. -/
def provisionAgentEnv (file : List Char) (geoSni : Option EnvToken) (drawn : EnvToken) :
    List Char × List Char :=
  let env := parseEnv file
  let secret := statsSecret env drawn
  let env := ((tcpPortKey, "2053".toList) :: hy2Fields secret).foldl dictSet env
  (renderEnv (setServerName geoSni (removeKeys env [grpcPortKey, grpcServiceKey])), secret)

/-! ## Plain values -/

def ownedKeys : List (List Char) :=
  [xhttpPathKey, xhttpModeKey, connIdleKey, networkKey, tcpPortKey, grpcPortKey, grpcServiceKey,
    hy2EnabledKey, statsUrlKey, statsSecretKey, serverNameKey, realityDestKey]

def isPlainName (key : List Char) : Bool :=
  !key.contains '=' && strip key == key && key.head? != some '#' &&
    key.all fun c => !isLineBreak c

theorem ownedKeys_plain : ownedKeys.all isPlainName = true := by decide

structure PlainValue (value : List Char) : Prop where
  stripped : strip value = value
  oneLine : OneLine value

theorem plainValue_of (h : (strip value == value && value.all fun c => !isLineBreak c) = true) :
    PlainValue value := by
  rw [Bool.and_eq_true, beq_iff_eq] at h
  exact ⟨h.1, oneLine_of_all h.2⟩

theorem EnvToken.plain (token : EnvToken) : PlainValue token.text :=
  ⟨token.stripped, token.oneLine⟩

theorem plainField_owned (hkey : p.1 ∈ ownedKeys) (hvalue : PlainValue p.2) : PlainField p := by
  have hname := List.all_eq_true.1 ownedKeys_plain p.1 hkey
  simp only [isPlainName, Bool.and_eq_true, Bool.not_eq_true', beq_iff_eq, bne_iff_ne,
    List.contains_eq_mem, decide_eq_false_iff_not] at hname
  obtain ⟨⟨⟨hsign, hstrip⟩, hnamed⟩, hline⟩ := hname
  exact
    { sign := hsign
      key := hstrip
      value := hvalue.stripped
      named := hnamed
      keyLine := oneLine_of_all hline
      valueLine := hvalue.oneLine }

/-- Fields that an operation writes. -/
structure OwnedFields (fields : EnvValues) : Prop where
  nodup : (fields.map Prod.fst).Nodup
  owned : ∀ p ∈ fields, p.1 ∈ ownedKeys
  plain : ∀ p ∈ fields, PlainValue p.2

theorem PlainEnv.setOwned {env fields : EnvValues} (h : PlainEnv env)
    (hfields : OwnedFields fields) : PlainEnv (fields.foldl dictSet env) :=
  h.setAll fun p hp => plainField_owned (hfields.owned p hp) (hfields.plain p hp)

theorem dictGet_setAll_mem {env fields : EnvValues} (h : PlainEnv env)
    (hnodup : (fields.map Prod.fst).Nodup) (hp : p ∈ fields) :
    dictGet (fields.foldl dictSet env) p.1 = some p.2 := by
  have hreverse : (fields.reverse.map Prod.fst).Nodup := by
    rw [List.map_reverse]
    exact List.nodup_reverse.2 hnodup
  rw [dictGet_setAll h, dictGet_of_mem hreverse (List.mem_reverse.2 hp)]
  rfl

theorem dictGet_setAll_other {env fields : EnvValues} (h : PlainEnv env)
    (hkey : key ∉ fields.map Prod.fst) :
    dictGet (fields.foldl dictSet env) key = dictGet env key := by
  have hreverse : key ∉ fields.reverse.map Prod.fst := by
    rw [List.map_reverse, List.mem_reverse]
    exact hkey
  rw [dictGet_setAll h, dictGet_eq_none hreverse]
  rfl

theorem hy2Fields_owned (h : PlainValue secret) : OwnedFields (hy2Fields secret) where
  nodup := by
    change [connIdleKey, hy2EnabledKey, statsUrlKey, statsSecretKey].Nodup
    decide
  owned := by
    have hkeys : ∀ key ∈ [connIdleKey, hy2EnabledKey, statsUrlKey, statsSecretKey],
        key ∈ ownedKeys := by decide
    exact fun p hp => hkeys p.1 (List.mem_map_of_mem (f := Prod.fst) hp)
  plain := by
    simp only [hy2Fields, List.forall_mem_cons, List.not_mem_nil, false_imp_iff, implies_true,
      and_true]
    exact ⟨plainValue_of (by decide), plainValue_of (by decide),
      plainValue_of (by decide), h⟩

theorem agentFields_owned (h : PlainValue secret) :
    OwnedFields ((tcpPortKey, "2053".toList) :: hy2Fields secret) where
  nodup := by
    change [tcpPortKey, connIdleKey, hy2EnabledKey, statsUrlKey, statsSecretKey].Nodup
    decide
  owned := List.forall_mem_cons.2 ⟨by decide, (hy2Fields_owned h).owned⟩
  plain := List.forall_mem_cons.2 ⟨plainValue_of (by decide), (hy2Fields_owned h).plain⟩

theorem realityFields_owned (sni : EnvToken) : OwnedFields (realityFields sni) where
  nodup := by
    change [serverNameKey, realityDestKey].Nodup
    decide
  owned := by
    have hkeys : ∀ key ∈ [serverNameKey, realityDestKey], key ∈ ownedKeys := by decide
    exact fun p hp => hkeys p.1 (List.mem_map_of_mem (f := Prod.fst) hp)
  plain := by
    have hport : OneLine ":443".toList := oneLine_of_all (by decide)
    simp only [realityFields, List.forall_mem_cons, List.not_mem_nil, false_imp_iff, implies_true,
      and_true]
    refine ⟨sni.plain, ?_, ?_⟩
    · apply strip_eq_self
      · intro c hc
        obtain ⟨first, rest, htext⟩ := List.exists_cons_of_ne_nil sni.ne_nil
        have hhead : c ∈ (strip sni.text).head? := by
          rw [sni.stripped, htext]
          rw [htext] at hc
          exact hc
        exact head_strip hhead
      · intro c hc
        have hlast : (sni.text ++ ":443".toList).getLast? = some '3' := by
          rw [List.getLast?_append]
          rfl
        rw [hlast] at hc
        cases hc
        rfl
    · intro c hc
      rcases List.mem_append.1 hc with hc | hc
      · exact sni.oneLine c hc
      · exact hport c hc

/-! ## The values after an operation -/

def networkEnv (network : XrayNetwork) (xhttpMode : XhttpMode) (env : EnvValues) : EnvValues :=
  [(networkKey, network.text)].foldl dictSet
    (if network = .xhttp then
      [(xhttpModeKey, xhttpMode.text), (connIdleKey, "300".toList)].foldl dictSet
        (setDefault env (xhttpPathKey, "/".toList))
    else env)

def hy2Env (drawn : EnvToken) (env : EnvValues) : EnvValues :=
  (hy2Fields (statsSecret env drawn)).foldl dictSet env

def agentEnv (geoSni : Option EnvToken) (drawn : EnvToken) (env : EnvValues) : EnvValues :=
  setServerName geoSni (removeKeys
    (((tcpPortKey, "2053".toList) :: hy2Fields (statsSecret env drawn)).foldl dictSet env)
    [grpcPortKey, grpcServiceKey])

theorem setNetwork_file (file : List Char) (network : XrayNetwork) (xhttpMode : XhttpMode) :
    (∃ keys, setNetwork file network xhttpMode =
      .ok (renderEnv (networkEnv network xhttpMode (parseEnv file)), keys)) ∨
    ∃ error, setNetwork file network xhttpMode = .error error := by
  unfold setNetwork
  dsimp only
  split
  · exact .inl ⟨_, rfl⟩
  · exact .inr ⟨_, rfl⟩

theorem network_owned (network : XrayNetwork) :
    OwnedFields [(networkKey, network.text)] where
  nodup := List.nodup_singleton _
  owned := by
    rw [List.forall_mem_singleton]
    change networkKey ∈ ownedKeys
    decide
  plain := by
    rw [List.forall_mem_singleton]
    cases network <;> exact plainValue_of (by decide)

theorem xhttp_owned (xhttpMode : XhttpMode) :
    OwnedFields [(xhttpModeKey, xhttpMode.text), (connIdleKey, "300".toList)] where
  nodup := by
    change [xhttpModeKey, connIdleKey].Nodup
    decide
  owned := by
    have hkeys : ∀ key ∈ [xhttpModeKey, connIdleKey], key ∈ ownedKeys := by decide
    exact fun p hp => hkeys p.1 (List.mem_map_of_mem (f := Prod.fst) hp)
  plain := by
    simp only [List.forall_mem_cons, List.not_mem_nil, false_imp_iff, implies_true, and_true]
    refine ⟨?_, plainValue_of (by decide)⟩
    cases xhttpMode <;> exact plainValue_of (by decide)

theorem path_owned : OwnedFields [(xhttpPathKey, "/".toList)] where
  nodup := List.nodup_singleton _
  owned := by
    rw [List.forall_mem_singleton]
    decide
  plain := by
    rw [List.forall_mem_singleton]
    exact plainValue_of (by decide)

theorem PlainEnv.setDefault {env : EnvValues} (h : PlainEnv env) :
    PlainEnv (setDefault env (xhttpPathKey, "/".toList)) := by
  rw [AegisVPN.setDefault]
  split
  · exact h
  · exact h.setOwned path_owned

theorem dictGet_setDefault {env : EnvValues} (h : PlainEnv env) (hkey : key ≠ p.1) :
    dictGet (setDefault env p) key = dictGet env key := by
  rw [setDefault]
  split
  · rfl
  · have hset : dictGet ([p].foldl dictSet env) key = dictGet env key :=
      dictGet_setAll_other h fun hmem => hkey (List.mem_singleton.1 hmem)
    exact hset

theorem setDefault_isSome (env : EnvValues) (p : List Char × List Char) :
    (dictGet (setDefault env p) p.1).isSome = true := by
  rw [setDefault]
  split
  · assumption
  · rw [dictGet, lookup_dictSet, if_pos rfl]
    rfl

theorem PlainEnv.network {env : EnvValues} (h : PlainEnv env) (network : XrayNetwork)
    (xhttpMode : XhttpMode) : PlainEnv (networkEnv network xhttpMode env) := by
  rw [networkEnv]
  split
  · exact (h.setDefault.setOwned (xhttp_owned xhttpMode)).setOwned (network_owned network)
  · exact h.setOwned (network_owned network)

def networkKeys : List (List Char) := [xhttpPathKey, xhttpModeKey, connIdleKey, networkKey]

theorem dictGet_networkEnv {env : EnvValues} (h : PlainEnv env) (network : XrayNetwork)
    (xhttpMode : XhttpMode) (hkey : key ∉ networkKeys) :
    dictGet (networkEnv network xhttpMode env) key = dictGet env key := by
  simp only [networkKeys, List.mem_cons, List.not_mem_nil, or_false, not_or] at hkey
  obtain ⟨hpath, hmode, hidle, hnetwork⟩ := hkey
  have hlast : key ∉ [(networkKey, network.text)].map Prod.fst := by
    rw [List.map_singleton, List.mem_singleton]
    exact hnetwork
  have hxhttp : key ∉
      [(xhttpModeKey, xhttpMode.text), (connIdleKey, "300".toList)].map Prod.fst := by
    simp only [List.map_cons, List.map_nil, List.mem_cons, List.not_mem_nil, or_false, not_or]
    exact ⟨hmode, hidle⟩
  rw [networkEnv]
  split
  · rw [dictGet_setAll_other (h.setDefault.setOwned (xhttp_owned xhttpMode)) hlast,
      dictGet_setAll_other h.setDefault hxhttp, dictGet_setDefault h hpath]
  · exact dictGet_setAll_other h hlast

theorem networkEnv_again {env : EnvValues} (h : PlainEnv env) (network : XrayNetwork)
    (xhttpMode : XhttpMode) :
    networkEnv network xhttpMode (networkEnv network xhttpMode env) =
      networkEnv network xhttpMode env := by
  have hplain := h.network network xhttpMode
  generalize hmade : networkEnv network xhttpMode env = made at hplain ⊢
  have hlast : ∀ p ∈ [(networkKey, network.text)], dictGet made p.1 = some p.2 := by
    intro p hp
    rw [← hmade, networkEnv]
    split
    · exact dictGet_setAll_mem (h.setDefault.setOwned (xhttp_owned xhttpMode))
        (network_owned network).nodup hp
    · exact dictGet_setAll_mem h (network_owned network).nodup hp
  rw [networkEnv]
  split
  · rename_i hxhttp
    have hother : ∀ key, key ≠ networkKey → dictGet made key =
        dictGet ([(xhttpModeKey, xhttpMode.text), (connIdleKey, "300".toList)].foldl dictSet
          (setDefault env (xhttpPathKey, "/".toList))) key := by
      intro key hkey
      rw [← hmade, networkEnv, if_pos hxhttp]
      exact dictGet_setAll_other (h.setDefault.setOwned (xhttp_owned xhttpMode))
        fun hmem => hkey (List.mem_singleton.1 hmem)
    have hpath : setDefault made (xhttpPathKey, "/".toList) = made := by
      refine if_pos ?_
      rw [hother _ (by decide), dictGet_setAll_other h.setDefault (by
        change xhttpPathKey ∉ [xhttpModeKey, connIdleKey]
        decide)]
      exact setDefault_isSome env (xhttpPathKey, "/".toList)
    have hmode : ∀ p ∈ [(xhttpModeKey, xhttpMode.text), (connIdleKey, "300".toList)],
        dictGet made p.1 = some p.2 := by
      intro p hp
      have hne : ∀ key ∈ [xhttpModeKey, connIdleKey], key ≠ networkKey := by decide
      rw [hother p.1 (hne p.1 (List.mem_map_of_mem (f := Prod.fst) hp))]
      exact dictGet_setAll_mem h.setDefault (xhttp_owned xhttpMode).nodup hp
    rw [hpath, hplain.setAll_self hmode, hplain.setAll_self hlast]
  · exact hplain.setAll_self hlast

theorem filled_eq_some {env : EnvValues} :
    filled env key = some value ↔ dictGet env key = some value ∧ value ≠ [] := by
  rw [filled, Option.filter_eq_some_iff, bne_iff_ne]

theorem statsSecret_spec {env : EnvValues} (h : PlainEnv env) (drawn : EnvToken) :
    PlainValue (statsSecret env drawn) ∧ statsSecret env drawn ≠ [] := by
  rw [statsSecret]
  cases hthere : filled env statsSecretKey with
  | none => exact ⟨drawn.plain, drawn.ne_nil⟩
  | some secret =>
    obtain ⟨hget, hne⟩ := filled_eq_some.1 hthere
    have hfield := h.fields _ (mem_of_dictGet hget)
    exact ⟨⟨hfield.value, hfield.valueLine⟩, hne⟩

theorem statsSecret_of_filled {env : EnvValues} (h : filled env statsSecretKey = some secret)
    (drawn : EnvToken) : statsSecret env drawn = secret := by
  rw [statsSecret, h]
  rfl

theorem PlainEnv.hy2 {env : EnvValues} (h : PlainEnv env) (drawn : EnvToken) :
    PlainEnv (hy2Env drawn env) :=
  h.setOwned (hy2Fields_owned (statsSecret_spec h drawn).1)

def hy2Keys : List (List Char) := [connIdleKey, hy2EnabledKey, statsUrlKey, statsSecretKey]

theorem dictGet_hy2Env {env : EnvValues} (h : PlainEnv env) (drawn : EnvToken)
    (hkey : key ∉ hy2Keys) : dictGet (hy2Env drawn env) key = dictGet env key :=
  dictGet_setAll_other h hkey

theorem filled_hy2Env {env : EnvValues} (h : PlainEnv env) (drawn : EnvToken) :
    filled (hy2Env drawn env) statsSecretKey = some (statsSecret env drawn) := by
  obtain ⟨hplain, hne⟩ := statsSecret_spec h drawn
  have hmem : (statsSecretKey, statsSecret env drawn) ∈ hy2Fields (statsSecret env drawn) := by
    simp [hy2Fields]
  exact filled_eq_some.2 ⟨dictGet_setAll_mem h (hy2Fields_owned hplain).nodup hmem, hne⟩

theorem hy2Env_again {env : EnvValues} (h : PlainEnv env) (drawn redrawn : EnvToken) :
    hy2Env redrawn (hy2Env drawn env) = hy2Env drawn env := by
  have hsecret := statsSecret_of_filled (filled_hy2Env h drawn) redrawn
  rw [hy2Env, hsecret]
  exact (h.hy2 drawn).setAll_self fun p hp =>
    dictGet_setAll_mem h (hy2Fields_owned (statsSecret_spec h drawn).1).nodup hp

/-! ## The server name -/

def grpcKeys : List (List Char) := [grpcPortKey, grpcServiceKey]

def realityKeys : List (List Char) := [serverNameKey, realityDestKey]

def agentKeys : List (List Char) := tcpPortKey :: hy2Keys ++ grpcKeys

/-- The values before the server name is set. -/
def agentBase (drawn : EnvToken) (env : EnvValues) : EnvValues :=
  removeKeys (((tcpPortKey, "2053".toList) :: hy2Fields (statsSecret env drawn)).foldl dictSet env)
    grpcKeys

theorem agentEnv_eq (geoSni : Option EnvToken) (drawn : EnvToken) (env : EnvValues) :
    agentEnv geoSni drawn env = setServerName geoSni (agentBase drawn env) := rfl

theorem PlainEnv.agentBase {env : EnvValues} (h : PlainEnv env) (drawn : EnvToken) :
    PlainEnv (agentBase drawn env) :=
  (h.setOwned (agentFields_owned (statsSecret_spec h drawn).1)).removeKeys grpcKeys

theorem dictGet_agentBase {env : EnvValues} (h : PlainEnv env) (drawn : EnvToken)
    (hkey : key ∉ agentKeys) : dictGet (agentBase drawn env) key = dictGet env key := by
  rw [agentKeys, List.mem_append, not_or] at hkey
  rw [agentBase, dictGet_removeKeys, if_neg hkey.2]
  exact dictGet_setAll_other h hkey.1

theorem agentFields_key (hp : p ∈ (tcpPortKey, "2053".toList) :: hy2Fields secret) :
    p.1 ∈ tcpPortKey :: hy2Keys :=
  List.mem_map_of_mem (f := Prod.fst) hp

theorem dictGet_agentBase_mem {env : EnvValues} (h : PlainEnv env) (drawn : EnvToken)
    (hp : p ∈ (tcpPortKey, "2053".toList) :: hy2Fields (statsSecret env drawn)) :
    dictGet (agentBase drawn env) p.1 = some p.2 := by
  have hkeys : ∀ key ∈ tcpPortKey :: hy2Keys, key ∉ grpcKeys := by decide
  rw [agentBase, dictGet_removeKeys, if_neg (hkeys p.1 (agentFields_key hp))]
  exact dictGet_setAll_mem h (agentFields_owned (statsSecret_spec h drawn).1).nodup hp

theorem HasServerName.of_eq {env other : EnvValues} (h : HasServerName env)
    (hname : dictGet other serverNameKey = dictGet env serverNameKey) : HasServerName other := by
  rw [HasServerName, firstServerName, hname]
  exact h

theorem setServerName_of_has {env : EnvValues} (h : HasServerName env)
    (geoSni : Option EnvToken) : setServerName geoSni env = env := by
  cases geoSni with
  | none => rfl
  | some sni => exact if_pos h

theorem setServerName_of_not {env : EnvValues} (h : ¬ HasServerName env) (sni : EnvToken) :
    setServerName (some sni) env = (realityFields sni).foldl dictSet env :=
  if_neg h

theorem PlainEnv.setServerName {env : EnvValues} (h : PlainEnv env) (geoSni : Option EnvToken) :
    PlainEnv (setServerName geoSni env) := by
  cases geoSni with
  | none => exact h
  | some sni =>
    rw [AegisVPN.setServerName]
    split
    · exact h
    · exact h.setOwned (realityFields_owned sni)

theorem dictGet_setServerName {env : EnvValues} (h : PlainEnv env) (geoSni : Option EnvToken)
    (hkey : key ∉ realityKeys) : dictGet (setServerName geoSni env) key = dictGet env key := by
  cases geoSni with
  | none => rfl
  | some sni =>
    rw [setServerName]
    split
    · rfl
    · exact dictGet_setAll_other h hkey

theorem setServerName_again {env : EnvValues} (h : PlainEnv env) (geoSni : Option EnvToken) :
    setServerName geoSni (setServerName geoSni env) = setServerName geoSni env := by
  by_cases hhas : HasServerName env
  · rw [setServerName_of_has hhas, setServerName_of_has hhas]
  · cases geoSni with
    | none => rfl
    | some sni =>
      by_cases hthen : HasServerName (setServerName (some sni) env)
      · exact setServerName_of_has hthen _
      · rw [setServerName_of_not hthen]
        refine (h.setServerName (some sni)).setAll_self fun p hp => ?_
        rw [setServerName_of_not hhas]
        exact dictGet_setAll_mem h (realityFields_owned sni).nodup hp

theorem PlainEnv.agent {env : EnvValues} (h : PlainEnv env) (geoSni : Option EnvToken)
    (drawn : EnvToken) : PlainEnv (agentEnv geoSni drawn env) :=
  (h.agentBase drawn).setServerName geoSni

theorem filled_agentEnv {env : EnvValues} (h : PlainEnv env) (geoSni : Option EnvToken)
    (drawn : EnvToken) :
    filled (agentEnv geoSni drawn env) statsSecretKey = some (statsSecret env drawn) := by
  have hmem : (statsSecretKey, statsSecret env drawn) ∈
      (tcpPortKey, "2053".toList) :: hy2Fields (statsSecret env drawn) := by
    simp [hy2Fields]
  refine filled_eq_some.2 ⟨?_, (statsSecret_spec h drawn).2⟩
  rw [agentEnv_eq, dictGet_setServerName (h.agentBase drawn) geoSni (by decide)]
  exact dictGet_agentBase_mem h drawn hmem

theorem agentEnv_again {env : EnvValues} (h : PlainEnv env) (geoSni : Option EnvToken)
    (drawn redrawn : EnvToken) :
    agentEnv geoSni redrawn (agentEnv geoSni drawn env) = agentEnv geoSni drawn env := by
  have hplain := h.agent geoSni drawn
  have hsecret := statsSecret_of_filled (filled_agentEnv h geoSni drawn) redrawn
  have hkept : ∀ key ∉ realityKeys, dictGet (agentEnv geoSni drawn env) key =
      dictGet (agentBase drawn env) key :=
    fun key hkey => dictGet_setServerName (h.agentBase drawn) geoSni hkey
  have hbase : agentBase redrawn (agentEnv geoSni drawn env) = agentEnv geoSni drawn env := by
    have hset : ((tcpPortKey, "2053".toList) :: hy2Fields (statsSecret env drawn)).foldl dictSet
        (agentEnv geoSni drawn env) = agentEnv geoSni drawn env := by
      refine hplain.setAll_self fun p hp => ?_
      have hkeys : ∀ key ∈ tcpPortKey :: hy2Keys, key ∉ realityKeys := by decide
      rw [hkept p.1 (hkeys p.1 (agentFields_key hp))]
      exact dictGet_agentBase_mem h drawn hp
    rw [agentBase, hsecret, hset]
    refine hplain.removeKeys_self fun key hkey => ?_
    have hkeys : ∀ key ∈ grpcKeys, key ∉ realityKeys := by decide
    rw [hkept key (hkeys key hkey), agentBase, dictGet_removeKeys, if_pos hkey]
  rw [agentEnv_eq, hbase, agentEnv_eq]
  exact setServerName_again (h.agentBase drawn) geoSni

/-! ## Steps -/

inductive ProvisionStep
  | stability
  | network (transport : XrayNetwork) (xhttpMode : XhttpMode)
  | hy2 (drawn : EnvToken)
  | agent (geoSni : Option EnvToken) (drawn : EnvToken)

/-- The file after a step, and the secret that the step hands on. -/
def ProvisionStep.perform (file : List Char) : ProvisionStep → List Char × Option (List Char)
  | .stability => (updateEnvValues file connIdleUpdates, none)
  | .network transport xhttpMode =>
    match setNetwork file transport xhttpMode with
    | .ok made => (made.1, none)
    | .error _ => (file, none)
  | .hy2 drawn =>
    let made := provisionHy2AgentEnv file drawn
    (made.1, some made.2)
  | .agent geoSni drawn =>
    let made := provisionAgentEnv file geoSni drawn
    (made.1, some made.2)

/-- The same step when another secret is drawn. -/
def ProvisionStep.redrawn (drawn : EnvToken) : ProvisionStep → ProvisionStep
  | .stability => .stability
  | .network transport xhttpMode => .network transport xhttpMode
  | .hy2 _ => .hy2 drawn
  | .agent geoSni _ => .agent geoSni drawn

/-- The file after all steps, and the secrets that were handed on. -/
def provisionRun (file : List Char) : List ProvisionStep → List Char × List (List Char)
  | [] => (file, [])
  | step :: steps =>
    let made := step.perform file
    let rest := provisionRun made.1 steps
    (rest.1, made.2.toList ++ rest.2)

/-- What steps leave as it is. -/
structure ValuesKept (before after : EnvValues) : Prop where
  others : ∀ key ∉ ownedKeys, dictGet after key = dictGet before key
  secret : ∀ secret, filled before statsSecretKey = some secret →
    filled after statsSecretKey = some secret
  serverName : HasServerName before → ∀ key ∈ realityKeys, dictGet after key = dictGet before key

theorem ValuesKept.trans (h : ValuesKept before between) (h' : ValuesKept between after) :
    ValuesKept before after where
  others := fun key hkey => (h'.others key hkey).trans (h.others key hkey)
  secret := fun secret hsecret => h'.secret secret (h.secret secret hsecret)
  serverName := fun hname key hkey => by
    have hbetween : HasServerName between :=
      hname.of_eq (h.serverName hname _ List.mem_cons_self)
    exact (h'.serverName hbetween key hkey).trans (h.serverName hname key hkey)

theorem ValuesKept.of_frame {before after : EnvValues} (keys : List (List Char))
    (hframe : ∀ key ∉ keys, dictGet after key = dictGet before key)
    (howned : ∀ key ∈ keys, key ∈ ownedKeys)
    (hsecret : ∀ secret, filled before statsSecretKey = some secret →
      filled after statsSecretKey = some secret)
    (hreality : ∀ key ∈ realityKeys, key ∉ keys) : ValuesKept before after where
  others := fun key hkey => hframe key fun hmem => hkey (howned key hmem)
  secret := hsecret
  serverName := fun _ key hkey => hframe key (hreality key hkey)

theorem dictGet_stability (file : List Char) (hkey : key ≠ connIdleKey) :
    dictGet (parseEnv (updateEnvValues file connIdleUpdates)) key =
      dictGet (parseEnv file) key := by
  have hnone : dictGet connIdleUpdates.values key = none :=
    dictGet_eq_none fun hmem => hkey (List.mem_singleton.1 hmem)
  rw [dictGet_updateEnvValues, valueIn_updateLines_other connIdleUpdates.remaining hnone,
    dictGet_parseEnv]

theorem filled_of_eq {before after : EnvValues}
    (h : dictGet after statsSecretKey = dictGet before statsSecretKey) (secret : List Char)
    (hsecret : filled before statsSecretKey = some secret) :
    filled after statsSecretKey = some secret := by
  rw [filled, h]
  exact hsecret

theorem agentEnv_kept {env : EnvValues} (h : PlainEnv env) (geoSni : Option EnvToken)
    (drawn : EnvToken) : ValuesKept env (agentEnv geoSni drawn env) where
  others := fun key hkey => by
    have howned : ∀ other ∈ realityKeys ++ agentKeys, other ∈ ownedKeys := by decide
    have hreality : key ∉ realityKeys :=
      fun hmem => hkey (howned key (List.mem_append_left _ hmem))
    have hagent : key ∉ agentKeys := fun hmem => hkey (howned key (List.mem_append_right _ hmem))
    rw [agentEnv_eq, dictGet_setServerName (h.agentBase drawn) geoSni hreality,
      dictGet_agentBase h drawn hagent]
  secret := fun secret hsecret => by
    rw [filled_agentEnv h, statsSecret_of_filled hsecret]
  serverName := fun hname key hkey => by
    have hagent : ∀ other ∈ realityKeys, other ∉ agentKeys := by decide
    have hbase : HasServerName (agentBase drawn env) :=
      hname.of_eq (dictGet_agentBase h drawn (hagent _ List.mem_cons_self))
    rw [agentEnv_eq, setServerName_of_has hbase, dictGet_agentBase h drawn (hagent key hkey)]

theorem perform_hy2 (file : List Char) (drawn : EnvToken) :
    (ProvisionStep.hy2 drawn).perform file =
      (renderEnv (hy2Env drawn (parseEnv file)), some (statsSecret (parseEnv file) drawn)) := rfl

theorem perform_agent (file : List Char) (geoSni : Option EnvToken) (drawn : EnvToken) :
    (ProvisionStep.agent geoSni drawn).perform file =
      (renderEnv (agentEnv geoSni drawn (parseEnv file)),
        some (statsSecret (parseEnv file) drawn)) := rfl

theorem provision_kept (file : List Char) (step : ProvisionStep) :
    ValuesKept (parseEnv file) (parseEnv (step.perform file).1) := by
  have hplain := plainEnv_parseEnv file
  cases step with
  | stability =>
    have hframe : ∀ key ∉ [connIdleKey],
        dictGet (parseEnv (updateEnvValues file connIdleUpdates)) key =
          dictGet (parseEnv file) key :=
      fun key hkey => dictGet_stability file fun heq => hkey (heq ▸ List.mem_singleton_self _)
    change ValuesKept _ (parseEnv (updateEnvValues file connIdleUpdates))
    exact .of_frame [connIdleKey] hframe (by decide)
      (filled_of_eq (hframe statsSecretKey (by decide))) (by decide)
  | network transport xhttpMode =>
    rw [ProvisionStep.perform]
    rcases setNetwork_file file transport xhttpMode with ⟨keys, hmade⟩ | ⟨error, hmade⟩
    · rw [hmade]
      dsimp only
      rw [parseEnv_renderEnv (hplain.network transport xhttpMode)]
      exact .of_frame networkKeys
        (fun key hkey => dictGet_networkEnv hplain transport xhttpMode hkey)
        (by decide)
        (filled_of_eq (dictGet_networkEnv hplain transport xhttpMode (by decide)))
        (by decide)
    · rw [hmade]
      exact ⟨fun _ _ => rfl, fun _ h => h, fun _ _ _ => rfl⟩
  | hy2 drawn =>
    rw [perform_hy2]
    dsimp only
    rw [parseEnv_renderEnv (hplain.hy2 drawn)]
    refine .of_frame hy2Keys (fun key hkey => dictGet_hy2Env hplain drawn hkey)
      (by decide) (fun secret hsecret => ?_) (by decide)
    rw [filled_hy2Env hplain, statsSecret_of_filled hsecret]
  | agent geoSni drawn =>
    rw [perform_agent]
    dsimp only
    rw [parseEnv_renderEnv (hplain.agent geoSni drawn)]
    exact agentEnv_kept hplain geoSni drawn

/-- The secret that a step hands on is the one in the file. -/
theorem perform_secret (file : List Char) (step : ProvisionStep)
    (hsecret : secret ∈ (step.perform file).2) :
    filled (parseEnv (step.perform file).1) statsSecretKey = some secret := by
  have hplain := plainEnv_parseEnv file
  cases step with
  | stability =>
    rw [ProvisionStep.perform] at hsecret
    cases hsecret
  | network transport xhttpMode =>
    rw [ProvisionStep.perform] at hsecret
    split at hsecret <;> cases hsecret
  | hy2 drawn =>
    rw [perform_hy2] at hsecret ⊢
    cases hsecret
    dsimp only
    rw [parseEnv_renderEnv (hplain.hy2 drawn), filled_hy2Env hplain]
  | agent geoSni drawn =>
    rw [perform_agent] at hsecret ⊢
    cases hsecret
    dsimp only
    rw [parseEnv_renderEnv (hplain.agent geoSni drawn), filled_agentEnv hplain]

theorem perform_again (file : List Char) (step : ProvisionStep) (drawn : EnvToken) :
    (step.redrawn drawn).perform (step.perform file).1 = step.perform file := by
  have hplain := plainEnv_parseEnv file
  cases step with
  | stability =>
    rw [ProvisionStep.redrawn, ProvisionStep.perform, ProvisionStep.perform,
      updateEnvValues_again file connIdleUpdates]
  | network transport xhttpMode =>
    rw [ProvisionStep.redrawn, ProvisionStep.perform, ProvisionStep.perform]
    rcases setNetwork_file file transport xhttpMode with ⟨keys, hmade⟩ | ⟨error, hmade⟩
    · rw [hmade]
      dsimp only
      rcases setNetwork_file (renderEnv (networkEnv transport xhttpMode (parseEnv file))) transport
        xhttpMode with ⟨keys', hagain⟩ | ⟨error, hagain⟩
      · rw [hagain, parseEnv_renderEnv (hplain.network transport xhttpMode),
          networkEnv_again hplain]
      · rw [hagain]
    · rw [hmade]
      dsimp only
      rw [hmade]
  | hy2 first =>
    rw [ProvisionStep.redrawn, perform_hy2, perform_hy2]
    dsimp only
    rw [parseEnv_renderEnv (hplain.hy2 first), hy2Env_again hplain,
      statsSecret_of_filled (filled_hy2Env hplain first)]
  | agent geoSni first =>
    rw [ProvisionStep.redrawn, perform_agent, perform_agent]
    dsimp only
    rw [parseEnv_renderEnv (hplain.agent geoSni first), agentEnv_again hplain,
      statsSecret_of_filled (filled_agentEnv hplain geoSni first)]

theorem provisionRun_kept (file : List Char) (steps : List ProvisionStep) :
    ValuesKept (parseEnv file) (parseEnv (provisionRun file steps).1) := by
  induction steps generalizing file with
  | nil => exact ⟨fun _ _ => rfl, fun _ h => h, fun _ _ _ => rfl⟩
  | cons step steps ih => exact (provision_kept file step).trans (ih _)

theorem provisionRun_secret (file : List Char) (steps : List ProvisionStep)
    (hsecret : secret ∈ (provisionRun file steps).2) :
    filled (parseEnv (provisionRun file steps).1) statsSecretKey = some secret := by
  induction steps generalizing file with
  | nil => cases hsecret
  | cons step steps ih =>
    rcases List.mem_append.1 hsecret with hfirst | hrest
    · exact (provisionRun_kept _ steps).secret secret
        (perform_secret file step (Option.mem_toList.1 hfirst))
    · exact ih _ hrest

/-- However a node is provisioned, in any order and from any file: values of other keys stay, as do
a secret that is there and a server name of the node's own. Every secret that was handed on is the
one in the file. A step that is repeated changes nothing. -/
theorem provisioned_env :
    (∀ file steps, ValuesKept (parseEnv file) (parseEnv (provisionRun file steps).1) ∧
      ∀ secret ∈ (provisionRun file steps).2,
        filled (parseEnv (provisionRun file steps).1) statsSecretKey = some secret) ∧
    ∀ file step drawn,
      (ProvisionStep.redrawn drawn step).perform (step.perform file).1 = step.perform file :=
  ⟨fun file steps => ⟨provisionRun_kept file steps,
    fun _ hsecret => provisionRun_secret file steps hsecret⟩, perform_again⟩

end AegisVPN
