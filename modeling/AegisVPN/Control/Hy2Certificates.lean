import AegisVPN.Agent.CertificateSync
import AegisVPN.Agent.ControlClient
import AegisVPN.Library.TextLines

namespace AegisVPN
open Library
set_option autoImplicit true

/-! # The certificates that the control plane hands out -/

/-- The columns of a server that its certificate depends on. -/
structure Hy2Node where
  id : Nat
  isActive : Bool
  hy2Enabled : Bool
  hy2Port : Option Nat
  hy2Sni : Option String
  deriving DecidableEq

def Hy2Node.hy2Capable (node : Hy2Node) : Bool :=
  node.hy2Enabled && node.hy2Port.any (fun port => port != 0) &&
    node.hy2Sni.any fun sni => sni != ""

/-- The exceptions of a PEM loader. An encrypted private key is no `ValueError`. -/
inductive PemError
  | value
  | type
  deriving DecidableEq

/-- What the cryptography library says of PEM bytes, and how names are lowered. -/
structure PemLibrary (Certificate PrivateKey : Type) where
  lower : Lowering
  loadCertificate : ByteArray → Except PemError Certificate
  loadPrivateKey : ByteArray → Except PemError PrivateKey
  certificatePublicBytes : Certificate → List UInt8
  keyPublicBytes : PrivateKey → List UInt8
  dnsNames : Certificate → List String
  notValidAfter : Certificate → Int
  fingerprint : Certificate → String

/-- The same library on a node, which encodes the texts that it receives. -/
def PemLibrary.ofTexts (lib : PemLibrary C K) : CertificateLibrary C K where
  lower := lib.lower
  loadCertificate text := (lib.loadCertificate text.toUTF8).toOption
  loadPrivateKey text := (lib.loadPrivateKey text.toUTF8).toOption
  certificatePublicBytes := lib.certificatePublicBytes
  keyPublicBytes := lib.keyPublicBytes
  dnsNames := lib.dnsNames
  notValidAfter := lib.notValidAfter
  fingerprint := lib.fingerprint

/-- The three files of a bundle, as far as they are there. -/
structure BundleDirectory where
  certificate : Option ByteArray
  privateKey : Option ByteArray
  hostname : Option ByteArray

structure Hy2CertificateBundle where
  certificate : String
  privateKey : String
  hostname : String
  fingerprint : String
  notAfter : Int
  deriving DecidableEq

/-- The exceptions that the endpoint catches, and the others. -/
inductive LoadError
  | invalid
  | uncaught
  deriving DecidableEq

def PemError.load : PemError → LoadError
  | .value => .invalid
  | .type => .uncaught

def readBounded (maximum : Nat) : Option ByteArray → Except LoadError ByteArray
  | none => .error .invalid
  | some data => if data.size = 0 ∨ maximum < data.size then .error .invalid else .ok data

def decodeUtf8 (data : ByteArray) : Except LoadError String :=
  match String.fromUTF8? data with
  | some text => .ok text
  | none => .error .invalid

/-- The directory of the certificates: the bundle of all nodes, and those of single nodes. -/
structure CertificateStore where
  root : BundleDirectory
  node : Nat → Option BundleDirectory

inductive Hy2CertificateResponse
  | disabled
  | perNodeRequired
  | unavailable
  | hostnameMismatch
  | shared
  | serverError
  | bundle (bundle : Hy2CertificateBundle)
  deriving DecidableEq

def Hy2CertificateResponse.status : Hy2CertificateResponse → Nat
  | .disabled => 404
  | .perNodeRequired | .hostnameMismatch | .shared => 409
  | .unavailable => 503
  | .serverError => 500
  | .bundle _ => 200

def Hy2CertificateResponse.detail : Hy2CertificateResponse → Option String
  | .disabled => some "Hy2 is disabled"
  | .perNodeRequired => some "Per-node Hy2 certificate required"
  | .unavailable => some "Hy2 certificate is unavailable"
  | .hostnameMismatch => some "Hy2 hostname mismatch"
  | .shared => some "Hy2 certificate is shared by multiple nodes"
  | .serverError | .bundle _ => none

section Endpoint
variable {C K : Type} (lib : PemLibrary C K)

def loadHy2CertificateBundle (directory : BundleDirectory) :
    Except LoadError Hy2CertificateBundle := do
  let certificatePem ← readBounded 1048576 directory.certificate
  let privateKeyPem ← readBounded 1048576 directory.privateKey
  let hostnameBytes ← readBounded 255 directory.hostname
  let text ← decodeUtf8 hostnameBytes
  let hostname := normalHost lib.lower text
  require (hostname ≠ "" ∧ hostname.toList.any isTextBlank = false) .invalid
  let certificate ← (lib.loadCertificate certificatePem).mapError PemError.load
  let privateKey ← (lib.loadPrivateKey privateKeyPem).mapError PemError.load
  require (lib.certificatePublicBytes certificate = lib.keyPublicBytes privateKey) .invalid
  require (hostname ∈ lib.dnsNames certificate) .invalid
  let certificateText ← decodeUtf8 certificatePem
  let privateKeyText ← decodeUtf8 privateKeyPem
  .ok ⟨certificateText, privateKeyText, hostname, lib.fingerprint certificate,
    lib.notValidAfter certificate⟩

variable (store : CertificateStore)

/-- The other nodes are looked at until one has the same certificate, or its key is encrypted. -/
def sharedBy (bundle : Hy2CertificateBundle) : List Hy2Node → Option Hy2CertificateResponse
  | [] => none
  | other :: rest =>
    match store.node other.id with
    | none => sharedBy bundle rest
    | some directory =>
      match loadHy2CertificateBundle lib directory with
      | .error .invalid => sharedBy bundle rest
      | .error .uncaught => some .serverError
      | .ok otherBundle =>
        if otherBundle.fingerprint = bundle.fingerprint then some .shared else sharedBy bundle rest

def otherNodes (nodes : List Hy2Node) (node : Hy2Node) : List Hy2Node :=
  nodes.filter fun n => n.id != node.id && n.isActive && n.hy2Enabled

def getHy2Certificate (nodes : List Hy2Node) (node : Hy2Node) : Hy2CertificateResponse :=
  if node.hy2Capable = false then .disabled
  else if ((otherNodes nodes node).any fun n => n.hy2Sni == node.hy2Sni) &&
      (store.node node.id).isNone then .perNodeRequired
  else
    match loadHy2CertificateBundle lib ((store.node node.id).getD store.root) with
    | .error .invalid => .unavailable
    | .error .uncaught => .serverError
    | .ok bundle =>
      if bundle.hostname ≠ normalHost lib.lower (node.hy2Sni.getD "") then .hostnameMismatch
      else (sharedBy lib store bundle (otherNodes nodes node)).getD (.bundle bundle)

end Endpoint

/-! ## What a bundle that is handed out is -/

section Handed
variable {C K : Type} {lib : PemLibrary C K} {store : CertificateStore} {nodes : List Hy2Node}
  {node : Hy2Node} {bundle : Hy2CertificateBundle}

/-- A bundle that is loaded is a certificate with its own key, which names a host without blanks. -/
structure MatchingKeys (lib : PemLibrary C K) (bundle : Hy2CertificateBundle) (certificate : C)
    (privateKey : K) : Prop where
  loadsCertificate : lib.loadCertificate bundle.certificate.toUTF8 = .ok certificate
  loadsPrivateKey : lib.loadPrivateKey bundle.privateKey.toUTF8 = .ok privateKey
  publicBytes : lib.certificatePublicBytes certificate = lib.keyPublicBytes privateKey
  covers : bundle.hostname ∈ lib.dnsNames certificate
  noBlank : ∀ c ∈ bundle.hostname.toList, isTextBlank c = false
  fingerprint : bundle.fingerprint = lib.fingerprint certificate
  notAfter : bundle.notAfter = lib.notValidAfter certificate

theorem decodeUtf8_ok (h : decodeUtf8 data = .ok text) : text.toUTF8 = data := by
  unfold decodeUtf8 at h
  split at h
  · rename_i heq
    cases h
    rw [String.fromUTF8?] at heq
    split at heq
    · cases heq
      rfl
    · cases heq
  · cases h

theorem decodeUtf8_toUTF8 (text : String) : decodeUtf8 text.toUTF8 = .ok text := by
  have htext : String.fromUTF8? text.toUTF8 = some text := (dif_pos text.isValidUTF8).trans rfl
  rw [decodeUtf8, htext]

theorem mapError_ok {x : Except ε α} {f : ε → ε'} (h : x.mapError f = .ok a) : x = .ok a := by
  cases x with
  | error e => cases h
  | ok b =>
    cases h
    rfl

theorem loadHy2CertificateBundle_spec {directory : BundleDirectory}
    (h : loadHy2CertificateBundle lib directory = .ok bundle) :
    ∃ certificate privateKey, MatchingKeys lib bundle certificate privateKey := by
  simp only [loadHy2CertificateBundle, except_bind_ok, require_ok, Except.ok.injEq] at h
  obtain ⟨certificatePem, -, privateKeyPem, -, hostnameBytes, -, text, -, _, ⟨-, hblank⟩,
    certificate, hcertificate, privateKey, hkey, _, hpublic, _, hcovers, certificateText,
    hcertificateText, privateKeyText, hkeyText, rfl⟩ := h
  rw [List.any_eq_false] at hblank
  refine ⟨certificate, privateKey, ?_, ?_, hpublic, hcovers,
    fun c hc => Bool.eq_false_of_not_eq_true (hblank c hc), rfl, rfl⟩
  · rw [decodeUtf8_ok hcertificateText]
    exact mapError_ok hcertificate
  · rw [decodeUtf8_ok hkeyText]
    exact mapError_ok hkey

/-- If no node is found to share the certificate, each other bundle that can be loaded has another
fingerprint. -/
theorem sharedBy_none {others : List Hy2Node} (h : sharedBy lib store bundle others = none)
    {other : Hy2Node} (hother : other ∈ others) {directory : BundleDirectory}
    (hdirectory : store.node other.id = some directory) {otherBundle : Hy2CertificateBundle}
    (hload : loadHy2CertificateBundle lib directory = .ok otherBundle) :
    otherBundle.fingerprint ≠ bundle.fingerprint := by
  induction others with
  | nil => cases hother
  | cons first rest ih =>
    rcases List.mem_cons.1 hother with rfl | hrest
    · simp only [sharedBy, hdirectory, hload] at h
      split at h
      · cases h
      · rename_i hne
        exact hne
    · refine ih ?_ hrest
      simp only [sharedBy] at h
      split at h
      · exact h
      · split at h
        · exact h
        · cases h
        · split at h
          · cases h
          · exact h

theorem sharedBy_not_bundle {others : List Hy2Node} :
    sharedBy lib store bundle others ≠ some (.bundle b) := by
  induction others with
  | nil => exact fun h => by cases h
  | cons first rest ih =>
    intro h
    simp only [sharedBy] at h
    split at h
    · exact ih h
    · split at h
      · exact ih h
      · cases h
      · split at h
        · cases h
        · exact ih h

/-- What is known of a node that gets a bundle. -/
structure Handed (lib : PemLibrary C K) (store : CertificateStore) (nodes : List Hy2Node)
    (node : Hy2Node) (bundle : Hy2CertificateBundle) : Prop where
  capable : node.hy2Capable = true
  sni : ∀ other ∈ otherNodes nodes node, store.node node.id = none → other.hy2Sni ≠ node.hy2Sni
  load : loadHy2CertificateBundle lib ((store.node node.id).getD store.root) = .ok bundle
  hostname : bundle.hostname = normalHost lib.lower (node.hy2Sni.getD "")
  apart : sharedBy lib store bundle (otherNodes nodes node) = none

theorem getHy2Certificate_spec (h : getHy2Certificate lib store nodes node = .bundle bundle) :
    Handed lib store nodes node bundle := by
  unfold getHy2Certificate at h
  split at h
  · cases h
  · rename_i hcapable
    split at h
    · cases h
    · rename_i hmatching
      split at h
      · cases h
      · cases h
      · rename_i loaded hload
        split at h
        · cases h
        · rename_i hhost
          cases hshared : sharedBy lib store loaded (otherNodes nodes node) with
          | none =>
            rw [hshared] at h
            cases h
            refine ⟨Bool.eq_true_of_not_eq_false hcapable, fun other hother hnone heq => ?_, hload,
              not_not.1 hhost, hshared⟩
            refine hmatching ?_
            rw [Bool.and_eq_true, List.any_eq_true, hnone]
            exact ⟨⟨other, hother, by rw [heq, beq_self_eq_true]⟩, rfl⟩
          | some answer =>
            rw [hshared, Option.getD_some] at h
            rw [h] at hshared
            exact absurd hshared sharedBy_not_bundle

/-- A node without a directory of its own gets the bundle of all nodes, if no other node has its
server name or its certificate. -/
theorem getHy2Certificate_root (hcapable : node.hy2Capable = true)
    (hsni : ((otherNodes nodes node).any fun n => n.hy2Sni == node.hy2Sni) = false)
    (hnone : store.node node.id = none)
    (hload : loadHy2CertificateBundle lib store.root = .ok bundle)
    (hname : bundle.hostname = normalHost lib.lower (node.hy2Sni.getD ""))
    (happart : sharedBy lib store bundle (otherNodes nodes node) = none) :
    getHy2Certificate lib store nodes node = .bundle bundle := by
  rw [getHy2Certificate, hcapable, hsni, hnone, Option.getD_none, hload]
  dsimp only
  rw [if_neg (not_not.2 hname), happart]
  rfl

theorem mem_otherNodes {other : Hy2Node} : other ∈ otherNodes nodes node ↔
    other ∈ nodes ∧ other.id ≠ node.id ∧ other.isActive = true ∧ other.hy2Enabled = true := by
  simp only [otherNodes, List.mem_filter, Bool.and_eq_true, bne_iff_ne, ne_eq, and_assoc]

end Handed

/-- Of two active nodes that are handed certificates from the same rows and files, both have the
same one exactly if neither has a directory of its own; and then their server names differ, but not
once they are stripped and lowered. -/
theorem certificate_shared_iff {C K : Type} (lib : PemLibrary C K) (store : CertificateStore)
    (nodes : List Hy2Node) (a b : Hy2Node) (ha : a ∈ nodes) (hb : b ∈ nodes) (hne : a.id ≠ b.id)
    (haActive : a.isActive = true) (hbActive : b.isActive = true) (x y : Hy2CertificateBundle)
    (hx : getHy2Certificate lib store nodes a = .bundle x)
    (hy : getHy2Certificate lib store nodes b = .bundle y) :
    (x.fingerprint = y.fingerprint ↔ store.node a.id = none ∧ store.node b.id = none) ∧
    (store.node a.id = none → store.node b.id = none → a.hy2Sni ≠ b.hy2Sni ∧
      normalHost lib.lower (a.hy2Sni.getD "") = normalHost lib.lower (b.hy2Sni.getD "")) := by
  have hx := getHy2Certificate_spec hx
  have hy := getHy2Certificate_spec hy
  have henabled : ∀ n : Hy2Node, n.hy2Capable = true → n.hy2Enabled = true := by
    intro n hn
    simp only [Hy2Node.hy2Capable, Bool.and_eq_true] at hn
    exact hn.1.1
  have hba : b ∈ otherNodes nodes a :=
    mem_otherNodes.2 ⟨hb, hne.symm, hbActive, henabled b hy.capable⟩
  have hab : a ∈ otherNodes nodes b :=
    mem_otherNodes.2 ⟨ha, hne, haActive, henabled a hx.capable⟩
  have hsame : store.node a.id = none → store.node b.id = none → x = y := by
    intro hnone hnone'
    have hload := hx.load
    rw [hnone, ← hnone', hy.load] at hload
    exact (Except.ok.inj hload).symm
  refine ⟨⟨fun heq => ⟨?_, ?_⟩, fun ⟨hnone, hnone'⟩ => by rw [hsame hnone hnone']⟩,
    fun hnone hnone' => ⟨fun h => hx.sni b hba hnone h.symm, ?_⟩⟩
  · -- the other node is looked at by each request
    cases hdirectory : store.node a.id with
    | none => rfl
    | some directory =>
      have hload := hx.load
      rw [hdirectory] at hload
      exact absurd heq (sharedBy_none hy.apart hab hdirectory hload)
  · cases hdirectory : store.node b.id with
    | none => rfl
    | some directory =>
      have hload := hy.load
      rw [hdirectory] at hload
      exact absurd heq.symm (sharedBy_none hx.apart hba hdirectory hload)
  · rw [← hx.hostname, ← hy.hostname, hsame hnone hnone']

/-- A library for which every text is a certificate and a key. -/
def textLibrary : PemLibrary String String where
  lower := asciiLower
  loadCertificate data := (decodeUtf8 data).mapError fun _ => .value
  loadPrivateKey data := (decodeUtf8 data).mapError fun _ => .value
  certificatePublicBytes _ := []
  keyPublicBytes _ := []
  dnsNames _ := ["hy2.example"]
  notValidAfter _ := 1000
  fingerprint text := text

/-- There is only the bundle of all nodes. -/
def oneBundle : CertificateStore where
  root := ⟨some "PEM".toUTF8, some "KEY".toUTF8, some "hy2.example\n".toUTF8⟩
  node _ := none

def handedBundle : Hy2CertificateBundle := ⟨"PEM", "KEY", "hy2.example", "PEM", 1000⟩

def namesake (id : Nat) (sni : String) : Hy2Node := ⟨id, true, true, some 443, some sni⟩

/-- Two nodes of one name, which is written in two ways. -/
def namesakes : List Hy2Node := [namesake 1 "hy2.example", namesake 2 "HY2.example"]

theorem load_oneBundle :
    loadHy2CertificateBundle textLibrary oneBundle.root = .ok handedBundle := by
  have hcertificate : readBounded 1048576 oneBundle.root.certificate = .ok "PEM".toUTF8 := rfl
  have hkey : readBounded 1048576 oneBundle.root.privateKey = .ok "KEY".toUTF8 := rfl
  have hhostname : readBounded 255 oneBundle.root.hostname = .ok "hy2.example\n".toUTF8 := rfl
  have htext : normalHost asciiLower "hy2.example\n" = "hy2.example" := by decide
  simp only [loadHy2CertificateBundle, hcertificate, hkey, hhostname, except_bind_ok,
    decodeUtf8_toUTF8, htext, require_ok, textLibrary, Except.ok.injEq, exists_eq_left']
  exact ⟨(), ⟨by decide, by decide⟩, "PEM", rfl, "KEY", rfl, (), trivial, (),
    List.mem_singleton.2 rfl, rfl⟩

theorem namesakes_handed :
    getHy2Certificate textLibrary oneBundle namesakes (namesake 1 "hy2.example") =
      .bundle handedBundle ∧
    getHy2Certificate textLibrary oneBundle namesakes (namesake 2 "HY2.example") =
      .bundle handedBundle := by
  have hname : handedBundle.hostname = normalHost asciiLower "hy2.example" := by decide
  have hname' : handedBundle.hostname = normalHost asciiLower "HY2.example" := by decide
  exact ⟨getHy2Certificate_root (by decide) (by decide) rfl load_oneBundle hname rfl,
    getHy2Certificate_root (by decide) (by decide) rfl load_oneBundle hname' rfl⟩

theorem certificate_shared_iff_namesakes :
    (namesake 1 "hy2.example").hy2Sni ≠ (namesake 2 "HY2.example").hy2Sni ∧
      normalHost asciiLower "hy2.example" = normalHost asciiLower "HY2.example" := by
  have ha : namesake 1 "hy2.example" ∈ namesakes := List.mem_cons_self
  have hb : namesake 2 "HY2.example" ∈ namesakes := List.mem_cons_of_mem _ List.mem_cons_self
  exact (certificate_shared_iff textLibrary oneBundle namesakes _ _ ha hb (by decide) rfl rfl _ _
    namesakes_handed.1 namesakes_handed.2).2 rfl rfl

/-! ## What a node makes of it -/

theorem normalHost_of_noBlank (lower : Lowering) {name : String}
    (h : ∀ c ∈ name.toList, isTextBlank c = false) :
    normalHost lower name = String.ofList (lower.apply name.toList) := by
  rw [normalHost, strip_eq_self (fun c hc => h c (List.mem_of_mem_head? hc))
    fun c hc => h c (List.mem_of_getLast? hc)]

theorem dnsMatches_self (lower : Lowering) (name : String) :
    dnsMatches lower name (String.ofList (lower.apply name.toList)) = true := by
  simp only [dnsMatches, String.toList_ofList, lower.again, ↓reduceIte]

/-- A node that receives a bundle of the control plane refuses it only if it expires too soon. -/
theorem handed_bundle_accepted {C K : Type} (lib : PemLibrary C K) (store : CertificateStore)
    (nodes : List Hy2Node) (node : Hy2Node) (bundle : Hy2CertificateBundle)
    (h : getHy2Certificate lib store nodes node = .bundle bundle) (minimumValidity now : Int) :
    checkBundle lib.ofTexts ⟨bundle.certificate, bundle.privateKey, bundle.hostname,
        bundle.fingerprint⟩ minimumValidity now =
      if bundle.notAfter ≤ now + minimumValidity then .error .expiresTooSoon
      else .ok bundle.fingerprint := by
  obtain ⟨certificate, privateKey, hm⟩ :=
    loadHy2CertificateBundle_spec (getHy2Certificate_spec h).load
  have hcertificate : lib.ofTexts.loadCertificate bundle.certificate = some certificate := by
    change (lib.loadCertificate bundle.certificate.toUTF8).toOption = some certificate
    rw [hm.loadsCertificate]
    rfl
  have hkey : lib.ofTexts.loadPrivateKey bundle.privateKey = some privateKey := by
    change (lib.loadPrivateKey bundle.privateKey.toUTF8).toOption = some privateKey
    rw [hm.loadsPrivateKey]
    rfl
  have hcovers : ((lib.ofTexts.dnsNames certificate).any fun name =>
      dnsMatches lib.ofTexts.lower name (normalHost lib.ofTexts.lower bundle.hostname)) = true := by
    rw [List.any_eq_true, normalHost_of_noBlank lib.ofTexts.lower hm.noBlank]
    exact ⟨bundle.hostname, hm.covers, dnsMatches_self lib.ofTexts.lower _⟩
  have hpublic : lib.ofTexts.certificatePublicBytes certificate =
      lib.ofTexts.keyPublicBytes privateKey := hm.publicBytes
  rw [checkBundle, validateBundle]
  simp only [hcertificate, hkey, hpublic, hcovers, ne_eq, not_true_eq_false, if_false,
    Bool.not_true, Bool.false_eq_true, hm.notAfter]
  by_cases hsoon : lib.notValidAfter certificate ≤ now + minimumValidity
  · rw [if_pos hsoon, if_pos (show lib.ofTexts.notValidAfter certificate ≤ _ from hsoon)]
  · rw [if_neg hsoon, if_neg (show ¬ lib.ofTexts.notValidAfter certificate ≤ _ from hsoon)]
    dsimp only
    rw [if_neg (not_not.2 (show bundle.fingerprint = lib.ofTexts.fingerprint certificate from
      hm.fingerprint)), hm.fingerprint]
    rfl

theorem handed_bundle_accepted_now :
    checkBundle textLibrary.ofTexts ⟨"PEM", "KEY", "hy2.example", "PEM"⟩ 10 20 = .ok "PEM" :=
  handed_bundle_accepted textLibrary oneBundle namesakes (namesake 1 "hy2.example")
    handedBundle namesakes_handed.1 10 20

end AegisVPN
