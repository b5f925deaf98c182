import AegisVPN.Library.Runs
import AegisVPN.Library.TextLines

namespace AegisVPN
open Library
set_option autoImplicit true

/-! # Installing the certificates of Hy2 -/

/-! ## Validation -/

/-- What the cryptography library says of PEM texts, and how names are lowered. Times are
microseconds since the epoch. -/
structure CertificateLibrary (Certificate PrivateKey : Type) where
  lower : Lowering
  loadCertificate : String → Option Certificate
  loadPrivateKey : String → Option PrivateKey
  certificatePublicBytes : Certificate → List UInt8
  keyPublicBytes : PrivateKey → List UInt8
  dnsNames : Certificate → List String
  notValidAfter : Certificate → Int
  fingerprint : Certificate → String

structure CertificateBundle where
  certificate : String
  privateKey : String
  hostname : String
  fingerprint : String
  deriving DecidableEq

inductive CertificateError
  | unavailable
  | malformedCertificate
  | malformedKey
  | keysDiffer
  | hostnameNotCovered
  | expiresTooSoon
  | fingerprintMismatch
  | wrongNames
  | twoDirectories
  | noSymlink
  | stopped
  deriving DecidableEq

/-- The texts of the errors that the code words itself. -/
def CertificateError.text : CertificateError → Option String
  | .keysDiffer => some "certificate and private key do not match"
  | .hostnameNotCovered => some "certificate does not cover hostname"
  | .expiresTooSoon => some "certificate expires too soon"
  | .fingerprintMismatch => some "certificate fingerprint mismatch"
  | .wrongNames => some "certificate paths must end in cert.pem and key.pem"
  | .twoDirectories => some "certificate and private key must share one live directory"
  | .noSymlink => some "live certificate directory must be an atomic symlink"
  | .unavailable | .malformedCertificate | .malformedKey | .stopped => none

/-- `name.strip().lower()` -/
def normalHost (lower : Lowering) (name : String) : String :=
  String.ofList (lower.apply (strip name.toList))

def dnsMatches (lower : Lowering) (pattern hostname : String) : Bool :=
  let pattern := lower.apply pattern.toList
  let hostname := lower.apply hostname.toList
  if pattern = hostname then true
  else if ['*', '.'].isPrefixOf pattern then
    (pattern.drop 1).isSuffixOf hostname && hostname.count '.' == pattern.count '.'
  else false

/-- The two paths, each as its directory and its name. -/
structure CertificatePaths where
  certificateDirectory : String
  certificateName : String
  privateKeyDirectory : String
  privateKeyName : String

def CertificatePaths.invalid (p : CertificatePaths) : Option CertificateError :=
  if p.certificateName ≠ "cert.pem" ∨ p.privateKeyName ≠ "key.pem" then some .wrongNames
  else if p.certificateDirectory ≠ p.privateKeyDirectory then some .twoDirectories
  else none

section Validation
variable {C K : Type} (lib : CertificateLibrary C K)

/-- The fingerprint of a valid bundle's certificate. -/
def validateBundle (certificatePem privateKeyPem hostname : String) (minimumValidity now : Int) :
    Except CertificateError String :=
  match lib.loadCertificate certificatePem with
  | none => .error .malformedCertificate
  | some certificate =>
    match lib.loadPrivateKey privateKeyPem with
    | none => .error .malformedKey
    | some key =>
      if lib.certificatePublicBytes certificate ≠ lib.keyPublicBytes key then .error .keysDiffer
      else if !(lib.dnsNames certificate).any fun name => dnsMatches lib.lower name hostname then
        .error .hostnameNotCovered
      else if lib.notValidAfter certificate ≤ now + minimumValidity then .error .expiresTooSoon
      else .ok (lib.fingerprint certificate)

/-- What a check demands of a bundle before it touches a file. -/
def checkBundle (bundle : CertificateBundle) (minimumValidity now : Int) :
    Except CertificateError String :=
  match validateBundle lib bundle.certificate bundle.privateKey
    (normalHost lib.lower bundle.hostname) minimumValidity now with
  | .error e => .error e
  | .ok fingerprint =>
    if bundle.fingerprint ≠ fingerprint then .error .fingerprintMismatch else .ok fingerprint

end Validation

/-! ## Files -/

structure VersionDirectory where
  certificate : Option String
  privateKey : Option String
  deriving DecidableEq

/-- The live directory. Versions are numbered in the order of their making. -/
inductive LiveDirectory
  | absent
  | link (version : Nat)
  | directory (content : VersionDirectory)
  deriving DecidableEq

/-- The files below the root, the last version first, and whether a reload has been requested
since the live link was last replaced. -/
structure CertificateFiles where
  live : LiveDirectory
  versions : List VersionDirectory
  temporary : Option String
  temporaryLink : Option Nat
  reloaded : Bool
  deriving DecidableEq

inductive CertificateOp
  | mkdir
  | chmod
  | fsync
  | makeVersion
  | makeTemporary
  | writeTemporary (data : String)
  | replaceCertificate
  | replacePrivateKey
  | symlink
  | swapLink
  | unlink
  | notify
  deriving DecidableEq

def changeVersion (f : VersionDirectory → VersionDirectory) :
    List VersionDirectory → List VersionDirectory
  | [] => []
  | d :: ds => f d :: ds

def CertificateFiles.perform (s : CertificateFiles) : CertificateOp → CertificateFiles
  | .mkdir | .chmod | .fsync => s
  | .makeVersion => { s with versions := ⟨none, none⟩ :: s.versions }
  | .makeTemporary => { s with temporary := some "" }
  | .writeTemporary data => { s with temporary := some data }
  | .replaceCertificate =>
    { s with
      versions := changeVersion (fun d => { d with certificate := s.temporary }) s.versions
      temporary := none }
  | .replacePrivateKey =>
    { s with
      versions := changeVersion (fun d => { d with privateKey := s.temporary }) s.versions
      temporary := none }
  | .symlink => { s with temporaryLink := some (s.versions.length - 1) }
  | .swapLink =>
    match s.temporaryLink with
    | some version => { s with live := .link version, temporaryLink := none, reloaded := false }
    | none => s
  | .unlink => { s with temporaryLink := none }
  | .notify => { s with reloaded := true }

def atomicWrite (data : String) (replace : CertificateOp) : List CertificateOp :=
  [.mkdir, .makeTemporary, .writeTemporary data, .fsync, .chmod, replace, .fsync]

/-- From the root directory to the link, one filesystem operation after the other. -/
def installPair (certificatePem privateKeyPem : String) : List CertificateOp :=
  [.mkdir, .chmod, .mkdir, .makeVersion, .chmod] ++
    atomicWrite certificatePem .replaceCertificate ++
    atomicWrite privateKeyPem .replacePrivateKey ++
    [.symlink, .fsync, .swapLink, .fsync, .unlink]

def CertificateFiles.content (s : CertificateFiles) : VersionDirectory :=
  match s.live with
  | .absent => ⟨none, none⟩
  | .link version => s.versions.reverse[version]?.getD ⟨none, none⟩
  | .directory content => content

/-! ## Checks -/

/-- What the control plane answers to a check. -/
inductive CertificateAnswer
  | unavailable
  | disabled
  | bundle (bundle : CertificateBundle)

/-- One check: the answer, the time, and after how many operations it fails or the process ends,
if it does. -/
structure CertificateCheck where
  answer : CertificateAnswer
  now : Int
  stop : Option Nat

inductive CertificateStatus
  | disabled
  | unchanged
  | updated
  deriving DecidableEq

section Checks
variable {C K : Type} (lib : CertificateLibrary C K) (paths : CertificatePaths)
  (minimumValidity : Int)

/-- The operations of an update that are carried out. -/
def CertificateCheck.performed (check : CertificateCheck) (bundle : CertificateBundle) :
    List CertificateOp :=
  let ops := installPair bundle.certificate bundle.privateKey ++ [.notify]
  match check.stop with
  | none => ops
  | some n => ops.take n

def checkOnce (check : CertificateCheck) (s : CertificateFiles) :
    Except CertificateError CertificateStatus × CertificateFiles :=
  match check.answer with
  | .unavailable => (.error .unavailable, s)
  | .disabled => (.ok .disabled, s)
  | .bundle bundle =>
    match checkBundle lib bundle minimumValidity check.now with
    | .error e => (.error e, s)
    | .ok _ =>
      if s.content = ⟨some bundle.certificate, some bundle.privateKey⟩ then (.ok .unchanged, s)
      else match paths.invalid, s.live with
      | some e, _ => (.error e, s)
      | none, .directory _ => (.error .noSymlink, s)
      | none, _ =>
        let installed := (check.performed bundle).foldl CertificateFiles.perform s
        match check.stop with
        | none => (.ok .updated, installed)
        | some _ => (.error .stopped, installed)

/-- The files, the bundles that were valid when they were checked, with the times of the checks,
and for every check that returned its status and whether the live pair had its reload by then. -/
structure CertificateWorld where
  files : CertificateFiles
  validated : List (CertificateBundle × Int)
  returned : List (CertificateStatus × Bool)

def CertificateWorld.start : CertificateWorld :=
  { files := ⟨.absent, [], none, none, false⟩, validated := [], returned := [] }

/-- The bundle of a check that is valid. -/
def CertificateCheck.valid (check : CertificateCheck) : List (CertificateBundle × Int) :=
  match check.answer with
  | .bundle bundle =>
    match checkBundle lib bundle minimumValidity check.now with
    | .ok _ => [(bundle, check.now)]
    | .error _ => []
  | _ => []

def CertificateWorld.check (w : CertificateWorld) (check : CertificateCheck) : CertificateWorld :=
  match checkOnce lib paths minimumValidity check w.files with
  | (.ok status, files) =>
    { files := files, validated := check.valid lib minimumValidity ++ w.validated,
      returned := (status, files.reloaded) :: w.returned }
  | (.error _, files) =>
    { files := files, validated := check.valid lib minimumValidity ++ w.validated,
      returned := w.returned }

end Checks

end AegisVPN
