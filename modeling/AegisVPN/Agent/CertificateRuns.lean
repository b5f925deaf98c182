import AegisVPN.Agent.CertificateSync

namespace AegisVPN
open Library
set_option autoImplicit true

/-! # Sequences of checks for the certificates of Hy2 -/

/-! ## What is installed -/

section Matching
variable {C K : Type} (lib : CertificateLibrary C K) (minimumValidity : Int)

/-- The certificate and the key belong together, and the certificate covers the host for long
enough. -/
structure Matching (bundle : CertificateBundle) (now : Int) (certificate : C) (key : K) :
    Prop where
  loads : lib.loadCertificate bundle.certificate = some certificate
  keyLoads : lib.loadPrivateKey bundle.privateKey = some key
  pair : lib.certificatePublicBytes certificate = lib.keyPublicBytes key
  covers : ∃ name ∈ lib.dnsNames certificate,
    dnsMatches lib.lower name (normalHost lib.lower bundle.hostname) = true
  validity : now + minimumValidity < lib.notValidAfter certificate
  fingerprint : bundle.fingerprint = lib.fingerprint certificate

end Matching

section Checks
variable {C K : Type} {lib : CertificateLibrary C K} {minimumValidity : Int}

theorem checkBundle_ok {fingerprint : String}
    (h : checkBundle lib bundle minimumValidity now = .ok fingerprint) :
    ∃ certificate key, Matching lib minimumValidity bundle now certificate key := by
  rw [checkBundle] at h
  split at h
  · cases h
  · next found hvalid =>
    split at h
    · cases h
    · next hfingerprint =>
      rw [validateBundle] at hvalid
      split at hvalid
      · cases hvalid
      · next certificate hcertificate =>
        split at hvalid
        · cases hvalid
        · next key hkey =>
          split at hvalid
          · cases hvalid
          · next hpair =>
            split at hvalid
            · cases hvalid
            · next hcovers =>
              split at hvalid
              · cases hvalid
              · next hvalidity =>
                have hfound := Except.ok.inj hvalid
                simp only [Bool.not_eq_true', Bool.not_eq_false, List.any_eq_true] at hcovers
                refine ⟨certificate, key, hcertificate, hkey, not_not.1 hpair, hcovers, ?_, ?_⟩
                · omega
                · rw [hfound]
                  exact not_not.1 hfingerprint

end Checks

/-! ## One update -/

/-- Where an update can stand: the live link is as it was, below at most one new version, or it is
the new version, which is complete. -/
def InstallShape (s : CertificateFiles) (c k : String) (s' : CertificateFiles) : Prop :=
  (s'.live = s.live ∧ s'.reloaded = s.reloaded ∧
      (s'.versions = s.versions ∨ ∃ d, s'.versions = d :: s.versions)) ∨
    s'.live = .link s.versions.length ∧ s'.versions = ⟨some c, some k⟩ :: s.versions

theorem foldl_take_of_along {P : σ → Prop} {step : σ → ι → σ} (h : Along step (fun s _ => P s) s es)
    (hlast : P (es.foldl step s)) (n : Nat) : P ((es.take n).foldl step s) := by
  induction es generalizing s n with
  | nil =>
    rw [List.take_nil]
    exact hlast
  | cons e es ih =>
    cases n with
    | zero => exact h.1
    | succ n => exact ih h.2 hlast n

theorem install_shape (s : CertificateFiles) (c k : String) (n : Nat) :
    InstallShape s c k (((installPair c k ++ [CertificateOp.notify]).take n).foldl
      CertificateFiles.perform s) := by
  apply foldl_take_of_along
  · simp [installPair, atomicWrite, Along, CertificateFiles.perform, changeVersion, InstallShape]
  · simp [installPair, atomicWrite, CertificateFiles.perform, changeVersion, InstallShape]

section Runs
variable {C K : Type} (lib : CertificateLibrary C K) (paths : CertificatePaths)
  (minimumValidity : Int)

/-- The check reaches the installation of its bundle. -/
def Installs (check : CertificateCheck) (s : CertificateFiles) (bundle : CertificateBundle) :
    Prop :=
  check.answer = .bundle bundle ∧
    (∃ fingerprint, checkBundle lib bundle minimumValidity check.now = .ok fingerprint) ∧
    s.content ≠ ⟨some bundle.certificate, some bundle.privateKey⟩ ∧ paths.invalid = none ∧
    ∀ content, s.live ≠ .directory content

/-- A check that replaces the live link also requests the reload: it does not fail or end in
between. -/
def RequestsReload (w : CertificateWorld) (check : CertificateCheck) : Prop :=
  ∀ bundle, Installs lib paths minimumValidity check w.files bundle →
    .swapLink ∈ check.performed bundle → .notify ∈ check.performed bundle

/-- What a check does. -/
inductive CheckOutcome (check : CertificateCheck) (s : CertificateFiles) :
    Except CertificateError CertificateStatus → CertificateFiles → Prop
  | failed : CheckOutcome check s (.error e) s
  | disabled : CheckOutcome check s (.ok .disabled) s
  | unchanged {bundle : CertificateBundle}
    (hcontent : s.content = ⟨some bundle.certificate, some bundle.privateKey⟩) :
    CheckOutcome check s (.ok .unchanged) s
  | updated {bundle : CertificateBundle}
    (h : Installs lib paths minimumValidity check s bundle) (hstop : check.stop = none) :
    CheckOutcome check s (.ok .updated)
      ((check.performed bundle).foldl CertificateFiles.perform s)
  | stopped {bundle : CertificateBundle}
    (h : Installs lib paths minimumValidity check s bundle) :
    CheckOutcome check s (.error .stopped)
      ((check.performed bundle).foldl CertificateFiles.perform s)

theorem checkOnce_outcome (check : CertificateCheck) (s : CertificateFiles) :
    CheckOutcome lib paths minimumValidity check s
      (checkOnce lib paths minimumValidity check s).1
      (checkOnce lib paths minimumValidity check s).2 := by
  rw [checkOnce]
  split
  · exact .failed
  · exact .disabled
  · next bundle hanswer =>
    split
    · exact .failed
    · next fingerprint hvalid =>
      split
      · next hcontent => exact .unchanged hcontent
      · next hcontent =>
        split
        · exact .failed
        · exact .failed
        · next hpaths hlive =>
          have h : Installs lib paths minimumValidity check s bundle :=
            ⟨hanswer, ⟨fingerprint, hvalid⟩, hcontent, hpaths, hlive⟩
          cases hstop : check.stop with
          | none => exact .updated h hstop
          | some n => exact .stopped h

/-- A bundle that fails its validation. -/
def FailsValidation (check : CertificateCheck) : Prop :=
  ∃ bundle e, check.answer = .bundle bundle ∧
    checkBundle lib bundle minimumValidity check.now = .error e

/-- The live directory has a certificate and a key that came from one bundle, and these matched
when they were checked. -/
def LiveComplete (w : CertificateWorld) : Prop :=
  ∀ version, w.files.live = .link version → ∃ bundle now certificate key,
    (bundle, now) ∈ w.validated ∧ Matching lib minimumValidity bundle now certificate key ∧
      w.files.content = ⟨some bundle.certificate, some bundle.privateKey⟩

/-- Whatever returned as up to date had its reload by then. -/
def Reloaded (w : CertificateWorld) : Prop :=
  ∀ r ∈ w.returned, r.1 = .updated ∨ r.1 = .unchanged → r.2 = true

/-- What is kept of the live directory by all runs. -/
structure PairInstalled (w : CertificateWorld) : Prop where
  complete : LiveComplete lib minimumValidity w
  linked : ∀ version, w.files.live = .link version → version < w.files.versions.length
  noDirectory : ∀ content, w.files.live ≠ .directory content

end Runs

section Runs
variable {C K : Type} {lib : CertificateLibrary C K} {paths : CertificatePaths}
  {minimumValidity : Int}

theorem performed_take (check : CertificateCheck) (bundle : CertificateBundle) :
    ∃ n, check.performed bundle =
      (installPair bundle.certificate bundle.privateKey ++ [CertificateOp.notify]).take n := by
  rw [CertificateCheck.performed]
  split
  · exact ⟨(installPair bundle.certificate bundle.privateKey ++ [CertificateOp.notify]).length,
      List.take_length.symm⟩
  · next n _ => exact ⟨n, rfl⟩

theorem performed_shape (check : CertificateCheck) (bundle : CertificateBundle)
    (s : CertificateFiles) : InstallShape s bundle.certificate bundle.privateKey
      ((check.performed bundle).foldl CertificateFiles.perform s) := by
  obtain ⟨n, hn⟩ := performed_take check bundle
  rw [hn]
  exact install_shape s bundle.certificate bundle.privateKey n

theorem content_old {s s' : CertificateFiles} (hlive : s'.live = s.live)
    (hlinked : ∀ version, s.live = .link version → version < s.versions.length)
    (hversions : s'.versions = s.versions ∨ ∃ d, s'.versions = d :: s.versions) :
    s'.content = s.content := by
  rw [CertificateFiles.content, CertificateFiles.content, hlive]
  split
  · rfl
  · next version hlink =>
    obtain hsame | ⟨d, hmore⟩ := hversions
    · rw [hsame]
    · rw [hmore, List.reverse_cons, List.getElem?_append_left]
      rw [List.length_reverse]
      exact hlinked version hlink
  · rfl

theorem content_new {s' : CertificateFiles} {versions : List VersionDirectory}
    (hlive : s'.live = .link versions.length) (hversions : s'.versions = d :: versions) :
    s'.content = d := by
  rw [CertificateFiles.content, hlive, hversions, List.reverse_cons]
  simp only [List.getElem?_append_right, List.length_reverse, Nat.le_refl, Nat.sub_self,
    List.getElem?_cons_zero, Option.getD_some]

theorem Installs.valid {check : CertificateCheck}
    (h : Installs lib paths minimumValidity check s bundle) :
    check.valid lib minimumValidity = [(bundle, check.now)] := by
  obtain ⟨fingerprint, hvalid⟩ := h.2.1
  simp only [CertificateCheck.valid, h.1, hvalid]

theorem installed_performed {w : CertificateWorld} {check : CertificateCheck}
    (h : PairInstalled lib minimumValidity w)
    (hi : Installs lib paths minimumValidity check w.files bundle)
    (returned : List (CertificateStatus × Bool)) :
    PairInstalled lib minimumValidity
      { files := (check.performed bundle).foldl CertificateFiles.perform w.files,
        validated := check.valid lib minimumValidity ++ w.validated, returned := returned } := by
  obtain ⟨hlive, -, hversions⟩ | ⟨hlive, hversions⟩ := performed_shape check bundle w.files
  · have hcontent := content_old hlive h.linked hversions
    constructor
    · intro version hlink
      obtain ⟨b, now, certificate, key, hmem, hmatching, hpair⟩ :=
        h.complete version (hlive.symm.trans hlink)
      exact ⟨b, now, certificate, key, List.mem_append_right _ hmem, hmatching,
        hcontent.trans hpair⟩
    · intro version hlink
      have hlt := h.linked version (hlive.symm.trans hlink)
      obtain hsame | ⟨d, hmore⟩ := hversions
      · simp only [hsame]
        exact hlt
      · simp only [hmore, List.length_cons]
        omega
    · intro content hdirectory
      exact h.noDirectory content (hlive.symm.trans hdirectory)
  · obtain ⟨fingerprint, hvalid⟩ := hi.2.1
    obtain ⟨certificate, key, hmatching⟩ := checkBundle_ok hvalid
    constructor
    · intro version _
      refine ⟨bundle, check.now, certificate, key, ?_, hmatching, content_new hlive hversions⟩
      rw [hi.valid]
      exact List.mem_cons_self
    · intro version hlink
      obtain rfl := LiveDirectory.link.inj (hlive.symm.trans hlink)
      simp only [hversions, List.length_cons]
      omega
    · intro content hdirectory
      cases hlive.symm.trans hdirectory

theorem PairInstalled.same {w w' : CertificateWorld} (h : PairInstalled lib minimumValidity w)
    (hfiles : w'.files = w.files) (hvalidated : ∀ b ∈ w.validated, b ∈ w'.validated) :
    PairInstalled lib minimumValidity w' := by
  constructor
  · intro version hlink
    rw [hfiles] at hlink
    obtain ⟨b, now, certificate, key, hmem, hmatching, hpair⟩ := h.complete version hlink
    rw [hfiles]
    exact ⟨b, now, certificate, key, hvalidated _ hmem, hmatching, hpair⟩
  · rw [hfiles]
    exact h.linked
  · rw [hfiles]
    exact h.noDirectory

theorem check_installed {w : CertificateWorld} (h : PairInstalled lib minimumValidity w)
    (check : CertificateCheck) :
    PairInstalled lib minimumValidity (w.check lib paths minimumValidity check) := by
  have houtcome := checkOnce_outcome lib paths minimumValidity check w.files
  rw [CertificateWorld.check]
  generalize checkOnce lib paths minimumValidity check w.files = result at houtcome
  obtain ⟨status, files⟩ := result
  cases houtcome with
  | failed => exact h.same rfl fun b hb => List.mem_append_right _ hb
  | disabled => exact h.same rfl fun b hb => List.mem_append_right _ hb
  | unchanged hcontent => exact h.same rfl fun b hb => List.mem_append_right _ hb
  | updated hi _ => exact installed_performed h hi _
  | stopped hi => exact installed_performed h hi _

/-! ## Reloads -/

theorem live_of_not_swapped {ops : List CertificateOp} (h : .swapLink ∉ ops)
    (s : CertificateFiles) : (ops.foldl CertificateFiles.perform s).live = s.live ∧
      (s.reloaded = true → (ops.foldl CertificateFiles.perform s).reloaded = true) := by
  induction ops generalizing s with
  | nil => exact ⟨rfl, fun hr => hr⟩
  | cons op ops ih =>
    rw [List.mem_cons, not_or] at h
    obtain ⟨hlive, hreloaded⟩ := ih h.2 (s.perform op)
    have hop : (s.perform op).live = s.live ∧
        (s.reloaded = true → (s.perform op).reloaded = true) := by
      cases op with
      | swapLink => exact absurd rfl h.1
      | notify => exact ⟨rfl, fun _ => rfl⟩
      | _ => exact ⟨rfl, fun hr => hr⟩
    exact ⟨hlive.trans hop.1, fun hr => hreloaded (hop.2 hr)⟩

/-- The reload comes last, so that whatever requests it has done all before. -/
theorem reloaded_of_notified {check : CertificateCheck} {bundle : CertificateBundle}
    (h : .notify ∈ check.performed bundle) (s : CertificateFiles) :
    ((check.performed bundle).foldl CertificateFiles.perform s).reloaded = true := by
  obtain ⟨n, hn⟩ := performed_take check bundle
  rw [hn, List.take_append, List.mem_append] at h
  obtain h | h := h
  · exact absurd (List.mem_of_mem_take h) (by simp [installPair, atomicWrite])
  · have hlast : n - (installPair bundle.certificate bundle.privateKey).length ≠ 0 := by
      intro hzero
      rw [hzero] at h
      exact absurd h List.not_mem_nil
    obtain ⟨m, hm⟩ := Nat.exists_eq_succ_of_ne_zero hlast
    rw [hn, List.take_append, List.foldl_append, hm, List.take_succ_cons, List.take_nil]
    rfl

/-- Every live pair had its reload requested, and so had every pair that was up to date. -/
structure Notified (w : CertificateWorld) : Prop where
  live : ∀ version, w.files.live = .link version → w.files.reloaded = true
  returned : Reloaded w

theorem linked_of_content {s : CertificateFiles} {c k : String}
    (h : s.content = ⟨some c, some k⟩) (hdir : ∀ content, s.live ≠ .directory content) :
    ∃ version, s.live = .link version := by
  cases hlive : s.live with
  | absent =>
    rw [CertificateFiles.content, hlive] at h
    cases h
  | link version => exact ⟨version, rfl⟩
  | directory content => exact absurd hlive (hdir content)

theorem reloaded_cons {w : CertificateWorld} (h : Reloaded w) {files : CertificateFiles}
    {validated : List (CertificateBundle × Int)}
    (hnew : status = .updated ∨ status = .unchanged → reloaded = true) :
    Reloaded ⟨files, validated, (status, reloaded) :: w.returned⟩ := by
  intro r hr hstatus
  obtain rfl | hr := List.mem_cons.1 hr
  · exact hnew hstatus
  · exact h r hr hstatus

theorem check_notified {w : CertificateWorld} {check : CertificateCheck}
    (hinstalled : PairInstalled lib minimumValidity w) (h : Notified w)
    (hrequests : RequestsReload lib paths minimumValidity w check) :
    Notified (w.check lib paths minimumValidity check) := by
  have houtcome := checkOnce_outcome lib paths minimumValidity check w.files
  rw [CertificateWorld.check]
  generalize checkOnce lib paths minimumValidity check w.files = result at houtcome
  obtain ⟨status, files⟩ := result
  cases houtcome with
  | failed => exact ⟨h.live, h.returned⟩
  | disabled =>
    refine ⟨h.live, reloaded_cons h.returned ?_⟩
    rintro (hstatus | hstatus)
    · cases hstatus
    · cases hstatus
  | unchanged hcontent =>
    refine ⟨h.live, reloaded_cons h.returned ?_⟩
    intro _
    obtain ⟨version, hlink⟩ := linked_of_content hcontent hinstalled.noDirectory
    exact h.live version hlink
  | @updated bundle hi hstop =>
    have hall : .notify ∈ check.performed bundle := by
      simp only [CertificateCheck.performed, hstop, List.mem_append, List.mem_singleton, or_true]
    have hreloaded := reloaded_of_notified hall w.files
    exact ⟨fun _ _ => hreloaded, reloaded_cons h.returned fun _ => hreloaded⟩
  | @stopped bundle hi =>
    refine ⟨?_, h.returned⟩
    intro version hlink
    by_cases hswapped : .swapLink ∈ check.performed bundle
    · exact reloaded_of_notified (hrequests bundle hi hswapped) w.files
    · obtain ⟨hlive, hreloaded⟩ := live_of_not_swapped hswapped w.files
      exact hreloaded (h.live version (hlive.symm.trans hlink))

theorem start_installed : PairInstalled lib minimumValidity CertificateWorld.start where
  complete := fun _ h => by cases h
  linked := fun _ h => by cases h
  noDirectory := fun _ h => by cases h

theorem start_notified : Notified CertificateWorld.start where
  live := fun _ h => by cases h
  returned := fun _ h => absurd h List.not_mem_nil

/-- Whatever ends the checks of a run, what is live stays a complete pair. -/
theorem runs_installed (checks : List CertificateCheck) (h : PairInstalled lib minimumValidity w) :
    PairInstalled lib minimumValidity
      (checks.foldl (CertificateWorld.check lib paths minimumValidity) w) := by
  induction checks generalizing w with
  | nil => exact h
  | cons check checks ih => exact ih (check_installed h check)

end Runs

/-- Whatever fails on the way, the live directory has a complete pair of one valid bundle, and a
bundle that is not valid changes nothing. While no check fails or ends between the replacement of
the live link and its request for the reload, every check that returns as up to date finds that
the reload of the live pair has been requested. -/
theorem certificates_right {C K : Type} (lib : CertificateLibrary C K) (paths : CertificatePaths)
    (minimumValidity : Int) (checks : List CertificateCheck)
    (h : Along (CertificateWorld.check lib paths minimumValidity)
      (RequestsReload lib paths minimumValidity) CertificateWorld.start checks) :
    LiveComplete lib minimumValidity
        (checks.foldl (CertificateWorld.check lib paths minimumValidity) CertificateWorld.start) ∧
      (∀ w check, FailsValidation lib minimumValidity check →
        (CertificateWorld.check lib paths minimumValidity w check).files = w.files) ∧
      Reloaded (checks.foldl (CertificateWorld.check lib paths minimumValidity)
        CertificateWorld.start) := by
  have hrun : PairInstalled lib minimumValidity (checks.foldl
      (CertificateWorld.check lib paths minimumValidity) CertificateWorld.start) ∧
      Notified (checks.foldl (CertificateWorld.check lib paths minimumValidity)
        CertificateWorld.start) :=
    run_invariant (I := fun w => PairInstalled lib minimumValidity w ∧ Notified w)
      ⟨start_installed, start_notified⟩
      (fun w check hw hc => ⟨check_installed hw.1 check, check_notified hw.1 hw.2 hc⟩) h
  refine ⟨hrun.1.complete, ?_, hrun.2.returned⟩
  intro w check ⟨bundle, e, hanswer, hinvalid⟩
  have hfailed : checkOnce lib paths minimumValidity check w.files = (.error e, w.files) := by
    simp only [checkOnce, hanswer, hinvalid]
  simp only [CertificateWorld.check, hfailed]

/-- A library that takes every text for a certificate and a key of one pair. -/
def sampleLibrary : CertificateLibrary String String :=
  { lower := asciiLower, loadCertificate := some, loadPrivateKey := some,
    certificatePublicBytes := fun _ => [], keyPublicBytes := fun _ => [],
    dnsNames := fun _ => ["*.example.test"], notValidAfter := fun _ => 1000
    fingerprint := fun certificate => certificate }

def samplePaths : CertificatePaths := ⟨"/live", "cert.pem", "/live", "key.pem"⟩

/-- A check of a bundle that fails or ends after so many operations. -/
def sampleCheck (stop : Option Nat) : CertificateCheck :=
  { answer := .bundle ⟨"c", "k", " Hy2.example.test", "c"⟩, now := 0, stop := stop }

/-- The first check fails after the link is replaced. The second finds nothing to do. -/
theorem unchanged_without_reload : ¬∀ (checks : List CertificateCheck),
    Reloaded (checks.foldl (CertificateWorld.check sampleLibrary samplePaths 7)
      CertificateWorld.start) := by
  intro h
  have hreturned : (([sampleCheck (some 22), sampleCheck none]).foldl
      (CertificateWorld.check sampleLibrary samplePaths 7) CertificateWorld.start).returned =
        [(.unchanged, false)] := by
    decide
  have hreloaded := h [sampleCheck (some 22), sampleCheck none] (.unchanged, false)
    (by rw [hreturned]; exact List.mem_cons_self) (.inr rfl)
  exact Bool.false_ne_true hreloaded

/-- The first check fails before the link is replaced, and the second installs the pair. -/
theorem certificates_right_retried :
    LiveComplete sampleLibrary 7 ([sampleCheck (some 21), sampleCheck none].foldl
        (CertificateWorld.check sampleLibrary samplePaths 7) CertificateWorld.start) ∧
      (∀ w check, FailsValidation sampleLibrary 7 check →
        (CertificateWorld.check sampleLibrary samplePaths 7 w check).files = w.files) ∧
      Reloaded ([sampleCheck (some 21), sampleCheck none].foldl
        (CertificateWorld.check sampleLibrary samplePaths 7) CertificateWorld.start) := by
  apply certificates_right
  refine ⟨?_, ?_, trivial⟩
  · intro bundle hi hswap
    obtain rfl := CertificateAnswer.bundle.inj hi.1
    exact absurd hswap (by decide)
  · intro bundle hi _
    obtain rfl := CertificateAnswer.bundle.inj hi.1
    decide

end AegisVPN
