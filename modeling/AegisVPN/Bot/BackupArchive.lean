import AegisVPN.Library.BigEndian

namespace AegisVPN
open Library
set_option autoImplicit true

/-! # Encrypted backups -/

inductive BackupError
  | notPem
  | notRsa
  | notBackup
  | truncated
  | invalidEnvelope
  | privateKeyNotRsa
  | tooLong
  | library
  deriving DecidableEq

/-- The texts of the errors that the code words itself. -/
def BackupError.text : BackupError → Option String
  | .notPem => some "backup public key is not valid PEM"
  | .notRsa => some "backup public key must be RSA with at least 2048 bits"
  | .notBackup => some "not an Aegis encrypted backup"
  | .truncated => some "truncated Aegis backup"
  | .invalidEnvelope => some "invalid Aegis backup envelope"
  | .privateKeyNotRsa => some "backup private key must be RSA"
  | .tooLong | .library => none

/-- What a loader of PEM bytes answers: a key, or an exception, which may be no `ValueError` and no
`TypeError`. A key that is not RSA is `none`. -/
inductive LoadedKey (K : Type)
  | invalid
  | unsupported
  | key (key : Option K)

/-- The cryptography library. OAEP takes random bytes. -/
structure BackupLibrary (PublicKey PrivateKey : Type) where
  loadPublicKey : List UInt8 → LoadedKey PublicKey
  loadPrivateKey : List UInt8 → Option (List UInt8) → Option (Option PrivateKey)
  keySize : PublicKey → Nat
  wrap : PublicKey → List UInt8 → List UInt8 → List UInt8
  unwrap : PrivateKey → List UInt8 → Option (List UInt8)
  gcmEncrypt : List UInt8 → List UInt8 → List UInt8 → List UInt8 → List UInt8
  gcmDecrypt : List UInt8 → List UInt8 → List UInt8 → List UInt8 → Option (List UInt8)

/-- The ASCII text before the version. -/
def backupMagic : List UInt8 :=
  [65, 69, 71, 73, 83, 86, 80, 78, 45, 66, 65, 67, 75, 85, 80, 1]

def nonceSize : Nat := 12

/-- What is drawn for one backup. -/
structure BackupRandomness where
  dataKey : List UInt8
  nonce : List UInt8
  padding : List UInt8
  dataKey_length : dataKey.length = 32
  nonce_length : nonce.length = nonceSize

def backupEnvelope (wrappedKey nonce ciphertext : List UInt8) : List UInt8 :=
  backupMagic ++ (toBigEndian 4 wrappedKey.length ++ (wrappedKey ++ (nonce ++ ciphertext)))

section Backup
variable {U R : Type} (lib : BackupLibrary U R)

def encryptBackup (drawn : BackupRandomness) (plaintext publicKeyPem : List UInt8) :
    Except BackupError (List UInt8) :=
  match lib.loadPublicKey publicKeyPem with
  | .invalid => .error .notPem
  | .unsupported => .error .library
  | .key none => .error .notRsa
  | .key (some publicKey) =>
    if lib.keySize publicKey < 2048 then .error .notRsa
    else
      let wrappedKey := lib.wrap publicKey drawn.padding drawn.dataKey
      let ciphertext := lib.gcmEncrypt drawn.dataKey drawn.nonce plaintext backupMagic
      -- the length is packed in four bytes
      if wrappedKey.length < 256 ^ 4 then .ok (backupEnvelope wrappedKey drawn.nonce ciphertext)
      else .error .tooLong

/-- What the offline key makes of the parts. -/
def openBackup (wrappedKey nonce ciphertext privateKeyPem : List UInt8)
    (password : Option (List UInt8)) : Except BackupError (List UInt8) :=
  match lib.loadPrivateKey privateKeyPem password with
  | none => .error .library
  | some none => .error .privateKeyNotRsa
  | some (some privateKey) =>
    match lib.unwrap privateKey wrappedKey with
    | none => .error .library
    | some dataKey =>
      match lib.gcmDecrypt dataKey nonce ciphertext backupMagic with
      | none => .error .library
      | some plaintext => .ok plaintext

def decryptBackup (envelope privateKeyPem : List UInt8) (password : Option (List UInt8)) :
    Except BackupError (List UInt8) :=
  if backupMagic.isPrefixOf envelope = false then .error .notBackup
  else if envelope.length < backupMagic.length + 4 then .error .truncated
  else
    let rest := envelope.drop backupMagic.length
    let wrappedSize := ofBigEndian (rest.take 4)
    let rest := rest.drop 4
    if wrappedSize < 256 ∨
        envelope.length < backupMagic.length + 4 + wrappedSize + nonceSize + 16 then
      .error .invalidEnvelope
    else
      openBackup lib (rest.take wrappedSize) ((rest.drop wrappedSize).take nonceSize)
        ((rest.drop wrappedSize).drop nonceSize) privateKeyPem password

/-! ## What is accepted -/

/-- The parts of an envelope that a private key opens. -/
structure Opens (envelope privateKeyPem : List UInt8) (password : Option (List UInt8))
    (plaintext wrappedKey nonce ciphertext : List UInt8) : Prop where
  parts : envelope = backupEnvelope wrappedKey nonce ciphertext
  wrapped_length : 256 ≤ wrappedKey.length ∧ wrappedKey.length < 256 ^ 4
  nonce_length : nonce.length = nonceSize
  ciphertext_length : 16 ≤ ciphertext.length
  opened : ∃ privateKey dataKey,
    lib.loadPrivateKey privateKeyPem password = some (some privateKey) ∧
    lib.unwrap privateKey wrappedKey = some dataKey ∧
    lib.gcmDecrypt dataKey nonce ciphertext backupMagic = some plaintext

variable {lib} {envelope privateKeyPem plaintext : List UInt8} {password : Option (List UInt8)}

theorem openBackup_ok {wrappedKey nonce ciphertext : List UInt8} :
    openBackup lib wrappedKey nonce ciphertext privateKeyPem password = .ok plaintext ↔
      ∃ privateKey dataKey, lib.loadPrivateKey privateKeyPem password = some (some privateKey) ∧
        lib.unwrap privateKey wrappedKey = some dataKey ∧
        lib.gcmDecrypt dataKey nonce ciphertext backupMagic = some plaintext := by
  constructor
  · intro h
    unfold openBackup at h
    split at h
    · cases h
    · cases h
    · rename_i privateKey hload
      split at h
      · cases h
      · rename_i dataKey hunwrap
        split at h
        · cases h
        · rename_i opened hopened
          cases h
          exact ⟨privateKey, dataKey, hload, hunwrap, hopened⟩
  · rintro ⟨privateKey, dataKey, hload, hunwrap, hopened⟩
    simp only [openBackup, hload, hunwrap, hopened]

/-- An envelope is opened just if it has the parts that the key opens. -/
theorem decryptBackup_ok_iff : decryptBackup lib envelope privateKeyPem password = .ok plaintext ↔
    ∃ wrappedKey nonce ciphertext,
      Opens lib envelope privateKeyPem password plaintext wrappedKey nonce ciphertext := by
  constructor
  · intro h
    unfold decryptBackup at h
    split at h
    · cases h
    · rename_i hmagic
      obtain ⟨rest, rfl⟩ := List.isPrefixOf_iff_prefix.1 (Bool.eq_true_of_not_eq_false hmagic)
      split at h
      · cases h
      · rename_i hlength
        rw [List.drop_left] at h
        dsimp only at h
        split at h
        · cases h
        · rename_i hsize
          rw [not_or] at hsize
          simp only [List.length_append, not_lt] at hlength hsize
          have hwrapped : ((rest.drop 4).take (ofBigEndian (rest.take 4))).length =
              ofBigEndian (rest.take 4) := by
            rw [List.length_take, List.length_drop]
            omega
          have hfour : (rest.take 4).length = 4 := by
            rw [List.length_take]
            omega
          have hlt : ofBigEndian (rest.take 4) < 256 ^ 4 := by
            have hlt := ofBigEndian_lt (rest.take 4)
            rw [hfour] at hlt
            exact hlt
          refine ⟨(rest.drop 4).take (ofBigEndian (rest.take 4)),
            ((rest.drop 4).drop (ofBigEndian (rest.take 4))).take nonceSize,
            ((rest.drop 4).drop (ofBigEndian (rest.take 4))).drop nonceSize,
            ⟨?_, ?_, ?_, ?_, openBackup_ok.1 h⟩⟩
          · have hwidth := toBigEndian_ofBigEndian (rest.take 4)
            rw [hfour] at hwidth
            rw [backupEnvelope, hwrapped, hwidth, List.take_append_drop, List.take_append_drop,
              List.take_append_drop]
          · rw [hwrapped]
            exact ⟨hsize.1, hlt⟩
          · rw [List.length_take, List.length_drop, List.length_drop]
            omega
          · rw [List.length_drop, List.length_drop, List.length_drop]
            omega
  · rintro ⟨wrappedKey, nonce, ciphertext, h⟩
    have hprefix : backupMagic.isPrefixOf envelope = true := by
      rw [List.isPrefixOf_iff_prefix, h.parts]
      exact List.prefix_append _ _
    have hlength : envelope.length = backupMagic.length + 4 + wrappedKey.length + nonceSize +
        ciphertext.length := by
      rw [h.parts, backupEnvelope, List.length_append, List.length_append, List.length_append,
        List.length_append, length_toBigEndian, h.nonce_length]
      omega
    have hfour := length_toBigEndian 4 wrappedKey.length
    have hciphertext := h.ciphertext_length
    have hwrapped := h.wrapped_length
    rw [decryptBackup, hprefix, if_neg Bool.noConfusion, if_neg (by omega)]
    dsimp only
    rw [h.parts, backupEnvelope, List.drop_left, List.take_left' hfour, List.drop_left' hfour,
      ofBigEndian_toBigEndian hwrapped.2, List.take_left, List.drop_left,
      List.take_left' h.nonce_length, List.drop_left' h.nonce_length, if_neg]
    · exact openBackup_ok.2 h.opened
    · rw [← backupEnvelope, ← h.parts]
      omega

/-! ## Round trip -/

/-- The two keys are a pair, and what is wrapped is as long as their modulus. -/
structure BackupKeys (lib : BackupLibrary U R) (publicKeyPem privateKeyPem : List UInt8)
    (password : Option (List UInt8)) (publicKey : U) (privateKey : R) : Prop where
  loadsPublic : lib.loadPublicKey publicKeyPem = .key (some publicKey)
  loadsPrivate : lib.loadPrivateKey privateKeyPem password = some (some privateKey)
  unwraps : ∀ padding dataKey : List UInt8, dataKey.length = 32 →
    lib.unwrap privateKey (lib.wrap publicKey padding dataKey) = some dataKey
  wrapped : ∀ padding dataKey : List UInt8, dataKey.length = 32 →
    (lib.wrap publicKey padding dataKey).length = (lib.keySize publicKey + 7) / 8

/-- AES-GCM decrypts what it has encrypted, which is longer by a tag of 16 bytes. -/
structure GcmLaws (lib : BackupLibrary U R) : Prop where
  decrypts : ∀ key nonce plaintext data : List UInt8, key.length = 32 → nonce.length = nonceSize →
    lib.gcmDecrypt key nonce (lib.gcmEncrypt key nonce plaintext data) data = some plaintext
  length : ∀ key nonce plaintext data : List UInt8,
    (lib.gcmEncrypt key nonce plaintext data).length = plaintext.length + 16

theorem length_backupEnvelope (wrappedKey nonce ciphertext : List UInt8) :
    (backupEnvelope wrappedKey nonce ciphertext).length =
      20 + wrappedKey.length + nonce.length + ciphertext.length := by
  have hmagic : backupMagic.length = 16 := rfl
  rw [backupEnvelope, List.length_append, List.length_append, List.length_append,
    List.length_append, length_toBigEndian, hmagic]
  omega

theorem backupEnvelope_prefix {wrapped wrapped' nonce nonce' ciphertext ciphertext' : List UInt8}
    (h : backupEnvelope wrapped' nonce' ciphertext' <+: backupEnvelope wrapped nonce ciphertext)
    (hwrapped : wrapped.length < 256 ^ 4) (hwrapped' : wrapped'.length < 256 ^ 4)
    (hnonce : nonce'.length = nonce.length) :
    wrapped' = wrapped ∧ nonce' = nonce ∧ ciphertext' <+: ciphertext := by
  rw [backupEnvelope, backupEnvelope, List.prefix_append_right_inj] at h
  obtain ⟨rest, hrest⟩ := h
  rw [List.append_assoc, List.append_assoc, List.append_assoc] at hrest
  obtain ⟨hsize, hrest⟩ := List.append_inj hrest (by rw [length_toBigEndian, length_toBigEndian])
  have hlength : wrapped'.length = wrapped.length := by
    rw [← ofBigEndian_toBigEndian hwrapped', hsize, ofBigEndian_toBigEndian hwrapped]
  obtain ⟨hwrapped, hrest⟩ := List.append_inj hrest hlength
  obtain ⟨hnonce, hrest⟩ := List.append_inj hrest hnonce
  exact ⟨hwrapped, hnonce, rest, hrest⟩

end Backup

/-- The offline key opens each backup that was encrypted for it. A backup that was cut short is
opened only if AES-GCM accepts the beginning of the ciphertext under the same key. -/
theorem backup_round_trip {U R : Type} (lib : BackupLibrary U R)
    (publicKeyPem privateKeyPem : List UInt8) (password : Option (List UInt8)) (publicKey : U)
    (privateKey : R)
    (hkeys : BackupKeys lib publicKeyPem privateKeyPem password publicKey privateKey)
    (hgcm : GcmLaws lib) (drawn : BackupRandomness) (plaintext envelope : List UInt8)
    (h : encryptBackup lib drawn plaintext publicKeyPem = .ok envelope) :
    decryptBackup lib envelope privateKeyPem password = .ok plaintext ∧
    ∀ n < envelope.length, ∀ other,
      decryptBackup lib (envelope.take n) privateKeyPem password = .ok other →
      ∃ ciphertext, ciphertext <+: lib.gcmEncrypt drawn.dataKey drawn.nonce plaintext backupMagic ∧
        ciphertext.length < plaintext.length + 16 ∧
        lib.gcmDecrypt drawn.dataKey drawn.nonce ciphertext backupMagic = some other := by
  have hlength := hkeys.wrapped drawn.padding drawn.dataKey drawn.dataKey_length
  rw [encryptBackup, hkeys.loadsPublic] at h
  dsimp only at h
  split at h
  · cases h
  · rename_i hsize
    split at h
    · rename_i hshort
      cases h
      refine ⟨decryptBackup_ok_iff.2 ⟨_, _, _, rfl, ⟨by omega, hshort⟩, drawn.nonce_length, ?_,
        privateKey, drawn.dataKey, hkeys.loadsPrivate,
        hkeys.unwraps _ _ drawn.dataKey_length,
        hgcm.decrypts _ _ _ _ drawn.dataKey_length drawn.nonce_length⟩, ?_⟩
      · rw [hgcm.length]
        omega
      · intro n hn other hother
        obtain ⟨wrapped', nonce', ciphertext', hopens⟩ := decryptBackup_ok_iff.1 hother
        have hcut := List.take_prefix n (backupEnvelope
          (lib.wrap publicKey drawn.padding drawn.dataKey) drawn.nonce
          (lib.gcmEncrypt drawn.dataKey drawn.nonce plaintext backupMagic))
        have htake := congrArg List.length hopens.parts
        rw [hopens.parts] at hcut
        obtain ⟨rfl, rfl, hciphertext⟩ := backupEnvelope_prefix hcut hshort hopens.wrapped_length.2
          (hopens.nonce_length.trans drawn.nonce_length.symm)
        refine ⟨ciphertext', hciphertext, ?_, ?_⟩
        · rw [List.length_take, length_backupEnvelope] at htake
          rw [length_backupEnvelope, hgcm.length] at hn htake
          omega
        · obtain ⟨privateKey', dataKey', hload, hunwrap, hopened⟩ := hopens.opened
          rw [hkeys.loadsPrivate] at hload
          cases hload
          rw [hkeys.unwraps _ _ drawn.dataKey_length] at hunwrap
          cases hunwrap
          exact hopened
    · cases h

/-- A library that pads and appends zeros. -/
def paddingLibrary : BackupLibrary Unit Unit where
  loadPublicKey _ := .key (some ())
  loadPrivateKey _ _ := some (some ())
  keySize _ := 2048
  wrap _ _ dataKey := dataKey ++ List.replicate (256 - dataKey.length) 0
  unwrap _ wrapped := some (wrapped.take 32)
  gcmEncrypt _ _ plaintext _ := plaintext ++ List.replicate 16 0
  gcmDecrypt _ _ ciphertext _ :=
    if ciphertext.drop (ciphertext.length - 16) = List.replicate 16 0 then
      some (ciphertext.take (ciphertext.length - 16)) else none

def drawnZeros : BackupRandomness := ⟨List.replicate 32 0, List.replicate 12 0, [], rfl, rfl⟩

theorem paddingLibrary_keys : BackupKeys paddingLibrary [] [] none () () where
  loadsPublic := rfl
  loadsPrivate := rfl
  unwraps _ dataKey h := by
    change some ((dataKey ++ _).take 32) = some dataKey
    rw [List.take_left' h]
  wrapped _ dataKey h := by
    change (dataKey ++ _).length = 256
    rw [List.length_append, List.length_replicate, h]

theorem paddingLibrary_gcm : GcmLaws paddingLibrary where
  decrypts _ _ plaintext _ _ _ := by simp [paddingLibrary]
  length _ _ plaintext _ := by
    change (plaintext ++ _).length = _
    rw [List.length_append, List.length_replicate]

theorem encryptBackup_zeros : encryptBackup paddingLibrary drawnZeros [1] [] =
    .ok (backupEnvelope (paddingLibrary.wrap () [] drawnZeros.dataKey) drawnZeros.nonce
      (paddingLibrary.gcmEncrypt drawnZeros.dataKey drawnZeros.nonce [1] backupMagic)) := by
  have hlength := paddingLibrary_keys.wrapped [] drawnZeros.dataKey rfl
  simp only [encryptBackup, paddingLibrary_keys.loadsPublic]
  rw [if_neg (by decide), if_pos]
  · rfl
  · change (paddingLibrary.wrap () [] drawnZeros.dataKey).length < 256 ^ 4
    rw [hlength]
    decide

theorem backup_round_trip_zeros : decryptBackup paddingLibrary
    (backupEnvelope (paddingLibrary.wrap () [] drawnZeros.dataKey) drawnZeros.nonce
      (paddingLibrary.gcmEncrypt drawnZeros.dataKey drawnZeros.nonce [1] backupMagic)) [] none =
    .ok [1] :=
  (backup_round_trip paddingLibrary [] [] none () () paddingLibrary_keys paddingLibrary_gcm
    drawnZeros [1] _ encryptBackup_zeros).1

end AegisVPN
