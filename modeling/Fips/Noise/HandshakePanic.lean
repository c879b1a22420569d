import Fips.Lib.Wp
import Fips.Noise.Handshake

/-!
# Where a handshake message may panic

The methods of `HandshakeState` take keys and epochs out of optional fields with `expect`. Each
lemma says which fields a message needs.

## Results

* `wp_writeMessage1`: the first message of IK.
* `wp_readMessage1`, `wp_writeMessage2`: its responder, for a message of any content.
* `wp_writeXkMessage1`, `wp_readXkMessage2`, `wp_writeXkMessage3`: the initiator of XK.
* `wp_readXkMessage1`, `wp_writeXkMessage2`, `wp_readXkMessage3`: its responder.
-/

open Checked

namespace Fips

/-- What the documentation of the AEAD says of the length of what it decrypts. -/
structure ChaCha20Poly1305.Sized [ChaCha20Poly1305] : Prop where
  decrypt_length : ∀ key nonce aad ciphertext msg : Bytes,
    decrypt key nonce aad ciphertext = some msg → ciphertext.length = msg.length + TAG_SIZE

namespace HandshakeState

variable {SecretKey PublicKey : Type} {s : HandshakeState SecretKey PublicKey}

/-- The method does not panic on `s`. -/
def Safe {α : Type} (m : M SecretKey PublicKey α) (s : HandshakeState SecretKey PublicKey) : Prop :=
  wp m (fun _ _ => True) (fun e _ => e ≠ .panic) s

section Steps

variable {Q : Unit → HandshakeState SecretKey PublicKey → Prop}

theorem wp_requireRole {role : HandshakeRole} (h : Q () s) :
    wp (requireRole role) Q (fun e _ => e ≠ .panic) s := by
  rw [requireRole, wp_require_iff]
  exact ⟨fun _ => h, fun _ => error_ne_panic _⟩

theorem wp_requireProgress {progress : HandshakeProgress} (h : Q () s) :
    wp (requireProgress progress) Q (fun e _ => e ≠ .panic) s := by
  rw [requireProgress, wp_require_iff]
  exact ⟨fun _ => h, fun _ => error_ne_panic _⟩

theorem wp_encryptAndHash [Sha256] [ChaCha20Poly1305] {plaintext : Bytes}
    {Q : Bytes → HandshakeState SecretKey PublicKey → Prop}
    (h : ∀ ciphertext symmetric, Q ciphertext { s with symmetric := symmetric }) :
    wp (encryptAndHash plaintext) Q (fun e _ => e ≠ .panic) s := by
  rw [encryptAndHash, wp_lift_iff]
  exact ⟨fun ciphertext _ => h ciphertext _, fun e _ => error_ne_panic e⟩

theorem wp_requireLength {size : Nat} {message : Bytes} (h : message.length = size → Q () s) :
    wp (requireLength size message) Q (fun e _ => e ≠ .panic) s := by
  rw [requireLength, wp_require_iff]
  exact ⟨fun hlength => h (by simpa using hlength), fun _ => error_ne_panic _⟩

theorem wp_parsePublicKey [Secp256k1 SecretKey PublicKey] {bytes : Bytes}
    {Q : PublicKey → HandshakeState SecretKey PublicKey → Prop} (h : ∀ key, Q key s) :
    wp (parsePublicKey bytes) Q (fun e _ => e ≠ .panic) s := by
  rw [parsePublicKey, wp_pureCall_iff]
  refine ⟨fun key _ => h key, ?_⟩
  rintro e he rfl
  exact noPanic_okOr _ _ he

theorem wp_pureSlice {message : Bytes} {i j : Nat} (hij : i ≤ j) (hj : j ≤ message.length)
    {Q : Bytes → HandshakeState SecretKey PublicKey → Prop}
    (h : Q ((message.drop i).take (j - i)) s) :
    wp (pureCall (slice message i j) : M SecretKey PublicKey Bytes) Q (fun e _ => e ≠ .panic) s := by
  rw [slice, if_pos ⟨hij, hj⟩]
  exact h

theorem wp_decryptAndHash [Sha256] [ChaCha20Poly1305] {ciphertext : Bytes}
    {Q : Bytes → HandshakeState SecretKey PublicKey → Prop}
    (h : ∀ plaintext symmetric, Q plaintext { s with symmetric := symmetric }) :
    wp (decryptAndHash ciphertext) Q (fun e _ => e ≠ .panic) s := by
  rw [decryptAndHash, wp_lift_iff]
  exact ⟨fun plaintext _ => h plaintext _, fun e _ => error_ne_panic e⟩

/-- Under a key the plaintext is shorter by the tag. -/
theorem length_decryptAndHash [Sha256] [ChaCha20Poly1305] (hsized : ChaCha20Poly1305.Sized)
    {x : SymmetricState} (hkey : x.cipher.hasKey = true) {ciphertext plaintext : Bytes}
    (h : (x.decryptAndHash ciphertext).2 = .ok plaintext) :
    ciphertext.length = plaintext.length + TAG_SIZE := by
  simp only [SymmetricState.decryptAndHash, CipherState.decrypt, CipherState.nextNonce, hkey,
    Bool.not_true, Bool.false_eq_true, if_false] at h
  by_cases hshort : ciphertext.length < TAG_SIZE
  · rw [if_pos hshort] at h
    cases h
  rw [if_neg hshort] at h
  by_cases hoverflow : x.cipher.nonce = U64_MAX
  · rw [if_pos hoverflow] at h
    cases h
  · rw [if_neg hoverflow] at h
    cases hdecrypt : ChaCha20Poly1305.decrypt x.cipher.key
        (CipherState.counterToNonce x.cipher.nonce) [] ciphertext with
    | none =>
      simp only [hdecrypt] at h
      cases h
    | some msg =>
      simp only [hdecrypt, Except.ok.injEq] at h
      subst h
      exact hsized.decrypt_length _ _ _ _ _ hdecrypt

/-- The epoch of a peer fits its array. -/
theorem wp_readEpoch [Sha256] [ChaCha20Poly1305] (hsized : ChaCha20Poly1305.Sized)
    (hkey : s.symmetric.cipher.hasKey = true) {encryptedEpoch : Bytes}
    (hlength : encryptedEpoch.length = EPOCH_ENCRYPTED_SIZE)
    (h : ∀ symmetric remoteEpoch, Q () { s with symmetric := symmetric, remoteEpoch := remoteEpoch }) :
    wp (readEpoch encryptedEpoch) Q (fun e _ => e ≠ .panic) s := by
  unfold readEpoch decryptAndHash
  rw [wp_bind_iff, wp_lift_iff]
  refine ⟨fun decrypted hdecrypted => ?_, fun e _ => error_ne_panic e⟩
  have hsize : decrypted.length = EPOCH_SIZE := by
    have htag := length_decryptAndHash hsized hkey hdecrypted
    unfold EPOCH_ENCRYPTED_SIZE at hlength
    omega
  rw [wp_bind_iff, Epoch.copyFromSlice, dif_pos hsize]
  exact h _ _

end Steps

variable [Sha256] [HkdfSha256] [ChaCha20Poly1305] [Secp256k1 SecretKey PublicKey]

theorem wp_writeMessage1 (secretKey : SecretKey) (hstatic : s.remoteStatic.isSome)
    (hepoch : s.localEpoch.isSome) : Safe (writeMessage1 secretKey) s := by
  obtain ⟨remoteStatic, hstatic⟩ := Option.isSome_iff_exists.mp hstatic
  obtain ⟨epoch, hepoch⟩ := Option.isSome_iff_exists.mp hepoch
  unfold Safe writeMessage1
  refine wp_bind_iff.mpr (wp_requireRole (wp_bind_iff.mpr (wp_requireProgress ?_)))
  rw [wp_bind_iff, wp_expect_iff]
  refine ⟨fun _ _ => ?_, fun hnone => by rw [hstatic] at hnone; cases hnone⟩
  rw [wp_bind_iff, wp_expect_iff]
  refine ⟨fun _ _ => ?_, fun hnone => by rw [hepoch] at hnone; cases hnone⟩
  simp only [wp_bind_iff, generateEphemeral, mixHash, mixKey, setProgress, wp_write_iff, wp_read_iff]
  refine wp_encryptAndHash fun _ _ => ?_
  rw [wp_bind_iff, wp_write_iff, wp_bind_iff]
  exact wp_encryptAndHash fun _ _ => trivial

theorem wp_readMessage1 (hsized : ChaCha20Poly1305.Sized) (message : Bytes) :
    wp (readMessage1 message)
      (fun _ s' => s'.remoteStatic.isSome ∧ s'.remoteEphemeral.isSome ∧ s'.localEpoch = s.localEpoch)
      (fun e _ => e ≠ .panic) s := by
  unfold readMessage1
  refine wp_bind_iff.mpr (wp_requireRole (wp_bind_iff.mpr (wp_requireProgress ?_)))
  refine wp_bind_iff.mpr (wp_requireLength fun hlength => ?_)
  have hsize : message.length = 106 := hlength
  refine wp_bind_iff.mpr (wp_pureSlice (Nat.zero_le _) (by rw [hsize]; decide) ?_)
  refine wp_bind_iff.mpr (wp_parsePublicKey fun re => ?_)
  simp only [wp_bind_iff, mixHash, mixKey, wp_write_iff, wp_read_iff]
  refine wp_pureSlice (by decide) (by rw [hsize]; decide) ?_
  refine wp_bind_iff.mpr (wp_decryptAndHash fun decrypted symmetric => ?_)
  refine wp_bind_iff.mpr (wp_parsePublicKey fun rs => ?_)
  simp only [wp_bind_iff, wp_write_iff]
  rw [sliceFrom_of_le (by rw [hsize]; decide)]
  refine wp_pureCall_iff.mpr ⟨fun encryptedEpoch heq => ?_, fun e he => (by cases he)⟩
  have hlast : encryptedEpoch.length = EPOCH_ENCRYPTED_SIZE := by
    rw [← Except.ok.inj heq, List.length_drop, hsize]
    rfl
  rw [wp_bind_iff]
  refine wp_readEpoch hsized ?_ hlast fun _ _ => ?_
  · rfl
  · exact ⟨rfl, rfl, rfl⟩

theorem wp_writeMessage2 (secretKey : SecretKey) (hephemeral : s.remoteEphemeral.isSome)
    (hepoch : s.localEpoch.isSome) :
    wp (writeMessage2 secretKey) (fun _ s' => s'.remoteStatic = s.remoteStatic)
      (fun e _ => e ≠ .panic) s := by
  obtain ⟨re, hephemeral⟩ := Option.isSome_iff_exists.mp hephemeral
  obtain ⟨epoch, hepoch⟩ := Option.isSome_iff_exists.mp hepoch
  unfold writeMessage2
  refine wp_bind_iff.mpr (wp_requireRole (wp_bind_iff.mpr (wp_requireProgress ?_)))
  rw [wp_bind_iff, wp_expect_iff]
  refine ⟨fun _ _ => ?_, fun hnone => by rw [hephemeral] at hnone; cases hnone⟩
  rw [wp_bind_iff, wp_expect_iff]
  refine ⟨fun _ _ => ?_, fun hnone => by rw [hepoch] at hnone; cases hnone⟩
  simp only [wp_bind_iff, generateEphemeral, mixHash, mixKey, setProgress, wp_write_iff, wp_read_iff]
  refine wp_encryptAndHash fun _ _ => ?_
  rfl

/-! ## XK -/

/-- The optional fields that the rest of an XK handshake reads. -/
structure Armed (s : HandshakeState SecretKey PublicKey) : Prop where
  ephemeralKeypair : s.ephemeralKeypair.isSome
  localEpoch : s.localEpoch.isSome
  remoteStatic : s.role = .initiator → s.remoteStatic.isSome

omit [ChaCha20Poly1305] in
theorem wp_writeXkMessage1 (secretKey : SecretKey) (hstatic : s.remoteStatic.isSome)
    (hepoch : s.localEpoch.isSome) :
    wp (writeXkMessage1 secretKey) (fun _ s' => s'.Armed) (fun e _ => e ≠ .panic) s := by
  unfold writeXkMessage1
  refine wp_bind_iff.mpr (wp_requireRole (wp_bind_iff.mpr (wp_requireProgress ?_)))
  rw [wp_bind_iff, wp_expect_iff]
  refine ⟨fun _ _ => ?_, fun hnone => by rw [hnone] at hstatic; cases hstatic⟩
  simp only [wp_bind_iff, generateEphemeral, mixHash, mixKey, setProgress, wp_write_iff, wp_pure_iff]
  exact ⟨rfl, hepoch, fun _ => hstatic⟩

omit [ChaCha20Poly1305] in
theorem wp_readXkMessage1 (message : Bytes) :
    wp (readXkMessage1 message)
      (fun _ s' => s'.remoteEphemeral.isSome ∧ s'.localEpoch = s.localEpoch ∧ s'.role = .responder)
      (fun e _ => e ≠ .panic) s := by
  unfold readXkMessage1
  rw [wp_bind_iff, requireRole, wp_require_iff]
  refine ⟨fun hrole => wp_bind_iff.mpr (wp_requireProgress ?_), fun _ => error_ne_panic _⟩
  refine wp_bind_iff.mpr (wp_requireLength fun hlength => ?_)
  have hsize : message.length = 33 := hlength
  refine wp_bind_iff.mpr (wp_pureSlice (Nat.zero_le _) (by rw [hsize]; decide) ?_)
  refine wp_bind_iff.mpr (wp_parsePublicKey fun re => ?_)
  simp only [wp_bind_iff, mixHash, mixKey, setProgress, wp_write_iff, wp_read_iff]
  exact ⟨rfl, trivial, by simpa using hrole⟩

theorem wp_writeXkMessage2 (secretKey : SecretKey) (hephemeral : s.remoteEphemeral.isSome)
    (hepoch : s.localEpoch.isSome) :
    wp (writeXkMessage2 secretKey) (fun _ s' => s'.Armed) (fun e _ => e ≠ .panic) s := by
  unfold writeXkMessage2
  rw [wp_bind_iff, requireRole, wp_require_iff]
  refine ⟨fun hrole => wp_bind_iff.mpr (wp_requireProgress ?_), fun _ => error_ne_panic _⟩
  rw [wp_bind_iff, wp_expect_iff]
  refine ⟨fun _ _ => ?_, fun hnone => by rw [hnone] at hephemeral; cases hephemeral⟩
  rw [wp_bind_iff, wp_expect_iff]
  refine ⟨fun _ _ => ?_, fun hnone => by rw [hnone] at hepoch; cases hepoch⟩
  simp only [wp_bind_iff, generateEphemeral, mixHash, mixKey, setProgress, wp_write_iff]
  refine wp_encryptAndHash fun _ _ => ?_
  have hresponder : s.role = .responder := by simpa using hrole
  exact ⟨rfl, hepoch, fun hinitiator => by cases hresponder.symm.trans hinitiator⟩

theorem wp_readXkMessage2 (hsized : ChaCha20Poly1305.Sized) (hs : s.Armed) (message : Bytes) :
    wp (readXkMessage2 message) (fun _ s' => s'.Armed ∧ s'.remoteEphemeral.isSome)
      (fun e _ => e ≠ .panic) s := by
  unfold readXkMessage2
  refine wp_bind_iff.mpr (wp_requireRole (wp_bind_iff.mpr (wp_requireProgress ?_)))
  refine wp_bind_iff.mpr (wp_requireLength fun hlength => ?_)
  have hsize : message.length = 57 := hlength
  refine wp_bind_iff.mpr (wp_pureSlice (Nat.zero_le _) (by rw [hsize]; decide) ?_)
  refine wp_bind_iff.mpr (wp_parsePublicKey fun re => ?_)
  simp only [wp_bind_iff, mixHash, mixKey, wp_write_iff, wp_expect_iff]
  refine ⟨fun _ _ => ?_, fun hnone => ?_⟩
  · rw [sliceFrom_of_le (by rw [hsize]; decide)]
    refine wp_pureCall_iff.mpr ⟨fun encryptedEpoch heq => ?_, fun e he => (by cases he)⟩
    have hlast : encryptedEpoch.length = EPOCH_ENCRYPTED_SIZE := by
      rw [← Except.ok.inj heq, List.length_drop, hsize]
      rfl
    rw [wp_bind_iff]
    refine wp_readEpoch hsized ?_ hlast fun _ _ => ?_
    · rfl
    · exact ⟨⟨hs.ephemeralKeypair, hs.localEpoch, hs.remoteStatic⟩, rfl⟩
  · have hephemeral := hs.ephemeralKeypair
    rw [hnone] at hephemeral
    cases hephemeral

theorem wp_writeXkMessage3 (hs : s.Armed) (hephemeral : s.remoteEphemeral.isSome) :
    wp (writeXkMessage3 : M SecretKey PublicKey Bytes) (fun _ s' => s'.remoteStatic.isSome)
      (fun e _ => e ≠ .panic) s := by
  unfold writeXkMessage3
  rw [wp_bind_iff, requireRole, wp_require_iff]
  refine ⟨fun hrole => wp_bind_iff.mpr (wp_requireProgress ?_), fun _ => error_ne_panic _⟩
  rw [wp_bind_iff, wp_expect_iff]
  refine ⟨fun _ _ => ?_, fun hnone => by rw [hnone] at hephemeral; cases hephemeral⟩
  rw [wp_bind_iff, wp_expect_iff]
  refine ⟨fun _ _ => ?_, fun hnone => ?_⟩
  · simp only [wp_bind_iff, mixKey, setProgress, wp_read_iff]
    refine wp_encryptAndHash fun _ _ => ?_
    rw [wp_bind_iff, wp_write_iff, wp_bind_iff]
    refine wp_encryptAndHash fun _ _ => ?_
    exact hs.remoteStatic (by simpa using hrole)
  · have hepoch := hs.localEpoch
    rw [hnone] at hepoch
    cases hepoch

theorem wp_readXkMessage3 (hsized : ChaCha20Poly1305.Sized) (hs : s.Armed) (message : Bytes) :
    wp (readXkMessage3 message) (fun _ s' => s'.remoteStatic.isSome) (fun e _ => e ≠ .panic) s := by
  unfold readXkMessage3
  refine wp_bind_iff.mpr (wp_requireRole (wp_bind_iff.mpr (wp_requireProgress ?_)))
  refine wp_bind_iff.mpr (wp_requireLength fun hlength => ?_)
  have hsize : message.length = 73 := hlength
  refine wp_bind_iff.mpr (wp_pureSlice (Nat.zero_le _) (by rw [hsize]; decide) ?_)
  refine wp_bind_iff.mpr (wp_decryptAndHash fun decrypted symmetric => ?_)
  refine wp_bind_iff.mpr (wp_parsePublicKey fun rs => ?_)
  simp only [wp_bind_iff, mixKey, wp_write_iff, wp_expect_iff]
  refine ⟨fun _ _ => ?_, fun hnone => ?_⟩
  · rw [sliceFrom_of_le (by rw [hsize]; decide)]
    refine wp_pureCall_iff.mpr ⟨fun encryptedEpoch heq => ?_, fun e he => (by cases he)⟩
    have hlast : encryptedEpoch.length = EPOCH_ENCRYPTED_SIZE := by
      rw [← Except.ok.inj heq, List.length_drop, hsize]
      rfl
    rw [wp_bind_iff]
    refine wp_readEpoch hsized ?_ hlast fun _ _ => ?_
    · rfl
    · exact rfl
  · have hephemeral := hs.ephemeralKeypair
    rw [hnone] at hephemeral
    cases hephemeral

/-! ## Sessions -/

omit [Sha256] [ChaCha20Poly1305] [Secp256k1 SecretKey PublicKey] in
theorem noPanic_intoSession (hstatic : s.remoteStatic.isSome) : NoPanic s.intoSession := by
  unfold intoSession
  split_ifs
  · exact noPanic_error _
  · exact noPanic_bind (noPanic_unwrap hstatic) fun _ _ => noPanic_pure _

end HandshakeState

end Fips
