import Fips.Lib.Checked
import Fips.Lib.HandshakePattern
import Fips.Noise.Session

/-!
# The handshake state machine

Model of `noise/handshake.rs`. SHA-256, HKDF and the curve are parameters, as the AEAD is. A key
pair of the source is its secret key here. An ephemeral key is drawn at random where it is used; it
is an argument of the method that draws it. `expect` and `unwrap` stop the computation, and what was
changed before a failure stays changed.

`SymmetricState.log` is not in the source: it keeps the inputs of `mix_hash` and `mix_key`, the
oldest first, so that a handshake can be compared with its pattern.

## Results

* `decryptAndHash_encryptAndHash`: under the documented behaviour of the AEAD, what one party
  encrypts the other decrypts, and both end in the same symmetric state.
-/

open Checked HandshakePattern

namespace Fips

/-- The `hkdf` crate over SHA-256: 64 bytes of output for a salt and key material. -/
class HkdfSha256 where
  expand (salt ikm : Bytes) : Bytes

/-- The `secp256k1` crate. `sharedSecretPoint` is the product of a public and a secret key, 32 bytes
of the one coordinate followed by 32 bytes of the other. -/
class Secp256k1 (SecretKey : Type) (PublicKey : outParam Type) where
  publicKey : SecretKey → PublicKey
  serialize : PublicKey → Bytes
  fromSlice : Bytes → Option PublicKey
  sharedSecretPoint : PublicKey → SecretKey → Bytes

/-- What the documentation of the AEAD says of an honest exchange. -/
structure ChaCha20Poly1305.Lawful [ChaCha20Poly1305] : Prop where
  decrypt_encrypt : ∀ key nonce aad msg : Bytes, msg.length ≤ MAX_MESSAGE_SIZE - TAG_SIZE →
    ∃ ciphertext, encrypt key nonce aad msg = some ciphertext ∧
      ciphertext.length = msg.length + TAG_SIZE ∧ decrypt key nonce aad ciphertext = some msg

section Curve

variable (SecretKey : Type) {PublicKey : Type} [Secp256k1 SecretKey PublicKey]

/-- Two keys with the same `x` coordinate. -/
def SameX (P Q : PublicKey) : Prop :=
  (Secp256k1.serialize SecretKey P).tail = (Secp256k1.serialize SecretKey Q).tail

/-- What the exchange relies on of the curve. -/
structure Secp256k1.Lawful : Prop where
  serialize_length : ∀ P : PublicKey, (serialize SecretKey P).length = PUBKEY_SIZE
  fromSlice_serialize : ∀ P : PublicKey, fromSlice SecretKey (serialize SecretKey P) = some P
  shared_comm : ∀ a b : SecretKey,
    (sharedSecretPoint (publicKey a) b).take 32 = (sharedSecretPoint (publicKey b) a).take 32
  shared_sameX : ∀ (P Q : PublicKey) (k : SecretKey), SameX SecretKey P Q →
    (sharedSecretPoint P k).take 32 = (sharedSecretPoint Q k).take 32

end Curve

/-- `Noise_IK_secp256k1_ChaChaPoly_SHA256`. -/
def PROTOCOL_NAME_IK : Bytes :=
  [78, 111, 105, 115, 101, 95, 73, 75, 95, 115, 101, 99, 112, 50, 53, 54, 107, 49, 95, 67,
   104, 97, 67, 104, 97, 80, 111, 108, 121, 95, 83, 72, 65, 50, 53, 54]

/-- `Noise_XK_secp256k1_ChaChaPoly_SHA256`. -/
def PROTOCOL_NAME_XK : Bytes :=
  [78, 111, 105, 115, 101, 95, 88, 75, 95, 115, 101, 99, 112, 50, 53, 54, 107, 49, 95, 67,
   104, 97, 67, 104, 97, 80, 111, 108, 121, 95, 83, 72, 65, 50, 53, 54]

/-! ## The symmetric state -/

/-- `noise/handshake.rs:16-23`. -/
structure SymmetricState where
  ck : Bytes
  h : Bytes
  cipher : CipherState
  log : List (Mix Bytes)
  deriving DecidableEq

namespace SymmetricState

variable [Sha256] [HkdfSha256] [ChaCha20Poly1305]

/-- `SymmetricState::initialize`. -/
def initial (protocolName : Bytes) : SymmetricState :=
  let h :=
    if protocolName.length ≤ 32 then
      protocolName ++ List.replicate (32 - protocolName.length) 0
    else Sha256.digest protocolName
  ⟨h, h, CipherState.empty, []⟩

/-- `SymmetricState::mix_hash`. -/
def mixHash (x : SymmetricState) (data : Bytes) : SymmetricState :=
  { x with h := Sha256.digest (x.h ++ data), log := x.log ++ [.hash data] }

/-- `SymmetricState::mix_key`: HKDF gives the new chaining key and the cipher's key. -/
def mixKey (x : SymmetricState) (inputKeyMaterial : Bytes) : SymmetricState :=
  let output := HkdfSha256.expand x.ck inputKeyMaterial
  { x with
    ck := output.take 32
    cipher := x.cipher.initializeKey ((output.drop 32).take 32)
    log := x.log ++ [.key inputKeyMaterial] }

/-- `SymmetricState::encrypt_and_hash`. The cipher is given no associated data. -/
def encryptAndHash (x : SymmetricState) (plaintext : Bytes) :
    SymmetricState × Except NoiseError Bytes :=
  match x.cipher.encrypt plaintext with
  | (c, .error e) => ({ x with cipher := c }, .error e)
  | (c, .ok ciphertext) => ({ x with cipher := c }.mixHash ciphertext, .ok ciphertext)

/-- `SymmetricState::decrypt_and_hash`; nothing is mixed in when the cipher refuses. -/
def decryptAndHash (x : SymmetricState) (ciphertext : Bytes) :
    SymmetricState × Except NoiseError Bytes :=
  match x.cipher.decrypt ciphertext with
  | (c, .error e) => ({ x with cipher := c }, .error e)
  | (c, .ok plaintext) => ({ x with cipher := c }.mixHash ciphertext, .ok plaintext)

/-- `SymmetricState::split`: the two directions' ciphers, the initiator's first. -/
def split (x : SymmetricState) : CipherState × CipherState :=
  let output := HkdfSha256.expand x.ck []
  (CipherState.new (output.take 32), CipherState.new ((output.drop 32).take 32))

/-! ### Honest ciphertexts -/

/-- A key is set and has encrypted `n` messages. -/
structure Keyed (x : SymmetricState) (n : Nat) : Prop where
  hasKey : x.cipher.hasKey = true
  nonce : x.cipher.nonce = n

omit [Sha256] [ChaCha20Poly1305] in
theorem keyed_mixKey (x : SymmetricState) (material : Bytes) : (x.mixKey material).Keyed 0 :=
  ⟨rfl, rfl⟩

omit [HkdfSha256] [ChaCha20Poly1305] in
theorem Keyed.mixHash {x : SymmetricState} {n : Nat} (h : x.Keyed n) (data : Bytes) :
    (x.mixHash data).Keyed n :=
  ⟨h.hasKey, h.nonce⟩

omit [HkdfSha256] in
/-- **Encrypting and decrypting** end in the same state. -/
theorem decryptAndHash_encryptAndHash {x : SymmetricState} {n : Nat} (hx : x.Keyed n)
    (haead : ChaCha20Poly1305.Lawful) (hn : n ≠ U64_MAX) {plaintext : Bytes}
    (hlen : plaintext.length ≤ MAX_MESSAGE_SIZE - TAG_SIZE) :
    ∃ ciphertext x', x'.Keyed (n + 1) ∧ ciphertext.length = plaintext.length + TAG_SIZE ∧
      x.encryptAndHash plaintext = (x', .ok ciphertext) ∧
      x.decryptAndHash ciphertext = (x', .ok plaintext) := by
  obtain ⟨ciphertext, henc, hclen, hdec⟩ := haead.decrypt_encrypt x.cipher.key
    (CipherState.counterToNonce x.cipher.nonce) [] plaintext hlen
  have hnonce : x.cipher.nextNonce = ({ x.cipher with nonce := x.cipher.nonce + 1 },
      .ok (CipherState.counterToNonce x.cipher.nonce)) := by
    unfold CipherState.nextNonce
    rw [if_neg (by rw [hx.nonce]; exact hn)]
  have hshort : ¬ ciphertext.length < TAG_SIZE := by omega
  refine ⟨ciphertext,
    ({ x with cipher := { x.cipher with nonce := x.cipher.nonce + 1 } }).mixHash ciphertext,
    ⟨hx.hasKey, congrArg (· + 1) hx.nonce⟩, hclen, ?_, ?_⟩
  · simp [encryptAndHash, CipherState.encrypt, CipherState.encryptWithAad, hx.hasKey,
      Nat.not_lt.mpr hlen, hnonce, henc]
  · simp [decryptAndHash, CipherState.decrypt, hx.hasKey, hshort, hnonce, hdec]

/-- The first message under a new key. -/
theorem decryptAndHash_encryptAndHash_mixKey (haead : ChaCha20Poly1305.Lawful)
    (x : SymmetricState) (material : Bytes) {plaintext : Bytes}
    (hlen : plaintext.length ≤ MAX_MESSAGE_SIZE - TAG_SIZE) :
    ∃ ciphertext x', x'.Keyed 1 ∧ ciphertext.length = plaintext.length + TAG_SIZE ∧
      (x.mixKey material).encryptAndHash plaintext = (x', .ok ciphertext) ∧
      (x.mixKey material).decryptAndHash ciphertext = (x', .ok plaintext) :=
  decryptAndHash_encryptAndHash (x.keyed_mixKey material) haead (by decide) hlen

end SymmetricState

/-! ## The handshake state -/

/-- `[u8; 8]`. -/
structure Epoch where
  bytes : Bytes
  length_eq : bytes.length = EPOCH_SIZE
  deriving DecidableEq

theorem Epoch.length_le (epoch : Epoch) : epoch.bytes.length ≤ MAX_MESSAGE_SIZE - TAG_SIZE := by
  rw [epoch.length_eq]
  decide

/-- `copy_from_slice` into an epoch, which stops on any other length. -/
def Epoch.copyFromSlice (bytes : Bytes) : Result NoiseError Epoch :=
  if h : bytes.length = EPOCH_SIZE then .ok ⟨bytes, h⟩ else .error .panic

theorem Epoch.copyFromSlice_eq_ok {bytes : Bytes} {epoch : Epoch} :
    Epoch.copyFromSlice bytes = .ok epoch ↔ bytes = epoch.bytes := by
  unfold Epoch.copyFromSlice
  split_ifs with h
  · rw [Except.ok.injEq, Epoch.mk.injEq]
  · refine iff_of_false (fun h => by cases h) ?_
    rintro rfl
    exact h epoch.length_eq

/-- `noise/handshake.rs:104-133`. -/
structure HandshakeState (SecretKey PublicKey : Type) where
  pattern : NoisePattern
  role : HandshakeRole
  progress : HandshakeProgress
  symmetric : SymmetricState
  staticKeypair : SecretKey
  ephemeralKeypair : Option SecretKey
  remoteStatic : Option PublicKey
  remoteEphemeral : Option PublicKey
  localEpoch : Option Epoch
  remoteEpoch : Option Epoch

namespace HandshakeState

variable {SecretKey PublicKey : Type}
variable [Sha256] [HkdfSha256] [ChaCha20Poly1305] [Secp256k1 SecretKey PublicKey]

/-- The key with its parity byte forced to even. -/
def normalizeForPremessage (SecretKey : Type) {PublicKey : Type} [Secp256k1 SecretKey PublicKey]
    (pubkey : PublicKey) : Bytes :=
  (Secp256k1.serialize SecretKey pubkey).set 0 0x02

/-- The four constructors differ in pattern, role and known key; the pre-message is the responder's
static key. -/
def start (pattern : NoisePattern) (protocolName : Bytes) (role : HandshakeRole)
    (staticKeypair : SecretKey) (remoteStatic : Option PublicKey) (premessage : PublicKey) :
    HandshakeState SecretKey PublicKey where
  pattern := pattern
  role := role
  progress := .initial
  symmetric :=
    (SymmetricState.initial protocolName).mixHash (normalizeForPremessage SecretKey premessage)
  staticKeypair := staticKeypair
  ephemeralKeypair := none
  remoteStatic := remoteStatic
  remoteEphemeral := none
  localEpoch := none
  remoteEpoch := none

/-- `HandshakeState::new_initiator`. -/
def newInitiator (staticKeypair : SecretKey) (remoteStatic : PublicKey) :
    HandshakeState SecretKey PublicKey :=
  start .ik PROTOCOL_NAME_IK .initiator staticKeypair (some remoteStatic) remoteStatic

/-- `HandshakeState::new_responder`: whoever calls is not known yet. -/
def newResponder (staticKeypair : SecretKey) : HandshakeState SecretKey PublicKey :=
  start .ik PROTOCOL_NAME_IK .responder staticKeypair none (Secp256k1.publicKey staticKeypair)

/-- `HandshakeState::new_xk_initiator`. -/
def newXkInitiator (staticKeypair : SecretKey) (remoteStatic : PublicKey) :
    HandshakeState SecretKey PublicKey :=
  start .xk PROTOCOL_NAME_XK .initiator staticKeypair (some remoteStatic) remoteStatic

/-- `HandshakeState::new_xk_responder`: whoever calls is not known before msg3. -/
def newXkResponder (staticKeypair : SecretKey) : HandshakeState SecretKey PublicKey :=
  start .xk PROTOCOL_NAME_XK .responder staticKeypair none (Secp256k1.publicKey staticKeypair)

/-- `HandshakeState::set_local_epoch`. -/
def setLocalEpoch (s : HandshakeState SecretKey PublicKey) (epoch : Epoch) :
    HandshakeState SecretKey PublicKey :=
  { s with localEpoch := some epoch }

/-- `HandshakeState::is_complete`. -/
def isComplete (s : HandshakeState SecretKey PublicKey) : Bool := s.progress == .complete

/-- SHA-256 of the `x` coordinate of the shared point. -/
def ecdh (ourSecret : SecretKey) (theirPublic : PublicKey) : Bytes :=
  Sha256.digest ((Secp256k1.sharedSecretPoint theirPublic ourSecret).take 32)

/-! ### Steps shared by the messages -/

/-- A method of `HandshakeState`. -/
abbrev M (SecretKey PublicKey α : Type) := Method (HandshakeState SecretKey PublicKey) NoiseError α

/-- The role check at the head of every message function. -/
def requireRole (role : HandshakeRole) : M SecretKey PublicKey Unit :=
  require (fun s => s.role == role) fun s => .wrongState role.toString s.role.toString

/-- The progress check at the head of every message function. -/
def requireProgress (progress : HandshakeProgress) : M SecretKey PublicKey Unit :=
  require (fun s => s.progress == progress)
    fun s => .wrongState progress.toString s.progress.toString

/-- The length check of every read function. -/
def requireLength (size : Nat) (message : Bytes) : M SecretKey PublicKey Unit :=
  require (fun _ => message.length == size) fun _ => .messageTooShort size message.length

/-- `mix_hash` on the handshake's symmetric state. -/
def mixHash (data : Bytes) : M SecretKey PublicKey Unit :=
  write fun s => { s with symmetric := s.symmetric.mixHash data }

/-- `mix_key` on the handshake's symmetric state. -/
def mixKey (material : Bytes) : M SecretKey PublicKey Unit :=
  write fun s => { s with symmetric := s.symmetric.mixKey material }

/-- `encrypt_and_hash` on the handshake's symmetric state. -/
def encryptAndHash (plaintext : Bytes) : M SecretKey PublicKey Bytes :=
  lift fun s =>
    let r := s.symmetric.encryptAndHash plaintext
    ({ s with symmetric := r.1 }, r.2)

/-- `decrypt_and_hash` on the handshake's symmetric state. -/
def decryptAndHash (ciphertext : Bytes) : M SecretKey PublicKey Bytes :=
  lift fun s =>
    let r := s.symmetric.decryptAndHash ciphertext
    ({ s with symmetric := r.1 }, r.2)

/-- `HandshakeState::generate_ephemeral`, with the key that the random source gave. -/
def generateEphemeral (secretKey : SecretKey) : M SecretKey PublicKey Unit :=
  write fun s => { s with ephemeralKeypair := some secretKey }

/-- The assignment to `self.progress` that ends a message function. -/
def setProgress (progress : HandshakeProgress) : M SecretKey PublicKey Unit :=
  write fun s => { s with progress := progress }

/-- `PublicKey::from_slice(..).map_err(|_| InvalidPublicKey)`. -/
def parsePublicKey (bytes : Bytes) : M SecretKey PublicKey PublicKey :=
  pureCall (okOr .invalidPublicKey (Secp256k1.fromSlice SecretKey bytes))

/-- Decrypt the other side's epoch and keep it. -/
def readEpoch (encryptedEpoch : Bytes) : M SecretKey PublicKey Unit := do
  let decryptedEpoch ← decryptAndHash encryptedEpoch
  let epoch ← pureCall (Epoch.copyFromSlice decryptedEpoch)
  write fun s => { s with remoteEpoch := some epoch }

section Runs

variable {s s' : HandshakeState SecretKey PublicKey} {u : Unit}

omit [Sha256] [HkdfSha256] [ChaCha20Poly1305] [Secp256k1 SecretKey PublicKey]

@[simp] theorem runs_requireRole_iff {role : HandshakeRole} :
    Runs (requireRole role) s u s' ↔ s.role = role ∧ s' = s := by
  simp [requireRole]

@[simp] theorem runs_requireProgress_iff {progress : HandshakeProgress} :
    Runs (requireProgress progress) s u s' ↔ s.progress = progress ∧ s' = s := by
  simp [requireProgress]

@[simp] theorem runs_requireLength_iff {size : Nat} {message : Bytes} :
    Runs (requireLength size message) s u s' ↔ message.length = size ∧ s' = s := by
  simp [requireLength]

@[simp] theorem runs_mixHash_iff [Sha256] {data : Bytes} :
    Runs (mixHash data) s u s' ↔ s' = { s with symmetric := s.symmetric.mixHash data } := by
  simp [mixHash]

@[simp] theorem runs_mixKey_iff [HkdfSha256] {material : Bytes} :
    Runs (mixKey material) s u s' ↔ s' = { s with symmetric := s.symmetric.mixKey material } := by
  simp [mixKey]

@[simp] theorem runs_generateEphemeral_iff {secretKey : SecretKey} :
    Runs (generateEphemeral secretKey) s u s' ↔
      s' = { s with ephemeralKeypair := some secretKey } := by
  simp [generateEphemeral]

@[simp] theorem runs_setProgress_iff {progress : HandshakeProgress} :
    Runs (setProgress progress) s u s' ↔ s' = { s with progress := progress } := by
  simp [setProgress]

@[simp] theorem runs_encryptAndHash_iff [Sha256] [ChaCha20Poly1305]
    {plaintext ciphertext : Bytes} :
    Runs (encryptAndHash plaintext) s ciphertext s' ↔
      (s.symmetric.encryptAndHash plaintext).2 = .ok ciphertext ∧
      s' = { s with symmetric := (s.symmetric.encryptAndHash plaintext).1 } := by
  simp [encryptAndHash, eq_comm, and_comm]

@[simp] theorem runs_decryptAndHash_iff [Sha256] [ChaCha20Poly1305]
    {plaintext ciphertext : Bytes} :
    Runs (decryptAndHash ciphertext) s plaintext s' ↔
      (s.symmetric.decryptAndHash ciphertext).2 = .ok plaintext ∧
      s' = { s with symmetric := (s.symmetric.decryptAndHash ciphertext).1 } := by
  simp [decryptAndHash, eq_comm, and_comm]

@[simp] theorem runs_parsePublicKey_iff [Secp256k1 SecretKey PublicKey] {bytes : Bytes}
    {key : PublicKey} :
    Runs (parsePublicKey bytes) s key s' ↔
      Secp256k1.fromSlice SecretKey bytes = some key ∧ s' = s := by
  simp [parsePublicKey, okOr_eq_ok]

@[simp] theorem runs_readEpoch_iff [Sha256] [ChaCha20Poly1305] {encryptedEpoch : Bytes} :
    Runs (readEpoch encryptedEpoch) s u s' ↔
      ∃ epoch : Epoch, (s.symmetric.decryptAndHash encryptedEpoch).2 = .ok epoch.bytes ∧
        s' = { s with
          symmetric := (s.symmetric.decryptAndHash encryptedEpoch).1
          remoteEpoch := some epoch } := by
  simp only [readEpoch, runs_bind_iff, runs_decryptAndHash_iff, runs_pureCall_iff,
    Epoch.copyFromSlice_eq_ok, runs_write_iff]
  constructor
  · rintro ⟨_, _, ⟨hdec, rfl⟩, epoch, _, ⟨hepoch, rfl⟩, rfl⟩
    exact ⟨epoch, by rw [hdec, hepoch], rfl⟩
  · rintro ⟨epoch, hdec, rfl⟩
    exact ⟨_, _, ⟨hdec, rfl⟩, epoch, _, ⟨rfl, rfl⟩, rfl⟩

end Runs

/-! ### IK -/

/-- `noise/handshake.rs:332-385`. -/
def writeMessage1 (secretKey : SecretKey) : M SecretKey PublicKey Bytes := do
  requireRole .initiator
  requireProgress .initial
  let remoteStatic ← expect (·.remoteStatic)
  let epoch ← expect (·.localEpoch)
  generateEphemeral secretKey
  let ePub := Secp256k1.serialize SecretKey (Secp256k1.publicKey secretKey)
  -- -> e, es
  mixHash ePub
  mixKey (ecdh secretKey remoteStatic)
  -- -> s, ss
  let staticKeypair ← read (·.staticKeypair)
  let encryptedStatic ←
    encryptAndHash (Secp256k1.serialize SecretKey (Secp256k1.publicKey staticKeypair))
  mixKey (ecdh staticKeypair remoteStatic)
  let encryptedEpoch ← encryptAndHash epoch.bytes
  setProgress .message1Done
  pure (ePub ++ encryptedStatic ++ encryptedEpoch)

/-- `noise/handshake.rs:390-445`. -/
def readMessage1 (message : Bytes) : M SecretKey PublicKey Unit := do
  requireRole .responder
  requireProgress .initial
  requireLength HANDSHAKE_MSG1_SIZE message
  -- -> e, es
  let ePub ← pureCall (slice message 0 PUBKEY_SIZE)
  let re ← parsePublicKey ePub
  write fun s => { s with remoteEphemeral := some re }
  mixHash ePub
  let staticKeypair ← read (·.staticKeypair)
  mixKey (ecdh staticKeypair re)
  -- -> s, ss
  let encryptedStaticEnd := PUBKEY_SIZE + PUBKEY_SIZE + TAG_SIZE
  let encryptedStatic ← pureCall (slice message PUBKEY_SIZE encryptedStaticEnd)
  let decryptedStatic ← decryptAndHash encryptedStatic
  let rs ← parsePublicKey decryptedStatic
  write fun s => { s with remoteStatic := some rs }
  mixKey (ecdh staticKeypair rs)
  let encryptedEpoch ← pureCall (sliceFrom message encryptedStaticEnd)
  readEpoch encryptedEpoch
  setProgress .message1Done

/-- `noise/handshake.rs:454-500`. -/
def writeMessage2 (secretKey : SecretKey) : M SecretKey PublicKey Bytes := do
  requireRole .responder
  requireProgress .message1Done
  let re ← expect (·.remoteEphemeral)
  let epoch ← expect (·.localEpoch)
  generateEphemeral secretKey
  let ePub := Secp256k1.serialize SecretKey (Secp256k1.publicKey secretKey)
  -- <- e, ee
  mixHash ePub
  mixKey (ecdh secretKey re)
  -- the second key mixed in, which the source calls `se`
  let staticKeypair ← read (·.staticKeypair)
  mixKey (ecdh staticKeypair re)
  let encryptedEpoch ← encryptAndHash epoch.bytes
  setProgress .complete
  pure (ePub ++ encryptedEpoch)

/-- `noise/handshake.rs:505-554`. -/
def readMessage2 (message : Bytes) : M SecretKey PublicKey Unit := do
  requireRole .initiator
  requireProgress .message1Done
  requireLength HANDSHAKE_MSG2_SIZE message
  -- <- e, ee
  let ePub ← pureCall (slice message 0 PUBKEY_SIZE)
  let re ← parsePublicKey ePub
  write fun s => { s with remoteEphemeral := some re }
  mixHash ePub
  let ephemeral ← expect (·.ephemeralKeypair)
  mixKey (ecdh ephemeral re)
  -- the second key mixed in, which the source calls `se`
  let rs ← expect (·.remoteStatic)
  mixKey (ecdh ephemeral rs)
  let encryptedEpoch ← pureCall (sliceFrom message PUBKEY_SIZE)
  readEpoch encryptedEpoch
  setProgress .complete

/-! ### XK -/

/-- `noise/handshake.rs:567-603`. -/
def writeXkMessage1 (secretKey : SecretKey) : M SecretKey PublicKey Bytes := do
  requireRole .initiator
  requireProgress .initial
  let remoteStatic ← expect (·.remoteStatic)
  generateEphemeral secretKey
  let ePub := Secp256k1.serialize SecretKey (Secp256k1.publicKey secretKey)
  -- -> e, es
  mixHash ePub
  mixKey (ecdh secretKey remoteStatic)
  setProgress .message1Done
  pure ePub

/-- `noise/handshake.rs:609-643`. -/
def readXkMessage1 (message : Bytes) : M SecretKey PublicKey Unit := do
  requireRole .responder
  requireProgress .initial
  requireLength XK_HANDSHAKE_MSG1_SIZE message
  -- -> e, es
  let ePub ← pureCall (slice message 0 PUBKEY_SIZE)
  let re ← parsePublicKey ePub
  write fun s => { s with remoteEphemeral := some re }
  mixHash ePub
  let staticKeypair ← read (·.staticKeypair)
  mixKey (ecdh staticKeypair re)
  setProgress .message1Done

/-- `noise/handshake.rs:653-695`. -/
def writeXkMessage2 (secretKey : SecretKey) : M SecretKey PublicKey Bytes := do
  requireRole .responder
  requireProgress .message1Done
  let re ← expect (·.remoteEphemeral)
  let epoch ← expect (·.localEpoch)
  generateEphemeral secretKey
  let ePub := Secp256k1.serialize SecretKey (Secp256k1.publicKey secretKey)
  -- <- e, ee
  mixHash ePub
  mixKey (ecdh secretKey re)
  let encryptedEpoch ← encryptAndHash epoch.bytes
  setProgress .message2Done
  pure (ePub ++ encryptedEpoch)

/-- `noise/handshake.rs:701-744`. -/
def readXkMessage2 (message : Bytes) : M SecretKey PublicKey Unit := do
  requireRole .initiator
  requireProgress .message1Done
  requireLength XK_HANDSHAKE_MSG2_SIZE message
  -- <- e, ee
  let ePub ← pureCall (slice message 0 PUBKEY_SIZE)
  let re ← parsePublicKey ePub
  write fun s => { s with remoteEphemeral := some re }
  mixHash ePub
  let ephemeral ← expect (·.ephemeralKeypair)
  mixKey (ecdh ephemeral re)
  let encryptedEpoch ← pureCall (sliceFrom message PUBKEY_SIZE)
  readEpoch encryptedEpoch
  setProgress .message2Done

/-- `noise/handshake.rs:754-794`. -/
def writeXkMessage3 : M SecretKey PublicKey Bytes := do
  requireRole .initiator
  requireProgress .message2Done
  let re ← expect (·.remoteEphemeral)
  let epoch ← expect (·.localEpoch)
  -- -> s, se
  let staticKeypair ← read (·.staticKeypair)
  let encryptedStatic ←
    encryptAndHash (Secp256k1.serialize SecretKey (Secp256k1.publicKey staticKeypair))
  mixKey (ecdh staticKeypair re)
  let encryptedEpoch ← encryptAndHash epoch.bytes
  setProgress .complete
  pure (encryptedStatic ++ encryptedEpoch)

/-- `noise/handshake.rs:800-849`. -/
def readXkMessage3 (message : Bytes) : M SecretKey PublicKey Unit := do
  requireRole .responder
  requireProgress .message2Done
  requireLength XK_HANDSHAKE_MSG3_SIZE message
  -- -> s, se
  let encryptedStaticEnd := PUBKEY_SIZE + TAG_SIZE
  let encryptedStatic ← pureCall (slice message 0 encryptedStaticEnd)
  let decryptedStatic ← decryptAndHash encryptedStatic
  let rs ← parsePublicKey decryptedStatic
  write fun s => { s with remoteStatic := some rs }
  let ephemeral ← expect (·.ephemeralKeypair)
  mixKey (ecdh ephemeral rs)
  let encryptedEpoch ← pureCall (sliceFrom message encryptedStaticEnd)
  readEpoch encryptedEpoch
  setProgress .complete

/-- `noise/handshake.rs:854-879`. -/
def intoSession (s : HandshakeState SecretKey PublicKey) :
    Result NoiseError (NoiseSession PublicKey) :=
  if !s.isComplete then .error (.error .handshakeNotComplete)
  else
    let (c1, c2) := s.symmetric.split
    do
      let remoteStatic ← unwrap s.remoteStatic
      let (sendCipher, recvCipher) :=
        match s.role with
        | .initiator => (c1, c2)
        | .responder => (c2, c1)
      pure (NoiseSession.fromHandshake s.role sendCipher recvCipher s.symmetric.h remoteStatic)

end HandshakeState

end Fips
