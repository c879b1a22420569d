import Fips.Wire.Bytes

/-!
# Noise errors, constants and the cipher state

Model of `noise/mod.rs`.

The AEAD (`chacha20poly1305` crate) is a parameter with no law assumed here: encryption and
decryption under a key, a 12-byte nonce and additional data, each of which may fail. `CipherState`
counters are `u64`; the only place where the width matters is the check against `u64::MAX` in
`next_nonce`.

Every method that takes `&mut self` returns the new state next to its result, since the source
keeps what was changed before a failure.
-/

namespace Fips

/-- The `chacha20poly1305` crate: key, nonce, additional data, message. -/
class ChaCha20Poly1305 where
  encrypt (key nonce aad msg : Bytes) : Option Bytes
  decrypt (key nonce aad msg : Bytes) : Option Bytes

/-- `noise/mod.rs:59-91`. -/
def MAX_MESSAGE_SIZE : Nat := 65535

/-- `TAG_SIZE`: the tag that ChaCha20-Poly1305 appends. -/
def TAG_SIZE : Nat := 16

/-- `PUBKEY_SIZE`: a compressed secp256k1 point. -/
def PUBKEY_SIZE : Nat := 33

/-- `EPOCH_SIZE`: the startup epoch by which a restart is told. -/
def EPOCH_SIZE : Nat := 8

/-- `EPOCH_ENCRYPTED_SIZE`. -/
def EPOCH_ENCRYPTED_SIZE : Nat := EPOCH_SIZE + TAG_SIZE

/-- `HANDSHAKE_MSG1_SIZE`: IK message 1, ephemeral, encrypted static and encrypted epoch. -/
def HANDSHAKE_MSG1_SIZE : Nat := PUBKEY_SIZE + PUBKEY_SIZE + TAG_SIZE + EPOCH_ENCRYPTED_SIZE

/-- `HANDSHAKE_MSG2_SIZE`: IK message 2, ephemeral and encrypted epoch. -/
def HANDSHAKE_MSG2_SIZE : Nat := PUBKEY_SIZE + EPOCH_ENCRYPTED_SIZE

/-- `XK_HANDSHAKE_MSG1_SIZE`: the ephemeral alone. -/
def XK_HANDSHAKE_MSG1_SIZE : Nat := PUBKEY_SIZE

/-- `XK_HANDSHAKE_MSG2_SIZE`: ephemeral and encrypted epoch. -/
def XK_HANDSHAKE_MSG2_SIZE : Nat := PUBKEY_SIZE + EPOCH_ENCRYPTED_SIZE

/-- `XK_HANDSHAKE_MSG3_SIZE`: encrypted static and encrypted epoch. -/
def XK_HANDSHAKE_MSG3_SIZE : Nat := PUBKEY_SIZE + TAG_SIZE + EPOCH_ENCRYPTED_SIZE

/-- `REPLAY_WINDOW_SIZE`, in frames. -/
def REPLAY_WINDOW_SIZE : Nat := 2048

/-- `u64::MAX`, the counter that no frame may carry. -/
def U64_MAX : Nat := 18446744073709551615

/-- `NoiseError`. -/
inductive NoiseError
  | handshakeNotComplete
  | handshakeAlreadyComplete
  | wrongState (expected got : String)
  | invalidPublicKey
  | decryptionFailed
  | encryptionFailed
  | messageTooLarge (size max : Nat)
  | messageTooShort (expected got : Nat)
  | nonceOverflow
  | replayDetected (counter : Nat)
  deriving DecidableEq, Repr

/-- `HandshakeRole`. -/
inductive HandshakeRole
  | initiator
  | responder
  deriving DecidableEq, Repr

/-- `Display`. -/
def HandshakeRole.toString : HandshakeRole → String
  | .initiator => "initiator"
  | .responder => "responder"

/-- `NoisePattern`: IK for links, XK for sessions. -/
inductive NoisePattern
  | ik
  | xk
  deriving DecidableEq, Repr

/-- `HandshakeProgress`; XK alone passes through `message2Done`. -/
inductive HandshakeProgress
  | initial
  | message1Done
  | message2Done
  | complete
  deriving DecidableEq, Repr

/-- `Display`. -/
def HandshakeProgress.toString : HandshakeProgress → String
  | .initial => "initial"
  | .message1Done => "message1_done"
  | .message2Done => "message2_done"
  | .complete => "complete"

/-- A cipher key with the counter of the next nonce. -/
structure CipherState where
  key : Bytes
  nonce : Nat
  hasKey : Bool
  deriving DecidableEq, Repr

namespace CipherState

/-- `CipherState::new`. -/
def new (key : Bytes) : CipherState := ⟨key, 0, true⟩

/-- `CipherState::empty`: no key, so that plaintext passes unchanged. -/
def empty : CipherState := ⟨List.replicate 32 0, 0, false⟩

/-- `CipherState::initialize_key`: a new key starts its nonces from zero. -/
def initializeKey (c : CipherState) (key : Bytes) : CipherState :=
  { c with key := key, nonce := 0, hasKey := true }

/-- `CipherState::counter_to_nonce`: four zero bytes and the counter in little endian. -/
def counterToNonce (counter : Nat) : Bytes := List.replicate 4 0 ++ leBytes 8 counter

/-- `CipherState::next_nonce`: the counter steps with each use and stops before it would wrap. -/
def nextNonce (c : CipherState) : CipherState × Except NoiseError Bytes :=
  if c.nonce = U64_MAX then (c, .error .nonceOverflow)
  else ({ c with nonce := c.nonce + 1 }, .ok (counterToNonce c.nonce))

variable [ChaCha20Poly1305]

/-- `CipherState::encrypt_with_aad`. -/
def encryptWithAad (c : CipherState) (plaintext aad : Bytes) :
    CipherState × Except NoiseError Bytes :=
  if !c.hasKey then (c, .ok plaintext)
  else if MAX_MESSAGE_SIZE - TAG_SIZE < plaintext.length then
    (c, .error (.messageTooLarge plaintext.length (MAX_MESSAGE_SIZE - TAG_SIZE)))
  else
    match c.nextNonce with
    | (c', .error e) => (c', .error e)
    | (c', .ok nonce) =>
      match ChaCha20Poly1305.encrypt c.key nonce aad plaintext with
      | none => (c', .error .encryptionFailed)
      | some ciphertext => (c', .ok ciphertext)

theorem hasKey_encryptWithAad (c : CipherState) (plaintext aad : Bytes) :
    (c.encryptWithAad plaintext aad).1.hasKey = c.hasKey := by
  unfold encryptWithAad nextNonce
  split_ifs
  · rfl
  · rfl
  · rfl
  · dsimp only
    split <;> rfl

theorem key_encryptWithAad (c : CipherState) (plaintext aad : Bytes) :
    (c.encryptWithAad plaintext aad).1.key = c.key := by
  unfold encryptWithAad nextNonce
  split_ifs
  · rfl
  · rfl
  · rfl
  · dsimp only
    split <;> rfl

/-- Encryption takes one nonce at most. -/
theorem nonce_encryptWithAad_le (c : CipherState) (plaintext aad : Bytes) :
    (c.encryptWithAad plaintext aad).1.nonce ≤ c.nonce + 1 := by
  unfold encryptWithAad nextNonce
  split_ifs
  · exact Nat.le_succ _
  · exact Nat.le_succ _
  · exact Nat.le_succ _
  · dsimp only
    split <;> exact Nat.le_refl _

/-- The same without additional data. -/
def encrypt (c : CipherState) (plaintext : Bytes) : CipherState × Except NoiseError Bytes :=
  c.encryptWithAad plaintext []

/-- Decryption with the internal counter. The counter moves before the AEAD check. -/
def decrypt (c : CipherState) (ciphertext : Bytes) : CipherState × Except NoiseError Bytes :=
  if !c.hasKey then (c, .ok ciphertext)
  else if ciphertext.length < TAG_SIZE then
    (c, .error (.messageTooShort TAG_SIZE ciphertext.length))
  else
    match c.nextNonce with
    | (c', .error e) => (c', .error e)
    | (c', .ok nonce) =>
      match ChaCha20Poly1305.decrypt c.key nonce [] ciphertext with
      | none => (c', .error .decryptionFailed)
      | some plaintext => (c', .ok plaintext)

/-- `CipherState::decrypt_with_counter_and_aad`: the nonce is the frame's own counter, and the
cipher's state stays. -/
def decryptWithCounterAndAad (c : CipherState) (ciphertext : Bytes) (counter : Nat)
    (aad : Bytes) : Except NoiseError Bytes :=
  if !c.hasKey then .ok ciphertext
  else if ciphertext.length < TAG_SIZE then
    .error (.messageTooShort TAG_SIZE ciphertext.length)
  else
    match ChaCha20Poly1305.decrypt c.key (counterToNonce counter) aad ciphertext with
    | none => .error .decryptionFailed
    | some plaintext => .ok plaintext

end CipherState

end Fips
