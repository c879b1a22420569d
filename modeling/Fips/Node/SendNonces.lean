import Fips.Lib.Run
import Fips.Noise.Handshake
import Fips.Node.PacketSize

/-!
# Nonces of sent frames

The counter in a frame's header is read by `current_send_counter`, the nonce is taken by
`next_nonce` inside `encrypt` and `encrypt_with_aad`. Both read the counter of the sending cipher,
which only `next_nonce` moves: after the size check, and never past `u64::MAX`.

A run is a list of calls on one session. The AEAD is any function, so that a ciphertext made of the
nonce says that this nonce was used.

## Results

* `keyed_intoSession`: a session from a handshake starts with a key and the counter 0.
* `call_cases`: a call takes the counter as its nonce and moves it on, or is refused.
* `nonce_discipline`: over any calls, the counter read before a successful call is its nonce, no
  nonce is taken twice, a refused call takes none, and 2^64 - 1 is never taken.
* `linkFrame_nonce`: the header of a link frame carries the nonce of its ciphertext.
-/

open Checked

namespace Fips

namespace CipherState

theorem counterToNonce_injective {m n : Nat} (hm : m ≤ U64_MAX) (hn : n ≤ U64_MAX)
    (h : counterToNonce m = counterToNonce n) : m = n := by
  have hbytes : leBytes 8 m = leBytes 8 n := List.append_cancel_left h
  have hbound : U64_MAX < 256 ^ 8 := by decide
  have hnat := congrArg leNat hbytes
  rwa [leNat_leBytes (hm.trans_lt hbound), leNat_leBytes (hn.trans_lt hbound)] at hnat

end CipherState

namespace NoiseSession

variable {PublicKey : Type} [ChaCha20Poly1305]

/-- `NoiseSession::encrypt`. -/
def encrypt (s : NoiseSession PublicKey) (plaintext : Bytes) :
    NoiseSession PublicKey × Except NoiseError Bytes :=
  let r := s.sendCipher.encrypt plaintext
  ({ s with sendCipher := r.1 }, r.2)

/-! ## Calls -/

/-- An encryption that a session is asked for. -/
inductive Call
  | encrypt (plaintext : Bytes)
  | encryptWithAad (plaintext aad : Bytes)
  deriving DecidableEq

/-- The plaintext of a call. -/
def Call.plaintext : Call → Bytes
  | .encrypt plaintext => plaintext
  | .encryptWithAad plaintext _ => plaintext

/-- The associated data of a call. -/
def Call.aad : Call → Bytes
  | .encrypt _ => []
  | .encryptWithAad _ aad => aad

/-- The session after a call, and the call's result. -/
def call (s : NoiseSession PublicKey) : Call → NoiseSession PublicKey × Except NoiseError Bytes
  | .encrypt plaintext => s.encrypt plaintext
  | .encryptWithAad plaintext aad => s.encryptWithAad plaintext aad

/-- The session after a call. -/
def afterCall (s : NoiseSession PublicKey) (c : Call) : NoiseSession PublicKey := (s.call c).1

/-- A successful call: what `current_send_counter` returned just before it, and its result. -/
structure Sealed where
  counter : Nat
  call : Call
  ciphertext : Bytes
  deriving DecidableEq

/-- What the call adds to the successful ones. -/
def sealedBy (s : NoiseSession PublicKey) (c : Call) : List Sealed :=
  match (s.call c).2 with
  | .ok ciphertext => [⟨s.currentSendCounter, c, ciphertext⟩]
  | .error _ => []

/-- The successful calls of a run, in order. -/
def sealedIn (s : NoiseSession PublicKey) : List Call → List Sealed
  | [] => []
  | c :: calls => s.sealedBy c ++ sealedIn (s.afterCall c) calls

/-- The error is that of the size check or of an exhausted counter. -/
def Refused : Except NoiseError Bytes → Prop
  | .error (.messageTooLarge _ _) => True
  | .error .nonceOverflow => True
  | _ => False

/-! ## One call -/

variable {s : NoiseSession PublicKey} {key : Bytes} {c : Call}

/-- The sending cipher has this key, and its counter is a `u64`. -/
structure SendsUnder (key : Bytes) (s : NoiseSession PublicKey) : Prop where
  hasKey : s.sendCipher.hasKey = true
  key : s.sendCipher.key = key
  counter : s.currentSendCounter ≤ U64_MAX

/-- **One call** is refused and leaves the session alone, or it takes the counter as its nonce and
moves the counter on. -/
theorem call_cases (h : s.SendsUnder key) (c : Call) :
    (Refused (s.call c).2 ∧ s.afterCall c = s) ∨
    (s.currentSendCounter < U64_MAX ∧ ¬ Refused (s.call c).2 ∧
      s.afterCall c = { s with sendCipher :=
        { s.sendCipher with nonce := s.currentSendCounter + 1 } } ∧
      ∀ ciphertext, (s.call c).2 = .ok ciphertext →
        ChaCha20Poly1305.encrypt key (CipherState.counterToNonce s.currentSendCounter) c.aad
          c.plaintext = some ciphertext) := by
  obtain ⟨hkey, rfl, hcounter⟩ := h
  have hcall : s.call c = s.encryptWithAad c.plaintext c.aad := by
    cases c with
    | encrypt plaintext => rfl
    | encryptWithAad plaintext aad => rfl
  unfold afterCall
  rw [hcall]
  unfold encryptWithAad CipherState.encryptWithAad
  rw [if_neg (by simp [hkey])]
  by_cases hsize : MAX_MESSAGE_SIZE - TAG_SIZE < c.plaintext.length
  · rw [if_pos hsize]
    exact .inl ⟨trivial, rfl⟩
  rw [if_neg hsize]
  unfold CipherState.nextNonce
  by_cases hmax : s.sendCipher.nonce = U64_MAX
  · rw [if_pos hmax]
    exact .inl ⟨trivial, rfl⟩
  rw [if_neg hmax]
  have hlt : s.currentSendCounter < U64_MAX := lt_of_le_of_ne hcounter hmax
  dsimp only
  cases hseal : ChaCha20Poly1305.encrypt s.sendCipher.key
      (CipherState.counterToNonce s.sendCipher.nonce) c.aad c.plaintext with
  | none => exact .inr ⟨hlt, id, rfl, fun _ hok => by cases hok⟩
  | some ciphertext =>
    refine .inr ⟨hlt, id, rfl, fun _ hok => ?_⟩
    cases hok
    exact hseal

theorem SendsUnder.afterCall (h : s.SendsUnder key) (c : Call) :
    (s.afterCall c).SendsUnder key := by
  rcases call_cases h c with ⟨-, hsame⟩ | ⟨hlt, -, hnext, -⟩
  · rwa [hsame]
  · rw [hnext]
    exact ⟨h.hasKey, h.key, hlt⟩

/-! ## Runs -/

theorem sealedBy_eq_nil (h : Refused (s.call c).2) : s.sealedBy c = [] := by
  unfold sealedBy
  cases hresult : (s.call c).2 with
  | error e => rfl
  | ok ciphertext =>
    rw [hresult] at h
    exact h.elim

/-- What a call seals was sealed under the counter that the session had. -/
theorem sealed_of_mem_sealedBy (h : s.SendsUnder key) {x : Sealed} (hx : x ∈ s.sealedBy c) :
    x.counter = s.currentSendCounter ∧ s.currentSendCounter < U64_MAX ∧
      (s.afterCall c).currentSendCounter = s.currentSendCounter + 1 ∧
      ChaCha20Poly1305.encrypt key (CipherState.counterToNonce x.counter) x.call.aad
        x.call.plaintext = some x.ciphertext := by
  rcases call_cases h c with ⟨hrefused, -⟩ | ⟨hlt, -, hnext, hnonce⟩
  · rw [sealedBy_eq_nil hrefused] at hx
    exact absurd hx List.not_mem_nil
  · unfold sealedBy at hx
    cases hresult : (s.call c).2 with
    | error e =>
      rw [hresult] at hx
      exact absurd hx List.not_mem_nil
    | ok ciphertext =>
      rw [hresult] at hx
      obtain rfl := List.mem_singleton.mp hx
      exact ⟨rfl, hlt, congrArg currentSendCounter hnext, hnonce ciphertext hresult⟩

theorem SendsUnder.counter_le_afterCall (h : s.SendsUnder key) (c : Call) :
    s.currentSendCounter ≤ (s.afterCall c).currentSendCounter := by
  rcases call_cases h c with ⟨-, hsame⟩ | ⟨-, -, hnext, -⟩
  · rw [hsame]
  · rw [hnext]
    exact Nat.le_succ _

theorem always_sendsUnder (h : s.SendsUnder key) (calls : List Call) :
    EventRun.Always NoiseSession.afterCall (SendsUnder key) s calls := by
  induction calls generalizing s with
  | nil => exact h
  | cons c calls ih => exact ⟨h, ih (h.afterCall c)⟩

/-- A run seals from its first counter on, each message under the nonce of its counter. -/
theorem sealed_of_mem_sealedIn (h : s.SendsUnder key) {calls : List Call} {x : Sealed}
    (hx : x ∈ s.sealedIn calls) :
    s.currentSendCounter ≤ x.counter ∧ x.counter < U64_MAX ∧
      ChaCha20Poly1305.encrypt key (CipherState.counterToNonce x.counter) x.call.aad
        x.call.plaintext = some x.ciphertext := by
  induction calls generalizing s with
  | nil => exact absurd hx List.not_mem_nil
  | cons c calls ih =>
    rcases List.mem_append.mp hx with hfirst | hrest
    · obtain ⟨hcounter, hlt, -, hnonce⟩ := sealed_of_mem_sealedBy h hfirst
      exact ⟨hcounter.ge, hcounter ▸ hlt, hnonce⟩
    · obtain ⟨hle, hlater⟩ := ih (h.afterCall c) hrest
      exact ⟨(h.counter_le_afterCall c).trans hle, hlater⟩

/-- The counters of a run go up. -/
theorem pairwise_sealedIn (h : s.SendsUnder key) (calls : List Call) :
    (s.sealedIn calls).Pairwise (fun x y => x.counter < y.counter) := by
  induction calls generalizing s with
  | nil => exact .nil
  | cons c calls ih =>
    have hone : (s.sealedBy c).Pairwise (fun x y => x.counter < y.counter) := by
      unfold sealedBy
      split
      · exact List.pairwise_singleton _ _
      · exact .nil
    refine List.pairwise_append.mpr ⟨hone, ih (h.afterCall c), fun x hx y hy => ?_⟩
    obtain ⟨hcounter, -, hnext, -⟩ := sealed_of_mem_sealedBy h hx
    have hle := (sealed_of_mem_sealedIn (h.afterCall c) hy).1
    omega

/-- No two messages of a run share a nonce. -/
theorem distinct_nonces (h : s.SendsUnder key) (calls : List Call) :
    (s.sealedIn calls).Pairwise
      (fun x y => CipherState.counterToNonce x.counter ≠ CipherState.counterToNonce y.counter) := by
  refine (pairwise_sealedIn h calls).imp_of_mem fun hx hy hlt hsame => ?_
  have hxmax := (sealed_of_mem_sealedIn h hx).2.1
  have hymax := (sealed_of_mem_sealedIn h hy).2.1
  exact hlt.ne (CipherState.counterToNonce_injective hxmax.le hymax.le hsame)

/-- A refused call leaves the session alone, wherever in a run it is made. -/
theorem along_refused (h : s.SendsUnder key) (calls : List Call) :
    EventRun.Along NoiseSession.afterCall
      (fun s c => Refused (s.call c).2 → s.afterCall c = s) s calls := by
  induction calls generalizing s with
  | nil => trivial
  | cons c calls ih =>
    refine ⟨fun hrefused => ?_, ih (h.afterCall c)⟩
    rcases call_cases h c with ⟨-, hsame⟩ | ⟨-, hnot, -⟩
    · exact hsame
    · exact absurd hrefused hnot

omit [ChaCha20Poly1305] in
theorem sendsUnder_fromHandshake (role : HandshakeRole) (sendKey recvKey hash : Bytes)
    (remoteStatic : PublicKey) :
    (fromHandshake role (.new sendKey) (.new recvKey) hash remoteStatic).SendsUnder sendKey :=
  ⟨rfl, rfl, Nat.zero_le _⟩

/-- **Nonce discipline**: over any calls on a session, the counter read before a successful call is
the nonce of that call, no two of them share a nonce, a refused call leaves the session alone, and
the counter stays a `u64` whose last value is never a nonce. -/
theorem nonce_discipline (role : HandshakeRole) (sendKey recvKey hash : Bytes)
    (remoteStatic : PublicKey) (calls : List Call) :
    let start := fromHandshake role (.new sendKey) (.new recvKey) hash remoteStatic
    (∀ x ∈ start.sealedIn calls,
      ChaCha20Poly1305.encrypt sendKey (CipherState.counterToNonce x.counter) x.call.aad
        x.call.plaintext = some x.ciphertext ∧ x.counter < U64_MAX) ∧
    (start.sealedIn calls).Pairwise
      (fun x y => CipherState.counterToNonce x.counter ≠ CipherState.counterToNonce y.counter) ∧
    EventRun.Along NoiseSession.afterCall
      (fun s c => Refused (s.call c).2 → s.afterCall c = s) start calls ∧
    EventRun.Always NoiseSession.afterCall (SendsUnder sendKey) start calls := by
  have hstart := sendsUnder_fromHandshake role sendKey recvKey hash remoteStatic
  refine ⟨fun x hx => ?_, distinct_nonces hstart calls, along_refused hstart calls,
    always_sendsUnder hstart calls⟩
  obtain ⟨-, hlt, hnonce⟩ := sealed_of_mem_sealedIn hstart hx
  exact ⟨hnonce, hlt⟩

end NoiseSession

/-! ## Where sessions and frames come from -/

/-- A session that a handshake makes sends under a key, from the counter 0. -/
theorem HandshakeState.keyed_intoSession {SecretKey PublicKey : Type}
    [Secp256k1 SecretKey PublicKey] [Sha256] [HkdfSha256]
    {handshake : HandshakeState SecretKey PublicKey} {session : NoiseSession PublicKey}
    (h : handshake.intoSession = .ok session) :
    session.currentSendCounter = 0 ∧ ∃ sendKey, session.SendsUnder sendKey := by
  unfold intoSession at h
  split_ifs at h
  obtain ⟨remoteStatic, -, h⟩ := bind_eq_ok.mp h
  cases hrole : handshake.role with
  | initiator =>
    rw [hrole] at h
    cases h
    exact ⟨rfl, _, NoiseSession.sendsUnder_fromHandshake ..⟩
  | responder =>
    rw [hrole] at h
    cases h
    exact ⟨rfl, _, NoiseSession.sendsUnder_fromHandshake ..⟩

section Frames

variable {ν SecretKey PublicKey : Type} [ChaCha20Poly1305] [Mmp ν]

/-- The header of a link frame carries the nonce of its ciphertext. -/
theorem linkFrame_nonce {nodeAddr : NodeAddr} {peer : ActivePeer SecretKey PublicKey ν} {now : Nat}
    {plaintext : Bytes} {ceFlag : Bool} {transportId : TransportId} {remoteAddr : TransportAddr}
    {frame sendKey : Bytes} {session : NoiseSession PublicKey}
    (hsession : peer.noiseSession = some session) (hkey : session.SendsUnder sendKey)
    (h : linkFrame nodeAddr peer now plaintext ceFlag = .ok (transportId, remoteAddr, frame)) :
    ∃ theirIndex ciphertext,
      let inner := prependInnerHeader (peer.sessionElapsedMs now) plaintext
      let header := buildEstablishedHeader theirIndex session.currentSendCounter
        (linkFlags peer ceFlag) inner.length
      frame = buildEncrypted header ciphertext ∧
        ChaCha20Poly1305.encrypt sendKey (CipherState.counterToNonce session.currentSendCounter)
          header inner = some ciphertext := by
  unfold linkFrame at h
  rw [hsession] at h
  obtain ⟨theirIndex, -, h⟩ := bind_eq_ok.mp h
  obtain ⟨_, -, h⟩ := bind_eq_ok.mp h
  obtain ⟨_, -, h⟩ := bind_eq_ok.mp h
  obtain ⟨_, hsome, h⟩ := bind_eq_ok.mp h
  cases hsome
  obtain ⟨ciphertext, hsealed, h⟩ := bind_eq_ok.mp h
  cases h
  refine ⟨theirIndex, ciphertext, rfl, ?_⟩
  have hok := ok_of_mapError (ofExcept_eq_ok.mp hsealed)
  let c := NoiseSession.Call.encryptWithAad
    (prependInnerHeader (peer.sessionElapsedMs now) plaintext)
    (buildEstablishedHeader theirIndex session.currentSendCounter (linkFlags peer ceFlag)
      (prependInnerHeader (peer.sessionElapsedMs now) plaintext).length)
  rcases NoiseSession.call_cases hkey c with ⟨hrefused, -⟩ | ⟨-, -, -, hnonce⟩
  · exact absurd (hok ▸ hrefused : NoiseSession.Refused (.ok ciphertext)) id
  · exact hnonce ciphertext hok

end Frames

end Fips
