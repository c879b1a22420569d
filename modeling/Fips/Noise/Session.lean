import Mathlib.Data.List.Nodup
import Fips.Noise.Replay

/-!
# Transport sessions

Model of `noise/session.rs`. `PublicKey` is the key type of the curve; a session only carries the
remote key.

## Results

* `receive_represents`: the replay window after any frames represents the counters whose plaintext
  was returned.
* `decrypt_at_most_once`: no counter is accepted twice, a frame that does not open changes nothing,
  and a frame that opens is refused exactly when its counter was accepted before or has left the
  window.
-/

namespace Fips

/-- `noise/session.rs:10-23`. -/
structure NoiseSession (PublicKey : Type) where
  role : HandshakeRole
  sendCipher : CipherState
  recvCipher : CipherState
  handshakeHash : Bytes
  remoteStatic : PublicKey
  replayWindow : ReplayWindow
  deriving DecidableEq

namespace NoiseSession

variable {PublicKey : Type}

/-- `NoiseSession::from_handshake`, with an empty replay window. -/
def fromHandshake (role : HandshakeRole) (sendCipher recvCipher : CipherState)
    (handshakeHash : Bytes) (remoteStatic : PublicKey) : NoiseSession PublicKey :=
  ⟨role, sendCipher, recvCipher, handshakeHash, remoteStatic, ReplayWindow.new⟩

/-- `NoiseSession::current_send_counter`: the nonce that the next frame will use. -/
def currentSendCounter (s : NoiseSession PublicKey) : Nat := s.sendCipher.nonce

variable [ChaCha20Poly1305]

/-- `NoiseSession::encrypt_with_aad`. -/
def encryptWithAad (s : NoiseSession PublicKey) (plaintext aad : Bytes) :
    NoiseSession PublicKey × Except NoiseError Bytes :=
  let r := s.sendCipher.encryptWithAad plaintext aad
  ({ s with sendCipher := r.1 }, r.2)

/-- `noise/session.rs:119-137`. -/
def decryptWithReplayCheckAndAad (s : NoiseSession PublicKey) (ciphertext : Bytes) (counter : Nat)
    (aad : Bytes) : NoiseSession PublicKey × Except NoiseError Bytes :=
  if !s.replayWindow.check counter then (s, .error (.replayDetected counter))
  else
    match s.recvCipher.decryptWithCounterAndAad ciphertext counter aad with
    | .error e => (s, .error e)
    | .ok plaintext => ({ s with replayWindow := s.replayWindow.accept counter }, .ok plaintext)

/-! ## One frame -/

/-- The arguments of one call. -/
structure Frame where
  ciphertext : Bytes
  counter : Nat
  aad : Bytes
  deriving DecidableEq

/-- `decrypt_with_replay_check_and_aad` on a frame of the wire. -/
def decryptFrame (s : NoiseSession PublicKey) (f : Frame) :
    NoiseSession PublicKey × Except NoiseError Bytes :=
  s.decryptWithReplayCheckAndAad f.ciphertext f.counter f.aad

/-- What the AEAD alone says of a frame. -/
def opens (s : NoiseSession PublicKey) (f : Frame) : Except NoiseError Bytes :=
  s.recvCipher.decryptWithCounterAndAad f.ciphertext f.counter f.aad

/-- The three outcomes of a call. -/
theorem decryptFrame_cases (s : NoiseSession PublicKey) (f : Frame) :
    (s.replayWindow.check f.counter = false ∧
      s.decryptFrame f = (s, .error (.replayDetected f.counter))) ∨
    (∃ e, s.replayWindow.check f.counter = true ∧ s.opens f = .error e ∧
      s.decryptFrame f = (s, .error e)) ∨
    (∃ pt, s.replayWindow.check f.counter = true ∧ s.opens f = .ok pt ∧
      s.decryptFrame f =
        ({ s with replayWindow := s.replayWindow.accept f.counter }, .ok pt)) := by
  unfold decryptFrame decryptWithReplayCheckAndAad opens
  cases hcheck : s.replayWindow.check f.counter with
  | false => exact .inl ⟨rfl, rfl⟩
  | true =>
    cases hopen : s.recvCipher.decryptWithCounterAndAad f.ciphertext f.counter f.aad with
    | error e => exact .inr (.inl ⟨e, rfl, rfl, rfl⟩)
    | ok pt => exact .inr (.inr ⟨pt, rfl, rfl, rfl⟩)

/-- Receiving touches only the replay window. -/
theorem decryptFrame_frame (s : NoiseSession PublicKey) (f : Frame) :
    ∃ w, (s.decryptFrame f).1 = { s with replayWindow := w } := by
  rcases s.decryptFrame_cases f with ⟨-, heq⟩ | ⟨_, -, -, heq⟩ | ⟨_, -, -, heq⟩
  · exact ⟨s.replayWindow, by rw [heq]⟩
  · exact ⟨s.replayWindow, by rw [heq]⟩
  · exact ⟨s.replayWindow.accept f.counter, by rw [heq]⟩

theorem decryptFrame_of_opens_error {s : NoiseSession PublicKey} {f : Frame} {e : NoiseError}
    (h : s.opens f = .error e) : ∃ e', s.decryptFrame f = (s, .error e') := by
  rcases s.decryptFrame_cases f with ⟨-, heq⟩ | ⟨e', -, -, heq⟩ | ⟨_, -, hopen, -⟩
  · exact ⟨_, heq⟩
  · exact ⟨e', heq⟩
  · rw [h] at hopen
    cases hopen

/-- The drain fallback of both frame handlers: the current session, then the one it replaced. The
error is that of the current session. -/
def decryptWithFallback (s : NoiseSession PublicKey) (previous : Option (NoiseSession PublicKey))
    (f : Frame) : NoiseSession PublicKey × Option (NoiseSession PublicKey) ×
      Except NoiseError Bytes :=
  match s.decryptFrame f with
  | (s', .ok plaintext) => (s', previous, .ok plaintext)
  | (s', .error e) =>
    match previous with
    | none => (s', none, .error e)
    | some prev =>
      match prev.decryptFrame f with
      | (prev', .ok plaintext) => (s', some prev', .ok plaintext)
      | (prev', .error _) => (s', some prev', .error e)

/-- The AEAD refuses the frame under the session. -/
def Refuses (s : NoiseSession PublicKey) (f : Frame) : Prop := ∃ e, s.opens f = .error e

/-- A frame that neither session opens changes neither. -/
theorem decryptWithFallback_of_refuses {s : NoiseSession PublicKey}
    {previous : Option (NoiseSession PublicKey)} {f : Frame} (h : s.Refuses f)
    (hprev : ∀ prev ∈ previous, prev.Refuses f) :
    ∃ e, s.decryptWithFallback previous f = (s, previous, .error e) := by
  obtain ⟨e, he⟩ := h
  obtain ⟨e', hdec⟩ := decryptFrame_of_opens_error he
  unfold decryptWithFallback
  rw [hdec]
  cases previous with
  | none => exact ⟨e', rfl⟩
  | some prev =>
    obtain ⟨_, hprev⟩ := hprev prev rfl
    obtain ⟨_, hdec'⟩ := decryptFrame_of_opens_error hprev
    change ∃ e, (match prev.decryptFrame f with
      | (prev', .ok plaintext) => (s, some prev', Except.ok plaintext)
      | (prev', .error _) => (s, some prev', .error e')) = _
    rw [hdec']
    exact ⟨e', rfl⟩

/-! ## All frames of a session -/

/-- The session after a list of calls. -/
def receive (s : NoiseSession PublicKey) (frames : List Frame) : NoiseSession PublicKey :=
  frames.foldl (fun s f => (s.decryptFrame f).1) s

/-- The counters whose plaintext was returned, in order. -/
def accepted (s : NoiseSession PublicKey) : List Frame → List Nat
  | [] => []
  | f :: frames =>
    let r := s.decryptFrame f
    match r.2 with
    | .error _ => r.1.accepted frames
    | .ok _ => f.counter :: r.1.accepted frames

/-- **The window is the history**: whatever it represented before the calls, it now represents that
followed by the counters accepted during them, and no counter is accepted again. -/
theorem receive_represents (s : NoiseSession PublicKey) (frames : List Frame) {before : List Nat}
    (h : s.replayWindow.Represents before) (hnodup : before.Nodup) :
    (s.receive frames).replayWindow.Represents (before ++ s.accepted frames) ∧
      (before ++ s.accepted frames).Nodup := by
  induction frames generalizing s before with
  | nil =>
    rw [accepted, List.append_nil]
    exact ⟨h, hnodup⟩
  | cons f frames ih =>
    change ((s.decryptFrame f).1.receive frames).replayWindow.Represents _ ∧ _
    unfold accepted
    rcases s.decryptFrame_cases f with ⟨-, heq⟩ | ⟨_, -, -, heq⟩ | ⟨pt, hcheck, -, heq⟩
    · rw [heq]
      exact ih s h hnodup
    · rw [heq]
      exact ih s h hnodup
    · rw [heq]
      have hfresh : f.counter ∉ before := fun hmem => by
        rw [h.check_eq_false_iff.mpr (.inl hmem)] at hcheck
        cases hcheck
      have hnodup' : (before ++ [f.counter]).Nodup :=
        List.Nodup.append hnodup (List.nodup_singleton _) (by simpa using hfresh)
      have := ih { s with replayWindow := s.replayWindow.accept f.counter } (h.accept hcheck)
        hnodup'
      rwa [List.append_assoc] at this

/-- **At most once, and nothing refused without reason.** For the frames of one session in any
order: no counter's plaintext is returned twice; a frame that does not open leaves the session as it
was; a frame that opens is refused as a replay exactly when its counter was accepted before or lies
a window size below an accepted one, and is decrypted otherwise. -/
theorem decrypt_at_most_once (role : HandshakeRole) (sendCipher recvCipher : CipherState)
    (handshakeHash : Bytes) (remoteStatic : PublicKey) (frames : List Frame) :
    let start := fromHandshake role sendCipher recvCipher handshakeHash remoteStatic
    let s := start.receive frames
    (start.accepted frames).Nodup ∧
    ∀ f : Frame,
      (∀ e, s.opens f = .error e → (s.decryptFrame f).1 = s) ∧
      ∀ pt, s.opens f = .ok pt →
        let replayed := f.counter ∈ start.accepted frames ∨
          ∃ c ∈ start.accepted frames, f.counter + REPLAY_WINDOW_SIZE ≤ c
        ((s.decryptFrame f).2 = .error (.replayDetected f.counter) ↔ replayed) ∧
          (¬ replayed → (s.decryptFrame f).2 = .ok pt) := by
  intro start s
  obtain ⟨hrep, hnodup⟩ :=
    start.receive_represents frames ReplayWindow.represents_new List.nodup_nil
  rw [List.nil_append] at hrep hnodup
  refine ⟨hnodup, fun f => ⟨fun e he => ?_, fun pt hpt => ?_⟩⟩
  · rcases s.decryptFrame_cases f with ⟨-, heq⟩ | ⟨_, -, -, heq⟩ | ⟨_, -, hopen, -⟩
    · rw [heq]
    · rw [heq]
    · rw [he] at hopen
      cases hopen
  · intro replayed
    have hiff : s.replayWindow.check f.counter = false ↔ replayed := hrep.check_eq_false_iff
    rw [← hiff]
    rcases s.decryptFrame_cases f with ⟨hcheck, heq⟩ | ⟨_, -, hopen, -⟩ | ⟨pt', hcheck, hopen, heq⟩
    · rw [heq, hcheck]
      exact ⟨iff_of_true rfl rfl, fun h => absurd rfl h⟩
    · rw [hpt] at hopen
      cases hopen
    · rw [hpt] at hopen
      rw [heq, hcheck, Except.ok.inj hopen]
      exact ⟨by simp, fun _ => rfl⟩

end NoiseSession

end Fips
