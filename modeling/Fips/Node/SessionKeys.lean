import Fips.Node.KBitRun
import Fips.Peer.Connection

/-!
# The keys of a session

The address that a session is held under and the key of its other side, over the runs of
`KBitRun.lean`: whatever session messages come from whatever claimed source, and whatever sessions
and rekeys begin here.

A key is one of an address if the address is `NodeAddr::from_pubkey` of it. As initiator a node knows
the key of the other side before it sends anything, and a handshake does not change it. As responder
it learns the key from the third message, under whatever source the datagram says it comes from:
`revealedKey` is that key.

## Results

* `HandshakeState.remoteStatic_intoSession`: the key of a session is that of its handshake.
* `wp_bound_onSessionMsg3`, `wp_forged_onSessionMsg3`: a third message with a key of its source, and
  with another.
* `Bound.step`, `not_authentic_step`: one event.
* `authentic_iff_genuine`: in a run, every session and every registered identity has a key of its
  address if and only if every third message that completes a handshake reveals one.
* `session_of_another`: a session under the address of another node.
-/

open Checked EventRun

namespace Fips

variable {SecretKey PublicKey ν μ : Type}

variable (SecretKey) in
/-- The key is one of the address. -/
def KeyOf [Sha256] [Secp256k1 SecretKey PublicKey] (addr : NodeAddr) (pubkey : PublicKey) : Prop :=
  NodeAddr.fromPubkey SecretKey pubkey = addr

instance [Sha256] [Secp256k1 SecretKey PublicKey] (addr : NodeAddr) (pubkey : PublicKey) :
    Decidable (KeyOf SecretKey addr pubkey) := inferInstanceAs (Decidable (_ = _))

/-! ## Handshakes -/

namespace HandshakeState

section Handshakes

variable {s s' : HandshakeState SecretKey PublicKey} {message : Bytes}

/-- A step of a handshake that leaves the key of the other side. -/
theorem remoteStatic_of_frames {α : Type} {a : α} {m : M SecretKey PublicKey α}
    (hm : Frames (·.remoteStatic) m) (h : call m s = .ok (a, s')) :
    s'.remoteStatic = s.remoteStatic := by
  have hrun := hm s
  rw [call_eq_ok.mp h] at hrun
  exact hrun

/-- A check reads the handshake and leaves it. -/
theorem frames_require {p : HandshakeState SecretKey PublicKey → Bool}
    {e : HandshakeState SecretKey PublicKey → NoiseError} :
    Frames (·.remoteStatic) (require p e : M SecretKey PublicKey Unit) := by
  intro s
  unfold require
  split_ifs <;> rfl

variable [Sha256] [HkdfSha256] [ChaCha20Poly1305] [Secp256k1 SecretKey PublicKey]

omit [HkdfSha256] [Secp256k1 SecretKey PublicKey] in
theorem frames_readEpoch (encryptedEpoch : Bytes) :
    Frames (·.remoteStatic) (readEpoch encryptedEpoch : M SecretKey PublicKey Unit) := by
  unfold readEpoch
  refine Frames.bind (fun _ => rfl) fun _ => (frames_pureCall _).bind fun _ => ?_
  exact frames_write fun _ => rfl

omit [ChaCha20Poly1305] in
/-- The first message leaves the static key that is called. -/
theorem frames_writeXkMessage1 (secretKey : SecretKey) :
    Frames (·.remoteStatic) (writeXkMessage1 secretKey : M SecretKey PublicKey Bytes) := by
  unfold writeXkMessage1
  refine frames_require.bind fun _ => frames_require.bind fun _ => (frames_expect _).bind fun _ => ?_
  refine Frames.bind (fun _ => rfl) fun _ => Frames.bind (fun _ => rfl) fun _ => ?_
  refine Frames.bind (fun _ => rfl) fun _ => Frames.bind (fun _ => rfl) fun _ => ?_
  exact frames_pure _

/-- The initiator knows the responder's static key from the start, and the second message brings no
other. -/
theorem frames_readXkMessage2 (message : Bytes) :
    Frames (·.remoteStatic) (readXkMessage2 message : M SecretKey PublicKey Unit) := by
  unfold readXkMessage2
  refine frames_require.bind fun _ => frames_require.bind fun _ => frames_require.bind fun _ => ?_
  refine (frames_pureCall _).bind fun _ => (frames_pureCall _).bind fun _ => ?_
  refine Frames.bind (fun _ => rfl) fun _ => Frames.bind (fun _ => rfl) fun _ => ?_
  refine (frames_expect _).bind fun _ => Frames.bind (fun _ => rfl) fun _ => ?_
  refine (frames_pureCall _).bind fun _ => (frames_readEpoch _).bind fun _ => ?_
  exact frames_write fun _ => rfl

/-- Only the responder learns a static key, from the third message. -/
theorem frames_writeXkMessage3 :
    Frames (·.remoteStatic) (writeXkMessage3 : M SecretKey PublicKey Bytes) := by
  unfold writeXkMessage3
  refine frames_require.bind fun _ => frames_require.bind fun _ => ?_
  refine (frames_expect _).bind fun _ => (frames_expect _).bind fun _ => (frames_read _).bind
    fun _ => ?_
  refine Frames.bind (fun _ => rfl) fun _ => Frames.bind (fun _ => rfl) fun _ => ?_
  refine Frames.bind (fun _ => rfl) fun _ => Frames.bind (fun _ => rfl) fun _ => ?_
  exact frames_pure _

omit [Sha256] [ChaCha20Poly1305] [Secp256k1 SecretKey PublicKey] in
/-- **The key of a session** is that of its handshake. -/
theorem remoteStatic_intoSession {session : NoiseSession PublicKey}
    (h : s.intoSession = .ok session) : s.remoteStatic = some session.remoteStatic := by
  unfold intoSession at h
  split_ifs at h
  obtain ⟨remoteStatic, hstatic, h⟩ := bind_eq_ok.mp h
  rw [unwrap_eq_ok.mp hstatic]
  cases s.role <;> cases h <;> rfl

omit [Sha256] [ChaCha20Poly1305] [Secp256k1 SecretKey PublicKey] in
/-- A complete handshake that knows its partner gives a session. -/
theorem intoSession_of_complete {remotePubkey : PublicKey} (hdone : s.progress = .complete)
    (hstatic : s.remoteStatic = some remotePubkey) : ∃ session, s.intoSession = .ok session := by
  unfold intoSession isComplete
  rw [if_neg (by simp [hdone]), hstatic]
  exact ⟨_, rfl⟩

/-- A third message that is accepted completes the handshake. -/
theorem complete_of_readXkMessage3 (h : call (readXkMessage3 message) s = .ok ((), s')) :
    s'.progress = .complete ∧ ∃ remotePubkey, s'.remoteStatic = some remotePubkey := by
  rw [call_eq_ok] at h
  simp only [readXkMessage3, runs_bind_iff, runs_setProgress_iff, runs_readEpoch_iff,
    runs_pureCall_iff, runs_mixKey_iff, runs_expect_iff, runs_write_iff, runs_parsePublicKey_iff] at h
  obtain ⟨_, _, -, _, _, -, _, _, -, _, _, ⟨-, rfl⟩, _, _, -, rs, _, ⟨-, rfl⟩, _, _, rfl, _, _,
    ⟨-, rfl⟩, _, _, rfl, _, _, ⟨-, rfl⟩, _, _, ⟨_, -, rfl⟩, rfl⟩ := h
  exact ⟨rfl, rs, rfl⟩

/-- A third message that is accepted has the third message's length. -/
theorem length_of_readXkMessage3 (h : call (readXkMessage3 message) s = .ok ((), s')) :
    message.length = XK_HANDSHAKE_MSG3_SIZE := by
  rw [call_eq_ok] at h
  simp only [readXkMessage3, runs_bind_iff, runs_requireLength_iff] at h
  obtain ⟨_, _, -, _, _, -, _, _, ⟨hlen, -⟩, -⟩ := h
  exact hlen

end Handshakes

end HandshakeState

/-- A frame changes the keys of neither session. -/
theorem NoiseSession.remoteStatic_decryptWithFallback [ChaCha20Poly1305]
    (s : NoiseSession PublicKey) (previous : Option (NoiseSession PublicKey)) (f : NoiseSession.Frame) :
    (s.decryptWithFallback previous f).1.remoteStatic = s.remoteStatic ∧
      ∀ prev', (s.decryptWithFallback previous f).2.1 = some prev' →
        ∃ prev, previous = some prev ∧ prev'.remoteStatic = prev.remoteStatic := by
  have hframe : ∀ s : NoiseSession PublicKey, (s.decryptFrame f).1.remoteStatic = s.remoteStatic := by
    intro s
    obtain ⟨w, hw⟩ := s.decryptFrame_frame f
    rw [hw]
  have hs := hframe s
  unfold NoiseSession.decryptWithFallback
  rcases hdec : s.decryptFrame f with ⟨s', r⟩
  rw [hdec] at hs
  cases r with
  | ok plaintext => exact ⟨hs, fun prev' hprev' => ⟨prev', hprev', rfl⟩⟩
  | error e =>
    cases previous with
    | none => exact ⟨hs, fun prev' hprev' => by cases hprev'⟩
    | some prev =>
      have hprev := hframe prev
      rcases hdec' : prev.decryptFrame f with ⟨prev', r'⟩
      rw [hdec'] at hprev
      dsimp only
      rw [hdec']
      cases r' with
      | ok plaintext => exact ⟨hs, fun _ hsome => ⟨prev, rfl, by cases hsome; exact hprev⟩⟩
      | error e' => exact ⟨hs, fun _ hsome => ⟨prev, rfl, by cases hsome; exact hprev⟩⟩

/-- The other side of the handshake is known, by a key of the address. -/
def HandshakeState.Knows [Sha256] [Secp256k1 SecretKey PublicKey] (addr : NodeAddr)
    (handshake : HandshakeState SecretKey PublicKey) : Prop :=
  ∃ pubkey, handshake.remoteStatic = some pubkey ∧ KeyOf SecretKey addr pubkey

/-! ## Entries -/

namespace SessionEntry

variable [Sha256] [Secp256k1 SecretKey PublicKey] {addr : NodeAddr}
  {e e' : SessionEntry SecretKey PublicKey μ} {session : NoiseSession PublicKey}
  {handshake : HandshakeState SecretKey PublicKey}

/-- The sessions of the entry are with a key of the address. -/
structure HasKeysOf (addr : NodeAddr) (e : SessionEntry SecretKey PublicKey μ) : Prop where
  current : ∀ session, e.state = some (.established session) →
    KeyOf SecretKey addr session.remoteStatic
  pending : ∀ session, e.pendingNewSession = some session →
    KeyOf SecretKey addr session.remoteStatic
  previous : ∀ session, e.previousNoiseSession = some session →
    KeyOf SecretKey addr session.remoteStatic

/-- So is what the next session will be made of. An entry that waits for a third message has a
placeholder for the key. -/
structure BoundTo (addr : NodeAddr) (e : SessionEntry SecretKey PublicKey μ) : Prop
    extends HasKeysOf addr e where
  initiating : ∀ handshake, e.state = some (.initiating handshake) → handshake.Knows addr
  rekeying : ∀ handshake, e.isAwaitingMsg3 = false → e.rekeyState = some handshake →
    e.rekeyInitiator = true → handshake.Knows addr
  pubkey : e.isAwaitingMsg3 = false → KeyOf SecretKey addr e.remotePubkey
  settled : e.isAwaitingMsg3 = true → e.pendingNewSession = none

omit [Sha256] [Secp256k1 SecretKey PublicKey] in
theorem state_of_current (h : e.current = some session) : e.state = some (.established session) := by
  unfold SessionEntry.current at h
  split at h
  · rename_i session' hstate
    cases h
    exact hstate
  · cases h

omit [Sha256] [Secp256k1 SecretKey PublicKey] in
/-- The phases of an entry exclude one another. -/
theorem not_awaiting_of_established (h : e.isEstablished = true) : e.isAwaitingMsg3 = false := by
  obtain ⟨session, hstate⟩ := isEstablished_iff.mp h
  unfold isAwaitingMsg3
  rw [hstate]
  rfl

/-- An entry with the same sessions, handshakes and key. -/
theorem BoundTo.congr (h : BoundTo addr e) (hstate : e'.state = e.state)
    (hpending : e'.pendingNewSession = e.pendingNewSession)
    (hprevious : e'.previousNoiseSession = e.previousNoiseSession)
    (hrekey : e'.rekeyState = e.rekeyState) (hinitiator : e'.rekeyInitiator = e.rekeyInitiator)
    (hpubkey : e'.remotePubkey = e.remotePubkey) : BoundTo addr e' := by
  have hphase : e'.isAwaitingMsg3 = e.isAwaitingMsg3 := by
    unfold isAwaitingMsg3
    rw [hstate]
  refine ⟨⟨?_, ?_, ?_⟩, ?_, ?_, ?_, ?_⟩
  · rw [hstate]
    exact h.current
  · rw [hpending]
    exact h.pending
  · rw [hprevious]
    exact h.previous
  · rw [hstate]
    exact h.initiating
  · rw [hphase, hrekey, hinitiator]
    exact h.rekeying
  · rw [hphase, hpubkey]
    exact h.pubkey
  · rw [hphase, hpending]
    exact h.settled

/-- What a send or a receipt notes in an entry is no key. -/
theorem BoundTo.note [SessionMmp μ] (h : BoundTo addr e) (hnote : Notes e e') : BoundTo addr e' :=
  h.congr hnote.state hnote.pendingNewSession hnote.previousNoiseSession hnote.rekeyState
    hnote.rekeyInitiator hnote.remotePubkey

/-- An entry that waits for a third message. -/
theorem boundTo_awaiting (pubkey : PublicKey) (nowMs nextResendAtMs : Nat) (isInitiator : Bool)
    (payload : Bytes) :
    BoundTo addr ((new addr pubkey (.awaitingMsg3 handshake) nowMs isInitiator :
      SessionEntry SecretKey PublicKey μ).setHandshakePayload payload nextResendAtMs) := by
  refine ⟨⟨?_, ?_, ?_⟩, ?_, ?_, ?_, fun _ => rfl⟩
  · intro session hstate
    cases hstate
  · intro session hpending
    cases hpending
  · intro session hprevious
    cases hprevious
  · intro handshake hstate
    cases hstate
  · intro handshake hphase
    cases hphase
  · intro hphase
    cases hphase

/-- An entry that waits for an answer. -/
theorem boundTo_initiating {pubkey : PublicKey} (hkey : KeyOf SecretKey addr pubkey)
    (hknows : handshake.Knows addr) (nowMs nextResendAtMs : Nat) (isInitiator : Bool)
    (payload : Bytes) :
    BoundTo addr ((new addr pubkey (.initiating handshake) nowMs isInitiator :
      SessionEntry SecretKey PublicKey μ).setHandshakePayload payload nextResendAtMs) := by
  refine ⟨⟨?_, ?_, ?_⟩, ?_, ?_, fun _ => hkey, fun _ => rfl⟩
  · intro session hstate
    cases hstate
  · intro session hpending
    cases hpending
  · intro session hprevious
    cases hprevious
  · intro handshake hstate
    cases hstate
    exact hknows
  · intro handshake _ hrekey
    cases hrekey

/-- An entry that is established from its beginning. -/
theorem boundTo_established [SessionMmp μ] {pubkey : PublicKey} (hkey : KeyOf SecretKey addr pubkey)
    (hsession : KeyOf SecretKey addr session.remoteStatic) {isInitiator : Bool}
    {createdAt warmups nowMs : Nat} :
    BoundTo addr (((((new addr pubkey (.established session) createdAt isInitiator :
      SessionEntry SecretKey PublicKey μ).setCoordsWarmupRemaining warmups).markEstablished
        nowMs).initMmp).touch nowMs) := by
  refine ⟨⟨?_, ?_, ?_⟩, ?_, ?_, fun _ => hkey, fun _ => rfl⟩
  · rintro _ ⟨⟩
    exact hsession
  · rintro _ ⟨⟩
  · rintro _ ⟨⟩
  · rintro _ ⟨⟩
  · rintro _ _ ⟨⟩

/-- A session as the current one, where none waits for a third message. -/
theorem BoundTo.setEstablished (h : BoundTo addr e) (hphase : e.isAwaitingMsg3 = false)
    (hkey : KeyOf SecretKey addr session.remoteStatic) :
    BoundTo addr (e.setState (.established session)) := by
  refine ⟨⟨?_, h.pending, h.previous⟩, ?_, fun handshake _ => h.rekeying handshake hphase,
    fun _ => h.pubkey hphase, fun hawaiting => (by cases hawaiting)⟩
  · intro session hstate
    cases hstate
    exact hkey
  · intro handshake hstate
    cases hstate

/-- A rekey ends with a session to cut over to. -/
theorem BoundTo.setPendingSession (h : BoundTo addr e) (hphase : e.isAwaitingMsg3 = false)
    (hkey : KeyOf SecretKey addr session.remoteStatic) :
    BoundTo addr (e.setPendingSession session) := by
  refine ⟨⟨h.current, ?_, h.previous⟩, h.initiating, ?_, h.pubkey, fun hawaiting => ?_⟩
  · intro session hpending
    cases hpending
    exact hkey
  · intro handshake _ hrekey
    cases hrekey
  · exact absurd (hphase.symm.trans hawaiting) Bool.false_ne_true

theorem BoundTo.abandonRekey (h : BoundTo addr e) : BoundTo addr e.abandonRekey := by
  refine ⟨⟨h.current, ?_, h.previous⟩, h.initiating, ?_, h.pubkey, fun _ => rfl⟩
  · intro session hpending
    cases hpending
  · intro handshake _ hrekey
    cases hrekey

/-- A rekey begins. -/
theorem BoundTo.setRekeyState (h : BoundTo addr e) {isInitiator : Bool}
    (hknows : isInitiator = true → e.isAwaitingMsg3 = false → handshake.Knows addr) :
    BoundTo addr (e.setRekeyState handshake isInitiator) := by
  refine ⟨⟨h.current, h.pending, h.previous⟩, h.initiating, ?_, h.pubkey, h.settled⟩
  rintro _ hphase ⟨⟩ hinitiator
  exact hknows hinitiator hphase

/-- A rekey whose handshake was taken out. -/
theorem BoundTo.takeRekeyState (h : BoundTo addr e) :
    BoundTo addr { e with rekeyState := none } := by
  refine ⟨⟨h.current, h.pending, h.previous⟩, h.initiating, ?_, h.pubkey, h.settled⟩
  intro handshake _ hrekey
  cases hrekey

theorem BoundTo.completeDrain (h : BoundTo addr e) : BoundTo addr e.completeDrain := by
  refine ⟨⟨h.current, h.pending, ?_⟩, h.initiating, h.rekeying, h.pubkey, h.settled⟩
  intro session hprevious
  cases hprevious

/-- **A promotion**: the pending session becomes the current one, which becomes the previous one. -/
theorem BoundTo.promote [SessionMmp μ] (h : BoundTo addr e)
    (hpending : e.pendingNewSession = some session) (nowMs instant : Nat) :
    BoundTo addr (e.promote session nowMs instant) := by
  have hphase : e.isAwaitingMsg3 = false := by
    rw [← Bool.not_eq_true]
    intro hawaiting
    cases (h.settled hawaiting).symm.trans hpending
  refine ⟨⟨?_, ?_, ?_⟩, ?_, ?_, fun _ => h.pubkey hphase, fun _ => rfl⟩
  · intro session hstate
    cases hstate
    exact h.pending _ hpending
  · intro session hnone
    cases hnone
  · intro session hprevious
    rcases Option.or_eq_some_iff.mp hprevious with hcurrent | ⟨-, hprevious⟩
    · exact h.current session (state_of_current hcurrent)
    · exact h.previous session hprevious
  · intro handshake hstate
    cases hstate
  · intro handshake _ hrekey
    cases hrekey

/-- A frame changes neither the key of the current session nor that of the previous one. -/
theorem BoundTo.afterDecryption [ChaCha20Poly1305] (h : BoundTo addr e)
    (hstate : e.state = some (.established session)) (frame : NoiseSession.Frame) :
    BoundTo addr { e with
      state := some (.established (session.decryptWithFallback e.previousNoiseSession frame).1)
      previousNoiseSession := (session.decryptWithFallback e.previousNoiseSession frame).2.1 } := by
  have hphase : e.isAwaitingMsg3 = false :=
    not_awaiting_of_established (isEstablished_iff.mpr ⟨session, hstate⟩)
  obtain ⟨hcurrent, hprevious⟩ :=
    session.remoteStatic_decryptWithFallback e.previousNoiseSession frame
  refine ⟨⟨?_, h.pending, ?_⟩, ?_, fun handshake _ => h.rekeying handshake hphase,
    fun _ => h.pubkey hphase, fun hawaiting => (by cases hawaiting)⟩
  · rintro _ ⟨⟩
    rw [hcurrent]
    exact h.current session hstate
  · intro session' hsome
    obtain ⟨previous, hold, hsame⟩ := hprevious session' hsome
    rw [hsame]
    exact h.previous previous hold
  · rintro _ ⟨⟩

/-- The pending session is bound as the current one is, so a flip keeps the entry bound. -/
theorem BoundTo.kbitFlip [SessionMmp μ] (h : BoundTo addr e) (nowMs instant : Nat) :
    BoundTo addr (e.handlePeerKbitFlip nowMs instant).1 := by
  cases hpending : e.pendingNewSession with
  | none =>
    rw [handlePeerKbitFlip_of_none hpending]
    exact h
  | some session =>
    rw [handlePeerKbitFlip_of_some hpending]
    exact h.promote hpending nowMs instant

/-- The pending session is bound as the current one is, so a cutover keeps the entry bound. -/
theorem BoundTo.cutover [SessionMmp μ] (h : BoundTo addr e) (nowMs instant : Nat) :
    BoundTo addr (e.cutoverToNewSession nowMs instant).1 := by
  cases hpending : e.pendingNewSession with
  | none =>
    unfold cutoverToNewSession
    rw [hpending]
    exact h
  | some session =>
    rw [cutoverToNewSession_of_some hpending]
    exact (h.kbitFlip nowMs instant).congr rfl rfl rfl rfl rfl rfl

end SessionEntry

/-! ## Revealed keys -/

section Revealed

variable [Sha256] [HkdfSha256] [ChaCha20Poly1305] [Secp256k1 SecretKey PublicKey]

namespace SessionEntry

/-- The handshake that a third message completes: that of a rekey, or the first one. -/
def answered (e : SessionEntry SecretKey PublicKey μ) : Option (HandshakeState SecretKey PublicKey) :=
  if e.isEstablished && e.hasRekeyInProgress && !e.rekeyInitiator then e.rekeyState
  else
    match e.state with
    | some (.awaitingMsg3 handshake) => some handshake
    | _ => none

/-- The key in a third message that completes a handshake. -/
def revealedKey (e : SessionEntry SecretKey PublicKey μ) (msg3 : SessionMsg3) : Option PublicKey := do
  let handshake ← e.answered
  let (_, closed) ←
    (call (HandshakeState.readXkMessage3 msg3.handshakePayload) handshake).toOption
  closed.remoteStatic

/-- What it takes for a third message to reveal a key to an entry. -/
theorem revealedKey_eq_some {e : SessionEntry SecretKey PublicKey μ} {msg3 : SessionMsg3}
    {pubkey : PublicKey} (h : e.revealedKey msg3 = some pubkey) :
    ∃ handshake closed, e.answered = some handshake ∧
      call (HandshakeState.readXkMessage3 msg3.handshakePayload) handshake = .ok ((), closed) ∧
      closed.remoteStatic = some pubkey := by
  obtain ⟨handshake, hanswered, h⟩ := Option.bind_eq_some_iff.mp h
  obtain ⟨⟨⟨⟩, closed⟩, hread, hstatic⟩ := Option.bind_eq_some_iff.mp h
  exact ⟨handshake, closed, hanswered, ok_of_toOption hread, hstatic⟩

end SessionEntry

/-- The third message in a session payload. -/
def msg3Of (payload : Bytes) : Option SessionMsg3 := do
  let pre ← (FspCommonPrefix.parse payload).toOption
  if pre.phase == FSP_PHASE_MSG3 then
    (SessionMsg3.decode (payload.drop FSP_COMMON_PREFIX_SIZE)).toOption
  else none

omit [Sha256] [HkdfSha256] [ChaCha20Poly1305] [Secp256k1 SecretKey PublicKey] in
/-- A payload that parses as a third message is one. -/
theorem msg3Of_eq {payload inner : Bytes} {pre : FspCommonPrefix} {msg3 : SessionMsg3}
    (hpre : FspCommonPrefix.parse payload = .ok pre) (hphase : (pre.phase == FSP_PHASE_MSG3) = true)
    (hinner : (sliceFrom payload FSP_COMMON_PREFIX_SIZE : Result Unit Bytes) = .ok inner)
    (hmsg3 : SessionMsg3.decode inner = .ok msg3) : msg3Of payload = some msg3 := by
  obtain ⟨-, rfl⟩ := sliceFrom_eq_ok.mp hinner
  unfold msg3Of
  rw [hpre]
  change (if (pre.phase == FSP_PHASE_MSG3) = true then _ else none) = _
  rw [if_pos hphase, hmsg3]
  rfl

/-- The key that a payload from `src` reveals. -/
def Node.revealedKey (n : Node SecretKey PublicKey ν μ) (src : NodeAddr) (payload : Bytes) :
    Option PublicKey := do
  let msg3 ← msg3Of payload
  let e ← n.sessions.lookup src
  e.revealedKey msg3

/-- What it takes for a payload to reveal a key to a node. -/
theorem Node.revealedKey_eq_some {n : Node SecretKey PublicKey ν μ} {src : NodeAddr}
    {payload : Bytes} {pubkey : PublicKey} (h : n.revealedKey src payload = some pubkey) :
    ∃ pre inner msg3 e, FspCommonPrefix.parse payload = .ok pre ∧ pre.phase = FSP_PHASE_MSG3 ∧
      (sliceFrom payload FSP_COMMON_PREFIX_SIZE : Result Unit Bytes) = .ok inner ∧
      SessionMsg3.decode inner = .ok msg3 ∧ n.sessions.lookup src = some e ∧
      SessionEntry.revealedKey e msg3 = some pubkey := by
  obtain ⟨msg3, hmsg3, h⟩ := Option.bind_eq_some_iff.mp h
  obtain ⟨e, he, hrevealed⟩ := Option.bind_eq_some_iff.mp h
  obtain ⟨pre, hpre, hmsg3⟩ := Option.bind_eq_some_iff.mp hmsg3
  replace hpre := ok_of_toOption hpre
  split_ifs at hmsg3 with hphase
  have hlen := FspCommonPrefix.length_of_parse hpre
  exact ⟨pre, _, msg3, e, hpre, by simpa using hphase, sliceFrom_of_le hlen, ok_of_toOption hmsg3, he,
    hrevealed⟩

end Revealed

/-! ## The table -/

namespace Node

section Keys

variable [Sha256] [Secp256k1 SecretKey PublicKey] {n n' : Node SecretKey PublicKey ν μ}
  {addr : NodeAddr}

/-- Every session is with a key of the address it is held under, and so is every registered
identity. -/
structure Authentic (n : Node SecretKey PublicKey ν μ) : Prop where
  sessions : ∀ addr e, n.sessions.lookup addr = some e → SessionEntry.HasKeysOf addr e
  registered : ∀ addr pubkey, .registerIdentity addr pubkey ∈ n.effects → KeyOf SecretKey addr pubkey

/-- So is what the next sessions will be made of. -/
structure Bound (n : Node SecretKey PublicKey ν μ) : Prop where
  entries : ∀ addr e, n.sessions.lookup addr = some e → SessionEntry.BoundTo addr e
  registered : ∀ addr pubkey, .registerIdentity addr pubkey ∈ n.effects → KeyOf SecretKey addr pubkey

/-- What the invariant says of sessions and of registrations. -/
theorem Bound.authentic (h : Bound n) : Authentic n :=
  ⟨fun addr e he => (h.entries addr e he).toHasKeysOf, h.registered⟩

section Table

/-- The invariant is about sessions and effects. -/
theorem Bound.congr (h : Bound n) (hsessions : n'.sessions = n.sessions)
    (heffects : n'.effects = n.effects) : Bound n' := by
  refine ⟨?_, ?_⟩
  · rw [hsessions]
    exact h.entries
  · rw [heffects]
    exact h.registered

/-- A bound entry may be put into the table. -/
theorem Bound.put (h : Bound n) {e : SessionEntry SecretKey PublicKey μ}
    (he : SessionEntry.BoundTo addr e) :
    Bound { n with sessions := n.sessions.insert addr e } := by
  refine ⟨fun d e' hd => ?_, h.registered⟩
  rw [Map.lookup_insert'] at hd
  split_ifs at hd with hsame
  · cases hd
    exact hsame ▸ he
  · exact h.entries d e' hd

/-- An entry may be changed in a way that keeps it bound. -/
theorem Bound.modify (h : Bound n)
    {f : SessionEntry SecretKey PublicKey μ → SessionEntry SecretKey PublicKey μ}
    (hf : ∀ e, SessionEntry.BoundTo addr e → SessionEntry.BoundTo addr (f e)) :
    Bound { n with sessions := n.sessions.modify addr f } := by
  refine ⟨fun d e' hd => ?_, h.registered⟩
  rw [Map.lookup_modify] at hd
  split_ifs at hd with hsame
  · obtain ⟨e, he, rfl⟩ := Option.map_eq_some_iff.mp hd
    exact hsame ▸ hf e (hsame ▸ h.entries d e he)
  · exact h.entries d e' hd

/-- An entry may be taken out. -/
theorem Bound.take (h : Bound n) (addr : NodeAddr) :
    Bound { n with sessions := n.sessions.erase addr } := by
  refine ⟨fun d e hd => ?_, h.registered⟩
  rw [Map.lookup_erase'] at hd
  split_ifs at hd
  exact h.entries d e hd

/-- An effect may be added unless it registers a wrong key. -/
theorem Bound.emit (h : Bound n) {effect : Effect PublicKey}
    (he : ∀ addr pubkey, effect = .registerIdentity addr pubkey → KeyOf SecretKey addr pubkey) :
    Bound { n with effects := n.effects ++ [effect] } := by
  refine ⟨h.entries, fun addr pubkey hmem => ?_⟩
  rcases List.mem_append.mp hmem with hold | hnew
  · exact h.registered addr pubkey hold
  · exact he addr pubkey (List.mem_singleton.mp hnew).symm

theorem Bound.forgetSessions (h : Bound n) (addrs : List NodeAddr) :
    Bound (addrs.foldl forgetSession n) := by
  induction addrs generalizing n with
  | nil => exact h
  | cons addr addrs ih => exact ih ((h.take addr).congr rfl rfl)

theorem Bound.modifySessions (h : Bound n)
    {f : SessionEntry SecretKey PublicKey μ → SessionEntry SecretKey PublicKey μ}
    (hf : ∀ addr e, SessionEntry.BoundTo addr e → SessionEntry.BoundTo addr (f e))
    (addrs : List NodeAddr) : Bound (Node.modifySessions f addrs n) :=
  modifySessions_keeps (I := Bound) (P := fun _ => True)
    (fun _ addr hn _ => Bound.modify hn (hf addr)) (fun _ _ => trivial) (fun _ _ _ _ => trivial) h

/-- **What the senders and the received messages keep.** -/
theorem sessionRules_bound [SessionMmp μ] [ChaCha20Poly1305] :
    SessionRules (fun _ _ => True) (Bound : Node SecretKey PublicKey ν μ → Prop) where
  note n addr f hf h := h.modify fun e he => he.note (hf e)
  advance n addr e session inner header he hstate h := by
    have hbound := h.entries addr e he
    have hphase : e.isAwaitingMsg3 = false :=
      SessionEntry.not_awaiting_of_established (SessionEntry.isEstablished_iff.mpr ⟨session, hstate⟩)
    exact h.put (hbound.setEstablished hphase (hbound.current session hstate))
  frame n nextHop d e counter flags len tail _ _ _ _ h := h.emit fun _ _ heq => by cases heq
  effect n e _ hkey h := h.emit fun addr pubkey heq => absurd heq (hkey addr pubkey)
  pings n pings h := h.congr rfl rfl

end Table

/-! ## Handlers -/

section Handlers

variable [SessionMmp μ] (env : Env SecretKey)

theorem keeps_bound_sendSessionPayload (dest : NodeAddr) (payload : Bytes) :
    Keeps Bound (sendSessionPayload env dest payload : M SecretKey PublicKey ν μ SendError Unit) :=
  keeps_sendSessionPayload_of_note env dest payload
    (fun _ _ hf h => h.modify fun e he => he.note (hf e))
    fun _ _ _ _ _ h => h.emit fun _ _ heq => by cases heq

variable [ChaCha20Poly1305]

theorem keeps_bound_sendSessionData (dest : NodeAddr) (srcPort dstPort : Nat) (payload : Bytes) :
    Keeps Bound (sendSessionData env dest srcPort dstPort payload :
      M SecretKey PublicKey ν μ SendError Unit) :=
  sessionRules_bound.keeps_sendSessionData env (fun _ _ => trivial)
    (sessionRules_bound.keeps_sendCoordsWarmup env fun _ => trivial) dest srcPort dstPort payload

theorem keeps_bound_flushPendingPackets (dest : NodeAddr) :
    Keeps Bound (flushPendingPackets env dest : Handler SecretKey PublicKey ν μ Unit) :=
  keeps_flushPendingPackets env (fun _ hn => hn.congr rfl rfl)
    (keeps_sendIpv6Packet env (keeps_bound_sendSessionData env dest))

variable [HkdfSha256]

/-- The entry that a setup opens awaits its third message and has no key to be wrong about. -/
theorem keeps_bound_acceptSetup (src : NodeAddr) (setup : SessionSetup) :
    Keeps Bound (acceptSetup env src setup : Handler SecretKey PublicKey ν μ Unit) := by
  refine (keeps_read _).bind fun _ => (keeps_orReturn _).bind fun _ => ?_
  refine (keeps_bound_sendSessionPayload env _ _).attempt.bind fun sent => ?_
  cases sent with
  | error e => exact keeps_stop _
  | ok u =>
    refine (keeps_read _).bind fun _ n hn => ?_
    exact hn.put (SessionEntry.boundTo_awaiting _ _ _ _ _)

theorem keeps_bound_onSessionSetup (src : NodeAddr) (setup : SessionSetup) :
    Keeps Bound (onSessionSetup env src setup : Handler SecretKey PublicKey ν μ Unit) := by
  have haccept : Keeps Bound (acceptSetup env src setup : Handler SecretKey PublicKey ν μ Unit) :=
    keeps_bound_acceptSetup env src setup
  refine Keeps.ite (keeps_stop _) ((keeps_read _).bind fun existing => ?_)
  cases existing with
  | none => exact haccept
  | some existing =>
    refine (keeps_read _).bind fun my => (keeps_read _).bind fun config => ?_
    refine Keeps.ite (Keeps.ite (keeps_stop _) haccept) (Keeps.ite ?_ (Keeps.ite ?_ haccept))
    · cases existing.handshakePayload with
      | none => exact keeps_pure _
      | some payload =>
        exact (keeps_bound_sendSessionPayload env src payload).attempt.bind fun _ => keeps_pure _
    · refine keeps_acceptRekey env (fun _ => keeps_bound_sendSessionPayload env _ _)
        (fun n hn => hn.modify fun e he => he.abandonRekey) (fun handshake n hn => ?_) existing
      refine hn.modify fun e he => ?_
      have hrekey : SessionEntry.BoundTo src (e.setRekeyState handshake false) :=
        he.setRekeyState fun hfalse => by cases hfalse
      exact hrekey.congr rfl rfl rfl rfl rfl rfl

/-- **An initiator** gets a session with the key that its handshake began with. -/
theorem wp_bound_finishAsInitiator (src : NodeAddr) (msg2 : Bytes)
    (handshake : HandshakeState SecretKey PublicKey) (hn : Bound n) :
    wp (finishAsInitiator env src msg2 handshake : Handler SecretKey PublicKey ν μ _)
      (fun session n' => Bound n' ∧ handshake.remoteStatic = some session.remoteStatic)
      (fun _ => Bound) n := by
  unfold finishAsInitiator
  rw [wp_bind_iff, wp_orReturn_iff]
  refine ⟨fun opened hopened => ?_, fun _ => hn, fun _ => hn⟩
  rw [wp_bind_iff, wp_orReturn_iff]
  refine ⟨fun closed hclosed => ?_, fun _ => hn, fun _ => hn⟩
  obtain ⟨⟨⟩, opened⟩ := opened
  obtain ⟨msg3, closed⟩ := closed
  have hstatic : closed.remoteStatic = handshake.remoteStatic :=
    (HandshakeState.remoteStatic_of_frames HandshakeState.frames_writeXkMessage3 hclosed).trans
      (HandshakeState.remoteStatic_of_frames (HandshakeState.frames_readXkMessage2 msg2) hopened)
  rw [wp_bind_iff, wp_attempt_iff]
  refine wp_mono (fun _ n' hn' => ?_) (fun failed n' hn' => ?_)
    ((keeps_bound_sendSessionPayload env src _).wp hn)
  · rw [wp_orReturn_iff]
    refine ⟨fun session hsession => ⟨hn', ?_⟩, fun _ => hn', fun _ => hn'⟩
    rw [← hstatic, HandshakeState.remoteStatic_intoSession hsession]
  · cases failed with
    | error e => exact hn'
    | panic => exact hn'

/-- An ack completes the handshake with the static key that was called. -/
theorem keeps_bound_onSessionAck (src : NodeAddr) (ack : SessionAck) :
    Keeps Bound (onSessionAck env src ack : Handler SecretKey PublicKey ν μ Unit) := by
  rw [keeps_iff]
  intro n hn
  unfold onSessionAck
  by_cases hlen : (ack.handshakePayload.length != XK_HANDSHAKE_MSG2_SIZE) = true
  · rw [if_pos hlen]
    exact hn
  rw [if_neg hlen, wp_bind_iff, wp_takeSession_iff]
  refine ⟨fun e he => ?_, fun _ => hn⟩
  have htaken := hn.take src
  have hbound := hn.entries src e he
  -- the session that a handshake with a key of the address ends in
  have hkey : ∀ {handshake : HandshakeState SecretKey PublicKey} {session : NoiseSession PublicKey},
      handshake.Knows src → handshake.remoteStatic = some session.remoteStatic →
      KeyOf SecretKey src session.remoteStatic := by
    rintro handshake session ⟨pubkey, hstatic, hkey⟩ hsession
    cases hstatic.symm.trans hsession
    exact hkey
  by_cases hrekey : (e.isEstablished && e.hasRekeyInProgress && e.rekeyInitiator) = true
  · rw [if_pos hrekey]
    simp only [Bool.and_eq_true] at hrekey
    have hphase := SessionEntry.not_awaiting_of_established hrekey.1.1
    split
    · exact htaken.put hbound
    · rename_i handshake hstate
      have hknows := hbound.rekeying handshake hphase hstate hrekey.2
      rw [wp_bind_iff, wp_attempt_iff]
      refine wp_mono (fun session n' hn' => ?_) (fun failed n' hn' => ?_)
        (wp_bound_finishAsInitiator env src _ _ htaken)
      · exact hn'.1.put ((hbound.takeRekeyState.setPendingSession hphase
          (hkey hknows hn'.2)).congr rfl rfl rfl rfl rfl rfl)
      · cases failed with
        | error e' => exact hn'.put hbound.takeRekeyState.abandonRekey
        | panic => exact hn'
  rw [if_neg hrekey]
  by_cases hinitiating : e.isInitiating = true
  · rw [if_neg (by simp [hinitiating])]
    obtain ⟨handshake, hstate⟩ := SessionEntry.isInitiating_iff.mp hinitiating
    have hphase : e.isAwaitingMsg3 = false := by
      unfold SessionEntry.isAwaitingMsg3
      rw [hstate]
      rfl
    rw [hstate]
    dsimp only
    rw [wp_bind_iff]
    refine wp_mono (fun session n' hn' => ?_) (fun _ n' hn' => hn')
      (wp_bound_finishAsInitiator env src _ _ htaken)
    rw [wp_bind_iff, wp_read_iff, wp_bind_iff, wp_putSession_iff]
    have hsession := hbound.setEstablished hphase
      (hkey (hbound.initiating handshake hstate) hn'.2)
    refine Keeps.wp ?_ (hn'.1.put (hsession.congr rfl rfl rfl rfl rfl rfl))
    exact (sessionRules_bound.keeps_cacheCoords src _).bind fun _ =>
      keeps_bound_flushPendingPackets env src
  · rw [if_pos (by simpa using hinitiating)]
    exact htaken.put hbound

/-! ### Third messages -/

/-- **A third message** whose key is one of the address. -/
theorem wp_bound_onSessionMsg3 (src : NodeAddr) (msg3 : SessionMsg3) (hn : Bound n)
    (hkey : ∀ e, n.sessions.lookup src = some e → ∀ pubkey, e.revealedKey msg3 = some pubkey →
      KeyOf SecretKey src pubkey) :
    wp (onSessionMsg3 env src msg3 : Handler SecretKey PublicKey ν μ Unit) (fun _ => Bound)
      (fun _ => Bound) n := by
  unfold onSessionMsg3
  by_cases hlen : (msg3.handshakePayload.length != XK_HANDSHAKE_MSG3_SIZE) = true
  · rw [if_pos hlen]
    exact hn
  rw [if_neg hlen, wp_bind_iff, wp_takeSession_iff]
  refine ⟨fun e he => ?_, fun _ => hn⟩
  have htaken := hn.take src
  have hbound := hn.entries src e he
  by_cases hrekey : (e.isEstablished && e.hasRekeyInProgress && !e.rekeyInitiator) = true
  · rw [if_pos hrekey]
    have hphase : e.isAwaitingMsg3 = false := by
      simp only [Bool.and_eq_true] at hrekey
      exact SessionEntry.not_awaiting_of_established hrekey.1.1
    split
    · exact htaken.put hbound
    · rename_i handshake hstate
      rw [wp_bind_iff, wp_attempt_iff, wp_pureCall_iff]
      refine ⟨fun session hsession => ?_, fun failed _ => ?_⟩
      · obtain ⟨⟨⟨⟩, closed⟩, hread, hsession⟩ := bind_eq_ok.mp hsession
        have hrevealed : e.revealedKey msg3 = some session.remoteStatic := by
          unfold SessionEntry.revealedKey SessionEntry.answered
          rw [if_pos hrekey, hstate, Option.bind_eq_bind, Option.bind_some, hread]
          exact HandshakeState.remoteStatic_intoSession hsession
        exact htaken.put ((hbound.takeRekeyState.setPendingSession hphase
          (hkey e he _ hrevealed)).congr rfl rfl rfl rfl rfl rfl)
      · cases failed with
        | error e' => exact htaken.put hbound.takeRekeyState.abandonRekey
        | panic => exact htaken
  rw [if_neg hrekey]
  by_cases hawaiting : e.isAwaitingMsg3 = true
  · rw [if_neg (by simp [hawaiting])]
    obtain ⟨handshake, hstate⟩ := SessionEntry.isAwaitingMsg3_iff.mp hawaiting
    rw [hstate]
    dsimp only
    rw [wp_bind_iff, wp_orReturn_iff]
    refine ⟨fun closed hread => ?_, fun _ => htaken, fun _ => htaken⟩
    obtain ⟨⟨⟩, closed⟩ := closed
    dsimp only
    rw [wp_bind_iff, wp_orElse_iff]
    refine ⟨fun remotePubkey hstatic => ?_, fun _ => htaken⟩
    have hsrc : KeyOf SecretKey src remotePubkey := by
      refine hkey e he remotePubkey ?_
      unfold SessionEntry.revealedKey SessionEntry.answered
      rw [if_neg hrekey, hstate, Option.bind_eq_bind, Option.bind_some, hread]
      exact hstatic
    have hregistered : Bound { n with
        sessions := n.sessions.erase src
        effects := n.effects ++ [.registerIdentity src remotePubkey] } := by
      refine htaken.emit ?_
      rintro _ _ ⟨⟩
      exact hsrc
    rw [wp_bind_iff, wp_registerIdentity_iff, wp_bind_iff, wp_orReturn_iff]
    refine ⟨fun session hsession => ?_, fun _ => hregistered, fun _ => hregistered⟩
    rw [wp_bind_iff, wp_read_iff, wp_bind_iff, wp_putSession_iff]
    refine (keeps_bound_flushPendingPackets env src).wp (hregistered.put ?_)
    refine SessionEntry.boundTo_established hsrc ?_
    cases hstatic.symm.trans (HandshakeState.remoteStatic_intoSession hsession)
    exact hsrc
  · rw [if_pos (by simpa using hawaiting)]
    exact htaken.put hbound

/-! ### Encrypted messages -/

omit [HkdfSha256] in
/-- A frame moves an entry to a key that it already has. -/
theorem keeps_bound_openSessionFrame (src : NodeAddr) (kBit : Bool) (frame : NoiseSession.Frame) :
    Keeps Bound (openSessionFrame env src kBit frame : Handler SecretKey PublicKey ν μ Bytes) := by
  rw [keeps_iff]
  intro n hn
  unfold openSessionFrame
  rw [wp_bind_iff, wp_read_iff, wp_bind_iff, wp_orElse_iff]
  refine ⟨fun e _ => ?_, fun _ => hn⟩
  by_cases hestablished : e.isEstablished = true
  swap
  · rw [if_pos (by simpa using hestablished)]
    exact hn
  rw [if_neg (by simpa using hestablished), wp_bind_iff, wp_expect_iff]
  refine ⟨fun e _ => ?_, fun _ => hn⟩
  extract_lets decrypt
  have hdecrypt : ∀ n' : Node SecretKey PublicKey ν μ, Bound n' →
      wp (decrypt ()) (fun _ => Bound) (fun _ => Bound) n' := by
    intro n' hn'
    simp only [decrypt]
    rw [wp_bind_iff, wp_takeSession_iff]
    refine ⟨fun e' he' => ?_, fun _ => hn'⟩
    have htaken := hn'.take src
    have hbound := hn'.entries src e' he'
    split
    · exact htaken
    · rename_i session hstate
      have hphase : e'.isAwaitingMsg3 = false := SessionEntry.not_awaiting_of_established
        (SessionEntry.isEstablished_iff.mpr ⟨session, hstate⟩)
      rw [wp_bind_iff, wp_putSession_iff]
      have hput := htaken.put (hbound.afterDecryption hstate frame)
      rw [wp_orReturn_iff]
      exact ⟨fun _ _ => hput, fun _ => hput, fun _ => hput⟩
    · rw [wp_bind_iff, wp_putSession_iff]
      exact htaken.put hbound
  split_ifs
  · rw [wp_bind_iff, wp_expect_iff]
    refine ⟨fun _ _ => ?_, fun _ => hn⟩
    rw [wp_bind_iff, wp_modifySession_iff]
    exact hdecrypt _ (hn.modify fun e he => he.kbitFlip _ _)
  · exact hdecrypt n hn

omit [HkdfSha256] in
theorem keeps_bound_handleEncryptedSessionMsg (src : NodeAddr) (payload : Bytes) (pathMtu : Nat)
    (ceFlag : Bool) :
    Keeps Bound (handleEncryptedSessionMsg env src payload pathMtu ceFlag :
      Handler SecretKey PublicKey ν μ Unit) := by
  refine Keeps.body ((keeps_orReturn _).bind fun header => (keeps_orReturn _).bind fun parts =>
    (keeps_read _).bind fun my => ?_)
  refine (sessionRules_bound.keeps_cacheCoords _ _).bind fun _ =>
    (sessionRules_bound.keeps_cacheCoords _ _).bind fun _ => ?_
  refine (keeps_bound_openSessionFrame env src _ _).bind fun plaintext =>
    (keeps_orReturn _).bind fun message => ?_
  exact sessionRules_bound.receives.keeps_processSessionMessage env
    (keeps_bound_flushPendingPackets env src) _ _ _ _ _

/-- **A session payload** that reveals a key of its source, or none. -/
theorem wp_bound_handleSessionPayload (src : NodeAddr) {payload : Bytes} (pathMtu : Nat)
    (ceFlag : Bool) (hn : Bound n)
    (hkey : ∀ pubkey, n.revealedKey src payload = some pubkey → KeyOf SecretKey src pubkey) :
    wp (handleSessionPayload env src payload pathMtu ceFlag : Handler SecretKey PublicKey ν μ Unit)
      (fun _ => Bound) (fun _ => Bound) n := by
  have hwarm : ∀ dest, Keeps Bound (warmUp env dest : Handler SecretKey PublicKey ν μ Unit) :=
    fun _ => keeps_warmUp env (sessionRules_bound.keeps_sendCoordsWarmup env (fun _ => trivial) _)
  unfold handleSessionPayload
  refine wp_body_of_wp ?_
  rw [wp_bind_iff, wp_orReturn_iff]
  refine ⟨fun pre hpre => ?_, fun _ => hn, fun _ => hn⟩
  rw [wp_bind_iff, wp_orReturn_iff]
  refine ⟨fun inner hinner => ?_, fun _ => hn, fun _ => hn⟩
  split_ifs with hphase1 hphase2 hphase3 hphase hplain hempty
  · exact (Keeps.body ((keeps_orReturn _).bind fun _ => keeps_bound_onSessionSetup env _ _)).wp hn
  · exact (Keeps.body ((keeps_orReturn _).bind fun _ => keeps_bound_onSessionAck env _ _)).wp hn
  · refine wp_body_of_wp ?_
    rw [wp_bind_iff, wp_orReturn_iff]
    refine ⟨fun msg3 hmsg3 => ?_, fun _ => hn, fun _ => hn⟩
    refine wp_bound_onSessionMsg3 env src msg3 hn fun e he pubkey hrevealed => hkey pubkey ?_
    unfold Node.revealedKey
    rw [msg3Of_eq hpre hphase3 hinner hmsg3, Option.bind_eq_bind, Option.bind_some, he]
    exact hrevealed
  · exact hn
  · refine Keeps.wp ((keeps_orReturn _).bind fun _ => (keeps_orReturn _).bind fun _ => ?_) hn
    split
    · exact sessionRules_bound.receives.keeps_handleCoordsRequired env hwarm _
    · exact sessionRules_bound.receives.keeps_handlePathBroken env hwarm _
    · exact sessionRules_bound.receives.keeps_handleMtuExceeded env _
    · exact keeps_pure _
  · exact (keeps_bound_handleEncryptedSessionMsg env src payload pathMtu ceFlag).wp hn
  · exact hn

/-! ### Initiations, ticks and removal -/

omit [ChaCha20Poly1305] in
/-- **An initiation** with a key of the address. -/
theorem keeps_bound_initiateSession {dest : NodeAddr} {destPubkey : PublicKey}
    (hkey : KeyOf SecretKey dest destPubkey) :
    Keeps Bound (initiateSession env dest destPubkey :
      M SecretKey PublicKey ν μ SendError Unit) := by
  rw [keeps_iff]
  intro n hn
  unfold initiateSession
  rw [wp_bind_iff, wp_read_iff]
  split_ifs
  · exact hn
  rw [wp_bind_iff, wp_read_iff, wp_bind_iff, wp_attempt_iff, wp_pureCall_iff]
  refine ⟨fun started hstarted => ?_, fun failed _ => ?_⟩
  · obtain ⟨msg1, handshake⟩ := started
    have hstatic := HandshakeState.remoteStatic_of_frames
      (HandshakeState.frames_writeXkMessage1 (env.ephemeral dest)) hstarted
    dsimp only
    rw [wp_bind_iff]
    refine wp_mono (fun _ n' hn' => ?_) (fun _ _ hn' => hn')
      ((keeps_bound_sendSessionPayload env dest _).wp hn)
    have hregistered : Bound { n' with
        effects := n'.effects ++ [.registerIdentity dest destPubkey] } := by
      refine hn'.emit ?_
      rintro _ _ ⟨⟩
      exact hkey
    rw [wp_bind_iff, wp_registerIdentity_iff, wp_putSession_iff]
    exact hregistered.put (SessionEntry.boundTo_initiating hkey ⟨destPubkey, hstatic, hkey⟩ _ _ _ _)
  · cases failed with
    | error e => exact hn
    | panic => exact hn

omit [ChaCha20Poly1305] in
/-- A rekey calls the static key of the session that it renews. -/
theorem keeps_bound_initiateSessionRekey (dest : NodeAddr) :
    Keeps Bound (initiateSessionRekey env dest : Handler SecretKey PublicKey ν μ Unit) := by
  rw [keeps_iff]
  intro n hn
  refine wp_body_of_wp ?_
  rw [wp_bind_iff, wp_orElse_iff]
  refine ⟨fun _ _ => ?_, fun _ => hn⟩
  rw [wp_bind_iff, wp_read_iff, wp_bind_iff, wp_orElse_iff]
  refine ⟨fun e he => ?_, fun _ => hn⟩
  rw [wp_bind_iff, wp_read_iff, wp_bind_iff, wp_orReturn_iff]
  refine ⟨fun started hstarted => ?_, fun _ => hn, fun _ => hn⟩
  obtain ⟨msg1, handshake⟩ := started
  have hstatic := HandshakeState.remoteStatic_of_frames
    (HandshakeState.frames_writeXkMessage1 (env.ephemeral dest)) hstarted
  have hbound := hn.entries dest e he
  -- the entry that the handshake was made for
  have hsend : Keeps (fun n' : Node SecretKey PublicKey ν μ => Bound n' ∧
      ∀ e', n'.sessions.lookup dest = some e' →
        e'.remotePubkey = e.remotePubkey ∧ e'.state = e.state)
      (sendSessionPayload env dest
        ((SessionSetup.new env.myCoords (env.destCoords dest)).withHandshake msg1).encode :
          M SecretKey PublicKey ν μ SendError Unit) := by
    refine keeps_sendSessionPayload_of_note env dest _ (fun n f hf hI => ?_)
      fun n nextHop d _ _ hI => ⟨hI.1.emit fun _ _ heq => (by cases heq), hI.2⟩
    refine ⟨hI.1.modify fun e he => he.note (hf e), fun e' he' => ?_⟩
    rw [Map.lookup_modify, if_pos rfl] at he'
    obtain ⟨e₀, he₀, rfl⟩ := Option.map_eq_some_iff.mp he'
    obtain ⟨hpubkey, hstate⟩ := hI.2 e₀ he₀
    exact ⟨(hf e₀).remotePubkey.trans hpubkey, (hf e₀).state.trans hstate⟩
  have hbegin : ∀ e', n.sessions.lookup dest = some e' →
      e'.remotePubkey = e.remotePubkey ∧ e'.state = e.state := by
    intro e' he'
    cases he.symm.trans he'
    exact ⟨rfl, rfl⟩
  dsimp only
  rw [wp_bind_iff, wp_attempt_iff]
  refine wp_mono (fun _ n' hn' => ?_) (fun failed n' hn' => ?_) (hsend.wp ⟨hn, hbegin⟩)
  · rw [wp_modifySession_iff]
    refine ⟨fun d e' hd => ?_, hn'.1.registered⟩
    rw [Map.lookup_modify] at hd
    split_ifs at hd with hsame
    · subst hsame
      obtain ⟨e₀, he₀, rfl⟩ := Option.map_eq_some_iff.mp hd
      obtain ⟨-, hstate⟩ := hn'.2 e₀ he₀
      refine (hn'.1.entries d e₀ he₀).setRekeyState fun _ hphase => ⟨e.remotePubkey, hstatic, ?_⟩
      refine hbound.pubkey ?_
      unfold SessionEntry.isAwaitingMsg3 at hphase ⊢
      rwa [hstate] at hphase
    · exact hn'.1.entries d e' hd
  · cases failed with
    | error e => exact hn'.1
    | panic => exact hn'.1

omit [ChaCha20Poly1305] in
theorem keeps_bound_initiateSessionRekeys (dests : List NodeAddr) :
    Keeps Bound (initiateSessionRekeys env dests : Handler SecretKey PublicKey ν μ Unit) := by
  induction dests with
  | nil => exact keeps_pure ()
  | cons dest dests ih => exact (keeps_bound_initiateSessionRekey env dest).bind fun _ => ih

omit [ChaCha20Poly1305] in
/-- **A rekey tick.** -/
theorem keeps_bound_checkSessionRekey :
    Keeps Bound (checkSessionRekey env : Handler SecretKey PublicKey ν μ Unit) := by
  refine Keeps.body ((keeps_read _).bind fun n => Keeps.ite (keeps_stop _) ?_)
  refine (keeps_write fun n hn => ?_).bind fun _ => (keeps_write fun n hn => ?_).bind fun _ =>
    keeps_bound_initiateSessionRekeys env _
  · exact hn.modifySessions (fun addr e he => he.cutover _ _) _
  · exact hn.modifySessions (fun addr e he => he.completeDrain) _

omit [HkdfSha256] [ChaCha20Poly1305] in
theorem keeps_bound_resendPendingSessionHandshakes :
    Keeps Bound (resendPendingSessionHandshakes env : M SecretKey PublicKey ν μ ε Unit) := by
  have hresend : ∀ candidates, Keeps Bound (resendHandshakes env candidates :
      M SecretKey PublicKey ν μ ε Unit) := by
    intro candidates
    induction candidates with
    | nil => exact keeps_pure ()
    | cons c candidates ih =>
      refine Keeps.bind ?_ fun _ => ih
      refine (keeps_bound_sendSessionPayload env c.1 c.2).attempt.bind fun sent => ?_
      cases sent with
      | error e => exact keeps_pure ()
      | ok u =>
        refine (keeps_read _).bind fun _ n hn => hn.modify fun e he => ?_
        exact he.note (SessionEntry.notes_recordResend _)
  refine (keeps_write fun n hn => ?_).bind fun _ => (keeps_read _).bind fun _ => hresend _
  exact hn.forgetSessions _

omit [SessionMmp μ] [HkdfSha256] [ChaCha20Poly1305] in
theorem Bound.purgeIdleSessions (hn : Bound n) (nowMs : Nat) : Bound (n.purgeIdleSessions nowMs) := by
  unfold Node.purgeIdleSessions
  extract_lets timeoutMs
  split_ifs
  · exact hn
  · exact hn.forgetSessions _

omit [SessionMmp μ] [HkdfSha256] [ChaCha20Poly1305] in
theorem Bound.removeActivePeer (hn : Bound n) (addr : NodeAddr) : Bound (n.removeActivePeer addr) := by
  unfold Node.removeActivePeer
  cases n.peers.lookup addr with
  | none => exact hn
  | some peer =>
    obtain ⟨hsessions, -, heffects⟩ := releaseIndices_frames ({ n with
      peers := n.peers.erase addr
      sessions := n.sessions.erase addr
      pendingTunPackets := n.pendingTunPackets.erase addr }) peer
    refine ⟨?_, fun d pubkey hmem => ?_⟩
    · rw [show (_ : Node SecretKey PublicKey ν μ).sessions = _ from hsessions]
      exact (hn.take addr).entries
    · rcases List.mem_append.mp hmem with hold | hnew
      · rw [heffects] at hold
        exact hn.registered d pubkey hold
      · simp at hnew

end Handlers

/-! ### Keys of another node -/

section Forged

variable [SessionMmp μ] [HkdfSha256] [ChaCha20Poly1305] (env : Env SecretKey)

omit [Sha256] [Secp256k1 SecretKey PublicKey] [HkdfSha256] in
/-- What was emitted stays. -/
theorem sessionRules_emitted (effect : Effect PublicKey) :
    SessionRules (fun _ _ => True) fun n : Node SecretKey PublicKey ν μ => effect ∈ n.effects where
  note _ _ _ _ h := h
  advance _ _ _ _ _ _ _ _ h := h
  frame _ _ _ _ _ _ _ _ _ _ _ _ h := List.mem_append_left _ h
  effect _ _ _ _ h := List.mem_append_left _ h
  pings _ _ h := h

/-- **A third message** that reveals a key of another node than its source. -/
theorem wp_forged_onSessionMsg3 {src : NodeAddr} {msg3 : SessionMsg3}
    {e : SessionEntry SecretKey PublicKey μ} {pubkey : PublicKey}
    (he : n.sessions.lookup src = some e) (hrevealed : e.revealedKey msg3 = some pubkey)
    (hother : ¬ KeyOf SecretKey src pubkey) :
    wp (onSessionMsg3 env src msg3 : Handler SecretKey PublicKey ν μ Unit)
      (fun _ n' => ¬ Authentic n') (fun _ n' => ¬ Authentic n') n := by
  obtain ⟨handshake, closed, hanswered, hread, hstatic⟩ := SessionEntry.revealedKey_eq_some hrevealed
  have hlen := HandshakeState.length_of_readXkMessage3 hread
  unfold onSessionMsg3
  rw [if_neg (by simpa using hlen), wp_bind_iff, wp_takeSession_iff]
  refine ⟨fun e' he' => ?_, fun hnone => absurd (hnone.symm.trans he) (by simp)⟩
  cases he.symm.trans he'
  unfold SessionEntry.answered at hanswered
  by_cases hrekey : (e.isEstablished && e.hasRekeyInProgress && !e.rekeyInitiator) = true
  · rw [if_pos hrekey] at hanswered ⊢
    rw [hanswered]
    dsimp only
    rw [hread]
    obtain ⟨session, hsession⟩ := HandshakeState.intoSession_of_complete
      (HandshakeState.complete_of_readXkMessage3 hread).1 hstatic
    have hkey : session.remoteStatic = pubkey := by
      cases hstatic.symm.trans (HandshakeState.remoteStatic_intoSession hsession)
      rfl
    rw [wp_bind_iff, wp_attempt_iff, ok_bind, hsession, wp_pureCall_iff]
    refine ⟨fun session' hsame => ?_, fun failed hfailed => by cases hfailed⟩
    cases hsame
    intro hauthentic
    exact hother (hkey ▸ (hauthentic.sessions src _ (AList.lookup_insert _)).pending session rfl)
  · rw [if_neg hrekey] at hanswered ⊢
    have hstate : e.state = some (.awaitingMsg3 handshake) := by
      split at hanswered
      · rename_i handshake' hstate
        cases hanswered
        exact hstate
      · cases hanswered
    have hawaiting : e.isAwaitingMsg3 = true := SessionEntry.isAwaitingMsg3_iff.mpr ⟨_, hstate⟩
    rw [if_neg (by simp [hawaiting]), hstate]
    dsimp only
    rw [wp_bind_iff, hread, wp_orReturn_ok, wp_bind_iff, hstatic, wp_orElse_some, wp_bind_iff,
      wp_registerIdentity_iff]
    have hemitted : Keeps (fun n : Node SecretKey PublicKey ν μ =>
        .registerIdentity src pubkey ∈ n.effects)
        (flushPendingPackets env src : Handler SecretKey PublicKey ν μ Unit) := by
      have hrules : SessionRules (fun _ _ => True) fun n : Node SecretKey PublicKey ν μ =>
          .registerIdentity src pubkey ∈ n.effects := sessionRules_emitted _
      refine keeps_flushPendingPackets env (fun _ hn => hn) (keeps_sendIpv6Packet env ?_)
      exact hrules.keeps_sendSessionData env (fun _ _ => trivial)
        (hrules.keeps_sendCoordsWarmup env fun _ => trivial) src
    refine wp_mono (fun _ n' hmem hauthentic => ?_) (fun _ n' hmem hauthentic => ?_) (Keeps.wp
      ((keeps_orReturn _).bind fun session => (keeps_read _).bind fun config =>
        Keeps.bind (fun n hn => hn) fun _ => hemitted)
      (List.mem_append_right _ (List.mem_singleton.mpr rfl)))
    · exact hother (hauthentic.registered src pubkey hmem)
    · exact hother (hauthentic.registered src pubkey hmem)

end Forged

/-! ## Runs -/

section Runs

variable [SessionMmp μ] [HkdfSha256] [ChaCha20Poly1305] {n : Node SecretKey PublicKey ν (Counted μ)}
  {events : List (KBitEvent SecretKey PublicKey μ)}

/-- An initiation is for a key of its address. -/
def Initiates : KBitEvent SecretKey PublicKey μ → Prop
  | .initiateSession _ dest destPubkey => KeyOf SecretKey dest destPubkey
  | _ => True

/-- A third message that completes a handshake reveals a key of its source. -/
def Genuine (n : Node SecretKey PublicKey ν (Counted μ)) : KBitEvent SecretKey PublicKey μ → Prop
  | .sessionPayload _ src payload _ _ =>
    ∀ pubkey ∈ n.revealedKey src payload, KeyOf SecretKey src pubkey
  | _ => True

/-- **The step lemma.** -/
theorem Bound.step (h : Bound n) {event : KBitEvent SecretKey PublicKey μ}
    (hinitiates : Initiates event) (hgenuine : Genuine n event) : Bound (kBitStep n event) := by
  have hbegin : Bound { n with effects := [] } :=
    ⟨h.entries, fun _ _ hmem => absurd hmem List.not_mem_nil⟩
  cases event with
  | sendData env dest srcPort dstPort payload =>
    exact keeps_bound_sendSessionData env dest srcPort dstPort payload _ hbegin
  | sendMsg env dest msgType payload =>
    exact sessionRules_bound.keeps_sendSessionMsg env (fun _ => trivial) dest msgType payload _ hbegin
  | sessionPayload env src payload pathMtu ceFlag =>
    exact fst_of_wp (wp_bound_handleSessionPayload env src pathMtu ceFlag hbegin hgenuine)
  | initiateSession env dest destPubkey => exact keeps_bound_initiateSession env hinitiates _ hbegin
  | checkSessionRekey env => exact keeps_bound_checkSessionRekey env _ hbegin
  | resendHandshakes env => exact keeps_bound_resendPendingSessionHandshakes env _ hbegin
  | purgeIdle nowMs => exact hbegin.purgeIdleSessions nowMs
  | removePeer addr => exact hbegin.removeActivePeer addr
  | queue dest packets =>
    simp only [kBitStep]
    split_ifs
    · exact hbegin
    · exact hbegin.congr rfl rfl
  | unqueue dest => exact hbegin.congr rfl rfl
  | resetWarmup dest => exact sessionRules_bound.receives.keeps_resetWarmup dest _ hbegin
  | measure dest f => exact hbegin.modify fun e he => he.congr rfl rfl rfl rfl rfl rfl

/-- **A key of another node** under the source of the message. -/
theorem not_authentic_step {env : Env SecretKey} {src : NodeAddr} {payload : Bytes}
    {pathMtu : Nat} {ceFlag : Bool} {pubkey : PublicKey}
    (hrevealed : n.revealedKey src payload = some pubkey) (hother : ¬ KeyOf SecretKey src pubkey) :
    ¬ Authentic (kBitStep n (.sessionPayload env src payload pathMtu ceFlag)) := by
  obtain ⟨pre, inner, msg3, e, hpre, hphase, hinner, hmsg3, he, hrevealed⟩ :=
    revealedKey_eq_some hrevealed
  refine fst_of_wp (P := fun n' => ¬ Authentic n') (wp_body_of_wp ?_)
  rw [wp_bind_iff, hpre, wp_orReturn_ok, wp_bind_iff, hinner, wp_orReturn_ok, hphase,
    if_neg (by decide), if_neg (by decide), if_pos (by decide)]
  refine wp_body_of_wp ?_
  rw [wp_bind_iff, hmsg3, wp_orReturn_ok]
  exact wp_forged_onSessionMsg3 env he hrevealed hother

/-- **Whose keys.** In a run from an idle node whose initiations are for keys of their addresses,
every session and every registered identity has a key of its address in every state if and only if
every third message that completes a handshake reveals a key of its source. -/
theorem authentic_iff_genuine (hn : Idle n) (hinitiates : ∀ event ∈ events, Initiates event) :
    Always kBitStep Authentic n events ↔ Along kBitStep Genuine n events := by
  have hbound : Bound n := by
    refine ⟨fun addr e he => ?_, fun addr pubkey hmem => ?_⟩
    · rw [hn.sessions] at he
      cases he
    · rw [hn.effects] at hmem
      cases hmem
  refine always_iff_along_of (fun n h => h.authentic) (fun n event _ _ hauthentic => ?_)
    (fun n event h hA hC => h.step hA hC) hbound hinitiates
  cases event with
  | sessionPayload env src payload pathMtu ceFlag =>
    intro pubkey hrevealed
    by_contra hother
    exact not_authentic_step hrevealed hother hauthentic
  | _ => trivial

end Runs

end Keys

section Examples

open Sample

/-- The address of the key 1. -/
def sampleSource : NodeAddr := NodeAddr.fromPubkey Scalar (Point.mk 1)

/-- Node `other` opens a session to node 2. -/
def opensSession (other : Nat) : SmallKBitEvent := .initiateSession (env other 0 ⟨11⟩) (addr 2) ⟨2⟩

/-- Node 2 takes a payload that claims to come from `sampleSource`. -/
def claimed (nowMs : Nat) (payload : Bytes) : SmallKBitEvent :=
  .sessionPayload (env 2 nowMs ⟨13⟩) sampleSource payload 1280 false

/-- A setup that node `other` made comes in under the address of another node. -/
def claimedSetup (other : Nat) : SmallKBitEvent :=
  claimed 10 (sentPayload (kBitStep (kBitNode other) (opensSession other)))

/-- The answer of node 2 reaches node `other`, and its third message node 2. -/
def claimedMsg3 (other : Nat) : SmallKBitEvent :=
  claimed 30 (sentPayload (exec kBitStep (kBitNode other) [opensSession other,
    kBitReceive other 2 20 11 (sentPayload (kBitStep (kBitNode 2) (claimedSetup other)))]))

/-- Node 2 opens a session to the node whose key is 5. -/
def opensOther : SmallKBitEvent :=
  .initiateSession (env 2 40 ⟨17⟩) (NodeAddr.fromPubkey Scalar (Point.mk 5)) ⟨5⟩

/-- A session that a genuine node opens passes, and the sessions opened after it. -/
theorem authentic_exchange :
    Always kBitStep Authentic (kBitNode 2) [claimedSetup 1, claimedMsg3 1, opensOther] := by
  refine (authentic_iff_genuine (idle_kBitNode 2) ?_).mpr ⟨?_, ?_, trivial, trivial⟩
  · simp only [List.forall_mem_cons]
    exact ⟨trivial, trivial, rfl, fun _ hmem => by cases hmem⟩
  · intro pubkey hrevealed
    have hnone : (kBitNode 2).revealedKey sampleSource
        (sentPayload (kBitStep (kBitNode 1) (opensSession 1))) = none := by decide +kernel
    cases hnone.symm.trans hrevealed
  · intro pubkey hrevealed
    have hsome : (kBitStep (kBitNode 2) (claimedSetup 1)).revealedKey sampleSource
        (sentPayload (exec kBitStep (kBitNode 1) [opensSession 1,
          kBitReceive 1 2 20 11 (sentPayload (kBitStep (kBitNode 2) (claimedSetup 1)))])) =
        some ⟨1⟩ := by decide +kernel
    cases hsome.symm.trans hrevealed
    rfl

/-- Node 2 has a session with the key 3 under the address of the key 1. -/
theorem session_of_another :
    ¬ ∀ events : List SmallKBitEvent, (∀ event ∈ events, Initiates event) →
      Always kBitStep Authentic (kBitNode 2) events := by
  intro h
  have hauthentic := (h [claimedSetup 3, claimedMsg3 3] (by
    simp only [List.forall_mem_cons]
    exact ⟨trivial, trivial, fun _ hmem => by cases hmem⟩)).exec
  have hkey : (((exec kBitStep (kBitNode 2) [claimedSetup 3, claimedMsg3 3]).sessions.lookup
      sampleSource).bind (·.current)).map (·.remoteStatic) = some ⟨3⟩ := by decide +kernel
  have hother : ¬ KeyOf Scalar sampleSource (Point.mk 3) := by decide +kernel
  obtain ⟨session, hsession, hstatic⟩ := Option.map_eq_some_iff.mp hkey
  obtain ⟨e, he, hcurrent⟩ := Option.bind_eq_some_iff.mp hsession
  refine hother (hstatic ▸ (hauthentic.sessions _ e he).current session ?_)
  exact SessionEntry.state_of_current hcurrent

end Examples

end Node

end Fips
