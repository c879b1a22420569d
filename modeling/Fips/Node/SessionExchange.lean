import Fips.Node.ErrorSignals
import Fips.Node.ForgedHandshakes
import Fips.Node.SessionKeys
import Fips.Noise.Exchange
import Fips.Wire.PlainCoords

/-!
# Two nodes set up a session

`initiate_session` at one end and `handle_session_payload` at both: the setup, the ack and the third
message of an XK exchange, each delivered as it was sent, by any route and after any time. Meanwhile
each node may do whatever leaves its entry for the other alone but for times, counters and
measurements (`Waits`): traffic of other sessions, resends, duplicates of the setup.

The responder may have no session with the initiator, one that it initiates itself at the same time as
the node with the larger address, or one that it may not rekey (`Node.givesWay`).

## Results

* `exists_xkTranscript`: an undisturbed XK exchange by its messages.
* `wp_initiateSession_posts`, `wp_setup_posts`, `wp_ack_posts`, `wp_msg3_inSession`: what each step
  sends and leaves.
* `session_established`: the exchange ends with a session at both ends, each sending under the key the
  other receives under.
-/

open Checked

namespace Fips

variable {SecretKey PublicKey ν μ : Type}

/-! ## Sessions under two keys -/

/-- The keys of one end of a session. -/
structure KeyPair where
  send : Bytes
  recv : Bytes
  deriving DecidableEq

namespace KeyPair

/-- The keys of the other end. -/
def flip (keys : KeyPair) : KeyPair := ⟨keys.recv, keys.send⟩

@[simp] theorem flip_flip (keys : KeyPair) : keys.flip.flip = keys := rfl

end KeyPair

/-- A session under these keys that has accepted these counters. -/
structure NoiseSession.Under (keys : KeyPair) (received : List Nat) (s : NoiseSession PublicKey) :
    Prop where
  sendKey : s.sendCipher.key = keys.send
  hasSendKey : s.sendCipher.hasKey = true
  recvKey : s.recvCipher.key = keys.recv
  hasRecvKey : s.recvCipher.hasKey = true
  window : s.replayWindow.Represents received
  nodup : received.Nodup

/-- Sealing moves the counter only. -/
theorem NoiseSession.Under.encryptWithAad [ChaCha20Poly1305] {keys : KeyPair} {received : List Nat}
    {s : NoiseSession PublicKey} (h : s.Under keys received) (inner header : Bytes) :
    (s.encryptWithAad inner header).1.Under keys received where
  sendKey := (CipherState.key_encryptWithAad _ _ _).trans h.sendKey
  hasSendKey := (CipherState.hasKey_encryptWithAad _ _ _).trans h.hasSendKey
  recvKey := h.recvKey
  hasRecvKey := h.hasRecvKey
  window := h.window
  nodup := h.nodup

theorem SessionEntry.Notes.trans [SessionMmp μ] {e e' e'' : SessionEntry SecretKey PublicKey μ}
    (h : Notes e e') (h' : Notes e' e'') : Notes e e'' := by
  obtain ⟨g, hg, hmmp⟩ := h.mmp
  obtain ⟨g', hg', hmmp'⟩ := h'.mmp
  refine ⟨h'.remoteAddr.trans h.remoteAddr, h'.remotePubkey.trans h.remotePubkey,
    h'.state.trans h.state, h'.handshakePayload.trans h.handshakePayload,
    h'.currentKBit.trans h.currentKBit, h'.previousNoiseSession.trans h.previousNoiseSession,
    h'.rekeyState.trans h.rekeyState, h'.pendingNewSession.trans h.pendingNewSession,
    h'.rekeyInitiator.trans h.rekeyInitiator, _, .comp hg' hg, ?_⟩
  rw [hmmp', hmmp, Option.map_map]
  rfl

/-! ## The exchange as messages -/

namespace HandshakeState

variable [Sha256] [HkdfSha256] [ChaCha20Poly1305] [Secp256k1 SecretKey PublicKey]

/-- An undisturbed XK exchange: its messages, the states in between and the sessions at its end. -/
structure XkTranscript (p : Parties SecretKey PublicKey) where
  msg1 : Bytes
  msg2 : Bytes
  msg3 : Bytes
  initiated : HandshakeState SecretKey PublicKey
  asked : HandshakeState SecretKey PublicKey
  answered : HandshakeState SecretKey PublicKey
  told : HandshakeState SecretKey PublicKey
  closed : HandshakeState SecretKey PublicKey
  completed : HandshakeState SecretKey PublicKey
  initiatorSession : NoiseSession PublicKey
  responderSession : NoiseSession PublicKey
  keys : KeyPair
  write1 : call (writeXkMessage1 p.initiatorEphemeral)
    ((newXkInitiator p.initiatorStatic p.knownStatic).setLocalEpoch p.initiatorEpoch) =
      .ok (msg1, initiated)
  read1 : call (readXkMessage1 msg1)
    ((newXkResponder p.responderStatic).setLocalEpoch p.responderEpoch) = .ok ((), asked)
  write2 : call (writeXkMessage2 p.responderEphemeral) asked = .ok (msg2, answered)
  read2 : call (readXkMessage2 msg2) initiated = .ok ((), told)
  write3 : call writeXkMessage3 told = .ok (msg3, closed)
  read3 : call (readXkMessage3 msg3) answered = .ok ((), completed)
  intoInitiator : closed.intoSession = .ok initiatorSession
  intoResponder : completed.intoSession = .ok responderSession
  remoteStatic : completed.remoteStatic = some (Secp256k1.publicKey p.initiatorStatic)
  initiatorUnder : initiatorSession.Under keys []
  responderUnder : responderSession.Under keys.flip []

section Sizes

variable {message : Bytes} {s s' : HandshakeState SecretKey PublicKey}

omit [ChaCha20Poly1305] in
theorem length_of_readXkMessage1 (h : call (readXkMessage1 message) s = .ok ((), s')) :
    message.length = XK_HANDSHAKE_MSG1_SIZE := by
  rw [call_eq_ok] at h
  simp only [readXkMessage1, runs_bind_iff, runs_requireLength_iff] at h
  obtain ⟨_, _, -, _, _, -, _, _, ⟨hlen, -⟩, -⟩ := h
  exact hlen

theorem length_of_readXkMessage2 (h : call (readXkMessage2 message) s = .ok ((), s')) :
    message.length = XK_HANDSHAKE_MSG2_SIZE := by
  rw [call_eq_ok] at h
  simp only [readXkMessage2, runs_bind_iff, runs_requireLength_iff] at h
  obtain ⟨_, _, -, _, _, -, _, _, ⟨hlen, -⟩, -⟩ := h
  exact hlen

end Sizes

omit [Sha256] [ChaCha20Poly1305] [Secp256k1 SecretKey PublicKey] in
/-- The sessions of two parties that completed with one symmetric state. -/
theorem under_fromHandshake (x : SymmetricState) (role : HandshakeRole) (hash : Bytes)
    (remoteStatic : PublicKey) :
    (NoiseSession.fromHandshake role x.split.1 x.split.2 hash remoteStatic).Under
      ⟨x.split.1.key, x.split.2.key⟩ [] :=
  ⟨rfl, rfl, rfl, rfl, ReplayWindow.represents_new, List.nodup_nil⟩

omit [Sha256] [ChaCha20Poly1305] [Secp256k1 SecretKey PublicKey] in
theorem under_fromHandshake_flip (x : SymmetricState) (role : HandshakeRole) (hash : Bytes)
    (remoteStatic : PublicKey) :
    (NoiseSession.fromHandshake role x.split.2 x.split.1 hash remoteStatic).Under
      (KeyPair.flip ⟨x.split.1.key, x.split.2.key⟩) [] :=
  ⟨rfl, rfl, rfl, rfl, ReplayWindow.represents_new, List.nodup_nil⟩

/-- **XK completes**, message by message. -/
theorem exists_xkTranscript (hcurve : Secp256k1.Lawful SecretKey) (haead : ChaCha20Poly1305.Lawful)
    (p : Parties SecretKey PublicKey) : Nonempty (XkTranscript p) := by
  obtain ⟨x₁, hx₁⟩ : ∃ x₁, x₁ = HandshakePattern.Message.schedule symmetricOps (curveOps SecretKey)
      p.toKeys (premessage PROTOCOL_NAME_XK p) ⟨true, [.e, .es], []⟩ := ⟨_, rfl⟩
  obtain ⟨x₂, hx₂⟩ : ∃ x₂, x₂ = HandshakePattern.Message.schedule symmetricOps (curveOps SecretKey)
      p.toKeys x₁ ⟨false, [.e, .ee, .payload], p.responderEpoch.bytes⟩ := ⟨_, rfl⟩
  obtain ⟨x₃, hx₃⟩ : ∃ x₃, x₃ = HandshakePattern.Message.schedule symmetricOps (curveOps SecretKey)
      p.toKeys x₂ ⟨true, [.s, .se, .payload], p.initiatorEpoch.bytes⟩ := ⟨_, rfl⟩
  obtain ⟨msg1, hw1, hr1⟩ := xk_message_1 hcurve p .xk _ hx₁
  obtain ⟨hkeyed, msg2, hw2, hr2⟩ := xk_message_2 hcurve p .xk _ haead hx₂
  obtain ⟨msg3, hw3, hr3⟩ := xk_message_3 hcurve p .xk _ haead hkeyed hx₃ (some p.responderEpoch)
  rw [← start_initiator hcurve p .xk PROTOCOL_NAME_XK] at hw1
  rw [← start_responder p .xk PROTOCOL_NAME_XK] at hr1
  exact ⟨msg1, msg2, msg3, _, _, _, _, _, _, _, _, _, call_eq_ok.mpr hw1, call_eq_ok.mpr hr1,
    call_eq_ok.mpr hw2, call_eq_ok.mpr hr2, call_eq_ok.mpr hw3, call_eq_ok.mpr hr3, rfl, rfl, rfl,
    under_fromHandshake x₃ _ _ _, under_fromHandshake_flip x₃ _ _ _⟩

end HandshakeState

namespace Node

-- what a method does is read off its rules, never by running it
attribute [local irreducible] wp

section Sends

variable {n n' n'' : Node SecretKey PublicKey ν μ} {dest peer : NodeAddr}

/-! ## What a node sends -/

/-- The session payload for `dest` that an effect hands to a link. -/
def payloadFor (dest : NodeAddr) (e : Effect PublicKey) : Option Bytes :=
  (sentDatagram e).bind fun d => if d.destAddr = dest then some d.payload else none

/-- From `n` to `n'` exactly these session payloads were sent to `dest`. -/
def Posts (dest : NodeAddr) (payloads : List Bytes) (n n' : Node SecretKey PublicKey ν μ) : Prop :=
  ∃ new, n'.effects = n.effects ++ new ∧ new.filterMap (payloadFor dest) = payloads

theorem Posts.trans {payloads payloads' : List Bytes} (h : Posts dest payloads n n')
    (h' : Posts dest payloads' n' n'') : Posts dest (payloads ++ payloads') n n'' := by
  obtain ⟨new, heffects, hnew⟩ := h
  obtain ⟨new', heffects', hnew'⟩ := h'
  refine ⟨new ++ new', ?_, ?_⟩
  · rw [heffects', heffects, List.append_assoc]
  · rw [List.filterMap_append, hnew, hnew']

theorem posts_encode {nextHop : NodeAddr} {d : SessionDatagram} {ceFlag : Bool}
    (h : n'.effects = n.effects ++ [.sentLinkMessage nextHop d.encode ceFlag]) :
    Posts d.destAddr [d.payload] n n' := by
  refine ⟨_, h, ?_⟩
  unfold payloadFor
  rw [List.filterMap_cons, sentDatagram_encode, Option.bind_some, if_pos rfl]
  rfl

/-- The same node, with the entry for `peer` as it was but for times, counters and measurements. -/
structure Waits [SessionMmp μ] (peer : NodeAddr) (n n' : Node SecretKey PublicKey ν μ) : Prop where
  identity : n'.identity = n.identity
  startupEpoch : n'.startupEpoch = n.startupEpoch
  session : ∀ e, n.sessions.lookup peer = some e →
    ∃ e', n'.sessions.lookup peer = some e' ∧ SessionEntry.Notes e e'

theorem Waits.refl [SessionMmp μ] : Waits peer n n := ⟨rfl, rfl, fun e he => ⟨e, he, .refl⟩⟩

/-- The entry for `peer` is in this state, knows its end by this key and is not being replaced. -/
structure EntryAt (state : EndToEndState SecretKey PublicKey) (pubkey : PublicKey)
    (e : SessionEntry SecretKey PublicKey μ) : Prop where
  state : e.state = some state
  remotePubkey : e.remotePubkey = pubkey
  pendingNewSession : e.pendingNewSession = none
  previousNoiseSession : e.previousNoiseSession = none

/-- The session with `peer` is at a given stage of the handshake. -/
def AtStage (peer : NodeAddr) (state : EndToEndState SecretKey PublicKey) (pubkey : PublicKey)
    (n : Node SecretKey PublicKey ν μ) : Prop :=
  ∃ e, n.sessions.lookup peer = some e ∧ EntryAt state pubkey e

theorem AtStage.waits [SessionMmp μ] {state : EndToEndState SecretKey PublicKey} {pubkey : PublicKey}
    (h : AtStage peer state pubkey n) (hwaits : Waits peer n n') : AtStage peer state pubkey n' := by
  obtain ⟨e, he, hentry⟩ := h
  obtain ⟨e', he', hnotes⟩ := hwaits.session e he
  exact ⟨e', he', hnotes.state.trans hentry.state, hnotes.remotePubkey.trans hentry.remotePubkey,
    hnotes.pendingNewSession.trans hentry.pendingNewSession,
    hnotes.previousNoiseSession.trans hentry.previousNoiseSession⟩

/-- A session with `peer` under these keys that has accepted these counters. -/
def InSession (peer : NodeAddr) (pubkey : PublicKey) (keys : KeyPair) (received : List Nat)
    (n : Node SecretKey PublicKey ν μ) : Prop :=
  ∃ s, AtStage peer (.established s) pubkey n ∧ s.Under keys received

variable [SessionMmp μ] (env : Env SecretKey)

/-- A payload that reaches a next hop is sent. -/
theorem wp_sendSessionPayload_posts {payload : Bytes} (hreach : Reaches env n dest payload) :
    wp (sendSessionPayload env dest payload : M SecretKey PublicKey ν μ SendError Unit)
      (fun _ n' => Posts dest [payload] n n' ∧ Waits dest n n') (fun _ _ => False) n := by
  have hwaits : Keeps (Waits dest n) (sendSessionPayload env dest payload :
      M SecretKey PublicKey ν μ SendError Unit) := by
    refine keeps_sendSessionPayload_of_note env dest payload (fun n' f hf hn' => ?_)
      fun _ _ _ _ _ hn' => ⟨hn'.identity, hn'.startupEpoch, hn'.session⟩
    refine ⟨hn'.identity, hn'.startupEpoch, fun e he => ?_⟩
    obtain ⟨e', he', hnotes⟩ := hn'.session e he
    exact ⟨f e', Map.lookup_modify_self he' f, hnotes.trans (hf e')⟩
  refine wp_mono (fun _ n' hn' => ?_) (fun _ n' hn' => hn'.1.2 hreach)
    (wp_and (wp_sendSessionPayload_effects env dest payload) (hwaits.wp .refl))
  obtain ⟨⟨nextHop, d, -, rfl, rfl, -, -, heffects⟩, hn'⟩ := hn'
  exact ⟨posts_encode heffects, hn'⟩

end Sends

section Steps

variable [Sha256] [HkdfSha256] [ChaCha20Poly1305] [Secp256k1 SecretKey PublicKey] [SessionMmp μ]
  {env : Env SecretKey} {n : Node SecretKey PublicKey ν μ} {peer : NodeAddr}

/-! ## The initiator begins -/

omit [ChaCha20Poly1305] in
/-- **The setup** goes out, and the node waits for the ack. -/
theorem wp_initiateSession_posts {pubkey : PublicKey} (hreach : ∀ payload, Reaches env n peer payload)
    (hidle : ∀ e, n.sessions.lookup peer = some e → e.isEstablished = false ∧ e.isInitiating = false)
    {msg1 : Bytes} {handshake : HandshakeState SecretKey PublicKey}
    (hmsg1 : call (HandshakeState.writeXkMessage1 (env.ephemeral peer))
      ((HandshakeState.newXkInitiator n.identity.secretKey pubkey).setLocalEpoch n.startupEpoch) =
        .ok (msg1, handshake)) :
    wp (initiateSession env peer pubkey)
      (fun _ n' => Posts peer
          [((SessionSetup.new env.myCoords (env.destCoords peer)).withHandshake msg1).encode] n n' ∧
        AtStage peer (.initiating handshake) pubkey n' ∧ n'.identity = n.identity ∧
        n'.startupEpoch = n.startupEpoch) (fun _ _ => False) n := by
  unfold initiateSession
  rw [wp_bind_iff, wp_read_iff]
  have hfree : ¬ (n.sessions.lookup peer).any (fun e => e.isEstablished || e.isInitiating) = true := by
    cases he : n.sessions.lookup peer with
    | none => exact Bool.false_ne_true
    | some e =>
      rw [Option.any_some, (hidle e he).1, (hidle e he).2]
      exact Bool.false_ne_true
  rw [if_neg hfree, wp_bind_iff, wp_read_iff, wp_bind_iff, wp_attempt_iff]
  dsimp only [id_eq]
  rw [hmsg1, wp_pureCall_iff]
  refine ⟨fun sent hsent => ?_, fun e he => by cases he⟩
  cases hsent
  dsimp only
  rw [wp_bind_iff]
  refine wp_mono (fun _ n' hn' => ?_) (fun _ _ hF => hF) (wp_sendSessionPayload_posts env (hreach _))
  rw [wp_bind_iff, wp_registerIdentity_iff, wp_putSession_iff]
  refine ⟨?_, ⟨_, AList.lookup_insert _, rfl, rfl, rfl, rfl⟩, hn'.2.identity, hn'.2.startupEpoch⟩
  have hregistered : Posts peer [] n' { n' with
      effects := n'.effects ++ [.registerIdentity peer pubkey] } := ⟨_, rfl, rfl⟩
  exact hn'.1.trans hregistered

/-! ## The responder answers -/

/-- Where the session gives way, a setup begins a new one. -/
theorem wp_onSessionSetup_of_givesWay {setup : SessionSetup}
    (hlen : setup.handshakePayload.length = XK_HANDSHAKE_MSG1_SIZE) (hgives : n.givesWay peer = true)
    {P : Node SecretKey PublicKey ν μ → Prop}
    (h : wp (acceptSetup env peer setup) (fun _ => P) (fun _ => P) n) :
    wp (onSessionSetup env peer setup) (fun _ => P) (fun _ => P) n := by
  unfold onSessionSetup
  rw [if_neg (by simpa using hlen), wp_bind_iff, wp_read_iff]
  unfold givesWay at hgives
  cases hlookup : n.sessions.lookup peer with
  | none => exact h
  | some e =>
    rw [sessionState_of_lookup hlookup] at hgives
    dsimp only
    rw [wp_bind_iff, wp_read_iff, wp_bind_iff, wp_read_iff]
    cases hstate : e.state with
    | none =>
      rw [if_neg (by simp [SessionEntry.isInitiating, hstate]),
        if_neg (by simp [SessionEntry.isAwaitingMsg3, hstate]),
        if_neg (by simp [SessionEntry.isEstablished, hstate])]
      exact h
    | some state =>
      rw [hstate] at hgives
      cases state with
      | initiating handshake =>
        rw [if_pos (SessionEntry.isInitiating_iff.mpr ⟨handshake, hstate⟩),
          if_neg (by simpa using hgives)]
        exact h
      | awaitingMsg3 handshake => cases hgives
      | established session =>
        rw [if_neg (by simp [SessionEntry.isInitiating, hstate, EndToEndState.isInitiating]),
          if_neg (by simp [SessionEntry.isAwaitingMsg3, hstate, EndToEndState.isAwaitingMsg3]),
          SessionEntry.isEstablished_iff.mpr ⟨session, hstate⟩, Bool.true_and,
          if_neg (by simpa using hgives)]
        exact h

/-- **The ack** goes out, and the node waits for the third message. -/
theorem wp_acceptSetup_posts {setup : SessionSetup} (hreach : ∀ payload, Reaches env n peer payload)
    {asked answered : HandshakeState SecretKey PublicKey} {msg2 : Bytes}
    (hread : call (HandshakeState.readXkMessage1 setup.handshakePayload)
      ((HandshakeState.newXkResponder n.identity.secretKey).setLocalEpoch n.startupEpoch) =
        .ok ((), asked))
    (hwrite : call (HandshakeState.writeXkMessage2 (env.ephemeral peer)) asked = .ok (msg2, answered)) :
    wp (acceptSetup env peer setup)
      (fun _ n' => Posts peer
          [((SessionAck.new env.myCoords setup.srcCoords).withHandshake msg2).encode] n n' ∧
        AtStage peer (.awaitingMsg3 answered) (Secp256k1.publicKey n.identity.secretKey) n' ∧
        n'.identity = n.identity) (fun _ _ => False) n := by
  have hrespond : xkRespond env peer n setup.handshakePayload = .ok (answered, msg2) := by
    unfold xkRespond
    simp only [hread, hwrite, bind, Except.bind]
    rfl
  unfold acceptSetup
  rw [wp_bind_iff, wp_read_iff, id_eq, hrespond, wp_bind_iff, wp_orReturn_ok]
  dsimp only
  rw [wp_bind_iff, wp_attempt_iff]
  refine wp_mono (fun _ n' hn' => ?_) (fun _ _ hF => hF.elim)
    (wp_sendSessionPayload_posts env (hreach _))
  dsimp only
  rw [wp_bind_iff, wp_read_iff, wp_putSession_iff]
  refine ⟨hn'.1, ⟨_, AList.lookup_insert _, rfl, ?_, rfl, rfl⟩, hn'.2.identity⟩
  dsimp only [SessionEntry.setHandshakePayload, SessionEntry.new, id_eq]
  rw [hn'.2.identity]

section Delivery

variable {body : Bytes} {pathMtu : Nat} {ceFlag : Bool} {P : Node SecretKey PublicKey ν μ → Prop}

/-- A payload of phase 1 is a setup. -/
theorem wp_handleSessionPayload_msg1
    (h : wp (handleSessionSetup env peer body : Handler SecretKey PublicKey ν μ Unit) (fun _ => P)
      (fun _ => P) n) :
    wp (handleSessionPayload env peer (withPrefix FSP_PHASE_MSG1 0x00 body) pathMtu ceFlag :
      Handler SecretKey PublicKey ν μ Unit) (fun _ => P) (fun _ => P) n := by
  obtain ⟨len, hparse⟩ := parse_withPrefix FSP_PHASE_MSG1 0x00 body
  unfold handleSessionPayload
  refine wp_body_of_wp ?_
  rw [hparse, wp_bind_iff, wp_orReturn_ok, sliceFrom_of_le (FspCommonPrefix.length_of_parse hparse),
    wp_bind_iff, wp_orReturn_ok]
  dsimp only
  rw [if_pos (by decide)]
  exact h

/-- One of phase 2 is an ack. -/
theorem wp_handleSessionPayload_msg2
    (h : wp (handleSessionAck env peer body : Handler SecretKey PublicKey ν μ Unit) (fun _ => P)
      (fun _ => P) n) :
    wp (handleSessionPayload env peer (withPrefix FSP_PHASE_MSG2 0x00 body) pathMtu ceFlag :
      Handler SecretKey PublicKey ν μ Unit) (fun _ => P) (fun _ => P) n := by
  obtain ⟨len, hparse⟩ := parse_withPrefix FSP_PHASE_MSG2 0x00 body
  unfold handleSessionPayload
  refine wp_body_of_wp ?_
  rw [hparse, wp_bind_iff, wp_orReturn_ok, sliceFrom_of_le (FspCommonPrefix.length_of_parse hparse),
    wp_bind_iff, wp_orReturn_ok]
  dsimp only
  rw [if_neg (by decide), if_pos (by decide)]
  exact h

/-- One of phase 3 is a third message. -/
theorem wp_handleSessionPayload_msg3
    (h : wp (handleSessionMsg3 env peer body : Handler SecretKey PublicKey ν μ Unit) (fun _ => P)
      (fun _ => P) n) :
    wp (handleSessionPayload env peer (withPrefix FSP_PHASE_MSG3 0x00 body) pathMtu ceFlag :
      Handler SecretKey PublicKey ν μ Unit) (fun _ => P) (fun _ => P) n := by
  obtain ⟨len, hparse⟩ := parse_withPrefix FSP_PHASE_MSG3 0x00 body
  unfold handleSessionPayload
  refine wp_body_of_wp ?_
  rw [hparse, wp_bind_iff, wp_orReturn_ok, sliceFrom_of_le (FspCommonPrefix.length_of_parse hparse),
    wp_bind_iff, wp_orReturn_ok]
  dsimp only
  rw [if_neg (by decide), if_neg (by decide), if_pos (by decide)]
  exact h

/-- **A setup is answered.** -/
theorem wp_setup_posts {setup : SessionSetup} (hrange : setup.InRange)
    (hlen : setup.handshakePayload.length = XK_HANDSHAKE_MSG1_SIZE) (hgives : n.givesWay peer = true)
    (hreach : ∀ payload, Reaches env n peer payload)
    {asked answered : HandshakeState SecretKey PublicKey} {msg2 : Bytes}
    (hread : call (HandshakeState.readXkMessage1 setup.handshakePayload)
      ((HandshakeState.newXkResponder n.identity.secretKey).setLocalEpoch n.startupEpoch) =
        .ok ((), asked))
    (hwrite : call (HandshakeState.writeXkMessage2 (env.ephemeral peer)) asked = .ok (msg2, answered))
    (hP : ∀ n', Posts peer
        [((SessionAck.new env.myCoords setup.srcCoords.addrsOnly).withHandshake msg2).encode] n n' ∧
      AtStage peer (.awaitingMsg3 answered) (Secp256k1.publicKey n.identity.secretKey) n' ∧
      n'.identity = n.identity → P n') :
    wp (handleSessionPayload env peer setup.encode pathMtu ceFlag :
      Handler SecretKey PublicKey ν μ Unit) (fun _ => P) (fun _ => P) n := by
  have hdecode : SessionSetup.decode setup.body = .ok setup.addrsOnly :=
    SessionSetup.agrees.roundTrip setup hrange
  have hsetup : setup.encode = withPrefix FSP_PHASE_MSG1 0x00 setup.body := rfl
  rw [hsetup]
  refine wp_handleSessionPayload_msg1 (wp_body_of_wp ?_)
  have hlen' : setup.addrsOnly.handshakePayload.length = XK_HANDSHAKE_MSG1_SIZE := hlen
  have hread' : call (HandshakeState.readXkMessage1 setup.addrsOnly.handshakePayload)
      ((HandshakeState.newXkResponder n.identity.secretKey).setLocalEpoch n.startupEpoch) =
        .ok ((), asked) := hread
  rw [hdecode, wp_bind_iff, wp_orReturn_ok]
  refine wp_onSessionSetup_of_givesWay hlen' hgives ?_
  exact wp_mono (fun _ n' hn' => hP n' hn') (fun _ _ hF => hF.elim)
    (wp_acceptSetup_posts hreach hread' hwrite)

/-! ## The initiator finishes -/

omit [Sha256] [HkdfSha256] [Secp256k1 SecretKey PublicKey] in
/-- Sending leaves a session as it is, and only adds to what was sent. -/
theorem sendRules_inSession (base : Node SecretKey PublicKey ν μ) (peer : NodeAddr)
    (pubkey : PublicKey) (keys : KeyPair) (received : List Nat) :
    SendRules (fun _ _ => True) (fun n => InSession peer pubkey keys received n ∧
      ∃ more, Posts peer more base n) where
  note n addr f hf := by
    rintro ⟨⟨s, ⟨e, he, hentry⟩, hunder⟩, hposts⟩
    refine ⟨⟨s, ?_, hunder⟩, hposts⟩
    by_cases haddr : peer = addr
    · subst haddr
      exact ⟨f e, Map.lookup_modify_self he f, (hf e).state.trans hentry.state,
        (hf e).remotePubkey.trans hentry.remotePubkey,
        (hf e).pendingNewSession.trans hentry.pendingNewSession,
        (hf e).previousNoiseSession.trans hentry.previousNoiseSession⟩
    · exact ⟨e, (Map.lookup_modify_ne _ haddr f).trans he, hentry⟩
  advance n addr e session inner header he hstate := by
    rintro ⟨⟨s, ⟨e', he', hentry⟩, hunder⟩, hposts⟩
    by_cases haddr : peer = addr
    · subst haddr
      cases he.symm.trans he'
      cases hstate.symm.trans hentry.state
      exact ⟨⟨_, ⟨_, AList.lookup_insert _, rfl, hentry.remotePubkey, hentry.pendingNewSession,
        hentry.previousNoiseSession⟩, hunder.encryptWithAad inner header⟩, hposts⟩
    · exact ⟨⟨s, ⟨e', (AList.lookup_insert_ne haddr).trans he', hentry⟩, hunder⟩, hposts⟩
  frame n nextHop d e counter flags len tail he hestablished hpayload hflags := by
    rintro ⟨hsession, more, hposts⟩
    exact ⟨hsession, _, hposts.trans ⟨_, rfl, rfl⟩⟩

omit [Sha256] [HkdfSha256] [Secp256k1 SecretKey PublicKey] in
/-- The packets that waited are sent on the new session. -/
theorem wp_flushPendingPackets_inSession {base : Node SecretKey PublicKey ν μ} {pubkey : PublicKey}
    {keys : KeyPair} {received : List Nat} {payloads : List Bytes}
    (hsession : InSession peer pubkey keys received n) (hposts : Posts peer payloads base n) :
    wp (flushPendingPackets env peer : Handler SecretKey PublicKey ν μ Unit)
      (fun _ n' => InSession peer pubkey keys received n' ∧ ∃ more, Posts peer (payloads ++ more) base n')
      (fun _ n' => InSession peer pubkey keys received n' ∧ ∃ more, Posts peer (payloads ++ more) base n')
      n := by
  have hrules := sendRules_inSession n peer pubkey keys received
  have hwarmup := hrules.keeps_sendCoordsWarmup env fun _ => trivial
  have hdata := hrules.keeps_sendSessionData env (fun _ _ => trivial) hwarmup
  have hflush : Keeps (fun n' => InSession peer pubkey keys received n' ∧ ∃ more, Posts peer more n n')
      (flushPendingPackets env peer : Handler SecretKey PublicKey ν μ Unit) :=
    keeps_flushPendingPackets env (fun _ hn => hn) fun packet =>
      keeps_sendIpv6Packet env (fun srcPort dstPort payload => hdata peer srcPort dstPort payload) packet
  have hmore : ∀ n', (InSession peer pubkey keys received n' ∧ ∃ more, Posts peer more n n') →
      InSession peer pubkey keys received n' ∧ ∃ more, Posts peer (payloads ++ more) base n' :=
    fun n' hn' => ⟨hn'.1, hn'.2.imp fun more hmore => hposts.trans hmore⟩
  exact wp_mono (fun _ => hmore) (fun _ => hmore)
    (hflush.wp ⟨hsession, [], [], (List.append_nil _).symm, rfl⟩)

/-- The third message goes out. -/
theorem wp_finishAsInitiator_posts {handshake told closed : HandshakeState SecretKey PublicKey}
    {msg2 msg3 : Bytes} {session : NoiseSession PublicKey}
    (hread : call (HandshakeState.readXkMessage2 msg2) handshake = .ok ((), told))
    (hwrite : call HandshakeState.writeXkMessage3 told = .ok (msg3, closed))
    (hinto : closed.intoSession = .ok session) (hreach : ∀ payload, Reaches env n peer payload) :
    wp (finishAsInitiator env peer msg2 handshake)
      (fun s n' => s = session ∧ Posts peer [(SessionMsg3.new msg3).encode] n n' ∧ Waits peer n n')
      (fun _ _ => False) n := by
  unfold finishAsInitiator
  rw [hread, wp_bind_iff, wp_orReturn_ok]
  dsimp only
  rw [hwrite, wp_bind_iff, wp_orReturn_ok]
  dsimp only
  rw [wp_bind_iff, wp_attempt_iff]
  refine wp_mono (fun _ n' hn' => ?_) (fun _ _ hF => hF.elim)
    (wp_sendSessionPayload_posts env (hreach _))
  dsimp only
  rw [hinto, wp_orReturn_ok]
  exact ⟨rfl, hn'⟩

/-- **The ack** makes the session of the initiator. -/
theorem wp_ack_posts {ack : SessionAck} (hrange : ack.InRange) {pubkey : PublicKey}
    {handshake told closed : HandshakeState SecretKey PublicKey} {msg3 : Bytes}
    {session : NoiseSession PublicKey} {keys : KeyPair}
    (hstage : AtStage peer (.initiating handshake) pubkey n)
    (hread : call (HandshakeState.readXkMessage2 ack.handshakePayload) handshake = .ok ((), told))
    (hwrite : call HandshakeState.writeXkMessage3 told = .ok (msg3, closed))
    (hinto : closed.intoSession = .ok session) (hunder : session.Under keys [])
    (hreach : ∀ payload, Reaches env n peer payload)
    (hP : ∀ n' more, Posts peer ((SessionMsg3.new msg3).encode :: more) n n' →
      InSession peer pubkey keys [] n' → P n') :
    wp (handleSessionPayload env peer ack.encode pathMtu ceFlag :
      Handler SecretKey PublicKey ν μ Unit) (fun _ => P) (fun _ => P) n := by
  have hdecode : SessionAck.decode ack.body = .ok ack.addrsOnly :=
    SessionAck.agrees.roundTrip ack hrange
  have hack : ack.encode = withPrefix FSP_PHASE_MSG2 0x00 ack.body := rfl
  have hlen : ack.addrsOnly.handshakePayload.length = XK_HANDSHAKE_MSG2_SIZE :=
    HandshakeState.length_of_readXkMessage2 hread
  rw [hack]
  refine wp_handleSessionPayload_msg2 (wp_body_of_wp ?_)
  rw [hdecode, wp_bind_iff, wp_orReturn_ok]
  obtain ⟨e, he, hentry⟩ := hstage
  have hstate := hentry.state
  unfold onSessionAck
  rw [if_neg (by simpa using hlen), wp_bind_iff, wp_takeSession_iff]
  refine ⟨fun e' he' => ?_, fun hnone => by cases he.symm.trans hnone⟩
  cases he.symm.trans he'
  rw [if_neg (by simp [SessionEntry.isEstablished, hstate, EndToEndState.isEstablished]),
    if_neg (by simp [SessionEntry.isInitiating, hstate, EndToEndState.isInitiating]), hstate]
  dsimp only
  rw [wp_bind_iff]
  refine wp_mono (fun s n' hn' => ?_) (fun _ _ hF => hF.elim)
    (wp_finishAsInitiator_posts hread hwrite hinto fun payload => hreach payload)
  obtain ⟨rfl, hposts, -⟩ := hn'
  rw [wp_bind_iff, wp_read_iff, wp_bind_iff, wp_putSession_iff, wp_bind_iff, wp_cacheCoords_iff]
  obtain ⟨new, heffects, hnew⟩ := hposts
  have hdone : ∀ m, (InSession peer pubkey keys [] m ∧
      ∃ more, Posts peer ([(SessionMsg3.new msg3).encode] ++ more) n m) → P m := by
    rintro m ⟨hsession, more, hmore⟩
    exact hP m more hmore hsession
  refine wp_mono (fun _ => hdone) (fun _ => hdone)
    (wp_flushPendingPackets_inSession ⟨s, ⟨_, AList.lookup_insert _, rfl, hentry.remotePubkey,
      hentry.pendingNewSession, hentry.previousNoiseSession⟩, hunder⟩
      ⟨new ++ [.cacheCoords peer ack.addrsOnly.srcCoords], ?_, ?_⟩)
  · dsimp only [Option.toList_some, List.map_cons, List.map_nil]
    rw [heffects, List.append_assoc]
    rfl
  · rw [List.filterMap_append, hnew]
    rfl

/-! ## The responder finishes -/

/-- **The third message** makes the session of the responder. -/
theorem wp_msg3_inSession {msg3 : SessionMsg3} (hrange : msg3.handshakePayload.length ≤ 65535)
    {pubkey remotePubkey : PublicKey} {answered completed : HandshakeState SecretKey PublicKey}
    {session : NoiseSession PublicKey} {keys : KeyPair}
    (hstage : AtStage peer (.awaitingMsg3 answered) pubkey n)
    (hread : call (HandshakeState.readXkMessage3 msg3.handshakePayload) answered = .ok ((), completed))
    (hremote : completed.remoteStatic = some remotePubkey)
    (hinto : completed.intoSession = .ok session) (hunder : session.Under keys [])
    (hP : ∀ n', InSession peer remotePubkey keys [] n' → P n') :
    wp (handleSessionPayload env peer msg3.encode pathMtu ceFlag :
      Handler SecretKey PublicKey ν μ Unit) (fun _ => P) (fun _ => P) n := by
  have hdecode : SessionMsg3.decode msg3.body = .ok msg3 := SessionMsg3.agrees.roundTrip msg3 hrange
  have hmsg3 : msg3.encode = withPrefix FSP_PHASE_MSG3 0x00 msg3.body := rfl
  have hlen : msg3.handshakePayload.length = XK_HANDSHAKE_MSG3_SIZE :=
    HandshakeState.length_of_readXkMessage3 hread
  rw [hmsg3]
  refine wp_handleSessionPayload_msg3 (wp_body_of_wp ?_)
  rw [hdecode, wp_bind_iff, wp_orReturn_ok]
  obtain ⟨e, he, hentry⟩ := hstage
  have hstate := hentry.state
  unfold onSessionMsg3
  rw [if_neg (by simpa using hlen), wp_bind_iff, wp_takeSession_iff]
  refine ⟨fun e' he' => ?_, fun hnone => by cases he.symm.trans hnone⟩
  cases he.symm.trans he'
  rw [if_neg (by simp [SessionEntry.isEstablished, hstate, EndToEndState.isEstablished]),
    if_neg (by simp [SessionEntry.isAwaitingMsg3, hstate, EndToEndState.isAwaitingMsg3]), hstate]
  dsimp only
  rw [hread, wp_bind_iff, wp_orReturn_ok]
  dsimp only
  rw [hremote, wp_bind_iff, wp_orElse_some, wp_bind_iff, wp_registerIdentity_iff, hinto, wp_bind_iff,
    wp_orReturn_ok, wp_bind_iff, wp_read_iff, wp_bind_iff, wp_putSession_iff]
  refine wp_mono (fun _ m hm => hP m hm.1) (fun _ m hm => hP m hm.1)
    (wp_flushPendingPackets_inSession ⟨session, ⟨_, AList.lookup_insert _, rfl, rfl, rfl, rfl⟩, hunder⟩
      ⟨[], (List.append_nil _).symm, rfl⟩)

end Delivery

end Steps

/-! ## The whole exchange -/

section Exchange

variable [Sha256] [HkdfSha256] [ChaCha20Poly1305] [Secp256k1 SecretKey PublicKey] [SessionMmp μ]

/-- The node after a call of `initiate_session`. -/
def initiate (env : Env SecretKey) (dest : NodeAddr) (destPubkey : PublicKey)
    (n : Node SecretKey PublicKey ν μ) : Node SecretKey PublicKey ν μ :=
  (initiateSession env dest destPubkey n).1

/-- The moment at which a payload arrives, and what its datagram says. -/
structure Arrival (SecretKey : Type) where
  env : Env SecretKey
  pathMtu : Nat
  ceFlag : Bool

/-- The node after a session payload from `src`. -/
def receive (arrival : Arrival SecretKey) (src : NodeAddr) (payload : Bytes)
    (n : Node SecretKey PublicKey ν μ) : Node SecretKey PublicKey ν μ :=
  (handleSessionPayload arrival.env src payload arrival.pathMtu arrival.ceFlag n).1

theorem receive_of_wp {P : Node SecretKey PublicKey ν μ → Prop} {arrival : Arrival SecretKey}
    {src : NodeAddr} {payload : Bytes} {n : Node SecretKey PublicKey ν μ}
    (h : wp (handleSessionPayload arrival.env src payload arrival.pathMtu arrival.ceFlag :
      Handler SecretKey PublicKey ν μ Unit) (fun _ => P) (fun _ => P) n) :
    P (n.receive arrival src payload) :=
  fst_of_wp h

/-- `a` is about to set up a session to `b` with the keys and epochs of `p`, the first two moments of
which are `env₁` and `env₂`. -/
structure Meets (p : Parties SecretKey PublicKey) (a b : Node SecretKey PublicKey ν μ)
    (env₁ env₂ : Env SecretKey) : Prop where
  initiatorStatic : a.identity.secretKey = p.initiatorStatic
  initiatorEpoch : a.startupEpoch = p.initiatorEpoch
  initiatorEphemeral : env₁.ephemeral b.nodeAddr = p.initiatorEphemeral
  responderStatic : b.identity.secretKey = p.responderStatic
  responderEpoch : b.startupEpoch = p.responderEpoch
  responderEphemeral : env₂.ephemeral a.nodeAddr = p.responderEphemeral
  idle : ∀ e, a.sessions.lookup b.nodeAddr = some e → e.isEstablished = false ∧ e.isInitiating = false
  givesWay : b.givesWay a.nodeAddr = true
  initiatorCoords : env₁.myCoords.entries.length ≤ 65535
  destCoords : (env₁.destCoords b.nodeAddr).entries.length ≤ 65535
  responderCoords : env₂.myCoords.entries.length ≤ 65535

/-- The responder has sent this ack and waits for the third message. -/
def Answered (a b : Node SecretKey PublicKey ν μ) (ack : SessionAck)
    (handshake : HandshakeState SecretKey PublicKey) (n : Node SecretKey PublicKey ν μ) : Prop :=
  Posts a.nodeAddr [ack.encode] b n ∧
    AtStage a.nodeAddr (.awaitingMsg3 handshake) (Secp256k1.publicKey b.identity.secretKey) n

/-- **Session setup.** Each end sends what the other waits for, whatever else the nodes do in between,
and at the end both have a session in which each sends under the key the other receives under. The
initiator knows the responder by the key it asked for, the responder the initiator by its own. -/
theorem session_established (hcurve : Secp256k1.Lawful SecretKey) (haead : ChaCha20Poly1305.Lawful)
    (p : Parties SecretKey PublicKey) {a b : Node SecretKey PublicKey ν μ} {env₁ : Env SecretKey}
    {arrival₂ : Arrival SecretKey} (hmeets : Meets p a b env₁ arrival₂.env)
    (hreach₁ : ∀ payload, Reaches env₁ a b.nodeAddr payload)
    (hreach₂ : ∀ payload, Reaches arrival₂.env b a.nodeAddr payload) :
    ∃ setup, Posts b.nodeAddr [setup] a (a.initiate env₁ b.nodeAddr p.knownStatic) ∧
      ∃ ack, Posts a.nodeAddr [ack] b (b.receive arrival₂ a.nodeAddr setup) ∧
      ∀ a' arrival₃, Waits b.nodeAddr (a.initiate env₁ b.nodeAddr p.knownStatic) a' →
        (∀ payload, Reaches arrival₃.env a' b.nodeAddr payload) →
        ∃ msg3 more, Posts b.nodeAddr (msg3 :: more) a' (a'.receive arrival₃ b.nodeAddr ack) ∧
          ∀ b' arrival₄, Waits a.nodeAddr (b.receive arrival₂ a.nodeAddr setup) b' → ∃ keys,
            InSession b.nodeAddr p.knownStatic keys [] (a'.receive arrival₃ b.nodeAddr ack) ∧
            InSession a.nodeAddr (Secp256k1.publicKey p.initiatorStatic) keys.flip []
              (b'.receive arrival₄ a.nodeAddr msg3) := by
  obtain ⟨t⟩ := HandshakeState.exists_xkTranscript hcurve haead p
  have hmsg1 := HandshakeState.length_of_readXkMessage1 t.read1
  have hmsg2 := HandshakeState.length_of_readXkMessage2 t.read2
  have hmsg3 := HandshakeState.length_of_readXkMessage3 t.read3
  have hwrite1 : call (HandshakeState.writeXkMessage1 (env₁.ephemeral b.nodeAddr))
      ((HandshakeState.newXkInitiator a.identity.secretKey p.knownStatic).setLocalEpoch a.startupEpoch) =
        .ok (t.msg1, t.initiated) := by
    rw [hmeets.initiatorStatic, hmeets.initiatorEpoch, hmeets.initiatorEphemeral]
    exact t.write1
  have hread1 : call (HandshakeState.readXkMessage1 t.msg1)
      ((HandshakeState.newXkResponder b.identity.secretKey).setLocalEpoch b.startupEpoch) =
        .ok ((), t.asked) := by
    rw [hmeets.responderStatic, hmeets.responderEpoch]
    exact t.read1
  have hwrite2 : call (HandshakeState.writeXkMessage2 (arrival₂.env.ephemeral a.nodeAddr)) t.asked =
      .ok (t.msg2, t.answered) := by
    rw [hmeets.responderEphemeral]
    exact t.write2
  obtain ⟨setup, hsetup⟩ : ∃ setup, setup =
      (SessionSetup.new env₁.myCoords (env₁.destCoords b.nodeAddr)).withHandshake t.msg1 := ⟨_, rfl⟩
  obtain ⟨ack, hack⟩ : ∃ ack, ack =
      (SessionAck.new arrival₂.env.myCoords env₁.myCoords.addrsOnly).withHandshake t.msg2 := ⟨_, rfl⟩
  have hsetupRange : setup.InRange := by
    rw [hsetup]
    exact ⟨hmeets.initiatorCoords, hmeets.destCoords, hmsg1.trans_le (by decide)⟩
  have hackRange : ack.InRange := by
    rw [hack]
    refine ⟨hmeets.responderCoords, ?_, hmsg2.trans_le (by decide)⟩
    exact (TreeCoordinate.length_addrsOnly _).trans_le hmeets.initiatorCoords
  -- one message after the other
  obtain ⟨hposts₁, hstage₁, -, -⟩ :=
    fst_of_wp_returns (wp_initiateSession_posts hreach₁ hmeets.idle hwrite1)
  rw [← hsetup] at hposts₁
  have hread1' : call (HandshakeState.readXkMessage1 setup.handshakePayload)
      ((HandshakeState.newXkResponder b.identity.secretKey).setLocalEpoch b.startupEpoch) =
        .ok ((), t.asked) := by
    rw [hsetup]
    exact hread1
  have hanswered : Answered a b ack t.answered
      (b.receive arrival₂ a.nodeAddr setup.encode) := by
    have hlen : setup.handshakePayload.length = XK_HANDSHAKE_MSG1_SIZE :=
      HandshakeState.length_of_readXkMessage1 hread1'
    have hsame : (SessionAck.new arrival₂.env.myCoords setup.srcCoords.addrsOnly).withHandshake t.msg2 =
        ack := by
      rw [hack, hsetup]
      rfl
    have hsent : ∀ n', Posts a.nodeAddr
        [((SessionAck.new arrival₂.env.myCoords setup.srcCoords.addrsOnly).withHandshake t.msg2).encode] b n' ∧
        AtStage a.nodeAddr (.awaitingMsg3 t.answered) (Secp256k1.publicKey b.identity.secretKey) n' ∧
        n'.identity = b.identity → Answered a b ack t.answered n' := by
      intro n' hn'
      rw [hsame] at hn'
      exact ⟨hn'.1, hn'.2.1⟩
    exact receive_of_wp
      (wp_setup_posts hsetupRange hlen hmeets.givesWay hreach₂ hread1' hwrite2 hsent)
  refine ⟨_, hposts₁, _, hanswered.1, fun a' arrival₃ ha' hreach₃ => ?_⟩
  have hread2 : call (HandshakeState.readXkMessage2 ack.handshakePayload) t.initiated =
      .ok ((), t.told) := by
    rw [hack]
    exact t.read2
  obtain ⟨more, hposts₃, hfirst⟩ : ∃ more,
      Posts b.nodeAddr ((SessionMsg3.new t.msg3).encode :: more) a'
        (a'.receive arrival₃ b.nodeAddr ack.encode) ∧
      InSession b.nodeAddr p.knownStatic t.keys []
        (a'.receive arrival₃ b.nodeAddr ack.encode) :=
    receive_of_wp (P := fun n' => ∃ more,
      Posts b.nodeAddr ((SessionMsg3.new t.msg3).encode :: more) a' n' ∧
        InSession b.nodeAddr p.knownStatic t.keys [] n') (wp_ack_posts hackRange (hstage₁.waits ha') hread2 t.write3 t.intoInitiator
      t.initiatorUnder hreach₃ fun n' more hmore hsession => ⟨more, hmore, hsession⟩)
  refine ⟨_, more, hposts₃, fun b' arrival₄ hb' => ⟨t.keys, hfirst, ?_⟩⟩
  exact receive_of_wp (P := InSession a.nodeAddr (Secp256k1.publicKey p.initiatorStatic) t.keys.flip [])
    (wp_msg3_inSession (hmsg3.trans_le (by decide)) (hanswered.2.waits hb') t.read3
    t.remoteStatic t.intoResponder t.responderUnder fun _ h => h)

end Exchange

section Sample

open Sample

/-- The initiator of the exchange below. -/
def caller : Node Scalar Point Unit Unit :=
  { node 1 ⟨5⟩ with startupEpoch := Sample.parties.initiatorEpoch }

/-- The node that is called. -/
def called : Node Scalar Point Unit Unit :=
  { node 2 ⟨253⟩ with startupEpoch := Sample.parties.responderEpoch }

theorem meets_caller_called : Meets Sample.parties caller called (env 1 0 ⟨7⟩) (env 2 10 ⟨11⟩) where
  initiatorStatic := rfl
  initiatorEpoch := rfl
  initiatorEphemeral := rfl
  responderStatic := rfl
  responderEpoch := rfl
  responderEphemeral := rfl
  idle e he := by cases he
  givesWay := rfl
  initiatorCoords := by decide
  destCoords := by decide
  responderCoords := by decide

/-- Nothing happens in between. -/
theorem session_established_called :
    ∃ setup ack msg3 more keys,
      Posts (addr 2) [setup] caller (caller.initiate (env 1 0 ⟨7⟩) (addr 2) ⟨3⟩) ∧
      Posts (addr 1) [ack] called (called.receive ⟨env 2 10 ⟨11⟩, 1280, false⟩ (addr 1) setup) ∧
      Posts (addr 2) (msg3 :: more) (caller.initiate (env 1 0 ⟨7⟩) (addr 2) ⟨3⟩)
        ((caller.initiate (env 1 0 ⟨7⟩) (addr 2) ⟨3⟩).receive ⟨env 1 20 ⟨7⟩, 1280, false⟩ (addr 2) ack) ∧
      InSession (addr 2) ⟨3⟩ keys []
        ((caller.initiate (env 1 0 ⟨7⟩) (addr 2) ⟨3⟩).receive ⟨env 1 20 ⟨7⟩, 1280, false⟩ (addr 2) ack) ∧
      InSession (addr 1) (Secp256k1.publicKey (Scalar.mk 5)) keys.flip []
        ((called.receive ⟨env 2 10 ⟨11⟩, 1280, false⟩ (addr 1) setup).receive
          ⟨env 2 30 ⟨11⟩, 1280, false⟩ (addr 1) msg3) := by
  have hmeets : Meets Sample.parties caller called (env 1 0 ⟨7⟩)
    (Arrival.mk (env 2 10 ⟨11⟩) 1280 false).env := meets_caller_called
  obtain ⟨setup, hsetup, ack, hack, hfinish⟩ := session_established curve_lawful aead_lawful
    Sample.parties hmeets (fun _ => ⟨_, rfl, rfl⟩) fun _ => ⟨_, rfl, rfl⟩
  obtain ⟨msg3, more, hmsg3, hsessions⟩ := hfinish _ ⟨env 1 20 ⟨7⟩, 1280, false⟩ .refl
    fun _ => ⟨_, rfl, rfl⟩
  obtain ⟨keys, hfirst, hsecond⟩ := hsessions _ ⟨env 2 30 ⟨11⟩, 1280, false⟩ .refl
  exact ⟨setup, ack, msg3, more, keys, hsetup, hack, hmsg3, hfirst, hsecond⟩

end Sample

end Node

end Fips
