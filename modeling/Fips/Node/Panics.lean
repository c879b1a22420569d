import Fips.Node.Dispatch
import Fips.Node.KBitRun
import Fips.Noise.HandshakePanic

/-!
# What stops the program

The messages of a peer, whatever they are, against the indices, slices, `expect`s and `unreachable!`s
of `dispatch_link_message` and the handlers and decoders behind it, and the lengths these subtract. A
sum that overflows, which stops the program in a build with overflow checks only, is not among them.

The handlers take the state of a session out of its entry and put it back, and read optional fields of
the handshake in it. That they are there is an invariant of the session table (`Whole`), which each
event on the sessions keeps.

## Results

* `Whole.step`: one event of `KBitRun.lean`.
* `steady_handleSessionPayload`: no session payload stops the program.
* `noPanic_dispatchLinkMessage_iff`: a link message stops the program exactly if it is a datagram
  whose inner message is cut short in front of the coordinates it announces.
* `coords_cut_short`: four bytes do.
-/

open Checked EventRun

namespace Fips

variable {SecretKey PublicKey ν μ : Type}

/-! ## Entries -/

namespace SessionEntry

variable {e e' : SessionEntry SecretKey PublicKey μ} {session : NoiseSession PublicKey}
  {handshake : HandshakeState SecretKey PublicKey}

/-- What the handlers take out of an entry is there. -/
structure Whole (e : SessionEntry SecretKey PublicKey μ) : Prop where
  state : e.state.isSome
  initiating : ∀ handshake, e.state = some (.initiating handshake) → handshake.Armed
  awaiting : ∀ handshake, e.state = some (.awaitingMsg3 handshake) → handshake.Armed
  rekeying : ∀ handshake, e.rekeyState = some handshake → handshake.Armed

/-- An entry with the same handshakes. -/
theorem Whole.congr (h : Whole e) (hstate : e'.state = e.state)
    (hrekey : e'.rekeyState = e.rekeyState) : Whole e' := by
  refine ⟨?_, ?_, ?_, ?_⟩
  · rw [hstate]
    exact h.state
  · rw [hstate]
    exact h.initiating
  · rw [hstate]
    exact h.awaiting
  · rw [hrekey]
    exact h.rekeying

theorem Whole.note [SessionMmp μ] (h : Whole e) (hnote : Notes e e') : Whole e' :=
  h.congr hnote.state hnote.rekeyState

theorem whole_initiating (hstate : e.state = some (.initiating handshake))
    (hrekey : e.rekeyState = none) (h : handshake.Armed) : Whole e := by
  refine ⟨by rw [hstate]; rfl, fun _ heq => ?_, fun _ heq => ?_, fun _ heq => ?_⟩
  · cases hstate.symm.trans heq
    exact h
  · cases hstate.symm.trans heq
  · cases hrekey.symm.trans heq

theorem whole_awaitingMsg3 (hstate : e.state = some (.awaitingMsg3 handshake))
    (hrekey : e.rekeyState = none) (h : handshake.Armed) : Whole e := by
  refine ⟨by rw [hstate]; rfl, fun _ heq => ?_, fun _ heq => ?_, fun _ heq => ?_⟩
  · cases hstate.symm.trans heq
  · cases hstate.symm.trans heq
    exact h
  · cases hrekey.symm.trans heq

theorem whole_established (hstate : e.state = some (.established session))
    (hrekey : ∀ handshake, e.rekeyState = some handshake → handshake.Armed) : Whole e := by
  refine ⟨by rw [hstate]; rfl, fun _ heq => ?_, fun _ heq => ?_, hrekey⟩
  · cases hstate.symm.trans heq
  · cases hstate.symm.trans heq

theorem Whole.setEstablished (h : Whole e) : Whole (e.setState (.established session)) :=
  whole_established rfl h.rekeying

theorem Whole.takeRekeyState (h : Whole e) : Whole { e with rekeyState := none } :=
  ⟨h.state, h.initiating, h.awaiting, fun _ heq => by cases heq⟩

theorem Whole.setPendingSession (h : Whole e) (session : NoiseSession PublicKey) :
    Whole (e.setPendingSession session) :=
  ⟨h.state, h.initiating, h.awaiting, fun _ heq => by cases heq⟩

theorem Whole.abandonRekey (h : Whole e) : Whole e.abandonRekey :=
  ⟨h.state, h.initiating, h.awaiting, fun _ heq => by cases heq⟩

theorem Whole.setRekeyState (h : Whole e) (harmed : handshake.Armed) {isInitiator : Bool} :
    Whole (e.setRekeyState handshake isInitiator) :=
  ⟨h.state, h.initiating, h.awaiting, fun _ heq => by cases heq; exact harmed⟩

theorem Whole.kbitFlip [SessionMmp μ] (h : Whole e) (nowMs instant : Nat) :
    Whole (e.handlePeerKbitFlip nowMs instant).1 := by
  cases hpending : e.pendingNewSession with
  | none =>
    rw [handlePeerKbitFlip_of_none hpending]
    exact h
  | some session =>
    rw [handlePeerKbitFlip_of_some hpending]
    exact whole_established rfl fun _ heq => by cases heq

theorem Whole.cutover [SessionMmp μ] (h : Whole e) (nowMs instant : Nat) :
    Whole (e.cutoverToNewSession nowMs instant).1 := by
  cases hpending : e.pendingNewSession with
  | none =>
    unfold cutoverToNewSession
    rw [hpending]
    exact h
  | some session =>
    rw [cutoverToNewSession_of_some hpending]
    exact (h.kbitFlip nowMs instant).congr rfl rfl

end SessionEntry

/-! ## The table -/

namespace Node

variable {n n' : Node SecretKey PublicKey ν μ}

/-- What the handlers take out of the entries is there. -/
def Whole (n : Node SecretKey PublicKey ν μ) : Prop :=
  ∀ addr e, n.sessions.lookup addr = some e → SessionEntry.Whole e

section Table

theorem Whole.congr (h : Whole n) (hsessions : n'.sessions = n.sessions) : Whole n' := by
  unfold Whole
  rw [hsessions]
  exact h

theorem Whole.put (h : Whole n) {e : SessionEntry SecretKey PublicKey μ}
    (he : SessionEntry.Whole e) (addr : NodeAddr) :
    Whole { n with sessions := n.sessions.insert addr e } := by
  intro d e' hd
  rw [Map.lookup_insert'] at hd
  split_ifs at hd
  · cases hd
    exact he
  · exact h d e' hd

theorem Whole.modify (h : Whole n)
    {f : SessionEntry SecretKey PublicKey μ → SessionEntry SecretKey PublicKey μ}
    (hf : ∀ e, SessionEntry.Whole e → SessionEntry.Whole (f e)) (addr : NodeAddr) :
    Whole { n with sessions := n.sessions.modify addr f } := by
  intro d e' hd
  rw [Map.lookup_modify] at hd
  split_ifs at hd with hsame
  · obtain ⟨e, he, rfl⟩ := Option.map_eq_some_iff.mp hd
    exact hf e (h d e he)
  · exact h d e' hd

theorem Whole.take (h : Whole n) (addr : NodeAddr) :
    Whole { n with sessions := n.sessions.erase addr } := by
  intro d e hd
  rw [Map.lookup_erase'] at hd
  split_ifs at hd
  exact h d e hd

theorem Whole.forgetSessions (h : Whole n) (addrs : List NodeAddr) :
    Whole (addrs.foldl forgetSession n) := by
  induction addrs generalizing n with
  | nil => exact h
  | cons addr addrs ih => exact ih (Whole.congr (h.take addr) rfl)

theorem Whole.modifySessions (h : Whole n)
    {f : SessionEntry SecretKey PublicKey μ → SessionEntry SecretKey PublicKey μ}
    (hf : ∀ e, SessionEntry.Whole e → SessionEntry.Whole (f e)) (addrs : List NodeAddr) :
    Whole (Node.modifySessions f addrs n) :=
  modifySessions_keeps (I := Whole) (P := fun _ => True)
    (fun _ addr hn _ => Whole.modify hn hf addr) (fun _ _ => trivial) (fun _ _ _ _ => trivial) h

theorem Whole.removeActivePeer (h : Whole n) (addr : NodeAddr) : Whole (n.removeActivePeer addr) := by
  unfold Node.removeActivePeer
  cases n.peers.lookup addr with
  | none => exact h
  | some peer =>
    exact Whole.congr (h.take addr) (releaseIndices_frames ({ n with
      peers := n.peers.erase addr
      sessions := n.sessions.erase addr
      pendingTunPackets := n.pendingTunPackets.erase addr }) peer).1

theorem sessionRules_whole [SessionMmp μ] [ChaCha20Poly1305] :
    SessionRules (fun _ _ => True) (Whole : Node SecretKey PublicKey ν μ → Prop) where
  note _ addr _ hf h := h.modify (fun e he => he.note (hf e)) addr
  advance _ addr e _ _ _ he _ h := h.put (h addr e he).setEstablished addr
  frame _ _ _ _ _ _ _ _ _ _ _ _ h := h
  effect _ _ _ _ h := h
  pings _ _ h := h

/-- A session for `src` is there. -/
def HasSession (src : NodeAddr) (n : Node SecretKey PublicKey ν μ) : Prop :=
  Whole n ∧ (n.sessions.lookup src).isSome

theorem HasSession.modify {src : NodeAddr} (h : HasSession src n)
    {f : SessionEntry SecretKey PublicKey μ → SessionEntry SecretKey PublicKey μ}
    (hf : ∀ e, SessionEntry.Whole e → SessionEntry.Whole (f e)) :
    HasSession src { n with sessions := n.sessions.modify src f } := by
  obtain ⟨e, he⟩ := Option.isSome_iff_exists.mp h.2
  refine ⟨h.1.modify hf src, ?_⟩
  rw [Map.lookup_modify_self he]
  rfl

theorem steady_expectSession (src : NodeAddr) :
    Steady (HasSession src) (expect (·.sessions.lookup src) :
      Handler SecretKey PublicKey ν μ (SessionEntry SecretKey PublicKey μ)) := by
  refine fun n hn => wp_expect_iff.mpr ⟨fun _ _ => hn, fun hnone => ?_⟩
  have hsome := hn.2
  rw [hnone] at hsome
  cases hsome

end Table

/-! ## Sending -/

section Sending

theorem steady_putSession {e : SessionEntry SecretKey PublicKey μ} (he : SessionEntry.Whole e)
    (addr : NodeAddr) : Steady Whole (putSession addr e : M SecretKey PublicKey ν μ ε Unit) :=
  fun _ hn => hn.put he addr

theorem steady_cacheCoords (addr : NodeAddr) (coords : Option TreeCoordinate) :
    Steady Whole (cacheCoords addr coords : M SecretKey PublicKey ν μ ε Unit) := by
  cases coords with
  | none => exact steady_pure ()
  | some coords => exact fun _ hn => hn

theorem steady_registerIdentity (addr : NodeAddr) (pubkey : PublicKey) :
    Steady Whole (registerIdentity addr pubkey : M SecretKey PublicKey ν μ ε Unit) := fun _ hn => hn

variable (env : Env SecretKey)

theorem steady_lookUp (dest : NodeAddr) :
    Steady Whole (lookUp env dest : Handler SecretKey PublicKey ν μ Unit) :=
  Steady.ite (fun _ hn => hn) (steady_pure _)

theorem wp_noPanic_sendLinkMessage (nextHop : NodeAddr) (message : Bytes) (ceFlag : Bool) :
    wp (sendLinkMessage env nextHop message ceFlag : M SecretKey PublicKey ν μ SendError Unit)
      (fun _ _ => True) (fun e _ => e ≠ .panic) n := by
  unfold sendLinkMessage
  split
  · exact error_ne_panic _
  · trivial

theorem steady_sendLinkMessage (nextHop : NodeAddr) (message : Bytes) (ceFlag : Bool) :
    Steady Whole (sendLinkMessage env nextHop message ceFlag :
      M SecretKey PublicKey ν μ SendError Unit) := by
  unfold sendLinkMessage
  split
  · exact steady_stop _
  · exact fun _ hn => hn

theorem steady_sendError (original : SessionDatagram) (payload : Bytes) :
    Steady Whole (sendError env original payload : Handler SecretKey PublicKey ν μ Unit) :=
  (steady_read _).bind fun _ => (steady_read _).bind fun _ => (steady_orElse _ _).bind fun nextHop =>
    (steady_sendLinkMessage env nextHop _ false).attempt.bind fun _ => steady_pure _

theorem steady_forwardDatagram (datagram : SessionDatagram) (incomingCe : Bool) :
    Steady Whole (forwardDatagram env datagram incomingCe :
      Handler SecretKey PublicKey ν μ Unit) := by
  unfold forwardDatagram
  split
  · refine Steady.body (Steady.ite (steady_stop _) ((steady_read _).bind fun _ => ?_))
    exact steady_sendError env datagram _
  · refine (steady_sendLinkMessage env _ _ _).attempt.bind fun sent => ?_
    split
    · refine Steady.body (Steady.ite (steady_stop _) ((steady_read _).bind fun _ => ?_))
      exact steady_sendError env _ _
    · exact steady_pure _
    · exact steady_pure _

variable [SessionMmp μ]

theorem wp_noPanic_sendSessionPayload (dest : NodeAddr) (payload : Bytes) :
    wp (sendSessionPayload env dest payload : M SecretKey PublicKey ν μ SendError Unit)
      (fun _ _ => True) (fun e _ => e ≠ .panic) n := by
  unfold sendSessionPayload sendSessionDatagram
  rw [wp_bind_iff, wp_read_iff, wp_bind_iff, wp_read_iff]
  split
  · exact error_ne_panic _
  · rw [wp_bind_iff, wp_modifySession_iff]
    exact wp_noPanic_sendLinkMessage env _ _ _

/-- A property of the session table that notes keep. -/
theorem steady_sendSessionPayload {I : Node SecretKey PublicKey ν μ → Prop} {dest : NodeAddr}
    (hnote : ∀ n f, (∀ e, SessionEntry.Notes e (f e)) → I n →
      I { n with sessions := n.sessions.modify dest f })
    (heffect : ∀ n effect, I n → I { n with effects := n.effects ++ [effect] }) (payload : Bytes) :
    Steady I (sendSessionPayload env dest payload : M SecretKey PublicKey ν μ SendError Unit) :=
  (keeps_sendSessionPayload_of_note env dest payload hnote fun n _ _ _ _ hn => heffect n _ hn).steady
    fun _ _ => wp_noPanic_sendSessionPayload env dest payload

theorem steady_whole_sendSessionPayload (dest : NodeAddr) (payload : Bytes) :
    Steady Whole (sendSessionPayload env dest payload : M SecretKey PublicKey ν μ SendError Unit) :=
  steady_sendSessionPayload env (fun _ _ hf h => h.modify (fun e he => he.note (hf e)) dest)
    (fun _ _ h => h) payload

theorem steady_note (addr : NodeAddr)
    {f : SessionEntry SecretKey PublicKey μ → SessionEntry SecretKey PublicKey μ}
    (hf : ∀ e, SessionEntry.Notes e (f e)) :
    Steady Whole (modifySession addr f : M SecretKey PublicKey ν μ ε Unit) :=
  steady_write fun _ hn => hn.modify (fun e he => he.note (hf e)) addr

theorem steady_resetWarmup (dest : NodeAddr) :
    Steady Whole (resetWarmup dest : Handler SecretKey PublicKey ν μ Unit) :=
  (steady_read _).bind fun _ => steady_note dest fun _ =>
    SessionEntry.notes_setCoordsWarmupRemaining _

variable [ChaCha20Poly1305]

/-- **Sealing** needs the state of the session. -/
theorem steady_sendSealed (dest : NodeAddr) (flags : UInt8) (timestamp : Nat) (coords inner : Bytes) :
    Steady Whole (sendSealed env dest flags timestamp coords inner :
      M SecretKey PublicKey ν μ SendError Unit) := by
  intro n hn
  unfold sendSealed
  rw [wp_bind_iff, wp_read_iff, wp_bind_iff, wp_orElse_iff]
  refine ⟨fun e he => ?_, fun _ => ⟨error_ne_panic _, hn⟩⟩
  split
  · rename_i hnone
    have hstate := (hn dest e he).state
    rw [hnone] at hstate
    cases hstate
  · rename_i session hstate
    extract_lets counter header
    have hadvanced := sessionRules_whole.advance n dest e session inner header he hstate hn
    rw [wp_bind_iff, wp_putSession_iff]
    split
    · exact ⟨error_ne_panic _, hadvanced⟩
    · refine ((steady_whole_sendSessionPayload env dest _).bind fun _ => ?_) _ hadvanced
      exact steady_write fun n hn =>
        hn.modify (fun e he => he.note (SessionEntry.notes_mapMmp (.recordSent _ _ _))) dest
  · exact ⟨error_ne_panic _, hn⟩

theorem steady_sendCoordsWarmup (dest : NodeAddr) :
    Steady Whole (sendCoordsWarmup env dest : M SecretKey PublicKey ν μ SendError Unit) :=
  (steady_read _).bind fun _ => (steady_orElse _ _).bind fun _ => steady_sendSealed env _ _ _ _ _

theorem steady_sendSessionMsg (dest : NodeAddr) (msgType : UInt8) (payload : Bytes) :
    Steady Whole (sendSessionMsg env dest msgType payload :
      M SecretKey PublicKey ν μ SendError Unit) :=
  (steady_read _).bind fun _ => (steady_orElse _ _).bind fun _ => steady_sendSealed env _ _ _ _ _

theorem steady_sendSessionData (dest : NodeAddr) (srcPort dstPort : Nat) (payload : Bytes) :
    Steady Whole (sendSessionData env dest srcPort dstPort payload :
      M SecretKey PublicKey ν μ SendError Unit) := by
  refine (steady_read _).bind fun _ => (steady_orElse _ _).bind fun e => ?_
  extract_lets wantsCoords timestamp spin portPayload inner coordsSize fits includeCoords coords
    send countDown
  have hsend : ∀ u, Steady Whole (send u) := fun u =>
    (steady_read _).bind fun _ => (steady_sendSealed env _ _ _ _ _).bind fun _ =>
      steady_note dest fun _ => SessionEntry.notes_recordSent_touch _ _
  have hcountDown : ∀ u, Steady Whole (countDown u) := fun u => Steady.ite
    ((steady_note dest fun _ => SessionEntry.notes_setCoordsWarmupRemaining _).bind hsend) (hsend ())
  refine Steady.ite (steady_stop _) (Steady.ite ?_ (hcountDown ()))
  exact (steady_sendCoordsWarmup env dest).attempt.bind fun _ => hcountDown ()

theorem steady_warmUp (dest : NodeAddr) :
    Steady Whole (warmUp env dest : Handler SecretKey PublicKey ν μ Unit) :=
  Steady.ite ((steady_read _).bind fun _ => Steady.ite
    ((steady_sendCoordsWarmup env dest).attempt.bind fun _ => steady_pure _) (steady_pure _))
    (steady_pure _)

theorem steady_flushPackets (dest : NodeAddr) (packets : List Bytes) :
    Steady Whole (flushPackets env dest packets : Handler SecretKey PublicKey ν μ Unit) := by
  have hpacket : ∀ packet, Steady Whole (sendIpv6Packet env dest packet :
      M SecretKey PublicKey ν μ SendError Unit) := by
    intro packet
    refine (steady_pureCall (noPanic_compressIpv6 packet)).attempt.bind fun compressed => ?_
    cases compressed with
    | error e => exact steady_stop _
    | ok compressed => exact steady_sendSessionData env dest _ _ _
  induction packets with
  | nil => exact steady_pure ()
  | cons packet packets ih =>
    refine (hpacket packet).attempt.bind fun sent => ?_
    cases sent with
    | error e => exact steady_pure ()
    | ok u => exact ih

theorem steady_flushPendingPackets (dest : NodeAddr) :
    Steady Whole (flushPendingPackets env dest : Handler SecretKey PublicKey ν μ Unit) :=
  Steady.body <| (steady_read _).bind fun _ => (steady_orElse _ _).bind fun packets =>
    Steady.bind (fun _ hn => hn) fun _ => steady_flushPackets env dest packets

end Sending

/-! ## Encrypted messages -/

section Encrypted

theorem noPanic_echoReplySequence (packet : Bytes) : NoPanic (echoReplySequence packet) := by
  unfold echoReplySequence
  split_ifs with hlen
  · refine noPanic_bind (noPanic_index (by omega)) fun _ _ => ?_
    refine noPanic_bind (noPanic_index (by omega)) fun _ _ => ?_
    split_ifs
    · refine noPanic_bind (noPanic_index (by omega)) fun _ _ => ?_
      exact noPanic_bind (noPanic_index (by omega)) fun _ _ => noPanic_pure _
    · exact noPanic_pure _
  · exact noPanic_pure _

theorem steady_handleDataPacket (src : NodeAddr) (ceFlag : Bool) {rest : Bytes}
    (hlen : FSP_PORT_HEADER_SIZE ≤ rest.length) :
    Steady Whole (handleDataPacket src ceFlag rest : Handler SecretKey PublicKey ν μ Unit) := by
  have hdeliver : ∀ packet, Steady Whole (emit (.deliverPacket packet) :
      Handler SecretKey PublicKey ν μ Unit) := fun _ _ hn => hn
  refine (steady_orReturn (noPanic_leAt hlen)).bind fun _ =>
    (steady_orReturn (noPanic_sliceFrom hlen)).bind fun _ => ?_
  refine Steady.ite ((steady_read _).bind fun _ => ?_) (steady_pure _)
  refine (steady_pureCall (noPanic_decompressIpv6 _ _ _)).attempt.bind fun packet => ?_
  cases packet with
  | error e => exact steady_pure _
  | ok packet =>
    refine (steady_orReturn (noPanic_echoReplySequence packet)).bind fun sequence => ?_
    cases sequence with
    | none => exact hdeliver _
    | some sequence =>
      refine (steady_read _).bind fun _ => Steady.ite ?_ (hdeliver _)
      exact Steady.bind (fun _ hn => hn) fun _ => Steady.bind (fun _ hn => hn) fun _ => hdeliver _

variable [SessionMmp μ] [ChaCha20Poly1305] (env : Env SecretKey)

/-- **Decryption** finds the entry it looked up before, with its state. -/
theorem steady_openSessionFrame (src : NodeAddr) (kBit : Bool) (frame : NoiseSession.Frame) :
    Steady Whole (openSessionFrame env src kBit frame : Handler SecretKey PublicKey ν μ Bytes) := by
  intro n hn
  unfold openSessionFrame
  rw [wp_bind_iff, wp_read_iff, wp_bind_iff, wp_orElse_iff]
  refine ⟨fun e he => ?_, fun _ => ⟨error_ne_panic _, hn⟩⟩
  have hthere : n.sessions.lookup src ≠ none := fun hnone => by cases hnone.symm.trans he
  by_cases hestablished : e.isEstablished = true
  swap
  · rw [if_pos (by simpa using hestablished)]
    exact ⟨error_ne_panic _, hn⟩
  rw [if_neg (by simpa using hestablished), wp_bind_iff, wp_expect_iff]
  refine ⟨fun e _ => ?_, fun hnone => absurd hnone hthere⟩
  extract_lets decrypt
  have hdecrypt : Steady Whole (decrypt ()) := by
    intro n' hn'
    simp only [decrypt]
    rw [wp_bind_iff, wp_takeSession_iff]
    refine ⟨fun e' he' => ?_, fun _ => ⟨error_ne_panic _, hn'⟩⟩
    have htaken := hn'.take src
    have hwhole := hn' src e' he'
    split
    · rename_i hnone
      have hstate := hwhole.state
      rw [hnone] at hstate
      cases hstate
    · refine ((steady_putSession ?_ src).bind fun _ => steady_orReturn (noPanic_ofExcept _)) _ htaken
      exact SessionEntry.whole_established rfl hwhole.rekeying
    · exact ((steady_putSession hwhole src).bind fun _ => steady_stop _) _ htaken
  split_ifs
  · rw [wp_bind_iff, wp_expect_iff]
    refine ⟨fun _ _ => ?_, fun hnone => absurd hnone hthere⟩
    rw [wp_bind_iff, wp_modifySession_iff]
    exact hdecrypt _ (hn.modify (fun e he => he.kbitFlip _ _) src)
  · exact hdecrypt n hn

theorem steady_processSessionMessage (src : NodeAddr) (counter plaintextLen pathMtu : Nat)
    (ceFlag : Bool) (message : FspInner) :
    Steady Whole (processSessionMessage env src counter plaintextLen pathMtu ceFlag message :
      Handler SecretKey PublicKey ν μ Unit) := by
  refine (steady_note _ fun e => ?_).bind fun _ => (steady_note _ fun e => ?_).bind fun _ => ?_
  · exact SessionEntry.notes_mapMmp (.comp (.rxObserve _ _ _) (.recordRecv _ _ _ _ _))
  · exact SessionEntry.notes_mapMmp (.observeIncomingMtu _)
  · extract_lets flush record
    have hflush : Steady Whole (flushPendingPackets env src : Handler SecretKey PublicKey ν μ Unit) :=
      steady_flushPendingPackets env src
    have hrecord : ∀ u, Steady Whole (record u) := fun u => Steady.ite
      ((steady_note src fun e => SessionEntry.notes_recordRecv_touch _ _).bind fun _ => hflush) hflush
    split
    · split_ifs with hshort
      · exact (steady_stop _).bind hrecord
      · exact (steady_handleDataPacket src ceFlag (Nat.le_of_not_lt hshort)).bind hrecord
    · refine (Steady.body ?_).bind hrecord
      exact (steady_orReturn (SessionSenderReport.noPanic_decode _)).bind fun _ => steady_pure _
    · refine (Steady.body ?_).bind hrecord
      exact (steady_orReturn (SessionReceiverReport.noPanic_decode _)).bind fun _ =>
        steady_note _ fun e => SessionEntry.notes_mapMmp (.processReceiverReport _ _ _)
    · refine (Steady.body ?_).bind hrecord
      exact (steady_orReturn (PathMtuNotification.noPanic_decode _)).bind fun _ =>
        steady_note _ fun e => SessionEntry.notes_mapMmp (.applyNotification _ _)
    · exact hrecord ()

theorem steady_handleEncryptedSessionMsg (src : NodeAddr) (payload : Bytes) (pathMtu : Nat)
    (ceFlag : Bool) :
    Steady Whole (handleEncryptedSessionMsg env src payload pathMtu ceFlag :
      Handler SecretKey PublicKey ν μ Unit) := by
  refine Steady.body (steady_orReturn_bind (FspEncryptedHeader.noPanic_parse payload)
    fun header hheader => ?_)
  refine (steady_orReturn (noPanic_sessionCiphertext hheader)).bind fun parts =>
    (steady_read _).bind fun my => (steady_cacheCoords _ _).bind fun _ => ?_
  refine (steady_cacheCoords _ _).bind fun _ => (steady_openSessionFrame env src _ _).bind
    fun plaintext => (steady_orReturn (noPanic_fspStripInnerHeader plaintext)).bind fun message => ?_
  exact steady_processSessionMessage env src _ _ _ _ _

end Encrypted

/-! ## Handshake messages -/

section Handshakes

variable [SessionMmp μ] [Sha256] [HkdfSha256] [ChaCha20Poly1305] [Secp256k1 SecretKey PublicKey]
  (env : Env SecretKey)

omit [SessionMmp μ] in
/-- **A responder** arms its handshake. -/
theorem noPanic_xkRespond (src : NodeAddr) (n : Node SecretKey PublicKey ν μ) (msg1 : Bytes) :
    NoPanic (xkRespond env src n msg1) := by
  refine noPanic_bind (noPanic_call (wp_mono (fun _ _ _ => trivial) (fun _ _ h => h)
    (HandshakeState.wp_readXkMessage1 msg1))) fun opened hopened => ?_
  obtain ⟨⟨⟩, opened⟩ := opened
  have hread := HandshakeState.wp_readXkMessage1 msg1
    (s := (HandshakeState.newXkResponder n.identity.secretKey).setLocalEpoch n.startupEpoch)
  obtain ⟨hephemeral, hepoch, -⟩ := ok_of_wp hread hopened
  refine noPanic_bind (noPanic_call (wp_mono (fun _ _ _ => trivial) (fun _ _ h => h)
    (HandshakeState.wp_writeXkMessage2 (env.ephemeral src) hephemeral ?_))) fun _ _ => noPanic_pure _
  rw [hepoch]
  rfl

omit [SessionMmp μ] in
theorem armed_xkRespond {src : NodeAddr} {n : Node SecretKey PublicKey ν μ} {msg1 msg2 : Bytes}
    {handshake : HandshakeState SecretKey PublicKey}
    (h : xkRespond env src n msg1 = .ok (handshake, msg2)) : handshake.Armed := by
  obtain ⟨⟨⟨⟩, opened⟩, hopened, h⟩ := bind_eq_ok.mp h
  obtain ⟨⟨msg2', closed⟩, hclosed, h⟩ := bind_eq_ok.mp h
  cases h
  obtain ⟨hephemeral, hepoch, -⟩ := ok_of_wp (HandshakeState.wp_readXkMessage1 msg1) hopened
  refine ok_of_wp (HandshakeState.wp_writeXkMessage2 (env.ephemeral src) hephemeral ?_) hclosed
  rw [hepoch]
  rfl

theorem steady_acceptSetup (src : NodeAddr) (setup : SessionSetup) :
    Steady Whole (acceptSetup env src setup : Handler SecretKey PublicKey ν μ Unit) := by
  refine (steady_read _).bind fun n => steady_orReturn_bind (noPanic_xkRespond env src n _)
    fun answer hanswer => ?_
  obtain ⟨handshake, msg2⟩ := answer
  refine (steady_whole_sendSessionPayload env src _).attempt.bind fun sent => ?_
  cases sent with
  | error e => exact steady_stop _
  | ok u =>
    refine (steady_read _).bind fun _ n' hn' => hn'.put ?_ src
    exact SessionEntry.whole_awaitingMsg3 rfl rfl (armed_xkRespond env hanswer)

theorem steady_acceptRekey (src : NodeAddr) (setup : SessionSetup)
    (existing : SessionEntry SecretKey PublicKey μ) :
    Steady (HasSession src) (acceptRekey env src setup existing :
      Handler SecretKey PublicKey ν μ Unit) := by
  refine (steady_read _).bind fun my => ?_
  extract_lets respond
  have hrespond : ∀ u, Steady (HasSession src) (respond u) := by
    refine fun u => (steady_read _).bind fun n => steady_orReturn_bind (noPanic_xkRespond env src n _)
      fun answer hanswer => ?_
    obtain ⟨handshake, msg2⟩ := answer
    refine (steady_sendSessionPayload env (fun _ _ hf h => h.modify fun e he => he.note (hf e))
      (fun _ _ h => h) _).attempt.bind fun sent => ?_
    cases sent with
    | error e => exact steady_stop _
    | ok u =>
      refine (steady_expectSession src).bind fun _ n' hn' => hn'.modify fun e he => ?_
      have hrekey : SessionEntry.Whole (e.setRekeyState handshake false) :=
        he.setRekeyState (armed_xkRespond env hanswer)
      exact hrekey.congr rfl rfl
  refine Steady.ite (Steady.ite ((steady_stop _).bind hrespond) ?_)
    (Steady.ite ((steady_stop _).bind hrespond) (hrespond ()))
  refine (steady_expectSession src).bind fun _ => Steady.bind (fun n' hn' => ?_) hrespond
  exact hn'.modify fun e he => he.abandonRekey

theorem steady_handleSessionSetup (src : NodeAddr) (inner : Bytes) :
    Steady Whole (handleSessionSetup env src inner : Handler SecretKey PublicKey ν μ Unit) := by
  refine Steady.body ((steady_orReturn (SessionSetup.noPanic_decode inner)).bind fun setup => ?_)
  have haccept : Steady Whole (acceptSetup env src setup : Handler SecretKey PublicKey ν μ Unit) :=
    steady_acceptSetup env src setup
  refine Steady.ite (steady_stop _) fun n hn => ?_
  rw [wp_bind_iff, wp_read_iff]
  split
  · exact haccept n hn
  · rename_i existing hexisting
    rw [wp_bind_iff, wp_read_iff, wp_bind_iff, wp_read_iff]
    split_ifs
    · exact ⟨error_ne_panic _, hn⟩
    · exact haccept n hn
    · split
      · exact hn
      · exact ((steady_whole_sendSessionPayload env src _).attempt.bind fun _ => steady_pure _) n hn
    · refine wp_mono (fun _ _ h => h.1) (fun _ _ h => ⟨h.1, h.2.1⟩)
        (steady_acceptRekey env src setup existing n ⟨hn, ?_⟩)
      rw [show n.sessions.lookup src = some existing from hexisting]
      rfl
    · exact haccept n hn

/-- **An initiator** whose handshake is armed. -/
theorem steady_finishAsInitiator (hsized : ChaCha20Poly1305.Sized) (src : NodeAddr) (msg2 : Bytes)
    {handshake : HandshakeState SecretKey PublicKey} (harmed : handshake.Armed) :
    Steady Whole (finishAsInitiator env src msg2 handshake :
      Handler SecretKey PublicKey ν μ (NoiseSession PublicKey)) := by
  have hread := HandshakeState.wp_readXkMessage2 hsized harmed msg2
  refine steady_orReturn_bind (noPanic_call (wp_mono (fun _ _ _ => trivial) (fun _ _ h => h) hread))
    fun opened hopened => ?_
  obtain ⟨⟨⟩, opened⟩ := opened
  obtain ⟨hopenedArmed, hephemeral⟩ := ok_of_wp hread hopened
  have hwrite := HandshakeState.wp_writeXkMessage3 hopenedArmed hephemeral
  refine steady_orReturn_bind (noPanic_call (wp_mono (fun _ _ _ => trivial) (fun _ _ h => h) hwrite))
    fun closed hclosed => ?_
  obtain ⟨msg3, closed⟩ := closed
  refine (steady_whole_sendSessionPayload env src _).attempt.bind fun sent => ?_
  cases sent with
  | error e => exact steady_stop _
  | ok u =>
    have hstatic := ok_of_wp hwrite hclosed
    exact steady_orReturn (HandshakeState.noPanic_intoSession hstatic)

theorem steady_handleSessionAck (hsized : ChaCha20Poly1305.Sized) (src : NodeAddr) (inner : Bytes) :
    Steady Whole (handleSessionAck env src inner : Handler SecretKey PublicKey ν μ Unit) := by
  refine Steady.body ((steady_orReturn (SessionAck.noPanic_decode inner)).bind fun ack => ?_)
  refine Steady.ite (steady_stop _) fun n hn => ?_
  rw [wp_bind_iff, wp_takeSession_iff]
  refine ⟨fun e he => ?_, fun _ => ⟨error_ne_panic _, hn⟩⟩
  have htaken := hn.take src
  have hwhole := hn src e he
  split_ifs with hrekey hother
  · split
    · exact htaken.put hwhole src
    · rename_i handshake hstate
      refine ((steady_finishAsInitiator env hsized src _ (hwhole.rekeying _ hstate)).attempt.bind
        fun ended => ?_) _ htaken
      cases ended with
      | error e' => exact steady_putSession hwhole.takeRekeyState.abandonRekey src
      | ok session =>
        have hpending := hwhole.takeRekeyState.setPendingSession session
        refine steady_putSession ?_ src
        exact hpending.congr rfl rfl
  · exact htaken.put hwhole src
  · have hinitiating : e.isInitiating = true := by simpa using hother
    obtain ⟨handshake, hstate⟩ := SessionEntry.isInitiating_iff.mp hinitiating
    rw [hstate]
    refine ((steady_finishAsInitiator env hsized src _ (hwhole.initiating _ hstate)).bind
      fun session => (steady_read _).bind fun config => ?_) _ htaken
    have hestablished : SessionEntry.Whole (e.setState (.established session)) :=
      hwhole.setEstablished
    refine (steady_putSession ?_ src).bind fun _ => ?_
    · exact hestablished.congr rfl rfl
    exact (steady_cacheCoords src _).bind fun _ => steady_flushPendingPackets env src

theorem steady_handleSessionMsg3 (hsized : ChaCha20Poly1305.Sized) (src : NodeAddr) (inner : Bytes) :
    Steady Whole (handleSessionMsg3 env src inner : Handler SecretKey PublicKey ν μ Unit) := by
  refine Steady.body ((steady_orReturn (SessionMsg3.noPanic_decode inner)).bind fun msg3 => ?_)
  refine Steady.ite (steady_stop _) fun n hn => ?_
  rw [wp_bind_iff, wp_takeSession_iff]
  refine ⟨fun e he => ?_, fun _ => ⟨error_ne_panic _, hn⟩⟩
  have htaken := hn.take src
  have hwhole := hn src e he
  split_ifs with hrekey hother
  · split
    · exact htaken.put hwhole src
    · rename_i handshake hstate
      have hread := HandshakeState.wp_readXkMessage3 hsized (hwhole.rekeying _ hstate)
        msg3.handshakePayload
      refine ((steady_pureCall (noPanic_bind (noPanic_call (wp_mono (fun _ _ _ => trivial)
        (fun _ _ h => h) hread)) fun opened hopened => ?_)).attempt.bind fun ended => ?_) _ htaken
      · have hstatic := ok_of_wp hread hopened
        exact HandshakeState.noPanic_intoSession hstatic
      · cases ended with
        | error e' => exact steady_putSession hwhole.takeRekeyState.abandonRekey src
        | ok session => exact steady_putSession (hwhole.takeRekeyState.setPendingSession session) src
  · exact htaken.put hwhole src
  · have hawaiting : e.isAwaitingMsg3 = true := by simpa using hother
    obtain ⟨handshake, hstate⟩ := SessionEntry.isAwaitingMsg3_iff.mp hawaiting
    rw [hstate]
    have hread := HandshakeState.wp_readXkMessage3 hsized (hwhole.awaiting _ hstate)
      msg3.handshakePayload
    refine (steady_orReturn_bind (noPanic_call (wp_mono (fun _ _ _ => trivial) (fun _ _ h => h)
      hread)) fun opened hopened => ?_) _ htaken
    obtain ⟨⟨⟩, opened⟩ := opened
    have hstatic := ok_of_wp hread hopened
    refine (steady_orElse _ _).bind fun remotePubkey =>
      (steady_registerIdentity src remotePubkey).bind fun _ => ?_
    refine (steady_orReturn (HandshakeState.noPanic_intoSession hstatic)).bind
      fun session => (steady_read _).bind fun config => ?_
    refine (steady_putSession ?_ src).bind fun _ => steady_flushPendingPackets env src
    exact SessionEntry.whole_established rfl fun _ heq => by cases heq

/-! ## Initiations and ticks -/

omit [ChaCha20Poly1305] in
theorem wp_startXk (dest : NodeAddr) (handshake : HandshakeState SecretKey PublicKey)
    (hstatic : handshake.remoteStatic.isSome) (hepoch : handshake.localEpoch.isSome) :
    NoPanic (call (HandshakeState.writeXkMessage1 (env.ephemeral dest)) handshake) ∧
      ∀ msg1 started, call (HandshakeState.writeXkMessage1 (env.ephemeral dest)) handshake =
        .ok (msg1, started) → started.Armed := by
  have hwrite := HandshakeState.wp_writeXkMessage1 (env.ephemeral dest) hstatic hepoch
  exact ⟨noPanic_call (wp_mono (fun _ _ _ => trivial) (fun _ _ h => h) hwrite),
    fun _ _ hstarted => ok_of_wp hwrite hstarted⟩

omit [ChaCha20Poly1305] in
theorem steady_initiateSession (dest : NodeAddr) (destPubkey : PublicKey) :
    Steady Whole (initiateSession env dest destPubkey : M SecretKey PublicKey ν μ SendError Unit) := by
  refine (steady_read _).bind fun existing => Steady.ite (steady_pure _)
    ((steady_read _).bind fun n => ?_)
  extract_lets handshake
  obtain ⟨hpanic, harmed⟩ := wp_startXk env dest handshake rfl rfl
  intro n hn
  rw [wp_bind_iff, wp_attempt_iff, wp_pureCall_iff]
  refine ⟨fun started hstarted => ?_, fun failed hfailed => ?_⟩
  · obtain ⟨msg1, started⟩ := started
    refine ((steady_whole_sendSessionPayload env dest _).bind fun _ =>
      (steady_registerIdentity dest destPubkey).bind fun _ => steady_putSession ?_ dest) n hn
    exact SessionEntry.whole_initiating rfl rfl (harmed msg1 started hstarted)
  · cases failed with
    | error e => exact ⟨error_ne_panic _, hn⟩
    | panic => exact absurd hfailed hpanic

omit [ChaCha20Poly1305] in
theorem steady_initiateSessionRekey (dest : NodeAddr) :
    Steady Whole (initiateSessionRekey env dest : Handler SecretKey PublicKey ν μ Unit) := by
  refine Steady.body ((steady_orElse _ _).bind fun _ => (steady_read _).bind fun e =>
    (steady_orElse _ _).bind fun e => (steady_read _).bind fun n => ?_)
  extract_lets handshake
  obtain ⟨hpanic, harmed⟩ := wp_startXk env dest handshake rfl rfl
  refine steady_orReturn_bind hpanic fun started hstarted => ?_
  obtain ⟨msg1, started⟩ := started
  refine (steady_whole_sendSessionPayload env dest _).attempt.bind fun sent => ?_
  cases sent with
  | error e => exact steady_stop _
  | ok u =>
    exact steady_write fun _ hn =>
      hn.modify (fun e he => he.setRekeyState (harmed msg1 started hstarted)) dest

omit [ChaCha20Poly1305] in
theorem steady_checkSessionRekey :
    Steady Whole (checkSessionRekey env : Handler SecretKey PublicKey ν μ Unit) := by
  have hrekeys : ∀ dests, Steady Whole (initiateSessionRekeys env dests :
      Handler SecretKey PublicKey ν μ Unit) := by
    intro dests
    induction dests with
    | nil => exact steady_pure ()
    | cons dest dests ih => exact (steady_initiateSessionRekey env dest).bind fun _ => ih
  refine Steady.body ((steady_read _).bind fun n => Steady.ite (steady_stop _) ?_)
  refine (steady_write fun n hn => ?_).bind fun _ => (steady_write fun n hn => ?_).bind fun _ =>
    hrekeys _
  · exact hn.modifySessions (fun e he => he.cutover _ _) _
  · refine hn.modifySessions (fun e he => ?_) _
    exact he.congr rfl rfl

omit [Sha256] [HkdfSha256] [ChaCha20Poly1305] [Secp256k1 SecretKey PublicKey] in
theorem steady_resendPendingSessionHandshakes :
    Steady Whole (resendPendingSessionHandshakes env : M SecretKey PublicKey ν μ ε Unit) := by
  have hresend : ∀ candidates, Steady Whole (resendHandshakes env candidates :
      M SecretKey PublicKey ν μ ε Unit) := by
    intro candidates
    induction candidates with
    | nil => exact steady_pure ()
    | cons c candidates ih =>
      refine Steady.bind ?_ fun _ => ih
      refine (steady_whole_sendSessionPayload env c.1 c.2).attempt.bind fun sent => ?_
      cases sent with
      | error e => exact steady_pure ()
      | ok u =>
        exact (steady_read _).bind fun _ => steady_note _ fun _ => SessionEntry.notes_recordResend _
  refine (steady_write fun n hn => ?_).bind fun _ => (steady_read _).bind fun _ => hresend _
  exact hn.forgetSessions _

omit [SessionMmp μ] [Sha256] [HkdfSha256] [ChaCha20Poly1305] [Secp256k1 SecretKey PublicKey] in
theorem Whole.purgeIdleSessions (hn : Whole n) (nowMs : Nat) : Whole (n.purgeIdleSessions nowMs) := by
  unfold Node.purgeIdleSessions
  extract_lets timeoutMs
  split_ifs
  · exact hn
  · exact hn.forgetSessions _

/-! ## Session payloads and datagrams -/

/-- **No session payload stops the program.** -/
theorem steady_handleSessionPayload (hsized : ChaCha20Poly1305.Sized) (src : NodeAddr)
    (payload : Bytes) (pathMtu : Nat) (ceFlag : Bool) :
    Steady Whole (handleSessionPayload env src payload pathMtu ceFlag :
      Handler SecretKey PublicKey ν μ Unit) := by
  refine Steady.body (steady_orReturn_bind (FspCommonPrefix.noPanic_parse payload)
    fun pre hpre => ?_)
  refine (steady_orReturn (noPanic_sliceFrom (FspCommonPrefix.length_of_parse hpre))).bind
    fun inner => ?_
  refine Steady.ite (steady_handleSessionSetup env src inner) (Steady.ite
    (steady_handleSessionAck env hsized src inner) (Steady.ite
    (steady_handleSessionMsg3 env hsized src inner) (Steady.ite (Steady.ite ?_ ?_) (steady_pure _))))
  · split_ifs with hempty
    · exact steady_stop _
    · have hlen : 1 ≤ inner.length := by
        rw [List.isEmpty_iff] at hempty
        exact List.length_pos_of_ne_nil hempty
      refine (steady_orReturn (noPanic_index hlen)).bind fun errorType =>
        (steady_orReturn (noPanic_sliceFrom hlen)).bind fun errorBody => ?_
      split
      · exact Steady.body ((steady_orReturn (CoordsRequired.noPanic_decode _)).bind fun msg =>
          (steady_warmUp env _).bind fun _ => (steady_lookUp env _).bind fun _ =>
            steady_resetWarmup _)
      · exact Steady.body ((steady_orReturn (PathBroken.noPanic_decode _)).bind fun msg =>
          (steady_warmUp env _).bind fun _ => Steady.bind (fun _ hn => hn) fun _ =>
            (steady_lookUp env _).bind fun _ => steady_resetWarmup _)
      · exact Steady.body ((steady_orReturn (MtuExceeded.noPanic_decode _)).bind fun msg =>
          steady_note _ fun _ => SessionEntry.notes_mapMmp (.applyNotification _ _))
      · exact steady_pure _
  · exact steady_handleEncryptedSessionMsg env src payload pathMtu ceFlag

/-- The inner message of a datagram with hops left has the header in front of the coordinates that it
announces. -/
def HeaderFits (payload : Bytes) : Prop :=
  ∀ d, SessionDatagram.decode payload = .ok d → ∀ datagram, d.decrementTtl = some datagram →
    Warms datagram

/-- **A datagram** stops the program where the warming of the cache does. -/
theorem wp_whole_handleSessionDatagram (hsized : ChaCha20Poly1305.Sized) (payload : Bytes)
    (incomingCe : Bool) (hn : Whole n) :
    wp (handleSessionDatagram env payload incomingCe : Handler SecretKey PublicKey ν μ Unit)
      (fun _ n' => HeaderFits payload ∧ Whole n')
      (fun e n' => e = .panic ∧ ¬ HeaderFits payload ∧ Whole n') n := by
  unfold handleSessionDatagram
  rw [wp_body_iff, wp_bind_iff, wp_orReturn_iff]
  refine ⟨fun d hd => ?_, fun ⟨e, he⟩ => ?_, fun hpanic => ?_⟩
  · rw [wp_bind_iff, wp_orElse_iff]
    refine ⟨fun datagram hdatagram => ?_, fun hnone => ?_⟩
    · rw [wp_bind_iff]
      refine wp_mono (fun _ n' hn' => ?_) (fun e n' hn' => ?_) (wp_tryWarmCoordCache datagram)
      · obtain ⟨hwarms, es, rfl, -⟩ := hn'
        have hfits : HeaderFits payload := fun d' hd' datagram' hdatagram' => by
          cases hd.symm.trans hd'
          cases hdatagram.symm.trans hdatagram'
          exact hwarms
        have hrest : Steady Whole (do
            let my ← read Node.nodeAddr
            if datagram.destAddr == my then
              handleSessionPayload env datagram.srcAddr datagram.payload datagram.pathMtu incomingCe
            else forwardDatagram env datagram incomingCe : Handler SecretKey PublicKey ν μ Unit) :=
          (steady_read _).bind fun my => Steady.ite
            (steady_handleSessionPayload env hsized _ _ _ _) (steady_forwardDatagram env _ _)
        refine wp_mono (fun _ n' hn' => ⟨hfits, hn'⟩) (fun e n' hn' => ?_)
          (hrest { n with effects := n.effects ++ es } hn)
        cases e with
        | error e => exact ⟨hfits, hn'.2⟩
        | panic => exact absurd rfl hn'.1
      · obtain ⟨rfl, hshort, rfl⟩ := hn'
        exact ⟨rfl, fun hfits => hshort (hfits d hd datagram hdatagram), hn⟩
    · refine ⟨fun d' hd' datagram hdatagram => ?_, hn⟩
      cases hd.symm.trans hd'
      cases hnone.symm.trans hdatagram
  · exact ⟨fun d hd => (by cases hd.symm.trans he), hn⟩
  · rcases SessionDatagram.decode_eq payload with ⟨-, hd⟩ | ⟨-, d, hd, -⟩
    · cases hd.symm.trans hpanic
    · cases hd.symm.trans hpanic

end Handshakes

/-! ## Link messages -/

section Dispatch

variable (Signature : Type) [SchnorrSignature Signature] [Mmp ν] [SessionMmp μ] [Sha256]
  [HkdfSha256] [ChaCha20Poly1305] [Secp256k1 SecretKey PublicKey] (env : Env SecretKey)

omit [Mmp ν] [SessionMmp μ] [Sha256] [HkdfSha256] [ChaCha20Poly1305] [Secp256k1 SecretKey PublicKey]
  [SchnorrSignature Signature] in
theorem steady_handleAnnounce {α : Type} {decode : Bytes → Result ProtocolError α}
    (hdecode : ∀ payload, NoPanic (decode payload)) (src : NodeAddr) (msgType : UInt8)
    (payload : Bytes) :
    Steady Whole (handleAnnounce decode src msgType payload : Handler SecretKey PublicKey ν μ Unit) :=
  Steady.body ((steady_orReturn (hdecode payload)).bind fun _ _ hn => hn)

omit [Mmp ν] [Sha256] [HkdfSha256] [ChaCha20Poly1305] [Secp256k1 SecretKey PublicKey] in
theorem steady_handleLookupResponse (src : NodeAddr) (payload : Bytes) :
    Steady Whole (handleLookupResponse env Signature src payload :
      Handler SecretKey PublicKey ν μ Unit) := by
  refine Steady.body ((steady_orReturn (LookupResponse.noPanic_decode payload)).bind fun response => ?_)
  refine Steady.bind (fun _ hn => hn) fun _ => Steady.ite ?_ (steady_pure _)
  refine (steady_read _).bind fun config => steady_note _ fun e => ?_
  split_ifs
  · exact SessionEntry.notes_setCoordsWarmupRemaining _
  · exact .refl

/-- The datagram in a link message has the header in front of the coordinates that it announces. -/
def HeadersFit (plaintext : Bytes) : Prop := ∀ payload, plaintext = 0x00 :: payload → HeaderFits payload

/-- **A link message** stops the program where its datagram does. -/
theorem wp_whole_dispatchLinkMessage (hsized : ChaCha20Poly1305.Sized) (src : NodeAddr)
    (plaintext : Bytes) (ceFlag : Bool) (hn : Whole n) :
    wp (dispatchLinkMessage env Signature src plaintext ceFlag :
        Handler SecretKey PublicKey ν μ Unit)
      (fun _ n' => HeadersFit plaintext ∧ Whole n')
      (fun e n' => e = .panic ∧ ¬ HeadersFit plaintext ∧ Whole n') n := by
  unfold dispatchLinkMessage
  rw [wp_body_iff]
  cases plaintext with
  | nil => exact ⟨fun payload heq => (by cases heq), hn⟩
  | cons msgType payload =>
    rw [if_neg (by simp), wp_bind_iff]
    change wp ((orReturn (sliceFrom (msgType :: payload) 1 : Result Unit Bytes)) >>= _) _ _ n
    rw [wp_bind_iff, sliceFrom_of_le (by simp), wp_orReturn_ok]
    by_cases hdatagram : (msgType == 0x00) = true
    · rw [if_pos hdatagram]
      cases beq_iff_eq.mp hdatagram
      refine wp_mono (fun _ n' hn' => ⟨fun payload' heq => ?_, hn'.2⟩) (fun e n' hn' => ?_)
        (wp_whole_handleSessionDatagram env hsized payload ceFlag hn)
      · cases heq
        exact hn'.1
      · obtain ⟨rfl, hnot, hn'⟩ := hn'
        exact ⟨rfl, fun hfit => hnot (hfit payload rfl), hn'⟩
    · rw [if_neg hdatagram]
      have hfit : HeadersFit (msgType :: payload) := fun payload' heq => by
        cases heq
        exact absurd rfl hdatagram
      refine wp_mono (fun _ n' hn' => ⟨hfit, hn'⟩) (fun e n' hn' => ?_) (?_ : wp _ (fun _ => Whole)
        (fun e s' => e ≠ .panic ∧ Whole s') n)
      · cases e with
        | error e => exact ⟨hfit, hn'.2⟩
        | panic => exact absurd rfl hn'.1
      · refine (?_ : Steady Whole _) n hn
        refine Steady.ite ?_ (Steady.ite ?_ (Steady.ite ?_ (Steady.ite ?_ (Steady.ite ?_
          (Steady.ite ?_ (Steady.ite ?_ (steady_pure _)))))))
        · exact Steady.body ((steady_orReturn (SenderReport.noPanic_decode _)).bind fun _ =>
            steady_pure _)
        · exact Steady.body ((steady_orReturn (ReceiverReport.noPanic_decode _)).bind fun _ _ hn =>
            hn)
        · exact steady_handleAnnounce TreeAnnounce.noPanic_decode _ _ _
        · exact steady_handleAnnounce FilterAnnounce.noPanic_decode _ _ _
        · exact steady_handleAnnounce LookupRequest.noPanic_decode _ _ _
        · exact steady_handleLookupResponse Signature env _ _
        · exact Steady.body ((steady_orReturn (Disconnect.noPanic_decode _)).bind fun _ _ hn =>
            hn.removeActivePeer _)

end Dispatch

/-! ## Every reachable node -/

section Reachable

variable (Signature : Type) [SchnorrSignature Signature] [Mmp ν] [SessionMmp μ] [Sha256]
  [HkdfSha256] [ChaCha20Poly1305] [Secp256k1 SecretKey PublicKey]

/-- A node whose sessions have come about by the events of `KBitRun.lean` and by link messages, from
no session. `elsewhere` is all that leaves the sessions alone. -/
inductive Reached : Node SecretKey PublicKey ν (Counted μ) → Prop
  | idle {n : Node SecretKey PublicKey ν (Counted μ)} : Idle n → Reached n
  | event {n : Node SecretKey PublicKey ν (Counted μ)} (event : KBitEvent SecretKey PublicKey μ) :
      Reached n → Reached (kBitStep n event)
  | linkMessage {n : Node SecretKey PublicKey ν (Counted μ)} (env : Env SecretKey) (src : NodeAddr)
      (plaintext : Bytes) (ceFlag : Bool) :
      Reached n → Reached (dispatchLinkMessage env Signature src plaintext ceFlag n).1
  | elsewhere {n n' : Node SecretKey PublicKey ν (Counted μ)} :
      n'.sessions = n.sessions → Reached n → Reached n'

variable {Signature} {n : Node SecretKey PublicKey ν (Counted μ)}

omit [Mmp ν] in
/-- **The step lemma.** -/
theorem Whole.step (hsized : ChaCha20Poly1305.Sized) (hn : Whole n)
    (event : KBitEvent SecretKey PublicKey μ) : Whole (kBitStep n event) := by
  have hbegin : Whole { n with effects := [] } := hn
  cases event with
  | sendData env dest srcPort dstPort payload =>
    exact (steady_sendSessionData env dest srcPort dstPort payload).keeps _ hbegin
  | sendMsg env dest msgType payload =>
    exact (steady_sendSessionMsg env dest msgType payload).keeps _ hbegin
  | sessionPayload env src payload pathMtu ceFlag =>
    exact (steady_handleSessionPayload env hsized src payload pathMtu ceFlag).keeps _ hbegin
  | initiateSession env dest destPubkey =>
    exact (steady_initiateSession env dest destPubkey).keeps _ hbegin
  | checkSessionRekey env => exact (steady_checkSessionRekey env).keeps _ hbegin
  | resendHandshakes env => exact (steady_resendPendingSessionHandshakes env).keeps _ hbegin
  | purgeIdle nowMs => exact hbegin.purgeIdleSessions nowMs
  | removePeer addr => exact hbegin.removeActivePeer addr
  | queue dest packets =>
    simp only [kBitStep]
    split_ifs
    · exact hbegin
    · exact hbegin
  | unqueue dest => exact hbegin
  | resetWarmup dest => exact (steady_resetWarmup dest).keeps _ hbegin
  | measure dest f =>
    refine hbegin.modify (fun e he => ?_) dest
    exact he.congr rfl rfl

theorem Reached.whole (hsized : ChaCha20Poly1305.Sized) (h : Reached Signature n) : Whole n := by
  induction h with
  | idle hidle =>
    intro addr e he
    rw [hidle.sessions] at he
    cases he
  | event event _ ih => exact ih.step hsized event
  | linkMessage env src plaintext ceFlag _ ih =>
    exact fst_of_wp (wp_mono (fun _ _ h => h.2) (fun _ _ h => h.2.2)
      (wp_whole_dispatchLinkMessage Signature env hsized src plaintext ceFlag ih))
  | elsewhere hsessions _ ih => exact ih.congr hsessions

/-- **What stops the program.** In every reachable node, whatever the plaintext of a link message, an
index or a slice out of bounds, a length below zero, an `expect` or an `unreachable!` stops its handling
if and only if it is a datagram whose inner message announces coordinates and is shorter than the header
in front of them. Sums that overflow in a build with overflow checks are not counted: those of a
receiver report are in `Mmp/RoundTrip.lean`. -/
theorem noPanic_dispatchLinkMessage_iff (hsized : ChaCha20Poly1305.Sized) (hn : Reached Signature n)
    (env : Env SecretKey) (src : NodeAddr) (plaintext : Bytes) (ceFlag : Bool) :
    NoPanic (dispatchLinkMessage env Signature src plaintext ceFlag n).2 ↔ HeadersFit plaintext := by
  have hwp := wp_whole_dispatchLinkMessage Signature env hsized src plaintext ceFlag
    (hn.whole hsized)
  unfold wp at hwp
  rcases hrun : dispatchLinkMessage env Signature src plaintext ceFlag n with ⟨n', r⟩
  rw [hrun] at hwp
  cases r with
  | ok u => exact ⟨fun _ => hwp.1, fun _ => noPanic_ok _⟩
  | error e =>
    obtain ⟨rfl, hnot, -⟩ := hwp
    exact ⟨fun h => absurd rfl h, fun hfits => absurd hfits hnot⟩

end Reachable

section Examples

open Sample

/-- The inner message of a datagram from node 1 to node 3, as node 2 gets it. -/
def inTransit (payload : Bytes) : Bytes := (SessionDatagram.new (addr 1) (addr 3) payload).encode

/-- The four bytes of a prefix: phase 0 with the coordinate flag. -/
def cutShort : Bytes := [0x00, FSP_FLAG_CP, 0x00, 0x00]

theorem noPanic_transit_setup :
    NoPanic (dispatchLinkMessage (env 2 10 ⟨13⟩) Unit (addr 1)
      (inTransit (sentPayload (kBitStep (kBitNode 1) setupSent))) false (kBitNode 2)).2 := by
  refine (noPanic_dispatchLinkMessage_iff aead_sized (.idle (idle_kBitNode 2)) _ _ _ _).mpr ?_
  have hsetup : ((SessionDatagram.decode (inTransit (sentPayload (kBitStep (kBitNode 1)
      setupSent))).tail).toOption.bind (·.decrementTtl)).bind (fun datagram =>
        (FspCommonPrefix.parse datagram.payload).toOption.map (·.phase)) = some FSP_PHASE_MSG1 := by
    decide +kernel
  intro payload heq d hd datagram hdatagram pre hpre hcoords
  rw [heq, List.tail_cons, hd] at hsetup
  change (d.decrementTtl.bind _) = _ at hsetup
  rw [hdatagram, Option.bind_some, hpre] at hsetup
  rw [show pre.phase = FSP_PHASE_MSG1 from Option.some.inj hsetup] at hcoords
  cases hcoords

/-- Four bytes stop a node that passes them on. -/
theorem coords_cut_short :
    ¬ ∀ plaintext : Bytes, NoPanic (dispatchLinkMessage (env 2 10 ⟨13⟩) Unit (addr 1) plaintext false
      (kBitNode 2)).2 := by
  intro h
  refine h (inTransit cutShort) ?_
  decide +kernel

end Examples

end Node

end Fips
