import Fips.Node.Encrypted

/-!
# The data plane leaves the link tables alone

The peers, their registered indices and the index allocator are the link layer's. No handler of a
session message, a datagram or an error signal writes them: `Frames linkTables` is shown of each, in
the order of the source, up to the messages of a peer that `dispatch_link_message` hands on. Two
messages do touch them: a receiver report moves measurements of its peer, a disconnect removes it.

## Results

* `frames_handleSessionDatagram`: it leaves the link tables alone.
-/

open Checked

namespace Fips

/-- The link an effect asks to remove. -/
def Effect.removedLink {PublicKey : Type} : Effect PublicKey → Option LinkId
  | .removeLink linkId => some linkId
  | _ => none

namespace Node

variable {SecretKey PublicKey ν μ : Type} {ε : Type}

/-- What the link layer keeps. -/
def linkTables (n : Node SecretKey PublicKey ν μ) :
    Map NodeAddr (ActivePeer SecretKey PublicKey ν) × Map (TransportId × SessionIndex) NodeAddr ×
      Map (TransportId × SessionIndex) LinkId × List SessionIndex :=
  (n.peers, n.peersByIndex, n.pendingOutbound, n.allocatedIndices)

/-- The method leaves the link tables alone. -/
abbrev FramesLinks {α : Type} (m : M SecretKey PublicKey ν μ ε α) : Prop := Frames linkTables m

/-- A property that reads no session, queue or ping, and of the effects the links to remove. -/
structure SessionBlind (I : Node SecretKey PublicKey ν μ → Prop) : Prop where
  sessions : ∀ n sessions, I n → I { n with sessions := sessions }
  queues : ∀ n queues, I n → I { n with pendingTunPackets := queues }
  pings : ∀ n pings, I n → I { n with pendingPings := pings }
  effect : ∀ n (e : Effect PublicKey), e.removedLink = none → I n →
    I { n with effects := n.effects ++ [e] }

theorem sessionBlind_linkTables (tables : Map NodeAddr (ActivePeer SecretKey PublicKey ν) ×
    Map (TransportId × SessionIndex) NodeAddr × Map (TransportId × SessionIndex) LinkId ×
      List SessionIndex) :
    SessionBlind fun n : Node SecretKey PublicKey ν μ => n.linkTables = tables where
  sessions _ _ hn := hn
  queues _ _ hn := hn
  pings _ _ hn := hn
  effect _ _ _ hn := hn

variable {I : Node SecretKey PublicKey ν μ → Prop}

section Primitives

theorem SessionBlind.keeps_emit (h : SessionBlind I) {e : Effect PublicKey}
    (he : e.removedLink = none) : Keeps I (emit e : M SecretKey PublicKey ν μ ε Unit) :=
  fun n hn => h.effect n e he hn

theorem SessionBlind.keeps_cacheCoords (h : SessionBlind I) (addr : NodeAddr)
    (coords : Option TreeCoordinate) :
    Keeps I (cacheCoords addr coords : M SecretKey PublicKey ν μ ε Unit) := by
  cases coords with
  | none => exact keeps_pure ()
  | some coords => exact h.keeps_emit rfl

theorem SessionBlind.keeps_modifySession (h : SessionBlind I) (addr : NodeAddr)
    (f : SessionEntry SecretKey PublicKey μ → SessionEntry SecretKey PublicKey μ) :
    Keeps I (modifySession addr f : M SecretKey PublicKey ν μ ε Unit) :=
  fun n hn => h.sessions n _ hn

theorem SessionBlind.keeps_putSession (h : SessionBlind I) (addr : NodeAddr)
    (entry : SessionEntry SecretKey PublicKey μ) :
    Keeps I (putSession addr entry : M SecretKey PublicKey ν μ ε Unit) :=
  fun n hn => h.sessions n _ hn

theorem SessionBlind.keeps_takeSession (h : SessionBlind I) (addr : NodeAddr) :
    Keeps I (takeSession addr : M SecretKey PublicKey ν μ Unit _) :=
  (keeps_read _).bind fun _ => (keeps_orElse () _).bind fun _ =>
    (keeps_write fun n hn => h.sessions n _ hn).bind fun _ => keeps_pure _

end Primitives

/-! ## Sending -/

section Sending

variable (env : Env SecretKey)

theorem SessionBlind.keeps_sendLinkMessage (h : SessionBlind I) (nextHop : NodeAddr)
    (message : Bytes) (ceFlag : Bool) :
    Keeps I (sendLinkMessage env nextHop message ceFlag :
      M SecretKey PublicKey ν μ SendError Unit) := by
  unfold sendLinkMessage
  cases env.sendLinkMessage nextHop message with
  | error e => exact keeps_stop e
  | ok u => exact h.keeps_emit rfl

variable [SessionMmp μ]

theorem SessionBlind.keeps_sendSessionPayload (h : SessionBlind I) (dest : NodeAddr)
    (payload : Bytes) :
    Keeps I (sendSessionPayload env dest payload : M SecretKey PublicKey ν μ SendError Unit) := by
  refine (keeps_read _).bind fun my => (keeps_read _).bind fun config => ?_
  unfold sendSessionDatagram
  cases env.findNextHop _ with
  | none => exact keeps_stop _
  | some nextHop =>
    exact (h.keeps_modifySession _ _).bind fun _ => h.keeps_sendLinkMessage env _ _ _

variable [ChaCha20Poly1305]

theorem SessionBlind.keeps_sendSealed (h : SessionBlind I) (dest : NodeAddr) (flags : UInt8)
    (timestamp : Nat) (coords inner : Bytes) :
    Keeps I (sendSealed env dest flags timestamp coords inner :
      M SecretKey PublicKey ν μ SendError Unit) := by
  refine (keeps_read _).bind fun _ => (keeps_orElse _ _).bind fun entry => ?_
  split
  · exact keeps_crash
  · refine (h.keeps_putSession _ _).bind fun _ => ?_
    split
    · exact keeps_stop _
    · exact (h.keeps_sendSessionPayload env _ _).bind fun _ => h.keeps_modifySession _ _
  · exact keeps_stop _

theorem SessionBlind.keeps_sendCoordsWarmup (h : SessionBlind I) (dest : NodeAddr) :
    Keeps I (sendCoordsWarmup env dest : M SecretKey PublicKey ν μ SendError Unit) :=
  (keeps_read _).bind fun _ => (keeps_orElse _ _).bind fun _ => h.keeps_sendSealed env _ _ _ _ _

theorem SessionBlind.keeps_sendSessionData (h : SessionBlind I) (dest : NodeAddr)
    (srcPort dstPort : Nat) (payload : Bytes) :
    Keeps I (sendSessionData env dest srcPort dstPort payload :
      M SecretKey PublicKey ν μ SendError Unit) := by
  have hwarmup : Keeps I (attempt (sendCoordsWarmup env dest) :
      M SecretKey PublicKey ν μ SendError (Except SendError Unit)) :=
    (h.keeps_sendCoordsWarmup env dest).attempt
  refine (keeps_read _).bind fun _ => (keeps_orElse _ _).bind fun entry => ?_
  refine Keeps.ite (keeps_stop _) ?_
  extract_lets portPayload inner coordsSize fits includeCoords coords send countDown
  have hsend : ∀ u, Keeps I (send u) := fun u => (keeps_read _).bind fun _ =>
    (h.keeps_sendSealed env _ _ _ _ _).bind fun _ => h.keeps_modifySession _ _
  have hcountDown : ∀ u, Keeps I (countDown u) := fun u =>
    Keeps.ite ((h.keeps_modifySession _ _).bind hsend) (hsend ())
  exact Keeps.ite (hwarmup.bind fun _ => hcountDown ()) (hcountDown ())

theorem SessionBlind.keeps_sendIpv6Packet (h : SessionBlind I) (dest : NodeAddr) (packet : Bytes) :
    Keeps I (sendIpv6Packet env dest packet : M SecretKey PublicKey ν μ SendError Unit) := by
  refine (keeps_pureCall _).attempt.bind fun compressed => ?_
  cases compressed with
  | error e => exact keeps_stop _
  | ok compressed => exact h.keeps_sendSessionData env _ _ _ _

theorem SessionBlind.keeps_flushPackets (h : SessionBlind I) (dest : NodeAddr)
    (packets : List Bytes) :
    Keeps I (flushPackets env dest packets : Handler SecretKey PublicKey ν μ Unit) := by
  induction packets with
  | nil => exact keeps_pure ()
  | cons packet packets ih =>
    refine (h.keeps_sendIpv6Packet env dest packet).attempt.bind fun sent => ?_
    cases sent with
    | error e => exact keeps_pure ()
    | ok u => exact ih

theorem SessionBlind.keeps_flushPendingPackets (h : SessionBlind I) (dest : NodeAddr) :
    Keeps I (flushPendingPackets env dest : Handler SecretKey PublicKey ν μ Unit) :=
  Keeps.body <| (keeps_read _).bind fun _ => (keeps_orElse _ _).bind fun _ =>
    (keeps_write fun n hn => h.queues n _ hn).bind fun _ => h.keeps_flushPackets env dest _

end Sending

/-! ## Session messages -/

section Sessions

variable (env : Env SecretKey)
variable [Sha256] [HkdfSha256] [ChaCha20Poly1305] [Secp256k1 SecretKey PublicKey] [SessionMmp μ]

theorem SessionBlind.keeps_acceptSetup (h : SessionBlind I) (src : NodeAddr)
    (setup : SessionSetup) :
    Keeps I (acceptSetup env src setup : Handler SecretKey PublicKey ν μ Unit) := by
  refine (keeps_read _).bind fun _ => (keeps_orReturn _).bind fun _ => ?_
  refine (h.keeps_sendSessionPayload env _ _).attempt.bind fun sent => ?_
  cases sent with
  | error e => exact keeps_stop _
  | ok u => exact (keeps_read _).bind fun _ => h.keeps_putSession _ _

theorem SessionBlind.keeps_acceptRekey (h : SessionBlind I) (src : NodeAddr) (setup : SessionSetup)
    (existing : SessionEntry SecretKey PublicKey μ) :
    Keeps I (acceptRekey env src setup existing : Handler SecretKey PublicKey ν μ Unit) := by
  refine (keeps_read _).bind fun my => ?_
  extract_lets respond
  have hrespond : ∀ u, Keeps I (respond u) := by
    refine fun u => (keeps_read _).bind fun _ => (keeps_orReturn _).bind fun _ => ?_
    refine (h.keeps_sendSessionPayload env _ _).attempt.bind fun sent => ?_
    cases sent with
    | error e => exact keeps_stop _
    | ok u => exact (keeps_expect _).bind fun _ => h.keeps_modifySession _ _
  refine Keeps.ite (Keeps.ite ((keeps_stop _).bind hrespond) ?_)
    (Keeps.ite ((keeps_stop _).bind hrespond) (hrespond ()))
  exact (keeps_expect _).bind fun _ => (h.keeps_modifySession _ _).bind hrespond

theorem SessionBlind.keeps_onSessionSetup (h : SessionBlind I) (src : NodeAddr)
    (setup : SessionSetup) :
    Keeps I (onSessionSetup env src setup : Handler SecretKey PublicKey ν μ Unit) := by
  refine Keeps.ite (keeps_stop _) ((keeps_read _).bind fun existing => ?_)
  cases existing with
  | none => exact h.keeps_acceptSetup env src setup
  | some existing =>
    refine (keeps_read _).bind fun my => (keeps_read _).bind fun config => ?_
    refine Keeps.ite (Keeps.ite (keeps_stop _) (h.keeps_acceptSetup env src setup)) ?_
    refine Keeps.ite ?_ (Keeps.ite (h.keeps_acceptRekey env src setup existing)
      (h.keeps_acceptSetup env src setup))
    split
    · exact keeps_pure _
    · exact (h.keeps_sendSessionPayload env _ _).attempt.bind fun _ => keeps_pure _

theorem SessionBlind.keeps_finishAsInitiator (h : SessionBlind I) (src : NodeAddr) (msg2 : Bytes)
    (handshake : HandshakeState SecretKey PublicKey) :
    Keeps I (finishAsInitiator env src msg2 handshake :
      Handler SecretKey PublicKey ν μ (NoiseSession PublicKey)) := by
  refine (keeps_orReturn _).bind fun _ => (keeps_orReturn _).bind fun _ => ?_
  refine (h.keeps_sendSessionPayload env _ _).attempt.bind fun sent => ?_
  cases sent with
  | error e => exact keeps_stop _
  | ok u => exact keeps_orReturn _

theorem SessionBlind.keeps_onSessionAck (h : SessionBlind I) (src : NodeAddr) (ack : SessionAck) :
    Keeps I (onSessionAck env src ack : Handler SecretKey PublicKey ν μ Unit) := by
  refine Keeps.ite (keeps_stop _) ((h.keeps_takeSession _).bind fun entry => ?_)
  refine Keeps.ite ?_ (Keeps.ite (h.keeps_putSession _ _) ?_)
  · split
    · exact h.keeps_putSession _ _
    · refine (h.keeps_finishAsInitiator env _ _ _).attempt.bind fun finished => ?_
      cases finished with
      | error e => exact h.keeps_putSession _ _
      | ok session => exact h.keeps_putSession _ _
  · split
    · refine (h.keeps_finishAsInitiator env _ _ _).bind fun _ => (keeps_read _).bind fun _ => ?_
      exact (h.keeps_putSession _ _).bind fun _ => (h.keeps_cacheCoords _ _).bind fun _ =>
        h.keeps_flushPendingPackets env src
    · exact keeps_crash

theorem SessionBlind.keeps_onSessionMsg3 (h : SessionBlind I) (src : NodeAddr)
    (msg3 : SessionMsg3) :
    Keeps I (onSessionMsg3 env src msg3 : Handler SecretKey PublicKey ν μ Unit) := by
  refine Keeps.ite (keeps_stop _) ((h.keeps_takeSession _).bind fun entry => ?_)
  refine Keeps.ite ?_ (Keeps.ite (h.keeps_putSession _ _) ?_)
  · split
    · exact h.keeps_putSession _ _
    · refine (keeps_pureCall _).attempt.bind fun finished => ?_
      cases finished with
      | error e => exact h.keeps_putSession _ _
      | ok session => exact h.keeps_putSession _ _
  · split
    · refine (keeps_orReturn _).bind fun _ => (keeps_orElse _ _).bind fun _ => ?_
      refine (h.keeps_emit rfl).bind fun _ => (keeps_orReturn _).bind fun _ => ?_
      exact (keeps_read _).bind fun _ => (h.keeps_putSession _ _).bind fun _ =>
        h.keeps_flushPendingPackets env src
    · exact keeps_crash

omit [Sha256] [HkdfSha256] [Secp256k1 SecretKey PublicKey] in
theorem SessionBlind.keeps_openSessionFrame (h : SessionBlind I) (src : NodeAddr) (kBit : Bool)
    (frame : NoiseSession.Frame) :
    Keeps I (openSessionFrame env src kBit frame : Handler SecretKey PublicKey ν μ Bytes) := by
  refine (keeps_read _).bind fun _ => (keeps_orElse _ _).bind fun _ => ?_
  refine Keeps.ite (keeps_stop _) ((keeps_expect _).bind fun _ => ?_)
  extract_lets decrypt
  have hdecrypt : ∀ u, Keeps I (decrypt u) := by
    refine fun u => (h.keeps_takeSession _).bind fun entry => ?_
    split
    · exact keeps_crash
    · exact (h.keeps_putSession _ _).bind fun _ => keeps_orReturn _
    · exact (h.keeps_putSession _ _).bind fun _ => keeps_stop _
  exact Keeps.ite ((keeps_expect _).bind fun _ => (h.keeps_modifySession _ _).bind hdecrypt)
    (hdecrypt ())

omit [Sha256] [HkdfSha256] [ChaCha20Poly1305] [Secp256k1 SecretKey PublicKey] [SessionMmp μ] in
theorem SessionBlind.keeps_handleDataPacket (h : SessionBlind I) (src : NodeAddr) (ceFlag : Bool)
    (rest : Bytes) :
    Keeps I (handleDataPacket src ceFlag rest : Handler SecretKey PublicKey ν μ Unit) := by
  refine (keeps_orReturn _).bind fun _ => (keeps_orReturn _).bind fun _ => ?_
  refine Keeps.ite ((keeps_read _).bind fun _ => ?_) (keeps_pure _)
  refine (keeps_pureCall _).attempt.bind fun packet => ?_
  cases packet with
  | error e => exact keeps_pure _
  | ok packet =>
    refine (keeps_orReturn _).bind fun sequence => ?_
    cases sequence with
    | none => exact fun n hn => h.effect n _ rfl hn
    | some sequence =>
      have hpings : ∀ f : Map (NodeAddr × Nat) Unit → Map (NodeAddr × Nat) Unit,
          Keeps I (write fun n => { n with pendingPings := f n.pendingPings } :
            Handler SecretKey PublicKey ν μ Unit) := fun _ n hn => h.pings n _ hn
      refine (keeps_read _).bind fun _ => Keeps.ite ((hpings _).bind fun _ => ?_)
        (h.keeps_emit rfl)
      exact Keeps.bind (h.keeps_emit (by rfl)) fun _ => h.keeps_emit (by rfl)

omit [Sha256] [HkdfSha256] [Secp256k1 SecretKey PublicKey] in
theorem SessionBlind.keeps_processSessionMessage (h : SessionBlind I) (src : NodeAddr)
    (counter plaintextLen pathMtu : Nat)
    (ceFlag : Bool) (message : FspInner) :
    Keeps I (processSessionMessage env src counter plaintextLen pathMtu ceFlag message :
      Handler SecretKey PublicKey ν μ Unit) := by
  refine (h.keeps_modifySession _ _).bind fun _ => (h.keeps_modifySession _ _).bind fun _ => ?_
  extract_lets flush record
  have hflush : ∀ u, Keeps I (flush u) := fun _ => h.keeps_flushPendingPackets env src
  have hrecord : ∀ u, Keeps I (record u) := fun _ =>
    Keeps.ite ((h.keeps_modifySession _ _).bind hflush) (hflush ())
  split
  · exact Keeps.ite ((keeps_stop _).bind hrecord) ((h.keeps_handleDataPacket _ _ _).bind hrecord)
  · exact (Keeps.body ((keeps_orReturn _).bind fun _ => keeps_pure _)).bind hrecord
  · exact (Keeps.body ((keeps_orReturn _).bind fun _ => h.keeps_modifySession _ _)).bind hrecord
  · exact (Keeps.body ((keeps_orReturn _).bind fun _ => h.keeps_modifySession _ _)).bind hrecord
  · exact hrecord ()

omit [Sha256] [HkdfSha256] [Secp256k1 SecretKey PublicKey] in
theorem SessionBlind.keeps_handleEncryptedSessionMsg (h : SessionBlind I) (src : NodeAddr)
    (payload : Bytes) (pathMtu : Nat)
    (ceFlag : Bool) :
    Keeps I (handleEncryptedSessionMsg env src payload pathMtu ceFlag :
      Handler SecretKey PublicKey ν μ Unit) := by
  refine Keeps.body <| (keeps_orReturn _).bind fun _ => (keeps_orReturn _).bind fun coords => ?_
  refine (keeps_read _).bind fun _ => (h.keeps_cacheCoords _ _).bind fun _ => ?_
  refine (h.keeps_cacheCoords _ _).bind fun _ => ?_
  refine (h.keeps_openSessionFrame env _ _ _).bind fun _ => ?_
  exact (keeps_orReturn _).bind fun _ => h.keeps_processSessionMessage env _ _ _ _ _ _

/-! ## Error signals -/

section Signals

omit [Sha256] [HkdfSha256] [ChaCha20Poly1305] [Secp256k1 SecretKey PublicKey] [SessionMmp μ] in
theorem SessionBlind.keeps_resetWarmup (h : SessionBlind I) (dest : NodeAddr) :
    Keeps I (resetWarmup dest : Handler SecretKey PublicKey ν μ Unit) :=
  (keeps_read _).bind fun _ => h.keeps_modifySession _ _

omit [Sha256] [HkdfSha256] [ChaCha20Poly1305] [Secp256k1 SecretKey PublicKey] [SessionMmp μ] in
theorem SessionBlind.keeps_lookUp (h : SessionBlind I) (dest : NodeAddr) :
    Keeps I (lookUp env dest : Handler SecretKey PublicKey ν μ Unit) :=
  Keeps.ite (h.keeps_emit rfl) (keeps_pure _)

omit [Sha256] [HkdfSha256] [Secp256k1 SecretKey PublicKey] in
theorem SessionBlind.keeps_warmUp (h : SessionBlind I) (dest : NodeAddr) :
    Keeps I (warmUp env dest : Handler SecretKey PublicKey ν μ Unit) :=
  Keeps.ite ((keeps_read _).bind fun _ => Keeps.ite
    ((h.keeps_sendCoordsWarmup env dest).attempt.bind fun _ => keeps_pure _) (keeps_pure _))
    (keeps_pure _)

end Signals

theorem SessionBlind.keeps_handleSessionPayload (h : SessionBlind I) (src : NodeAddr)
    (payload : Bytes) (pathMtu : Nat)
    (ceFlag : Bool) :
    Keeps I (handleSessionPayload env src payload pathMtu ceFlag :
      Handler SecretKey PublicKey ν μ Unit) := by
  refine Keeps.body <| (keeps_orReturn _).bind fun pre => (keeps_orReturn _).bind fun inner => ?_
  refine Keeps.ite (Keeps.body ((keeps_orReturn _).bind fun _ => h.keeps_onSessionSetup env _ _)) ?_
  refine Keeps.ite (Keeps.body ((keeps_orReturn _).bind fun _ => h.keeps_onSessionAck env _ _)) ?_
  refine Keeps.ite (Keeps.body ((keeps_orReturn _).bind fun _ => h.keeps_onSessionMsg3 env _ _)) ?_
  refine Keeps.ite (Keeps.ite (Keeps.ite (keeps_stop _) ?_)
    (h.keeps_handleEncryptedSessionMsg env _ _ _ _)) (keeps_pure _)
  refine (keeps_orReturn _).bind fun _ => (keeps_orReturn _).bind fun errorBody => ?_
  split
  · exact Keeps.body <| (keeps_orReturn _).bind fun _ => (h.keeps_warmUp env _).bind fun _ =>
      (h.keeps_lookUp env _).bind fun _ => h.keeps_resetWarmup _
  · exact Keeps.body <| (keeps_orReturn _).bind fun _ => (h.keeps_warmUp env _).bind fun _ =>
      (h.keeps_emit rfl).bind fun _ => (h.keeps_lookUp env _).bind fun _ => h.keeps_resetWarmup _
  · exact Keeps.body <| (keeps_orReturn _).bind fun _ => h.keeps_modifySession _ _
  · exact keeps_pure _

/-! ## Datagrams -/

section Forwarding

omit [Sha256] [HkdfSha256] [ChaCha20Poly1305] [Secp256k1 SecretKey PublicKey] [SessionMmp μ]

theorem SessionBlind.keeps_warmPair (h : SessionBlind I) (datagram : SessionDatagram)
    (src dest : Option TreeCoordinate) :
    Keeps I (warmPair datagram src dest : Handler SecretKey PublicKey ν μ Unit) :=
  (h.keeps_cacheCoords _ _).bind fun _ => h.keeps_cacheCoords _ _

theorem SessionBlind.keeps_tryWarmCoordCache (h : SessionBlind I) (datagram : SessionDatagram) :
    Keeps I (tryWarmCoordCache datagram : Handler SecretKey PublicKey ν μ Unit) := by
  refine Keeps.body <| (keeps_orReturn _).bind fun pre => (keeps_orReturn _).bind fun inner => ?_
  refine Keeps.ite ((keeps_orReturn _).bind fun _ => h.keeps_warmPair _ _ _) ?_
  refine Keeps.ite ((keeps_orReturn _).bind fun _ => h.keeps_warmPair _ _ _) ?_
  exact Keeps.ite ((keeps_orReturn _).bind fun _ => (keeps_orReturn _).bind fun _ =>
    h.keeps_warmPair _ _ _) (keeps_pure _)

theorem SessionBlind.keeps_sendError (h : SessionBlind I) (original : SessionDatagram)
    (payload : Bytes) :
    Keeps I (sendError env original payload : Handler SecretKey PublicKey ν μ Unit) :=
  (keeps_read _).bind fun _ => (keeps_read _).bind fun _ => (keeps_orElse _ _).bind fun _ =>
    (h.keeps_sendLinkMessage env _ _ _).attempt.bind fun _ => keeps_pure _

theorem SessionBlind.keeps_sendRoutingError (h : SessionBlind I) (original : SessionDatagram) :
    Keeps I (sendRoutingError env original : Handler SecretKey PublicKey ν μ Unit) :=
  Keeps.body <| Keeps.ite (keeps_stop _) <| (keeps_read _).bind fun _ =>
    h.keeps_sendError env _ _

theorem SessionBlind.keeps_sendMtuExceededError (h : SessionBlind I) (original : SessionDatagram)
    (bottleneckMtu : Nat) :
    Keeps I (sendMtuExceededError env original bottleneckMtu :
      Handler SecretKey PublicKey ν μ Unit) :=
  Keeps.body <| Keeps.ite (keeps_stop _) <| (keeps_read _).bind fun _ =>
    h.keeps_sendError env _ _

theorem SessionBlind.keeps_forwardDatagram (h : SessionBlind I) (datagram : SessionDatagram)
    (incomingCe : Bool) :
    Keeps I (forwardDatagram env datagram incomingCe : Handler SecretKey PublicKey ν μ Unit) := by
  unfold forwardDatagram
  split
  · exact h.keeps_sendRoutingError env datagram
  · refine (h.keeps_sendLinkMessage env _ _ _).attempt.bind fun sent => ?_
    split
    · exact h.keeps_sendMtuExceededError env _ _
    · exact keeps_pure _
    · exact keeps_pure _

end Forwarding

theorem SessionBlind.keeps_handleSessionDatagram (h : SessionBlind I) (payload : Bytes)
    (incomingCe : Bool) :
    Keeps I (handleSessionDatagram env payload incomingCe :
      Handler SecretKey PublicKey ν μ Unit) :=
  Keeps.body <| (keeps_orReturn _).bind fun _ => (keeps_orElse _ _).bind fun _ =>
    (h.keeps_tryWarmCoordCache _).bind fun _ => (keeps_read _).bind fun _ =>
      Keeps.ite (h.keeps_handleSessionPayload env _ _ _ _) (h.keeps_forwardDatagram env _ _)

theorem frames_handleSessionDatagram (payload : Bytes) (incomingCe : Bool) :
    FramesLinks (handleSessionDatagram env payload incomingCe :
      Handler SecretKey PublicKey ν μ Unit) :=
  frames_of_keeps fun tables =>
    (sessionBlind_linkTables tables).keeps_handleSessionDatagram env payload incomingCe

end Sessions

end Node

end Fips
