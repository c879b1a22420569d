import Fips.Lib.Crossing
import Fips.Node.Handover
import Fips.Node.SessionExchange

/-!
# Two nodes set up a link

The IK exchange as the nodes run it: `initiate_connection` at one end, `handle_msg1` at the other and
`handle_msg2` at the first again, each on a frame as it was built. `Neighbours` says who the two are,
`LinkOffer` and `LinkAnswer` are a handshake by its two messages.

## Results

* `exists_ikTranscript`: an undisturbed IK exchange by its messages.
* `wp_startHandshake_offers`: what an initiator sends and keeps.
* `handleMsg1_answers`, `handleMsg1_repeats`: a msg1 of a node that is no peer is answered, one of a
  peer is answered with the stored msg2 or not at all.
* `handleMsg2_promotes`, `handleMsg2_swaps`, `handleMsg2_yields`: the answer to a handshake of our own
  where the other is no peer yet, and where it is one by now, at the node with the smaller address and
  at the one with the larger.
-/

open Checked Crossing

namespace Fips

variable {SecretKey PublicKey ν μ : Type} {ε : Type}

namespace HandshakeState

variable [Sha256] [HkdfSha256] [ChaCha20Poly1305] [Secp256k1 SecretKey PublicKey]

/-- An undisturbed IK exchange: its messages, the states in between and the sessions at its end. -/
structure IkTranscript (p : Parties SecretKey PublicKey) where
  msg1 : Bytes
  msg2 : Bytes
  initiated : HandshakeState SecretKey PublicKey
  asked : HandshakeState SecretKey PublicKey
  answered : HandshakeState SecretKey PublicKey
  told : HandshakeState SecretKey PublicKey
  initiatorSession : NoiseSession PublicKey
  responderSession : NoiseSession PublicKey
  keys : KeyPair
  write1 : call (writeMessage1 p.initiatorEphemeral)
    ((newInitiator p.initiatorStatic p.knownStatic).setLocalEpoch p.initiatorEpoch) =
      .ok (msg1, initiated)
  read1 : call (readMessage1 msg1)
    ((newResponder p.responderStatic).setLocalEpoch p.responderEpoch) = .ok ((), asked)
  write2 : call (writeMessage2 p.responderEphemeral) asked = .ok (msg2, answered)
  read2 : call (readMessage2 msg2) initiated = .ok ((), told)
  intoInitiator : told.intoSession = .ok initiatorSession
  intoResponder : answered.intoSession = .ok responderSession
  remoteStatic : asked.remoteStatic = some (Secp256k1.publicKey p.initiatorStatic)
  initiatorEpoch : asked.remoteEpoch = some p.initiatorEpoch
  responderEpoch : told.remoteEpoch = some p.responderEpoch
  initiatorUnder : initiatorSession.Under keys []
  responderUnder : responderSession.Under keys.flip []

section Sizes

variable {message : Bytes} {s s' : HandshakeState SecretKey PublicKey}

theorem length_of_readMessage1 (h : call (readMessage1 message) s = .ok ((), s')) :
    message.length = HANDSHAKE_MSG1_SIZE := by
  rw [call_eq_ok] at h
  simp only [readMessage1, runs_bind_iff, runs_requireLength_iff] at h
  obtain ⟨_, _, -, _, _, -, _, _, ⟨hlen, -⟩, -⟩ := h
  exact hlen

theorem length_of_readMessage2 (h : call (readMessage2 message) s = .ok ((), s')) :
    message.length = HANDSHAKE_MSG2_SIZE := by
  rw [call_eq_ok] at h
  simp only [readMessage2, runs_bind_iff, runs_requireLength_iff] at h
  obtain ⟨_, _, -, _, _, -, _, _, ⟨hlen, -⟩, -⟩ := h
  exact hlen

end Sizes

/-- **IK completes**, message by message. -/
theorem exists_ikTranscript (hcurve : Secp256k1.Lawful SecretKey) (haead : ChaCha20Poly1305.Lawful)
    (p : Parties SecretKey PublicKey) : Nonempty (IkTranscript p) := by
  obtain ⟨x₁, hx₁⟩ : ∃ x₁, x₁ = HandshakePattern.Message.schedule symmetricOps (curveOps SecretKey)
      p.toKeys (premessage PROTOCOL_NAME_IK p)
      ⟨true, [.e, .es, .s, .ss, .payload], p.initiatorEpoch.bytes⟩ := ⟨_, rfl⟩
  obtain ⟨x₂, hx₂⟩ : ∃ x₂, x₂ = HandshakePattern.Message.schedule symmetricOps (curveOps SecretKey)
      p.toKeys x₁ ⟨false, [.e, .ee, .es, .payload], p.responderEpoch.bytes⟩ := ⟨_, rfl⟩
  obtain ⟨msg1, hw1, hr1⟩ := ik_message_1 hcurve p .ik _ haead hx₁
  obtain ⟨msg2, hw2, hr2⟩ := ik_message_2 hcurve p .ik _ haead hx₂ (some p.initiatorEpoch)
  rw [← start_initiator hcurve p .ik PROTOCOL_NAME_IK] at hw1
  rw [← start_responder p .ik PROTOCOL_NAME_IK] at hr1
  exact ⟨msg1, msg2, _, _, _, _, _, _, _, call_eq_ok.mpr hw1, call_eq_ok.mpr hr1,
    call_eq_ok.mpr hw2, call_eq_ok.mpr hr2, rfl, rfl, rfl, rfl, rfl, under_fromHandshake x₂ _ _ _,
    under_fromHandshake_flip x₂ _ _ _⟩

end HandshakeState

/-! ## The connection of a handshake -/

namespace PeerConnection

/-- An outbound handshake with this peer that waits for msg2. -/
structure AwaitsMsg2 (identity : PeerIdentity PublicKey) (transportId : TransportId)
    (index : SessionIndex) (handshake : HandshakeState SecretKey PublicKey)
    (c : PeerConnection SecretKey PublicKey) : Prop where
  direction : c.direction = .outbound
  handshakeState : c.handshakeState = .sentMsg1
  noiseHandshake : c.noiseHandshake = some handshake
  expectedIdentity : c.expectedIdentity = some identity
  ourIndex : c.ourIndex = some index
  transportId : c.transportId = some transportId

variable [Sha256] [HkdfSha256] [ChaCha20Poly1305] [Secp256k1 SecretKey PublicKey]

theorem startHandshake_of_write {ourKeypair ephemeral : SecretKey} {epoch : Epoch}
    {identity : PeerIdentity PublicKey} {msg1 : Bytes} {handshake : HandshakeState SecretKey PublicKey}
    (hwrite : call (HandshakeState.writeMessage1 ephemeral)
      ((HandshakeState.newInitiator ourKeypair identity.pubkeyFull).setLocalEpoch epoch) =
        .ok (msg1, handshake)) (linkId : LinkId) (currentTimeMs : Nat) :
    call (startHandshake ourKeypair epoch ephemeral currentTimeMs)
        (outbound linkId identity currentTimeMs : PeerConnection SecretKey PublicKey) =
      .ok (msg1, { (outbound linkId identity currentTimeMs : PeerConnection SecretKey PublicKey) with
        noiseHandshake := some handshake
        handshakeState := .sentMsg1
        lastActivity := currentTimeMs }) := by
  rw [call_eq_ok]
  unfold startHandshake requireDirection requireState
  simp only [runs_bind_iff, runs_require_iff, runs_expect_iff, runs_pureCall_iff, runs_write_iff,
    runs_pure_iff]
  exact ⟨(), _, ⟨rfl, rfl⟩, (), _, ⟨rfl, rfl⟩, identity, _, ⟨rfl, rfl⟩, (msg1, handshake), _,
    ⟨hwrite, rfl⟩, (), _, rfl, rfl, rfl⟩

/-- What an inbound handshake leaves that has answered this transcript. -/
def answered (linkId : LinkId) (transportId : TransportId) (sourceAddr : TransportAddr)
    (currentTimeMs : Nat) {p : Parties SecretKey PublicKey} (t : HandshakeState.IkTranscript p) :
    PeerConnection SecretKey PublicKey :=
  { inboundWithTransport linkId transportId sourceAddr currentTimeMs with
    expectedIdentity := some ⟨Secp256k1.publicKey p.initiatorStatic⟩
    remoteEpoch := some p.initiatorEpoch
    noiseSession := some t.responderSession
    handshakeState := .complete
    lastActivity := currentTimeMs }

theorem receiveHandshakeInit_of_transcript {p : Parties SecretKey PublicKey}
    (t : HandshakeState.IkTranscript p) (linkId : LinkId) (transportId : TransportId)
    (sourceAddr : TransportAddr) (currentTimeMs : Nat) :
    call (receiveHandshakeInit p.responderStatic p.responderEpoch p.responderEphemeral t.msg1
        currentTimeMs) (inboundWithTransport linkId transportId sourceAddr currentTimeMs) =
      .ok (t.msg2, answered linkId transportId sourceAddr currentTimeMs t) := by
  have hunwrap : (unwrap t.asked.remoteStatic : Result NoiseError PublicKey) =
      .ok (Secp256k1.publicKey p.initiatorStatic) := by
    rw [t.remoteStatic]
    rfl
  rw [call_eq_ok]
  unfold receiveHandshakeInit requireDirection requireState finish
  simp only [runs_bind_iff, runs_require_iff, runs_pureCall_iff, runs_write_iff, runs_pure_iff]
  refine ⟨(), _, ⟨rfl, rfl⟩, (), _, ⟨rfl, rfl⟩, ((), t.asked), _, ⟨t.read1, rfl⟩, _, _,
    ⟨hunwrap, rfl⟩, (), _, rfl, (t.msg2, t.answered), _, ⟨t.write2, rfl⟩, t.responderSession, _,
    ⟨t.intoResponder, rfl⟩, (), _, rfl, rfl, ?_⟩
  rw [t.initiatorEpoch]
  rfl

/-- A connection whose outbound handshake has heard the answer. -/
theorem completeHandshake_of_read {c : PeerConnection SecretKey PublicKey}
    {handshake told : HandshakeState SecretKey PublicKey} {msg2 : Bytes}
    {session : NoiseSession PublicKey} (hstate : c.handshakeState = .sentMsg1)
    (hhandshake : c.noiseHandshake = some handshake)
    (hread : call (HandshakeState.readMessage2 msg2) handshake = .ok ((), told))
    (hinto : told.intoSession = .ok session) (currentTimeMs : Nat) :
    Runs (completeHandshake msg2 currentTimeMs) c ()
      { c with
        noiseHandshake := none
        remoteEpoch := told.remoteEpoch
        noiseSession := some session
        handshakeState := .complete
        lastActivity := currentTimeMs } := by
  unfold completeHandshake requireState finish
  simp only [runs_bind_iff, runs_require_iff, runs_expect_iff, runs_pureCall_iff, runs_write_iff]
  exact ⟨(), c, ⟨by rw [hstate]; rfl, rfl⟩, handshake, c, ⟨hhandshake, rfl⟩, (), _, rfl, ((), told), _,
    ⟨hread, rfl⟩, (), _, rfl, session, _, ⟨hinto, rfl⟩, rfl⟩

end PeerConnection

/-! ## The two nodes -/

/-- Two nodes by their keys and epochs. Each knows the other's key up to its parity and has a transport
that reaches it. -/
structure Neighbours (SecretKey PublicKey : Type) [Secp256k1 SecretKey PublicKey] where
  secretKey : Side → SecretKey
  startupEpoch : Side → Epoch
  known : Side → PublicKey
  sameX : ∀ r, SameX SecretKey (known r) (Secp256k1.publicKey (secretKey r))
  transportId : Side → TransportId

namespace Neighbours

variable [Secp256k1 SecretKey PublicKey] (w : Neighbours SecretKey PublicKey)

/-- The address of a side. -/
def addr [Sha256] (r : Side) : NodeAddr :=
  NodeAddr.fromPubkey SecretKey (Secp256k1.publicKey (w.secretKey r))

/-- A key gives the address whatever its parity. -/
theorem nodeAddr_known [Sha256] (r : Side) :
    PeerIdentity.nodeAddr SecretKey ⟨w.known r⟩ = w.addr r := by
  unfold PeerIdentity.nodeAddr addr NodeAddr.fromPubkey
  rw [w.sameX r]

/-- The parties of the handshake that `r` initiates. -/
def parties (r : Side) (initiatorEphemeral responderEphemeral : SecretKey) :
    Parties SecretKey PublicKey where
  initiatorStatic := w.secretKey r
  initiatorEphemeral := initiatorEphemeral
  responderStatic := w.secretKey r.other
  responderEphemeral := responderEphemeral
  knownStatic := w.known r.other
  sameX := w.sameX r.other
  initiatorEpoch := w.startupEpoch r
  responderEpoch := w.startupEpoch r.other

end Neighbours

/-- A handshake that a node has begun. -/
structure LinkOffer (SecretKey PublicKey : Type) where
  ephemeral : SecretKey
  noiseMsg1 : Bytes
  waiting : HandshakeState SecretKey PublicKey
  index : SessionIndex

/-- What the other end made of it, with the session the initiator gets. -/
structure LinkAnswer (PublicKey : Type) where
  noiseMsg2 : Bytes
  index : SessionIndex
  session : NoiseSession PublicKey
  keys : KeyPair

/-- The msg1 of an offer on the wire. -/
def LinkOffer.frame (o : LinkOffer SecretKey PublicKey) : Bytes := buildMsg1 o.index o.noiseMsg1

/-- The msg2 that answers an offer on the wire. -/
def LinkAnswer.frame (a : LinkAnswer PublicKey) (o : LinkOffer SecretKey PublicKey) : Bytes :=
  buildMsg2 a.index o.index a.noiseMsg2

/-- The keys and indices one end of a link has. -/
structure LinkTerms where
  keys : KeyPair
  ourIndex : SessionIndex
  theirIndex : SessionIndex
  deriving DecidableEq

namespace LinkTerms

/-- Those of the other end. -/
def flip (t : LinkTerms) : LinkTerms := ⟨t.keys.flip, t.theirIndex, t.ourIndex⟩

@[simp] theorem flip_flip (t : LinkTerms) : t.flip.flip = t := rfl

end LinkTerms

/-- The terms of the initiator. -/
def LinkAnswer.terms (a : LinkAnswer PublicKey) (o : LinkOffer SecretKey PublicKey) : LinkTerms :=
  ⟨a.keys, o.index, a.index⟩

section Messages

variable [Sha256] [HkdfSha256] [ChaCha20Poly1305] [Secp256k1 SecretKey PublicKey]
  {w : Neighbours SecretKey PublicKey} {r : Side} {o : LinkOffer SecretKey PublicKey}

/-- `r` has begun this handshake. -/
structure LinkOffer.By (w : Neighbours SecretKey PublicKey) (r : Side)
    (o : LinkOffer SecretKey PublicKey) : Prop where
  index_lt : o.index < 256 ^ 4
  written : call (HandshakeState.writeMessage1 o.ephemeral)
    ((HandshakeState.newInitiator (w.secretKey r) (w.known r.other)).setLocalEpoch
      (w.startupEpoch r)) = .ok (o.noiseMsg1, o.waiting)

/-- This answer completes it. -/
structure LinkAnswer.To (w : Neighbours SecretKey PublicKey) (r : Side)
    (o : LinkOffer SecretKey PublicKey) (a : LinkAnswer PublicKey) : Prop where
  index_lt : a.index < 256 ^ 4
  size : a.noiseMsg2.length = HANDSHAKE_MSG2_SIZE
  completes : ∃ told, call (HandshakeState.readMessage2 a.noiseMsg2) o.waiting = .ok ((), told) ∧
    told.remoteEpoch = some (w.startupEpoch r.other) ∧ told.intoSession = .ok a.session
  under : a.session.Under a.keys []

/-- The other end can complete it with any key of its own. -/
theorem LinkOffer.By.transcript (h : o.By w r) (hcurve : Secp256k1.Lawful SecretKey)
    (haead : ChaCha20Poly1305.Lawful) (ephemeral : SecretKey) :
    ∃ t : HandshakeState.IkTranscript (w.parties r o.ephemeral ephemeral),
      t.msg1 = o.noiseMsg1 ∧ t.initiated = o.waiting := by
  obtain ⟨t⟩ := HandshakeState.exists_ikTranscript hcurve haead (w.parties r o.ephemeral ephemeral)
  exact ⟨t, Prod.mk.inj (Except.ok.inj (t.write1.symm.trans h.written))⟩

/-- The answer of a transcript. -/
theorem HandshakeState.IkTranscript.to {ephemeral : SecretKey} {index : SessionIndex}
    (t : HandshakeState.IkTranscript (w.parties r o.ephemeral ephemeral)) (ht : t.initiated = o.waiting)
    (hindex : index < 256 ^ 4) :
    LinkAnswer.To w r o ⟨t.msg2, index, t.initiatorSession, t.keys⟩ where
  index_lt := hindex
  size := HandshakeState.length_of_readMessage2 t.read2
  completes := ⟨t.told, ht ▸ t.read2, t.responderEpoch, t.intoInitiator⟩
  under := t.initiatorUnder

end Messages

/-! ## Links -/

/-- A peer that was linked on these terms, with the msg2 it would be sent again. -/
structure ActivePeer.LinkedOn (terms : LinkTerms) (transportId : TransportId) (epoch : Epoch)
    (msg2 : Option Bytes) (p : ActivePeer SecretKey PublicKey ν) : Prop where
  session : ∃ s received, p.noiseSession = some s ∧ s.Under terms.keys received
  ourIndex : p.ourIndex = some terms.ourIndex
  theirIndex : p.theirIndex = some terms.theirIndex
  transportId : p.transportId = some transportId
  remoteEpoch : p.remoteEpoch = some epoch
  handshakeMsg2 : p.handshakeMsg2 = msg2

namespace LinkNode

-- what a method does is read off its rules, never by running it
attribute [local irreducible] wp

/-- `a` is an active peer on these terms, and frames to our index are its. -/
def HasLink (a : NodeAddr) (terms : LinkTerms) (transportId : TransportId) (epoch : Epoch)
    (msg2 : Option Bytes) (n : LinkNode SecretKey PublicKey ν μ) : Prop :=
  ∃ p, n.peers.lookup a = some p ∧ p.LinkedOn terms transportId epoch msg2 ∧
    n.peersByIndex.lookup (transportId, terms.ourIndex) = some a

/-- The node is this one of the two. -/
structure Is [Sha256] [Secp256k1 SecretKey PublicKey] (w : Neighbours SecretKey PublicKey) (r : Side)
    (n : LinkNode SecretKey PublicKey ν μ) : Prop where
  secretKey : n.identity.secretKey = w.secretKey r
  nodeAddr : n.identity.nodeAddr = w.addr r
  startupEpoch : n.startupEpoch = w.startupEpoch r

/-- The same node, and its own handshakes go on. -/
structure GoesOn (n n' : LinkNode SecretKey PublicKey ν μ) : Prop where
  identity : n'.identity = n.identity
  startupEpoch : n'.startupEpoch = n.startupEpoch
  nextLinkId : n.nextLinkId ≤ n'.nextLinkId
  pendingOutbound : n'.pendingOutbound = n.pendingOutbound
  connections : ∀ l < n.nextLinkId, n'.connections.lookup l = n.connections.lookup l

theorem Is.congr [Sha256] [Secp256k1 SecretKey PublicKey] {w : Neighbours SecretKey PublicKey} {r : Side}
    {n n' : LinkNode SecretKey PublicKey ν μ} (h : n.Is w r) (hidentity : n'.identity = n.identity)
    (hepoch : n'.startupEpoch = n.startupEpoch) : n'.Is w r :=
  ⟨hidentity ▸ h.secretKey, hidentity ▸ h.nodeAddr, hepoch.trans h.startupEpoch⟩

/-- A msg1 from here is not held up: by a limit, a handshake of this address that is still pending, a
transport that does not send or the lack of a free index. A msg1 that is held up is dropped, and the
exchange has to be begun again; the results below are about one that is not. -/
structure Admits (env : LinkEnv SecretKey) (packet : ReceivedPacket)
    (n : LinkNode SecretKey PublicKey ν μ) : Prop where
  allowed : env.msg1Allowed = true
  accepts : env.acceptsConnections packet.transportId = true
  settled : ∀ l link, n.addrToLink.lookup (packet.transportId, packet.remoteAddr) = some l →
    n.links.lookup l = some link → link.direction = .inbound → ∃ e ∈ n.peers.entries, e.2.linkId = l
  sends : ∀ data, env.send packet.transportId packet.remoteAddr data = .sent
  draws : (allocateFrom env.draws n.allocatedIndices).isSome

section Primitives

variable {n : LinkNode SecretKey PublicKey ν μ} {env : LinkEnv SecretKey}

theorem allocateFrom_lt {draws : List UInt32} {inUse : List SessionIndex} {index : SessionIndex}
    (h : allocateFrom draws inUse = some index) : index < 256 ^ 4 := by
  obtain ⟨draw, -, rfl⟩ := List.mem_map.mp (List.mem_of_find?_eq_some h)
  exact draw.toNat_lt

theorem wp_transmit_sent {transportId : TransportId} {remoteAddr : TransportAddr} {data : Bytes}
    (h : env.send transportId remoteAddr data = .sent)
    {Q : Bool → LinkNode SecretKey PublicKey ν μ → Prop}
    {E : Fail ε → LinkNode SecretKey PublicKey ν μ → Prop} :
    wp (transmit env transportId remoteAddr data) Q E n ↔
      Q true { n with outbox := n.outbox ++ [⟨transportId, remoteAddr, data⟩] } := by
  unfold transmit
  rw [h]
  dsimp only
  rw [wp_bind_iff, wp_write_iff, wp_pure_iff]

/-- Closing a link touches the tables of links only. -/
theorem wp_removeLink (l : LinkId) {Q : Unit → LinkNode SecretKey PublicKey ν μ → Prop}
    {E : Fail ε → LinkNode SecretKey PublicKey ν μ → Prop}
    (hQ : ∀ links addrToLink, Q () { n with links := links, addrToLink := addrToLink }) :
    wp (write (removeLink l)) Q E n := by
  obtain ⟨links, addrToLink, heq⟩ := removeLink_eq l n
  rw [wp_write_iff, heq]
  exact hQ links addrToLink

/-- What a node that is not held up makes of the address. -/
theorem wp_checkAddress_of_settled {packet : ReceivedPacket} (h : n.Admits env packet)
    {Q : Bool → LinkNode SecretKey PublicKey ν μ → Prop}
    {E : Fail Unit → LinkNode SecretKey PublicKey ν μ → Prop} (hQ : ∀ possibleRestart, Q possibleRestart n) :
    wp (checkAddress env packet) Q E n := by
  refine wp_checkAddress env packet (fun _ => hQ) ?_
  rintro ⟨l, link, hkey, hlink, hinbound, hidle⟩
  obtain ⟨e, he, hl⟩ := h.settled l link hkey hlink hinbound
  exact absurd hl (hidle e he)

end Primitives

section Handshake

variable [Sha256] [HkdfSha256] [ChaCha20Poly1305] [Secp256k1 SecretKey PublicKey]
  {n : LinkNode SecretKey PublicKey ν μ} {env : LinkEnv SecretKey}
  {w : Neighbours SecretKey PublicKey} {r : Side}

/-! ## The initiator begins -/

/-- The handshake is under way: its index leads to its connection, and no later link gets its id. -/
def Awaits (w : Neighbours SecretKey PublicKey) (r : Side) (o : LinkOffer SecretKey PublicKey)
    (n : LinkNode SecretKey PublicKey ν μ) : Prop :=
  ∃ l c, n.pendingOutbound.lookup (w.transportId r, o.index) = some l ∧ l < n.nextLinkId ∧
    n.connections.lookup l = some c ∧
    c.AwaitsMsg2 ⟨w.known r.other⟩ (w.transportId r) o.index o.waiting

omit [Sha256] [HkdfSha256] [ChaCha20Poly1305] in
theorem Awaits.goesOn {o : LinkOffer SecretKey PublicKey} {n' : LinkNode SecretKey PublicKey ν μ}
    (h : n.Awaits w r o) (hgoesOn : GoesOn n n') : n'.Awaits w r o := by
  obtain ⟨l, c, hkey, hlt, hc, hwaits⟩ := h
  exact ⟨l, c, hgoesOn.pendingOutbound ▸ hkey, hlt.trans_le hgoesOn.nextLinkId,
    (hgoesOn.connections l hlt).trans hc, hwaits⟩

/-- What beginning a handshake leaves. -/
structure Offers (w : Neighbours SecretKey PublicKey) (r : Side) (o : LinkOffer SecretKey PublicKey)
    (remoteAddr : TransportAddr) (n n' : LinkNode SecretKey PublicKey ν μ) : Prop where
  awaits : n'.Awaits w r o
  outbox : n'.outbox = n.outbox ++ [⟨w.transportId r, remoteAddr, o.frame⟩]
  peers : n'.peers = n.peers
  peersByIndex : n'.peersByIndex = n.peersByIndex
  identity : n'.identity = n.identity
  startupEpoch : n'.startupEpoch = n.startupEpoch

/-- A node that draws an index and whose transport sends has a handshake to offer. -/
theorem exists_offer (hcurve : Secp256k1.Lawful SecretKey) (haead : ChaCha20Poly1305.Lawful)
    (w : Neighbours SecretKey PublicKey) (r : Side) (env : LinkEnv SecretKey) {index : SessionIndex}
    (hindex : index < 256 ^ 4) :
    ∃ o : LinkOffer SecretKey PublicKey, o.By w r ∧ o.ephemeral = env.ephemeral ∧ o.index = index := by
  obtain ⟨t⟩ := HandshakeState.exists_ikTranscript hcurve haead
    (w.parties r env.ephemeral env.ephemeral)
  exact ⟨⟨env.ephemeral, t.msg1, t.initiated, index⟩, ⟨hindex, t.write1⟩, rfl, rfl⟩

/-- **Msg1** goes out, and the node waits for the answer. -/
theorem wp_startHandshake_offers {o : LinkOffer SecretKey PublicKey} (his : n.Is w r) (ho : o.By w r)
    (hephemeral : o.ephemeral = env.ephemeral)
    (hdraw : allocateFrom env.draws n.allocatedIndices = some o.index) {remoteAddr : TransportAddr}
    (hsends : ∀ data, env.send (w.transportId r) remoteAddr data = .sent) {l : LinkId}
    (hl : l < n.nextLinkId) :
    wp (startHandshake env l (w.transportId r) remoteAddr ⟨w.known r.other⟩)
      (fun _ n' => Offers w r o remoteAddr n n') (fun _ _ => False) n := by
  have hwrite : call (HandshakeState.writeMessage1 env.ephemeral)
      ((HandshakeState.newInitiator n.identity.secretKey
        (PeerIdentity.mk (w.known r.other)).pubkeyFull).setLocalEpoch n.startupEpoch) =
        .ok (o.noiseMsg1, o.waiting) := by
    rw [his.secretKey, his.startupEpoch, ← hephemeral]
    exact ho.written
  unfold startHandshake
  rw [wp_bind_iff, wp_attempt_iff, wp_allocate_iff]
  refine ⟨fun index hindex => ?_, fun hnone => by cases hdraw.symm.trans hnone⟩
  obtain rfl : o.index = index := Option.some.inj (hdraw.symm.trans hindex)
  dsimp only
  rw [wp_bind_iff, wp_read_iff, wp_bind_iff, wp_attempt_iff, wp_pureCall_iff]
  dsimp only [id_eq]
  rw [PeerConnection.startHandshake_of_write hwrite]
  refine ⟨fun started hstarted => ?_, fun e he => by cases he⟩
  cases hstarted
  dsimp only
  rw [wp_bind_iff, wp_write_iff, wp_bind_iff, wp_transmit_sent (hsends _), if_neg (by decide),
    wp_pure_iff]
  exact ⟨⟨l, _, AList.lookup_insert _, hl, AList.lookup_insert _, rfl, rfl, rfl, rfl, rfl, rfl⟩,
    rfl, rfl, rfl, rfl, rfl⟩

theorem wp_initiateConnection_offers {o : LinkOffer SecretKey PublicKey} (his : n.Is w r)
    (ho : o.By w r) (hephemeral : o.ephemeral = env.ephemeral)
    (hdraw : allocateFrom env.draws n.allocatedIndices = some o.index)
    (hless : env.connectionOriented (w.transportId r) = false) {remoteAddr : TransportAddr}
    (hsends : ∀ data, env.send (w.transportId r) remoteAddr data = .sent) :
    wp (initiateConnection env (w.transportId r) remoteAddr ⟨w.known r.other⟩)
      (fun _ n' => Offers w r o remoteAddr n n') (fun _ _ => False) n := by
  unfold initiateConnection allocateLinkId addLink
  simp only [wp_bind_iff, wp_read_iff, wp_write_iff, wp_pure_iff]
  rw [if_neg (by rw [hless]; exact Bool.false_ne_true)]
  have hadded : Is w r { n with
      nextLinkId := n.nextLinkId + 1
      links := n.links.insert n.nextLinkId ⟨n.nextLinkId, w.transportId r, remoteAddr, .outbound⟩
      addrToLink := n.addrToLink.insert (w.transportId r, remoteAddr) n.nextLinkId } :=
    ⟨his.secretKey, his.nodeAddr, his.startupEpoch⟩
  refine wp_mono (fun _ n' hn' => ?_) (fun _ _ hF => hF)
    (wp_startHandshake_offers hadded ho hephemeral hdraw hsends (Nat.lt_succ_self n.nextLinkId))
  exact ⟨hn'.awaits, hn'.outbox, hn'.peers, hn'.peersByIndex, hn'.identity, hn'.startupEpoch⟩

/-! ## The responder answers -/

section Responder

variable [Mmp ν] {packet : ReceivedPacket} {o : LinkOffer SecretKey PublicKey}

/-- What a responder leaves that has answered. -/
structure Answers (w : Neighbours SecretKey PublicKey) (r : Side) (o : LinkOffer SecretKey PublicKey)
    (a : LinkAnswer PublicKey) (packet : ReceivedPacket) (n n' : LinkNode SecretKey PublicKey ν μ) :
    Prop where
  goesOn : GoesOn n n'
  hasLink : n'.HasLink (w.addr r) (a.terms o).flip packet.transportId (w.startupEpoch r)
    (some (a.frame o))
  outbox : n'.outbox = n.outbox ++ [⟨packet.transportId, packet.remoteAddr, a.frame o⟩]

omit [Sha256] [HkdfSha256] [ChaCha20Poly1305] [Secp256k1 SecretKey PublicKey] [Mmp ν] in
/-- The link of a new inbound handshake, where the answer is sent. -/
theorem wp_openInbound_sent {senderIdx index : SessionIndex}
    {conn : PeerConnection SecretKey PublicKey} {msg2 : Bytes}
    (hdraw : allocateFrom env.draws n.allocatedIndices = some index)
    (hsends : ∀ data, env.send packet.transportId packet.remoteAddr data = .sent)
    {Q : SessionIndex × Bytes → LinkNode SecretKey PublicKey ν μ → Prop}
    {E : Fail Unit → LinkNode SecretKey PublicKey ν μ → Prop}
    (hQ : Q (index, buildMsg2 index senderIdx msg2) { n with
      allocatedIndices := index :: n.allocatedIndices
      links := n.links.insert conn.linkId
        ⟨conn.linkId, packet.transportId, packet.remoteAddr, .inbound⟩
      addrToLink := n.addrToLink.insert (packet.transportId, packet.remoteAddr) conn.linkId
      connections := n.connections.insert conn.linkId
        ({ conn with ourIndex := some index, theirIndex := some senderIdx }.setHandshakeMsg2
          (buildMsg2 index senderIdx msg2))
      outbox := n.outbox ++
        [⟨packet.transportId, packet.remoteAddr, buildMsg2 index senderIdx msg2⟩] }) :
    wp (openInbound env packet senderIdx conn msg2) Q E n := by
  unfold openInbound addLink
  rw [wp_bind_iff, wp_attempt_iff, wp_allocate_iff]
  refine ⟨fun index' hindex => ?_, fun hnone => by cases hdraw.symm.trans hnone⟩
  obtain rfl : index = index' := Option.some.inj (hdraw.symm.trans hindex)
  dsimp only
  rw [wp_bind_iff, wp_write_iff, wp_bind_iff, wp_write_iff, wp_bind_iff,
    wp_transmit_sent (hsends _), if_neg (by decide), wp_pure_iff]
  exact hQ

omit [Sha256] [HkdfSha256] [ChaCha20Poly1305] [Secp256k1 SecretKey PublicKey] [Mmp ν] in
/-- What a complete connection brings. -/
theorem extractPromotion_of_session {l : LinkId} {c : PeerConnection SecretKey PublicKey}
    {session : NoiseSession PublicKey} {ourIndex theirIndex : SessionIndex}
    {transportId : TransportId} {sourceAddr : TransportAddr} (hstate : c.handshakeState = .complete)
    (hsession : c.noiseSession = some session) (hour : c.ourIndex = some ourIndex)
    (htheir : c.theirIndex = some theirIndex) (htid : c.transportId = some transportId)
    (haddr : c.sourceAddr = some sourceAddr) :
    extractPromotion l c = .ok ⟨session, ourIndex, theirIndex, transportId, sourceAddr, c.linkStats,
      c.remoteEpoch, c.isOutbound⟩ := by
  unfold extractPromotion PeerConnection.hasSession PeerConnection.takeSession
  simp only [hstate, hsession, hour, htheir, htid, haddr]
  rfl

omit [HkdfSha256] [ChaCha20Poly1305] in
/-- A complete connection of a node that is no peer yet becomes one, where there is room. -/
theorem wp_promoteConnection_new {l : LinkId} {c : PeerConnection SecretKey PublicKey}
    {p : Promotion PublicKey} {identity : PeerIdentity PublicKey}
    (hc : n.connections.lookup l = some c) (hp : extractPromotion l c = .ok p)
    (hnone : n.peers.lookup (identity.nodeAddr SecretKey) = none) (hroom : ¬n.Full)
    (currentTimeMs now : Nat) {Q : PromotionResult → LinkNode SecretKey PublicKey ν μ → Prop}
    {E : Fail LinkError → LinkNode SecretKey PublicKey ν μ → Prop}
    (hQ : ∀ peerKeys effects, Q (.promoted (identity.nodeAddr SecretKey)) { n with
      connections := n.connections.erase l
      peers := n.peers.insert (identity.nodeAddr SecretKey)
        (ActivePeer.withSession (identity.nodeAddr SecretKey) l currentTimeMs p.noiseSession
          p.ourIndex p.theirIndex p.transportId p.currentAddr p.linkStats p.isOutbound p.remoteEpoch
          now)
      peersByIndex := n.peersByIndex.insert (p.transportId, p.ourIndex)
        (identity.nodeAddr SecretKey)
      peerKeys := peerKeys
      effects := effects }) :
    wp (promoteConnection l identity currentTimeMs now) Q E n := by
  have hfits : ¬(decide (0 < n.maxPeers) && decide (n.maxPeers ≤ n.peers.entries.length)) = true := by
    rw [Bool.and_eq_true, decide_eq_true_eq, decide_eq_true_eq]
    exact hroom
  unfold promoteConnection dropConnection insertPeer emit
  rw [wp_bind_iff, wp_read_iff, hc, wp_bind_iff, wp_orElse_some, wp_bind_iff, wp_write_iff, hp,
    wp_bind_iff, wp_pureCall_iff]
  refine ⟨fun p' hp' => ?_, fun e he => by cases he⟩
  cases hp'
  rw [wp_bind_iff, wp_read_iff, hnone]
  dsimp only
  rw [wp_bind_iff, wp_read_iff, wp_bind_iff, wp_read_iff, if_neg hfits, wp_bind_iff, wp_bind_iff,
    wp_write_iff, wp_write_iff, wp_pure_iff]
  exact hQ _ _

theorem wp_acceptConnection_answers {index : SessionIndex}
    (hdraw : allocateFrom env.draws n.allocatedIndices = some index)
    (hsends : ∀ data, env.send packet.transportId packet.remoteAddr data = .sent)
    (hnone : n.peers.lookup (w.addr r) = none) (hroom : ¬n.Full) {ephemeral : SecretKey}
    (t : HandshakeState.IkTranscript (w.parties r o.ephemeral ephemeral)) :
    wp (acceptConnection env packet o.index (PeerConnection.answered n.nextLinkId packet.transportId
        packet.remoteAddr packet.timestampMs t) t.msg2 ⟨Secp256k1.publicKey (w.secretKey r)⟩)
      (fun _ => Answers w r o ⟨t.msg2, index, t.initiatorSession, t.keys⟩ packet n)
      (fun _ => Answers w r o ⟨t.msg2, index, t.initiatorSession, t.keys⟩ packet n)
      { n with nextLinkId := n.nextLinkId + 1 } := by
  have hp : extractPromotion n.nextLinkId (PeerConnection.setHandshakeMsg2
      { PeerConnection.answered n.nextLinkId packet.transportId packet.remoteAddr packet.timestampMs t with
        ourIndex := some index
        theirIndex := some o.index } (buildMsg2 index o.index t.msg2)) =
      .ok ⟨t.responderSession, index, o.index, packet.transportId, packet.remoteAddr, LinkStats.new,
        some (w.startupEpoch r), false⟩ := extractPromotion_of_session rfl rfl rfl rfl rfl rfl
  unfold acceptConnection
  rw [wp_bind_iff]
  refine wp_openInbound_sent (n := { n with nextLinkId := n.nextLinkId + 1 }) hdraw hsends ?_
  dsimp only
  rw [wp_bind_iff, wp_attempt_iff]
  refine wp_promoteConnection_new ?_ hp ?_ ?_ _ _ fun peerKeys effects => ?_
  · exact AList.lookup_insert _
  · exact hnone
  · exact hroom
  dsimp only
  unfold modifyPeer
  rw [wp_write_iff]
  refine ⟨⟨rfl, rfl, Nat.le_succ _, rfl, fun l hl => ?_⟩, ?_, rfl⟩
  · have hne : l ≠ n.nextLinkId := Nat.ne_of_lt hl
    exact (AList.lookup_erase_ne hne).trans (AList.lookup_insert_ne hne)
  · refine ⟨_, Map.lookup_modify_self (AList.lookup_insert _) _, ?_, AList.lookup_insert _⟩
    exact ⟨⟨_, [], rfl, t.responderUnder⟩, rfl, rfl, rfl, rfl, rfl⟩

/-- A msg1 that is not held up reaches `receiveMsg1` with its answer. -/
theorem handleMsg1_of_receives (his : n.Is w r.other) (ho : o.By w r) (hdata : packet.data = o.frame)
    (hadmits : n.Admits env packet)
    (t : HandshakeState.IkTranscript (w.parties r o.ephemeral env.ephemeral))
    (hmsg1 : t.msg1 = o.noiseMsg1) {P : LinkNode SecretKey PublicKey ν μ → Prop}
    (hP : ∀ possibleRestart, wp (receiveMsg1 env packet o.index (PeerConnection.answered n.nextLinkId
        packet.transportId packet.remoteAddr packet.timestampMs t) t.msg2
        ⟨Secp256k1.publicKey (w.secretKey r)⟩ possibleRestart) (fun _ => P) (fun _ => P)
      { n with nextLinkId := n.nextLinkId + 1 }) :
    P (handleMsg1 env packet n).1 := by
  have hsize : o.noiseMsg1.length = HANDSHAKE_MSG1_SIZE :=
    hmsg1 ▸ HandshakeState.length_of_readMessage1 t.read1
  obtain ⟨hparse, hslice⟩ := Msg1Header.parse_buildMsg1 ho.index_lt hsize
  have hcall : call (PeerConnection.receiveHandshakeInit n.identity.secretKey n.startupEpoch
      env.ephemeral o.noiseMsg1 packet.timestampMs) (PeerConnection.inboundWithTransport n.nextLinkId
        packet.transportId packet.remoteAddr packet.timestampMs) =
      .ok (t.msg2, PeerConnection.answered n.nextLinkId packet.transportId packet.remoteAddr
        packet.timestampMs t) := by
    rw [his.secretKey, his.startupEpoch, ← hmsg1]
    exact PeerConnection.receiveHandshakeInit_of_transcript t _ _ _ _
  have hidentity : (PeerConnection.answered n.nextLinkId packet.transportId packet.remoteAddr
      packet.timestampMs t).expectedIdentity = some ⟨Secp256k1.publicKey (w.secretKey r)⟩ := rfl
  refine fst_of_wp (P := P) ?_
  unfold handleMsg1
  refine wp_body_of_wp ?_
  rw [if_neg (by rw [hadmits.allowed]; decide), if_neg (by rw [hadmits.accepts]; decide), hdata]
  unfold LinkOffer.frame
  rw [hparse, wp_bind_iff, wp_orReturn_ok, wp_bind_iff]
  refine wp_checkAddress_of_settled hadmits fun possibleRestart => ?_
  unfold allocateLinkId
  simp only [wp_bind_iff, wp_read_iff, wp_write_iff, wp_pure_iff]
  rw [hslice, wp_orReturn_ok]
  dsimp only [id_eq]
  rw [hcall, wp_bind_iff, wp_orReturn_ok]
  dsimp only
  rw [hidentity, wp_bind_iff, wp_orElse_some]
  exact hP possibleRestart

/-- **Msg2** goes out, and the link is active on the terms of the answer. -/
theorem handleMsg1_answers (hcurve : Secp256k1.Lawful SecretKey) (haead : ChaCha20Poly1305.Lawful)
    (his : n.Is w r.other) (ho : o.By w r) (hdata : packet.data = o.frame)
    (hadmits : n.Admits env packet) (hnone : n.peers.lookup (w.addr r) = none) (hroom : ¬n.Full) :
    ∃ a : LinkAnswer PublicKey, a.To w r o ∧ Answers w r o a packet n (handleMsg1 env packet n).1 := by
  obtain ⟨t, hmsg1, hwaiting⟩ := ho.transcript hcurve haead env.ephemeral
  obtain ⟨index, hdraw⟩ := Option.isSome_iff_exists.mp hadmits.draws
  refine ⟨⟨t.msg2, index, t.initiatorSession, t.keys⟩, t.to hwaiting (allocateFrom_lt hdraw), ?_⟩
  have haddr : (PeerIdentity.mk (Secp256k1.publicKey (w.secretKey r))).nodeAddr SecretKey = w.addr r :=
    rfl
  refine handleMsg1_of_receives his ho hdata hadmits t hmsg1 (P := Answers w r o _ packet n)
    fun possibleRestart => ?_
  unfold receiveMsg1
  rw [haddr, wp_bind_iff, wp_read_iff, hnone]
  dsimp only
  rw [ite_self]
  exact wp_acceptConnection_answers hdraw hadmits.sends hnone hroom t

/-- **A repeated msg1** of a peer is answered with the stored msg2, if there is one, and changes
nothing else. -/
theorem handleMsg1_repeats (hcurve : Secp256k1.Lawful SecretKey) (haead : ChaCha20Poly1305.Lawful)
    (his : n.Is w r.other) (ho : o.By w r) (hdata : packet.data = o.frame)
    (hadmits : n.Admits env packet) {p : ActivePeer SecretKey PublicKey ν}
    (hp : n.peers.lookup (w.addr r) = some p) (hepoch : p.remoteEpoch = some (w.startupEpoch r))
    (hyoung : isRekey n.config env.instant p = false) :
    (handleMsg1 env packet n).1 = { n with
      nextLinkId := n.nextLinkId + 1
      outbox := n.outbox ++
        p.handshakeMsg2.toList.map fun msg2 => ⟨packet.transportId, packet.remoteAddr, msg2⟩ } := by
  obtain ⟨t, hmsg1, -⟩ := ho.transcript hcurve haead env.ephemeral
  have haddr : (PeerIdentity.mk (Secp256k1.publicKey (w.secretKey r))).nodeAddr SecretKey = w.addr r :=
    rfl
  have hremote : (PeerConnection.answered n.nextLinkId packet.transportId packet.remoteAddr
      packet.timestampMs t).remoteEpoch = some (w.startupEpoch r) := rfl
  have hsame : ¬epochMismatch (some (w.startupEpoch r)) (some (w.startupEpoch r)) = true := by
    unfold epochMismatch
    simp
  refine handleMsg1_of_receives his ho hdata hadmits t hmsg1 (P := fun n' => n' = _)
    fun possibleRestart => ?_
  unfold receiveMsg1 resendMsg2
  rw [haddr, wp_bind_iff, wp_read_iff, hp, Option.isSome_some, Bool.or_true]
  dsimp only
  rw [if_pos rfl]
  dsimp only
  rw [wp_bind_iff, wp_read_iff, hepoch, hremote, if_neg hsame, if_neg (by rw [hyoung]; exact Bool.false_ne_true)]
  cases p.handshakeMsg2 with
  | none =>
    rw [wp_pure_iff, Option.toList_none, List.map_nil, List.append_nil]
  | some msg2 =>
    dsimp only
    rw [wp_bind_iff, wp_transmit_sent (hadmits.sends _), wp_pure_iff]
    rfl

end Responder

/-! ## The initiator hears the answer -/

section Initiator

variable [Mmp ν] {packet : ReceivedPacket} {o : LinkOffer SecretKey PublicKey}
  {a : LinkAnswer PublicKey}

variable (env)

/-- What hearing an answer leaves, but for the link. -/
structure Hears (w : Neighbours SecretKey PublicKey) (r : Side) (o : LinkOffer SecretKey PublicKey)
    (n n' : LinkNode SecretKey PublicKey ν μ) : Prop where
  identity : n'.identity = n.identity
  startupEpoch : n'.startupEpoch = n.startupEpoch
  outbox : n'.outbox = n.outbox
  closed : n'.pendingOutbound.lookup (w.transportId r, o.index) = none

/-- The handshake of the connection is complete, with what a promotion takes from it. -/
structure Heard (w : Neighbours SecretKey PublicKey) (r : Side) (o : LinkOffer SecretKey PublicKey)
    (a : LinkAnswer PublicKey) (c : PeerConnection SecretKey PublicKey) : Prop where
  handshakeState : c.handshakeState = .complete
  noiseSession : c.noiseSession = some a.session
  ourIndex : c.ourIndex = some o.index
  theirIndex : c.theirIndex = some a.index
  transportId : c.transportId = some (w.transportId r)
  sourceAddr : c.sourceAddr.isSome
  remoteEpoch : c.remoteEpoch = some (w.startupEpoch r.other)

/-- An answer to a handshake that is over changes nothing. -/
theorem handleMsg2_ignores (ho : o.By w r) (ha : a.To w r o) (hdata : packet.data = a.frame o)
    (htid : packet.transportId = w.transportId r)
    (hnone : n.pendingOutbound.lookup (w.transportId r, o.index) = none) :
    (handleMsg2 env packet n).1 = n := by
  obtain ⟨hparse, -⟩ := Msg2Header.parse_buildMsg2 ha.index_lt ho.index_lt ha.size
  refine fst_of_wp (P := fun n' => n' = n) ?_
  unfold handleMsg2
  refine wp_body_of_wp ?_
  rw [hdata]
  unfold LinkAnswer.frame
  rw [hparse, wp_bind_iff, wp_orReturn_ok]
  dsimp only
  rw [wp_bind_iff, wp_read_iff, htid, hnone, wp_bind_iff, wp_orElse_none]

/-- The answer completes the handshake that waits for it. -/
theorem handleMsg2_of_heard (ho : o.By w r) (ha : a.To w r o) (hdata : packet.data = a.frame o)
    (htid : packet.transportId = w.transportId r) (hawaits : n.Awaits w r o)
    {P : LinkNode SecretKey PublicKey ν μ → Prop}
    (hP : ∀ l c connections, connections.lookup l = some c → Heard w r o a c →
      wp (if (n.peers.lookup (w.addr r.other)).isSome then
          resolveCrossConnection (w.transportId r, o.index) a.index l (w.addr r.other)
        else promoteOutbound env packet (w.transportId r, o.index) l ⟨w.known r.other⟩)
        (fun _ => P) (fun _ => P) { n with connections := connections }) :
    P (handleMsg2 env packet n).1 := by
  obtain ⟨hparse, hslice⟩ := Msg2Header.parse_buildMsg2 ha.index_lt ho.index_lt ha.size
  obtain ⟨l, c, hkey, -, hc, hwaits⟩ := hawaits
  obtain ⟨told, hread, hepoch, hinto⟩ := ha.completes
  have hruns := PeerConnection.completeHandshake_of_read hwaits.handshakeState hwaits.noiseHandshake
    hread hinto packet.timestampMs
  refine fst_of_wp (P := P) ?_
  unfold handleMsg2
  refine wp_body_of_wp ?_
  rw [hdata]
  unfold LinkAnswer.frame
  rw [hparse, wp_bind_iff, wp_orReturn_ok]
  dsimp only
  rw [wp_bind_iff, wp_read_iff, htid, hkey, wp_bind_iff, wp_orElse_some, wp_bind_iff, hslice,
    wp_orReturn_ok, wp_bind_iff, wp_read_iff, hc, Option.isNone_some,
    if_neg Bool.false_ne_true, wp_bind_iff, wp_attempt_iff, wp_onConnection_iff hc, wp_of_runs hruns]
  unfold modifyConnection
  dsimp only
  rw [wp_bind_iff, wp_write_iff, wp_bind_iff, wp_expect_iff]
  dsimp only
  rw [Map.lookup_modify_self (AList.lookup_insert _)]
  refine ⟨fun conn hconn => ?_, fun hnone => by cases hnone⟩
  obtain rfl := Option.some.inj hconn
  dsimp only
  rw [hwaits.expectedIdentity, wp_bind_iff, wp_orElse_some, wp_bind_iff, wp_read_iff,
    w.nodeAddr_known]
  refine hP l _ _ (Map.lookup_modify_self (AList.lookup_insert _) _) ?_
  exact ⟨rfl, rfl, hwaits.ourIndex, rfl, hwaits.transportId, rfl, hepoch⟩

omit [Sha256] [HkdfSha256] [ChaCha20Poly1305] [Mmp ν] in
theorem takeSession_of_heard {c : PeerConnection SecretKey PublicKey} (hc : Heard w r o a c) :
    c.takeSession.2 = some a.session := by
  unfold PeerConnection.takeSession
  rw [hc.handshakeState, if_pos (by decide)]
  exact hc.noiseSession

/-- **An answer** of a node that is no peer yet: the link is active on its terms. -/
theorem handleMsg2_promotes (ho : o.By w r) (ha : a.To w r o) (hdata : packet.data = a.frame o)
    (htid : packet.transportId = w.transportId r) (hawaits : n.Awaits w r o)
    (hnone : n.peers.lookup (w.addr r.other) = none) (hroom : ¬n.Full) :
    Hears w r o n (handleMsg2 env packet n).1 ∧
      (handleMsg2 env packet n).1.HasLink (w.addr r.other) (a.terms o) (w.transportId r)
        (w.startupEpoch r.other) none := by
  refine handleMsg2_of_heard env ho ha hdata htid hawaits (P := fun n' => Hears w r o n n' ∧
    n'.HasLink (w.addr r.other) (a.terms o) (w.transportId r) (w.startupEpoch r.other) none)
    fun l c connections hc hheard => ?_
  obtain ⟨sourceAddr, haddr⟩ := Option.isSome_iff_exists.mp hheard.sourceAddr
  have hp := extractPromotion_of_session (l := l) hheard.handshakeState hheard.noiseSession
    hheard.ourIndex hheard.theirIndex hheard.transportId haddr
  rw [hnone, Option.isSome_none, if_neg Bool.false_ne_true]
  unfold promoteOutbound forgetOutbound
  rw [wp_bind_iff, wp_attempt_iff]
  refine wp_promoteConnection_new ?_ hp ?_ ?_ _ _ fun peerKeys effects => ?_
  · exact hc
  · rw [w.nodeAddr_known]
    exact hnone
  · exact hroom
  dsimp only
  rw [wp_bind_iff, wp_write_iff, wp_pure_iff, w.nodeAddr_known]
  exact ⟨⟨rfl, rfl, rfl, AList.lookup_erase _ _⟩, _, AList.lookup_insert _,
    ⟨⟨_, [], rfl, ha.under⟩, rfl, rfl, rfl, hheard.remoteEpoch, rfl⟩, AList.lookup_insert _⟩

/-- **At the smaller address** the peer goes on with the session of its own handshake. -/
theorem handleMsg2_swaps (his : n.Is w r) (ho : o.By w r) (ha : a.To w r o)
    (hdata : packet.data = a.frame o) (htid : packet.transportId = w.transportId r)
    (hawaits : n.Awaits w r o) (hlt : w.addr r < w.addr r.other) {terms : LinkTerms} {epoch : Epoch}
    {msg2 : Option Bytes}
    (hlink : n.HasLink (w.addr r.other) terms (w.transportId r) epoch msg2) :
    Hears w r o n (handleMsg2 env packet n).1 ∧
      (handleMsg2 env packet n).1.HasLink (w.addr r.other) (a.terms o) (w.transportId r) epoch
        msg2 := by
  obtain ⟨p, hp, hlinked, -⟩ := hlink
  refine handleMsg2_of_heard env ho ha hdata htid hawaits (P := fun n' => Hears w r o n n' ∧
    n'.HasLink (w.addr r.other) (a.terms o) (w.transportId r) epoch msg2)
    fun l c connections hc hheard => ?_
  have hwins : crossConnectionWinner n.nodeAddr (w.addr r.other) true = true := by
    unfold crossConnectionWinner Node.nodeAddr
    rw [his.nodeAddr, if_pos hlt]
  have hold : ∀ i j, (p.replaceSession a.session i j).2 = some terms.ourIndex :=
    fun _ _ => hlinked.ourIndex
  rw [hp, Option.isSome_some, if_pos rfl]
  unfold resolveCrossConnection dropConnection swapSession forgetOutbound
  rw [wp_bind_iff, wp_read_iff, wp_bind_iff, wp_read_iff, hc]
  dsimp only
  rw [wp_bind_iff, wp_write_iff, if_pos hwins, takeSession_of_heard hheard, hheard.ourIndex]
  dsimp only
  rw [wp_bind_iff, wp_bind_iff, wp_read_iff, hp]
  dsimp only
  rw [wp_bind_iff, wp_write_iff, wp_bind_iff, wp_expect_iff]
  refine ⟨fun tid htid' => ?_, fun hnone => by cases hlinked.transportId.symm.trans hnone⟩
  obtain rfl : w.transportId r = tid := Option.some.inj (hlinked.transportId.symm.trans htid')
  rw [hold]
  dsimp only
  rw [wp_bind_iff, wp_write_iff, wp_write_iff, wp_bind_iff, wp_write_iff]
  refine wp_removeLink l fun links addrToLink => ?_
  exact ⟨⟨rfl, rfl, rfl, AList.lookup_erase _ _⟩, _, AList.lookup_insert _,
    ⟨⟨_, [], rfl, ha.under⟩, rfl, rfl, hlinked.transportId, hlinked.remoteEpoch,
      hlinked.handshakeMsg2⟩, AList.lookup_insert _⟩

/-- **At the larger address** its own handshake is dropped. -/
theorem handleMsg2_yields (his : n.Is w r) (ho : o.By w r) (ha : a.To w r o)
    (hdata : packet.data = a.frame o) (htid : packet.transportId = w.transportId r)
    (hawaits : n.Awaits w r o) (hlt : w.addr r.other < w.addr r)
    (hpeer : (n.peers.lookup (w.addr r.other)).isSome) :
    Hears w r o n (handleMsg2 env packet n).1 ∧ (handleMsg2 env packet n).1.peers = n.peers ∧
      (handleMsg2 env packet n).1.peersByIndex = n.peersByIndex := by
  refine handleMsg2_of_heard env ho ha hdata htid hawaits (P := fun n' => Hears w r o n n' ∧
    n'.peers = n.peers ∧ n'.peersByIndex = n.peersByIndex) fun l c connections hc hheard => ?_
  have hloses : ¬crossConnectionWinner n.nodeAddr (w.addr r.other) true = true := by
    unfold crossConnectionWinner Node.nodeAddr
    rw [his.nodeAddr, if_neg (not_lt_of_gt hlt)]
    decide
  rw [if_pos hpeer]
  unfold resolveCrossConnection dropConnection forgetOutbound free
  rw [wp_bind_iff, wp_read_iff, wp_bind_iff, wp_read_iff, hc]
  dsimp only
  rw [wp_bind_iff, wp_write_iff, if_neg hloses, hheard.ourIndex]
  dsimp only
  rw [wp_bind_iff, wp_write_iff, wp_bind_iff, wp_write_iff]
  refine wp_removeLink l fun links addrToLink => ?_
  exact ⟨⟨rfl, rfl, rfl, AList.lookup_erase _ _⟩, rfl, rfl⟩

end Initiator

end Handshake

end LinkNode

end Fips
