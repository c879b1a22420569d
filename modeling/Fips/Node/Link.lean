import Fips.Node.Encrypted
import Fips.Peer.Connection

/-!
# Links and pending connections

The rest of `Node` that the link handshake reads and writes: pending connections, links and the
reverse lookup of their addresses, beside the data plane (`Fips.Node.State`). With it the index
allocator (`utils/index.rs`), `remove_link`, the two ends of a pending connection that are not a
handshake message (`start_handshake` with its callers, `cleanup_stale_connection`), and the encrypted
frames of the data plane as the whole node takes them.

`LinkNode.outbox` is what the transports were given, oldest first. `LinkNode.peerKeys` is
`identity.pubkey_full()` of the peers, which `ActivePeer` leaves out; entries of removed peers stay
and are not read. A link's state, its round-trip hint and its counters are left out, as are closing
the connection of a link that lost (nothing for a connectionless transport) and what a promotion
starts in the tree, filter and discovery components.
-/

open Checked

namespace Fips

/-- `transport::Link`. -/
structure Link where
  linkId : LinkId
  transportId : TransportId
  remoteAddr : TransportAddr
  direction : LinkDirection
  deriving DecidableEq, Repr

/-- `node::PendingConnect`: a transport connect under way. -/
structure PendingConnect (PublicKey : Type) where
  linkId : LinkId
  transportId : TransportId
  remoteAddr : TransportAddr
  peerIdentity : PeerIdentity PublicKey

/-- A datagram given to a transport. -/
structure Outgoing where
  transportId : TransportId
  remoteAddr : TransportAddr
  data : Bytes
  deriving DecidableEq, Repr

/-- A node with its links and the handshakes under way on them. -/
structure LinkNode (SecretKey PublicKey ν μ : Type) extends Node SecretKey PublicKey ν μ where
  maxPeers : Nat
  connections : Map LinkId (PeerConnection SecretKey PublicKey)
  links : Map LinkId Link
  addrToLink : Map (TransportId × TransportAddr) LinkId
  nextLinkId : LinkId
  pendingConnects : List (PendingConnect PublicKey)
  peerKeys : Map NodeAddr PublicKey
  outbox : List Outgoing

/-- What a transport makes of a datagram or a connect. `transports.get` may also find none. -/
inductive SendOutcome
  | sent
  | failed
  | noTransport
  deriving DecidableEq, Repr

/-- What one link event reads from outside. `draws` is the random generator behind the index
allocator, `msg1Allowed` the rate limiter of msg1. -/
structure LinkEnv (SecretKey : Type) where
  nowMs : Nat
  instant : Nat
  ephemeral : SecretKey
  draws : List UInt32
  msg1Allowed : Bool
  acceptsConnections : TransportId → Bool
  connectionOriented : TransportId → Bool
  connect : TransportId → TransportAddr → SendOutcome
  send : TransportId → TransportAddr → Bytes → SendOutcome

/-- `IndexError`, as far as `allocate` returns it. -/
inductive IndexError
  | exhausted
  deriving DecidableEq, Repr

/-- The variants of `NodeError` the link handshake returns. -/
inductive LinkError
  | indexAllocationFailed (e : IndexError)
  | handshakeFailed (e : NoiseError)
  | transportError
  | connectionNotFound (linkId : LinkId)
  | handshakeIncomplete (linkId : LinkId)
  | noSession (linkId : LinkId)
  | promotionFailed (linkId : LinkId) (reason : String)
  | maxPeersExceeded (max : Nat)

/-- `IndexAllocator::max_attempts`. -/
def MAX_ATTEMPTS : Nat := 100

/-- `IndexAllocator::allocate`: the first draw that is not in use. -/
def allocateFrom (draws : List UInt32) (inUse : List SessionIndex) : Option SessionIndex :=
  ((draws.take MAX_ATTEMPTS).map UInt32.toNat).find? fun index => !inUse.contains index

theorem not_mem_of_allocateFrom {draws : List UInt32} {inUse : List SessionIndex}
    {index : SessionIndex} (h : allocateFrom draws inUse = some index) : index ∉ inUse := by
  have hfree := List.find?_some h
  simpa using hfree

/-- `cross_connection_winner`. -/
def crossConnectionWinner (ourNodeAddr theirNodeAddr : NodeAddr) (thisIsOutbound : Bool) : Bool :=
  if ourNodeAddr < theirNodeAddr then thisIsOutbound else !thisIsOutbound

namespace LinkNode

variable {SecretKey PublicKey ν μ : Type}

/-- A method of a node with its links. -/
abbrev M (SecretKey PublicKey ν μ ε α : Type) := Method (LinkNode SecretKey PublicKey ν μ) ε α

/-- A handler of a node with its links. -/
abbrev Handler (SecretKey PublicKey ν μ α : Type) := M SecretKey PublicKey ν μ Unit α

variable {ε : Type}

/-- Adds an effect on the outside to those the node had. -/
def emit (e : Effect PublicKey) : M SecretKey PublicKey ν μ ε Unit :=
  write fun n => { n with effects := n.effects ++ [e] }

/-- `peers.get_mut(addr)`. -/
def modifyPeer (addr : NodeAddr)
    (f : ActivePeer SecretKey PublicKey ν → ActivePeer SecretKey PublicKey ν) :
    M SecretKey PublicKey ν μ ε Unit :=
  write fun n => { n with peers := n.peers.modify addr f }

/-- `connections.get_mut(linkId)`. -/
def modifyConnection (linkId : LinkId)
    (f : PeerConnection SecretKey PublicKey → PeerConnection SecretKey PublicKey) :
    M SecretKey PublicKey ν μ ε Unit :=
  write fun n => { n with connections := n.connections.modify linkId f }

/-- `self.connections.remove`, the connection unread. -/
def dropConnection (linkId : LinkId) : M SecretKey PublicKey ν μ ε Unit :=
  write fun n => { n with connections := n.connections.erase linkId }

/-- `self.pending_outbound.remove`. -/
def forgetOutbound (key : TransportId × SessionIndex) : M SecretKey PublicKey ν μ ε Unit :=
  write fun n => { n with pendingOutbound := n.pendingOutbound.erase key }

/-- `IndexAllocator::allocate`, with the indices that the random source drew. -/
def allocate (env : LinkEnv SecretKey) : M SecretKey PublicKey ν μ IndexError SessionIndex := do
  let index ← orElse .exhausted (allocateFrom env.draws (← read (·.allocatedIndices)))
  write fun n => { n with allocatedIndices := index :: n.allocatedIndices }
  pure index

/-- `IndexAllocator::free`; every caller drops its result. -/
def free (index : SessionIndex) : M SecretKey PublicKey ν μ ε Unit :=
  write fun n => { n with allocatedIndices := n.allocatedIndices.erase index }

/-- `transport.send`: `false` is an error of the transport. -/
def transmit (env : LinkEnv SecretKey) (transportId : TransportId) (remoteAddr : TransportAddr)
    (data : Bytes) : M SecretKey PublicKey ν μ ε Bool :=
  match env.send transportId remoteAddr data with
  | .sent => do
    write fun n => { n with outbox := n.outbox ++ [⟨transportId, remoteAddr, data⟩] }
    pure true
  | .failed => pure false
  | .noTransport => pure true

/-- `allocate_link_id`. -/
def allocateLinkId : M SecretKey PublicKey ν μ ε LinkId := do
  let linkId ← read (·.nextLinkId)
  write fun n => { n with nextLinkId := linkId + 1 }
  pure linkId

/-- `links.insert` with its entry in the reverse lookup. -/
def addLink (link : Link) : M SecretKey PublicKey ν μ ε Unit :=
  write fun n => { n with
    links := n.links.insert link.linkId link
    addrToLink := n.addrToLink.insert (link.transportId, link.remoteAddr) link.linkId }

/-- `links.remove` and `addr_to_link.remove`, whatever the entry points to. -/
def forgetLink (linkId : LinkId) (transportId : TransportId) (remoteAddr : TransportAddr) :
    M SecretKey PublicKey ν μ ε Unit :=
  write fun n => { n with
    links := n.links.erase linkId
    addrToLink := n.addrToLink.erase (transportId, remoteAddr) }

/-- `remove_link`: the reverse lookup is kept if it points to another link by now. -/
def removeLink (linkId : LinkId) (n : LinkNode SecretKey PublicKey ν μ) :
    LinkNode SecretKey PublicKey ν μ :=
  match n.links.lookup linkId with
  | none => n
  | some link =>
    let key := (link.transportId, link.remoteAddr)
    let addrToLink :=
      if n.addrToLink.lookup key = some linkId then n.addrToLink.erase key else n.addrToLink
    { n with links := n.links.erase linkId, addrToLink := addrToLink }

/-! ## The data plane -/

/-- Remove the links the data plane asks to. -/
def closeLinks (effects : List (Effect PublicKey)) (n : LinkNode SecretKey PublicKey ν μ) :
    LinkNode SecretKey PublicKey ν μ :=
  effects.foldl (fun n effect =>
    match effect with
    | .removeLink linkId => n.removeLink linkId
    | _ => n) n

/-- A method of the data plane. -/
def onNode {α : Type} (m : Node.M SecretKey PublicKey ν μ ε α) : M SecretKey PublicKey ν μ ε α :=
  fun n =>
    let r := m n.toNode
    (closeLinks (r.1.effects.drop n.effects.length) { n with toNode := r.1 }, r.2)

/-- `remove_active_peer`. -/
def removeActivePeer (addr : NodeAddr) : M SecretKey PublicKey ν μ ε Unit :=
  onNode (write (Node.removeActivePeer addr))

/-! ## Initiation -/

variable [Sha256] [HkdfSha256] [ChaCha20Poly1305] [Secp256k1 SecretKey PublicKey]
variable (env : LinkEnv SecretKey)

/-- `start_handshake`. -/
def startHandshake (linkId : LinkId) (transportId : TransportId) (remoteAddr : TransportAddr)
    (peerIdentity : PeerIdentity PublicKey) : M SecretKey PublicKey ν μ LinkError Unit := do
  match ← attempt (allocate env) with
  | .error e => do
    forgetLink linkId transportId remoteAddr
    stop (.indexAllocationFailed e)
  | .ok ourIndex => do
    let n ← read id
    let started := call
      (PeerConnection.startHandshake n.identity.secretKey n.startupEpoch env.ephemeral env.nowMs)
      (PeerConnection.outbound linkId peerIdentity env.nowMs)
    match ← attempt (pureCall started) with
    | .error e => do
      free ourIndex
      forgetLink linkId transportId remoteAddr
      stop (.handshakeFailed e)
    | .ok (noiseMsg1, connection) => do
      let connection := { connection with
        ourIndex := some ourIndex
        transportId := some transportId
        sourceAddr := some remoteAddr }
      let wireMsg1 := buildMsg1 ourIndex noiseMsg1
      let connection :=
        connection.setHandshakeMsg1 wireMsg1 (env.nowMs + n.config.handshakeResendIntervalMs)
      write fun n => { n with
        pendingOutbound := n.pendingOutbound.insert (transportId, ourIndex) linkId
        connections := n.connections.insert linkId connection }
      -- a failed connection waits for the next check of the timeouts
      if !(← transmit env transportId remoteAddr wireMsg1) then
        modifyConnection linkId (·.markFailed)

/-- `initiate_connection`. A connection-oriented transport starts to connect, and the handshake
follows when it has. -/
def initiateConnection (transportId : TransportId) (remoteAddr : TransportAddr)
    (peerIdentity : PeerIdentity PublicKey) : M SecretKey PublicKey ν μ LinkError Unit := do
  let linkId ← allocateLinkId
  addLink ⟨linkId, transportId, remoteAddr, .outbound⟩
  if env.connectionOriented transportId then
    match env.connect transportId remoteAddr with
    | .sent => write fun n => { n with
        pendingConnects := n.pendingConnects ++ [⟨linkId, transportId, remoteAddr, peerIdentity⟩] }
    | .failed => do
      forgetLink linkId transportId remoteAddr
      stop .transportError
    | .noTransport => pure ()
  else startHandshake env linkId transportId remoteAddr peerIdentity

/-- One completed connect of `poll_pending_connects`: the `i`th, connected or failed. -/
def completeConnect (i : Nat) (connected : Bool) : Handler SecretKey PublicKey ν μ Unit := body do
  let pending ← orElse () (← read (·.pendingConnects[i]?))
  write fun n => { n with pendingConnects := n.pendingConnects.eraseIdx i }
  if connected then do
    let started ← attempt
      (startHandshake env pending.linkId pending.transportId pending.remoteAddr pending.peerIdentity)
    match started with
    | .ok () => pure ()
    | .error _ => write (removeLink pending.linkId)
  else write (removeLink pending.linkId)

/-- `cleanup_stale_connection`, of a connection that timed out or failed. -/
def cleanupStaleConnection (linkId : LinkId) : Handler SecretKey PublicKey ν μ Unit := body do
  let conn ← orElse () (← read (·.connections.lookup linkId))
  dropConnection linkId
  match conn.ourIndex with
  | none => pure ()
  | some index => do
    match conn.transportId with
    | none => pure ()
    | some tid => forgetOutbound (tid, index)
    free index
  write (removeLink linkId)

end LinkNode

end Fips
