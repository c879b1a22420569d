import Fips.Lib.Map
import Fips.Lib.Wp
import Fips.Peer.Active

/-!
# The node's data plane

The part of `Node` (`node/mod.rs`) that the frame, session and forwarding handlers read and write,
what they receive from outside, and how they send.

`Node.effects` records what a handler does to the components that are left out: link messages handed
to a next hop, calls of `register_identity`, coordinates put into or taken from the cache, packets
delivered, lookups started, announces and lookups handed to the tree, filter and discovery
components. It is not in the source; only statements read it.

`Env` is what one event reads from outside: the clocks (read once), the ephemeral key a handshake
draws, routing (`find_next_hop`), the outcome of each link send, the rate limiters. Any values are
possible. What a link send does to the next hop's own record (its send counter and statistics) is
left out.
-/

open Checked

namespace Fips

/-- What of `NodeConfig` the data plane reads. -/
structure NodeConfig where
  rekeyEnabled : Bool
  rekeyAfterSecs : Nat
  rekeyAfterMessages : Nat
  defaultTtl : UInt8
  coordsWarmupPackets : Nat
  idleTimeoutSecs : Nat
  handshakeTimeoutSecs : Nat
  handshakeMaxResends : Nat
  handshakeResendIntervalMs : Nat
  /-- The interval after so many resends, with the configured backoff. -/
  resendIntervalMs : Nat → Nat

/-- What a handler does outside the modelled state. -/
inductive Effect (PublicKey : Type)
  | sentLinkMessage (nextHop : NodeAddr) (message : Bytes) (ceFlag : Bool)
  | registerIdentity (nodeAddr : NodeAddr) (pubkey : PublicKey)
  | cacheCoords (addr : NodeAddr) (coords : TreeCoordinate)
  | uncacheCoords (addr : NodeAddr)
  | initiateLookup (addr : NodeAddr)
  | deliverPacket (packet : Bytes)
  | finishPing (addr : NodeAddr) (sequence : Nat)
  | receivedAnnounce (peer : NodeAddr) (msgType : UInt8) (payload : Bytes)
  | removeLink (linkId : LinkId)
  | cleanUpPeer (addr : NodeAddr)
  | scheduleReconnect (addr : NodeAddr)

/-- What of `Node` the data plane reads and writes, and the effects that its events had, oldest
first. -/
structure Node (SecretKey PublicKey ν μ : Type) where
  identity : Identity SecretKey
  startupEpoch : Epoch
  config : NodeConfig
  peers : Map NodeAddr (ActivePeer SecretKey PublicKey ν)
  peersByIndex : Map (TransportId × SessionIndex) NodeAddr
  pendingOutbound : Map (TransportId × SessionIndex) LinkId
  allocatedIndices : List SessionIndex
  sessions : Map NodeAddr (SessionEntry SecretKey PublicKey μ)
  pendingTunPackets : Map NodeAddr (List Bytes)
  pendingPings : Map (NodeAddr × Nat) Unit
  effects : List (Effect PublicKey)

/-- The variants of `NodeError` a send returns. -/
inductive SendError
  | peerNotFound (addr : NodeAddr)
  | sendFailed (addr : NodeAddr) (reason : String)
  | mtuExceeded (addr : NodeAddr) (packetSize mtu : Nat)
  deriving DecidableEq, Repr

/-- What one event of the data plane reads from outside: the clocks, the random generator, the tables
and limiters of other subsystems, and what becomes of a datagram. `ephemeral addr` is the key drawn for
a handshake with `addr`, of which an event starts or answers at most one. -/
structure Env (SecretKey : Type) where
  nowMs : Nat
  instant : Nat
  ephemeral : NodeAddr → SecretKey
  myCoords : TreeCoordinate
  destCoords : NodeAddr → TreeCoordinate
  findNextHop : NodeAddr → Option NodeAddr
  linkMtu : NodeAddr → Nat
  transportMtu : Nat
  sendLinkMessage : NodeAddr → Bytes → Except SendError Unit
  congested : NodeAddr → Bool
  coordsResponseAllowed : NodeAddr → Bool
  routingErrorAllowed : NodeAddr → Bool
  cachedCoords : NodeAddr → Option TreeCoordinate
  hasCachedIdentity : NodeAddr → Bool
  lookupAccepted : NodeAddr → Bool

namespace Node

variable {SecretKey PublicKey ν μ : Type}

/-- A method of the node. -/
abbrev M (SecretKey PublicKey ν μ ε α : Type) := Method (Node SecretKey PublicKey ν μ) ε α

/-- A handler: it reports no error. -/
abbrev Handler (SecretKey PublicKey ν μ α : Type) := M SecretKey PublicKey ν μ Unit α

variable {ε : Type}

/-- `Node::node_addr`. -/
def nodeAddr (n : Node SecretKey PublicKey ν μ) : NodeAddr := n.identity.nodeAddr

/-- Adds an effect on the outside to those the node had. -/
def emit (e : Effect PublicKey) : M SecretKey PublicKey ν μ ε Unit :=
  write fun n => { n with effects := n.effects ++ [e] }

/-- `register_identity`: the identity cache learns the key behind an address. -/
def registerIdentity (addr : NodeAddr) (pubkey : PublicKey) : M SecretKey PublicKey ν μ ε Unit :=
  emit (.registerIdentity addr pubkey)

/-- The insertion into the coordinate cache, when a message carried coordinates. -/
def cacheCoords (addr : NodeAddr) : Option TreeCoordinate → M SecretKey PublicKey ν μ ε Unit
  | some coords => emit (.cacheCoords addr coords)
  | none => pure ()

/-- A change of the session table. -/
def mapSessions
    (f : Map NodeAddr (SessionEntry SecretKey PublicKey μ) →
      Map NodeAddr (SessionEntry SecretKey PublicKey μ)) :
    M SecretKey PublicKey ν μ ε Unit :=
  write fun n => { n with sessions := f n.sessions }

/-- `sessions.get_mut(addr)`. -/
def modifySession (addr : NodeAddr)
    (f : SessionEntry SecretKey PublicKey μ → SessionEntry SecretKey PublicKey μ) :
    M SecretKey PublicKey ν μ ε Unit := mapSessions (Map.modify addr f)

/-- `self.sessions.insert`, also of an entry that was taken out. -/
def putSession (addr : NodeAddr) (entry : SessionEntry SecretKey PublicKey μ) :
    M SecretKey PublicKey ν μ ε Unit := mapSessions (AList.insert addr entry)

/-- `self.sessions.remove`, the entry unread. -/
def dropSession (addr : NodeAddr) : M SecretKey PublicKey ν μ ε Unit :=
  mapSessions (AList.erase addr)

/-- `sessions.remove(addr)`, leaving the function if there is none. -/
def takeSession (addr : NodeAddr) :
    M SecretKey PublicKey ν μ Unit (SessionEntry SecretKey PublicKey μ) := do
  let entry ← read (·.sessions.lookup addr)
  let entry ← orElse () entry
  dropSession addr
  pure entry

/-- A change of a peer through `peers.get_mut`; without the peer nothing changes. -/
def modifyPeer (addr : NodeAddr)
    (f : ActivePeer SecretKey PublicKey ν → ActivePeer SecretKey PublicKey ν) :
    M SecretKey PublicKey ν μ ε Unit :=
  write fun n => { n with peers := n.peers.modify addr f }

section Rules

variable {n : Node SecretKey PublicKey ν μ} {addr : NodeAddr}
  {Q : Unit → Node SecretKey PublicKey ν μ → Prop}
  {E : Fail ε → Node SecretKey PublicKey ν μ → Prop}

@[simp] theorem wp_emit_iff {e : Effect PublicKey} :
    wp (emit e) Q E n ↔ Q () { n with effects := n.effects ++ [e] } := Iff.rfl

@[simp] theorem wp_registerIdentity_iff {pubkey : PublicKey} :
    wp (registerIdentity addr pubkey) Q E n ↔
      Q () { n with effects := n.effects ++ [.registerIdentity addr pubkey] } := Iff.rfl

@[simp] theorem wp_cacheCoords_iff {coords : Option TreeCoordinate} :
    wp (cacheCoords addr coords) Q E n ↔
      Q () { n with effects := n.effects ++ coords.toList.map (.cacheCoords addr) } := by
  cases coords with
  | none =>
    rw [Option.toList_none, List.map_nil, List.append_nil]
    exact Iff.rfl
  | some coords => exact Iff.rfl

@[simp] theorem wp_modifySession_iff
    {f : SessionEntry SecretKey PublicKey μ → SessionEntry SecretKey PublicKey μ} :
    wp (modifySession addr f) Q E n ↔ Q () { n with sessions := n.sessions.modify addr f } := Iff.rfl

@[simp] theorem wp_putSession_iff {entry : SessionEntry SecretKey PublicKey μ} :
    wp (putSession addr entry) Q E n ↔ Q () { n with sessions := n.sessions.insert addr entry } :=
  Iff.rfl

@[simp] theorem wp_dropSession_iff :
    wp (dropSession addr) Q E n ↔ Q () { n with sessions := n.sessions.erase addr } := Iff.rfl

@[simp] theorem wp_modifyPeer_iff
    {f : ActivePeer SecretKey PublicKey ν → ActivePeer SecretKey PublicKey ν} :
    wp (modifyPeer addr f) Q E n ↔ Q () { n with peers := n.peers.modify addr f } := Iff.rfl

theorem wp_takeSession_iff {Q : SessionEntry SecretKey PublicKey μ → Node SecretKey PublicKey ν μ → Prop}
    {E : Fail Unit → Node SecretKey PublicKey ν μ → Prop} :
    wp (takeSession addr) Q E n ↔
      (∀ entry, n.sessions.lookup addr = some entry →
        Q entry { n with sessions := n.sessions.erase addr }) ∧
      (n.sessions.lookup addr = none → E (.error ()) n) := by
  unfold takeSession
  rw [wp_bind_iff, wp_read_iff, wp_bind_iff, wp_orElse_iff]
  exact Iff.rfl

end Rules

/-! ## Sending -/

variable (env : Env SecretKey)

/-- `send_encrypted_link_message_with_ce`. -/
def sendLinkMessage (nextHop : NodeAddr) (message : Bytes) (ceFlag : Bool) :
    M SecretKey PublicKey ν μ SendError Unit :=
  match env.sendLinkMessage nextHop message with
  | .error e => stop e
  | .ok () => emit (.sentLinkMessage nextHop message ceFlag)

/-- `send_session_datagram`. -/
def sendSessionDatagram [SessionMmp μ] (datagram : SessionDatagram) :
    M SecretKey PublicKey ν μ SendError Unit :=
  match env.findNextHop datagram.destAddr with
  | none => stop (.sendFailed datagram.destAddr "no route to destination")
  | some nextHop => do
    let datagram :=
      { datagram with pathMtu := min datagram.pathMtu (env.linkMtu nextHop) }
    modifySession datagram.destAddr (·.mapMmp (SessionMmp.seedSourceMtu datagram.pathMtu))
    sendLinkMessage env nextHop datagram.encode false

/-- Wrap a session-layer payload of our own and send it. -/
def sendSessionPayload [SessionMmp μ] (dest : NodeAddr) (payload : Bytes) :
    M SecretKey PublicKey ν μ SendError Unit := do
  let my ← read Node.nodeAddr
  let config ← read (·.config)
  sendSessionDatagram env ((SessionDatagram.new my dest payload).withTtl config.defaultTtl)

end Node

end Fips
