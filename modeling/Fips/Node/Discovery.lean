import Fips.Node.Dispatch

/-!
# Discovery

Model of `node/handlers/discovery.rs` with the queue of outbound packets of
`node/handlers/session.rs:1672-1871`: lookup requests and responses, the lookups this node has
under way, and the packets that wait for a session.

`LookupNode` is the node with what these handlers read beside the data plane: the ids of requests
seen and of lookups pending, the coordinates of this node and the coordinate cache. Of the cache only
the coordinates are kept; an entry that is past its time is one that the environment holds back
(`expired`) or an event that drops it.

`LookupEnv` adds to `Env` the filters and tree position of the peers, the identity cache, the rate
limiters and backoff, and the random ids. Any values are possible. `originated` and `responses` are
not in the source; only statements read them.
-/

open Checked

namespace Fips

/-- `node::RecentRequest`. -/
structure RecentRequest where
  fromPeer : NodeAddr
  timestampMs : Nat
  responseForwarded : Bool
  deriving DecidableEq, Repr

/-- `RecentRequest::new`. -/
def RecentRequest.new (fromPeer : NodeAddr) (timestampMs : Nat) : RecentRequest :=
  ⟨fromPeer, timestampMs, false⟩

/-- `RecentRequest::is_expired`. -/
def RecentRequest.isExpired (r : RecentRequest) (currentTimeMs expiryMs : Nat) : Bool :=
  decide (expiryMs < currentTimeMs - r.timestampMs)

/-- `discovery::PendingLookup`. -/
structure PendingLookup where
  initiatedMs : Nat
  lastSentMs : Nat
  attempt : Nat
  deriving DecidableEq, Repr

/-- `PendingLookup::new`: the first attempt counts. -/
def PendingLookup.new (nowMs : Nat) : PendingLookup := ⟨nowMs, nowMs, 1⟩

/-- `config.node.discovery` and the queue limits of `config.node.session`. -/
structure LookupConfig where
  ttl : UInt8
  timeoutSecs : Nat
  retryIntervalSecs : Nat
  maxAttempts : Nat
  recentExpirySecs : Nat
  pendingMaxDestinations : Nat
  pendingPacketsPerDest : Nat

/-- How a node took a lookup response: as the answer to its own request, or as one to pass on. -/
inductive ResponseUse
  | own (requestId : Nat)
  | transit (requestId : Nat)
  deriving DecidableEq, Repr

/-- The request that a response was for. -/
def ResponseUse.requestId : ResponseUse → Nat
  | .own requestId => requestId
  | .transit requestId => requestId

/-- Whether the node took a response for itself. -/
def ResponseUse.isOwn : ResponseUse → Bool
  | .own _ => true
  | .transit _ => false

/-- A node with what discovery reads and writes. -/
structure LookupNode (SecretKey PublicKey ν μ : Type) extends Node SecretKey PublicKey ν μ where
  lookupConfig : LookupConfig
  myCoords : TreeCoordinate
  coordCache : Map NodeAddr TreeCoordinate
  recentRequests : Map Nat RecentRequest
  pendingLookups : Map NodeAddr PendingLookup
  originated : List Nat
  responses : List ResponseUse

/-- What a discovery event reads from outside. `lookupByFipsPrefix` is the identity cache, from the
first 15 bytes of an address; `requestId` the random id of a lookup for a target. -/
structure LookupEnv (SecretKey PublicKey : Type) extends Env SecretKey where
  isTreePeer : NodeAddr → Bool
  mayReach : NodeAddr → NodeAddr → Bool
  lookupByFipsPrefix : Bytes → Option (NodeAddr × PublicKey)
  requestId : NodeAddr → UInt64
  forwardAllowed : NodeAddr → Bool
  backoffSuppressed : NodeAddr → Bool

namespace LookupNode

variable {SecretKey PublicKey ν μ : Type}

/-- A method of a node that looks up. -/
abbrev M (SecretKey PublicKey ν μ ε α : Type) := Method (LookupNode SecretKey PublicKey ν μ) ε α

/-- A handler of a node that looks up. -/
abbrev Handler (SecretKey PublicKey ν μ α : Type) := M SecretKey PublicKey ν μ Unit α

variable {ε : Type}

/-- A node freshly started. -/
def new (identity : Identity SecretKey) (startupEpoch : Epoch) (config : NodeConfig)
    (lookupConfig : LookupConfig) (timestamp : Nat) : LookupNode SecretKey PublicKey ν μ where
  identity := identity
  startupEpoch := startupEpoch
  config := config
  peers := ∅
  peersByIndex := ∅
  pendingOutbound := ∅
  allocatedIndices := []
  sessions := ∅
  pendingTunPackets := ∅
  pendingPings := ∅
  effects := []
  lookupConfig := lookupConfig
  myCoords := TreeCoordinate.rootWithMeta identity.nodeAddr 1 timestamp
  coordCache := ∅
  recentRequests := ∅
  pendingLookups := ∅
  originated := []
  responses := []

/-! ## The data plane -/

/-- What the data plane does to the coordinate cache. -/
def applyCoords (effects : List (Effect PublicKey)) (cache : Map NodeAddr TreeCoordinate) :
    Map NodeAddr TreeCoordinate :=
  effects.foldl (fun cache effect =>
    match effect with
    | .cacheCoords addr coords => cache.insert addr coords
    | .uncacheCoords addr => cache.erase addr
    | _ => cache) cache

/-- A method of the data plane. -/
def onNode {α : Type} (m : Node.M SecretKey PublicKey ν μ ε α) : M SecretKey PublicKey ν μ ε α :=
  fun n =>
    let r := m n.toNode
    ({ n with
      toNode := r.1
      coordCache := applyCoords (r.1.effects.drop n.effects.length) n.coordCache }, r.2)

/-- The first 15 bytes of an address, which a FIPS address ends with. -/
def fipsPrefix (addr : NodeAddr) : Bytes := addr.bytes.take 15

/-! ## Requests -/

variable (env : LookupEnv SecretKey PublicKey)

/-- `purge_expired_requests`. -/
def purgeExpiredRequests (currentTimeMs : Nat) (n : LookupNode SecretKey PublicKey ν μ) :
    LookupNode SecretKey PublicKey ν μ :=
  { n with recentRequests := n.recentRequests.filterMap fun _ r =>
      if r.isExpired currentTimeMs (n.lookupConfig.recentExpirySecs * 1000) then none else some r }

/-- Send one message to each of these peers; a failed send is logged only. -/
def sendToPeers (message : Bytes) : List NodeAddr → M SecretKey PublicKey ν μ ε Unit
  | [] => pure ()
  | peer :: peers => do
    let _ ← attempt (onNode (Node.sendLinkMessage env.toEnv peer message false))
    sendToPeers message peers

/-- The peers that satisfy `p` and whose filter contains the target. -/
def reachingPeers (p : NodeAddr → Bool) (target : NodeAddr)
    (n : LookupNode SecretKey PublicKey ν μ) : List NodeAddr :=
  (n.peers.entries.filter fun e => p e.1 && env.mayReach e.1 target).map fun e => e.1

/-- `forward_lookup_request`: to the tree peers that may reach the target, else to the others that
may. The peer the request came from is not left out. -/
def forwardLookupRequest (request : LookupRequest) : Handler SecretKey PublicKey ν μ Unit := do
  let request ← orElse () request.forward
  let n ← read id
  let forwardTo := n.reachingPeers env env.isTreePeer request.target
  if forwardTo.isEmpty then
    sendToPeers env request.encode
      (n.reachingPeers env (fun addr => !env.isTreePeer addr) request.target)
  else sendToPeers env request.encode forwardTo

section Signed

variable {Signature : Type} [SchnorrEncoding Signature] [SigningKey SecretKey Signature]

/-- `send_lookup_response`. -/
def sendLookupResponse (Signature : Type) [SchnorrEncoding Signature]
    [SigningKey SecretKey Signature] (request : LookupRequest) :
    Handler SecretKey PublicKey ν μ Unit := do
  let n ← read id
  let proofData := LookupResponse.proofBytes request.requestId request.target n.myCoords
  let proof : Signature := SigningKey.sign n.identity.secretKey proofData
  let response := LookupResponse.new request.requestId request.target n.myCoords proof
  let nextHop ← orElse () <|
    match n.recentRequests.lookup request.requestId with
    | some recent => some recent.fromPeer
    | none => env.findNextHop request.origin
  let _ ← attempt (onNode (Node.sendLinkMessage env.toEnv nextHop response.encode false))

/-- `handle_lookup_request` after decoding. -/
def onLookupRequest (Signature : Type) [SchnorrEncoding Signature]
    [SigningKey SecretKey Signature] (source : NodeAddr) (request : LookupRequest) :
    Handler SecretKey PublicKey ν μ Unit := do
  if (← read (·.recentRequests.lookup request.requestId)).isSome then stop ()
  else do
    write fun n => { n with
      recentRequests := n.recentRequests.insert request.requestId (.new source env.nowMs) }
    write (purgeExpiredRequests env.nowMs)
    let my ← read (·.nodeAddr)
    if request.target == my then sendLookupResponse env Signature request
    else if request.canForward then
      if !env.forwardAllowed request.target then stop ()
      else forwardLookupRequest env request

/-- `handle_lookup_request`. -/
def handleLookupRequest (Signature : Type) [SchnorrEncoding Signature]
    [SigningKey SecretKey Signature] (source : NodeAddr) (payload : Bytes) :
    Handler SecretKey PublicKey ν μ Unit := body do
  let request ← orReturn (LookupRequest.decode payload)
  onLookupRequest env Signature source request

end Signed

/-! ## Lookups of this node -/

/-- `initiate_lookup`: the number of peers the request went to. The id is not recorded as one
seen. -/
def initiateLookup (target : NodeAddr) (ttl : UInt8) : M SecretKey PublicKey ν μ ε Nat := do
  let n ← read id
  let request : LookupRequest :=
    ⟨(env.requestId target).toNat, target, n.nodeAddr, n.myCoords, ttl, 0⟩
  let peers := n.reachingPeers env env.isTreePeer target
  if peers.isEmpty then pure 0
  else do
    write fun n => { n with originated := n.originated ++ [request.requestId] }
    sendToPeers env request.encode peers
    pure peers.length

/-- `maybe_initiate_lookup`. -/
def maybeInitiateLookup (dest : NodeAddr) : M SecretKey PublicKey ν μ ε Unit := body do
  let n ← read id
  let inFlight := (n.pendingLookups.lookup dest).any fun entry =>
    decide (env.nowMs - entry.initiatedMs < n.lookupConfig.timeoutSecs * 1000)
  if inFlight then stop ()
  else if env.backoffSuppressed dest then stop ()
  else if !(n.peers.entries.any fun e => env.mayReach e.1 dest) then stop ()
  else do
    write fun n => { n with
      pendingLookups := n.pendingLookups.insert dest (.new env.nowMs) }
    let sent ← initiateLookup env dest n.lookupConfig.ttl
    if sent == 0 then write fun n => { n with pendingLookups := n.pendingLookups.erase dest }

/-- One retry of `check_pending_lookups`. -/
def retryLookup (target : NodeAddr) : M SecretKey PublicKey ν μ ε Unit := do
  let n ← read id
  match n.pendingLookups.lookup target with
  | none => pure ()
  | some entry => do
    write fun n => { n with
      pendingLookups := n.pendingLookups.insert target
        { entry with attempt := entry.attempt + 1, lastSentMs := env.nowMs } }
    let _ ← initiateLookup env target n.lookupConfig.ttl

/-- One timeout of `check_pending_lookups`: the queue goes with the lookup. -/
def timeOutLookup (n : LookupNode SecretKey PublicKey ν μ) (target : NodeAddr) :
    LookupNode SecretKey PublicKey ν μ :=
  { n with
    pendingLookups := n.pendingLookups.erase target
    pendingTunPackets := n.pendingTunPackets.erase target }

/-- `discovery.rs:494-502`. -/
def lookupTimedOut (n : LookupNode SecretKey PublicKey ν μ) (nowMs : Nat) (e : PendingLookup) : Bool :=
  decide (n.lookupConfig.timeoutSecs * 1000 ≤ nowMs - e.initiatedMs)

/-- The retry condition of `check_pending_lookups`. -/
def lookupWantsRetry (n : LookupNode SecretKey PublicKey ν μ) (nowMs : Nat) (e : PendingLookup) :
    Bool :=
  !n.lookupTimedOut nowMs e && decide (e.attempt < n.lookupConfig.maxAttempts) &&
    decide (n.lookupConfig.retryIntervalSecs * 1000 ≤ nowMs - e.lastSentMs)

/-- The targets of the pending lookups that satisfy `want`. -/
def lookupsWhere (want : PendingLookup → Bool) (n : LookupNode SecretKey PublicKey ν μ) :
    List NodeAddr := (n.pendingLookups.entries.filter fun e => want e.2).map fun e => e.1

/-- The retry loop of `check_pending_lookups`. -/
def retryLookups : List NodeAddr → M SecretKey PublicKey ν μ ε Unit
  | [] => pure ()
  | target :: targets => do
    retryLookup env target
    retryLookups targets

/-- `check_pending_lookups`. -/
def checkPendingLookups : M SecretKey PublicKey ν μ ε Unit := do
  let n ← read id
  retryLookups env (n.lookupsWhere (n.lookupWantsRetry env.nowMs))
  write fun m => (n.lookupsWhere (n.lookupTimedOut env.nowMs)).foldl timeOutLookup m

/-! ## Responses -/

variable [Sha256] [HkdfSha256] [ChaCha20Poly1305] [Secp256k1 SecretKey PublicKey] [SessionMmp μ]

/-- `retry_session_after_discovery`. -/
def retrySessionAfterDiscovery (dest : NodeAddr) : Handler SecretKey PublicKey ν μ Unit := body do
  let (_, destPubkey) ← orElse () (env.lookupByFipsPrefix (fipsPrefix dest))
  let existing ← read (·.sessions.lookup dest)
  if existing.any fun e => e.isEstablished || e.isInitiating then stop ()
  else do
    let _ ← attempt (onNode (Node.initiateSession env.toEnv dest destPubkey))

section Signed

variable {Signature : Type} [SchnorrEncoding Signature] [VerifyingKey PublicKey Signature]

/-- `discovery.rs:166-246`: the answer to a lookup of this node. -/
def acceptResponse (response : LookupResponse Signature) : Handler SecretKey PublicKey ν μ Unit := do
  let target := response.target
  let (_, targetPubkey) ← orElse () (env.lookupByFipsPrefix (fipsPrefix target))
  let proofData := LookupResponse.proofBytes response.requestId target response.targetCoords
  if !VerifyingKey.verify targetPubkey response.proof proofData then stop ()
  else do
    write fun n => { n with
      coordCache := n.coordCache.insert target response.targetCoords
      pendingLookups := n.pendingLookups.erase target }
    let config ← read (·.config)
    onNode <| Node.modifySession target fun e =>
      if e.isEstablished then e.setCoordsWarmupRemaining config.coordsWarmupPackets else e
    if (← read (·.pendingTunPackets.lookup target)).isSome then
      retrySessionAfterDiscovery env target

/-- `handle_lookup_response` after decoding. -/
def onLookupResponse (response : LookupResponse Signature) :
    Handler SecretKey PublicKey ν μ Unit := do
  match ← read (·.recentRequests.lookup response.requestId) with
  | some recent => do
    write fun n => { n with responses := n.responses ++ [.transit response.requestId] }
    if recent.responseForwarded then stop ()
    else do
      write fun n => { n with
        recentRequests := n.recentRequests.insert response.requestId
          { recent with responseForwarded := true } }
      let response :=
        { response with pathMtu := min response.pathMtu (env.linkMtu recent.fromPeer) }
      let _ ← attempt
        (onNode (Node.sendLinkMessage env.toEnv recent.fromPeer response.encode false))
  | none => do
    write fun n => { n with responses := n.responses ++ [.own response.requestId] }
    acceptResponse env response

/-- `handle_lookup_response`. -/
def handleLookupResponse (Signature : Type) [SchnorrEncoding Signature]
    [VerifyingKey PublicKey Signature] (payload : Bytes) : Handler SecretKey PublicKey ν μ Unit :=
  body do
    let response ← orReturn
      (LookupResponse.decode payload : Result ProtocolError (LookupResponse Signature))
    onLookupResponse env response

end Signed

/-! ## Outbound packets -/

/-- `queue_pending_packet`. -/
def queuePendingPacket (dest : NodeAddr) (packet : Bytes) (n : LookupNode SecretKey PublicKey ν μ) :
    LookupNode SecretKey PublicKey ν μ :=
  match n.pendingTunPackets.lookup dest with
  | none =>
    if n.lookupConfig.pendingMaxDestinations ≤ n.pendingTunPackets.entries.length then n
    else { n with pendingTunPackets := n.pendingTunPackets.insert dest [packet] }
  | some queue =>
    let queue :=
      if n.lookupConfig.pendingPacketsPerDest ≤ queue.length then queue.tail else queue
    { n with pendingTunPackets := n.pendingTunPackets.insert dest (queue ++ [packet]) }

/-- `FIPS_IPV6_OVERHEAD` of `upper/icmp.rs`. -/
def FIPS_IPV6_OVERHEAD : Nat := 77

/-- `effective_ipv6_mtu`. -/
def effectiveIpv6Mtu (transportMtu : Nat) : Nat := transportMtu - FIPS_IPV6_OVERHEAD

/-- The path MTU a session has learned (`path_mtu.current_mtu`). -/
class PathMtu (μ : Type) where
  currentMtu : μ → Nat

/-- `handlers/session.rs:1703-1715`: the packet is too big for the path of its session. -/
def exceedsPath [PathMtu μ] (transportMtu len : Nat) (entry : SessionEntry SecretKey PublicKey μ) :
    Bool :=
  entry.mmp.any fun m =>
    let pathMtu := effectiveIpv6Mtu (PathMtu.currentMtu m)
    decide (pathMtu < effectiveIpv6Mtu transportMtu) && decide (pathMtu < len)

/-- `handle_tun_outbound`. The ICMP answers go back to the application only. -/
def handleTunOutbound [PathMtu μ] (packet : Bytes) : Handler SecretKey PublicKey ν μ Unit := body do
  let version ← orElse () packet.head?
  if packet.length < 40 || version >>> 4 != 6 then stop ()
  else if effectiveIpv6Mtu env.transportMtu < packet.length then stop ()
  else do
    let (dest, destPubkey) ← orElse () (env.lookupByFipsPrefix ((packet.drop 25).take 15))
    match ← read (·.sessions.lookup dest) with
    | some entry =>
      if entry.isEstablished then
        if exceedsPath env.transportMtu packet.length entry then stop ()
        else do
          let _ ← attempt (onNode (Node.sendIpv6Packet env.toEnv dest packet))
      else write (queuePendingPacket dest packet)
    | none => do
      match ← attempt (onNode (Node.initiateSession env.toEnv dest destPubkey)) with
      | .ok () => pure ()
      | .error _ => maybeInitiateLookup env dest
      write (queuePendingPacket dest packet)

end LookupNode

end Fips
