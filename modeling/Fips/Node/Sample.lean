import Fips.Node.Discovery
import Fips.Node.Encrypted
import Fips.Noise.Sample

/-!
# A small node

A node on the small suite, for runs on concrete inputs: measurements are trivial, every send
succeeds, and the next hop to a node is that node.
-/

namespace Fips

namespace Sample

scoped instance : SessionMmp Unit where
  new _ := ()
  resetForRekey _ _ := ()
  txBit _ := false
  recordRecv _ _ _ _ _ _ := ()
  rxObserve _ _ _ _ := ()
  recordSent _ _ _ _ := ()
  processReceiverReport _ _ _ _ := ()
  observeIncomingMtu _ _ := ()
  applyNotification _ _ _ := ()
  seedSourceMtu _ _ := ()

scoped instance : SchnorrSignature Unit := ⟨fun _ => some ()⟩

/-- The address of a given number. -/
def addr (n : Nat) : NodeAddr := ⟨BitVec.ofNat 128 n⟩

/-- A configuration whose handshakes are resent at one interval. -/
def config : NodeConfig where
  rekeyEnabled := true
  rekeyAfterSecs := 120
  rekeyAfterMessages := 65536
  defaultTtl := 64
  coordsWarmupPackets := 5
  idleTimeoutSecs := 90
  handshakeTimeoutSecs := 30
  handshakeMaxResends := 5
  handshakeResendIntervalMs := 1000
  resendIntervalMs _ := 1000

/-- The startup epoch of the nodes below. -/
def startupEpoch : Epoch := ⟨List.replicate EPOCH_SIZE 1, rfl⟩

/-- A node that knows nobody. -/
def node (self : Nat) (secretKey : Scalar) : Node Scalar Point Unit Unit where
  identity := ⟨addr self, secretKey⟩
  startupEpoch := ⟨[0, 0, 0, 0, 0, 0, 0, 7], rfl⟩
  config := config
  peers := ∅
  peersByIndex := ∅
  pendingOutbound := ∅
  allocatedIndices := []
  sessions := ∅
  pendingTunPackets := ∅
  pendingPings := ∅
  effects := []

/-- The outside at one moment. -/
def env (self nowMs : Nat) (ephemeral : Scalar) : Env Scalar where
  nowMs := nowMs
  instant := nowMs
  ephemeral _ := ephemeral
  myCoords := TreeCoordinate.rootWithMeta (addr self) 0 0
  destCoords dest := TreeCoordinate.rootWithMeta dest 0 0
  findNextHop := some
  linkMtu _ := 1280
  transportMtu := 1280
  sendLinkMessage _ _ := .ok ()
  congested _ := false
  coordsResponseAllowed _ := true
  routingErrorAllowed _ := true
  cachedCoords _ := none
  hasCachedIdentity _ := false
  lookupAccepted _ := false

/-- A session whose two directions use the given keys. -/
def session (role : HandshakeRole) (sendKey recvKey : UInt8) (remoteStatic : Point) :
    NoiseSession Point :=
  NoiseSession.fromHandshake role (CipherState.new (List.replicate 32 sendKey))
    (CipherState.new (List.replicate 32 recvKey)) [] remoteStatic

/-- A node in a session with node `peer`, the first `warmup` packets of which carry coordinates. -/
def inSession (self peer : Nat) (role : HandshakeRole) (sendKey recvKey : UInt8) (warmup : Nat) :
    Node Scalar Point Unit Unit :=
  { node self ⟨7⟩ with
    sessions := AList.insert (addr peer)
      ((SessionEntry.new (addr peer) ⟨3⟩ (.established (session role sendKey recvKey ⟨3⟩)) 0
        true).setCoordsWarmupRemaining warmup) ∅ }

/-- The coordinates of a node below these ancestors, the parent first. -/
def coordsBelow (self : Nat) : List Nat → TreeCoordinate
  | [] => TreeCoordinate.rootWithMeta (addr self) 0 0
  | parent :: ancestors => TreeCoordinate.extend ⟨addr self, 0, 0⟩ (coordsBelow parent ancestors)

/-- An active peer with a session and nothing else under way. -/
def peer (self : Nat) (ourIndex theirIndex : SessionIndex) (s : NoiseSession Point) :
    ActivePeer Scalar Point Unit where
  nodeAddr := addr self
  linkId := 1
  connectivity := .connected
  noiseSession := some s
  ourIndex := some ourIndex
  theirIndex := some theirIndex
  transportId := some 0
  currentAddr := some []
  sessionStart := 0
  linkStats := ⟨0, 0, 0, 0, 0⟩
  lastSeen := 0
  remoteEpoch := none
  mmp := none
  handshakeMsg2 := none
  replaySuppressedCount := 0
  consecutiveDecryptFailures := 0
  sessionEstablishedAt := 0
  currentKBit := false
  previousSession := none
  previousOurIndex := none
  drainStarted := none
  pendingNewSession := none
  pendingOurIndex := none
  pendingTheirIndex := none
  rekeyInProgress := false
  lastPeerRekey := none
  rekeyHandshake := none
  rekeyOurIndex := none
  rekeyMsg1 := none
  rekeyMsg1NextResend := 0

scoped instance : LookupNode.PathMtu Unit := ⟨fun _ => 1280⟩

scoped instance : SchnorrEncoding Unit := { asRef := fun _ => List.replicate 64 0 }

scoped instance : SigningKey Scalar Unit := ⟨fun _ _ => ()⟩

scoped instance : VerifyingKey Point Unit := ⟨fun _ _ _ => true⟩

/-- The defaults of the discovery configuration. -/
def lookupConfig : LookupConfig where
  ttl := 64
  timeoutSecs := 10
  retryIntervalSecs := 5
  maxAttempts := 2
  recentExpirySecs := 10
  pendingMaxDestinations := 256
  pendingPacketsPerDest := 16

/-- The outside of node `self` at one moment; `reach peer` is whether the filter of a tree peer
contains what is looked for. -/
def lookupEnv (self nowMs : Nat) (requestId : UInt64) (reach : NodeAddr → Bool) :
    LookupEnv Scalar Point where
  toEnv := env self nowMs ⟨7⟩
  isTreePeer _ := true
  mayReach peer _ := reach peer
  lookupByFipsPrefix _ := some (addr 3, ⟨3⟩)
  requestId _ := requestId
  forwardAllowed _ := true
  backoffSuppressed _ := false

end Sample

end Fips
