import Fips.Network.LookupRoles
import Fips.Node.CoordSends

/-!
# Where cached coordinates come from

A network of nodes that set up sessions, warm coordinate caches, look each other up and rekey. A run
delivers any session datagram and any lookup response a node once sent to the node it was sent to, at
any time and any number of times. In between a node may move in the tree, lose cache entries and
sessions, and start again (`rest`).

`get_dest_coords` (`node/handlers/session.rs:1630-1651`) puts the node's own coordinates in place of
those of a destination it has not cached, and the nodes on the way cache them under the destination.

## Results

* `Speaks.onNode`: a method of the data plane, with what it does to the cache.
* `CoordInv.next`: one event of one node.
* `cachedCoords_provenance`: in every run, what a node has cached for an address begins with this
  address, or with a node that itself sent a session message to it with its own coordinates in place
  of those of the destination.
* `placeholder_cached`: a run with such an entry.
-/

open Checked EventRun

namespace Fips

/-! ## One node -/

namespace LookupNode

variable {SecretKey PublicKey ν μ ε : Type}

/-- A lookup request, or a response that carries the coordinates of its target. -/
def LookupMessage (Signature : Type) [SchnorrEncoding Signature] (message : Bytes) : Prop :=
  message.head? = some 0x30 ∨ message.head? = some 0x31 ∧
    ∀ payload (r : LookupResponse Signature), message = 0x31 :: payload →
      LookupResponse.decode payload = .ok r → r.targetCoords.nodeAddr = r.target

/-- An effect of the data plane that tells the truth, or a lookup message. -/
def Says (Signature : Type) [SchnorrEncoding Signature] (placed : NodeAddr → NodeAddr → Prop)
    (origin : NodeAddr → NodeAddr → Bytes → Prop) (my : NodeAddr) (e : Effect PublicKey) : Prop :=
  Node.Tells placed origin my e ∨
    ∃ nextHop message ce, e = .sentLinkMessage nextHop message ce ∧ LookupMessage Signature message

/-- From `base` to `n` only such effects were added; cache and stored handshake messages are
right, and the node is where it was. -/
structure Speaks (Signature : Type) [SchnorrEncoding Signature] (placed : NodeAddr → NodeAddr → Prop)
    (origin : NodeAddr → NodeAddr → Bytes → Prop) (base n : LookupNode SecretKey PublicKey ν μ) :
    Prop where
  grown : Node.Grown base.toNode (Says Signature placed origin base.nodeAddr) n.toNode
  stored : Node.Stored placed base.nodeAddr n.toNode
  myCoords : n.myCoords = base.myCoords
  cache : ∀ a c, n.coordCache.lookup a = some c → Locates placed a c

section Speaks

variable {Signature : Type} [SchnorrEncoding Signature] {placed : NodeAddr → NodeAddr → Prop}
  {origin : NodeAddr → NodeAddr → Bytes → Prop} {base n n' : LookupNode SecretKey PublicKey ν μ}

theorem Speaks.refl (hstored : Node.Stored placed n.nodeAddr n.toNode)
    (hcache : ∀ a c, n.coordCache.lookup a = some c → Locates placed a c) :
    Speaks Signature placed origin n n := ⟨.refl, hstored, rfl, hcache⟩

theorem Speaks.nodeAddr (h : Speaks Signature placed origin base n) :
    n.nodeAddr = base.nodeAddr := by
  unfold Node.nodeAddr
  rw [h.grown.identity]

/-- The relation is about the node below, its coordinates and its cache. -/
theorem Speaks.congr (h : Speaks Signature placed origin base n) (hnode : n'.toNode = n.toNode)
    (hcoords : n'.myCoords = n.myCoords) (hcache : n'.coordCache = n.coordCache) :
    Speaks Signature placed origin base n' :=
  ⟨hnode ▸ h.grown, hnode ▸ h.stored, hcoords.trans h.myCoords, hcache ▸ h.cache⟩

/-- Effects that tell the truth leave the cache right. -/
theorem locates_applyCoords {my : NodeAddr} {effects : List (Effect PublicKey)}
    (heffects : ∀ e ∈ effects, Node.Tells placed origin my e) {cache : Map NodeAddr TreeCoordinate}
    (hcache : ∀ a c, cache.lookup a = some c → Locates placed a c) (a : NodeAddr) (c : TreeCoordinate)
    (h : (applyCoords effects cache).lookup a = some c) : Locates placed a c := by
  induction effects generalizing cache with
  | nil => exact hcache a c h
  | cons e effects ih =>
    refine ih (fun e' he' => heffects e' (List.mem_cons_of_mem e he')) (fun a' c' h' => ?_) h
    cases e with
    | cacheCoords addr coords =>
      have htold := (heffects _ List.mem_cons_self).cached addr coords rfl
      rw [Map.lookup_insert'] at h'
      split_ifs at h' with ha
      · cases h'
        exact ha ▸ htold
      · exact hcache a' c' h'
    | uncacheCoords addr =>
      rw [Map.lookup_erase'] at h'
      split_ifs at h'
      exact hcache a' c' h'
    | _ => exact hcache a' c' h'

/-- **A method of the data plane.** -/
theorem Speaks.onNode {α : Type} {m : Node.M SecretKey PublicKey ν μ ε α}
    (h : Speaks Signature placed origin base n)
    (hm : Keeps (Node.Speaks placed origin n.toNode) m) :
    Speaks Signature placed origin base (onNode m n).1 := by
  have hmy := h.nodeAddr
  have hspoke : Node.Speaks placed origin n.toNode (m n.toNode).1 :=
    hm n.toNode (.refl (hmy ▸ h.stored))
  obtain ⟨new, hnew, htold⟩ := hspoke.grown.effects
  refine ⟨h.grown.trans (hspoke.grown.mono fun e he => .inl (hmy ▸ he)), hmy ▸ hspoke.stored,
    h.myCoords, fun a c hc => ?_⟩
  have hdrop : (m n.toNode).1.effects.drop n.effects.length = new := by
    rw [hnew]
    exact List.drop_left
  exact locates_applyCoords htold h.cache a c (hdrop ▸ hc)

/-- What the node below may say, the node may say. -/
theorem keeps_speaks_onNode {α : Type} {m : Node.M SecretKey PublicKey ν μ ε α}
    (hm : ∀ n : Node SecretKey PublicKey ν μ, n.nodeAddr = base.nodeAddr →
      Keeps (Node.Speaks placed origin n) m) :
    Keeps (Speaks Signature placed origin base) (onNode m) :=
  fun _ hn => hn.onNode (hm _ hn.nodeAddr)

/-- A write that leaves the node, its coordinates and its cache alone. -/
theorem keeps_speaks_write {f : LookupNode SecretKey PublicKey ν μ → LookupNode SecretKey PublicKey ν μ}
    (hf : ∀ n, (f n).toNode = n.toNode ∧ (f n).myCoords = n.myCoords ∧
      (f n).coordCache = n.coordCache) :
    Keeps (Speaks Signature placed origin base) (write f : M SecretKey PublicKey ν μ ε Unit) :=
  keeps_write fun n hn => hn.congr (hf n).1 (hf n).2.1 (hf n).2.2

/-! ### Lookup messages -/

variable (env : LookupEnv SecretKey PublicKey)

/-- One lookup message. -/
theorem keeps_speaks_sendLookup {nextHop : NodeAddr} {message : Bytes}
    (hmessage : LookupMessage Signature message) : Keeps (Speaks Signature placed origin base)
      (onNode (Node.sendLinkMessage env.toEnv nextHop message false) :
        M SecretKey PublicKey ν μ SendError Unit) := by
  unfold Node.sendLinkMessage
  cases env.sendLinkMessage nextHop message with
  | error e => exact keeps_speaks_onNode fun _ _ => keeps_stop e
  | ok u =>
    intro n hn
    refine ⟨hn.grown.add (.inr ⟨nextHop, message, false, rfl, hmessage⟩) rfl rfl, hn.stored,
      hn.myCoords, fun a c hc => hn.cache a c ?_⟩
    change (applyCoords ((n.effects ++ [Effect.sentLinkMessage nextHop message false]).drop
      n.effects.length) n.coordCache).lookup a = some c at hc
    rw [List.drop_left] at hc
    exact hc

theorem lookupMessage_request (r : LookupRequest) : LookupMessage Signature r.encode := .inl rfl

/-- A response that leaves the node has its target's coordinates. -/
theorem lookupMessage_response {r : LookupResponse Signature}
    (hcoords : r.targetCoords.nodeAddr = r.target) (hlen : r.targetCoords.entries.length ≤ 65535) :
    LookupMessage Signature r.encode := by
  refine .inr ⟨rfl, fun payload r' hmessage hdecode => ?_⟩
  obtain ⟨htarget, hsame⟩ := LookupResponse.coords_of_encode hlen hmessage.symm hdecode
  rw [htarget, hsame, TreeCoordinate.nodeAddr_addrsOnly, hcoords]

/-- A lookup message may go to any number of peers. -/
theorem keeps_speaks_sendToPeers {message : Bytes} (hmessage : LookupMessage Signature message)
    (peers : List NodeAddr) : Keeps (Speaks Signature placed origin base)
      (sendToPeers env message peers : M SecretKey PublicKey ν μ ε Unit) := by
  induction peers with
  | nil => exact keeps_pure ()
  | cons peer peers ih => exact (keeps_speaks_sendLookup env hmessage).attempt.bind fun _ => ih

theorem keeps_speaks_initiateLookup (target : NodeAddr) (ttl : UInt8) :
    Keeps (Speaks Signature placed origin base)
      (initiateLookup env target ttl : M SecretKey PublicKey ν μ ε Nat) := by
  refine (keeps_read _).bind fun n => Keeps.ite (keeps_pure _) ?_
  refine Keeps.bind (keeps_speaks_write fun m => ⟨rfl, rfl, rfl⟩) fun _ => ?_
  exact (keeps_speaks_sendToPeers env (lookupMessage_request _) _).bind fun _ => keeps_pure _

theorem keeps_speaks_maybeInitiateLookup (dest : NodeAddr) :
    Keeps (Speaks Signature placed origin base)
      (maybeInitiateLookup env dest : M SecretKey PublicKey ν μ ε Unit) := by
  refine Keeps.body ((keeps_read _).bind fun n => Keeps.ite (keeps_stop _) (Keeps.ite (keeps_stop _)
    (Keeps.ite (keeps_stop _) ?_)))
  refine Keeps.bind (keeps_speaks_write fun m => ⟨rfl, rfl, rfl⟩) fun _ => ?_
  refine (keeps_speaks_initiateLookup env dest _).bind fun sent => Keeps.ite ?_ (keeps_pure _)
  exact keeps_speaks_write fun m => ⟨rfl, rfl, rfl⟩

theorem keeps_speaks_retryLookups (targets : List NodeAddr) :
    Keeps (Speaks Signature placed origin base)
      (retryLookups env targets : M SecretKey PublicKey ν μ ε Unit) := by
  induction targets with
  | nil => exact keeps_pure ()
  | cons target targets ih =>
    refine Keeps.bind ((keeps_read _).bind fun n => ?_) fun _ => ih
    cases n.pendingLookups.lookup target with
    | none => exact keeps_pure ()
    | some entry =>
      refine Keeps.bind (keeps_speaks_write fun m => ⟨rfl, rfl, rfl⟩) fun _ => ?_
      exact (keeps_speaks_initiateLookup env target _).bind fun _ => keeps_pure _

theorem keeps_speaks_checkPendingLookups : Keeps (Speaks Signature placed origin base)
    (checkPendingLookups env : M SecretKey PublicKey ν μ ε Unit) := by
  refine (keeps_read _).bind fun n => (keeps_speaks_retryLookups env _).bind fun _ => ?_
  refine keeps_write fun m hm => ?_
  obtain ⟨lookups, packets, heq⟩ :=
    timeOutLookups_frames (n.lookupsWhere (n.lookupTimedOut env.nowMs)) m
  rw [heq]
  exact ⟨hm.grown.congr rfl rfl, hm.stored, hm.myCoords, hm.cache⟩

/-! ### Requests and responses -/

theorem keeps_speaks_forwardLookupRequest (request : LookupRequest) :
    Keeps (Speaks Signature placed origin base)
      (forwardLookupRequest env request : Handler SecretKey PublicKey ν μ Unit) := by
  refine (keeps_orElse _ _).bind fun request => (keeps_read _).bind fun n => Keeps.ite ?_ ?_
  · exact keeps_speaks_sendToPeers env (lookupMessage_request _) _
  · exact keeps_speaks_sendToPeers env (lookupMessage_request _) _

/-- **A request**: this node answers with its own coordinates. -/
theorem keeps_speaks_handleLookupRequest [SigningKey SecretKey Signature]
    (hown : base.myCoords.nodeAddr = base.nodeAddr)
    (hlen : base.myCoords.entries.length ≤ 65535) (source : NodeAddr) (payload : Bytes) :
    Keeps (Speaks Signature placed origin base)
      (handleLookupRequest env Signature source payload : Handler SecretKey PublicKey ν μ Unit) := by
  refine Keeps.body ((keeps_orReturn _).bind fun request => (keeps_read _).bind fun recent => ?_)
  refine Keeps.ite (keeps_stop _) ?_
  refine Keeps.bind (keeps_speaks_write fun m => ⟨rfl, rfl, rfl⟩) fun _ => ?_
  refine Keeps.bind (keeps_speaks_write fun m => ⟨rfl, rfl, rfl⟩) fun _ => ?_
  rw [keeps_iff]
  intro n hn
  rw [wp_bind_iff, wp_read_iff, hn.nodeAddr]
  split_ifs with htarget hforward hallowed
  · unfold sendLookupResponse
    rw [wp_bind_iff, wp_read_iff]
    refine ((keeps_orElse _ _).bind fun nextHop =>
      (keeps_speaks_sendLookup env ?_).attempt.bind fun _ => keeps_pure _).wp hn
    refine lookupMessage_response ?_ ?_
    · exact (congrArg TreeCoordinate.nodeAddr hn.myCoords).trans (hown.trans (beq_iff_eq.mp htarget).symm)
    · exact (congrArg (fun c => c.entries.length) hn.myCoords).trans_le hlen
  · exact hn
  · exact (keeps_speaks_forwardLookupRequest env request).wp hn
  · exact hn

section Responses

variable [Sha256] [HkdfSha256] [ChaCha20Poly1305] [Secp256k1 SecretKey PublicKey] [SessionMmp μ] {env}

omit [ChaCha20Poly1305] in
/-- A session is opened with what the cache has of the destination. -/
theorem keeps_speaks_initiateSession (hknows : Node.KnowsCoords placed base.nodeAddr env.toEnv)
    (dest : NodeAddr) (destPubkey : PublicKey) : Keeps (Speaks Signature placed origin base)
      (onNode (Node.initiateSession env.toEnv dest destPubkey) :
        M SecretKey PublicKey ν μ SendError Unit) :=
  keeps_speaks_onNode fun _ hmy => Node.keeps_speaks_initiateSession (hmy ▸ hknows) dest destPubkey

omit [ChaCha20Poly1305] in
theorem keeps_speaks_retrySessionAfterDiscovery
    (hknows : Node.KnowsCoords placed base.nodeAddr env.toEnv) (dest : NodeAddr) :
    Keeps (Speaks Signature placed origin base)
      (retrySessionAfterDiscovery env dest : Handler SecretKey PublicKey ν μ Unit) := by
  refine Keeps.body ((keeps_orElse _ _).bind fun identity => (keeps_read _).bind fun existing => ?_)
  exact Keeps.ite (keeps_stop _)
    ((keeps_speaks_initiateSession hknows dest _).attempt.bind fun _ => keeps_pure _)

omit [ChaCha20Poly1305] in
/-- **A response** brings the coordinates of its target. -/
theorem keeps_speaks_handleLookupResponse [VerifyingKey PublicKey Signature]
    (hknows : Node.KnowsCoords placed base.nodeAddr env.toEnv) {payload : Bytes}
    (hpayload : ∀ r : LookupResponse Signature, LookupResponse.decode payload = .ok r →
      r.targetCoords.nodeAddr = r.target) : Keeps (Speaks Signature placed origin base)
      (handleLookupResponse env Signature payload : Handler SecretKey PublicKey ν μ Unit) := by
  refine Keeps.body (keeps_orReturn_bind fun response hdecode => ?_)
  have hcoords := hpayload response hdecode
  have hlen := (LookupResponse.onWire_of_decode hdecode).length
  refine (keeps_read _).bind fun recent => ?_
  cases recent with
  | some recent =>
    refine Keeps.bind (keeps_speaks_write fun m => ⟨rfl, rfl, rfl⟩) fun _ => ?_
    refine Keeps.ite (keeps_stop _) ?_
    refine Keeps.bind (keeps_speaks_write fun m => ⟨rfl, rfl, rfl⟩) fun _ => ?_
    refine (keeps_speaks_sendLookup env ?_).attempt.bind fun _ => keeps_pure _
    exact lookupMessage_response hcoords hlen
  | none =>
    refine Keeps.bind (keeps_speaks_write fun m => ⟨rfl, rfl, rfl⟩) fun _ => ?_
    refine (keeps_orElse _ _).bind fun identity => Keeps.ite (keeps_stop _) ?_
    refine Keeps.bind (keeps_write fun n hn => ?_) fun _ => (keeps_read _).bind fun config => ?_
    · refine ⟨hn.grown, hn.stored, hn.myCoords, fun a c hc => ?_⟩
      rw [Map.lookup_insert'] at hc
      split_ifs at hc with ha
      · cases hc
        exact ⟨.inl (hcoords.trans ha.symm), hlen⟩
      · exact hn.cache a c hc
    · refine Keeps.bind (keeps_speaks_onNode fun _ _ => ?_) fun _ => (keeps_read _).bind fun queued => ?_
      · refine Node.keeps_speaks_modifySession _ fun e => ?_
        split_ifs <;> rfl
      · exact Keeps.ite (keeps_speaks_retrySessionAfterDiscovery hknows _) (keeps_pure _)

/-- **A packet of the application.** -/
theorem keeps_speaks_handleTunOutbound [PathMtu μ]
    (hknows : Node.KnowsCoords placed base.nodeAddr env.toEnv) (packet : Bytes) :
    Keeps (Speaks Signature placed origin base)
      (handleTunOutbound env packet : Handler SecretKey PublicKey ν μ Unit) := by
  have hqueue : ∀ dest, Keeps (Speaks Signature placed origin base)
      (write (queuePendingPacket dest packet) : Handler SecretKey PublicKey ν μ Unit) := by
    refine fun dest => keeps_write fun n hn => ?_
    unfold queuePendingPacket
    split
    · split_ifs
      · exact hn
      · exact ⟨hn.grown.congr rfl rfl, hn.stored, hn.myCoords, hn.cache⟩
    · exact ⟨hn.grown.congr rfl rfl, hn.stored, hn.myCoords, hn.cache⟩
  refine Keeps.body ((keeps_orElse _ _).bind fun version => Keeps.ite (keeps_stop _)
    (Keeps.ite (keeps_stop _) ((keeps_orElse _ _).bind fun identity => (keeps_read _).bind
      fun entry => ?_)))
  cases entry with
  | some entry =>
    refine Keeps.ite (Keeps.ite (keeps_stop _) ?_) (hqueue _)
    refine Keeps.bind (Keeps.attempt (keeps_speaks_onNode fun _ hmy => ?_)) fun _ => keeps_pure _
    exact Node.keeps_speaks_sendIpv6Packet (hmy ▸ hknows) _ _
  | none =>
    refine (keeps_speaks_initiateSession hknows _ _).attempt.bind fun sent => ?_
    cases sent with
    | ok u => exact Keeps.bind (keeps_pure ()) fun _ => hqueue identity.1
    | error e =>
      exact Keeps.bind (keeps_speaks_maybeInitiateLookup env _) fun _ => hqueue identity.1

end Responses

end Speaks

end LookupNode

/-- What may happen to a node. `rest` is whatever neither sends coordinates nor caches any. -/
inductive CoordEvent (SecretKey PublicKey ν μ : Type)
  | lookup (env : LookupEnv SecretKey PublicKey) (dest : NodeAddr)
  | checkPendingLookups (env : LookupEnv SecretKey PublicKey)
  | request (env : LookupEnv SecretKey PublicKey) (source : NodeAddr) (payload : Bytes)
  | response (env : LookupEnv SecretKey PublicKey) (payload : Bytes)
  | datagram (env : LookupEnv SecretKey PublicKey) (payload : Bytes) (incomingCe : Bool)
  | tunOutbound (env : LookupEnv SecretKey PublicKey) (packet : Bytes)
  | initiateSession (env : LookupEnv SecretKey PublicKey) (dest : NodeAddr) (destPubkey : PublicKey)
  | sessionData (env : LookupEnv SecretKey PublicKey) (dest : NodeAddr) (srcPort dstPort : Nat)
      (payload : Bytes)
  | sessionMsg (env : LookupEnv SecretKey PublicKey) (dest : NodeAddr) (msgType : UInt8)
      (payload : Bytes)
  | coordsWarmup (env : LookupEnv SecretKey PublicKey) (dest : NodeAddr)
  | checkSessionRekey (env : LookupEnv SecretKey PublicKey)
  | resendHandshakes (env : LookupEnv SecretKey PublicKey)
  | rest (n' : LookupNode SecretKey PublicKey ν μ)

namespace CoordEvent

variable {SecretKey PublicKey ν μ : Type}

/-- What the event reads from outside, where it is one of a discovering node. -/
def env? : CoordEvent SecretKey PublicKey ν μ → Option (LookupEnv SecretKey PublicKey)
  | .lookup env _ | .checkPendingLookups env | .request env _ _ | .response env _
  | .datagram env _ _ | .tunOutbound env _ | .initiateSession env _ _ | .sessionData env _ _ _ _
  | .sessionMsg env _ _ _ | .coordsWarmup env _ | .checkSessionRekey env | .resendHandshakes env =>
    some env
  | .rest _ => none

/-- The coordinates that an event itself puts into the cache. -/
def Brings (Signature : Type) [SchnorrEncoding Signature] (a : NodeAddr) (c : TreeCoordinate) :
    CoordEvent SecretKey PublicKey ν μ → Prop
  | .datagram _ payload _ => ∃ d s t, SessionDatagram.decode payload = .ok d ∧ Shows d.payload s t ∧
      (a = d.srcAddr ∧ c ∈ s ∨ a = d.destAddr ∧ c ∈ t)
  | .response _ payload => ∃ r : LookupResponse Signature, LookupResponse.decode payload = .ok r ∧
      a = r.target ∧ c = r.targetCoords
  | _ => False

end CoordEvent

namespace LookupNode

variable {SecretKey PublicKey ν μ : Type}

section Step

variable [Sha256] [HkdfSha256] [ChaCha20Poly1305] [Secp256k1 SecretKey PublicKey] [SessionMmp μ]
  [PathMtu μ]
variable (Signature : Type) [SchnorrEncoding Signature] [SigningKey SecretKey Signature]
  [VerifyingKey PublicKey Signature]

/-- One event. -/
def stepCoords (n : LookupNode SecretKey PublicKey ν μ) :
    CoordEvent SecretKey PublicKey ν μ → LookupNode SecretKey PublicKey ν μ
  | .lookup env dest => (maybeInitiateLookup env dest n : _ × Result Unit Unit).1
  | .checkPendingLookups env => (checkPendingLookups env n : _ × Result Unit Unit).1
  | .request env source payload => (handleLookupRequest env Signature source payload n).1
  | .response env payload => (handleLookupResponse env Signature payload n).1
  | .datagram env payload incomingCe =>
    (onNode (Node.handleSessionDatagram env.toEnv payload incomingCe) n).1
  | .tunOutbound env packet => (handleTunOutbound env packet n).1
  | .initiateSession env dest destPubkey =>
    (onNode (Node.initiateSession env.toEnv dest destPubkey) n).1
  | .sessionData env dest srcPort dstPort payload =>
    (onNode (Node.sendSessionData env.toEnv dest srcPort dstPort payload) n).1
  | .sessionMsg env dest msgType payload =>
    (onNode (Node.sendSessionMsg env.toEnv dest msgType payload) n).1
  | .coordsWarmup env dest => (onNode (Node.sendCoordsWarmup env.toEnv dest) n).1
  | .checkSessionRekey env => (onNode (Node.checkSessionRekey env.toEnv) n).1
  | .resendHandshakes env =>
    (onNode (Node.resendPendingSessionHandshakes env.toEnv : Node.Handler _ _ _ _ Unit) n).1
  | .rest n' => n'

end Step

/-- The coordinates of an event are the node's own, and for a destination those it has cached, those
the event brings, or the node's own where there are none. -/
structure Reads (Signature : Type) [SchnorrEncoding Signature] (n : LookupNode SecretKey PublicKey ν μ)
    (e : CoordEvent SecretKey PublicKey ν μ) (env : LookupEnv SecretKey PublicKey) : Prop where
  own : env.myCoords = n.myCoords
  dest : ∀ a, env.destCoords a = n.myCoords ∨ n.coordCache.lookup a = some (env.destCoords a) ∨
    e.Brings Signature a (env.destCoords a)

/-- Anything else: the node may move and forget. -/
structure Rests (n n' : LookupNode SecretKey PublicKey ν μ) : Prop where
  identity : n'.identity = n.identity
  own : n'.myCoords.nodeAddr = n.nodeAddr
  ownLength : n'.myCoords.entries.length ≤ 65535
  cache : ∀ a c, n'.coordCache.lookup a = some c → n.coordCache.lookup a = some c
  stored : ∀ a e payload, n'.sessions.lookup a = some e → e.handshakePayload = some payload →
    ∃ e₀, n.sessions.lookup a = some e₀ ∧ e₀.handshakePayload = some payload

end LookupNode

namespace LookupNetwork

variable {ι SecretKey PublicKey ν μ : Type} (net : LookupNetwork ι SecretKey)

/-- The node `src` itself sent this payload to `dest`. -/
def Originated (s : LookupNetState ι SecretKey PublicKey ν μ) (src dest : NodeAddr) (payload : Bytes) :
    Prop :=
  ∃ i a inner d, net.addr i = src ∧ (i, a, 0x00 :: inner) ∈ s.sent ∧
    SessionDatagram.decode inner = .ok d ∧ d.srcAddr = src ∧ d.destAddr = dest ∧ d.payload = payload

/-- The node `b` itself sent a session message to `a` with its own coordinates in place of those of
`a`. -/
def Placed (s : LookupNetState ι SecretKey PublicKey ν μ) (a b : NodeAddr) : Prop :=
  ∃ payload src dest c, net.Originated s b a payload ∧ Shows payload src dest ∧ c ∈ dest ∧
    c.nodeAddr = b

/-- The events a node can meet: what is delivered was sent to it. -/
def AllowsCoords (Signature : Type) [SchnorrEncoding Signature]
    (s : LookupNetState ι SecretKey PublicKey ν μ) (i : ι) (e : CoordEvent SecretKey PublicKey ν μ) :
    Prop :=
  (∀ env ∈ e.env?, (s.nodes i).Reads Signature e env) ∧
    match e with
    | .datagram _ payload _ => ∃ j, (j, net.addr i, 0x00 :: payload) ∈ s.sent
    | .response _ payload => ∃ j, (j, net.addr i, 0x31 :: payload) ∈ s.sent
    | .rest n' => (s.nodes i).Rests n'
    | _ => True

section Run

variable [DecidableEq ι]
variable [Sha256] [HkdfSha256] [ChaCha20Poly1305] [Secp256k1 SecretKey PublicKey] [SessionMmp μ]
  [LookupNode.PathMtu μ]
variable (Signature : Type) [SchnorrEncoding Signature] [SigningKey SecretKey Signature]
  [VerifyingKey PublicKey Signature]

/-- Node `i` takes one event. -/
def nextCoords (s : LookupNetState ι SecretKey PublicKey ν μ)
    (e : ι × CoordEvent SecretKey PublicKey ν μ) : LookupNetState ι SecretKey PublicKey ν μ where
  nodes := Function.update s.nodes e.1 ((s.nodes e.1).stepCoords Signature e.2)
  sent := match e.2 with
    | .rest _ => s.sent
    | _ => s.sent ++ outgoing e.1 (((s.nodes e.1).stepCoords Signature e.2).effects.drop
        (s.nodes e.1).effects.length)

end Run

/-! ## The invariant of a run -/

/-- Coordinates are where they belong, or where a node put its own. -/
structure CoordInv (Signature : Type) [SchnorrEncoding Signature]
    (s : LookupNetState ι SecretKey PublicKey ν μ) : Prop where
  identity : ∀ i, (s.nodes i).identity = net.identity i
  own : ∀ i, (s.nodes i).myCoords.nodeAddr = net.addr i
  ownLength : ∀ i, (s.nodes i).myCoords.entries.length ≤ 65535
  cache : ∀ i a c, (s.nodes i).coordCache.lookup a = some c → Locates (net.Placed s) a c
  stored : ∀ i, Node.Stored (net.Placed s) (net.addr i) (s.nodes i).toNode
  datagram : ∀ i a payload d, (i, a, 0x00 :: payload) ∈ s.sent →
    SessionDatagram.decode payload = .ok d → Faithful (net.Placed s) d.srcAddr d.destAddr d.payload ∧
      ∀ src dest, Shows d.payload src dest → net.Originated s d.srcAddr d.destAddr d.payload
  response : ∀ i a payload (r : LookupResponse Signature), (i, a, 0x31 :: payload) ∈ s.sent →
    LookupResponse.decode payload = .ok r → r.targetCoords.nodeAddr = r.target

section Inv

variable {net} {Signature : Type} [SchnorrEncoding Signature]
  {s s' : LookupNetState ι SecretKey PublicKey ν μ} {i : ι}

/-- What was originated stays so. -/
theorem Originated.mono (hsent : s.sent ⊆ s'.sent) {src dest : NodeAddr} {payload : Bytes}
    (h : net.Originated s src dest payload) : net.Originated s' src dest payload := by
  obtain ⟨i, a, inner, d, hi, hmem, hd⟩ := h
  exact ⟨i, a, inner, d, hi, hsent hmem, hd⟩

/-- What was placed stays so. -/
theorem Placed.mono (hsent : s.sent ⊆ s'.sent) (a b : NodeAddr) (h : net.Placed s a b) :
    net.Placed s' a b := by
  obtain ⟨payload, src, dest, c, horiginated, hshows⟩ := h
  exact ⟨payload, src, dest, c, horiginated.mono hsent, hshows⟩

theorem coordInv_start :
    net.CoordInv Signature (net.start : LookupNetState ι SecretKey PublicKey ν μ) where
  identity _ := rfl
  own _ := rfl
  ownLength _ := Nat.le_of_ble_eq_true rfl
  cache _ _ _ h := by cases h
  stored _ _ _ _ h := by cases h
  datagram _ _ _ _ h := by cases h
  response _ _ _ _ h := by cases h

theorem CoordInv.nodeAddr (h : net.CoordInv Signature s) (i : ι) :
    (s.nodes i).nodeAddr = net.addr i := by
  unfold Node.nodeAddr LookupNetwork.addr
  rw [h.identity i]

/-- A datagram that was sent shows what locates its source and its destination. -/
theorem CoordInv.shown (h : net.CoordInv Signature s) {a : NodeAddr} {payload : Bytes}
    {d : SessionDatagram} (hsent : (i, a, 0x00 :: payload) ∈ s.sent)
    (hd : SessionDatagram.decode payload = .ok d) :
    Node.Shown (net.Placed s) d.srcAddr d.destAddr d.payload where
  toFaithful := (h.datagram i a payload d hsent hd).1
  placed src dest hshows c hc hsrc :=
    ⟨d.payload, src, dest, c, (h.datagram i a payload d hsent hd).2 src dest hshows, hshows, hc, hsrc⟩

/-- The coordinates of an event. -/
theorem CoordInv.knows (h : net.CoordInv Signature s) {e : CoordEvent SecretKey PublicKey ν μ}
    (he : net.AllowsCoords Signature s i e) {env : LookupEnv SecretKey PublicKey}
    (henv : env ∈ e.env?) : Node.KnowsCoords (net.Placed s) (net.addr i) env.toEnv := by
  have hreads := he.1 env henv
  have hbrings : ∀ a c, e.Brings Signature a c → Locates (net.Placed s) a c := by
    intro a c hbrings
    cases e with
    | datagram _ payload incomingCe =>
      obtain ⟨j, hsent⟩ := he.2
      obtain ⟨d, src, dest, hd, hshows, ⟨rfl, hc⟩ | ⟨rfl, hc⟩⟩ := hbrings
      · exact ((h.shown hsent hd).locates hshows).1 c hc
      · exact ((h.shown hsent hd).locates hshows).2 c hc
    | response _ payload =>
      obtain ⟨j, hsent⟩ := he.2
      obtain ⟨r, hr, rfl, rfl⟩ := hbrings
      exact ⟨.inl (h.response j _ payload r hsent hr), (LookupResponse.onWire_of_decode hr).length⟩
    | _ => exact absurd hbrings id
  have hdest : ∀ a, env.destCoords a = (s.nodes i).myCoords ∨
      Locates (net.Placed s) a (env.destCoords a) := fun a =>
    (hreads.dest a).imp_right fun hother => hother.elim (h.cache i a _) (hbrings a _)
  refine ⟨?_, ?_, fun a => ?_, fun a => ?_⟩
  · rw [hreads.own]
    exact h.own i
  · rw [hreads.own]
    exact h.ownLength i
  · rcases hdest a with hown | hlocates
    · exact .inr (.inl (by rw [hown, h.own i]))
    · exact hlocates.nodeAddr.imp_right .inr
  · rcases hdest a with hown | hlocates
    · rw [hown]
      exact h.ownLength i
    · exact hlocates.length

variable [DecidableEq ι]

/-- **One node acts.** What it sends of its own it has now sent itself. -/
theorem CoordInv.spoke (h : net.CoordInv Signature s) {n' : LookupNode SecretKey PublicKey ν μ}
    (hspoke : LookupNode.Speaks Signature (net.Placed s) (net.Originated s) (s.nodes i) n') :
    net.CoordInv Signature ⟨Function.update s.nodes i n',
      s.sent ++ outgoing i (n'.effects.drop (s.nodes i).effects.length)⟩ := by
  obtain ⟨s', hs'⟩ : ∃ s' : LookupNetState ι SecretKey PublicKey ν μ,
    s' = ⟨Function.update s.nodes i n',
      s.sent ++ outgoing i (n'.effects.drop (s.nodes i).effects.length)⟩ := ⟨_, rfl⟩
  have hsent : s.sent ⊆ s'.sent := by
    rw [hs']
    exact List.subset_append_left _ _
  have hmono : ∀ a b, net.Placed s a b → net.Placed s' a b := Placed.mono hsent
  have hmy := h.nodeAddr i
  obtain ⟨new, hnew, hsaid⟩ := hspoke.grown.effects
  have hout : ∀ j a message, (j, a, message) ∈ s'.sent → (j, a, message) ∈ s.sent ∨
      j = i ∧ ∃ ce, .sentLinkMessage a message ce ∈ new := by
    intro j a message hmem
    rw [hs'] at hmem
    rcases List.mem_append.mp hmem with hold | hout
    · exact .inl hold
    · rw [hnew, List.drop_left] at hout
      exact .inr (mem_outgoing hout)
  rw [← hs']
  have hnode : ∀ j, s'.nodes j = if j = i then n' else s.nodes j := by
    intro j
    rw [hs']
    exact Function.update_apply ..
  refine ⟨fun j => ?_, fun j => ?_, fun j => ?_, fun j a c hc => ?_, fun j a e payload he hpayload => ?_,
    fun j a payload d hmem hd => ?_, fun j a payload r hmem hr => ?_⟩
  · rw [hnode j]
    split_ifs with hj
    · exact hj ▸ hspoke.grown.identity.trans (h.identity i)
    · exact h.identity j
  · rw [hnode j]
    split_ifs with hj
    · rw [hj, hspoke.myCoords]
      exact h.own i
    · exact h.own j
  · rw [hnode j]
    split_ifs with hj
    · rw [hspoke.myCoords]
      exact h.ownLength i
    · exact h.ownLength j
  · rw [hnode j] at hc
    split_ifs at hc with hj
    · exact (hspoke.cache a c hc).mono hmono
    · exact (h.cache j a c hc).mono hmono
  · rw [hnode j] at he
    split_ifs at he with hj
    · rw [hj, ← hmy]
      exact (hspoke.stored a e payload he hpayload).mono hmono
    · exact (h.stored j a e payload he hpayload).mono hmono
  · rcases hout j a _ hmem with hold | ⟨rfl, ce, hmem'⟩
    · obtain ⟨hfaithful, horigin⟩ := h.datagram j a payload d hold hd
      exact ⟨hfaithful.mono hmono, fun src dest hshows => (horigin src dest hshows).mono hsent⟩
    · rcases hsaid _ hmem' with htold | ⟨_, _, _, heq, hkind⟩
      · obtain ⟨hfaithful, hsrc⟩ := htold.sent a payload ce d rfl hd
        refine ⟨hfaithful.mono hmono, fun src dest hshows => ?_⟩
        rcases hsrc src dest hshows with hown | horigin
        · exact ⟨j, a, payload, d, (hown.trans hmy).symm, hmem, hd, rfl, rfl, rfl⟩
        · exact horigin.mono hsent
      · cases heq
        rcases hkind with hkind | ⟨hkind, -⟩
        · cases hkind
        · cases hkind
  · rcases hout j a _ hmem with hold | ⟨rfl, ce, hmem'⟩
    · exact h.response j a payload r hold hr
    · rcases hsaid _ hmem' with htold | ⟨_, _, _, heq, hkind⟩
      · cases htold.kind a _ ce rfl
      · cases heq
        rcases hkind with hkind | ⟨-, hresponse⟩
        · cases hkind
        · exact hresponse payload r rfl hr

/-- A node that moves or forgets. -/
theorem CoordInv.rested (h : net.CoordInv Signature s) {n' : LookupNode SecretKey PublicKey ν μ}
    (hn : (s.nodes i).Rests n') :
    net.CoordInv Signature ⟨Function.update s.nodes i n', s.sent⟩ := by
  obtain ⟨s', hs'⟩ : ∃ s' : LookupNetState ι SecretKey PublicKey ν μ,
    s' = ⟨Function.update s.nodes i n', s.sent⟩ := ⟨_, rfl⟩
  have hsent : s'.sent = s.sent := by rw [hs']
  have hmono : ∀ a b, net.Placed s a b → net.Placed s' a b := Placed.mono (hsent ▸ List.Subset.refl _)
  have hnode : ∀ j, s'.nodes j = if j = i then n' else s.nodes j := by
    intro j
    rw [hs']
    exact Function.update_apply ..
  rw [← hs']
  refine ⟨fun j => ?_, fun j => ?_, fun j => ?_, fun j a c hc => ?_, fun j a e payload he hpayload => ?_,
    fun j a payload d hmem hd => ?_, fun j a payload r hmem hr => ?_⟩
  · rw [hnode j]
    split_ifs with hj
    · exact hj ▸ hn.identity.trans (h.identity i)
    · exact h.identity j
  · rw [hnode j]
    split_ifs with hj
    · exact hj ▸ hn.own.trans (h.nodeAddr i)
    · exact h.own j
  · rw [hnode j]
    split_ifs with hj
    · exact hn.ownLength
    · exact h.ownLength j
  · rw [hnode j] at hc
    split_ifs at hc with hj
    · exact (h.cache i a c (hn.cache a c hc)).mono hmono
    · exact (h.cache j a c hc).mono hmono
  · rw [hnode j] at he
    split_ifs at he with hj
    · obtain ⟨e₀, he₀, hpayload₀⟩ := hn.stored a e payload he hpayload
      exact hj ▸ (h.stored i a e₀ payload he₀ hpayload₀).mono hmono
    · exact (h.stored j a e payload he hpayload).mono hmono
  · rw [hsent] at hmem
    obtain ⟨hfaithful, horigin⟩ := h.datagram j a payload d hmem hd
    exact ⟨hfaithful.mono hmono,
      fun src dest hshows => (horigin src dest hshows).mono (hsent ▸ List.Subset.refl _)⟩
  · exact h.response j a payload r (hsent ▸ hmem) hr

variable [Sha256] [HkdfSha256] [ChaCha20Poly1305] [Secp256k1 SecretKey PublicKey] [SessionMmp μ]
  [LookupNode.PathMtu μ] [SigningKey SecretKey Signature] [VerifyingKey PublicKey Signature]

omit [DecidableEq ι] in
/-- What an event other than `rest` says. -/
theorem CoordInv.speaks (h : net.CoordInv Signature s) {e : CoordEvent SecretKey PublicKey ν μ}
    (he : net.AllowsCoords Signature s i e) (hrest : ∀ n', e ≠ .rest n') :
    LookupNode.Speaks Signature (net.Placed s) (net.Originated s) (s.nodes i)
      ((s.nodes i).stepCoords Signature e) := by
  have hmy := h.nodeAddr i
  have hself : LookupNode.Speaks Signature (net.Placed s) (net.Originated s) (s.nodes i) (s.nodes i) :=
    .refl (hmy ▸ h.stored i) (h.cache i)
  have hknows : ∀ env ∈ e.env?, Node.KnowsCoords (net.Placed s) (s.nodes i).nodeAddr env.toEnv :=
    fun env henv => hmy ▸ h.knows he henv
  cases e with
  | lookup env dest => exact LookupNode.keeps_speaks_maybeInitiateLookup env dest _ hself
  | checkPendingLookups env => exact LookupNode.keeps_speaks_checkPendingLookups env _ hself
  | request env source payload =>
    exact LookupNode.keeps_speaks_handleLookupRequest env ((h.own i).trans hmy.symm) (h.ownLength i)
      source payload _ hself
  | response env payload =>
    obtain ⟨j, hsent⟩ := he.2
    exact LookupNode.keeps_speaks_handleLookupResponse (hknows env rfl)
      (fun r hr => h.response j _ payload r hsent hr) _ hself
  | datagram env payload incomingCe =>
    obtain ⟨j, hsent⟩ := he.2
    refine hself.onNode (Node.keeps_speaks_handleSessionDatagram (hknows env rfl) (fun d hd => ?_) _)
    exact ⟨h.shown hsent hd, (h.datagram j _ payload d hsent hd).2⟩
  | tunOutbound env packet =>
    exact LookupNode.keeps_speaks_handleTunOutbound (hknows env rfl) packet _ hself
  | initiateSession env dest destPubkey =>
    exact hself.onNode (Node.keeps_speaks_initiateSession (hknows env rfl) dest destPubkey)
  | sessionData env dest srcPort dstPort payload =>
    exact hself.onNode (Node.keeps_speaks_sendSessionData (hknows env rfl) dest srcPort dstPort payload)
  | sessionMsg env dest msgType payload =>
    exact hself.onNode (Node.keeps_speaks_sendSessionMsg dest msgType payload)
  | coordsWarmup env dest =>
    exact hself.onNode (Node.keeps_speaks_sendCoordsWarmup (hknows env rfl) dest)
  | checkSessionRekey env => exact hself.onNode (Node.keeps_speaks_checkSessionRekey (hknows env rfl))
  | resendHandshakes env => exact hself.onNode Node.keeps_speaks_resendPendingSessionHandshakes
  | rest n' => exact absurd rfl (hrest n')

/-- **One event** keeps the invariant. -/
theorem CoordInv.next (h : net.CoordInv Signature s) {e : ι × CoordEvent SecretKey PublicKey ν μ}
    (he : net.AllowsCoords Signature s e.1 e.2) :
    net.CoordInv Signature (nextCoords Signature s e) := by
  obtain ⟨i, e⟩ := e
  cases e with
  | rest n' => exact h.rested he.2
  | _ => exact h.spoke (h.speaks he fun _ heq => by cases heq)

end Inv

variable [DecidableEq ι] [Sha256] [HkdfSha256] [ChaCha20Poly1305] [Secp256k1 SecretKey PublicKey]
  [SessionMmp μ] [LookupNode.PathMtu μ]

/-- **Where cached coordinates come from.** In every run, whatever a node has cached for an address
begins with this address, or with a node that itself sent a session message to it with its own
coordinates in place of those of the destination. -/
theorem cachedCoords_provenance (Signature : Type) [SchnorrEncoding Signature]
    [SigningKey SecretKey Signature] [VerifyingKey PublicKey Signature]
    (net : LookupNetwork ι SecretKey) {es : List (ι × CoordEvent SecretKey PublicKey ν μ)}
    (hrun : Along (nextCoords Signature) (fun s e => net.AllowsCoords Signature s e.1 e.2) net.start es) :
    Always (nextCoords Signature)
      (fun s => ∀ i a c, (s.nodes i).coordCache.lookup a = some c →
        c.nodeAddr = a ∨ net.Placed s a c.nodeAddr) net.start es :=
  (Always.of_along (I := net.CoordInv Signature) (fun _ _ hs he => hs.next he) coordInv_start
    hrun).mono fun _ hs i a c hc => (hs.cache i a c hc).nodeAddr

end LookupNetwork

namespace Sample

/-- The outside of a node of the line that has nothing cached; everything goes through node 2. -/
def uncachedEnv (i : Station) : LookupEnv Scalar Point :=
  let own := TreeCoordinate.rootWithMeta (addr i.number) 1 0
  { lookupEnv i.number 0 7 fun _ => true with
    myCoords := own, destCoords := fun _ => own, findNextHop := fun _ => some (addr 2) }

/-- A step of the network of three. -/
abbrev CoordStep := Station × CoordEvent Scalar Point Unit Unit

/-- Node 1 sets up a session to node 3. -/
def setUp : CoordStep := (.one, .initiateSession (uncachedEnv .one) (addr 3) ⟨3⟩)

/-- The datagram that node 1 sends. -/
def setupDatagram : Bytes :=
  (((LookupNetwork.nextCoords Unit (line.start : LookupState) setUp).sent.map fun m => m.2.2).headD
    []).tail

/-- Node 2 passes the setup on. -/
def setUpThrough : List CoordStep :=
  [setUp, (.two, .datagram (uncachedEnv .two) setupDatagram false)]

end Sample

namespace LookupNetwork

open Sample

/-- In this run every event reads what its node has. -/
theorem allowsCoords_setUpThrough :
    Along (nextCoords Unit) (fun s e => line.AllowsCoords Unit s e.1 e.2)
      (line.start : LookupState) setUpThrough := by
  refine ⟨⟨fun env henv => ?_, trivial⟩, ⟨fun env henv => ?_, .one, ?_⟩, trivial⟩
  · cases henv
    exact ⟨rfl, fun _ => .inl rfl⟩
  · cases henv
    exact ⟨rfl, fun _ => .inl rfl⟩
  · decide +kernel

/-- Node 1 has nothing cached for node 3, so that node 2 caches the coordinates of node 1 for it. -/
theorem placeholder_cached :
    Always (nextCoords Unit)
      (fun s => ∀ i a c, (s.nodes i).coordCache.lookup a = some c →
        c.nodeAddr = a ∨ line.Placed s a c.nodeAddr) (line.start : LookupState) setUpThrough ∧
      ((((exec (nextCoords Unit) (line.start : LookupState) setUpThrough).nodes .two).coordCache.lookup
        (Sample.addr 3)).map TreeCoordinate.nodeAddr = some (Sample.addr 1)) :=
  ⟨cachedCoords_provenance Unit line allowsCoords_setUpThrough, by decide +kernel⟩

end LookupNetwork

end Fips
