import Fips.Lib.Run
import Fips.Node.SessionFrames

/-!
# Packets between the ends of a session

Two nodes with a session, between two rekeys. Either sends packets, warmups and reports. Any payload
that one end has handed to a link for the other arrives there at any time and any number of times, so
frames may be lost, delayed, reordered and repeated by the route. In between the nodes do anything
that leaves the session alone but for times, counters and measurements (`rest`).

The two directions are refined by a `Channel` each, with the replay window as its window and the
congestion mark of the datagram as the remark on a letter.

## Results

* `Inv.next`: every event of the pair is a run of the two channels.
* `session_channel`: what an end delivers was offered by the other, each frame is taken at most once,
  in order where the frames are, and a frame that arrives for the first time and within the window is
  taken.
-/

open Checked EventRun

namespace Fips

/-- The other end. -/
def HandshakeRole.other : HandshakeRole → HandshakeRole
  | .initiator => .responder
  | .responder => .initiator

namespace HandshakeRole

@[simp] theorem other_other (r : HandshakeRole) : r.other.other = r := by cases r <;> rfl

theorem other_ne (r : HandshakeRole) : r.other ≠ r := by cases r <;> decide

/-- What holds of one end and of the other holds of both. -/
theorem forall_of {P : HandshakeRole → Prop} (r : HandshakeRole) (h : P r) (h' : P r.other) :
    ∀ r', P r' := by
  intro r'
  cases r <;> cases r' <;> assumption

end HandshakeRole

variable {SecretKey PublicKey ν μ : Type}

/-- One end of a session: its node, the payloads it handed to a link for the other end, the packets it
was to send there, and the packets it delivered from there. -/
structure SessionEnd (SecretKey PublicKey ν μ : Type) where
  node : Node SecretKey PublicKey ν μ
  posted : List Bytes
  offered : List Bytes
  delivered : List Bytes

/-- What may happen to an end. -/
inductive SessionEvent (SecretKey PublicKey ν μ : Type)
  | packet (env : Env SecretKey) (packet : Bytes)
  | warmup (env : Env SecretKey)
  | message (env : Env SecretKey) (msgType : UInt8) (payload : Bytes)
  | arrival (arrival : Node.Arrival SecretKey) (payload : Bytes)
  | rest (n' : Node SecretKey PublicKey ν μ)

/-- The two ends of a session. -/
abbrev SessionPair (SecretKey PublicKey ν μ : Type) :=
  HandshakeRole → SessionEnd SecretKey PublicKey ν μ

section Model

variable [Sha256] [HkdfSha256] [ChaCha20Poly1305] [Secp256k1 SecretKey PublicKey] [SessionMmp μ]

namespace SessionEnd

/-- What a handler did besides. -/
def newEffects (e : SessionEnd SecretKey PublicKey ν μ) (n' : Node SecretKey PublicKey ν μ) :
    List (Effect PublicKey) := n'.effects.drop e.node.effects.length

/-- The end whose node has become `n'`. -/
def acted (e : SessionEnd SecretKey PublicKey ν μ) (peer : NodeAddr)
    (n' : Node SecretKey PublicKey ν μ) : SessionEnd SecretKey PublicKey ν μ :=
  { e with
    node := n'
    posted := e.posted ++ (e.newEffects n').filterMap (Node.payloadFor peer)
    delivered := e.delivered ++ Node.deliveries (e.newEffects n') }

/-- One event at one end, and what it adds to the packets that were offered there. -/
def step (e : SessionEnd SecretKey PublicKey ν μ) (peer : NodeAddr) :
    SessionEvent SecretKey PublicKey ν μ → SessionEnd SecretKey PublicKey ν μ
  | .packet env packet =>
    { e.acted peer (Node.sendIpv6Packet env peer packet e.node).1 with
      offered := e.offered ++ [packet] }
  | .warmup env => e.acted peer (Node.sendCoordsWarmup env peer e.node).1
  | .message env msgType payload =>
    e.acted peer (Node.sendSessionMsg env peer msgType payload e.node).1
  | .arrival arrival payload => e.acted peer (e.node.receive arrival peer payload)
  | .rest n' => { e.acted peer n' with delivered := e.delivered }

end SessionEnd

namespace SessionPair

/-- One event at one end. -/
def step (s : SessionPair SecretKey PublicKey ν μ)
    (event : HandshakeRole × SessionEvent SecretKey PublicKey ν μ) :
    SessionPair SecretKey PublicKey ν μ :=
  Function.update s event.1 ((s event.1).step (s event.1.other).node.nodeAddr event.2)

/-- What an event between two rekeys may be. -/
def Allowed (s : SessionPair SecretKey PublicKey ν μ)
    (event : HandshakeRole × SessionEvent SecretKey PublicKey ν μ) : Prop :=
  let peer := (s event.1.other).node.nodeAddr
  match event.2 with
  | .packet env _ => Node.CoordsFit env peer
  | .warmup env => Node.CoordsFit env peer
  | .message _ msgType _ => SessionMessageType.fromByte msgType ≠ some .dataPacket
  | .arrival _ payload => payload ∈ (s event.1.other).posted
  | .rest n' => Node.Waits peer (s event.1).node n' ∧ Node.Posts peer [] (s event.1).node n' ∧
      n'.pendingTunPackets.lookup peer = none

/-! ## The two channels -/

/-- How the session began: the addresses of the ends, the keys of the initiator, by what each end knows
the other, the counters it has accepted, and the one it goes on with. -/
structure Opening (PublicKey : Type) where
  addr : HandshakeRole → NodeAddr
  initiatorKeys : KeyPair
  pubkey : HandshakeRole → PublicKey
  received : HandshakeRole → List ℕ
  first : HandshakeRole → ℕ

/-- The two directions' keys, as one of the ends holds them. -/
def Opening.keys (o : Opening PublicKey) : HandshakeRole → KeyPair
  | .initiator => o.initiatorKeys
  | .responder => o.initiatorKeys.flip

omit [Sha256] [HkdfSha256] [ChaCha20Poly1305] [Secp256k1 SecretKey PublicKey] [SessionMmp μ] in
theorem Opening.keys_other (o : Opening PublicKey) (r : HandshakeRole) :
    (o.keys r.other).recv = (o.keys r).send := by
  cases r <;> rfl

/-- Both ends are in the session, and nothing has passed through it since. -/
structure Linked (o : Opening PublicKey) (s : SessionPair SecretKey PublicKey ν μ) : Prop where
  nodeAddr : ∀ r, (s r).node.nodeAddr = o.addr r
  onSession : ∀ r, Node.OnSession (o.addr r.other) (o.pubkey r) (o.keys r) (o.received r) (o.first r)
    (s r).node
  received : ∀ r, ∀ c ∈ o.received r, c < o.first r.other
  posted : ∀ r, (s r).posted = []
  offered : ∀ r, (s r).offered = []
  delivered : ∀ r, (s r).delivered = []

/-- The letters to an end carry the counters it has accepted. -/
abbrev Letters := Channel.State Node.Frame Bool

/-- The packets of a letter as they are delivered. -/
def delivery (t : (ℕ × Node.Frame) × Bool) : List Bytes := t.1.2.packets.map (Node.asDelivered t.2)

/-- The pair is what its channels say. -/
structure Inv (o : Opening PublicKey) (s : SessionPair SecretKey PublicKey ν μ)
    (c : HandshakeRole → Letters) : Prop where
  nodeAddr : ∀ r, (s r).node.nodeAddr = o.addr r
  onSession : ∀ r, Node.OnSession (o.addr r.other) (o.pubkey r) (o.keys r)
    (o.received r ++ (c r.other).letters.map Prod.fst) (c r).next (s r).node
  consistent : ∀ r, Channel.Consistent (o.first r) (c r)
  posted : ∀ r, (s r).posted = (c r).sent.map (·.2.payload)
  carried : ∀ r, ∀ l ∈ (c r).sent, Node.IsCarried SecretKey PublicKey ν μ (o.addr r) (o.addr r.other)
    (o.keys r).send l.1 l.2
  offered : ∀ r, ((c r).sent.flatMap (·.2.packets)).Sublist
    ((s r).offered.filterMap (Node.rebuilt (o.addr r) (o.addr r.other)))
  delivered : ∀ r, (s r.other).delivered = (c r).taken.flatMap delivery

variable {o : Opening PublicKey} {s : SessionPair SecretKey PublicKey ν μ}
  {c : HandshakeRole → Letters} {r : HandshakeRole}

omit [Sha256] [HkdfSha256] [Secp256k1 SecretKey PublicKey] in
theorem Linked.inv (h : Linked o s) : Inv o s fun r => ⟨o.first r, [], []⟩ where
  nodeAddr := h.nodeAddr
  onSession r := by
    have hr := h.onSession r
    rw [← List.append_nil (o.received r)] at hr
    exact hr
  consistent r := .start (o.first r)
  posted := h.posted
  carried _ := List.forall_mem_nil _
  offered r := List.nil_sublist _
  delivered r := h.delivered r.other

omit [Sha256] [HkdfSha256] [ChaCha20Poly1305] [Secp256k1 SecretKey PublicKey] [SessionMmp μ] in
theorem filterMap_newEffects {e : SessionEnd SecretKey PublicKey ν μ} {peer : NodeAddr}
    {payloads : List Bytes} {n' : Node SecretKey PublicKey ν μ}
    (h : Node.Posts peer payloads e.node n') :
    (e.newEffects n').filterMap (Node.payloadFor peer) = payloads := by
  obtain ⟨new, heffects, hnew⟩ := h
  unfold SessionEnd.newEffects
  rw [heffects, List.drop_left, hnew]

omit [Sha256] [HkdfSha256] [ChaCha20Poly1305] [Secp256k1 SecretKey PublicKey] [SessionMmp μ] in
theorem deliveries_newEffects {e : SessionEnd SecretKey PublicKey ν μ} {peer : NodeAddr}
    {payloads packets : List Bytes} {n' : Node SecretKey PublicKey ν μ}
    (h : Node.Posts peer payloads e.node n')
    (hdelivered : Node.deliveries n'.effects = Node.deliveries e.node.effects ++ packets) :
    Node.deliveries (e.newEffects n') = packets := by
  obtain ⟨new, heffects, -⟩ := h
  unfold SessionEnd.newEffects
  rw [heffects, List.drop_left]
  rw [heffects] at hdelivered
  unfold Node.deliveries at hdelivered ⊢
  rw [List.filterMap_append] at hdelivered
  exact List.append_cancel_left hdelivered

/-- An end that goes on with its session and has posted these letters. -/
structure Posted (o : Opening PublicKey) (s : SessionPair SecretKey PublicKey ν μ)
    (c : HandshakeRole → Letters) (r : HandshakeRole) (letters : List (ℕ × Node.Frame)) (next : ℕ)
    (e : SessionEnd SecretKey PublicKey ν μ) : Prop where
  numbered : Channel.Numbered (c r).next letters next
  nodeAddr : e.node.nodeAddr = o.addr r
  onSession : Node.OnSession (o.addr r.other) (o.pubkey r) (o.keys r)
    (o.received r ++ (c r.other).letters.map Prod.fst) next e.node
  posted : e.posted = (s r).posted ++ letters.map (·.2.payload)
  carried : ∀ l ∈ letters, Node.IsCarried SecretKey PublicKey ν μ (o.addr r) (o.addr r.other)
    (o.keys r).send l.1 l.2
  offered : ∃ offered, e.offered = (s r).offered ++ offered ∧ (letters.flatMap (·.2.packets)).Sublist
    (offered.filterMap (Node.rebuilt (o.addr r) (o.addr r.other)))
  delivered : e.delivered = (s r).delivered

omit [Sha256] [HkdfSha256] [Secp256k1 SecretKey PublicKey] in
/-- **What an end posts** is sent on its channel. -/
theorem Inv.post (h : Inv o s c) {letters : List (ℕ × Node.Frame)} {next : ℕ}
    {e : SessionEnd SecretKey PublicKey ν μ} (he : Posted o s c r letters next e) :
    ∃ c', Inv o (Function.update s r e) c' ∧
      ∀ r', Channel.Reach REPLAY_WINDOW_SIZE (c r') (c' r') := by
  obtain ⟨x, hx⟩ : ∃ x : Letters, x = { c r with
    next := next, sent := (c r).sent ++ letters } := ⟨_, rfl⟩
  have hstep : Channel.Step REPLAY_WINDOW_SIZE (c r) x := hx ▸ .send (c r) letters next he.numbered
  have hletters : x.letters = (c r).letters := by rw [hx]; rfl
  have hother := r.other_ne
  refine ⟨Function.update c r x, ⟨?_, ?_, ?_, ?_, ?_, ?_, ?_⟩, ?_⟩
  all_goals refine HandshakeRole.forall_of r ?_ ?_
  all_goals simp only [HandshakeRole.other_other, Function.update_self, ne_eq, hother,
    not_false_eq_true, Function.update_of_ne]
  · exact he.nodeAddr
  · exact h.nodeAddr r.other
  · rw [hx]
    exact he.onSession
  · rw [hletters]
    have hsession := h.onSession r.other
    rwa [HandshakeRole.other_other] at hsession
  · exact (h.consistent r).step hstep
  · exact h.consistent r.other
  · rw [hx, he.posted, h.posted r, List.map_append]
  · exact h.posted r.other
  · rw [hx]
    exact List.forall_mem_append.mpr ⟨h.carried r, he.carried⟩
  · have hcarried := h.carried r.other
    rwa [HandshakeRole.other_other] at hcarried
  · obtain ⟨offered, hoffered, hsublist⟩ := he.offered
    rw [hx, hoffered, List.flatMap_append, List.filterMap_append]
    exact (h.offered r).append hsublist
  · have hother := h.offered r.other
    rwa [HandshakeRole.other_other] at hother
  · rw [hx]
    exact h.delivered r
  · have hdelivered := h.delivered r.other
    rw [HandshakeRole.other_other] at hdelivered
    exact he.delivered.trans hdelivered
  · exact .single hstep
  · exact .refl

omit [Sha256] [HkdfSha256] [Secp256k1 SecretKey PublicKey] in
/-- The three senders. -/
theorem Inv.posted_of_sends (h : Inv o s c) {n' : Node SecretKey PublicKey ν μ} {packets : List Bytes}
    (offered : List Bytes) (hsends : Node.Sends (o.addr r.other) (o.pubkey r) (o.keys r)
      (o.received r ++ (c r.other).letters.map Prod.fst) (c r).next packets (s r).node n')
    (hoffered : packets.Sublist
      (offered.filterMap (Node.rebuilt (o.addr r) (o.addr r.other)))) :
    ∃ letters next, Posted o s c r letters next { (s r).acted (o.addr r.other) n' with
      offered := (s r).offered ++ offered } := by
  obtain ⟨letters, next, hwrote, rfl⟩ := hsends
  refine ⟨letters, next, hwrote.numbered, hwrote.nodeAddr.trans (h.nodeAddr r), hwrote.onSession, ?_,
    h.nodeAddr r ▸ hwrote.carries, ⟨offered, rfl, hoffered⟩, ?_⟩
  · exact congrArg ((s r).posted ++ ·) (filterMap_newEffects hwrote.posts)
  · have hnone := deliveries_newEffects hwrote.posts
      (hwrote.deliveries.trans (List.append_nil _).symm)
    exact (congrArg ((s r).delivered ++ ·) hnone).trans (List.append_nil _)

omit [Sha256] [HkdfSha256] [Secp256k1 SecretKey PublicKey] in
/-- A letter is fresh for the window if its channel takes it. -/
theorem Inv.fresh_iff (h : Inv o s c) (hreceived : ∀ r, ∀ k ∈ o.received r, k < o.first r.other)
    {l : ℕ × Node.Frame} (hl : l ∈ (c r).sent) :
    Node.Fresh (o.received r.other ++ (c r).letters.map Prod.fst) l.1 ↔
      (c r).Takes REPLAY_WINDOW_SIZE l.1 := by
  have hfirst : o.first r ≤ l.1 := ((h.consistent r).numbered.bounds l hl).1
  constructor
  · intro hfresh l' hl'
    exact hfresh l'.1 (List.mem_append_right _ (List.mem_map_of_mem hl'))
  · intro htakes k hk
    rcases List.mem_append.mp hk with hold | hnew
    · have hlt := hreceived r.other k hold
      rw [HandshakeRole.other_other] at hlt
      omega
    · obtain ⟨l', hl', rfl⟩ := List.mem_map.mp hnew
      exact htakes l' hl'

omit [Sha256] [HkdfSha256] [Secp256k1 SecretKey PublicKey] in
/-- **What an end hears** is taken from the channel to it. -/
theorem Inv.hear (h : Inv o s c) {x : Letters} (hreach : Channel.Reach REPLAY_WINDOW_SIZE (c r) x)
    (hsent : x.sent = (c r).sent) (hnext : x.next = (c r).next) {packets : List Bytes}
    (htaken : x.taken.flatMap delivery = (c r).taken.flatMap delivery ++ packets)
    {n' : Node SecretKey PublicKey ν μ}
    (hheard : Node.Heard (o.addr r) (o.pubkey r.other) (o.keys r.other)
      (o.received r.other ++ x.letters.map Prod.fst) (c r.other).next packets (s r.other).node n') :
    ∃ c', Inv o (Function.update s r.other ((s r.other).acted (o.addr r) n')) c' ∧
      ∀ r', Channel.Reach REPLAY_WINDOW_SIZE (c r') (c' r') := by
  obtain ⟨next, hle, hsession⟩ := hheard.onSession
  obtain ⟨y, hy⟩ : ∃ y : Letters, y = { c r.other with
    next := next, sent := (c r.other).sent ++ [] } := ⟨_, rfl⟩
  have hstep : Channel.Step REPLAY_WINDOW_SIZE (c r.other) y := hy ▸ .send _ [] next (.nil hle)
  have hletters : y.letters = (c r.other).letters := by rw [hy]; rfl
  have hsent' : y.sent = (c r.other).sent := by rw [hy, List.append_nil]
  have hother := r.other_ne
  refine ⟨Function.update (Function.update c r x) r.other y, ⟨?_, ?_, ?_, ?_, ?_, ?_, ?_⟩, ?_⟩
  all_goals refine HandshakeRole.forall_of r ?_ ?_
  all_goals simp only [HandshakeRole.other_other, Function.update_self, ne_eq, hother.symm,
    not_false_eq_true, Function.update_of_ne]
  · exact h.nodeAddr r
  · exact hheard.nodeAddr.trans (h.nodeAddr r.other)
  · rw [hletters, hnext]
    exact h.onSession r
  · rw [hy]
    exact hsession
  · exact (h.consistent r).reach hreach
  · exact (h.consistent r.other).step hstep
  · rw [hsent]
    exact h.posted r
  · have hnone := filterMap_newEffects hheard.posts
    rw [hsent', ← h.posted r.other]
    exact (congrArg ((s r.other).posted ++ ·) hnone).trans (List.append_nil _)
  · rw [hsent]
    exact h.carried r
  · have hcarried := h.carried r.other
    rw [HandshakeRole.other_other] at hcarried
    rwa [hsent']
  · rw [hsent]
    exact h.offered r
  · have hoffered := h.offered r.other
    rw [HandshakeRole.other_other] at hoffered
    rwa [hsent']
  · have hdelivered := deliveries_newEffects hheard.posts hheard.deliveries
    rw [htaken, ← h.delivered r]
    exact congrArg ((s r.other).delivered ++ ·) hdelivered
  · have hdelivered := h.delivered r.other
    rw [HandshakeRole.other_other] at hdelivered
    rw [hdelivered, hy]
  · exact hreach
  · exact .single hstep

/-- The end that a payload has arrived at. -/
def arrived (s : SessionPair SecretKey PublicKey ν μ) (r : HandshakeRole)
    (arrival : Node.Arrival SecretKey) (payload : Bytes) : SessionPair SecretKey PublicKey ν μ :=
  s.step (r.other, .arrival arrival payload)

/-- **A letter arrives** and is taken, or not. -/
theorem Inv.arrive (haead : ChaCha20Poly1305.Lawful) (h : Inv o s c)
    (hreceived : ∀ r, ∀ k ∈ o.received r, k < o.first r.other) {l : ℕ × Node.Frame}
    (hl : l ∈ (c r).sent) (arrival : Node.Arrival SecretKey) :
    (∃ c', Inv o (s.arrived r arrival l.2.payload) c' ∧
      ∀ r', Channel.Reach REPLAY_WINDOW_SIZE (c r') (c' r')) ∧
    (s.arrived r arrival l.2.payload r.other).delivered = (s r.other).delivered ++
      if (c r).Takes REPLAY_WINDOW_SIZE l.1 then delivery (l, arrival.ceFlag) else [] := by
  have hsession := h.onSession r.other
  rw [HandshakeRole.other_other] at hsession
  have hcarried : Node.IsCarried SecretKey PublicKey ν μ (o.addr r) (s r.other).node.nodeAddr
      (o.keys r.other).recv l.1 l.2 := by
    rw [h.nodeAddr, o.keys_other]
    exact h.carried r l hl
  have hpeer : (s r.other.other).node.nodeAddr = o.addr r := by
    rw [HandshakeRole.other_other]
    exact h.nodeAddr r
  have harrived : s.arrived r arrival l.2.payload = Function.update s r.other ((s r.other).acted
      (o.addr r) ((s r.other).node.receive arrival (o.addr r) l.2.payload)) := by
    unfold arrived step SessionEnd.step
    dsimp only
    rw [hpeer]
  rw [harrived, Function.update_self]
  have hfresh := h.fresh_iff hreceived hl
  have hheard := Node.receive_of_wp (P := fun n' =>
    (Node.Fresh (o.received r.other ++ (c r).letters.map Prod.fst) l.1 ∧
      Node.Heard (o.addr r) (o.pubkey r.other) (o.keys r.other)
        (o.received r.other ++ (c r).letters.map Prod.fst ++ [l.1]) (c r.other).next
        (delivery (l, arrival.ceFlag)) (s r.other).node n') ∨
    (¬ Node.Fresh (o.received r.other ++ (c r).letters.map Prod.fst) l.1 ∧
      Node.Heard (o.addr r) (o.pubkey r.other) (o.keys r.other)
        (o.received r.other ++ (c r).letters.map Prod.fst) (c r.other).next [] (s r.other).node n'))
    (Node.wp_handleSessionPayload_frame arrival.env haead hsession arrival.pathMtu arrival.ceFlag
      hcarried (fun hl n' hn' => .inl ⟨hl, hn'⟩) fun hl n' hn' => .inr ⟨hl, hn'⟩)
  rcases hheard with ⟨hl', hheard⟩ | ⟨hl', hheard⟩
  · have htakes := hfresh.mp hl'
    obtain ⟨x, hx⟩ : ∃ x : Letters, x = { c r with
      taken := (c r).taken ++ [(l, arrival.ceFlag)] } := ⟨_, rfl⟩
    have hletters : x.letters.map Prod.fst = (c r).letters.map Prod.fst ++ [l.1] := by
      rw [hx]
      unfold Channel.State.letters
      rw [List.map_append, List.map_append]
      rfl
    have hreach : Channel.Reach REPLAY_WINDOW_SIZE (c r) x := by
      rw [hx]
      exact .single (.take (c r) l arrival.ceFlag hl htakes)
    have htaken : x.taken.flatMap delivery =
        (c r).taken.flatMap delivery ++ delivery (l, arrival.ceFlag) := by
      rw [hx, List.flatMap_append, List.flatMap_singleton]
    rw [List.append_assoc, ← hletters] at hheard
    refine ⟨h.hear hreach (by rw [hx]) (by rw [hx]) htaken hheard, ?_⟩
    · rw [if_pos htakes]
      exact congrArg ((s r.other).delivered ++ ·)
        (deliveries_newEffects hheard.posts hheard.deliveries)
  · refine ⟨h.hear .refl rfl rfl (List.append_nil _).symm hheard, ?_⟩
    rw [if_neg fun htakes => hl' (hfresh.mpr htakes)]
    exact congrArg ((s r.other).delivered ++ ·)
      (deliveries_newEffects hheard.posts hheard.deliveries)

omit [Sha256] [HkdfSha256] [Secp256k1 SecretKey PublicKey] [ChaCha20Poly1305] in
theorem onSession_waits {peer : NodeAddr} {pubkey : PublicKey} {keys : KeyPair} {received : List ℕ}
    {next : ℕ} {n n' : Node SecretKey PublicKey ν μ}
    (h : Node.OnSession peer pubkey keys received next n) (hwaits : Node.Waits peer n n')
    (hnone : n'.pendingTunPackets.lookup peer = none) :
    Node.OnSession peer pubkey keys received next n' := by
  obtain ⟨⟨session, hstage, hsession⟩, hbound, -⟩ := h
  exact ⟨⟨session, hstage.waits hwaits, hsession⟩, hbound, hnone⟩

/-- **One event** is a run of the two channels. -/
theorem Inv.next (haead : ChaCha20Poly1305.Lawful) (h : Inv o s c)
    (hreceived : ∀ r, ∀ k ∈ o.received r, k < o.first r.other)
    {event : HandshakeRole × SessionEvent SecretKey PublicKey ν μ} (hevent : Allowed s event) :
    ∃ c', Inv o (s.step event) c' ∧ ∀ r, Channel.Reach REPLAY_WINDOW_SIZE (c r) (c' r) := by
  obtain ⟨r, event⟩ := event
  have hpeer := h.nodeAddr r.other
  have hsession := h.onSession r
  cases event with
  | packet env packet =>
    have hfit : Node.CoordsFit env (s r.other).node.nodeAddr := hevent
    rw [hpeer] at hfit
    have hrebuilt : (Node.rebuilt (s r).node.nodeAddr (o.addr r.other) packet).toList.Sublist
        ([packet].filterMap (Node.rebuilt (o.addr r) (o.addr r.other))) := by
      rw [h.nodeAddr r]
      cases hpacket : Node.rebuilt (o.addr r) (o.addr r.other) packet <;> simp [hpacket]
    obtain ⟨packets, hpackets, hsends⟩ := fst_of_wp (P := fun n' => ∃ packets,
        packets.Sublist ([packet].filterMap (Node.rebuilt (o.addr r) (o.addr r.other))) ∧
        Node.Sends (o.addr r.other) (o.pubkey r) (o.keys r)
          (o.received r ++ (c r.other).letters.map Prod.fst) (c r).next packets (s r).node n')
      (wp_mono (fun _ n' hn' => ⟨_, hrebuilt, hn'⟩) (fun _ n' hn' => ⟨[], List.nil_sublist _, hn'⟩)
        (Node.wp_sendIpv6Packet_sends env haead hfit hsession packet))
    obtain ⟨letters, next, hposted⟩ := h.posted_of_sends [packet] hsends hpackets
    have hstep := h.post hposted
    unfold step SessionEnd.step
    dsimp only
    rwa [hpeer]
  | warmup env =>
    have hfit : Node.CoordsFit env (s r.other).node.nodeAddr := hevent
    rw [hpeer] at hfit
    have hsends := fst_of_wp (Node.wp_sendCoordsWarmup_sends env haead hfit hsession)
    obtain ⟨letters, next, hposted⟩ := h.posted_of_sends [] hsends (List.Sublist.refl _)
    have hstep := h.post hposted
    rw [List.append_nil] at hstep
    unfold step SessionEnd.step
    dsimp only
    rwa [hpeer]
  | message env msgType payload =>
    have hsends := fst_of_wp (Node.wp_sendSessionMsg_sends env haead hevent hsession payload)
    obtain ⟨letters, next, hposted⟩ := h.posted_of_sends [] hsends (List.Sublist.refl _)
    have hstep := h.post hposted
    rw [List.append_nil] at hstep
    unfold step SessionEnd.step
    dsimp only
    rwa [hpeer]
  | arrival arrival payload =>
    have hmem : payload ∈ (s r.other).posted := hevent
    rw [h.posted r.other] at hmem
    obtain ⟨l, hl, rfl⟩ := List.mem_map.mp hmem
    have harrive := (h.arrive haead hreceived hl arrival).1
    unfold arrived at harrive
    rwa [HandshakeRole.other_other] at harrive
  | rest n' =>
    obtain ⟨hwaits, hposts, hnone⟩ := hevent
    rw [hpeer] at hwaits hposts hnone
    have hposted : Posted o s c r [] (c r).next
        { (s r).acted (o.addr r.other) n' with delivered := (s r).delivered } := by
      refine ⟨.nil le_rfl, ?_, onSession_waits hsession hwaits hnone, ?_, List.forall_mem_nil _,
        ⟨[], (List.append_nil _).symm, List.Sublist.refl _⟩, rfl⟩
      · exact (congrArg Identity.nodeAddr hwaits.identity).trans (h.nodeAddr r)
      · exact congrArg ((s r).posted ++ ·) (filterMap_newEffects hposts)
    have hstep := h.post hposted
    unfold step SessionEnd.step
    dsimp only
    rwa [hpeer]

/-- **Every run** is a run of the two channels. -/
theorem Inv.run (haead : ChaCha20Poly1305.Lawful)
    (hreceived : ∀ r, ∀ k ∈ o.received r, k < o.first r.other)
    {es : List (HandshakeRole × SessionEvent SecretKey PublicKey ν μ)} (h : Inv o s c)
    (hrun : Along step Allowed s es) :
    ∃ c', Inv o (exec step s es) c' ∧ ∀ r, Channel.Reach REPLAY_WINDOW_SIZE (c r) (c' r) := by
  induction es generalizing s c with
  | nil => exact ⟨c, h, fun _ => .refl⟩
  | cons event es ih =>
    obtain ⟨c₁, h₁, hreach₁⟩ := h.next haead hreceived hrun.1
    obtain ⟨c₂, h₂, hreach₂⟩ := ih h₁ hrun.2
    exact ⟨c₂, h₂, fun r => (hreach₁ r).trans (hreach₂ r)⟩

/-! ## The packets of a session -/

/-- What passed from `r` to the other end. -/
structure Transported (o : Opening PublicKey) (s : SessionPair SecretKey PublicKey ν μ)
    (r : HandshakeRole) (c : Letters) : Prop where
  reach : Channel.Reach REPLAY_WINDOW_SIZE ⟨o.first r, [], []⟩ c
  posted : (s r).posted = c.sent.map (·.2.payload)
  delivered : (s r.other).delivered = c.taken.flatMap delivery
  /-- Each packet is delivered at most as often as it was offered. -/
  once : (c.letters.flatMap (·.2.packets)).Subperm
    ((s r).offered.filterMap (Node.rebuilt (o.addr r) (o.addr r.other)))
  /-- Packets whose frames are taken in order are delivered in order. -/
  inOrder : c.letters.Pairwise (·.1 < ·.1) → (c.letters.flatMap (·.2.packets)).Sublist
    ((s r).offered.filterMap (Node.rebuilt (o.addr r) (o.addr r.other)))
  /-- A packet between the addresses of the ends is rebuilt as it was. -/
  rebuilt : ∀ packet, IsIpv6 packet → ipv6Source packet = Node.fipsAddress (o.addr r) →
    ipv6Destination packet = Node.fipsAddress (o.addr r.other) →
    Node.rebuilt (o.addr r) (o.addr r.other) packet = some packet
  /-- A frame that arrives is taken if its counter is new and in the window. -/
  arrives : ∀ l ∈ c.sent, ∀ arrival : Node.Arrival SecretKey,
    (s.arrived r arrival l.2.payload r.other).delivered = (s r.other).delivered ++
      if c.Takes REPLAY_WINDOW_SIZE l.1 then delivery (l, arrival.ceFlag) else []

/-- **The session as a channel.** After any run between two rekeys, in which frames are lost, delayed,
reordered and repeated, the packets of each end that the other has delivered are among those it was
given to send, none more often than it was given; they are in order where their frames arrived in
order, and a frame is refused only if it was taken before or has left the replay window. -/
theorem session_channel (haead : ChaCha20Poly1305.Lawful) (hs : Linked o s)
    {es : List (HandshakeRole × SessionEvent SecretKey PublicKey ν μ)}
    (hrun : Along step Allowed s es) (r : HandshakeRole) :
    ∃ c, Transported o (exec step s es) r c := by
  obtain ⟨c, hinv, hreach⟩ := Inv.run haead hs.received hs.inv hrun
  have hconsistent := hinv.consistent r
  refine ⟨c r, hreach r, hinv.posted r, hinv.delivered r, ?_, fun hsorted => ?_,
    fun packet hpacket hsrc hdest => Node.rebuilt_of_isIpv6 hpacket hsrc hdest,
    fun l hl arrival => (hinv.arrive haead hs.received hl arrival).2⟩
  · exact (hconsistent.flatMap_subperm _).trans (hinv.offered r).subperm
  · exact ((hconsistent.letters_sublist hsorted).flatMap _).trans (hinv.offered r)

end SessionPair

end Model

section Sample

open Sample

namespace SessionPair

/-- One end of the session below. -/
def linkedEnd (self peer : Nat) (role : HandshakeRole) (sendKey recvKey : UInt8) :
    SessionEnd Scalar Point Unit Unit where
  node := inSession self peer role sendKey recvKey 0
  posted := []
  offered := []
  delivered := []

/-- Nodes 1 and 2 with a session between them. -/
def linkedPair : SessionPair Scalar Point Unit Unit
  | .initiator => linkedEnd 1 2 .initiator 5 6
  | .responder => linkedEnd 2 1 .responder 6 5

/-- The session of `linkedPair`. -/
def opening : Opening Point where
  addr
    | .initiator => addr 1
    | .responder => addr 2
  initiatorKeys := ⟨List.replicate 32 5, List.replicate 32 6⟩
  pubkey _ := ⟨3⟩
  received _ := []
  first _ := 0

theorem linked_linkedPair : Linked opening linkedPair where
  nodeAddr := by rintro (_ | _) <;> rfl
  onSession := by
    rintro (_ | _)
    all_goals
      exact ⟨⟨_, ⟨_, AList.lookup_insert _, rfl, rfl, rfl, rfl⟩,
        ⟨rfl, rfl, rfl, rfl, ReplayWindow.represents_new, List.nodup_nil⟩, rfl⟩, by decide, rfl⟩
  received _ := List.forall_mem_nil _
  posted := by rintro (_ | _) <;> rfl
  offered := by rintro (_ | _) <;> rfl
  delivered := by rintro (_ | _) <;> rfl

/-- The frame of an echo reply. -/
def echoFrame : Bytes :=
  [0, 0, 21, 0, 0, 0, 0, 0, 0, 0, 0, 0, 0, 0, 0, 0, 16, 0, 0, 1, 0, 1, 0, 106, 177, 205, 239, 58, 64,
    129, 0, 1, 2] ++ List.replicate 16 193

/-- An echo reply is sent, and arrives twice, first marked. -/
theorem session_channel_echoReply :
    ∃ c, Transported opening (exec step linkedPair [(.initiator, .packet (env 1 0 ⟨7⟩) echoReply),
      (.responder, .arrival ⟨env 2 5 ⟨11⟩, 1280, true⟩ echoFrame),
      (.responder, .arrival ⟨env 2 9 ⟨11⟩, 1280, false⟩ echoFrame)]) .initiator c := by
  have hposted : (linkedPair.step (.initiator, .packet (env 1 0 ⟨7⟩) echoReply) .initiator).posted =
      [echoFrame] := by decide +kernel
  have hmem : echoFrame ∈
      (linkedPair.step (.initiator, .packet (env 1 0 ⟨7⟩) echoReply) .initiator).posted := by
    rw [hposted]
    exact List.mem_singleton_self _
  have hrun : Along step Allowed linkedPair [(.initiator, .packet (env 1 0 ⟨7⟩) echoReply),
      (.responder, .arrival ⟨env 2 5 ⟨11⟩, 1280, true⟩ echoFrame),
      (.responder, .arrival ⟨env 2 9 ⟨11⟩, 1280, false⟩ echoFrame)] :=
    ⟨⟨by decide, by decide⟩, hmem, hmem, trivial⟩
  exact session_channel aead_lawful linked_linkedPair hrun .initiator

end SessionPair

end Sample

end Fips
