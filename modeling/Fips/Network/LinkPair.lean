import Fips.Lib.Run
import Fips.Node.LinkExchange
import Fips.Node.LinkSample

/-!
# Two nodes that link with each other

Two nodes that know each other and may both begin a handshake, at the same time or one after the other.
Any msg1 and any msg2 one of them gave to its transports arrives at the other at any time, any number
of times and in any order, or never. In between the nodes do anything that leaves their handshake with
each other and the link they have alone but for times, counters and measurements (`Rests`).

## What the runs leave out

* Each node begins one handshake at most, and it is never given up: no time-out (`check_timeouts`), no
  retry and no `cleanup_stale_connection`. With a handshake given up, one node may end up on the link of
  an answer whose handshake the other has forgotten.
* The transport has no connections of its own to establish, and every send succeeds.
* A msg1 that arrives is not held up (`LinkNode.Admits`) and not so late that it counts as a rekey, and
  the table of peers has room for it.

What the two do is a run of `Crossing`: an offer is a msg1, its answer the msg2, and a party is on the
link of the handshake whose session its peer has.

## Results

* `Tracks.next`: every event of the pair is a step of the two parties, or none.
* `links_agree`: nodes that are both linked have the two ends of one link, each with the index the
  other sends to, or they have as soon as an answer that the larger address gave has arrived.
-/

open Checked Crossing EventRun

namespace Fips

variable {SecretKey PublicKey ν μ : Type}

/-- One of the two: its node, and the msg1s and msg2s it gave to its transports for the other. -/
structure Neighbour (SecretKey PublicKey ν μ : Type) where
  node : LinkNode SecretKey PublicKey ν μ
  offered : List Bytes
  answered : List Bytes

/-- What may happen to it. -/
inductive LinkPairEvent (SecretKey PublicKey ν μ : Type)
  | initiate (env : LinkEnv SecretKey) (remoteAddr : TransportAddr)
  | msg1 (env : LinkEnv SecretKey) (packet : ReceivedPacket)
  | msg2 (env : LinkEnv SecretKey) (packet : ReceivedPacket)
  | rest (n' : LinkNode SecretKey PublicKey ν μ)

/-- The two neighbours, by the order of their addresses. -/
abbrev LinkPair (SecretKey PublicKey ν μ : Type) := Side → Neighbour SecretKey PublicKey ν μ

namespace LinkNode

/-- The same handshake, but for its resends and counters. -/
structure SameHandshake (c c' : PeerConnection SecretKey PublicKey) : Prop where
  direction : c'.direction = c.direction
  handshakeState : c'.handshakeState = c.handshakeState
  noiseHandshake : c'.noiseHandshake = c.noiseHandshake
  expectedIdentity : c'.expectedIdentity = c.expectedIdentity
  ourIndex : c'.ourIndex = c.ourIndex
  transportId : c'.transportId = c.transportId

/-- The same link, but for its counters, times and measurements. -/
structure SameLink (p p' : ActivePeer SecretKey PublicKey ν) : Prop where
  session : ∀ s, p.noiseSession = some s → ∃ s', p'.noiseSession = some s' ∧
    ∀ keys received, s.Under keys received → ∃ received', s'.Under keys received'
  ourIndex : p'.ourIndex = p.ourIndex
  theirIndex : p'.theirIndex = p.theirIndex
  transportId : p'.transportId = p.transportId
  remoteEpoch : p'.remoteEpoch = p.remoteEpoch
  handshakeMsg2 : p'.handshakeMsg2 = p.handshakeMsg2

/-- The node does something else: the handshake with the other node, begun with one of these msg1s,
and the link with it stay. This leaves out a time-out or a cleanup of that handshake, and the removal
of the other node. -/
structure Rests [Sha256] [Secp256k1 SecretKey PublicKey] (w : Neighbours SecretKey PublicKey) (r : Side)
    (offered : List Bytes) (n n' : LinkNode SecretKey PublicKey ν μ) : Prop where
  identity : n'.identity = n.identity
  startupEpoch : n'.startupEpoch = n.startupEpoch
  nextLinkId : n.nextLinkId ≤ n'.nextLinkId
  pendingOutbound : ∀ msg1 ∈ offered, ∀ header, Msg1Header.parse msg1 = .ok header →
    n'.pendingOutbound.lookup (w.transportId r, header.senderIdx) =
      n.pendingOutbound.lookup (w.transportId r, header.senderIdx)
  connections : ∀ l c, n.connections.lookup l = some c →
    c.expectedIdentity = some ⟨w.known r.other⟩ →
      ∃ c', n'.connections.lookup l = some c' ∧ SameHandshake c c'
  stranger : n.peers.lookup (w.addr r.other) = none → n'.peers.lookup (w.addr r.other) = none
  peer : ∀ p, n.peers.lookup (w.addr r.other) = some p →
    ∃ p', n'.peers.lookup (w.addr r.other) = some p' ∧ SameLink p p' ∧
      ∀ i, p.ourIndex = some i →
        n.peersByIndex.lookup (w.transportId r, i) = some (w.addr r.other) →
          n'.peersByIndex.lookup (w.transportId r, i) = some (w.addr r.other)

end LinkNode

section Model

variable [Sha256] [HkdfSha256] [ChaCha20Poly1305] [Secp256k1 SecretKey PublicKey] [Mmp ν]
  (w : Neighbours SecretKey PublicKey)

namespace Neighbour

/-- What the node gave to its transports on the way to `n'`. -/
def newFrames (e : Neighbour SecretKey PublicKey ν μ) (n' : LinkNode SecretKey PublicKey ν μ) :
    List Bytes := (n'.outbox.drop e.node.outbox.length).map (·.data)

/-- One event at one neighbour, and the frames that it adds to those on the way. -/
def step (r : Side) (e : Neighbour SecretKey PublicKey ν μ) :
    LinkPairEvent SecretKey PublicKey ν μ → Neighbour SecretKey PublicKey ν μ
  | .initiate env remoteAddr =>
    let n' := (LinkNode.initiateConnection env (w.transportId r) remoteAddr ⟨w.known r.other⟩
      e.node).1
    { e with node := n', offered := e.offered ++ e.newFrames n' }
  | .msg1 env packet =>
    let n' := (LinkNode.handleMsg1 env packet e.node).1
    { e with node := n', answered := e.answered ++ e.newFrames n' }
  | .msg2 env packet => { e with node := (LinkNode.handleMsg2 env packet e.node).1 }
  | .rest n' => { e with node := n' }

end Neighbour

namespace LinkPair

/-- One event of the pair. -/
def step (s : LinkPair SecretKey PublicKey ν μ)
    (event : Side × LinkPairEvent SecretKey PublicKey ν μ) : LinkPair SecretKey PublicKey ν μ :=
  Function.update s event.1 ((s event.1).step w event.1 event.2)

/-- What an event may be: each begins at most one handshake, over a transport without connections, and
that goes out; what arrives was given to a transport by the other, is not held up and finds room in the
table of peers, and no msg1 is so late that it counts as a rekey. This leaves out a second try after
the first, a transport that connects first and a send that fails. -/
def Allowed (s : LinkPair SecretKey PublicKey ν μ)
    (event : Side × LinkPairEvent SecretKey PublicKey ν μ) : Prop :=
  let n := (s event.1).node
  let a := w.addr event.1.other
  match event.2 with
  | .initiate env remoteAddr => (s event.1).offered = [] ∧
      env.connectionOriented (w.transportId event.1) = false ∧
      (∀ data, env.send (w.transportId event.1) remoteAddr data = .sent) ∧
      (allocateFrom env.draws n.allocatedIndices).isSome
  | .msg1 env packet => packet.data ∈ (s event.1.other).offered ∧
      packet.transportId = w.transportId event.1 ∧ n.Admits env packet ∧
      (n.peers.lookup a = none → ¬n.Full) ∧
      ∀ p, n.peers.lookup a = some p → LinkNode.isRekey n.config env.instant p = false
  | .msg2 _ packet => packet.data ∈ (s event.1.other).answered ∧
      packet.transportId = w.transportId event.1 ∧ (n.peers.lookup a = none → ¬n.Full)
  | .rest n' => (s event.1).node.Rests w event.1 (s event.1).offered n'

/-- The two nodes have nothing to do with each other yet. -/
structure Starts (s : LinkPair SecretKey PublicKey ν μ) : Prop where
  is : ∀ r, (s r).node.Is w r
  offered : ∀ r, (s r).offered = []
  answered : ∀ r, (s r).answered = []
  strangers : ∀ r, (s r).node.peers.lookup (w.addr r.other) = none

/-- The two have the ends of one link: what one sends under the other receives under, each uses the
other's index, and frames to its own are taken as the other's. -/
def Agreed (s : LinkPair SecretKey PublicKey ν μ) : Prop :=
  ∃ terms : Side → LinkTerms, terms .upper = (terms .lower).flip ∧ ∀ r, ∃ msg2,
    (s r).node.HasLink (w.addr r.other) (terms r) (w.transportId r) (w.startupEpoch r.other) msg2

/-! ## The two parties -/

/-- The pair, seen as two parties whose offers may cross. -/
abbrev Exchange (SecretKey PublicKey : Type) :=
  Crossing.State (LinkOffer SecretKey PublicKey) (LinkAnswer PublicKey)

variable {w}

/-- The handshake of `r` has this answer. -/
def Answered (c : Exchange SecretKey PublicKey) (r : Side) (o : LinkOffer SecretKey PublicKey)
    (a : LinkAnswer PublicKey) : Prop := c.offer r = some o ∧ c.answer r = some a

/-- `r` has the link of the handshake of `r'`, and the msg2 it may repeat answers the other. -/
def OnLinkOf (w : Neighbours SecretKey PublicKey) (c : Exchange SecretKey PublicKey) (r r' : Side)
    (n : LinkNode SecretKey PublicKey ν μ) : Prop :=
  ∃ o a msg2, Answered c r' o a ∧
    n.HasLink (w.addr r.other) (if r' = r then a.terms o else (a.terms o).flip) (w.transportId r)
      (w.startupEpoch r.other) msg2 ∧
    ∀ frame, msg2 = some frame → ∃ o' a', Answered c r.other o' a' ∧ frame = a'.frame o'

/-- One end is as its party says. -/
structure EndTracks (w : Neighbours SecretKey PublicKey) (c : Exchange SecretKey PublicKey) (r : Side)
    (e : Neighbour SecretKey PublicKey ν μ) : Prop where
  is : e.node.Is w r
  offered : e.offered = ((c.offer r).map LinkOffer.frame).toList
  awaits : ∀ o, c.offer r = some o → c.heard r = false → e.node.Awaits w r o
  closed : ∀ o, c.offer r = some o → c.heard r = true →
    e.node.pendingOutbound.lookup (w.transportId r, o.index) = none
  answered : ∀ frame ∈ e.answered, ∃ o a, Answered c r.other o a ∧ frame = a.frame o
  answers : ∀ o a, Answered c r.other o a → a.frame o ∈ e.answered
  stranger : c.active r = none → e.node.peers.lookup (w.addr r.other) = none
  linked : ∀ r', c.active r = some r' → OnLinkOf w c r r' e.node

/-- The pair is as its parties say, and what these exchange is genuine. -/
structure Tracks (w : Neighbours SecretKey PublicKey) (c : Exchange SecretKey PublicKey)
    (s : LinkPair SecretKey PublicKey ν μ) : Prop where
  consistent : Consistent c
  ends : ∀ r, EndTracks w c r (s r)
  offer : ∀ r o, c.offer r = some o → o.By w r
  answer : ∀ r o a, Answered c r o a → a.To w r o

section Ends

variable {c c' : Exchange SecretKey PublicKey} {r r' : Side} {e : Neighbour SecretKey PublicKey ν μ}
  {n n' : LinkNode SecretKey PublicKey ν μ}

/-- What was offered and answered before still is. -/
def Extends (c c' : Exchange SecretKey PublicKey) : Prop := ∀ r o a, Answered c r o a → Answered c' r o a

omit [HkdfSha256] [ChaCha20Poly1305] [Mmp ν] in
theorem OnLinkOf.extends (h : OnLinkOf w c r r' n) (hext : Extends c c') : OnLinkOf w c' r r' n := by
  obtain ⟨o, a, msg2, hanswered, hlink, hmsg2⟩ := h
  refine ⟨o, a, msg2, hext _ o a hanswered, hlink, fun frame hframe => ?_⟩
  obtain ⟨o', a', hanswered', heq⟩ := hmsg2 frame hframe
  exact ⟨o', a', hext _ o' a' hanswered', heq⟩

omit [HkdfSha256] [ChaCha20Poly1305] [Mmp ν] in
/-- A step of the other party is nothing to this end. -/
theorem EndTracks.extends (h : EndTracks w c r e) (hext : Extends c c') (hoffer : c'.offer r = c.offer r)
    (hheard : c'.heard r = c.heard r) (hactive : c'.active r = c.active r)
    (hanswers : ∀ o a, Answered c' r.other o a → Answered c r.other o a) : EndTracks w c' r e where
  is := h.is
  offered := hoffer ▸ h.offered
  awaits o ho hdeaf := h.awaits o (hoffer ▸ ho) (hheard ▸ hdeaf)
  closed o ho hheard' := h.closed o (hoffer ▸ ho) (hheard ▸ hheard')
  answered frame hframe := by
    obtain ⟨o, a, hanswered, heq⟩ := h.answered frame hframe
    exact ⟨o, a, hext _ o a hanswered, heq⟩
  answers o a hanswered := h.answers o a (hanswers o a hanswered)
  stranger hidle := h.stranger (hactive ▸ hidle)
  linked r' hr' := (h.linked r' (hactive ▸ hr')).extends hext

end Ends

section Steps

variable {c : Exchange SecretKey PublicKey} {s : LinkPair SecretKey PublicKey ν μ} {r : Side}
  {n' : LinkNode SecretKey PublicKey ν μ} {env : LinkEnv SecretKey} {packet : ReceivedPacket}

omit [Sha256] [HkdfSha256] [ChaCha20Poly1305] [Secp256k1 SecretKey PublicKey] [Mmp ν] in
theorem newFrames_of_append {e : Neighbour SecretKey PublicKey ν μ} {out : List Outgoing}
    (h : n'.outbox = e.node.outbox ++ out) : e.newFrames n' = out.map (·.data) := by
  unfold Neighbour.newFrames
  rw [h, List.drop_left]

omit [HkdfSha256] [ChaCha20Poly1305] [Mmp ν] in
theorem OnLinkOf.congr {r' : Side} {n : LinkNode SecretKey PublicKey ν μ} (h : OnLinkOf w c r r' n)
    (hpeers : n'.peers = n.peers) (hindices : n'.peersByIndex = n.peersByIndex) :
    OnLinkOf w c r r' n' := by
  obtain ⟨o, a, msg2, hanswered, ⟨p, hp, hlinked, hindex⟩, hmsg2⟩ := h
  exact ⟨o, a, msg2, hanswered, ⟨p, hpeers ▸ hp, hlinked, hindices ▸ hindex⟩, hmsg2⟩

omit [Mmp ν] in
/-- A step of one party, which the end of the other does not see. -/
theorem Tracks.acted (h : Tracks w c s) {c' : Exchange SecretKey PublicKey}
    {e : Neighbour SecretKey PublicKey ν μ} (hstep : Relation.ReflGen Step c c') (hext : Extends c c')
    (hend : EndTracks w c' r e) (hoffer : c'.offer r.other = c.offer r.other)
    (hheard : c'.heard r.other = c.heard r.other) (hactive : c'.active r.other = c.active r.other)
    (hanswers : ∀ o a, Answered c' r o a → Answered c r o a)
    (hoffers : ∀ r' o, c'.offer r' = some o → o.By w r')
    (hgenuine : ∀ r' o a, Answered c' r' o a → a.To w r' o) :
    Tracks w c' (Function.update s r e) where
  consistent := by
    cases hstep with
    | refl => exact h.consistent
    | single hstep => exact h.consistent.step hstep
  ends := by
    refine Side.forall_of r ?_ ?_
    · rw [Function.update_self]
      exact hend
    · rw [Function.update_of_ne r.other_ne]
      refine (h.ends r.other).extends hext hoffer hheard hactive fun o a hanswered => ?_
      rw [Side.other_other] at hanswered ⊢
      exact hanswers o a hanswered
  offer := hoffers
  answer := hgenuine

omit [Sha256] [HkdfSha256] [ChaCha20Poly1305] [Secp256k1 SecretKey PublicKey] in
theorem offer_makeOffer {o o' : LinkOffer SecretKey PublicKey} {r' : Side}
    (h : (c.makeOffer r o).offer r' = some o') : r' = r ∧ o' = o ∨ c.offer r' = some o' := by
  by_cases hr : r' = r
  · subst hr
    exact .inl ⟨rfl, Option.some.inj (h.symm.trans (Function.update_self _ _ _))⟩
  · exact .inr ((Function.update_of_ne hr _ _).symm.trans h)

omit [Sha256] [HkdfSha256] [ChaCha20Poly1305] [Secp256k1 SecretKey PublicKey] in
/-- An offer that was not made was not answered. -/
theorem answered_makeOffer (hfree : c.offer r = none) (hconsistent : Consistent c)
    {o o' : LinkOffer SecretKey PublicKey} {a : LinkAnswer PublicKey} {r' : Side} :
    Answered (c.makeOffer r o) r' o' a ↔ Answered c r' o' a := by
  have hunanswered : c.answer r = none := by
    by_contra hsome
    have hoffer := hconsistent.offered r (Option.isSome_iff_ne_none.mpr hsome)
    rw [hfree] at hoffer
    cases hoffer
  constructor
  · rintro ⟨ho, ha⟩
    obtain ⟨rfl, -⟩ | ho := offer_makeOffer ho
    · cases hunanswered.symm.trans ha
    · exact ⟨ho, ha⟩
  · rintro ⟨ho, ha⟩
    have hne : r' ≠ r := by
      rintro rfl
      cases hfree.symm.trans ho
    exact ⟨(Function.update_of_ne hne _ _).trans ho, ha⟩

/-- **A handshake begins.** -/
theorem Tracks.initiate (h : Tracks w c s) (hcurve : Secp256k1.Lawful SecretKey)
    (haead : ChaCha20Poly1305.Lawful) {remoteAddr : TransportAddr}
    (hallowed : Allowed w s (r, .initiate env remoteAddr)) :
    ∃ c', Relation.ReflGen Step c c' ∧ Tracks w c' (step w s (r, .initiate env remoteAddr)) := by
  obtain ⟨hnone, hless, hsends, hdraws⟩ := hallowed
  obtain ⟨index, hdraw⟩ := Option.isSome_iff_exists.mp hdraws
  have hend := h.ends r
  have hfree : c.offer r = none := by
    have hoffered := hend.offered.symm.trans hnone
    cases ho : c.offer r with
    | none => rfl
    | some o => rw [ho] at hoffered; cases hoffered
  obtain ⟨o, ho, hephemeral, rfl⟩ := LinkNode.exists_offer hcurve haead w r env
    (LinkNode.allocateFrom_lt hdraw)
  have hoffers := fst_of_wp_returns (LinkNode.wp_initiateConnection_offers hend.is ho hephemeral hdraw
    hless hsends)
  have hanswered : ∀ r' o' a, Answered (c.makeOffer r o) r' o' a ↔ Answered c r' o' a :=
    fun r' o' a => answered_makeOffer hfree h.consistent
  have hext : Extends c (c.makeOffer r o) := fun r' o' a => (hanswered r' o' a).mpr
  have hmine : (c.makeOffer r o).offer r = some o := Function.update_self _ _ _
  have hstep : Relation.ReflGen Step c (c.makeOffer r o) := .single (.offer c r o hfree)
  refine ⟨c.makeOffer r o, hstep, h.acted hstep hext ⟨?_, ?_, ?_, ?_, ?_, ?_, ?_, ?_⟩
    (Function.update_of_ne r.other_ne _ _) rfl rfl (fun o' a => (hanswered r o' a).mp)
    (fun r' o' ho' => ?_) fun r' o' a ha => h.answer r' o' a ((hanswered r' o' a).mp ha)⟩
  · exact hend.is.congr hoffers.identity hoffers.startupEpoch
  · rw [hmine]
    unfold Neighbour.step
    dsimp only
    rw [newFrames_of_append hoffers.outbox, hnone]
    rfl
  · intro o' ho' _
    obtain rfl := Option.some.inj (hmine.symm.trans ho')
    exact hoffers.awaits
  · intro o' _ hheard
    have hsome := h.consistent.offered r (h.consistent.answered r hheard)
    rw [hfree] at hsome
    cases hsome
  · intro frame hframe
    obtain ⟨o', a, ha, heq⟩ := hend.answered frame hframe
    exact ⟨o', a, hext _ o' a ha, heq⟩
  · exact fun o' a ha => hend.answers o' a ((hanswered r.other o' a).mp ha)
  · intro hidle
    exact (congrArg _ hoffers.peers).trans (hend.stranger hidle)
  · exact fun r' hr' => ((hend.linked r' hr').extends hext).congr hoffers.peers hoffers.peersByIndex
  · obtain ⟨rfl, rfl⟩ | ho' := offer_makeOffer ho'
    · exact ho
    · exact h.offer r' o' ho'

omit [HkdfSha256] [ChaCha20Poly1305] [Mmp ν] in
/-- What an end sends and keeps that answers a msg1 or repeats its answer. -/
theorem EndTracks.replied {q : Side} {e : Neighbour SecretKey PublicKey ν μ}
    {c' : Exchange SecretKey PublicKey} (h : EndTracks w c q.other e) {out : List Outgoing}
    (hgoesOn : LinkNode.GoesOn e.node n') (hout : n'.outbox = e.node.outbox ++ out)
    (hext : Extends c c') (hoffer : c'.offer = c.offer) (hheard : c'.heard = c.heard)
    (hframes : ∀ x ∈ out, ∃ o a, Answered c' q o a ∧ x.data = a.frame o)
    (hanswers : ∀ o a, Answered c' q o a → Answered c q o a ∨ a.frame o ∈ out.map (·.data))
    (hstranger : c'.active q.other = none → n'.peers.lookup (w.addr q) = none)
    (hlinked : ∀ r', c'.active q.other = some r' → OnLinkOf w c' q.other r' n') :
    EndTracks w c' q.other { e with node := n', answered := e.answered ++ e.newFrames n' } where
  is := h.is.congr hgoesOn.identity hgoesOn.startupEpoch
  offered := hoffer ▸ h.offered
  awaits o ho hdeaf := (h.awaits o (hoffer ▸ ho) (hheard ▸ hdeaf)).goesOn hgoesOn
  closed o ho hheard' :=
    (congrArg _ hgoesOn.pendingOutbound).trans (h.closed o (hoffer ▸ ho) (hheard ▸ hheard'))
  answered := by
    rw [newFrames_of_append hout, Side.other_other]
    intro frame hframe
    rcases List.mem_append.mp hframe with hold | hnew
    · obtain ⟨o, a, hanswered, heq⟩ := h.answered frame hold
      rw [Side.other_other] at hanswered
      exact ⟨o, a, hext _ o a hanswered, heq⟩
    · obtain ⟨x, hx, rfl⟩ := List.mem_map.mp hnew
      exact hframes x hx
  answers o a ha := by
    rw [newFrames_of_append hout]
    rw [Side.other_other] at ha
    rcases hanswers o a ha with hold | hnew
    · exact List.mem_append_left _ (h.answers o a (q.other_other.symm ▸ hold))
    · exact List.mem_append_right _ hnew
  stranger := q.other_other.symm ▸ hstranger
  linked := hlinked

omit [Sha256] [HkdfSha256] [ChaCha20Poly1305] [Secp256k1 SecretKey PublicKey] in
theorem answered_giveAnswer {q q' : Side} {o : LinkOffer SecretKey PublicKey}
    {a b : LinkAnswer PublicKey} (hfresh : c.answer q = none) :
    Answered (c.giveAnswer q b) q' o a ↔ Answered c q' o a ∨ q' = q ∧ c.offer q = some o ∧ a = b := by
  by_cases hq : q' = q
  · subst hq
    have hnow : (c.giveAnswer q' b).answer q' = some b := Function.update_self _ _ _
    constructor
    · rintro ⟨ho, ha⟩
      exact .inr ⟨rfl, ho, Option.some.inj (ha.symm.trans hnow)⟩
    · rintro (⟨-, ha⟩ | ⟨-, ho, rfl⟩)
      · cases hfresh.symm.trans ha
      · exact ⟨ho, hnow⟩
  · have hsame : (c.giveAnswer q b).answer q' = c.answer q' := Function.update_of_ne hq _ _
    constructor
    · rintro ⟨ho, ha⟩
      exact .inl ⟨ho, hsame.symm.trans ha⟩
    · rintro (⟨ho, ha⟩ | ⟨hq', -⟩)
      · exact ⟨ho, hsame.trans ha⟩
      · exact absurd hq' hq

/-- **A msg1 arrives.** -/
theorem Tracks.msg1 (h : Tracks w c s) (hcurve : Secp256k1.Lawful SecretKey)
    (haead : ChaCha20Poly1305.Lawful) {q : Side}
    (hallowed : Allowed w s (q.other, .msg1 env packet)) :
    ∃ c', Relation.ReflGen Step c c' ∧ Tracks w c' (step w s (q.other, .msg1 env packet)) := by
  obtain ⟨hdata, htid, hadmits, hroom, hyoung⟩ := hallowed
  dsimp only at hdata hroom hyoung
  rw [Side.other_other] at hdata hroom hyoung
  have hend := h.ends q.other
  obtain ⟨o, ho, hframe⟩ : ∃ o, c.offer q = some o ∧ packet.data = o.frame := by
    rw [(h.ends q).offered] at hdata
    cases hoffer : c.offer q with
    | none => rw [hoffer] at hdata; cases hdata
    | some o =>
      rw [hoffer] at hdata
      exact ⟨o, rfl, List.mem_singleton.mp hdata⟩
  have hby := h.offer q o ho
  cases hactive : c.active q.other with
  | none =>
    have hnone := hend.stranger hactive
    rw [Side.other_other] at hnone
    obtain ⟨a, ha, hanswers⟩ := LinkNode.handleMsg1_answers hcurve haead hend.is hby hframe hadmits
      hnone (hroom hnone)
    have hfresh := h.consistent.answer_eq_none hactive
    have hanswered : ∀ q' o' a', Answered (c.giveAnswer q a) q' o' a' ↔
        Answered c q' o' a' ∨ q' = q ∧ c.offer q = some o' ∧ a' = a := fun q' o' a' =>
      answered_giveAnswer hfresh
    have hext : Extends c (c.giveAnswer q a) := fun q' o' a' ha' => (hanswered q' o' a').mpr (.inl ha')
    have hnow : Answered (c.giveAnswer q a) q o a := (hanswered q o a).mpr (.inr ⟨rfl, ho, rfl⟩)
    have hmine : (c.giveAnswer q a).active q.other = some q := Function.update_self _ _ _
    have hoffered : (c.offer q).isSome := by
      rw [ho]
      rfl
    refine ⟨c.giveAnswer q a, .single (.answer c q a hoffered hactive),
      h.acted (.single (.answer c q a hoffered hactive)) hext (hend.replied hanswers.goesOn
        hanswers.outbox hext rfl rfl ?_ ?_ ?_ ?_) rfl rfl ?_ ?_ h.offer ?_⟩
    · intro x hx
      exact ⟨o, a, hnow, congrArg _ (List.mem_singleton.mp hx)⟩
    · intro o' a' ha'
      rcases (hanswered q o' a').mp ha' with hold | ⟨-, ho', rfl⟩
      · exact .inl hold
      · obtain rfl := Option.some.inj (ho.symm.trans ho')
        exact .inr (List.mem_singleton.mpr rfl)
    · intro hidle
      cases hmine.symm.trans hidle
    · intro r' hr'
      obtain rfl := Option.some.inj (hmine.symm.trans hr')
      refine ⟨o, a, some (a.frame o), hnow, ?_, fun frame hframe' => ?_⟩
      · rw [if_neg (Side.ne_other q), Side.other_other, ← htid]
        exact hanswers.hasLink
      · rw [Side.other_other]
        exact ⟨o, a, hnow, (Option.some.inj hframe').symm⟩
    · refine Function.update_of_ne ?_ _ _
      exact q.other.other_ne
    · intro o' a' ha'
      rcases (hanswered q.other o' a').mp ha' with hold | ⟨hq, -⟩
      · exact hold
      · exact absurd hq q.other_ne
    · intro q' o' a' ha'
      rcases (hanswered q' o' a').mp ha' with hold | ⟨rfl, ho', rfl⟩
      · exact h.answer q' o' a' hold
      · obtain rfl := Option.some.inj (ho.symm.trans ho')
        exact ha
  | some r' =>
    obtain ⟨o', a', msg2, hanswered, hlink, hgenuine⟩ := hend.linked r' hactive
    obtain ⟨p, hp, hlinked, hindex⟩ := hlink
    rw [Side.other_other] at hp hlinked hgenuine
    have hrepeats := LinkNode.handleMsg1_repeats hcurve haead hend.is hby hframe hadmits hp
      hlinked.remoteEpoch (hyoung p hp)
    have hgoesOn : LinkNode.GoesOn (s q.other).node
        (LinkNode.handleMsg1 env packet (s q.other).node).1 := by
      rw [hrepeats]
      exact ⟨rfl, rfl, Nat.le_succ _, rfl, fun _ _ => rfl⟩
    refine ⟨c, .refl, h.acted .refl (fun _ _ _ ha => ha) (hend.replied hgoesOn (congrArg _ hrepeats)
      (fun _ _ _ ha => ha) rfl rfl ?_ (fun _ _ ha => .inl ha) ?_ ?_) rfl rfl rfl (fun _ _ ha => ha)
      h.offer h.answer⟩
    · intro x hx
      obtain ⟨frame, hframe', rfl⟩ := List.mem_map.mp hx
      rw [hlinked.handshakeMsg2] at hframe'
      exact hgenuine frame (Option.mem_toList.mp hframe')
    · intro hidle
      cases hactive.symm.trans hidle
    · intro r'' hr''
      exact (hend.linked r'' hr'').congr (by rw [hrepeats]) (by rw [hrepeats])

omit [HkdfSha256] [ChaCha20Poly1305] [Mmp ν] in
/-- What an end keeps that has heard the answer to its own handshake. -/
theorem EndTracks.hears {e : Neighbour SecretKey PublicKey ν μ} {o : LinkOffer SecretKey PublicKey}
    (h : EndTracks w c r e) (ho : c.offer r = some o) (hhears : LinkNode.Hears w r o e.node n')
    (hlinked : OnLinkOf w c r (c.settled r) n') :
    EndTracks w (c.hearAnswer r) r { e with node := n' } := by
  have hheard : (c.hearAnswer r).heard r = true := Function.update_self _ _ _
  have hactive : (c.hearAnswer r).active r = some (c.settled r) := Function.update_self _ _ _
  refine ⟨h.is.congr hhears.identity hhears.startupEpoch, h.offered, fun o' _ hdeaf => ?_,
    fun o' ho' _ => ?_, h.answered, h.answers, fun hidle => ?_, fun r' hr' => ?_⟩
  · cases hheard.symm.trans hdeaf
  · obtain rfl := Option.some.inj (ho.symm.trans ho')
    exact hhears.closed
  · cases hactive.symm.trans hidle
  · obtain rfl := Option.some.inj (hactive.symm.trans hr')
    exact hlinked

/-- **A msg2 arrives.** -/
theorem Tracks.msg2 (h : Tracks w c s) (hlt : w.addr .lower < w.addr .upper)
    (hallowed : Allowed w s (r, .msg2 env packet)) :
    ∃ c', Relation.ReflGen Step c c' ∧ Tracks w c' (step w s (r, .msg2 env packet)) ∧
      ((c.answer r).isSome → c'.heard r = true) := by
  obtain ⟨hdata, htid, hroom⟩ := hallowed
  dsimp only at hdata htid hroom
  have hend := h.ends r
  obtain ⟨o, a, hanswered, hframe⟩ := (h.ends r.other).answered _ hdata
  rw [Side.other_other] at hanswered
  have hby := h.offer r o hanswered.1
  have hto := h.answer r o a hanswered
  cases hheard : c.heard r with
  | true =>
    have hsame := LinkNode.handleMsg2_ignores env hby hto hframe htid
      (hend.closed o hanswered.1 hheard)
    refine ⟨c, .refl, ?_, fun _ => hheard⟩
    unfold step Neighbour.step
    dsimp only
    rw [hsame, Function.update_eq_self]
    exact h
  | false =>
    have hawaits := hend.awaits o hanswered.1 hheard
    have hanswer : (c.answer r).isSome := by
      rw [hanswered.2]
      rfl
    have hstep : Relation.ReflGen Step c (c.hearAnswer r) := .single (.hear c r hanswer hheard)
    have hacted : ∀ e, EndTracks w (c.hearAnswer r) r e →
        Tracks w (c.hearAnswer r) (Function.update s r e) := fun e he =>
      h.acted hstep (fun _ _ _ ha => ha) he rfl (Function.update_of_ne r.other_ne _ _)
        (Function.update_of_ne r.other_ne _ _) (fun _ _ ha => ha) h.offer h.answer
    refine ⟨c.hearAnswer r, hstep, hacted _ ?_, fun _ => Function.update_self _ _ _⟩
    cases hactive : c.active r with
    | none =>
      have hnone := hend.stranger hactive
      obtain ⟨hhears, hlink⟩ := LinkNode.handleMsg2_promotes env hby hto hframe htid hawaits
        hnone (hroom hnone)
      refine hend.hears hanswered.1 hhears ?_
      rw [State.settled_of_idle hactive]
      refine ⟨o, a, none, hanswered, ?_, fun _ hframe' => by cases hframe'⟩
      rw [if_pos rfl]
      exact hlink
    | some r' =>
      -- a link of its own handshake would have been heard of
      have hne : r' ≠ r := by
        rintro rfl
        cases hheard.symm.trans (h.consistent.active_heard r' hactive)
      have hlinked := hend.linked r' hactive
      obtain ⟨o', a', msg2, -, hlink, hgenuine⟩ := id hlinked
      cases r with
      | lower =>
        obtain ⟨hhears, hlink'⟩ := LinkNode.handleMsg2_swaps env hend.is hby hto hframe htid
          hawaits hlt hlink
        exact hend.hears hanswered.1 hhears ⟨o, a, msg2, hanswered, hlink', hgenuine⟩
      | upper =>
        obtain ⟨p, hp, -⟩ := hlink
        obtain ⟨hhears, hpeers, hindices⟩ := LinkNode.handleMsg2_yields env hend.is hby hto
          hframe htid hawaits hlt (Option.isSome_iff_exists.mpr ⟨p, hp⟩)
        refine hend.hears hanswered.1 hhears ?_
        rw [State.settled_upper hactive]
        exact hlinked.congr hpeers hindices

omit [HkdfSha256] [ChaCha20Poly1305] [Mmp ν] in
theorem OnLinkOf.rests {r' : Side} {offered : List Bytes} {n : LinkNode SecretKey PublicKey ν μ}
    (h : OnLinkOf w c r r' n) (hrests : n.Rests w r offered n') : OnLinkOf w c r r' n' := by
  obtain ⟨o, a, msg2, hanswered, ⟨p, hp, hlinked, hindex⟩, hmsg2⟩ := h
  obtain ⟨p', hp', hsame, hindices⟩ := hrests.peer p hp
  obtain ⟨x, received, hx, hunder⟩ := hlinked.session
  obtain ⟨x', hx', hkeys⟩ := hsame.session x hx
  obtain ⟨received', hunder'⟩ := hkeys _ received hunder
  refine ⟨o, a, msg2, hanswered, ⟨p', hp', ?_, hindices _ hlinked.ourIndex hindex⟩, hmsg2⟩
  exact ⟨⟨x', received', hx', hunder'⟩, hsame.ourIndex.trans hlinked.ourIndex,
    hsame.theirIndex.trans hlinked.theirIndex, hsame.transportId.trans hlinked.transportId,
    hsame.remoteEpoch.trans hlinked.remoteEpoch, hsame.handshakeMsg2.trans hlinked.handshakeMsg2⟩

/-- **Nothing arrives.** -/
theorem Tracks.rest (h : Tracks w c s) (hcurve : Secp256k1.Lawful SecretKey)
    (haead : ChaCha20Poly1305.Lawful) (hallowed : Allowed w s (r, .rest n')) :
    Tracks w c (step w s (r, .rest n')) := by
  have hend := h.ends r
  have hrests : (s r).node.Rests w r (s r).offered n' := hallowed
  -- the index of its own handshake leads where it did
  have hkey : ∀ o, c.offer r = some o →
      n'.pendingOutbound.lookup (w.transportId r, o.index) =
        (s r).node.pendingOutbound.lookup (w.transportId r, o.index) := by
    intro o ho
    have hby := h.offer r o ho
    obtain ⟨t, hmsg1, -⟩ := hby.transcript hcurve haead (w.secretKey r)
    have hsize : o.noiseMsg1.length = HANDSHAKE_MSG1_SIZE :=
      hmsg1 ▸ HandshakeState.length_of_readMessage1 t.read1
    have hmem : o.frame ∈ (s r).offered := by
      rw [hend.offered, ho]
      exact List.mem_singleton.mpr rfl
    exact hrests.pendingOutbound _ hmem _ (Msg1Header.parse_buildMsg1 hby.index_lt hsize).1
  refine h.acted .refl (fun _ _ _ ha => ha) ⟨hend.is.congr hrests.identity hrests.startupEpoch,
    hend.offered, fun o ho hdeaf => ?_, fun o ho hheard => (hkey o ho).trans (hend.closed o ho hheard),
    hend.answered, hend.answers, fun hidle => hrests.stranger (hend.stranger hidle),
    fun r' hr' => (hend.linked r' hr').rests hrests⟩ rfl rfl rfl (fun _ _ ha => ha) h.offer h.answer
  obtain ⟨l, x, hpending, hlt, hx, hwaits⟩ := hend.awaits o ho hdeaf
  obtain ⟨x', hx', hsame⟩ := hrests.connections l x hx hwaits.expectedIdentity
  refine ⟨l, x', (hkey o ho).trans hpending, hlt.trans_le hrests.nextLinkId, hx', ?_⟩
  exact ⟨hsame.direction.trans hwaits.direction, hsame.handshakeState.trans hwaits.handshakeState,
    hsame.noiseHandshake.trans hwaits.noiseHandshake,
    hsame.expectedIdentity.trans hwaits.expectedIdentity, hsame.ourIndex.trans hwaits.ourIndex,
    hsame.transportId.trans hwaits.transportId⟩

/-- **Every event** is a step of the two parties, or none. -/
theorem Tracks.next (h : Tracks w c s) (hcurve : Secp256k1.Lawful SecretKey)
    (haead : ChaCha20Poly1305.Lawful) (hlt : w.addr .lower < w.addr .upper)
    {event : Side × LinkPairEvent SecretKey PublicKey ν μ} (hallowed : Allowed w s event) :
    ∃ c', Relation.ReflGen Step c c' ∧ Tracks w c' (step w s event) := by
  obtain ⟨r, event⟩ := event
  cases event with
  | initiate env remoteAddr => exact h.initiate hcurve haead hallowed
  | msg1 env packet =>
    obtain ⟨q, rfl⟩ : ∃ q : Side, r = q.other := ⟨r.other, r.other_other.symm⟩
    exact h.msg1 hcurve haead hallowed
  | msg2 env packet =>
    obtain ⟨c', hstep, htracks, -⟩ := h.msg2 hlt hallowed
    exact ⟨c', hstep, htracks⟩
  | rest n' => exact ⟨c, .refl, h.rest hcurve haead hallowed⟩

omit [Mmp ν] in
theorem Starts.tracks (h : Starts w s) : Tracks w State.start s where
  consistent := .start
  ends r := by
    refine ⟨h.is r, h.offered r, fun o ho => ?_, fun o ho => ?_, fun frame hframe => ?_,
      fun o a ha => ?_, fun _ => h.strangers r, fun r' hr' => ?_⟩
    · cases ho
    · cases ho
    · rw [h.answered r] at hframe
      cases hframe
    · cases ha.1
    · cases hr'
  offer r o ho := by cases ho
  answer r o a ha := by cases ha.1

omit [Mmp ν] in
/-- Two parties on one link have its two ends. -/
theorem Tracks.agreed (h : Tracks w c s) {q : Side} (hq : ∀ r, c.active r = some q) : Agreed w s := by
  obtain ⟨o, a, msg2, ⟨ho, ha⟩, hlink, -⟩ := (h.ends q).linked q (hq q)
  refine ⟨fun r => if q = r then a.terms o else (a.terms o).flip, ?_, fun r => ?_⟩
  · cases q <;> rfl
  · obtain ⟨o', a', msg2', ⟨ho', ha'⟩, hlink', -⟩ := (h.ends r).linked q (hq r)
    obtain rfl := Option.some.inj (ho.symm.trans ho')
    obtain rfl := Option.some.inj (ha.symm.trans ha')
    exact ⟨msg2', hlink'⟩

/-- **The two ends of a link.** Two nodes that have linked, by a handshake of either or of both at
once, have the two ends of one link, or the larger address has given an answer to the smaller one's
handshake that is still to arrive, and they have as soon as it does. The run is one in which each node
tries once and keeps to it (`Allowed`): no time-out, retry, late msg1 or failed send. -/
theorem links_agree (hcurve : Secp256k1.Lawful SecretKey) (haead : ChaCha20Poly1305.Lawful)
    (hlt : w.addr .lower < w.addr .upper) (hstarts : Starts w s)
    {es : List (Side × LinkPairEvent SecretKey PublicKey ν μ)} (halong : Along (step w) (Allowed w) s es)
    (hlinked : ∀ r, ((exec (step w) s es r).node.peers.lookup (w.addr r.other)).isSome) :
    Agreed w (exec (step w) s es) ∨
      ∃ answer ∈ (exec (step w) s es .upper).answered, ∀ env packet, packet.data = answer →
        packet.transportId = w.transportId .lower →
          Agreed w (step w (exec (step w) s es) (.lower, .msg2 env packet)) := by
  have halways : Always (step w) (fun s => ∃ c : Exchange SecretKey PublicKey, Tracks w c s) s es :=
    .of_along (fun s e hs he => by
      obtain ⟨c, hc⟩ := hs
      obtain ⟨c', -, hc'⟩ := hc.next hcurve haead hlt he
      exact ⟨c', hc'⟩) ⟨_, hstarts.tracks⟩ halong
  obtain ⟨c, hc⟩ := halways.exec
  have hactive : ∀ r, c.active r ≠ none := by
    intro r hidle
    have hsome := hlinked r
    rw [(hc.ends r).stranger hidle] at hsome
    cases hsome
  rcases hc.consistent.agree hactive with ⟨q, hq⟩ | ⟨hcrossed, hanswer, -⟩
  · exact .inl (hc.agreed hq)
  · right
    obtain ⟨a, ha⟩ := Option.isSome_iff_exists.mp hanswer
    obtain ⟨o, ho⟩ := Option.isSome_iff_exists.mp (hc.consistent.offered _ hanswer)
    have hmem := (hc.ends .upper).answers o a ⟨ho, ha⟩
    refine ⟨_, hmem, fun env packet hdata htid => ?_⟩
    have hallowed : Allowed w (exec (step w) s es) (.lower, .msg2 env packet) := by
      refine ⟨hdata ▸ hmem, htid, fun hnone => ?_⟩
      have hsome := hlinked .lower
      rw [show (exec (step w) s es .lower).node.peers.lookup (w.addr Side.lower.other) = none
        from hnone] at hsome
      cases hsome
    obtain ⟨c', -, hc', hheard⟩ := hc.msg2 hlt hallowed
    exact hc'.agreed (hc'.consistent.agree_of_heard (hheard hanswer))

end Steps

end LinkPair

end Model

section Sample

open Sample

namespace LinkPair

/-- The nodes with the keys 5 and 7, each known by its key. -/
def neighbours : Neighbours Scalar Point where
  secretKey
    | .lower => ⟨5⟩
    | .upper => ⟨7⟩
  startupEpoch
    | .lower => epoch 1
    | .upper => epoch 2
  known
    | .lower => ⟨5⟩
    | .upper => ⟨7⟩
  sameX r := by cases r <;> rfl
  transportId _ := 0

/-- Two nodes that have just started. -/
def pair : LinkPair Scalar Point Unit Unit
  | .lower => ⟨linkNode 5 1, [], []⟩
  | .upper => ⟨linkNode 7 2, [], []⟩

theorem starts_pair : Starts neighbours pair where
  is r := by cases r <;> exact ⟨rfl, rfl, rfl⟩
  offered r := by cases r <;> rfl
  answered r := by cases r <;> rfl
  strangers r := by cases r <;> rfl

/-- Both begin a handshake. -/
def asking : LinkPair Scalar Point Unit Unit :=
  exec (step neighbours) pair
    [(.lower, .initiate (Sample.linkEnv 0 11 1) [1]),
      (.upper, .initiate (Sample.linkEnv 0 13 2) [2])]

/-- The msg1 of this node, as it arrives. -/
def asked (r : Side) : ReceivedPacket := ⟨0, [9], (asking r).offered.headD [], 30⟩

/-- Both msg1s cross. -/
def crossed : List (Side × LinkPairEvent Scalar Point Unit Unit) :=
  [(.lower, .initiate (Sample.linkEnv 0 11 1) [1]),
    (.upper, .initiate (Sample.linkEnv 0 13 2) [2]),
    (.lower, .msg1 (Sample.linkEnv 30 19 4) (asked .upper)),
    (.upper, .msg1 (Sample.linkEnv 30 17 3) (asked .lower))]

/-- A node with room meets a node it does not know. -/
theorem allowed_asked {s : LinkPair Scalar Point Unit Unit} {r : Side} {env : LinkEnv Scalar}
    (hmem : (asked r.other).data ∈ (s r.other).offered) (hallowed : env.msg1Allowed = true)
    (haccepts : env.acceptsConnections 0 = true) (hsends : ∀ data, env.send 0 [9] data = .sent)
    (hunknown : (s r).node.addrToLink.lookup (0, [9]) = none)
    (hdraws : (allocateFrom env.draws (s r).node.allocatedIndices).isSome)
    (hroom : ¬(s r).node.Full)
    (hstranger : (s r).node.peers.lookup (neighbours.addr r.other) = none) :
    Allowed neighbours s (r, .msg1 env (asked r.other)) := by
  refine ⟨hmem, rfl, ⟨hallowed, haccepts, fun l link hl => ?_, hsends, hdraws⟩, fun _ => hroom,
    fun p hp => ?_⟩
  · cases hunknown.symm.trans hl
  · cases hstranger.symm.trans hp

theorem along_crossed : Along (step neighbours) (Allowed neighbours) pair crossed := by
  refine ⟨⟨rfl, rfl, fun _ => rfl, by decide⟩, ⟨rfl, rfl, fun _ => rfl, by decide⟩, ?_, ?_, trivial⟩
  · refine allowed_asked (by decide +kernel) rfl rfl (fun _ => rfl) (by decide +kernel)
      (by decide +kernel) ?_ (by decide +kernel)
    unfold LinkNode.Full
    decide +kernel
  · refine allowed_asked (by decide +kernel) rfl rfl (fun _ => rfl) (by decide +kernel)
      (by decide +kernel) ?_ (by decide +kernel)
    unfold LinkNode.Full
    decide +kernel

theorem links_agree_crossed :
    Agreed neighbours (exec (step neighbours) pair crossed) ∨
      ∃ answer ∈ (exec (step neighbours) pair crossed .upper).answered, ∀ env packet,
        packet.data = answer → packet.transportId = neighbours.transportId .lower →
          Agreed neighbours
            (step neighbours (exec (step neighbours) pair crossed) (.lower, .msg2 env packet)) := by
  refine links_agree curve_lawful aead_lawful (by decide +kernel) starts_pair along_crossed ?_
  intro r
  cases r <;> decide +kernel

end LinkPair

end Sample

end Fips
