import Fips.Lib.Run
import Fips.Node.Discovery
import Fips.Node.QueueOwners
import Fips.Node.Sample

/-!
# The queue of outbound packets

Which destinations hold packets over a run of the node: outbound packets, lookups and their retries,
lookup responses, session messages, rekeys of sessions, handshake timeouts, idle sessions and the
removal of peers, in any order and with any outside.

A queue is owned by a session in handshake or by a pending lookup, and the owner's timer drops it
(`QueueOwned`). `handle_tun_outbound` queues its packet whether or not the session or the lookup it
asked for came about, an accepted response ends the lookup before the session it starts is sure, and a
handshake that fails takes its entry along. `KeepsOwner` is the condition that none of these happens
to a destination with a queue.

## Results

* `wp_maybeInitiateLookup`, `wp_checkPendingLookups`, `wp_held_acceptResponse`,
  `wp_held_handleTunOutbound`: one event each.
* `owned_of_keepsOwner`: in every run whose steps all meet `KeepsOwner` every queue is owned.
* `stranded_suppressed`: a packet for a destination without route, whose lookup is suppressed by the
  backoff.
-/

open Checked EventRun

namespace Fips

/-- What may happen to the packets that wait. `lookup` is also what an `initiateLookup` effect asks
for; `rest` is what the link layer and lookup requests change in between. -/
inductive QueueEvent (SecretKey PublicKey ν : Type)
  | tunOutbound (env : LookupEnv SecretKey PublicKey) (packet : Bytes)
  | lookup (env : LookupEnv SecretKey PublicKey) (dest : NodeAddr)
  | checkPendingLookups (env : LookupEnv SecretKey PublicKey)
  | response (env : LookupEnv SecretKey PublicKey) (payload : Bytes)
  | initiateSession (env : Env SecretKey) (dest : NodeAddr) (destPubkey : PublicKey)
  | sessionPayload (env : Env SecretKey) (src : NodeAddr) (payload : Bytes) (pathMtu : Nat)
      (ceFlag : Bool)
  | checkSessionRekey (env : Env SecretKey)
  | resendHandshakes (env : Env SecretKey)
  | purgeIdle (nowMs : Nat)
  | removePeer (addr : NodeAddr)
  | rest (peers : Map NodeAddr (ActivePeer SecretKey PublicKey ν))
      (recentRequests : Map Nat RecentRequest)

namespace LookupNode

variable {SecretKey PublicKey ν μ : Type} {ε : Type}

section Lookups

variable {n n' : LookupNode SecretKey PublicKey ν μ} (env : LookupEnv SecretKey PublicKey)

/-- A lookup of `d` is pending. -/
def Pending (n : LookupNode SecretKey PublicKey ν μ) (d : NodeAddr) : Prop :=
  (n.pendingLookups.lookup d).isSome

/-- The tables that decide who waits for what. -/
def queueTables (n : LookupNode SecretKey PublicKey ν μ) :
    Map NodeAddr (SessionEntry SecretKey PublicKey μ) × Map NodeAddr (List Bytes) ×
      Map NodeAddr PendingLookup × LookupConfig :=
  (n.sessions, n.pendingTunPackets, n.pendingLookups, n.lookupConfig)

theorem wp_onNode_iff {α : Type} {m : Node.M SecretKey PublicKey ν μ ε α}
    {Q : α → LookupNode SecretKey PublicKey ν μ → Prop}
    {E : Fail ε → LookupNode SecretKey PublicKey ν μ → Prop} :
    wp (onNode m) Q E n ↔
      wp m
        (fun a m' => Q a { n with
          toNode := m', coordCache := applyCoords (m'.effects.drop n.effects.length) n.coordCache })
        (fun e m' => E e { n with
          toNode := m', coordCache := applyCoords (m'.effects.drop n.effects.length) n.coordCache })
        n.toNode := by
  unfold wp onNode
  rcases m n.toNode with ⟨t, r⟩
  cases r with
  | ok a => exact Iff.rfl
  | error e => exact Iff.rfl

/-- Sending to peers touches none of these tables, and cannot fail. -/
theorem wp_sendToPeers (message : Bytes) (peers : List NodeAddr) :
    wp (sendToPeers env message peers : M SecretKey PublicKey ν μ ε Unit)
      (fun _ n' => n'.queueTables = n.queueTables) (fun _ _ => False) n := by
  induction peers generalizing n with
  | nil => exact rfl
  | cons peer peers ih =>
    unfold sendToPeers
    rw [wp_bind_iff, wp_attempt_iff, wp_onNode_iff]
    unfold Node.sendLinkMessage
    cases env.sendLinkMessage peer message with
    | error e => exact ih
    | ok u => exact ih

theorem wp_initiateLookup (target : NodeAddr) (ttl : UInt8) :
    wp (initiateLookup env target ttl : M SecretKey PublicKey ν μ ε Nat)
      (fun sent n' => n'.queueTables = n.queueTables ∧
        (sent = 0 ↔ n.reachingPeers env env.isTreePeer target = []))
      (fun _ _ => False) n := by
  unfold initiateLookup
  rw [wp_bind_iff, wp_read_iff]
  extract_lets request peers
  by_cases hpeers : peers.isEmpty = true
  · rw [if_pos hpeers]
    exact ⟨rfl, fun _ => List.isEmpty_iff.mp hpeers, fun _ => rfl⟩
  · rw [if_neg hpeers, wp_bind_iff, wp_write_iff, wp_bind_iff]
    refine wp_mono (fun _ n' hn' => ⟨hn', ?_⟩) (fun _ _ hn' => hn') (wp_sendToPeers env _ peers)
    rw [List.isEmpty_iff] at hpeers
    exact ⟨fun hlen => absurd (List.length_eq_zero_iff.mp hlen) hpeers,
      fun hnone => absurd hnone hpeers⟩

/-- `discovery.rs:433-438`: the pending lookup is not past its time. -/
def inFlight (n : LookupNode SecretKey PublicKey ν μ) (dest : NodeAddr) : Bool :=
  (n.pendingLookups.lookup dest).any fun entry =>
    decide (env.nowMs - entry.initiatedMs < n.lookupConfig.timeoutSecs * 1000)

/-- A lookup of `dest` is pending once `maybe_initiate_lookup` has run: the one under way is in time,
or a tree peer takes a new one, or an old one is left alone. -/
def LookupHeld (n : LookupNode SecretKey PublicKey ν μ) (dest : NodeAddr) : Prop :=
  n.inFlight env dest = true ∨
    (env.backoffSuppressed dest = false ∧ n.reachingPeers env env.isTreePeer dest ≠ []) ∨
    (n.Pending dest ∧ (env.backoffSuppressed dest = true ∨
      (n.peers.entries.any fun e => env.mayReach e.1 dest) = false))

/-- Only the lookup of `dest` may have come or gone. -/
structure SameBut (dest : NodeAddr) (n n' : LookupNode SecretKey PublicKey ν μ) : Prop where
  sessions : n'.sessions = n.sessions
  queues : n'.pendingTunPackets = n.pendingTunPackets
  lookups : ∀ d, d ≠ dest → n'.pendingLookups.lookup d = n.pendingLookups.lookup d
  lookupConfig : n'.lookupConfig = n.lookupConfig

theorem pending_of_inFlight {dest : NodeAddr} (h : n.inFlight env dest = true) : n.Pending dest := by
  unfold inFlight at h
  unfold Pending
  cases hentry : n.pendingLookups.lookup dest with
  | none =>
    rw [hentry] at h
    cases h
  | some entry => rfl

theorem wp_maybeInitiateLookup (dest : NodeAddr) :
    wp (maybeInitiateLookup env dest : M SecretKey PublicKey ν μ ε Unit)
      (fun _ n' => n.SameBut dest n' ∧ (n'.Pending dest ↔ n.LookupHeld env dest))
      (fun _ _ => False) n := by
  have hsame : n.SameBut dest n := ⟨rfl, rfl, fun _ _ => rfl, rfl⟩
  unfold maybeInitiateLookup
  rw [wp_body_iff, wp_bind_iff, wp_read_iff]
  extract_lets flying
  have hflying : flying = n.inFlight env dest := rfl
  rw [hflying]
  simp only [id_eq]
  by_cases hflight : n.inFlight env dest = true
  · rw [if_pos hflight]
    exact ⟨hsame, fun _ => .inl hflight, fun _ => n.pending_of_inFlight env hflight⟩
  rw [if_neg hflight]
  by_cases hbackoff : env.backoffSuppressed dest = true
  · rw [if_pos hbackoff]
    refine ⟨hsame, fun hpending => .inr (.inr ⟨hpending, .inl hbackoff⟩), ?_⟩
    rintro (h | ⟨h, -⟩ | ⟨h, -⟩)
    · exact absurd h hflight
    · rw [h] at hbackoff
      cases hbackoff
    · exact h
  rw [if_neg hbackoff]
  by_cases hreach : (!(n.peers.entries.any fun e => env.mayReach e.1 dest)) = true
  · have hnobody : (n.peers.entries.any fun e => env.mayReach e.1 dest) = false := by
      simpa using hreach
    rw [if_pos hreach]
    refine ⟨hsame, fun hpending => .inr (.inr ⟨hpending, .inr hnobody⟩), ?_⟩
    rintro (h | ⟨-, h⟩ | ⟨h, -⟩)
    · exact absurd h hflight
    · -- a tree peer that may reach the destination is a peer that may
      refine absurd (List.eq_nil_iff_forall_not_mem.mpr fun peer hpeer => ?_) h
      obtain ⟨e, he, rfl⟩ := List.mem_map.mp hpeer
      obtain ⟨hmem, hmay⟩ := List.mem_filter.mp he
      rw [List.any_eq_false] at hnobody
      rw [Bool.and_eq_true] at hmay
      exact hnobody e hmem hmay.2
    · exact h
  · rw [if_neg hreach, wp_bind_iff, wp_write_iff, wp_bind_iff]
    refine wp_mono (fun sent n' hn' => ?_) (fun _ _ hn' => hn'.elim) (wp_initiateLookup env dest _)
    obtain ⟨htables, hsent⟩ := hn'
    have hsessions : n'.sessions = n.sessions := congrArg (·.1) htables
    have hqueues : n'.pendingTunPackets = n.pendingTunPackets := congrArg (·.2.1) htables
    have hlookups : n'.pendingLookups = n.pendingLookups.insert dest (.new env.nowMs) :=
      congrArg (·.2.2.1) htables
    have hconfig : n'.lookupConfig = n.lookupConfig := congrArg (·.2.2.2) htables
    split_ifs with hzero
    · -- no tree peer took it
      have hnone := hsent.mp (by simpa using hzero)
      refine ⟨⟨hsessions, hqueues, fun d hd => ?_, hconfig⟩, fun hpending => ?_, ?_⟩
      · change (n'.pendingLookups.erase dest).lookup d = _
        rw [Map.lookup_erase', if_neg hd, hlookups, Map.lookup_insert', if_neg hd]
      · unfold Pending at hpending
        change ((n'.pendingLookups.erase dest).lookup dest).isSome at hpending
        rw [AList.lookup_erase] at hpending
        cases hpending
      · rintro (h | ⟨-, h⟩ | ⟨-, h | h⟩)
        · exact absurd h hflight
        · exact absurd hnone h
        · exact absurd h hbackoff
        · simp [h] at hreach
    · have hsome : n.reachingPeers env env.isTreePeer dest ≠ [] := fun hnone =>
        hzero (by simpa using hsent.mpr hnone)
      refine ⟨⟨hsessions, hqueues, fun d hd => ?_, hconfig⟩,
        fun _ => .inr (.inl ⟨by simpa using hbackoff, hsome⟩), fun _ => ?_⟩
      · rw [hlookups, Map.lookup_insert', if_neg hd]
      · unfold Pending
        rw [hlookups, AList.lookup_insert]
        rfl

/-! ### Retries and timeouts -/

/-- Retries keep every pending lookup. -/
theorem wp_retryLookups (targets : List NodeAddr) :
    wp (retryLookups env targets : M SecretKey PublicKey ν μ ε Unit)
      (fun _ n' => n'.sessions = n.sessions ∧ n'.pendingTunPackets = n.pendingTunPackets ∧
        ∀ d, n'.Pending d ↔ n.Pending d) (fun _ _ => False) n := by
  induction targets generalizing n with
  | nil => exact ⟨rfl, rfl, fun _ => Iff.rfl⟩
  | cons target targets ih =>
    unfold retryLookups retryLookup
    simp only [wp_bind_iff, wp_read_iff, id_eq]
    cases hentry : n.pendingLookups.lookup target with
    | none => exact ih
    | some entry =>
      rw [wp_bind_iff, wp_write_iff, wp_bind_iff]
      refine wp_mono (fun _ n' hn' => ?_) (fun _ _ hn' => hn'.elim) (wp_initiateLookup env target _)
      obtain ⟨htables, -⟩ := hn'
      rw [wp_pure_iff]
      refine wp_mono (fun _ n'' hn'' => ?_) (fun _ _ hn'' => hn''.elim) ih
      obtain ⟨hsessions, hqueues, hlookups⟩ := hn''
      refine ⟨hsessions.trans (congrArg (·.1) htables), hqueues.trans (congrArg (·.2.1) htables),
        fun d => (hlookups d).trans ?_⟩
      have hinserted : n'.pendingLookups = n.pendingLookups.insert target
          { entry with attempt := entry.attempt + 1, lastSentMs := env.nowMs } :=
        congrArg (·.2.2.1) htables
      unfold Pending
      rw [hinserted, Map.lookup_insert']
      split_ifs with hd
      · rw [hd, hentry]
        exact ⟨fun _ => rfl, fun _ => rfl⟩
      · exact Iff.rfl

/-- The lookups of `targets` are gone with the packets that wait for them. -/
structure TimedOut (targets : List NodeAddr) (n n' : LookupNode SecretKey PublicKey ν μ) : Prop where
  sessions : n'.sessions = n.sessions
  queues : ∀ d, n'.pendingTunPackets.lookup d =
    if d ∈ targets then none else n.pendingTunPackets.lookup d
  lookups : ∀ d, n'.pendingLookups.lookup d =
    if d ∈ targets then none else n.pendingLookups.lookup d

theorem timedOut_foldl (targets : List NodeAddr) (n : LookupNode SecretKey PublicKey ν μ) :
    TimedOut targets n (targets.foldl timeOutLookup n) := by
  induction targets generalizing n with
  | nil => exact ⟨rfl, fun d => (if_neg List.not_mem_nil).symm, fun d => (if_neg List.not_mem_nil).symm⟩
  | cons target targets ih =>
    obtain ⟨hsessions, hqueues, hlookups⟩ := ih (n.timeOutLookup target)
    have hcons : ∀ {τ : Type} (x : Option τ) (d : NodeAddr),
        (if d ∈ targets then none else if d = target then none else x) =
          if d ∈ target :: targets then none else x := by
      intro τ x d
      by_cases hd : d = target
      · simp [hd]
      · simp [hd]
    refine ⟨hsessions, fun d => (hqueues d).trans ?_, fun d => (hlookups d).trans ?_⟩
    · rw [← hcons, ← Map.lookup_erase']
      rfl
    · rw [← hcons, ← Map.lookup_erase']
      rfl

theorem mem_lookupsWhere {want : PendingLookup → Bool} {d : NodeAddr} :
    d ∈ n.lookupsWhere want ↔ ∃ e, n.pendingLookups.lookup d = some e ∧ want e = true := by
  unfold lookupsWhere
  rw [List.mem_map]
  constructor
  · rintro ⟨⟨d', e⟩, hmem, rfl⟩
    obtain ⟨hentry, hwant⟩ := List.mem_filter.mp hmem
    exact ⟨e, Map.mem_entries_iff.mp hentry, hwant⟩
  · rintro ⟨e, hlookup, hwant⟩
    exact ⟨⟨d, e⟩, List.mem_filter.mpr ⟨Map.mem_entries_iff.mpr hlookup, hwant⟩, rfl⟩

/-- **A check of the lookups** removes those past their time, with their packets, and no other. -/
theorem wp_checkPendingLookups :
    wp (checkPendingLookups env : M SecretKey PublicKey ν μ ε Unit)
      (fun _ n' => n'.sessions = n.sessions ∧
        (∀ d, n'.pendingTunPackets.lookup d =
          if d ∈ n.lookupsWhere (n.lookupTimedOut env.nowMs) then none
          else n.pendingTunPackets.lookup d) ∧
        ∀ d, n'.Pending d ↔ d ∉ n.lookupsWhere (n.lookupTimedOut env.nowMs) ∧ n.Pending d)
      (fun _ _ => False) n := by
  unfold checkPendingLookups
  rw [wp_bind_iff, wp_read_iff, wp_bind_iff]
  refine wp_mono (fun _ n' hn' => ?_) (fun _ _ hn' => hn') (wp_retryLookups env _)
  obtain ⟨hsessions, hqueues, hlookups⟩ := hn'
  rw [wp_write_iff]
  obtain ⟨hsessions', hqueues', hlookups'⟩ :=
    timedOut_foldl (n.lookupsWhere (n.lookupTimedOut env.nowMs)) n'
  refine ⟨hsessions'.trans hsessions, fun d => ?_, fun d => ?_⟩
  · rw [← hqueues]
    exact hqueues' d
  · rw [← hlookups]
    unfold Pending
    rw [show (List.foldl timeOutLookup n' ((id n).lookupsWhere
      ((id n).lookupTimedOut env.nowMs))).pendingLookups.lookup d = _ from hlookups' d]
    by_cases hd : d ∈ n.lookupsWhere (n.lookupTimedOut env.nowMs)
    · simp [hd]
    · simp [hd]

end Lookups

/-! ## Who waits -/

section Owners

variable {n : LookupNode SecretKey PublicKey ν μ}

/-- Whoever waits has a session in handshake or, without a session, a pending lookup. -/
abbrev Owned (n : LookupNode SecretKey PublicKey ν μ) : Prop := Node.Held n.Pending n.toNode

/-- A packet for `dest` is queued. -/
def Accepts (n : LookupNode SecretKey PublicKey ν μ) (dest : NodeAddr) : Prop :=
  n.Queued dest ∨ n.pendingTunPackets.entries.length < n.lookupConfig.pendingMaxDestinations

theorem Owned.queuePendingPacket (h : n.Owned) {dest : NodeAddr} (packet : Bytes)
    (howner : n.Accepts dest →
      n.Handshaking dest ∨ n.sessions.lookup dest = none ∧ n.Pending dest) :
    (n.queuePendingPacket dest packet).Owned := by
  have hinsert : ∀ queue, n.Accepts dest → Owned
      { n with pendingTunPackets := n.pendingTunPackets.insert dest queue } := by
    intro queue haccepts d _ hqueued
    by_cases hd : d = dest
    · subst hd
      exact howner haccepts
    · refine h d trivial ?_
      unfold Node.Queued at hqueued ⊢
      rwa [Map.lookup_insert', if_neg hd] at hqueued
  unfold LookupNode.queuePendingPacket
  split
  · split_ifs with hfull
    · exact h
    · exact hinsert _ (.inr (by omega))
  · rename_i queue hqueue
    refine hinsert _ (.inl ?_)
    unfold Node.Queued
    rw [hqueue]
    rfl

variable (env : LookupEnv SecretKey PublicKey)

theorem wp_held_maybeInitiateLookup {dest : NodeAddr} (h : n.Owned)
    (hheld : n.Queued dest → n.sessions.lookup dest = none → n.LookupHeld env dest) :
    wp (maybeInitiateLookup env dest : M SecretKey PublicKey ν μ ε Unit)
      (fun _ => Owned) (fun _ => Owned) n := by
  refine wp_mono (fun _ n' hn' => ?_) (fun _ _ hn' => hn'.elim) (wp_maybeInitiateLookup env dest)
  obtain ⟨⟨hsessions, hqueues, hlookups, -⟩, hpending⟩ := hn'
  refine (h.mono fun d hd hqueued hnone => ?_).congr hsessions hqueues
  by_cases hdest : d = dest
  · subst hdest
    exact hpending.mpr (hheld hqueued hnone)
  · unfold Pending
    rw [hlookups d hdest]
    exact hd

/-- A packet for a destination without session waits for a lookup. -/
theorem wp_held_lookupThenQueue {dest : NodeAddr} (packet : Bytes) (h : n.Owned)
    (hnone : n.sessions.lookup dest = none) (hheld : n.Accepts dest → n.LookupHeld env dest) :
    wp (do
        maybeInitiateLookup env dest
        write (queuePendingPacket dest packet) : M SecretKey PublicKey ν μ ε Unit)
      (fun _ => Owned) (fun _ => Owned) n := by
  rw [wp_bind_iff]
  have howned : wp (maybeInitiateLookup env dest : M SecretKey PublicKey ν μ ε Unit)
      (fun _ => Owned) (fun _ => Owned) n :=
    wp_held_maybeInitiateLookup env h fun hqueued _ => hheld (.inl hqueued)
  refine wp_mono (fun _ n' hn' => ?_) (fun _ _ hn' => hn'.1)
    (wp_and howned (wp_maybeInitiateLookup env dest))
  obtain ⟨howned', ⟨hsessions, hqueues, -, hconfig⟩, hpending⟩ := hn'
  rw [wp_write_iff]
  refine Owned.queuePendingPacket howned' packet fun haccepts => .inr ⟨?_, hpending.mpr (hheld ?_)⟩
  · rw [hsessions, hnone]
  · unfold Accepts Node.Queued at haccepts ⊢
    rwa [hqueues, hconfig] at haccepts

theorem wp_held_checkPendingLookups (h : n.Owned) :
    wp (checkPendingLookups env : M SecretKey PublicKey ν μ ε Unit)
      (fun _ => Owned) (fun _ => Owned) n := by
  refine wp_mono (fun _ n' hn' => ?_) (fun _ _ hn' => hn'.elim) (wp_checkPendingLookups env)
  obtain ⟨hsessions, hqueues, hlookups⟩ := hn'
  intro d _ hqueued
  unfold Node.Queued at hqueued
  rw [hqueues d] at hqueued
  split_ifs at hqueued with htimed
  · cases hqueued
  · unfold Node.Handshaking
    rw [hsessions]
    rcases h d trivial hqueued with hphase | ⟨hnone, hpending⟩
    · exact .inl hphase
    · exact .inr ⟨hnone, (hlookups d).mpr ⟨htimed, hpending⟩⟩

variable [Sha256] [HkdfSha256] [ChaCha20Poly1305] [Secp256k1 SecretKey PublicKey] [SessionMmp μ]

section Responses

variable {Signature : Type} [SchnorrEncoding Signature] [VerifyingKey PublicKey Signature]

omit [ChaCha20Poly1305] in
/-- After discovery: a session that is not there can be initiated. -/
theorem wp_held_retrySessionAfterDiscovery {dest : NodeAddr} {pending : NodeAddr → Prop}
    (h : Node.Held pending n.toNode) (hpending : ∀ d, d ≠ dest → pending d → n.Pending d)
    (hqueued : n.Queued dest) {identity : NodeAddr × PublicKey}
    (hidentity : env.lookupByFipsPrefix (fipsPrefix dest) = some identity)
    (hcan : n.sessions.lookup dest = none →
      Node.CanInitiate env.toEnv n.toNode dest identity.2) :
    wp (retrySessionAfterDiscovery env dest) (fun _ => Owned) (fun _ => Owned) n := by
  unfold retrySessionAfterDiscovery
  refine wp_body_of_wp ?_
  rw [hidentity, wp_bind_iff, wp_orElse_some]
  dsimp only
  rw [wp_bind_iff, wp_read_iff]
  cases hexisting : n.sessions.lookup dest with
  | none =>
    rw [if_neg (by simp), wp_bind_iff, wp_attempt_iff, wp_onNode_iff]
    refine wp_mono (fun _ m hm => ?_) (fun e m hm => ?_)
      (Node.wp_held_initiateSession env.toEnv h hexisting)
    · refine hm.1.mono fun d hd _ hnone => hpending d ?_ hd
      rintro rfl
      obtain ⟨e, he, -⟩ := hm.2
      cases he.symm.trans hnone
    · exact absurd (hcan hexisting) hm.2
  | some e =>
    have howned : n.Owned := h.mono fun d hd _ hnone => hpending d (by
      rintro rfl
      cases hexisting.symm.trans hnone) hd
    split_ifs
    · exact howned
    · rw [wp_bind_iff, wp_attempt_iff, wp_onNode_iff]
      refine wp_mono (fun _ m hm => hm) (fun e m hm => ?_)
        ((Node.keeps_held_initiateSession env.toEnv dest _).wp howned)
      cases e with
      | error e => exact hm
      | panic => exact hm

/-- The lookup this response ends leaves no packets without an owner. -/
def ResponseHolds (Signature : Type) [SchnorrEncoding Signature] [VerifyingKey PublicKey Signature]
    (env : LookupEnv SecretKey PublicKey) (n : LookupNode SecretKey PublicKey ν μ)
    (response : LookupResponse Signature) : Prop :=
  ∀ identity, n.recentRequests.lookup response.requestId = none →
    env.lookupByFipsPrefix (fipsPrefix response.target) = some identity →
    VerifyingKey.verify identity.2 response.proof
      (LookupResponse.proofBytes response.requestId response.target response.targetCoords) = true →
    n.Queued response.target → n.sessions.lookup response.target = none →
    Node.CanInitiate env.toEnv n.toNode response.target identity.2

omit [ChaCha20Poly1305] in
theorem wp_held_acceptResponse {response : LookupResponse Signature} (h : n.Owned)
    (hrecorded : n.recentRequests.lookup response.requestId = none)
    (hcan : ResponseHolds Signature env n response) :
    wp (acceptResponse env response) (fun _ => Owned) (fun _ => Owned) n := by
  unfold acceptResponse
  rw [wp_bind_iff, wp_orElse_iff]
  refine ⟨fun identity hidentity => ?_, fun _ => h⟩
  obtain ⟨addr, targetPubkey⟩ := identity
  dsimp only
  by_cases hverify : VerifyingKey.verify targetPubkey response.proof (LookupResponse.proofBytes
      response.requestId response.target response.targetCoords) = true
  · rw [if_neg (by simpa using hverify), wp_bind_iff, wp_write_iff, wp_bind_iff, wp_read_iff,
      wp_bind_iff, wp_onNode_iff]
    have hpending : ∀ d, d ≠ response.target → n.Pending d →
        ((n.pendingLookups.erase response.target).lookup d).isSome := by
      intro d hd hpending
      rwa [Map.lookup_erase', if_neg hd]
    have hnoted : ∀ f : SessionEntry SecretKey PublicKey μ → SessionEntry SecretKey PublicKey μ,
        (∀ e, (f e).state = e.state) →
        wp (Node.modifySession response.target f : Node.Handler SecretKey PublicKey ν μ Unit)
          (fun _ m => ∃ sessions, m = { n.toNode with sessions := sessions } ∧
            Node.Held n.Pending m ∧ (sessions.lookup response.target = none →
              n.sessions.lookup response.target = none)) (fun _ _ => False) n.toNode := by
      intro f hf
      refine ⟨_, rfl, h.modify response.target hf, fun hnone => ?_⟩
      rw [Map.lookup_modify, if_pos rfl, Option.map_eq_none_iff] at hnone
      exact hnone
    refine wp_mono (fun _ m hm => ?_) (fun _ _ hm => hm.elim) (hnoted _ fun e => ?_)
    · obtain ⟨sessions, rfl, hphase, hnone⟩ := hm
      rw [wp_bind_iff, wp_read_iff]
      by_cases hqueued : (n.pendingTunPackets.lookup response.target).isSome = true
      · rw [if_pos hqueued]
        exact wp_held_retrySessionAfterDiscovery env hphase hpending hqueued hidentity fun hnew =>
          hcan _ hrecorded hidentity hverify hqueued (hnone hnew)
      · rw [if_neg hqueued]
        refine hphase.mono fun d hd hwaits _ => hpending d ?_ hd
        rintro rfl
        exact hqueued hwaits
    · split_ifs
      · rfl
      · rfl
  · rw [if_pos (by simpa using hverify)]
    exact h

omit [ChaCha20Poly1305] in
theorem wp_held_handleLookupResponse {payload : Bytes} (h : n.Owned)
    (hcan : ∀ response, LookupResponse.decode payload = .ok response →
      ResponseHolds Signature env n response) :
    wp (handleLookupResponse env Signature payload : Handler SecretKey PublicKey ν μ Unit)
      (fun _ => Owned) (fun _ => Owned) n := by
  unfold handleLookupResponse onLookupResponse
  refine wp_body_of_wp ?_
  rw [wp_bind_iff, wp_orReturn_iff]
  refine ⟨fun response hdecode => ?_, fun _ => h, fun _ => h⟩
  rw [wp_bind_iff, wp_read_iff]
  cases hrecorded : n.recentRequests.lookup response.requestId with
  | none =>
    dsimp only
    rw [wp_bind_iff, wp_write_iff]
    exact wp_held_acceptResponse env (n := { n with responses := _ }) h hrecorded
      (hcan response hdecode)
  | some recent =>
    dsimp only
    rw [wp_bind_iff, wp_write_iff]
    split_ifs
    · exact h
    · rw [wp_bind_iff, wp_write_iff, wp_bind_iff, wp_attempt_iff, wp_onNode_iff]
      unfold Node.sendLinkMessage
      cases env.sendLinkMessage recent.fromPeer _ with
      | error e => exact h
      | ok u => exact h.congr rfl rfl

end Responses

/-- Where `handle_tun_outbound` takes a packet, if it does not answer or drop it at once. -/
def tunTarget (env : LookupEnv SecretKey PublicKey) (packet : Bytes) : Option (NodeAddr × PublicKey) :=
  packet.head?.bind fun version =>
    if packet.length < 40 || version >>> 4 != 6 then none
    else if effectiveIpv6Mtu env.transportMtu < packet.length then none
    else env.lookupByFipsPrefix ((packet.drop 25).take 15)

/-- A packet that is queued without a session has one initiated, or a lookup. -/
def TunHolds (env : LookupEnv SecretKey PublicKey) (n : LookupNode SecretKey PublicKey ν μ)
    (packet : Bytes) : Prop :=
  ∀ target, tunTarget env packet = some target → n.sessions.lookup target.1 = none →
    n.Accepts target.1 →
    Node.CanInitiate env.toEnv n.toNode target.1 target.2 ∨ n.LookupHeld env target.1

theorem wp_held_handleTunOutbound [PathMtu μ] {packet : Bytes} (h : n.Owned)
    (htun : TunHolds env n packet) :
    wp (handleTunOutbound env packet : Handler SecretKey PublicKey ν μ Unit)
      (fun _ => Owned) (fun _ => Owned) n := by
  unfold handleTunOutbound
  refine wp_body_of_wp ?_
  unfold TunHolds tunTarget at htun
  rw [wp_bind_iff, wp_orElse_iff]
  refine ⟨fun version hversion => ?_, fun _ => h⟩
  rw [hversion, Option.bind_some] at htun
  by_cases hformat : (packet.length < 40 || version >>> 4 != 6) = true
  · rw [if_pos hformat]
    exact h
  rw [if_neg hformat]
  by_cases hsize : effectiveIpv6Mtu env.transportMtu < packet.length
  · rw [if_pos hsize]
    exact h
  rw [if_neg hsize, wp_bind_iff, wp_orElse_iff]
  rw [if_neg hformat, if_neg hsize] at htun
  refine ⟨fun target htarget => ?_, fun _ => h⟩
  have hholds := htun target htarget
  obtain ⟨dest, destPubkey⟩ := target
  dsimp only at hholds ⊢
  rw [wp_bind_iff, wp_read_iff]
  cases hentry : n.sessions.lookup dest with
  | some entry =>
    dsimp only
    by_cases hestablished : entry.isEstablished = true
    · rw [if_pos hestablished]
      split_ifs
      · exact h
      · rw [wp_bind_iff, wp_attempt_iff, wp_onNode_iff]
        refine wp_mono (fun _ m hm => hm) (fun e m hm => ?_)
          ((Node.keeps_heldOn_sendIpv6Packet env.toEnv dest packet).wp h)
        cases e with
        | error e => exact hm
        | panic => exact hm
    · rw [if_neg hestablished, wp_write_iff]
      refine Owned.queuePendingPacket h packet fun _ => .inl ⟨entry, hentry, ?_⟩
      simpa [SessionEntry.inHandshake] using hestablished
  | none =>
    dsimp only
    rw [wp_bind_iff, wp_attempt_iff, wp_onNode_iff]
    refine wp_mono (fun _ m hm => ?_) (fun e m hm => ?_)
      (Node.wp_held_initiateSession env.toEnv h hentry)
    · rw [wp_write_iff]
      exact Owned.queuePendingPacket hm.1 packet fun _ => .inl hm.2
    · obtain ⟨⟨hheld, hnone, hqueues, hpeers⟩, hcannot⟩ := hm
      cases e with
      | panic => exact hheld
      | error e =>
        -- the session did not come about: the lookup is what the packet waits for
        refine wp_held_lookupThenQueue env packet hheld hnone ?_
        unfold Accepts LookupHeld reachingPeers Node.Queued
        rw [hqueues, hpeers]
        exact fun haccepts => (hholds hentry haccepts).resolve_left hcannot

/-! ## Runs -/

section Runs

variable [PathMtu μ] (Signature : Type) [SchnorrEncoding Signature] [VerifyingKey PublicKey Signature]

/-- One event. -/
def queueStep (n : LookupNode SecretKey PublicKey ν μ) :
    QueueEvent SecretKey PublicKey ν → LookupNode SecretKey PublicKey ν μ
  | .tunOutbound env packet => (handleTunOutbound env packet n : _ × Result Unit Unit).1
  | .lookup env dest => (maybeInitiateLookup env dest n : _ × Result Unit Unit).1
  | .checkPendingLookups env => (checkPendingLookups env n : _ × Result Unit Unit).1
  | .response env payload => (handleLookupResponse env Signature payload n).1
  | .initiateSession env dest destPubkey => (onNode (Node.initiateSession env dest destPubkey) n).1
  | .sessionPayload env src payload pathMtu ceFlag =>
    (onNode (Node.handleSessionPayload env src payload pathMtu ceFlag) n).1
  | .checkSessionRekey env => (onNode (Node.checkSessionRekey env) n).1
  | .resendHandshakes env =>
    (onNode (Node.resendPendingSessionHandshakes env) n : _ × Result Unit Unit).1
  | .purgeIdle nowMs => { n with toNode := n.toNode.purgeIdleSessions nowMs }
  | .removePeer addr => { n with toNode := n.toNode.removeActivePeer addr }
  | .rest peers recentRequests => { n with peers := peers, recentRequests := recentRequests }

/-- No queue loses its owner with this event, or begins without one. -/
def KeepsOwner (n : LookupNode SecretKey PublicKey ν μ) : QueueEvent SecretKey PublicKey ν → Prop
  | .tunOutbound env packet => TunHolds env n packet
  | .lookup env dest =>
    n.Queued dest → n.sessions.lookup dest = none → n.LookupHeld env dest
  | .response env payload => ∀ response : LookupResponse Signature,
    LookupResponse.decode payload = .ok response → ResponseHolds Signature env n response
  | .sessionPayload env src payload _ _ => Node.PayloadHolds env n.Pending n.toNode src payload
  | _ => True

variable {Signature}

/-- **One event** that meets the condition keeps every queue owned. -/
theorem Owned.step (h : n.Owned) {e : QueueEvent SecretKey PublicKey ν}
    (he : n.KeepsOwner Signature e) : (n.queueStep Signature e).Owned := by
  cases e with
  | tunOutbound env packet => exact fst_of_wp (wp_held_handleTunOutbound env h he)
  | lookup env dest => exact fst_of_wp (wp_held_maybeInitiateLookup env h he)
  | checkPendingLookups env => exact fst_of_wp (wp_held_checkPendingLookups env h)
  | response env payload => exact fst_of_wp (wp_held_handleLookupResponse env h he)
  | initiateSession env dest destPubkey => exact Node.keeps_held_initiateSession env _ _ _ h
  | sessionPayload env src payload pathMtu ceFlag =>
    have hheld : Node.Held n.Pending ((Node.handleSessionPayload env src payload pathMtu ceFlag :
        Node.Handler SecretKey PublicKey ν μ Unit) n.toNode).1 :=
      fst_of_wp (Node.wp_held_handleSessionPayload env h he)
    exact hheld
  | checkSessionRekey env => exact Node.keeps_held_checkSessionRekey env _ h
  | resendHandshakes env =>
    have hkeeps : Keeps (Node.Held n.Pending) (Node.resendPendingSessionHandshakes env :
      Node.Handler SecretKey PublicKey ν μ Unit) := Node.keeps_held_resendPendingSessionHandshakes env
    exact hkeeps _ h
  | purgeIdle nowMs => exact Node.Held.purgeIdleSessions h nowMs
  | removePeer addr => exact Node.Held.removeActivePeer h addr
  | rest peers recentRequests => exact h.congr rfl rfl

variable (Signature)

/-- A queue has an owner: a session in handshake or a pending lookup. From some time on the owner's
timer drops it. -/
structure QueueOwned (n : LookupNode SecretKey PublicKey ν μ) (d : NodeAddr) : Prop where
  owner : n.Handshaking d ∨ n.Pending d
  dropped : ∃ deadline, ∀ env : LookupEnv SecretKey PublicKey, deadline ≤ env.nowMs →
    ¬ (n.queueStep Signature (.resendHandshakes env.toEnv)).Queued d ∨
      ¬ (n.queueStep Signature (.checkPendingLookups env)).Queued d

/-- The timer of a session in handshake. -/
theorem dropped_of_handshaking {d : NodeAddr} (h : n.Handshaking d) :
    ∃ deadline, ∀ env : Env SecretKey, deadline ≤ env.nowMs →
      ¬ (n.queueStep Signature (.resendHandshakes env)).Queued d := by
  obtain ⟨e, he, hphase⟩ := h
  refine ⟨e.lastActivity + n.config.handshakeTimeoutSecs * 1000 + 1, fun env hdeadline => ?_⟩
  have hgone : Keeps (fun n : Node SecretKey PublicKey ν μ => n.pendingTunPackets.lookup d = none)
      (Node.resendHandshakes env (Node.resendCandidates env.nowMs
        (n.toNode.dropTimedOutHandshakes env.nowMs)) :
          Node.Handler SecretKey PublicKey ν μ Unit) := by
    induction Node.resendCandidates env.nowMs (n.toNode.dropTimedOutHandshakes env.nowMs) with
    | nil => exact keeps_pure ()
    | cons candidate candidates ih =>
      refine Keeps.bind ?_ fun _ => ih
      refine (Node.keeps_sendSessionPayload_of_note env _ _ (fun _ _ _ h => h)
        fun _ _ _ _ _ h => h).attempt.bind fun sent => ?_
      cases sent with
      | error e => exact keeps_pure ()
      | ok u => exact (keeps_read _).bind fun _ => fun n hn => hn
  have hdropped := hgone _ (Node.lookup_forgetSessions (n := n.toNode)
    (Node.mem_sessionsWhere.mpr ⟨e, he, show Node.handshakeTimedOut n.config env.nowMs e = true by
      unfold Node.handshakeTimedOut
      unfold SessionEntry.inHandshake at hphase
      rw [hphase, Bool.true_and, decide_eq_true_eq]
      omega⟩))
  intro hqueued
  unfold Node.Queued at hqueued
  rw [show (n.queueStep Signature (.resendHandshakes env)).pendingTunPackets.lookup d = none from
    hdropped] at hqueued
  cases hqueued

/-- The timer of a pending lookup. -/
theorem dropped_of_pending {d : NodeAddr} (h : n.Pending d) :
    ∃ deadline, ∀ env : LookupEnv SecretKey PublicKey, deadline ≤ env.nowMs →
      ¬ (n.queueStep Signature (.checkPendingLookups env)).Queued d := by
  obtain ⟨e, he⟩ := Option.isSome_iff_exists.mp h
  refine ⟨e.initiatedMs + n.lookupConfig.timeoutSecs * 1000, fun env hdeadline hqueued => ?_⟩
  have htimed : d ∈ n.lookupsWhere (n.lookupTimedOut env.nowMs) := by
    refine mem_lookupsWhere.mpr ⟨e, he, ?_⟩
    unfold lookupTimedOut
    rw [decide_eq_true_eq]
    omega
  have hdropped : (n.queueStep Signature (.checkPendingLookups env)).pendingTunPackets.lookup d =
      none := by
    refine fst_of_wp_returns (P := fun n' : LookupNode SecretKey PublicKey ν μ =>
      n'.pendingTunPackets.lookup d = none) (wp_mono (fun _ n' hn' => ?_) (fun _ _ hn' => hn')
        (wp_checkPendingLookups env))
    rw [hn'.2.1 d, if_pos htimed]
  unfold Node.Queued at hqueued
  rw [hdropped] at hqueued
  cases hqueued

variable {Signature}

theorem Owned.queueOwned (h : n.Owned) {d : NodeAddr} (hqueued : n.Queued d) :
    n.QueueOwned Signature d := by
  rcases h d trivial hqueued with hphase | ⟨-, hpending⟩
  · obtain ⟨deadline, hdropped⟩ := dropped_of_handshaking Signature hphase
    exact ⟨.inl hphase, deadline, fun env henv => .inl (hdropped env.toEnv henv)⟩
  · obtain ⟨deadline, hdropped⟩ := dropped_of_pending Signature hpending
    exact ⟨.inr hpending, deadline, fun env henv => .inr (hdropped env henv)⟩

/-- **Every queue is owned** in every run in which no event takes a queue its owner. -/
theorem owned_of_keepsOwner (identity : Identity SecretKey) (startupEpoch : Epoch)
    (config : NodeConfig) (lookupConfig : LookupConfig) (timestamp : Nat)
    (es : List (QueueEvent SecretKey PublicKey ν))
    (h : Along (queueStep Signature) (KeepsOwner Signature)
      (new identity startupEpoch config lookupConfig timestamp : LookupNode SecretKey PublicKey ν μ)
      es) :
    Always (queueStep Signature) (fun n => ∀ d, n.Queued d → n.QueueOwned Signature d)
      (new identity startupEpoch config lookupConfig timestamp : LookupNode SecretKey PublicKey ν μ)
      es := by
  have hstart : (new identity startupEpoch config lookupConfig timestamp :
      LookupNode SecretKey PublicKey ν μ).Owned := by
    intro d _ hqueued
    unfold Node.Queued at hqueued
    rw [show (new identity startupEpoch config lookupConfig timestamp :
      LookupNode SecretKey PublicKey ν μ).pendingTunPackets.lookup d = none from rfl] at hqueued
    cases hqueued
  exact (Always.of_along (fun _ _ hn he => hn.step he) hstart h).mono
    fun _ hn d hqueued => hn.queueOwned hqueued

end Runs

end Owners


/-! ## Two destinations without route -/

section Examples

open Sample

/-- The smallest IPv6 packet. -/
def tunPacket : Bytes := 0x60 :: List.replicate 39 0

/-- No route, and one tree peer whose filter may contain the destination. -/
def farEnv (nowMs : Nat) (suppressed : Bool) : LookupEnv Scalar Point :=
  { lookupEnv 1 nowMs 7 fun _ => true with
    findNextHop := fun _ => none
    backoffSuppressed := fun _ => suppressed }

/-- An event of a node on the small suite. -/
abbrev SmallQueueEvent := QueueEvent Scalar Point Unit

/-- Node 1 as it starts. -/
def queueNode : LookupNode Scalar Point Unit Unit :=
  new ⟨addr 1, ⟨5⟩⟩ Sample.startupEpoch config Sample.lookupConfig 0

/-- Node 1 has a link to node 2. -/
def queueLinked : SmallQueueEvent :=
  .rest ((∅ : Map NodeAddr _).insert (addr 2) (peer 2 0 0 (session .initiator 1 2 ⟨3⟩))) ∅

/-- A packet that waits for a lookup, until the lookup has timed out. -/
def lookedUp : List SmallQueueEvent :=
  [queueLinked, .tunOutbound (farEnv 0 false) tunPacket, .checkPendingLookups (farEnv 10000 false)]

/-- A packet whose lookup the backoff suppresses. -/
def suppressed : List SmallQueueEvent := [queueLinked, .tunOutbound (farEnv 0 true) tunPacket]

theorem owned_lookedUp :
    Always (queueStep Unit) (fun n => ∀ d, n.Queued d → n.QueueOwned Unit d) queueNode lookedUp := by
  refine owned_of_keepsOwner _ _ _ _ _ _ ⟨trivial, fun target htarget _ _ => ?_, trivial, trivial⟩
  have hfound : tunTarget (farEnv 0 false) tunPacket = some (addr 3, ⟨3⟩) := by decide +kernel
  cases hfound.symm.trans htarget
  exact .inr (.inr (.inl ⟨rfl, by decide +kernel⟩))

/-- The packet stays, and nothing will ever touch it. -/
theorem stranded_suppressed :
    ¬ Always (queueStep Unit) (fun n => ∀ d, n.Queued d → n.QueueOwned Unit d) queueNode
      suppressed := by
  intro h
  have howned := h.exec (addr 3) (by
    unfold Node.Queued
    decide +kernel)
  rcases howned.owner with ⟨e, he, -⟩ | hpending
  · have hnone : (exec (queueStep Unit) queueNode suppressed).sessions.lookup (addr 3) = none := by
      decide +kernel
    cases hnone.symm.trans he
  · unfold Pending at hpending
    have hnone : (exec (queueStep Unit) queueNode suppressed).pendingLookups.lookup (addr 3) =
        none := by decide +kernel
    rw [hnone] at hpending
    cases hpending

end Examples

end LookupNode

end Fips
