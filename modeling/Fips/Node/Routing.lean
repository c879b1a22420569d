import Fips.Bloom.Filter
import Fips.Node.RootElection
import Fips.Noise.Sample
import Fips.Peer.Active
import Fips.Tree.Routing

/-!
# Routing decisions of a node

Model of `Node::find_next_hop`, `select_best_candidate` and `destination_in_filters`
(`node/mod.rs:1590-1688`) with `CoordCache::get_and_touch` (`cache/coord_cache.rs:141-161`).

`RoutingNode` is the part of `Node` they read, `RoutePeer` the part of `ActivePeer`. The link cost is
the `f64` that `link_cost` returns. No law of its comparison is assumed.

## Results

* `selectBestCandidate_eq_some`, `selectBestCandidate_isSome_iff`: the selected candidate is sendable
  and strictly closer than this node, and one is selected exactly when there is such a candidate.
* `Hop`, `hop_of_findNextHop`: the next hop is the destination itself or strictly closer to it.
* `nextHop_found_iff_unhidden`: where some sendable peer is strictly closer, a next hop is found
  exactly when no stage of the search hides it; `match_hides_route` is a node where one does.
-/

namespace Fips

/-! ## Cached coordinates -/

/-- `cache/entry.rs:7-23`, without the creation time and the path MTU. -/
structure CacheEntry where
  coords : TreeCoordinate
  lastUsed : Nat
  expiresAt : Nat

namespace CacheEntry

/-- `CacheEntry::is_expired`. -/
def isExpired (e : CacheEntry) (currentTimeMs : Nat) : Bool := decide (e.expiresAt < currentTimeMs)

/-- `CacheEntry::refresh`. -/
def refresh (e : CacheEntry) (currentTimeMs ttlMs : Nat) : CacheEntry :=
  { e with
    expiresAt := min (currentTimeMs + ttlMs) U64_MAX
    lastUsed := currentTimeMs }

end CacheEntry

/-- `CoordCache`, without the bound on its entries: routing looks up and never inserts. -/
structure CoordCache where
  entries : Map NodeAddr CacheEntry
  defaultTtlMs : Nat

namespace CoordCache

/-- Drops an expired entry, refreshes any other. -/
def getAndTouch (cache : CoordCache) (addr : NodeAddr) (currentTimeMs : Nat) :
    CoordCache × Option TreeCoordinate :=
  match cache.entries.lookup addr with
  | none => (cache, none)
  | some entry =>
    if entry.isExpired currentTimeMs then
      ({ cache with entries := cache.entries.erase addr }, none)
    else
      ({ cache with
        entries := cache.entries.insert addr (entry.refresh currentTimeMs cache.defaultTtlMs) },
        some entry.coords)

/-- The coordinates a lookup returns. -/
def coords (cache : CoordCache) (addr : NodeAddr) (currentTimeMs : Nat) : Option TreeCoordinate :=
  (cache.getAndTouch addr currentTimeMs).2

end CoordCache

/-! ## Next hops -/

/-- The routing-facing slots of `ActivePeer`. -/
structure RoutePeer (F : Type) where
  connectivity : ConnectivityState
  linkCost : F
  inboundFilter : Option BloomFilter

namespace RoutePeer

variable {F : Type}

/-- `ActivePeer::can_send`. -/
def canSend (p : RoutePeer F) : Bool := p.connectivity == .connected || p.connectivity == .stale

/-- `ActivePeer::may_reach`: a peer that sent no filter reaches nothing. -/
def mayReach [Sha256] (p : RoutePeer F) (nodeAddr : NodeAddr) : Bool :=
  match p.inboundFilter with
  | some filter => filter.contains nodeAddr
  | none => false

end RoutePeer

/-- What of a node `find_next_hop` reads. -/
structure RoutingNode (Signature F : Type) where
  nodeAddr : NodeAddr
  treeState : TreeState Signature F
  peers : Map NodeAddr (RoutePeer F)
  coordCache : CoordCache

namespace RoutingNode

variable {Signature F : Type}

/-- A peer with its address, as the map's iterator gives it. -/
abbrev Entry (F : Type) := Sigma fun _ : NodeAddr => RoutePeer F

/-- The peers whose filter matches. -/
def destinationInFilters [Sha256] (n : RoutingNode Signature F) (dest : NodeAddr) :
    List (Entry F) := n.peers.entries.filter fun e => e.2.mayReach dest

section Select

variable [LinkCost F]

/-- The cost and distance of a candidate that is sendable and strictly closer than this node; a
peer without coordinates is infinitely far. -/
def usable (n : RoutingNode Signature F) (destCoords : TreeCoordinate) (e : Entry F) :
    Option (NodeAddr × F × Distance) :=
  if !e.2.canSend then none
  else
    let dist := match n.treeState.peerCoords e.1 with
      | some pc => pc.distanceTo destCoords
      | none => ⊤
    if n.treeState.myCoords.distanceTo destCoords ≤ dist then none
    else some (e.1, e.2.linkCost, dist)

/-- One round of the search: lower cost, then distance, then address. -/
def betterCandidate (n : RoutingNode Signature F) (destCoords : TreeCoordinate)
    (best : Option (NodeAddr × F × Distance)) (e : Entry F) : Option (NodeAddr × F × Distance) :=
  match n.usable destCoords e with
  | none => best
  | some (addr, cost, dist) =>
    match best with
    | none => some (addr, cost, dist)
    | some (bestAddr, bestCost, bestDist) =>
      if LinkCost.lt cost bestCost || (LinkCost.beq cost bestCost && decide (dist < bestDist)) ||
          (LinkCost.beq cost bestCost && decide (dist = bestDist) && decide (addr < bestAddr)) then
        some (addr, cost, dist)
      else some (bestAddr, bestCost, bestDist)

/-- `select_best_candidate`. -/
def selectBestCandidate (n : RoutingNode Signature F) (candidates : List (Entry F))
    (destCoords : TreeCoordinate) : Option NodeAddr :=
  (candidates.foldl (n.betterCandidate destCoords) none).map Prod.fst

end Select

/-- The peer itself if it is known and sendable. -/
def sendablePeer (n : RoutingNode Signature F) (addr : NodeAddr) : Option NodeAddr :=
  match n.peers.lookup addr with
  | some peer => if peer.canSend then some addr else none
  | none => none

/-- `find_next_hop`: the address of the peer, after the cache lookup. -/
def findNextHop [Sha256] [LinkCost F] (n : RoutingNode Signature F) (destNodeAddr : NodeAddr)
    (nowMs : Nat) : RoutingNode Signature F × Option NodeAddr :=
  if destNodeAddr = n.nodeAddr then (n, none)
  else match n.sendablePeer destNodeAddr with
  | some peer => (n, some peer)
  | none =>
    let (coordCache, destCoords) := n.coordCache.getAndTouch destNodeAddr nowMs
    let n := { n with coordCache }
    match destCoords with
    | none => (n, none)
    | some destCoords =>
      let candidates := n.destinationInFilters destNodeAddr
      if !candidates.isEmpty then (n, n.selectBestCandidate candidates destCoords)
      else match n.treeState.findNextHop destCoords with
        | none => (n, none)
        | some nextHopId => (n, n.sendablePeer nextHopId)

/-! ## Candidates -/

section Candidates

variable [LinkCost F] {n : RoutingNode Signature F} {destCoords : TreeCoordinate}
  {candidates : List (Entry F)} {p : NodeAddr}

/-- The peer `p` is sendable and its recorded coordinates are strictly closer to the destination
than this node's. -/
def Closer (n : RoutingNode Signature F) (destCoords : TreeCoordinate) (p : NodeAddr)
    (peer : RoutePeer F) : Prop :=
  peer.canSend = true ∧ ∃ c, n.treeState.peerCoords p = some c ∧
    c.distanceTo destCoords < n.treeState.myCoords.distanceTo destCoords

omit [LinkCost F] in
theorem usable_isSome_iff {peer : RoutePeer F} :
    (n.usable destCoords ⟨p, peer⟩).isSome ↔ n.Closer destCoords p peer := by
  unfold usable Closer
  cases peer.canSend with
  | false => simp
  | true =>
    cases hc : n.treeState.peerCoords p with
    | none => simp
    | some c =>
      simp only [Bool.not_true, Bool.false_eq_true, if_false, true_and]
      split_ifs with hle
      · simpa using hle
      · simpa using hle

omit [LinkCost F] in
theorem usable_fst {e : Entry F} {b : NodeAddr × F × Distance}
    (h : n.usable destCoords e = some b) : b.1 = e.1 := by
  unfold usable at h
  simp only at h
  split_ifs at h
  rw [← Option.some.inj h]

theorem betterCandidate_round :
    Select.Round (n.betterCandidate destCoords) (n.usable destCoords) where
  skip acc a h := by
    unfold betterCandidate
    rw [h]
  take a b h := by
    unfold betterCandidate
    rw [h]
  contest a b b₀ h := by
    unfold betterCandidate
    rw [h]
    simp only
    split_ifs
    · exact .inr rfl
    · exact .inl rfl

/-- The selected candidate is sendable and strictly closer. -/
theorem selectBestCandidate_eq_some (h : n.selectBestCandidate candidates destCoords = some p) :
    ∃ peer, (⟨p, peer⟩ : Entry F) ∈ candidates ∧ n.Closer destCoords p peer := by
  obtain ⟨b, hb, rfl⟩ := Option.map_eq_some_iff.mp h
  obtain ⟨⟨q, peer⟩, hmem, hval⟩ := Select.mem_of_foldl_eq_some betterCandidate_round _ hb
  obtain rfl : b.1 = q := usable_fst hval
  exact ⟨peer, hmem, usable_isSome_iff.mp (Option.isSome_iff_exists.mpr ⟨b, hval⟩)⟩

theorem selectBestCandidate_isSome_iff : (n.selectBestCandidate candidates destCoords).isSome ↔
    ∃ p peer, (⟨p, peer⟩ : Entry F) ∈ candidates ∧ n.Closer destCoords p peer := by
  constructor
  · intro h
    obtain ⟨p, hp⟩ := Option.isSome_iff_exists.mp h
    exact ⟨p, selectBestCandidate_eq_some hp⟩
  · rintro ⟨p, peer, hmem, hcloser⟩
    unfold selectBestCandidate
    rw [Option.isSome_map, Option.isSome_iff_ne_none, Ne,
      Select.foldl_eq_none_iff betterCandidate_round]
    intro hnone
    have husable := usable_isSome_iff.mpr hcloser
    rw [hnone _ hmem] at husable
    cases husable

end Candidates

/-! ## The decision -/

section Decision

variable [Sha256] [LinkCost F] {n : RoutingNode Signature F} {dest p : NodeAddr} {nowMs : Nat}

omit [Sha256] [LinkCost F] in
theorem sendablePeer_eq_some_iff : n.sendablePeer dest = some p ↔
    dest = p ∧ ∃ peer, n.peers.lookup p = some peer ∧ peer.canSend = true := by
  unfold sendablePeer
  cases hl : n.peers.lookup dest with
  | none =>
    refine ⟨nofun, ?_⟩
    rintro ⟨rfl, peer, hp, -⟩
    cases hl.symm.trans hp
  | some peer =>
    simp only
    constructor
    · intro h
      split_ifs at h with hsend
      obtain rfl := Option.some.inj h
      exact ⟨rfl, peer, hl, hsend⟩
    · rintro ⟨rfl, peer', hp, hsend⟩
      obtain rfl := Option.some.inj (hl.symm.trans hp)
      rw [if_pos hsend]

/-- The peer `find_next_hop` returns. -/
theorem findNextHop_snd : (n.findNextHop dest nowMs).2 =
    if dest = n.nodeAddr then none
    else (n.sendablePeer dest).or ((n.coordCache.coords dest nowMs).bind fun destCoords =>
      if (n.destinationInFilters dest).isEmpty then
        (n.treeState.findNextHop destCoords).bind n.sendablePeer
      else n.selectBestCandidate (n.destinationInFilters dest) destCoords) := by
  unfold findNextHop CoordCache.coords
  by_cases hself : dest = n.nodeAddr
  · rw [if_pos hself, if_pos hself]
  rw [if_neg hself, if_neg hself]
  cases n.sendablePeer dest with
  | some peer => rfl
  | none =>
    simp only [Option.none_or]
    obtain ⟨cache, coords⟩ := n.coordCache.getAndTouch dest nowMs
    cases coords with
    | none => rfl
    | some destCoords =>
      -- the later stages do not read the cache
      have hcandidates : destinationInFilters { n with coordCache := cache } dest =
        n.destinationInFilters dest := rfl
      simp only [Option.bind_some, hcandidates]
      cases (n.destinationInFilters dest).isEmpty with
      | false => rfl
      | true =>
        simp only [Bool.not_true, Bool.false_eq_true, if_false, if_true]
        cases n.treeState.findNextHop destCoords with
        | none => rfl
        | some p => rfl

/-- The kinds of next hop of a node that is not the destination. -/
inductive Hop (n : RoutingNode Signature F) (dest : NodeAddr) (nowMs : Nat) (p : NodeAddr) : Prop
  | direct (h : p = dest)
  | closer (destCoords : TreeCoordinate) (hcached : n.coordCache.coords dest nowMs = some destCoords)
      (peer : RoutePeer F) (hpeer : n.peers.lookup p = some peer)
      (hcloser : n.Closer destCoords p peer)

omit [LinkCost F] in
theorem mem_destinationInFilters {peer : RoutePeer F} :
    (⟨p, peer⟩ : Entry F) ∈ n.destinationInFilters dest ↔
      n.peers.lookup p = some peer ∧ peer.mayReach dest = true := by
  unfold destinationInFilters
  rw [List.mem_filter, Map.mem_entries_iff]

/-- **The next hop** is the destination, or a sendable peer strictly closer to it. -/
theorem hop_of_findNextHop (h : (n.findNextHop dest nowMs).2 = some p) :
    dest ≠ n.nodeAddr ∧ n.Hop dest nowMs p := by
  rw [findNextHop_snd] at h
  by_cases hself : dest = n.nodeAddr
  · rw [if_pos hself] at h
    cases h
  rw [if_neg hself] at h
  refine ⟨hself, ?_⟩
  rcases Option.or_eq_some_iff.mp h with hdirect | ⟨-, hrest⟩
  · exact .direct (sendablePeer_eq_some_iff.mp hdirect).1.symm
  · obtain ⟨destCoords, hcached, hnext⟩ := Option.bind_eq_some_iff.mp hrest
    split_ifs at hnext with hempty
    · obtain ⟨q, hq, hsend⟩ := Option.bind_eq_some_iff.mp hnext
      obtain ⟨rfl, peer, hpeer, hsend⟩ := sendablePeer_eq_some_iff.mp hsend
      obtain ⟨-, c, hc, hlt, -⟩ := TreeState.findNextHop_eq_some_iff.mp hq
      exact .closer destCoords hcached peer hpeer ⟨hsend, c, hc, hlt⟩
    · obtain ⟨peer, hmem, hcloser⟩ := selectBestCandidate_eq_some hnext
      exact .closer destCoords hcached peer (mem_destinationInFilters.mp hmem).1 hcloser

end Decision

/-! ## Completeness -/

section Completeness

variable [Sha256] [LinkCost F]

/-- No stage of `find_next_hop` ends the search too early: the destination is a sendable peer, or
some peer whose filter matches is sendable and strictly closer, or no filter matches and the first of
the recorded peers, by distance and address, is an active and sendable one. -/
def Unhidden (n : RoutingNode Signature F) (dest : NodeAddr) (destCoords : TreeCoordinate) : Prop :=
  (∃ peer, n.peers.lookup dest = some peer ∧ peer.canSend = true) ∨
  (∃ p peer, n.peers.lookup p = some peer ∧ peer.mayReach dest = true ∧
    n.Closer destCoords p peer) ∨
  ((∀ p peer, n.peers.lookup p = some peer → peer.mayReach dest = false) ∧
    ∃ p peer c, n.peers.lookup p = some peer ∧ peer.canSend = true ∧
      n.treeState.peerAncestry.lookup p = some c ∧
      ∀ q c', n.treeState.peerAncestry.lookup q = some c' →
        TreeState.hopKey (p, c.distanceTo destCoords) ≤
          TreeState.hopKey (q, c'.distanceTo destCoords))

/-- **Routing completeness.** Where some sendable peer is strictly closer to a destination in the
node's tree, `find_next_hop` returns a peer exactly when no stage ends the search too early. -/
theorem nextHop_found_iff_unhidden {n : RoutingNode Signature F} {dest : NodeAddr} {nowMs : Nat}
    {destCoords : TreeCoordinate} (hdest : dest ≠ n.nodeAddr)
    (hcached : n.coordCache.coords dest nowMs = some destCoords)
    (hroot : n.treeState.myCoords.rootId = destCoords.rootId)
    (hcloser : ∃ p peer, n.peers.lookup p = some peer ∧ n.Closer destCoords p peer) :
    ((n.findNextHop dest nowMs).2).isSome ↔ n.Unhidden dest destCoords := by
  rw [findNextHop_snd, if_neg hdest, hcached, Option.bind_some, Option.isSome_or]
  have hdirect : (n.sendablePeer dest).isSome ↔
      ∃ peer, n.peers.lookup dest = some peer ∧ peer.canSend = true := by
    rw [Option.isSome_iff_exists]
    constructor
    · rintro ⟨p, hp⟩
      obtain ⟨rfl, hpeer⟩ := sendablePeer_eq_some_iff.mp hp
      exact hpeer
    · exact fun hpeer => ⟨dest, sendablePeer_eq_some_iff.mpr ⟨rfl, hpeer⟩⟩
  unfold Unhidden
  rw [Bool.or_eq_true, hdirect]
  refine or_congr_right ?_
  by_cases hempty : (n.destinationInFilters dest).isEmpty = true
  · -- no filter matches: the greedy stage decides
    have hnone : ∀ p peer, n.peers.lookup p = some peer → peer.mayReach dest = false := by
      intro p peer hp
      by_contra hreach
      have hmem := mem_destinationInFilters.mpr ⟨hp, by simpa using hreach⟩
      rw [List.isEmpty_iff.mp hempty] at hmem
      cases hmem
    rw [if_pos hempty, Option.isSome_iff_exists]
    constructor
    · rintro ⟨p, hp⟩
      obtain ⟨q, hq, hsend⟩ := Option.bind_eq_some_iff.mp hp
      obtain ⟨rfl, peer, hpeer, hsend⟩ := sendablePeer_eq_some_iff.mp hsend
      obtain ⟨-, c, hc, -, hmin⟩ := TreeState.findNextHop_eq_some_iff.mp hq
      exact .inr ⟨hnone, q, peer, c, hpeer, hsend, hc, hmin⟩
    · rintro (⟨p, peer, hp, hreach, -⟩ | ⟨-, p, peer, c, hpeer, hsend, hc, hmin⟩)
      · rw [hnone p peer hp] at hreach
        cases hreach
      · -- the first recorded peer is at least as close as the closer one
        obtain ⟨q, -, -, -, c', hc', hlt⟩ := hcloser
        have hle : c.distanceTo destCoords ≤ c'.distanceTo destCoords :=
          (Prod.Lex.toLex_le_toLex.mp (hmin q c' hc')).elim le_of_lt fun h => h.1.le
        refine ⟨p, Option.bind_eq_some_iff.mpr ⟨p, ?_, ?_⟩⟩
        · exact TreeState.findNextHop_eq_some_iff.mpr ⟨hroot, c, hc, hle.trans_lt hlt, hmin⟩
        · exact sendablePeer_eq_some_iff.mpr ⟨rfl, peer, hpeer, hsend⟩
  · -- some filter matches: only the candidates count
    rw [if_neg hempty, selectBestCandidate_isSome_iff]
    simp only [mem_destinationInFilters, and_assoc]
    refine ⟨.inl, fun h => h.resolve_right fun ⟨hnone, _⟩ => hempty ?_⟩
    rw [List.isEmpty_iff, List.eq_nil_iff_forall_not_mem]
    rintro ⟨p, peer⟩ hmem
    obtain ⟨hp, hreach⟩ := mem_destinationInFilters.mp hmem
    rw [hnone p peer hp] at hreach
    cases hreach

end Completeness

/-! ## A hidden route

Peer 7 of node 5 is the parent of node 9, but the filter of peer 8 matches node 9 too. -/

section Hidden

open scoped Sample

/-- Node 9, below node 7, below the root 3. -/
def target : TreeCoordinate := ⟨[⟨9, 1, 0⟩, ⟨7, 1, 0⟩, ⟨3, 1, 0⟩], List.cons_ne_nil _ _⟩

/-- The coordinates of a child of the root 3. -/
def childOf3 (addr : NodeAddr) : TreeCoordinate :=
  ⟨[⟨addr, 1, 0⟩, ⟨3, 1, 0⟩], List.cons_ne_nil _ _⟩

/-- The tree state of node 5: it and its peers 7 and 8 are children of the root. -/
def hiddenTree : TreeState Unit (Option Nat) :=
  { TreeState.new 5 0 with
    myCoords := childOf3 5
    root := 3
    peerAncestry := (AList.insert 7 (childOf3 7) ∅).insert 8 (childOf3 8) }

/-- The filter of peer 8 holds node 9. -/
def matching [Sha256] : RoutePeer (Option Nat) :=
  ⟨.connected, some 1, some (BloomFilter.new.insert 9)⟩

/-- Node 5, with the coordinates of node 9 in its cache. -/
def hidden [Sha256] : RoutingNode Unit (Option Nat) where
  nodeAddr := 5
  treeState := hiddenTree
  peers := (AList.insert 7 ⟨.connected, some 1, none⟩ ∅).insert 8 matching
  coordCache := ⟨AList.insert 9 ⟨target, 0, 300000⟩ ∅, 300000⟩

theorem ne_hidden : (9 : NodeAddr) ≠ 5 := by decide

theorem rootId_hidden : hiddenTree.myCoords.rootId = target.rootId := by decide

theorem closer_hidden [Sha256] : ∃ p peer, hidden.peers.lookup p = some peer ∧
    hidden.Closer target p peer := by
  have hlt : (childOf3 7).distanceTo target < (childOf3 5).distanceTo target := by decide
  exact ⟨7, ⟨.connected, some 1, none⟩, rfl, rfl, childOf3 7, rfl, hlt⟩

theorem nextHop_found_iff_hidden :
    ((hidden.findNextHop 9 0).2).isSome ↔ hidden.Unhidden 9 target :=
  nextHop_found_iff_unhidden ne_hidden rfl rootId_hidden closer_hidden

theorem destinationInFilters_hidden [Sha256] :
    hidden.destinationInFilters 9 = [⟨8, matching⟩] := by
  have hmatch : matching.mayReach 9 = true := BloomFilter.contains_insert (by simp) 9
  change List.filter _ [(⟨8, matching⟩ : Entry (Option Nat)), ⟨7, ⟨.connected, some 1, none⟩⟩] = _
  rw [List.filter_cons_of_pos (by exact hmatch)]
  rfl

/-- The match of peer 8 ends the search, whatever the hash function. -/
theorem match_hides_route : ¬ ∃ _ : Sha256, ∀ (n : RoutingNode Unit (Option Nat)) (dest : NodeAddr)
    (nowMs : Nat) (destCoords : TreeCoordinate), dest ≠ n.nodeAddr →
      n.coordCache.coords dest nowMs = some destCoords →
      n.treeState.myCoords.rootId = destCoords.rootId →
      (∃ p peer, n.peers.lookup p = some peer ∧ n.Closer destCoords p peer) →
      ((n.findNextHop dest nowMs).2).isSome := by
  rintro ⟨_, h⟩
  have hsome := h hidden 9 0 target ne_hidden rfl rootId_hidden closer_hidden
  have hnext : (hidden.findNextHop 9 0).2 =
      hidden.selectBestCandidate [⟨8, matching⟩] target := by
    rw [findNextHop_snd, destinationInFilters_hidden]
    rfl
  rw [hnext, selectBestCandidate_isSome_iff] at hsome
  obtain ⟨p, peer, hmem, -, c, hc, hlt⟩ := hsome
  cases List.mem_singleton.mp hmem
  obtain rfl : childOf3 8 = c := Option.some.inj hc
  exact absurd hlt (show ¬ (childOf3 8).distanceTo target < (childOf3 5).distanceTo target by decide)

end Hidden

end RoutingNode

end Fips
