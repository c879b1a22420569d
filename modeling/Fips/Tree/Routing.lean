import Mathlib.Algebra.Order.Monoid.Unbundled.WithTop
import Mathlib.Data.Prod.Lex
import Fips.Lib.CommonPrefix
import Fips.Tree.State

/-!
# Greedy tree routing

Model of `TreeCoordinate::distance_to` and `lca_depth` (`tree/coordinate.rs:141-172`) and of
`TreeState::find_next_hop` (`tree/state.rs:205-245`).

Paths run from the node to the root, so the common ancestry is a common prefix of the reversed paths.
`usize::MAX`, the distance between different roots, is `⊤` of `WithTop Nat`: a path fits in memory,
so no sum of two depths reaches it.

## Results

* `distanceTo_eq_prefixDist`: between equal roots the distance is what is left of the two reversed
  paths after their common prefix.
* `findNextHop_eq_some_iff`, `findNextHop_isSome_iff`: which peer is the next hop, and when there is
  one.
-/

namespace Fips

/-- A number of hops, or `⊤` for `usize::MAX`. -/
abbrev Distance := WithTop Nat

namespace TreeCoordinate

/-- The depth, from the root, of the lowest common ancestor. -/
def lcaDepth (c other : TreeCoordinate) : Nat :=
  List.commonPrefix c.nodeAddrs.reverse other.nodeAddrs.reverse - 1

/-- `TreeCoordinate::distance_to`: over the lowest common ancestor, infinite between two trees. -/
def distanceTo (c other : TreeCoordinate) : Distance :=
  if c.rootId ≠ other.rootId then ⊤
  else ((c.depth - c.lcaDepth other) + (other.depth - c.lcaDepth other) : Nat)

theorem nodeAddrs_ne_nil (c : TreeCoordinate) : c.nodeAddrs ≠ [] :=
  fun h => c.nonempty (List.map_eq_nil_iff.mp h)

theorem length_nodeAddrs (c : TreeCoordinate) : c.nodeAddrs.length = c.depth + 1 := by
  have h := List.length_pos_iff.mpr c.nonempty
  simp only [nodeAddrs, List.length_map, depth]
  omega

/-- Equal roots begin both reversed paths. -/
theorem commonPrefix_pos {c d : TreeCoordinate} (h : c.rootId = d.rootId) :
    0 < List.commonPrefix c.nodeAddrs.reverse d.nodeAddrs.reverse := by
  have hroot : ∀ e : TreeCoordinate, ∃ l, e.nodeAddrs.reverse = e.rootId :: l := by
    intro e
    obtain ⟨l, a, hl⟩ := List.eq_nil_or_concat e.nodeAddrs |>.resolve_left e.nodeAddrs_ne_nil
    have hlast := e.rootId_eq_getLast
    rw [List.concat_eq_append] at hl
    rw [hl, List.getLast?_concat] at hlast
    exact ⟨l.reverse, by rw [hl, Option.some.inj hlast]; simp⟩
  obtain ⟨l, hl⟩ := hroot c
  obtain ⟨l', hl'⟩ := hroot d
  rw [hl, hl', h, List.commonPrefix_cons, if_pos rfl]
  exact Nat.succ_pos _

theorem distanceTo_eq_prefixDist {c d : TreeCoordinate} (h : c.rootId = d.rootId) :
    c.distanceTo d = (List.prefixDist c.nodeAddrs.reverse d.nodeAddrs.reverse : Nat) := by
  have hpos := commonPrefix_pos h
  have hc := c.length_nodeAddrs
  have hd := d.length_nodeAddrs
  unfold distanceTo lcaDepth List.prefixDist
  rw [if_neg (not_not.mpr h), List.length_reverse, List.length_reverse]
  exact congrArg Nat.cast (by omega)

end TreeCoordinate

namespace TreeState

variable {Signature F : Type}

/-- One round of the search for the closest peer, ties to the smaller address. -/
def closerPeer (destCoords : TreeCoordinate) (best : Option (NodeAddr × Distance))
    (e : Sigma fun _ : NodeAddr => TreeCoordinate) : Option (NodeAddr × Distance) :=
  let distance := e.2.distanceTo destCoords
  match best with
  | none => some (e.1, distance)
  | some (bestId, bestDist) =>
    if distance < bestDist ∨ (distance = bestDist ∧ e.1 < bestId) then some (e.1, distance)
    else some (bestId, bestDist)

/-- The loop of `find_next_hop` over the recorded ancestries. -/
def closestPeer (s : TreeState Signature F) (destCoords : TreeCoordinate) :
    Option (NodeAddr × Distance) :=
  s.peerAncestry.entries.foldl (closerPeer destCoords) none

/-- The closest peer, if it is strictly closer than this node. -/
def findNextHop (s : TreeState Signature F) (destCoords : TreeCoordinate) : Option NodeAddr :=
  if s.myCoords.rootId ≠ destCoords.rootId then none
  else
    let myDistance := s.myCoords.distanceTo destCoords
    match s.closestPeer destCoords with
    | some (peerId, distance) => if distance < myDistance then some peerId else none
    | none => none

/-! ## The closest peer -/

section ClosestPeer

variable {dest : TreeCoordinate}

theorem closerPeer_round : Select.Round (closerPeer dest)
    (fun e : Sigma fun _ : NodeAddr => TreeCoordinate => some (e.1, e.2.distanceTo dest)) where
  skip acc a h := nomatch h
  take a b h := h
  contest a b b₀ h := by
    obtain rfl := Option.some.inj h
    unfold closerPeer
    simp only
    split_ifs
    · exact .inr rfl
    · exact .inl rfl

/-- Distance first, then address. -/
def hopKey (b : NodeAddr × Distance) : Distance ×ₗ NodeAddr := toLex (b.2, b.1)

theorem closerPeer_minimises : Select.Minimises (closerPeer dest)
    (fun e : Sigma fun _ : NodeAddr => TreeCoordinate => some (e.1, e.2.distanceTo dest))
    hopKey := by
  intro a b b₀ b₁ hb h
  obtain rfl := Option.some.inj hb
  unfold closerPeer at h
  have hiff : hopKey (a.1, a.2.distanceTo dest) < hopKey b₀ ↔ a.2.distanceTo dest < b₀.2 ∨
      (a.2.distanceTo dest = b₀.2 ∧ a.1 < b₀.1) := Prod.Lex.toLex_lt_toLex
  simp only [← hiff] at h
  split_ifs at h with hlt
  · rw [← Option.some.inj h]
    exact ⟨hlt.le, le_rfl⟩
  · rw [← Option.some.inj h]
    exact ⟨le_rfl, not_lt.mp hlt⟩

variable {s : TreeState Signature F} {p : NodeAddr} {d : Distance}

/-- The closest peer is recorded, at that distance, and no recorded peer comes before it. -/
theorem closestPeer_eq_some (h : s.closestPeer dest = some (p, d)) :
    ∃ c, s.peerAncestry.lookup p = some c ∧ c.distanceTo dest = d ∧
      ∀ q c', s.peerAncestry.lookup q = some c' →
        hopKey (p, d) ≤ hopKey (q, c'.distanceTo dest) := by
  obtain ⟨⟨q, c⟩, hmem, hq⟩ := Select.mem_of_foldl_eq_some closerPeer_round _ h
  obtain ⟨rfl, rfl⟩ := Prod.mk.inj (Option.some.inj hq)
  refine ⟨c, Map.mem_entries_iff.mp hmem, rfl, fun q' c' hc' => ?_⟩
  exact (Select.foldl_le closerPeer_round closerPeer_minimises _ h).2 ⟨q', c'⟩
    (Map.mem_entries_iff.mpr hc') _ rfl

theorem exists_closestPeer (dest : TreeCoordinate) {c : TreeCoordinate} (h : s.peerAncestry.lookup p = some c) :
    ∃ b, s.closestPeer dest = some b := by
  rw [← Option.ne_none_iff_exists']
  intro hnone
  exact nomatch (Select.foldl_eq_none_iff closerPeer_round _).mp hnone ⟨p, c⟩
    (Map.mem_entries_iff.mpr h)

end ClosestPeer

/-! ## The next hop -/

variable {s : TreeState Signature F} {dest : TreeCoordinate} {p : NodeAddr}

/-- **The next hop** is the recorded peer with the smallest distance, then the smallest address, if it
is strictly closer than this node. -/
theorem findNextHop_eq_some_iff : s.findNextHop dest = some p ↔
    s.myCoords.rootId = dest.rootId ∧ ∃ c, s.peerAncestry.lookup p = some c ∧
      c.distanceTo dest < s.myCoords.distanceTo dest ∧
      ∀ q c', s.peerAncestry.lookup q = some c' →
        hopKey (p, c.distanceTo dest) ≤ hopKey (q, c'.distanceTo dest) := by
  unfold findNextHop
  by_cases hroot : s.myCoords.rootId = dest.rootId
  swap
  · rw [if_pos hroot]
    exact ⟨nofun, fun h => absurd h.1 hroot⟩
  rw [if_neg (not_not.mpr hroot)]
  cases hbest : s.closestPeer dest with
  | none =>
    refine ⟨nofun, fun ⟨_, c, hc, _⟩ => ?_⟩
    obtain ⟨b, hb⟩ := exists_closestPeer dest hc
    cases hbest.symm.trans hb
  | some b =>
    obtain ⟨q, d⟩ := b
    obtain ⟨c, hc, rfl, hmin⟩ := closestPeer_eq_some hbest
    simp only
    constructor
    · intro h
      split_ifs at h with hlt
      obtain rfl := Option.some.inj h
      exact ⟨hroot, c, hc, hlt, hmin⟩
    · rintro ⟨-, c', hc', hlt, hmin'⟩
      have heq := le_antisymm (hmin p c' hc') (hmin' q c hc)
      obtain ⟨hd, rfl⟩ := Prod.mk.inj heq
      rw [if_pos (lt_of_eq_of_lt hd hlt)]

/-- There is a next hop exactly when some recorded peer is strictly closer. -/
theorem findNextHop_isSome_iff : (s.findNextHop dest).isSome ↔
    s.myCoords.rootId = dest.rootId ∧ ∃ p c, s.peerAncestry.lookup p = some c ∧
      c.distanceTo dest < s.myCoords.distanceTo dest := by
  constructor
  · intro h
    obtain ⟨p, hp⟩ := Option.isSome_iff_exists.mp h
    obtain ⟨hroot, c, hc, hlt, -⟩ := findNextHop_eq_some_iff.mp hp
    exact ⟨hroot, p, c, hc, hlt⟩
  · rintro ⟨hroot, p, c, hc, hlt⟩
    obtain ⟨⟨q, d⟩, hbest⟩ := exists_closestPeer dest hc
    obtain ⟨c', hc', rfl, hmin⟩ := closestPeer_eq_some hbest
    have hle : c'.distanceTo dest ≤ c.distanceTo dest :=
      (Prod.Lex.toLex_le_toLex.mp (hmin p c hc)).elim le_of_lt fun h => h.1.le
    rw [findNextHop_eq_some_iff.mpr ⟨hroot, c', hc', hle.trans_lt hlt, hmin⟩]
    rfl

end TreeState

end Fips
