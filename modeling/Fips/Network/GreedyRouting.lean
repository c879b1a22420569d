import Fips.Lib.TreeDistance
import Fips.Network.SpanningTree
import Fips.Tree.Routing

/-!
# Greedy tree routing delivers

`TreeNetwork` is a rooted tree of nodes with distinct addresses in which every node holds its true
coordinates, the addresses on its path to the root, and the true coordinates of its peers: its tree
parent, its children and any others. A packet goes from node to node by `TreeState::find_next_hop`
with the true coordinates of the destination.

## Results

* `distanceTo_eq_dist`: between true coordinates `distance_to` is the distance in the tree.
* `closer_of_next`, `exists_next`: the next hop is closer, and there is one unless the packet has
  arrived.
* `delivers`: the destination is reached within `distance_to` hops.
* `delivers_of_quiescent`: so it is in a quiescent state of any network of nodes.
-/

namespace Fips

/-- Nodes in a tree, each with true coordinates of itself and of its peers. Only the addresses of a
coordinate matter; its sequence numbers and timestamps may be any. -/
structure TreeNetwork (ι Signature F : Type) where
  tree : ParentTree ι
  addr : ι → NodeAddr
  addr_injective : Function.Injective addr
  state : ι → TreeState Signature F
  own : ∀ i, (state i).myCoords.nodeAddrs = (tree.path i).map addr
  recorded : ∀ i p c, (state i).peerAncestry.lookup p = some c →
    ∃ j, p = addr j ∧ c.nodeAddrs = (tree.path j).map addr
  parent : ∀ i j, tree.parent i = some j → addr j ∈ (state i).peerAncestry
  child : ∀ i j, tree.parent j = some i → addr j ∈ (state i).peerAncestry

namespace TreeNetwork

variable {ι Signature F : Type} (net : TreeNetwork ι Signature F)

/-- The true coordinates of a node. -/
def TrueCoords (i : ι) : Type := { c : TreeCoordinate // c.nodeAddrs = (net.tree.path i).map net.addr }

/-- Node `i` sends a packet with these destination coordinates on to node `j`. -/
def Next (dest : TreeCoordinate) (i j : ι) : Prop :=
  (net.state i).findNextHop dest = some (net.addr j)

variable {net} {c d : TreeCoordinate} {i j : ι}

theorem rootId_of_true (h : c.nodeAddrs = (net.tree.path i).map net.addr) :
    c.rootId = net.addr net.tree.root := by
  have hroot := c.rootId_eq_getLast
  rw [h, List.getLast?_map, net.tree.getLast?_path] at hroot
  exact Option.some.inj hroot

variable [DecidableEq ι]

/-- **`distance_to` is the distance in the tree.** -/
theorem distanceTo_eq_dist (hc : c.nodeAddrs = (net.tree.path i).map net.addr)
    (hd : d.nodeAddrs = (net.tree.path j).map net.addr) :
    c.distanceTo d = (net.tree.graph.dist i j : Nat) := by
  have hroot : c.rootId = d.rootId := (rootId_of_true hc).trans (rootId_of_true hd).symm
  rw [TreeCoordinate.distanceTo_eq_prefixDist hroot, hc, hd, ← List.map_reverse, ← List.map_reverse,
    List.prefixDist_map net.addr_injective, ← ParentTree.hops_eq_dist]
  rfl

/-! ## One hop -/

/-- The next hop is strictly closer. -/
theorem closer_of_next (dest : net.TrueCoords j) {k : ι} (h : net.Next dest.1 i k) :
    net.tree.graph.dist k j < net.tree.graph.dist i j := by
  obtain ⟨-, c, hc, hlt, -⟩ := TreeState.findNextHop_eq_some_iff.mp h
  obtain ⟨k', hk', htrue⟩ := net.recorded i _ c hc
  obtain rfl := net.addr_injective hk'
  rw [distanceTo_eq_dist htrue dest.2, distanceTo_eq_dist (net.own i) dest.2] at hlt
  exact_mod_cast hlt

/-- A node other than the destination has a next hop: its parent or a child is closer. -/
theorem exists_next (dest : net.TrueCoords j) (hij : i ≠ j) : ∃ k, net.Next dest.1 i k := by
  obtain ⟨k, hk, hcloser⟩ := ParentTree.exists_closer (t := net.tree) hij
  have hmem : net.addr k ∈ (net.state i).peerAncestry := hk.elim (net.child i k) (net.parent i k)
  obtain ⟨c, hc⟩ := Option.isSome_iff_exists.mp (AList.lookup_isSome.mpr hmem)
  obtain ⟨k', hk', htrue⟩ := net.recorded i _ c hc
  obtain rfl := net.addr_injective hk'
  have hsome : ((net.state i).findNextHop dest.1).isSome := by
    refine TreeState.findNextHop_isSome_iff.mpr ⟨?_, _, c, hc, ?_⟩
    · exact (rootId_of_true (net.own i)).trans (rootId_of_true dest.2).symm
    · rw [distanceTo_eq_dist htrue dest.2, distanceTo_eq_dist (net.own i) dest.2,
        ← ParentTree.hops_eq_dist, ← ParentTree.hops_eq_dist]
      have hlt : net.tree.hops k j < net.tree.hops i j := by omega
      exact_mod_cast hlt
  obtain ⟨p, hp⟩ := Option.isSome_iff_exists.mp hsome
  obtain ⟨-, c', hc', -⟩ := TreeState.findNextHop_eq_some_iff.mp hp
  obtain ⟨l, rfl, -⟩ := net.recorded i p c' hc'
  exact ⟨l, hp⟩

/-! ## The whole way -/

/-- **Greedy tree routing delivers.** From every source, following `find_next_hop` with the true
coordinates of the destination reaches it after at most `distance_to` hops. -/
theorem delivers (source dest : ι) (coords : net.TrueCoords dest) :
    ∃ way : List ι, way.IsChain (net.Next coords.1) ∧ way.head? = some source ∧
      way.getLast? = some dest ∧
      (way.length : Distance) ≤ (net.state source).myCoords.distanceTo coords.1 + 1 := by
  rw [distanceTo_eq_dist (net.own source) coords.2]
  norm_cast
  induction hn : net.tree.graph.dist source dest using Nat.strong_induction_on
    generalizing source with
  | _ n ih =>
    by_cases heq : source = dest
    · subst heq
      exact ⟨[source], List.isChain_singleton _, rfl, rfl, Nat.succ_le_succ (Nat.zero_le _)⟩
    · obtain ⟨k, hk⟩ := exists_next coords heq
      have hlt := closer_of_next coords hk
      rw [hn] at hlt
      obtain ⟨way, hchain, hhead, hlast, hlen⟩ := ih _ hlt k rfl
      refine ⟨source :: way, ?_, rfl, ?_, ?_⟩
      · refine List.isChain_cons.mpr ⟨fun b hb => ?_, hchain⟩
        rw [hhead, Option.mem_some_iff] at hb
        exact hb ▸ hk
      · rw [List.getLast?_cons, hlast]
        rfl
      · rw [List.length_cons]
        omega

end TreeNetwork

/-! ## Quiescent networks -/

namespace Network

variable {ι SecretKey PublicKey Signature F : Type} [LinkCost F] [SigningKey SecretKey Signature]
  [VerifyingKey PublicKey Signature] {net : Network ι SecretKey F}
  {s : NetState ι SecretKey PublicKey Signature F} {peerCosts : ι → Map NodeAddr F} {now : ι → Nat}

/-- A quiescent state is a tree network on the tree of its declared parents. -/
noncomputable def treeNetwork (hinv : net.Inv s) (hq : net.Quiescent s peerCosts now) {m : ι}
    (hm : ∀ k, net.addr m ≤ net.addr k) : TreeNetwork ι Signature F where
  tree := parentTree hinv hq hm
  addr := net.addr
  addr_injective := net.addr_injective
  state i := (s.nodes i).treeState
  own i := by
    unfold TreeCoordinate.nodeAddrs
    rw [entries_eq_path hinv hq hm, List.map_map]
    exact List.map_congr_left fun j _ => hinv.self j
  recorded i p c hc := by
    obtain ⟨j, hadj, rfl⟩ := ((hinv.within i).ancestry p c hc).1
    rw [hq.current i j hadj] at hc
    refine ⟨j, rfl, ?_⟩
    unfold TreeCoordinate.nodeAddrs
    rw [← Option.some.inj hc, entries_eq_path hinv hq hm, List.map_map]
    exact List.map_congr_left fun k _ => hinv.self k
  parent i j h := Map.mem_of_lookup (hq.current i j (under_of_parentOf hinv hq h).1)
  child i j h := Map.mem_of_lookup (hq.current i j (under_of_parentOf hinv hq h).1.symm)

/-- **In a quiescent network greedy routing delivers**, to the coordinates the destination holds. -/
theorem delivers_of_quiescent [DecidableEq ι] [Finite ι] (hs : net.Reachable s)
    (hq : net.Quiescent s peerCosts now) (source dest : ι) :
    ∃ way : List ι, way.IsChain (fun i j => (s.nodes i).treeState.findNextHop
        (s.nodes dest).treeState.myCoords = some (net.addr j)) ∧
      way.head? = some source ∧ way.getLast? = some dest ∧
      (way.length : Distance) ≤ (s.nodes source).treeState.myCoords.distanceTo
        (s.nodes dest).treeState.myCoords + 1 := by
  have : Nonempty ι := net.connected.nonempty
  obtain ⟨m, hm⟩ := Finite.exists_min net.addr
  have hnet := (treeNetwork hs.inv hq hm).own dest
  exact (treeNetwork hs.inv hq hm).delivers source dest ⟨_, hnet⟩

end Network

end Fips
