import Mathlib.Data.Fintype.Lattice
import Fips.Lib.ParentTree
import Fips.Node.Relocation

/-!
# A quiescent network has one spanning tree

`Network` is a finite connected graph of honest nodes with distinct addresses. A global state has
the nodes and every announce ever sent; a run delivers any sent announce to the neighbour it was
sent to, at any time and any number of times, so announces may be lost, reordered and duplicated.
In between the nodes take their own events: re-evaluations, deferred sends, promotions of
neighbours. No peer is removed.

A state is `Quiescent` when every node has recorded its neighbours' current coordinates and parent
evaluation recommends no switch. The test suite checks the same of converged networks
(`verify_tree_convergence`, `node/tests/spanning_tree.rs`).

## Results

* `Inv.next`: in a run the smallest node stays root, and all recorded addresses are those of nodes
  of the network.
* `spanningTree_of_quiescent`: in a quiescent state of any run all nodes have the smallest address
  as root, their parents form a tree of links, and their coordinates are their paths in it.
-/

namespace Fips

/-- What a node is configured with, and the time it starts at. -/
structure TreeConfig (F : Type) where
  timestamp : Nat
  hysteresis : F
  holdDownSecs : Nat
  flapThreshold : Nat
  flapWindowSecs : Nat
  flapDampeningSecs : Nat
  reevalIntervalSecs : Nat
  announceMinIntervalMs : Nat

/-- Honest nodes with distinct addresses, connected by links. -/
structure Network (ι SecretKey F : Type) where
  identity : ι → Identity SecretKey
  config : ι → TreeConfig F
  links : SimpleGraph ι
  connected : links.Connected
  addr_injective : Function.Injective fun i => (identity i).nodeAddr

/-- The nodes, and every announce ever sent: its sender, the address it was sent to, the message. -/
structure NetState (ι SecretKey PublicKey Signature F : Type) where
  nodes : ι → TreeNode SecretKey PublicKey Signature F
  sent : List (ι × NodeAddr × TreeAnnounce Signature)

namespace Network

variable {ι SecretKey PublicKey Signature F : Type} [LinkCost F] [SigningKey SecretKey Signature]
  [VerifyingKey PublicKey Signature] (net : Network ι SecretKey F)

/-- The address of a node. -/
def addr (i : ι) : NodeAddr := (net.identity i).nodeAddr

/-- A node freshly started. -/
def fresh (i : ι) : TreeNode SecretKey PublicKey Signature F :=
  .new (net.identity i) (net.config i).timestamp (net.config i).hysteresis
    (net.config i).holdDownSecs (net.config i).flapThreshold (net.config i).flapWindowSecs
    (net.config i).flapDampeningSecs (net.config i).reevalIntervalSecs
    (net.config i).announceMinIntervalMs

/-- Every node as it starts, and nothing on the way. -/
def start : NetState ι SecretKey PublicKey Signature F := ⟨net.fresh, []⟩

/-- The events a node can meet: an announce that a neighbour once sent it, the promotion of a
neighbour, its own timers. -/
def Allows (s : NetState ι SecretKey PublicKey Signature F) (i : ι) :
    TreeEvent PublicKey Signature F → Prop
  | .announce source announce _ _ _ _ =>
    ∃ j, net.links.Adj i j ∧ source = net.addr j ∧ (j, net.addr i, announce) ∈ s.sent
  | .promotePeer addr _ _ => ∃ j, net.links.Adj i j ∧ addr = net.addr j
  | .removePeer _ _ _ => False
  | _ => True

/-- The announces among the effects of node `i`. -/
def outgoing (i : ι) (effects : List (TreeEffect Signature)) :
    List (ι × NodeAddr × TreeAnnounce Signature) :=
  effects.filterMap fun
    | .sentTreeAnnounce p announce => some (i, p, announce)
    | _ => none

variable [DecidableEq ι]

/-- Node `i` takes one event. -/
def next (s : NetState ι SecretKey PublicKey Signature F) (i : ι)
    (e : TreeEvent PublicKey Signature F) : NetState ι SecretKey PublicKey Signature F where
  nodes := Function.update s.nodes i ((s.nodes i).next e)
  sent := s.sent ++ outgoing i ((s.nodes i).step e).2

/-- The global states of all runs. -/
inductive Reachable : NetState ι SecretKey PublicKey Signature F → Prop
  | start : Reachable net.start
  | next {s : NetState ι SecretKey PublicKey Signature F} (i : ι)
      (e : TreeEvent PublicKey Signature F) (hs : Reachable s) (he : net.Allows s i e) :
      Reachable (Network.next s i e)

/-! ## The invariant of a run -/

/-- The addresses of the network. -/
def addrs : Set NodeAddr := Set.range net.addr

/-- The addresses of the neighbours of a node. -/
def neighbours (i : ι) : Set NodeAddr := net.addr '' net.links.neighborSet i

/-- Every node is consistent and keeps to the addresses of the network, and so does every announce
ever sent. -/
structure Inv (s : NetState ι SecretKey PublicKey Signature F) : Prop where
  node : ∀ i, (s.nodes i).Inv
  self : ∀ i, (s.nodes i).treeState.myNodeAddr = net.addr i
  within : ∀ i, (s.nodes i).Within net.addrs (net.neighbours i)
  sent : ∀ j p announce, (j, p, announce) ∈ s.sent → announce.OwnHead ∧
    ∀ a ∈ announce.ancestry.nodeAddrs, a ∈ net.addrs

variable {net} {s : NetState ι SecretKey PublicKey Signature F}

omit [LinkCost F] [SigningKey SecretKey Signature] [VerifyingKey PublicKey Signature]
  [DecidableEq ι] in
theorem mem_outgoing {i j : ι} {p : NodeAddr} {announce : TreeAnnounce Signature}
    {effects : List (TreeEffect Signature)} (h : (j, p, announce) ∈ outgoing i effects) :
    j = i ∧ .sentTreeAnnounce p announce ∈ effects := by
  obtain ⟨e, he, hm⟩ := List.mem_filterMap.mp h
  cases e with
  | sentTreeAnnounce q a =>
    obtain ⟨rfl, hmsg⟩ := Prod.mk.inj (Option.some.inj hm)
    obtain ⟨rfl, rfl⟩ := Prod.mk.inj hmsg
    exact ⟨rfl, he⟩
  | _ => cases hm

omit [VerifyingKey PublicKey Signature] [DecidableEq ι] in
theorem inv_start : net.Inv (net.start : NetState ι SecretKey PublicKey Signature F) := by
  refine ⟨fun i => ?_, fun i => ?_, fun i => ?_, nofun⟩
  · exact TreeNode.inv_new ..
  · exact (TreeNode.inv_new (net.identity i) ..).identity.symm
  · exact TreeNode.new_within _ (Set.mem_range_self i) ..

/-- **One event** keeps the invariant. -/
theorem Inv.next (h : net.Inv s) {i : ι} {e : TreeEvent PublicKey Signature F}
    (he : net.Allows s i e) : net.Inv (Network.next s i e) := by
  have hremoval : ¬ e.IsRemoval := by
    cases e <;> first | exact id | exact fun _ => he
  have hown : e.OwnHead := by
    cases e with
    | announce source announce =>
      obtain ⟨j, -, -, hsent⟩ := he
      exact (h.sent _ _ _ hsent).1
    | _ => trivial
  have hgen : ∀ p c, e.Announces p c →
      p ∈ net.neighbours i ∧ ∀ a ∈ c.nodeAddrs, a ∈ net.addrs := by
    intro p c hc
    cases e with
    | announce source announce =>
      obtain ⟨j, hadj, rfl, hsent⟩ := he
      obtain ⟨rfl, rfl⟩ := hc
      exact ⟨⟨j, hadj, rfl⟩, (h.sent _ _ _ hsent).2⟩
    | _ => cases hc
  have hnode := (h.node i).next hown
  have hwithin := (h.within i).next (h.node i) hremoval hgen
  have hself : ((s.nodes i).next e).treeState.myNodeAddr = net.addr i :=
    (TreeNode.next_myNodeAddr (h.node i).identity hremoval).trans (h.self i)
  refine ⟨fun k => ?_, fun k => ?_, fun k => ?_, fun j p announce hm => ?_⟩
  · by_cases hk : k = i
    · subst hk
      simpa [Network.next] using hnode
    · simpa [Network.next, hk] using h.node k
  · by_cases hk : k = i
    · subst hk
      simpa [Network.next] using hself
    · simpa [Network.next, hk] using h.self k
  · by_cases hk : k = i
    · subst hk
      simpa [Network.next] using hwithin
    · simpa [Network.next, hk] using h.within k
  · rcases List.mem_append.mp hm with hm | hm
    · exact h.sent j p announce hm
    · obtain ⟨-, hm⟩ := mem_outgoing hm
      rw [TreeNode.step_sendsCurrent e p announce hm]
      exact ⟨hnode.ownHead, hwithin.coords⟩

theorem Reachable.inv (h : net.Reachable s) : net.Inv s := by
  induction h with
  | start => exact inv_start
  | next i e _ he ih => exact ih.next he

/-! ## Quiescent states -/

/-- Every node has recorded its neighbours' current coordinates, and no switch is recommended at the
link costs `peerCosts` (at each node, for all neighbours or for none) and the times `now`. -/
structure Quiescent (net : Network ι SecretKey F)
    (s : NetState ι SecretKey PublicKey Signature F) (peerCosts : ι → Map NodeAddr F)
    (now : ι → Nat) : Prop where
  current : ∀ i j, net.links.Adj i j → (s.nodes i).treeState.peerAncestry.lookup (net.addr j) =
    some (s.nodes j).treeState.myCoords
  measured : ∀ i, (∀ j, net.links.Adj i j → ((peerCosts i).lookup (net.addr j)).isSome) ∨
    (peerCosts i).isEmpty
  settled : ∀ i, (s.nodes i).treeState.evaluateParent (peerCosts i) (now i) = none

/-- The entry of a node on a coordinate path. -/
def entry (s : NetState ι SecretKey PublicKey Signature F) (i : ι) : CoordEntry :=
  ⟨(s.nodes i).treeState.myNodeAddr, (s.nodes i).treeState.myDeclaration.sequence,
    (s.nodes i).treeState.myDeclaration.timestamp⟩

/-- Where a node's declared parent puts it. -/
inductive Position (net : Network ι SecretKey F)
    (s : NetState ι SecretKey PublicKey Signature F) (i : ι) : Prop
  | root (parent : (s.nodes i).treeState.myDeclaration.parentId = net.addr i)
      (coords : (s.nodes i).treeState.myCoords.entries = [entry s i])
      (root : (s.nodes i).treeState.root = net.addr i)
  | under (j : ι) (adj : net.links.Adj i j)
      (parent : (s.nodes i).treeState.myDeclaration.parentId = net.addr j)
      (coords : (s.nodes i).treeState.myCoords.entries =
        entry s i :: (s.nodes j).treeState.myCoords.entries)
      (root : (s.nodes i).treeState.root = (s.nodes j).treeState.root)

section Quiescent

variable {peerCosts : ι → Map NodeAddr F} {now : ι → Nat} (hinv : net.Inv s)
  (hq : net.Quiescent s peerCosts now)

include hinv hq

omit [SigningKey SecretKey Signature] [VerifyingKey PublicKey Signature] [DecidableEq ι]

theorem position (i : ι) : net.Position s i := by
  have hself := hinv.self i
  cases (hinv.node i).treeState.anchored with
  | self parent root coords =>
    exact .root (parent.trans hself) (congrArg TreeCoordinate.entries coords) (root.trans hself)
  | child c _ recorded root coords =>
    obtain ⟨j, hadj, hj⟩ := ((hinv.within i).ancestry _ c recorded).1
    have hc : c = (s.nodes j).treeState.myCoords := by
      rw [← hj, hq.current i j hadj] at recorded
      exact (Option.some.inj recorded).symm
    refine .under j hadj hj.symm ?_ ?_
    · rw [coords, hc]
      rfl
    · rw [root, hc, (hinv.node j).treeState.consistent.root]

/-- The nodes on a node's path have the same root. -/
theorem root_of_mem_path (i k : ι) (hk : net.addr k ∈ (s.nodes i).treeState.myCoords.nodeAddrs) :
    (s.nodes k).treeState.root = (s.nodes i).treeState.root := by
  induction hn : (s.nodes i).treeState.myCoords.entries.length generalizing i with
  | zero => exact absurd (List.length_eq_zero_iff.mp hn) (s.nodes i).treeState.myCoords.nonempty
  | succ n ih =>
    unfold TreeCoordinate.nodeAddrs at hk
    cases position hinv hq i with
    | root parent coords root =>
      rw [coords, List.map_singleton, List.mem_singleton] at hk
      rw [net.addr_injective (hk.trans (hinv.self i))]
    | under j adj parent coords root =>
      rw [coords, List.map_cons, List.mem_cons] at hk
      rw [coords, List.length_cons] at hn
      rcases hk with hk | hk
      · rw [net.addr_injective (hk.trans (hinv.self i))]
      · rw [ih j hk (Nat.succ.inj hn), root]

omit hq [LinkCost F] in
theorem root_mem (i : ι) : (s.nodes i).treeState.root ∈ net.addrs := by
  rw [(hinv.node i).treeState.consistent.root]
  exact (hinv.within i).coords _ (TreeCoordinate.rootId_mem _)

/-- **A neighbour of a node under the smallest root** is under it too: it would switch otherwise. -/
theorem root_of_adj {i j m : ι} (hm : ∀ k, net.addr m ≤ net.addr k) (hadj : net.links.Adj i j)
    (hj : (s.nodes j).treeState.root = net.addr m) :
    (s.nodes i).treeState.root = net.addr m := by
  by_contra hne
  have hleast : ∀ a ∈ net.addrs, net.addr m ≤ a := by
    rintro _ ⟨k, rfl⟩
    exact hm k
  have hlt : net.addr m < (s.nodes i).treeState.root :=
    lt_of_le_of_ne (hleast _ (root_mem hinv i)) (Ne.symm hne)
  have hrec := hq.current i j hadj
  have hrootj : (s.nodes j).treeState.myCoords.rootId = net.addr m := by
    rw [← (hinv.node j).treeState.consistent.root, hj]
  -- the smallest recorded root is that of `m`
  obtain ⟨smallest, hsmall⟩ := TreeState.exists_smallestRoot hrec
  obtain ⟨p, c, hc, hcroot⟩ := TreeState.smallestRoot_eq_some hsmall
  have hsm : smallest = net.addr m := by
    refine le_antisymm (hrootj ▸ TreeState.smallestRoot_le hsmall hrec) ?_
    rw [← hcroot]
    exact hleast _ (((hinv.within i).ancestry p c hc).2 _ c.rootId_mem)
  subst hsm
  -- `j` is a candidate
  have hel : (s.nodes i).treeState.Eligible (peerCosts i) (net.addr m) (net.addr j)
      (s.nodes j).treeState.myCoords := by
    refine ⟨hrec, hrootj, fun hloop => hne ?_, ?_⟩
    · rw [hinv.self i] at hloop
      rw [root_of_mem_path hinv hq j i hloop, hj]
    · unfold TreeState.candidateCost
      rcases hq.measured i with hall | hnone
      · obtain ⟨cost, hcost⟩ := Option.isSome_iff_exists.mp (hall j hadj)
        rw [hcost]
        rfl
      · rw [Map.isEmpty_iff.mp hnone, hnone]
        rfl
  obtain ⟨⟨b, eff⟩, hbest⟩ : ∃ best, (s.nodes i).treeState.bestPeer (peerCosts i) (net.addr m) =
      some best := by
    rw [← Option.ne_none_iff_exists']
    intro hnone
    exact TreeState.bestPeer_eq_none_iff.mp hnone _ _ hel
  obtain ⟨cb, helb⟩ := TreeState.of_bestPeer_eq_some hbest
  refine TreeState.evaluateParent_eq_none_iff.mp (hq.settled i)
    ⟨b, net.addr m, eff, hsmall, hbest, ?_, ?_, .inl ?_⟩
  · -- a root at most the smallest would be `m` itself
    rintro ⟨hle, hroot⟩
    rw [hinv.self i] at hle
    have hroot' : (s.nodes i).treeState.root = net.addr i := by
      rw [← hinv.self i]
      exact beq_iff_eq.mp hroot
    exact hne (hroot'.trans (le_antisymm hle (hm i)))
  · -- under the best candidate the root would be that of `m`
    rintro ⟨hparent, hroot⟩
    cases position hinv hq i with
    | root _ _ root =>
      rw [← hinv.self i] at root
      exact hroot (beq_iff_eq.mpr root)
    | under j' adj parent _ root =>
      have hcb := helb.recorded
      rw [← hparent, parent, hq.current i j' adj] at hcb
      refine hne (root.trans ?_)
      rw [(hinv.node j').treeState.consistent.root, Option.some.inj hcb, helb.reaches]
  · unfold TreeState.mandatorySwitch
    simp [hlt]

/-- All nodes are under the smallest node. -/
theorem root_eq {m : ι} (hm : ∀ k, net.addr m ≤ net.addr k) (i : ι) :
    (s.nodes i).treeState.root = net.addr m := by
  have hmroot : (s.nodes m).treeState.root = net.addr m := by
    have hroot := (hinv.within m).least (by
      rintro _ ⟨k, rfl⟩
      rw [hinv.self m]
      exact hm k)
    rw [← hinv.self m]
    exact beq_iff_eq.mp hroot
  obtain ⟨walk⟩ := net.connected.preconnected i m
  induction walk with
  | nil => exact hmroot
  | cons hadj _ ih => exact root_of_adj hinv hq hm hadj (ih hm hmroot)

end Quiescent

/-! ## The tree of a quiescent state -/

/-- The parent pointers of the nodes that have another parent than themselves. -/
noncomputable def parentOf (net : Network ι SecretKey F)
    (s : NetState ι SecretKey PublicKey Signature F) (i : ι) : Option ι :=
  if (s.nodes i).treeState.myDeclaration.parentId = net.addr i then none
  else Function.partialInv net.addr (s.nodes i).treeState.myDeclaration.parentId

omit [LinkCost F] [SigningKey SecretKey Signature] [VerifyingKey PublicKey Signature]
  [DecidableEq ι] in
theorem parentOf_eq_some_iff {i j : ι} : net.parentOf s i = some j ↔
    i ≠ j ∧ (s.nodes i).treeState.myDeclaration.parentId = net.addr j := by
  have hinv := net.addr_injective.isPartialInv j
    (s.nodes i).treeState.myDeclaration.parentId
  unfold parentOf
  split_ifs with h
  · rw [h]
    exact ⟨nofun, fun ⟨hne, heq⟩ => absurd (net.addr_injective heq) hne⟩
  · refine hinv.trans ⟨fun heq => ⟨?_, heq.symm⟩, fun ⟨_, heq⟩ => heq.symm⟩
    rintro rfl
    exact h heq.symm

/-- All nodes have the smallest address as root, the declared parents form a tree of links on the
nodes, and the coordinates of every node are its path in this tree. -/
structure SpanningTree (net : Network ι SecretKey F)
    (s : NetState ι SecretKey PublicKey Signature F) : Prop where
  root : ∀ i, IsLeast net.addrs (s.nodes i).treeState.root
  tree : ∃ t : ParentTree ι, (∀ i j, t.parent i = some j ↔
      i ≠ j ∧ (s.nodes i).treeState.myDeclaration.parentId = net.addr j) ∧
    t.graph.IsTree ∧ t.graph ≤ net.links ∧
    ∀ i, (s.nodes i).treeState.root = net.addr t.root ∧
      (s.nodes i).treeState.myCoords.entries = (t.path i).map (entry s)

section Tree

variable {peerCosts : ι → Map NodeAddr F} {now : ι → Nat} (hinv : net.Inv s)
  (hq : net.Quiescent s peerCosts now) {m : ι} (hm : ∀ k, net.addr m ≤ net.addr k)

include hinv hq

omit [SigningKey SecretKey Signature] [VerifyingKey PublicKey Signature] [DecidableEq ι]

/-- Following a pointer goes over a link to the node the path goes on with. -/
theorem under_of_parentOf {i j : ι} (h : net.parentOf s i = some j) : net.links.Adj i j ∧
    (s.nodes i).treeState.myCoords.entries =
      entry s i :: (s.nodes j).treeState.myCoords.entries := by
  obtain ⟨hne, hparent⟩ := parentOf_eq_some_iff.mp h
  cases position hinv hq i with
  | root parent _ _ => exact absurd (net.addr_injective (parent.symm.trans hparent)) hne
  | under j' adj parent coords _ =>
    obtain rfl := net.addr_injective (parent.symm.trans hparent)
    exact ⟨adj, coords⟩

include hm

theorem parentOf_eq_none_iff (i : ι) : net.parentOf s i = none ↔ i = m := by
  have hroot := root_eq hinv hq hm i
  cases position hinv hq i with
  | root parent coords root =>
    refine ⟨fun _ => net.addr_injective (root.symm.trans hroot), fun _ => if_pos parent⟩
  | under j adj parent coords root =>
    have hsome : net.parentOf s i = some j := parentOf_eq_some_iff.mpr ⟨adj.ne, parent⟩
    rw [hsome]
    refine ⟨nofun, ?_⟩
    -- the smallest node is its own parent
    rintro rfl
    have hself : (s.nodes i).treeState.isRoot = true := by
      rw [TreeState.isRoot, hroot, hinv.self i, beq_self_eq_true]
    rw [(hinv.node i).treeState.isRoot_iff, hinv.self i, parent] at hself
    exact absurd (net.addr_injective hself).symm adj.ne

theorem entries_of_root : (s.nodes m).treeState.myCoords.entries = [entry s m] := by
  cases position hinv hq m with
  | root _ coords _ => exact coords
  | under j adj parent _ _ =>
    have hnone := (parentOf_eq_none_iff hinv hq hm m).mpr rfl
    rw [parentOf_eq_some_iff.mpr ⟨adj.ne, parent⟩] at hnone
    cases hnone

/-- The parents that the nodes of a quiescent network chose. -/
noncomputable def parentTree : ParentTree ι where
  root := m
  parent := net.parentOf s
  depth i := (s.nodes i).treeState.myCoords.entries.length - 1
  parent_eq_none_iff := parentOf_eq_none_iff hinv hq hm
  depth_root := by rw [entries_of_root hinv hq hm, List.length_singleton]
  depth_parent i j h := by
    have hpos := List.length_pos_iff.mpr (s.nodes j).treeState.myCoords.nonempty
    rw [(under_of_parentOf hinv hq h).2, List.length_cons]
    omega

/-- The coordinates of a node are its path in the tree. -/
theorem entries_eq_path (i : ι) : (s.nodes i).treeState.myCoords.entries =
    ((parentTree hinv hq hm).path i).map (entry s) := by
  induction i using (parentTree hinv hq hm).rec_path with
  | hroot i h =>
    rw [(parentTree hinv hq hm).path_of_none h, List.map_singleton,
      (parentOf_eq_none_iff hinv hq hm i).mp h]
    exact entries_of_root hinv hq hm
  | hstep i j h ih =>
    rw [(parentTree hinv hq hm).path_of_some h, List.map_cons, ← ih]
    exact (under_of_parentOf hinv hq h).2

theorem graph_le_links : (parentTree hinv hq hm).graph ≤ net.links := by
  intro i j hadj
  rcases ((parentTree hinv hq hm).adj_iff.mp hadj).2 with h | h
  · exact (under_of_parentOf hinv hq h).1
  · exact (under_of_parentOf hinv hq h).1.symm

end Tree

/-- **A quiescent network has one correct spanning tree.** -/
theorem spanningTree_of_quiescent [Finite ι] {peerCosts : ι → Map NodeAddr F} {now : ι → Nat}
    (hs : net.Reachable s) (hq : net.Quiescent s peerCosts now) : net.SpanningTree s := by
  have hinv := hs.inv
  have : Nonempty ι := net.connected.nonempty
  obtain ⟨m, hm⟩ := Finite.exists_min net.addr
  refine ⟨fun i => ?_, parentTree hinv hq hm, fun i j => parentOf_eq_some_iff, ?_, ?_, fun i => ?_⟩
  · rw [root_eq hinv hq hm i]
    refine ⟨Set.mem_range_self m, ?_⟩
    rintro _ ⟨k, rfl⟩
    exact hm k
  · exact ParentTree.isTree _
  · exact graph_le_links hinv hq hm
  · exact ⟨root_eq hinv hq hm i, entries_eq_path hinv hq hm i⟩

/-! ## Two nodes

Node 5 hears of node 3 and moves under it, and node 3 hears of that. -/

section Pair

open Observed (sendsAt)

/-- Two nodes with a link between them. -/
def pair : Network (Fin 2) Unit (Option Nat) where
  identity i := if i = 0 then ⟨3, ()⟩ else ⟨5, ()⟩
  config _ := ⟨0, some 0, 0, 4, 60, 120, 60, 500⟩
  links := ⊤
  connected := SimpleGraph.connected_top
  addr_injective := by decide

/-- The announce of `source` with the rest of its path. -/
def announceOf (source parent : NodeAddr) (seq timestamp : Nat) (rest : List CoordEntry) :
    TreeEvent Unit Unit (Option Nat) :=
  .announce source ⟨⟨source, parent, seq, timestamp, some ()⟩,
    ⟨⟨source, seq, timestamp⟩ :: rest, List.cons_ne_nil _ _⟩⟩ ∅ ⟨2, 2000, 2⟩ ⟨2, 2000, 2⟩
    (sendsAt 2000)

/-- Each node has promoted the other. -/
def joined : NetState (Fin 2) Unit Unit Unit (Option Nat) :=
  next (next pair.start 0 (.promotePeer 5 () (sendsAt 1000))) 1 (.promotePeer 3 () (sendsAt 1000))

/-- Then both have learned where the other is. -/
def settled : NetState (Fin 2) Unit Unit Unit (Option Nat) :=
  next (next joined 1 (announceOf 3 3 1 0 [])) 0 (announceOf 5 3 2 2 [⟨3, 1, 0⟩])

theorem pair_adj {i j : Fin 2} (h : i ≠ j) : pair.links.Adj i j := h

theorem reachable_settled : pair.Reachable settled := by
  have hjoined : pair.Reachable joined :=
    .next 1 _ (.next 0 _ .start ⟨1, pair_adj (by decide), by decide⟩)
      ⟨0, pair_adj (by decide), by decide⟩
  refine .next 0 _ (.next 1 _ hjoined ⟨0, pair_adj (by decide), ?_, ?_⟩)
    ⟨1, pair_adj (by decide), ?_, ?_⟩
  all_goals decide +kernel

theorem quiescent_settled : pair.Quiescent settled (fun _ => ∅) (fun _ => 3) where
  current i j hadj := by
    have hne : i ≠ j := hadj
    clear hadj
    revert i j
    decide +kernel
  measured _ := .inr rfl
  settled := by decide +kernel

theorem spanningTree_of_settled : pair.SpanningTree settled :=
  spanningTree_of_quiescent reachable_settled quiescent_settled

end Pair

end Network

end Fips
