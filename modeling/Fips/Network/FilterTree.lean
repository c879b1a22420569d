import Fips.Lib.TreeFlood
import Fips.Node.FilterMembers

/-!
# Filters of a whole tree

`FilterTree` is a finite tree of nodes with distinct addresses whose tree peers are their neighbours
in it. The filters they hold of each other may be any. In a round every node sends its outgoing filter
for a neighbour to that neighbour, which stores it.

## Results

* `round_bit`: bit by bit, a round is a round of flooding with split horizon.
* `rounds_flood`: so is every round of a run.
* `filters_converge`: after as many rounds as the diameter, the filter a node holds of a neighbour is
  the filter of the addresses on the neighbour's side of their edge.
-/

namespace Fips

namespace BloomFilter

variable [Sha256]

/-- The default filter into which the addresses that satisfy `P` have been put, and no others. -/
def IsFilterOf (P : NodeAddr → Prop) (f : BloomFilter) : Prop :=
  ∃ as : List NodeAddr, (∀ a, a ∈ as ↔ P a) ∧ f = as.foldl BloomFilter.insert .new

/-- A filter with the default parameters and the bits of the addresses in `as` is their filter, in
whatever order they are put in. -/
theorem isFilterOf_of_bits {P : NodeAddr → Prop} {f : BloomFilter} (hf : BloomState.Default f)
    {as : List NodeAddr} (has : ∀ a, a ∈ as ↔ P a)
    (hbit : ∀ j, f.getBit j = true ↔
      ∃ a, P a ∧ ∃ i < DEFAULT_HASH_COUNT.toNat, j = new.hash a.bytes i) : IsFilterOf P f := by
  obtain ⟨hdef, hbit'⟩ := BloomState.foldl_insert_spec BloomState.default_new as
  refine ⟨as, has, ext_getBit (hf.numBits.trans hdef.numBits.symm)
    (hf.hashCount.trans hdef.hashCount.symm) fun j => ?_⟩
  rw [Bool.eq_iff_iff, hbit, hbit', BloomState.getBit_new]
  simp only [has, Bool.false_eq_true, false_or]

end BloomFilter

namespace BloomNode

variable {SecretKey PublicKey Signature F : Type}

/-- `ActivePeer::update_filter`, with the next sequence number. -/
def updateFilter (n : BloomNode SecretKey PublicKey Signature F) (source : NodeAddr)
    (filter : BloomFilter) : BloomNode SecretKey PublicKey Signature F :=
  { n with
    filterSlots := n.filterSlots.insert source ⟨some filter, (n.slots source).filterSequence + 1⟩ }

theorem slots_updateFilter (n : BloomNode SecretKey PublicKey Signature F) (source p : NodeAddr)
    (filter : BloomFilter) : ((n.updateFilter source filter).slots p).inboundFilter =
      if p = source then some filter else (n.slots p).inboundFilter := by
  unfold slots updateFilter
  rw [Map.lookup_insert']
  split_ifs
  · rfl
  · rfl

end BloomNode

/-- Nodes in a tree. The tree peers of each are its neighbours. -/
structure FilterTree (ι SecretKey PublicKey Signature F : Type) where
  graph : SimpleGraph ι
  adjDecidable : DecidableRel graph.Adj
  isTree : graph.IsTree
  members : List ι
  mem_members : ∀ i, i ∈ members
  addr : ι → NodeAddr
  addr_injective : Function.Injective addr
  node : ι → BloomNode SecretKey PublicKey Signature F
  own : ∀ i, (node i).bloomState.ownNodeAddr = addr i
  treePeer_iff : ∀ i p, (p ∈ (node i).tree.peers ∧ (node i).tree.isTreePeer p = true) ↔
    ∃ j, graph.Adj i j ∧ p = addr j

namespace FilterTree

variable {ι SecretKey PublicKey Signature F : Type} [Sha256]
  (net : FilterTree ι SecretKey PublicKey Signature F)

instance : DecidableRel net.graph.Adj := net.adjDecidable

omit [Sha256] in
theorem finite (net : FilterTree ι SecretKey PublicKey Signature F) : Finite ι := by
  classical
  exact (Fintype.ofList net.members net.mem_members).finite

/-! ## Rounds -/

/-- What node `j` sends to node `i`. -/
def outgoing (i j : ι) : BloomFilter :=
  (net.node j).bloomState.computeOutgoingFilter (net.addr i) (net.node j).peerInboundFilters

/-- Node `i` with the filters of its neighbours among `js`. -/
def receive (i : ι) (js : List ι) : BloomNode SecretKey PublicKey Signature F :=
  js.foldr (fun j n => if net.graph.Adj i j then n.updateFilter (net.addr j) (net.outgoing i j) else n)
    (net.node i)

theorem receive_frames (i : ι) (js : List ι) : (net.receive i js).tree = (net.node i).tree ∧
    (net.receive i js).bloomState = (net.node i).bloomState := by
  induction js with
  | nil => exact ⟨rfl, rfl⟩
  | cons j js ih =>
    unfold receive
    rw [List.foldr_cons]
    split_ifs
    · exact ih
    · exact ih

/-- The filter of every neighbour arrives. -/
theorem slots_receive {i j : ι} (hadj : net.graph.Adj i j) {js : List ι} (hj : j ∈ js) :
    ((net.receive i js).slots (net.addr j)).inboundFilter = some (net.outgoing i j) := by
  induction js with
  | nil => cases hj
  | cons j' js ih =>
    unfold receive
    rw [List.foldr_cons]
    by_cases hsame : j = j'
    · rw [← hsame, if_pos hadj, BloomNode.slots_updateFilter, if_pos rfl]
    · have hrest := ih ((List.mem_cons.mp hj).resolve_left hsame)
      split_ifs
      · rw [BloomNode.slots_updateFilter, if_neg fun heq => hsame (net.addr_injective heq)]
        exact hrest
      · exact hrest

/-- One round. -/
def round : FilterTree ι SecretKey PublicKey Signature F where
  graph := net.graph
  adjDecidable := net.adjDecidable
  isTree := net.isTree
  members := net.members
  mem_members := net.mem_members
  addr := net.addr
  addr_injective := net.addr_injective
  node i := net.receive i net.members
  own i := (congrArg BloomState.ownNodeAddr (net.receive_frames i net.members).2).trans (net.own i)
  treePeer_iff i p := (net.receive_frames i net.members).1.symm ▸ net.treePeer_iff i p

/-- Some rounds. -/
def rounds : Nat → FilterTree ι SecretKey PublicKey Signature F
  | 0 => net
  | k + 1 => (rounds k).round

/-- What a round does not change. -/
theorem rounds_frames (k : Nat) : (net.rounds k).graph = net.graph ∧
    (net.rounds k).addr = net.addr ∧
    ∀ i, ((net.rounds k).node i).bloomState = (net.node i).bloomState := by
  induction k with
  | zero => exact ⟨rfl, rfl, fun _ => rfl⟩
  | succ k ih =>
    obtain ⟨hgraph, haddr, hstate⟩ := ih
    exact ⟨hgraph, haddr, fun i => ((net.rounds k).receive_frames i _).2.trans (hstate i)⟩

/-! ## Bits -/

/-- Node `i` holds a filter of node `j`, of the default size, with this bit. -/
def Bit (i j : ι) (b : Nat) : Prop :=
  ∃ f, ((net.node i).slots (net.addr j)).inboundFilter = some f ∧
    f.numBits = BloomFilter.DEFAULT_FILTER_SIZE_BITS ∧ f.getBit b = true

omit [Sha256] in
/-- The bits that node `j` merges for node `i`: those of its neighbours but `i`. -/
theorem peerBit_iff {i j : ι} (b : Nat) :
    BloomState.PeerBit (net.node j).peerInboundFilters (net.addr i) b ↔
      ∃ x, net.graph.Adj j x ∧ x ≠ i ∧ net.Bit j x b := by
  constructor
  · rintro ⟨p, f, hl, hp, hsize, hb⟩
    rw [BloomNode.lookup_peerInboundFilters] at hl
    split_ifs at hl with hpeer
    obtain ⟨x, hadj, rfl⟩ := (net.treePeer_iff j p).mp hpeer
    exact ⟨x, hadj, fun hx => hp (congrArg net.addr hx), f, hl, hsize, hb⟩
  · rintro ⟨x, hadj, hx, f, hslot, hsize, hb⟩
    refine ⟨net.addr x, f, ?_, fun heq => hx (net.addr_injective heq), hsize, hb⟩
    rw [BloomNode.lookup_peerInboundFilters,
      if_pos ((net.treePeer_iff j (net.addr x)).mpr ⟨x, hadj, rfl⟩)]
    exact hslot

/-- **A round is a round of flooding**, bit by bit. -/
theorem round_bit : net.graph.Round (fun j => (net.node j).bloomState.OwnBit) net.Bit
    net.round.Bit := by
  intro i j b hadj
  obtain ⟨hdef, hbit⟩ := (net.node j).bloomState.computeOutgoingFilter_spec (net.addr i)
    (net.node j).peerInboundFilters
  have hslot := net.slots_receive hadj (net.mem_members j)
  rw [← net.peerBit_iff b, ← hbit]
  constructor
  · rintro ⟨f, hf, -, hb⟩
    cases hslot.symm.trans hf
    exact hb
  · exact fun hb => ⟨_, hslot, hdef.numBits, hb⟩

/-! ## Convergence -/

/-- The addresses on the side of node `j` of the edge `i`-`j`: its nodes and their dependents. -/
def OnSide (i j : ι) (a : NodeAddr) : Prop :=
  ∃ w, net.graph.Beyond i j w ∧
    (a = net.addr w ∨ a ∈ (net.node w).bloomState.leafDependents)

omit [Sha256] in
theorem exists_onSide (i j : ι) : ∃ as : List NodeAddr, ∀ a, a ∈ as ↔ net.OnSide i j a := by
  classical
  refine ⟨(net.members.filter fun w => net.graph.Beyond i j w).flatMap fun w =>
    net.addr w :: (net.node w).bloomState.leafDependents, fun a => ?_⟩
  simp only [List.mem_flatMap, List.mem_filter, decide_eq_true_eq, List.mem_cons, net.mem_members,
    true_and]
  exact Iff.rfl

/-- Every round of the network is a round of flooding. -/
theorem rounds_flood (k : Nat) : net.graph.Round (fun j => (net.node j).bloomState.OwnBit)
    (net.rounds k).Bit (net.rounds (k + 1)).Bit := by
  obtain ⟨hgraph, -, hstate⟩ := net.rounds_frames k
  have hstep := (net.rounds k).round_bit
  simp only [hstate] at hstep
  rwa [hgraph] at hstep

/-- After a round node `i` holds what node `j` sent last. -/
theorem exists_slot {i j : ι} (hadj : net.graph.Adj i j) (k : Nat) :
    ∃ f, (((net.rounds (k + 1)).node i).slots (net.addr j)).inboundFilter = some f ∧
      BloomState.Default f ∧ ∀ b, f.getBit b = true ↔ (net.rounds (k + 1)).Bit i j b := by
  obtain ⟨hgraph, haddr, -⟩ := net.rounds_frames k
  have hslot := (net.rounds k).slots_receive (hgraph.symm ▸ hadj) ((net.rounds k).mem_members j)
  obtain ⟨hdef, -⟩ := ((net.rounds k).node j).bloomState.computeOutgoingFilter_spec
    ((net.rounds k).addr i) ((net.rounds k).node j).peerInboundFilters
  rw [haddr] at hslot
  refine ⟨_, hslot, hdef, fun b => ⟨fun hb => ⟨_, ?_, hdef.numBits, hb⟩, ?_⟩⟩
  · rw [(net.rounds_frames (k + 1)).2.1]
    exact hslot
  · rintro ⟨f, hf, -, hb⟩
    rw [(net.rounds_frames (k + 1)).2.1] at hf
    cases hslot.symm.trans hf
    exact hb

omit [Sha256] in
theorem diam_pos {i j : ι} (hadj : net.graph.Adj i j) : 0 < net.graph.diam := by
  have : Finite ι := net.finite
  have : Nonempty ι := ⟨i⟩
  have hfinite := SimpleGraph.connected_iff_ediam_ne_top.mp net.isTree.connected
  have hnear : net.graph.dist i j ≤ net.graph.diam := SimpleGraph.dist_le_diam hfinite
  rwa [SimpleGraph.dist_eq_one_iff_adj.mpr hadj] at hnear

/-- **Filters converge.** Whatever filters the nodes hold at first, after as many rounds as the
diameter, and from then on, node `i` holds of its neighbour `j` the filter of exactly the addresses on
the side of `j`; no node on its own side is one of them. -/
theorem filters_converge {k : Nat} (hk : net.graph.diam ≤ k) {i j : ι} (hadj : net.graph.Adj i j) :
    (∃ f, (((net.rounds k).node i).slots (net.addr j)).inboundFilter = some f ∧
      BloomFilter.IsFilterOf (net.OnSide i j) f) ∧
    ∀ w w', net.graph.Beyond j i w → net.graph.Beyond i j w' → net.addr w ≠ net.addr w' := by
  have : Finite ι := net.finite
  constructor
  · have htold := fun b => net.isTree.told_of_rounds net.rounds_flood hk hadj b
    obtain ⟨k, rfl⟩ := Nat.exists_eq_succ_of_ne_zero (lt_of_lt_of_le (net.diam_pos hadj) hk).ne'
    obtain ⟨f, hslot, hdef, hbit⟩ := net.exists_slot hadj k
    obtain ⟨as, has⟩ := net.exists_onSide i j
    refine ⟨f, hslot, BloomFilter.isFilterOf_of_bits hdef has fun b => ?_⟩
    rw [hbit, htold]
    constructor
    · rintro ⟨w, hw, a, ha, hprobe⟩
      rw [net.own] at ha
      exact ⟨a, ⟨w, hw, ha⟩, hprobe⟩
    · rintro ⟨a, ⟨w, hw, ha⟩, hprobe⟩
      rw [← net.own] at ha
      exact ⟨w, hw, a, ha, hprobe⟩
  · rintro w w' hw hw' heq
    obtain rfl := net.addr_injective heq
    exact net.isTree.isAcyclic.not_beyond hadj hw' hw

end FilterTree

/-! ## Three nodes in a row -/

namespace FilterTree

open RootElection FilterMembers

/-- The nodes of a row, the root first. -/
inductive Place
  | first
  | middle
  | last
  deriving DecidableEq

instance : Fintype Place := ⟨{.first, .middle, .last}, fun i => by cases i <;> decide⟩

/-- The node before, or the node itself at the root. -/
def Place.before : Place → Place
  | .first => .first
  | .middle => .first
  | .last => .middle

/-- Each but the first has a link to the node before it. -/
def row : SimpleGraph Place where
  Adj i j := i ≠ j ∧ (i.before = j ∨ j.before = i)
  symm := ⟨fun _ _ h => ⟨h.1.symm, h.2.symm⟩⟩
  loopless := ⟨fun _ h => h.1 rfl⟩

instance : DecidableRel row.Adj := fun i j => inferInstanceAs (Decidable (i ≠ j ∧ _))

theorem row_isTree : row.IsTree := by
  have hmiddle : ∀ i, row.Reachable .middle i := by
    intro i
    cases i with
    | first => exact SimpleGraph.Adj.reachable (by decide)
    | middle => exact SimpleGraph.Reachable.refl _
    | last => exact SimpleGraph.Adj.reachable (by decide)
  refine SimpleGraph.isTree_iff_connected_and_card.mpr ⟨?_, ?_⟩
  · have : Nonempty Place := ⟨.middle⟩
    exact ⟨fun i j => (hmiddle i).symm.trans (hmiddle j)⟩
  · rw [Nat.card_eq_fintype_card, Nat.card_eq_fintype_card]
    decide +kernel

/-- A shortest path meets no node twice. -/
theorem diam_row : row.diam ≤ 2 := by
  have : Nonempty Place := ⟨.middle⟩
  obtain ⟨i, j, hdist⟩ := row.exists_dist_eq_diam
  obtain ⟨p, hpath, hlength⟩ := row_isTree.connected.exists_path_of_dist i j
  have hlt : p.length < 3 := hpath.length_lt
  omega

/-- The addresses along the row. -/
def rowAddr : Place → NodeAddr
  | .first => 5
  | .middle => 7
  | .last => 9

/-- The neighbours in the row. -/
def rowNeighbours (i : Place) : List Place :=
  [Place.first, Place.middle, Place.last].filter fun j => row.Adj i j

/-- Each is the child of the node before it, and holds of its neighbours a stale filter with every bit
set. -/
def rowNode (i : Place) : BloomNode Unit Unit Unit (Option Nat) :=
  let alone : TreeNode Unit Unit Unit (Option Nat) :=
    .new ⟨rowAddr i, ()⟩ 0 (some 0) 0 4 60 120 60 500
  let declaration (j : Place) : ParentDeclaration Unit :=
    { alone.treeState.myDeclaration with nodeAddr := rowAddr j, parentId := rowAddr j.before }
  { tree := { alone with
      peers := (rowNeighbours i).foldr (fun j peers => peers.insert (rowAddr j) { pubkey := () }) ∅
      treeState := { alone.treeState with
        root := 5
        myDeclaration := declaration i
        peerDeclarations := (rowNeighbours i).foldr
          (fun j declarations => declarations.insert (rowAddr j) (declaration j)) ∅ } }
    filterSlots := (rowNeighbours i).foldr
      (fun j slots => slots.insert (rowAddr j) ⟨some ⟨List.replicate 1024 255, 5⟩, 3⟩) ∅
    bloomState := .new (rowAddr i) }

theorem rowAddr_injective : Function.Injective rowAddr := by decide

theorem row_treePeer_iff (i : Place) (p : NodeAddr) :
    (p ∈ (rowNode i).tree.peers ∧ (rowNode i).tree.isTreePeer p = true) ↔
      ∃ j, row.Adj i j ∧ p = rowAddr j := by
  have hadjacent : ∀ i j, row.Adj i j →
      rowAddr j ∈ (rowNode i).tree.peers ∧ (rowNode i).tree.isTreePeer (rowAddr j) = true := by decide
  have hpeers : ∀ js : List Place, p ∈ js.foldr (fun j (peers : Map NodeAddr (TreePeer Unit Unit)) =>
      peers.insert (rowAddr j) { pubkey := () }) ∅ → ∃ j ∈ js, p = rowAddr j := by
    intro js hp
    induction js with
    | nil => exact absurd hp (AList.notMem_empty p)
    | cons j js ih =>
      rcases (AList.mem_insert _).mp hp with heq | hrest
      · exact ⟨j, List.mem_cons_self, heq⟩
      · obtain ⟨j', hj', heq⟩ := ih hrest
        exact ⟨j', List.mem_cons_of_mem j hj', heq⟩
  constructor
  · rintro ⟨hp, -⟩
    obtain ⟨j, hj, heq⟩ := hpeers (rowNeighbours i) hp
    exact ⟨j, decide_eq_true_eq.mp (List.mem_filter.mp hj).2, heq⟩
  · rintro ⟨j, hadj, rfl⟩
    exact hadjacent i j hadj

/-- The nodes 5, 7 and 9. -/
def rowTree : FilterTree Place Unit Unit Unit (Option Nat) where
  graph := row
  adjDecidable := inferInstance
  isTree := row_isTree
  members := [.first, .middle, .last]
  mem_members := by decide
  addr := rowAddr
  addr_injective := rowAddr_injective
  node := rowNode
  own _ := rfl
  treePeer_iff := row_treePeer_iff

/-- Two rounds replace the stale filters: the first still passes on what the node in the middle held
of the last one. -/
theorem row_converges :
    (∃ f, (((rowTree.rounds 2).node .first).slots 7).inboundFilter = some f ∧
      BloomFilter.IsFilterOf (rowTree.OnSide .first .middle) f) ∧
    ∀ w w', rowTree.graph.Beyond .middle .first w → rowTree.graph.Beyond .first .middle w' →
      rowTree.addr w ≠ rowTree.addr w' := by
  have hadj : rowTree.graph.Adj .first .middle := ⟨nofun, .inr rfl⟩
  exact rowTree.filters_converge diam_row hadj

end FilterTree

end Fips
