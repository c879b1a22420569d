import Fips.Node.Routing

/-!
# No forwarding loop

`FrozenNetwork` is a network of nodes whose tree coordinates do not change while a packet is on its
way, and in which what a node has recorded of a peer's coordinates is that peer's own. Filters, link
costs, sendable flags and peers are any. A node `Forwards` the packet to the node that
`Node::find_next_hop` names, at any time and whatever else its coordinate cache holds, as long as
the cache returns no other coordinates for the destination than the agreed ones.

## Results

* `step_of_forwards`: a packet that has not arrived gets strictly closer with every hop, or arrives.
* `no_forwarding_loop`: no node is visited twice.
-/

namespace Fips

/-- Nodes that do not change while a packet is on its way to `dest`. What each recorded of another are
its coordinates; `destCoords` are the coordinates under which the destination is known. -/
structure FrozenNetwork (ι Signature F : Type) where
  node : ι → RoutingNode Signature F
  recorded : ∀ i j c, (node i).treeState.peerCoords (node j).nodeAddr = some c →
    c = (node j).treeState.myCoords
  dest : NodeAddr
  destCoords : TreeCoordinate

namespace FrozenNetwork

section Loop

variable {ι Signature F : Type} [Sha256] [LinkCost F]

/-- Node `i` hands the packet to node `j`. -/
def Forwards (net : FrozenNetwork ι Signature F) (i j : ι) : Prop :=
  ∃ coordCache nowMs, (∀ c, coordCache.coords net.dest nowMs = some c → c = net.destCoords) ∧
    (({ net.node i with coordCache } : RoutingNode Signature F).findNextHop net.dest nowMs).2 =
      some (net.node j).nodeAddr

variable {net : FrozenNetwork ι Signature F} {i j : ι}

/-- How far a node is from the destination, by its coordinates. -/
def distance (net : FrozenNetwork ι Signature F) (i : ι) : Distance :=
  (net.node i).treeState.myCoords.distanceTo net.destCoords

/-- What every hop achieves. -/
def Step (net : FrozenNetwork ι Signature F) (i j : ι) : Prop :=
  (net.node i).nodeAddr ≠ net.dest ∧
    ((net.node j).nodeAddr = net.dest ∨ net.distance j < net.distance i)

/-- **One hop.** The packet had not arrived; now it has, or it is strictly closer. -/
theorem step_of_forwards (h : net.Forwards i j) : net.Step i j := by
  obtain ⟨coordCache, nowMs, hagreed, hnext⟩ := h
  obtain ⟨hself, hhop⟩ := RoutingNode.hop_of_findNextHop hnext
  refine ⟨Ne.symm hself, ?_⟩
  cases hhop with
  | direct harrived => exact .inl harrived
  | closer destCoords hcached peer _ hcloser =>
    obtain rfl := hagreed destCoords hcached
    obtain ⟨-, c, hc, hlt⟩ := hcloser
    refine .inr ?_
    rw [net.recorded i j c hc] at hlt
    exact hlt

omit [Sha256] [LinkCost F] in
theorem step_trans {k : ι} (hij : net.Step i j) (hjk : net.Step j k) : net.Step i k :=
  ⟨hij.1, hjk.2.imp_right fun hlt => hlt.trans (hij.2.resolve_left hjk.1)⟩

omit [Sha256] [LinkCost F] in
theorem not_step_self : ¬ net.Step i i := fun ⟨hne, h⟩ => h.elim hne (lt_irrefl _)

/-- **No forwarding loop.** -/
theorem no_forwarding_loop {way : List ι} (h : way.IsChain net.Forwards) : way.Nodup := by
  have : IsTrans ι net.Step := ⟨fun _ _ _ => step_trans⟩
  have hstep : way.IsChain net.Step := h.imp fun _ _ => step_of_forwards
  refine hstep.pairwise.imp fun hij heq => ?_
  exact not_step_self (heq ▸ hij)

end Loop

/-! ## Three nodes in a line

Node 7 reaches node 3 through node 5. -/

section Line

open scoped Sample

/-- The path of the node with this index. -/
def linePath : Fin 3 → TreeCoordinate
  | 0 => ⟨[⟨7, 1, 0⟩, ⟨5, 1, 0⟩, ⟨3, 1, 0⟩], List.cons_ne_nil _ _⟩
  | 1 => ⟨[⟨5, 1, 0⟩, ⟨3, 1, 0⟩], List.cons_ne_nil _ _⟩
  | 2 => ⟨[⟨3, 1, 0⟩], List.cons_ne_nil _ _⟩

/-- A node with these neighbours and their coordinates. -/
def lineNode (i : Fin 3) (neighbours : List (Fin 3)) : RoutingNode Unit (Option Nat) where
  nodeAddr := (linePath i).nodeAddr
  treeState := { TreeState.new (linePath i).nodeAddr 0 with
    myCoords := linePath i
    root := 3
    peerAncestry := neighbours.foldr (fun j m => m.insert (linePath j).nodeAddr (linePath j)) ∅ }
  peers := neighbours.foldr (fun j m => m.insert (linePath j).nodeAddr
    ⟨.connected, some 1, none⟩) ∅
  coordCache := ⟨AList.insert 3 ⟨linePath 2, 0, 300000⟩ ∅, 300000⟩

/-- The three nodes, each with its neighbours. -/
def lineNodes : Fin 3 → RoutingNode Unit (Option Nat)
  | 0 => lineNode 0 [1]
  | 1 => lineNode 1 [0, 2]
  | 2 => lineNode 2 [1]

/-- A packet from one end of the line to the other. -/
def line : FrozenNetwork (Fin 3) Unit (Option Nat) where
  node := lineNodes
  recorded i j c hc := by
    have hall : ∀ i j, ∀ c ∈ (lineNodes i).treeState.peerCoords (lineNodes j).nodeAddr,
        c = (lineNodes j).treeState.myCoords := by decide
    exact hall i j c hc
  dest := 3
  destCoords := linePath 2

theorem no_forwarding_loop_line : [(0 : Fin 3), 1, 2].Nodup := by
  have hagreed : ∀ i, ∀ c ∈ (lineNodes i).coordCache.coords 3 0, c = linePath 2 := by decide
  have hchain : [(0 : Fin 3), 1, 2].IsChain line.Forwards :=
    .cons_cons ⟨(lineNodes 0).coordCache, 0, hagreed 0, rfl⟩
      (.cons_cons ⟨(lineNodes 1).coordCache, 0, hagreed 1, rfl⟩ (.singleton _))
  exact no_forwarding_loop hchain

end Line

end FrozenNetwork

end Fips
