import Mathlib.Combinatorics.SimpleGraph.Metric
import Fips.Lib.CommonPrefix
import Fips.Lib.ParentTree

/-!
# Distance in a tree of parent pointers

`hops i j` compares the root-first paths of two nodes: what is left of both after their common prefix
leads from `i` up to the common ancestor and down to `j`.

## Results

* `hops_of_child`, `hops_of_parent`: one step towards `j` takes one off.
* `exists_closer`: from any node but `j` a child or the parent is one step closer.
* `hops_eq_dist`: the distance is that of the undirected graph.
-/

namespace ParentTree

variable {ι : Type*} [DecidableEq ι] (t : ParentTree ι)

/-- The length of the way from one node to another over their lowest common ancestor. -/
def hops (i j : ι) : ℕ := List.prefixDist (t.path i).reverse (t.path j).reverse

variable {t} {i j k : ι}

omit [DecidableEq ι] in
theorem reverse_path_of_some (h : t.parent i = some k) :
    (t.path i).reverse = (t.path k).reverse ++ [i] := by
  rw [t.path_of_some h, List.reverse_cons]

theorem hops_of_child (h : t.parent k = some i) (hk : t.path k <:+ t.path j) :
    t.hops i j = t.hops k j + 1 := by
  rw [← List.reverse_prefix, reverse_path_of_some h] at hk
  unfold hops
  rw [List.prefixDist_of_concat hk, reverse_path_of_some h]

theorem hops_of_parent (h : t.parent i = some k) (hi : ¬ t.path i <:+ t.path j) :
    t.hops i j = t.hops k j + 1 := by
  rw [← List.reverse_prefix, reverse_path_of_some h] at hi
  unfold hops
  rw [reverse_path_of_some h, List.prefixDist_to_concat hi]

theorem hops_eq_zero_iff : t.hops i j = 0 ↔ i = j := by
  unfold hops
  rw [List.prefixDist_eq_zero_iff, List.reverse_inj, t.path_injective.eq_iff]

/-- **A neighbour in the tree is one step closer**, from any node but the destination. -/
theorem exists_closer (h : i ≠ j) :
    ∃ k, (t.parent k = some i ∨ t.parent i = some k) ∧ t.hops i j = t.hops k j + 1 := by
  rcases t.child_or_parent h with ⟨k, hk, hsuf⟩ | ⟨k, hk, hmem⟩
  · exact ⟨k, .inl hk, hops_of_child hk hsuf⟩
  · refine ⟨k, .inr hk, hops_of_parent hk fun hsuf => hmem ?_⟩
    exact hsuf.subset (t.mem_path i)

/-- An edge changes the distance by at most one. -/
theorem hops_le_of_adj (h : t.graph.Adj i k) : t.hops i j ≤ t.hops k j + 1 := by
  have hparent : ∀ {i k : ι}, t.parent i = some k →
      t.hops i j ≤ t.hops k j + 1 ∧ t.hops k j ≤ t.hops i j + 1 := by
    intro i k h
    by_cases hsuf : t.path i <:+ t.path j
    · have heq := hops_of_child h hsuf
      omega
    · have heq := hops_of_parent h hsuf
      omega
  rcases (t.adj_iff.mp h).2 with h | h
  · exact (hparent h).1
  · exact (hparent h).2

/-- Walking along closer and closer neighbours. -/
theorem exists_walk (i j : ι) : ∃ walk : t.graph.Walk i j, walk.length = t.hops i j := by
  induction hn : t.hops i j generalizing i with
  | zero =>
    obtain rfl := hops_eq_zero_iff.mp hn
    exact ⟨.nil, rfl⟩
  | succ n ih =>
    have hne : i ≠ j := fun h => by
      rw [hops_eq_zero_iff.mpr h] at hn
      cases hn
    obtain ⟨k, hk, hcloser⟩ := exists_closer (t := t) hne
    obtain ⟨walk, hwalk⟩ := ih k (by omega)
    have hadj : t.graph.Adj i k := hk.elim (fun h => (t.adj_of_parent h).symm) t.adj_of_parent
    exact ⟨.cons hadj walk, by rw [SimpleGraph.Walk.length_cons, hwalk]⟩

theorem hops_le_length (walk : t.graph.Walk i j) : t.hops i j ≤ walk.length := by
  induction walk with
  | nil => exact (hops_eq_zero_iff.mpr rfl).le
  | cons hadj walk ih =>
    rw [SimpleGraph.Walk.length_cons]
    exact (hops_le_of_adj hadj).trans (Nat.add_le_add_right ih 1)

/-- **Comparing paths measures the graph.** -/
theorem hops_eq_dist (i j : ι) : t.hops i j = t.graph.dist i j := by
  obtain ⟨walk, hwalk⟩ := exists_walk (t := t) i j
  obtain ⟨shortest, hshortest⟩ := t.connected.exists_walk_length_eq_dist i j
  refine le_antisymm ?_ (hwalk ▸ SimpleGraph.dist_le walk)
  rw [← hshortest]
  exact hops_le_length shortest

end ParentTree
