import Mathlib.Combinatorics.SimpleGraph.Acyclic

/-!
# Rooted trees given by parent pointers

`ParentTree ι` is a tree on `ι` in which every node but the root points at its parent; the depth is
part of the structure, so a cycle of pointers cannot be built. `path i` follows the pointers from `i`
to the root and `graph` forgets their direction.

## Results

* `isTree`: on finitely many nodes the graph is a tree.
* `path_suffix`: the path of a node on `path i` is a suffix of `path i`.
* `path_injective`, `depth_eq`: a path determines its node and has the depth as length.
* `child_or_parent`: from any node but the destination there is a child on the destination's path,
  or the node has a parent and is not on that path.
-/

/-- Nodes of which each but the root has a parent, one level above it. -/
structure ParentTree (ι : Type*) where
  root : ι
  parent : ι → Option ι
  depth : ι → ℕ
  parent_eq_none_iff : ∀ i, parent i = none ↔ i = root
  depth_root : depth root = 0
  depth_parent : ∀ i j, parent i = some j → depth i = depth j + 1

namespace ParentTree

variable {ι : Type*} (t : ParentTree ι)

/-! ## Paths -/

/-- From a node to the root, both included. -/
def path (i : ι) : List ι :=
  match h : t.parent i with
  | none => [i]
  | some j =>
    have : t.depth j < t.depth i := t.depth_parent i j h ▸ Nat.lt_succ_self _
    i :: path j
termination_by t.depth i

theorem path_of_none {i : ι} (h : t.parent i = none) : t.path i = [i] := by
  rw [path]
  split
  · rfl
  · next j hj => cases h.symm.trans hj

theorem path_of_some {i j : ι} (h : t.parent i = some j) : t.path i = i :: t.path j := by
  rw [path]
  split
  · next hn => cases hn.symm.trans h
  · next j' hj =>
    obtain rfl := Option.some.inj (hj.symm.trans h)
    rfl

/-- Induction along the pointers. -/
theorem rec_path {P : ι → Prop} (hroot : ∀ i, t.parent i = none → P i)
    (hstep : ∀ i j, t.parent i = some j → P j → P i) (i : ι) : P i := by
  induction hd : t.depth i generalizing i with
  | zero =>
    cases h : t.parent i with
    | none => exact hroot i h
    | some j =>
      have hdepth := t.depth_parent i j h
      omega
  | succ d ih =>
    cases h : t.parent i with
    | none => exact hroot i h
    | some j =>
      have hdepth := t.depth_parent i j h
      exact hstep i j h (ih j (by omega))

theorem head?_path (i : ι) : (t.path i).head? = some i := by
  cases h : t.parent i with
  | none => rw [t.path_of_none h]; rfl
  | some j => rw [t.path_of_some h]; rfl

theorem path_ne_nil (i : ι) : t.path i ≠ [] := by
  intro h
  have hhead := t.head?_path i
  rw [h] at hhead
  cases hhead

theorem mem_path (i : ι) : i ∈ t.path i := List.mem_of_mem_head? (t.head?_path i)

theorem path_injective : Function.Injective t.path := by
  intro i j h
  have hhead := congrArg List.head? h
  rw [head?_path, head?_path] at hhead
  exact Option.some.inj hhead

theorem getLast?_path (i : ι) : (t.path i).getLast? = some t.root := by
  induction i using t.rec_path with
  | hroot i h =>
    rw [t.path_of_none h, (t.parent_eq_none_iff i).mp h]
    rfl
  | hstep i j h ih =>
    rw [t.path_of_some h, List.getLast?_cons, ih]
    rfl

/-- The path of a node on the way is the rest of the way. -/
theorem path_suffix {i j : ι} (h : j ∈ t.path i) : t.path j <:+ t.path i := by
  induction i using t.rec_path with
  | hroot i hi =>
    rw [t.path_of_none hi, List.mem_singleton] at h
    rw [h]
  | hstep i k hk ih =>
    rw [t.path_of_some hk, List.mem_cons] at h
    rcases h with rfl | h
    · exact List.suffix_rfl
    · rw [t.path_of_some hk]
      exact (ih h).trans (List.suffix_cons _ _)

/-- A suffix of a path that is not empty is the path of its head. -/
theorem eq_path_of_suffix {i j : ι} {l : List ι} (h : j :: l <:+ t.path i) :
    j :: l = t.path j := by
  induction i using t.rec_path with
  | hroot i hi =>
    rw [t.path_of_none hi] at h
    rcases List.suffix_cons_iff.mp h with heq | hnil
    · rw [heq, ← t.path_of_none hi]
      obtain ⟨rfl, -⟩ := List.cons.inj heq
      rfl
    · cases List.suffix_nil.mp hnil
  | hstep i k hk ih =>
    rw [t.path_of_some hk] at h
    rcases List.suffix_cons_iff.mp h with heq | hsuf
    · obtain ⟨rfl, -⟩ := List.cons.inj heq
      rw [t.path_of_some hk, heq]
    · exact ih hsuf

/-- **The next node towards `j`**: the child of `i` on the path of `j`, or the parent of `i` when `i`
is not on it. -/
theorem child_or_parent {i j : ι} (h : i ≠ j) :
    (∃ k, t.parent k = some i ∧ t.path k <:+ t.path j) ∨
      ∃ k, t.parent i = some k ∧ i ∉ t.path j := by
  by_cases hmem : i ∈ t.path j
  · refine .inl ?_
    obtain ⟨l, hl⟩ := t.path_suffix hmem
    -- the last node before `i` on the way
    rcases List.eq_nil_or_concat l with rfl | ⟨l', k, rfl⟩
    · exact absurd (t.path_injective hl) h
    · have hsuf : k :: t.path i <:+ t.path j := ⟨l', by rw [← hl]; simp⟩
      have hpath := t.eq_path_of_suffix hsuf
      refine ⟨k, ?_, hpath ▸ hsuf⟩
      cases hk : t.parent k with
      | none =>
        rw [t.path_of_none hk] at hpath
        exact absurd (List.cons.inj hpath).2 (t.path_ne_nil i)
      | some i' =>
        rw [t.path_of_some hk] at hpath
        rw [t.path_injective (List.cons.inj hpath).2]
  · refine .inr ?_
    cases hi : t.parent i with
    | none =>
      have hroot := List.mem_of_getLast? (t.getLast?_path j)
      rw [(t.parent_eq_none_iff i).mp hi] at hmem
      exact absurd hroot hmem
    | some k => exact ⟨k, rfl, hmem⟩

/-! ## The undirected graph -/

/-- Each node with its parent. -/
def graph : SimpleGraph ι := SimpleGraph.fromRel fun i j => t.parent i = some j

theorem ne_of_parent {i j : ι} (h : t.parent i = some j) : i ≠ j := by
  rintro rfl
  exact Nat.succ_ne_self _ (t.depth_parent i i h).symm

theorem adj_iff {i j : ι} :
    t.graph.Adj i j ↔ i ≠ j ∧ (t.parent i = some j ∨ t.parent j = some i) :=
  SimpleGraph.fromRel_adj _ _ _

theorem adj_of_parent {i j : ι} (h : t.parent i = some j) : t.graph.Adj i j :=
  t.adj_iff.mpr ⟨t.ne_of_parent h, .inl h⟩

theorem reachable_root (i : ι) : t.graph.Reachable i t.root := by
  induction i using t.rec_path with
  | hroot i h => rw [(t.parent_eq_none_iff i).mp h]
  | hstep i j h ih => exact (t.adj_of_parent h).reachable.trans ih

theorem connected : t.graph.Connected :=
  (SimpleGraph.connected_iff _).mpr
    ⟨fun i j => (t.reachable_root i).trans (t.reachable_root j).symm, ⟨t.root⟩⟩

theorem exists_parent {i : ι} (h : i ≠ t.root) : ∃ j, t.parent i = some j :=
  Option.ne_none_iff_exists'.mp fun hn => h ((t.parent_eq_none_iff i).mp hn)

/-- The edge from a node to its parent. -/
noncomputable def edge (i : { i // i ≠ t.root }) : t.graph.edgeSet :=
  ⟨s(i.1, (t.exists_parent i.2).choose), t.adj_of_parent (t.exists_parent i.2).choose_spec⟩

theorem edge_eq {i j : ι} (hi : i ≠ t.root) (h : t.parent i = some j) :
    (t.edge ⟨i, hi⟩).1 = s(i, j) := by
  have hc := (t.exists_parent hi).choose_spec
  show s(i, (t.exists_parent hi).choose) = s(i, j)
  rw [Option.some.inj (hc.symm.trans h)]

theorem edge_injective : Function.Injective t.edge := by
  rintro ⟨i, hi⟩ ⟨j, hj⟩ h
  obtain ⟨i', hpi⟩ := t.exists_parent hi
  obtain ⟨j', hpj⟩ := t.exists_parent hj
  have hedge := congrArg Subtype.val h
  rw [t.edge_eq hi hpi, t.edge_eq hj hpj] at hedge
  rcases Sym2.eq_iff.mp hedge with ⟨h₁, -⟩ | ⟨h₁, h₂⟩
  · exact Subtype.ext h₁
  · -- each would be the parent of the other
    have hdi := t.depth_parent i j (h₂ ▸ hpi)
    have hdj := t.depth_parent j i (h₁ ▸ hpj)
    omega

theorem edge_surjective : Function.Surjective t.edge := by
  rintro ⟨e, he⟩
  induction e with
  | _ i j =>
    have hne : ∀ {i j : ι}, t.parent i = some j → i ≠ t.root := by
      intro i j h hr
      rw [(t.parent_eq_none_iff i).mpr hr] at h
      cases h
    rcases (t.adj_iff.mp he).2 with h | h
    · exact ⟨⟨i, hne h⟩, Subtype.ext (t.edge_eq _ h)⟩
    · exact ⟨⟨j, hne h⟩, Subtype.ext ((t.edge_eq _ h).trans Sym2.eq_swap)⟩

/-- **Parent pointers form a tree.** -/
theorem isTree [Finite ι] : t.graph.IsTree := by
  classical
  refine SimpleGraph.isTree_iff_connected_and_card.mpr ⟨t.connected, ?_⟩
  rw [← Nat.card_congr (Equiv.ofBijective t.edge ⟨t.edge_injective, t.edge_surjective⟩), ← Finite.card_option]
  exact Nat.card_congr (Equiv.optionSubtypeNe t.root)

end ParentTree
