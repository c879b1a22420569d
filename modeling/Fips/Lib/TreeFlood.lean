import Mathlib.Combinatorics.SimpleGraph.Acyclic
import Mathlib.Combinatorics.SimpleGraph.Diam

/-!
# Flooding a tree with split horizon

In every round each node of a tree tells each neighbour what it has itself and what its other
neighbours told it in the round before; what it was told before that is forgotten. `Round own S S'`
is one such round, for facts of any type: `S v u a` says that `v` was told `a` by `u`.

`G.Beyond v u w` says that `w` is on the side of `u` of the edge `v`-`u`.

## Results

* `beyond_iff`: the nodes beyond an edge are its far end and those beyond the edges that go on.
* `told_of_rounds`: whatever the nodes were told at first, after as many rounds as the diameter `v`
  has been told by `u` exactly what the nodes on the side of `u` have themselves.
-/

namespace SimpleGraph

variable {V α : Type*} {G : SimpleGraph V} {v u w : V}

/-- The node `w` is reached from `u` without the edge `v`-`u`. -/
def Beyond (G : SimpleGraph V) (v u w : V) : Prop := (G.deleteEdges {s(v, u)}).Reachable u w

theorem beyond_iff_exists_walk : G.Beyond v u w ↔ ∃ p : G.Walk u w, s(v, u) ∉ p.edges :=
  reachable_deleteEdges_iff_exists_walk

theorem beyond_self (G : SimpleGraph V) (v u : V) : G.Beyond v u u := Reachable.refl u

/-- In a forest an edge is the only way across. -/
theorem IsAcyclic.mem_edges (hG : G.IsAcyclic) (hadj : G.Adj v u) (p : G.Walk v u) :
    s(v, u) ∈ p.edges :=
  isBridge_iff_forall_walk_mem_edges.mp (isAcyclic_iff_forall_adj_isBridge.mp hG hadj) p

theorem IsAcyclic.not_beyond (hG : G.IsAcyclic) (hadj : G.Adj v u) (h : G.Beyond v u w) :
    ¬ G.Beyond u v w := by
  intro h'
  rw [Beyond, Sym2.eq_swap] at h'
  exact isBridge_iff.mp (isAcyclic_iff_forall_adj_isBridge.mp hG hadj) (h'.trans h.symm)

/-- **Beyond an edge** are its far end and what lies beyond the edges that go on. -/
theorem IsAcyclic.beyond_iff (hG : G.IsAcyclic) (hadj : G.Adj v u) :
    G.Beyond v u w ↔ w = u ∨ ∃ x, G.Adj u x ∧ x ≠ v ∧ G.Beyond u x w := by
  classical
  constructor
  · intro h
    obtain ⟨p, hp⟩ := h.exists_isPath
    cases p with
    | nil => exact .inl rfl
    | cons hux q =>
      rename_i x
      obtain ⟨hq, hu⟩ := (Walk.cons_isPath_iff _ _).mp hp
      rw [deleteEdges_adj] at hux
      refine .inr ⟨x, hux.1, fun hx => hux.2 ?_, beyond_iff_exists_walk.mpr ?_⟩
      · rw [hx, Set.mem_singleton_iff, Sym2.eq_swap]
      · refine ⟨q.mapLe (deleteEdges_le _), fun hmem => hu ?_⟩
        have hsupport := Walk.fst_mem_support_of_mem_edges _ hmem
        rwa [Walk.support_mapLe_eq_support] at hsupport
  · rintro (rfl | ⟨x, hux, hx, h⟩)
    · exact beyond_self G v _
    · obtain ⟨q, hq⟩ := beyond_iff_exists_walk.mp h
      refine beyond_iff_exists_walk.mpr ⟨.cons hux q, ?_⟩
      rw [Walk.edges_cons, List.mem_cons, not_or]
      refine ⟨fun heq => ?_, fun hmem => ?_⟩
      · rw [Sym2.eq_swap, Sym2.congr_right] at heq
        exact hx heq.symm
      · -- back to `u` only over the edge to `x`
        have hu : u ∈ q.support := Walk.snd_mem_support_of_mem_edges _ hmem
        have hback := hG.mem_edges hux.symm (q.takeUntil u hu)
        rw [Sym2.eq_swap] at hback
        exact hq (Walk.edges_takeUntil_subset_edges _ hu hback)

/-- What lies beyond an edge is one step further from its near end. -/
theorem IsTree.dist_of_beyond (hG : G.IsTree) (hadj : G.Adj v u) (h : G.Beyond v u w) :
    G.dist u w < G.dist v w := by
  obtain ⟨p, hp, hlen⟩ := hG.connected.exists_path_of_dist v w
  have hcross : s(v, u) ∈ p.edges := by
    by_contra hmem
    refine hG.isAcyclic.not_beyond hadj h (beyond_iff_exists_walk.mpr ⟨p, ?_⟩)
    rwa [Sym2.eq_swap]
  cases p with
  | nil => exact absurd hcross List.not_mem_nil
  | cons hvx q =>
    obtain ⟨-, hv⟩ := (Walk.cons_isPath_iff _ _).mp hp
    rcases List.mem_cons.mp (Walk.edges_cons _ _ ▸ hcross) with heq | hmem
    · rw [Sym2.congr_right] at heq
      subst heq
      rw [← hlen, Walk.length_cons]
      exact Nat.lt_succ_of_le (dist_le q)
    · exact absurd (Walk.fst_mem_support_of_mem_edges _ hmem) hv

/-! ## Rounds -/

/-- After the round `v` has been told by `u` what `u` has and what others had told `u`. -/
def Round (G : SimpleGraph V) (own : V → α → Prop) (S S' : V → V → α → Prop) : Prop :=
  ∀ v u a, G.Adj v u → (S' v u a ↔ own u a ∨ ∃ x, G.Adj u x ∧ x ≠ v ∧ S u x a)

variable {own : V → α → Prop} {S : ℕ → V → V → α → Prop}

/-- Where everything beyond an edge is within `k` steps, `k` rounds are enough. -/
theorem IsTree.told_of_dist_le (hG : G.IsTree) (hround : ∀ k, G.Round own (S k) (S (k + 1)))
    (k : ℕ) (hadj : G.Adj v u) (hdist : ∀ w, G.Beyond v u w → G.dist v w ≤ k) (a : α) :
    S k v u a ↔ ∃ w, G.Beyond v u w ∧ own w a := by
  induction k generalizing v u with
  | zero =>
    have hnear := hdist u (beyond_self G v u)
    rw [dist_eq_one_iff_adj.mpr hadj] at hnear
    omega
  | succ k ih =>
    have hnext : ∀ x, G.Adj u x → x ≠ v → (S k u x a ↔ ∃ w, G.Beyond u x w ∧ own w a) := by
      intro x hux hx
      refine ih hux fun w hw => ?_
      have hbeyond : G.Beyond v u w :=
        (hG.isAcyclic.beyond_iff hadj).mpr (.inr ⟨x, hux, hx, hw⟩)
      have hfar := hdist w hbeyond
      have hcloser := hG.dist_of_beyond hadj hbeyond
      omega
    rw [hround k v u a hadj]
    constructor
    · rintro (h | ⟨x, hux, hx, h⟩)
      · exact ⟨u, beyond_self G v u, h⟩
      · obtain ⟨w, hw, hown⟩ := (hnext x hux hx).mp h
        exact ⟨w, (hG.isAcyclic.beyond_iff hadj).mpr (.inr ⟨x, hux, hx, hw⟩), hown⟩
    · rintro ⟨w, hw, hown⟩
      rcases (hG.isAcyclic.beyond_iff hadj).mp hw with rfl | ⟨x, hux, hx, hw'⟩
      · exact .inl hown
      · exact .inr ⟨x, hux, hx, (hnext x hux hx).mpr ⟨w, hw', hown⟩⟩

/-- **Flooding converges** within the diameter, whatever the nodes were told at first. -/
theorem IsTree.told_of_rounds [Finite V] (hG : G.IsTree)
    (hround : ∀ k, G.Round own (S k) (S (k + 1))) {k : ℕ} (hk : G.diam ≤ k) (hadj : G.Adj v u)
    (a : α) : S k v u a ↔ ∃ w, G.Beyond v u w ∧ own w a := by
  have : Nonempty V := ⟨v⟩
  have hfinite : G.ediam ≠ ⊤ := connected_iff_ediam_ne_top.mp hG.connected
  exact hG.told_of_dist_le hround k hadj (fun _ _ => (dist_le_diam hfinite).trans hk) a

end SimpleGraph
