import Mathlib.Algebra.GroupWithZero.Nat
import Fips.Lib.Checked
import Fips.Tree.Routing

/-!
# Tree distance as a metric

`TreeCoordinate::distance_to` and `lca_depth` (`tree/coordinate.rs:141-188`) on coordinates as
they come off the wire: any non-empty path, whose addresses may repeat and need not belong to a
tree. `checkedDistance` is `distance_to` with the subtractions of unsigned integers that stop the
program when they underflow.

## Results

* `isGreatest_lcaDepth`: below equal roots `lca_depth + 1` is the length of the longest common
  suffix of the two paths.
* `checkedDistance_eq_ok`: the subtractions do not underflow.
* `distanceTo_metric`: the coordinates with one root are a metric space of address paths.
-/

open Checked

namespace Fips.TreeCoordinate

variable {a b c : TreeCoordinate}

/-- `distance_to` with its subtractions checked. -/
def checkedDistance (c other : TreeCoordinate) : Result Empty Distance :=
  if c.rootId ≠ other.rootId then .ok ⊤
  else do
    let selfToLca ← sub c.depth (c.lcaDepth other)
    let otherToLca ← sub other.depth (c.lcaDepth other)
    pure (selfToLca + otherToLca : Nat)

/-! ## The lowest common ancestor -/

theorem lcaDepth_add_one (h : a.rootId = b.rootId) :
    a.lcaDepth b + 1 = List.commonPrefix a.nodeAddrs.reverse b.nodeAddrs.reverse :=
  Nat.sub_add_cancel (commonPrefix_pos h)

theorem lcaDepth_comm (a b : TreeCoordinate) : a.lcaDepth b = b.lcaDepth a := by
  unfold lcaDepth
  rw [List.commonPrefix_comm]

theorem lcaDepth_le_left (h : a.rootId = b.rootId) : a.lcaDepth b ≤ a.depth := by
  have hle := List.commonPrefix_le_left a.nodeAddrs.reverse b.nodeAddrs.reverse
  rw [← lcaDepth_add_one h, List.length_reverse, length_nodeAddrs] at hle
  exact Nat.le_of_succ_le_succ hle

theorem lcaDepth_le_right (h : a.rootId = b.rootId) : a.lcaDepth b ≤ b.depth :=
  lcaDepth_comm a b ▸ lcaDepth_le_left h.symm

/-- Two paths share exactly the suffixes up to the common ancestor. -/
theorem isGreatest_lcaDepth (h : a.rootId = b.rootId) :
    IsGreatest {n | ∃ l : List NodeAddr, l.length = n ∧ l <:+ a.nodeAddrs ∧ l <:+ b.nodeAddrs}
      (a.lcaDepth b + 1) := by
  rw [lcaDepth_add_one h]
  obtain ⟨⟨l, hlength, ha, hb⟩, hgreatest⟩ :=
    List.isGreatest_commonPrefix a.nodeAddrs.reverse b.nodeAddrs.reverse
  refine ⟨⟨l.reverse, ?_, ?_, ?_⟩, ?_⟩
  · rw [List.length_reverse, hlength]
  · exact List.reverse_prefix.mp (by rwa [List.reverse_reverse])
  · exact List.reverse_prefix.mp (by rwa [List.reverse_reverse])
  · rintro _ ⟨l', rfl, ha', hb'⟩
    exact hgreatest ⟨l'.reverse, List.length_reverse, List.reverse_prefix.mpr ha',
      List.reverse_prefix.mpr hb'⟩

/-! ## The distance -/

theorem checkedDistance_eq_ok (a b : TreeCoordinate) :
    a.checkedDistance b = .ok (a.distanceTo b) := by
  unfold checkedDistance distanceTo
  by_cases hroot : a.rootId = b.rootId
  · rw [if_neg (not_not.mpr hroot), if_neg (not_not.mpr hroot)]
    unfold sub
    rw [if_pos (lcaDepth_le_left hroot), if_pos (lcaDepth_le_right hroot)]
    rfl
  · rw [if_pos hroot, if_pos hroot]

theorem distanceTo_eq_depths (h : a.rootId = b.rootId) :
    a.distanceTo b = (a.depth + b.depth - 2 * a.lcaDepth b : Nat) := by
  have hleft := lcaDepth_le_left h
  have hright := lcaDepth_le_right h
  unfold distanceTo
  rw [if_neg (not_not.mpr h)]
  exact congrArg Nat.cast (by omega)

theorem distanceTo_comm (h : a.rootId = b.rootId) : a.distanceTo b = b.distanceTo a := by
  rw [distanceTo_eq_prefixDist h, distanceTo_eq_prefixDist h.symm, List.prefixDist_comm]

theorem distanceTo_eq_zero_iff (h : a.rootId = b.rootId) :
    a.distanceTo b = 0 ↔ a.nodeAddrs = b.nodeAddrs := by
  rw [distanceTo_eq_prefixDist h]
  exact WithTop.coe_eq_zero.trans (List.prefixDist_eq_zero_iff.trans List.reverse_inj)

theorem distanceTo_triangle (hab : a.rootId = b.rootId) (hbc : b.rootId = c.rootId) :
    a.distanceTo c ≤ a.distanceTo b + b.distanceTo c := by
  rw [distanceTo_eq_prefixDist hab, distanceTo_eq_prefixDist hbc,
    distanceTo_eq_prefixDist (hab.trans hbc)]
  exact WithTop.coe_le_coe.mpr (List.prefixDist_triangle ..)

/-- **The coordinates with one root are a metric space** of address paths: the distance does not
underflow, is symmetric, tells two paths apart and obeys the triangle inequality. It is what the
depths leave of both paths above their longest common suffix. -/
theorem distanceTo_metric (hab : a.rootId = b.rootId) (hbc : b.rootId = c.rootId) :
    a.checkedDistance b = .ok (a.distanceTo b) ∧
    a.distanceTo b = b.distanceTo a ∧
    (a.distanceTo b = 0 ↔ a.nodeAddrs = b.nodeAddrs) ∧
    a.distanceTo c ≤ a.distanceTo b + b.distanceTo c ∧
    a.distanceTo b = (a.depth + b.depth - 2 * a.lcaDepth b : Nat) ∧
    IsGreatest {n | ∃ l : List NodeAddr, l.length = n ∧ l <:+ a.nodeAddrs ∧ l <:+ b.nodeAddrs}
      (a.lcaDepth b + 1) :=
  ⟨checkedDistance_eq_ok a b, distanceTo_comm hab, distanceTo_eq_zero_iff hab,
    distanceTo_triangle hab hbc, distanceTo_eq_depths hab, isGreatest_lcaDepth hab⟩

/-! ## Paths that repeat addresses -/

namespace Sample

/-- Node 7 below node 5 below the root 0. -/
def left : TreeCoordinate := ⟨[⟨7, 1, 1⟩, ⟨5, 1, 1⟩, ⟨0, 1, 1⟩], List.cons_ne_nil _ _⟩

/-- A path on which node 7 is its own parent. -/
def right : TreeCoordinate := ⟨[⟨7, 2, 2⟩, ⟨7, 1, 1⟩, ⟨5, 3, 3⟩, ⟨0, 1, 1⟩], List.cons_ne_nil _ _⟩

/-- A path that repeats the root. -/
def other : TreeCoordinate := ⟨[⟨5, 1, 1⟩, ⟨0, 1, 1⟩, ⟨0, 1, 1⟩], List.cons_ne_nil _ _⟩

end Sample

open TreeCoordinate.Sample in
theorem metric_of_repeats :
    left.checkedDistance right = .ok (1 : Nat) ∧ right.distanceTo left = (1 : Nat) ∧
    left.nodeAddrs ≠ right.nodeAddrs ∧
    left.distanceTo other ≤ left.distanceTo right + right.distanceTo other ∧
    left.lcaDepth right = 2 := by
  obtain ⟨hchecked, hcomm, hzero, htriangle, hdepths, -⟩ :=
    distanceTo_metric (a := left) (b := right) (c := other) rfl rfl
  refine ⟨hchecked.trans (congrArg _ hdepths), hcomm.symm.trans hdepths, fun hsame => ?_,
    htriangle, rfl⟩
  exact absurd (hdepths.symm.trans (hzero.mpr hsame)) (by decide)

end Fips.TreeCoordinate
