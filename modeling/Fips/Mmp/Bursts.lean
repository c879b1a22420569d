import Fips.Lib.Checked
import Fips.Mmp.Measurement
import Mathlib.Algebra.GroupWithZero.Nat
import Mathlib.Algebra.Order.BigOperators.Group.List
import Mathlib.Algebra.Order.Group.Nat

/-!
# Bursts of loss between two reports

`GapTracker::observe` with what it returns and with the widths of its fields, run over the frames
between two reports. The counters are `u64`s, `burst_count` is a `u32`: an addition that does not fit
stops the program.

A *jump* is a counter beyond the one that was expected. The frames that are no jumps, in order or
late, separate the jumps into groups. The length of a burst is a `u16`: each jump is cut to its low
sixteen bits, and these are added up to at most 65535.

## Results

* `observe_of_observeLost`: the tracker is that of `Measurement.lean`.
* `Holds.run`: what is returned and reported for the frames of an interval, over the groups of their
  jumps.
* `tracksExactly_iff`: when that is the number and the largest total of the groups.
-/

open Checked

namespace Fips

namespace GapTracker

variable {κ : Type}

/-- `counter + 1` on `u64`s. -/
def nextExpected (counter : FrameCounter κ) : Result Unit (FrameCounter κ) :=
  if counter.value < 18446744073709551615 then .ok counter.succ else .error .panic

/-- A gap, whose burst is counted. -/
def gapCounted (len : Nat) (g : GapTracker κ) : Result Unit (GapTracker κ) :=
  if g.inBurst then .ok (g.gap len)
  else do
    let _ ← addU32 g.burstCount 1
    pure (g.gap len)

/-- The frames that a frame shows to be lost: a gap, or none where the burst ends. -/
def countLost (expected counter : FrameCounter κ) (g : GapTracker κ) :
    Result Unit (GapTracker κ × Nat) :=
  if expected.value < counter.value then do
    let gap := counter.value - expected.value
    let g ← g.gapCounted gap
    pure (g, gap)
  else pure (g.finishBurst, 0)

/-- What is expected after a frame. A late one leaves the expectation. -/
def expectedAfter (expected counter : FrameCounter κ) : Result Unit (FrameCounter κ) :=
  if expected.value ≤ counter.value then nextExpected counter else pure expected

/-- `observe`, with the number of lost frames. -/
def observeLost (counter : FrameCounter κ) (g : GapTracker κ) :
    Result Unit (GapTracker κ × Nat) :=
  match g.expectedNext with
  | none => do
    let next ← nextExpected counter
    pure ({ g with expectedNext := some next }, 0)
  | some expected => do
    let (g, lost) ← g.countLost expected counter
    let next ← expectedAfter expected counter
    pure ({ g with expectedNext := some next }, lost)

/-- The frames of an interval, and what `observe` returned for each. -/
def observeAll : GapTracker κ → List (FrameCounter κ) → Result Unit (GapTracker κ × List Nat)
  | g, [] => pure (g, [])
  | g, counter :: counters => do
    let (g, lost) ← g.observeLost counter
    let (g, losses) ← observeAll g counters
    pure (g, lost :: losses)

/-- The next counter, where it does not overflow. -/
theorem nextExpected_eq_ok {counter next : FrameCounter κ}
    (h : nextExpected counter = .ok next) : next = counter.succ := by
  unfold nextExpected at h
  split_ifs at h
  cases h
  rfl

theorem gapCounted_eq_ok {g g' : GapTracker κ} {len : Nat} (h : g.gapCounted len = .ok g') :
    g' = g.gap len := by
  unfold gapCounted at h
  split_ifs at h
  · cases h
    rfl
  · obtain ⟨count, -, h⟩ := bind_eq_ok.mp h
    cases h
    rfl

/-- A counter ahead of the expected one is a gap; any other one ends the burst. -/
theorem countLost_eq_ok {g g' : GapTracker κ} {expected counter : FrameCounter κ} {lost : Nat}
    (h : g.countLost expected counter = .ok (g', lost)) :
    g' = if expected.value < counter.value then g.gap (counter.value - expected.value)
      else g.finishBurst := by
  unfold countLost at h
  by_cases hlt : expected.value < counter.value
  · rw [if_pos hlt] at h ⊢
    obtain ⟨g₁, hgap, h⟩ := bind_eq_ok.mp h
    cases h
    exact gapCounted_eq_ok hgap
  · rw [if_neg hlt] at h ⊢
    cases h
    rfl

/-- A late frame leaves what is expected. -/
theorem expectedAfter_eq_ok {expected counter next : FrameCounter κ}
    (h : expectedAfter expected counter = .ok next) :
    next = if expected.value ≤ counter.value then counter.succ else expected := by
  unfold expectedAfter at h
  split_ifs at h with hle
  · rw [if_pos hle, nextExpected_eq_ok h]
  · cases h
    rw [if_neg hle]

/-- What `observe` does to the tracker. -/
theorem observe_of_observeLost {g g' : GapTracker κ} {counter : FrameCounter κ} {lost : Nat}
    (h : g.observeLost counter = .ok (g', lost)) : (g.observe counter).1 = g' := by
  unfold observeLost at h
  unfold observe
  cases hexpected : g.expectedNext with
  | none =>
    simp only [hexpected, bind_eq_ok] at h
    obtain ⟨next, hnext, h⟩ := h
    cases nextExpected_eq_ok hnext
    cases h
    rfl
  | some expected =>
    simp only [hexpected] at h
    obtain ⟨⟨g₁, lost₁⟩, hlost, h⟩ := bind_eq_ok.mp h
    obtain ⟨next, hnext, h⟩ := bind_eq_ok.mp h
    cases h
    cases expectedAfter_eq_ok hnext
    rw [countLost_eq_ok hlost]

/-! ## Jumps and their groups -/

/-- How far a counter lies beyond the expected one. -/
def jump (expected : Option Nat) (counter : Nat) : Nat :=
  match expected with
  | none => 0
  | some expected => counter - expected

/-- The jumps of a sequence of frames, each of which expects one more than the highest counter before
it. -/
def jumps : Option Nat → List Nat → List Nat
  | _, [] => []
  | expected, counter :: counters =>
    jump expected counter :: jumps (some (max (expected.getD 0) (counter + 1))) counters

/-- The groups of successive jumps, where `0` stands for a frame that is none. The jumps in `opened`,
the last one first, belong to the first group. -/
def groupsFrom (opened js : List Nat) : List (List Nat) :=
  ((js.splitOnP (· == 0)).modifyHead (opened.reverse ++ ·)).filter (!·.isEmpty)

/-- The runs of lost frames in a record of gaps. -/
def groups (js : List Nat) : List (List Nat) := (js.splitOnP (· == 0)).filter (!·.isEmpty)

/-- The greatest measure of a group. -/
def largest (f : List Nat → Nat) (gs : List (List Nat)) : Nat := (gs.map f).foldr max 0

section Groups

variable {opened js : List Nat} {j : Nat}

theorem groupsFrom_eq :
    groupsFrom opened js = (js.splitOnPPrepend (· == 0) opened).filter (!·.isEmpty) := by
  rw [List.splitOnPPrepend_eq_modifyHead]
  rfl

/-- The groups of a record are those with nothing open. -/
theorem groups_eq : groups js = groupsFrom [] js := by
  rw [groupsFrom_eq, List.splitOnPPrepend_nil_right]
  rfl

theorem groupsFrom_nil (opened : List Nat) :
    groupsFrom opened [] = if opened.isEmpty then [] else [opened.reverse] := by
  cases opened <;> simp [groupsFrom]

/-- A frame without a jump closes the open group. -/
theorem groupsFrom_zero :
    groupsFrom opened (0 :: js) = groupsFrom opened [] ++ groupsFrom [] js := by
  rw [groupsFrom_eq, groupsFrom_eq, ← groups_eq, List.splitOnPPrepend_cons_pos rfl,
    List.splitOnPPrepend_nil, groups, ← List.filter_append]
  rfl

/-- A jump joins the open group. -/
theorem groupsFrom_pos (hj : 0 < j) : groupsFrom opened (j :: js) = groupsFrom (j :: opened) js := by
  rw [groupsFrom_eq, groupsFrom_eq,
    List.splitOnPPrepend_cons_neg (by simpa using Nat.pos_iff_ne_zero.mp hj)]

/-- A group that is open is one of them. -/
theorem length_groupsFrom_nil_le : (groupsFrom opened []).length ≤ (groupsFrom opened js).length := by
  induction js generalizing opened with
  | nil => exact Nat.le_refl _
  | cons j js ih =>
    rcases Nat.eq_zero_or_pos j with rfl | hj
    · rw [groupsFrom_zero, List.length_append]
      exact Nat.le_add_right _ _
    · have hopen : (groupsFrom (j :: opened) []).length ≤ (groupsFrom (j :: opened) js).length := ih
      rw [groupsFrom_pos hj]
      rw [groupsFrom_nil] at hopen ⊢
      cases opened with
      | nil => exact Nat.zero_le _
      | cons => exact hopen

theorem length_groupsFrom_cons_nil : (groupsFrom (j :: opened) []).length = 1 := by
  rw [groupsFrom_nil]
  rfl

/-- At the end the open group is closed, unless it is empty. -/
theorem mem_groupsFrom_nil_iff {g : List Nat} :
    g ∈ groupsFrom opened [] ↔ opened ≠ [] ∧ g = opened.reverse := by
  rw [groupsFrom_nil]
  cases opened <;> simp

/-- The groups consist of jumps. -/
theorem mem_of_mem_groupsFrom {g : List Nat} (hg : g ∈ groupsFrom opened js) (hj : j ∈ g) :
    j ∈ opened ∨ j ∈ js := by
  induction js generalizing opened with
  | nil =>
    obtain ⟨-, rfl⟩ := mem_groupsFrom_nil_iff.mp hg
    exact .inl (List.mem_reverse.mp hj)
  | cons i js ih =>
    rcases Nat.eq_zero_or_pos i with rfl | hi
    · rw [groupsFrom_zero, List.mem_append] at hg
      rcases hg with hg | hg
      · obtain ⟨-, rfl⟩ := mem_groupsFrom_nil_iff.mp hg
        exact .inl (List.mem_reverse.mp hj)
      · rcases ih hg with hj | hj
        · cases hj
        · exact .inr (List.mem_cons_of_mem _ hj)
    · rw [groupsFrom_pos hi] at hg
      rcases ih hg with hj | hj
      · rcases List.mem_cons.mp hj with rfl | hj
        · exact .inr List.mem_cons_self
        · exact .inl hj
      · exact .inr (List.mem_cons_of_mem _ hj)

/-- Every jump is in one of them. -/
theorem exists_mem_groupsFrom (hj : j ∈ opened ∨ j ∈ js ∧ 0 < j) :
    ∃ g ∈ groupsFrom opened js, j ∈ g := by
  induction js generalizing opened with
  | nil =>
    rcases hj with hj | ⟨hj, -⟩
    · exact ⟨_, mem_groupsFrom_nil_iff.mpr ⟨List.ne_nil_of_mem hj, rfl⟩, List.mem_reverse.mpr hj⟩
    · cases hj
  | cons i js ih =>
    rcases Nat.eq_zero_or_pos i with rfl | hi
    · rw [groupsFrom_zero]
      rcases hj with hj | ⟨hj, hpos⟩
      · exact ⟨_, List.mem_append_left _
          (mem_groupsFrom_nil_iff.mpr ⟨List.ne_nil_of_mem hj, rfl⟩), List.mem_reverse.mpr hj⟩
      · rcases List.mem_cons.mp hj with rfl | hj
        · exact absurd hpos (Nat.lt_irrefl 0)
        · obtain ⟨g, hg, hjg⟩ : ∃ g ∈ groupsFrom [] js, j ∈ g := ih (.inr ⟨hj, hpos⟩)
          exact ⟨g, List.mem_append_right _ hg, hjg⟩
    · rw [groupsFrom_pos hi]
      refine ih ?_
      rcases hj with hj | ⟨hj, hpos⟩
      · exact .inl (List.mem_cons_of_mem _ hj)
      · rcases List.mem_cons.mp hj with rfl | hj
        · exact .inl List.mem_cons_self
        · exact .inr ⟨hj, hpos⟩

end Groups

section Largest

variable {f f' : List Nat → Nat} {gs gs' : List (List Nat)}

/-- The largest group of two parts is in one of them. -/
theorem largest_append : largest f (gs ++ gs') = max (largest f gs) (largest f gs') := by
  induction gs with
  | nil => exact (Nat.zero_max _).symm
  | cons g gs ih =>
    change max (f g) (largest f (gs ++ gs')) = max (max (f g) (largest f gs)) _
    rw [ih, Nat.max_assoc]

theorem le_largest {g : List Nat} (hg : g ∈ gs) : f g ≤ largest f gs := by
  induction gs with
  | nil => cases hg
  | cons g' gs ih =>
    rcases List.mem_cons.mp hg with rfl | hg
    · exact Nat.le_max_left _ _
    · exact Nat.le_trans (ih hg) (Nat.le_max_right _ _)

theorem largest_le {k : Nat} (h : ∀ g ∈ gs, f g ≤ k) : largest f gs ≤ k := by
  induction gs with
  | nil => exact Nat.zero_le _
  | cons g gs ih =>
    exact Nat.max_le.mpr ⟨h g List.mem_cons_self, ih fun g' hg' => h g' (List.mem_cons_of_mem _ hg')⟩

theorem largest_congr (h : ∀ g ∈ gs, f g = f' g) : largest f gs = largest f' gs := by
  unfold largest
  rw [List.map_congr_left h]

/-- A bound on each group is one on the greatest. -/
theorem largest_min (k : Nat) : largest (fun g => min (f g) k) gs = min (largest f gs) k := by
  induction gs with
  | nil => exact (Nat.zero_min k).symm
  | cons g gs ih =>
    change max (min (f g) k) (largest (fun g => min (f g) k) gs) = min (max (f g) (largest f gs)) k
    rw [ih]
    omega

end Largest

/-! ## Runs -/

/-- What the tracker makes of a group: each jump is cut to a `u16`, and so is their sum. -/
def burstLen (js : List Nat) : Nat := min (js.map (· % 65536)).sum 65535

/-- How the tracker sums: the new gap modulo `2 ^ 16`, the sum saturating. -/
theorem burstLen_cons (j : Nat) (js : List Nat) :
    burstLen (j :: js) = min (burstLen js + j % 65536) 65535 := by
  unfold burstLen
  rw [List.map_cons, List.sum_cons]
  omega

/-- The order within a group does not matter. -/
theorem burstLen_reverse (js : List Nat) : burstLen js.reverse = burstLen js := by
  unfold burstLen
  rw [List.map_reverse, List.sum_reverse]

/-- At the end the open group counts with its own length. -/
theorem largest_groupsFrom_nil (opened : List Nat) :
    largest burstLen (groupsFrom opened []) = burstLen opened := by
  rw [groupsFrom_nil]
  cases opened with
  | nil => rfl
  | cons j opened => exact (Nat.max_zero _).trans (burstLen_reverse _)

/-- The jumps in `opened` are a burst under way, after `closed` others. -/
structure Holds (g : GapTracker κ) (opened : List Nat) (closed : Nat) : Prop where
  inBurst : g.inBurst = !opened.isEmpty
  len : opened ≠ [] → g.currentBurstLen = burstLen opened
  started : g.expectedNext = none → opened = []
  count : g.burstCount = closed + (groupsFrom opened []).length
  fits : g.burstCount < 4294967296

/-- What will be reported if the jumps `js` are still to come. -/
def forecast (g : GapTracker κ) (opened : List Nat) (closed : Nat) (js : List Nat) : Nat × Nat :=
  (closed + (groupsFrom opened js).length,
    max g.maxBurstLen (largest burstLen (groupsFrom opened js)))

section Steps

variable {g : GapTracker κ} {opened : List Nat} {closed : Nat} {counter expected : FrameCounter κ}

theorem nextExpected_eq (h : counter.value < 18446744073709551615) :
    nextExpected counter = .ok counter.succ := if_pos h

/-- The first frame of all. -/
theorem observeLost_first (hnone : g.expectedNext = none)
    (hfits : counter.value < 18446744073709551615) :
    g.observeLost counter = .ok ({ g with expectedNext := some counter.succ }, 0) := by
  unfold observeLost
  rw [hnone, nextExpected_eq hfits]
  rfl

/-- A frame in order or late. -/
theorem observeLost_late (hexpected : g.expectedNext = some expected)
    (hle : counter.value ≤ expected.value) (hfits : counter.value < 18446744073709551615) :
    ∃ next : FrameCounter κ, next.value = max expected.value (counter.value + 1) ∧
      g.observeLost counter = .ok ({ g.finishBurst with expectedNext := some next }, 0) := by
  unfold observeLost countLost expectedAfter
  simp only [hexpected, if_neg (Nat.not_lt.mpr hle), nextExpected_eq hfits]
  by_cases heq : expected.value ≤ counter.value
  · refine ⟨counter.succ, ?_, by rw [if_pos heq]; rfl⟩
    change counter.value + 1 = _
    omega
  · refine ⟨expected, ?_, by rw [if_neg heq]; rfl⟩
    omega

/-- A jump. -/
theorem observeLost_jump (hexpected : g.expectedNext = some expected)
    (hlt : expected.value < counter.value) (hfits : counter.value < 18446744073709551615) :
    g.observeLost counter =
      if g.inBurst = true ∨ g.burstCount + 1 < 4294967296 then
        .ok ({ g.gap (counter.value - expected.value) with expectedNext := some counter.succ },
          counter.value - expected.value)
      else .error .panic := by
  unfold observeLost countLost gapCounted expectedAfter
  simp only [hexpected, if_pos hlt, if_pos (Nat.le_of_lt hlt), nextExpected_eq hfits]
  by_cases hburst : g.inBurst = true
  · rw [if_pos hburst, if_pos (.inl hburst)]
    rfl
  · rw [if_neg hburst]
    by_cases hcount : g.burstCount + 1 < 4294967296
    · rw [if_pos (.inr hcount), addU32_eq hcount]
      rfl
    · rw [if_neg (not_or.mpr ⟨hburst, hcount⟩), addU32, if_neg hcount]
      rfl

theorem burstCount_finishBurst (g : GapTracker κ) : g.finishBurst.burstCount = g.burstCount := by
  unfold finishBurst
  split_ifs <;> rfl

/-- The end of a burst, if there is one. -/
theorem Holds.finish (h : g.Holds opened closed) (next : Option (FrameCounter κ)) :
    Holds { g.finishBurst with expectedNext := next } []
      (closed + (groupsFrom opened []).length) ∧
    g.finishBurst.maxBurstLen = max g.maxBurstLen (largest burstLen (groupsFrom opened [])) := by
  rw [largest_groupsFrom_nil]
  have hburst := h.inBurst
  unfold finishBurst
  cases opened with
  | nil =>
    rw [if_neg (by rw [hburst]; decide)]
    exact ⟨⟨hburst, fun hne => absurd rfl hne, fun _ => rfl, h.count, h.fits⟩,
      (Nat.max_zero _).symm⟩
  | cons j opened =>
    rw [if_pos (show g.inBurst = true from hburst), ← h.len (List.cons_ne_nil _ _)]
    exact ⟨⟨rfl, fun hne => absurd rfl hne, fun _ => rfl, h.count, h.fits⟩, rfl⟩

/-- One more jump, of a burst that is under way or that can be counted. -/
theorem Holds.extend (h : g.Holds opened closed) (j : Nat) (next : FrameCounter κ)
    (hroom : g.inBurst = true ∨ g.burstCount + 1 < 4294967296) :
    Holds { g.gap j with expectedNext := some next } (j :: opened) closed ∧
    (g.gap j).maxBurstLen = g.maxBurstLen := by
  have hburst := h.inBurst
  have hcount := h.count
  unfold gap
  cases opened with
  | nil =>
    have hidle : ¬ g.inBurst = true := by rw [hburst]; decide
    rw [if_neg hidle]
    refine ⟨⟨rfl, fun _ => ?_, fun hnone => (by cases hnone), ?_, hroom.resolve_left hidle⟩, rfl⟩
    · change j % 2 ^ 16 = _
      rw [burstLen_cons]
      simp only [burstLen, List.map_nil, List.sum_nil]
      omega
    · exact congrArg (· + 1) hcount
  | cons i opened =>
    rw [if_pos (show g.inBurst = true from hburst)]
    rw [length_groupsFrom_cons_nil] at hcount
    refine ⟨⟨hburst, fun _ => ?_, fun hnone => (by cases hnone), ?_, h.fits⟩, rfl⟩
    · change min (g.currentBurstLen + j % 65536) 65535 = _
      rw [burstLen_cons, h.len (List.cons_ne_nil _ _)]
    · rw [length_groupsFrom_cons_nil]
      exact hcount

/-- A frame that is no jump. -/
theorem forecast_finish (js : List Nat) (next : Option (FrameCounter κ))
    (h : g.Holds opened closed) :
    g.forecast opened closed (0 :: js) =
      forecast { g.finishBurst with expectedNext := next } []
        (closed + (groupsFrom opened []).length) js := by
  unfold forecast
  rw [groupsFrom_zero, List.length_append, largest_append, ← Nat.add_assoc, ← Nat.max_assoc,
    ← (h.finish next).2]

/-- A gap that does not yet raise the maximum only extends the open group. -/
theorem forecast_jump {j : Nat} (hj : 0 < j) (js : List Nat) (next : Option (FrameCounter κ))
    (hmax : (g.gap j).maxBurstLen = g.maxBurstLen) :
    g.forecast opened closed (j :: js) =
      forecast { g.gap j with expectedNext := next } (j :: opened) closed js := by
  unfold forecast
  rw [groupsFrom_pos hj, hmax]

/-- Where a burst cannot be counted, it is one too many. -/
theorem Holds.full (h : g.Holds opened closed)
    (hroom : ¬ (g.inBurst = true ∨ g.burstCount + 1 < 4294967296)) {j : Nat} (hj : 0 < j)
    (js : List Nat) : 4294967296 ≤ (g.forecast opened closed (j :: js)).1 := by
  obtain ⟨hidle, hfull⟩ := not_or.mp hroom
  have hcount := h.count
  have hopen : opened = [] := by
    have hburst := h.inBurst
    cases opened with
    | nil => rfl
    | cons => exact absurd hburst hidle
  subst hopen
  have hle : (groupsFrom [j] []).length ≤ (groupsFrom [j] js).length := length_groupsFrom_nil_le
  change 4294967296 ≤ closed + _
  rw [groupsFrom_pos hj]
  rw [length_groupsFrom_cons_nil] at hle
  replace hcount : g.burstCount = closed := hcount
  omega

/-- A frame leaves the forecast, or it begins one burst too many. -/
theorem Holds.step (h : g.Holds opened closed) (hfits : counter.value < 18446744073709551615)
    {j : Nat} (hj : jump (g.expectedNext.map (·.value)) counter.value = j) :
    (∃ g' opened' closed', g.observeLost counter = .ok (g', j) ∧ g'.Holds opened' closed' ∧
      g'.expectedNext.map (·.value) =
        some (max ((g.expectedNext.map (·.value)).getD 0) (counter.value + 1)) ∧
      ∀ js, g.forecast opened closed (j :: js) = g'.forecast opened' closed' js) ∨
    g.observeLost counter = .error .panic ∧
      ∀ js, 4294967296 ≤ (g.forecast opened closed (j :: js)).1 := by
  cases hexpected : g.expectedNext with
  | none =>
    rw [hexpected] at hj
    obtain rfl : 0 = j := hj
    obtain rfl := h.started hexpected
    refine .inl ⟨_, [], closed, observeLost_first hexpected hfits,
      ⟨h.inBurst, h.len, fun _ => rfl, h.count, h.fits⟩, congrArg some ?_, fun js => ?_⟩
    · exact (Nat.zero_max _).symm
    · unfold forecast
      rw [groupsFrom_zero]
      rfl
  | some expected =>
    rw [hexpected] at hj
    replace hj : counter.value - expected.value = j := hj
    rcases Nat.lt_or_ge expected.value counter.value with hlt | hle
    · have hpos : 0 < j := by omega
      have hstep := observeLost_jump hexpected hlt hfits
      rw [hj] at hstep
      by_cases hroom : g.inBurst = true ∨ g.burstCount + 1 < 4294967296
      · rw [if_pos hroom] at hstep
        obtain ⟨hholds, hmax⟩ := h.extend j counter.succ hroom
        refine .inl ⟨_, _, closed, hstep, hholds, congrArg some ?_, fun js => ?_⟩
        · change counter.value + 1 = max expected.value (counter.value + 1)
          omega
        · exact forecast_jump hpos js _ hmax
      · rw [if_neg hroom] at hstep
        exact .inr ⟨hstep, fun js => h.full hroom hpos js⟩
    · obtain ⟨next, hnext, hstep⟩ := observeLost_late hexpected hle hfits
      obtain rfl : 0 = j := by omega
      exact .inl ⟨_, [], _, hstep, (h.finish (some next)).1, congrArg some hnext,
        fun js => forecast_finish js _ h⟩

/-- **A run**: the jumps are returned and the forecast is reported, unless there is one burst too
many. -/
theorem Holds.run {counters : List (FrameCounter κ)} (h : g.Holds opened closed)
    (hfits : ∀ c ∈ counters, c.value < 18446744073709551615) {js : List Nat}
    (hjs : jumps (g.expectedNext.map (·.value)) (counters.map (·.value)) = js) :
    (g.forecast opened closed js).1 < 4294967296 ∧
      (∃ g', g.observeAll counters = .ok (g', js) ∧
        g'.takeIntervalStats.2 = g.forecast opened closed js) ∨
    4294967296 ≤ (g.forecast opened closed js).1 ∧ g.observeAll counters = .error .panic := by
  induction counters generalizing g opened closed js with
  | nil =>
    obtain rfl : [] = js := hjs
    have hcount := h.count
    have hmax := (h.finish g.expectedNext).2
    refine .inl ⟨lt_of_eq_of_lt hcount.symm h.fits, g, rfl, Prod.ext ?_ hmax⟩
    exact (burstCount_finishBurst g).trans hcount
  | cons counter counters ih =>
    obtain rfl : _ :: jumps _ _ = js := hjs
    unfold observeAll
    rcases h.step (hfits counter List.mem_cons_self) rfl with
      ⟨g', opened', closed', hstep, hholds, hexpected, hforecast⟩ | ⟨hpanic, hmany⟩
    · have hrest := ih hholds (fun c hc => hfits c (List.mem_cons_of_mem _ hc)) (by rw [hexpected])
      rw [hforecast, hstep, ok_bind]
      rcases hrest with ⟨hfew, g'', hrun, hreport⟩ | ⟨hmany, hrun⟩
      · refine .inl ⟨hfew, g'', ?_, hreport⟩
        dsimp only
        rw [hrun]
        rfl
      · refine .inr ⟨hmany, ?_⟩
        dsimp only
        rw [hrun]
        rfl
    · refine .inr ⟨hmany _, ?_⟩
      rw [hpanic]
      rfl

end Steps

/-! ## Reports -/

/-- The jumps of the frames of an interval. -/
def jumpsOf (g : GapTracker κ) (counters : List (FrameCounter κ)) : List Nat :=
  jumps (g.expectedNext.map (·.value)) (counters.map (·.value))

/-- The losses add up to the jumps; the groups of the jumps are counted, and the largest total of one
is reported as far as a `u16` goes. -/
def TracksExactly (g : GapTracker κ) (counters : List (FrameCounter κ)) : Prop :=
  ∃ g' losses, g.observeAll counters = .ok (g', losses) ∧
    losses.sum = (g.jumpsOf counters).sum ∧
    g'.takeIntervalStats.2 = ((groups (g.jumpsOf counters)).length,
      min 65535 (largest List.sum (groups (g.jumpsOf counters))))

section Reports

variable {js : List Nat}

theorem inBurst_finishBurst (g : GapTracker κ) : g.finishBurst.inBurst = false := by
  unfold finishBurst
  by_cases hburst : g.inBurst = true
  · rw [if_pos hburst]
  · rw [if_neg hburst]
    exact Bool.eq_false_iff.mpr hburst

/-- No burst is open after a report. -/
theorem holds_takeIntervalStats (g : GapTracker κ) : g.takeIntervalStats.1.Holds [] 0 :=
  ⟨inBurst_finishBurst g, fun hne => absurd rfl hne, fun _ => rfl, rfl,
    Nat.zero_lt_succ _⟩

/-- From the start of an interval the forecast is the record's own. -/
theorem forecast_takeIntervalStats (g : GapTracker κ) (js : List Nat) :
    g.takeIntervalStats.1.forecast [] 0 js = ((groups js).length, largest burstLen (groups js)) := by
  unfold forecast
  rw [← groups_eq, Nat.zero_add]
  exact congrArg _ (Nat.zero_max _)

theorem burstLen_le (js : List Nat) : burstLen js ≤ 65535 := Nat.min_le_right _ _

theorem sum_map_mod_le (js : List Nat) : (js.map (· % 65536)).sum ≤ js.sum := by
  induction js with
  | nil => exact Nat.le_refl _
  | cons j js ih =>
    rw [List.map_cons, List.sum_cons, List.sum_cons]
    exact Nat.add_le_add (Nat.mod_le _ _) ih

/-- Below `2 ^ 16` frames no gap is narrowed, and the sum alone saturates. -/
theorem burstLen_of_lt {js : List Nat} (h : ∀ j ∈ js, j < 65536) : burstLen js = min js.sum 65535 := by
  have hcut : js.map (· % 65536) = js.map id :=
    List.map_congr_left fun j hj => Nat.mod_eq_of_lt (h j hj)
  unfold burstLen
  rw [hcut, List.map_id]

/-- The length of the longest burst is right unless a jump was cut and no burst is full. -/
theorem largest_burstLen_iff :
    largest burstLen (groups js) = min 65535 (largest List.sum (groups js)) ↔
      (∀ j ∈ js, j < 65536) ∨ ∃ burst ∈ groups js, 65535 ≤ (burst.map (· % 65536)).sum := by
  constructor
  · intro h
    by_contra hnot
    obtain ⟨hcut, hsmall⟩ := not_or.mp hnot
    push Not at hcut hsmall
    obtain ⟨j, hj, hlarge⟩ := hcut
    obtain ⟨burst, hburst, hjb⟩ : ∃ burst ∈ groupsFrom [] js, j ∈ burst :=
      exists_mem_groupsFrom (.inr ⟨hj, by omega⟩)
    rw [← groups_eq] at hburst
    have htotal : 65536 ≤ largest List.sum (groups js) :=
      Nat.le_trans hlarge (Nat.le_trans (List.le_sum_of_mem hjb) (le_largest hburst))
    have hlen : largest burstLen (groups js) ≤ 65534 := by
      refine largest_le fun burst hburst => ?_
      have hlt := hsmall burst hburst
      change min (burst.map (· % 65536)).sum 65535 ≤ 65534
      omega
    omega
  · rintro (hlt | ⟨burst, hburst, hfull⟩)
    · rw [Nat.min_comm, ← largest_min]
      refine largest_congr fun burst hburst => burstLen_of_lt fun j hj => hlt j ?_
      rw [groups_eq] at hburst
      exact (mem_of_mem_groupsFrom hburst hj).resolve_left (List.not_mem_nil)
    · have hlen : 65535 ≤ largest burstLen (groups js) :=
        Nat.le_trans (Nat.le_min.mpr ⟨hfull, Nat.le_refl _⟩) (le_largest (f := burstLen) hburst)
      have hle : largest burstLen (groups js) ≤ 65535 := largest_le fun burst _ => burstLen_le burst
      have htotal : 65535 ≤ largest List.sum (groups js) :=
        Nat.le_trans hfull (Nat.le_trans (sum_map_mod_le burst) (le_largest hburst))
      omega

/-- The tracker is exact if and only if the bursts are few enough for a `u32` to count them, and either
no jump is too large for a `u16` or some burst is, after each of its jumps was cut to sixteen bits,
still too large for one. -/
theorem tracksExactly_iff (g₀ : GapTracker κ) (counters : List (FrameCounter κ))
    (hfits : ∀ c ∈ counters, c.value < 18446744073709551615) :
    TracksExactly g₀.takeIntervalStats.1 counters ↔
      (groups (g₀.takeIntervalStats.1.jumpsOf counters)).length < 4294967296 ∧
      ((∀ j ∈ g₀.takeIntervalStats.1.jumpsOf counters, j < 65536) ∨
        ∃ burst ∈ groups (g₀.takeIntervalStats.1.jumpsOf counters),
          65535 ≤ (burst.map (· % 65536)).sum) := by
  have hrun := (holds_takeIntervalStats g₀).run hfits
    (show _ = jumpsOf g₀.takeIntervalStats.1 counters from rfl)
  rw [forecast_takeIntervalStats] at hrun
  rw [← largest_burstLen_iff]
  rcases hrun with ⟨hfew, g', hrun, hreport⟩ | ⟨hmany, hrun⟩
  · constructor
    · rintro ⟨g'', losses, hrun', -, hreport'⟩
      obtain ⟨rfl, rfl⟩ := Prod.mk.inj (Except.ok.inj (hrun.symm.trans hrun'))
      exact ⟨hfew, (Prod.mk.inj (hreport.symm.trans hreport')).2⟩
    · rintro ⟨-, hlargest⟩
      exact ⟨g', _, hrun, rfl, hreport.trans (Prod.ext rfl hlargest)⟩
  · constructor
    · rintro ⟨g'', losses, hrun', -⟩
      cases hrun.symm.trans hrun'
    · rintro ⟨hfew, -⟩
      exact absurd hfew (Nat.not_lt.mpr hmany)

end Reports

/-- Two bursts: counters 6 and 8 are lost, with a late frame 9 after them, and then 10 to 299. -/
theorem tracksExactly_iff_two_bursts :
    TracksExactly (new : GapTracker Unit)
      ([5, 7, 9, 9, 300, 12].map fun value => ⟨none, value⟩) :=
  (tracksExactly_iff new _ (by decide)).mpr ⟨by decide, .inl (by decide)⟩

/-- A single gap of 65536 frames is reported as one burst of length zero. -/
theorem bursts_inexact_at_65536 :
    ¬ ∀ counters : List (FrameCounter Unit), (∀ c ∈ counters, c.value < 18446744073709551615) →
      TracksExactly new counters := by
  intro h
  obtain ⟨g', losses, hrun, -, hreport⟩ :=
    h ([0, 65537].map fun value => ⟨none, value⟩) (by decide)
  cases hrun
  exact absurd hreport (by decide)

end GapTracker

end Fips
