import Mathlib.Data.List.Basic
import Fips.Lib.Checked
import Fips.Lib.Run

/-!
# Path MTU of a session, at its source

Model of the source side of `PathMtuState` (`mmp/mod.rs:300-462`), which
`handle_session_path_mtu_notification` and `handle_mtu_exceeded` feed with the reports of the
destination and of transit routers.

A report below `current_mtu` lowers it at once. A report above it is counted, in three fields: the
proposed value, how often in a row it came, and when it came first. Times and durations are in
nanoseconds; the `f64` that `update_interval_from_srtt` reads is the number of milliseconds it is
cast to. The counter is a `u8`, whose addition wraps here and stops a build with overflow checks.

A history lists the calls, the newest first. `Reported v n t past` says what the three fields are
meant to: the last `n` reports of the history are all of `v`, from the time `t`, with `v` above
`current_mtu` throughout.

## Results

* `completes_iff`: the code accepts a report exactly when it ends a run of the history.
* `tracks_cons`: a call that meets `Counts` keeps the fields true to the history.
* `followsRule_of_counts`: in a run whose calls all meet `Counts`, every call follows the rule.
* `exec_stale`: reports of the value that was proposed before a decrease are never accepted, and
  the 256th of them overflows the counter.
-/

open EventRun

namespace Fips

/-- `Duration::from_millis`, in nanoseconds. -/
def fromMillis (millis : Nat) : Nat := millis * 1000000

/-- `Duration::from_secs`, in nanoseconds. -/
def fromSecs (secs : Nat) : Nat := secs * 1000000000

/-- `PathMtuState`, the fields of the source side. -/
structure PathMtuState where
  currentMtu : Nat
  notificationInterval : Nat
  consecutiveIncreaseCount : Nat
  firstIncreaseTime : Option Nat
  pendingIncreaseMtu : Nat
  deriving DecidableEq, Repr

namespace PathMtuState

/-- `PathMtuState::new`, before anything is known of the path. -/
def new : PathMtuState := ⟨65535, fromSecs 10, 0, none, 0⟩

/-- `max(10s, 5 * SRTT)`, of the milliseconds of five round trips. -/
def updateIntervalFromSrtt (s : PathMtuState) (fiveSrtt : Nat) : PathMtuState :=
  { s with notificationInterval := max (fromMillis fiveSrtt) (fromSecs 10) }

/-- `seed_source_mtu`: the first link's own MTU can only lower the value. -/
def seedSourceMtu (s : PathMtuState) (outboundMtu : Nat) : PathMtuState :=
  if outboundMtu < s.currentMtu then { s with currentMtu := outboundMtu } else s

/-- A report above `current_mtu` counts on, or starts a new sequence. -/
def countIncrease (s : PathMtuState) (reportedMtu now : Nat) : PathMtuState :=
  if reportedMtu = s.pendingIncreaseMtu then
    { s with consecutiveIncreaseCount := (s.consecutiveIncreaseCount + 1) % 256 }
  else
    { s with
      pendingIncreaseMtu := reportedMtu
      consecutiveIncreaseCount := 1
      firstIncreaseTime := some now }

/-- Three reports over two intervals are accepted. -/
def acceptIncrease (s : PathMtuState) (reportedMtu now : Nat) : PathMtuState × Bool :=
  match s.firstIncreaseTime with
  | none => (s, false)
  | some firstTime =>
    if 3 ≤ s.consecutiveIncreaseCount ∧ s.notificationInterval * 2 ≤ now - firstTime then
      ({ s with
        currentMtu := reportedMtu
        consecutiveIncreaseCount := 0
        firstIncreaseTime := none }, true)
    else (s, false)

/-- `apply_notification`: a lower value is taken at once, a higher one when it was reported often
and for long enough. -/
def applyNotification (s : PathMtuState) (reportedMtu now : Nat) : PathMtuState × Bool :=
  if reportedMtu < s.currentMtu then
    ({ s with
      currentMtu := reportedMtu
      consecutiveIncreaseCount := 0
      firstIncreaseTime := none }, true)
  else if s.currentMtu < reportedMtu then
    (s.countIncrease reportedMtu now).acceptIncrease reportedMtu now
  else (s, false)

end PathMtuState

/-- A call of the source side. -/
inductive PathMtuCall
  | seedSourceMtu (outboundMtu : Nat)
  | updateIntervalFromSrtt (fiveSrtt : Nat)
  | applyNotification (reportedMtu now : Nat)
  deriving DecidableEq, Repr

namespace PathMtuState

/-- The state after a call. -/
def step (s : PathMtuState) : PathMtuCall → PathMtuState
  | .seedSourceMtu outboundMtu => s.seedSourceMtu outboundMtu
  | .updateIntervalFromSrtt fiveSrtt => s.updateIntervalFromSrtt fiveSrtt
  | .applyNotification reportedMtu now => (s.applyNotification reportedMtu now).1

/-- The increment of the counter leaves the range of a `u8`. -/
def Overflows (s : PathMtuState) : PathMtuCall → Prop
  | .applyNotification reportedMtu _ => s.currentMtu < reportedMtu ∧
      reportedMtu = s.pendingIncreaseMtu ∧ s.consecutiveIncreaseCount = 255
  | _ => False

/-! ## What a report can do -/

variable {s : PathMtuState} {v now : Nat}

/-- A decrease is taken at once. The proposal stays, without its start time. -/
theorem applyNotification_of_lt (h : v < s.currentMtu) :
    s.step (.applyNotification v now) =
      { s with currentMtu := v, consecutiveIncreaseCount := 0, firstIncreaseTime := none } := by
  rw [step, applyNotification, if_pos h]

/-- A notification of the current value changes nothing. -/
theorem applyNotification_of_eq (h : v = s.currentMtu) :
    s.step (.applyNotification v now) = s := by
  rw [step, applyNotification, if_neg (by omega), if_neg (by omega)]

/-- The sequence that a report counts towards is complete with it. -/
def Completes (s : PathMtuState) (v now : Nat) : Prop :=
  ∃ firstTime, (s.countIncrease v now).firstIncreaseTime = some firstTime ∧
    3 ≤ (s.countIncrease v now).consecutiveIncreaseCount ∧
    s.notificationInterval * 2 ≤ now - firstTime

@[simp] theorem currentMtu_countIncrease : (s.countIncrease v now).currentMtu = s.currentMtu := by
  unfold countIncrease
  split_ifs <;> rfl

@[simp] theorem notificationInterval_countIncrease :
    (s.countIncrease v now).notificationInterval = s.notificationInterval := by
  unfold countIncrease
  split_ifs <;> rfl

/-- The report that completes a run is taken. -/
theorem applyNotification_of_completes (h : s.currentMtu < v) (hdone : s.Completes v now) :
    s.step (.applyNotification v now) =
      { s.countIncrease v now with
        currentMtu := v, consecutiveIncreaseCount := 0, firstIncreaseTime := none } := by
  obtain ⟨firstTime, hfirst, hcount⟩ := hdone
  rw [step, applyNotification, if_neg (by omega), if_pos h, acceptIncrease, hfirst]
  dsimp only
  rw [notificationInterval_countIncrease, if_pos hcount]

/-- Any other increase is only counted. -/
theorem applyNotification_of_not_completes (h : s.currentMtu < v) (hdone : ¬ s.Completes v now) :
    s.step (.applyNotification v now) = s.countIncrease v now := by
  rw [step, applyNotification, if_neg (by omega), if_pos h, acceptIncrease]
  cases hfirst : (s.countIncrease v now).firstIncreaseTime with
  | none => rfl
  | some firstTime =>
    dsimp only
    rw [notificationInterval_countIncrease,
      if_neg fun hcount => hdone ⟨firstTime, hfirst, hcount⟩]

/-- Only a report raises `current_mtu`, and only to what it reports. -/
theorem step_raises {c : PathMtuCall} (h : s.currentMtu < (s.step c).currentMtu) :
    ∃ v now, c = .applyNotification v now ∧ s.currentMtu < v ∧ s.Completes v now ∧
      (s.step c).currentMtu = v := by
  cases c with
  | seedSourceMtu outboundMtu =>
    rw [step, seedSourceMtu] at h
    split_ifs at h with hlower
    · exact absurd h (Nat.lt_asymm hlower)
    · exact absurd h (Nat.lt_irrefl _)
  | updateIntervalFromSrtt fiveSrtt =>
    rw [step, updateIntervalFromSrtt] at h
    exact absurd h (Nat.lt_irrefl _)
  | applyNotification v now =>
    rcases Nat.lt_trichotomy v s.currentMtu with hlower | hsame | hhigher
    · rw [applyNotification_of_lt hlower] at h
      exact absurd h (Nat.lt_asymm hlower)
    · rw [applyNotification_of_eq hsame] at h
      exact absurd h (Nat.lt_irrefl _)
    · by_cases hdone : s.Completes v now
      · exact ⟨v, now, rfl, hhigher, hdone,
          congrArg currentMtu (applyNotification_of_completes hhigher hdone)⟩
      · rw [applyNotification_of_not_completes hhigher hdone, currentMtu_countIncrease] at h
        exact absurd h (Nat.lt_irrefl _)

/-! ## Histories -/

/-- The state after a history, the newest call first. -/
def after : List PathMtuCall → PathMtuState
  | [] => new
  | c :: past => (after past).step c

/-- The value of the newest report. -/
def lastReport : List PathMtuCall → Option Nat
  | [] => none
  | .applyNotification reportedMtu _ :: _ => some reportedMtu
  | _ :: past => lastReport past

/-- The times of the reports. -/
def times : List PathMtuCall → List Nat
  | [] => []
  | .applyNotification _ now :: calls => now :: times calls
  | _ :: calls => times calls

/-- The last `n` reports of a history are all of `v`, from the time `t`, and `v` was above
`current_mtu` before the first of them and ever since. -/
inductive Reported (v : Nat) : Nat → Nat → List PathMtuCall → Prop
  | first {past t} (hbelow : (after past).currentMtu < v)
      (hsince : (after (.applyNotification v t :: past)).currentMtu < v) :
      Reported v 1 t (.applyNotification v t :: past)
  | again {past n t now} (h : Reported v n t past)
      (hsince : (after (.applyNotification v now :: past)).currentMtu < v) :
      Reported v (n + 1) t (.applyNotification v now :: past)
  | between {past n t c} (h : Reported v n t past) (hcall : ∀ w now, c ≠ .applyNotification w now)
      (hsince : (after (c :: past)).currentMtu < v) : Reported v n t (c :: past)

/-- A report of `v` ends a run of at least three over at least two notification intervals. -/
def EndsRun (past : List PathMtuCall) (v now : Nat) : Prop :=
  (after past).currentMtu < v ∧ ∃ n t, Reported v n t past ∧ 3 ≤ n + 1 ∧
    t + (after past).notificationInterval * 2 ≤ now

/-- **The rule of the source**, for the next call of a history. -/
structure FollowsRule (past : List PathMtuCall) (c : PathMtuCall) : Prop where
  decrease : ∀ v now, c = .applyNotification v now → v < (after past).currentMtu →
    (after (c :: past)).currentMtu = v
  raise : ∀ v now, c = .applyNotification v now →
    ((after past).currentMtu < (after (c :: past)).currentMtu ↔ EndsRun past v now)
  target : (after past).currentMtu < (after (c :: past)).currentMtu →
    ∃ v now, c = .applyNotification v now ∧ (after (c :: past)).currentMtu = v
  counter : ¬ (after past).Overflows c

/-- A report of the proposed value comes right after another one, while the count of the two runs
and has room for it. -/
def Counts (past : List PathMtuCall) : PathMtuCall → Prop
  | .applyNotification v _ => (after past).currentMtu < v → v = (after past).pendingIncreaseMtu →
      (after past).firstIncreaseTime ≠ none ∧ lastReport past = some v ∧
        (after past).consecutiveIncreaseCount < 255
  | _ => True

instance (past : List PathMtuCall) (c : PathMtuCall) : Decidable (Counts past c) :=
  match c with
  | .applyNotification _ _ => inferInstanceAs (Decidable (_ → _ → _ ∧ _ ∧ _))
  | .seedSourceMtu _ => inferInstanceAs (Decidable True)
  | .updateIntervalFromSrtt _ => inferInstanceAs (Decidable True)

variable {past : List PathMtuCall} {c : PathMtuCall} {n t : Nat}

/-- What is proposed is above the current value. -/
theorem Reported.above (h : Reported v n t past) : (after past).currentMtu < v := by
  cases h with
  | first _ hsince => exact hsince
  | again _ hsince => exact hsince
  | between _ _ hsince => exact hsince

theorem Reported.time_mem (h : Reported v n t past) : t ∈ times past := by
  induction h with
  | first => exact List.mem_cons_self
  | again _ _ ih => exact List.mem_cons_of_mem _ ih
  | @between past n t c _ hcall _ ih =>
    cases c with
    | seedSourceMtu _ => exact ih
    | updateIntervalFromSrtt _ => exact ih
    | applyNotification w now => exact absurd rfl (hcall w now)

/-- What the newest report of a run says. -/
theorem Reported.newest {w : Nat} (h : Reported v n t (.applyNotification w now :: past)) :
    w = v ∧ (after past).currentMtu < v ∧
      (n = 1 ∧ t = now ∨ ∃ m, n = m + 1 ∧ Reported v m t past) := by
  cases h with
  | first hbelow _ => exact ⟨rfl, hbelow, .inl ⟨rfl, rfl⟩⟩
  | again h _ => exact ⟨rfl, h.above, .inr ⟨_, rfl, h⟩⟩
  | between _ hcall _ => exact absurd rfl (hcall _ _)

/-! ## The three fields -/

/-- The three fields say what the history says: while a count runs, its value is above
`current_mtu`; if the last report counted, the count and its first time are those of the reports;
and every run of reports is counted. -/
structure Tracks (past : List PathMtuCall) : Prop where
  above : ∀ t, (after past).firstIncreaseTime = some t →
    (after past).currentMtu < (after past).pendingIncreaseMtu
  counted : ∀ t, (after past).firstIncreaseTime = some t →
    lastReport past = some (after past).pendingIncreaseMtu →
    Reported (after past).pendingIncreaseMtu (after past).consecutiveIncreaseCount t past
  runs : ∀ v n t, Reported v n t past → v = (after past).pendingIncreaseMtu ∧
    ∃ first, (after past).firstIncreaseTime = some first ∧ first ≤ t ∧
      n ≤ (after past).consecutiveIncreaseCount

theorem tracks_nil : Tracks [] := by
  refine ⟨fun _ h => ?_, fun _ h => ?_, fun _ _ _ h => ?_⟩
  · cases h
  · cases h
  · cases h

/-- A call other than a report lowers `current_mtu` or leaves it, and does not touch the count. -/
theorem step_between (hcall : ∀ w now, c ≠ .applyNotification w now) :
    (s.step c).currentMtu ≤ s.currentMtu ∧ (s.step c).firstIncreaseTime = s.firstIncreaseTime ∧
      (s.step c).consecutiveIncreaseCount = s.consecutiveIncreaseCount ∧
      (s.step c).pendingIncreaseMtu = s.pendingIncreaseMtu := by
  cases c with
  | seedSourceMtu outboundMtu =>
    rw [step, seedSourceMtu]
    split_ifs with hlower
    · exact ⟨Nat.le_of_lt hlower, rfl, rfl, rfl⟩
    · exact ⟨Nat.le_refl _, rfl, rfl, rfl⟩
  | updateIntervalFromSrtt fiveSrtt =>
    rw [step, updateIntervalFromSrtt]
    exact ⟨Nat.le_refl _, rfl, rfl, rfl⟩
  | applyNotification w now => exact absurd rfl (hcall w now)

/-- Calls other than notifications do not interrupt a run of reports. -/
theorem lastReport_between (hcall : ∀ w now, c ≠ .applyNotification w now) :
    lastReport (c :: past) = lastReport past := by
  cases c with
  | seedSourceMtu _ => rfl
  | updateIntervalFromSrtt _ => rfl
  | applyNotification w now => exact absurd rfl (hcall w now)

/-- They leave the state in step with the history. -/
theorem Tracks.between (h : Tracks past) (hcall : ∀ w now, c ≠ .applyNotification w now) :
    Tracks (c :: past) := by
  obtain ⟨hle, hfirst, hcount, hpending⟩ := step_between (s := after past) hcall
  have habove : ∀ t, (after past).firstIncreaseTime = some t →
      ((after past).step c).currentMtu < (after past).pendingIncreaseMtu := fun t ht =>
    Nat.lt_of_le_of_lt hle (h.above t ht)
  refine ⟨fun t ht => ?_, fun t ht hlast => ?_, fun v n t hreported => ?_⟩
  · rw [after, hfirst] at ht
    rw [after, hpending]
    exact habove t ht
  · rw [after, hfirst] at ht
    rw [after, hpending, lastReport_between hcall] at hlast
    rw [after, hpending, hcount]
    exact .between (h.counted t ht hlast) hcall (habove t ht)
  · rw [after, hpending, hfirst, hcount]
    cases hreported with
    | first _ _ => exact absurd rfl (hcall _ _)
    | again _ _ => exact absurd rfl (hcall _ _)
    | between hreported _ _ => exact h.runs v n t hreported

/-- A report that does not count ends the run: no run of `v` goes on after it. -/
theorem Tracks.runs_of_le (hle : v ≤ (after past).currentMtu) :
    ∀ w n t, ¬ Reported w n t (.applyNotification v now :: past) := by
  intro w n t hreported
  obtain ⟨rfl, hbelow, -⟩ := hreported.newest
  exact absurd hbelow (Nat.not_lt.mpr hle)

/-- After a decrease no run is under way. -/
theorem Tracks.of_lt (hlower : v < (after past).currentMtu) :
    Tracks (.applyNotification v now :: past) := by
  have hafter : after (.applyNotification v now :: past) = _ := applyNotification_of_lt hlower
  refine ⟨fun t ht => ?_, fun t ht => ?_, fun w n t hreported => ?_⟩
  · rw [hafter] at ht
    cases ht
  · rw [hafter] at ht
    cases ht
  · exact absurd hreported (runs_of_le (Nat.le_of_lt hlower) w n t)

/-- A report of the current value changes no field. -/
theorem Tracks.of_eq (h : Tracks past) (hsame : v = (after past).currentMtu) :
    Tracks (.applyNotification v now :: past) := by
  have hafter : after (.applyNotification v now :: past) = _ := applyNotification_of_eq hsame
  refine ⟨fun t ht => ?_, fun t ht hlast => ?_, fun w n t hreported => ?_⟩
  · rw [hafter] at ht ⊢
    exact h.above t ht
  · -- the proposed value is above `current_mtu`, so it is not the one just reported
    rw [hafter] at ht hlast
    have habove := h.above t ht
    rw [← Option.some.inj hlast, hsame] at habove
    exact absurd habove (Nat.lt_irrefl _)
  · exact absurd hreported (runs_of_le (Nat.le_of_eq hsame) w n t)

/-- After an increase no run is under way. -/
theorem Tracks.of_completes (hhigher : (after past).currentMtu < v)
    (hdone : (after past).Completes v now) : Tracks (.applyNotification v now :: past) := by
  have hafter : after (.applyNotification v now :: past) = _ :=
    applyNotification_of_completes hhigher hdone
  refine ⟨fun t ht => ?_, fun t ht => ?_, fun w n t hreported => ?_⟩
  · rw [hafter] at ht
    cases ht
  · rw [hafter] at ht
    cases ht
  · have habove := hreported.above
    obtain ⟨rfl, -, -⟩ := hreported.newest
    rw [hafter] at habove
    exact absurd habove (Nat.lt_irrefl _)

/-- A report that counts and does not complete its run. -/
theorem Tracks.of_not_completes (h : Tracks past) (hnow : ∀ t ∈ times past, t ≤ now)
    (hcounts : Counts past (.applyNotification v now)) (hhigher : (after past).currentMtu < v)
    (hdone : ¬ (after past).Completes v now) : Tracks (.applyNotification v now :: past) := by
  have hafter : after (.applyNotification v now :: past) = (after past).countIncrease v now :=
    applyNotification_of_not_completes hhigher hdone
  have hsince : (after (.applyNotification v now :: past)).currentMtu < v := by
    rw [hafter, currentMtu_countIncrease]
    exact hhigher
  by_cases hpending : v = (after past).pendingIncreaseMtu
  · obtain ⟨hstarted, hlast, hroom⟩ := hcounts hhigher hpending
    obtain ⟨first, hfirst⟩ := Option.ne_none_iff_exists'.mp hstarted
    have hreported := h.counted first hfirst (hlast.trans (congrArg some hpending))
    rw [← hpending] at hreported
    have hcount : ((after past).consecutiveIncreaseCount + 1) % 256 =
        (after past).consecutiveIncreaseCount + 1 := Nat.mod_eq_of_lt (by omega)
    have hnext : after (.applyNotification v now :: past) = { after past with
        consecutiveIncreaseCount := (after past).consecutiveIncreaseCount + 1 } := by
      rw [hafter, countIncrease, if_pos hpending, hcount]
    refine ⟨fun t ht => ?_, fun t ht _ => ?_, fun w n t hrun => ?_⟩
    · rw [hnext]
      exact hpending ▸ hhigher
    · have hsame := hreported.again hsince
      rw [hnext] at ht ⊢
      obtain rfl := Option.some.inj (hfirst.symm.trans ht)
      rwa [hpending] at hsame ⊢
    · rw [hnext]
      obtain ⟨rfl, -, ⟨rfl, rfl⟩ | ⟨m, rfl, hearlier⟩⟩ := hrun.newest
      · exact ⟨hpending, first, hfirst, hnow first hreported.time_mem, Nat.le_add_left 1 _⟩
      · obtain ⟨-, first', hfirst', hle, hm⟩ := h.runs v m t hearlier
        exact ⟨hpending, first', hfirst', hle, Nat.succ_le_succ hm⟩
  · have hnext : after (.applyNotification v now :: past) = { after past with
        pendingIncreaseMtu := v
        consecutiveIncreaseCount := 1
        firstIncreaseTime := some now } := by
      rw [hafter, countIncrease, if_neg hpending]
    refine ⟨fun t ht => ?_, fun t ht _ => ?_, fun w n t hrun => ?_⟩
    · rw [hnext]
      exact hhigher
    · have hone := Reported.first hhigher hsince
      rw [hnext] at ht ⊢
      obtain rfl := Option.some.inj ht
      exact hone
    · rw [hnext]
      obtain ⟨rfl, -, ⟨rfl, rfl⟩ | ⟨m, rfl, hearlier⟩⟩ := hrun.newest
      · exact ⟨rfl, t, rfl, Nat.le_refl _, Nat.le_refl _⟩
      · exact absurd (h.runs v m t hearlier).1 hpending

/-- **One call** that meets `Counts` keeps the fields true to the history. -/
theorem tracks_cons (h : Tracks past) (hnow : ∀ t ∈ times past, ∀ now ∈ times [c], t ≤ now)
    (hcounts : Counts past c) : Tracks (c :: past) := by
  cases c with
  | seedSourceMtu _ => exact h.between fun _ _ hreport => by cases hreport
  | updateIntervalFromSrtt _ => exact h.between fun _ _ hreport => by cases hreport
  | applyNotification v now =>
    rcases Nat.lt_trichotomy v (after past).currentMtu with hlower | hsame | hhigher
    · exact .of_lt hlower
    · exact h.of_eq hsame
    · by_cases hdone : (after past).Completes v now
      · exact .of_completes hhigher hdone
      · refine h.of_not_completes (fun t ht => ?_) hcounts hhigher hdone
        exact hnow t ht now List.mem_cons_self

/-! ## The rule -/

/-- The code accepts a report exactly when it ends a run. -/
theorem completes_iff (h : Tracks past) (hnow : ∀ t ∈ times past, t ≤ now)
    (hcounts : Counts past (.applyNotification v now)) (hhigher : (after past).currentMtu < v) :
    (after past).Completes v now ↔ EndsRun past v now := by
  constructor
  · rintro ⟨first, hfirst, hthree, hspan⟩
    unfold countIncrease at hfirst hthree
    by_cases hpending : v = (after past).pendingIncreaseMtu
    · rw [if_pos hpending] at hfirst hthree
      obtain ⟨-, hlast, hroom⟩ := hcounts hhigher hpending
      have hreported := h.counted first hfirst (hlast.trans (congrArg some hpending))
      rw [← hpending] at hreported
      have hle := hnow first hreported.time_mem
      rw [Nat.mod_eq_of_lt (by omega)] at hthree
      exact ⟨hhigher, _, first, hreported, hthree, by omega⟩
    · rw [if_neg hpending] at hthree
      have hone : 3 ≤ 1 := hthree
      omega
  · rintro ⟨-, n, t, hreported, hthree, hspan⟩
    obtain ⟨hpending, first, hfirst, hle, hn⟩ := h.runs v n t hreported
    obtain ⟨-, -, hroom⟩ := hcounts hhigher hpending
    have hcount : 3 ≤ ((after past).consecutiveIncreaseCount + 1) % 256 := by
      rw [Nat.mod_eq_of_lt (by omega)]
      omega
    unfold Completes countIncrease
    rw [if_pos hpending]
    exact ⟨first, hfirst, hcount, by omega⟩

/-- The value rises exactly when a run ends, in a history without a stale proposal. -/
theorem raise_iff (h : Tracks past) (hnow : ∀ t ∈ times past, t ≤ now)
    (hcounts : Counts past (.applyNotification v now)) :
    (after past).currentMtu < (after (.applyNotification v now :: past)).currentMtu ↔
      EndsRun past v now := by
  constructor
  · intro hraise
    obtain ⟨_, _, hcall, hhigher, hdone, -⟩ := step_raises hraise
    cases hcall
    exact (completes_iff h hnow hcounts hhigher).mp hdone
  · intro hends
    have hdone := (completes_iff h hnow hcounts hends.1).mpr hends
    rw [after, applyNotification_of_completes hends.1 hdone]
    exact hends.1

/-- **One call** from a state whose fields are true to the history. -/
theorem followsRule_of_tracks (h : Tracks past)
    (hnow : ∀ t ∈ times past, ∀ now ∈ times [c], t ≤ now) (hcounts : Counts past c) :
    FollowsRule past c where
  decrease v now hcall hlower := by
    rw [hcall, after, applyNotification_of_lt hlower]
  raise v now hcall := by
    subst hcall
    exact raise_iff h (fun t ht => hnow t ht now List.mem_cons_self) hcounts
  target hraise := by
    obtain ⟨v, now, hcall, -, -, htarget⟩ := step_raises hraise
    exact ⟨v, now, hcall, htarget⟩
  counter hover := by
    cases c with
    | seedSourceMtu _ => exact hover
    | updateIntervalFromSrtt _ => exact hover
    | applyNotification v now =>
      obtain ⟨hhigher, hpending, hfull⟩ := hover
      obtain ⟨-, -, hroom⟩ := hcounts hhigher hpending
      omega

/-- A history goes on with its next call. -/
abbrev extend (past : List PathMtuCall) (c : PathMtuCall) : List PathMtuCall := c :: past

theorem exec_extend (past calls : List PathMtuCall) :
    exec extend past calls = calls.reverse ++ past := by
  induction calls generalizing past with
  | nil => rfl
  | cons c calls ih => rw [exec_cons, ih, List.reverse_cons, List.append_assoc]; rfl

theorem pairwise_cons {c : PathMtuCall} {calls : List PathMtuCall}
    (h : (times (c :: calls)).Pairwise (· ≤ ·)) :
    (∀ t ∈ times [c], ∀ now ∈ times calls, t ≤ now) ∧ (times calls).Pairwise (· ≤ ·) := by
  cases c with
  | seedSourceMtu _ => exact ⟨fun _ ht => absurd ht List.not_mem_nil, h⟩
  | updateIntervalFromSrtt _ => exact ⟨fun _ ht => absurd ht List.not_mem_nil, h⟩
  | applyNotification v now =>
    obtain ⟨hnow, hlater⟩ := List.pairwise_cons.mp h
    refine ⟨fun t ht => ?_, hlater⟩
    rw [List.mem_singleton.mp ht]
    exact hnow

theorem mem_times_cons {c : PathMtuCall} {calls : List PathMtuCall} {t : Nat} :
    t ∈ times (c :: calls) ↔ t ∈ times [c] ∨ t ∈ times calls := by
  cases c with
  | seedSourceMtu _ => simp [times]
  | updateIntervalFromSrtt _ => simp [times]
  | applyNotification _ _ => simp [times]

/-- Every call of a run that meets `Counts` follows the rule. -/
theorem along_followsRule {past calls : List PathMtuCall} (h : Tracks past)
    (hpast : ∀ t ∈ times past, ∀ now ∈ times calls, t ≤ now)
    (htimes : (times calls).Pairwise (· ≤ ·)) (hcounts : Along extend Counts past calls) :
    Along extend FollowsRule past calls := by
  induction calls generalizing past with
  | nil => trivial
  | cons c calls ih =>
    obtain ⟨hc, hrest⟩ := hcounts
    obtain ⟨hlater, htimes⟩ := pairwise_cons htimes
    have hnow : ∀ t ∈ times past, ∀ now ∈ times [c], t ≤ now := fun t ht now hnow =>
      hpast t ht now (mem_times_cons.mpr (.inl hnow))
    refine ⟨followsRule_of_tracks h hnow hc, ih (tracks_cons h hnow hc) ?_ htimes hrest⟩
    intro t ht now hmem
    rcases mem_times_cons.mp ht with hnew | hold
    · exact hlater t hnew now hmem
    · exact hpast t hold now (mem_times_cons.mpr (.inr hmem))

/-- A report sets `current_mtu`, or it only counts. -/
theorem currentMtu_report (past : List PathMtuCall) (v now : Nat) :
    (after (.applyNotification v now :: past)).currentMtu = v ∨
      (after past).currentMtu < v ∧
        (after (.applyNotification v now :: past)).currentMtu = (after past).currentMtu := by
  rw [after]
  rcases Nat.lt_trichotomy v (after past).currentMtu with hlower | hsame | hhigher
  · exact .inl (congrArg currentMtu (applyNotification_of_lt hlower))
  · exact .inl ((congrArg currentMtu (applyNotification_of_eq hsame)).trans hsame.symm)
  · by_cases hdone : (after past).Completes v now
    · exact .inl (congrArg currentMtu (applyNotification_of_completes hhigher hdone))
    · refine .inr ⟨hhigher, ?_⟩
      rw [applyNotification_of_not_completes hhigher hdone, currentMtu_countIncrease]

theorem currentMtu_settled (h : (after past).currentMtu = v) :
    (after (.applyNotification v now :: past)).currentMtu = v := by
  rw [after, applyNotification_of_eq h.symm, h]

theorem notificationInterval_report (past : List PathMtuCall) (v now : Nat) :
    (after (.applyNotification v now :: past)).notificationInterval =
      (after past).notificationInterval := by
  rw [after]
  rcases Nat.lt_trichotomy v (after past).currentMtu with hlower | hsame | hhigher
  · rw [applyNotification_of_lt hlower]
  · rw [applyNotification_of_eq hsame]
  · by_cases hdone : (after past).Completes v now
    · rw [applyNotification_of_completes hhigher hdone]
      exact notificationInterval_countIncrease
    · rw [applyNotification_of_not_completes hhigher hdone, notificationInterval_countIncrease]

/-- Three reports of a value over two intervals end with that value. -/
theorem currentMtu_of_three {t₁ t₂ t₃ : Nat}
    (hspan : t₁ + (after past).notificationInterval * 2 ≤ t₃)
    (hrules : Along extend FollowsRule past
      [.applyNotification v t₁, .applyNotification v t₂, .applyNotification v t₃]) :
    (after (.applyNotification v t₃ :: .applyNotification v t₂ :: .applyNotification v t₁ ::
      past)).currentMtu = v := by
  obtain ⟨-, -, hthird, -⟩ := hrules
  rcases currentMtu_report past v t₁ with hset | ⟨hbelow, hsame⟩
  · exact currentMtu_settled (currentMtu_settled hset)
  have hone : Reported v 1 t₁ (.applyNotification v t₁ :: past) :=
    .first hbelow (hsame ▸ hbelow)
  rcases currentMtu_report (.applyNotification v t₁ :: past) v t₂ with hset | ⟨hbelow₂, hsame₂⟩
  · exact currentMtu_settled hset
  have htwo : Reported v 2 t₁ (.applyNotification v t₂ :: .applyNotification v t₁ :: past) :=
    hone.again (hsame₂ ▸ hbelow₂)
  have hends : EndsRun (.applyNotification v t₂ :: .applyNotification v t₁ :: past) v t₃ := by
    refine ⟨htwo.above, 2, t₁, htwo, Nat.le_refl _, ?_⟩
    rwa [notificationInterval_report, notificationInterval_report]
  have hraise := (hthird.raise v t₃ rfl).mpr hends
  obtain ⟨_, _, hcall, htarget⟩ := hthird.target hraise
  cases hcall
  exact htarget

/-- **The rule holds along a run** whose calls all meet `Counts`: every call follows it, and
wherever three reports of one value span two intervals, the value is in force. -/
theorem followsRule_of_counts (calls : List PathMtuCall)
    (htimes : (times calls).Pairwise (· ≤ ·)) (hcounts : Along extend Counts [] calls) :
    Along extend FollowsRule [] calls ∧
    ∀ before v t₁ t₂ t₃, before ++ [.applyNotification v t₁, .applyNotification v t₂,
        .applyNotification v t₃] <+: calls →
      t₁ + (after before.reverse).notificationInterval * 2 ≤ t₃ →
      (after (.applyNotification v t₃ :: .applyNotification v t₂ :: .applyNotification v t₁ ::
        before.reverse)).currentMtu = v := by
  have hrules : Along extend FollowsRule [] calls :=
    along_followsRule tracks_nil (fun _ ht => absurd ht List.not_mem_nil) htimes hcounts
  refine ⟨hrules, ?_⟩
  rintro before v t₁ t₂ t₃ ⟨rest, rfl⟩ hspan
  rw [List.append_assoc, along_append, along_append, exec_extend, List.append_nil] at hrules
  exact currentMtu_of_three hspan hrules.2.1

namespace Sample

/-- A notification, its time in seconds. -/
def report (mtu secs : Nat) : PathMtuCall := .applyNotification mtu (fromSecs secs)

/-- A decrease while 1400 is proposed, then another proposal. -/
def recovering : List PathMtuCall :=
  [report 1300 0, report 1400 1, report 1280 2, .seedSourceMtu 1500, .updateIntervalFromSrtt 15000]

end Sample

open PathMtuState.Sample in
/-- Three reports that span two intervals raise the value. -/
theorem followsRule_recovering :
    Along extend FollowsRule []
      (recovering ++ [report 1350 10, report 1350 20, report 1350 41]) ∧
    (after (report 1350 41 :: report 1350 20 :: report 1350 10 :: recovering.reverse)).currentMtu =
      1350 := by
  obtain ⟨hrules, hthree⟩ := followsRule_of_counts
    (recovering ++ [report 1350 10, report 1350 20, report 1350 41]) (by decide)
    ⟨by decide, by decide, by decide, by decide, by decide, by decide, by decide, by decide,
      trivial⟩
  exact ⟨hrules, hthree recovering 1350 _ _ _ List.prefix_rfl (by decide)⟩

/-! ## A proposal from before a decrease -/

/-- Reports of a proposed value whose first time was cleared are counted and never accepted. -/
theorem exec_stale (hfirst : s.firstIncreaseTime = none) (hpending : s.pendingIncreaseMtu = v)
    (hhigher : s.currentMtu < v) (hcount : s.consecutiveIncreaseCount < 256) (ts : List Nat) :
    exec step s (ts.map (.applyNotification v)) =
      { s with consecutiveIncreaseCount := (s.consecutiveIncreaseCount + ts.length) % 256 } := by
  induction ts generalizing s with
  | nil =>
    rw [List.length_nil, Nat.add_zero, Nat.mod_eq_of_lt hcount]
    rfl
  | cons t ts ih =>
    have hnext : s.countIncrease v t =
        { s with consecutiveIncreaseCount := (s.consecutiveIncreaseCount + 1) % 256 } := by
      rw [countIncrease, if_pos hpending.symm]
    have hstep : s.step (.applyNotification v t) = s.countIncrease v t := by
      refine applyNotification_of_not_completes hhigher ?_
      rintro ⟨_, hsome, -⟩
      rw [hnext, hfirst] at hsome
      cases hsome
    have hrest := ih (s := s.countIncrease v t) (by rw [hnext, hfirst]) (by rw [hnext, hpending])
      (by rw [hnext]; exact hhigher) (by rw [hnext]; exact Nat.mod_lt _ (Nat.succ_pos _))
    rw [List.map_cons, exec_cons, hstep, hrest, hnext]
    dsimp only
    rw [List.length_cons, Nat.mod_add_mod, Nat.add_assoc, Nat.add_comm 1]

namespace Sample

/-- 1400 is proposed, the path drops to 1280, and 1400 comes back. -/
def dropped : List PathMtuCall :=
  [report 1300 0, report 1400 1, report 1280 2, report 1400 10, report 1400 20]

/-- A report of the value in force between two of 1400. -/
def interrupted : List PathMtuCall :=
  [report 1300 0, report 1400 1, report 1300 2, report 1400 10]

end Sample

open PathMtuState.Sample in
/-- The third report of 1400 over two intervals does not raise `current_mtu`, no later one ever
does, and their count overflows; and where a report came between, the third one raises it early. -/
theorem stale_proposal_breaks_rule :
    ((times (dropped ++ [report 1400 31])).Pairwise (· ≤ ·) ∧
      EndsRun dropped.reverse 1400 (fromSecs 31) ∧
      (after (report 1400 31 :: dropped.reverse)).currentMtu = 1280 ∧
      (∀ ts : List Nat, (exec step (after dropped.reverse)
        (ts.map (.applyNotification 1400))).currentMtu = 1280) ∧
      ∀ ts : List Nat, ts.length = 253 → (exec step (after dropped.reverse)
        (ts.map (.applyNotification 1400))).Overflows (report 1400 31)) ∧
    ((times (interrupted ++ [report 1400 31])).Pairwise (· ≤ ·) ∧
      (after interrupted.reverse).currentMtu <
        (after (report 1400 31 :: interrupted.reverse)).currentMtu ∧
      ¬ EndsRun interrupted.reverse 1400 (fromSecs 31)) := by
  have hstale : ∀ ts : List Nat, exec step (after dropped.reverse)
      (ts.map (.applyNotification 1400)) = { after dropped.reverse with
        consecutiveIncreaseCount := (2 + ts.length) % 256 } := fun ts =>
    exec_stale (s := after dropped.reverse) (by decide) (by decide) (by decide) (by decide) ts
  refine ⟨⟨by decide, ?_, by decide, fun ts => ?_, fun ts hlength => ?_⟩, by decide, by decide, ?_⟩
  · exact ⟨by decide, 2, fromSecs 10, .again (.first (by decide) (by decide)) (by decide),
      by decide, by decide⟩
  · rw [hstale]
    exact (by decide : (after dropped.reverse).currentMtu = 1280)
  · rw [hstale, hlength]
    exact ⟨by decide, by decide, by decide⟩
  · rintro ⟨-, n, t, hreported, hthree, -⟩
    obtain ⟨-, -, ⟨rfl, -⟩ | ⟨m, -, hearlier⟩⟩ := hreported.newest
    · exact absurd hthree (by decide)
    · exact absurd hearlier.newest.1 (by decide)

end PathMtuState

end Fips
