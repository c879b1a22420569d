import Fips.Mmp.Measurement
import Fips.Wire.Link

/-!
# Round-trip times

`MmpMetrics::process_receiver_report` (`mmp/metrics.rs:107-189`) with the RTT that it computes from
a timestamp echo, and `SrttEstimator` (`mmp/algorithms.rs:54-93`). Arithmetic is checked: an
overflow stops the program here, as it does in a build with overflow checks. A build without them
goes on with the wrapped numbers (`rttSampleWrapping`). What the function computes in floating point
(the trends, the goodput) is left out.

## Results

* `SrttEstimator.update_within`: one sample keeps the estimate between any bounds of the samples.
* `rttSample_eq`: what the guard accepts, and that it overflows when the echoed time plus the dwell
  time does not fit a `u32`.
* `sound_iff`: the runs in which every report is processed soundly.
-/

namespace Fips

open Checked

/-! ## The estimator -/

/-- A number that must fit an `i64`. -/
def i64 (n : Int) : Result Empty Int :=
  if -9223372036854775808 ≤ n ∧ n ≤ 9223372036854775807 then .ok n else .error .panic

/-- `SrttEstimator`, in microseconds. -/
structure SrttEstimator where
  srttUs : Int
  rttvarUs : Int
  initialized : Bool
  deriving DecidableEq, Repr

namespace SrttEstimator

/-- `SrttEstimator::new`, before the first sample. -/
def new : SrttEstimator := ⟨0, 0, false⟩

/-- A sample in microseconds. -/
def update (s : SrttEstimator) (rttUs : Int) : Result Empty SrttEstimator :=
  if !s.initialized then pure ⟨rttUs, rttUs.tdiv 2, true⟩
  else do
    let difference ← i64 (s.srttUs - rttUs)
    let err ← i64 difference.natAbs
    let kept ← i64 (s.rttvarUs - (s.rttvarUs >>> (2 : Nat)))
    let rttvarUs ← i64 (kept + (err >>> (2 : Nat)))
    let kept ← i64 (s.srttUs - (s.srttUs >>> (3 : Nat)))
    let srttUs ← i64 (kept + (rttUs >>> (3 : Nat)))
    pure ⟨srttUs, rttvarUs, true⟩

/-- A sample in milliseconds, if there is one. -/
def feed (s : SrttEstimator) : Option Nat → Result Empty SrttEstimator
  | none => pure s
  | some rttMs => do
    let rttUs ← i64 (rttMs * 1000)
    s.update rttUs

end SrttEstimator

/-! ## Reports -/

/-- A report as it was decoded from the body of a link or session message. -/
structure ReceivedReport where
  report : ReceiverReport
  body : Bytes
  decoded : ReceiverReport.decode body = .ok report ∨ SessionReceiverReport.decode body = .ok report

/-- The RTT in milliseconds from the echoed timestamp, if the guard accepts one. -/
def rttSample (rr : ReceiverReport) (ourTimestampMs : UInt32) : Result Empty (Option Nat) :=
  if 0 < rr.timestampEcho then do
    let sum ← addU32 rr.timestampEcho rr.dwellTime
    if sum < ourTimestampMs.toNat then do
      let sinceEcho ← sub ourTimestampMs.toNat rr.timestampEcho
      let rttMs ← sub sinceEcho rr.dwellTime
      pure (some rttMs)
    else pure none
  else pure none

/-- The same code where additions and subtractions wrap. -/
def rttSampleWrapping (rr : ReceiverReport) (ourTimestampMs : UInt32) : Option UInt32 :=
  let echoMs := UInt32.ofNat rr.timestampEcho
  let dwellMs := UInt32.ofNat rr.dwellTime
  if 0 < echoMs ∧ echoMs + dwellMs < ourTimestampMs then some (ourTimestampMs - echoMs - dwellMs)
  else none

/-- The counters of a report. -/
def ReceiverReport.counters (rr : ReceiverReport) : CounterReport Empty where
  highestCounter := ⟨none, rr.highestCounter⟩
  cumulativePacketsRecv := rr.cumulativePacketsRecv
  cumulativeBytesRecv := rr.cumulativeBytesRecv
  maxBurstLoss := rr.maxBurstLoss
  ecnCeCount := rr.ecnCeCount
  burstLossCount := rr.burstLossCount
  cumulativeReorderCount := rr.cumulativeReorderCount
  intervalPacketsRecv := rr.intervalPacketsRecv
  intervalBytesRecv := rr.intervalBytesRecv

/-- `MmpMetrics` with its estimator. -/
structure ReportMetrics where
  srtt : SrttEstimator
  counters : MmpMetrics Empty

namespace ReportMetrics

/-- `MmpMetrics::new`, of which only the round trip is kept. -/
def new : ReportMetrics := ⟨.new, .new⟩

/-- Whether the report produced the first estimate. -/
def processReceiverReport (m : ReportMetrics) (rr : ReceiverReport) (ourTimestampMs : UInt32) :
    Result Empty (ReportMetrics × Bool) := do
  let sample ← rttSample rr ourTimestampMs
  let srtt ← m.srtt.feed sample
  pure (⟨srtt, (m.counters.processReceiverReport rr.counters).1⟩,
    !m.srtt.initialized && srtt.initialized)

/-- The metrics after a run of reports, the newest first. -/
def after : List (ReceivedReport × UInt32) → Result Empty ReportMetrics
  | [] => pure .new
  | (r, ourTimestampMs) :: earlier => do
    let m ← after earlier
    let (m, _) ← m.processReceiverReport r.report ourTimestampMs
    pure m

/-- The samples a run of reports has produced. -/
def samples (reports : List (ReceivedReport × UInt32)) : List Nat :=
  reports.filterMap fun x => (rttSample x.1.report x.2).toOption.join

/-- **Sound samples** along a run: no report makes the arithmetic overflow, a sample is what is left
of the time since the echoed timestamp after the dwell time, and the estimate stays between any
bounds of the samples so far. -/
structure Sound (reports : List (ReceivedReport × UInt32)) : Prop where
  noOverflow : NoPanic (after reports)
  sample : ∀ r ourTimestampMs, (r, ourTimestampMs) ∈ reports → ∀ rttMs,
    rttSample r.report ourTimestampMs = .ok (some rttMs) →
    r.report.timestampEcho + r.report.dwellTime + rttMs = ourTimestampMs.toNat ∧ 0 < rttMs
  between : ∀ earlier, earlier <:+ reports → ∀ m, after earlier = .ok m → samples earlier ≠ [] →
    ∀ lo hi : Nat, (∀ rttMs ∈ samples earlier, lo ≤ rttMs ∧ rttMs ≤ hi) →
      (lo * 1000 : Int) ≤ m.srtt.srttUs ∧ m.srtt.srttUs ≤ hi * 1000

end ReportMetrics

/-! ## One sample -/

section Update

theorem i64_eq {n : Int} (hlo : -9223372036854775808 ≤ n) (hhi : n ≤ 9223372036854775807) :
    i64 n = .ok n := if_pos ⟨hlo, hhi⟩

theorem shiftRight_two (n : Int) : n >>> (2 : Nat) = n / 4 := Int.shiftRight_eq_div_pow n 2

theorem shiftRight_three (n : Int) : n >>> (3 : Nat) = n / 8 := Int.shiftRight_eq_div_pow n 3

/-- An estimate between `lo` and `hi`, with a variance that can grow no larger. -/
structure SrttEstimator.Within (lo hi : Int) (s : SrttEstimator) : Prop where
  lower : lo ≤ s.srttUs
  upper : s.srttUs ≤ hi
  rttvarNonneg : 0 ≤ s.rttvarUs
  rttvarUpper : s.rttvarUs ≤ hi
  initialized : s.initialized = true

variable {lo hi rttUs : Int} {s : SrttEstimator}

theorem SrttEstimator.update_first (hnew : s.initialized = false) (h0 : 0 ≤ lo)
    (hlo : lo ≤ rttUs) (hhi : rttUs ≤ hi) :
    ∃ s', s.update rttUs = .ok s' ∧ s'.Within lo hi := by
  have hhalf : rttUs.tdiv 2 = rttUs / 2 := Int.tdiv_eq_ediv_of_nonneg (by omega)
  have hvlo : 0 ≤ rttUs.tdiv 2 := by omega
  have hvhi : rttUs.tdiv 2 ≤ hi := by omega
  exact ⟨⟨rttUs, rttUs.tdiv 2, true⟩, by simp [update, hnew]; rfl, hlo, hhi, hvlo, hvhi, rfl⟩

/-- **One sample.** A part of the old estimate is exchanged for the same part of the sample, and
the rounding of both parts is the same. -/
theorem SrttEstimator.update_within (hs : s.Within lo hi) (h0 : 0 ≤ lo)
    (hmax : hi ≤ 4294967296000) (hlo : lo ≤ rttUs) (hhi : rttUs ≤ hi) :
    ∃ s', s.update rttUs = .ok s' ∧ s'.Within lo hi := by
  obtain ⟨hslo, hshi, hvlo, hvhi, hinit⟩ := hs
  have herr : ((s.srttUs - rttUs).natAbs : Int) ≤ hi := by omega
  refine ⟨⟨s.srttUs - s.srttUs >>> (3 : Nat) + rttUs >>> (3 : Nat), s.rttvarUs - s.rttvarUs >>> (2 : Nat) +
    ((s.srttUs - rttUs).natAbs : Int) >>> (2 : Nat), true⟩, ?_, ?_, ?_, ?_, ?_, rfl⟩
  · simp only [update, hinit, Bool.not_true, Bool.false_eq_true, if_false, shiftRight_two,
      shiftRight_three]
    rw [i64_eq (by omega) (by omega), ok_bind, i64_eq (by omega) (by omega), ok_bind,
      i64_eq (by omega) (by omega), ok_bind, i64_eq (by omega) (by omega), ok_bind,
      i64_eq (by omega) (by omega), ok_bind, i64_eq (by omega) (by omega), ok_bind]
    rfl
  all_goals
    simp only [shiftRight_two, shiftRight_three]
    omega

end Update

section Sample

variable {rr : ReceiverReport} {ourTimestampMs : UInt32} {rttMs : Nat}

/-- **What the guard does.** -/
theorem rttSample_eq (rr : ReceiverReport) (ourTimestampMs : UInt32) :
    rttSample rr ourTimestampMs =
      if rr.timestampEcho = 0 then .ok none
      else if 4294967296 ≤ rr.timestampEcho + rr.dwellTime then .error .panic
      else if rr.timestampEcho + rr.dwellTime < ourTimestampMs.toNat then
        .ok (some (ourTimestampMs.toNat - rr.timestampEcho - rr.dwellTime))
      else .ok none := by
  unfold rttSample
  by_cases hecho : rr.timestampEcho = 0
  · rw [if_neg (by omega), if_pos hecho]
    rfl
  rw [if_pos (by omega), if_neg hecho]
  by_cases hover : 4294967296 ≤ rr.timestampEcho + rr.dwellTime
  · rw [if_pos hover, addU32, if_neg (by omega)]
    rfl
  rw [if_neg hover, addU32_eq (by omega), ok_bind]
  by_cases hlt : rr.timestampEcho + rr.dwellTime < ourTimestampMs.toNat
  · rw [if_pos hlt, if_pos hlt, sub, if_pos (by omega), ok_bind, sub, if_pos (by omega), ok_bind]
    rfl
  · rw [if_neg hlt, if_neg hlt]
    rfl

/-- The sum of the echoed time and the dwell time fits a `u32`, or no time was echoed. -/
def ReceiverReport.EchoFits (rr : ReceiverReport) : Prop :=
  rr.timestampEcho = 0 ∨ rr.timestampEcho + rr.dwellTime < 4294967296

theorem rttSample_of_echoFits (h : rr.EchoFits) (ourTimestampMs : UInt32) :
    ∃ sample, rttSample rr ourTimestampMs = .ok sample := by
  rw [rttSample_eq]
  obtain hzero | hfits := h
  · exact ⟨none, if_pos hzero⟩
  · split_ifs
    · exact ⟨_, rfl⟩
    · omega
    · exact ⟨_, rfl⟩
    · exact ⟨_, rfl⟩

theorem rttSample_of_not_echoFits (h : ¬ rr.EchoFits) :
    rttSample rr ourTimestampMs = .error .panic := by
  have hzero : rr.timestampEcho ≠ 0 := fun hzero => h (.inl hzero)
  have hover : 4294967296 ≤ rr.timestampEcho + rr.dwellTime := Nat.not_lt.mp fun hlt => h (.inr hlt)
  rw [rttSample_eq, if_neg hzero, if_pos hover]

/-- A sample is what the other two times leave. -/
theorem of_rttSample (h : rttSample rr ourTimestampMs = .ok (some rttMs)) :
    rr.timestampEcho + rr.dwellTime + rttMs = ourTimestampMs.toNat ∧ 0 < rttMs := by
  rw [rttSample_eq] at h
  split_ifs at h with hzero hover hlt
  · cases h
  · obtain rfl := Option.some.inj (Except.ok.inj h)
    omega
  · cases h

end Sample

/-! ## Runs -/

namespace ReportMetrics

variable {m m' : ReportMetrics} {rr : ReceiverReport} {ourTimestampMs : UInt32} {lo hi : Nat}
  {reports : List (ReceivedReport × UInt32)}

/-- The estimator after some samples: new without any, between their bounds with some. -/
structure Fed (s : SrttEstimator) (fed : List Nat) : Prop where
  new : fed = [] → s = .new
  within : fed ≠ [] → ∀ lo hi : Nat, hi < 4294967296 → (∀ rttMs ∈ fed, lo ≤ rttMs ∧ rttMs ≤ hi) →
    s.Within (lo * 1000) (hi * 1000)

/-- One more sample, between the bounds of all of them. -/
theorem Fed.update_within {s : SrttEstimator} {fed : List Nat} (hs : Fed s fed) {rttMs lo hi : Nat}
    (hhi : hi < 4294967296) (hbounds : ∀ x ∈ rttMs :: fed, lo ≤ x ∧ x ≤ hi) :
    ∃ s', s.update (rttMs * 1000) = .ok s' ∧ s'.Within (lo * 1000) (hi * 1000) := by
  obtain ⟨hsample, hbounds⟩ := List.forall_mem_cons.mp hbounds
  by_cases hnil : fed = []
  · have hnew : s.initialized = false := by rw [hs.new hnil]; rfl
    exact SrttEstimator.update_first hnew (by omega) (by omega) (by omega)
  · exact SrttEstimator.update_within (hs.within hnil lo hi hhi hbounds) (by omega) (by omega)
      (by omega) (by omega)

theorem Fed.feed {s : SrttEstimator} {fed : List Nat} (hs : Fed s fed)
    (hfed : ∀ x ∈ fed, x < 4294967296) {sample : Option Nat}
    (hsample : ∀ x ∈ sample, x < 4294967296) :
    ∃ s', s.feed sample = .ok s' ∧ Fed s' (sample.toList ++ fed) := by
  cases sample with
  | none => exact ⟨s, rfl, hs⟩
  | some rttMs =>
    have hlt := hsample rttMs rfl
    have hall : ∀ x ∈ rttMs :: fed, 0 ≤ x ∧ x ≤ 4294967295 :=
      List.forall_mem_cons.mpr ⟨by omega, fun x hx => by have := hfed x hx; omega⟩
    obtain ⟨s', hs', -⟩ := hs.update_within (by decide) hall
    refine ⟨s', ?_, nofun, fun _ lo hi hhi hbounds => ?_⟩
    · rw [SrttEstimator.feed, i64_eq (by omega) (by omega), ok_bind]
      exact hs'
    · obtain ⟨s'', hs'', hwithin⟩ := hs.update_within hhi hbounds
      obtain rfl := Except.ok.inj (hs'.symm.trans hs'')
      exact hwithin

theorem samples_lt : ∀ rttMs ∈ samples reports, rttMs < 4294967296 := by
  intro rttMs hmem
  obtain ⟨x, -, hx⟩ := List.mem_filterMap.mp hmem
  have hlt := x.2.toNat_lt
  cases hsample : rttSample x.1.report x.2 with
  | error e => simp [hsample, Except.toOption] at hx
  | ok sample =>
    rw [hsample] at hx
    obtain rfl : sample = some rttMs := by simpa [Except.toOption] using hx
    have hsum := of_rttSample hsample
    omega

/-- What holds after a run that has not overflowed. -/
theorem after_fed (hfits : ∀ x ∈ reports, x.1.report.EchoFits) :
    ∃ m, after reports = .ok m ∧ Fed m.srtt (samples reports) := by
  induction reports with
  | nil => exact ⟨.new, rfl, fun _ => rfl, fun h => absurd rfl h⟩
  | cons x earlier ih =>
    obtain ⟨hx, hfits⟩ := List.forall_mem_cons.mp hfits
    obtain ⟨m, hm, hfed⟩ := ih hfits
    obtain ⟨sample, hsample⟩ := rttSample_of_echoFits hx x.2
    have hsamples : samples (x :: earlier) = sample.toList ++ samples earlier := by
      rw [samples, List.filterMap_cons, hsample]
      cases sample with
      | none => rfl
      | some rttMs => rfl
    have hlt : ∀ rttMs ∈ sample, rttMs < 4294967296 := by
      intro rttMs hmem
      have hours := x.2.toNat_lt
      have hsum := of_rttSample (hsample.trans (congrArg Except.ok hmem))
      omega
    obtain ⟨srtt, hsrtt, hfed⟩ := hfed.feed samples_lt hlt
    refine ⟨⟨srtt, (m.counters.processReceiverReport x.1.report.counters).1⟩, ?_, hsamples ▸ hfed⟩
    rw [after, hm, ok_bind, processReceiverReport, hsample, ok_bind, hsrtt, ok_bind]
    rfl

/-- A report that overflows stops the run. -/
theorem after_of_not_echoFits {x : ReceivedReport × UInt32} (hx : x ∈ reports)
    (hover : ¬ x.1.report.EchoFits) : after reports = .error .panic := by
  induction reports with
  | nil => cases hx
  | cons y earlier ih =>
    rw [after]
    cases hearlier : after earlier with
    | error e =>
      cases e with
      | error e => exact nomatch e
      | panic => rfl
    | ok m =>
      obtain rfl | hx := List.mem_cons.mp hx
      · rw [ok_bind, processReceiverReport, rttSample_of_not_echoFits hover]
        rfl
      · rw [ih hx] at hearlier
        cases hearlier

/-- **When samples are sound.** In a run of decoded reports exactly when in each of them no time is
echoed, or the echoed time plus the dwell time fits a `u32`. -/
theorem sound_iff (reports : List (ReceivedReport × UInt32)) :
    Sound reports ↔ ∀ x ∈ reports, x.1.report.EchoFits := by
  constructor
  · intro hs x hx
    by_contra hover
    exact hs.noOverflow (after_of_not_echoFits hx hover)
  · intro hfits
    obtain ⟨m, hm, -⟩ := after_fed hfits
    refine ⟨hm ▸ noPanic_ok m, fun r ourTimestampMs _ rttMs => of_rttSample, ?_⟩
    intro earlier hsuffix m' hm' hne lo hi hbounds
    obtain ⟨m'', hm'', hfed⟩ := after_fed fun x hx => hfits x (hsuffix.mem hx)
    obtain rfl := Except.ok.inj (hm''.symm.trans hm')
    have hwithin := hfed.within hne lo (min hi 4294967295) (by omega) fun x hx => by
      have hlt := samples_lt x hx
      have hx := hbounds x hx
      omega
    have hlower := hwithin.lower
    have hupper := hwithin.upper
    omega

end ReportMetrics

/-! ## A bogus echo -/

namespace RoundTripSample

/-- The body of a report that echoes the timestamp `2 ^ 32 - 1` after one millisecond. -/
def body : Bytes :=
  List.replicate 27 0 ++ [0xff, 0xff, 0xff, 0xff] ++ [1, 0] ++ List.replicate 34 0

/-- What `body` decodes to. -/
def report : ReceiverReport := ⟨0, 0, 0, 4294967295, 1, 0, 0, 0, 0, 0, 0, 0, 0, 0⟩

theorem decode_body : ReceiverReport.decode body = .ok report := by decide

/-- The report, as it came in. -/
def received : ReceivedReport := ⟨report, body, .inl decode_body⟩

/-- The sum wraps to zero and passes the guard: with overflow checks the report stops the program,
without them it gives a sample of 5 milliseconds. -/
theorem bogus_echo :
    rttSample received.report 5 = .error .panic ∧
      rttSampleWrapping received.report 5 = some 5 ∧
      received.report.timestampEcho + received.report.dwellTime + 5 ≠ 5 ∧
      ¬ ReportMetrics.Sound [(received, 5)] := by
  have hpanic : rttSample received.report 5 = .error .panic := by decide
  refine ⟨hpanic, by decide, by decide, fun hs => hs.noOverflow ?_⟩
  rw [ReportMetrics.after, ReportMetrics.after, pure_bind, ReportMetrics.processReceiverReport,
    hpanic]
  rfl

end RoundTripSample

end Fips
