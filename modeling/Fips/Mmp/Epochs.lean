import Fips.Lib.Run
import Fips.Mmp.Measurement

/-!
# Measurements over rekeys

Two nodes on one link, each with the session slots of its `ActivePeer` (`peer/active.rs`), sessions
named by their keys: a frame passes a session exactly when it was sealed under its key. Frames in
flight arrive in any order, late or not at all. A rekey that was agreed on waits in the pending slot
of a node until the node cuts over by itself (`check_rekey`) or the peer's K-bit does it.

A cutover resets the receiver and the metrics but not the spin bit, whose guard goes on to compare
with a counter of the old key at the end that did not initiate the link. And a frame that only the
previous session opens is recorded like any other.

## Results

* `measured_receive`: a frame of the current key compares counters of this key alone.
* `unmixed_of_keeps`: in a run in which no frame is opened by a previous session, and no cutover
  finds a counter in the guard of a responder, counters of different keys are never compared.
-/

open EventRun

namespace Fips

variable {κ : Type}

/-- A frame of an established session, with a receiver report or other contents. -/
structure SealedFrame (κ : Type) where
  key : κ
  counter : Nat
  kBit : Bool
  spinBit : Bool
  ceFlag : Bool
  bytes : Nat
  report : Option (CounterReport κ)
  deriving DecidableEq, Repr

/-- The session slots of `ActivePeer` and its measurements. -/
structure MeasuredPeer (κ : Type) where
  noiseSession : κ
  sendCounter : Nat
  previousSession : Option κ
  pendingNewSession : Option κ
  currentKBit : Bool
  mmp : MmpPeerState κ
  deriving DecidableEq, Repr

namespace MeasuredPeer

/-- A peer on its first key. -/
def new (key : κ) (isInitiator : Bool) : MeasuredPeer κ :=
  ⟨key, 0, none, none, false, .new isInitiator⟩

/-- `set_pending_session`. -/
def setPendingSession (key : κ) (p : MeasuredPeer κ) : MeasuredPeer κ :=
  { p with pendingNewSession := some key }

/-- The common body of `cutover_to_new_session` and `handle_peer_kbit_flip`. -/
def promotePending (p : MeasuredPeer κ) : MeasuredPeer κ :=
  match p.pendingNewSession with
  | none => p
  | some key =>
    { noiseSession := key
      sendCounter := 0
      previousSession := some p.noiseSession
      pendingNewSession := none
      currentKBit := !p.currentKBit
      mmp := p.mmp.resetForRekey }

/-- `ActivePeer::cutover_to_new_session`, on what is measured. -/
def cutoverToNewSession (p : MeasuredPeer κ) : MeasuredPeer κ := p.promotePending

/-- `ActivePeer::handle_peer_kbit_flip`, on what is measured. -/
def handlePeerKbitFlip (p : MeasuredPeer κ) : MeasuredPeer κ := p.promotePending

/-- `complete_drain`. -/
def completeDrain (p : MeasuredPeer κ) : MeasuredPeer κ := { p with previousSession := none }

/-- `encrypted.rs:46-80`, before the frame is opened. -/
def followKBit (kBit : Bool) (p : MeasuredPeer κ) : MeasuredPeer κ :=
  if kBit != p.currentKBit && p.pendingNewSession.isSome then p.handlePeerKbitFlip else p

/-- A frame is sealed, with a report of the receiver if one is due (`check_mmp_reports`). -/
def sendFrame (withReport ceFlag : Bool) (bytes : Nat) (p : MeasuredPeer κ) :
    MeasuredPeer κ × SealedFrame κ :=
  let (receiver, report) :=
    if withReport then p.mmp.receiver.buildReport else (p.mmp.receiver, none)
  ({ p with sendCounter := p.sendCounter + 1, mmp := { p.mmp with receiver := receiver } },
    { key := p.noiseSession
      counter := p.sendCounter
      kBit := p.currentKBit
      spinBit := p.mmp.spinBit.txBit
      ceFlag := ceFlag
      bytes := bytes
      report := report })

/-- An authentic frame: it is recorded, then dispatched. -/
def recordFrame (now : Nat) (f : SealedFrame κ) (p : MeasuredPeer κ) :
    MeasuredPeer κ × List (Comparison κ) :=
  let (mmp, recorded) :=
    p.mmp.recordFrame ⟨some f.key, f.counter⟩ f.bytes f.ceFlag f.spinBit now
  match f.report with
  | none => ({ p with mmp := mmp }, recorded)
  | some rr =>
    let (mmp, reported) := mmp.handleReceiverReport rr
    ({ p with mmp := mmp }, recorded ++ reported)

variable [DecidableEq κ]

/-- `handle_encrypted_frame`. -/
def handleEncryptedFrame (now : Nat) (f : SealedFrame κ) (p : MeasuredPeer κ) :
    MeasuredPeer κ × List (Comparison κ) :=
  let p := p.followKBit f.kBit
  if f.key = p.noiseSession then p.recordFrame now f
  else if p.previousSession = some f.key then p.recordFrame now f
  else (p, [])

end MeasuredPeer

/-! ## The link -/

/-- The two ends of a link. -/
inductive LinkEnd
  | initiator
  | responder
  deriving DecidableEq, Repr

/-- The end across the link. -/
def LinkEnd.other : LinkEnd → LinkEnd
  | .initiator => .responder
  | .responder => .initiator

/-- The two ends, the frames on their way to each, and what has been compared so far. -/
structure MeasuredLink (κ : Type) where
  peer : LinkEnd → MeasuredPeer κ
  inFlight : LinkEnd → List (SealedFrame κ)
  compared : List (Comparison κ)

/-- A step of one end, or the fate of a frame on the way to it. -/
inductive LinkMove (κ : Type)
  | setPendingSession (e : LinkEnd) (key : κ)
  | cutover (e : LinkEnd)
  | completeDrain (e : LinkEnd)
  | send (e : LinkEnd) (withReport ceFlag : Bool) (bytes : Nat)
  | deliver (e : LinkEnd) (i now : Nat)
  | lose (e : LinkEnd) (i : Nat)
  | forge (e : LinkEnd) (kBit : Bool)

namespace MeasuredLink

/-- Two nodes that have just connected. -/
def connected (key : κ) : MeasuredLink κ where
  peer e := .new key (decide (e = .initiator))
  inFlight _ := []
  compared := []

/-- The link with another state at one end. -/
def setPeer (e : LinkEnd) (p : MeasuredPeer κ) (s : MeasuredLink κ) : MeasuredLink κ :=
  { s with peer := Function.update s.peer e p }

variable [DecidableEq κ]

/-- The `i`th frame on its way arrives. -/
def deliver (e : LinkEnd) (i now : Nat) (s : MeasuredLink κ) : MeasuredLink κ :=
  match (s.inFlight e)[i]? with
  | none => s
  | some f =>
    let (p, compared) := (s.peer e).handleEncryptedFrame now f
    { s.setPeer e p with
      inFlight := Function.update s.inFlight e ((s.inFlight e).eraseIdx i)
      compared := s.compared ++ compared }

/-- One event; `forge` is a frame that no session opens, which is seen by its K-bit only. -/
def step (s : MeasuredLink κ) : LinkMove κ → MeasuredLink κ
  | .setPendingSession e key => s.setPeer e ((s.peer e).setPendingSession key)
  | .cutover e => s.setPeer e (s.peer e).cutoverToNewSession
  | .completeDrain e => s.setPeer e (s.peer e).completeDrain
  | .send e withReport ceFlag bytes =>
    let (p, f) := (s.peer e).sendFrame withReport ceFlag bytes
    { s.setPeer e p with
      inFlight := Function.update s.inFlight e.other (s.inFlight e.other ++ [f]) }
  | .deliver e i now => s.deliver e i now
  | .lose e i => { s with inFlight := Function.update s.inFlight e ((s.inFlight e).eraseIdx i) }
  | .forge e kBit => s.setPeer e ((s.peer e).followKBit kBit)

end MeasuredLink

/-! ## Counters of one key -/

/-- The two counters belong to different keys. -/
def Comparison.Mixes (c : Comparison κ) : Prop :=
  ∃ k k', c.left.key = some k ∧ c.right.key = some k' ∧ k ≠ k'

/-- No counter of another key. -/
def FrameCounter.Of (k : κ) (c : FrameCounter κ) : Prop := ∀ k', c.key = some k' → k' = k

/-- Only counters of the key were compared. -/
def Within (k : κ) (cs : List (Comparison κ)) : Prop := ∀ c ∈ cs, c.left.Of k ∧ c.right.Of k

section Within

variable {k : κ} {cs cs' : List (Comparison κ)} {c c' : FrameCounter κ}

/-- Before the first frame a counter belongs to any key. -/
theorem FrameCounter.of_zero (k : κ) : (FrameCounter.zero : FrameCounter κ).Of k :=
  fun _ h => by cases h

theorem FrameCounter.of_some (k : κ) (value : Nat) : (⟨some k, value⟩ : FrameCounter κ).Of k :=
  fun _ h => (Option.some.inj h).symm

/-- No comparison mixes keys. -/
theorem within_nil (k : κ) : Within k ([] : List (Comparison κ)) := List.forall_mem_nil _

/-- A comparison of two counters of one key. -/
theorem within_singleton (h : c.Of k) (h' : c'.Of k) : Within k [⟨c, c'⟩] :=
  List.forall_mem_singleton.mpr ⟨h, h'⟩

theorem Within.append (h : Within k cs) (h' : Within k cs') : Within k (cs ++ cs') :=
  List.forall_mem_append.mpr ⟨h, h'⟩

/-- Comparisons within one key do not mix keys. -/
theorem Within.not_mixes (h : Within k cs) : ∀ c ∈ cs, ¬c.Mixes := by
  rintro c hc ⟨k₁, k₂, h₁, h₂, hne⟩
  obtain ⟨hleft, hright⟩ := h c hc
  exact hne ((hleft k₁ h₁).trans (hright k₂ h₂).symm)

end Within

/-! ### The receiver -/

section Receiver

variable {k : κ} {c : FrameCounter κ} {g : GapTracker κ} {r : ReceiverState κ}

/-- What the gap tracker expects is of the key. -/
def GapTracker.Of (k : κ) (g : GapTracker κ) : Prop := ∀ c, g.expectedNext = some c → c.Of k

theorem GapTracker.expectedNext_finishBurst (g : GapTracker κ) :
    g.finishBurst.expectedNext = g.expectedNext := by
  unfold finishBurst
  split_ifs <;> rfl

/-- A frame of the tracker's key is compared with frames of that key. -/
theorem GapTracker.observe_of (hg : g.Of k) (hc : c.Of k) :
    (g.observe c).1.Of k ∧ Within k (g.observe c).2 := by
  unfold observe
  cases hexpected : g.expectedNext with
  | none =>
    refine ⟨?_, within_nil k⟩
    intro c' hc'
    cases hc'
    exact hc
  | some expected =>
    refine ⟨?_, within_singleton hc (hg expected hexpected)⟩
    intro c' hc'
    dsimp only at hc'
    split_ifs at hc' <;> cases hc'
    all_goals first | exact hc | exact hg expected hexpected

/-- What the receiver has counted is of the key. -/
structure ReceiverState.Of (k : κ) (r : ReceiverState κ) : Prop where
  highest : r.highestCounter.Of k
  gap : r.gapTracker.Of k

/-- A state that is reset may go on with any key. -/
theorem ReceiverState.of_reset (k : κ) (r : ReceiverState κ) : r.resetForRekey.Of k :=
  ⟨FrameCounter.of_zero k, fun _ h => by cases h⟩

/-- A received frame of the state's key is compared within that key. -/
theorem ReceiverState.recordRecv_of (hr : r.Of k) (hc : c.Of k) (bytes : Nat) (ceFlag : Bool) :
    (r.recordRecv c bytes ceFlag).1.Of k ∧ Within k (r.recordRecv c bytes ceFlag).2 := by
  obtain ⟨hgap, hcompared⟩ := GapTracker.observe_of hr.gap hc
  refine ⟨⟨?_, hgap⟩, (within_singleton hc hr.highest).append hcompared⟩
  change FrameCounter.Of k (if _ then _ else _)
  split_ifs
  · exact hr.highest
  · exact hc

/-- A report carries the highest counter. -/
theorem ReceiverState.buildReport_of (hr : r.Of k) :
    r.buildReport.1.Of k ∧ ∀ rr, r.buildReport.2 = some rr → rr.highestCounter.Of k := by
  unfold buildReport
  split_ifs
  · exact ⟨hr, fun _ h => by cases h⟩
  · refine ⟨⟨hr.highest, fun c hc => ?_⟩, fun rr h => ?_⟩
    · change r.gapTracker.finishBurst.expectedNext = some c at hc
      rw [GapTracker.expectedNext_finishBurst] at hc
      exact hr.gap c hc
    · cases h
      exact hr.highest

end Receiver

/-! ### Metrics and the spin bit -/

section Peer

variable {k : κ} {c : FrameCounter κ} {m : MmpMetrics κ} {rr : CounterReport κ}
  {s : SpinBitState κ} {mmp : MmpPeerState κ}

/-- The counters of the last report are of the key. -/
structure MmpMetrics.Of (k : κ) (m : MmpMetrics κ) : Prop where
  forward : m.prevRrHighestCounter.Of k
  reverse : m.prevReverseHighest.Of k

/-- Metrics that are reset may go on with any key. -/
theorem MmpMetrics.of_reset (k : κ) (m : MmpMetrics κ) : m.resetForRekey.Of k :=
  ⟨FrameCounter.of_zero k, FrameCounter.of_zero k⟩

/-- A report about the key's own frames is compared within that key. -/
theorem MmpMetrics.processReceiverReport_of (hm : m.Of k) (hrr : rr.highestCounter.Of k) :
    (m.processReceiverReport rr).1.Of k ∧ Within k (m.processReceiverReport rr).2 := by
  refine ⟨⟨hrr, hm.reverse⟩, ?_⟩
  unfold processReceiverReport
  split_ifs
  · exact within_singleton hrr hm.forward
  · exact within_nil k

/-- The reverse delivery is taken from counters of one key. -/
theorem MmpMetrics.updateReverseDelivery_of (hm : m.Of k) (hc : c.Of k) (packets : Nat) :
    (m.updateReverseDelivery packets c).1.Of k ∧ Within k (m.updateReverseDelivery packets c).2 := by
  refine ⟨⟨hm.forward, hc⟩, ?_⟩
  unfold updateReverseDelivery
  split_ifs
  · exact within_singleton hc hm.reverse
  · exact within_nil k

/-- The guard of a responder is of the key, and without a counter it is zero. -/
structure SpinBitState.Of (k : κ) (s : SpinBitState κ) : Prop where
  guard : s.isInitiator = true ∨ s.highestCounterForSpin.Of k
  unset : s.highestCounterForSpin.value = 0 → s.highestCounterForSpin.key = none

/-- The spin bit's counter is compared within the key. -/
theorem SpinBitState.rxObserve_of (hs : s.Of k) (hc : c.Of k) (receivedBit : Bool) (now : Nat) :
    (s.rxObserve receivedBit c now).1.Of k ∧ Within k (s.rxObserve receivedBit c now).2 := by
  unfold rxObserve
  by_cases hinitiator : s.isInitiator = true
  · rw [if_pos hinitiator]
    split_ifs
    · exact ⟨⟨.inl hinitiator, hs.unset⟩, within_nil k⟩
    · exact ⟨hs, within_nil k⟩
  · have hguard := hs.guard.resolve_left hinitiator
    rw [if_neg hinitiator]
    split_ifs with hhigher
    · exact ⟨⟨.inr hc, fun hzero => absurd hzero (Nat.ne_of_gt (Nat.zero_lt_of_lt hhigher))⟩,
        within_singleton hc hguard⟩
    · exact ⟨hs, within_singleton hc hguard⟩

/-- All that was measured is of the key. -/
structure MmpPeerState.Of (k : κ) (mmp : MmpPeerState κ) : Prop where
  receiver : mmp.receiver.Of k
  metrics : mmp.metrics.Of k
  spinBit : mmp.spinBit.Of k

theorem MmpPeerState.of_new (k : κ) (isInitiator : Bool) : (MmpPeerState.new isInitiator).Of k :=
  ⟨ReceiverState.of_reset k .new, MmpMetrics.of_reset k .new,
    ⟨.inr (FrameCounter.of_zero k), fun _ => rfl⟩⟩

/-- The guard of the spin bit holds no counter that a cutover would leave behind. -/
def MmpPeerState.SpinFree (mmp : MmpPeerState κ) : Prop :=
  mmp.spinBit.isInitiator = true ∨ mmp.spinBit.highestCounterForSpin.value = 0

instance (mmp : MmpPeerState κ) : Decidable mmp.SpinFree := inferInstanceAs (Decidable (_ ∨ _))

/-- After a rekey everything may go on with the new key, except for the spin bit, which is not reset. -/
theorem MmpPeerState.of_reset {k' : κ} (h : mmp.Of k) (hfree : mmp.SpinFree) :
    mmp.resetForRekey.Of k' := by
  refine ⟨ReceiverState.of_reset k' _, MmpMetrics.of_reset k' _, ⟨?_, h.spinBit.unset⟩⟩
  refine hfree.imp_right fun hzero k'' hkey => ?_
  cases hkey.symm.trans (h.spinBit.unset hzero)

/-- A received frame is compared within the key. -/
theorem MmpPeerState.recordFrame_of (h : mmp.Of k) (hc : c.Of k) (bytes : Nat)
    (ceFlag spFlag : Bool) (now : Nat) :
    (mmp.recordFrame c bytes ceFlag spFlag now).1.Of k ∧
      Within k (mmp.recordFrame c bytes ceFlag spFlag now).2 := by
  obtain ⟨hreceiver, hreceived⟩ := ReceiverState.recordRecv_of h.receiver hc bytes ceFlag
  obtain ⟨hspin, hobserved⟩ := SpinBitState.rxObserve_of h.spinBit hc spFlag now
  exact ⟨⟨hreceiver, h.metrics, hspin⟩, hreceived.append hobserved⟩

/-- A received report is compared within the key. -/
theorem MmpPeerState.handleReceiverReport_of (h : mmp.Of k) (hrr : rr.highestCounter.Of k) :
    (mmp.handleReceiverReport rr).1.Of k ∧ Within k (mmp.handleReceiverReport rr).2 := by
  obtain ⟨hmetrics, hforward⟩ := MmpMetrics.processReceiverReport_of h.metrics hrr
  obtain ⟨hmetrics', hreverse⟩ := MmpMetrics.updateReverseDelivery_of hmetrics h.receiver.highest
    mmp.receiver.cumulativePacketsRecv
  exact ⟨⟨h.receiver, hmetrics', h.spinBit⟩, hforward.append hreverse⟩

end Peer

/-! ## One key at a time -/

section Link

/-- What a frame reports is of its key. -/
def SealedFrame.Reports (f : SealedFrame κ) : Prop :=
  ∀ rr, f.report = some rr → rr.highestCounter.Of f.key

namespace MeasuredPeer

variable {p : MeasuredPeer κ} {f : SealedFrame κ}

/-- All that was measured is of the current key. -/
def Measured (p : MeasuredPeer κ) : Prop := p.mmp.Of p.noiseSession

/-- A rekey keeps the peer measured when its spin bit has seen no frame. -/
theorem measured_promotePending (h : p.Measured)
    (hfree : p.pendingNewSession.isSome = true → p.mmp.SpinFree) : p.promotePending.Measured := by
  unfold promotePending
  cases hpending : p.pendingNewSession with
  | none => exact h
  | some key => exact MmpPeerState.of_reset h (hfree (hpending ▸ rfl))

/-- The K-bit of a frame makes the node cut over. -/
def Flips (kBit : Bool) (p : MeasuredPeer κ) : Prop :=
  kBit ≠ p.currentKBit ∧ p.pendingNewSession.isSome = true

instance (kBit : Bool) (p : MeasuredPeer κ) : Decidable (p.Flips kBit) :=
  inferInstanceAs (Decidable (_ ∧ _))

/-- Following the peer's K-bit does too. -/
theorem measured_followKBit (h : p.Measured) {kBit : Bool}
    (hfree : p.Flips kBit → p.mmp.SpinFree) : (p.followKBit kBit).Measured := by
  unfold followKBit
  split_ifs with hflips
  · obtain ⟨hbit, hpending⟩ := Bool.and_eq_true_iff.mp hflips
    exact measured_promotePending h fun _ => hfree ⟨bne_iff_ne.mp hbit, hpending⟩
  · exact h

/-- **A frame of the current key.** -/
theorem measured_recordFrame (h : p.Measured) (hkey : f.key = p.noiseSession) (hf : f.Reports)
    (now : Nat) : (p.recordFrame now f).1.Measured ∧
      Within p.noiseSession (p.recordFrame now f).2 := by
  have hc : (⟨some f.key, f.counter⟩ : FrameCounter κ).Of p.noiseSession :=
    hkey ▸ FrameCounter.of_some f.key f.counter
  obtain ⟨hmmp, hrecorded⟩ := MmpPeerState.recordFrame_of h hc f.bytes f.ceFlag f.spinBit now
  unfold recordFrame
  cases hreport : f.report with
  | none => exact ⟨hmmp, hrecorded⟩
  | some rr =>
    obtain ⟨hmmp', hreported⟩ := MmpPeerState.handleReceiverReport_of hmmp (hkey ▸ hf rr hreport)
    exact ⟨hmmp', hrecorded.append hreported⟩

/-- What a peer sends reports on its current key. -/
theorem measured_sendFrame (h : p.Measured) (withReport ceFlag : Bool) (bytes : Nat) :
    (p.sendFrame withReport ceFlag bytes).1.Measured ∧
      (p.sendFrame withReport ceFlag bytes).2.Reports := by
  obtain ⟨hreceiver, hreport⟩ := ReceiverState.buildReport_of h.receiver
  unfold sendFrame
  cases withReport with
  | false => exact ⟨⟨h.receiver, h.metrics, h.spinBit⟩, fun _ hnone => by cases hnone⟩
  | true => exact ⟨⟨hreceiver, h.metrics, h.spinBit⟩, hreport⟩

variable [DecidableEq κ]

/-- A frame of the current key keeps the peer measured, and all its comparisons are within one key. -/
theorem measured_receive (h : p.Measured) (hf : f.Reports) (now : Nat)
    (hfree : p.Flips f.kBit → p.mmp.SpinFree)
    (hcurrent : (p.followKBit f.kBit).previousSession = some f.key →
      f.key = (p.followKBit f.kBit).noiseSession) :
    (p.handleEncryptedFrame now f).1.Measured ∧
      ∃ k, Within k (p.handleEncryptedFrame now f).2 := by
  have hfollowed := measured_followKBit h hfree
  unfold handleEncryptedFrame
  dsimp only
  split_ifs with hkey hprevious
  · exact (measured_recordFrame hfollowed hkey hf now).imp_right fun hwithin => ⟨_, hwithin⟩
  · exact absurd (hcurrent hprevious) hkey
  · exact ⟨hfollowed, _, within_nil (p.followKBit f.kBit).noiseSession⟩

end MeasuredPeer

namespace MeasuredLink

variable {s : MeasuredLink κ}

/-- Each end has measured frames of its current key, frames report counters of their key, and no
comparison so far mixed keys. -/
structure Unmixed (s : MeasuredLink κ) : Prop where
  measured : ∀ e, (s.peer e).Measured
  reports : ∀ e, ∀ f ∈ s.inFlight e, f.Reports
  compared : ∀ c ∈ s.compared, ¬c.Mixes

/-- One end may move as long as it stays measured. -/
theorem Unmixed.setPeer (h : s.Unmixed) (e : LinkEnd) {p : MeasuredPeer κ} (hp : p.Measured) :
    (s.setPeer e p).Unmixed := by
  refine ⟨fun e' => ?_, h.reports, h.compared⟩
  change (Function.update s.peer e p e').Measured
  by_cases he : e' = e
  · subst he
    rw [Function.update_self]
    exact hp
  · rw [Function.update_of_ne he]
    exact h.measured e'

/-- Frames may be lost, and added if they report on their own key. -/
theorem Unmixed.setInFlight (h : s.Unmixed) (e : LinkEnd) {fs : List (SealedFrame κ)}
    (hfs : ∀ f ∈ fs, f.Reports) :
    Unmixed { s with inFlight := Function.update s.inFlight e fs } := by
  refine ⟨h.measured, fun e' => ?_, h.compared⟩
  change ∀ f ∈ Function.update s.inFlight e fs e', f.Reports
  by_cases he : e' = e
  · subst he
    rw [Function.update_self]
    exact hfs
  · rw [Function.update_of_ne he]
    exact h.reports e'

/-- A link that has just been made. -/
theorem unmixed_connected (key : κ) : (connected key).Unmixed :=
  ⟨fun _ => MmpPeerState.of_new key _, fun _ => List.forall_mem_nil _, List.forall_mem_nil _⟩

/-- No frame is opened by a session that was cut over from, and where a node cuts over its spin bit
is free. -/
def Keeps (s : MeasuredLink κ) : LinkMove κ → Prop
  | .cutover e => (s.peer e).pendingNewSession.isSome = true → (s.peer e).mmp.SpinFree
  | .deliver e i _ => ∀ f ∈ (s.inFlight e)[i]?,
      ((s.peer e).Flips f.kBit → (s.peer e).mmp.SpinFree) ∧
      (((s.peer e).followKBit f.kBit).previousSession = some f.key →
        f.key = ((s.peer e).followKBit f.kBit).noiseSession)
  | .forge e kBit => (s.peer e).Flips kBit → (s.peer e).mmp.SpinFree
  | _ => True

variable [DecidableEq κ]

/-- A frame may arrive at any time, under the conditions of `Keeps`. -/
theorem unmixed_deliver (h : s.Unmixed) (e : LinkEnd) (i now : Nat)
    (hkeeps : s.Keeps (.deliver e i now)) : (s.deliver e i now).Unmixed := by
  unfold deliver
  cases hi : (s.inFlight e)[i]? with
  | none => exact h
  | some f =>
    obtain ⟨hfree, hcurrent⟩ := hkeeps f hi
    have hf := h.reports e f (List.mem_of_getElem? hi)
    obtain ⟨hmeasured, k, hwithin⟩ :=
      MeasuredPeer.measured_receive (h.measured e) hf now hfree hcurrent
    have hrest : ∀ g ∈ (s.inFlight e).eraseIdx i, g.Reports :=
      fun g hg => h.reports e g (List.mem_of_mem_eraseIdx hg)
    have hset := (h.setPeer e hmeasured).setInFlight e hrest
    exact ⟨hset.measured, hset.reports, List.forall_mem_append.mpr ⟨h.compared, hwithin.not_mixes⟩⟩

/-- **The step lemma.** -/
theorem unmixed_step (h : s.Unmixed) (move : LinkMove κ) (hkeeps : s.Keeps move) :
    (s.step move).Unmixed := by
  cases move with
  | setPendingSession e key => exact h.setPeer e (h.measured e)
  | cutover e => exact h.setPeer e (MeasuredPeer.measured_promotePending (h.measured e) hkeeps)
  | completeDrain e => exact h.setPeer e (h.measured e)
  | send e withReport ceFlag bytes =>
    obtain ⟨hmeasured, hreports⟩ :=
      MeasuredPeer.measured_sendFrame (h.measured e) withReport ceFlag bytes
    refine (h.setPeer e hmeasured).setInFlight e.other ?_
    exact List.forall_mem_append.mpr ⟨h.reports e.other, List.forall_mem_singleton.mpr hreports⟩
  | deliver e i now => exact unmixed_deliver h e i now hkeeps
  | lose e i =>
    exact h.setInFlight e fun g hg => h.reports e g (List.mem_of_mem_eraseIdx hg)
  | forge e kBit => exact h.setPeer e (MeasuredPeer.measured_followKBit (h.measured e) hkeeps)

/-- **Epochs do not mix** in a run that keeps to the current key. -/
theorem unmixed_of_keeps (key : κ) (moves : List (LinkMove κ))
    (h : Along step Keeps (connected key) moves) :
    Always step (fun s => ∀ c ∈ s.compared, ¬c.Mixes) (connected key) moves := by
  have hall : Always step Unmixed (connected key) moves :=
    .of_along (fun _ move hs hkeeps => unmixed_step hs move hkeeps) (unmixed_connected key) h
  exact hall.mono fun _ hs => hs.compared

end MeasuredLink

end Link

namespace Sample

/-- Both ends agree on the second key, and the initiator cuts over to it. -/
def rekey : List (LinkMove Nat) :=
  [.setPendingSession .responder 1, .setPendingSession .initiator 1, .cutover .initiator]

/-- A data frame of 100 bytes, without a report and without a mark. -/
def sendPlain (e : LinkEnd) : LinkMove Nat := .send e false false 100

end Sample

open Sample in
/-- A frame of each key in order, and a report of the responder. -/
theorem unmixed_of_keeps_rekey :
    Along MeasuredLink.step MeasuredLink.Keeps (.connected 0)
        ([sendPlain .initiator, .deliver .responder 0 0] ++ rekey ++
          [sendPlain .initiator, .deliver .responder 0 1, .send .responder true false 100,
            .deliver .initiator 0 2]) ∧
      Always MeasuredLink.step (fun s => ∀ c ∈ s.compared, ¬c.Mixes) (.connected 0)
        ([sendPlain .initiator, .deliver .responder 0 0] ++ rekey ++
          [sendPlain .initiator, .deliver .responder 0 1, .send .responder true false 100,
            .deliver .initiator 0 2]) := by
  have hkeeps : Along MeasuredLink.step MeasuredLink.Keeps (.connected 0)
      ([sendPlain .initiator, .deliver .responder 0 0] ++ rekey ++
        [sendPlain .initiator, .deliver .responder 0 1, .send .responder true false 100,
          .deliver .initiator 0 2]) := by
    refine ⟨trivial, ?_, trivial, trivial, ?_, trivial, ?_, trivial, ?_, trivial⟩
    · intro f hf
      cases hf
      decide
    · intro _
      decide
    · intro f hf
      cases hf
      decide
    · intro f hf
      cases hf
      decide
  exact ⟨hkeeps, MeasuredLink.unmixed_of_keeps 0 _ hkeeps⟩

open Sample in
/-- A frame of the first key that arrives after one of the second is out of order for the receiver:
its counter is behind the counter of the other key, or ahead of it. -/
theorem late_frame_mixes :
    ¬Always MeasuredLink.step (fun s => ∀ c ∈ s.compared, ¬c.Mixes) (.connected 0)
      ([sendPlain .initiator, sendPlain .initiator] ++ rekey ++
        [sendPlain .initiator, .deliver .responder 2 0, .deliver .responder 1 1]) := by
  intro h
  refine h.exec ⟨⟨some 0, 1⟩, ⟨some 1, 0⟩⟩ (by decide) ⟨0, 1, rfl, rfl, by decide⟩

end Fips
