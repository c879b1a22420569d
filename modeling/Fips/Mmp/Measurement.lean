import Mathlib.Algebra.Group.Nat.Defs
import Mathlib.Data.List.Basic

/-!
# Measurements of a link

Model of `mmp/receiver.rs`, `mmp/metrics.rs`, the spin bit of `mmp/algorithms.rs` and their
combination in `mmp/mod.rs`, as far as frame counters go into them. What is measured on clocks (the
jitter, the delay trend, the RTT, the goodput) reads no counter and is left out, and so is the
sender's side, which counts without comparing; a delivery ratio is kept as the fraction it is
computed from.

A counter carries the key of the frame that it was the nonce of, and each function says which
counters it compared or subtracted. The key is no part of the code: nothing is decided by it.
-/

namespace Fips

/-- A `u64` that counts frames; a constant of the code belongs to no key. -/
structure FrameCounter (κ : Type) where
  key : Option κ
  value : Nat
  deriving DecidableEq, Repr

namespace FrameCounter

/-- A counter before the first frame, of no key yet. -/
def zero {κ : Type} : FrameCounter κ := ⟨none, 0⟩

/-- One frame more of the same key. -/
def succ {κ : Type} (c : FrameCounter κ) : FrameCounter κ := { c with value := c.value + 1 }

end FrameCounter

/-- Two counters of which one was compared with the other or subtracted from it. -/
structure Comparison (κ : Type) where
  left : FrameCounter κ
  right : FrameCounter κ
  deriving DecidableEq, Repr

variable {κ : Type}

/-! ## Bursts of loss -/

/-- `receiver::GapTracker`. -/
structure GapTracker (κ : Type) where
  expectedNext : Option (FrameCounter κ)
  inBurst : Bool
  currentBurstLen : Nat
  burstCount : Nat
  maxBurstLen : Nat
  totalBurstLen : Nat
  deriving DecidableEq, Repr

namespace GapTracker

/-- `GapTracker::new`. -/
def new : GapTracker κ := ⟨none, false, 0, 0, 0, 0⟩

/-- `finish_burst`. -/
def finishBurst (g : GapTracker κ) : GapTracker κ :=
  if g.inBurst then
    { g with
      maxBurstLen := max g.maxBurstLen g.currentBurstLen
      totalBurstLen := g.totalBurstLen + g.currentBurstLen
      inBurst := false
      currentBurstLen := 0 }
  else g

/-- A gap, whose length is cut to a `u16`. -/
def gap (len : Nat) (g : GapTracker κ) : GapTracker κ :=
  if g.inBurst then
    { g with currentBurstLen := min (g.currentBurstLen + len % 2 ^ 16) (2 ^ 16 - 1) }
  else
    { g with
      inBurst := true
      currentBurstLen := len % 2 ^ 16
      burstCount := g.burstCount + 1 }

/-- `observe`; the number of lost frames, which its caller drops, is that of the gap. -/
def observe (counter : FrameCounter κ) (g : GapTracker κ) : GapTracker κ × List (Comparison κ) :=
  match g.expectedNext with
  | none => ({ g with expectedNext := some counter.succ }, [])
  | some expected =>
    let g :=
      if expected.value < counter.value then g.gap (counter.value - expected.value)
      else g.finishBurst
    let next := if expected.value ≤ counter.value then counter.succ else expected
    ({ g with expectedNext := some next }, [⟨counter, expected⟩])

/-- `take_interval_stats`, without the mean, which is computed in floating point. -/
def takeIntervalStats (g : GapTracker κ) : GapTracker κ × Nat × Nat :=
  let g := g.finishBurst
  ({ g with burstCount := 0, maxBurstLen := 0, totalBurstLen := 0 }, g.burstCount, g.maxBurstLen)

end GapTracker

/-! ## The receiver -/

/-- `report::ReceiverReport`, of what the modelled fields give. -/
structure CounterReport (κ : Type) where
  highestCounter : FrameCounter κ
  cumulativePacketsRecv : Nat
  cumulativeBytesRecv : Nat
  maxBurstLoss : Nat
  ecnCeCount : Nat
  burstLossCount : Nat
  cumulativeReorderCount : Nat
  intervalPacketsRecv : Nat
  intervalBytesRecv : Nat
  deriving DecidableEq, Repr

/-- `receiver::ReceiverState`. -/
structure ReceiverState (κ : Type) where
  cumulativePacketsRecv : Nat
  cumulativeBytesRecv : Nat
  cumulativeReorderCount : Nat
  highestCounter : FrameCounter κ
  intervalPacketsRecv : Nat
  intervalBytesRecv : Nat
  gapTracker : GapTracker κ
  ecnCeCount : Nat
  intervalHasData : Bool
  deriving DecidableEq, Repr

namespace ReceiverState

/-- `ReceiverState::new`. -/
def new : ReceiverState κ := ⟨0, 0, 0, .zero, 0, 0, .new, 0, false⟩

/-- `reset_for_rekey`. -/
def resetForRekey (r : ReceiverState κ) : ReceiverState κ :=
  { r with
    highestCounter := .zero
    cumulativeReorderCount := 0
    gapTracker := .new
    intervalPacketsRecv := 0
    intervalBytesRecv := 0
    ecnCeCount := 0
    intervalHasData := false }

/-- `record_recv`. -/
def recordRecv (counter : FrameCounter κ) (bytes : Nat) (ceFlag : Bool) (r : ReceiverState κ) :
    ReceiverState κ × List (Comparison κ) :=
  let reordered := decide (counter.value < r.highestCounter.value)
  let (gapTracker, compared) := r.gapTracker.observe counter
  ({ r with
      intervalHasData := true
      cumulativePacketsRecv := r.cumulativePacketsRecv + 1
      cumulativeBytesRecv := r.cumulativeBytesRecv + bytes
      intervalPacketsRecv := min (r.intervalPacketsRecv + 1) (2 ^ 32 - 1)
      intervalBytesRecv := min (r.intervalBytesRecv + bytes % 2 ^ 32) (2 ^ 32 - 1)
      cumulativeReorderCount := r.cumulativeReorderCount + if reordered then 1 else 0
      highestCounter := if reordered then r.highestCounter else counter
      gapTracker := gapTracker
      ecnCeCount := if ceFlag then min (r.ecnCeCount + 1) (2 ^ 32 - 1) else r.ecnCeCount },
    ⟨counter, r.highestCounter⟩ :: compared)

/-- `build_report`. -/
def buildReport (r : ReceiverState κ) : ReceiverState κ × Option (CounterReport κ) :=
  if !r.intervalHasData then (r, none)
  else
    let (gapTracker, burstCount, maxBurst) := r.gapTracker.takeIntervalStats
    ({ r with
        gapTracker := gapTracker
        intervalPacketsRecv := 0
        intervalBytesRecv := 0
        intervalHasData := false },
      some {
        highestCounter := r.highestCounter
        cumulativePacketsRecv := r.cumulativePacketsRecv
        cumulativeBytesRecv := r.cumulativeBytesRecv
        maxBurstLoss := maxBurst
        ecnCeCount := r.ecnCeCount
        burstLossCount := burstCount
        cumulativeReorderCount := r.cumulativeReorderCount % 2 ^ 32
        intervalPacketsRecv := r.intervalPacketsRecv
        intervalBytesRecv := r.intervalBytesRecv })

end ReceiverState

/-! ## Metrics -/

/-- The fraction of the frames of a span that arrived, before it is clamped to `[0, 1]`. -/
structure DeliveryRatio where
  packetsDelta : Nat
  counterSpan : Nat
  deriving DecidableEq, Repr

/-- `metrics::MmpMetrics`. -/
structure MmpMetrics (κ : Type) where
  deliveryRatioForward : DeliveryRatio
  deliveryRatioReverse : DeliveryRatio
  prevRrCumPackets : Nat
  prevRrCumBytes : Nat
  prevRrHighestCounter : FrameCounter κ
  prevRrEcnCe : Nat
  prevRrReorder : Nat
  hasPrevRr : Bool
  prevReversePackets : Nat
  prevReverseHighest : FrameCounter κ
  hasPrevReverse : Bool
  deriving DecidableEq, Repr

namespace MmpMetrics

/-- `MmpMetrics::new`: until a report says otherwise, every frame arrives. -/
def new : MmpMetrics κ := ⟨⟨1, 1⟩, ⟨1, 1⟩, 0, 0, .zero, 0, 0, false, 0, .zero, false⟩

/-- `reset_for_rekey`. -/
def resetForRekey (m : MmpMetrics κ) : MmpMetrics κ :=
  { m with
    prevRrCumPackets := 0
    prevRrCumBytes := 0
    prevRrHighestCounter := .zero
    prevRrEcnCe := 0
    prevRrReorder := 0
    hasPrevRr := false
    deliveryRatioForward := ⟨1, 1⟩
    prevReversePackets := 0
    prevReverseHighest := .zero
    hasPrevReverse := false }

/-- The ratio of an interval, from the two differences. -/
def ratioOf (packets prevPackets : Nat) (highest prevHighest : FrameCounter κ)
    (ratio : DeliveryRatio) : DeliveryRatio :=
  let counterSpan := highest.value - prevHighest.value
  if 0 < counterSpan then ⟨packets - prevPackets, counterSpan⟩ else ratio

/-- `process_receiver_report`. -/
def processReceiverReport (rr : CounterReport κ) (m : MmpMetrics κ) :
    MmpMetrics κ × List (Comparison κ) :=
  ({ m with
      deliveryRatioForward :=
        if m.hasPrevRr then
          ratioOf rr.cumulativePacketsRecv m.prevRrCumPackets rr.highestCounter
            m.prevRrHighestCounter m.deliveryRatioForward
        else m.deliveryRatioForward
      prevRrCumPackets := rr.cumulativePacketsRecv
      prevRrCumBytes := rr.cumulativeBytesRecv
      prevRrHighestCounter := rr.highestCounter
      prevRrEcnCe := rr.ecnCeCount
      prevRrReorder := rr.cumulativeReorderCount
      hasPrevRr := true },
    if m.hasPrevRr then [⟨rr.highestCounter, m.prevRrHighestCounter⟩] else [])

/-- `update_reverse_delivery`. -/
def updateReverseDelivery (ourRecvPackets : Nat) (peerHighest : FrameCounter κ) (m : MmpMetrics κ) :
    MmpMetrics κ × List (Comparison κ) :=
  ({ m with
      deliveryRatioReverse :=
        if m.hasPrevReverse then
          ratioOf ourRecvPackets m.prevReversePackets peerHighest m.prevReverseHighest
            m.deliveryRatioReverse
        else m.deliveryRatioReverse
      prevReversePackets := ourRecvPackets
      prevReverseHighest := peerHighest
      hasPrevReverse := true },
    if m.hasPrevReverse then [⟨peerHighest, m.prevReverseHighest⟩] else [])

end MmpMetrics

/-! ## The spin bit -/

/-- `algorithms::SpinBitState`. -/
structure SpinBitState (κ : Type) where
  isInitiator : Bool
  currentValue : Bool
  highestCounterForSpin : FrameCounter κ
  lastEdgeTime : Option Nat
  deriving DecidableEq, Repr

namespace SpinBitState

/-- `SpinBitState::new`. -/
def new (isInitiator : Bool) : SpinBitState κ := ⟨isInitiator, false, .zero, none⟩

/-- `SpinBitState::tx_bit`. -/
def txBit (s : SpinBitState κ) : Bool := s.currentValue

/-- `rx_observe`; the RTT sample is dropped by its callers. -/
def rxObserve (receivedBit : Bool) (counter : FrameCounter κ) (now : Nat) (s : SpinBitState κ) :
    SpinBitState κ × List (Comparison κ) :=
  if s.isInitiator then
    if receivedBit = s.currentValue then
      ({ s with lastEdgeTime := some now, currentValue := !s.currentValue }, [])
    else (s, [])
  else if s.highestCounterForSpin.value < counter.value then
    ({ s with highestCounterForSpin := counter, currentValue := receivedBit },
      [⟨counter, s.highestCounterForSpin⟩])
  else (s, [⟨counter, s.highestCounterForSpin⟩])

end SpinBitState

/-! ## A peer -/

/-- `mmp::MmpPeerState`. -/
structure MmpPeerState (κ : Type) where
  receiver : ReceiverState κ
  metrics : MmpMetrics κ
  spinBit : SpinBitState κ
  deriving DecidableEq, Repr

namespace MmpPeerState

/-- `MmpPeerState::new`. -/
def new (isInitiator : Bool) : MmpPeerState κ := ⟨.new, .new, .new isInitiator⟩

/-- `reset_for_rekey`. -/
def resetForRekey (mmp : MmpPeerState κ) : MmpPeerState κ :=
  { mmp with
    receiver := mmp.receiver.resetForRekey
    metrics := mmp.metrics.resetForRekey }

/-- `encrypted.rs:148-157`: an authentic frame. -/
def recordFrame (counter : FrameCounter κ) (bytes : Nat) (ceFlag spFlag : Bool) (now : Nat)
    (mmp : MmpPeerState κ) : MmpPeerState κ × List (Comparison κ) :=
  let (receiver, received) := mmp.receiver.recordRecv counter bytes ceFlag
  let (spinBit, observed) := mmp.spinBit.rxObserve spFlag counter now
  ({ mmp with receiver := receiver, spinBit := spinBit }, received ++ observed)

/-- The counters of `handle_receiver_report`. -/
def handleReceiverReport (rr : CounterReport κ) (mmp : MmpPeerState κ) :
    MmpPeerState κ × List (Comparison κ) :=
  let (metrics, forward) := mmp.metrics.processReceiverReport rr
  let (metrics, reverse) := metrics.updateReverseDelivery mmp.receiver.cumulativePacketsRecv
    mmp.receiver.highestCounter
  ({ mmp with metrics := metrics }, forward ++ reverse)

end MmpPeerState

end Fips
