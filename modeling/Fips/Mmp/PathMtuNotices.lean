import Fips.Mmp.PathMtu

/-!
# Path MTU of a session, at its destination

Model of the destination side of `PathMtuState` (`mmp/mod.rs:377-415`): it observes the `path_mtu` of
incoming datagrams and notifies the other end. One struct holds both sides. `current_mtu` belongs to
the source side and limits the datagrams sent the other way, yet it is what
`should_send_notification` compares an observed value with.

A history lists the calls of both sides, the newest first.

## Results

* `follows_after`: after a notification, a value that has not changed is the one that was sent.
* `notifiesOnDecrease_iff`: the destination tells a decrease from other changes exactly when it does
  not matter which value it compares with.
-/

namespace Fips

/-- `PathMtuState` with the fields of the destination side. -/
structure PathMtuRoles extends PathMtuState where
  lastObservedMtu : Nat
  observedChanged : Bool
  lastNotificationTime : Option Nat
  deriving DecidableEq, Repr

/-- A call of either side; the `path_mtu` of a datagram is a `u16`. -/
inductive PathMtuRoleCall
  | source (c : PathMtuCall)
  | observeIncomingMtu (pathMtu : UInt16)
  | buildNotification (now : Nat)
  deriving DecidableEq, Repr

namespace PathMtuRoles

/-- `PathMtuState::new`, both roles. -/
def new : PathMtuRoles := { PathMtuState.new with
  lastObservedMtu := 65535
  observedChanged := false
  lastNotificationTime := none }

/-- `observe_incoming_mtu`. -/
def observeIncomingMtu (s : PathMtuRoles) (pathMtu : Nat) : PathMtuRoles :=
  if pathMtu ≠ s.lastObservedMtu then
    { s with observedChanged := true, lastObservedMtu := pathMtu }
  else s

/-- `should_send_notification`. A decrease is told by the value of the own sending direction. -/
def shouldSendNotification (s : PathMtuRoles) (now : Nat) : Bool :=
  if s.lastObservedMtu = 65535 then false
  else
    match s.lastNotificationTime with
    | none => true
    | some last =>
      if s.observedChanged ∧ s.lastObservedMtu < s.currentMtu then true
      else decide (s.notificationInterval ≤ now - last)

/-- `build_notification`. -/
def buildNotification (s : PathMtuRoles) (now : Nat) : PathMtuRoles × Option Nat :=
  if s.lastObservedMtu = 65535 then (s, none)
  else ({ s with lastNotificationTime := some now, observedChanged := false },
    some s.lastObservedMtu)

/-- The state after a call. -/
def step (s : PathMtuRoles) : PathMtuRoleCall → PathMtuRoles
  | .source c => { s with toPathMtuState := s.toPathMtuState.step c }
  | .observeIncomingMtu pathMtu => s.observeIncomingMtu pathMtu.toNat
  | .buildNotification now => (s.buildNotification now).1

/-! ## Histories -/

/-- The state after a history, the newest call first. -/
def after : List PathMtuRoleCall → PathMtuRoles
  | [] => new
  | c :: past => (after past).step c

/-- The value of the last notification that was built, and its time. -/
def lastSent : List PathMtuRoleCall → Option (Nat × Nat)
  | [] => none
  | .buildNotification now :: past =>
    match ((after past).buildNotification now).2 with
    | some mtu => some (mtu, now)
    | none => lastSent past
  | _ :: past => lastSent past

/-- **The rule of the destination**: a notification is due at once where the observed value is lower
than the one last sent, and otherwise only at the interval. -/
def NotifiesOnDecrease (past : List PathMtuRoleCall) (now : Nat) : Prop :=
  ∀ sent t, lastSent past = some (sent, t) →
    ((after past).lastObservedMtu < sent → (after past).shouldSendNotification now = true) ∧
    (¬ (after past).lastObservedMtu < sent → (after past).shouldSendNotification now = true →
      (after past).notificationInterval ≤ now - t)

/-- What the two fields say of the last notification: its time, and that an unchanged value is the
one it carried. -/
structure Follows (s : PathMtuRoles) (sent : Option (Nat × Nat)) : Prop where
  bound : s.lastObservedMtu ≤ 65535
  time : s.lastNotificationTime = sent.map Prod.snd
  value : ∀ p ∈ sent, p.1 < 65535 ∧ (s.observedChanged = false → s.lastObservedMtu = p.1)

theorem follows_new : Follows new none :=
  ⟨Nat.le_refl _, rfl, fun _ hp => by cases hp⟩

variable {s : PathMtuRoles} {sent : Option (Nat × Nat)} {past : List PathMtuRoleCall}

theorem Follows.observe (h : s.Follows sent) (pathMtu : UInt16) :
    (s.observeIncomingMtu pathMtu.toNat).Follows sent := by
  unfold observeIncomingMtu
  split_ifs with hchanged
  · refine ⟨Nat.le_of_lt_succ pathMtu.toNat_lt, h.time, fun p hp => ⟨(h.value p hp).1, ?_⟩⟩
    intro hsame
    cases hsame
  · exact h

/-- The fields follow the history. -/
theorem follows_after (past : List PathMtuRoleCall) : (after past).Follows (lastSent past) := by
  induction past with
  | nil => exact follows_new
  | cons c past ih =>
    cases c with
    | source c => exact ⟨ih.bound, ih.time, ih.value⟩
    | observeIncomingMtu pathMtu => exact ih.observe pathMtu
    | buildNotification now =>
      rw [after, step, lastSent, buildNotification]
      split_ifs with hmax
      · exact ih
      · refine ⟨ih.bound, rfl, fun p hp => ?_⟩
        obtain rfl := Option.some.inj hp
        exact ⟨Nat.lt_of_le_of_ne ih.bound hmax, fun _ => rfl⟩

/-- What the node sees when a notification went out at `t` and the value is known. -/
theorem shouldSendNotification_iff {t now : Nat} (htime : s.lastNotificationTime = some t) :
    s.shouldSendNotification now = true ↔ s.lastObservedMtu ≠ 65535 ∧
      (s.observedChanged = true ∧ s.lastObservedMtu < s.currentMtu ∨
        s.notificationInterval ≤ now - t) := by
  unfold shouldSendNotification
  rw [htime]
  split_ifs with hmax hlower
  · simp [hmax]
  · simp [hmax, hlower]
  · simp [hmax, hlower]

/-- **When the rule holds**: the interval has passed, nothing is observed, nothing changed since the
last notification, or the observed value is on the same side of the value that was sent and of
`current_mtu`. -/
theorem notifiesOnDecrease_iff (past : List PathMtuRoleCall) (now : Nat) :
    NotifiesOnDecrease past now ↔ ∀ sent t, lastSent past = some (sent, t) →
      (after past).notificationInterval ≤ now - t ∨ (after past).lastObservedMtu = 65535 ∨
      (after past).observedChanged = false ∨
      ((after past).lastObservedMtu < sent ↔
        (after past).lastObservedMtu < (after past).currentMtu) := by
  have hfollows := follows_after past
  refine forall_congr' fun sent => forall_congr' fun t => imp_congr_right fun hsent => ?_
  rw [hsent] at hfollows
  obtain ⟨-, htime, hvalue⟩ := hfollows
  obtain ⟨hbound, hsame⟩ := hvalue _ rfl
  rw [shouldSendNotification_iff htime]
  by_cases hinterval : (after past).notificationInterval ≤ now - t
  · refine ⟨fun _ => .inl hinterval, fun _ => ⟨fun hlower => ?_, fun _ _ => hinterval⟩⟩
    exact ⟨by omega, .inr hinterval⟩
  cases hchanged : (after past).observedChanged with
  | false =>
    refine ⟨fun _ => .inr (.inr (.inl rfl)), fun _ => ⟨fun hlower => ?_, fun _ hshould => ?_⟩⟩
    · exact absurd (hsame hchanged) (Nat.ne_of_lt hlower)
    · exact absurd hshould.2 (by simp [hinterval])
  | true =>
    by_cases hmax : (after past).lastObservedMtu = 65535
    · refine ⟨fun _ => .inr (.inl hmax), fun _ => ⟨fun hlower => ?_, fun _ hshould => ?_⟩⟩
      · omega
      · exact absurd hmax hshould.1
    -- here the notification is due exactly when the value is below `current_mtu`
    · simp only [hmax, hinterval, ne_eq, not_false_eq_true, true_and, or_false, false_or,
        reduceCtorEq, imp_false]
      exact ⟨fun h => ⟨h.1, fun hcurrent => by_contra fun hnot => h.2 hnot hcurrent⟩,
        fun h => ⟨h.1, fun hnot hcurrent => hnot (h.2 hcurrent)⟩⟩

namespace Sample

/-- This node's own path is narrow; a notification of 1400 went out, and 1300 is observed. -/
def narrowReturn : List PathMtuRoleCall :=
  [.observeIncomingMtu 1300, .buildNotification 0, .observeIncomingMtu 1400,
    .source (.seedSourceMtu 1280)]

/-- A notification of 1400 went out, and 1450 is observed. -/
def widened : List PathMtuRoleCall :=
  [.observeIncomingMtu 1450, .buildNotification 0, .observeIncomingMtu 1400]

end Sample

open PathMtuRoles.Sample in
/-- A decrease waits for the interval where the node's own path is narrower still, and an increase
does not wait for it. -/
theorem own_path_delays_notification :
    ((after narrowReturn).shouldSendNotification (fromSecs 1) = false ∧
      lastSent narrowReturn = some (1400, 0) ∧ (after narrowReturn).lastObservedMtu = 1300 ∧
      ¬ NotifiesOnDecrease narrowReturn (fromSecs 1)) ∧
    (after widened).shouldSendNotification (fromSecs 1) = true ∧
      ¬ NotifiesOnDecrease widened (fromSecs 1) := by
  refine ⟨⟨by decide, by decide, by decide, fun h => ?_⟩, by decide, fun h => ?_⟩
  · exact absurd ((h 1400 0 (by decide)).1 (by decide)) (by decide)
  · exact absurd ((h 1400 0 (by decide)).2 (by decide) (by decide)) (by decide)

end PathMtuRoles

end Fips
