import Mathlib.Order.Basic

/-!
# Maps whose entries expire

What a bounded map with a time to live is for, from its history of calls: an insertion stores a
value until a deadline, a touch that comes in time moves the deadline, and a removal, a purge of
expired entries or an eviction by another insertion ends the life of an entry. Histories are listed
newest first. Deadlines saturate at `limit`, and a touch grants `touchTtl`.

## Results

* `replay_of_survives`, `replay_of_not_survives`: what is stored for a key after its last insertion.
* `replay_valid_iff`: a value is found at a time exactly when it was inserted last, its entry has
  survived, and the time is not past the last refreshed deadline.
-/

namespace TtlMap

variable {κ α : Type*}

/-! ## Histories -/

/-- A stored value, its last use, and the last instant at which it is valid. -/
structure Record (α : Type*) where
  value : α
  lastUse : Nat
  expiry : Nat

/-- A call on a map whose entries expire. -/
inductive Call (κ α : Type*)
  | insert (k : κ) (v : α) (now ttl : Nat)
  | touch (k : κ) (now : Nat)
  | remove (k : κ)
  | purge (now : Nat)

/-- A removal reads no clock. -/
def Call.time : Call κ α → Option Nat
  | .insert _ _ now _ => some now
  | .touch _ now => some now
  | .remove _ => none
  | .purge now => some now

/-- A call, with the key that it evicted. -/
structure Event (κ α : Type*) where
  call : Call κ α
  evicted : Option κ

/-- Every call of the history was made at or before `t`. -/
def Before (t : Nat) (h : List (Event κ α)) : Prop := ∀ e ∈ h, ∀ t' ∈ e.call.time, t' ≤ t

instance (t : Nat) (h : List (Event κ α)) : Decidable (Before t h) := by
  unfold Before
  infer_instance

/-- The times of the calls do not decrease. -/
def Ordered : List (Event κ α) → Prop
  | [] => True
  | e :: earlier => (∀ t ∈ e.call.time, Before t earlier) ∧ Ordered earlier

instance decidableOrdered : (h : List (Event κ α)) → Decidable (Ordered h)
  | [] => .isTrue trivial
  | e :: earlier =>
    have := decidableOrdered earlier
    inferInstanceAs (Decidable ((∀ t ∈ e.call.time, Before t earlier) ∧ Ordered earlier))

/-- The deadline of an entry granted `ttl`. -/
def deadline (limit now ttl : Nat) : Nat := min (now + ttl) limit

section Replay

variable [DecidableEq κ] (limit touchTtl : Nat)

/-- What an event does to the stored records. -/
def Event.apply (e : Event κ α) (m : κ → Option (Record α)) (j : κ) : Option (Record α) :=
  match e.call with
  | .insert k v now ttl =>
    if j = k then some ⟨v, now, deadline limit now ttl⟩
    else if e.evicted = some j then none
    else m j
  | .touch k now =>
    if j = k then (m j).bind fun r =>
      if r.expiry < now then none else some ⟨r.value, now, deadline limit now touchTtl⟩
    else m j
  | .remove k => if j = k then none else m j
  | .purge now => (m j).bind fun r => if r.expiry < now then none else some r

/-- The records after a history that starts with an empty map. -/
def replay : List (Event κ α) → κ → Option (Record α)
  | [] => fun _ => none
  | e :: earlier => e.apply limit touchTtl (replay earlier)

/-! ## Evictions -/

/-- `j` may be evicted at `now`: it has expired, or nothing has and no entry was used longer ago. -/
def Victim (m : κ → Option (Record α)) (now : Nat) (j : κ) : Prop :=
  ∃ r, m j = some r ∧
    (r.expiry < now ∨ ∀ j' r', m j' = some r' → ¬ r'.expiry < now ∧ r.lastUse ≤ r'.lastUse)

/-! ## The life of an entry -/

/-- The record of `k` a while after the insertion that stored `r`: a touch moves the deadline
unless it comes too late. -/
def refreshed (k : κ) (r : Record α) : List (Event κ α) → Record α
  | [] => r
  | e :: since =>
    match e.call with
    | .touch j now =>
      if j = k ∧ now ≤ (refreshed k r since).expiry then
        ⟨(refreshed k r since).value, now, deadline limit now touchTtl⟩
      else refreshed k r since
    | _ => refreshed k r since

/-- The event ends the life of the entry `r` of `k`. -/
inductive Ends (k : κ) (r : Record α) : Event κ α → Prop
  | removed (evicted : Option κ) : Ends k r ⟨.remove k, evicted⟩
  | evicted (j : κ) (v : α) (now ttl : Nat) : Ends k r ⟨.insert j v now ttl, some k⟩
  | purged (now : Nat) (evicted : Option κ) (expired : r.expiry < now) :
      Ends k r ⟨.purge now, evicted⟩

/-- Nothing that happened since ended the life of `k`'s entry. -/
def Survives (k : κ) (r : Record α) (since : List (Event κ α)) : Prop :=
  ∀ e s, e :: s <:+ since → ¬ Ends k (refreshed limit touchTtl k r s) e

/-- The event puts an entry under `k`. -/
def Inserts (k : κ) (e : Event κ α) : Prop := ∃ v now ttl, e.call = .insert k v now ttl

/-- The last insertion of `k` in a history stored `r`, and `since` is what came after it. -/
def LastInserted (k : κ) (h since : List (Event κ α)) (r : Record α) : Prop :=
  ∃ v now ttl evicted earlier, h = since ++ ⟨.insert k v now ttl, evicted⟩ :: earlier ∧
    r = ⟨v, now, deadline limit now ttl⟩ ∧ ∀ e ∈ since, ¬ Inserts k e

variable {limit touchTtl} {k : κ} {m : κ → Option (Record α)} {r : Record α} {e : Event κ α}
  {h since earlier : List (Event κ α)}

theorem apply_eq_none (hm : m k = none) (he : ¬ Inserts k e) :
    e.apply limit touchTtl m k = none := by
  obtain ⟨call, evicted⟩ := e
  cases call with
  | insert j v now ttl =>
    have hne : k ≠ j := by
      rintro rfl
      exact he ⟨v, now, ttl, rfl⟩
    simp [Event.apply, hne, hm]
  | touch j now => simp [Event.apply, hm]
  | remove j => simp [Event.apply, hm]
  | purge now => simp [Event.apply, hm]

theorem apply_of_ends (he : ¬ Inserts k e) (hm : m k = some r) (hends : Ends k r e) :
    e.apply limit touchTtl m k = none := by
  cases hends with
  | removed evicted => simp [Event.apply]
  | evicted j v now ttl =>
    have hne : k ≠ j := by
      rintro rfl
      exact he ⟨v, now, ttl, rfl⟩
    simp [Event.apply, hne]
  | purged now evicted expired => simp [Event.apply, hm, expired]

/-- An event that does not end the life of an entry refreshes it, or comes too late to. -/
theorem apply_of_not_ends (he : ¬ Inserts k e) (hm : m k = some (refreshed limit touchTtl k r since))
    (hends : ¬ Ends k (refreshed limit touchTtl k r since) e) :
    e.apply limit touchTtl m k = some (refreshed limit touchTtl k r (e :: since)) ∨
      e.apply limit touchTtl m k = none ∧
        ∃ t ∈ e.call.time, (refreshed limit touchTtl k r (e :: since)).expiry < t := by
  obtain ⟨call, evicted⟩ := e
  cases call with
  | insert j v now ttl =>
    have hne : k ≠ j := by
      rintro rfl
      exact he ⟨v, now, ttl, rfl⟩
    have hkept : evicted ≠ some k := by
      rintro rfl
      exact hends (.evicted j v now ttl)
    exact .inl (by simp [Event.apply, refreshed, hne, hkept, hm])
  | touch j now =>
    by_cases hj : j = k
    · subst hj
      by_cases hlate : (refreshed limit touchTtl j r since).expiry < now
      · have hsame : refreshed limit touchTtl j r (⟨.touch j now, evicted⟩ :: since) =
            refreshed limit touchTtl j r since := by
          simp [refreshed, Nat.not_le.mpr hlate]
        refine .inr ⟨by simp [Event.apply, hm, hlate], now, rfl, ?_⟩
        rw [hsame]
        exact hlate
      · refine .inl ?_
        simp [Event.apply, refreshed, hm, hlate, Nat.not_lt.mp hlate]
    · exact .inl (by simp [Event.apply, refreshed, Ne.symm hj, hj, hm])
  | remove j =>
    have hne : k ≠ j := by
      rintro rfl
      exact hends (.removed evicted)
    exact .inl (by simp [Event.apply, refreshed, hne, hm])
  | purge now =>
    have hkept : ¬ (refreshed limit touchTtl k r since).expiry < now := fun hlt =>
      hends (.purged now evicted hlt)
    exact .inl (by simp [Event.apply, refreshed, hm, hkept])

/-- A touch that comes too late moves no deadline. -/
theorem refreshed_of_late {t : Nat} (hlate : (refreshed limit touchTtl k r since).expiry < t)
    (htime : ∀ now ∈ e.call.time, t ≤ now) :
    refreshed limit touchTtl k r (e :: since) = refreshed limit touchTtl k r since := by
  obtain ⟨call, evicted⟩ := e
  cases call with
  | touch j now =>
    have hnow : t ≤ now := htime now rfl
    have hpast : ¬ now ≤ (refreshed limit touchTtl k r since).expiry := by omega
    simp [refreshed, hpast]
  | insert j v now ttl => rfl
  | remove j => rfl
  | purge now => rfl

theorem survives_cons :
    Survives limit touchTtl k r (e :: since) ↔
      Survives limit touchTtl k r since ∧ ¬ Ends k (refreshed limit touchTtl k r since) e := by
  constructor
  · intro hs
    exact ⟨fun e' s hsuffix => hs e' s (hsuffix.trans (List.suffix_cons e since)),
      hs e since List.suffix_rfl⟩
  · rintro ⟨hs, hends⟩ e' s hsuffix
    obtain heq | hsuffix := List.suffix_cons_iff.mp hsuffix
    · obtain ⟨rfl, rfl⟩ := List.cons.inj heq
      exact hends
    · exact hs e' s hsuffix

/-- **While an entry survives**, it is stored with its refreshed deadline, until a touch finds
that it has passed. -/
theorem replay_of_survives (hlast : LastInserted limit k h since r) (hord : Ordered h)
    (hs : Survives limit touchTtl k r since) :
    replay limit touchTtl h k = some (refreshed limit touchTtl k r since) ∨
      replay limit touchTtl h k = none ∧ ∃ e ∈ since, ∃ t ∈ e.call.time,
        (refreshed limit touchTtl k r since).expiry < t := by
  obtain ⟨v, now, ttl, evicted, earlier, rfl, rfl, hno⟩ := hlast
  induction since with
  | nil => exact .inl (by simp [replay, Event.apply, refreshed])
  | cons e since ih =>
    obtain ⟨hbefore, hord⟩ := hord
    obtain ⟨hs, hends⟩ := survives_cons.mp hs
    have he := hno e List.mem_cons_self
    obtain hsome | ⟨hnone, e', he', t, ht, hlate⟩ :=
      ih hord (fun e' he' => hno e' (List.mem_cons_of_mem e he')) hs
    · obtain hkept | ⟨hgone, t, ht, hlate⟩ := apply_of_not_ends he hsome hends
      · exact .inl hkept
      · exact .inr ⟨hgone, e, List.mem_cons_self, t, ht, hlate⟩
    · refine .inr ⟨apply_eq_none hnone he, e', List.mem_cons_of_mem e he', t, ht, ?_⟩
      rw [refreshed_of_late hlate fun now hnow =>
        hbefore now hnow e' (List.mem_append_left _ he') t ht]
      exact hlate

theorem replay_of_not_survives (hlast : LastInserted limit k h since r) (hord : Ordered h)
    (hs : ¬ Survives limit touchTtl k r since) : replay limit touchTtl h k = none := by
  obtain ⟨v, now, ttl, evicted, earlier, rfl, rfl, hno⟩ := hlast
  induction since with
  | nil => exact absurd (fun e s hsuffix => nomatch List.suffix_nil.mp hsuffix) hs
  | cons e since ih =>
    obtain ⟨-, hord⟩ := hord
    have he := hno e List.mem_cons_self
    have hno' : ∀ e' ∈ since, ¬ Inserts k e' := fun e' he' => hno e' (List.mem_cons_of_mem e he')
    by_cases hs' : Survives limit touchTtl k ⟨v, now, deadline limit now ttl⟩ since
    · have hends : Ends k _ e := Classical.byContradiction fun hends =>
        hs (survives_cons.mpr ⟨hs', hends⟩)
      obtain hsome | ⟨hnone, -⟩ := replay_of_survives
        ⟨v, now, ttl, evicted, earlier, rfl, rfl, hno'⟩ hord hs'
      · exact apply_of_ends he hsome hends
      · exact apply_eq_none hnone he
    · exact apply_eq_none (ih hord hno' hs') he

theorem replay_of_not_inserted (hno : ∀ e ∈ h, ¬ Inserts k e) :
    replay limit touchTtl h k = none := by
  induction h with
  | nil => rfl
  | cons e earlier ih =>
    exact apply_eq_none (ih fun e' he' => hno e' (List.mem_cons_of_mem e he'))
      (hno e List.mem_cons_self)

omit [DecidableEq κ] in
theorem exists_lastInserted (limit : Nat) (k : κ) (h : List (Event κ α)) :
    (∀ e ∈ h, ¬ Inserts k e) ∨ ∃ since r, LastInserted limit k h since r := by
  induction h with
  | nil => exact .inl nofun
  | cons e earlier ih =>
    obtain he | he := Classical.em (Inserts k e)
    · obtain ⟨call, evicted⟩ := e
      obtain ⟨v, now, ttl, rfl⟩ := he
      exact .inr ⟨[], _, v, now, ttl, evicted, earlier, rfl, rfl, nofun⟩
    · obtain hno | ⟨since, r, v, now, ttl, evicted, rest, rfl, rfl, hno⟩ := ih
      · exact .inl (List.forall_mem_cons.mpr ⟨he, hno⟩)
      · exact .inr ⟨e :: since, _, v, now, ttl, evicted, rest, rfl, rfl,
          List.forall_mem_cons.mpr ⟨he, hno⟩⟩

/-- A last use is the time of some call. -/
theorem lastUse_mem (hr : replay limit touchTtl h k = some r) :
    ∃ e ∈ h, r.lastUse ∈ e.call.time := by
  induction h generalizing r with
  | nil => cases hr
  | cons e earlier ih =>
    have hkept : ∀ {r' : Record α}, replay limit touchTtl earlier k = some r' → r'.lastUse = r.lastUse →
        ∃ e' ∈ e :: earlier, r.lastUse ∈ e'.call.time := by
      intro r' hr' hsame
      obtain ⟨e', he', htime⟩ := ih hr'
      exact ⟨e', List.mem_cons_of_mem e he', hsame ▸ htime⟩
    obtain ⟨call, evicted⟩ := e
    unfold replay Event.apply at hr
    cases call with
    | insert j v now ttl =>
      simp only at hr
      split_ifs at hr with hj hev
      · obtain rfl := Option.some.inj hr
        exact ⟨_, List.mem_cons_self, rfl⟩
      · exact hkept hr rfl
    | touch j now =>
      simp only at hr
      split_ifs at hr with hj
      · obtain ⟨r', hr', hrest⟩ := Option.bind_eq_some_iff.mp hr
        split_ifs at hrest
        obtain rfl := Option.some.inj hrest
        exact ⟨_, List.mem_cons_self, rfl⟩
      · exact hkept hr rfl
    | remove j =>
      simp only at hr
      split_ifs at hr with hj
      exact hkept hr rfl
    | purge now =>
      obtain ⟨r', hr', hrest⟩ := Option.bind_eq_some_iff.mp hr
      split_ifs at hrest
      obtain rfl := Option.some.inj hrest
      exact hkept hr' rfl

theorem refreshed_value (since : List (Event κ α)) :
    (refreshed limit touchTtl k r since).value = r.value := by
  induction since with
  | nil => rfl
  | cons e since ih =>
    obtain ⟨call, evicted⟩ := e
    cases call with
    | touch j now =>
      simp only [refreshed]
      split_ifs
      · exact ih
      · exact ih
    | insert j v now ttl => exact ih
    | remove j => exact ih
    | purge now => exact ih

/-- **When a value is found.** It was inserted last, its entry has survived, and the time is not
past the last refreshed deadline. -/
theorem replay_valid_iff {v : α} {t : Nat} (hord : Ordered h) (ht : Before t h) :
    (∃ r, replay limit touchTtl h k = some r ∧ r.value = v ∧ t ≤ r.expiry) ↔
      ∃ since r, LastInserted limit k h since r ∧ Survives limit touchTtl k r since ∧
        r.value = v ∧ t ≤ (refreshed limit touchTtl k r since).expiry := by
  constructor
  · rintro ⟨r', hr', hv, hvalid⟩
    obtain hno | ⟨since, r, hlast⟩ := exists_lastInserted limit k h
    · rw [replay_of_not_inserted hno] at hr'
      cases hr'
    · by_cases hs : Survives limit touchTtl k r since
      · obtain hsome | ⟨hnone, -⟩ := replay_of_survives hlast hord hs
        · obtain rfl := Option.some.inj (hsome.symm.trans hr')
          exact ⟨since, r, hlast, hs, (refreshed_value since).symm.trans hv, hvalid⟩
        · rw [hnone] at hr'
          cases hr'
      · rw [replay_of_not_survives hlast hord hs] at hr'
        cases hr'
  · rintro ⟨since, r, hlast, hs, hv, hvalid⟩
    obtain hsome | ⟨-, e, he, t', ht', hlate⟩ := replay_of_survives hlast hord hs
    · exact ⟨_, hsome, (refreshed_value since).trans hv, hvalid⟩
    · -- a touch found the deadline passed, at a time that is not after `t`
      obtain ⟨v, now, ttl, evicted, earlier, rfl, -, -⟩ := hlast
      have hle := ht e (List.mem_append_left _ he) t' ht'
      omega

end Replay

end TtlMap
