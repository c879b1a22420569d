import Fips.Lib.TtlMap
import Fips.Node.Routing

/-!
# The coordinate cache

Model of `CoordCache` (`cache/coord_cache.rs:66-225`) and `CacheEntry` (`cache/entry.rs:24-92`): a
hash map of at most `max_entries` addresses whose entries expire. The iteration order of the map is
unspecified, so a run may permute its entries before any call.

## Results

* `evictOne_eq`: what an eviction removes, an expired entry or a longest unused one.
* `record_run`: every call does to the entries what `TtlMap` says.
* `run_law`: the cache is a bounded map of entries that expire, over every run.
* `getAndTouch_forget`: the cache that the routing decision reads is this one.
-/

namespace Fips.Cache

open TtlMap (Record Event Victim)

/-! ## Entries -/

/-- `CacheEntry`. -/
structure CacheEntry where
  coords : TreeCoordinate
  createdAt : Nat
  lastUsed : Nat
  expiresAt : Nat
  pathMtu : Option Nat

namespace CacheEntry

/-- `CacheEntry::new`. The expiry saturates. -/
def new (coords : TreeCoordinate) (currentTimeMs ttlMs : Nat) : CacheEntry where
  coords := coords
  createdAt := currentTimeMs
  lastUsed := currentTimeMs
  expiresAt := min (currentTimeMs + ttlMs) U64_MAX
  pathMtu := none

/-- `CacheEntry::set_path_mtu`. -/
def setPathMtu (e : CacheEntry) (mtu : Nat) : CacheEntry := { e with pathMtu := some mtu }

/-- `CacheEntry::is_expired`: the instant of the expiry itself still counts. -/
def isExpired (e : CacheEntry) (currentTimeMs : Nat) : Bool := decide (e.expiresAt < currentTimeMs)

/-- `CacheEntry::refresh`: a use puts the expiry off. -/
def refresh (e : CacheEntry) (currentTimeMs ttlMs : Nat) : CacheEntry :=
  { e with
    expiresAt := min (currentTimeMs + ttlMs) U64_MAX
    lastUsed := currentTimeMs }

/-- `CacheEntry::update`. The path MTU of the old coordinates is kept. -/
def update (e : CacheEntry) (coords : TreeCoordinate) (currentTimeMs ttlMs : Nat) : CacheEntry :=
  { e with
    coords := coords
    lastUsed := currentTimeMs
    expiresAt := min (currentTimeMs + ttlMs) U64_MAX }

/-- What a lookup and an eviction depend on. -/
def record (e : CacheEntry) : Record TreeCoordinate := ⟨e.coords, e.lastUsed, e.expiresAt⟩

/-- Time since last use. -/
def idleTime (e : CacheEntry) (currentTimeMs : Nat) : Nat := currentTimeMs - e.lastUsed

end CacheEntry

/-! ## The cache -/

/-- `CoordCache`. -/
structure CoordCache where
  entries : Map NodeAddr CacheEntry
  maxEntries : Nat
  defaultTtlMs : Nat

namespace CoordCache

/-- `CoordCache::new`. -/
def new (maxEntries defaultTtlMs : Nat) : CoordCache := ⟨∅, maxEntries, defaultTtlMs⟩

/-- `CoordCache::len`, expired entries included. -/
def len (cache : CoordCache) : Nat := cache.entries.entries.length

/-- One round of `max_by_key`, which keeps the last of several maxima. -/
def longerIdle (now : Nat) (best : Option (Sigma fun _ : NodeAddr => CacheEntry))
    (e : Sigma fun _ : NodeAddr => CacheEntry) : Option (Sigma fun _ : NodeAddr => CacheEntry) :=
  some (match best with
    | none => e
    | some b => if b.2.idleTime now ≤ e.2.idleTime now then e else b)

/-- The `find` of `evict_one`: an expired entry goes first. -/
def expiredKey (cache : CoordCache) (now : Nat) : Option NodeAddr :=
  (cache.entries.entries.find? fun e => e.2.isExpired now).map (·.1)

/-- The `max_by_key` of `evict_one`: else the entry idle for longest, the last of these in the map's
order. -/
def lruKey (cache : CoordCache) (now : Nat) : Option NodeAddr :=
  (cache.entries.entries.foldl (longerIdle now) none).map (·.1)

/-- An expired entry first, then the one that was idle longest. -/
def evictOne (cache : CoordCache) (now : Nat) : CoordCache :=
  match cache.expiredKey now with
  | some key => { cache with entries := cache.entries.erase key }
  | none =>
    match cache.lruKey now with
    | some key => { cache with entries := cache.entries.erase key }
    | none => cache

/-- The common body of the insertions: `setMtu` is what `insert_with_path_mtu` does to the entry
before it is stored. -/
def insertWith (cache : CoordCache) (setMtu : CacheEntry → CacheEntry) (addr : NodeAddr)
    (coords : TreeCoordinate) (now ttlMs : Nat) : CoordCache :=
  match cache.entries.lookup addr with
  | some entry =>
    { cache with entries := cache.entries.insert addr (setMtu (entry.update coords now ttlMs)) }
  | none =>
    let cache := if cache.maxEntries ≤ cache.len then cache.evictOne now else cache
    { cache with entries := cache.entries.insert addr (setMtu (.new coords now ttlMs)) }

/-- `CoordCache::insert`. -/
def insert (cache : CoordCache) (addr : NodeAddr) (coords : TreeCoordinate) (now : Nat) :
    CoordCache :=
  cache.insertWith id addr coords now cache.defaultTtlMs

/-- `CoordCache::insert_with_path_mtu`. -/
def insertWithPathMtu (cache : CoordCache) (addr : NodeAddr) (coords : TreeCoordinate)
    (now pathMtu : Nat) : CoordCache :=
  cache.insertWith (·.setPathMtu pathMtu) addr coords now cache.defaultTtlMs

/-- `CoordCache::insert_with_ttl`. -/
def insertWithTtl (cache : CoordCache) (addr : NodeAddr) (coords : TreeCoordinate)
    (now ttlMs : Nat) : CoordCache :=
  cache.insertWith id addr coords now ttlMs

/-- `CoordCache::get`, which leaves an expired entry where it is. -/
def get (cache : CoordCache) (addr : NodeAddr) (now : Nat) : Option TreeCoordinate :=
  (cache.entries.lookup addr).bind fun entry =>
    if entry.isExpired now then none else some entry.coords

/-- Drops an expired entry, refreshes any other. -/
def getAndTouch (cache : CoordCache) (addr : NodeAddr) (now : Nat) :
    CoordCache × Option TreeCoordinate :=
  match cache.entries.lookup addr with
  | none => (cache, none)
  | some entry =>
    if entry.isExpired now then ({ cache with entries := cache.entries.erase addr }, none)
    else
      ({ cache with
        entries := cache.entries.insert addr (entry.refresh now cache.defaultTtlMs) },
        some entry.coords)

/-- `CoordCache::remove`. -/
def remove (cache : CoordCache) (addr : NodeAddr) : CoordCache × Option CacheEntry :=
  ({ cache with entries := cache.entries.erase addr }, cache.entries.lookup addr)

/-- Returns how many entries were removed. -/
def purgeExpired (cache : CoordCache) (now : Nat) : CoordCache × Nat :=
  let kept := { cache with
    entries := cache.entries.filterMap fun _ e => if e.isExpired now then none else some e }
  (kept, cache.len - kept.len)

/-! ## Calls -/

/-- A call that changes a cache. -/
inductive CacheCall
  | insert (addr : NodeAddr) (coords : TreeCoordinate) (now : Nat)
  | insertWithPathMtu (addr : NodeAddr) (coords : TreeCoordinate) (now pathMtu : Nat)
  | insertWithTtl (addr : NodeAddr) (coords : TreeCoordinate) (now ttlMs : Nat)
  | getAndTouch (addr : NodeAddr) (now : Nat)
  | remove (addr : NodeAddr)
  | purgeExpired (now : Nat)

/-- The cache after a call. -/
def run (cache : CoordCache) : CacheCall → CoordCache
  | .insert addr coords now => cache.insert addr coords now
  | .insertWithPathMtu addr coords now pathMtu => cache.insertWithPathMtu addr coords now pathMtu
  | .insertWithTtl addr coords now ttlMs => cache.insertWithTtl addr coords now ttlMs
  | .getAndTouch addr now => (cache.getAndTouch addr now).1
  | .remove addr => (cache.remove addr).1
  | .purgeExpired now => (cache.purgeExpired now).1

/-- What the cache knows of an address. -/
def record (cache : CoordCache) (addr : NodeAddr) : Option (Record TreeCoordinate) :=
  (cache.entries.lookup addr).map CacheEntry.record

/-- The key an insertion of `addr` evicts. -/
def evictedBy (cache : CoordCache) (addr : NodeAddr) (now : Nat) : Option NodeAddr :=
  if addr ∉ cache.entries ∧ cache.maxEntries ≤ cache.len then
    (cache.expiredKey now).or (cache.lruKey now)
  else none

/-- The call in the terms of the map it is meant to implement. -/
def event (cache : CoordCache) : CacheCall → Event NodeAddr TreeCoordinate
  | .insert addr coords now =>
    ⟨.insert addr coords now cache.defaultTtlMs, cache.evictedBy addr now⟩
  | .insertWithPathMtu addr coords now _ =>
    ⟨.insert addr coords now cache.defaultTtlMs, cache.evictedBy addr now⟩
  | .insertWithTtl addr coords now ttlMs =>
    ⟨.insert addr coords now ttlMs, cache.evictedBy addr now⟩
  | .getAndTouch addr now => ⟨.touch addr now, none⟩
  | .remove addr => ⟨.remove addr, none⟩
  | .purgeExpired now => ⟨.purge now, none⟩

/-- A run from an empty cache, with its history. The map may reorder its entries before a call, and
the times of the calls do not decrease. -/
inductive Run (maxEntries defaultTtlMs : Nat) :
    CoordCache → List (Event NodeAddr TreeCoordinate) → Prop
  | new : Run maxEntries defaultTtlMs (.new maxEntries defaultTtlMs) []
  | call {cache : CoordCache} {h : List (Event NodeAddr TreeCoordinate)}
      {entries : Map NodeAddr CacheEntry} (c : CacheCall) (run : Run maxEntries defaultTtlMs cache h)
      (order : Map.Rehash cache.entries entries)
      (later : ∀ now ∈ ({ cache with entries }.event c).call.time, TtlMap.Before now h) :
      Run maxEntries defaultTtlMs ({ cache with entries }.run c)
        ({ cache with entries }.event c :: h)

/-- Calls on an empty cache, newest first, and their history, where the map keeps its order. -/
def execute (maxEntries defaultTtlMs : Nat) :
    List CacheCall → CoordCache × List (Event NodeAddr TreeCoordinate)
  | [] => (.new maxEntries defaultTtlMs, [])
  | c :: earlier =>
    let (cache, h) := execute maxEntries defaultTtlMs earlier
    (cache.run c, cache.event c :: h)

/-- Calls in the order of time are a run. -/
theorem run_execute {maxEntries defaultTtlMs : Nat} {calls : List CacheCall}
    (hord : TtlMap.Ordered (execute maxEntries defaultTtlMs calls).2) :
    Run maxEntries defaultTtlMs (execute maxEntries defaultTtlMs calls).1
      (execute maxEntries defaultTtlMs calls).2 := by
  induction calls with
  | nil => exact .new
  | cons c earlier ih => exact .call c (ih hord.2) (.refl _) hord.1

/-! ## Evictions -/

section Evict

variable {cache : CoordCache} {now : Nat} {key : NodeAddr}

/-- The entry that is found has expired. -/
theorem of_expiredKey_eq_some (h : cache.expiredKey now = some key) :
    ∃ e, cache.entries.lookup key = some e ∧ e.isExpired now = true := by
  obtain ⟨⟨k, e⟩, hfind, rfl⟩ := Option.map_eq_some_iff.mp h
  have hexpired := List.find?_some hfind
  exact ⟨e, Map.mem_entries_iff.mp (List.mem_of_find?_eq_some hfind), hexpired⟩

/-- Where none is found, none has expired. -/
theorem of_expiredKey_eq_none (h : cache.expiredKey now = none) {e : CacheEntry}
    (he : cache.entries.lookup key = some e) : e.isExpired now = false := by
  have hfind := List.find?_eq_none.mp (Option.map_eq_none_iff.mp h)
  exact Bool.eq_false_of_not_eq_true (hfind ⟨key, e⟩ (Map.mem_entries_iff.mpr he))

theorem longerIdle_round :
    Select.Round (longerIdle now) (fun e : Sigma fun _ : NodeAddr => CacheEntry => some e) where
  skip acc a h := nomatch h
  take a b h := h
  contest a b b₀ h := by
    obtain rfl := Option.some.inj h
    simp only [longerIdle]
    split_ifs
    · exact .inr rfl
    · exact .inl rfl

/-- `max_by_key` finds an entry that was idle for longest. -/
theorem longerIdle_minimises :
    Select.Minimises (longerIdle now)
      (fun e : Sigma fun _ : NodeAddr => CacheEntry => some e)
      (fun e => OrderDual.toDual (e.2.idleTime now)) := by
  intro a b b₀ b₁ hb h
  obtain rfl := Option.some.inj hb
  obtain rfl := Option.some.inj h
  simp only [OrderDual.toDual_le_toDual]
  split_ifs with hle
  · exact ⟨hle, le_rfl⟩
  · exact ⟨le_rfl, (Nat.not_le.mp hle).le⟩

theorem of_lruKey_eq_some (h : cache.lruKey now = some key) :
    ∃ e, cache.entries.lookup key = some e ∧
      ∀ k e', cache.entries.lookup k = some e' → e'.idleTime now ≤ e.idleTime now := by
  obtain ⟨⟨k, e⟩, hfold, rfl⟩ := Option.map_eq_some_iff.mp h
  obtain ⟨e', hmem, he'⟩ := Select.mem_of_foldl_eq_some longerIdle_round _ hfold
  obtain rfl := Option.some.inj he'
  refine ⟨e, Map.mem_entries_iff.mp hmem, fun k' e' hk' => ?_⟩
  exact (Select.foldl_le longerIdle_round longerIdle_minimises _ hfold).2 ⟨k', e'⟩
    (Map.mem_entries_iff.mpr hk') _ rfl

/-- Only an empty cache has nothing to evict. -/
theorem lruKey_eq_none_iff : cache.lruKey now = none ↔ cache.len = 0 := by
  rw [lruKey, Option.map_eq_none_iff, Select.foldl_eq_none_iff longerIdle_round, len,
    List.length_eq_zero_iff, List.eq_nil_iff_forall_not_mem]
  simp

/-- **What an eviction removes.** -/
theorem evictOne_eq (cache : CoordCache) (now : Nat) :
    cache.evictOne now =
      match (cache.expiredKey now).or (cache.lruKey now) with
      | some key => { cache with entries := cache.entries.erase key }
      | none => cache := by
  unfold evictOne
  cases cache.expiredKey now with
  | some key => rfl
  | none => rfl

theorem mem_of_evicted (h : (cache.expiredKey now).or (cache.lruKey now) = some key) :
    key ∈ cache.entries := by
  obtain he | ⟨-, hl⟩ := Option.or_eq_some_iff.mp h
  · obtain ⟨e, he, -⟩ := of_expiredKey_eq_some he
    exact Map.mem_of_lookup he
  · obtain ⟨e, he, -⟩ := of_lruKey_eq_some hl
    exact Map.mem_of_lookup he

/-- The key that is evicted is a victim, if no entry was used later than `now`. -/
theorem victim_of_evicted (h : (cache.expiredKey now).or (cache.lruKey now) = some key)
    (hused : ∀ k r, cache.record k = some r → r.lastUse ≤ now) :
    Victim cache.record now key := by
  cases hexp : cache.expiredKey now with
  | some k =>
    rw [hexp, Option.some_or] at h
    obtain rfl := Option.some.inj h
    obtain ⟨e, he, hexpired⟩ := of_expiredKey_eq_some hexp
    exact ⟨e.record, by rw [record, he]; rfl, .inl (of_decide_eq_true hexpired)⟩
  | none =>
    rw [hexp, Option.none_or] at h
    obtain ⟨e, he, hlongest⟩ := of_lruKey_eq_some h
    have hrecord : cache.record key = some e.record := by rw [record, he]; rfl
    refine ⟨e.record, hrecord, .inr fun k r hr => ?_⟩
    obtain ⟨e', he', rfl⟩ := Option.map_eq_some_iff.mp hr
    refine ⟨of_decide_eq_false (of_expiredKey_eq_none hexp he'), ?_⟩
    have hle := hlongest k e' he'
    have hnow := hused key _ hrecord
    simp only [CacheEntry.idleTime, CacheEntry.record] at hle hnow ⊢
    omega

end Evict

/-! ## One call -/

section Calls

variable {cache : CoordCache} {setMtu : CacheEntry → CacheEntry} {addr j : NodeAddr}
  {coords : TreeCoordinate} {now ttlMs : Nat}

/-- An insertion over an entry evicts nothing. -/
theorem evictedBy_of_mem (h : addr ∈ cache.entries) : cache.evictedBy addr now = none :=
  if_neg fun hn => hn.1 h

/-- An insertion into a cache with room evicts nothing. -/
theorem evictedBy_of_room (h : ¬ cache.maxEntries ≤ cache.len) : cache.evictedBy addr now = none :=
  if_neg fun hn => h hn.2

/-- **An insertion**, on every address. -/
theorem lookup_insertWith (j : NodeAddr) :
    (cache.insertWith setMtu addr coords now ttlMs).entries.lookup j =
      if j = addr then
        some (setMtu (match cache.entries.lookup addr with
          | some entry => entry.update coords now ttlMs
          | none => .new coords now ttlMs))
      else if cache.evictedBy addr now = some j then none
      else cache.entries.lookup j := by
  unfold insertWith
  cases hl : cache.entries.lookup addr with
  | some entry =>
    rw [evictedBy_of_mem (Map.mem_of_lookup hl)]
    simp only [Map.lookup_insert']
    rfl
  | none =>
    have hmem : addr ∉ cache.entries := AList.lookup_eq_none.mp hl
    by_cases hfull : cache.maxEntries ≤ cache.len
    · have hev : cache.evictedBy addr now = (cache.expiredKey now).or (cache.lruKey now) :=
        if_pos ⟨hmem, hfull⟩
      simp only [if_pos hfull, Map.lookup_insert', evictOne_eq, hev]
      cases (cache.expiredKey now).or (cache.lruKey now) with
      | none => rfl
      | some key =>
        simp only [Map.lookup_erase', Option.some.injEq, eq_comm]
    · rw [evictedBy_of_room hfull]
      simp only [if_neg hfull, Map.lookup_insert']
      rfl

/-- What an insertion does to the records is what its event says. -/
theorem record_insertWith (hmtu : ∀ e, (setMtu e).record = e.record) (touchTtl : Nat) (j : NodeAddr) :
    (cache.insertWith setMtu addr coords now ttlMs).record j =
      (⟨.insert addr coords now ttlMs, cache.evictedBy addr now⟩ :
        Event NodeAddr TreeCoordinate).apply U64_MAX touchTtl cache.record j := by
  rw [record, lookup_insertWith]
  unfold Event.apply
  simp only
  split_ifs
  · cases cache.entries.lookup addr with
    | some entry => exact congrArg some (hmtu _)
    | none => exact congrArg some (hmtu _)
  · rfl
  · rfl

/-- A touch drops an expired entry, and puts off the expiry of another. -/
theorem lookup_getAndTouch (cache : CoordCache) (addr : NodeAddr) (now : Nat) (j : NodeAddr) :
    (cache.getAndTouch addr now).1.entries.lookup j =
      if j = addr then (cache.entries.lookup addr).bind fun e =>
        if e.isExpired now then none else some (e.refresh now cache.defaultTtlMs)
      else cache.entries.lookup j := by
  unfold getAndTouch
  cases hl : cache.entries.lookup addr with
  | none =>
    split_ifs with hj
    · rw [hj, hl]
      rfl
    · rfl
  | some entry =>
    cases hexp : entry.isExpired now with
    | true =>
      simp only [hexp, if_true, Map.lookup_erase', Option.bind_some]
    | false =>
      simp only [hexp, Bool.false_eq_true, if_false, Map.lookup_insert', Option.bind_some]

/-- **Every call** does to the records what the map of entries that expire says. -/
theorem record_run (cache : CoordCache) (c : CacheCall) (j : NodeAddr) :
    (cache.run c).record j =
      (cache.event c).apply U64_MAX cache.defaultTtlMs cache.record j := by
  cases c with
  | insert addr coords now => exact record_insertWith (fun _ => rfl) _ j
  | insertWithPathMtu addr coords now pathMtu =>
    have hmtu : ∀ e : CacheEntry, (e.setPathMtu pathMtu).record = e.record := fun _ => rfl
    exact record_insertWith hmtu _ j
  | insertWithTtl addr coords now ttlMs => exact record_insertWith (fun _ => rfl) _ j
  | getAndTouch addr now =>
    have htouch := lookup_getAndTouch cache addr now j
    simp only [run, event, Event.apply, record, htouch]
    split_ifs with hj
    · rw [hj]
      cases cache.entries.lookup addr with
      | none => rfl
      | some entry =>
        cases hexp : entry.isExpired now with
        | true =>
          have hlt : entry.record.expiry < now := of_decide_eq_true hexp
          simp [hexp, hlt]
        | false =>
          have hlt : ¬ entry.record.expiry < now := of_decide_eq_false hexp
          simp [hexp, hlt]
          rfl
    · rfl
  | remove addr =>
    simp only [run, event, Event.apply, remove, record, Map.lookup_erase']
    split_ifs
    · rfl
    · rfl
  | purgeExpired now =>
    simp only [run, event, Event.apply, purgeExpired, record, Map.lookup_filterMap]
    cases cache.entries.lookup j with
    | none => rfl
    | some entry =>
      cases hexp : entry.isExpired now with
      | true =>
        have hlt : entry.record.expiry < now := of_decide_eq_true hexp
        simp [hexp, hlt]
      | false =>
        have hlt : ¬ entry.record.expiry < now := of_decide_eq_false hexp
        simp [hexp, hlt]

/-! ## Size -/

/-- An eviction makes room for one. -/
theorem len_evictOne (h : cache.len ≠ 0) : (cache.evictOne now).len + 1 = cache.len := by
  have hsome : ∃ key, (cache.expiredKey now).or (cache.lruKey now) = some key := by
    rw [← Option.ne_none_iff_exists']
    intro hnone
    exact h (lruKey_eq_none_iff.mp (Option.or_eq_none_iff.mp hnone).2)
  obtain ⟨key, hkey⟩ := hsome
  rw [evictOne_eq, hkey]
  exact Map.length_erase_of_mem (mem_of_evicted hkey)

theorem len_evictOne_le : (cache.evictOne now).len ≤ cache.len := by
  rw [evictOne_eq]
  split
  · exact Map.length_erase_le _ _
  · exact le_rfl

@[simp] theorem evictOne_maxEntries : (cache.evictOne now).maxEntries = cache.maxEntries := by
  rw [evictOne_eq]
  split <;> rfl

@[simp] theorem evictOne_defaultTtlMs : (cache.evictOne now).defaultTtlMs = cache.defaultTtlMs := by
  rw [evictOne_eq]
  split <;> rfl

theorem notMem_evictOne (h : addr ∉ cache.entries) : addr ∉ (cache.evictOne now).entries := by
  rw [evictOne_eq]
  split
  · exact fun hmem => h (AList.mem_erase.mp hmem).2
  · exact h

/-- An insertion keeps the bound. A cache for no entries still takes one. -/
theorem len_insertWith_le (h : cache.len ≤ max 1 cache.maxEntries) :
    (cache.insertWith setMtu addr coords now ttlMs).len ≤ max 1 cache.maxEntries := by
  unfold insertWith
  cases hl : cache.entries.lookup addr with
  | some entry =>
    rw [len, Map.length_insert_of_mem (Map.mem_of_lookup hl)]
    exact h
  | none =>
    have hmem : addr ∉ cache.entries := AList.lookup_eq_none.mp hl
    by_cases hfull : cache.maxEntries ≤ cache.len
    · simp only [if_pos hfull]
      rw [len, Map.length_insert_of_notMem (notMem_evictOne hmem)]
      by_cases hzero : cache.len = 0
      · have hempty : (cache.evictOne now).len ≤ 0 := len_evictOne_le.trans hzero.le
        exact (Nat.add_le_add_right hempty 1).trans (Nat.le_max_left 1 _)
      · exact (len_evictOne hzero).le.trans h
    · simp only [if_neg hfull]
      rw [len, Map.length_insert_of_notMem hmem]
      exact (Nat.not_le.mp hfull).trans_le (Nat.le_max_right _ _)

theorem insertWith_maxEntries :
    (cache.insertWith setMtu addr coords now ttlMs).maxEntries = cache.maxEntries ∧
      (cache.insertWith setMtu addr coords now ttlMs).defaultTtlMs = cache.defaultTtlMs := by
  unfold insertWith
  split
  · exact ⟨rfl, rfl⟩
  · simp only
    split_ifs
    · exact ⟨evictOne_maxEntries, evictOne_defaultTtlMs⟩
    · exact ⟨rfl, rfl⟩

theorem getAndTouch_maxEntries :
    (cache.getAndTouch addr now).1.maxEntries = cache.maxEntries ∧
      (cache.getAndTouch addr now).1.defaultTtlMs = cache.defaultTtlMs := by
  unfold getAndTouch
  split
  · exact ⟨rfl, rfl⟩
  · split_ifs
    · exact ⟨rfl, rfl⟩
    · exact ⟨rfl, rfl⟩

theorem len_getAndTouch_le : (cache.getAndTouch addr now).1.len ≤ cache.len := by
  unfold getAndTouch
  cases hl : cache.entries.lookup addr with
  | none => exact le_rfl
  | some entry =>
    simp only
    split_ifs
    · exact Map.length_erase_le _ _
    · exact (Map.length_insert_of_mem (Map.mem_of_lookup hl) _).le

/-- The limits stay, and so does the bound on the size. -/
theorem run_keeps (cache : CoordCache) (c : CacheCall) :
    (cache.run c).maxEntries = cache.maxEntries ∧ (cache.run c).defaultTtlMs = cache.defaultTtlMs ∧
      (cache.len ≤ max 1 cache.maxEntries → (cache.run c).len ≤ max 1 cache.maxEntries) := by
  cases c with
  | insert addr coords now =>
    exact ⟨insertWith_maxEntries.1, insertWith_maxEntries.2, len_insertWith_le⟩
  | insertWithPathMtu addr coords now pathMtu =>
    exact ⟨insertWith_maxEntries.1, insertWith_maxEntries.2, len_insertWith_le⟩
  | insertWithTtl addr coords now ttlMs =>
    exact ⟨insertWith_maxEntries.1, insertWith_maxEntries.2, len_insertWith_le⟩
  | getAndTouch addr now =>
    exact ⟨getAndTouch_maxEntries.1, getAndTouch_maxEntries.2, len_getAndTouch_le.trans⟩
  | remove addr => exact ⟨rfl, rfl, (Map.length_erase_le _ _).trans⟩
  | purgeExpired now => exact ⟨rfl, rfl, (Map.length_filterMap_le _ _).trans⟩

end Calls

/-! ## Runs -/

section Runs

variable {maxEntries defaultTtlMs : Nat} {cache after : CoordCache}
  {h : List (Event NodeAddr TreeCoordinate)}

/-- What an insertion of `addr` at `now` may do to the other entries: nothing, or, for an address
that was not cached, the removal of one of them that has expired, or of a longest unused one if
none has. -/
inductive InsertLaw (cache after : CoordCache) (addr : NodeAddr) (now : Nat) : Prop
  | keeps (others : ∀ j, j ≠ addr → after.entries.lookup j = cache.entries.lookup j)
  | evicts (key : NodeAddr) (absent : addr ∉ cache.entries)
      (victim : Victim cache.record now key) (gone : after.entries.lookup key = none)
      (others : ∀ j, j ≠ addr → j ≠ key → after.entries.lookup j = cache.entries.lookup j)

/-- **One insertion.** -/
theorem insertWith_law (setMtu : CacheEntry → CacheEntry) {addr : NodeAddr}
    {coords : TreeCoordinate} {now ttlMs : Nat}
    (hused : ∀ k r, cache.record k = some r → r.lastUse ≤ now) :
    InsertLaw cache (cache.insertWith setMtu addr coords now ttlMs) addr now := by
  cases hev : cache.evictedBy addr now with
  | none =>
    refine .keeps fun j hj => ?_
    rw [lookup_insertWith, if_neg hj, hev, if_neg nofun]
  | some key =>
    unfold evictedBy at hev
    split_ifs at hev with hfull
    have hne : key ≠ addr := by
      rintro rfl
      exact hfull.1 (mem_of_evicted hev)
    have hby : cache.evictedBy addr now = some key := (if_pos hfull).trans hev
    refine .evicts key hfull.1 (victim_of_evicted hev hused) ?_ fun j hj hkey => ?_
    · rw [lookup_insertWith, if_neg hne, if_pos hby]
    · rw [lookup_insertWith, if_neg hj, hby, if_neg fun heq => hkey (Option.some.inj heq).symm]

/-- What holds after every run. -/
theorem Run.refines (hrun : Run maxEntries defaultTtlMs cache h) :
    (cache.maxEntries = maxEntries ∧ cache.defaultTtlMs = defaultTtlMs ∧
      cache.len ≤ max 1 cache.maxEntries) ∧
      TtlMap.Ordered h ∧ ∀ j, cache.record j = TtlMap.replay U64_MAX defaultTtlMs h j := by
  induction hrun with
  | new => exact ⟨⟨rfl, rfl, Nat.zero_le _⟩, trivial, fun j => rfl⟩
  | @call cache h entries c _ order later ih =>
    obtain ⟨⟨hmax, httl, hlen⟩, hord, hrecord⟩ := ih
    have hsame : ({ cache with entries } : CoordCache).len ≤ max 1 cache.maxEntries :=
      order.length_eq.symm.le.trans hlen
    obtain ⟨hmax', httl', hlen'⟩ := run_keeps { cache with entries } c
    have hrehash : ({ cache with entries } : CoordCache).record = cache.record := by
      funext j
      rw [record, record, Map.lookup_rehash order]
    refine ⟨⟨hmax'.trans hmax, httl'.trans httl, ?_⟩, ⟨later, hord⟩, fun j => ?_⟩
    · rw [hmax']
      exact hlen' hsame
    · rw [record_run, hrehash, funext hrecord]
      exact congrArg (fun ttl => Event.apply U64_MAX ttl _ _ j) httl

/-- What a lookup finds is the record, while it is valid. -/
theorem get_eq_some_iff {addr : NodeAddr} {t : Nat} {coords : TreeCoordinate} :
    cache.get addr t = some coords ↔
      ∃ r, cache.record addr = some r ∧ r.value = coords ∧ t ≤ r.expiry := by
  unfold get record
  cases cache.entries.lookup addr with
  | none => simp
  | some entry =>
    cases hexp : entry.isExpired t with
    | true =>
      have hlt : ¬ t ≤ entry.record.expiry := Nat.not_le.mpr (of_decide_eq_true hexp)
      simp [hexp, hlt]
    | false =>
      have hle : t ≤ entry.record.expiry := Nat.not_lt.mp (of_decide_eq_false hexp)
      simp [hexp, hle]
      rfl

/-- An insertion from a reachable cache. -/
theorem Run.insertLaw (hrun : Run maxEntries defaultTtlMs cache h)
    {entries : Map NodeAddr CacheEntry} (order : Map.Rehash cache.entries entries) (c : CacheCall)
    {addr : NodeAddr} {coords : TreeCoordinate} {now ttlMs : Nat}
    (hcall : ({ cache with entries }.event c).call = .insert addr coords now ttlMs)
    (later : TtlMap.Before now h) :
    InsertLaw { cache with entries } ({ cache with entries }.run c) addr now := by
  have hused : ∀ k r, ({ cache with entries } : CoordCache).record k = some r → r.lastUse ≤ now := by
    intro k r hr
    rw [record, Map.lookup_rehash order, ← record, hrun.refines.2.2 k] at hr
    obtain ⟨e, he, htime⟩ := TtlMap.lastUse_mem hr
    exact later e he _ htime
  cases c with
  | insert addr' coords' now' =>
    cases hcall
    exact insertWith_law id hused
  | insertWithPathMtu addr' coords' now' pathMtu =>
    cases hcall
    exact insertWith_law (·.setPathMtu pathMtu) hused
  | insertWithTtl addr' coords' now' ttlMs' =>
    cases hcall
    exact insertWith_law id hused
  | getAndTouch addr' now' => cases hcall
  | remove addr' => cases hcall
  | purgeExpired now' => cases hcall

/-- **The cache is a bounded map of entries that expire.** After every run: its size is bounded; it
holds what the history of the calls says; a lookup returns the coordinates inserted last, exactly
while that entry has survived and its last refreshed deadline has not passed; and the next
insertion removes nothing, or for a new address one expired or longest unused entry. -/
theorem run_law (hrun : Run maxEntries defaultTtlMs cache h) :
    cache.len ≤ max 1 maxEntries ∧
    (∀ addr, cache.record addr = TtlMap.replay U64_MAX defaultTtlMs h addr) ∧
    (∀ addr t, TtlMap.Before t h → ∀ coords, cache.get addr t = some coords ↔
      ∃ since r, TtlMap.LastInserted U64_MAX addr h since r ∧
        TtlMap.Survives U64_MAX defaultTtlMs addr r since ∧ r.value = coords ∧
        t ≤ (TtlMap.refreshed U64_MAX defaultTtlMs addr r since).expiry) ∧
    (∀ entries c addr coords now ttlMs, Map.Rehash cache.entries entries →
      ({ cache with entries }.event c).call = .insert addr coords now ttlMs →
      TtlMap.Before now h →
      InsertLaw { cache with entries } ({ cache with entries }.run c) addr now) := by
  obtain ⟨⟨hmax, -, hlen⟩, hord, hrecord⟩ := hrun.refines
  refine ⟨hmax ▸ hlen, hrecord, fun addr t ht coords => ?_, fun entries c addr coords now ttlMs order
    hcall later => hrun.insertLaw order c hcall later⟩
  rw [get_eq_some_iff, hrecord addr]
  exact TtlMap.replay_valid_iff hord ht

end Runs

/-! ## The cache of the routing decision -/

/-- The part of an entry that routing decisions read. -/
def CacheEntry.forget (e : CacheEntry) : Fips.CacheEntry := ⟨e.coords, e.lastUsed, e.expiresAt⟩

/-- The part of the cache that routing decisions read. -/
def forget (cache : CoordCache) : Fips.CoordCache where
  entries := cache.entries.filterMap fun _ e => some (CacheEntry.forget e)
  defaultTtlMs := cache.defaultTtlMs

/-- The records know of an entry all but its path MTU. -/
theorem lookup_forget (cache : CoordCache) (addr : NodeAddr) :
    cache.forget.entries.lookup addr = (cache.entries.lookup addr).map CacheEntry.forget := by
  rw [forget, Map.lookup_filterMap]
  cases cache.entries.lookup addr <;> rfl

/-- Looking up and then forgetting the rest is looking up what routing reads. -/
theorem getAndTouch_forget (cache : CoordCache) (addr : NodeAddr) (now : Nat) :
    (cache.forget.getAndTouch addr now).2 = (cache.getAndTouch addr now).2 ∧
      ∀ j, (cache.forget.getAndTouch addr now).1.entries.lookup j =
        (cache.getAndTouch addr now).1.forget.entries.lookup j := by
  have hforget := lookup_forget cache
  unfold Fips.CoordCache.getAndTouch getAndTouch
  rw [hforget addr]
  cases hl : cache.entries.lookup addr with
  | none => exact ⟨rfl, fun j => rfl⟩
  | some entry =>
    have hsame : (CacheEntry.forget entry).isExpired now = entry.isExpired now := rfl
    rw [Option.map_some]
    simp only [hsame]
    split_ifs
    · refine ⟨rfl, fun j => ?_⟩
      rw [lookup_forget, Map.lookup_erase', Map.lookup_erase', hforget]
      split_ifs <;> rfl
    · refine ⟨rfl, fun j => ?_⟩
      rw [lookup_forget, Map.lookup_insert', Map.lookup_insert', hforget]
      split_ifs <;> rfl

end CoordCache

/-! ## A full cache -/

namespace CacheSample

open Fips.Cache.CoordCache

/-- The coordinates of a root. -/
def coords : TreeCoordinate := ⟨[⟨0, 1, 1⟩], List.cons_ne_nil _ _⟩

/-- Two entries, the second one touched, and a third address that evicts the first. -/
def calls : List CacheCall :=
  [.insert 3 coords 300, .getAndTouch 2 200, .insertWithTtl 2 coords 100 5000, .insert 1 coords 0]

/-- A full cache drops the entry that was idle longest. -/
theorem full_cache_law :
    (execute 2 10000 calls).1.len ≤ 2 ∧
      (execute 2 10000 calls).1.record 1 = none ∧
      ((execute 2 10000 calls).1.record 2).map (·.expiry) = some 10200 := by
  have hrun : Run 2 10000 (execute 2 10000 calls).1 (execute 2 10000 calls).2 :=
    run_execute (by decide)
  obtain ⟨hlen, hrecord, -⟩ := run_law hrun
  exact ⟨hlen, (hrecord 1).trans (by decide), by rw [hrecord 2]; decide⟩

end CacheSample

end Fips.Cache
