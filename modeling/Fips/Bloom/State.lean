import Mathlib.Data.Finset.Basic
import Fips.Bloom.Filter
import Fips.Lib.Map

/-!
# Filter announcement state

Model of `BloomState` (`bloom/state.rs`): what a node's outgoing filters are made of, which peers
are owed one and what each was last sent. The leaf dependents are a list, the pending updates a
finite set. Times are milliseconds.

## Results

* `computeOutgoingFilter_spec`: the outgoing filter has the default parameters, and its bits are
  those of the node's own entries and of the other peers' filters of the default size.
* `computeOutgoingFilter_congr`: it depends on the other peers' filters only, and not on their
  order.
* `contains_computeOutgoingFilter_iff`: when a member of another peer's filter is a member of the
  outgoing filter.
* `mem_pending_markChangedPeers`: who is marked.
-/

namespace Fips

/-- `BloomState`. -/
structure BloomState where
  ownNodeAddr : NodeAddr
  leafDependents : List NodeAddr
  updateDebounceMs : Nat
  lastUpdateSent : Map NodeAddr Nat
  pendingUpdates : Finset NodeAddr
  sequence : Nat
  lastSentFilters : Map NodeAddr BloomFilter

namespace BloomState

/-- `BloomState::new`, with the default debounce of half a second. -/
def new (ownNodeAddr : NodeAddr) : BloomState := ⟨ownNodeAddr, [], 500, ∅, ∅, 0, ∅⟩

/-- `BloomState::next_sequence`. -/
def nextSequence (s : BloomState) : BloomState × Nat :=
  ({ s with sequence := s.sequence + 1 }, s.sequence + 1)

/-- `BloomState::set_update_debounce_ms`. -/
def setUpdateDebounceMs (s : BloomState) (ms : Nat) : BloomState := { s with updateDebounceMs := ms }

/-- `BloomState::add_leaf_dependent`. -/
def addLeafDependent (s : BloomState) (nodeAddr : NodeAddr) : BloomState :=
  { s with leafDependents := s.leafDependents.insert nodeAddr }

/-- `BloomState::mark_update_needed`. -/
def markUpdateNeeded (s : BloomState) (peerId : NodeAddr) : BloomState :=
  { s with pendingUpdates := insert peerId s.pendingUpdates }

/-- `BloomState::mark_all_updates_needed`. -/
def markAllUpdatesNeeded (s : BloomState) (peerIds : List NodeAddr) : BloomState :=
  { s with pendingUpdates := s.pendingUpdates ∪ peerIds.toFinset }

/-- An update is owed and the debounce interval is over. -/
def shouldSendUpdate (s : BloomState) (peerId : NodeAddr) (currentTimeMs : Nat) : Bool :=
  decide (peerId ∈ s.pendingUpdates) &&
    match s.lastUpdateSent.lookup peerId with
    | some lastTime => decide (lastTime + s.updateDebounceMs ≤ currentTimeMs)
    | none => true

/-- `BloomState::record_update_sent`: the peer's debounce starts and nothing is pending for it. -/
def recordUpdateSent (s : BloomState) (peerId : NodeAddr) (currentTimeMs : Nat) : BloomState :=
  { s with
    lastUpdateSent := s.lastUpdateSent.insert peerId currentTimeMs
    pendingUpdates := s.pendingUpdates.erase peerId }

/-- `BloomState::record_sent_filter`: what later changes are compared with. -/
def recordSentFilter (s : BloomState) (peerId : NodeAddr) (filter : BloomFilter) : BloomState :=
  { s with lastSentFilters := s.lastSentFilters.insert peerId filter }

/-- `BloomState::remove_peer_state`. -/
def removePeerState (s : BloomState) (peerId : NodeAddr) : BloomState :=
  { s with
    lastSentFilters := s.lastSentFilters.erase peerId
    lastUpdateSent := s.lastUpdateSent.erase peerId
    pendingUpdates := s.pendingUpdates.erase peerId }

section Hash

variable [Sha256]

/-- The node itself and its dependents. -/
def baseFilter (s : BloomState) : BloomFilter :=
  s.leafDependents.foldl BloomFilter.insert (BloomFilter.new.insert s.ownNodeAddr)

/-- The base filter merged with every filter but the destination's. A filter of another size is
skipped. -/
def computeOutgoingFilter (s : BloomState) (excludePeer : NodeAddr)
    (peerFilters : Map NodeAddr BloomFilter) : BloomFilter :=
  peerFilters.entries.foldl (fun filter e =>
    if e.1 ≠ excludePeer then
      match filter.merge e.2 with
      | .ok merged => merged
      | .error _ => filter
    else filter) s.baseFilter

/-- The filter last sent to a peer, if any, is not its outgoing filter. -/
def changed (s : BloomState) (peerAddr : NodeAddr) (peerFilters : Map NodeAddr BloomFilter) : Bool :=
  match s.lastSentFilters.lookup peerAddr with
  | some last => last != s.computeOutgoingFilter peerAddr peerFilters
  | none => true

/-- `BloomState::mark_changed_peers`: the peer that the change came from is passed over. -/
def markChangedPeers (s : BloomState) (excludeFrom : NodeAddr) (peerAddrs : List NodeAddr)
    (peerFilters : Map NodeAddr BloomFilter) : BloomState :=
  peerAddrs.foldl (fun s peerAddr =>
    if peerAddr = excludeFrom then s
    else if s.changed peerAddr peerFilters then s.markUpdateNeeded peerAddr
    else s) s

end Hash

/-! ## The outgoing filter -/

/-- The filter's parameters are the defaults. -/
structure Default (f : BloomFilter) : Prop where
  numBits : f.numBits = BloomFilter.DEFAULT_FILTER_SIZE_BITS
  hashCount : f.hashCount = BloomFilter.DEFAULT_HASH_COUNT

theorem default_new : Default BloomFilter.new := ⟨BloomFilter.numBits_new, rfl⟩

theorem Default.pos {f : BloomFilter} (h : Default f) : 0 < f.numBits := by
  rw [h.numBits]
  decide

theorem getBit_new (j : Nat) : BloomFilter.new.getBit j = false := by
  unfold BloomFilter.getBit BloomFilter.new
  rw [List.getD_eq_getElem?_getD, List.getElem?_replicate]
  split_ifs <;> simp

/-- Merging the entries one after the other. -/
theorem foldl_merge_spec {f : BloomFilter} (hf : Default f) (dest : NodeAddr)
    (es : List (Sigma fun _ : NodeAddr => BloomFilter)) :
    let out := es.foldl (fun filter e =>
      if e.1 ≠ dest then
        match filter.merge e.2 with
        | .ok merged => merged
        | .error _ => filter
      else filter) f
    Default out ∧ ∀ j, out.getBit j = true ↔ f.getBit j = true ∨ ∃ e ∈ es, e.1 ≠ dest ∧
      e.2.numBits = BloomFilter.DEFAULT_FILTER_SIZE_BITS ∧ e.2.getBit j = true := by
  induction es generalizing f with
  | nil => exact ⟨hf, fun j => by simp⟩
  | cons e es ih =>
    simp only [List.foldl_cons, List.mem_cons, exists_eq_or_imp]
    by_cases hdest : e.1 = dest
    · simpa [hdest] using ih hf
    · simp only [ne_eq, hdest, not_false_eq_true, if_true, true_and]
      cases hm : f.merge e.2 with
      | ok merged =>
        have hsize : e.2.numBits = BloomFilter.DEFAULT_FILTER_SIZE_BITS :=
          (BloomFilter.merge_eq_ok.mp hm).1.symm.trans hf.numBits
        obtain ⟨hdef, hbit⟩ := ih (f := merged) ⟨(BloomFilter.numBits_merge hm).trans hf.numBits,
          (BloomFilter.hashCount_merge hm).trans hf.hashCount⟩
        refine ⟨hdef, fun j => (hbit j).trans ?_⟩
        rw [BloomFilter.getBit_merge hm, Bool.or_eq_true, or_assoc]
        simp only [hsize, true_and]
      | error err =>
        have hsize : e.2.numBits ≠ BloomFilter.DEFAULT_FILTER_SIZE_BITS := by
          intro hsize
          unfold BloomFilter.merge at hm
          rw [if_neg (not_not.mpr (hf.numBits.trans hsize.symm))] at hm
          cases hm
        obtain ⟨hdef, hbit⟩ := ih hf
        refine ⟨hdef, fun j => (hbit j).trans ?_⟩
        simp only [hsize, false_and, false_or]

section Outgoing

variable [Sha256] {s : BloomState} {dest : NodeAddr} {filters filters' : Map NodeAddr BloomFilter}

/-- A bit the node sets for itself or for a dependent. -/
def OwnBit (s : BloomState) (j : Nat) : Prop :=
  ∃ a, (a = s.ownNodeAddr ∨ a ∈ s.leafDependents) ∧
    ∃ i < BloomFilter.DEFAULT_HASH_COUNT.toNat, j = BloomFilter.new.hash a.bytes i

/-- A bit of a filter of the default size from a peer other than `dest`. -/
def PeerBit (filters : Map NodeAddr BloomFilter) (dest : NodeAddr) (j : Nat) : Prop :=
  ∃ p f, filters.lookup p = some f ∧ p ≠ dest ∧
    f.numBits = BloomFilter.DEFAULT_FILTER_SIZE_BITS ∧ f.getBit j = true

/-- Inserting addresses one after the other. -/
theorem foldl_insert_spec {f : BloomFilter} (hf : Default f) (as : List NodeAddr) :
    Default (as.foldl BloomFilter.insert f) ∧ ∀ j,
      (as.foldl BloomFilter.insert f).getBit j = true ↔ f.getBit j = true ∨
        ∃ a ∈ as, ∃ i < BloomFilter.DEFAULT_HASH_COUNT.toNat, j = BloomFilter.new.hash a.bytes i := by
  induction as generalizing f with
  | nil => exact ⟨hf, fun j => by simp⟩
  | cons a as ih =>
    have hins : Default (f.insert a) :=
      ⟨(BloomFilter.numBits_insert hf.pos a).trans hf.numBits,
        (BloomFilter.hashCount_insert hf.pos a).trans hf.hashCount⟩
    obtain ⟨hdef, hbit⟩ := ih hins
    refine ⟨hdef, fun j => ?_⟩
    have hsize : f.numBits = BloomFilter.new.numBits := hf.numBits.trans default_new.numBits.symm
    rw [List.foldl_cons, hbit, BloomFilter.getBit_insert hf.pos, hf.hashCount]
    simp only [BloomFilter.hash_congr hsize, List.mem_cons, exists_eq_or_imp]
    rw [or_assoc]

theorem baseFilter_spec (s : BloomState) :
    Default s.baseFilter ∧ ∀ j, s.baseFilter.getBit j = true ↔ s.OwnBit j := by
  obtain ⟨hdef, hbit⟩ := foldl_insert_spec default_new (s.ownNodeAddr :: s.leafDependents)
  refine ⟨hdef, fun j => ?_⟩
  change ((s.ownNodeAddr :: s.leafDependents).foldl BloomFilter.insert BloomFilter.new).getBit j =
    true ↔ _
  rw [hbit, getBit_new]
  simp only [Bool.false_eq_true, false_or, List.mem_cons]
  rfl

/-- **The outgoing filter**: default parameters, own bits and the other peers' bits. -/
theorem computeOutgoingFilter_spec (s : BloomState) (dest : NodeAddr)
    (filters : Map NodeAddr BloomFilter) :
    Default (s.computeOutgoingFilter dest filters) ∧
      ∀ j, (s.computeOutgoingFilter dest filters).getBit j = true ↔
        s.OwnBit j ∨ PeerBit filters dest j := by
  obtain ⟨hbase, hown⟩ := s.baseFilter_spec
  obtain ⟨hdef, hbit⟩ := foldl_merge_spec hbase dest filters.entries
  refine ⟨hdef, fun j => (hbit j).trans (or_congr (hown j) ?_)⟩
  constructor
  · rintro ⟨⟨p, f⟩, hmem, hp, hsize, hj⟩
    exact ⟨p, f, Map.mem_entries_iff.mp hmem, hp, hsize, hj⟩
  · rintro ⟨p, f, hl, hp, hsize, hj⟩
    exact ⟨⟨p, f⟩, Map.mem_entries_iff.mpr hl, hp, hsize, hj⟩

/-- Only the other peers' filters matter. -/
theorem computeOutgoingFilter_congr {s' : BloomState} (hown : s'.ownNodeAddr = s.ownNodeAddr)
    (hleaf : s'.leafDependents = s.leafDependents)
    (hfilters : ∀ p, p ≠ dest → filters'.lookup p = filters.lookup p) :
    s'.computeOutgoingFilter dest filters' = s.computeOutgoingFilter dest filters := by
  obtain ⟨hdef, hbit⟩ := s.computeOutgoingFilter_spec dest filters
  obtain ⟨hdef', hbit'⟩ := s'.computeOutgoingFilter_spec dest filters'
  refine BloomFilter.ext_getBit (hdef'.numBits.trans hdef.numBits.symm)
    (hdef'.hashCount.trans hdef.hashCount.symm) fun j => ?_
  rw [Bool.eq_iff_iff, hbit, hbit']
  refine or_congr ?_ ?_
  · unfold OwnBit
    rw [hown, hleaf]
  · refine exists_congr fun p => exists_congr fun f => ?_
    constructor
    · rintro ⟨hl, hp, hrest⟩
      exact ⟨hfilters p hp ▸ hl, hp, hrest⟩
    · rintro ⟨hl, hp, hrest⟩
      exact ⟨(hfilters p hp).symm ▸ hl, hp, hrest⟩

/-- **Members of the other peers' filters.** A member of a filter of the default size is one of the
outgoing filter exactly when its probes beyond that filter's own hash count, up to the default
one, hit set bits. -/
theorem contains_computeOutgoingFilter_iff {p : NodeAddr} {f : BloomFilter}
    (hl : filters.lookup p = some f) (hp : p ≠ dest)
    (hsize : f.numBits = BloomFilter.DEFAULT_FILTER_SIZE_BITS) {a : NodeAddr}
    (ha : f.contains a = true) :
    (s.computeOutgoingFilter dest filters).contains a = true ↔
      ∀ i, f.hashCount.toNat ≤ i → i < BloomFilter.DEFAULT_HASH_COUNT.toNat →
        s.OwnBit (f.hash a.bytes i) ∨ PeerBit filters dest (f.hash a.bytes i) := by
  obtain ⟨hdef, hbit⟩ := s.computeOutgoingFilter_spec dest filters
  have hhash : ∀ i, (s.computeOutgoingFilter dest filters).hash a.bytes i = f.hash a.bytes i :=
    fun i => BloomFilter.hash_congr (hdef.numBits.trans hsize.symm) _ i
  rw [BloomFilter.contains_iff] at ha ⊢
  rw [hdef.hashCount]
  simp only [hhash, hbit]
  constructor
  · intro hall i _ hi
    exact hall i hi
  · intro hrest i hi
    by_cases hfi : i < f.hashCount.toNat
    · exact .inr ⟨p, f, hl, hp, hsize, ha i hfi⟩
    · exact hrest i (Nat.not_lt.mp hfi) hi

end Outgoing

/-! ## Marks -/

section Marks

variable [Sha256]

/-- **Who is marked**: the peers other than the sender whose outgoing filter changed. Nothing else
changes. -/
theorem markChangedPeers_spec (s : BloomState) (excludeFrom : NodeAddr) (peerAddrs : List NodeAddr)
    (filters : Map NodeAddr BloomFilter) :
    ∃ pending, s.markChangedPeers excludeFrom peerAddrs filters =
        { s with pendingUpdates := pending } ∧
      ∀ p, p ∈ pending ↔ p ∈ s.pendingUpdates ∨
        (p ∈ peerAddrs ∧ p ≠ excludeFrom ∧ s.changed p filters = true) := by
  induction peerAddrs generalizing s with
  | nil => exact ⟨s.pendingUpdates, rfl, fun p => by simp⟩
  | cons q qs ih =>
    have hcons : ∀ t, t = (if q = excludeFrom then s
        else if s.changed q filters then s.markUpdateNeeded q else s) →
        s.markChangedPeers excludeFrom (q :: qs) filters =
          t.markChangedPeers excludeFrom qs filters := fun t ht => by rw [ht]; rfl
    by_cases hq : q = excludeFrom
    · obtain ⟨pending, hout, hmem⟩ := ih s
      refine ⟨pending, (hcons s (by rw [if_pos hq])).trans hout, fun p => (hmem p).trans ?_⟩
      refine or_congr Iff.rfl ⟨fun h => ⟨.tail _ h.1, h.2⟩, fun ⟨h, hne, hc⟩ => ⟨?_, hne, hc⟩⟩
      exact (List.mem_cons.mp h).resolve_left fun h => hne (h.trans hq)
    · by_cases hc : s.changed q filters = true
      · obtain ⟨pending, hout, hmem⟩ := ih (s.markUpdateNeeded q)
        refine ⟨pending, (hcons _ (by rw [if_neg hq, if_pos hc])).trans hout, fun p => ?_⟩
        have hsame : (s.markUpdateNeeded q).changed p filters = s.changed p filters := rfl
        rw [hmem, hsame, markUpdateNeeded, Finset.mem_insert, List.mem_cons]
        constructor
        · rintro ((rfl | h) | ⟨h, hrest⟩)
          · exact .inr ⟨.inl rfl, hq, hc⟩
          · exact .inl h
          · exact .inr ⟨.inr h, hrest⟩
        · rintro (h | ⟨rfl | h, hrest⟩)
          · exact .inl (.inr h)
          · exact .inl (.inl rfl)
          · exact .inr ⟨h, hrest⟩
      · obtain ⟨pending, hout, hmem⟩ := ih s
        refine ⟨pending, (hcons s (by rw [if_neg hq, if_neg hc])).trans hout, fun p => ?_⟩
        rw [hmem, List.mem_cons]
        refine or_congr Iff.rfl ⟨fun h => ⟨.inr h.1, h.2⟩, fun ⟨h, hne, hcp⟩ => ⟨?_, hne, hcp⟩⟩
        exact h.resolve_left fun h => hc (h ▸ hcp)

end Marks

end BloomState

end Fips
