import Fips.Lib.Ledger
import Fips.Node.Rekey

/-!
# Who holds which session index

The abstract side of the index bookkeeping: a session index is held by a pending connection or by one
of the four slots of an active peer, and may be registered under some transports. `IndexBooks` keeps
no more than that.

`Accounted` is the purpose of the bookkeeping. The lemmas of `Inv` are the steps it takes: an index is
taken, given back, moved from one holder to another, registered.

## Results

* `Inv.take`, `Inv.release`, `Inv.move`, `Inv.register`: the steps keep the invariant behind
  `Accounted`.
* `Inv.moveSlot`, `Inv.cutover`, `Inv.releasePeer`: what a peer does with its slots.
-/

namespace Fips

open Function (update update_self update_of_ne update_eq_self)

/-- The places of an active peer that hold an index. -/
inductive Slot
  | current
  | rekey
  | pending
  | previous
  deriving DecidableEq, Repr

/-- The indices of a peer. -/
def ActivePeer.held {SecretKey PublicKey ν : Type} (p : ActivePeer SecretKey PublicKey ν) :
    Slot → Option SessionIndex
  | .current => p.ourIndex
  | .rekey => p.rekeyOurIndex
  | .pending => p.pendingOurIndex
  | .previous => p.previousOurIndex

/-- Who may hold an index. -/
inductive Holder
  | connection (linkId : LinkId)
  | slot (addr : NodeAddr) (s : Slot)
  deriving DecidableEq

/-- Who holds which index, which are registered for a peer, and which are allocated. -/
@[ext] structure IndexBooks where
  held : Holder → Option SessionIndex
  registry : TransportId × SessionIndex → Option NodeAddr
  allocated : List SessionIndex

namespace IndexBooks

/-- **Index accounting**: the allocated indices are the held ones, each has one holder, and a
registered index is held by the peer it is registered for. -/
structure Accounted (b : IndexBooks) : Prop where
  balanced : Ledger.Balanced b.held b.allocated
  registered : ∀ tid i a, b.registry (tid, i) = some a → ∃ s, b.held (.slot a s) = some i

/-- Beside it: the index of a rekey under way is not registered yet. -/
structure Inv (b : IndexBooks) : Prop extends Accounted b where
  unregistered : ∀ a i tid, b.held (.slot a .rekey) = some i → b.registry (tid, i) = none

variable {b : IndexBooks} {h h' : Holder} {i : SessionIndex} {a : NodeAddr} {tid : TransportId}

theorem Inv.registry_eq_none_of_free (hb : b.Inv) (hi : i ∉ b.allocated) (tid : TransportId) :
    b.registry (tid, i) = none := by
  refine Option.eq_none_iff_forall_ne_some.mpr fun a ha => ?_
  obtain ⟨s, hs⟩ := hb.registered tid i a ha
  exact hi (hb.balanced.mem hs)

theorem Inv.registry_eq_none_of_connection (hb : b.Inv) {l : LinkId}
    (hi : b.held (.connection l) = some i) (tid : TransportId) : b.registry (tid, i) = none := by
  refine Option.eq_none_iff_forall_ne_some.mpr fun a ha => ?_
  obtain ⟨s, hs⟩ := hb.registered tid i a ha
  have hsame := hb.balanced.unique _ _ i hi hs
  cases hsame

/-- A free index is taken. -/
theorem Inv.take (hb : b.Inv) (hh : b.held h = none) (hi : i ∉ b.allocated) :
    Inv { b with held := update b.held h (some i), allocated := i :: b.allocated } where
  balanced := hb.balanced.take hh hi
  registered tid j a ha := by
    obtain ⟨s, hs⟩ := hb.registered tid j a ha
    refine ⟨s, ?_⟩
    change update b.held h (some i) (.slot a s) = some j
    rw [update_of_ne (fun heq => ?_), hs]
    rw [heq, hh] at hs
    cases hs
  unregistered a j tid hj := by
    change update b.held h (some i) (.slot a .rekey) = some j at hj
    by_cases heq : Holder.slot a .rekey = h
    · rw [heq, update_self] at hj
      cases hj
      exact hb.registry_eq_none_of_free hi tid
    · rw [update_of_ne heq] at hj
      exact hb.unregistered a j tid hj

/-- A held index is given back, with every entry of it. -/
theorem Inv.release (hb : b.Inv) (hi : b.held h = some i)
    (registry : TransportId × SessionIndex → Option NodeAddr)
    (hsub : ∀ k a, registry k = some a → b.registry k = some a)
    (hgone : ∀ tid, registry (tid, i) = none) :
    Inv ⟨update b.held h none, registry, b.allocated.erase i⟩ where
  balanced := hb.balanced.release hi
  registered tid j a ha := by
    obtain ⟨s, hs⟩ := hb.registered tid j a (hsub _ a ha)
    refine ⟨s, ?_⟩
    change update b.held h none (.slot a s) = some j
    rw [update_of_ne (fun heq => ?_), hs]
    rw [heq, hi] at hs
    change registry (tid, j) = some a at ha
    rw [← Option.some.inj hs, hgone tid] at ha
    cases ha
  unregistered a j tid hj := by
    change update b.held h none (.slot a .rekey) = some j at hj
    by_cases heq : Holder.slot a .rekey = h
    · rw [heq, update_self] at hj
      cases hj
    · rw [update_of_ne heq] at hj
      have hnone := hb.unregistered a j tid hj
      refine Option.eq_none_iff_forall_ne_some.mpr fun c hc => ?_
      rw [hsub _ c hc] at hnone
      cases hnone

/-- A connection gives its index back. -/
theorem Inv.releaseConnection (hb : b.Inv) {l : LinkId} (hi : b.held (.connection l) = some i) :
    Inv { b with held := update b.held (.connection l) none, allocated := b.allocated.erase i } :=
  hb.release hi b.registry (fun _ _ hk => hk) (hb.registry_eq_none_of_connection hi)

/-- An index, if there is one, changes its holder; one that is registered stays with its peer. -/
theorem Inv.move (hb : b.Inv) (h h' : Holder) (hh' : b.held h' = none) (hne : ∀ a, h' ≠ .slot a .rekey)
    (hpeer : ∀ i tid a, b.held h = some i → b.registry (tid, i) = some a → ∃ s, h' = .slot a s) :
    Inv { b with held := update (update b.held h none) h' (b.held h) } := by
  cases hi : b.held h with
  | none =>
    have hsame : update (update b.held h none) h' none = b.held := by
      have herase : update b.held h none = b.held := by rw [← hi, update_eq_self]
      rw [herase, ← hh', update_eq_self]
    rw [hsame]
    exact hb
  | some i =>
    refine ⟨⟨hb.balanced.move hi hh', ?_⟩, ?_⟩
    · intro tid j a ha
      obtain ⟨s, hs⟩ := hb.registered tid j a ha
      by_cases heq : Holder.slot a s = h
      · rw [heq, hi] at hs
        cases hs
        obtain ⟨s', rfl⟩ := hpeer i tid a hi ha
        exact ⟨s', update_self ..⟩
      · refine ⟨s, ?_⟩
        change update (update b.held h none) h' (some i) (.slot a s) = some j
        rw [update_of_ne (fun heq' => ?_), update_of_ne heq, hs]
        rw [heq', hh'] at hs
        cases hs
    · intro a j tid hj
      change update (update b.held h none) h' (some i) (.slot a .rekey) = some j at hj
      rw [update_of_ne (hne a).symm] at hj
      by_cases heq : Holder.slot a .rekey = h
      · rw [heq, update_self] at hj
        cases hj
      · rw [update_of_ne heq] at hj
        exact hb.unregistered a j tid hj

/-- An index is registered for the peer that holds it. -/
theorem Inv.register (hb : b.Inv) {s : Slot} (hi : b.held (.slot a s) = some i) (hs : s ≠ .rekey)
    (tid : TransportId) : Inv { b with registry := update b.registry (tid, i) (some a) } where
  balanced := hb.balanced
  registered tid' j a' ha := by
    change update b.registry (tid, i) (some a) (tid', j) = some a' at ha
    by_cases heq : (tid', j) = (tid, i)
    · rw [heq, update_self] at ha
      cases ha
      cases heq
      exact ⟨s, hi⟩
    · rw [update_of_ne heq] at ha
      exact hb.registered tid' j a' ha
  unregistered a' j tid' hj := by
    change update b.registry (tid, i) (some a) (tid', j) = none
    rw [update_of_ne (fun heq => ?_)]
    · exact hb.unregistered a' j tid' hj
    · obtain ⟨-, rfl⟩ := Prod.mk.inj heq
      have hsame := hb.balanced.unique _ _ j hj hi
      cases hsame
      exact hs rfl

/-! ## One peer -/

/-- What the slots of one peer hold. -/
def slots (b : IndexBooks) (a : NodeAddr) : Slot → Option SessionIndex := fun s => b.held (.slot a s)

/-- The slots of one peer are written. -/
def setPeer (b : IndexBooks) (a : NodeAddr) (f : Slot → Option SessionIndex) : IndexBooks :=
  { b with held := fun h =>
      match h with
      | .connection l => b.held (.connection l)
      | .slot a' s => if a' = a then f s else b.held (.slot a' s) }

@[simp] theorem registry_setPeer (f : Slot → Option SessionIndex) :
    (b.setPeer a f).registry = b.registry := rfl

@[simp] theorem allocated_setPeer (f : Slot → Option SessionIndex) :
    (b.setPeer a f).allocated = b.allocated := rfl

@[simp] theorem held_setPeer_connection (f : Slot → Option SessionIndex) (l : LinkId) :
    (b.setPeer a f).held (.connection l) = b.held (.connection l) := rfl

@[simp] theorem held_setPeer_slot (f : Slot → Option SessionIndex) (a' : NodeAddr) (s : Slot) :
    (b.setPeer a f).held (.slot a' s) = if a' = a then f s else b.held (.slot a' s) := rfl

theorem setPeer_slots (b : IndexBooks) (a : NodeAddr) : b.setPeer a (b.slots a) = b := by
  refine IndexBooks.ext (funext fun h => ?_) rfl rfl
  cases h with
  | connection l => rfl
  | slot a' s =>
    rw [held_setPeer_slot]
    split_ifs with ha
    · rw [ha]
      rfl
    · rfl

theorem held_setPeer_update (b : IndexBooks) (a : NodeAddr) (s : Slot) (x : Option SessionIndex) :
    (b.setPeer a (update (b.slots a) s x)).held = update b.held (.slot a s) x := by
  refine funext fun h => ?_
  cases h with
  | connection l =>
    rw [update_of_ne (fun heq => by cases heq)]
    rfl
  | slot a' s' =>
    rw [held_setPeer_slot]
    by_cases ha : a' = a
    · rw [if_pos ha, ha]
      by_cases hs : s' = s
      · rw [hs, update_self, update_self]
      · rw [update_of_ne hs, update_of_ne (fun heq => by cases heq; exact hs rfl)]
        rfl
    · rw [if_neg ha, update_of_ne (fun heq => by cases heq; exact ha rfl)]

theorem slots_setPeer (b : IndexBooks) (a : NodeAddr) (f : Slot → Option SessionIndex) :
    (b.setPeer a f).slots a = f := funext fun _ => if_pos rfl

theorem setPeer_setPeer (b : IndexBooks) (a : NodeAddr) (f g : Slot → Option SessionIndex) :
    (b.setPeer a f).setPeer a g = b.setPeer a g := by
  refine IndexBooks.ext (funext fun h => ?_) rfl rfl
  cases h with
  | connection l => rfl
  | slot a' s =>
    simp only [held_setPeer_slot]
    split_ifs <;> rfl

/-- The index of one slot, if there is one, goes to another. -/
theorem Inv.moveSlot (hb : b.Inv) {s s' : Slot} (hs' : b.slots a s' = none) (hne : s' ≠ .rekey) :
    (b.setPeer a (update (update (b.slots a) s none) s' (b.slots a s))).Inv := by
  have hmoved := hb.move (.slot a s) (.slot a s') hs'
    (fun a' heq => by cases heq; exact hne rfl) fun i tid a' hi hreg => by
      obtain ⟨t, ht⟩ := hb.registered tid i a' hreg
      have hsame := hb.balanced.unique _ _ i hi ht
      cases hsame
      exact ⟨s', rfl⟩
  convert hmoved using 1
  refine IndexBooks.ext ?_ rfl rfl
  have herased : b.setPeer a (update (update (b.slots a) s none) s' (b.slots a s)) =
      (b.setPeer a (update (b.slots a) s none)).setPeer a
        (update ((b.setPeer a (update (b.slots a) s none)).slots a) s' (b.slots a s)) := by
    rw [setPeer_setPeer, slots_setPeer]
  rw [herased, held_setPeer_update, held_setPeer_update]
  rfl

/-- **The cutover** of a peer without a draining index. -/
theorem Inv.cutover (hb : b.Inv) (hprevious : b.slots a .previous = none) :
    (b.setPeer a (update (update (update (b.slots a) .previous (b.slots a .current)) .current
      (b.slots a .pending)) .pending none)).Inv := by
  have hdemoted := hb.moveSlot (s := .current) hprevious (by decide)
  have hfree : (b.setPeer a (update (update (b.slots a) .current none) .previous
      (b.slots a .current))).slots a .current = none := by
    rw [slots_setPeer]
    simp
  have hpromoted := hdemoted.moveSlot (s := .pending) hfree (by decide)
  rw [setPeer_setPeer, slots_setPeer] at hpromoted
  convert hpromoted using 2
  refine funext fun s => ?_
  cases s <;> simp [update]

/-- The four slots in the order a removal frees them. -/
def peerHolders (a : NodeAddr) : List Holder :=
  [.slot a .current, .slot a .rekey, .slot a .pending, .slot a .previous]

/-- **A removed peer** gives back what its slots hold, with every entry. -/
theorem Inv.releasePeer (hb : b.Inv)
    (registry : TransportId × SessionIndex → Option NodeAddr)
    (hsub : ∀ k a, registry k = some a → b.registry k = some a)
    (hgone : ∀ s i tid, b.slots a s = some i → registry (tid, i) = none) :
    Inv ⟨(b.setPeer a fun _ => none).held, registry,
      (peerHolders a).foldl (fun used h => Ledger.giveBack used (b.held h)) b.allocated⟩ where
  balanced := by
    have hmem : ∀ s, Holder.slot a s ∈ peerHolders a := fun s => by cases s <;> simp [peerHolders]
    refine (hb.balanced.releaseAll (peerHolders a) (by simp [peerHolders])).congr fun h => ?_
    cases h with
    | connection l => simp [peerHolders]
    | slot a' s =>
      rw [held_setPeer_slot]
      by_cases ha : a' = a
      · rw [if_pos ha, ha, if_pos (hmem s)]
      · rw [if_neg ha, if_neg (by simp [peerHolders, ha])]
  registered tid j a' ha := by
    obtain ⟨s, hs⟩ := hb.registered tid j a' (hsub _ a' ha)
    refine ⟨s, ?_⟩
    change (b.setPeer a fun _ => none).held (.slot a' s) = some j
    rw [held_setPeer_slot, if_neg (fun heq => ?_), hs]
    rw [heq] at hs
    change registry (tid, j) = some a' at ha
    rw [hgone s j tid hs] at ha
    cases ha
  unregistered a' j tid hj := by
    change (b.setPeer a fun _ => none).held (.slot a' .rekey) = some j at hj
    rw [held_setPeer_slot] at hj
    split_ifs at hj with ha
    have hnone := hb.unregistered a' j tid hj
    refine Option.eq_none_iff_forall_ne_some.mpr fun c hc => ?_
    rw [hsub _ c hc] at hnone
    cases hnone

end IndexBooks

end Fips
