import Fips.Node.MessageIndices

/-!
# Link ids

A connection and a connect under way are known by their link ids, which the node counts up. `LinkIds`
says that no id is used twice and that every connection has what `start_handshake` and `handle_msg1`
give it; unlike the index books (`LinkNode.Inv`) it needs nothing of the peers, so that every event
keeps it. The lemmas are the changes the handlers make.

## Results

* `LinkIds.addConnection`, `LinkIds.eraseConnection`, `LinkIds.mapConnection`: connections.
* `LinkIds.addWaiting`, `LinkIds.eraseWaiting`: connects under way.
-/

open Checked

namespace Fips

namespace LinkNode

variable {SecretKey PublicKey ν μ : Type}

/-- What identifies connections and connects under way. -/
structure LinkIds (n : LinkNode SecretKey PublicKey ν μ) : Prop where
  connections : ∀ l c, n.connections.lookup l = some c → c.ourIndex.isSome ∧ c.transportId.isSome
  fresh : ∀ l, n.nextLinkId ≤ l → n.connections.lookup l = none
  waiting : ∀ pc ∈ n.pendingConnects,
    n.connections.lookup pc.linkId = none ∧ pc.linkId < n.nextLinkId
  once : (n.pendingConnects.map (·.linkId)).Nodup

/-- The id was counted and is not in use. -/
structure Unused (n : LinkNode SecretKey PublicKey ν μ) (l : LinkId) : Prop where
  connection : n.connections.lookup l = none
  counted : l < n.nextLinkId
  waiting : ∀ pc ∈ n.pendingConnects, pc.linkId ≠ l

section LinkIds

variable {n n' : LinkNode SecretKey PublicKey ν μ} {l : LinkId}
  {c : PeerConnection SecretKey PublicKey}

theorem LinkIds.congr (h : n.LinkIds)
    (hconnections : ∀ l, n'.connections.lookup l = n.connections.lookup l)
    (hnext : n'.nextLinkId = n.nextLinkId) (hwaiting : n'.pendingConnects = n.pendingConnects) :
    n'.LinkIds := by
  refine ⟨fun l c hc => ?_, fun l hl => ?_, fun pc hpc => ?_, ?_⟩
  · exact h.connections l c (hconnections l ▸ hc)
  · rw [hconnections]
    exact h.fresh l (hnext ▸ hl)
  · rw [hconnections, hnext]
    exact h.waiting pc (hwaiting ▸ hpc)
  · rw [hwaiting]
    exact h.once

theorem Unused.congr (h : n.Unused l)
    (hconnections : ∀ l, n'.connections.lookup l = n.connections.lookup l)
    (hnext : n'.nextLinkId = n.nextLinkId) (hwaiting : n'.pendingConnects = n.pendingConnects) :
    n'.Unused l := by
  refine ⟨?_, ?_, ?_⟩
  · rw [hconnections]
    exact h.connection
  · rw [hnext]
    exact h.counted
  · rw [hwaiting]
    exact h.waiting

theorem LinkIds.countLink (h : n.LinkIds) :
    LinkIds { n with nextLinkId := n.nextLinkId + 1 } ∧
      Unused { n with nextLinkId := n.nextLinkId + 1 } n.nextLinkId :=
  ⟨⟨h.connections, fun l hl => h.fresh l (Nat.le_of_succ_le hl),
      fun pc hpc => ⟨(h.waiting pc hpc).1, Nat.lt_succ_of_lt (h.waiting pc hpc).2⟩, h.once⟩,
    ⟨h.fresh _ le_rfl, Nat.lt_succ_self _, fun pc hpc => Nat.ne_of_lt (h.waiting pc hpc).2⟩⟩

theorem LinkIds.addConnection (h : n.LinkIds) (hl : n.Unused l) (hindex : c.ourIndex.isSome)
    (htid : c.transportId.isSome) :
    LinkIds { n with connections := n.connections.insert l c } := by
  refine ⟨fun l' c' hc' => ?_, fun l' hl' => ?_, fun pc hpc => ?_, h.once⟩
  · change (n.connections.insert l c).lookup l' = some c' at hc'
    rw [Map.lookup_insert'] at hc'
    split_ifs at hc' with heq
    · cases hc'
      exact ⟨hindex, htid⟩
    · exact h.connections l' c' hc'
  · change (n.connections.insert l c).lookup l' = none
    rw [Map.lookup_insert', if_neg (Nat.ne_of_gt (Nat.lt_of_lt_of_le hl.counted hl'))]
    exact h.fresh l' hl'
  · refine ⟨?_, (h.waiting pc hpc).2⟩
    change (n.connections.insert l c).lookup pc.linkId = none
    rw [Map.lookup_insert', if_neg (hl.waiting pc hpc)]
    exact (h.waiting pc hpc).1

theorem LinkIds.eraseConnection (h : n.LinkIds) (l : LinkId) :
    LinkIds { n with connections := n.connections.erase l } := by
  have hlookup : ∀ l', n.connections.lookup l' = none →
      (n.connections.erase l).lookup l' = none := by
    intro l' hl'
    rw [Map.lookup_erase', hl', ite_self]
  refine ⟨fun l' c' hc' => ?_, fun l' hl' => hlookup l' (h.fresh l' hl'), fun pc hpc => ?_, h.once⟩
  · change (n.connections.erase l).lookup l' = some c' at hc'
    rw [Map.lookup_erase'] at hc'
    split_ifs at hc'
    exact h.connections l' c' hc'
  · exact ⟨hlookup pc.linkId (h.waiting pc hpc).1, (h.waiting pc hpc).2⟩

/-- A connection is written back with what it holds. -/
theorem LinkIds.putConnection (h : n.LinkIds) (hc : n.connections.lookup l = some c)
    {c' : PeerConnection SecretKey PublicKey} (hindex : c'.ourIndex = c.ourIndex)
    (htid : c'.transportId = c.transportId) :
    LinkIds { n with connections := n.connections.insert l c' } := by
  have hlookup : ∀ l', n.connections.lookup l' = none →
      (n.connections.insert l c').lookup l' = none := by
    intro l' hl'
    rw [Map.lookup_insert', if_neg (fun heq => ?_), hl']
    rw [heq, hc] at hl'
    cases hl'
  refine ⟨fun l' c'' hc'' => ?_, fun l' hl' => hlookup l' (h.fresh l' hl'), fun pc hpc => ?_, h.once⟩
  · change (n.connections.insert l c').lookup l' = some c'' at hc''
    rw [Map.lookup_insert'] at hc''
    split_ifs at hc'' with heq
    · cases hc''
      rw [hindex, htid]
      exact h.connections l c hc
    · exact h.connections l' c'' hc''
  · exact ⟨hlookup pc.linkId (h.waiting pc hpc).1, (h.waiting pc hpc).2⟩

theorem LinkIds.mapConnection (h : n.LinkIds) (l : LinkId)
    {f : PeerConnection SecretKey PublicKey → PeerConnection SecretKey PublicKey}
    (hf : ∀ c, (f c).ourIndex = c.ourIndex ∧ (f c).transportId = c.transportId) :
    LinkIds { n with connections := n.connections.modify l f } := by
  unfold Map.modify
  cases hc : n.connections.lookup l with
  | none => exact h
  | some c => exact h.putConnection hc (hf c).1 (hf c).2

/-- A connect starts. -/
theorem LinkIds.addWaiting (h : n.LinkIds) (hl : n.Unused l) {pc : PendingConnect PublicKey}
    (hpc : pc.linkId = l) :
    LinkIds { n with pendingConnects := n.pendingConnects ++ [pc] } := by
  refine ⟨h.connections, h.fresh, fun pc' hpc' => ?_, ?_⟩
  · rcases List.mem_append.mp hpc' with hold | hnew
    · exact h.waiting pc' hold
    · rw [List.mem_singleton.mp hnew, hpc]
      exact ⟨hl.connection, hl.counted⟩
  · change ((n.pendingConnects ++ [pc]).map (·.linkId)).Nodup
    simp only [List.map_append, List.map_cons, List.map_nil]
    refine List.nodup_append.mpr ⟨h.once, List.nodup_singleton _, fun l' hl' l'' hl'' => ?_⟩
    obtain ⟨pc', hpc', rfl⟩ := List.mem_map.mp hl'
    rw [List.mem_singleton.mp hl'', hpc]
    exact hl.waiting pc' hpc'

/-- A connect is done with, which leaves its id unused. -/
theorem LinkIds.eraseWaiting (h : n.LinkIds) {i : Nat} {pc : PendingConnect PublicKey}
    (hi : n.pendingConnects[i]? = some pc) :
    LinkIds { n with pendingConnects := n.pendingConnects.eraseIdx i } ∧
      Unused { n with pendingConnects := n.pendingConnects.eraseIdx i } pc.linkId := by
  have hsub : ∀ pc' ∈ n.pendingConnects.eraseIdx i, pc' ∈ n.pendingConnects :=
    fun _ hpc' => List.mem_of_mem_eraseIdx hpc'
  have hwait := h.waiting pc (List.mem_of_getElem? hi)
  refine ⟨⟨h.connections, h.fresh, fun pc' hpc' => h.waiting pc' (hsub pc' hpc'), ?_⟩,
    ⟨hwait.1, hwait.2, fun pc' hpc' heq => ?_⟩⟩
  · change ((n.pendingConnects.eraseIdx i).map (·.linkId)).Nodup
    exact h.once.sublist ((List.eraseIdx_sublist ..).map _)
  · obtain ⟨j, hji, hj⟩ := List.mem_eraseIdx_iff_getElem?.mp hpc'
    refine hji ((List.getElem?_inj ?_ h.once).mp ?_)
    · rw [List.length_map]
      exact (List.getElem?_eq_some_iff.mp hj).1
    · rw [List.getElem?_map, List.getElem?_map, hi, hj]
      exact congrArg some heq

end LinkIds

end LinkNode

end Fips
