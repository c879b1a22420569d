import Fips.Lib.Run
import Fips.Node.Bloom
import Fips.Node.RootElection

/-!
# Members of the filters a node passes on

`merge` compares the sizes of two filters but not their hash counts, and `FilterAnnounce::decode`
accepts any hash count above zero, while every outgoing filter is asked for five probes. So a member
of a received filter whose hash count is below five is passed on only by chance.

## Results

* `contains_outgoing_iff`: in every run, a member of a tree peer's filter is a member of the outgoing
  filter for another peer exactly when its probes beyond the received filter's hash count hit bits
  that the node or another peer sets; and the same of a single merge.
* `low_hash_count_loses_member`: a run whose outgoing filter lacks a member of a tree peer's filter.
-/

namespace Fips

namespace BloomNode

variable {SecretKey PublicKey Signature F : Type} [LinkCost F] [SigningKey SecretKey Signature]
  [VerifyingKey PublicKey Signature] [Sha256]

/-- **Members on the propagation path.** -/
theorem contains_outgoing_iff (tree : TreeNode SecretKey PublicKey Signature F)
    (updateDebounceMs : Nat) (leafDependents : List NodeAddr)
    (events : List (BloomEvent PublicKey Signature F)) :
    let n := EventRun.exec step (new tree updateDebounceMs leafDependents) events
    (∀ dest p f a, n.peerInboundFilters.lookup p = some f → p ≠ dest → f.contains a = true →
      ((n.bloomState.computeOutgoingFilter dest n.peerInboundFilters).contains a = true ↔
        ∀ i, f.hashCount.toNat ≤ i → i < BloomFilter.DEFAULT_HASH_COUNT.toNat →
          n.bloomState.OwnBit (f.hash a.bytes i) ∨
            BloomState.PeerBit n.peerInboundFilters dest (f.hash a.bytes i))) ∧
    (∀ (f g h : BloomFilter) a, f.merge g = .ok h →
      (f.contains a = true → h.contains a = true) ∧
      (g.contains a = true → (h.contains a = true ↔
        ∀ i, g.hashCount.toNat ≤ i → i < f.hashCount.toNat →
          (f.getBit (f.hash a.bytes i) || g.getBit (f.hash a.bytes i)) = true))) := by
  intro n
  have hrun : EventRun.Always step Sized (new tree updateDebounceMs leafDependents) events :=
    .of_step (fun _ e h => step_sized h e) (new_sized tree updateDebounceMs leafDependents)
  have hsized : n.Sized := hrun.exec
  constructor
  · intro dest p f a hl hp ha
    have hf : (n.slots p).inboundFilter = some f := by
      rw [lookup_peerInboundFilters] at hl
      split_ifs at hl
      exact hl
    exact BloomState.contains_computeOutgoingFilter_iff hl hp (hsized p f hf) ha
  · intro f g h a hm
    exact ⟨BloomFilter.contains_of_merge_left hm, BloomFilter.contains_merge_iff hm⟩

end BloomNode

/-! ## Two runs of node 5

Its tree child 7 announces a filter; peer 8 is the destination. The digest of the sample is the
data itself, so that the probes of an address can be read off its bytes. -/

namespace FilterMembers

open RootElection (start env)

scoped instance : Sha256 := ⟨fun data => data ++ List.replicate 16 0⟩

/-- Its probes are the bits 1, 2, 3, 4 and 5. -/
def member : NodeAddr := 0x01000000000000000100000000000000

/-- Announce number 1: the filter has `hashCount` and the bits of its first byte. -/
def payload (hashCount first : UInt8) : Bytes :=
  leBytes 8 1 ++ hashCount :: 1 :: first :: List.replicate 1023 0

/-- Peers 7 and 8 join, 7 declares node 5 its parent and announces its filter. -/
def events (hashCount first : UInt8) : List (BloomEvent Unit Unit (Option Nat)) :=
  [.tree (.promotePeer 7 () env), .tree (.promotePeer 8 () env),
    .tree (RootElection.announceOf 5 1), .filterAnnounce 7 (payload hashCount first)]

/-- The node after the run. -/
def last (hashCount first : UInt8) : BloomNode Unit Unit Unit (Option Nat) :=
  EventRun.exec BloomNode.step (.new start 500 []) (events hashCount first)

/-- The announced filter. -/
def filter (hashCount first : UInt8) : BloomFilter :=
  ⟨first :: List.replicate 1023 0, hashCount⟩

/-- With five probes, all set, the member is passed on, and a merge into the empty filter keeps it. -/
theorem full_hash_count_keeps_member :
    ((last 5 62).bloomState.computeOutgoingFilter 8 (last 5 62).peerInboundFilters).contains
      member = true ∧ (filter 5 62).contains member = true := by
  have hmember : (filter 5 62).contains member = true := by decide +kernel
  obtain ⟨hpath, hmerge⟩ := BloomNode.contains_outgoing_iff start 500 [] (events 5 62)
  constructor
  · refine (hpath 8 7 (filter 5 62) member (by decide +kernel) (by decide) hmember).mpr ?_
    intro i h5 hi
    exact absurd hi (Nat.not_lt.mpr h5)
  · refine ((hmerge .new (filter 5 62) (filter 5 62) member (by decide +kernel)).2 hmember).mpr ?_
    intro i h5 hi
    exact absurd hi (Nat.not_lt.mpr h5)

/-- With one probe, set, the member is not passed on. -/
theorem low_hash_count_loses_member :
    ¬ ∀ (events : List (BloomEvent Unit Unit (Option Nat))) (dest p : NodeAddr) (f : BloomFilter)
      (a : NodeAddr),
      let n := EventRun.exec BloomNode.step (.new start 500 []) events
      n.peerInboundFilters.lookup p = some f → p ≠ dest → f.contains a = true →
        (n.bloomState.computeOutgoingFilter dest n.peerInboundFilters).contains a = true := by
  intro h
  have hlast := h (events 1 2) 8 7 (filter 1 2) member (by decide +kernel) (by decide)
    (by decide +kernel)
  revert hlast
  decide +kernel

end FilterMembers

end Fips
