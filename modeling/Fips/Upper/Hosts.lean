import Fips.Identity.Encoding
import Fips.Lib.Map
import Fips.Lib.Run
import Mathlib.Algebra.GroupWithZero.Nat

/-!
# Host names

Model of `HostMap` (`upper/hosts.rs`): the npub of a host name and the host name a node is displayed
under. Loading the map from the configuration or from a file is a run of `insert` and is left out,
and so are the errors of reading a file.

An operation overwrites the entry of the name and the entry of the node, and leaves alone what other
nodes are displayed under: a name that is given to another key stays with the first one as well.

## Results

* `agrees_insert_iff`, `agrees_merge_iff`: when an operation keeps the two directions in agreement.
* `History.alwaysAgrees_iff_careful`: they agree throughout a history exactly if each of its
  operations does.
-/

namespace Fips

open AsciiCase

/-- `len()`, in bytes. -/
def Str.byteLen (s : Str) : Nat := (s.map Char.utf8Size).sum

/-- `upper::hosts::HostMap`. -/
structure HostMap where
  byName : Map Str Str
  byAddr : Map NodeAddr Str

/-- The variants of `HostMapError` that `insert` returns. -/
inductive HostMapError
  | invalidHostname (hostname : Str) (reason : String)
  | invalidNpub (npub : Str) (source : IdentityError)
  deriving DecidableEq, Repr

/-- `validate_hostname`. -/
def validateHostname (hostname : Str) : Except HostMapError Unit :=
  if hostname.isEmpty then .error (.invalidHostname hostname "empty hostname")
  else if 63 < hostname.byteLen then
    .error (.invalidHostname hostname "exceeds 63 characters")
  else if ['n', 'p', 'u', 'b', '1'] <+: lowercase hostname then
    .error (.invalidHostname hostname
      "must not start with 'npub1' (ambiguous with npub resolution)")
  else if hostname.head? = some '-' then
    .error (.invalidHostname hostname "must not start with a hyphen")
  else if hostname.getLast? = some '-' then
    .error (.invalidHostname hostname "must not end with a hyphen")
  else
    match hostname.find? fun ch => !ch.isAlphanum && ch != '-' with
    | some ch => .error (.invalidHostname hostname
        ("invalid character '" ++ String.singleton ch ++ "'"))
    | none => .ok ()

namespace HostMap

/-- `HostMap::new`. -/
def new : HostMap := ⟨∅, ∅⟩

/-- `lookup_npub`. -/
def lookupNpub (m : HostMap) (hostname : Str) : Option Str := m.byName.lookup (lowercase hostname)

/-- `lookup_hostname`. -/
def lookupHostname (m : HostMap) (nodeAddr : NodeAddr) : Option Str := m.byAddr.lookup nodeAddr

/-- `merge`. -/
def merge (m other : HostMap) : HostMap :=
  ⟨m.byName.extend other.byName, m.byAddr.extend other.byAddr⟩

theorem lookupHostname_merge (m other : HostMap) (a : NodeAddr) :
    (m.merge other).lookupHostname a = (other.lookupHostname a).or (m.lookupHostname a) :=
  Map.lookup_extend ..

theorem lookupNpub_merge (m other : HostMap) (h : Str) :
    (m.merge other).lookupNpub h = (other.lookupNpub h).or (m.lookupNpub h) :=
  Map.lookup_extend ..

variable (SecretKey : Type) {PublicKey : Type} [Bech32] [Sha256] [Secp256k1 SecretKey PublicKey]

/-- `insert`. -/
def insert (m : HostMap) (hostname npub : Str) : HostMap × Except HostMapError Unit :=
  match validateHostname hostname with
  | .error e => (m, .error e)
  | .ok () =>
    match PeerIdentity.fromNpub SecretKey npub with
    | .error e => (m, .error (.invalidNpub npub e))
    | .ok peer =>
      let key := lowercase hostname
      ({ byName := m.byName.insert key npub
         byAddr := m.byAddr.insert (peer.nodeAddr SecretKey) key }, .ok ())

/-- The address of the key an npub encodes. -/
def npubAddr (npub : Str) : Option NodeAddr :=
  (npubIdentity SecretKey npub).map (·.nodeAddr SecretKey)

/-- The name a node is displayed under belongs to the node. -/
def Agrees (m : HostMap) : Prop :=
  ∀ a h, m.lookupHostname a = some h →
    ∃ npub, m.lookupNpub h = some npub ∧ npubAddr SecretKey npub = some a

/-! ## What the operations keep -/

/-- No other node is displayed under the name that is inserted. -/
def InsertsFreshly (m : HostMap) (hostname npub : Str) : Prop :=
  validateHostname hostname = .ok () → ∀ b, npubAddr SecretKey npub = some b →
    ∀ a h, m.lookupHostname a = some h → lowercase h = lowercase hostname → a = b

/-- The other map gives no name of a displayed node away, unless it displays that node under a name
of its own. -/
def MergesFreshly (m other : HostMap) : Prop :=
  ∀ a h npub, m.lookupHostname a = some h → other.lookupHostname a = none →
    other.lookupNpub h = some npub → npubAddr SecretKey npub = some a

section Step

variable {SecretKey} {m other : HostMap}

variable (SecretKey) in
/-- What an insertion writes. -/
theorem insert_cases (m : HostMap) (hostname npub : Str) :
    (∃ b, validateHostname hostname = .ok () ∧ npubAddr SecretKey npub = some b ∧
      (m.insert SecretKey hostname npub).1 =
        ⟨m.byName.insert (lowercase hostname) npub, m.byAddr.insert b (lowercase hostname)⟩) ∨
    ((validateHostname hostname = .ok () → npubAddr SecretKey npub = none) ∧
      (m.insert SecretKey hostname npub).1 = m) := by
  unfold insert npubAddr npubIdentity
  cases hvalid : validateHostname hostname with
  | error e => exact .inr ⟨fun h => (by cases h), rfl⟩
  | ok u =>
    cases PeerIdentity.fromNpub SecretKey npub with
    | error e => exact .inr ⟨fun _ => rfl, rfl⟩
    | ok peer => exact .inl ⟨_, rfl, rfl, rfl⟩

/-- **An insertion** keeps the agreement exactly if the name is fresh. -/
theorem agrees_insert_iff (hm : m.Agrees SecretKey) (hostname npub : Str) :
    (m.insert SecretKey hostname npub).1.Agrees SecretKey ↔
      m.InsertsFreshly SecretKey hostname npub := by
  rcases m.insert_cases SecretKey hostname npub with ⟨b, hvalid, hb, heq⟩ | ⟨hno, heq⟩
  · rw [heq]
    constructor
    · intro hagrees _ b' hb' a h ha hh
      cases hb.symm.trans hb'
      by_contra hne
      obtain ⟨npub', hnpub', haddr⟩ := hagrees a h (by
        rw [lookupHostname, Map.lookup_insert', if_neg hne]
        exact ha)
      rw [lookupNpub, Map.lookup_insert', if_pos hh] at hnpub'
      cases hnpub'
      exact hne (Option.some.inj (haddr.symm.trans hb))
    · intro hfresh a h ha
      rw [lookupHostname, Map.lookup_insert'] at ha
      unfold lookupNpub
      rw [Map.lookup_insert']
      split_ifs at ha with hab
      · cases ha
        rw [lowercase_lowercase, if_pos rfl, hab]
        exact ⟨npub, rfl, hb⟩
      · rw [if_neg fun hh => hab (hfresh hvalid b hb a h ha hh)]
        exact hm a h ha
  · rw [heq]
    refine iff_of_true hm fun hvalid b hb => ?_
    rw [hno hvalid] at hb
    cases hb

/-- **A merge** of two maps that agree. -/
theorem agrees_merge_iff (hm : m.Agrees SecretKey) (hother : other.Agrees SecretKey) :
    (m.merge other).Agrees SecretKey ↔ m.MergesFreshly SecretKey other := by
  constructor
  · intro hagrees a h npub ha hnone hnpub
    obtain ⟨npub', hnpub', haddr⟩ := hagrees a h (by
      rw [lookupHostname_merge, hnone]
      exact ha)
    rw [lookupNpub_merge, hnpub] at hnpub'
    cases hnpub'
    exact haddr
  · intro hfresh a h ha
    rw [lookupHostname_merge] at ha
    rw [lookupNpub_merge]
    cases hown : other.lookupHostname a with
    | some h' =>
      rw [hown] at ha
      cases ha
      obtain ⟨npub, hnpub, haddr⟩ := hother a h hown
      exact ⟨npub, by rw [hnpub]; rfl, haddr⟩
    | none =>
      rw [hown] at ha
      cases hnpub : other.lookupNpub h with
      | none => exact hm a h ha
      | some npub => exact ⟨npub, rfl, hfresh a h npub ha hown hnpub⟩

end Step

/-! ## Histories -/

/-- How a map came to be. A map that is merged has a history of its own. -/
inductive History
  | new
  | insert (before : History) (hostname npub : Str)
  | merge (before other : History)

namespace History

/-- The map the operations leave. -/
def build : History → HostMap
  | .new => HostMap.new
  | .insert before hostname npub => (before.build.insert SecretKey hostname npub).1
  | .merge before other => before.build.merge other.build

/-- Each operation found the names it assigns free. -/
def Careful : History → Prop
  | .new => True
  | .insert before hostname npub =>
    before.Careful ∧ (before.build SecretKey).InsertsFreshly SecretKey hostname npub
  | .merge before other => before.Careful ∧ other.Careful ∧
    (before.build SecretKey).MergesFreshly SecretKey (other.build SecretKey)

/-- Each map on the way agrees. -/
def AlwaysAgrees : History → Prop
  | .new => HostMap.new.Agrees SecretKey
  | .insert before hostname npub => before.AlwaysAgrees ∧
    ((History.insert before hostname npub).build SecretKey).Agrees SecretKey
  | .merge before other => before.AlwaysAgrees ∧ other.AlwaysAgrees ∧
    ((History.merge before other).build SecretKey).Agrees SecretKey

theorem AlwaysAgrees.build {t : History} (h : t.AlwaysAgrees SecretKey) :
    (t.build SecretKey).Agrees SecretKey := by
  cases t with
  | new => exact h
  | insert before hostname npub => exact h.2
  | merge before other => exact h.2.2

/-- **Both directions of the host map agree** throughout a history exactly if each of its operations
finds the names it assigns free. -/
theorem alwaysAgrees_iff_careful (t : History) :
    t.AlwaysAgrees SecretKey ↔ t.Careful SecretKey := by
  induction t with
  | new =>
    refine iff_of_true (fun a h ha => ?_) trivial
    cases ha
  | insert before hostname npub ih =>
    constructor
    · rintro ⟨hbefore, hafter⟩
      exact ⟨ih.mp hbefore, (agrees_insert_iff hbefore.build hostname npub).mp hafter⟩
    · rintro ⟨hbefore, hfresh⟩
      have hagrees := ih.mpr hbefore
      exact ⟨hagrees, (agrees_insert_iff hagrees.build hostname npub).mpr hfresh⟩
  | merge before other ih ih' =>
    constructor
    · rintro ⟨hbefore, hother, hafter⟩
      exact ⟨ih.mp hbefore, ih'.mp hother, (agrees_merge_iff hbefore.build hother.build).mp hafter⟩
    · rintro ⟨hbefore, hother, hfresh⟩
      have hagrees := ih.mpr hbefore
      have hagrees' := ih'.mpr hother
      exact ⟨hagrees, hagrees', (agrees_merge_iff hagrees.build hagrees'.build).mpr hfresh⟩

end History

end HostMap

namespace Sample

/-- The name `gw` is given to one key and then to another. -/
def reassigned : HostMap.History := .insert (.insert .new ['g', 'w'] npubA) ['G', 'W'] npubB

end Sample

open Sample in
/-- The first key is still displayed under the name, which now leads to the second. -/
theorem agreement_fails_after_reassignment :
    ¬ ∀ t : HostMap.History, (t.build Scalar).Agrees Scalar := by
  intro h
  have hnow : ((reassigned.build Scalar).lookupNpub ['g', 'w']).bind (HostMap.npubAddr Scalar) ≠
      HostMap.npubAddr Scalar npubA := by decide +kernel
  cases ha : HostMap.npubAddr Scalar npubA with
  | none => exact absurd ha (by decide +kernel)
  | some a =>
    have hshown : (reassigned.build Scalar).lookupHostname a = some ['g', 'w'] := by
      have hmap : (HostMap.npubAddr Scalar npubA).bind (reassigned.build Scalar).lookupHostname =
          some ['g', 'w'] := by decide +kernel
      rwa [ha, Option.bind_some] at hmap
    obtain ⟨npub, hnpub, hnpubAddr⟩ := h reassigned a _ hshown
    have hbind : ((reassigned.build Scalar).lookupNpub ['g', 'w']).bind
        (HostMap.npubAddr Scalar) = some a :=
      Option.bind_eq_some_iff.mpr ⟨npub, hnpub, hnpubAddr⟩
    exact hnow (hbind.trans ha.symm)

end Fips
