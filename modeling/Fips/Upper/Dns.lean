import Fips.Node.Session
import Fips.Upper.Hosts

/-!
# Names of the `.fips` domain

Model of `extract_fips_label` and `resolve_fips_query_with_hosts` (`upper/dns.rs`). The addresses
come out as their octets. Parsing a query and building its response are left out.

A resolver may change the case of the letters of a name, and may or may not write the dot of the
root. The suffix and the names of the host map are compared without regard to the case; the label of
a direct npub is decoded as it comes, and the decoder takes no mixed case.

## Results

* `extractFipsLabel_eq`: the three attempts at the suffix are one.
* `resolve_eq_iff`: when two spellings of a name resolve alike.
-/

namespace Fips

open AsciiCase

/-- `name.strip_suffix('.').unwrap_or(name)`. -/
def withoutRootDot (name : Str) : Str := (stripSuffix ['.'] name).getD name

/-- `extract_fips_label`. The five bytes the last attempt cuts off are the five characters it has
found. -/
def extractFipsLabel (name : Str) : Option Str :=
  let name := withoutRootDot name
  (stripSuffix ['.', 'f', 'i', 'p', 's'] name).or
    ((stripSuffix ['.', 'F', 'I', 'P', 'S'] name).or
      (if ['.', 'f', 'i', 'p', 's'] <:+ lowercase name then some (name.take (name.length - 5))
      else none))

/-- The suffix in any case. -/
theorem extractFipsLabel_eq (name : Str) : extractFipsLabel name =
    if ['.', 'f', 'i', 'p', 's'] <:+ lowercase (withoutRootDot name) then
      some ((withoutRootDot name).take ((withoutRootDot name).length - 5))
    else none := by
  unfold extractFipsLabel
  generalize withoutRootDot name = name
  have hstrip : ∀ suffix : Str, lowercase suffix = ['.', 'f', 'i', 'p', 's'] → ∀ label,
      stripSuffix suffix name = some label →
        some label = if ['.', 'f', 'i', 'p', 's'] <:+ lowercase name then
          some (name.take (name.length - 5)) else none := by
    intro suffix hsuffix label h
    have hlength : suffix.length = 5 := by rw [← length_lowercase, hsuffix]; rfl
    cases stripSuffix_eq_some_iff.mp h
    rw [lowercase_append, hsuffix, if_pos (List.suffix_append _ _), List.length_append, hlength,
      Nat.add_sub_cancel, List.take_left]
  dsimp only
  cases hlower : stripSuffix ['.', 'f', 'i', 'p', 's'] name with
  | some label => exact hstrip _ rfl label hlower
  | none =>
    cases hupper : stripSuffix ['.', 'F', 'I', 'P', 'S'] name with
    | some label => exact hstrip _ rfl label hupper
    | none => rfl

/-! ## Spellings of a name -/

/-- `n` is `m` with the dot of the root behind it. -/
def AddsRootDot (m n : Str) : Prop := ¬ ['.'] <:+ m ∧ lowercase n = lowercase m ++ ['.']

/-- The names differ in the case of letters and in the dot of the root. -/
def SameName (m n : Str) : Prop := lowercase m = lowercase n ∨ AddsRootDot m n ∨ AddsRootDot n m

theorem withoutRootDot_append (s : Str) : withoutRootDot (s ++ ['.']) = s := by
  unfold withoutRootDot
  rw [stripSuffix_eq_some_iff.mpr rfl]
  rfl

theorem withoutRootDot_of_not {s : Str} (h : ¬ ['.'] <:+ s) : withoutRootDot s = s := by
  unfold withoutRootDot stripSuffix
  rw [if_neg h]
  rfl

theorem lowercase_withoutRootDot (s : Str) :
    lowercase (withoutRootDot s) = withoutRootDot (lowercase s) := by
  by_cases h : ['.'] <:+ s
  · obtain ⟨t, rfl⟩ := h
    rw [withoutRootDot_append, lowercase_append]
    exact (withoutRootDot_append _).symm
  · rw [withoutRootDot_of_not h, withoutRootDot_of_not]
    rintro ⟨t, ht⟩
    obtain ⟨t', u, rfl, -, hu⟩ := lowercase_eq_append_iff.mp ht.symm
    rw [lowercase_eq_singleton_iff rfl rfl] at hu
    exact h ⟨t', by rw [hu]⟩

/-- The spellings of a name agree in lower case once the dot is gone. -/
theorem SameName.lowercase_withoutRootDot {m n : Str} (h : SameName m n) :
    lowercase (withoutRootDot m) = lowercase (withoutRootDot n) := by
  have hdot : ∀ {m n : Str}, AddsRootDot m n →
      lowercase (withoutRootDot m) = lowercase (withoutRootDot n) := by
    rintro m n ⟨hm, hn⟩
    rw [withoutRootDot_of_not hm, Fips.lowercase_withoutRootDot n, hn, withoutRootDot_append]
  rcases h with h | h | h
  · rw [Fips.lowercase_withoutRootDot, Fips.lowercase_withoutRootDot, h]
  · exact hdot h
  · exact (hdot h).symm

/-- Two spellings have labels that agree in lower case, or none. -/
theorem SameName.label {m n : Str} (h : SameName m n) :
    (extractFipsLabel m = none ∧ extractFipsLabel n = none) ∨
      ∃ l l', extractFipsLabel m = some l ∧ extractFipsLabel n = some l' ∧
        lowercase l = lowercase l' := by
  have hlower := h.lowercase_withoutRootDot
  have hlength : (withoutRootDot m).length = (withoutRootDot n).length := by
    rw [← length_lowercase, hlower, length_lowercase]
  rw [extractFipsLabel_eq, extractFipsLabel_eq, hlower]
  split_ifs
  · refine .inr ⟨_, _, rfl, rfl, ?_⟩
    rw [← take_lowercase, ← take_lowercase, hlower, hlength]
  · exact .inl ⟨rfl, rfl⟩

/-! ## Resolution -/

section Resolution

variable (SecretKey : Type) {PublicKey : Type} [Bech32] [Sha256] [Secp256k1 SecretKey PublicKey]

/-- `resolve_fips_query_with_hosts`. -/
def resolveFipsQueryWithHosts (name : Str) (hosts : HostMap) :
    Option (Bytes × NodeAddr × PublicKey) := do
  let label ← extractFipsLabel name
  let npub := (hosts.lookupNpub label).getD label
  let peer ← npubIdentity SecretKey npub
  let nodeAddr := peer.nodeAddr SecretKey
  pure (Node.fipsAddress nodeAddr, nodeAddr, peer.pubkeyFull)

/-- The labels of the names are in the host map, or are npubs in no case at all, or are both of mixed
case or neither. -/
def CaseSafe (hosts : HostMap) (m n : Str) : Prop :=
  ∀ l l', extractFipsLabel m = some l → extractFipsLabel n = some l' →
    hosts.lookupNpub l = none → (npubIdentity SecretKey (lowercase l)).isSome →
      mixedCase l = mixedCase l'

variable {SecretKey}

/-- The answer for a label. -/
theorem resolve_label {name label : Str} (h : extractFipsLabel name = some label)
    (hosts : HostMap) : resolveFipsQueryWithHosts SecretKey name hosts =
      (npubIdentity SecretKey ((hosts.lookupNpub label).getD label)).map fun peer =>
        (Node.fipsAddress (peer.nodeAddr SecretKey), peer.nodeAddr SecretKey, peer.pubkeyFull) := by
  unfold resolveFipsQueryWithHosts
  rw [h]
  exact (Option.map_eq_bind ..).symm

theorem resolve_none {name : Str} (h : extractFipsLabel name = none) (hosts : HostMap) :
    resolveFipsQueryWithHosts SecretKey name hosts = none := by
  unfold resolveFipsQueryWithHosts
  rw [h]
  rfl

/-- **Two spellings of a name** resolve alike exactly if the case of a direct npub does not tell them
apart. -/
theorem resolve_eq_iff (hbech : Bech32.Lawful) (hosts : HostMap) {m n : Str} (h : SameName m n) :
    resolveFipsQueryWithHosts SecretKey m hosts = resolveFipsQueryWithHosts SecretKey n hosts ↔
      CaseSafe SecretKey hosts m n := by
  rcases h.label with ⟨hm, hn⟩ | ⟨l, l', hm, hn, hlower⟩
  · rw [resolve_none hm, resolve_none hn]
    refine iff_of_true rfl fun l l' hl => ?_
    rw [hm] at hl
    cases hl
  have hsafe : CaseSafe SecretKey hosts m n ↔ (hosts.lookupNpub l = none →
      (npubIdentity SecretKey (lowercase l)).isSome → mixedCase l = mixedCase l') := by
    constructor
    · intro hsafe
      exact hsafe l l' hm hn
    · intro hsafe k k' hk hk'
      cases hm.symm.trans hk
      cases hn.symm.trans hk'
      exact hsafe
  have hlookup : hosts.lookupNpub l' = hosts.lookupNpub l := by
    unfold HostMap.lookupNpub
    rw [hlower]
  rw [resolve_label hm, resolve_label hn, hsafe, hlookup]
  cases hosts.lookupNpub l with
  | some npub => exact iff_of_true rfl fun hnone => (by cases hnone)
  | none =>
    change Option.map _ (npubIdentity SecretKey l) = Option.map _ (npubIdentity SecretKey l') ↔ _
    rw [npubIdentity_eq_ite hbech l, npubIdentity_eq_ite hbech l', ← hlower]
    cases npubIdentity SecretKey (lowercase l) with
    | none => simp
    | some peer => cases mixedCase l <;> cases mixedCase l' <;> simp

end Resolution

namespace Sample

/-- A table with the one name `gw`. -/
def gateway : HostMap := (HostMap.new.insert Scalar ['g', 'w'] npubA).1

/-- A name of the domain. -/
def inFips (label : Str) : Str := label ++ ['.', 'f', 'i', 'p', 's']

end Sample

open Sample

theorem resolve_eq_iff_gateway :
    resolveFipsQueryWithHosts Scalar (inFips ['g', 'w']) gateway =
        resolveFipsQueryWithHosts Scalar ['G', 'w', '.', 'F', 'i', 'p', 'S', '.'] gateway ∧
      resolveFipsQueryWithHosts Scalar (inFips npubA) gateway ≠
        resolveFipsQueryWithHosts Scalar (inFips ('N' :: npubA.tail)) gateway := by
  constructor
  · refine (resolve_eq_iff bech32_lawful gateway (.inr (.inl ⟨by decide, by decide⟩))).mpr ?_
    intro l l' hl _ hnone
    have hlabel : extractFipsLabel (inFips ['g', 'w']) = some ['g', 'w'] := by decide
    have hgateway : gateway.lookupNpub ['g', 'w'] ≠ none := by decide +kernel
    rw [hlabel] at hl
    cases hl
    exact absurd hnone hgateway
  · intro heq
    have hsafe := (resolve_eq_iff bech32_lawful gateway (.inl (by decide +kernel))).mp heq
    exact absurd (hsafe npubA ('N' :: npubA.tail) (by decide +kernel) (by decide +kernel)
      (by decide +kernel) (by decide +kernel)) (by decide +kernel)

/-- An npub with a capital in front. -/
theorem resolve_depends_on_case : ¬ ∀ (hosts : HostMap) (m n : Str), SameName m n →
    resolveFipsQueryWithHosts Scalar m hosts = resolveFipsQueryWithHosts Scalar n hosts := by
  intro h
  have hresolved : (resolveFipsQueryWithHosts Scalar (inFips npubA) HostMap.new).isSome := by
    decide +kernel
  have hlost : resolveFipsQueryWithHosts Scalar (inFips ('N' :: npubA.tail)) HostMap.new = none := by
    decide +kernel
  rw [h HostMap.new (inFips npubA) (inFips ('N' :: npubA.tail)) (.inl (by decide +kernel)), hlost]
    at hresolved
  cases hresolved

end Fips
