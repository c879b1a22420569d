import Mathlib.Data.List.Basic

/-!
# Text up to the case of its letters

A text is the list of its characters. `lowercase` changes the letters of ASCII and nothing else, as
`Char.toLower` does; a text is of mixed case if it has letters of both.

## Results

* `lowercase_eq_append_iff`: a text that is a concatenation in lower case is one of two texts.
* `lowercase_eq_singleton_iff`: a character that is no letter has one spelling.
* `stripSuffix_eq_some_iff`: what is in front of a suffix.
-/

namespace AsciiCase

variable {s t : List Char}

/-- `to_ascii_lowercase`. -/
def lowercase (s : List Char) : List Char := s.map Char.toLower

/-- There are letters of both cases. -/
def mixedCase (s : List Char) : Bool := s.any Char.isUpper && s.any Char.isLower

/-- `strip_suffix`. -/
def stripSuffix (suffix s : List Char) : Option (List Char) :=
  if suffix <:+ s then some (s.take (s.length - suffix.length)) else none

theorem isUpper_iff {c : Char} : c.isUpper = true ↔ 65 ≤ c.toNat ∧ c.toNat ≤ 90 := by
  have h : c.isUpper = true ↔ c.val ≥ 'A'.val ∧ c.val ≤ 'Z'.val := decide_eq_true_iff
  rw [h, ge_iff_le, UInt32.le_iff_toNat_le, UInt32.le_iff_toNat_le]
  exact Iff.rfl

theorem isLower_iff {c : Char} : c.isLower = true ↔ 97 ≤ c.toNat ∧ c.toNat ≤ 122 := by
  unfold Char.isLower
  rw [Bool.and_eq_true, decide_eq_true_iff, decide_eq_true_iff, ge_iff_le,
    UInt32.le_iff_toNat_le, UInt32.le_iff_toNat_le]
  exact Iff.rfl

theorem toLower_of_not_isUpper {c : Char} (h : c.isUpper = false) : c.toLower = c := by
  unfold Char.toLower
  rw [dif_neg]
  intro hupper
  have hno : c.isUpper = true := decide_eq_true hupper
  rw [h] at hno
  cases hno

theorem toNat_toLower {c : Char} (h : c.isUpper = true) : c.toLower.toNat = c.toNat + 32 := by
  have hrange : c.val ≥ 'A'.val ∧ c.val ≤ 'Z'.val := of_decide_eq_true h
  obtain ⟨-, hle⟩ := isUpper_iff.mp h
  have hval : c.val.toNat ≤ 90 := hle
  unfold Char.toLower
  rw [dif_pos hrange]
  change (c.val + 32).toNat = c.val.toNat + 32
  rw [UInt32.toNat_add]
  exact Nat.mod_eq_of_lt (by change c.val.toNat + 32 < 4294967296; omega)

theorem isUpper_toLower (c : Char) : c.toLower.isUpper = false := by
  cases hc : c.isUpper with
  | false => rw [toLower_of_not_isUpper hc, hc]
  | true =>
    obtain ⟨hle, -⟩ := isUpper_iff.mp hc
    rw [← Bool.not_eq_true, isUpper_iff, toNat_toLower hc]
    omega

/-- A character that is no letter. -/
theorem toLower_eq_iff {c d : Char} (hupper : d.isUpper = false) (hlower : d.isLower = false) :
    c.toLower = d ↔ c = d := by
  constructor
  · rintro rfl
    cases hc : c.isUpper with
    | false => exact (toLower_of_not_isUpper hc).symm
    | true =>
      obtain ⟨hle, hle'⟩ := isUpper_iff.mp hc
      have hletter : c.toLower.isLower = true := by
        rw [isLower_iff, toNat_toLower hc]
        omega
      rw [hlower] at hletter
      cases hletter
  · rintro rfl
    exact toLower_of_not_isUpper hupper

@[simp] theorem length_lowercase (s : List Char) : (lowercase s).length = s.length :=
  List.length_map ..

@[simp] theorem lowercase_lowercase (s : List Char) : lowercase (lowercase s) = lowercase s := by
  unfold lowercase
  rw [List.map_map]
  exact List.map_congr_left fun c _ => toLower_of_not_isUpper (isUpper_toLower c)

@[simp] theorem lowercase_append (s t : List Char) :
    lowercase (s ++ t) = lowercase s ++ lowercase t := List.map_append ..

theorem take_lowercase (s : List Char) (n : Nat) : (lowercase s).take n = lowercase (s.take n) :=
  List.map_take.symm

theorem lowercase_eq_append_iff {u : List Char} :
    lowercase s = t ++ u ↔ ∃ t' u', s = t' ++ u' ∧ lowercase t' = t ∧ lowercase u' = u :=
  List.map_eq_append_iff

theorem lowercase_eq_singleton_iff {d : Char} (hupper : d.isUpper = false)
    (hlower : d.isLower = false) : lowercase s = [d] ↔ s = [d] := by
  unfold lowercase
  rw [List.map_eq_singleton_iff]
  constructor
  · rintro ⟨c, rfl, hc⟩
    rw [(toLower_eq_iff hupper hlower).mp hc]
  · rintro rfl
    exact ⟨d, rfl, toLower_of_not_isUpper hupper⟩

/-- In lower case there is one case. -/
theorem mixedCase_lowercase (s : List Char) : mixedCase (lowercase s) = false := by
  unfold mixedCase lowercase
  rw [List.any_map, Bool.and_eq_false_iff, List.any_eq_false]
  exact .inl fun c _ => Bool.eq_false_iff.mp (isUpper_toLower c)

theorem stripSuffix_eq_some_iff {suffix : List Char} :
    stripSuffix suffix s = some t ↔ s = t ++ suffix := by
  unfold stripSuffix
  constructor
  · intro h
    split_ifs at h with hsuffix
    obtain ⟨r, rfl⟩ := hsuffix
    cases h
    simp
  · rintro rfl
    rw [if_pos (List.suffix_append _ _)]
    simp

end AsciiCase
