import Mathlib.Order.Basic

/-!
# Bit arrays packed into words

A vector of `n` words of `w` bits read as one bit array: bit `i` is bit `i % w` of word `i / w`.
A word outside the vector reads as zero.

## Results

* `bit_setIfInBounds_or`: setting one bit of one word sets that bit of the array.
* `bit_of_word_moved`: moving whole words up by `k` moves the bits up by `w * k`.
* `bit_of_word_shifted`: shifting every word by `s < w` and carrying the top bits over moves the
  bits up by `s`.
-/

namespace PackedBits

variable {w n : Nat}

/-- Word `i`, zero outside the vector. -/
def word (v : Vector (BitVec w) n) (i : Nat) : BitVec w := v[i]?.getD 0#w

/-- Bit `i` of the array. -/
def bit (v : Vector (BitVec w) n) (i : Nat) : Bool := (word v (i / w)).getLsbD (i % w)

theorem word_setIfInBounds (v : Vector (BitVec w) n) {i : Nat} (hi : i < n) (x : BitVec w)
    (j : Nat) : word (v.setIfInBounds i x) j = if j = i then x else word v j := by
  unfold word
  rw [Vector.getElem?_setIfInBounds]
  by_cases hij : i = j
  · subst hij
    simp [hi]
  · rw [if_neg hij, if_neg (Ne.symm hij)]

@[simp] theorem word_replicate_zero (i : Nat) : word (Vector.replicate n 0#w) i = 0#w := by
  unfold word
  rw [Vector.getElem?_replicate]
  split_ifs <;> rfl

@[simp] theorem bit_replicate_zero (i : Nat) : bit (Vector.replicate n 0#w) i = false := by
  simp [bit]

theorem div_lt_of_lt {i : Nat} (hi : i < w * n) : i / w < n :=
  Nat.div_lt_of_lt_mul hi

/-- The position of a bit is its word and its place there. -/
theorem eq_iff_div_mod {i j : Nat} : i = j ↔ i / w = j / w ∧ i % w = j % w := by
  constructor
  · rintro rfl
    exact ⟨rfl, rfl⟩
  · rintro ⟨hdiv, hmod⟩
    rw [← Nat.div_add_mod i w, ← Nat.div_add_mod j w, hdiv, hmod]

theorem getLsbD_one_shiftLeft {k m : Nat} (hk : k < w) :
    (1#w <<< k).getLsbD m = decide (m = k) := by
  rw [BitVec.getLsbD_shiftLeft, BitVec.getLsbD_one]
  by_cases hm : m = k
  · subst hm
    simp [hk]
    omega
  · simp only [hm, decide_false]
    by_cases hlt : m < k
    · simp [hlt]
    · have : m - k ≠ 0 := by omega
      simp [this]

theorem and_shiftLeft_eq_zero_iff (x : BitVec w) {k : Nat} (hk : k < w) :
    x &&& (1#w <<< k) = 0#w ↔ x.getLsbD k = false := by
  constructor
  · intro h
    have hbit := congrArg (fun y => BitVec.getLsbD y k) h
    simpa [getLsbD_one_shiftLeft hk] using hbit
  · intro h
    refine BitVec.eq_of_getLsbD_eq fun m _ => ?_
    rw [BitVec.getLsbD_and, getLsbD_one_shiftLeft hk, BitVec.getLsbD_zero]
    by_cases hm : m = k
    · rw [hm, h]
      rfl
    · simp [hm]

/-- **Setting a bit.** -/
theorem bit_setIfInBounds_or (v : Vector (BitVec w) n) (hw : 0 < w) {i : Nat} (hi : i < w * n)
    (j : Nat) :
    bit (v.setIfInBounds (i / w) (word v (i / w) ||| 1#w <<< (i % w))) j =
      (decide (j = i) || bit v j) := by
  have hmod : i % w < w := Nat.mod_lt _ hw
  unfold bit
  rw [word_setIfInBounds v (div_lt_of_lt hi)]
  by_cases hdiv : j / w = i / w
  · rw [if_pos hdiv, BitVec.getLsbD_or, getLsbD_one_shiftLeft hmod, hdiv, Bool.or_comm]
    congr 1
    rw [decide_eq_decide]
    exact ⟨fun h => eq_iff_div_mod.mpr ⟨hdiv, h⟩, fun h => h ▸ rfl⟩
  · rw [if_neg hdiv]
    have hne : j ≠ i := fun h => hdiv (h ▸ rfl)
    simp [hne]

/-- **Moving whole words.** -/
theorem bit_of_word_moved {v v' : Vector (BitVec w) n} (hw : 0 < w) {k : Nat}
    (h : ∀ j < n, word v' j = if j < k then 0#w else word v (j - k)) {i : Nat} (hi : i < w * n) :
    bit v' i = if i < w * k then false else bit v (i - w * k) := by
  unfold bit
  rw [h _ (div_lt_of_lt hi)]
  by_cases hik : i < w * k
  · rw [if_pos (Nat.div_lt_of_lt_mul hik), if_pos hik, BitVec.getLsbD_zero]
  · have hle : w * k ≤ i := Nat.not_lt.mp hik
    have hdiv : ¬ i / w < k := by
      rw [Nat.not_lt]
      exact (Nat.le_div_iff_mul_le hw).mpr (by rwa [Nat.mul_comm])
    rw [if_neg hdiv, if_neg hik, Nat.sub_mul_div, Nat.sub_mul_mod hle]

/-- **Shifting with carry.** -/
theorem bit_of_word_shifted {v v' : Vector (BitVec w) n} {s : Nat} (hs : 0 < s) (hsw : s < w)
    (h : ∀ j < n, word v' j = word v j <<< s |||
      if j = 0 then 0#w else word v (j - 1) >>> (w - s)) {i : Nat} (hi : i < w * n) :
    bit v' i = if i < s then false else bit v (i - s) := by
  have hw : 0 < w := by omega
  have hr : i % w < w := Nat.mod_lt _ hw
  have hi' : w * (i / w) + i % w = i := Nat.div_add_mod i w
  unfold bit
  rw [h _ (div_lt_of_lt hi), BitVec.getLsbD_or, BitVec.getLsbD_shiftLeft]
  generalize i / w = q at hi' ⊢
  generalize i % w = r at hi' hr ⊢
  by_cases hrs : r < s
  · -- the bit was carried over from the word below
    simp only [hrs, decide_true, Bool.not_true, Bool.and_false, Bool.false_and, Bool.false_or]
    by_cases hq : q = 0
    · have his : i < s := by
        rw [hq] at hi'
        omega
      rw [if_pos hq, if_pos his, BitVec.getLsbD_zero]
    · obtain ⟨p, rfl⟩ := Nat.exists_eq_succ_of_ne_zero hq
      rw [Nat.mul_succ] at hi'
      have his : ¬ i < s := by omega
      have hsub : i - s = w * p + (w - s + r) := by omega
      have hlt : w - s + r < w := by omega
      rw [if_neg hq, if_neg his, BitVec.getLsbD_ushiftRight, hsub, Nat.mul_add_div hw,
        Nat.div_eq_of_lt hlt, Nat.mul_add_mod, Nat.mod_eq_of_lt hlt]
      rfl
  · -- the bit comes from the same word, and the carried bits lie below it
    have hcarry : (if q = 0 then 0#w else word v (q - 1) >>> (w - s)).getLsbD r = false := by
      split_ifs
      · exact BitVec.getLsbD_zero
      · rw [BitVec.getLsbD_ushiftRight]
        exact BitVec.getLsbD_of_ge _ _ (by omega)
    have his : ¬ i < s := by
      have hle : r ≤ i := by
        rw [← hi']
        exact Nat.le_add_left _ _
      omega
    have hsub : i - s = w * q + (r - s) := by omega
    have hlt : r - s < w := by omega
    rw [hcarry, if_neg his, hsub, Nat.mul_add_div hw, Nat.div_eq_of_lt hlt, Nat.mul_add_mod,
      Nat.mod_eq_of_lt hlt]
    simp [hr, hrs]

end PackedBits
