import Fips.Lib.PackedBits
import Fips.Noise.Cipher

/-!
# The replay window

Model of `noise/replay.rs`. The bitmap is `[u64; 2048 / 64]`; bit `i` of it stands for the counter
`highest - i`. Counters are `u64` and `usize` is taken as 64 bits, so the casts of `check` and
`accept` lose nothing and counters are natural numbers. `accept` writes within the bitmap because
its callers run `check` first; outside it the source would stop with an index error, which no caller
reaches (`check_eq_true_iff`).

## Results

* `Represents`: what a window says about the history of accepted counters.
* `Represents.accept`: accepting a counter that passed the check extends the history by it.
* `Represents.check_eq_false_iff`: the check fails on exactly the counters that were accepted before
  or lie a window size below an accepted one.
-/

namespace Fips

open PackedBits

/-- The window's bits, in words. -/
abbrev ReplayBitmap := Vector (BitVec 64) (REPLAY_WINDOW_SIZE / 64)

/-- `noise/replay.rs:13-20`. -/
structure ReplayWindow where
  highest : Nat
  bitmap : ReplayBitmap
  deriving DecidableEq

namespace ReplayWindow

/-! ## Loops over the words -/

section Loops

variable {n : Nat}

/-- `for i in (k..len).rev() { bitmap[i] = bitmap[i - k] }`, with `i = k + j`. -/
def moveWords (k m : Nat) (v : Vector (BitVec 64) n) : Vector (BitVec 64) n :=
  (List.range m).reverse.foldl (fun v j => v.setIfInBounds (k + j) (word v j)) v

/-- `for i in 0..k { bitmap[i] = 0 }`. -/
def clearWords (k : Nat) (v : Vector (BitVec 64) n) : Vector (BitVec 64) n :=
  (List.range k).foldl (fun v i => v.setIfInBounds i 0#64) v

/-- One round of the loop that shifts by `s` bits with a carry. -/
def shiftWord (s : Nat) (acc : Vector (BitVec 64) n × BitVec 64) (i : Nat) :
    Vector (BitVec 64) n × BitVec 64 :=
  (acc.1.setIfInBounds i (word acc.1 i <<< s ||| acc.2), word acc.1 i >>> (64 - s))

/-- The loop of `shift_bitmap` over the words, with the bits carried from one word to the next. -/
def shiftWords (s m : Nat) (v : Vector (BitVec 64) n) : Vector (BitVec 64) n × BitVec 64 :=
  (List.range m).foldl (shiftWord s) (v, 0#64)

/-- Going down, a word is read before it is overwritten. -/
theorem word_moveWords {k m : Nat} (v : Vector (BitVec 64) n) (hm : k + m ≤ n) (j : Nat) :
    word (moveWords k m v) j = if k ≤ j ∧ j < k + m then word v (j - k) else word v j := by
  induction m generalizing v with
  | zero =>
    have : ¬ (k ≤ j ∧ j < k + 0) := by omega
    rw [if_neg this]
    rfl
  | succ m ih =>
    have hkm : k + m < n := by omega
    have hcons : moveWords k (m + 1) v =
        moveWords k m (v.setIfInBounds (k + m) (word v m)) := by
      unfold moveWords
      rw [List.range_succ, List.reverse_append]
      rfl
    rw [hcons, ih _ (by omega)]
    simp only [word_setIfInBounds v hkm]
    rcases Nat.lt_trichotomy j (k + m) with hlt | heq | hgt
    · -- the words below keep what they had
      have hj : ¬ j = k + m := by omega
      have hjk : ¬ j - k = k + m := by omega
      have hiff : (k ≤ j ∧ j < k + m) ↔ (k ≤ j ∧ j < k + (m + 1)) := by omega
      simp only [hj, hjk, if_false, hiff]
    · subst heq
      have h₁ : ¬ (k ≤ k + m ∧ k + m < k + m) := by omega
      have h₂ : k ≤ k + m ∧ k + m < k + (m + 1) := by omega
      rw [if_neg h₁, if_pos h₂, if_pos rfl, Nat.add_sub_cancel_left]
    · have h₁ : ¬ (k ≤ j ∧ j < k + m) := by omega
      have h₂ : ¬ (k ≤ j ∧ j < k + (m + 1)) := by omega
      have hj : ¬ j = k + m := by omega
      rw [if_neg h₁, if_neg h₂, if_neg hj]

theorem word_clearWords {k : Nat} (v : Vector (BitVec 64) n) (hk : k ≤ n) (j : Nat) :
    word (clearWords k v) j = if j < k then 0#64 else word v j := by
  induction k with
  | zero => rfl
  | succ k ih =>
    have hsnoc : clearWords (k + 1) v = (clearWords k v).setIfInBounds k 0#64 := by
      unfold clearWords
      rw [List.range_succ, List.foldl_append]
      rfl
    rw [hsnoc, word_setIfInBounds _ (by omega), ih (by omega)]
    by_cases hjk : j = k
    · subst hjk
      simp
    · have hiff : j < k ↔ j < k + 1 := by omega
      simp only [hjk, if_false, hiff]

/-- Going up, the carry is the top of the word below as it was before the loop. -/
theorem word_shiftWords {s m : Nat} (v : Vector (BitVec 64) n) (hm : m ≤ n) :
    (∀ j, word (shiftWords s m v).1 j =
      if j < m then word v j <<< s ||| (if j = 0 then 0#64 else word v (j - 1) >>> (64 - s))
      else word v j) ∧
    (shiftWords s m v).2 = if m = 0 then 0#64 else word v (m - 1) >>> (64 - s) := by
  induction m with
  | zero => exact ⟨fun j => rfl, rfl⟩
  | succ m ih =>
    obtain ⟨hword, hcarry⟩ := ih (by omega)
    have hsnoc : shiftWords s (m + 1) v = shiftWord s (shiftWords s m v) m := by
      unfold shiftWords
      rw [List.range_succ, List.foldl_append]
      rfl
    have hmm : word (shiftWords s m v).1 m = word v m := by
      rw [hword, if_neg (Nat.lt_irrefl m)]
    rw [hsnoc]
    refine ⟨fun j => ?_, ?_⟩
    · unfold shiftWord
      rw [word_setIfInBounds _ (by omega), hmm, hcarry, hword]
      by_cases hj : j = m
      · subst hj
        simp
      · have hiff : j < m ↔ j < m + 1 := by omega
        simp only [hj, if_false, hiff]
    · unfold shiftWord
      rw [hmm]
      simp

end Loops

/-! ## The window -/

/-- `ReplayWindow::new` and `default`. -/
def new : ReplayWindow := ⟨0, Vector.replicate _ 0#64⟩

/-- `noise/replay.rs:35-52`. -/
def check (w : ReplayWindow) (counter : Nat) : Bool :=
  if w.highest < counter then true
  else
    let diff := w.highest - counter
    if REPLAY_WINDOW_SIZE ≤ diff then false
    else
      let wordIdx := diff / 64
      let bitIdx := diff % 64
      word w.bitmap wordIdx &&& (1#64 <<< bitIdx) == 0#64

/-- `noise/replay.rs:86-111`. -/
def shiftBitmap (bitmap : ReplayBitmap) (shift : Nat) : ReplayBitmap :=
  if REPLAY_WINDOW_SIZE ≤ shift then Vector.replicate _ 0#64
  else
    let wordShift := shift / 64
    let bitShift := shift % 64
    let moved :=
      if 0 < wordShift then
        clearWords wordShift (moveWords wordShift (REPLAY_WINDOW_SIZE / 64 - wordShift) bitmap)
      else bitmap
    if 0 < bitShift then (shiftWords bitShift (REPLAY_WINDOW_SIZE / 64) moved).1 else moved

/-- `noise/replay.rs:58-80`. -/
def accept (w : ReplayWindow) (counter : Nat) : ReplayWindow :=
  if w.highest < counter then
    let shift := counter - w.highest
    let bitmap :=
      if REPLAY_WINDOW_SIZE ≤ shift then Vector.replicate _ 0#64
      else shiftBitmap w.bitmap shift
    ⟨counter, bitmap.setIfInBounds 0 (word bitmap 0 ||| 1#64)⟩
  else
    let diff := w.highest - counter
    let wordIdx := diff / 64
    let bitIdx := diff % 64
    { w with bitmap := w.bitmap.setIfInBounds wordIdx (word w.bitmap wordIdx ||| 1#64 <<< bitIdx) }

/-! ## Bits of the window -/

theorem bits_eq : 64 * (REPLAY_WINDOW_SIZE / 64) = REPLAY_WINDOW_SIZE := by decide

theorem bit_movedWords {bitmap : ReplayBitmap} {k i : Nat} (hk : k ≤ REPLAY_WINDOW_SIZE / 64)
    (hi : i < REPLAY_WINDOW_SIZE) :
    bit (clearWords k (moveWords k (REPLAY_WINDOW_SIZE / 64 - k) bitmap)) i =
      if i < 64 * k then false else bit bitmap (i - 64 * k) := by
  refine bit_of_word_moved (by decide) (fun j hj => ?_) (by rwa [bits_eq])
  rw [word_clearWords _ hk, word_moveWords _ (by omega)]
  by_cases hjk : j < k
  · rw [if_pos hjk, if_pos hjk]
  · have hin : k ≤ j ∧ j < k + (REPLAY_WINDOW_SIZE / 64 - k) := by omega
    rw [if_neg hjk, if_neg hjk, if_pos hin]

theorem bit_shiftedWords {bitmap : ReplayBitmap} {s i : Nat} (hs : 0 < s) (hs' : s < 64)
    (hi : i < REPLAY_WINDOW_SIZE) :
    bit (shiftWords s (REPLAY_WINDOW_SIZE / 64) bitmap).1 i =
      if i < s then false else bit bitmap (i - s) := by
  refine bit_of_word_shifted hs hs' (fun j hj => ?_) (by rwa [bits_eq])
  rw [(word_shiftWords bitmap (Nat.le_refl _)).1 j, if_pos hj]

/-- **Shifting the bitmap** moves every bit up. -/
theorem bit_shiftBitmap (bitmap : ReplayBitmap) (shift : Nat) {i : Nat}
    (hi : i < REPLAY_WINDOW_SIZE) :
    bit (shiftBitmap bitmap shift) i = if i < shift then false else bit bitmap (i - shift) := by
  have hsplit : 64 * (shift / 64) + shift % 64 = shift := Nat.div_add_mod shift 64
  have hmod : shift % 64 < 64 := Nat.mod_lt _ (by decide)
  unfold shiftBitmap
  by_cases hbig : REPLAY_WINDOW_SIZE ≤ shift
  · rw [if_pos hbig, if_pos (by omega), bit_replicate_zero]
  rw [if_neg hbig]
  have hk : shift / 64 ≤ REPLAY_WINDOW_SIZE / 64 := Nat.div_le_div_right (by omega)
  -- after the word loops the bits stand `64 * (shift / 64)` higher
  have hmoved : ∀ i < REPLAY_WINDOW_SIZE,
      bit (if 0 < shift / 64 then
          clearWords (shift / 64) (moveWords (shift / 64) (REPLAY_WINDOW_SIZE / 64 - shift / 64) bitmap)
        else bitmap) i =
      if i < 64 * (shift / 64) then false else bit bitmap (i - 64 * (shift / 64)) := by
    intro i hi
    by_cases hpos : 0 < shift / 64
    · rw [if_pos hpos, bit_movedWords hk hi]
    · have hzero : shift / 64 = 0 := by omega
      simp [hzero]
  dsimp only
  by_cases hpos : 0 < shift % 64
  · rw [if_pos hpos, bit_shiftedWords hpos hmod hi]
    by_cases hlt : i < shift % 64
    · rw [if_pos hlt, if_pos (by omega)]
    · rw [if_neg hlt, hmoved _ (by omega)]
      by_cases hlt' : i - shift % 64 < 64 * (shift / 64)
      · rw [if_pos hlt', if_pos (by omega)]
      · have hsub : i - shift % 64 - 64 * (shift / 64) = i - shift := by omega
        rw [if_neg hlt', if_neg (by omega), hsub]
  · have hfull : 64 * (shift / 64) = shift := by omega
    rw [if_neg hpos, hmoved i hi, hfull]

/-! ## The window and its history -/

/-- What the window says of the counters accepted so far. -/
structure Represents (w : ReplayWindow) (accepted : List Nat) : Prop where
  highest_mem : w.highest ∈ accepted ∨ accepted = [] ∧ w.highest = 0
  le_highest : ∀ c ∈ accepted, c ≤ w.highest
  bit_iff : ∀ i < REPLAY_WINDOW_SIZE,
    bit w.bitmap i = true ↔ i ≤ w.highest ∧ w.highest - i ∈ accepted

theorem represents_new : Represents new [] where
  highest_mem := .inr ⟨rfl, rfl⟩
  le_highest := fun _ h => by cases h
  bit_iff := by
    intro i _
    simp [new]

variable {w : ReplayWindow} {accepted : List Nat} {counter : Nat}

theorem check_of_lt (h : w.highest < counter) : w.check counter = true := by
  unfold check
  rw [if_pos h]

theorem check_of_le (h : counter ≤ w.highest) :
    w.check counter = true ↔
      w.highest - counter < REPLAY_WINDOW_SIZE ∧ bit w.bitmap (w.highest - counter) = false := by
  unfold check
  rw [if_neg (Nat.not_lt.mpr h)]
  dsimp only
  by_cases hold : REPLAY_WINDOW_SIZE ≤ w.highest - counter
  · rw [if_pos hold]
    simp [Nat.not_lt.mpr hold]
  · rw [if_neg hold, beq_iff_eq, and_shiftLeft_eq_zero_iff _ (Nat.mod_lt _ (by decide))]
    simp [Nat.not_le.mp hold, bit]

/-- **The check**: a counter is refused exactly when it was accepted before or lies a window size
below an accepted one. -/
theorem Represents.check_eq_false_iff (h : Represents w accepted) :
    w.check counter = false ↔
      counter ∈ accepted ∨ ∃ c ∈ accepted, counter + REPLAY_WINDOW_SIZE ≤ c := by
  rw [← Bool.not_eq_true]
  by_cases hlt : w.highest < counter
  · -- a new highest counter is neither accepted nor old
    have hnew : counter ∉ accepted := fun hmem => by
      have := h.le_highest _ hmem
      omega
    have hfresh : ¬ ∃ c ∈ accepted, counter + REPLAY_WINDOW_SIZE ≤ c := by
      rintro ⟨c, hmem, hc⟩
      have := h.le_highest _ hmem
      omega
    simp [check_of_lt hlt, hnew, hfresh]
  · have hle : counter ≤ w.highest := Nat.not_lt.mp hlt
    rw [check_of_le hle, not_and, Bool.not_eq_false]
    by_cases hold : w.highest - counter < REPLAY_WINDOW_SIZE
    · have hbit := h.bit_iff _ hold
      rw [Nat.sub_sub_self hle] at hbit
      have hfresh : ¬ ∃ c ∈ accepted, counter + REPLAY_WINDOW_SIZE ≤ c := by
        rintro ⟨c, hmem, hc⟩
        have := h.le_highest _ hmem
        omega
      simp [hold, hbit, hfresh]
    · have hpos : 0 < REPLAY_WINDOW_SIZE := by decide
      have hmem : w.highest ∈ accepted := by
        rcases h.highest_mem with hmem | ⟨-, hzero⟩
        · exact hmem
        · omega
      have hex : ∃ c ∈ accepted, counter + REPLAY_WINDOW_SIZE ≤ c :=
        ⟨w.highest, hmem, by omega⟩
      simp [hold, hex]

/-- A checked counter has its bit inside the bitmap. -/
theorem lt_window_of_check (hle : counter ≤ w.highest) (h : w.check counter = true) :
    w.highest - counter < REPLAY_WINDOW_SIZE :=
  ((check_of_le hle).mp h).1

theorem accept_highest (w : ReplayWindow) (counter : Nat) :
    (w.accept counter).highest = max w.highest counter := by
  unfold accept
  by_cases h : w.highest < counter
  · rw [if_pos h]
    exact (Nat.max_eq_right (Nat.le_of_lt h)).symm
  · rw [if_neg h]
    exact (Nat.max_eq_left (Nat.not_lt.mp h)).symm

theorem bit_accept_of_lt (h : w.highest < counter) {i : Nat} (hi : i < REPLAY_WINDOW_SIZE) :
    bit (w.accept counter).bitmap i =
      (decide (i = 0) ||
        if i < counter - w.highest then false else bit w.bitmap (i - (counter - w.highest))) := by
  unfold accept
  rw [if_pos h]
  dsimp only
  have hset := fun v : ReplayBitmap => bit_setIfInBounds_or v (by decide)
    (show 0 < 64 * (REPLAY_WINDOW_SIZE / 64) by decide) i
  simp only [Nat.zero_div, Nat.zero_mod, BitVec.shiftLeft_zero] at hset
  rw [hset]
  congr 1
  by_cases hbig : REPLAY_WINDOW_SIZE ≤ counter - w.highest
  · rw [if_pos hbig, if_pos (by omega), bit_replicate_zero]
  · rw [if_neg hbig, bit_shiftBitmap _ _ hi]

theorem bit_accept_of_le (h : counter ≤ w.highest)
    (hwin : w.highest - counter < REPLAY_WINDOW_SIZE) (i : Nat) :
    bit (w.accept counter).bitmap i =
      (decide (i = w.highest - counter) || bit w.bitmap i) := by
  unfold accept
  rw [if_neg (Nat.not_lt.mpr h)]
  exact bit_setIfInBounds_or w.bitmap (by decide) (by rwa [bits_eq]) i

/-- **Accepting** a checked counter adds it to the history. -/
theorem Represents.accept (h : Represents w accepted) (hcheck : w.check counter = true) :
    Represents (w.accept counter) (accepted ++ [counter]) := by
  by_cases hlt : w.highest < counter
  · have hhigh : (w.accept counter).highest = counter := by
      rw [accept_highest, Nat.max_eq_right (Nat.le_of_lt hlt)]
    refine ⟨?_, ?_, ?_⟩
    · rw [hhigh]
      simp
    · rw [hhigh]
      intro c hc
      rcases List.mem_append.mp hc with hc | hc
      · exact Nat.le_trans (h.le_highest c hc) (Nat.le_of_lt hlt)
      · exact Nat.le_of_eq (List.mem_singleton.mp hc)
    · intro i hi
      rw [bit_accept_of_lt hlt hi, hhigh, List.mem_append, List.mem_singleton]
      by_cases hzero : i = 0
      · simp [hzero]
      by_cases hgap : i < counter - w.highest
      · -- between the old and the new highest counter nothing was accepted
        have hnot : counter - i ∉ accepted := fun hmem => by
          have := h.le_highest _ hmem
          omega
        simp only [hzero, hgap, hnot, decide_false, if_true, Bool.false_or, Bool.false_eq_true,
          false_or, false_iff]
        omega
      · have hsub : w.highest - (i - (counter - w.highest)) = counter - i := by omega
        have hle : i - (counter - w.highest) ≤ w.highest ↔ i ≤ counter := by omega
        have hbit := h.bit_iff (i - (counter - w.highest)) (by omega)
        rw [hsub, hle] at hbit
        simp only [hzero, hgap, decide_false, Bool.false_or, if_false, hbit]
        refine and_congr_right fun hic => ?_
        have hne : counter - i ≠ counter := by omega
        simp [hne]
  · have hle : counter ≤ w.highest := Nat.not_lt.mp hlt
    have hwin := lt_window_of_check hle hcheck
    have hhigh : (w.accept counter).highest = w.highest := by
      rw [accept_highest, Nat.max_eq_left hle]
    refine ⟨?_, ?_, ?_⟩
    · rw [hhigh]
      rcases h.highest_mem with hmem | ⟨hnil, hzero⟩
      · exact .inl (List.mem_append_left _ hmem)
      · -- the first counter of a fresh window may be 0, which is the initial `highest`
        have hc : counter = 0 := by omega
        exact .inl (by simp [hzero, hc])
    · rw [hhigh]
      intro c hc
      rcases List.mem_append.mp hc with hc | hc
      · exact h.le_highest c hc
      · rwa [List.mem_singleton.mp hc]
    · intro i hi
      rw [bit_accept_of_le hle hwin, hhigh, List.mem_append, List.mem_singleton, Bool.or_eq_true,
        decide_eq_true_iff, h.bit_iff i hi]
      constructor
      · rintro (rfl | ⟨hi, hmem⟩)
        · exact ⟨by omega, .inr (by omega)⟩
        · exact ⟨hi, .inl hmem⟩
      · rintro ⟨hi, hmem | heq⟩
        · exact .inr ⟨hi, hmem⟩
        · exact .inl (by omega)

end ReplayWindow

end Fips
