import Mathlib.Order.Basic

/-!
# Linear search for a best candidate

A loop over a collection that keeps at most one incumbent: an element that is no candidate
(`val a = none`) is skipped, the first candidate is taken, and a later one is compared with the
incumbent. `Round` states what one round does; the lemmas say what the whole loop then returns,
without any assumption that the comparison is an order (`foldl_eq_none_iff`, `of_foldl_eq_some`).
Where the comparison minimises a key in a preorder, the result is a minimum (`foldl_le`).
-/

namespace Select

variable {α β γ : Type*}

/-- One round of the search. -/
structure Round (f : Option β → α → Option β) (val : α → Option β) : Prop where
  skip : ∀ acc a, val a = none → f acc a = acc
  take : ∀ a b, val a = some b → f none a = some b
  contest : ∀ a b b₀, val a = some b → f (some b₀) a = some b₀ ∨ f (some b₀) a = some b

variable {f : Option β → α → Option β} {val : α → Option β}

theorem foldl_some_isSome (hf : Round f val) (l : List α) (b : β) :
    (l.foldl f (some b)).isSome := by
  induction l generalizing b with
  | nil => rfl
  | cons a l ih =>
    rw [List.foldl_cons]
    cases hv : val a with
    | none =>
      rw [hf.skip _ _ hv]
      exact ih b
    | some b' =>
      rcases hf.contest a b' b hv with h | h
      · rw [h]
        exact ih b
      · rw [h]
        exact ih b'

theorem foldl_eq_none_iff (hf : Round f val) (l : List α) :
    l.foldl f none = none ↔ ∀ a ∈ l, val a = none := by
  induction l with
  | nil => simp
  | cons a l ih =>
    rw [List.foldl_cons, List.forall_mem_cons]
    cases hv : val a with
    | none =>
      rw [hf.skip _ _ hv, ih]
      exact (and_iff_right rfl).symm
    | some b =>
      rw [hf.take a b hv]
      constructor
      · intro h
        have hsome := foldl_some_isSome hf l b
        rw [h] at hsome
        cases hsome
      · rintro ⟨h, -⟩
        cases h

theorem of_foldl_eq_some (hf : Round f val) (l : List α) {acc : Option β} {b : β}
    (h : l.foldl f acc = some b) : acc = some b ∨ ∃ a ∈ l, val a = some b := by
  induction l generalizing acc with
  | nil => exact .inl h
  | cons a l ih =>
    rw [List.foldl_cons] at h
    rcases ih h with hacc | ⟨a', ha', hv'⟩
    · cases hv : val a with
      | none =>
        rw [hf.skip _ _ hv] at hacc
        exact .inl hacc
      | some b' =>
        have hb' : f acc a = acc ∨ f acc a = some b' := by
          cases acc with
          | none => exact .inr (hf.take a b' hv)
          | some b₀ => exact hf.contest a b' b₀ hv
        rcases hb' with hb' | hb'
        · exact .inl (hb' ▸ hacc)
        · rw [hb'] at hacc
          exact .inr ⟨a, List.mem_cons_self, hv.trans hacc⟩
    · exact .inr ⟨a', List.mem_cons_of_mem _ ha', hv'⟩

theorem mem_of_foldl_eq_some (hf : Round f val) (l : List α) {b : β}
    (h : l.foldl f none = some b) : ∃ a ∈ l, val a = some b := by
  rcases of_foldl_eq_some hf l h with h | h
  · cases h
  · exact h

/-- The comparison keeps the smaller key. -/
def Minimises [Preorder γ] (f : Option β → α → Option β) (val : α → Option β) (key : β → γ) :
    Prop :=
  ∀ a b b₀ b₁, val a = some b → f (some b₀) a = some b₁ → key b₁ ≤ key b₀ ∧ key b₁ ≤ key b

theorem foldl_le [Preorder γ] {key : β → γ} (hf : Round f val) (hmin : Minimises f val key)
    (l : List α) {acc : Option β} {b : β} (h : l.foldl f acc = some b) :
    (∀ b₀, acc = some b₀ → key b ≤ key b₀) ∧ ∀ a ∈ l, ∀ b', val a = some b' → key b ≤ key b' := by
  induction l generalizing acc with
  | nil =>
    refine ⟨fun b₀ h₀ => ?_, fun a ha => absurd ha List.not_mem_nil⟩
    obtain rfl := Option.some.inj (h.symm.trans h₀)
    exact le_rfl
  | cons a l ih =>
    rw [List.foldl_cons] at h
    obtain ⟨hacc, hl⟩ := ih h
    -- what this round leaves, compared with the incumbent and with `a`'s own value
    have hround : (∀ b₀, acc = some b₀ → ∃ b₁, f acc a = some b₁ ∧ key b₁ ≤ key b₀) ∧
        ∀ b', val a = some b' → ∃ b₁, f acc a = some b₁ ∧ key b₁ ≤ key b' := by
      cases hv : val a with
      | none =>
        rw [hf.skip _ _ hv]
        exact ⟨fun b₀ h₀ => ⟨b₀, h₀, le_rfl⟩, fun b' h' => nomatch h'⟩
      | some b'' =>
        cases acc with
        | none =>
          rw [hf.take a b'' hv]
          refine ⟨fun b₀ h₀ => (nomatch h₀), fun b' h' => ⟨b'', rfl, ?_⟩⟩
          rw [Option.some.inj h']
        | some b₀ =>
          obtain ⟨b₁, hb₁⟩ : ∃ b₁, f (some b₀) a = some b₁ := by
            rcases hf.contest a b'' b₀ hv with h' | h'
            · exact ⟨b₀, h'⟩
            · exact ⟨b'', h'⟩
          obtain ⟨h₀, h₁⟩ := hmin a b'' b₀ b₁ hv hb₁
          refine ⟨fun b₀' h₀' => ⟨b₁, hb₁, ?_⟩, fun b' h' => ⟨b₁, hb₁, ?_⟩⟩
          · rw [← Option.some.inj h₀']
            exact h₀
          · rw [← Option.some.inj h']
            exact h₁
    refine ⟨fun b₀ h₀ => ?_, fun a' ha' b' hv' => ?_⟩
    · obtain ⟨b₁, hb₁, hle⟩ := hround.1 b₀ h₀
      exact (hacc b₁ hb₁).trans hle
    · rcases List.mem_cons.mp ha' with rfl | ha'
      · obtain ⟨b₁, hb₁, hle⟩ := hround.2 b' hv'
        exact (hacc b₁ hb₁).trans hle
      · exact hl a' ha' b' hv'

end Select
