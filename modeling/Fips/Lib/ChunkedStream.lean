import Mathlib.Data.List.Basic

/-!
# Streams that arrive in pieces

A stream is read in pieces whose boundaries mean nothing: a `Reader` holds the pieces that are still
to come and how the stream ends after them. `readExact` fills a buffer across pieces. A reader of
messages, `next`, is built on it; `readAll` repeats it up to its first error.

## Results

* `readExact_of_le`, `readExact_of_lt`: `readExact` sees the contents of a stream, not its pieces.
* `Reads.bytes`: what is read is taken off the front of the stream.
* `reads_of_frames`: where `next` recognises each of some frames at the front of any stream, it reads
  back what was written, whatever the pieces.
* `readAll_eq_iff`: the loop returns the messages before the first error.
-/

namespace ChunkedStream

variable {β η ε : Type*}

/-- The pieces a stream is read in, none of them empty, and what ends it. -/
structure Reader (β η : Type*) where
  chunks : List (List β)
  nonempty : ∀ c ∈ chunks, c ≠ []
  ending : η

namespace Reader

/-- All that is left to read. -/
def bytes (r : Reader β η) : List β := r.chunks.flatten

/-- A stream in one piece. -/
def whole (ending : η) : List β → Reader β η
  | [] => ⟨[], List.forall_mem_nil _, ending⟩
  | b :: bs => ⟨[b :: bs], List.forall_mem_singleton.mpr (List.cons_ne_nil b bs), ending⟩

theorem bytes_whole (ending : η) (bs : List β) : (whole ending bs).bytes = bs := by
  cases bs with
  | nil => rfl
  | cons b bs => exact List.append_nil _

/-- The first `n` elements with the pieces after them. A read returns one piece, or the part of it
that still fits. -/
def fill : Nat → List (List β) → Option (List β × List (List β))
  | 0, cs => some ([], cs)
  | _ + 1, [] => none
  | n + 1, c :: cs =>
    if n + 1 < c.length then some (c.take (n + 1), c.drop (n + 1) :: cs)
    else (fill (n + 1 - c.length) cs).map fun filled => (c ++ filled.1, filled.2)

theorem fill_nonempty {n : Nat} {cs cs' : List (List β)} {bs : List β}
    (h : fill n cs = some (bs, cs')) (hcs : ∀ c ∈ cs, c ≠ []) : ∀ c ∈ cs', c ≠ [] := by
  induction cs generalizing n bs with
  | nil =>
    cases n with
    | zero =>
      cases h
      exact hcs
    | succ n => cases h
  | cons c cs ih =>
    cases n with
    | zero =>
      cases h
      exact hcs
    | succ n =>
      unfold fill at h
      split_ifs at h with hlt
      · cases h
        intro c' hc'
        rcases List.mem_cons.mp hc' with rfl | hmem
        · intro hnil
          exact absurd (List.drop_eq_nil_iff.mp hnil) (Nat.not_le.mpr hlt)
        · exact hcs c' (List.mem_cons_of_mem c hmem)
      · obtain ⟨filled, hfilled, heq⟩ := Option.map_eq_some_iff.mp h
        cases heq
        exact ih hfilled fun c' hc' => hcs c' (List.mem_cons_of_mem c hc')

/-- Fills a buffer, or finds that the stream ends before. -/
def readExact (n : Nat) (r : Reader β η) : Except η (List β × Reader β η) :=
  match h : fill n r.chunks with
  | some filled => .ok (filled.1, ⟨filled.2, fill_nonempty h r.nonempty, r.ending⟩)
  | none => .error r.ending

theorem fill_of_le {n : Nat} {cs : List (List β)} (h : n ≤ cs.flatten.length) :
    ∃ cs', fill n cs = some (cs.flatten.take n, cs') ∧ cs'.flatten = cs.flatten.drop n := by
  induction cs generalizing n with
  | nil =>
    obtain rfl : n = 0 := Nat.le_zero.mp h
    exact ⟨[], rfl, rfl⟩
  | cons c cs ih =>
    cases n with
    | zero => exact ⟨c :: cs, rfl, rfl⟩
    | succ n =>
      unfold fill
      rw [List.flatten_cons] at h ⊢
      by_cases hlt : n + 1 < c.length
      · refine ⟨c.drop (n + 1) :: cs, ?_, ?_⟩
        · rw [if_pos hlt, List.take_append_of_le_length (Nat.le_of_lt hlt)]
        · rw [List.flatten_cons, List.drop_append_of_le_length (Nat.le_of_lt hlt)]
      · have hle : c.length ≤ n + 1 := Nat.not_lt.mp hlt
        rw [List.length_append] at h
        obtain ⟨cs', hfill, hrest⟩ := ih (n := n + 1 - c.length) (Nat.sub_le_iff_le_add'.mpr h)
        refine ⟨cs', ?_, ?_⟩
        · rw [if_neg hlt, hfill, List.take_append, List.take_of_length_le hle]
          rfl
        · rw [hrest, List.drop_append, List.drop_of_length_le hle, List.nil_append]

theorem fill_of_lt {n : Nat} {cs : List (List β)} (h : cs.flatten.length < n) :
    fill n cs = none := by
  induction cs generalizing n with
  | nil =>
    cases n with
    | zero => cases h
    | succ n => rfl
  | cons c cs ih =>
    cases n with
    | zero => cases h
    | succ n =>
      rw [List.flatten_cons, List.length_append] at h
      unfold fill
      have hle : c.length ≤ n + 1 := Nat.le_trans (Nat.le_add_right ..) (Nat.le_of_lt h)
      rw [if_neg (Nat.not_lt.mpr hle), ih (Nat.lt_sub_iff_add_lt'.mpr h)]
      rfl

/-- **Reading within the stream.** -/
theorem readExact_of_le {n : Nat} {r : Reader β η} (h : n ≤ r.bytes.length) :
    ∃ r', readExact n r = .ok (r.bytes.take n, r') ∧ r'.bytes = r.bytes.drop n ∧
      r'.ending = r.ending := by
  obtain ⟨cs', hfill, hrest⟩ := fill_of_le h
  refine ⟨⟨cs', fill_nonempty hfill r.nonempty, r.ending⟩, ?_, hrest, rfl⟩
  unfold readExact
  split
  · rename_i filled heq
    cases heq.symm.trans hfill
    rfl
  · rename_i heq
    cases heq.symm.trans hfill

/-- **Reading beyond it.** -/
theorem readExact_of_lt {n : Nat} {r : Reader β η} (h : r.bytes.length < n) :
    readExact n r = .error r.ending := by
  unfold readExact
  split
  · rename_i filled heq
    cases heq.symm.trans (fill_of_lt h)
  · rfl

theorem readExact_eq_ok {n : Nat} {r r' : Reader β η} {bs : List β}
    (h : readExact n r = .ok (bs, r')) :
    bs.length = n ∧ r.bytes = bs ++ r'.bytes ∧ r'.ending = r.ending := by
  rcases Nat.lt_or_ge r.bytes.length n with hlt | hle
  · rw [readExact_of_lt hlt] at h
    cases h
  · obtain ⟨r'', hok, hrest, hending⟩ := readExact_of_le hle
    cases hok.symm.trans h
    exact ⟨List.length_take_of_le hle, by rw [hrest, List.take_append_drop], hending⟩

end Reader

/-! ## Messages -/

open Reader

/-- A reader of messages takes each of them off the front of the stream. -/
def Consumes (next : Reader β η → Except ε (List β × Reader β η)) : Prop :=
  ∀ r f r', next r = .ok (f, r') → r.bytes = f ++ r'.bytes ∧ f ≠ [] ∧ r'.ending = r.ending

variable {next : Reader β η → Except ε (List β × Reader β η)} {r r' r'' : Reader β η}
  {f : List β} {fs : List (List β)}

theorem Consumes.lt (h : Consumes next) (hok : next r = .ok (f, r')) :
    r'.bytes.length < r.bytes.length := by
  obtain ⟨hbytes, hne, -⟩ := h r f r' hok
  rw [hbytes, List.length_append]
  exact Nat.lt_add_of_pos_left (List.length_pos_iff.mpr hne)

/-- Reading message after message, up to the first error. -/
def readAll (next : Reader β η → Except ε (List β × Reader β η)) (h : Consumes next)
    (r : Reader β η) : List (List β) × ε :=
  match _hnext : next r with
  | .error e => ([], e)
  | .ok (f, r') =>
    let rest := readAll next h r'
    (f :: rest.1, rest.2)
termination_by r.bytes.length
decreasing_by exact h.lt _hnext

/-- The first messages, and the reader after them. -/
inductive Reads (next : Reader β η → Except ε (List β × Reader β η)) :
    Reader β η → List (List β) → Reader β η → Prop
  | nil (r : Reader β η) : Reads next r [] r
  | cons {r r' r'' : Reader β η} {f : List β} {fs : List (List β)} : next r = .ok (f, r') →
    Reads next r' fs r'' → Reads next r (f :: fs) r''

theorem Reads.bytes (hnext : Consumes next) (h : Reads next r fs r') :
    r.bytes = fs.flatten ++ r'.bytes ∧ r'.ending = r.ending := by
  induction h with
  | nil r => exact ⟨rfl, rfl⟩
  | cons hok _ ih =>
    obtain ⟨hbytes, -, hending⟩ := hnext _ _ _ hok
    refine ⟨?_, ih.2.trans hending⟩
    rw [hbytes, ih.1, List.flatten_cons, List.append_assoc]

theorem readAll_eq_iff (h : Consumes next) {e : ε} :
    readAll next h r = (fs, e) ↔ ∃ r', Reads next r fs r' ∧ next r' = .error e := by
  constructor
  · intro hall
    induction fs generalizing r with
    | nil =>
      rw [readAll] at hall
      split at hall
      · rename_i e' hnext
        cases hall
        exact ⟨r, .nil r, hnext⟩
      · cases hall
    | cons f fs ih =>
      rw [readAll] at hall
      split at hall
      · cases hall
      · rename_i f' r' hnext
        cases hall
        obtain ⟨r'', hreads, herror⟩ := ih (r := r') rfl
        exact ⟨r'', .cons hnext hreads, herror⟩
  · rintro ⟨r', hreads, herror⟩
    induction hreads with
    | nil r =>
      rw [readAll]
      split
      · rename_i e' hnext
        cases hnext.symm.trans herror
        rfl
      · rename_i hnext
        cases hnext.symm.trans herror
    | cons hok _ ih =>
      rw [readAll]
      split
      · rename_i hnext
        cases hnext.symm.trans hok
      · rename_i hnext
        cases hnext.symm.trans hok
        rw [ih herror]

/-- Whatever the stream holds, the messages are a prefix of it. -/
theorem readAll_prefix (h : Consumes next) (r : Reader β η) :
    (readAll next h r).1.flatten <+: r.bytes := by
  obtain ⟨r', hreads, -⟩ := (readAll_eq_iff h).mp (rfl : readAll next h r = (_, _))
  rw [(hreads.bytes h).1]
  exact List.prefix_append ..

/-- **Framing**: frames that are recognised at the front of any stream are read back. -/
theorem reads_of_frames {fs : List (List β)} {rest : List β}
    (hframe : ∀ f ∈ fs, ∀ r : Reader β η, f <+: r.bytes → ∃ r', next r = .ok (f, r'))
    (hnext : Consumes next) (hbytes : r.bytes = fs.flatten ++ rest) :
    ∃ r', Reads next r fs r' ∧ r'.bytes = rest := by
  induction fs generalizing r with
  | nil => exact ⟨r, .nil r, hbytes⟩
  | cons f fs ih =>
    rw [List.flatten_cons, List.append_assoc] at hbytes
    obtain ⟨r', hok⟩ := hframe f List.mem_cons_self r (hbytes ▸ List.prefix_append ..)
    have hrest : r'.bytes = fs.flatten ++ rest :=
      List.append_cancel_left ((hnext r f r' hok).1.symm.trans hbytes)
    obtain ⟨r'', hreads, hleft⟩ := ih (fun g hg => hframe g (List.mem_cons_of_mem f hg)) hrest
    exact ⟨r'', .cons hok hreads, hleft⟩

end ChunkedStream
