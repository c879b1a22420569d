import Mathlib.Data.List.Basic
import Fips.Lib.Checked

/-!
# Decoders of messages that delimit themselves

`Parses decode Body` says that `decode` accepts exactly the inputs that begin with a body of a value,
and returns this value; what follows the body is not read. `Body` is a relation because a decoder
may ignore some bits: several bodies may stand for one value, and `norm` maps each of them to the
one the encoder writes.

## Results

* `Parses.agrees`: a decoder described in this way inverts its encoder, rejects every strict prefix
  of an encoding, and can be undone by encoding again.
-/

open Checked

namespace Codec

variable {ε α β : Type}

/-- `decode` accepts what begins with a body of a value, and returns this value. -/
def Parses (decode : List β → Result ε α) (Body : α → List β → Prop) : Prop :=
  ∀ data a, decode data = .ok a ↔ ∃ body rest, Body a body ∧ data = body ++ rest

/-- A decoder and an encoder agree: on the values in `Range`, of which `strip` is what an encoding
keeps, and on all inputs, whose ignored parts `norm` overwrites. -/
structure Agrees (decode : List β → Result ε α) (encode : α → List β) (Range : α → Prop)
    (strip : α → α) (norm : List β → List β) : Prop where
  roundTrip : ∀ a, Range a → decode (encode a) = .ok (strip a)
  rejects : ∀ a, Range a → ∀ data, data <+: encode a → data ≠ encode a →
    ∃ e, decode data = .error (.error e)
  reencodes : ∀ data a, decode data = .ok a →
    ∃ consumed rest, data = consumed ++ rest ∧ norm consumed = encode a

variable {decode : List β → Result ε α} {encode : α → List β} {Body : α → List β → Prop}
  {Range : α → Prop} {strip : α → α} {norm : List β → List β}

theorem Parses.decode_body (h : Parses decode Body) {a : α} {body : List β} (hbody : Body a body)
    (rest : List β) : decode (body ++ rest) = .ok a :=
  (h _ a).mpr ⟨body, rest, hbody, rfl⟩

/-- Two bodies of which one begins with the other stand for one value. -/
theorem Parses.eq_of_prefix (h : Parses decode Body) {a a' : α} {body body' : List β}
    (hbody : Body a body) (hbody' : Body a' body') (hle : body' <+: body) : a' = a := by
  obtain ⟨rest, rfl⟩ := hle
  have hleft := h.decode_body hbody []
  rw [List.append_nil] at hleft
  exact Except.ok.inj ((h.decode_body hbody' rest).symm.trans hleft)

/-- **A decoder that reads bodies agrees with its encoder** where the encoder writes bodies, of the
length of all bodies of the value. -/
theorem Parses.agrees (h : Parses decode Body) (hpanic : ∀ data, NoPanic (decode data))
    (hrange : ∀ a, Range a → Body (strip a) (encode a))
    (hnorm : ∀ a body, Body a body → norm body = encode a)
    (hlength : ∀ bs, (norm bs).length = bs.length) : Agrees decode encode Range strip norm where
  roundTrip a ha := by
    have hdecode := h.decode_body (hrange a ha) []
    rwa [List.append_nil] at hdecode
  rejects a ha data hle hne := by
    cases hdecode : decode data with
    | error e =>
      cases e with
      | error e => exact ⟨e, rfl⟩
      | panic => exact absurd hdecode (hpanic data)
    | ok a' =>
      exfalso
      obtain ⟨body, rest, hbody, rfl⟩ := (h data a').mp hdecode
      have hsame : a' = strip a :=
        h.eq_of_prefix (hrange a ha) hbody ((List.prefix_append body rest).trans hle)
      subst hsame
      -- both bodies of the value are as long as its encoding
      have hbodyLength := hlength body
      have hencodeLength := hlength (encode a)
      rw [hnorm _ _ hbody] at hbodyLength
      rw [hnorm _ _ (hrange a ha)] at hencodeLength
      have hle' := hle.length_le
      rw [List.length_append] at hle'
      refine hne (hle.eq_of_length ?_)
      rw [List.length_append]
      omega
  reencodes data a hdecode := by
    obtain ⟨body, rest, hbody, rfl⟩ := (h data a).mp hdecode
    exact ⟨body, rest, rfl, hnorm a body hbody⟩

end Codec
