import Fips.Wire.MessageCodec

/-!
# Coordinates in the clear

A session payload may carry the coordinates of its source and of its destination outside the
encryption: a setup and an ack always do, an encrypted message with the flag CP between header and
ciphertext. `Shows` is what `try_warm_coord_cache` (`node/handlers/forwarding.rs:156-233`) reads of
them, on whatever bytes.

## Results

* `shows_setup`, `shows_ack`: a setup and an ack show what was put in.
* `not_shows_msg3`, `not_shows_withPrefix_u`: a third message and an error signal show nothing.
* `LookupResponse.coords_of_encode`: a response carries the coordinates of its target.
* `Shows.onWire`: what is shown fits the count field, so it can be sent again.
-/

open Checked

namespace Fips

open TreeCoordinate (OnWire onWire_addrsOnly)

@[simp] theorem TreeCoordinate.nodeAddr_addrsOnly (c : TreeCoordinate) :
    c.addrsOnly.nodeAddr = c.nodeAddr := by
  have hhead : c.addrsOnly.nodeAddrs.head? = c.nodeAddrs.head? := by rw [nodeAddrs_addrsOnly]
  unfold nodeAddrs at hhead
  rw [List.head?_map, List.head?_map, List.head?_eq_some_head c.addrsOnly.nonempty,
    List.head?_eq_some_head c.nonempty] at hhead
  exact Option.some.inj hhead

/-- The coordinates of source and destination that a payload carries in the clear. -/
inductive Shows (payload : Bytes) : Option TreeCoordinate → Option TreeCoordinate → Prop
  | setup {pre : FspCommonPrefix} {setup : SessionSetup}
      (hpre : FspCommonPrefix.parse payload = .ok pre) (hphase : pre.phase = FSP_PHASE_MSG1)
      (hsetup : SessionSetup.decode (payload.drop FSP_COMMON_PREFIX_SIZE) = .ok setup) :
      Shows payload (some setup.srcCoords) (some setup.destCoords)
  | ack {pre : FspCommonPrefix} {ack : SessionAck}
      (hpre : FspCommonPrefix.parse payload = .ok pre) (hphase : pre.phase = FSP_PHASE_MSG2)
      (hack : SessionAck.decode (payload.drop FSP_COMMON_PREFIX_SIZE) = .ok ack) :
      Shows payload (some ack.srcCoords) (some ack.destCoords)
  | frame {pre : FspCommonPrefix} {src dest : Option TreeCoordinate} {consumed : Nat}
      (hpre : FspCommonPrefix.parse payload = .ok pre) (hphase : pre.phase = FSP_PHASE_ESTABLISHED)
      (hcoords : pre.hasCoords = true)
      (hparsed : parseEncryptedCoords (payload.drop FSP_HEADER_SIZE) = .ok (src, dest, consumed)) :
      Shows payload src dest

section Reading

/-- The encoding of a coordinate tells where it ends. -/
theorem encodeCoords_append_inj {a b : TreeCoordinate} {xs ys : Bytes} (ha : a.OnWire)
    (hb : b.entries.length ≤ 65535) (h : encodeCoords a ++ xs = encodeCoords b ++ ys) :
    a = b.addrsOnly ∧ xs = ys := by
  have hleft : decodeCoords (encodeCoords a ++ xs) = .ok (a, coordsWireSize a) :=
    decodeCoords_iff.mpr ⟨ha, rfl, xs, rfl⟩
  have hright : decodeCoords (encodeCoords b ++ ys) = .ok (b.addrsOnly, coordsWireSize b.addrsOnly) :=
    decodeCoords_iff.mpr ⟨onWire_addrsOnly hb, rfl, ys, by rw [encodeCoords_addrsOnly]⟩
  rw [h] at hleft
  have hsame : a = b.addrsOnly := congrArg Prod.fst (Except.ok.inj (hleft.symm.trans hright))
  subst hsame
  rw [encodeCoords_addrsOnly] at h
  exact ⟨rfl, List.append_cancel_left h⟩

/-- The pair of a setup or an ack, as it was put in. -/
theorem pairBody_inj {src dest src' dest' : TreeCoordinate} {flags flags' : UInt8} {hs hs' ys : Bytes}
    (hsrc : src'.OnWire) (hdest : dest'.OnWire) (hlen : src.entries.length ≤ 65535)
    (hlen' : dest.entries.length ≤ 65535)
    (h : pairBody flags src dest hs = pairBody flags' src' dest' hs' ++ ys) :
    src' = src.addrsOnly ∧ dest' = dest.addrsOnly := by
  unfold pairBody at h
  simp only [List.append_assoc, List.cons_append, List.nil_append, List.cons.injEq] at h
  obtain ⟨hfirst, hrest⟩ := encodeCoords_append_inj hsrc hlen h.2.symm
  exact ⟨hfirst, (encodeCoords_append_inj hdest hlen' hrest).1⟩

theorem parse_withPrefix (phase flags : UInt8) (body : Bytes) :
    ∃ len, FspCommonPrefix.parse (withPrefix phase flags body) =
      .ok ⟨phase >>> 4, phase &&& 0x0F, flags, len⟩ :=
  ⟨_, FspCommonPrefix.parse_cons phase flags (UInt8.ofNat body.length)
    (UInt8.ofNat (body.length / 256)) body⟩

end Reading

/-! ## Messages -/

section Messages

variable {src dest : Option TreeCoordinate}

/-- **A setup** shows the coordinates it was built with. -/
theorem shows_setup {m : SessionSetup} (hsrc : m.srcCoords.entries.length ≤ 65535)
    (hdest : m.destCoords.entries.length ≤ 65535) (h : Shows m.encode src dest) :
    src = some m.srcCoords.addrsOnly ∧ dest = some m.destCoords.addrsOnly := by
  obtain ⟨len, hparse⟩ := parse_withPrefix FSP_PHASE_MSG1 0x00 ([m.flags.toByte] ++
    encodeCoords m.srcCoords ++ encodeCoords m.destCoords ++ lengthPrefixed m.handshakePayload)
  cases h with
  | setup hpre hphase hsetup =>
    obtain ⟨_, _, ⟨⟨hsrc', hdest', -⟩, flags, -, rfl⟩, hdata⟩ := (SessionSetup.parses _ _).mp hsetup
    obtain ⟨hfirst, hsecond⟩ := pairBody_inj hsrc' hdest' hsrc hdest hdata
    exact ⟨congrArg some hfirst, congrArg some hsecond⟩
  | ack hpre hphase hack =>
    cases hpre.symm.trans hparse
    cases hphase
  | frame hpre hphase hcoords hparsed =>
    cases hpre.symm.trans hparse
    cases hphase

/-- **An ack** shows the coordinates it was built with. -/
theorem shows_ack {m : SessionAck} (hsrc : m.srcCoords.entries.length ≤ 65535)
    (hdest : m.destCoords.entries.length ≤ 65535) (h : Shows m.encode src dest) :
    src = some m.srcCoords.addrsOnly ∧ dest = some m.destCoords.addrsOnly := by
  obtain ⟨len, hparse⟩ := parse_withPrefix FSP_PHASE_MSG2 0x00 ([m.flags] ++
    encodeCoords m.srcCoords ++ encodeCoords m.destCoords ++ lengthPrefixed m.handshakePayload)
  cases h with
  | setup hpre hphase hsetup =>
    cases hpre.symm.trans hparse
    cases hphase
  | ack hpre hphase hack =>
    obtain ⟨_, _, ⟨⟨hsrc', hdest', -⟩, rfl⟩, hdata⟩ := (SessionAck.parses _ _).mp hack
    obtain ⟨hfirst, hsecond⟩ := pairBody_inj hsrc' hdest' hsrc hdest hdata
    exact ⟨congrArg some hfirst, congrArg some hsecond⟩
  | frame hpre hphase hcoords hparsed =>
    cases hpre.symm.trans hparse
    cases hphase

/-- **A third message** shows nothing. -/
theorem not_shows_msg3 (m : SessionMsg3) : ¬ Shows m.encode src dest := by
  obtain ⟨len, hparse⟩ := parse_withPrefix FSP_PHASE_MSG3 0x00
    ([m.flags] ++ lengthPrefixed m.handshakePayload)
  intro h
  cases h with
  | setup hpre hphase _ =>
    cases hpre.symm.trans hparse
    cases hphase
  | ack hpre hphase _ =>
    cases hpre.symm.trans hparse
    cases hphase
  | frame hpre hphase _ _ =>
    cases hpre.symm.trans hparse
    cases hphase

/-- **An error signal** shows nothing: its flags are U alone. -/
theorem not_shows_withPrefix_u (body : Bytes) : ¬ Shows (withPrefix 0x00 FSP_FLAG_U body) src dest := by
  obtain ⟨len, hparse⟩ := parse_withPrefix 0x00 FSP_FLAG_U body
  intro h
  cases h with
  | setup hpre hphase _ =>
    cases hpre.symm.trans hparse
    cases hphase
  | ack hpre hphase _ =>
    cases hpre.symm.trans hparse
    cases hphase
  | frame hpre _ hcoords _ =>
    cases hpre.symm.trans hparse
    exact absurd hcoords (by decide : ¬ hasFlag FSP_FLAG_U FSP_FLAG_CP = true)

/-- What is shown fits the count field. -/
theorem Shows.onWire {payload : Bytes} (h : Shows payload src dest) :
    (∀ c ∈ src, OnWire c) ∧ ∀ c ∈ dest, OnWire c := by
  cases h with
  | setup _ _ hsetup =>
    obtain ⟨_, _, ⟨⟨hsrc, hdest, -⟩, -⟩, -⟩ := (SessionSetup.parses _ _).mp hsetup
    exact ⟨fun c hc => Option.some.inj hc ▸ hsrc, fun c hc => Option.some.inj hc ▸ hdest⟩
  | ack _ _ hack =>
    obtain ⟨_, _, ⟨⟨hsrc, hdest, -⟩, -⟩, -⟩ := (SessionAck.parses _ _).mp hack
    exact ⟨fun c hc => Option.some.inj hc ▸ hsrc, fun c hc => Option.some.inj hc ▸ hdest⟩
  | frame _ _ _ hparsed =>
    unfold parseEncryptedCoords at hparsed
    obtain ⟨⟨first, n⟩, hfirst, hparsed⟩ := bind_eq_ok.mp hparsed
    obtain ⟨rest, -, hparsed⟩ := bind_eq_ok.mp hparsed
    obtain ⟨⟨second, n'⟩, hsecond, hparsed⟩ := bind_eq_ok.mp hparsed
    cases hparsed
    exact ⟨(decodeOptionalCoords_iff.mp hfirst).1, (decodeOptionalCoords_iff.mp hsecond).1⟩

/-! ## Lookup responses -/

variable {Signature : Type} [SchnorrEncoding Signature] {r r' : LookupResponse Signature}
  {payload : Bytes}

/-- A response comes back with its target and the coordinates of it. -/
theorem LookupResponse.coords_of_encode (hcoords : r.targetCoords.entries.length ≤ 65535)
    (hp : 0x31 :: payload = r.encode) (h : LookupResponse.decode payload = .ok r') :
    r'.target = r.target ∧ r'.targetCoords = r.targetCoords.addrsOnly := by
  have hbody : payload = [] ++ leBytes 8 r.requestId ++ r.target.bytes ++
      (leBytes 2 r.pathMtu ++ (encodeCoords r.targetCoords ++ SchnorrEncoding.asRef r.proof)) := by
    simpa [LookupResponse.encode] using hp
  have hrest : payload = ([] ++ leBytes 8 r.requestId ++ r.target.bytes ++ leBytes 2 r.pathMtu) ++
      (encodeCoords r.targetCoords ++ SchnorrEncoding.asRef r.proof) := by
    simpa [LookupResponse.encode] using hp
  unfold LookupResponse.decode at h
  simp only [bind_eq_ok] at h
  obtain ⟨_, -, _, -, target, htarget, _, -, rest, hslice, ⟨coords, n⟩, hdecoded, _, -, _, -, h⟩ := h
  cases h
  rw [hbody, addrAt_append _ (LookupRequest.length_target r.requestId)] at htarget
  rw [hrest, sliceFrom_append (length_coords r.requestId r.target r.pathMtu)] at hslice
  cases hslice
  obtain ⟨hwire, -, ys, hys⟩ := decodeCoords_iff.mp hdecoded
  exact ⟨(Except.ok.inj htarget).symm, (encodeCoords_append_inj hwire hcoords hys.symm).1⟩

theorem LookupResponse.onWire_of_decode (h : LookupResponse.decode payload = .ok r) :
    r.targetCoords.OnWire := by
  unfold LookupResponse.decode at h
  simp only [bind_eq_ok] at h
  obtain ⟨_, -, _, -, _, -, _, -, _, -, ⟨coords, n⟩, hdecoded, _, -, _, -, h⟩ := h
  cases h
  exact (decodeCoords_iff.mp hdecoded).1

end Messages

end Fips
