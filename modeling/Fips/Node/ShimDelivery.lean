import Mathlib.Data.List.TakeDrop
import Fips.Node.CoordFrames
import Fips.Node.Sample
import Fips.Wire.Codec
import Fips.Wire.Ipv6

/-!
# The IPv6 shim from end to end

`compress_ipv6` keeps six bytes of an IPv6 header and `decompress_ipv6` makes the rest anew: the
version, the length of the payload, and the addresses of the two ends of the session. A `ShimPacket`
is a packet by its parts; both functions are described by what they do to the parts.

## Results

* `decompressIpv6_of_compressIpv6`, `compressIpv6_of_decompressIpv6`: both directions of the codec.
* `delivers_shimPlaintext`: what the peer makes of the plaintext of a data packet.
* `wp_sendSessionData_leadsTo`: the plaintexts that are sealed for a packet.
* `shim_round_trip`: a packet is delivered as it was sent.
-/

open Checked

namespace Fips

open OnesComplement

/-! ## Packets by their parts -/

/-- The version nibble set to 6. -/
def versionSix (first : UInt8) : UInt8 := first &&& 0x0F ||| 0x60

theorem versionSix_shiftRight (first : UInt8) : versionSix first >>> 4 = 6 := by
  have hall : ∀ i : Fin 256, versionSix (UInt8.ofFin i) >>> 4 = 6 := by decide +kernel
  exact hall first.toFin

theorem versionSix_eq_self {first : UInt8} (h : first >>> 4 = 6) : versionSix first = first := by
  have hall : ∀ i : Fin 256, UInt8.ofFin i >>> 4 = 6 →
      versionSix (UInt8.ofFin i) = UInt8.ofFin i := by decide +kernel
  exact hall first.toFin h

/-- What the shim keeps of a packet. -/
structure ShimPacket where
  first : UInt8
  second : UInt8
  third : UInt8
  fourth : UInt8
  nextHeader : UInt8
  hopLimit : UInt8
  upperPayload : Bytes

namespace ShimPacket

/-- The bytes of the shim. -/
def shim (p : ShimPacket) : Bytes :=
  [IPV6_SHIM_FORMAT_COMPRESSED, p.first, p.second, p.third, p.fourth, p.nextHeader, p.hopLimit] ++
    p.upperPayload

/-- A whole packet with this length field and these addresses. -/
def packet (p : ShimPacket) (lengthHi lengthLo : UInt8) (src dst : Bytes) : Bytes :=
  [p.first, p.second, p.third, p.fourth, lengthHi, lengthLo, p.nextHeader, p.hopLimit] ++
    (src ++ (dst ++ p.upperPayload))

variable {p : ShimPacket} {lengthHi lengthLo : UInt8} {src dst : Bytes}

theorem length_packet (hsrc : src.length = 16) (hdst : dst.length = 16) :
    (p.packet lengthHi lengthLo src dst).length = IPV6_HEADER_SIZE + p.upperPayload.length := by
  unfold packet IPV6_HEADER_SIZE
  simp only [List.length_append, List.length_cons, List.length_nil, hsrc, hdst]
  omega

theorem compressIpv6_packet (hsrc : src.length = 16) (hdst : dst.length = 16)
    (hversion : p.first >>> 4 = 6) :
    compressIpv6 (p.packet lengthHi lengthLo src dst) = .ok p.shim := by
  have hlen : IPV6_HEADER_SIZE ≤ (p.packet lengthHi lengthLo src dst).length := by
    rw [length_packet hsrc hdst]
    exact Nat.le_add_right _ _
  have hupper : (sliceFrom (p.packet lengthHi lengthLo src dst) IPV6_HEADER_SIZE :
      Result Unit Bytes) = .ok p.upperPayload := by
    unfold packet
    rw [← List.append_assoc, ← List.append_assoc]
    refine sliceFrom_append ?_
    simp only [List.length_append, List.length_cons, List.length_nil, hsrc, hdst]
    rfl
  refine bind_eq_ok.mpr ⟨(), atLeast_eq_ok.mpr hlen, bind_eq_ok.mpr ⟨p.first, rfl, ?_⟩⟩
  refine bind_eq_ok.mpr ⟨(), check_eq_ok.mpr (beq_iff_eq.mpr hversion), ?_⟩
  have hfour : (slice (p.packet lengthHi lengthLo src dst) 0 4 : Result Unit Bytes) =
      .ok [p.first, p.second, p.third, p.fourth] :=
    slice_eq_ok.mpr ⟨Nat.zero_le 4, le_trans (by decide) hlen, rfl⟩
  refine bind_eq_ok.mpr ⟨_, hupper, bind_eq_ok.mpr ⟨_, hfour, ?_⟩⟩
  exact bind_eq_ok.mpr ⟨p.nextHeader, rfl, bind_eq_ok.mpr ⟨p.hopLimit, rfl, rfl⟩⟩

theorem decompressIpv6_shim (p : ShimPacket) (src dst : Bytes) :
    decompressIpv6 p.shim src dst = .ok ({ p with first := versionSix p.first }.packet
      (UInt8.ofNat (p.upperPayload.length / 256)) (UInt8.ofNat p.upperPayload.length) src dst) := by
  have hlen : 1 + IPV6_SHIM_RESIDUAL_SIZE ≤ p.shim.length := by
    unfold shim IPV6_SHIM_RESIDUAL_SIZE
    simp only [List.length_append, List.length_cons, List.length_nil]
    omega
  have hresidual : (slice p.shim 1 (1 + IPV6_SHIM_RESIDUAL_SIZE) : Result Unit Bytes) =
      .ok [p.first, p.second, p.third, p.fourth, p.nextHeader, p.hopLimit] :=
    slice_eq_ok.mpr ⟨by decide, hlen, rfl⟩
  have hupper : (sliceFrom p.shim (1 + IPV6_SHIM_RESIDUAL_SIZE) : Result Unit Bytes) =
      .ok p.upperPayload := sliceFrom_append rfl
  refine bind_eq_ok.mpr ⟨(), atLeast_eq_ok.mpr hlen, ?_⟩
  refine bind_eq_ok.mpr ⟨IPV6_SHIM_FORMAT_COMPRESSED, rfl, bind_eq_ok.mpr ⟨(), rfl, ?_⟩⟩
  refine bind_eq_ok.mpr ⟨_, hresidual, bind_eq_ok.mpr ⟨_, hupper, ?_⟩⟩
  refine bind_eq_ok.mpr ⟨p.first, rfl, ?_⟩
  refine bind_eq_ok.mpr ⟨[p.second, p.third, p.fourth], rfl, ?_⟩
  refine bind_eq_ok.mpr ⟨p.nextHeader, rfl, bind_eq_ok.mpr ⟨p.hopLimit, rfl, ?_⟩⟩
  unfold packet versionSix
  simp only [List.append_assoc]
  rfl

/-- A payload that is accepted is a shim. -/
theorem exists_of_decompressIpv6 {shimPayload packet : Bytes}
    (h : decompressIpv6 shimPayload src dst = .ok packet) :
    ∃ p : ShimPacket, shimPayload = p.shim := by
  obtain ⟨_, hlen, h⟩ := bind_eq_ok.mp h
  obtain ⟨format, hformat, h⟩ := bind_eq_ok.mp h
  obtain ⟨_, hcheck, -⟩ := bind_eq_ok.mp h
  have hseven : 7 ≤ shimPayload.length := atLeast_eq_ok.mp hlen
  rcases shimPayload with _ | ⟨f, _ | ⟨a, _ | ⟨b, _ | ⟨c, _ | ⟨d, _ | ⟨e, _ | ⟨g, rest⟩⟩⟩⟩⟩⟩⟩
  all_goals simp only [List.length_cons, List.length_nil] at hseven
  all_goals try omega
  obtain rfl : f = IPV6_SHIM_FORMAT_COMPRESSED := by
    cases hformat
    exact beq_iff_eq.mp (check_eq_ok.mp hcheck)
  exact ⟨⟨a, b, c, d, e, g, rest⟩, rfl⟩

end ShimPacket

/-! ## Both directions -/

/-- An IPv6 packet whose length field says how long it is. -/
structure IsIpv6 (packet : Bytes) : Prop where
  length : IPV6_HEADER_SIZE ≤ packet.length
  version : byteAt packet 0 >>> 4 = 6
  payloadLength : wordAt packet 4 = packet.length - IPV6_HEADER_SIZE

/-- A shim payload with the version nibble set to 6. -/
def withVersionSix : Bytes → Bytes
  | format :: first :: rest => format :: versionSix first :: rest
  | shimPayload => shimPayload

theorem exists_shimPacket {packet : Bytes} (h : IPV6_HEADER_SIZE ≤ packet.length) :
    ∃ (p : ShimPacket) (lengthHi lengthLo : UInt8),
      packet = p.packet lengthHi lengthLo (ipv6Source packet) (ipv6Destination packet) := by
  have hlen : 40 ≤ packet.length := h
  rcases packet with _ | ⟨a, _ | ⟨b, _ | ⟨c, _ | ⟨d, _ | ⟨hi, _ | ⟨lo, _ | ⟨e, _ | ⟨f, rest⟩⟩⟩⟩⟩⟩⟩⟩
  all_goals simp only [List.length_cons, List.length_nil] at hlen
  all_goals try omega
  refine ⟨⟨a, b, c, d, e, f, rest.drop 32⟩, hi, lo, ?_⟩
  have hrest : rest = rest.take 16 ++ ((rest.drop 16).take 16 ++ rest.drop 32) := by
    rw [← List.drop_drop (i := 16) (j := 16), List.take_append_drop, List.take_append_drop]
  exact congrArg (fun ys => a :: b :: c :: d :: hi :: lo :: e :: f :: ys) hrest

theorem IsIpv6.length_source {packet : Bytes} (h : IsIpv6 packet) :
    (ipv6Source packet).length = 16 := by
  have hlen : 40 ≤ packet.length := h.length
  rw [ipv6Source, List.length_take, List.length_drop]
  omega

theorem IsIpv6.length_destination {packet : Bytes} (h : IsIpv6 packet) :
    (ipv6Destination packet).length = 16 := by
  have hlen : 40 ≤ packet.length := h.length
  rw [ipv6Destination, List.length_take, List.length_drop]
  omega

/-- **A packet is rebuilt** from its shim and its addresses. -/
theorem decompressIpv6_of_compressIpv6 {packet : Bytes} (h : IsIpv6 packet) :
    ∃ shimPayload, compressIpv6 packet = .ok shimPayload ∧
      decompressIpv6 shimPayload (ipv6Source packet) (ipv6Destination packet) = .ok packet := by
  obtain ⟨p, lengthHi, lengthLo, hpacket⟩ := exists_shimPacket h.length
  have hsrc := h.length_source
  have hdst := h.length_destination
  have hversion : p.first >>> 4 = 6 := by
    have hfirst : byteAt packet 0 = p.first := by
      rw [hpacket]
      rfl
    rw [← hfirst]
    exact h.version
  have hword : beWord lengthHi lengthLo = p.upperPayload.length := by
    have hlength := h.payloadLength
    rw [hpacket, ShimPacket.length_packet hsrc hdst, Nat.add_sub_cancel_left] at hlength
    exact hlength
  have hbytes := beBytes_beWord lengthHi lengthLo
  rw [hword, beBytes] at hbytes
  refine ⟨p.shim, ?_, ?_⟩
  · rw [hpacket]
    exact ShimPacket.compressIpv6_packet hsrc hdst hversion
  · rw [ShimPacket.decompressIpv6_shim, versionSix_eq_self hversion, (List.cons.inj hbytes).1,
      (List.cons.inj (List.cons.inj hbytes).2).1, ← hpacket]

/-- **A shim is recovered** from the packet it stands for, but for the version nibble. -/
theorem compressIpv6_of_decompressIpv6 {shimPayload src dst packet : Bytes} (hsrc : src.length = 16)
    (hdst : dst.length = 16) (h : decompressIpv6 shimPayload src dst = .ok packet) :
    compressIpv6 packet = .ok (withVersionSix shimPayload) := by
  obtain ⟨p, rfl⟩ := ShimPacket.exists_of_decompressIpv6 h
  rw [ShimPacket.decompressIpv6_shim] at h
  cases h
  exact ShimPacket.compressIpv6_packet hsrc hdst (versionSix_shiftRight p.first)

/-! ## Messages of a session -/

theorem fspStripInnerHeader_prepend (timestampMs : Nat) (msgType innerFlags : UInt8)
    (payload : Bytes) :
    fspStripInnerHeader (fspPrependInnerHeader timestampMs msgType innerFlags payload) =
      .ok ⟨timestampMs % 256 ^ 4, msgType, innerFlags, payload⟩ := by
  have htimestamp : (leAt (leBytes 4 timestampMs ++ [msgType, innerFlags] ++ payload) 0 4 :
      Result Unit Nat) = .ok (timestampMs % 256 ^ 4) := by
    rw [List.append_assoc]
    change leAt ([] ++ (leBytes 4 timestampMs ++ ([msgType, innerFlags] ++ payload))) 0 4 = _
    exact leAt_append_mod rfl timestampMs
  have hlen : FSP_INNER_HEADER_SIZE ≤
      (leBytes 4 timestampMs ++ [msgType, innerFlags] ++ payload).length := by
    unfold FSP_INNER_HEADER_SIZE
    simp only [List.length_append, length_leBytes, List.length_cons, List.length_nil]
    omega
  have hrest : (sliceFrom (leBytes 4 timestampMs ++ [msgType, innerFlags] ++ payload)
      FSP_INNER_HEADER_SIZE : Result Unit Bytes) = .ok payload := sliceFrom_append rfl
  refine bind_eq_ok.mpr ⟨(), atLeast_eq_ok.mpr hlen, bind_eq_ok.mpr ⟨_, htimestamp, ?_⟩⟩
  refine bind_eq_ok.mpr ⟨msgType, rfl, bind_eq_ok.mpr ⟨innerFlags, rfl, ?_⟩⟩
  exact bind_eq_ok.mpr ⟨_, hrest, rfl⟩

namespace Node

variable {SecretKey PublicKey ν μ : Type}

theorem exists_echoReplySequence (packet : Bytes) :
    ∃ sequence, echoReplySequence packet = .ok sequence := by
  unfold echoReplySequence
  by_cases hlen : 48 ≤ packet.length
  · rw [if_pos hlen, index_eq_byteAt (by omega), ok_bind, index_eq_byteAt (by omega), ok_bind]
    by_cases hreply : (byteAt packet 6 == 58 && byteAt packet 40 == 129) = true
    · rw [if_pos hreply, index_eq_byteAt (by omega), ok_bind, index_eq_byteAt (by omega), ok_bind]
      exact ⟨_, rfl⟩
    · rw [if_neg hreply]
      exact ⟨_, rfl⟩
  · rw [if_neg hlen]
    exact ⟨_, rfl⟩

/-- The packet that an effect hands to the TUN device. -/
def delivered : Effect PublicKey → Option Bytes
  | .deliverPacket packet => some packet
  | _ => none

/-- The packets handed to the TUN device, in their order. -/
def deliveries (effects : List (Effect PublicKey)) : List Bytes := effects.filterMap delivered

/-- The packet as it is delivered: marked if the datagrams that carried it were. -/
def asDelivered (ceFlag : Bool) (packet : Bytes) : Bytes :=
  if ceFlag then markIpv6EcnCe packet else packet

theorem deliveries_append (effects : List (Effect PublicKey)) (e : Effect PublicKey) :
    deliveries (effects ++ [e]) = deliveries effects ++ (delivered e).toList := by
  unfold deliveries
  rw [List.filterMap_append]
  cases h : delivered e <;> simp [h]

section Receiver

variable [ChaCha20Poly1305] [SessionMmp μ]

/-- Messages that are sent deliver nothing. -/
theorem sendRules_deliveries (packets : List Bytes) :
    SendRules (fun _ _ => True)
      (fun n : Node SecretKey PublicKey ν μ => deliveries n.effects = packets) where
  note _ _ _ _ hn := hn
  advance _ _ _ _ _ _ _ _ hn := hn
  frame _ _ _ _ _ _ _ _ _ _ _ _ hn := by
    rw [deliveries_append]
    exact (List.append_nil _).trans hn

/-- Nor do the packets that waited for the session. -/
theorem keeps_deliveries_flushPendingPackets (env : Env SecretKey) (dest : NodeAddr)
    (packets : List Bytes) :
    Keeps (fun n => deliveries n.effects = packets)
      (flushPendingPackets env dest : Handler SecretKey PublicKey ν μ Unit) := by
  have hrules : SendRules (fun _ _ => True)
      (fun n : Node SecretKey PublicKey ν μ => deliveries n.effects = packets) :=
    sendRules_deliveries packets
  have hwarmup := hrules.keeps_sendCoordsWarmup env fun _ => trivial
  have hdata := hrules.keeps_sendSessionData env (fun _ _ => trivial) hwarmup
  exact keeps_flushPendingPackets env (fun n hn => hn) fun packet =>
    keeps_sendIpv6Packet env (fun srcPort dstPort payload => hdata dest srcPort dstPort payload) packet

omit [ChaCha20Poly1305] [SessionMmp μ] in
/-- A shim is made a packet with the addresses of the session. -/
theorem wp_handleDataPacket_shim {src : NodeAddr} {ceFlag : Bool} {shimPayload packet : Bytes}
    {srcPort : Nat} {peer : Node SecretKey PublicKey ν μ}
    (h : decompressIpv6 shimPayload (fipsAddress src) (fipsAddress peer.nodeAddr) = .ok packet) :
    wp (handleDataPacket src ceFlag (leBytes 2 srcPort ++ leBytes 2 FSP_PORT_IPV6_SHIM ++ shimPayload) :
        Handler SecretKey PublicKey ν μ Unit)
      (fun _ n' => deliveries n'.effects =
        deliveries peer.effects ++ [asDelivered ceFlag packet]) (fun _ _ => False) peer := by
  have hport : (leAt (leBytes 2 srcPort ++ leBytes 2 FSP_PORT_IPV6_SHIM ++ shimPayload) 2 2 :
      Result Unit Nat) = .ok FSP_PORT_IPV6_SHIM := leAt_append (length_leBytes 2 srcPort) (by decide)
  have hservice : (sliceFrom (leBytes 2 srcPort ++ leBytes 2 FSP_PORT_IPV6_SHIM ++ shimPayload)
      FSP_PORT_HEADER_SIZE : Result Unit Bytes) = .ok shimPayload := sliceFrom_append rfl
  obtain ⟨sequence, hsequence⟩ := exists_echoReplySequence packet
  unfold handleDataPacket
  rw [hport, hservice, orReturn_ok_bind, orReturn_ok_bind, if_pos (by rfl), wp_bind_iff, wp_read_iff,
    wp_bind_iff, wp_attempt_iff, h, wp_pureCall_iff]
  refine ⟨fun packet' hpacket => ?_, fun failed hfailed => by cases hfailed⟩
  cases hpacket
  have hdeliver : ∀ n : Node SecretKey PublicKey ν μ, deliveries n.effects = deliveries peer.effects →
      wp (emit (.deliverPacket (asDelivered ceFlag packet)) : Handler SecretKey PublicKey ν μ Unit)
        (fun _ n' => deliveries n'.effects = deliveries peer.effects ++ [asDelivered ceFlag packet])
        (fun _ _ => False) n := by
    intro n hn
    rw [wp_emit_iff, deliveries_append, hn]
    rfl
  dsimp only
  rw [hsequence, wp_bind_iff, wp_orReturn_ok]
  cases sequence with
  | none => exact hdeliver peer rfl
  | some sequence =>
    rw [wp_bind_iff, wp_read_iff]
    by_cases hping : (peer.pendingPings.lookup (src, sequence)).isSome = true
    · rw [if_pos hping, wp_bind_iff, wp_write_iff, wp_bind_iff, wp_emit_iff]
      refine hdeliver _ ?_
      rw [deliveries_append]
      exact List.append_nil _
    · rw [if_neg hping]
      exact hdeliver peer rfl

variable (SecretKey PublicKey ν μ) in
/-- The peer at `dest` takes `inner` for a message of the session with `src` and delivers these
packets, with the marks of the datagram that carried it. -/
def Delivers (src dest : NodeAddr) (inner : Bytes) (packets : List Bytes) : Prop :=
  ∃ message, fspStripInnerHeader inner = .ok message ∧
    ∀ (env : Env SecretKey) (counter plaintextLen pathMtu : Nat) (ceFlag : Bool)
      (peer : Node SecretKey PublicKey ν μ), peer.nodeAddr = dest →
      wp (processSessionMessage env src counter plaintextLen pathMtu ceFlag message)
        (fun _ n' => deliveries n'.effects =
          deliveries peer.effects ++ packets.map (asDelivered ceFlag))
        (fun _ n' => deliveries n'.effects =
          deliveries peer.effects ++ packets.map (asDelivered ceFlag)) peer

/-- The plaintext of a data packet of the shim. -/
def shimPlaintext (timestamp : Nat) (spin : UInt8) (shimPayload : Bytes) : Bytes :=
  fspPrependInnerHeader timestamp SessionMessageType.dataPacket.toByte spin
    (leBytes 2 FSP_PORT_IPV6_SHIM ++ leBytes 2 FSP_PORT_IPV6_SHIM ++ shimPayload)

/-- The plaintext of a standalone warmup. -/
def warmupPlaintext (timestamp : Nat) (spin : UInt8) : Bytes :=
  fspPrependInnerHeader timestamp SessionMessageType.coordsWarmup.toByte spin []

variable {src dest : NodeAddr} {packet shimPayload : Bytes}

/-- **The packet is rebuilt** from the plaintext and the addresses of the session. -/
theorem delivers_shimPlaintext (timestamp : Nat) (spin : UInt8)
    (h : decompressIpv6 shimPayload (fipsAddress src) (fipsAddress dest) = .ok packet) :
    Delivers SecretKey PublicKey ν μ src dest (shimPlaintext timestamp spin shimPayload) [packet] := by
  refine ⟨_, fspStripInnerHeader_prepend _ _ _ _,
    fun env counter plaintextLen pathMtu ceFlag peer hpeer => ?_⟩
  subst hpeer
  unfold processSessionMessage
  rw [wp_bind_iff, wp_modifySession_iff, wp_bind_iff, wp_modifySession_iff]
  extract_lets flush record
  have hrecord : ∀ u packets, Keeps (fun n : Node SecretKey PublicKey ν μ =>
      deliveries n.effects = packets) (record u) := by
    intro u packets
    have hflush : Keeps (fun n : Node SecretKey PublicKey ν μ => deliveries n.effects = packets)
        (flush ()) := keeps_deliveries_flushPendingPackets env src packets
    exact Keeps.ite (Keeps.bind (fun n hn => hn) fun _ => hflush) hflush
  have hlong : ¬ (leBytes 2 FSP_PORT_IPV6_SHIM ++ leBytes 2 FSP_PORT_IPV6_SHIM ++ shimPayload).length <
      FSP_PORT_HEADER_SIZE := by
    unfold FSP_PORT_HEADER_SIZE
    simp only [List.length_append, length_leBytes]
    omega
  rw [SessionMessageType.fromByte_toByte]
  dsimp only
  rw [if_neg hlong, wp_bind_iff]
  refine wp_mono (fun _ n' hn' => (hrecord () _).wp hn') (fun _ _ hF => hF.elim)
    (wp_handleDataPacket_shim ?_)
  exact h

/-- A warmup delivers nothing. -/
theorem delivers_warmupPlaintext (timestamp : Nat) (spin : UInt8) :
    Delivers SecretKey PublicKey ν μ src dest (warmupPlaintext timestamp spin) [] := by
  refine ⟨_, fspStripInnerHeader_prepend _ _ _ _,
    fun env counter plaintextLen pathMtu ceFlag peer _ => ?_⟩
  unfold processSessionMessage
  rw [wp_bind_iff, wp_modifySession_iff, wp_bind_iff, wp_modifySession_iff]
  dsimp only
  rw [SessionMessageType.fromByte_toByte]
  dsimp only
  rw [if_neg (by decide), List.map_nil, List.append_nil]
  exact (keeps_deliveries_flushPendingPackets env src _).wp rfl

end Receiver

section Sender

variable [ChaCha20Poly1305] {n₀ n n' : Node SecretKey PublicKey ν μ} {dest : NodeAddr}
  {inner packet shimPayload : Bytes} {packets : List Bytes}

/-- A datagram whose payload the session of `n` with `dest` sealed from `inner`. -/
structure Seals (n : Node SecretKey PublicKey ν μ) (dest : NodeAddr) (inner : Bytes)
    (d : SessionDatagram) : Prop where
  srcAddr : d.srcAddr = n.nodeAddr
  destAddr : d.destAddr = dest
  sealed : ∃ (session : NoiseSession PublicKey) (flags : UInt8) (coords ciphertext : Bytes),
    let header := buildFspHeader session.currentSendCounter flags inner.length
    SendsUnder session.sendCipher.key dest n ∧
      (session.encryptWithAad inner header).2 = .ok ciphertext ∧
      d.payload = header ++ coords ++ ciphertext

/-- A datagram for a next hop, and the packets its receiver is to deliver. -/
structure SentFrame where
  nextHop : NodeAddr
  datagram : SessionDatagram
  packets : List Bytes

/-- The send that puts a frame on the way. -/
def SentFrame.effect (f : SentFrame) : Effect PublicKey :=
  .sentLinkMessage f.nextHop f.datagram.encode false

variable [SessionMmp μ]

/-- From `n` to `n'` only datagrams of the session of `n₀` with `dest` were sent, and the peer
delivers `packets` for them. -/
def LeadsTo (n₀ : Node SecretKey PublicKey ν μ) (dest : NodeAddr) (packets : List Bytes)
    (n n' : Node SecretKey PublicKey ν μ) : Prop :=
  ∃ frames : List SentFrame, n'.effects = n.effects ++ frames.map SentFrame.effect ∧
    frames.flatMap SentFrame.packets = packets ∧ ∀ f ∈ frames, ∃ inner, Seals n₀ dest inner f.datagram ∧
      Delivers SecretKey PublicKey ν μ n₀.nodeAddr dest inner f.packets

theorem LeadsTo.nothing (h : n'.effects = n.effects) : LeadsTo n₀ dest [] n n' :=
  ⟨[], h.trans (List.append_nil _).symm, rfl, List.forall_mem_nil _⟩

theorem LeadsTo.trans {n'' : Node SecretKey PublicKey ν μ} {packets' : List Bytes}
    (h : LeadsTo n₀ dest packets n n') (h' : LeadsTo n₀ dest packets' n' n'') :
    LeadsTo n₀ dest (packets ++ packets') n n'' := by
  obtain ⟨frames, heffects, hpackets, hframes⟩ := h
  obtain ⟨frames', heffects', hpackets', hframes'⟩ := h'
  refine ⟨frames ++ frames', ?_, ?_, List.forall_mem_append.mpr ⟨hframes, hframes'⟩⟩
  · rw [heffects', heffects, List.map_append, List.append_assoc]
  · rw [List.flatMap_append, hpackets, hpackets']

/-- The same node, sending to `dest` under the same key. -/
def Continues (n₀ : Node SecretKey PublicKey ν μ) (key : Bytes) (dest : NodeAddr)
    (n : Node SecretKey PublicKey ν μ) : Prop :=
  n.nodeAddr = n₀.nodeAddr ∧ SendsUnder key dest n

theorem sendRules_continues (n₀ : Node SecretKey PublicKey ν μ) (key : Bytes) (dest : NodeAddr) :
    SendRules (fun _ _ => True) (Continues n₀ key dest) where
  note n addr f hf h := ⟨h.1, (sendRules_sendsUnder key dest).note n addr f hf h.2⟩
  advance n addr e session inner header he hstate h :=
    ⟨h.1, (sendRules_sendsUnder key dest).advance n addr e session inner header he hstate h.2⟩
  frame _ _ _ _ _ _ _ _ _ _ _ _ h := h

variable (env : Env SecretKey) {key : Bytes}

/-- What a sender seals is sent or lost. -/
theorem wp_sendSealed_leadsTo (hkey : SendsUnder key dest n₀) (hn : Continues n₀ key dest n)
    (hdelivers : Delivers SecretKey PublicKey ν μ n₀.nodeAddr dest inner packets) (flags : UInt8)
    (timestamp : Nat) (coords : Bytes) :
    wp (sendSealed env dest flags timestamp coords inner : M SecretKey PublicKey ν μ SendError Unit)
      (fun _ n' => LeadsTo n₀ dest packets n n' ∧ Continues n₀ key dest n')
      (fun _ n' => LeadsTo n₀ dest [] n n' ∧ Continues n₀ key dest n') n := by
  have hkept : wp (sendSealed env dest flags timestamp coords inner :
      M SecretKey PublicKey ν μ SendError Unit) (fun _ => Continues n₀ key dest)
      (fun _ => Continues n₀ key dest) n :=
    (sendRules_continues n₀ key dest).wp_sendSealed env timestamp coords inner hn fun _ _ => trivial
  refine wp_mono (fun _ n' hn' => ⟨?_, hn'.2⟩) (fun _ n' hn' => ⟨.nothing hn'.1.1, hn'.2⟩)
    (wp_and (wp_sendSealed_effects env dest flags timestamp coords inner) hkept)
  obtain ⟨payload, nextHop, d, hpayload, -, hsrc, hdest, hd, -, heffects⟩ := hn'.1
  obtain ⟨haddr, e, session, he, hstate, hsession⟩ := hn
  rw [sealedPayload_eq he hstate] at hpayload
  obtain ⟨ciphertext, hsealed, hbytes⟩ := Option.map_eq_some_iff.mp hpayload
  refine ⟨[⟨nextHop, d, packets⟩], heffects, List.append_nil _, ?_⟩
  refine List.forall_mem_singleton.mpr ⟨inner, ⟨hsrc.trans haddr, hdest, ?_⟩, hdelivers⟩
  exact ⟨session, flags, coords, ciphertext, hsession.symm ▸ hkey, ok_of_toOption hsealed,
    hd.trans hbytes.symm⟩

theorem wp_sendCoordsWarmup_leadsTo (hkey : SendsUnder key dest n₀) (hn : Continues n₀ key dest n) :
    wp (sendCoordsWarmup env dest : M SecretKey PublicKey ν μ SendError Unit)
      (fun _ n' => LeadsTo n₀ dest [] n n' ∧ Continues n₀ key dest n')
      (fun _ n' => LeadsTo n₀ dest [] n n' ∧ Continues n₀ key dest n') n := by
  unfold sendCoordsWarmup
  rw [wp_bind_iff, wp_read_iff, wp_bind_iff, wp_orElse_iff]
  refine ⟨fun e he => ?_, fun _ => ⟨.nothing rfl, hn⟩⟩
  exact wp_sendSealed_leadsTo env hkey hn (delivers_warmupPlaintext _ _) _ _ _

/-- **A packet is sent once or not at all.** -/
theorem wp_sendSessionData_leadsTo
    (hdelivers : ∀ timestamp spin, Delivers SecretKey PublicKey ν μ n.nodeAddr dest
      (shimPlaintext timestamp spin shimPayload) [packet]) :
    wp (sendSessionData env dest FSP_PORT_IPV6_SHIM FSP_PORT_IPV6_SHIM shimPayload :
        M SecretKey PublicKey ν μ SendError Unit)
      (fun _ => LeadsTo n dest [packet] n) (fun _ => LeadsTo n dest [] n) n := by
  unfold sendSessionData
  rw [wp_bind_iff, wp_read_iff, wp_bind_iff, wp_orElse_iff]
  refine ⟨fun e he => ?_, fun _ => .nothing rfl⟩
  extract_lets wantsCoords timestamp spin portPayload inner coordsSize fits includeCoords coords
    send countDown
  by_cases hestablished : e.isEstablished = true
  · rw [if_neg (by simpa using hestablished)]
    obtain ⟨session, hstate⟩ := SessionEntry.isEstablished_iff.mp hestablished
    have hkey : SendsUnder session.sendCipher.key dest n := ⟨e, session, he, hstate, rfl⟩
    have hrules := sendRules_continues n session.sendCipher.key dest
    have hsend : ∀ u n', LeadsTo n dest [] n n' ∧ Continues n session.sendCipher.key dest n' →
        wp (send u) (fun _ => LeadsTo n dest [packet] n) (fun _ => LeadsTo n dest [] n) n' := by
      intro u n' hn'
      simp only [send]
      rw [wp_bind_iff, wp_read_iff, wp_bind_iff]
      refine wp_mono (fun _ n'' hn'' => ?_) (fun _ n'' hn'' => hn'.1.trans hn''.1)
        (wp_sendSealed_leadsTo env hkey hn'.2 (hdelivers timestamp spin) _ _ _)
      exact hn'.1.trans hn''.1
    have hcount : ∀ u n', LeadsTo n dest [] n n' ∧ Continues n session.sendCipher.key dest n' →
        wp (countDown u) (fun _ => LeadsTo n dest [packet] n) (fun _ => LeadsTo n dest [] n) n' := by
      intro u n' hn'
      simp only [countDown]
      split_ifs
      · rw [wp_bind_iff, wp_modifySession_iff]
        exact hsend () _ ⟨hn'.1, hrules.note n' dest _
          (fun _ => SessionEntry.notes_setCoordsWarmupRemaining _) hn'.2⟩
      · exact hsend () n' hn'
    split_ifs with hahead
    · -- the coordinates go ahead of the packet
      rw [wp_bind_iff, wp_attempt_iff]
      refine wp_mono (fun _ n' => hcount () n') (fun failed n' hn' => ?_)
        (wp_sendCoordsWarmup_leadsTo env hkey ⟨rfl, hkey⟩)
      cases failed with
      | error failed => exact hcount () n' hn'
      | panic => exact hn'.1
    · exact hcount () n ⟨.nothing rfl, rfl, hkey⟩
  · rw [if_pos (by simpa using hestablished)]
    exact .nothing rfl

end Sender

end Node

/-! ## The round trip -/

/-- **The round trip of the shim**: a packet is rebuilt from its shim, a shim from the packet that it
stands for, and a packet between the two ends of a session is delivered as it was sent. -/
theorem shim_round_trip {SecretKey PublicKey ν μ : Type} [ChaCha20Poly1305] [SessionMmp μ] :
    (∀ packet, IsIpv6 packet → ∃ shimPayload, compressIpv6 packet = .ok shimPayload ∧
      decompressIpv6 shimPayload (ipv6Source packet) (ipv6Destination packet) = .ok packet) ∧
    (∀ shimPayload src dst packet, src.length = 16 → dst.length = 16 →
      decompressIpv6 shimPayload src dst = .ok packet →
        compressIpv6 packet = .ok (withVersionSix shimPayload)) ∧
    ∀ (env : Env SecretKey) (n : Node SecretKey PublicKey ν μ) (dest : NodeAddr) (packet : Bytes),
      IsIpv6 packet → ipv6Source packet = Node.fipsAddress n.nodeAddr →
      ipv6Destination packet = Node.fipsAddress dest →
      wp (Node.sendIpv6Packet env dest packet) (fun _ => Node.LeadsTo n dest [packet] n)
        (fun _ => Node.LeadsTo n dest [] n) n := by
  refine ⟨fun packet h => decompressIpv6_of_compressIpv6 h,
    fun shimPayload src dst packet hsrc hdst => compressIpv6_of_decompressIpv6 hsrc hdst,
    fun env n dest packet h hsrc hdst => ?_⟩
  obtain ⟨shimPayload, hcompress, hdecompress⟩ := decompressIpv6_of_compressIpv6 h
  rw [hsrc, hdst] at hdecompress
  unfold Node.sendIpv6Packet
  rw [wp_bind_iff, wp_attempt_iff, hcompress, wp_pureCall_iff]
  refine ⟨fun shimPayload' hok => ?_, fun failed hfailed => by cases hfailed⟩
  cases hok
  have hdelivers : ∀ timestamp spin, Node.Delivers SecretKey PublicKey ν μ n.nodeAddr dest
      (Node.shimPlaintext timestamp spin shimPayload) [packet] :=
    fun timestamp spin => Node.delivers_shimPlaintext timestamp spin hdecompress
  have hsent := Node.wp_sendSessionData_leadsTo env hdelivers
  exact hsent

section Sample

open Sample

/-- An echo reply from the first node to the second. -/
def echoReply : Bytes :=
  [0x6A, 0xB1, 0xCD, 0xEF, 0, 4, 58, 64] ++ Node.fipsAddress (addr 1) ++ Node.fipsAddress (addr 2) ++
    [129, 0, 1, 2]

/-- Node 1 in a session with node 2. -/
def shimNode : Node Scalar Point Unit Unit := inSession 1 2 .initiator 5 6 0

/-- It leaves in one frame, whose receiver delivers it. -/
theorem shim_round_trip_echoReply :
    (Node.sendIpv6Packet (Sample.env 1 0 ⟨7⟩) (addr 2) echoReply shimNode).2 = .ok () ∧
      (Node.sendIpv6Packet (Sample.env 1 0 ⟨7⟩) (addr 2) echoReply shimNode).1.effects.length = 1 ∧
      Node.LeadsTo shimNode (addr 2) [echoReply] shimNode
        (Node.sendIpv6Packet (Sample.env 1 0 ⟨7⟩) (addr 2) echoReply shimNode).1 := by
  have hleads := shim_round_trip.2.2 (Sample.env 1 0 ⟨7⟩) shimNode (addr 2) echoReply
    ⟨by decide, by decide, by decide⟩ (by decide) (by decide)
  have hsent : (Node.sendIpv6Packet (Sample.env 1 0 ⟨7⟩) (addr 2) echoReply shimNode).2 = .ok () := by
    decide +kernel
  have hcall : call (Node.sendIpv6Packet (Sample.env 1 0 ⟨7⟩) (addr 2) echoReply) shimNode = .ok ((),
      (Node.sendIpv6Packet (Sample.env 1 0 ⟨7⟩) (addr 2) echoReply shimNode).1) :=
    call_eq_ok.mpr (Prod.ext rfl hsent)
  have hled := ok_of_wp hleads hcall
  exact ⟨hsent, by decide +kernel, hled⟩

end Sample

end Fips
