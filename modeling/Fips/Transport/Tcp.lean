import Fips.Lib.ChunkedStream
import Fips.Wire.Header

/-!
# FMP over a TCP stream

Model of `transport/tcp/stream.rs` and of the parts of `transport/tcp/mod.rs` around it: the check of
`send_async`, the receive loop and the MTU a connection is read with. TCP itself is a stream of
bytes that the reads of the peer cut in any way.

A frame has no length field of its own: `read_fmp_packet` computes the length from the common prefix
and checks it against the MTU of the connection, which `read_mss_mtu` derives from the segment size
of the socket. `send_async` checks the configured MTU alone.

## Results

* `readFmpPacket_frame`, `readFmpPacket_tooLarge`: what the reader makes of a frame at the front of
  a stream.
* `receives_iff`: the peer receives the frames that were sent exactly when each of them fits the MTU
  that the peer reads with; whatever the stream, what it receives is a prefix of it.
-/

open ChunkedStream

namespace Fips

/-! ## The stream reader -/

/-- `PREFIX_SIZE`: version and phase, flags, and the payload's length. -/
def PREFIX_SIZE : Nat := 4

/-- `ESTABLISHED_REMAINING_HEADER`: receiver index and counter, which the prefix's length leaves out. -/
def ESTABLISHED_REMAINING_HEADER : Nat := 12

/-- `AEAD_TAG_SIZE`, which the prefix's length leaves out too. -/
def AEAD_TAG_SIZE : Nat := 16

/-- `MSG1_PAYLOAD_LEN` and `MSG2_PAYLOAD_LEN`, from the wire sizes that `stream.rs` keeps itself. -/
def MSG1_PAYLOAD_LEN : Nat := 114 - PREFIX_SIZE

/-- The length that a msg2 declares. -/
def MSG2_PAYLOAD_LEN : Nat := 69 - PREFIX_SIZE

/-- `std::io::Error`, as far as a read tells them apart. -/
inductive IoError
  | unexpectedEof
  | other
  deriving DecidableEq, Repr

/-- `stream::StreamError`. -/
inductive StreamError
  | unknownVersion (version : UInt8)
  | unknownPhase (phase : UInt8)
  | payloadTooLarge (payloadLen maxPayloadLen : Nat)
  | handshakeSizeMismatch (phase : UInt8) (expected got : Nat)
  | io (e : IoError)
  deriving DecidableEq, Repr

/-- A stream of bytes that may fail. -/
abbrev ByteReader := Reader UInt8 IoError

/-- `reader.read_exact(..).await?`. -/
def readBytes (n : Nat) (r : ByteReader) : Except StreamError (Bytes × ByteReader) :=
  (r.readExact n).mapError .io

/-- The length rule of a handshake phase. -/
def handshakeRemaining (phase : UInt8) (expected payloadLen : Nat) : Except StreamError Nat :=
  if payloadLen ≠ expected then .error (.handshakeSizeMismatch phase expected payloadLen)
  else .ok payloadLen

/-- `let remaining = match phase { .. }`. -/
def remaining (mtu : UInt16) (phase : UInt8) (payloadLen : Nat) : Except StreamError Nat :=
  if phase = PHASE_ESTABLISHED then
    let maxPayloadLen := mtu.toNat - (ESTABLISHED_REMAINING_HEADER + PREFIX_SIZE + AEAD_TAG_SIZE)
    if maxPayloadLen < payloadLen then .error (.payloadTooLarge payloadLen maxPayloadLen)
    else .ok (ESTABLISHED_REMAINING_HEADER + payloadLen + AEAD_TAG_SIZE)
  else if phase = PHASE_MSG1 then handshakeRemaining phase MSG1_PAYLOAD_LEN payloadLen
  else if phase = PHASE_MSG2 then handshakeRemaining phase MSG2_PAYLOAD_LEN payloadLen
  else .error (.unknownPhase phase)

/-- `read_fmp_packet`. -/
def readFmpPacket (mtu : UInt16) (r : ByteReader) : Except StreamError (Bytes × ByteReader) := do
  let (commonPrefix, r) ← readBytes PREFIX_SIZE r
  let version := commonPrefix.getD 0 0 >>> 4
  let phase := commonPrefix.getD 0 0 &&& 0x0F
  if version ≠ 0 then throw (.unknownVersion version)
  let remaining ← remaining mtu phase (leNat (commonPrefix.drop 2))
  let (rest, r) ← readBytes remaining r
  pure (commonPrefix ++ rest, r)

/-- `read_mss_mtu`; `mss` is what `getsockopt` answers, none where it fails. -/
def readMssMtu (mss : Option Int) (defaultMtu : UInt16) : UInt16 :=
  match mss with
  | some mss => if 0 < mss then min (UInt16.ofNat (min mss.toNat 65535)) defaultMtu else defaultMtu
  | none => defaultMtu

section Reader

variable {mtu : UInt16} {r r' : ByteReader} {packet : Bytes}

theorem readBytes_of_le {n : Nat} (h : n ≤ r.bytes.length) :
    ∃ r', readBytes n r = .ok (r.bytes.take n, r') ∧ r'.bytes = r.bytes.drop n := by
  obtain ⟨r', hok, hrest, -⟩ := Reader.readExact_of_le h
  refine ⟨r', ?_, hrest⟩
  unfold readBytes
  rw [hok]
  rfl

theorem readBytes_eq_ok {n : Nat} {bs : Bytes} (h : readBytes n r = .ok (bs, r')) :
    bs.length = n ∧ r.bytes = bs ++ r'.bytes ∧ r'.ending = r.ending := by
  refine Reader.readExact_eq_ok ?_
  unfold readBytes at h
  cases hread : r.readExact n with
  | error e =>
    rw [hread] at h
    cases h
  | ok read =>
    rw [hread] at h
    cases h
    rfl

/-- A packet is its prefix and as many bytes as the length rule says. -/
theorem readFmpPacket_eq_ok (h : readFmpPacket mtu r = .ok (packet, r')) :
    ∃ head rest r₁ n, readBytes PREFIX_SIZE r = .ok (head, r₁) ∧
      remaining mtu (head.getD 0 0 &&& 0x0F) (leNat (head.drop 2)) = .ok n ∧
      readBytes n r₁ = .ok (rest, r') ∧ packet = head ++ rest := by
  unfold readFmpPacket at h
  simp only [bind, Except.bind, pure, Except.pure, throw, throwThe, MonadExceptOf.throw] at h
  cases hread : readBytes PREFIX_SIZE r with
  | error e =>
    rw [hread] at h
    cases h
  | ok read =>
    rw [hread] at h
    dsimp only at h
    split_ifs at h
    · cases hremaining : remaining mtu (read.1.getD 0 0 &&& 0x0F) (leNat (read.1.drop 2)) with
      | error e =>
        rw [hremaining] at h
        cases h
      | ok n =>
        rw [hremaining] at h
        dsimp only at h
        cases hrest : readBytes n read.2 with
        | error e =>
          rw [hrest] at h
          cases h
        | ok rest =>
          rw [hrest] at h
          cases h
          exact ⟨read.1, rest.1, read.2, n, rfl, hremaining, hrest, rfl⟩

theorem consumes_readFmpPacket (mtu : UInt16) : Consumes (readFmpPacket mtu) := by
  intro r packet r' h
  obtain ⟨head, rest, r₁, n, hread, -, hrest, rfl⟩ := readFmpPacket_eq_ok h
  obtain ⟨hlen, hbytes, hending⟩ := readBytes_eq_ok hread
  obtain ⟨-, hbytes', hending'⟩ := readBytes_eq_ok hrest
  refine ⟨?_, ?_, hending'.trans hending⟩
  · rw [hbytes, hbytes', List.append_assoc]
  · intro hnil
    rw [(List.append_eq_nil_iff.mp hnil).1] at hlen
    cases hlen

/-- The receive loop of a connection whose packets the node takes: the packets it delivers, and the
error that ends it. -/
def tcpReceiveLoop (mtu : UInt16) (r : ByteReader) : List Bytes × StreamError :=
  readAll (readFmpPacket mtu) (consumes_readFmpPacket mtu) r

/-- What follows a prefix of version 0. -/
theorem readFmpPacket_of_prefix {head tail : Bytes} (hbytes : r.bytes = head ++ tail)
    (hlen : head.length = PREFIX_SIZE) (hversion : head.getD 0 0 >>> 4 = 0) :
    ∃ r₁ : ByteReader, r₁.bytes = tail ∧ readFmpPacket mtu r =
      (remaining mtu (head.getD 0 0 &&& 0x0F) (leNat (head.drop 2))).bind fun n =>
        (readBytes n r₁).map fun read => (head ++ read.1, read.2) := by
  have hle : PREFIX_SIZE ≤ r.bytes.length := by
    rw [hbytes, List.length_append, hlen]
    exact Nat.le_add_right ..
  obtain ⟨r₁, hread, hrest⟩ := readBytes_of_le hle
  rw [hbytes, ← hlen, List.take_left] at hread
  rw [hbytes, ← hlen, List.drop_left] at hrest
  refine ⟨r₁, hrest, ?_⟩
  unfold readFmpPacket
  rw [← hlen, hread]
  simp only [bind, Except.bind, pure, Except.pure, hversion, ne_eq, not_true_eq_false, if_false]
  cases remaining mtu (head.getD 0 0 &&& 0x0F) (leNat (head.drop 2)) with
  | error e => rfl
  | ok n => cases readBytes n r₁ <;> rfl

end Reader

/-! ## Frames -/

/-- A frame as the node builds it: the Noise parts have the sizes of the handshake, and a ciphertext
is that of a plaintext of `payload_len` bytes. -/
inductive FmpFrame
  | msg1 (senderIdx : SessionIndex) (noiseMsg1 : Bytes)
      (size : noiseMsg1.length = HANDSHAKE_MSG1_SIZE)
  | msg2 (senderIdx receiverIdx : SessionIndex) (noiseMsg2 : Bytes)
      (size : noiseMsg2.length = HANDSHAKE_MSG2_SIZE)
  | encrypted (receiverIdx : SessionIndex) (counter : Nat) (flags : UInt8) (payloadLen : UInt16)
      (ciphertext : Bytes) (size : ciphertext.length = payloadLen.toNat + TAG_SIZE)

namespace FmpFrame

/-- The bytes of a frame on the wire. -/
def build : FmpFrame → Bytes
  | .msg1 senderIdx noiseMsg1 _ => buildMsg1 senderIdx noiseMsg1
  | .msg2 senderIdx receiverIdx noiseMsg2 _ => buildMsg2 senderIdx receiverIdx noiseMsg2
  | .encrypted receiverIdx counter flags payloadLen ciphertext _ =>
    buildEncrypted (buildEstablishedHeader receiverIdx counter flags payloadLen.toNat) ciphertext

/-- The frame is as long as the reader admits: handshake frames always are, and an established frame
without a payload is too. -/
def Fits (mtu : UInt16) : FmpFrame → Prop
  | .encrypted receiverIdx counter flags payloadLen ciphertext size =>
    (FmpFrame.encrypted receiverIdx counter flags payloadLen ciphertext size).build.length ≤
      max ENCRYPTED_MIN_SIZE mtu.toNat
  | _ => True

theorem length_encrypted (receiverIdx : SessionIndex) (counter : Nat) (flags : UInt8)
    (payloadLen : UInt16) (ciphertext : Bytes)
    (size : ciphertext.length = payloadLen.toNat + TAG_SIZE) :
    (FmpFrame.encrypted receiverIdx counter flags payloadLen ciphertext size).build.length =
      payloadLen.toNat + ENCRYPTED_MIN_SIZE := by
  simp only [build, buildEncrypted, buildEstablishedHeader, List.length_append, length_leBytes,
    List.length_cons, List.length_nil, size, ENCRYPTED_MIN_SIZE, ESTABLISHED_HEADER_SIZE]
  omega

theorem fits_encrypted {mtu : UInt16} (receiverIdx : SessionIndex) (counter : Nat) (flags : UInt8)
    (payloadLen : UInt16) (ciphertext : Bytes)
    (size : ciphertext.length = payloadLen.toNat + TAG_SIZE) :
    (FmpFrame.encrypted receiverIdx counter flags payloadLen ciphertext size).Fits mtu ↔
      payloadLen.toNat + ENCRYPTED_MIN_SIZE ≤ max ENCRYPTED_MIN_SIZE mtu.toNat := by
  rw [← length_encrypted receiverIdx counter flags payloadLen ciphertext size]
  exact Iff.rfl

/-- The length rule of the reader agrees with the builders, and the MTU check is all it adds. -/
theorem build_eq (f : FmpFrame) : ∃ head body : Bytes, f.build = head ++ body ∧
    head.length = PREFIX_SIZE ∧ head.getD 0 0 >>> 4 = 0 ∧
    ∀ mtu : UInt16, (f.Fits mtu →
        remaining mtu (head.getD 0 0 &&& 0x0F) (leNat (head.drop 2)) = .ok body.length) ∧
      (¬f.Fits mtu → ∃ e, remaining mtu (head.getD 0 0 &&& 0x0F) (leNat (head.drop 2)) = .error e) := by
  cases f with
  | msg1 senderIdx noiseMsg1 size =>
    refine ⟨[PHASE_MSG1, 0x00] ++ leBytes 2 (4 + noiseMsg1.length), leBytes 4 senderIdx ++ noiseMsg1,
      ?_, by simp [PREFIX_SIZE], (by decide : PHASE_MSG1 >>> 4 = 0),
      fun mtu => ⟨fun _ => ?_, fun h => absurd trivial h⟩⟩
    · simp [build, buildMsg1]
    · rw [size, List.length_append, length_leBytes, size]
      rfl
  | msg2 senderIdx receiverIdx noiseMsg2 size =>
    refine ⟨[PHASE_MSG2, 0x00] ++ leBytes 2 (4 + 4 + noiseMsg2.length),
      leBytes 4 senderIdx ++ leBytes 4 receiverIdx ++ noiseMsg2, ?_, by simp [PREFIX_SIZE],
      (by decide : PHASE_MSG2 >>> 4 = 0), fun mtu => ⟨fun _ => ?_, fun h => absurd trivial h⟩⟩
    · simp [build, buildMsg2]
    · rw [size, List.length_append, List.length_append, length_leBytes, length_leBytes, size]
      rfl
  | encrypted receiverIdx counter flags payloadLen ciphertext size =>
    refine ⟨[0x00, flags] ++ leBytes 2 payloadLen.toNat,
      leBytes 4 receiverIdx ++ leBytes 8 counter ++ ciphertext, ?_, by simp [PREFIX_SIZE],
      (by decide : (0 : UInt8) >>> 4 = 0), fun mtu => ?_⟩
    · simp [build, buildEncrypted, buildEstablishedHeader]
    · have hlen : leNat (([0x00, flags] ++ leBytes 2 payloadLen.toNat).drop 2) = payloadLen.toNat :=
        leNat_leBytes payloadLen.toNat_lt
      have hphase : ([0x00, flags] ++ leBytes 2 payloadLen.toNat).getD 0 0 &&& 0x0F =
        PHASE_ESTABLISHED := (by decide : (0 : UInt8) &&& 0x0F = PHASE_ESTABLISHED)
      have hbody : (leBytes 4 receiverIdx ++ leBytes 8 counter ++ ciphertext).length =
          ESTABLISHED_REMAINING_HEADER + payloadLen.toNat + AEAD_TAG_SIZE := by
        simp only [List.length_append, length_leBytes, size, ESTABLISHED_REMAINING_HEADER,
          AEAD_TAG_SIZE, TAG_SIZE]
        omega
      rw [hlen, hphase, hbody]
      rw [fits_encrypted]
      unfold remaining
      rw [if_pos rfl]
      simp only [ESTABLISHED_REMAINING_HEADER, PREFIX_SIZE, AEAD_TAG_SIZE, ENCRYPTED_MIN_SIZE,
        ESTABLISHED_HEADER_SIZE, TAG_SIZE]
      refine ⟨fun hfits => if_neg (by omega), fun hlarge => ⟨_, if_pos (by omega)⟩⟩

end FmpFrame

section Frames

variable {mtu : UInt16} {r : ByteReader} {f : FmpFrame}

/-- **A frame that fits** is read as it was built. -/
theorem readFmpPacket_frame (hfits : f.Fits mtu) (hr : f.build <+: r.bytes) :
    ∃ r', readFmpPacket mtu r = .ok (f.build, r') := by
  obtain ⟨head, body, hbuild, hlen, hversion, hremaining⟩ := f.build_eq
  obtain ⟨tail, hbytes⟩ := hr
  rw [hbuild, List.append_assoc] at hbytes
  obtain ⟨r₁, hrest, heq⟩ := readFmpPacket_of_prefix hbytes.symm hlen hversion
  have hle : body.length ≤ r₁.bytes.length := by
    rw [hrest, List.length_append]
    exact Nat.le_add_right ..
  obtain ⟨r', hread, -⟩ := readBytes_of_le hle
  rw [hrest, List.take_left] at hread
  refine ⟨r', ?_⟩
  rw [heq, (hremaining mtu).1 hfits, hbuild]
  change (readBytes body.length r₁).map _ = _
  rw [hread]
  rfl

/-- A frame that does not fit ends the connection. -/
theorem readFmpPacket_tooLarge (hlarge : ¬f.Fits mtu) (hr : f.build <+: r.bytes) :
    ∃ e, readFmpPacket mtu r = .error e := by
  obtain ⟨head, body, hbuild, hlen, hversion, hremaining⟩ := f.build_eq
  obtain ⟨tail, hbytes⟩ := hr
  rw [hbuild, List.append_assoc] at hbytes
  obtain ⟨r₁, -, heq⟩ := readFmpPacket_of_prefix hbytes.symm hlen hversion
  obtain ⟨e, herror⟩ := (hremaining mtu).2 hlarge
  refine ⟨e, ?_⟩
  rw [heq, herror]
  rfl

end Frames

/-! ## Sending -/

/-- `transport::TransportError`, of a send. -/
inductive TransportError
  | notStarted
  | mtuExceeded (packetSize : Nat) (mtu : UInt16)
  | connectFailed (message : String)
  | sendFailed (message : String)
  deriving DecidableEq, Repr

/-- What the check of `send_async` reads of the transport. -/
structure TcpTransport where
  operational : Bool
  mtu : UInt16

/-- The outcome of `connect`, or of finding the connection in the pool, and of `write_all`. -/
structure WriteEnv where
  connected : Except TransportError Unit
  written : Except TransportError Unit

namespace TcpTransport

/-- `send_async`, over what was written to the connection before. -/
def sendAsync (t : TcpTransport) (env : WriteEnv) (data stream : Bytes) :
    Except TransportError Bytes := do
  if !t.operational then throw .notStarted
  if t.mtu.toNat < data.length then throw (.mtuExceeded data.length t.mtu)
  env.connected
  env.written
  pure (stream ++ data)

/-- One send after the other, each of which succeeds. -/
def sendFrames (t : TcpTransport) : List (WriteEnv × FmpFrame) → Bytes → Except TransportError Bytes
  | [], stream => .ok stream
  | (env, f) :: sends, stream => do
    let stream ← t.sendAsync env f.build stream
    t.sendFrames sends stream

variable {t : TcpTransport} {sends : List (WriteEnv × FmpFrame)} {stream stream' : Bytes}

theorem sendAsync_eq_ok {env : WriteEnv} {data : Bytes}
    (h : t.sendAsync env data stream = .ok stream') :
    data.length ≤ t.mtu.toNat ∧ stream' = stream ++ data := by
  unfold sendAsync at h
  simp only [bind, Except.bind, pure, Except.pure, throw, throwThe, MonadExceptOf.throw] at h
  split_ifs at h with hdown hlarge
  cases hconnected : env.connected with
  | error e =>
    rw [hconnected] at h
    cases h
  | ok u =>
    rw [hconnected] at h
    cases hwritten : env.written with
    | error e =>
      rw [hwritten] at h
      cases h
    | ok u =>
      rw [hwritten] at h
      cases h
      exact ⟨Nat.not_lt.mp hlarge, rfl⟩

/-- What is written is what was sent. -/
theorem sendFrames_eq_ok (h : t.sendFrames sends stream = .ok stream') :
    stream' = stream ++ (sends.map fun send => send.2.build).flatten := by
  induction sends generalizing stream with
  | nil =>
    cases h
    simp
  | cons send sends ih =>
    obtain ⟨env, f⟩ := send
    unfold sendFrames at h
    simp only [bind, Except.bind] at h
    cases hsend : t.sendAsync env f.build stream with
    | error e =>
      rw [hsend] at h
      cases h
    | ok written =>
      rw [hsend] at h
      rw [ih h, (sendAsync_eq_ok hsend).2, List.map_cons, List.flatten_cons, List.append_assoc]

end TcpTransport

/-! ## A connection -/

section Connection

variable {mtu : UInt16} {frames : List FmpFrame}

/-- The peer receives the frames and nothing else, however the stream is cut. -/
def Receives (mtu : UInt16) (frames : List FmpFrame) (stream : Bytes) : Prop :=
  ∀ r : ByteReader, r.bytes = stream →
    tcpReceiveLoop mtu r = (frames.map (·.build), .io r.ending)

theorem readFmpPacket_nil {r : ByteReader} (h : r.bytes = []) :
    readFmpPacket mtu r = .error (.io r.ending) := by
  have hlt : r.bytes.length < PREFIX_SIZE := by
    rw [h]
    decide
  unfold readFmpPacket readBytes
  rw [Reader.readExact_of_lt hlt]
  rfl

theorem receives_of_fits (h : ∀ f ∈ frames, f.Fits mtu) :
    Receives mtu frames (frames.map (·.build)).flatten := by
  intro r hr
  have hframe : ∀ bs ∈ frames.map (·.build), ∀ r' : ByteReader, bs <+: r'.bytes →
      ∃ r'', readFmpPacket mtu r' = .ok (bs, r'') := by
    intro bs hbs r' hprefixed
    obtain ⟨f, hf, rfl⟩ := List.mem_map.mp hbs
    exact readFmpPacket_frame (h f hf) hprefixed
  have hconsumes := consumes_readFmpPacket mtu
  obtain ⟨r', hreads, hrest⟩ := reads_of_frames hframe hconsumes (hr.trans (List.append_nil _).symm)
  refine (readAll_eq_iff hconsumes).mpr ⟨r', hreads, ?_⟩
  rw [readFmpPacket_nil hrest, (hreads.bytes hconsumes).2]

/-- The first frame that does not fit is not received. -/
theorem fits_of_reads {r r' : ByteReader} {rest : Bytes}
    (hbytes : r.bytes = (frames.map (·.build)).flatten ++ rest)
    (h : Reads (readFmpPacket mtu) r (frames.map (·.build)) r') : ∀ f ∈ frames, f.Fits mtu := by
  induction frames generalizing r with
  | nil =>
    intro f hf
    cases hf
  | cons f frames ih =>
    rw [List.map_cons] at h
    rw [List.map_cons, List.flatten_cons, List.append_assoc] at hbytes
    cases h with
    | cons hok hreads =>
      rename_i r₁
      have hfits : f.Fits mtu := by
        by_contra hlarge
        obtain ⟨e, herror⟩ := readFmpPacket_tooLarge hlarge (hbytes ▸ List.prefix_append ..)
        cases hok.symm.trans herror
      have hrest : r₁.bytes = (frames.map (·.build)).flatten ++ rest :=
        List.append_cancel_left ((consumes_readFmpPacket mtu _ _ _ hok).1.symm.trans hbytes)
      intro g hg
      rcases List.mem_cons.mp hg with rfl | hmem
      · exact hfits
      · exact ih hrest hreads g hmem

theorem fits_of_receives (h : Receives mtu frames (frames.map (·.build)).flatten) :
    ∀ f ∈ frames, f.Fits mtu := by
  have hbytes := Reader.bytes_whole IoError.unexpectedEof (frames.map (·.build)).flatten
  obtain ⟨r', hreads, -⟩ := (readAll_eq_iff (consumes_readFmpPacket mtu)).mp (h _ hbytes)
  exact fits_of_reads (hbytes.trans (List.append_nil _).symm) hreads

/-- **Framing over TCP**: of frames that were all sent, the peer receives each exactly when all of
them fit the MTU of its end; whatever arrives, the packets are a prefix of it. -/
theorem receives_iff (t : TcpTransport) (mss : Option Int) (sends : List (WriteEnv × FmpFrame))
    (stream : Bytes) (h : t.sendFrames sends [] = .ok stream) :
    (Receives (readMssMtu mss t.mtu) (sends.map (·.2)) stream ↔
      ∀ send ∈ sends, send.2.Fits (readMssMtu mss t.mtu)) ∧
    ∀ (mtu : UInt16) (r : ByteReader), (tcpReceiveLoop mtu r).1.flatten <+: r.bytes := by
  refine ⟨?_, fun mtu r => readAll_prefix (consumes_readFmpPacket mtu) r⟩
  have hstream : stream = ((sends.map (·.2)).map (·.build)).flatten := by
    rw [TcpTransport.sendFrames_eq_ok h, List.nil_append, List.map_map]
    rfl
  have hall : (∀ send ∈ sends, send.2.Fits (readMssMtu mss t.mtu)) ↔
      ∀ f ∈ sends.map (·.2), f.Fits (readMssMtu mss t.mtu) := by
    simp only [List.mem_map, forall_exists_index, and_imp, forall_apply_eq_imp_iff₂]
  rw [hall, hstream]
  constructor
  · intro hreceives
    exact fits_of_receives hreceives
  · exact receives_of_fits

end Connection

namespace Sample

/-- A transport with the default MTU of TCP. -/
def tcp : TcpTransport := ⟨true, 1400⟩

/-- An established frame of a plaintext of `n` bytes. -/
def sealed (n : UInt16) : FmpFrame :=
  .encrypted 7 0 0 n (List.replicate (n.toNat + TAG_SIZE) 0) (List.length_replicate ..)

/-- A connection that takes everything. -/
def written : WriteEnv := ⟨.ok (), .ok ()⟩

theorem sent_sealed {n : UInt16} (h : n.toNat + ENCRYPTED_MIN_SIZE ≤ 1400) :
    tcp.sendFrames [(written, sealed n)] [] = .ok (sealed n).build := by
  have hlen : ¬tcp.mtu.toNat < (sealed n).build.length := by
    unfold sealed
    rw [FmpFrame.length_encrypted]
    exact Nat.not_lt.mpr h
  simp only [TcpTransport.sendFrames, TcpTransport.sendAsync, bind, Except.bind, hlen, if_false]
  rfl

end Sample

open Sample in
/-- A frame of 132 bytes crosses a connection with the segment size of IPv4. -/
theorem receives_iff_small :
    tcp.sendFrames [(written, sealed 100)] [] = .ok (sealed 100).build ∧
      Receives (readMssMtu (some 536) tcp.mtu) [sealed 100] (sealed 100).build := by
  have hsent := sent_sealed (n := 100) (by decide)
  refine ⟨hsent, ((receives_iff tcp (some 536) [(written, sealed 100)] _ hsent).1).mpr ?_⟩
  intro send hsend
  rw [List.mem_singleton.mp hsend]
  exact (FmpFrame.fits_encrypted ..).mpr (by decide)

open Sample in
/-- A frame of 632 bytes is accepted on a connection whose peer reads with 536. -/
theorem sent_not_received :
    tcp.sendFrames [(written, sealed 600)] [] = .ok (sealed 600).build ∧
      ¬Receives (readMssMtu (some 536) tcp.mtu) [sealed 600] (sealed 600).build := by
  refine ⟨sent_sealed (by decide), fun hreceives => ?_⟩
  rw [← List.append_nil (sealed 600).build] at hreceives
  have hfits := fits_of_receives hreceives (sealed 600)
    (List.mem_singleton_self _)
  exact absurd ((FmpFrame.fits_encrypted ..).mp hfits) (by decide)

end Fips
