import Fips.Lib.Channel
import Fips.Node.SendNonces
import Fips.Node.SessionExchange
import Fips.Node.ShimDelivery

/-!
# Frames of an established session

One end of a session between two rekeys: what its senders seal, and what it makes of a frame of the
other end. A `Frame` is a payload as it is handed to a link, with the packets it brings its receiver;
its number is the counter in its header.

Between rekeys no packets wait for the peer: `handle_tun_outbound` queues a packet only while there is
no session, and the end of the handshake flushes the queue.

## Results

* `wp_sendIpv6Packet_sends`, `wp_sendCoordsWarmup_sends`, `wp_sendSessionMsg_sends`: the frames of
  the senders.
* `wp_handleSessionPayload_frame`: a frame is taken if its counter was not and lies in the window, and
  then it delivers its packets; otherwise it changes nothing.
-/

open Checked

namespace Fips

variable {SecretKey PublicKey ν μ : Type}

namespace Node

-- what a method does is read off its rules, never by running it
attribute [local irreducible] wp

/-- The packet that the peer rebuilds from the shim of `packet`. -/
def rebuilt (src dest : NodeAddr) (packet : Bytes) : Option Bytes :=
  match compressIpv6 packet with
  | .ok shimPayload => (decompressIpv6 shimPayload (fipsAddress src) (fipsAddress dest)).toOption
  | .error _ => none

/-- A packet between the two ends is rebuilt as it was. -/
theorem rebuilt_of_isIpv6 {src dest : NodeAddr} {packet : Bytes} (h : IsIpv6 packet)
    (hsrc : ipv6Source packet = fipsAddress src) (hdest : ipv6Destination packet = fipsAddress dest) :
    rebuilt src dest packet = some packet := by
  obtain ⟨shimPayload, hcompress, hdecompress⟩ := decompressIpv6_of_compressIpv6 h
  rw [hsrc, hdest] at hdecompress
  unfold rebuilt
  rw [hcompress]
  dsimp only
  rw [hdecompress]
  rfl

theorem compressIpv6_ok {packet shimPayload : Bytes} (h : compressIpv6 packet = .ok shimPayload) :
    ∃ p : ShimPacket, shimPayload = p.shim := by
  have hok := h
  obtain ⟨_, hlen, h⟩ := bind_eq_ok.mp h
  obtain ⟨first, hfirst, h⟩ := bind_eq_ok.mp h
  obtain ⟨_, hversion, -⟩ := bind_eq_ok.mp h
  obtain ⟨p, lengthHi, lengthLo, hpacket⟩ := exists_shimPacket (atLeast_eq_ok.mp hlen)
  have hforty : 40 ≤ packet.length := atLeast_eq_ok.mp hlen
  have hsrc : (ipv6Source packet).length = 16 := by
    rw [ipv6Source, List.length_take, List.length_drop]
    omega
  have hdst : (ipv6Destination packet).length = 16 := by
    rw [ipv6Destination, List.length_take, List.length_drop]
    omega
  have hsix : p.first >>> 4 = 6 := by
    rw [hpacket] at hfirst
    cases hfirst
    exact beq_iff_eq.mp (check_eq_ok.mp hversion)
  rw [hpacket, ShimPacket.compressIpv6_packet hsrc hdst hsix] at hok
  exact ⟨p, (Except.ok.inj hok).symm⟩

/-- A payload handed to a link, and the packets it brings its receiver. -/
structure Frame where
  payload : Bytes
  packets : List Bytes

section Frames

variable [ChaCha20Poly1305] [SessionMmp μ]

variable (SecretKey PublicKey ν μ) in
/-- `f` is sealed under `key` with this counter and brings `dest` its packets. -/
structure Carries (src dest : NodeAddr) (key : Bytes) (number : ℕ) (f : Frame) (c : CoordFrame)
    (inner : Bytes) : Prop where
  payload : f.payload = c.bytes
  marked : c.Marked
  range : ∀ p ∈ c.coords, p.1.entries.length ≤ 65535 ∧ p.2.entries.length ≤ 65535
  counter : c.counter = number
  bound : number < U64_MAX
  size : inner.length ≤ MAX_MESSAGE_SIZE - TAG_SIZE
  sealed : ChaCha20Poly1305.encrypt key (CipherState.counterToNonce number) c.header inner =
    some c.ciphertext
  delivers : Delivers SecretKey PublicKey ν μ src dest inner f.packets

variable (SecretKey PublicKey ν μ) in
/-- The frame is the one that carries the given number under the given key. -/
def IsCarried (src dest : NodeAddr) (key : Bytes) (number : ℕ) (f : Frame) : Prop :=
  ∃ c inner, Carries SecretKey PublicKey ν μ src dest key number f c inner

/-- A session with `peer` under these keys that has accepted these counters and goes on with `next`,
and no packets that wait for it. -/
structure OnSession (peer : NodeAddr) (pubkey : PublicKey) (keys : KeyPair) (received : List ℕ)
    (next : ℕ) (n : Node SecretKey PublicKey ν μ) : Prop where
  session : ∃ s, AtStage peer (.established s) pubkey n ∧ s.Under keys received ∧
    s.currentSendCounter = next
  bound : next ≤ U64_MAX
  noneWaiting : n.pendingTunPackets.lookup peer = none

variable {peer : NodeAddr} {pubkey : PublicKey} {keys : KeyPair} {received : List ℕ}
  {number number' number'' : ℕ} {n n' n'' : Node SecretKey PublicKey ν μ}

omit [ChaCha20Poly1305] in
theorem OnSession.note {f : SessionEntry SecretKey PublicKey μ → SessionEntry SecretKey PublicKey μ}
    (hf : ∀ e, SessionEntry.Notes e (f e)) (h : OnSession peer pubkey keys received number n)
    (addr : NodeAddr) :
    OnSession peer pubkey keys received number { n with sessions := n.sessions.modify addr f } := by
  obtain ⟨⟨s, hstage, hs⟩, hbound, hnone⟩ := h
  refine ⟨⟨s, ?_, hs⟩, hbound, hnone⟩
  obtain ⟨e, he, hentry⟩ := hstage
  by_cases haddr : peer = addr
  · subst haddr
    exact ⟨f e, Map.lookup_modify_self he f, (hf e).state.trans hentry.state,
      (hf e).remotePubkey.trans hentry.remotePubkey,
      (hf e).pendingNewSession.trans hentry.pendingNewSession,
      (hf e).previousNoiseSession.trans hentry.previousNoiseSession⟩
  · exact ⟨e, (Map.lookup_modify_ne _ haddr f).trans he, hentry⟩

/-- From `n` to `n'` these letters were sent to `peer`, and nothing was delivered. -/
structure Wrote (peer : NodeAddr) (pubkey : PublicKey) (keys : KeyPair) (received : List ℕ)
    (letters : List (ℕ × Frame)) (number number' : ℕ) (n n' : Node SecretKey PublicKey ν μ) :
    Prop where
  nodeAddr : n'.nodeAddr = n.nodeAddr
  posts : Posts peer (letters.map (·.2.payload)) n n'
  deliveries : deliveries n'.effects = deliveries n.effects
  numbered : Channel.Numbered number letters number'
  carries : ∀ l ∈ letters, IsCarried SecretKey PublicKey ν μ n.nodeAddr peer keys.send l.1 l.2
  onSession : OnSession peer pubkey keys received number' n'

theorem Wrote.nothing (haddr : n'.nodeAddr = n.nodeAddr) (heffects : n'.effects = n.effects)
    (hle : number ≤ number') (h : OnSession peer pubkey keys received number' n') :
    Wrote peer pubkey keys received [] number number' n n' where
  nodeAddr := haddr
  posts := ⟨[], heffects.trans (List.append_nil _).symm, rfl⟩
  deliveries := congrArg _ heffects
  numbered := .nil hle
  carries := List.forall_mem_nil _
  onSession := h

theorem Wrote.trans {letters letters' : List (ℕ × Frame)}
    (h : Wrote peer pubkey keys received letters number number' n n')
    (h' : Wrote peer pubkey keys received letters' number' number'' n' n'') :
    Wrote peer pubkey keys received (letters ++ letters') number number'' n n'' where
  nodeAddr := h'.nodeAddr.trans h.nodeAddr
  posts := by
    rw [List.map_append]
    exact h.posts.trans h'.posts
  deliveries := h'.deliveries.trans h.deliveries
  numbered := h.numbered.append h'.numbered
  carries := List.forall_mem_append.mpr ⟨h.carries, h.nodeAddr ▸ h'.carries⟩
  onSession := h'.onSession

/-- From `n` to `n'` frames with these packets were sent to `peer`. -/
def Sends (peer : NodeAddr) (pubkey : PublicKey) (keys : KeyPair) (received : List ℕ) (number : ℕ)
    (packets : List Bytes) (n n' : Node SecretKey PublicKey ν μ) : Prop :=
  ∃ letters number', Wrote peer pubkey keys received letters number number' n n' ∧
    letters.flatMap (·.2.packets) = packets

theorem Wrote.sends {letters : List (ℕ × Frame)} {packets packets' : List Bytes}
    (h : Wrote peer pubkey keys received letters number number' n n')
    (hpackets : letters.flatMap (·.2.packets) = packets)
    (h' : Sends peer pubkey keys received number' packets' n' n'') :
    Sends peer pubkey keys received number (packets ++ packets') n n'' := by
  obtain ⟨letters', next, hwrote, rfl⟩ := h'
  exact ⟨letters ++ letters', next, h.trans hwrote, by rw [List.flatMap_append, hpackets]⟩

variable (env : Env SecretKey)

/-- The coordinates that a sender may put in front of a frame fit into it. -/
structure CoordsFit (env : Env SecretKey) (dest : NodeAddr) : Prop where
  own : env.myCoords.entries.length ≤ 65535
  dest : (env.destCoords dest).entries.length ≤ 65535

/-- What sealing a message takes from the counter. -/
theorem sealed_cases (haead : ChaCha20Poly1305.Lawful) {s : NoiseSession PublicKey} {key : Bytes}
    (h : s.SendsUnder key) (inner header : Bytes) :
    let s' := (s.encryptWithAad inner header).1
    (s.currentSendCounter ≤ s'.currentSendCounter ∧ s'.currentSendCounter ≤ U64_MAX) ∧
    ∀ ciphertext, (s.encryptWithAad inner header).2 = .ok ciphertext →
      s.currentSendCounter < U64_MAX ∧ s'.currentSendCounter = s.currentSendCounter + 1 ∧
      inner.length ≤ MAX_MESSAGE_SIZE - TAG_SIZE ∧ ChaCha20Poly1305.encrypt key
        (CipherState.counterToNonce s.currentSendCounter) header inner = some ciphertext := by
  intro s'
  rcases NoiseSession.call_cases h (.encryptWithAad inner header) with
    ⟨hrefused, hsame⟩ | ⟨hlt, -, hnext, hseal⟩
  · have hs' : s' = s := hsame
    rw [hs']
    refine ⟨⟨le_rfl, h.counter⟩, fun ciphertext hok => ?_⟩
    have hcall : (s.call (.encryptWithAad inner header)).2 = .ok ciphertext := hok
    rw [hcall] at hrefused
    exact hrefused.elim
  · have hs' : s'.currentSendCounter = s.currentSendCounter + 1 :=
      congrArg NoiseSession.currentSendCounter hnext
    rw [hs']
    refine ⟨⟨Nat.le_succ _, hlt⟩, fun ciphertext hok => ⟨hlt, rfl, ?_, hseal ciphertext hok⟩⟩
    exact (CipherState.length_of_encryptWithAad haead h.hasKey hok).1

/-- **One frame** is sealed and sent, or lost. -/
theorem wp_sendSealed_sends (haead : ChaCha20Poly1305.Lawful) {flags : UInt8}
    {coords : Option (TreeCoordinate × TreeCoordinate)}
    (hn : OnSession peer pubkey keys received number n)
    (hmarked : ∀ counter len ciphertext, CoordFrame.Marked ⟨counter, flags, len, coords, ciphertext⟩)
    (hrange : ∀ p ∈ coords, p.1.entries.length ≤ 65535 ∧ p.2.entries.length ≤ 65535)
    {coordBytes : Bytes} (hbytes : ∀ counter len ciphertext,
      CoordFrame.coordBytes ⟨counter, flags, len, coords, ciphertext⟩ = coordBytes)
    {inner : Bytes} {packets : List Bytes}
    (hdelivers : Delivers SecretKey PublicKey ν μ n.nodeAddr peer inner packets) (timestamp : Nat) :
    wp (sendSealed env peer flags timestamp coordBytes inner :
        M SecretKey PublicKey ν μ SendError Unit)
      (fun _ => Sends peer pubkey keys received number packets n)
      (fun _ => Sends peer pubkey keys received number [] n) n := by
  obtain ⟨⟨s, ⟨e, he, hentry⟩, hunder, rfl⟩, hbound, hnone⟩ := hn
  have hsends : s.SendsUnder keys.send := ⟨hunder.hasSendKey, hunder.sendKey, hbound⟩
  unfold sendSealed
  rw [wp_bind_iff, wp_read_iff, wp_bind_iff, wp_orElse_iff]
  refine ⟨fun e' he' => ?_, fun h => by cases he.symm.trans h⟩
  cases he.symm.trans he'
  rw [hentry.state]
  dsimp only
  obtain ⟨header, hheader⟩ : ∃ header,
    header = buildFspHeader s.currentSendCounter flags inner.length := ⟨_, rfl⟩
  rw [← hheader]
  obtain ⟨⟨hle, hbound'⟩, hok⟩ := sealed_cases haead hsends inner header
  have hadvanced : OnSession peer pubkey keys received
      (s.encryptWithAad inner header).1.currentSendCounter { n with
        sessions := n.sessions.insert peer
          (e.setState (.established (s.encryptWithAad inner header).1)) } :=
    ⟨⟨_, ⟨_, AList.lookup_insert _, rfl, hentry.remotePubkey, hentry.pendingNewSession,
      hentry.previousNoiseSession⟩, hunder.encryptWithAad inner header, rfl⟩, hbound', hnone⟩
  rw [wp_bind_iff, wp_putSession_iff]
  split
  · rw [wp_stop_iff]
    exact ⟨[], _, .nothing rfl rfl hle hadvanced, rfl⟩
  · rename_i ciphertext hsealed
    obtain ⟨hlt, hnext, hsize, hencrypt⟩ := hok ciphertext hsealed
    rw [hnext] at hadvanced
    have hkept : Keeps (fun m => m.nodeAddr = n.nodeAddr ∧
        OnSession peer pubkey keys received (s.currentSendCounter + 1) m)
        (sendSessionPayload env peer (header ++ coordBytes ++ ciphertext) :
          M SecretKey PublicKey ν μ SendError Unit) :=
      keeps_sendSessionPayload_of_note env peer _
        (fun m f hf hm => ⟨hm.1, hm.2.note hf peer⟩)
        fun m nextHop d _ _ hm => ⟨hm.1, hm.2.session, hm.2.bound, hm.2.noneWaiting⟩
    rw [wp_bind_iff]
    refine wp_mono (fun _ m hm => ?_) (fun _ m hm => ?_)
      (wp_and (wp_sendSessionPayload_effects env peer _) (hkept.wp ⟨rfl, hadvanced⟩))
    · obtain ⟨⟨nextHop, d, -, rfl, hpayload, -, -, heffects⟩, haddr, hm⟩ := hm
      have hbytes' := hbytes s.currentSendCounter inner.length ciphertext
      rw [wp_modifySession_iff]
      refine ⟨[(s.currentSendCounter, ⟨d.payload, packets⟩)], s.currentSendCounter + 1, ?_,
        List.append_nil _⟩
      refine ⟨haddr, posts_encode heffects, ?_, .singleton _ _, ?_, hm.note ?_ _⟩
      · dsimp only
        rw [heffects, deliveries_append]
        exact List.append_nil _
      · refine List.forall_mem_singleton.mpr ⟨⟨s.currentSendCounter, flags, inner.length, coords,
          ciphertext⟩, inner, ?_, hmarked _ _ _, hrange, rfl, hlt, hsize, ?_, hdelivers⟩
        · dsimp only
          rw [hpayload, hheader, CoordFrame.bytes, hbytes']
          rfl
        · rw [hheader] at hencrypt
          exact hencrypt
      · exact fun e => SessionEntry.notes_mapMmp (.recordSent _ _ _)
    · exact ⟨[], _, .nothing hm.2.1 hm.1.1 hle (hnext ▸ hm.2.2), rfl⟩

/-! ## The senders -/

/-- What is not a data packet delivers nothing. -/
theorem delivers_message {src dest : NodeAddr} (timestamp : Nat) {msgType : UInt8}
    (hdata : SessionMessageType.fromByte msgType ≠ some .dataPacket) (innerFlags : UInt8)
    (payload : Bytes) :
    Delivers SecretKey PublicKey ν μ src dest
      (fspPrependInnerHeader timestamp msgType innerFlags payload) [] := by
  refine ⟨_, fspStripInnerHeader_prepend _ _ _ _,
    fun env counter plaintextLen pathMtu ceFlag peer _ => ?_⟩
  rw [List.map_nil, List.append_nil]
  have hflush : Keeps (fun m : Node SecretKey PublicKey ν μ =>
      deliveries m.effects = deliveries peer.effects)
      (flushPendingPackets env src : Handler SecretKey PublicKey ν μ Unit) :=
    keeps_deliveries_flushPendingPackets env src _
  have hkeeps : Keeps (fun m : Node SecretKey PublicKey ν μ =>
      deliveries m.effects = deliveries peer.effects)
      (processSessionMessage env src counter plaintextLen pathMtu ceFlag
        ⟨timestamp % 256 ^ 4, msgType, innerFlags, payload⟩ :
          Handler SecretKey PublicKey ν μ Unit) := by
    refine Keeps.bind (fun m hm => hm) fun _ => Keeps.bind (fun m hm => hm) fun _ => ?_
    extract_lets flush record
    have hrecord : ∀ u, Keeps (fun m : Node SecretKey PublicKey ν μ =>
        deliveries m.effects = deliveries peer.effects) (record u) := fun u =>
      Keeps.ite (Keeps.bind (fun m hm => hm) fun _ => hflush) hflush
    split
    · rename_i htype
      exact absurd htype hdata
    · exact (Keeps.body ((keeps_orReturn _).bind fun _ => keeps_pure _)).bind hrecord
    · exact (Keeps.body ((keeps_orReturn _).bind fun _ m hm => hm)).bind hrecord
    · exact (Keeps.body ((keeps_orReturn _).bind fun _ m hm => hm)).bind hrecord
    · exact hrecord ()
  exact hkeeps.wp rfl

variable (haead : ChaCha20Poly1305.Lawful)

include haead

/-- **A standalone warmup** brings no packets. -/
theorem wp_sendCoordsWarmup_sends (hfit : CoordsFit env peer)
    (hn : OnSession peer pubkey keys received number n) :
    wp (sendCoordsWarmup env peer : M SecretKey PublicKey ν μ SendError Unit)
      (fun _ => Sends peer pubkey keys received number [] n)
      (fun _ => Sends peer pubkey keys received number [] n) n := by
  have hmarked : ∀ counter len ciphertext, CoordFrame.Marked
      ⟨counter, FSP_FLAG_CP, len, some (env.myCoords, env.destCoords peer), ciphertext⟩ :=
    fun _ _ _ => ⟨(by decide : hasFlag FSP_FLAG_CP FSP_FLAG_U = false),
      (by decide : hasFlag FSP_FLAG_CP FSP_FLAG_CP = true)⟩
  unfold sendCoordsWarmup
  rw [wp_bind_iff, wp_read_iff, wp_bind_iff, wp_orElse_iff]
  refine ⟨fun e _ => ?_, fun _ => ⟨[], number, .nothing rfl rfl le_rfl hn, rfl⟩⟩
  refine wp_sendSealed_sends env haead hn hmarked (fun p hp => ?_) (fun _ _ _ => rfl)
    (delivers_warmupPlaintext _ _) _
  cases hp
  exact ⟨hfit.own, hfit.dest⟩

/-- **A report** brings no packets. -/
theorem wp_sendSessionMsg_sends {msgType : UInt8}
    (hdata : SessionMessageType.fromByte msgType ≠ some .dataPacket)
    (hn : OnSession peer pubkey keys received number n) (payload : Bytes) :
    wp (sendSessionMsg env peer msgType payload : M SecretKey PublicKey ν μ SendError Unit)
      (fun _ => Sends peer pubkey keys received number [] n)
      (fun _ => Sends peer pubkey keys received number [] n) n := by
  have hmarked : ∀ (kBit : Bool) counter len ciphertext, CoordFrame.Marked
      ⟨counter, if kBit then FSP_FLAG_K else 0, len, none, ciphertext⟩ := by
    intro kBit counter len ciphertext
    have hu := hasFlag_frame_u false kBit
    have hcp := hasFlag_frame_cp false kBit
    rw [if_neg (by decide), UInt8.zero_or] at hu hcp
    exact ⟨hu, hcp⟩
  unfold sendSessionMsg
  rw [wp_bind_iff, wp_read_iff, wp_bind_iff, wp_orElse_iff]
  refine ⟨fun e _ => ?_, fun _ => ⟨[], number, .nothing rfl rfl le_rfl hn, rfl⟩⟩
  exact wp_sendSealed_sends env haead hn (hmarked e.currentKBit) (fun p hp => by cases hp)
    (fun _ _ _ => rfl) (delivers_message _ hdata _ _) _

/-- **A data packet**, after a warmup if one is due. -/
theorem wp_sendSessionData_sends (hfit : CoordsFit env peer) {shimPayload packet : Bytes}
    (hdelivers : ∀ timestamp spin, Delivers SecretKey PublicKey ν μ n.nodeAddr peer
      (shimPlaintext timestamp spin shimPayload) [packet])
    (hn : OnSession peer pubkey keys received number n) :
    wp (sendSessionData env peer FSP_PORT_IPV6_SHIM FSP_PORT_IPV6_SHIM shimPayload :
        M SecretKey PublicKey ν μ SendError Unit)
      (fun _ => Sends peer pubkey keys received number [packet] n)
      (fun _ => Sends peer pubkey keys received number [] n) n := by
  unfold sendSessionData
  rw [wp_bind_iff, wp_read_iff, wp_bind_iff, wp_orElse_iff]
  have hnothing : Sends peer pubkey keys received number [] n n :=
    ⟨[], number, .nothing rfl rfl le_rfl hn, rfl⟩
  refine ⟨fun e he => ?_, fun _ => hnothing⟩
  extract_lets wantsCoords timestamp spin portPayload inner coordsSize fits includeCoords coords
    send countDown
  by_cases hestablished : e.isEstablished = true
  · rw [if_neg (by simpa using hestablished)]
    have hmarked : ∀ (kBit : Bool) counter len ciphertext, CoordFrame.Marked
        ⟨counter, (if includeCoords then FSP_FLAG_CP else 0) ||| (if kBit then FSP_FLAG_K else 0), len,
          if includeCoords then some (env.myCoords, env.destCoords peer) else none, ciphertext⟩ := by
      intro kBit counter len ciphertext
      refine ⟨hasFlag_frame_u includeCoords kBit, (hasFlag_frame_cp includeCoords kBit).trans ?_⟩
      cases includeCoords <;> rfl
    have hbytes : ∀ (flags : UInt8) counter len ciphertext, CoordFrame.coordBytes
        ⟨counter, flags, len,
          if includeCoords then some (env.myCoords, env.destCoords peer) else none, ciphertext⟩ =
        coords := by
      intro flags counter len ciphertext
      simp only [coords]
      cases includeCoords <;> rfl
    have hrange : ∀ p ∈ (if includeCoords then some (env.myCoords, env.destCoords peer) else none),
        p.1.entries.length ≤ 65535 ∧ p.2.entries.length ≤ 65535 := by
      intro p hp
      split_ifs at hp
      · cases hp
        exact ⟨hfit.own, hfit.dest⟩
      · cases hp
    -- what goes ahead of the packet brings no packets
    have hsend : ∀ u n', Sends peer pubkey keys received number [] n n' →
        wp (send u) (fun _ => Sends peer pubkey keys received number [packet] n)
          (fun _ => Sends peer pubkey keys received number [] n) n' := by
      rintro u n' ⟨letters, next, hwrote, hpackets⟩
      simp only [send]
      rw [wp_bind_iff, wp_read_iff, wp_bind_iff]
      have hdelivers' : Delivers SecretKey PublicKey ν μ n'.nodeAddr peer inner [packet] :=
        hwrote.nodeAddr ▸ hdelivers timestamp spin
      refine wp_mono (fun _ n'' hn'' => ?_) (fun _ n'' hn'' => hwrote.sends hpackets hn'')
        (wp_sendSealed_sends env haead hwrote.onSession (hmarked _) hrange (hbytes _) hdelivers' _)
      rw [wp_modifySession_iff]
      obtain ⟨letters', next', hwrote', hpackets'⟩ := hn''
      refine hwrote.sends hpackets ⟨letters', next', ?_, hpackets'⟩
      exact ⟨hwrote'.nodeAddr, hwrote'.posts, hwrote'.deliveries, hwrote'.numbered, hwrote'.carries,
        hwrote'.onSession.note (fun _ => SessionEntry.notes_recordSent_touch _ _) peer⟩
    have hcount : ∀ u n', Sends peer pubkey keys received number [] n n' →
        wp (countDown u) (fun _ => Sends peer pubkey keys received number [packet] n)
          (fun _ => Sends peer pubkey keys received number [] n) n' := by
      intro u n' hn'
      simp only [countDown]
      split_ifs
      · rw [wp_bind_iff, wp_modifySession_iff]
        obtain ⟨letters, next, hwrote, hpackets⟩ := hn'
        refine hsend () _ ⟨letters, next, ?_, hpackets⟩
        exact ⟨hwrote.nodeAddr, hwrote.posts, hwrote.deliveries, hwrote.numbered, hwrote.carries,
          hwrote.onSession.note (fun _ => SessionEntry.notes_setCoordsWarmupRemaining _) peer⟩
      · exact hsend () n' hn'
    split_ifs with hahead
    · rw [wp_bind_iff, wp_attempt_iff]
      refine wp_mono (fun _ n' => hcount () n') (fun failed n' hn' => ?_)
        (wp_sendCoordsWarmup_sends env haead hfit hn)
      cases failed with
      | error failed => exact hcount () n' hn'
      | panic => exact hn'
    · exact hcount () n hnothing
  · rw [if_pos (by simpa using hestablished), wp_stop_iff]
    exact hnothing

/-- **A packet** is rebuilt by the peer from the frame that carries it. -/
theorem wp_sendIpv6Packet_sends (hfit : CoordsFit env peer)
    (hn : OnSession peer pubkey keys received number n) (packet : Bytes) :
    wp (sendIpv6Packet env peer packet : M SecretKey PublicKey ν μ SendError Unit)
      (fun _ => Sends peer pubkey keys received number (rebuilt n.nodeAddr peer packet).toList n)
      (fun _ => Sends peer pubkey keys received number [] n) n := by
  unfold sendIpv6Packet
  rw [wp_bind_iff, wp_attempt_iff, wp_pureCall_iff]
  refine ⟨fun shimPayload hcompress => ?_, fun failed hfailed => ?_⟩
  · dsimp only
    obtain ⟨p, rfl⟩ := compressIpv6_ok hcompress
    have hrebuilt : rebuilt n.nodeAddr peer packet =
        (decompressIpv6 p.shim (fipsAddress n.nodeAddr) (fipsAddress peer)).toOption := by
      unfold rebuilt
      rw [hcompress]
    have hdecompress := p.decompressIpv6_shim (fipsAddress n.nodeAddr) (fipsAddress peer)
    rw [hrebuilt, hdecompress]
    exact wp_sendSessionData_sends env haead hfit
      (fun timestamp spin => delivers_shimPlaintext timestamp spin hdecompress) hn
  · have hnothing : Sends peer pubkey keys received number [] n n :=
      ⟨[], number, .nothing rfl rfl le_rfl hn, rfl⟩
    cases failed with
    | error failed =>
      dsimp only
      rw [wp_stop_iff]
      exact hnothing
    | panic => exact hnothing

omit haead

/-! ## The receiver -/

/-- A counter that was not accepted and lies in the window. -/
def Fresh (received : List ℕ) (number : ℕ) : Prop :=
  ∀ c ∈ received, c ≠ number ∧ c < number + REPLAY_WINDOW_SIZE

omit [ChaCha20Poly1305] [SessionMmp μ] in
theorem check_iff_fresh {w : ReplayWindow} (h : w.Represents received) :
    w.check number = true ↔ Fresh received number := by
  rw [← Bool.not_eq_false, h.check_eq_false_iff]
  constructor
  · intro hnot c hc
    refine ⟨fun heq => hnot (.inl (heq ▸ hc)), ?_⟩
    by_contra hfar
    exact hnot (.inr ⟨c, hc, Nat.not_lt.mp hfar⟩)
  · rintro hfresh (hmem | ⟨c, hc, hfar⟩)
    · exact (hfresh _ hmem).1 rfl
    · have := (hfresh c hc).2
      omega

/-- From `n` to `n'` nothing was sent to `peer` and these packets were delivered. -/
structure Heard (peer : NodeAddr) (pubkey : PublicKey) (keys : KeyPair) (received : List ℕ)
    (number : ℕ) (packets : List Bytes) (n n' : Node SecretKey PublicKey ν μ) : Prop where
  nodeAddr : n'.nodeAddr = n.nodeAddr
  posts : Posts peer [] n n'
  deliveries : deliveries n'.effects = deliveries n.effects ++ packets
  onSession : ∃ next, number ≤ next ∧ OnSession peer pubkey keys received next n'

variable {src : NodeAddr} {f : Frame} {c : CoordFrame} {inner : Bytes}

omit [ChaCha20Poly1305] in
theorem mem_of_accepted {s : NoiseSession PublicKey} (h : s.Under keys received)
    (hfresh : Fresh received number) :
    NoiseSession.Under keys (received ++ [number])
      { s with replayWindow := s.replayWindow.accept number } where
  sendKey := h.sendKey
  hasSendKey := h.hasSendKey
  recvKey := h.recvKey
  hasRecvKey := h.hasRecvKey
  window := h.window.accept ((check_iff_fresh h.window).mpr hfresh)
  nodup := List.Nodup.append h.nodup (List.nodup_singleton _) fun _ hc hnumber =>
    (hfresh _ hc).1 (List.mem_singleton.mp hnumber)

omit [SessionMmp μ] in
/-- A frame opens at the other end. -/
theorem opens_of_sealed (haead : ChaCha20Poly1305.Lawful) {s : NoiseSession PublicKey}
    (h : s.Under keys received) (hsize : inner.length ≤ MAX_MESSAGE_SIZE - TAG_SIZE)
    {header ciphertext : Bytes} (hsealed : ChaCha20Poly1305.encrypt keys.recv
      (CipherState.counterToNonce number) header inner = some ciphertext) :
    s.opens ⟨ciphertext, number, header⟩ = .ok inner := by
  obtain ⟨ciphertext', hencrypt, hlen, hdecrypt⟩ := haead.decrypt_encrypt keys.recv
    (CipherState.counterToNonce number) header inner hsize
  cases hsealed.symm.trans hencrypt
  unfold NoiseSession.opens CipherState.decryptWithCounterAndAad
  rw [if_neg (by rw [h.hasRecvKey]; decide), if_neg (by dsimp only; omega)]
  dsimp only
  rw [h.recvKey, hdecrypt]

/-- The session of a frame opens it if its counter is fresh. -/
theorem wp_openSessionFrame_frame {frame : NoiseSession.Frame}
    (hn : OnSession peer pubkey keys received number n)
    (hopens : ∀ s : NoiseSession PublicKey, s.Under keys received → s.opens frame = .ok inner)
    (kBit : Bool) :
    wp (openSessionFrame env peer kBit frame : Handler SecretKey PublicKey ν μ Bytes)
      (fun plaintext n' => Fresh received frame.counter ∧ plaintext = inner ∧
        n'.identity = n.identity ∧ n'.effects = n.effects ∧
        OnSession peer pubkey keys (received ++ [frame.counter]) number n')
      (fun _ n' => ¬ Fresh received frame.counter ∧ n'.identity = n.identity ∧
        n'.effects = n.effects ∧ OnSession peer pubkey keys received number n') n := by
  obtain ⟨⟨s, ⟨e, he, hentry⟩, hunder, hnext⟩, hbound, hnone⟩ := hn
  have hestablished : e.isEstablished = true := SessionEntry.isEstablished_iff.mpr ⟨s, hentry.state⟩
  unfold openSessionFrame
  rw [wp_bind_iff, wp_read_iff, wp_bind_iff, wp_orElse_iff]
  refine ⟨fun e' he' => ?_, fun h => by cases he.symm.trans h⟩
  cases he.symm.trans he'
  rw [if_neg (by simp [hestablished]), wp_bind_iff, wp_expect_iff]
  refine ⟨fun e' he' => ?_, fun h => by cases he.symm.trans h⟩
  cases he.symm.trans he'
  have hflips : flips kBit e.currentKBit e.pendingNewSession = false := by
    unfold flips
    rw [hentry.pendingNewSession, Option.isSome_none, Bool.and_false]
  rw [if_neg (by rw [hflips]; decide), wp_bind_iff, wp_takeSession_iff]
  refine ⟨fun e' he' => ?_, fun h => by cases he.symm.trans h⟩
  cases he.symm.trans he'
  rw [hentry.state, hentry.previousNoiseSession]
  dsimp only
  unfold NoiseSession.decryptWithFallback
  rcases s.decryptFrame_cases frame with
    ⟨hcheck, heq⟩ | ⟨_, -, hopen, -⟩ | ⟨plaintext, hcheck, hopen, heq⟩
  · have hold : ¬ Fresh received frame.counter := fun hfresh => by
      rw [(check_iff_fresh hunder.window).mpr hfresh] at hcheck
      cases hcheck
    rw [heq]
    dsimp only [Checked.ofExcept]
    rw [wp_bind_iff, wp_putSession_iff, wp_orReturn_error]
    exact ⟨hold, rfl, rfl, ⟨s, ⟨_, AList.lookup_insert _, rfl, hentry.remotePubkey,
      hentry.pendingNewSession, rfl⟩, hunder, hnext⟩, hbound, hnone⟩
  · cases (hopens s hunder).symm.trans hopen
  · cases (hopens s hunder).symm.trans hopen
    have hfresh := (check_iff_fresh hunder.window).mp hcheck
    rw [heq]
    dsimp only [Checked.ofExcept]
    rw [wp_bind_iff, wp_putSession_iff, wp_orReturn_ok]
    exact ⟨hfresh, rfl, rfl, rfl, ⟨_, ⟨_, AList.lookup_insert _, rfl, hentry.remotePubkey,
      hentry.pendingNewSession, rfl⟩, mem_of_accepted hunder hfresh, hnext⟩, hbound, hnone⟩

omit [ChaCha20Poly1305] [SessionMmp μ] in
theorem posts_local {e : Effect PublicKey} (he : Effect.IsLocal e) (h : n'.effects = n.effects ++ [e]) :
    Posts peer [] n n' := by
  refine ⟨[e], h, ?_⟩
  cases e with
  | sentLinkMessage nextHop message ceFlag => exact absurd rfl (he nextHop message ceFlag)
  | _ => rfl

/-- Nothing is sent to `peer`, and the session goes on. -/
def GoesOn (peer : NodeAddr) (pubkey : PublicKey) (keys : KeyPair) (received : List ℕ) (number : ℕ)
    (n n' : Node SecretKey PublicKey ν μ) : Prop :=
  n'.nodeAddr = n.nodeAddr ∧ Posts peer [] n n' ∧
    ∃ next, number ≤ next ∧ OnSession peer pubkey keys received next n'

/-- What follows a decryption sends nothing of its own. -/
theorem receiveRules_goesOn (haead : ChaCha20Poly1305.Lawful) (peer : NodeAddr) (pubkey : PublicKey)
    (keys : KeyPair) (received : List ℕ) (number : ℕ) (n : Node SecretKey PublicKey ν μ) :
    ReceiveRules (fun _ _ => False) (GoesOn peer pubkey keys received number n) where
  note m addr f hf := by
    rintro ⟨haddr, hposts, next, hle, hm⟩
    exact ⟨haddr, hposts, next, hle, hm.note hf addr⟩
  advance m addr e session inner header he hstate := by
    rintro ⟨haddr, hposts, next, hle, ⟨s, ⟨e', he', hentry⟩, hunder, rfl⟩, hbound, hnone⟩
    refine ⟨haddr, hposts, ?_⟩
    by_cases hpeer : peer = addr
    · subst hpeer
      cases he.symm.trans he'
      cases hstate.symm.trans hentry.state
      have hsends : session.SendsUnder keys.send := ⟨hunder.hasSendKey, hunder.sendKey, hbound⟩
      obtain ⟨⟨hle', hbound'⟩, -⟩ := sealed_cases haead hsends inner header
      exact ⟨_, hle.trans hle', ⟨_, ⟨_, AList.lookup_insert _, rfl, hentry.remotePubkey,
        hentry.pendingNewSession, hentry.previousNoiseSession⟩, hunder.encryptWithAad inner header,
        rfl⟩, hbound', hnone⟩
    · exact ⟨_, hle, ⟨s, ⟨e', (AList.lookup_insert_ne hpeer).trans he', hentry⟩, hunder, rfl⟩, hbound,
        hnone⟩
  frame _ _ _ _ _ _ _ _ _ _ _ hflags _ := hflags.elim
  effect m e he _ _ := by
    rintro ⟨haddr, hposts, next, hle, hm⟩
    exact ⟨haddr, hposts.trans (posts_local he rfl), next, hle, hm.session, hm.bound, hm.noneWaiting⟩
  pings m pings := by
    rintro ⟨haddr, hposts, next, hle, hm⟩
    exact ⟨haddr, hposts, next, hle, hm.session, hm.bound, hm.noneWaiting⟩

/-- No packets wait for the peer. -/
theorem keeps_flush_goesOn (peer : NodeAddr) (pubkey : PublicKey) (keys : KeyPair)
    (received : List ℕ) (number : ℕ) (n : Node SecretKey PublicKey ν μ) :
    Keeps (GoesOn peer pubkey keys received number n)
      (flushPendingPackets env peer : Handler SecretKey PublicKey ν μ Unit) := by
  refine Keeps.body (keeps_iff.mpr ?_)
  rintro m ⟨haddr, hposts, next, hle, hm⟩
  rw [wp_bind_iff, wp_read_iff, hm.noneWaiting, wp_bind_iff, wp_orElse_none]
  exact ⟨haddr, hposts, next, hle, hm⟩

section Delivery

variable [Sha256] [HkdfSha256] [Secp256k1 SecretKey PublicKey]

/-- **The parts of a frame** are taken once, and then bring its packets. -/
theorem wp_openParts_frame (haead : ChaCha20Poly1305.Lawful)
    (hn : OnSession peer pubkey keys received number n) {l : ℕ} (pathMtu : Nat) (ceFlag : Bool)
    (srcCoords destCoords : Option TreeCoordinate) (flags : UInt8)
    (hcarries : Carries SecretKey PublicKey ν μ peer n.nodeAddr keys.recv l f c inner)
    {P : Node SecretKey PublicKey ν μ → Prop}
    (hfresh : Fresh received l → ∀ n', Heard peer pubkey keys (received ++ [l]) number
      (f.packets.map (asDelivered ceFlag)) n n' → P n')
    (hold : ¬ Fresh received l → ∀ n', Heard peer pubkey keys received number [] n n' → P n') :
    wp (openParts env peer pathMtu ceFlag srcCoords destCoords flags ⟨c.ciphertext, l, c.header⟩ :
      Handler SecretKey PublicKey ν μ Unit) (fun _ => P) (fun _ => P) n := by
  unfold openParts
  refine wp_body_of_wp ?_
  rw [wp_bind_iff, wp_read_iff, wp_bind_iff, wp_cacheCoords_iff, wp_bind_iff, wp_cacheCoords_iff,
    wp_bind_iff]
  obtain ⟨m, hm⟩ : ∃ m : Node SecretKey PublicKey ν μ, m = { n with
    effects := (n.effects ++ srcCoords.toList.map (.cacheCoords peer)) ++
      destCoords.toList.map (.cacheCoords n.nodeAddr) } := ⟨_, rfl⟩
  have hcached : Heard peer pubkey keys received number [] n m := by
    rw [hm]
    refine ⟨rfl, ⟨_, List.append_assoc _ _ _, ?_⟩, ?_, number, le_rfl, hn.session, hn.bound,
      hn.noneWaiting⟩
    · cases srcCoords <;> cases destCoords <;> rfl
    · unfold deliveries
      rw [List.append_assoc, List.filterMap_append]
      cases srcCoords <;> cases destCoords <;> rfl
  have hsession : OnSession peer pubkey keys received number m := by
    rw [hm]
    exact ⟨hn.session, hn.bound, hn.noneWaiting⟩
  rw [← hm]
  refine wp_mono (fun plaintext n₂ hn₂ => ?_) (fun _ n₂ hn₂ => ?_)
    (wp_openSessionFrame_frame env hsession
      (fun s hs => opens_of_sealed haead hs hcarries.size hcarries.sealed) _)
  · obtain ⟨hl, rfl, hidentity, heffects, hn₂⟩ := hn₂
    obtain ⟨message, hstrip, hprocess⟩ := hcarries.delivers
    have haddr : n₂.nodeAddr = n.nodeAddr := (congrArg Identity.nodeAddr hidentity).trans hcached.nodeAddr
    rw [hstrip, wp_bind_iff, wp_orReturn_ok]
    have hrules := receiveRules_goesOn haead peer pubkey keys (received ++ [l]) number n₂
    have hgoesOn : Keeps (GoesOn peer pubkey keys (received ++ [l]) number n₂)
        (processSessionMessage env peer l plaintext.length pathMtu ceFlag message :
          Handler SecretKey PublicKey ν μ Unit) :=
      hrules.keeps_processSessionMessage env (keeps_flush_goesOn env _ _ _ _ _ _) _ _ _ _ _
    have hdone : ∀ n', (deliveries n'.effects = deliveries n₂.effects ++
        f.packets.map (asDelivered ceFlag)) ∧ GoesOn peer pubkey keys (received ++ [l]) number n₂ n' →
        P n' := by
      rintro n' ⟨hdelivered, haddr', hposts, hnext⟩
      refine hfresh hl n' ⟨haddr'.trans haddr, ?_, ?_, hnext⟩
      · have hsame : Posts peer [] m n₂ := ⟨[], heffects.trans (List.append_nil _).symm, rfl⟩
        exact (hcached.posts.trans hsame).trans hposts
      · rw [hdelivered, heffects, hcached.deliveries, List.append_nil]
    exact wp_mono (fun _ => hdone) (fun _ => hdone) (wp_and
      (hprocess env l plaintext.length pathMtu ceFlag n₂ haddr)
      (hgoesOn.wp ⟨rfl, ⟨[], (List.append_nil _).symm, rfl⟩, number, le_rfl, hn₂⟩))
  · obtain ⟨hl, hidentity, heffects, hn₂⟩ := hn₂
    have hsame : Posts peer [] m n₂ := ⟨[], heffects.trans (List.append_nil _).symm, rfl⟩
    refine hold hl n₂ ⟨(congrArg Identity.nodeAddr hidentity).trans hcached.nodeAddr,
      hcached.posts.trans hsame, ?_, number, le_rfl, hn₂⟩
    rw [heffects, hcached.deliveries]

omit [Sha256] [HkdfSha256] [SessionMmp μ] [Secp256k1 SecretKey PublicKey] in
theorem min_le_length_of_sealed (haead : ChaCha20Poly1305.Lawful) {key nonce header : Bytes}
    (hsize : inner.length ≤ MAX_MESSAGE_SIZE - TAG_SIZE)
    (hsealed : ChaCha20Poly1305.encrypt key nonce header inner = some c.ciphertext) :
    FSP_ENCRYPTED_MIN_SIZE ≤ c.bytes.length := by
  obtain ⟨ciphertext, hencrypt, hlen, -⟩ := haead.decrypt_encrypt key nonce header inner hsize
  cases hsealed.symm.trans hencrypt
  rw [c.bytes_eq, List.length_append, List.length_append, c.length_header, hlen]
  unfold FSP_ENCRYPTED_MIN_SIZE
  omega

/-- **A frame of the other end** is taken once, and then brings its packets. -/
theorem wp_handleSessionPayload_frame (haead : ChaCha20Poly1305.Lawful)
    (hn : OnSession peer pubkey keys received number n) {l : ℕ} (pathMtu : Nat) (ceFlag : Bool)
    (hcarried : IsCarried SecretKey PublicKey ν μ peer n.nodeAddr keys.recv l f)
    {P : Node SecretKey PublicKey ν μ → Prop}
    (hfresh : Fresh received l → ∀ n', Heard peer pubkey keys (received ++ [l]) number
      (f.packets.map (asDelivered ceFlag)) n n' → P n')
    (hold : ¬ Fresh received l → ∀ n', Heard peer pubkey keys received number [] n n' → P n') :
    wp (handleSessionPayload env peer f.payload pathMtu ceFlag :
      Handler SecretKey PublicKey ν μ Unit) (fun _ => P) (fun _ => P) n := by
  obtain ⟨c, inner, hcarries⟩ := hcarried
  have hmarked := hcarries.marked
  have hlong := min_le_length_of_sealed haead hcarries.size hcarries.sealed
  have hparse := CoordFrame.parse_bytes hmarked.encrypted hlong
  have hcounter : c.parsed.counter = l := by
    change c.counter % 256 ^ 8 = l
    rw [hcarries.counter]
    exact Nat.mod_eq_of_lt (hcarries.bound.trans (by decide))
  -- the frame is read as it was written
  have hopens : ∃ srcCoords destCoords, OpensWith SecretKey PublicKey ν μ c.bytes srcCoords destCoords
      c.flags ⟨c.ciphertext, l, c.header⟩ := by
    cases hcoords : c.coords with
    | some p =>
      obtain ⟨hsrc, hdest⟩ := hcarries.range p hcoords
      have hread : OpensWith SecretKey PublicKey ν μ c.bytes (some p.1.addrsOnly)
          (some p.2.addrsOnly) c.flags ⟨c.ciphertext, c.parsed.counter, c.header⟩ :=
        opensWith_bytes hmarked hcoords hsrc hdest
      rw [hcounter] at hread
      exact ⟨_, _, hread⟩
    | none =>
      have hcp : hasFlag c.flags FSP_FLAG_CP = false := hmarked.coords.trans (by rw [hcoords]; rfl)
      have hnot : NotRead SecretKey PublicKey ν μ c.bytes := notRead_of_no_coords c.parse_prefix rfl hcp
      have hread : OpensWith SecretKey PublicKey ν μ c.bytes none none c.flags
        ⟨c.bytes.drop FSP_HEADER_SIZE, c.parsed.counter, c.header⟩ := hnot.receiver c.parsed hparse
      have hrest : c.bytes.drop FSP_HEADER_SIZE = c.ciphertext := by
        have hbytes : c.coordBytes = [] := by
          unfold CoordFrame.coordBytes
          rw [hcoords]
        rw [c.bytes_eq, hbytes, ← c.length_header, List.drop_left]
        rfl
      rw [hrest, hcounter] at hread
      exact ⟨_, _, hread⟩
  obtain ⟨srcCoords, destCoords, hopens⟩ := hopens
  rw [hcarries.payload]
  unfold handleSessionPayload
  refine wp_body_of_wp ?_
  rw [c.parse_prefix, wp_bind_iff, wp_orReturn_ok,
    sliceFrom_of_le (FspCommonPrefix.length_of_parse c.parse_prefix), wp_bind_iff, wp_orReturn_ok]
  dsimp only
  rw [if_neg (by decide), if_neg (by decide), if_neg (by decide), if_pos (by decide),
    if_neg (by simpa [FspCommonPrefix.isUnencrypted] using hmarked.encrypted), hopens]
  exact wp_openParts_frame env haead hn pathMtu ceFlag srcCoords destCoords c.flags hcarries hfresh hold

end Delivery

end Frames

end Node

end Fips
