import Fips.Lib.Run
import Fips.Node.QueueOwners
import Fips.Node.Sample
import Fips.Node.SessionRekey
import Fips.Wire.Codec

/-!
# The K-bit of a session

Over a run of the node, which K flag its encrypted frames carry. The events are the senders of data
and reports, every session payload, initiations, rekey ticks, resends, removals, and packets queued
for a session that is not established.

A key epoch is counted by the measurements: `reset_for_rekey` is called once for each promotion of a
pending session and nowhere else, so `Counted` adds a count to any type of measurements. The effects
of a state are those of the event that led to it.

`Keyed` says what the K-bit of an entry has to do with its epoch, `TableOn` that every entry is keyed
and that nothing waits for an established session, `SoundOn` that the frames sent so far carry the
right flag besides. The events and their runs are in `Fips.Node.KBitRun`.

## Results

* `keyed_promote`: a promotion flips the K-bit and begins the next epoch.
* `sessionRules_soundOn`: sending under the flags of the K-bit keeps all of this.
-/

open Checked EventRun

namespace Fips

/-- Measurements that count the keys of their session. -/
structure Counted (μ : Type) where
  measured : μ
  epoch : Nat

/-- The K-bit of the epoch. -/
def Counted.parity {μ : Type} (c : Counted μ) : Bool := decide (c.epoch % 2 = 1)

theorem Counted.parity_of_succ {μ : Type} {c c' : Counted μ} (h : c'.epoch = c.epoch + 1) :
    c'.parity = !c.parity := by
  unfold parity
  rw [h, ← decide_not, decide_eq_decide]
  omega

instance {μ : Type} [SessionMmp μ] : SessionMmp (Counted μ) where
  new isInitiator := ⟨Mmp.new isInitiator, 0⟩
  resetForRekey now c := ⟨Mmp.resetForRekey now c.measured, c.epoch + 1⟩
  txBit c := Mmp.txBit c.measured
  recordRecv counter timestamp bytes ceFlag now c :=
    ⟨Mmp.recordRecv counter timestamp bytes ceFlag now c.measured, c.epoch⟩
  rxObserve spinBit counter now c := ⟨Mmp.rxObserve spinBit counter now c.measured, c.epoch⟩
  recordSent counter timestamp bytes c := ⟨Mmp.recordSent counter timestamp bytes c.measured, c.epoch⟩
  processReceiverReport report ourTimestampMs now c :=
    ⟨Mmp.processReceiverReport report ourTimestampMs now c.measured, c.epoch⟩
  observeIncomingMtu pathMtu c := ⟨SessionMmp.observeIncomingMtu pathMtu c.measured, c.epoch⟩
  applyNotification mtu now c := ⟨SessionMmp.applyNotification mtu now c.measured, c.epoch⟩
  seedSourceMtu mtu c := ⟨SessionMmp.seedSourceMtu mtu c.measured, c.epoch⟩

variable {SecretKey PublicKey ν μ : Type} [SessionMmp μ]

theorem Measures.epoch {g : Counted μ → Counted μ} (h : Measures g) (c : Counted μ) :
    (g c).epoch = c.epoch := by
  induction h generalizing c with
  | comp _ _ ihf ihg => exact (ihf _).trans (ihg _)
  | id | recordRecv | rxObserve | recordSent | processReceiverReport | observeIncomingMtu
    | applyNotification | seedSourceMtu => rfl

/-! ## Frames -/

/-- An encrypted session message, as its prefix says. -/
def isSealed (payload : Bytes) : Bool :=
  match FspCommonPrefix.parse payload with
  | .ok pre => pre.phase == FSP_PHASE_ESTABLISHED && !pre.isUnencrypted
  | .error _ => false

/-- Where a link message takes an encrypted session message, and its K flag. -/
def sealedFrame (message : Bytes) : Option (NodeAddr × Bool) :=
  if message.head? != some 0x00 then none
  else match SessionDatagram.decode message.tail with
    | .ok d =>
      if isSealed d.payload then some (d.destAddr, d.payload[1]?.any (hasFlag · FSP_FLAG_K)) else none
    | .error _ => none

theorem sealedFrame_encode (d : SessionDatagram) :
    sealedFrame d.encode = if isSealed d.payload then
      some (d.destAddr, d.payload[1]?.any (hasFlag · FSP_FLAG_K)) else none := by
  unfold sealedFrame
  rw [d.decode_encode, if_neg (by simp [SessionDatagram.encode])]

/-- A handshake message is not encrypted. -/
theorem isSealed_withPrefix {phase flags : UInt8} {bytes : Bytes} (h : phase &&& 0x0F ≠ 0) :
    isSealed (withPrefix phase flags bytes) = false := by
  have hsplit : withPrefix phase flags bytes = phase :: flags :: UInt8.ofNat bytes.length ::
      UInt8.ofNat (bytes.length / 256) :: bytes := rfl
  unfold isSealed
  rw [hsplit, FspCommonPrefix.parse_cons]
  simp [FSP_PHASE_ESTABLISHED, h]

/-! ## Entries -/

section Entries

variable {e e' : SessionEntry SecretKey PublicKey (Counted μ)}

/-- The K-bit of an established session is the parity of its epoch; before, it is clear. What is
stored for a resend is a handshake message. -/
structure Keyed (e : SessionEntry SecretKey PublicKey (Counted μ)) : Prop where
  epoch : e.isEstablished = true → ∃ c, e.mmp = some c ∧ e.currentKBit = c.parity
  first : e.isEstablished = false → e.currentKBit = false
  stored : ∀ payload, e.handshakePayload = some payload → isSealed payload = false

omit [SessionMmp μ] in
theorem Keyed.congr (h : Keyed e) (hstate : e'.state = e.state)
    (hkBit : e'.currentKBit = e.currentKBit) (hmmp : e'.mmp = e.mmp)
    (hpayload : e'.handshakePayload = e.handshakePayload) : Keyed e' := by
  have hphase : e'.isEstablished = e.isEstablished := by
    unfold SessionEntry.isEstablished
    rw [hstate]
  refine ⟨?_, ?_, ?_⟩
  · rw [hphase, hkBit, hmmp]
    exact h.epoch
  · rw [hphase, hkBit]
    exact h.first
  · rw [hpayload]
    exact h.stored

theorem Keyed.note (h : Keyed e) (hnote : SessionEntry.Notes e e') : Keyed e' := by
  refine ⟨fun hestablished => ?_, ?_, ?_⟩
  · rw [hnote.isEstablished] at hestablished
    obtain ⟨c, hc, hparity⟩ := h.epoch hestablished
    obtain ⟨g, hg, hmmp⟩ := hnote.mmp
    refine ⟨g c, by rw [hmmp, hc, Option.map_some], ?_⟩
    rw [hnote.currentKBit, hparity, Counted.parity, Counted.parity, hg.epoch]
  · rw [hnote.isEstablished, hnote.currentKBit]
    exact h.first
  · rw [hnote.handshakePayload]
    exact h.stored

omit [SessionMmp μ] in
theorem Keyed.setEstablished (h : Keyed e) (hestablished : e.isEstablished = true)
    (session : NoiseSession PublicKey) : Keyed (e.setState (.established session)) :=
  ⟨fun _ => h.epoch hestablished, fun hnot => (Bool.noConfusion hnot), h.stored⟩

/-- **A promotion** flips the K-bit and begins the next epoch. -/
theorem keyed_promote (h : Keyed e) (hestablished : e.isEstablished = true)
    (session : NoiseSession PublicKey) (nowMs instant : Nat) :
    Keyed (e.promote session nowMs instant) := by
  obtain ⟨c, hc, hparity⟩ := h.epoch hestablished
  refine ⟨fun _ => ⟨Mmp.resetForRekey instant c, ?_, ?_⟩, fun hnot => (Bool.noConfusion hnot),
    h.stored⟩
  · change e.mmp.map _ = _
    rw [hc, Option.map_some]
  · change (!e.currentKBit) = _
    rw [hparity]
    exact (Counted.parity_of_succ (show (Mmp.resetForRekey instant c).epoch = c.epoch + 1 from rfl)).symm

theorem Keyed.kbitFlip (h : Keyed e) (hestablished : e.isEstablished = true) (nowMs instant : Nat) :
    Keyed (e.handlePeerKbitFlip nowMs instant).1 ∧
      (e.handlePeerKbitFlip nowMs instant).1.isEstablished = true := by
  cases hpending : e.pendingNewSession with
  | none =>
    rw [SessionEntry.handlePeerKbitFlip_of_none hpending]
    exact ⟨h, hestablished⟩
  | some session =>
    rw [SessionEntry.handlePeerKbitFlip_of_some hpending]
    exact ⟨keyed_promote h hestablished session nowMs instant, rfl⟩

theorem Keyed.cutover (h : Keyed e) (hestablished : e.isEstablished = true) (nowMs instant : Nat) :
    Keyed (e.cutoverToNewSession nowMs instant).1 ∧
      (e.cutoverToNewSession nowMs instant).1.isEstablished = true := by
  cases hpending : e.pendingNewSession with
  | none =>
    unfold SessionEntry.cutoverToNewSession
    rw [hpending]
    exact ⟨h, hestablished⟩
  | some session =>
    unfold SessionEntry.cutoverToNewSession
    rw [hpending]
    exact ⟨(keyed_promote h hestablished session nowMs instant).congr rfl rfl rfl rfl, rfl⟩

omit [SessionMmp μ] in
/-- An entry whose handshake begins. -/
theorem keyed_new {addr : NodeAddr} {pubkey : PublicKey} {state : EndToEndState SecretKey PublicKey}
    {nowMs nextResendAtMs : Nat} {isInitiator : Bool} {payload : Bytes}
    (hstate : state.isEstablished = false) (hpayload : isSealed payload = false) :
    Keyed ((SessionEntry.new addr pubkey state nowMs isInitiator :
      SessionEntry SecretKey PublicKey (Counted μ)).setHandshakePayload payload nextResendAtMs) := by
  refine ⟨fun hestablished => ?_, fun _ => rfl, ?_⟩
  · exact absurd (hstate.symm.trans hestablished) Bool.false_ne_true
  · rintro _ ⟨⟩
    exact hpayload

end Entries

namespace Node

variable {S : NodeAddr → Prop} {n n' : Node SecretKey PublicKey ν (Counted μ)} {addr : NodeAddr}

/-! ## The table -/

/-- Every entry is keyed, and nothing waits for an established session in `S`. -/
structure TableOn (S : NodeAddr → Prop) (n : Node SecretKey PublicKey ν (Counted μ)) : Prop where
  keyed : ∀ d e, n.sessions.lookup d = some e → Keyed e
  unqueued : ∀ d e, S d → n.sessions.lookup d = some e → e.isEstablished = true →
    n.pendingTunPackets.lookup d = none

section Table

omit [SessionMmp μ] in
theorem TableOn.congr (h : TableOn S n) (hsessions : n'.sessions = n.sessions)
    (hqueues : n'.pendingTunPackets = n.pendingTunPackets) : TableOn S n' := by
  refine ⟨?_, ?_⟩
  · rw [hsessions]
    exact h.keyed
  · rw [hsessions, hqueues]
    exact h.unqueued

omit [SessionMmp μ] in
theorem TableOn.but {S' : NodeAddr → Prop} (h : TableOn S n) (hS : ∀ d, S' d → S d) :
    TableOn S' n := ⟨h.keyed, fun d e hd => h.unqueued d e (hS d hd)⟩

omit [SessionMmp μ] in
/-- An entry put into the table. -/
theorem TableOn.put (h : TableOn (fun d => S d ∧ d ≠ addr) n)
    {e : SessionEntry SecretKey PublicKey (Counted μ)} (he : Keyed e)
    (hqueue : S addr → e.isEstablished = true → n.pendingTunPackets.lookup addr = none) :
    TableOn S { n with sessions := n.sessions.insert addr e } := by
  refine ⟨fun d e' hd => ?_, fun d e' hS hd hestablished => ?_⟩
  · rw [Map.lookup_insert'] at hd
    split_ifs at hd with haddr
    · cases hd
      exact he
    · exact h.keyed d e' hd
  · rw [Map.lookup_insert'] at hd
    split_ifs at hd with haddr
    · subst haddr
      cases hd
      exact hqueue hS hestablished
    · exact h.unqueued d e' ⟨hS, haddr⟩ hd hestablished

omit [SessionMmp μ] in
/-- Mutation of one entry. -/
theorem TableOn.modify (h : TableOn S n)
    {f : SessionEntry SecretKey PublicKey (Counted μ) → SessionEntry SecretKey PublicKey (Counted μ)}
    (hf : ∀ e, n.sessions.lookup addr = some e → Keyed (f e) ∧
      ((f e).isEstablished = true → e.isEstablished = true)) :
    TableOn S { n with sessions := n.sessions.modify addr f } := by
  cases hlookup : n.sessions.lookup addr with
  | none =>
    have hsame : n.sessions.modify addr f = n.sessions := by
      unfold Map.modify
      rw [hlookup]
    exact h.congr hsame rfl
  | some e =>
    obtain ⟨hkeyed, hphase⟩ := hf e hlookup
    have hput : TableOn S { n with sessions := n.sessions.insert addr (f e) } :=
      TableOn.put (h.but fun d hd => hd.1) hkeyed fun hS hestablished =>
        h.unqueued addr e hS hlookup (hphase hestablished)
    exact hput.congr (Map.modify_eq_insert hlookup f) rfl

omit [SessionMmp μ] in
/-- Mutation that touches neither phase nor key. -/
theorem TableOn.modify_same (h : TableOn S n)
    {f : SessionEntry SecretKey PublicKey (Counted μ) → SessionEntry SecretKey PublicKey (Counted μ)}
    (hstate : ∀ e, (f e).state = e.state) (hkBit : ∀ e, (f e).currentKBit = e.currentKBit)
    (hmmp : ∀ e, (f e).mmp = e.mmp) (hpayload : ∀ e, (f e).handshakePayload = e.handshakePayload) :
    TableOn S { n with sessions := n.sessions.modify addr f } := by
  refine h.modify fun e he => ⟨(h.keyed addr e he).congr (hstate e) (hkBit e) (hmmp e) (hpayload e), ?_⟩
  unfold SessionEntry.isEstablished
  rw [hstate]
  exact id

omit [SessionMmp μ] in
/-- An entry taken out of the table. -/
theorem TableOn.take (h : TableOn S n) (addr : NodeAddr) :
    TableOn S { n with sessions := n.sessions.erase addr } := by
  have hold : ∀ d e, (n.sessions.erase addr).lookup d = some e → n.sessions.lookup d = some e := by
    intro d e hd
    rw [Map.lookup_erase'] at hd
    split_ifs at hd
    exact hd
  exact ⟨fun d e hd => h.keyed d e (hold d e hd), fun d e hS hd => h.unqueued d e hS (hold d e hd)⟩

omit [SessionMmp μ] in
/-- Packets taken out of the queue. -/
theorem TableOn.flushed (h : TableOn (fun d => S d ∧ d ≠ addr) n) :
    TableOn S { n with pendingTunPackets := n.pendingTunPackets.erase addr } := by
  refine ⟨h.keyed, fun d e hS hd hestablished => ?_⟩
  change (n.pendingTunPackets.erase addr).lookup d = none
  rw [Map.lookup_erase']
  split_ifs with haddr
  · rfl
  · exact h.unqueued d e ⟨hS, haddr⟩ hd hestablished

end Table

/-! ## Frames of one event -/

/-- The K flag of a frame to `dest` is the K-bit of the established session there. -/
def FrameOk (n : Node SecretKey PublicKey ν (Counted μ)) (effect : Effect PublicKey) : Prop :=
  ∀ nextHop message ceFlag dest kBit, effect = .sentLinkMessage nextHop message ceFlag →
    sealedFrame message = some (dest, kBit) →
    ∃ e, n.sessions.lookup dest = some e ∧ e.isEstablished = true ∧ kBit = e.currentKBit

/-- No encrypted frame has been sent. -/
def Quiet (n : Node SecretKey PublicKey ν (Counted μ)) : Prop :=
  ∀ effect ∈ n.effects, ∀ nextHop message ceFlag,
    effect = .sentLinkMessage nextHop message ceFlag → sealedFrame message = none

/-- The sessions to `S` are sound, and so is every frame that was sent. -/
def SoundOn (S : NodeAddr → Prop) (n : Node SecretKey PublicKey ν (Counted μ)) : Prop :=
  TableOn S n ∧ ∀ effect ∈ n.effects, FrameOk n effect

/-- The sessions to `S` are sound, and nothing was sent. -/
def QuietOn (S : NodeAddr → Prop) (n : Node SecretKey PublicKey ν (Counted μ)) : Prop :=
  TableOn S n ∧ Quiet n

/-- The table is in order, and what was sent carries the right flag. -/
abbrev Sound (n : Node SecretKey PublicKey ν (Counted μ)) : Prop := SoundOn (fun _ => True) n

section Frames

omit [SessionMmp μ] in
theorem QuietOn.sound (h : QuietOn S n) : SoundOn S n := by
  refine ⟨h.1, fun effect heffect nextHop message ceFlag dest kBit heq hsealed => ?_⟩
  rw [h.2 effect heffect nextHop message ceFlag heq] at hsealed
  cases hsealed

omit [SessionMmp μ] in
theorem Quiet.emit (h : Quiet n) {effect : Effect PublicKey}
    (he : ∀ nextHop message ceFlag, effect = .sentLinkMessage nextHop message ceFlag →
      sealedFrame message = none) : Quiet { n with effects := n.effects ++ [effect] } := by
  intro effect' hmem
  rcases List.mem_append.mp hmem with hold | hnew
  · exact h effect' hold
  · rw [List.mem_singleton.mp hnew]
    exact he

omit [SessionMmp μ] in
theorem QuietOn.emit (h : QuietOn S n) {effect : Effect PublicKey} (he : Effect.IsLocal effect) :
    QuietOn S { n with effects := n.effects ++ [effect] } :=
  ⟨h.1.congr rfl rfl, h.2.emit fun _ _ _ heq => absurd heq (he _ _ _)⟩

omit [SessionMmp μ] in
/-- Frames stay right where every established session keeps its K-bit. -/
theorem FrameOk.mono {effect : Effect PublicKey} (h : FrameOk n effect)
    (hkeep : ∀ d e, n.sessions.lookup d = some e → e.isEstablished = true →
      ∃ e', n'.sessions.lookup d = some e' ∧ e'.isEstablished = true ∧
        e'.currentKBit = e.currentKBit) : FrameOk n' effect := by
  intro nextHop message ceFlag dest kBit heq hsealed
  obtain ⟨e, he, hestablished, hkBit⟩ := h nextHop message ceFlag dest kBit heq hsealed
  obtain ⟨e', he', hestablished', hsame⟩ := hkeep dest e he hestablished
  exact ⟨e', he', hestablished', hkBit.trans hsame.symm⟩

/-- **What the senders keep.** The flags must be those of the K-bit. -/
theorem sessionRules_soundOn [ChaCha20Poly1305] :
    SessionRules (fun flags kBit => hasFlag flags FSP_FLAG_K = kBit)
      (SoundOn S : Node SecretKey PublicKey ν (Counted μ) → Prop) where
  note n addr f hf h := by
    refine ⟨h.1.modify fun e he => ⟨(h.1.keyed addr e he).note (hf e), fun hestablished => ?_⟩,
      fun effect heffect => (h.2 effect heffect).mono fun d e he hestablished => ?_⟩
    · rwa [(hf e).isEstablished] at hestablished
    · by_cases hd : d = addr
      · subst hd
        exact ⟨f e, Map.lookup_modify_self he f, (hf e).isEstablished.trans hestablished,
          (hf e).currentKBit⟩
      · exact ⟨e, (Map.lookup_modify_ne _ hd f).trans he, hestablished, rfl⟩
  advance n addr e session inner header he hstate h := by
    have hestablished : e.isEstablished = true := SessionEntry.isEstablished_iff.mpr ⟨session, hstate⟩
    refine ⟨TableOn.put (h.1.but fun _ hd => hd.1) ((h.1.keyed addr e he).setEstablished hestablished _)
      fun hS _ => h.1.unqueued addr e hS he hestablished,
      fun effect heffect => (h.2 effect heffect).mono fun d e' he' hestablished' => ?_⟩
    have hlookup := Map.lookup_insert' n.sessions addr d
      (e.setState (.established (session.encryptWithAad inner header).1))
    by_cases hd : d = addr
    · subst hd
      cases he.symm.trans he'
      exact ⟨_, hlookup.trans (if_pos rfl), rfl, rfl⟩
    · exact ⟨e', (hlookup.trans (if_neg hd)).trans he', hestablished', rfl⟩
  frame n nextHop d e counter flags len tail he hestablished hpayload hflags h := by
    refine ⟨h.1.congr rfl rfl, fun effect hmem => ?_⟩
    rcases List.mem_append.mp hmem with hold | hnew
    · exact h.2 effect hold
    · rw [List.mem_singleton.mp hnew]
      intro nextHop' message ceFlag dest kBit heq hsealed
      cases heq
      rw [sealedFrame_encode, hpayload] at hsealed
      split_ifs at hsealed
      cases hsealed
      exact ⟨e, he, hestablished, hflags⟩
  effect n e he _ h := by
    refine ⟨h.1.congr rfl rfl, fun effect hmem => ?_⟩
    rcases List.mem_append.mp hmem with hold | hnew
    · exact h.2 effect hold
    · rw [List.mem_singleton.mp hnew]
      exact fun nextHop message ceFlag _ _ heq => absurd heq (he nextHop message ceFlag)
  pings n pings h := ⟨h.1.congr rfl rfl, h.2⟩

end Frames

end Node

end Fips
