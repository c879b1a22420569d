import Fips.Node.KeyEpochs

/-!
# Runs of the senders

Which K flag the encrypted frames of a node carry over a run, whatever happens to its sessions
(`KBitEvent`).

Until a handler delivers a message or flushes a queue it sends handshake messages only (`QuietOn`); a
session becomes established under a clear K-bit, so what its handshake has kept waiting goes out
right. An established session has nothing waiting, so a frame that flips the K-bit sends nothing.

`send_session_data` and `send_session_msg` set the flag from `current_k_bit`;
`send_coords_warmup` leaves it out. `QuietWarmups` is the condition that no standalone warmup goes out
on a session whose K-bit is set.

## Results

* `keeps_quiet_*`, `wp_quiet_*`: the handshake handlers and the ticks.
* `wp_sound_handleSessionPayload`: a session payload.
* `Sound.step`: one event.
* `kBit_of_quietWarmups`: in every run in which no warmup goes out under a set K-bit, every encrypted
  frame carries the K-bit of its session, the parity of the epoch.
* `kBit_lost_warmup`: a warmup after one cutover.
-/

open Checked EventRun

namespace Fips

/-- A setup is no encrypted frame. -/
theorem SessionSetup.isSealed_encode (s : SessionSetup) : isSealed s.encode = false :=
  isSealed_withPrefix (by decide)

/-- An ack is no encrypted frame. -/
theorem SessionAck.isSealed_encode (a : SessionAck) : isSealed a.encode = false :=
  isSealed_withPrefix (by decide)

/-- A third message is no encrypted frame. -/
theorem SessionMsg3.isSealed_encode (m : SessionMsg3) : isSealed m.encode = false :=
  isSealed_withPrefix (by decide)

/-- A data frame's K flag is the session's K-bit. -/
theorem hasFlag_data (withCoords kBit : Bool) :
    hasFlag ((if withCoords then FSP_FLAG_CP else 0) ||| (if kBit then FSP_FLAG_K else 0))
      FSP_FLAG_K = kBit := by
  cases withCoords <;> cases kBit <;> decide

/-- A standalone warmup never has the K flag. -/
theorem hasFlag_warmup : hasFlag FSP_FLAG_CP FSP_FLAG_K = false := by decide

namespace Node

variable {SecretKey PublicKey ν μ ε : Type} [SessionMmp μ] {S : NodeAddr → Prop}
  {n : Node SecretKey PublicKey ν (Counted μ)} {queues : Map NodeAddr (List Bytes)}

/-- Nothing sent, and the same packets wait. -/
def QuietWith (S : NodeAddr → Prop) (queues : Map NodeAddr (List Bytes))
    (n : Node SecretKey PublicKey ν (Counted μ)) : Prop :=
  QuietOn S n ∧ n.pendingTunPackets = queues

/-- The whole table, and nothing sent. -/
abbrev AllQuiet (n : Node SecretKey PublicKey ν (Counted μ)) : Prop := QuietOn (fun _ => True) n

section Handshakes

variable (env : Env SecretKey)

/-- A payload that is not sealed is no frame to be checked. -/
theorem keeps_quiet_sendSessionPayload (dest : NodeAddr) {payload : Bytes}
    (hpayload : isSealed payload = false) :
    Keeps (QuietWith S queues)
      (sendSessionPayload env dest payload : M SecretKey PublicKey ν (Counted μ) SendError Unit) := by
  refine keeps_sendSessionPayload_of_note env dest payload (fun n f hf h => ?_)
    fun n nextHop d _ hd h => ?_
  · refine ⟨⟨h.1.1.modify fun e he => ⟨(h.1.1.keyed dest e he).note (hf e), fun hestablished => ?_⟩,
      h.1.2⟩, h.2⟩
    rwa [(hf e).isEstablished] at hestablished
  · refine ⟨⟨h.1.1.congr rfl rfl, h.1.2.emit fun _ _ _ heq => ?_⟩, h.2⟩
    cases heq
    rw [sealedFrame_encode, hd, hpayload]
    rfl

theorem keeps_allQuiet_sendSessionPayload (dest : NodeAddr) {payload : Bytes}
    (hpayload : isSealed payload = false) :
    Keeps (AllQuiet : Node SecretKey PublicKey ν (Counted μ) → Prop)
      (sendSessionPayload env dest payload : M SecretKey PublicKey ν (Counted μ) SendError Unit) := by
  intro n h
  have hkeeps : Keeps (QuietWith (fun _ => True) n.pendingTunPackets) (sendSessionPayload env dest
      payload : M SecretKey PublicKey ν (Counted μ) SendError Unit) :=
    keeps_quiet_sendSessionPayload env dest hpayload
  exact (hkeeps n ⟨h, rfl⟩).1

omit [SessionMmp μ] in
/-- Mutation that touches neither phase nor key. -/
theorem QuietOn.modify_same (h : QuietOn S n) (addr : NodeAddr)
    {f : SessionEntry SecretKey PublicKey (Counted μ) → SessionEntry SecretKey PublicKey (Counted μ)}
    (hstate : ∀ e, (f e).state = e.state) (hkBit : ∀ e, (f e).currentKBit = e.currentKBit)
    (hmmp : ∀ e, (f e).mmp = e.mmp) (hpayload : ∀ e, (f e).handshakePayload = e.handshakePayload) :
    QuietOn S { n with sessions := n.sessions.modify addr f } :=
  ⟨h.1.modify_same hstate hkBit hmmp hpayload, h.2⟩

omit [SessionMmp μ] in
/-- A session in handshake put into the table. -/
theorem QuietOn.put_new (h : AllQuiet n) (addr : NodeAddr)
    {e : SessionEntry SecretKey PublicKey (Counted μ)} (he : Keyed e)
    (hphase : e.isEstablished = false) :
    AllQuiet { n with sessions := n.sessions.insert addr e } :=
  ⟨TableOn.put (h.1.but fun _ _ => trivial) he fun _ hestablished =>
    absurd (hphase.symm.trans hestablished) Bool.false_ne_true, h.2⟩

variable [Sha256] [HkdfSha256] [ChaCha20Poly1305] [Secp256k1 SecretKey PublicKey]

theorem keeps_quiet_acceptSetup (src : NodeAddr) (setup : SessionSetup) :
    Keeps AllQuiet (acceptSetup env src setup : Handler SecretKey PublicKey ν (Counted μ) Unit) := by
  refine (keeps_read _).bind fun _ => (keeps_orReturn _).bind fun _ => ?_
  refine (keeps_allQuiet_sendSessionPayload env _ (SessionAck.isSealed_encode _)).attempt.bind
    fun sent => ?_
  cases sent with
  | error e => exact keeps_stop _
  | ok u =>
    refine (keeps_read _).bind fun _ => ?_
    exact fun n hn => QuietOn.put_new hn src (keyed_new rfl (SessionAck.isSealed_encode _)) rfl

/-- A rekey that is answered leaves the current key and its K-bit. -/
theorem keeps_quiet_acceptRekey (src : NodeAddr) (setup : SessionSetup)
    (existing : SessionEntry SecretKey PublicKey (Counted μ)) :
    Keeps AllQuiet (acceptRekey env src setup existing :
      Handler SecretKey PublicKey ν (Counted μ) Unit) := by
  refine keeps_acceptRekey env (fun _ =>
    keeps_allQuiet_sendSessionPayload env _ (SessionAck.isSealed_encode _)) ?_ ?_ existing
  · exact fun n hn => hn.modify_same src (fun _ => rfl) (fun _ => rfl) (fun _ => rfl) fun _ => rfl
  · exact fun _ n hn => hn.modify_same src (fun _ => rfl) (fun _ => rfl) (fun _ => rfl) fun _ => rfl

theorem keeps_quiet_onSessionSetup (src : NodeAddr) (setup : SessionSetup) :
    Keeps AllQuiet (onSessionSetup env src setup :
      Handler SecretKey PublicKey ν (Counted μ) Unit) := by
  rw [keeps_iff]
  intro n hn
  unfold onSessionSetup
  by_cases hlen : (setup.handshakePayload.length != XK_HANDSHAKE_MSG1_SIZE) = true
  · rw [if_pos hlen]
    exact hn
  rw [if_neg hlen, wp_bind_iff, wp_read_iff]
  cases hexisting : n.sessions.lookup src with
  | none => exact (keeps_quiet_acceptSetup env src setup).wp hn
  | some existing =>
    refine Keeps.wp ?_ hn
    refine (keeps_read _).bind fun my => (keeps_read _).bind fun config => ?_
    refine Keeps.ite (Keeps.ite (keeps_stop _) (keeps_quiet_acceptSetup env src setup)) ?_
    refine Keeps.ite ?_ (Keeps.ite (keeps_quiet_acceptRekey env src setup existing)
      (keeps_quiet_acceptSetup env src setup))
    cases hstored : existing.handshakePayload with
    | none => exact keeps_pure _
    | some payload =>
      refine (keeps_allQuiet_sendSessionPayload env src ?_).attempt.bind fun _ => keeps_pure _
      exact (hn.1.keyed src existing hexisting).stored payload hstored

theorem keeps_quiet_finishAsInitiator (src : NodeAddr) (msg2 : Bytes)
    (handshake : HandshakeState SecretKey PublicKey) :
    Keeps (QuietWith S queues) (finishAsInitiator env src msg2 handshake :
      Handler SecretKey PublicKey ν (Counted μ) (NoiseSession PublicKey)) := by
  refine (keeps_orReturn _).bind fun _ => (keeps_orReturn _).bind fun _ => ?_
  refine (keeps_quiet_sendSessionPayload env src (SessionMsg3.isSealed_encode _)).attempt.bind
    fun sent => ?_
  cases sent with
  | error e => exact keeps_stop _
  | ok u => exact keeps_orReturn _

/-! ## Flushing after a handshake -/

/-- The session to `src`, if any, has its first key. -/
def KClear (src : NodeAddr) (n : Node SecretKey PublicKey ν (Counted μ)) : Prop :=
  ∀ e, n.sessions.lookup src = some e → e.currentKBit = false

omit [Sha256] [HkdfSha256] [Secp256k1 SecretKey PublicKey] in
/-- With the first key every frame's K flag is right, a warmup's too. -/
theorem sendRules_soundClear (src : NodeAddr) :
    SendRules (fun flags kBit => hasFlag flags FSP_FLAG_K = kBit)
      (fun n : Node SecretKey PublicKey ν (Counted μ) => Sound n ∧ KClear src n) where
  note n addr f hf h := by
    refine ⟨sessionRules_soundOn.note n addr f hf h.1, fun e he => ?_⟩
    rw [Map.lookup_modify] at he
    split_ifs at he
    · obtain ⟨e', he', rfl⟩ := Option.map_eq_some_iff.mp he
      exact (hf e').currentKBit.trans (h.2 e' he')
    · exact h.2 e he
  advance n addr e session inner header he hstate h := by
    refine ⟨sessionRules_soundOn.advance n addr e session inner header he hstate h.1, fun e' he' => ?_⟩
    rw [Map.lookup_insert'] at he'
    split_ifs at he' with haddr
    · cases he'
      exact h.2 e (haddr ▸ he)
    · exact h.2 e' he'
  frame n nextHop d e counter flags len tail he hestablished hpayload hflags h :=
    ⟨sessionRules_soundOn.frame n nextHop d e counter flags len tail he hestablished hpayload hflags
      h.1, h.2⟩

omit [Sha256] [HkdfSha256] [Secp256k1 SecretKey PublicKey] in
/-- What waits for a session with its first key goes out right, warmups and all. -/
theorem wp_sound_flushPendingPackets {src : NodeAddr} (hquiet : QuietOn (· ≠ src) n)
    (hclear : KClear src n) :
    wp (flushPendingPackets env src : Handler SecretKey PublicKey ν (Counted μ) Unit)
      (fun _ => Sound) (fun _ => Sound) n := by
  have hrules : SendRules (fun flags kBit => hasFlag flags FSP_FLAG_K = kBit)
      (fun n : Node SecretKey PublicKey ν (Counted μ) => Sound n ∧ KClear src n) :=
    sendRules_soundClear src
  have hdata : ∀ srcPort dstPort payload, Keeps
      (fun n : Node SecretKey PublicKey ν (Counted μ) => Sound n ∧ KClear src n)
      (sendSessionData env src srcPort dstPort payload :
        M SecretKey PublicKey ν (Counted μ) SendError Unit) := fun _ _ _ =>
    keeps_iff.mpr fun n hn => hrules.wp_sendSessionData env hasFlag_data hn fun _ _ _ _ _ =>
      hrules.wp_sendCoordsWarmup env hn fun e he => hasFlag_warmup.trans (hn.2 e he).symm
  unfold flushPendingPackets
  refine wp_body_of_wp ?_
  rw [wp_bind_iff, wp_read_iff, wp_bind_iff, wp_orElse_iff]
  refine ⟨fun packets _ => ?_, fun hnone => ?_⟩
  · rw [wp_bind_iff, wp_write_iff]
    have htable : AllQuiet { n with pendingTunPackets := n.pendingTunPackets.erase src } :=
      ⟨TableOn.flushed (hquiet.1.but fun _ hd => hd.2), hquiet.2⟩
    refine wp_mono (fun _ _ hn' => hn'.1) (fun _ _ hn' => hn'.1)
      ((keeps_flushPackets env (keeps_sendIpv6Packet env hdata) packets).wp ⟨htable.sound, hclear⟩)
  · refine QuietOn.sound ⟨⟨hquiet.1.keyed, fun d e _ he hestablished => ?_⟩, hquiet.2⟩
    by_cases hd : d = src
    · exact hd ▸ hnone
    · exact hquiet.1.unqueued d e hd he hestablished

/-! ## The answers to a setup -/

/-- An ack establishes the first key, under which the waiting packets go out right. -/
theorem wp_sound_onSessionAck (src : NodeAddr) (ack : SessionAck) (hn : AllQuiet n) :
    wp (onSessionAck env src ack : Handler SecretKey PublicKey ν (Counted μ) Unit)
      (fun _ => Sound) (fun _ => Sound) n := by
  unfold onSessionAck
  by_cases hlen : (ack.handshakePayload.length != XK_HANDSHAKE_MSG2_SIZE) = true
  · rw [if_pos hlen]
    exact hn.sound
  rw [if_neg hlen, wp_bind_iff, wp_takeSession_iff]
  refine ⟨fun e he => ?_, fun _ => hn.sound⟩
  have htaken : QuietWith (fun _ => True) n.pendingTunPackets
      { n with sessions := n.sessions.erase src } := ⟨⟨hn.1.take src, hn.2⟩, rfl⟩
  have hkeyed := hn.1.keyed src e he
  have hunqueued := hn.1.unqueued src e trivial he
  -- an entry put back in a phase it has been in
  have hback : ∀ (n' : Node SecretKey PublicKey ν (Counted μ))
      (e' : SessionEntry SecretKey PublicKey (Counted μ)),
      QuietWith (fun _ => True) n.pendingTunPackets n' → Keyed e' →
      e'.isEstablished = e.isEstablished →
      Sound { n' with sessions := n'.sessions.insert src e' } := by
    intro n' e' hn' hkeyed' hphase
    refine QuietOn.sound ⟨TableOn.put (hn'.1.1.but fun _ _ => trivial) hkeyed' ?_, hn'.1.2⟩
    intro _ hestablished
    rw [hn'.2]
    exact hunqueued (hphase ▸ hestablished)
  by_cases hrekey : (e.isEstablished && e.hasRekeyInProgress && e.rekeyInitiator) = true
  · rw [if_pos hrekey]
    split
    · exact hback _ _ htaken hkeyed rfl
    · rw [wp_bind_iff, wp_attempt_iff]
      refine wp_mono (fun _ n' hn' => ?_) (fun failed n' hn' => ?_)
        ((keeps_quiet_finishAsInitiator env src _ _).wp htaken)
      · exact hback n' _ hn' (hkeyed.congr rfl rfl rfl rfl) rfl
      · cases failed with
        | error e => exact hback n' _ hn' (hkeyed.congr rfl rfl rfl rfl) rfl
        | panic => exact hn'.1.sound
  rw [if_neg hrekey]
  by_cases hinitiating : e.isInitiating = true
  · rw [if_neg (by simp [hinitiating])]
    obtain ⟨handshake, hstate⟩ := SessionEntry.isInitiating_iff.mp hinitiating
    rw [hstate]
    dsimp only
    have hfirst : e.currentKBit = false := hkeyed.first (by
      unfold SessionEntry.isEstablished
      rw [hstate]
      rfl)
    rw [wp_bind_iff]
    refine wp_mono (fun session n' hn' => ?_) (fun _ n' hn' => hn'.1.sound)
      ((keeps_quiet_finishAsInitiator env src _ _).wp htaken)
    rw [wp_bind_iff, wp_read_iff, wp_bind_iff, wp_putSession_iff, wp_bind_iff, wp_cacheCoords_iff]
    refine wp_sound_flushPendingPackets env ⟨?_, ?_⟩ fun e' he' => ?_
    · refine (TableOn.put (hn'.1.1.but fun _ _ => trivial) ?_ fun hsrc => absurd rfl hsrc).congr
        rfl rfl
      refine ⟨fun _ => ⟨Mmp.new _, rfl, hfirst⟩, fun hnot => Bool.noConfusion hnot, ?_⟩
      exact fun _ hsome => by cases hsome
    · exact hn'.1.2.emit fun _ _ _ heq => by cases heq
    · rw [show AList.lookup src _ = _ from AList.lookup_insert _] at he'
      cases he'
      exact hfirst
  · rw [if_pos (by simpa using hinitiating)]
    exact hback _ _ htaken hkeyed rfl

/-- A third message establishes the first key, under which the waiting packets go out right. -/
theorem wp_sound_onSessionMsg3 (src : NodeAddr) (msg3 : SessionMsg3) (hn : AllQuiet n) :
    wp (onSessionMsg3 env src msg3 : Handler SecretKey PublicKey ν (Counted μ) Unit)
      (fun _ => Sound) (fun _ => Sound) n := by
  unfold onSessionMsg3
  by_cases hlen : (msg3.handshakePayload.length != XK_HANDSHAKE_MSG3_SIZE) = true
  · rw [if_pos hlen]
    exact hn.sound
  rw [if_neg hlen, wp_bind_iff, wp_takeSession_iff]
  refine ⟨fun e he => ?_, fun _ => hn.sound⟩
  have htaken : AllQuiet { n with sessions := n.sessions.erase src } := ⟨hn.1.take src, hn.2⟩
  have hkeyed := hn.1.keyed src e he
  have hunqueued := hn.1.unqueued src e trivial he
  have hback : ∀ e' : SessionEntry SecretKey PublicKey (Counted μ), Keyed e' →
      e'.isEstablished = e.isEstablished →
      Sound { n with sessions := (n.sessions.erase src).insert src e' } := by
    intro e' hkeyed' hphase
    refine QuietOn.sound ⟨TableOn.put (htaken.1.but fun _ _ => trivial) hkeyed' ?_, hn.2⟩
    exact fun _ hestablished => hunqueued (hphase ▸ hestablished)
  by_cases hrekey : (e.isEstablished && e.hasRekeyInProgress && !e.rekeyInitiator) = true
  · rw [if_pos hrekey]
    split
    · exact hback e hkeyed rfl
    · rw [wp_bind_iff, wp_attempt_iff, wp_pureCall_iff]
      refine ⟨fun session _ => ?_, fun failed _ => ?_⟩
      · exact hback _ (hkeyed.congr rfl rfl rfl rfl) rfl
      · cases failed with
        | error e => exact hback _ (hkeyed.congr rfl rfl rfl rfl) rfl
        | panic => exact htaken.sound
  rw [if_neg hrekey]
  by_cases hawaiting : e.isAwaitingMsg3 = true
  · rw [if_neg (by simp [hawaiting])]
    obtain ⟨handshake, hstate⟩ := SessionEntry.isAwaitingMsg3_iff.mp hawaiting
    rw [hstate]
    dsimp only
    rw [wp_bind_iff, wp_orReturn_iff]
    refine ⟨fun read _ => ?_, fun _ => htaken.sound, fun _ => htaken.sound⟩
    obtain ⟨_, handshake'⟩ := read
    dsimp only
    rw [wp_bind_iff, wp_orElse_iff]
    refine ⟨fun remotePubkey _ => ?_, fun _ => htaken.sound⟩
    have hregistered : AllQuiet { n with
        sessions := n.sessions.erase src
        effects := n.effects ++ [.registerIdentity src remotePubkey] } :=
      QuietOn.emit htaken fun _ _ _ heq => by cases heq
    rw [wp_bind_iff, wp_registerIdentity_iff, wp_bind_iff, wp_orReturn_iff]
    refine ⟨fun session _ => ?_, fun _ => hregistered.sound, fun _ => hregistered.sound⟩
    rw [wp_bind_iff, wp_read_iff, wp_bind_iff, wp_putSession_iff]
    refine wp_sound_flushPendingPackets env ⟨?_, hregistered.2⟩ fun e' he' => ?_
    · refine TableOn.put (hregistered.1.but fun _ _ => trivial) ?_ fun hsrc => absurd rfl hsrc
      refine ⟨fun _ => ⟨Mmp.new _, rfl, rfl⟩, fun hnot => Bool.noConfusion hnot, ?_⟩
      exact fun _ hsome => by cases hsome
    · rw [show AList.lookup src _ = _ from AList.lookup_insert _] at he'
      cases he'
      rfl
  · rw [if_pos (by simpa using hawaiting)]
    exact hback e hkeyed rfl

/-! ## Encrypted messages -/

omit [Sha256] [HkdfSha256] [Secp256k1 SecretKey PublicKey] in
/-- **A frame that flips the K-bit** sends nothing. What opens belongs to an established session, so
nothing waits for it. -/
theorem wp_quiet_openSessionFrame (src : NodeAddr) (kBit : Bool) (frame : NoiseSession.Frame)
    (hn : AllQuiet n) :
    wp (openSessionFrame env src kBit frame : Handler SecretKey PublicKey ν (Counted μ) Bytes)
      (fun _ n' => AllQuiet n' ∧ n'.pendingTunPackets.lookup src = none) (fun _ => AllQuiet) n := by
  unfold openSessionFrame
  rw [wp_bind_iff, wp_read_iff, wp_bind_iff, wp_orElse_iff]
  refine ⟨fun e he => ?_, fun _ => hn⟩
  by_cases hestablished : e.isEstablished = true
  swap
  · rw [if_pos (by simpa using hestablished)]
    exact hn
  rw [if_neg (by simpa using hestablished), wp_bind_iff, wp_expect_iff]
  refine ⟨fun e' he' => ?_, fun _ => hn⟩
  cases he.symm.trans he'
  extract_lets decrypt
  have hunqueued := hn.1.unqueued src e trivial he hestablished
  -- decryption under an entry that is established
  have hdecrypt : ∀ n' : Node SecretKey PublicKey ν (Counted μ),
      QuietWith (fun _ => True) n.pendingTunPackets n' → wp (decrypt ())
        (fun _ n' => AllQuiet n' ∧ n'.pendingTunPackets.lookup src = none) (fun _ => AllQuiet) n' := by
    intro n' hn'
    simp only [decrypt]
    rw [wp_bind_iff, wp_takeSession_iff]
    refine ⟨fun e' he' => ?_, fun _ => hn'.1⟩
    have htaken : AllQuiet { n' with sessions := n'.sessions.erase src } :=
      ⟨hn'.1.1.take src, hn'.1.2⟩
    have hempty : n'.pendingTunPackets.lookup src = none := by
      rw [hn'.2]
      exact hunqueued
    have hkeyed := hn'.1.1.keyed src e' he'
    have hback : ∀ e'' : SessionEntry SecretKey PublicKey (Counted μ), Keyed e'' →
        AllQuiet { n' with sessions := (n'.sessions.erase src).insert src e'' } := fun _ hkeyed' =>
      ⟨TableOn.put (htaken.1.but fun _ _ => trivial) hkeyed' fun _ _ => hempty, hn'.1.2⟩
    split
    · exact htaken
    · rename_i session hstate
      have hstill : e'.isEstablished = true := SessionEntry.isEstablished_iff.mpr ⟨session, hstate⟩
      rw [wp_bind_iff, wp_putSession_iff]
      have hopened : ∀ session' previous, Keyed { e' with
          state := some (.established session'), previousNoiseSession := previous } :=
        fun session' _ => (hkeyed.setEstablished hstill session').congr rfl rfl rfl rfl
      have hput := hback _ (hopened (session.decryptWithFallback e'.previousNoiseSession frame).1
        (session.decryptWithFallback e'.previousNoiseSession frame).2.1)
      rw [wp_orReturn_iff]
      exact ⟨fun _ _ => ⟨hput, hempty⟩, fun _ => hput, fun _ => hput⟩
    · rw [wp_bind_iff, wp_putSession_iff]
      exact hback e' hkeyed
  split_ifs
  · rw [wp_bind_iff, wp_expect_iff]
    refine ⟨fun e' he' => ?_, fun hnone => absurd (hnone.symm.trans he) (by simp)⟩
    rw [wp_bind_iff, wp_modifySession_iff]
    refine hdecrypt _ ⟨⟨hn.1.modify fun e' he' => ?_, hn.2⟩, rfl⟩
    cases he.symm.trans he'
    exact ⟨((hn.1.keyed src e he).kbitFlip hestablished _ _).1, fun _ => hestablished⟩
  · exact hdecrypt n ⟨hn, rfl⟩

omit [Sha256] [HkdfSha256] [Secp256k1 SecretKey PublicKey] in
/-- A frame that opens leaves no packet waiting for its session, and what its message leads to goes
out right. -/
theorem wp_sound_handleEncryptedSessionMsg (src : NodeAddr) (payload : Bytes) (pathMtu : Nat)
    (ceFlag : Bool) (hn : AllQuiet n) :
    wp (handleEncryptedSessionMsg env src payload pathMtu ceFlag :
      Handler SecretKey PublicKey ν (Counted μ) Unit) (fun _ => Sound) (fun _ => Sound) n := by
  have hcache : ∀ addr coords, Keeps AllQuiet
      (cacheCoords addr coords : Handler SecretKey PublicKey ν (Counted μ) Unit) := by
    intro addr coords
    cases coords with
    | none => exact keeps_pure ()
    | some coords => exact fun n hn => QuietOn.emit hn fun _ _ _ heq => by cases heq
  have hrules : SessionRules (fun flags kBit => hasFlag flags FSP_FLAG_K = kBit)
      (fun n : Node SecretKey PublicKey ν (Counted μ) =>
        Sound n ∧ n.pendingTunPackets.lookup src = none) :=
    sessionRules_soundOn.and_queues (·.lookup src = none)
  refine wp_body_of_wp ?_
  rw [wp_bind_iff, wp_orReturn_iff]
  refine ⟨fun header _ => ?_, fun _ => hn.sound, fun _ => hn.sound⟩
  rw [wp_bind_iff, wp_orReturn_iff]
  refine ⟨fun parts _ => ?_, fun _ => hn.sound, fun _ => hn.sound⟩
  obtain ⟨srcCoords, destCoords, ciphertext⟩ := parts
  dsimp only
  rw [wp_bind_iff, wp_read_iff, wp_bind_iff]
  refine wp_mono (fun _ n' hn' => ?_) (fun _ _ hn' => QuietOn.sound hn') ((hcache _ _).wp hn)
  rw [wp_bind_iff]
  refine wp_mono (fun _ n' hn' => ?_) (fun _ _ hn' => QuietOn.sound hn') ((hcache _ _).wp hn')
  rw [wp_bind_iff]
  refine wp_mono (fun plaintext n' hn' => ?_) (fun _ _ hn' => QuietOn.sound hn')
    (wp_quiet_openSessionFrame env src _ _ hn')
  rw [wp_bind_iff, wp_orReturn_iff]
  refine ⟨fun message _ => ?_, fun _ => hn'.1.sound, fun _ => hn'.1.sound⟩
  refine wp_mono (fun _ _ h => h.1) (fun _ _ h => h.1)
    ((hrules.receives.keeps_processSessionMessage env ?_ _ _ _ _ _).wp ⟨hn'.1.sound, hn'.2⟩)
  -- nothing waits, so nothing is flushed
  rw [keeps_iff]
  intro n hn
  refine wp_body_of_wp ?_
  rw [wp_bind_iff, wp_read_iff, hn.2, wp_bind_iff, wp_orElse_none]
  exact hn

/-! ## Warmups -/

omit [Sha256] [HkdfSha256] [Secp256k1 SecretKey PublicKey] in
/-- A standalone warmup that does not go out under a set K-bit. -/
theorem wp_sound_sendCoordsWarmup {dest : NodeAddr} (hn : Sound n)
    (hquiet : ∀ e, n.sessions.lookup dest = some e → e.currentKBit = true →
      ¬ WarmupGoesOut env n dest) :
    wp (sendCoordsWarmup env dest) (fun _ => Sound) (fun _ => Sound) n := by
  by_cases hset : ∃ e, n.sessions.lookup dest = some e ∧ e.currentKBit = true
  · obtain ⟨e, he, hkBit⟩ := hset
    exact sessionRules_soundOn.wp_sendCoordsWarmup_silent env hn (hquiet e he hkBit)
  · refine sessionRules_soundOn.wp_sendCoordsWarmup env hn fun e he => ?_
    rw [hasFlag_warmup]
    cases hkBit : e.currentKBit with
    | false => rfl
    | true => exact absurd ⟨e, he, hkBit⟩ hset

/-- No standalone warmup for `dest` goes out under a set K-bit. -/
def WarmupQuiet (env : Env SecretKey) (n : Node SecretKey PublicKey ν (Counted μ))
    (dest : NodeAddr) : Prop :=
  ∀ e, n.sessions.lookup dest = some e → e.currentKBit = true → ¬ WarmupGoesOut env n dest

/-- The payload is an error signal that asks for the coordinates of `dest`. -/
def AsksFor (payload : Bytes) (dest : NodeAddr) : Prop :=
  ∃ pre errorType errorBody, FspCommonPrefix.parse payload = .ok pre ∧
    pre.phase = FSP_PHASE_ESTABLISHED ∧ pre.isUnencrypted = true ∧
    payload.drop FSP_COMMON_PREFIX_SIZE = errorType :: errorBody ∧
    ((SessionMessageType.fromByte errorType = some .coordsRequired ∧
        ∃ msg, CoordsRequired.decode errorBody = .ok msg ∧ msg.destAddr = dest) ∨
      (SessionMessageType.fromByte errorType = some .pathBroken ∧
        ∃ msg, PathBroken.decode errorBody = .ok msg ∧ msg.destAddr = dest))

omit [Sha256] [HkdfSha256] [Secp256k1 SecretKey PublicKey] in
/-- A warmup that is asked for goes out right unless the K-bit is set. -/
theorem wp_sound_warmUp {dest : NodeAddr} (hn : Sound n)
    (hquiet : env.coordsResponseAllowed dest = true → WarmupQuiet env n dest) :
    wp (warmUp env dest : Handler SecretKey PublicKey ν (Counted μ) Unit) (fun _ => Sound)
      (fun _ => Sound) n := by
  unfold warmUp
  by_cases hallowed : env.coordsResponseAllowed dest = true
  · rw [if_pos hallowed, wp_bind_iff, wp_read_iff]
    split_ifs
    · rw [wp_bind_iff, wp_attempt_iff]
      refine wp_mono (fun _ _ hn' => hn') (fun failed _ hn' => ?_)
        (wp_sound_sendCoordsWarmup env hn (hquiet hallowed))
      cases failed with
      | error e => exact hn'
      | panic => exact hn'
    · exact hn
  · rw [if_neg hallowed]
    exact hn

/-- **A session payload.** -/
theorem wp_sound_handleSessionPayload (src : NodeAddr) {payload : Bytes} (pathMtu : Nat)
    (ceFlag : Bool) (hn : AllQuiet n)
    (hquiet : ∀ dest, AsksFor payload dest → env.coordsResponseAllowed dest = true →
      WarmupQuiet env n dest) :
    wp (handleSessionPayload env src payload pathMtu ceFlag :
      Handler SecretKey PublicKey ν (Counted μ) Unit) (fun _ => Sound) (fun _ => Sound) n := by
  have hsound : Sound n := hn.sound
  unfold handleSessionPayload
  refine wp_body_of_wp ?_
  rw [wp_bind_iff, wp_orReturn_iff]
  refine ⟨fun pre hpre => ?_, fun _ => hsound, fun _ => hsound⟩
  rw [wp_bind_iff, wp_orReturn_iff]
  refine ⟨fun inner hinner => ?_, fun _ => hsound, fun _ => hsound⟩
  by_cases hphase1 : (pre.phase == FSP_PHASE_MSG1) = true
  · rw [if_pos hphase1]
    exact wp_mono (fun _ _ hn' => QuietOn.sound hn') (fun _ _ hn' => QuietOn.sound hn')
      ((Keeps.body ((keeps_orReturn _).bind fun _ => keeps_quiet_onSessionSetup env _ _)).wp hn)
  rw [if_neg hphase1]
  by_cases hphase2 : (pre.phase == FSP_PHASE_MSG2) = true
  · rw [if_pos hphase2]
    refine wp_body_of_wp ?_
    rw [wp_bind_iff, wp_orReturn_iff]
    exact ⟨fun ack _ => wp_sound_onSessionAck env src ack hn, fun _ => hsound, fun _ => hsound⟩
  rw [if_neg hphase2]
  by_cases hphase3 : (pre.phase == FSP_PHASE_MSG3) = true
  · rw [if_pos hphase3]
    refine wp_body_of_wp ?_
    rw [wp_bind_iff, wp_orReturn_iff]
    exact ⟨fun msg3 _ => wp_sound_onSessionMsg3 env src msg3 hn, fun _ => hsound, fun _ => hsound⟩
  rw [if_neg hphase3]
  by_cases hphase : (pre.phase == FSP_PHASE_ESTABLISHED) = true
  swap
  · rw [if_neg hphase]
    exact hsound
  rw [if_pos hphase]
  by_cases hplain : pre.isUnencrypted = true
  swap
  · rw [if_neg hplain]
    exact wp_sound_handleEncryptedSessionMsg env src payload pathMtu ceFlag hn
  rw [if_pos hplain]
  cases inner with
  | nil => exact hsound
  | cons errorType errorBody =>
    have hasks := (sliceFrom_eq_ok.mp hinner).2
    have hphase' : pre.phase = FSP_PHASE_ESTABLISHED := by simpa using hphase
    rw [if_neg (by simp), wp_bind_iff, show index (errorType :: errorBody) 0 = .ok errorType from rfl,
      wp_orReturn_ok, wp_bind_iff, wp_orReturn_iff]
    refine ⟨fun body hbody => ?_, fun _ => hsound, fun _ => hsound⟩
    cases (sliceFrom_eq_ok.mp hbody).2
    split
    · rename_i htype
      exact sessionRules_soundOn.receives.wp_handleCoordsRequired env hsound fun msg hmsg =>
        wp_sound_warmUp env hsound (hquiet msg.destAddr ⟨pre, errorType, errorBody, hpre, hphase',
          hplain, hasks, .inl ⟨htype, msg, hmsg, rfl⟩⟩)
    · rename_i htype
      exact sessionRules_soundOn.receives.wp_handlePathBroken env hsound fun msg hmsg =>
        wp_sound_warmUp env hsound (hquiet msg.destAddr ⟨pre, errorType, errorBody, hpre, hphase',
          hplain, hasks, .inr ⟨htype, msg, hmsg, rfl⟩⟩)
    · exact (sessionRules_soundOn.receives.keeps_handleMtuExceeded env _).wp hsound
    · exact hsound

/-! ## Initiations, ticks and removal -/

omit [ChaCha20Poly1305] in
theorem keeps_quiet_initiateSession (dest : NodeAddr) (destPubkey : PublicKey) :
    Keeps AllQuiet (initiateSession env dest destPubkey :
      M SecretKey PublicKey ν (Counted μ) SendError Unit) := by
  refine (keeps_read _).bind fun _ => Keeps.ite (keeps_pure _) ((keeps_read _).bind fun _ => ?_)
  refine (keeps_pureCall _).attempt.bind fun started => ?_
  cases started with
  | error e => exact keeps_stop _
  | ok started =>
    have hsetup : ∀ setup : SessionSetup, isSealed setup.encode = false :=
      SessionSetup.isSealed_encode
    refine (keeps_allQuiet_sendSessionPayload env dest (hsetup _)).bind fun _ => ?_
    refine Keeps.bind (fun n hn => QuietOn.emit hn fun _ _ _ heq => by cases heq) fun _ => ?_
    exact fun n hn => QuietOn.put_new hn dest (keyed_new rfl (hsetup _)) rfl

omit [ChaCha20Poly1305] in
theorem keeps_quiet_initiateSessionRekeys (dests : List NodeAddr) :
    Keeps AllQuiet (initiateSessionRekeys env dests :
      Handler SecretKey PublicKey ν (Counted μ) Unit) := by
  induction dests with
  | nil => exact keeps_pure ()
  | cons dest dests ih =>
    refine Keeps.bind (Keeps.body ?_) fun _ => ih
    refine (keeps_orElse _ _).bind fun _ => (keeps_read _).bind fun _ => (keeps_orElse _ _).bind
      fun _ => (keeps_read _).bind fun _ => (keeps_orReturn _).bind fun _ => ?_
    refine (keeps_allQuiet_sendSessionPayload env dest (SessionSetup.isSealed_encode _)).attempt.bind
      fun sent => ?_
    cases sent with
    | error e => exact keeps_stop _
    | ok u =>
      exact fun n hn => hn.modify_same dest (fun _ => rfl) (fun _ => rfl) (fun _ => rfl) fun _ => rfl

omit [ChaCha20Poly1305] in
/-- **A rekey tick.** -/
theorem keeps_quiet_checkSessionRekey :
    Keeps AllQuiet (checkSessionRekey env : Handler SecretKey PublicKey ν (Counted μ) Unit) := by
  rw [keeps_iff]
  intro n hn
  refine wp_body_of_wp ?_
  rw [wp_bind_iff, wp_read_iff]
  split_ifs
  · exact hn
  · rw [wp_bind_iff, wp_write_iff, wp_bind_iff, wp_write_iff]
    refine (keeps_quiet_initiateSessionRekeys env _).wp ?_
    have hcutover : AllQuiet (Node.modifySessions
        (fun e => (e.cutoverToNewSession env.nowMs env.instant).1)
        (n.sessionsWhere (wantsCutover env.nowMs)) n) := by
      refine modifySessions_keeps (P := fun e => e.isEstablished = true) ?_
        (fun e he => e.isEstablished_cutoverToNewSession he env.nowMs env.instant)
        (fun addr haddr e he => isEstablished_of_wantsCutover haddr he) hn
      intro m addr hm hestablished
      refine ⟨hm.1.modify fun e he => ?_, hm.2⟩
      have hcut := (hm.1.keyed addr e he).cutover (hestablished e he) env.nowMs env.instant
      exact ⟨hcut.1, fun _ => hestablished e he⟩
    refine modifySessions_keeps (P := fun _ => True) (f := SessionEntry.completeDrain) ?_
      (fun _ _ => trivial) (fun _ _ _ _ => trivial) hcutover
    intro m addr hm _
    exact ⟨hm.1.modify_same (fun _ => rfl) (fun _ => rfl) (fun _ => rfl) fun _ => rfl, hm.2⟩

omit [Sha256] [HkdfSha256] [ChaCha20Poly1305] [Secp256k1 SecretKey PublicKey] [SessionMmp μ] in
theorem QuietOn.forgetSessions (addrs : List NodeAddr) (hn : AllQuiet n) :
    AllQuiet (addrs.foldl forgetSession n) := by
  induction addrs generalizing n with
  | nil => exact hn
  | cons addr addrs ih =>
    refine ih ⟨TableOn.flushed (n := { n with sessions := n.sessions.erase addr }) ?_, hn.2⟩
    exact (hn.1.take addr).but fun _ _ => trivial

omit [Sha256] [HkdfSha256] [ChaCha20Poly1305] [Secp256k1 SecretKey PublicKey] in
theorem keeps_quiet_resendPendingSessionHandshakes :
    Keeps AllQuiet (resendPendingSessionHandshakes env :
      M SecretKey PublicKey ν (Counted μ) ε Unit) := by
  have hresend : ∀ candidates : List (NodeAddr × Bytes),
      (∀ c ∈ candidates, isSealed c.2 = false) →
      Keeps AllQuiet (resendHandshakes env candidates : M SecretKey PublicKey ν (Counted μ) ε Unit) := by
    intro candidates
    induction candidates with
    | nil => exact fun _ => keeps_pure ()
    | cons c candidates ih =>
      intro hstored
      refine Keeps.bind ?_ fun _ => ih fun c' hc' => hstored c' (List.mem_cons_of_mem _ hc')
      refine (keeps_allQuiet_sendSessionPayload env c.1 (hstored c List.mem_cons_self)).attempt.bind
        fun sent => ?_
      cases sent with
      | error e => exact keeps_pure ()
      | ok u =>
        exact (keeps_read _).bind fun _ n hn =>
          hn.modify_same c.1 (fun _ => rfl) (fun _ => rfl) (fun _ => rfl) fun _ => rfl
  rw [keeps_iff]
  intro n hn
  unfold resendPendingSessionHandshakes
  rw [wp_bind_iff, wp_write_iff, wp_bind_iff, wp_read_iff]
  have hdropped : AllQuiet (dropTimedOutHandshakes env.nowMs n) := QuietOn.forgetSessions _ hn
  refine (hresend _ fun c hc => ?_).wp hdropped
  obtain ⟨⟨d, e⟩, hmem, hpayload⟩ := List.mem_filterMap.mp hc
  obtain ⟨payload, hstored, rfl⟩ := Option.map_eq_some_iff.mp hpayload
  have hlookup := Map.mem_entries_iff.mp (List.mem_filter.mp hmem).1
  exact (hdropped.1.keyed d e hlookup).stored payload hstored

omit [Sha256] [HkdfSha256] [ChaCha20Poly1305] [Secp256k1 SecretKey PublicKey] [SessionMmp μ] in
theorem AllQuiet.purgeIdleSessions (hn : AllQuiet n) (nowMs : Nat) :
    AllQuiet (n.purgeIdleSessions nowMs) := by
  unfold Node.purgeIdleSessions
  extract_lets timeoutMs
  split_ifs
  · exact hn
  · exact QuietOn.forgetSessions _ hn

omit [Sha256] [HkdfSha256] [ChaCha20Poly1305] [Secp256k1 SecretKey PublicKey] [SessionMmp μ] in
theorem AllQuiet.removeActivePeer (hn : AllQuiet n) (addr : NodeAddr) :
    AllQuiet (n.removeActivePeer addr) := by
  unfold Node.removeActivePeer
  cases n.peers.lookup addr with
  | none => exact hn
  | some peer =>
    have hforgotten : AllQuiet (n.forgetSession addr) := QuietOn.forgetSessions [addr] hn
    obtain ⟨hsessions, hqueues, heffects⟩ := releaseIndices_frames ({ n with
      peers := n.peers.erase addr
      sessions := n.sessions.erase addr
      pendingTunPackets := n.pendingTunPackets.erase addr }) peer
    refine ⟨hforgotten.1.congr hsessions hqueues, fun effect hmem nextHop message ceFlag heq => ?_⟩
    rcases List.mem_append.mp hmem with hold | hnew
    · rw [heffects] at hold
      exact hn.2 effect hold nextHop message ceFlag heq
    · subst heq
      simp at hnew

end Handshakes

/-! ## Runs -/

/-- What may happen to the sessions of the node. `queue` and `unqueue` stand for outbound packets
that wait for a session and for lookups that end, `resetWarmup` for a lookup that is answered,
`measure` for what the reports on the tick do to the measurements. -/
inductive KBitEvent (SecretKey PublicKey μ : Type)
  | sendData (env : Env SecretKey) (dest : NodeAddr) (srcPort dstPort : Nat) (payload : Bytes)
  | sendMsg (env : Env SecretKey) (dest : NodeAddr) (msgType : UInt8) (payload : Bytes)
  | sessionPayload (env : Env SecretKey) (src : NodeAddr) (payload : Bytes) (pathMtu : Nat)
      (ceFlag : Bool)
  | initiateSession (env : Env SecretKey) (dest : NodeAddr) (destPubkey : PublicKey)
  | checkSessionRekey (env : Env SecretKey)
  | resendHandshakes (env : Env SecretKey)
  | purgeIdle (nowMs : Nat)
  | removePeer (addr : NodeAddr)
  | queue (dest : NodeAddr) (packets : List Bytes)
  | unqueue (dest : NodeAddr)
  | resetWarmup (dest : NodeAddr)
  | measure (dest : NodeAddr) (f : μ → μ)

section Events

variable [Sha256] [HkdfSha256] [ChaCha20Poly1305] [Secp256k1 SecretKey PublicKey]

/-- One event; its effects are kept apart from those of the events before. -/
def kBitStep (n : Node SecretKey PublicKey ν (Counted μ)) :
    KBitEvent SecretKey PublicKey μ → Node SecretKey PublicKey ν (Counted μ)
  | .sendData env dest srcPort dstPort payload =>
    (sendSessionData env dest srcPort dstPort payload { n with effects := [] }).1
  | .sendMsg env dest msgType payload =>
    (sendSessionMsg env dest msgType payload { n with effects := [] }).1
  | .sessionPayload env src payload pathMtu ceFlag =>
    ((handleSessionPayload env src payload pathMtu ceFlag :
      Handler SecretKey PublicKey ν (Counted μ) Unit) { n with effects := [] }).1
  | .initiateSession env dest destPubkey =>
    (initiateSession env dest destPubkey { n with effects := [] }).1
  | .checkSessionRekey env =>
    ((checkSessionRekey env : Handler SecretKey PublicKey ν (Counted μ) Unit)
      { n with effects := [] }).1
  | .resendHandshakes env =>
    ((resendPendingSessionHandshakes env : Handler SecretKey PublicKey ν (Counted μ) Unit)
      { n with effects := [] }).1
  | .purgeIdle nowMs => { n with effects := [] }.purgeIdleSessions nowMs
  | .removePeer addr => { n with effects := [] }.removeActivePeer addr
  | .queue dest packets =>
    if (n.sessions.lookup dest).any (·.isEstablished) then { n with effects := [] }
    else { n with effects := [], pendingTunPackets := n.pendingTunPackets.insert dest packets }
  | .unqueue dest =>
    { n with effects := [], pendingTunPackets := n.pendingTunPackets.erase dest }
  | .resetWarmup dest =>
    ((resetWarmup dest : Handler SecretKey PublicKey ν (Counted μ) Unit) { n with effects := [] }).1
  | .measure dest f =>
    { n with
      effects := []
      sessions := n.sessions.modify dest (·.mapMmp fun c => ⟨f c.measured, c.epoch⟩) }

/-- No standalone warmup goes out on a session whose K-bit is set: none in front of a data packet that
has no room for the coordinates it should carry, and none in answer to an error signal. -/
def QuietWarmups (n : Node SecretKey PublicKey ν (Counted μ)) :
    KBitEvent SecretKey PublicKey μ → Prop
  | .sendData env dest _ _ payload =>
    ∀ e, n.sessions.lookup dest = some e → 0 < e.coordsWarmupRemaining →
      env.transportMtu < dataSize env dest payload → WarmupQuiet env n dest
  | .sessionPayload env _ payload _ _ =>
    ∀ dest, AsksFor payload dest → env.coordsResponseAllowed dest = true → WarmupQuiet env n dest
  | _ => True

/-- Every encrypted frame of the last event carries the K-bit of the session it was sent on, the
parity of the session's key epoch. -/
def KBitOk (n : Node SecretKey PublicKey ν (Counted μ)) : Prop :=
  ∀ nextHop message ceFlag dest kBit, .sentLinkMessage nextHop message ceFlag ∈ n.effects →
    sealedFrame message = some (dest, kBit) →
    ∃ e c, n.sessions.lookup dest = some e ∧ e.isEstablished = true ∧ e.mmp = some c ∧
      kBit = e.currentKBit ∧ kBit = c.parity

omit [SessionMmp μ] [Sha256] [HkdfSha256] [ChaCha20Poly1305] [Secp256k1 SecretKey PublicKey] in
/-- The invariant is about the frames of the last event too. -/
theorem Sound.kBitOk (h : Sound n) : KBitOk n := by
  intro nextHop message ceFlag dest kBit hmem hsealed
  obtain ⟨e, he, hestablished, hkBit⟩ := h.2 _ hmem nextHop message ceFlag dest kBit rfl hsealed
  obtain ⟨c, hc, hparity⟩ := (h.1.keyed dest e he).epoch hestablished
  exact ⟨e, c, he, hestablished, hc, hkBit, hkBit.trans hparity⟩

/-- **The step lemma.** -/
theorem Sound.step (h : Sound n) {event : KBitEvent SecretKey PublicKey μ}
    (hquiet : QuietWarmups n event) : Sound (kBitStep n event) := by
  have hbegin : AllQuiet { n with effects := [] } :=
    ⟨h.1.congr rfl rfl, fun _ hmem => absurd hmem List.not_mem_nil⟩
  have hof : ∀ {α ε : Type} {m : M SecretKey PublicKey ν (Counted μ) ε α}, Keeps AllQuiet m →
      Sound (m { n with effects := [] }).1 := fun hm => QuietOn.sound (hm _ hbegin)
  cases event with
  | sendData env dest srcPort dstPort payload =>
    refine fst_of_wp (sessionRules_soundOn.wp_sendSessionData env hasFlag_data hbegin.sound ?_)
    intro e he _ hremaining hsize
    exact wp_sound_sendCoordsWarmup env hbegin.sound (hquiet e he hremaining hsize)
  | sendMsg env dest msgType payload =>
    refine (sessionRules_soundOn.keeps_sendSessionMsg env (fun kBit => ?_) dest msgType payload) _
      hbegin.sound
    cases kBit <;> decide
  | sessionPayload env src payload pathMtu ceFlag =>
    exact fst_of_wp (wp_sound_handleSessionPayload env src pathMtu ceFlag hbegin hquiet)
  | initiateSession env dest destPubkey => exact hof (keeps_quiet_initiateSession env dest destPubkey)
  | checkSessionRekey env => exact hof (keeps_quiet_checkSessionRekey env)
  | resendHandshakes env => exact hof (keeps_quiet_resendPendingSessionHandshakes env)
  | purgeIdle nowMs => exact QuietOn.sound (hbegin.purgeIdleSessions nowMs)
  | removePeer addr => exact QuietOn.sound (hbegin.removeActivePeer addr)
  | queue dest packets =>
    simp only [kBitStep]
    split_ifs with hestablished
    · exact hbegin.sound
    · refine QuietOn.sound ⟨⟨hbegin.1.keyed, fun d e _ he hphase => ?_⟩, hbegin.2⟩
      have hother : d ≠ dest := by
        rintro rfl
        rw [show n.sessions.lookup d = some e from he] at hestablished
        exact hestablished hphase
      exact (AList.lookup_insert_ne hother).trans (hbegin.1.unqueued d e trivial he hphase)
  | unqueue dest =>
    exact QuietOn.sound ⟨TableOn.flushed (hbegin.1.but fun _ _ => trivial), hbegin.2⟩
  | resetWarmup dest =>
    exact sessionRules_soundOn.receives.keeps_resetWarmup dest _ hbegin.sound
  | measure dest f =>
    refine QuietOn.sound ⟨hbegin.1.modify fun e he => ⟨?_, id⟩, hbegin.2⟩
    have hkeyed := hbegin.1.keyed dest e he
    refine ⟨fun hestablished => ?_, hkeyed.first, hkeyed.stored⟩
    obtain ⟨c, hc, hparity⟩ := hkeyed.epoch hestablished
    refine ⟨⟨f c.measured, c.epoch⟩, ?_, hparity⟩
    change e.mmp.map _ = _
    rw [hc, Option.map_some]

/-- A node without sessions, with nothing waiting and nothing sent. -/
structure Idle (n : Node SecretKey PublicKey ν μ) : Prop where
  sessions : n.sessions = ∅
  queues : n.pendingTunPackets = ∅
  effects : n.effects = []

omit [SessionMmp μ] [Sha256] [HkdfSha256] [ChaCha20Poly1305] [Secp256k1 SecretKey PublicKey] in
/-- An idle node has sent nothing. -/
theorem Idle.sound (h : Idle n) : Sound n := by
  refine QuietOn.sound ⟨⟨fun d e he => ?_, fun d e _ he => ?_⟩, fun effect hmem => ?_⟩
  · rw [h.sessions] at he
    cases he
  · rw [h.sessions] at he
    cases he
  · rw [h.effects] at hmem
    cases hmem

/-- **The K-bit over runs.** In every run from an idle node in which no standalone warmup goes out
under a set K-bit, every encrypted frame carries the K-bit of its session, the parity of the epoch. -/
theorem kBit_of_quietWarmups {events : List (KBitEvent SecretKey PublicKey μ)} (hn : Idle n)
    (hquiet : Along kBitStep QuietWarmups n events) : Always kBitStep KBitOk n events := by
  have hsound : Always kBitStep Sound n events :=
    Always.of_along (fun _ _ h hC => Sound.step h hC) hn.sound hquiet
  exact hsound.mono fun _ h => h.kBitOk

end Events

/-! ## A session after its first cutover -/

section Examples

open Sample

/-- An event of a node on the small suite. -/
abbrev SmallKBitEvent := KBitEvent Scalar Point Unit

/-- A node without sessions; its secret key is its address. -/
def kBitNode (self : Nat) : Node Scalar Point Unit (Counted Unit) :=
  { node self ⟨UInt8.ofNat self⟩ with sessions := ∅ }

/-- The link message that an effect sent. -/
def sentMessage : Effect Point → Option Bytes
  | .sentLinkMessage _ message _ => some message
  | _ => none

/-- Messages sent in the last event. -/
def sentMessages (n : Node Scalar Point Unit (Counted Unit)) : List Bytes :=
  n.effects.filterMap sentMessage

/-- The session payload that the last event sent first. -/
def sentPayload (n : Node Scalar Point Unit (Counted Unit)) : Bytes :=
  ((sentMessages n).head?.bind fun message =>
    (SessionDatagram.decode message.tail).toOption.map (·.payload)).getD []

/-- Node `self` takes a payload from node `src`. -/
def kBitReceive (self src nowMs : Nat) (ephemeral : UInt8) (payload : Bytes) : SmallKBitEvent :=
  .sessionPayload (env self nowMs ⟨ephemeral⟩) (addr src) payload 1280 false

/-- Node 1 opens a session to node 2. -/
def setupSent : SmallKBitEvent := .initiateSession (env 1 0 ⟨11⟩) (addr 2) ⟨2⟩

/-- Node 2, when it answered the setup. -/
def peerAcked : Node Scalar Point Unit (Counted Unit) :=
  kBitStep (kBitNode 2)
    (kBitReceive 2 1 10 13 (sentPayload (kBitStep (kBitNode 1) setupSent)))

/-- The ack of node 2 comes back. -/
def ackReceived : SmallKBitEvent := kBitReceive 1 2 20 11 (sentPayload peerAcked)

/-- Node 1 with its first key. -/
def firstKey : Node Scalar Point Unit (Counted Unit) :=
  exec kBitStep (kBitNode 1) [setupSent, ackReceived]

/-- Node 2 with its first key. -/
def peerFirstKey : Node Scalar Point Unit (Counted Unit) :=
  kBitStep peerAcked (kBitReceive 2 1 30 13 (sentPayload firstKey))

/-- The tick at which node 1 begins a rekey. -/
def rekeyTick : SmallKBitEvent := .checkSessionRekey (env 1 200000 ⟨17⟩)

/-- Node 2, when it answered the rekey. -/
def peerRekeyed : Node Scalar Point Unit (Counted Unit) :=
  kBitStep peerFirstKey
    (kBitReceive 2 1 200010 19 (sentPayload (kBitStep firstKey rekeyTick)))

/-- The ack of the rekey comes back. -/
def rekeyAckReceived : SmallKBitEvent := kBitReceive 1 2 200020 17 (sentPayload peerRekeyed)

/-- Node 1 with its second key. -/
def rekeyed : List SmallKBitEvent :=
  [setupSent, ackReceived, rekeyTick, rekeyAckReceived, .checkSessionRekey (env 1 203000 ⟨17⟩)]

/-- A data packet with the coordinates in it. -/
def dataSent : SmallKBitEvent := .sendData (env 1 204000 ⟨17⟩) (addr 2) 256 256 [1, 2, 3]

/-- A transit node asks node 1 for the coordinates of node 2. -/
def coordsAsked : SmallKBitEvent :=
  kBitReceive 1 3 204000 17 (CoordsRequired.encode ⟨addr 2, addr 3⟩)

theorem idle_kBitNode (self : Nat) : Idle (kBitNode self) := ⟨rfl, rfl, rfl⟩

/-- A handshake message asks for nothing. -/
theorem not_asksFor_of_phase (phase : UInt8) {payload : Bytes}
    (h : (FspCommonPrefix.parse payload).toOption.map (·.phase) = some phase)
    (hphase : phase ≠ FSP_PHASE_ESTABLISHED) (dest : NodeAddr) : ¬ AsksFor payload dest := by
  rintro ⟨pre, _, _, hpre, hestablished, -⟩
  rw [hpre] at h
  exact hphase ((Option.some.inj h).symm.trans hestablished)

/-- After a rekey the data frames carry the second key's K-bit. -/
theorem kBit_rekeyed_data : Always kBitStep KBitOk (kBitNode 1) (rekeyed ++ [dataSent]) := by
  refine kBit_of_quietWarmups (idle_kBitNode 1) ⟨trivial, fun dest hasks => ?_, trivial,
    fun dest hasks => ?_, trivial, fun _ _ _ hsize => ?_, trivial⟩
  · exact absurd hasks (not_asksFor_of_phase FSP_PHASE_MSG2 (by decide +kernel) (by decide) dest)
  · exact absurd hasks (not_asksFor_of_phase FSP_PHASE_MSG2 (by decide +kernel) (by decide) dest)
  · exact absurd hsize (by decide +kernel)

/-- The warmup goes out under the second key with a clear K flag. -/
theorem kBit_lost_warmup : ¬ Always kBitStep KBitOk (kBitNode 1) (rekeyed ++ [coordsAsked]) := by
  intro h
  have hsent : ∃ message ∈ sentMessages (exec kBitStep (kBitNode 1) (rekeyed ++ [coordsAsked])),
      sealedFrame message = some (addr 2, false) := by decide +kernel
  have hkBit : ((exec kBitStep (kBitNode 1) (rekeyed ++ [coordsAsked])).sessions.lookup
      (addr 2)).map (·.currentKBit) = some true := by decide +kernel
  obtain ⟨message, hmem, hsealed⟩ := hsent
  obtain ⟨effect, heffect, hmessage⟩ := List.mem_filterMap.mp hmem
  cases effect with
  | sentLinkMessage nextHop message' ceFlag =>
    cases hmessage
    obtain ⟨e, c, he, -, -, hsame, -⟩ := h.exec nextHop message ceFlag (addr 2) false heffect hsealed
    rw [he, Option.map_some, ← hsame] at hkBit
    cases hkBit
  | _ => cases hmessage

end Examples

end Node

end Fips
