import Fips.Node.Session

/-!
# Invariants of the session table

What the session handlers have in common. Sending on an established session, delivering a decrypted
message and answering an error signal change an entry in two ways only: a note (times, counters,
measurements: `Notes`) and the advance of the session that sealed a frame. A property of the node that
these and the emission of a frame keep (`SendRules`, `SessionRules`) is kept by each of these
handlers, in the order of the source. The handlers that begin, replace or drop a session are left to
the property.

A frame is emitted with flags that are `allowed` for the K-bit of the entry it is sealed from. Where a
property does not look at flags, `allowed` is always true.

## Results

* `wp_sendSealed_effects`: the frame that a sender emits.
* `SendRules.keeps_sendSessionMsg`, `SendRules.keeps_sendSessionData`: the senders, given the
  standalone warmup.
* `ReceiveRules.keeps_processSessionMessage`, `ReceiveRules.keeps_handleCoordsRequired` and its
  siblings: what follows a decryption, and the error signals.
-/

open Checked

namespace Fips

variable {SecretKey PublicKey ν μ : Type}

/-- The operations on measurements that stay within one key. -/
inductive Measures [SessionMmp μ] : (μ → μ) → Prop
  | id : Measures id
  | comp {f g : μ → μ} : Measures f → Measures g → Measures (fun m => f (g m))
  | recordRecv (counter timestamp bytes : Nat) (ceFlag : Bool) (now : Nat) :
      Measures (Mmp.recordRecv counter timestamp bytes ceFlag now)
  | rxObserve (spinBit : Bool) (counter now : Nat) : Measures (Mmp.rxObserve spinBit counter now)
  | recordSent (counter timestamp bytes : Nat) : Measures (Mmp.recordSent counter timestamp bytes)
  | processReceiverReport (report : ReceiverReport) (ourTimestampMs now : Nat) :
      Measures (Mmp.processReceiverReport report ourTimestampMs now)
  | observeIncomingMtu (pathMtu : Nat) : Measures (SessionMmp.observeIncomingMtu pathMtu)
  | applyNotification (mtu now : Nat) : Measures (SessionMmp.applyNotification mtu now)
  | seedSourceMtu (mtu : Nat) : Measures (SessionMmp.seedSourceMtu mtu)

namespace SessionEntry

variable [SessionMmp μ] {e e' : SessionEntry SecretKey PublicKey μ}

/-- `e'` is `e` up to what no key and no phase depends on. -/
structure Notes (e e' : SessionEntry SecretKey PublicKey μ) : Prop where
  remoteAddr : e'.remoteAddr = e.remoteAddr
  remotePubkey : e'.remotePubkey = e.remotePubkey
  state : e'.state = e.state
  handshakePayload : e'.handshakePayload = e.handshakePayload
  currentKBit : e'.currentKBit = e.currentKBit
  previousNoiseSession : e'.previousNoiseSession = e.previousNoiseSession
  rekeyState : e'.rekeyState = e.rekeyState
  pendingNewSession : e'.pendingNewSession = e.pendingNewSession
  rekeyInitiator : e'.rekeyInitiator = e.rekeyInitiator
  mmp : ∃ g, Measures g ∧ e'.mmp = e.mmp.map g

/-- A note that leaves the measurements alone. -/
theorem Notes.of_mmp (hremoteAddr : e'.remoteAddr = e.remoteAddr)
    (hremotePubkey : e'.remotePubkey = e.remotePubkey) (hstate : e'.state = e.state)
    (hpayload : e'.handshakePayload = e.handshakePayload) (hkBit : e'.currentKBit = e.currentKBit)
    (hprevious : e'.previousNoiseSession = e.previousNoiseSession)
    (hrekey : e'.rekeyState = e.rekeyState) (hpending : e'.pendingNewSession = e.pendingNewSession)
    (hinitiator : e'.rekeyInitiator = e.rekeyInitiator) (hmmp : e'.mmp = e.mmp) : Notes e e' :=
  ⟨hremoteAddr, hremotePubkey, hstate, hpayload, hkBit, hprevious, hrekey, hpending, hinitiator, id,
    .id, by rw [Option.map_id_fun, id_eq, hmmp]⟩

theorem Notes.refl : Notes e e := .of_mmp rfl rfl rfl rfl rfl rfl rfl rfl rfl rfl

theorem notes_mapMmp {g : μ → μ} (h : Measures g) : Notes e (e.mapMmp g) :=
  ⟨rfl, rfl, rfl, rfl, rfl, rfl, rfl, rfl, rfl, g, h, rfl⟩

theorem notes_setCoordsWarmupRemaining (value : Nat) :
    Notes e (e.setCoordsWarmupRemaining value) := .of_mmp rfl rfl rfl rfl rfl rfl rfl rfl rfl rfl

theorem notes_recordSent_touch (bytes nowMs : Nat) : Notes e ((e.recordSent bytes).touch nowMs) :=
  .of_mmp rfl rfl rfl rfl rfl rfl rfl rfl rfl rfl

theorem notes_recordRecv_touch (bytes nowMs : Nat) : Notes e ((e.recordRecv bytes).touch nowMs) :=
  .of_mmp rfl rfl rfl rfl rfl rfl rfl rfl rfl rfl

theorem notes_recordResend (nextResendAtMs : Nat) : Notes e (e.recordResend nextResendAtMs) :=
  .of_mmp rfl rfl rfl rfl rfl rfl rfl rfl rfl rfl

theorem Notes.isEstablished (h : Notes e e') : e'.isEstablished = e.isEstablished := by
  unfold SessionEntry.isEstablished
  rw [h.state]

theorem Notes.isInitiating (h : Notes e e') : e'.isInitiating = e.isInitiating := by
  unfold SessionEntry.isInitiating
  rw [h.state]

theorem Notes.isAwaitingMsg3 (h : Notes e e') : e'.isAwaitingMsg3 = e.isAwaitingMsg3 := by
  unfold SessionEntry.isAwaitingMsg3
  rw [h.state]

end SessionEntry

namespace Node

variable {ε : Type} [SessionMmp μ]

/-- `sendSessionPayload` notes the path MTU and hands one datagram to the next hop. -/
theorem keeps_sendSessionPayload_of_note (env : Env SecretKey) {I : Node SecretKey PublicKey ν μ → Prop}
    (dest : NodeAddr) (payload : Bytes)
    (hnote : ∀ n f, (∀ e, SessionEntry.Notes e (f e)) → I n →
      I { n with sessions := n.sessions.modify dest f })
    (hsent : ∀ n nextHop (d : SessionDatagram), d.destAddr = dest → d.payload = payload → I n →
      I { n with effects := n.effects ++ [.sentLinkMessage nextHop d.encode false] }) :
    Keeps I (sendSessionPayload env dest payload : M SecretKey PublicKey ν μ SendError Unit) := by
  unfold sendSessionPayload sendSessionDatagram
  refine (keeps_read _).bind fun my => (keeps_read _).bind fun config => ?_
  cases env.findNextHop _ with
  | none => exact keeps_stop _
  | some nextHop =>
    refine Keeps.bind (fun n hn => hnote n _ (fun e => ?_) hn) fun _ => ?_
    · exact SessionEntry.notes_mapMmp (.seedSourceMtu _)
    · unfold sendLinkMessage
      cases env.sendLinkMessage nextHop _ with
      | error e => exact keeps_stop e
      | ok u => exact fun n hn => hsent n nextHop _ rfl rfl hn

/-- A session payload for `dest` finds a next hop that takes it. -/
def Reaches (env : Env SecretKey) (n : Node SecretKey PublicKey ν μ) (dest : NodeAddr)
    (payload : Bytes) : Prop :=
  let datagram := (SessionDatagram.new n.nodeAddr dest payload).withTtl n.config.defaultTtl
  ∃ nextHop, env.findNextHop dest = some nextHop ∧ env.sendLinkMessage nextHop
    { datagram with pathMtu := min datagram.pathMtu (env.linkMtu nextHop) }.encode = .ok ()

/-- A send reports what `Reaches` says. -/
theorem wp_sendSessionPayload_reaches (env : Env SecretKey) {n : Node SecretKey PublicKey ν μ} {I : Node SecretKey PublicKey ν μ → Prop} {dest : NodeAddr}
    {payload : Bytes} (hI : Keeps I (sendSessionPayload env dest payload :
      M SecretKey PublicKey ν μ SendError Unit)) (hn : I n) :
    wp (sendSessionPayload env dest payload) (fun _ n' => I n' ∧ Reaches env n dest payload)
      (fun _ n' => I n' ∧ ¬ Reaches env n dest payload) n := by
  refine wp_and (hI.wp hn) ?_
  unfold sendSessionPayload sendSessionDatagram
  rw [wp_bind_iff, wp_read_iff, wp_bind_iff, wp_read_iff]
  split
  · rename_i hnone
    rintro ⟨nextHop, hsome, -⟩
    exact absurd (hnone.symm.trans hsome) (by simp)
  · rename_i nextHop hsome
    rw [wp_bind_iff, wp_modifySession_iff]
    unfold sendLinkMessage
    cases hsend : env.sendLinkMessage nextHop _ with
    | error e =>
      rintro ⟨nextHop', hsome', hok⟩
      cases hsome.symm.trans hsome'
      cases hsend.symm.trans hok
    | ok u => exact ⟨nextHop, hsome, hsend⟩

/-- A send that reaches nobody leaves notes only. -/
theorem wp_sendSessionPayload_unreached (env : Env SecretKey)
    {I : Node SecretKey PublicKey ν μ → Prop} {n : Node SecretKey PublicKey ν μ} {dest : NodeAddr}
    {payload : Bytes} (hnote : ∀ n f, (∀ e, SessionEntry.Notes e (f e)) → I n →
      I { n with sessions := n.sessions.modify dest f }) (hn : I n)
    (hunreached : ¬ Reaches env n dest payload) :
    wp (sendSessionPayload env dest payload : M SecretKey PublicKey ν μ SendError Unit)
      (fun _ _ => False) (fun _ => I) n := by
  unfold sendSessionPayload sendSessionDatagram
  rw [wp_bind_iff, wp_read_iff, wp_bind_iff, wp_read_iff]
  split
  · exact hn
  · rename_i nextHop hsome
    rw [wp_bind_iff, wp_modifySession_iff]
    unfold sendLinkMessage
    cases hsend : env.sendLinkMessage nextHop _ with
    | error e => exact hnote n _ (fun e => SessionEntry.notes_mapMmp (.seedSourceMtu _)) hn
    | ok u => exact hunreached ⟨nextHop, hsome, hsend⟩

/-- **What a send emits**: one datagram if it reaches a next hop, otherwise nothing. -/
theorem wp_sendSessionPayload_effects (env : Env SecretKey) {n : Node SecretKey PublicKey ν μ}
    (dest : NodeAddr) (payload : Bytes) :
    wp (sendSessionPayload env dest payload : M SecretKey PublicKey ν μ SendError Unit)
      (fun _ n' => ∃ nextHop d, SessionDatagram.srcAddr d = n.nodeAddr ∧ d.destAddr = dest ∧
        d.payload = payload ∧ Reaches env n dest payload ∧
        env.sendLinkMessage nextHop d.encode = .ok () ∧
        n'.effects = n.effects ++ [.sentLinkMessage nextHop d.encode false])
      (fun _ n' => n'.effects = n.effects ∧ ¬ Reaches env n dest payload) n := by
  unfold sendSessionPayload sendSessionDatagram
  rw [wp_bind_iff, wp_read_iff, wp_bind_iff, wp_read_iff]
  split
  · rename_i hnone
    refine ⟨rfl, ?_⟩
    rintro ⟨_, hsome, -⟩
    cases hnone.symm.trans hsome
  · rename_i nextHop hsome
    rw [wp_bind_iff, wp_modifySession_iff]
    unfold sendLinkMessage
    cases hsend : env.sendLinkMessage nextHop _ with
    | error failed =>
      refine ⟨rfl, ?_⟩
      rintro ⟨nextHop', hsome', hok⟩
      cases hsome.symm.trans hsome'
      cases hsend.symm.trans hok
    | ok u => exact ⟨nextHop, _, rfl, rfl, rfl, ⟨nextHop, hsome, hsend⟩, hsend, rfl⟩

variable [ChaCha20Poly1305]

/-! ## Sending -/

/-- `session.rs:1300-1306`: the bytes a data packet with coordinates is reckoned to take. -/
def dataSize (env : Env SecretKey) (dest : NodeAddr) (payload : Bytes) : Nat :=
  FIPS_OVERHEAD + FSP_PORT_HEADER_SIZE +
    (coordsWireSize env.myCoords + coordsWireSize (env.destCoords dest)) + payload.length

/-- What a property has to satisfy to be kept by the senders. -/
structure SendRules (allowed : UInt8 → Bool → Prop) (I : Node SecretKey PublicKey ν μ → Prop) :
    Prop where
  note : ∀ n addr f, (∀ e, SessionEntry.Notes e (f e)) → I n →
    I { n with sessions := n.sessions.modify addr f }
  advance : ∀ n addr (e : SessionEntry SecretKey PublicKey μ) session inner header,
    n.sessions.lookup addr = some e → e.state = some (.established session) → I n →
    I { n with
      sessions := n.sessions.insert addr
        (e.setState (.established (session.encryptWithAad inner header).1)) }
  frame : ∀ n nextHop (d : SessionDatagram) (e : SessionEntry SecretKey PublicKey μ)
      counter flags len tail,
    n.sessions.lookup d.destAddr = some e → e.isEstablished = true →
    d.payload = buildFspHeader counter flags len ++ tail → allowed flags e.currentKBit → I n →
    I { n with effects := n.effects ++ [.sentLinkMessage nextHop d.encode false] }

section Sending

variable {allowed : UInt8 → Bool → Prop} {I : Node SecretKey PublicKey ν μ → Prop}
  (env : Env SecretKey)

theorem SendRules.keeps_note (h : SendRules allowed I) (addr : NodeAddr)
    {f : SessionEntry SecretKey PublicKey μ → SessionEntry SecretKey PublicKey μ}
    (hf : ∀ e, SessionEntry.Notes e (f e)) :
    Keeps I (modifySession addr f : M SecretKey PublicKey ν μ ε Unit) :=
  fun n hn => h.note n addr f hf hn

/-- The session to send on is established, and its K-bit allows these flags. -/
def AllowedAt (allowed : UInt8 → Bool → Prop) (dest : NodeAddr) (flags : UInt8)
    (n : Node SecretKey PublicKey ν μ) : Prop :=
  ∃ e, n.sessions.lookup dest = some e ∧ e.isEstablished = true ∧ allowed flags e.currentKBit

omit [ChaCha20Poly1305] in
theorem AllowedAt.note {dest : NodeAddr} {flags : UInt8} {n : Node SecretKey PublicKey ν μ}
    {f : SessionEntry SecretKey PublicKey μ → SessionEntry SecretKey PublicKey μ}
    (hf : ∀ e, SessionEntry.Notes e (f e)) (h : AllowedAt allowed dest flags n) (addr : NodeAddr) :
    AllowedAt allowed dest flags { n with sessions := n.sessions.modify addr f } := by
  obtain ⟨e, hlookup, hestablished, hallowed⟩ := h
  by_cases haddr : dest = addr
  · subst haddr
    exact ⟨f e, Map.lookup_modify_self hlookup f, (hf e).isEstablished.trans hestablished,
      (hf e).currentKBit ▸ hallowed⟩
  · exact ⟨e, (Map.lookup_modify_ne _ haddr f).trans hlookup, hestablished, hallowed⟩

/-- A frame sealed under flags that the entry allows. -/
theorem SendRules.wp_sendSealed (h : SendRules allowed I) {dest : NodeAddr} {flags : UInt8}
    (timestamp : Nat) (coords inner : Bytes) {n : Node SecretKey PublicKey ν μ} (hn : I n)
    (hflags : ∀ e, n.sessions.lookup dest = some e → allowed flags e.currentKBit) :
    wp (sendSealed env dest flags timestamp coords inner) (fun _ => I) (fun _ => I) n := by
  unfold sendSealed
  rw [wp_bind_iff, wp_read_iff, wp_bind_iff, wp_orElse_iff]
  refine ⟨fun e he => ?_, fun _ => hn⟩
  split
  · exact hn
  · rename_i session hstate
    extract_lets counter header
    have hadvanced := h.advance n dest e session inner header he hstate hn
    rw [wp_bind_iff, wp_putSession_iff]
    split
    · exact hadvanced
    · rename_i ciphertext _
      have hsend : Keeps (fun n => I n ∧ AllowedAt allowed dest flags n)
          (sendSessionPayload env dest (header ++ coords ++ ciphertext) :
            M SecretKey PublicKey ν μ SendError Unit) := by
        refine keeps_sendSessionPayload_of_note env dest _
          (fun n f hf hI => ⟨h.note n dest f hf hI.1, hI.2.note hf dest⟩) ?_
        rintro n nextHop d hdest hpayload ⟨hI, e', he', hestablished, hallowed⟩
        rw [List.append_assoc] at hpayload
        exact ⟨h.frame n nextHop d e' _ _ _ _ (hdest ▸ he') hestablished hpayload hallowed hI, e',
          he', hestablished, hallowed⟩
      rw [wp_bind_iff]
      refine wp_mono (fun _ n' hn' => ?_) (fun _ n' hn' => hn'.1)
        (hsend.wp ⟨hadvanced, _, AList.lookup_insert _, rfl, hflags e he⟩)
      exact h.note n' dest _ (fun e => SessionEntry.notes_mapMmp (.recordSent _ _ _)) hn'.1
  · exact hn

/-- A standalone warmup, where its flags are allowed. -/
theorem SendRules.wp_sendCoordsWarmup (h : SendRules allowed I) {dest : NodeAddr}
    {n : Node SecretKey PublicKey ν μ} (hn : I n)
    (hflags : ∀ e, n.sessions.lookup dest = some e → allowed FSP_FLAG_CP e.currentKBit) :
    wp (sendCoordsWarmup env dest) (fun _ => I) (fun _ => I) n := by
  unfold sendCoordsWarmup
  rw [wp_bind_iff, wp_read_iff, wp_bind_iff, wp_orElse_iff]
  refine ⟨fun e he => ?_, fun _ => hn⟩
  exact h.wp_sendSealed env _ _ _ hn hflags

/-- What `sendSealed` sends where the session can seal it. -/
def sealedPayload (n : Node SecretKey PublicKey ν μ) (dest : NodeAddr) (flags : UInt8)
    (coords inner : Bytes) : Option Bytes := do
  let entry ← n.sessions.lookup dest
  let session ← entry.current
  let header := buildFspHeader session.currentSendCounter flags inner.length
  let ciphertext ← (session.encryptWithAad inner header).2.toOption
  pure (header ++ coords ++ ciphertext)

/-- The coordinates in front of a ciphertext. -/
def coordPair (env : Env SecretKey) (dest : NodeAddr) : Bytes :=
  encodeCoords env.myCoords ++ encodeCoords (env.destCoords dest)

/-- What a standalone warmup for `dest` carries where it can be sealed. -/
def warmupFrame (env : Env SecretKey) (n : Node SecretKey PublicKey ν μ) (dest : NodeAddr) :
    Option Bytes := do
  let entry ← n.sessions.lookup dest
  let inner := fspPrependInnerHeader (entry.sessionTimestamp env.nowMs)
    SessionMessageType.coordsWarmup.toByte (spinFlags entry) []
  sealedPayload n dest FSP_FLAG_CP (coordPair env dest) inner

/-- A standalone warmup for `dest` can be sealed and finds a next hop that takes it. -/
def WarmupGoesOut (env : Env SecretKey) (n : Node SecretKey PublicKey ν μ) (dest : NodeAddr) : Prop :=
  ∃ frame, warmupFrame env n dest = some frame ∧ Reaches env n dest frame

/-- A sealed frame goes out where it can be sealed and a next hop takes it. -/
def SealedGoesOut (env : Env SecretKey) (n : Node SecretKey PublicKey ν μ) (dest : NodeAddr)
    (flags : UInt8) (coords inner : Bytes) : Prop :=
  ∃ payload, sealedPayload n dest flags coords inner = some payload ∧ Reaches env n dest payload

omit [SessionMmp μ] in
theorem sealedPayload_eq {n : Node SecretKey PublicKey ν μ} {dest : NodeAddr}
    {e : SessionEntry SecretKey PublicKey μ} {session : NoiseSession PublicKey}
    (he : n.sessions.lookup dest = some e) (hstate : e.state = some (.established session))
    (flags : UInt8) (coords inner : Bytes) :
    sealedPayload n dest flags coords inner =
      (session.encryptWithAad inner (buildFspHeader session.currentSendCounter flags
        inner.length)).2.toOption.map fun ciphertext =>
          buildFspHeader session.currentSendCounter flags inner.length ++ coords ++ ciphertext := by
  unfold sealedPayload SessionEntry.current
  rw [he, Option.bind_eq_bind, Option.bind_some, hstate, Option.bind_eq_bind, Option.bind_some]
  change (Except.toOption _).bind _ = _
  rw [Option.map_eq_bind]
  rfl

omit [SessionMmp μ] in
theorem sealedPayload_of_not_established {n : Node SecretKey PublicKey ν μ} {dest : NodeAddr}
    {e : SessionEntry SecretKey PublicKey μ} (he : n.sessions.lookup dest = some e)
    (hstate : ∀ session, e.state ≠ some (.established session)) (flags : UInt8)
    (coords inner : Bytes) : sealedPayload n dest flags coords inner = none := by
  have hnone : e.current = none := by
    unfold SessionEntry.current
    split
    · rename_i session hsession
      exact absurd hsession (hstate session)
    · rfl
  unfold sealedPayload
  rw [he, Option.bind_eq_bind, Option.bind_some, hnone]
  rfl

/-- **What `sendSealed` sends**: one frame if the sealed payload goes out, otherwise none. -/
theorem wp_sendSealed_effects {n : Node SecretKey PublicKey ν μ} (dest : NodeAddr) (flags : UInt8)
    (timestamp : Nat) (coords inner : Bytes) :
    wp (sendSealed env dest flags timestamp coords inner : M SecretKey PublicKey ν μ SendError Unit)
      (fun _ n' => ∃ payload nextHop d, sealedPayload n dest flags coords inner = some payload ∧
        Reaches env n dest payload ∧ SessionDatagram.srcAddr d = n.nodeAddr ∧ d.destAddr = dest ∧
        d.payload = payload ∧ env.sendLinkMessage nextHop d.encode = .ok () ∧
        n'.effects = n.effects ++ [.sentLinkMessage nextHop d.encode false])
      (fun _ n' => n'.effects = n.effects ∧ ¬ SealedGoesOut env n dest flags coords inner) n := by
  unfold sendSealed SealedGoesOut
  rw [wp_bind_iff, wp_read_iff, wp_bind_iff, wp_orElse_iff]
  refine ⟨fun e he => ?_, fun hnone => ⟨rfl, ?_⟩⟩
  · split
    · rename_i hstate
      refine ⟨rfl, ?_⟩
      rw [sealedPayload_of_not_established he fun session heq => by cases hstate.symm.trans heq]
      rintro ⟨_, hsome, -⟩
      cases hsome
    · rename_i session hstate
      have hpayload := sealedPayload_eq he hstate flags coords inner
      extract_lets counter header
      rw [wp_bind_iff, wp_putSession_iff]
      split
      · rename_i failed hfailed
        refine ⟨rfl, ?_⟩
        rw [hpayload, hfailed]
        rintro ⟨_, hsome, -⟩
        cases hsome
      · rename_i ciphertext hsealed
        rw [hsealed] at hpayload
        rw [wp_bind_iff]
        refine wp_mono (fun _ n' hn' => ?_) (fun _ n' hn' => ⟨hn'.1, ?_⟩)
          (wp_sendSessionPayload_effects env dest (header ++ coords ++ ciphertext))
        · obtain ⟨nextHop, d, hsrc, hdest, hd, hreaches, hsend, heffects⟩ := hn'
          exact ⟨_, nextHop, d, hpayload, hreaches, hsrc, hdest, hd, hsend, heffects⟩
        · rintro ⟨payload, hsome, hreaches⟩
          cases hpayload.symm.trans hsome
          exact hn'.2 hreaches
    · rename_i hnot hstate
      refine ⟨rfl, ?_⟩
      rw [sealedPayload_of_not_established he fun session heq =>
        hnot session (Option.some.inj (hstate.symm.trans heq))]
      rintro ⟨_, hsome, -⟩
      cases hsome
  · unfold sealedPayload
    rw [hnone]
    rintro ⟨_, hsome, -⟩
    cases hsome

/-- A standalone warmup that does not go out. -/
theorem SendRules.wp_sendCoordsWarmup_silent (h : SendRules allowed I) {dest : NodeAddr}
    {n : Node SecretKey PublicKey ν μ} (hn : I n) (hsilent : ¬ WarmupGoesOut env n dest) :
    wp (sendCoordsWarmup env dest) (fun _ => I) (fun _ => I) n := by
  unfold sendCoordsWarmup
  rw [wp_bind_iff, wp_read_iff, wp_bind_iff, wp_orElse_iff]
  refine ⟨fun e he => ?_, fun _ => hn⟩
  extract_lets timestamp inner coords
  have hwarmup : ¬ SealedGoesOut env n dest FSP_FLAG_CP coords inner := by
    unfold WarmupGoesOut warmupFrame at hsilent
    rw [he, Option.bind_eq_bind, Option.bind_some] at hsilent
    exact hsilent
  unfold sendSealed
  rw [wp_bind_iff, wp_read_iff, wp_bind_iff, wp_orElse_iff]
  refine ⟨fun e' he' => ?_, fun _ => hn⟩
  cases he.symm.trans he'
  split
  · exact hn
  · rename_i session hstate
    have hpayload := sealedPayload_eq he hstate FSP_FLAG_CP coords inner
    extract_lets counter header
    have hadvanced := h.advance n dest e session inner header he hstate hn
    rw [wp_bind_iff, wp_putSession_iff]
    split
    · exact hadvanced
    · rename_i ciphertext hsealed
      rw [hsealed] at hpayload
      rw [wp_bind_iff]
      refine wp_mono (fun _ _ hF => hF.elim) (fun _ _ hI => hI)
        (wp_sendSessionPayload_unreached env (fun n f hf hI => h.note n dest f hf hI) hadvanced ?_)
      exact fun hreaches => hwarmup ⟨_, hpayload, hreaches⟩
  · exact hn

theorem SendRules.keeps_sendCoordsWarmup (h : SendRules allowed I)
    (hflags : ∀ kBit, allowed FSP_FLAG_CP kBit) (dest : NodeAddr) :
    Keeps I (sendCoordsWarmup env dest : M SecretKey PublicKey ν μ SendError Unit) :=
  keeps_iff.mpr fun _ hn => h.wp_sendCoordsWarmup env hn fun _ _ => hflags _

theorem SendRules.keeps_sendSessionMsg (h : SendRules allowed I)
    (hflags : ∀ kBit : Bool, allowed (if kBit then FSP_FLAG_K else 0) kBit) (dest : NodeAddr)
    (msgType : UInt8) (payload : Bytes) :
    Keeps I (sendSessionMsg env dest msgType payload :
      M SecretKey PublicKey ν μ SendError Unit) := by
  rw [keeps_iff]
  intro n hn
  unfold sendSessionMsg
  rw [wp_bind_iff, wp_read_iff, wp_bind_iff, wp_orElse_iff]
  refine ⟨fun e he => ?_, fun _ => hn⟩
  refine h.wp_sendSealed env _ _ _ hn fun e' he' => ?_
  rw [he] at he'
  cases he'
  exact hflags e.currentKBit

/-- A data packet, where the standalone warmup it may send first is harmless. -/
theorem SendRules.wp_sendSessionData (h : SendRules allowed I)
    (hflags : ∀ withCoords kBit : Bool,
      allowed ((if withCoords then FSP_FLAG_CP else 0) ||| (if kBit then FSP_FLAG_K else 0)) kBit)
    {dest : NodeAddr} {srcPort dstPort : Nat} {payload : Bytes} {n : Node SecretKey PublicKey ν μ}
    (hn : I n)
    (hwarmup : ∀ e, n.sessions.lookup dest = some e → e.isEstablished = true →
      0 < e.coordsWarmupRemaining → env.transportMtu < dataSize env dest payload →
      wp (sendCoordsWarmup env dest) (fun _ => I) (fun _ => I) n) :
    wp (sendSessionData env dest srcPort dstPort payload) (fun _ => I) (fun _ => I) n := by
  unfold sendSessionData
  rw [wp_bind_iff, wp_read_iff, wp_bind_iff, wp_orElse_iff]
  refine ⟨fun e he => ?_, fun _ => hn⟩
  extract_lets wantsCoords timestamp spin portPayload inner coordsSize fits includeCoords coords
    send countDown
  by_cases hestablished : e.isEstablished = true
  · rw [if_neg (by simpa using hestablished)]
    have hsend : ∀ u, Keeps I (send u) := by
      intro u
      rw [keeps_iff]
      intro n hn
      simp only [send]
      rw [wp_bind_iff, wp_read_iff, wp_bind_iff]
      refine wp_mono (fun _ n' hn' => ?_) (fun _ _ hn' => hn')
        (h.wp_sendSealed env _ _ _ hn fun e he => ?_)
      · exact (h.keeps_note dest fun e => SessionEntry.notes_recordSent_touch _ _).wp hn'
      · rw [he]
        exact hflags includeCoords e.currentKBit
    have hcountDown : ∀ u, Keeps I (countDown u) := fun u => Keeps.ite
      ((h.keeps_note dest fun e => SessionEntry.notes_setCoordsWarmupRemaining _).bind hsend)
      (hsend ())
    split_ifs with hwants
    · simp only [wantsCoords, fits, Bool.and_eq_true, Bool.not_eq_true', decide_eq_true_eq,
        decide_eq_false_iff_not, not_le] at hwants
      rw [wp_bind_iff, wp_attempt_iff]
      refine wp_mono (fun _ n' hn' => (hcountDown ()).wp hn') (fun failed n' hn' => ?_)
        (hwarmup e he hestablished hwants.1 hwants.2)
      cases failed with
      | error e => exact (hcountDown ()).wp hn'
      | panic => exact hn'
    · exact (hcountDown ()).wp hn
  · rw [if_pos (by simpa using hestablished)]
    exact hn

theorem SendRules.keeps_sendSessionData (h : SendRules allowed I)
    (hflags : ∀ withCoords kBit : Bool,
      allowed ((if withCoords then FSP_FLAG_CP else 0) ||| (if kBit then FSP_FLAG_K else 0)) kBit)
    (hwarmup : ∀ dest, Keeps I (sendCoordsWarmup env dest : M SecretKey PublicKey ν μ SendError Unit))
    (dest : NodeAddr) (srcPort dstPort : Nat) (payload : Bytes) :
    Keeps I (sendSessionData env dest srcPort dstPort payload :
      M SecretKey PublicKey ν μ SendError Unit) :=
  keeps_iff.mpr fun _ hn => h.wp_sendSessionData env hflags hn fun _ _ _ _ _ => (hwarmup dest).wp hn

/-- A data packet, for a property that depends on the coordinates in front of a frame. -/
theorem keeps_sendSessionData_of_sealed {dest : NodeAddr}
    (hnote : ∀ f : SessionEntry SecretKey PublicKey μ → SessionEntry SecretKey PublicKey μ,
      (∀ e, SessionEntry.Notes e (f e)) →
      Keeps I (modifySession dest f : M SecretKey PublicKey ν μ SendError Unit))
    (hwarmup : Keeps I (sendCoordsWarmup env dest : M SecretKey PublicKey ν μ SendError Unit))
    (hsealed : ∀ (withCoords kBit : Bool) (timestamp : Nat) (inner : Bytes),
      Keeps I (sendSealed env dest
        ((if withCoords then FSP_FLAG_CP else 0) ||| (if kBit then FSP_FLAG_K else 0)) timestamp
        (if withCoords then coordPair env dest else []) inner :
          M SecretKey PublicKey ν μ SendError Unit))
    (srcPort dstPort : Nat) (payload : Bytes) :
    Keeps I (sendSessionData env dest srcPort dstPort payload :
      M SecretKey PublicKey ν μ SendError Unit) := by
  refine (keeps_read _).bind fun _ => (keeps_orElse _ _).bind fun e => ?_
  extract_lets wantsCoords timestamp spin portPayload inner coordsSize fits includeCoords coords
    send countDown
  have hsend : ∀ u, Keeps I (send u) := fun u => (keeps_read _).bind fun kBit =>
    (hsealed includeCoords kBit timestamp inner).bind fun _ =>
      hnote _ fun e => SessionEntry.notes_recordSent_touch _ _
  have hcountDown : ∀ u, Keeps I (countDown u) := fun u => Keeps.ite
    ((hnote _ fun e => SessionEntry.notes_setCoordsWarmupRemaining _).bind hsend) (hsend ())
  exact Keeps.ite (keeps_stop _)
    (Keeps.ite (hwarmup.attempt.bind fun _ => hcountDown ()) (hcountDown ()))

theorem keeps_sendIpv6Packet {dest : NodeAddr}
    (hdata : ∀ srcPort dstPort payload, Keeps I (sendSessionData env dest srcPort dstPort payload :
      M SecretKey PublicKey ν μ SendError Unit)) (packet : Bytes) :
    Keeps I (sendIpv6Packet env dest packet : M SecretKey PublicKey ν μ SendError Unit) := by
  refine (keeps_pureCall _).attempt.bind fun compressed => ?_
  cases compressed with
  | error e => exact keeps_stop _
  | ok compressed => exact hdata _ _ _

theorem keeps_flushPackets {dest : NodeAddr}
    (hpacket : ∀ packet, Keeps I (sendIpv6Packet env dest packet :
      M SecretKey PublicKey ν μ SendError Unit)) (packets : List Bytes) :
    Keeps I (flushPackets env dest packets : Handler SecretKey PublicKey ν μ Unit) := by
  induction packets with
  | nil => exact keeps_pure ()
  | cons packet packets ih =>
    refine (hpacket packet).attempt.bind fun sent => ?_
    cases sent with
    | error e => exact keeps_pure ()
    | ok u => exact ih

theorem keeps_flushPendingPackets {dest : NodeAddr}
    (hflushed : ∀ n, I n → I { n with pendingTunPackets := n.pendingTunPackets.erase dest })
    (hpacket : ∀ packet, Keeps I (sendIpv6Packet env dest packet :
      M SecretKey PublicKey ν μ SendError Unit)) :
    Keeps I (flushPendingPackets env dest : Handler SecretKey PublicKey ν μ Unit) :=
  Keeps.body <| (keeps_read _).bind fun _ => (keeps_orElse _ _).bind fun packets =>
    (keeps_write hflushed).bind fun _ => keeps_flushPackets env hpacket packets

end Sending

/-! ## Received messages -/

/-- The effects other than a message handed to a link. -/
def Effect.IsLocal (e : Effect PublicKey) : Prop :=
  ∀ nextHop message ceFlag, e ≠ .sentLinkMessage nextHop message ceFlag

/-- What a property has to satisfy to be kept by what follows a decryption and by the error signals.
They register no identity and cache no coordinates. -/
structure ReceiveRules (allowed : UInt8 → Bool → Prop) (I : Node SecretKey PublicKey ν μ → Prop) :
    Prop extends SendRules allowed I where
  effect : ∀ n (e : Effect PublicKey), Effect.IsLocal e → (∀ addr key, e ≠ .registerIdentity addr key) →
    (∀ addr coords, e ≠ .cacheCoords addr coords) → I n → I { n with effects := n.effects ++ [e] }
  pings : ∀ n pings, I n → I { n with pendingPings := pings }

/-- What a property has to satisfy to be kept by the handlers of received messages. They register no
identity. -/
structure SessionRules (allowed : UInt8 → Bool → Prop) (I : Node SecretKey PublicKey ν μ → Prop) :
    Prop extends SendRules allowed I where
  effect : ∀ n (e : Effect PublicKey), Effect.IsLocal e → (∀ addr key, e ≠ .registerIdentity addr key) →
    I n → I { n with effects := n.effects ++ [e] }
  pings : ∀ n pings, I n → I { n with pendingPings := pings }

theorem SessionRules.receives {allowed : UInt8 → Bool → Prop}
    {I : Node SecretKey PublicKey ν μ → Prop} (h : SessionRules allowed I) : ReceiveRules allowed I :=
  { h.toSendRules with
    effect := fun n e he hkey _ => h.effect n e he hkey
    pings := h.pings }

/-- A property of the queues is kept as well. -/
theorem SessionRules.and_queues {allowed : UInt8 → Bool → Prop}
    {I : Node SecretKey PublicKey ν μ → Prop} (h : SessionRules allowed I)
    (P : Map NodeAddr (List Bytes) → Prop) :
    SessionRules allowed fun n => I n ∧ P n.pendingTunPackets where
  note n addr f hf hI := ⟨h.note n addr f hf hI.1, hI.2⟩
  advance n addr e session inner header he hstate hI :=
    ⟨h.advance n addr e session inner header he hstate hI.1, hI.2⟩
  frame n nextHop d e counter flags len tail he hestablished hpayload hflags hI :=
    ⟨h.frame n nextHop d e counter flags len tail he hestablished hpayload hflags hI.1, hI.2⟩
  effect n e he hkey hI := ⟨h.effect n e he hkey hI.1, hI.2⟩
  pings n pings hI := ⟨h.pings n pings hI.1, hI.2⟩

section Received

variable {allowed : UInt8 → Bool → Prop} {I : Node SecretKey PublicKey ν μ → Prop}
  (env : Env SecretKey)

theorem SessionRules.keeps_cacheCoords (h : SessionRules allowed I) (addr : NodeAddr)
    (coords : Option TreeCoordinate) :
    Keeps I (cacheCoords addr coords : M SecretKey PublicKey ν μ ε Unit) := by
  cases coords with
  | none => exact keeps_pure ()
  | some coords =>
    exact fun n hn => h.effect n _ (fun _ _ _ heq => by cases heq) (fun _ _ heq => by cases heq) hn

theorem ReceiveRules.keeps_emit (h : ReceiveRules allowed I) {e : Effect PublicKey}
    (he : Effect.IsLocal e) (hkey : ∀ addr key, e ≠ .registerIdentity addr key)
    (hcache : ∀ addr coords, e ≠ .cacheCoords addr coords) :
    Keeps I (emit e : M SecretKey PublicKey ν μ ε Unit) :=
  fun n hn => h.effect n e he hkey hcache hn

theorem ReceiveRules.keeps_handleDataPacket (h : ReceiveRules allowed I) (src : NodeAddr)
    (ceFlag : Bool) (rest : Bytes) :
    Keeps I (handleDataPacket src ceFlag rest : Handler SecretKey PublicKey ν μ Unit) := by
  have hdeliver : ∀ packet, Keeps I (emit (.deliverPacket packet) :
      Handler SecretKey PublicKey ν μ Unit) := fun packet =>
    h.keeps_emit (fun _ _ _ heq => (by cases heq)) (fun _ _ heq => (by cases heq))
      fun _ _ heq => by cases heq
  refine (keeps_orReturn _).bind fun _ => (keeps_orReturn _).bind fun _ => ?_
  refine Keeps.ite ((keeps_read _).bind fun _ => ?_) (keeps_pure _)
  refine (keeps_pureCall _).attempt.bind fun packet => ?_
  cases packet with
  | error e => exact keeps_pure _
  | ok packet =>
    refine (keeps_orReturn _).bind fun sequence => ?_
    cases sequence with
    | none => exact hdeliver _
    | some sequence =>
      refine (keeps_read _).bind fun _ => Keeps.ite ?_ (hdeliver _)
      refine (keeps_write fun n hn => h.pings n _ hn).bind fun _ => ?_
      exact (h.keeps_emit (fun _ _ _ heq => (by cases heq)) (fun _ _ heq => (by cases heq))
        fun _ _ heq => by cases heq).bind fun _ => hdeliver _

theorem ReceiveRules.keeps_processSessionMessage (h : ReceiveRules allowed I) {src : NodeAddr}
    (hflush : Keeps I (flushPendingPackets env src : Handler SecretKey PublicKey ν μ Unit))
    (counter plaintextLen pathMtu : Nat) (ceFlag : Bool) (message : FspInner) :
    Keeps I (processSessionMessage env src counter plaintextLen pathMtu ceFlag message :
      Handler SecretKey PublicKey ν μ Unit) := by
  refine (h.keeps_note _ fun e => ?_).bind fun _ => (h.keeps_note _ fun e => ?_).bind fun _ => ?_
  · exact SessionEntry.notes_mapMmp (.comp (.rxObserve _ _ _) (.recordRecv _ _ _ _ _))
  · exact SessionEntry.notes_mapMmp (.observeIncomingMtu _)
  · extract_lets flush record
    have hrecord : ∀ u, Keeps I (record u) := fun u => Keeps.ite
      ((h.keeps_note src fun e => SessionEntry.notes_recordRecv_touch _ _).bind fun _ => hflush) hflush
    split
    · exact Keeps.ite ((keeps_stop _).bind hrecord) ((h.keeps_handleDataPacket _ _ _).bind hrecord)
    · exact (Keeps.body ((keeps_orReturn _).bind fun _ => keeps_pure _)).bind hrecord
    · refine (Keeps.body ((keeps_orReturn _).bind fun _ => h.keeps_note _ fun e => ?_)).bind hrecord
      exact SessionEntry.notes_mapMmp (.processReceiverReport _ _ _)
    · refine (Keeps.body ((keeps_orReturn _).bind fun _ => h.keeps_note _ fun e => ?_)).bind hrecord
      exact SessionEntry.notes_mapMmp (.applyNotification _ _)
    · exact hrecord ()

theorem ReceiveRules.keeps_resetWarmup (h : ReceiveRules allowed I) (dest : NodeAddr) :
    Keeps I (resetWarmup dest : Handler SecretKey PublicKey ν μ Unit) :=
  (keeps_read _).bind fun _ => h.keeps_note dest fun _ => SessionEntry.notes_setCoordsWarmupRemaining _

theorem ReceiveRules.keeps_lookUp (h : ReceiveRules allowed I) (dest : NodeAddr) :
    Keeps I (lookUp env dest : Handler SecretKey PublicKey ν μ Unit) :=
  Keeps.ite (h.keeps_emit (fun _ _ _ heq => (by cases heq)) (fun _ _ heq => (by cases heq))
    fun _ _ heq => by cases heq) (keeps_pure _)

theorem keeps_warmUp {dest : NodeAddr}
    (hwarmup : Keeps I (sendCoordsWarmup env dest : M SecretKey PublicKey ν μ SendError Unit)) :
    Keeps I (warmUp env dest : Handler SecretKey PublicKey ν μ Unit) :=
  Keeps.ite ((keeps_read _).bind fun _ => Keeps.ite (hwarmup.attempt.bind fun _ => keeps_pure _)
    (keeps_pure _)) (keeps_pure _)

theorem ReceiveRules.wp_handleCoordsRequired (h : ReceiveRules allowed I) {inner : Bytes}
    {n : Node SecretKey PublicKey ν μ} (hn : I n)
    (hwarm : ∀ msg, CoordsRequired.decode inner = .ok msg →
      wp (warmUp env msg.destAddr : Handler SecretKey PublicKey ν μ Unit) (fun _ => I) (fun _ => I) n) :
    wp (handleCoordsRequired env inner : Handler SecretKey PublicKey ν μ Unit) (fun _ => I)
      (fun _ => I) n := by
  refine wp_body_of_wp ?_
  rw [wp_bind_iff, wp_orReturn_iff]
  refine ⟨fun msg hmsg => ?_, fun _ => hn, fun _ => hn⟩
  rw [wp_bind_iff]
  refine wp_mono (fun _ n' hn' => ?_) (fun _ _ hn' => hn') (hwarm msg hmsg)
  exact ((h.keeps_lookUp env _).bind fun _ => h.keeps_resetWarmup _).wp hn'

theorem ReceiveRules.wp_handlePathBroken (h : ReceiveRules allowed I) {inner : Bytes}
    {n : Node SecretKey PublicKey ν μ} (hn : I n)
    (hwarm : ∀ msg, PathBroken.decode inner = .ok msg →
      wp (warmUp env msg.destAddr : Handler SecretKey PublicKey ν μ Unit) (fun _ => I) (fun _ => I) n) :
    wp (handlePathBroken env inner : Handler SecretKey PublicKey ν μ Unit) (fun _ => I)
      (fun _ => I) n := by
  refine wp_body_of_wp ?_
  rw [wp_bind_iff, wp_orReturn_iff]
  refine ⟨fun msg hmsg => ?_, fun _ => hn, fun _ => hn⟩
  rw [wp_bind_iff]
  refine wp_mono (fun _ n' hn' => Keeps.wp ?_ hn') (fun _ _ hn' => hn') (hwarm msg hmsg)
  exact (h.keeps_emit (fun _ _ _ heq => (by cases heq)) (fun _ _ heq => (by cases heq))
    fun _ _ heq => by cases heq).bind fun _ =>
    (h.keeps_lookUp env _).bind fun _ => h.keeps_resetWarmup _

theorem ReceiveRules.keeps_handleCoordsRequired (h : ReceiveRules allowed I)
    (hwarm : ∀ dest, Keeps I (warmUp env dest : Handler SecretKey PublicKey ν μ Unit))
    (inner : Bytes) :
    Keeps I (handleCoordsRequired env inner : Handler SecretKey PublicKey ν μ Unit) :=
  keeps_iff.mpr fun _ hn => h.wp_handleCoordsRequired env hn fun _ _ => (hwarm _).wp hn

theorem ReceiveRules.keeps_handlePathBroken (h : ReceiveRules allowed I)
    (hwarm : ∀ dest, Keeps I (warmUp env dest : Handler SecretKey PublicKey ν μ Unit))
    (inner : Bytes) :
    Keeps I (handlePathBroken env inner : Handler SecretKey PublicKey ν μ Unit) :=
  keeps_iff.mpr fun _ hn => h.wp_handlePathBroken env hn fun _ _ => (hwarm _).wp hn

theorem ReceiveRules.keeps_handleMtuExceeded (h : ReceiveRules allowed I) (inner : Bytes) :
    Keeps I (handleMtuExceeded env inner : Handler SecretKey PublicKey ν μ Unit) :=
  Keeps.body <| (keeps_orReturn _).bind fun _ =>
    h.keeps_note _ fun _ => SessionEntry.notes_mapMmp (.applyNotification _ _)

end Received

end Node

end Fips
