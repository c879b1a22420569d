import Fips.Node.Forwarding
import Fips.Node.Sample
import Fips.Node.SessionRules
import Fips.Wire.Codec

/-!
# Error signals

`send_routing_error` and `send_mtu_exceeded_error` look at the addresses of the datagram that could
not be passed on, not at what it carries. An error signal that is stuck is answered with another one.

## Results

* `leaves_forwardDatagram`: what forwarding a datagram emits.
* `not_originates_iff`: a node originates no error signal because of one exactly when it does not
  answer it.
* `stuck_signal_answered`: it may.
-/

open Checked

namespace Fips

/-- A plaintext error signal: phase 0 with the U flag, and one of the three types. -/
def isErrorSignal (payload : Bytes) : Bool :=
  match FspCommonPrefix.parse payload with
  | .ok pre =>
    pre.phase == FSP_PHASE_ESTABLISHED && pre.isUnencrypted &&
      (payload[FSP_COMMON_PREFIX_SIZE]?.bind SessionMessageType.fromByte).any fun t =>
        t == .coordsRequired || t == .pathBroken || t == .mtuExceeded
  | .error _ => false

/-- The datagram in a message that was handed to a link. -/
def sentDatagram {PublicKey : Type} : Effect PublicKey → Option SessionDatagram
  | .sentLinkMessage _ message _ =>
    if message.head? == some 0x00 then (SessionDatagram.decode message.tail).toOption else none
  | _ => none

theorem sentDatagram_cons {PublicKey : Type} (nextHop : NodeAddr) (payload : Bytes) (ceFlag : Bool) :
    sentDatagram (.sentLinkMessage nextHop (0x00 :: payload) ceFlag : Effect PublicKey) =
      (SessionDatagram.decode payload).toOption := rfl

/-- A datagram that is sent is read back, its path MTU as a `u16`. -/
theorem sentDatagram_encode {PublicKey : Type} (nextHop : NodeAddr) (d : SessionDatagram)
    (ceFlag : Bool) :
    sentDatagram (.sentLinkMessage nextHop d.encode ceFlag : Effect PublicKey) =
      some { d with pathMtu := d.pathMtu % 65536 } := by
  unfold sentDatagram
  dsimp only
  rw [if_pos (by simp [SessionDatagram.encode]), d.decode_encode]
  rfl

/-- An effect on the node's own tables is no datagram. -/
theorem sentDatagram_of_isLocal {PublicKey : Type} {e : Effect PublicKey} (h : Node.Effect.IsLocal e) :
    sentDatagram e = none := by
  cases e with
  | sentLinkMessage nextHop message ceFlag => exact absurd rfl (h nextHop message ceFlag)
  | _ => rfl

/-- A signal as its encoder writes it. -/
theorem isErrorSignal_withPrefix {t : SessionMessageType} {flags : UInt8} {body : Bytes}
    (ht : t = .coordsRequired ∨ t = .pathBroken ∨ t = .mtuExceeded) :
    isErrorSignal (withPrefix 0x00 FSP_FLAG_U (t.toByte :: flags :: body)) = true := by
  have hsplit : withPrefix 0x00 FSP_FLAG_U (t.toByte :: flags :: body) =
      0x00 :: FSP_FLAG_U :: UInt8.ofNat (body.length + 2) ::
        UInt8.ofNat ((body.length + 2) / 256) :: t.toByte :: flags :: body := rfl
  have htype : (0x00 :: FSP_FLAG_U :: UInt8.ofNat (body.length + 2) ::
      UInt8.ofNat ((body.length + 2) / 256) :: t.toByte :: flags :: body)[FSP_COMMON_PREFIX_SIZE]? =
        some t.toByte := rfl
  unfold isErrorSignal
  rw [hsplit, FspCommonPrefix.parse_cons, htype, Option.bind_some,
    SessionMessageType.fromByte_toByte]
  rcases ht with rfl | rfl | rfl <;> simp [FspCommonPrefix.isUnencrypted] <;> decide

/-- A sealed frame is none. -/
theorem isErrorSignal_buildFspHeader {flags : UInt8} (hflags : hasFlag flags FSP_FLAG_U = false)
    (counter len : Nat) (tail : Bytes) :
    isErrorSignal (buildFspHeader counter flags len ++ tail) = false := by
  have hsplit : buildFspHeader counter flags len ++ tail = 0x00 :: flags :: UInt8.ofNat len ::
      UInt8.ofNat (len / 256) :: (leBytes 8 counter ++ tail) := rfl
  unfold isErrorSignal
  rw [hsplit, FspCommonPrefix.parse_cons]
  simp [FspCommonPrefix.isUnencrypted, hflags]

/-- Error signals travel unencrypted, in the established phase. -/
theorem phase_of_isErrorSignal {payload : Bytes} {pre : FspCommonPrefix}
    (hsignal : isErrorSignal payload = true) (hparse : FspCommonPrefix.parse payload = .ok pre) :
    pre.phase = FSP_PHASE_ESTABLISHED ∧ pre.isUnencrypted = true := by
  unfold isErrorSignal at hsignal
  rw [hparse] at hsignal
  simp only [Bool.and_eq_true, beq_iff_eq] at hsignal
  exact hsignal.1

/-! ## What a node originates -/

/-- `sent` is `d` on its way: the hop limit and the path MTU may differ. -/
def PassesOn (d sent : SessionDatagram) : Prop :=
  sent.srcAddr = d.srcAddr ∧ sent.destAddr = d.destAddr ∧ sent.payload = d.payload

instance (d sent : SessionDatagram) : Decidable (PassesOn d sent) :=
  inferInstanceAs (Decidable (_ ∧ _ ∧ _))

/-- An error signal that is not `d` itself is handed to a link. -/
def NewError {PublicKey : Type} (d : SessionDatagram) (e : Effect PublicKey) : Prop :=
  ∃ sent, sentDatagram e = some sent ∧ isErrorSignal sent.payload = true ∧ ¬ PassesOn d sent

/-- A datagram is a new error unless it passes on the one that came in. -/
theorem newError_encode_iff {PublicKey : Type} {d sent : SessionDatagram} {nextHop : NodeAddr}
    {ceFlag : Bool} : NewError d (.sentLinkMessage nextHop sent.encode ceFlag : Effect PublicKey) ↔
      isErrorSignal sent.payload = true ∧ ¬ PassesOn d sent := by
  unfold NewError
  rw [sentDatagram_encode]
  constructor
  · rintro ⟨_, hsome, hsignal⟩
    cases hsome
    exact hsignal
  · exact fun hsignal => ⟨_, rfl, hsignal⟩

theorem not_newError_of_isLocal {PublicKey : Type} {d : SessionDatagram} {e : Effect PublicKey}
    (h : Node.Effect.IsLocal e) : ¬ NewError d e := by
  rintro ⟨_, hsome, -⟩
  rw [sentDatagram_of_isLocal h] at hsome
  cases hsome

namespace Node

variable {SecretKey PublicKey ν μ : Type} {n n' : Node SecretKey PublicKey ν μ}
  {d : SessionDatagram}

/-- Between `n` and `n'` a new error signal was sent. -/
def Originates (d : SessionDatagram) (n n' : Node SecretKey PublicKey ν μ) : Prop :=
  ∃ es, n'.effects = n.effects ++ es ∧ ∃ e ∈ es, NewError d e

/-- Between `n` and `n'` none was. -/
def Silent (d : SessionDatagram) (n n' : Node SecretKey PublicKey ν μ) : Prop :=
  ∃ es, n'.effects = n.effects ++ es ∧ ∀ e ∈ es, ¬ NewError d e

/-- Who is silent originates nothing. -/
theorem Silent.not_originates (h : Silent d n n') : ¬ Originates d n n' := by
  rintro ⟨es, hes, e, he, herror⟩
  obtain ⟨es', hes', hsilent⟩ := h
  obtain rfl : es = es' := List.append_cancel_left (hes.symm.trans hes')
  exact hsilent e he herror

theorem Silent.of_effects (h : n'.effects = n.effects) : Silent d n n' :=
  ⟨[], by rw [h, List.append_nil], List.forall_mem_nil _⟩

theorem Silent.append (h : Silent d n n') {e : Effect PublicKey} (he : ¬ NewError d e)
    {n'' : Node SecretKey PublicKey ν μ} (heffects : n''.effects = n'.effects ++ [e]) :
    Silent d n n'' := by
  obtain ⟨es, hes, hsilent⟩ := h
  refine ⟨es ++ [e], ?_, ?_⟩
  · rw [heffects, hes, List.append_assoc]
  · exact List.forall_mem_append.mpr ⟨hsilent, List.forall_mem_singleton.mpr he⟩

/-- Who only caches is silent. -/
theorem CachesOnly.silent (h : CachesOnly n n') : Silent d n n' := by
  obtain ⟨es, rfl, hes⟩ := h
  refine ⟨es, rfl, fun e he => ?_⟩
  obtain ⟨addr, coords, rfl⟩ := hes e he
  exact not_newError_of_isLocal fun _ _ _ heq => by cases heq

/-- A new error signal was sent between `n` and `n'` if `P`, and none otherwise. -/
def OriginatesIf (P : Prop) (d : SessionDatagram) (n n' : Node SecretKey PublicKey ν μ) : Prop :=
  (P → Originates d n n') ∧ (¬ P → Silent d n n')

variable {P : Prop}

/-- Where the condition fails, silence is what is asked for. -/
theorem OriginatesIf.of_not (hP : ¬ P) (h : Silent d n n') : OriginatesIf P d n n' :=
  ⟨fun hp => absurd hp hP, fun _ => h⟩

theorem OriginatesIf.of_originates (hP : P) (h : Originates d n n') : OriginatesIf P d n n' :=
  ⟨fun _ => h, fun hp => absurd hP hp⟩

theorem OriginatesIf.iff (h : OriginatesIf P d n n') : Originates d n n' ↔ P := by
  by_cases hP : P
  · exact iff_of_true (h.1 hP) hP
  · exact iff_of_false (h.2 hP).not_originates hP

/-- What was sent before does not matter. -/
theorem OriginatesIf.after {n₁ : Node SecretKey PublicKey ν μ} (h : OriginatesIf P d n₁ n')
    (hn : Silent d n n₁) : OriginatesIf P d n n' := by
  obtain ⟨before, hbefore, hsilent⟩ := hn
  constructor
  · intro hP
    obtain ⟨es, hes, e, he, herror⟩ := h.1 hP
    refine ⟨before ++ es, ?_, e, List.mem_append_right _ he, herror⟩
    rw [hes, hbefore, List.append_assoc]
  · intro hP
    obtain ⟨es, hes, hsilent'⟩ := h.2 hP
    refine ⟨before ++ es, ?_, List.forall_mem_append.mpr ⟨hsilent, hsilent'⟩⟩
    rw [hes, hbefore, List.append_assoc]

/-! ## Forwarding -/

section Forwarding

variable (env : Env SecretKey)

/-- What `send_routing_error` says. -/
def routingSignal (my : NodeAddr) (original : SessionDatagram) : Bytes :=
  match env.cachedCoords original.destAddr with
  | some coords => (PathBroken.mk original.destAddr my (some coords)).encode
  | none => (CoordsRequired.mk original.destAddr my).encode

/-- Both answers of `send_routing_error` are error signals. -/
theorem isErrorSignal_routingSignal (my : NodeAddr) (original : SessionDatagram) :
    isErrorSignal (routingSignal env my original) = true := by
  unfold routingSignal
  split
  · exact isErrorSignal_withPrefix (.inr (.inl rfl))
  · exact isErrorSignal_withPrefix (.inl rfl)

/-- An error signal on its way to the source of `original`. -/
def errorDatagram (n : Node SecretKey PublicKey ν μ) (original : SessionDatagram) (signal : Bytes) :
    SessionDatagram :=
  (SessionDatagram.new n.nodeAddr original.srcAddr signal).withTtl n.config.defaultTtl

/-- There is a next hop to the source of `original`, and it takes `signal`. -/
def TakesBack (n : Node SecretKey PublicKey ν μ) (original : SessionDatagram) (signal : Bytes) :
    Prop :=
  ∃ back, env.findNextHop original.srcAddr = some back ∧
    env.sendLinkMessage back (errorDatagram n original signal).encode = .ok ()

/-- `d` as it goes on to the next hop. -/
def onward (nextHop : NodeAddr) (d : SessionDatagram) : SessionDatagram :=
  { d with pathMtu := min d.pathMtu (env.linkMtu nextHop) }

/-- `d` is stuck here, and the signal that tells. -/
inductive StuckWith (my : NodeAddr) (d : SessionDatagram) : Bytes → Prop
  | noRoute : env.findNextHop d.destAddr = none → StuckWith my d (routingSignal env my d)
  | tooLarge {nextHop addr : NodeAddr} {packetSize mtu : Nat} :
      env.findNextHop d.destAddr = some nextHop →
      env.sendLinkMessage nextHop (onward env nextHop d).encode =
        .error (.mtuExceeded addr packetSize mtu) →
      StuckWith my d (MtuExceeded.mk d.destAddr my mtu).encode

/-- `d` is stuck here, the limiter allows a signal about its destination, and a link takes it. -/
def AnswersStuck (n : Node SecretKey PublicKey ν μ) (d : SessionDatagram) : Prop :=
  env.routingErrorAllowed d.destAddr = true ∧
    ∃ signal, StuckWith env n.nodeAddr d signal ∧ TakesBack env n d signal

/-- The end of the two error signals. -/
theorem leaves_sendError {original : SessionDatagram} {signal : Bytes}
    (hsignal : isErrorSignal signal = true) (hdest : original.destAddr ≠ n.nodeAddr) :
    Leaves (sendError env original signal)
      (OriginatesIf (TakesBack env n original signal) original n) n := by
  unfold sendError
  dsimp only [Leaves]
  rw [wp_bind_iff, wp_read_iff, wp_bind_iff, wp_read_iff, wp_bind_iff, wp_orElse_iff]
  refine ⟨fun back hback => ?_, fun hback => ?_⟩
  · rw [wp_bind_iff, wp_attempt_iff]
    unfold sendLinkMessage
    cases hsend : env.sendLinkMessage back _ with
    | error e =>
      refine .of_not ?_ (.of_effects rfl)
      rintro ⟨back', hback', hok⟩
      cases hback.symm.trans hback'
      cases hsend.symm.trans hok
    | ok u =>
      refine .of_originates ⟨back, hback, hsend⟩ ⟨_, rfl, _, List.mem_singleton_self _, ?_⟩
      refine newError_encode_iff.mpr ⟨hsignal, fun hpasses => ?_⟩
      -- the signal goes from this node to the source, and `original` is for somebody else
      exact hdest (hpasses.2.1.symm.trans hpasses.1.symm)
  · refine .of_not ?_ (.of_effects rfl)
    rintro ⟨back', hback', -⟩
    cases hback.symm.trans hback'

/-- A routing error goes out if the limiter allows it and there is a way back. -/
theorem leaves_sendRoutingError {original : SessionDatagram}
    (hdest : original.destAddr ≠ n.nodeAddr) :
    Leaves (sendRoutingError env original)
      (OriginatesIf (env.routingErrorAllowed original.destAddr = true ∧
        TakesBack env n original (routingSignal env n.nodeAddr original)) original n) n := by
  unfold sendRoutingError
  refine wp_body_of_wp ?_
  by_cases hallowed : env.routingErrorAllowed original.destAddr = true
  · rw [if_neg (by simpa using hallowed), wp_bind_iff, wp_read_iff]
    simp only [hallowed, true_and]
    exact leaves_sendError env (isErrorSignal_routingSignal env n.nodeAddr original) hdest
  · rw [if_pos (by simpa using hallowed)]
    exact .of_not (fun h => hallowed h.1) (.of_effects rfl)

/-- An MTU error goes out if the limiter allows it and there is a way back. -/
theorem leaves_sendMtuExceededError {original : SessionDatagram} (mtu : Nat)
    (hdest : original.destAddr ≠ n.nodeAddr) :
    Leaves (sendMtuExceededError env original mtu)
      (OriginatesIf (env.routingErrorAllowed original.destAddr = true ∧
        TakesBack env n original (MtuExceeded.mk original.destAddr n.nodeAddr mtu).encode)
        original n) n := by
  have hsignal : isErrorSignal (MtuExceeded.mk original.destAddr n.nodeAddr mtu).encode = true :=
    isErrorSignal_withPrefix (.inr (.inr rfl))
  unfold sendMtuExceededError
  refine wp_body_of_wp ?_
  by_cases hallowed : env.routingErrorAllowed original.destAddr = true
  · rw [if_neg (by simpa using hallowed), wp_bind_iff, wp_read_iff]
    simp only [hallowed, true_and]
    exact leaves_sendError env hsignal hdest
  · rw [if_pos (by simpa using hallowed)]
    exact .of_not (fun h => hallowed h.1) (.of_effects rfl)

theorem answersStuck_iff_of_none (hnext : env.findNextHop d.destAddr = none) :
    AnswersStuck env n d ↔ env.routingErrorAllowed d.destAddr = true ∧
      TakesBack env n d (routingSignal env n.nodeAddr d) := by
  refine and_congr_right fun _ => ⟨?_, fun h => ⟨_, .noRoute hnext, h⟩⟩
  rintro ⟨_, hstuck, htakes⟩
  cases hstuck with
  | noRoute _ => exact htakes
  | tooLarge hsome _ => cases hnext.symm.trans hsome

theorem answersStuck_iff_of_some {nextHop : NodeAddr}
    (hnext : env.findNextHop d.destAddr = some nextHop) :
    AnswersStuck env n d ↔ ∃ addr packetSize mtu,
      env.sendLinkMessage nextHop (onward env nextHop d).encode =
        .error (.mtuExceeded addr packetSize mtu) ∧
      env.routingErrorAllowed d.destAddr = true ∧
      TakesBack env n d (MtuExceeded.mk d.destAddr n.nodeAddr mtu).encode := by
  constructor
  · rintro ⟨hallowed, _, hstuck, htakes⟩
    cases hstuck with
    | noRoute hnone => cases hnext.symm.trans hnone
    | tooLarge hsome hlarge =>
      cases hnext.symm.trans hsome
      exact ⟨_, _, _, hlarge, hallowed, htakes⟩
  · rintro ⟨_, _, _, hlarge, hallowed, htakes⟩
    exact ⟨hallowed, _, .tooLarge hnext hlarge, htakes⟩

/-- **Forwarding** answers what is stuck, and nothing else. -/
theorem leaves_forwardDatagram (incomingCe : Bool) (hdest : d.destAddr ≠ n.nodeAddr) :
    Leaves (forwardDatagram env d incomingCe) (OriginatesIf (AnswersStuck env n d) d n) n := by
  unfold forwardDatagram
  cases hnext : env.findNextHop d.destAddr with
  | none =>
    simp only [answersStuck_iff_of_none env hnext]
    exact leaves_sendRoutingError env hdest
  | some nextHop =>
    have hstuck := answersStuck_iff_of_some (n := n) env hnext
    dsimp only [Leaves]
    rw [wp_bind_iff, wp_attempt_iff]
    unfold sendLinkMessage
    cases hsend : env.sendLinkMessage nextHop _ with
    | ok u =>
      have hpasses : ¬ NewError d (.sentLinkMessage nextHop (onward env nextHop d).encode
          (incomingCe || env.congested nextHop) : Effect PublicKey) :=
        fun h => (newError_encode_iff.mp h).2 ⟨rfl, rfl, rfl⟩
      refine .of_not (fun h => ?_) ((Silent.of_effects rfl).append hpasses rfl)
      obtain ⟨_, _, _, hlarge, -⟩ := hstuck.mp h
      cases hsend.symm.trans hlarge
    | error e =>
      cases e with
      | mtuExceeded addr packetSize mtu =>
        have hthis : AnswersStuck env n d ↔ env.routingErrorAllowed d.destAddr = true ∧
            TakesBack env n d (MtuExceeded.mk d.destAddr n.nodeAddr mtu).encode := by
          refine hstuck.trans ⟨?_, fun h => ⟨_, _, _, hsend, h⟩⟩
          rintro ⟨_, _, _, hlarge, h⟩
          cases hsend.symm.trans hlarge
          exact h
        simp only [hthis]
        exact leaves_sendMtuExceededError env mtu hdest
      | _ =>
        refine .of_not (fun h => ?_) (.of_effects rfl)
        obtain ⟨_, _, _, hlarge, -⟩ := hstuck.mp h
        cases hsend.symm.trans hlarge

end Forwarding

/-! ## Delivery -/

section Delivery

variable [ChaCha20Poly1305] [SessionMmp μ] (env : Env SecretKey)

/-- Frames sealed without the U flag are not error signals. -/
theorem sessionRules_silent (d : SessionDatagram) (n : Node SecretKey PublicKey ν μ) :
    SessionRules (fun flags _ => hasFlag flags FSP_FLAG_U = false) (Silent d n) where
  note _ _ _ _ hn := hn
  advance _ _ _ _ _ _ _ _ hn := hn
  frame n' nextHop sent e counter flags len tail _ _ hpayload hflags hn := by
    refine hn.append (fun herror => ?_) rfl
    have hsignal := (newError_encode_iff.mp herror).1
    rw [hpayload, isErrorSignal_buildFspHeader hflags] at hsignal
    cases hsignal
  effect _ _ he _ hn := hn.append (not_newError_of_isLocal he) rfl
  pings _ _ hn := hn

variable [Sha256] [HkdfSha256] [Secp256k1 SecretKey PublicKey]

/-- A delivered error signal is answered with a sealed warmup at most. -/
theorem leaves_handleSessionPayload (src : NodeAddr) {payload : Bytes}
    (hsignal : isErrorSignal payload = true) (pathMtu : Nat) (ceFlag : Bool) (hn : Silent d n n') :
    Leaves (handleSessionPayload env src payload pathMtu ceFlag) (Silent d n) n' := by
  have hrules : SessionRules _ (Silent d n) := sessionRules_silent d n
  have hwarm : ∀ dest, Keeps (Silent d n) (warmUp env dest : Handler SecretKey PublicKey ν μ Unit) :=
    fun dest => keeps_warmUp env (hrules.keeps_sendCoordsWarmup env (fun _ => rfl) dest)
  unfold handleSessionPayload
  refine wp_body_of_wp ?_
  rw [wp_bind_iff, wp_orReturn_iff]
  refine ⟨fun pre hpre => ?_, fun _ => hn, fun _ => hn⟩
  obtain ⟨hphase, hplain⟩ := phase_of_isErrorSignal hsignal hpre
  rw [wp_bind_iff, wp_orReturn_iff]
  refine ⟨fun inner _ => ?_, fun _ => hn, fun _ => hn⟩
  rw [hphase, if_neg (by decide), if_neg (by decide), if_neg (by decide), if_pos (by decide),
    if_pos hplain]
  split_ifs
  · exact hn
  · rw [wp_bind_iff, wp_orReturn_iff]
    refine ⟨fun errorType _ => ?_, fun _ => hn, fun _ => hn⟩
    rw [wp_bind_iff, wp_orReturn_iff]
    refine ⟨fun errorBody _ => ?_, fun _ => hn, fun _ => hn⟩
    split
    · exact (hrules.receives.keeps_handleCoordsRequired env hwarm errorBody).wp hn
    · exact (hrules.receives.keeps_handlePathBroken env hwarm errorBody).wp hn
    · exact (hrules.receives.keeps_handleMtuExceeded env errorBody).wp hn
    · exact hn

/-! ## The handler -/

/-- `d` gets past the hop limit and the cache warming, is for another node, and is stuck. -/
def Answers (n : Node SecretKey PublicKey ν μ) (d : SessionDatagram) : Prop :=
  ∃ d', d.decrementTtl = some d' ∧ Warms d' ∧ d'.destAddr ≠ n.nodeAddr ∧ AnswersStuck env n d'

/-- **What an error signal makes a node send.** -/
theorem leaves_handleSessionDatagram {payload : Bytes} (incomingCe : Bool)
    (hdecode : SessionDatagram.decode payload = .ok d) (hsignal : isErrorSignal d.payload = true)
    (n : Node SecretKey PublicKey ν μ) :
    Leaves (handleSessionDatagram env payload incomingCe)
      (OriginatesIf (Answers env n d) d n) n := by
  have hsilent : ∀ n', ¬ Answers env n d → Silent d n n' → OriginatesIf (Answers env n d) d n n' :=
    fun n' => .of_not
  unfold handleSessionDatagram
  refine wp_body_of_wp ?_
  rw [hdecode, wp_bind_iff, wp_orReturn_ok, wp_bind_iff, wp_orElse_iff]
  refine ⟨fun d' hd' => ?_, fun hspent => hsilent n ?_ (.of_effects rfl)⟩
  swap
  · rintro ⟨d', hd', -⟩
    cases hspent.symm.trans hd'
  have hanswers : Answers env n d ↔ Warms d' ∧ d'.destAddr ≠ n.nodeAddr ∧ AnswersStuck env n d' := by
    refine ⟨?_, fun h => ⟨d', hd', h⟩⟩
    rintro ⟨_, hsome, h⟩
    cases hd'.symm.trans hsome
    exact h
  have hpassed : d' = { d with ttl := d.ttl - 1 } := by
    unfold SessionDatagram.decrementTtl at hd'
    split_ifs at hd'
    exact (Option.some.inj hd').symm
  rw [wp_bind_iff]
  refine wp_mono (fun _ n₁ hn₁ => ?_) (fun e n₁ hn₁ => ?_) (wp_tryWarmCoordCache d')
  · obtain ⟨hwarms, hcaches⟩ := hn₁
    have hfirst : Silent d n n₁ := hcaches.silent
    obtain ⟨es, rfl, -⟩ := hcaches
    subst hpassed
    rw [wp_bind_iff, wp_read_iff]
    split_ifs with hmy
    · have hlocal : ¬ Answers env n d := fun h => (hanswers.mp h).2.1 (beq_iff_eq.mp hmy)
      exact wp_mono (fun _ n₂ => hsilent n₂ hlocal) (fun _ n₂ => hsilent n₂ hlocal)
        (leaves_handleSessionPayload env d.srcAddr hsignal d.pathMtu incomingCe hfirst)
    · have hdest : d.destAddr ≠ n.nodeAddr := mt beq_iff_eq.mpr hmy
      have hstuck : Answers env n d ↔ AnswersStuck env n { d with ttl := d.ttl - 1 } :=
        hanswers.trans ⟨fun h => h.2.2, fun h => ⟨hwarms, hdest, h⟩⟩
      rw [hstuck]
      refine wp_mono (fun _ n₂ h => ?_) (fun _ n₂ h => ?_)
        (leaves_forwardDatagram env incomingCe hdest)
      · exact OriginatesIf.after h hfirst
      · exact OriginatesIf.after h hfirst
  · obtain ⟨rfl, hshort, rfl⟩ := hn₁
    exact hsilent n₁ (fun h => hshort (hanswers.mp h).1) (.of_effects rfl)

/-- **An error signal makes a node originate none** exactly when the node does not answer it. -/
theorem not_originates_iff {payload : Bytes} (incomingCe : Bool)
    (hdecode : SessionDatagram.decode payload = .ok d) (hsignal : isErrorSignal d.payload = true)
    (n : Node SecretKey PublicKey ν μ) :
    ¬ Originates d n (handleSessionDatagram env payload incomingCe n).1 ↔ ¬ Answers env n d :=
  not_congr (OriginatesIf.iff (fst_of_wp
    (leaves_handleSessionDatagram env incomingCe hdecode hsignal n)))

end Delivery

end Node

/-! ## A signal that is stuck -/

namespace Sample

open Node

/-- Node 1 reports to node 3, through node 2, that node 4 is not to be found. -/
def signalOnward : SessionDatagram :=
  (SessionDatagram.new (addr 1) (addr 3) (CoordsRequired.mk (addr 4) (addr 1)).encode).withTtl 5

/-- Node 2 with next hops to the given nodes only. -/
def routesTo (reachable : List NodeAddr) : Env Scalar :=
  { env 2 0 ⟨5⟩ with findNextHop := fun dest => if dest ∈ reachable then some dest else none }

/-- With a route onward the signal is passed on, and nothing is added. -/
theorem not_originates_routed :
    SessionDatagram.decode signalOnward.encode.tail = .ok signalOnward ∧
      ¬ Originates signalOnward (node 2 ⟨5⟩)
        (handleSessionDatagram (routesTo [addr 3]) signalOnward.encode.tail false (node 2 ⟨5⟩)).1 := by
  have hdecode : SessionDatagram.decode signalOnward.encode.tail = .ok signalOnward :=
    signalOnward.decode_encode
  refine ⟨hdecode, (not_originates_iff (routesTo [addr 3]) false hdecode (by decide) _).mpr ?_⟩
  rintro ⟨d', hd', -, -, -, signal, -, back, hback, -⟩
  cases hd'
  cases hback

/-- **Failing case**: there is no way on to node 3, and one back to node 1. -/
theorem stuck_signal_answered :
    SessionDatagram.decode signalOnward.encode.tail = .ok signalOnward ∧
      isErrorSignal signalOnward.payload = true ∧
      (routesTo [addr 1]).findNextHop signalOnward.destAddr = none ∧
      Originates signalOnward (node 2 ⟨5⟩)
        (handleSessionDatagram (routesTo [addr 1]) signalOnward.encode.tail false (node 2 ⟨5⟩)).1 := by
  refine ⟨signalOnward.decode_encode, by decide, by decide, [.sentLinkMessage (addr 1)
    (errorDatagram (node 2 ⟨5⟩) signalOnward (routingSignal (routesTo [addr 1]) (addr 2)
      signalOnward)).encode false], rfl, _, List.mem_singleton_self _, ?_⟩
  exact newError_encode_iff.mpr ⟨by decide, by decide⟩

end Sample

end Fips
