import Fips.Node.QueueOwners
import Fips.Node.Sample

/-!
# Forged handshake messages

Anybody can send a session handshake message under another node's address. The first message of XK
carries nothing of its sender's static key; the second and the third do, and one that does not
open is forged. What a handler does with such a message decides whether the session or the handshake
that it finds survives.

The results are about every message, forged or not: a message that completes the handshake does not
destroy it.

## Results

* `leaves_onSessionSetup`, `leaves_onSessionAck`, `leaves_onSessionMsg3`: what the handlers leave of
  the state of a session.
* `survives_iff`: the session or handshake survives a handshake message exactly when the message does
  not destroy it (`Destroys`).
* `forged_ack_destroys`: an acknowledgement that does not open removes the handshake.
-/

open Checked

namespace Fips

/-- The handshake messages of the session layer. -/
inductive SessionHandshake
  | setup (setup : SessionSetup)
  | ack (ack : SessionAck)
  | msg3 (msg3 : SessionMsg3)
  deriving DecidableEq

namespace Node

variable {SecretKey PublicKey ν μ : Type} {n n' : Node SecretKey PublicKey ν μ} {src : NodeAddr}

/-! ## The state of a session -/

/-- The state of the session with `src`, if there is one and it is not taken out. -/
def sessionState (n : Node SecretKey PublicKey ν μ) (src : NodeAddr) :
    Option (EndToEndState SecretKey PublicKey) := (n.sessions.lookup src).bind (·.state)

/-- The session with `src` is established. -/
def EstablishedAt (src : NodeAddr) (n : Node SecretKey PublicKey ν μ) : Prop :=
  ∃ session, n.sessionState src = some (.established session)

/-- The session with `src` awaits its third message. -/
def AwaitingAt (src : NodeAddr) (n : Node SecretKey PublicKey ν μ) : Prop :=
  ∃ handshake, n.sessionState src = some (.awaitingMsg3 handshake)

/-- The state of the session is that of its entry. -/
theorem sessionState_of_lookup {e : SessionEntry SecretKey PublicKey μ}
    (he : n.sessions.lookup src = some e) : n.sessionState src = e.state := by
  unfold sessionState
  rw [he, Option.bind_some]

theorem establishedAt_iff : EstablishedAt src n ↔
    (n.sessions.lookup src).any (·.isEstablished) = true := by
  unfold EstablishedAt sessionState
  cases n.sessions.lookup src with
  | none => simp
  | some e => exact SessionEntry.isEstablished_iff.symm

instance (src : NodeAddr) (n : Node SecretKey PublicKey ν μ) : Decidable (EstablishedAt src n) :=
  decidable_of_iff _ establishedAt_iff.symm

/-- An entry that is not established is in a handshake. -/
theorem handshaking_iff : n.Handshaking src ↔
    (n.sessions.lookup src).isSome ∧ ¬ EstablishedAt src n := by
  rw [establishedAt_iff]
  unfold Handshaking SessionEntry.inHandshake
  cases n.sessions.lookup src <;> simp

theorem sessionState_put (n : Node SecretKey PublicKey ν μ) (src : NodeAddr)
    (e : SessionEntry SecretKey PublicKey μ) :
    sessionState { n with sessions := n.sessions.insert src e } src = e.state :=
  sessionState_of_lookup (AList.lookup_insert _)

/-- An entry that is taken out has no state. -/
theorem sessionState_take (n : Node SecretKey PublicKey ν μ) (src : NodeAddr) :
    sessionState { n with sessions := n.sessions.erase src } src = none := by
  unfold sessionState
  rw [AList.lookup_erase, Option.bind_none]

/-- A change that leaves every entry's state leaves all states. -/
theorem sessionState_modify
    {f : SessionEntry SecretKey PublicKey μ → SessionEntry SecretKey PublicKey μ}
    (hf : ∀ e, (f e).state = e.state) (n : Node SecretKey PublicKey ν μ) (addr src : NodeAddr) :
    sessionState { n with sessions := n.sessions.modify addr f } src = n.sessionState src := by
  unfold sessionState
  rw [Map.lookup_modify]
  split_ifs with h
  · subst h
    cases n.sessions.lookup src with
    | none => rfl
    | some e => exact hf e
  · rfl

/-- The same node, with `state` at `src`. -/
structure Holds (n : Node SecretKey PublicKey ν μ) (src : NodeAddr)
    (state : Option (EndToEndState SecretKey PublicKey)) (n' : Node SecretKey PublicKey ν μ) :
    Prop where
  identity : n'.identity = n.identity
  config : n'.config = n.config
  state : n'.sessionState src = state

/-- The same node, with the same state at `src`. -/
abbrev Alike (n : Node SecretKey PublicKey ν μ) (src : NodeAddr) :
    Node SecretKey PublicKey ν μ → Prop := Holds n src (n.sessionState src)

/-- While the entry is out, nothing is established. -/
theorem Holds.not_establishedAt (h : Holds n src none n') : ¬ EstablishedAt src n' := by
  rintro ⟨session, hstate⟩
  cases h.state.symm.trans hstate

/-- A session that awaits its third message is not established. -/
theorem AwaitingAt.not_establishedAt (h : AwaitingAt src n) : ¬ EstablishedAt src n := by
  obtain ⟨handshake, hawaiting⟩ := h
  rintro ⟨session, hstate⟩
  cases hawaiting.symm.trans hstate

theorem Alike.establishedAt_iff (h : Alike n src n') : EstablishedAt src n' ↔ EstablishedAt src n := by
  unfold EstablishedAt
  rw [h.state]

section Sends

variable {state : Option (EndToEndState SecretKey PublicKey)} {ε : Type}

theorem Alike.refl (n : Node SecretKey PublicKey ν μ) (src : NodeAddr) : Alike n src n :=
  ⟨rfl, rfl, rfl⟩

theorem Holds.put (h : Holds n src state n') (e : SessionEntry SecretKey PublicKey μ) :
    Holds n src e.state { n' with sessions := n'.sessions.insert src e } :=
  ⟨h.identity, h.config, sessionState_put n' src e⟩

theorem Holds.take (h : Holds n src state n') :
    Holds n src none { n' with sessions := n'.sessions.erase src } :=
  ⟨h.identity, h.config, sessionState_take n' src⟩

/-- An entry is put back with the state it had. -/
theorem Holds.putBack {e e' : SessionEntry SecretKey PublicKey μ}
    (he : n.sessions.lookup src = some e) (hstate : e'.state = e.state)
    (h : Holds n src state n') :
    Alike n src { n' with sessions := n'.sessions.insert src e' } :=
  ⟨h.identity, h.config,
    (sessionState_put n' src e').trans (hstate.trans (sessionState_of_lookup he).symm)⟩

theorem keeps_holds_modifySession {addr : NodeAddr}
    {f : SessionEntry SecretKey PublicKey μ → SessionEntry SecretKey PublicKey μ}
    (hf : ∀ e, (f e).state = e.state) :
    Keeps (Holds n src state) (modifySession addr f : M SecretKey PublicKey ν μ ε Unit) :=
  fun n' h => ⟨h.identity, h.config, (sessionState_modify hf n' addr src).trans h.state⟩

variable [SessionMmp μ]

theorem keeps_holds_sendSessionPayload (env : Env SecretKey) (dest : NodeAddr) (payload : Bytes) :
    Keeps (Holds n src state)
      (sendSessionPayload env dest payload : M SecretKey PublicKey ν μ SendError Unit) :=
  keeps_sendSessionPayload_of_note env dest payload
    (fun n' _ hf h => keeps_holds_modifySession (ε := Unit) (fun e => (hf e).state) n' h)
    fun _ _ _ _ _ h => ⟨h.identity, h.config, h.state⟩

end Sends

variable [Sha256] [HkdfSha256] [ChaCha20Poly1305] [Secp256k1 SecretKey PublicKey] [SessionMmp μ]
variable (env : Env SecretKey)

/-! ## SessionSetup -/

/-- The first message has its size, it can be answered, and the answer reaches a next hop. -/
def CanAnswer (n : Node SecretKey PublicKey ν μ) (src : NodeAddr) (setup : SessionSetup) : Prop :=
  ∃ handshake msg2, xkRespond env src n setup.handshakePayload = .ok (handshake, msg2) ∧
    Reaches env n src ((SessionAck.new env.myCoords setup.srcCoords).withHandshake msg2).encode

/-- A setup that can be answered leaves an entry that awaits its third message, and no other one
leaves anything. -/
theorem leaves_acceptSetup (n : Node SecretKey PublicKey ν μ) (src : NodeAddr)
    (setup : SessionSetup) :
    Leaves (acceptSetup env src setup) (fun n' => CanAnswer env n src setup ∧ AwaitingAt src n' ∨
      ¬ CanAnswer env n src setup ∧ Alike n src n') n := by
  unfold acceptSetup
  dsimp only [Leaves]
  rw [wp_bind_iff, wp_read_iff, wp_bind_iff, wp_orReturn_iff]
  refine ⟨fun answer hanswer => ?_, fun ⟨_, herror⟩ => .inr ⟨?_, .refl n src⟩,
    fun hpanic => .inr ⟨?_, .refl n src⟩⟩
  · obtain ⟨handshake, msg2⟩ := answer
    dsimp only
    rw [wp_bind_iff, wp_attempt_iff]
    have hunreached : ¬ Reaches env n src
        ((SessionAck.new env.myCoords setup.srcCoords).withHandshake msg2).encode →
        ¬ CanAnswer env n src setup := by
      rintro hunreached ⟨_, _, hanswer', hreaches⟩
      cases hanswer.symm.trans hanswer'
      exact hunreached hreaches
    refine wp_mono (fun _ n' hn' => ?_) (fun e n' hn' => ?_) (wp_sendSessionPayload_reaches env
      (keeps_holds_sendSessionPayload env src _) (Alike.refl n src))
    · dsimp only
      rw [wp_bind_iff, wp_read_iff, wp_putSession_iff]
      exact .inl ⟨⟨handshake, msg2, hanswer, hn'.2⟩, handshake, sessionState_put _ _ _⟩
    · cases e with
      | error e => exact .inr ⟨hunreached hn'.2, hn'.1⟩
      | panic => exact .inr ⟨hunreached hn'.2, hn'.1⟩
  · rintro ⟨_, _, hanswer, -⟩
    cases herror.symm.trans hanswer
  · rintro ⟨_, _, hanswer, -⟩
    cases hpanic.symm.trans hanswer

/-- A rekey leaves the state of the session that it renews. -/
theorem keeps_holds_acceptRekey {state : Option (EndToEndState SecretKey PublicKey)}
    (setup : SessionSetup) (existing : SessionEntry SecretKey PublicKey μ) :
    Keeps (Holds n src state)
      (acceptRekey env src setup existing : Handler SecretKey PublicKey ν μ Unit) := by
  refine keeps_acceptRekey env (fun _ => keeps_holds_sendSessionPayload env src _) ?_ ?_ existing
  · exact keeps_holds_modifySession fun _ => rfl
  · intro handshake
    exact keeps_holds_modifySession fun _ => rfl

/-- The session or handshake with `src` makes room for one that `src` begins. -/
def givesWay (n : Node SecretKey PublicKey ν μ) (src : NodeAddr) : Bool :=
  match n.sessionState src with
  | some (.initiating _) => !decide (n.nodeAddr < src)
  | some (.awaitingMsg3 _) => false
  | some (.established _) => !n.config.rekeyEnabled
  | none => true

/-- A setup is taken as the beginning of a new session. -/
structure BeginsAnew (n : Node SecretKey PublicKey ν μ) (src : NodeAddr) (setup : SessionSetup) :
    Prop where
  size : setup.handshakePayload.length = XK_HANDSHAKE_MSG1_SIZE
  givesWay : n.givesWay src = true
  canAnswer : CanAnswer env n src setup

/-- **A setup** begins a new session, or leaves the state as it is. -/
theorem leaves_onSessionSetup (n : Node SecretKey PublicKey ν μ) (src : NodeAddr)
    (setup : SessionSetup) :
    Leaves (onSessionSetup env src setup) (fun n' => BeginsAnew env n src setup ∧ AwaitingAt src n' ∨
      ¬ BeginsAnew env n src setup ∧ Alike n src n') n := by
  have hsame : ¬ BeginsAnew env n src setup → BeginsAnew env n src setup ∧ AwaitingAt src n ∨
      ¬ BeginsAnew env n src setup ∧ Alike n src n := fun h => .inr ⟨h, .refl n src⟩
  unfold onSessionSetup
  by_cases hlen : setup.handshakePayload.length = XK_HANDSHAKE_MSG1_SIZE
  swap
  · rw [if_pos (by simpa using hlen)]
    exact hsame fun h => hlen h.size
  have haccept : n.givesWay src = true → Leaves (acceptSetup env src setup)
      (fun n' => BeginsAnew env n src setup ∧ AwaitingAt src n' ∨
        ¬ BeginsAnew env n src setup ∧ Alike n src n') n := by
    intro hgives
    have hiff : BeginsAnew env n src setup ↔ CanAnswer env n src setup :=
      ⟨fun h => h.canAnswer, fun h => ⟨hlen, hgives, h⟩⟩
    simp only [hiff]
    exact leaves_acceptSetup env n src setup
  have hkeeps : n.givesWay src = false → ∀ m : Handler SecretKey PublicKey ν μ Unit,
      Keeps (Alike n src) m → Leaves m (fun n' => BeginsAnew env n src setup ∧ AwaitingAt src n' ∨
        ¬ BeginsAnew env n src setup ∧ Alike n src n') n := by
    intro hstays m hm
    have hnot : ¬ BeginsAnew env n src setup := fun h =>
      Bool.false_ne_true (hstays.symm.trans h.givesWay)
    exact wp_mono (fun _ _ h => .inr ⟨hnot, h⟩) (fun _ _ h => .inr ⟨hnot, h⟩) (hm.wp (.refl n src))
  dsimp only [Leaves]
  rw [if_neg (by simpa using hlen), wp_bind_iff, wp_read_iff]
  unfold givesWay at haccept hkeeps
  cases hlookup : n.sessions.lookup src with
  | none =>
    rw [show n.sessionState src = none by rw [sessionState, hlookup, Option.bind_none]] at haccept
    exact haccept rfl
  | some e =>
    rw [sessionState_of_lookup hlookup] at haccept hkeeps
    dsimp only
    rw [wp_bind_iff, wp_read_iff, wp_bind_iff, wp_read_iff]
    cases hstate : e.state with
    | none =>
      rw [hstate] at haccept
      rw [if_neg (by simp [SessionEntry.isInitiating, hstate]),
        if_neg (by simp [SessionEntry.isAwaitingMsg3, hstate]),
        if_neg (by simp [SessionEntry.isEstablished, hstate])]
      exact haccept rfl
    | some state =>
      rw [hstate] at haccept hkeeps
      cases state with
      | initiating handshake =>
        rw [if_pos (SessionEntry.isInitiating_iff.mpr ⟨handshake, hstate⟩)]
        split_ifs with hmy
        · exact hkeeps (by simpa using hmy) _ (keeps_stop _)
        · exact haccept (by simpa using hmy)
      | awaitingMsg3 handshake =>
        rw [if_neg (by simp [SessionEntry.isInitiating, hstate, EndToEndState.isInitiating]),
          if_pos (SessionEntry.isAwaitingMsg3_iff.mpr ⟨handshake, hstate⟩)]
        refine hkeeps rfl _ ?_
        cases e.handshakePayload with
        | none => exact keeps_pure _
        | some payload =>
          exact (keeps_holds_sendSessionPayload env src payload).attempt.bind fun _ => keeps_pure _
      | established session =>
        rw [if_neg (by simp [SessionEntry.isInitiating, hstate, EndToEndState.isInitiating]),
          if_neg (by simp [SessionEntry.isAwaitingMsg3, hstate, EndToEndState.isAwaitingMsg3]),
          SessionEntry.isEstablished_iff.mpr ⟨session, hstate⟩, Bool.true_and]
        split_ifs with hrekey
        · exact hkeeps (by simpa using hrekey) _ (keeps_holds_acceptRekey env setup e)
        · exact haccept (by simpa using hrekey)

/-! ## SessionAck -/

omit [Sha256] [HkdfSha256] [Secp256k1 SecretKey PublicKey] in
/-- A flush leaves its session established. -/
theorem keeps_establishedAt_flushPendingPackets (src : NodeAddr) :
    Keeps (EstablishedAt src) (flushPendingPackets env src : Handler SecretKey PublicKey ν μ Unit) := by
  have hrules : SendRules (fun _ _ => True)
      (EstablishedAt src : Node SecretKey PublicKey ν μ → Prop) := by
    refine ⟨fun n addr f hf hn => ?_, fun n addr e session inner header he hstate hn => ?_,
      fun _ _ _ _ _ _ _ _ _ _ _ _ hn => hn⟩
    · obtain ⟨session, hn⟩ := hn
      exact ⟨session, (sessionState_modify (fun e => (hf e).state) n addr src).trans hn⟩
    · by_cases haddr : src = addr
      · subst haddr
        exact ⟨_, sessionState_put n src _⟩
      · obtain ⟨session', hn⟩ := hn
        refine ⟨session', ?_⟩
        unfold sessionState at hn ⊢
        rwa [AList.lookup_insert_ne haddr]
  refine keeps_flushPendingPackets env (fun _ hn => hn) fun packet => keeps_sendIpv6Packet env
    (fun _ _ _ => ?_) packet
  exact hrules.keeps_sendSessionData env (fun _ _ => trivial)
    (hrules.keeps_sendCoordsWarmup env fun _ => trivial) _ _ _ _

/-- **An acknowledgement** that our handshake waits for completes it, or the entry is gone. -/
theorem leaves_onSessionAck_initiating {handshake : HandshakeState SecretKey PublicKey}
    (hstate : n.sessionState src = some (.initiating handshake)) {ack : SessionAck}
    (hlen : ack.handshakePayload.length = XK_HANDSHAKE_MSG2_SIZE) :
    Leaves (onSessionAck env src ack) (fun n' =>
      FinishesAsInitiator env n src ack.handshakePayload handshake ∧ EstablishedAt src n' ∨
      ¬ FinishesAsInitiator env n src ack.handshakePayload handshake ∧ Holds n src none n') n := by
  unfold onSessionAck
  dsimp only [Leaves]
  rw [if_neg (by simpa using hlen), wp_bind_iff, wp_takeSession_iff]
  refine ⟨fun e he => ?_, fun hnone => ?_⟩
  swap
  · rw [sessionState, hnone, Option.bind_none] at hstate
    cases hstate
  rw [sessionState_of_lookup he] at hstate
  rw [if_neg (by simp [SessionEntry.isEstablished, hstate, EndToEndState.isEstablished]),
    if_neg (by simp [SessionEntry.isInitiating, hstate, EndToEndState.isInitiating]), hstate]
  dsimp only
  rw [wp_bind_iff]
  refine wp_mono (fun session n' hn' => ?_) (fun _ n' hn' => .inr ⟨hn'.2, hn'.1⟩)
    (wp_finishAsInitiator env (keeps_holds_sendSessionPayload env src) (Alike.refl n src).take)
  rw [wp_bind_iff, wp_read_iff, wp_bind_iff, wp_putSession_iff, wp_bind_iff, wp_cacheCoords_iff]
  refine wp_mono (fun _ _ h => .inl ⟨hn'.2, h⟩) (fun _ _ h => .inl ⟨hn'.2, h⟩)
    ((keeps_establishedAt_flushPendingPackets env src).wp ?_)
  exact ⟨session, sessionState_put _ _ _⟩

/-- One that it does not wait for is ignored. -/
theorem leaves_onSessionAck_idle {ack : SessionAck} (hestablished : ¬ EstablishedAt src n)
    (hidle : ∀ handshake, n.sessionState src = some (.initiating handshake) →
      ack.handshakePayload.length ≠ XK_HANDSHAKE_MSG2_SIZE) :
    Leaves (onSessionAck env src ack) (Alike n src) n := by
  unfold onSessionAck
  dsimp only [Leaves]
  by_cases hlen : ack.handshakePayload.length = XK_HANDSHAKE_MSG2_SIZE
  swap
  · rw [if_pos (by simpa using hlen)]
    exact .refl n src
  rw [if_neg (by simpa using hlen), wp_bind_iff, wp_takeSession_iff]
  refine ⟨fun e he => ?_, fun _ => .refl n src⟩
  have hopen : e.isEstablished ≠ true := by
    intro h
    obtain ⟨session, hstate⟩ := SessionEntry.isEstablished_iff.mp h
    exact hestablished ⟨session, (sessionState_of_lookup he).trans hstate⟩
  have hother : e.isInitiating ≠ true := by
    intro h
    obtain ⟨handshake, hstate⟩ := SessionEntry.isInitiating_iff.mp h
    exact hidle handshake ((sessionState_of_lookup he).trans hstate) hlen
  rw [if_neg (by simp [hopen]), if_pos (by simpa using hother)]
  exact (Alike.refl n src).take.putBack he rfl

/-- Finishing the rekey handshake that an acknowledgement answers stops the program: a key or the
epoch is missing, or the cipher opens to another length. -/
def AckStops (n : Node SecretKey PublicKey ν μ) (src : NodeAddr) (ack : SessionAck) : Prop :=
  ∃ e handshake, n.sessions.lookup src = some e ∧
    (e.isEstablished && e.hasRekeyInProgress && e.rekeyInitiator) = true ∧
    e.rekeyState = some handshake ∧ ack.handshakePayload.length = XK_HANDSHAKE_MSG2_SIZE ∧
    (finishAsInitiator env src ack.handshakePayload handshake
      { n with sessions := n.sessions.erase src }).2 = .error .panic

/-- A rekey ends one way or another; the session stays. -/
theorem leaves_onSessionAck_established (hestablished : EstablishedAt src n) (ack : SessionAck) :
    Leaves (onSessionAck env src ack) (fun n' => AckStops env n src ack ∧ Holds n src none n' ∨
      ¬ AckStops env n src ack ∧ Alike n src n') n := by
  obtain ⟨session, hestablished⟩ := hestablished
  unfold onSessionAck
  dsimp only [Leaves]
  by_cases hlen : ack.handshakePayload.length = XK_HANDSHAKE_MSG2_SIZE
  swap
  · rw [if_pos (by simpa using hlen)]
    refine .inr ⟨?_, .refl n src⟩
    rintro ⟨_, _, _, _, _, hlen', -⟩
    exact hlen hlen'
  rw [if_neg (by simpa using hlen), wp_bind_iff, wp_takeSession_iff]
  refine ⟨fun e he => ?_, fun hnone => ?_⟩
  swap
  · rw [sessionState, hnone, Option.bind_none] at hestablished
    cases hestablished
  have htaken := (Alike.refl n src).take
  rw [sessionState_of_lookup he] at hestablished
  by_cases hrekey : (e.isEstablished && e.hasRekeyInProgress && e.rekeyInitiator) = true
  · rw [if_pos hrekey]
    cases hhandshake : e.rekeyState with
    | none => simp [SessionEntry.hasRekeyInProgress, hhandshake] at hrekey
    | some handshake =>
      have hstops : AckStops env n src ack ↔ (finishAsInitiator env src ack.handshakePayload
          handshake { n with sessions := n.sessions.erase src }).2 = .error .panic := by
        refine ⟨?_, fun h => ⟨e, handshake, he, hrekey, hhandshake, hlen, h⟩⟩
        rintro ⟨_, _, he', -, hhandshake', -, h⟩
        cases he.symm.trans he'
        cases hhandshake.symm.trans hhandshake'
        exact h
      rw [hstops]
      dsimp only
      rw [wp_bind_iff, wp_attempt_iff]
      refine wp_mono (fun session n' hn' => ?_) (fun failed n' hn' => ?_) (wp_and_result
        (wp_finishAsInitiator env (keeps_holds_sendSessionPayload env src) htaken))
      · refine .inr ⟨fun hpanic => ?_, hn'.1.1.putBack he rfl⟩
        cases hn'.2.symm.trans hpanic
      · cases failed with
        | error failed =>
          refine .inr ⟨fun hpanic => ?_, hn'.1.1.putBack he rfl⟩
          cases hn'.2.symm.trans hpanic
        | panic => exact .inl ⟨hn'.2, hn'.1.1⟩
  · rw [if_neg hrekey, if_pos (by simp [SessionEntry.isInitiating, hestablished,
      EndToEndState.isInitiating])]
    refine .inr ⟨?_, htaken.putBack he rfl⟩
    rintro ⟨_, _, he', hrekey', -⟩
    cases he.symm.trans he'
    exact hrekey hrekey'

/-! ## SessionMsg3 -/

/-- **A third message** that our handshake waits for completes it, or the entry is gone. -/
theorem leaves_onSessionMsg3_awaiting {handshake : HandshakeState SecretKey PublicKey}
    (hstate : n.sessionState src = some (.awaitingMsg3 handshake)) {msg3 : SessionMsg3}
    (hlen : msg3.handshakePayload.length = XK_HANDSHAKE_MSG3_SIZE) :
    Leaves (onSessionMsg3 env src msg3) (fun n' =>
      FinishesAsResponder msg3.handshakePayload handshake ∧ EstablishedAt src n' ∨
      ¬ FinishesAsResponder msg3.handshakePayload handshake ∧ Holds n src none n') n := by
  unfold onSessionMsg3
  dsimp only [Leaves]
  rw [if_neg (by simpa using hlen), wp_bind_iff, wp_takeSession_iff]
  refine ⟨fun e he => ?_, fun hnone => ?_⟩
  swap
  · rw [sessionState, hnone, Option.bind_none] at hstate
    cases hstate
  have htaken := (Alike.refl n src).take
  rw [sessionState_of_lookup he] at hstate
  rw [if_neg (by simp [SessionEntry.isEstablished, hstate, EndToEndState.isEstablished]),
    if_neg (by simp [SessionEntry.isAwaitingMsg3, hstate, EndToEndState.isAwaitingMsg3]), hstate]
  dsimp only
  rw [wp_bind_iff, wp_orReturn_iff]
  refine ⟨fun closed hclosed => ?_, fun herror => .inr ⟨?_, htaken⟩,
    fun hpanic => .inr ⟨?_, htaken⟩⟩
  · obtain ⟨_, closed⟩ := closed
    dsimp only
    rw [wp_bind_iff, wp_orElse_iff]
    refine ⟨fun remotePubkey hremote => ?_, fun hnone => .inr ⟨?_, htaken⟩⟩
    · rw [wp_bind_iff, wp_registerIdentity_iff, wp_bind_iff, wp_orReturn_iff]
      have hfails : ∀ failed, closed.intoSession = .error failed →
          ¬ FinishesAsResponder msg3.handshakePayload handshake := by
        rintro failed herror ⟨_, _, _, hclosed', -, hsession⟩
        cases hclosed.symm.trans hclosed'
        cases herror.symm.trans hsession
      refine ⟨fun session hsession => ?_, fun herror => .inr ⟨?_, ?_⟩,
        fun hpanic => .inr ⟨hfails _ hpanic, ?_⟩⟩
      · have hfinishes : FinishesAsResponder msg3.handshakePayload handshake :=
          ⟨closed, remotePubkey, session, hclosed, hremote, hsession⟩
        rw [wp_bind_iff, wp_read_iff, wp_bind_iff, wp_putSession_iff]
        refine wp_mono (fun _ _ h => .inl ⟨hfinishes, h⟩) (fun _ _ h => .inl ⟨hfinishes, h⟩)
          ((keeps_establishedAt_flushPendingPackets env src).wp ?_)
        exact ⟨session, sessionState_put _ _ _⟩
      · obtain ⟨_, herror⟩ := herror
        exact hfails _ herror
      · exact ⟨htaken.identity, htaken.config, htaken.state⟩
      · exact ⟨htaken.identity, htaken.config, htaken.state⟩
    · rintro ⟨_, _, _, hclosed', hremote, -⟩
      cases hclosed.symm.trans hclosed'
      cases hnone.symm.trans hremote
  · rintro ⟨_, _, _, hclosed, -⟩
    obtain ⟨_, herror⟩ := herror
    cases herror.symm.trans hclosed
  · rintro ⟨_, _, _, hclosed, -⟩
    cases hpanic.symm.trans hclosed

/-- One that it does not wait for is ignored. -/
theorem leaves_onSessionMsg3_idle {msg3 : SessionMsg3} (hestablished : ¬ EstablishedAt src n)
    (hidle : ∀ handshake, n.sessionState src = some (.awaitingMsg3 handshake) →
      msg3.handshakePayload.length ≠ XK_HANDSHAKE_MSG3_SIZE) :
    Leaves (onSessionMsg3 env src msg3) (Alike n src) n := by
  unfold onSessionMsg3
  dsimp only [Leaves]
  by_cases hlen : msg3.handshakePayload.length = XK_HANDSHAKE_MSG3_SIZE
  swap
  · rw [if_pos (by simpa using hlen)]
    exact .refl n src
  rw [if_neg (by simpa using hlen), wp_bind_iff, wp_takeSession_iff]
  refine ⟨fun e he => ?_, fun _ => .refl n src⟩
  have hopen : e.isEstablished ≠ true := by
    intro h
    obtain ⟨session, hstate⟩ := SessionEntry.isEstablished_iff.mp h
    exact hestablished ⟨session, (sessionState_of_lookup he).trans hstate⟩
  have hother : e.isAwaitingMsg3 ≠ true := by
    intro h
    obtain ⟨handshake, hstate⟩ := SessionEntry.isAwaitingMsg3_iff.mp h
    exact hidle handshake ((sessionState_of_lookup he).trans hstate) hlen
  rw [if_neg (by simp [hopen]), if_pos (by simpa using hother)]
  exact (Alike.refl n src).take.putBack he rfl

/-- What a responder makes of the third message. -/
def sessionFromMsg3 (msg3 : Bytes) (handshake : HandshakeState SecretKey PublicKey) :
    Result NoiseError (NoiseSession PublicKey) := do
  let ((), handshake) ← call (HandshakeState.readXkMessage3 msg3) handshake
  handshake.intoSession

/-- Finishing the rekey handshake that a third message answers stops the program. -/
def Msg3Stops (n : Node SecretKey PublicKey ν μ) (src : NodeAddr) (msg3 : SessionMsg3) : Prop :=
  ∃ e handshake, n.sessions.lookup src = some e ∧
    (e.isEstablished && e.hasRekeyInProgress && !e.rekeyInitiator) = true ∧
    e.rekeyState = some handshake ∧ msg3.handshakePayload.length = XK_HANDSHAKE_MSG3_SIZE ∧
    sessionFromMsg3 msg3.handshakePayload handshake = .error .panic

/-- A rekey ends one way or another; the session stays. -/
theorem leaves_onSessionMsg3_established (hestablished : EstablishedAt src n) (msg3 : SessionMsg3) :
    Leaves (onSessionMsg3 env src msg3) (fun n' => Msg3Stops n src msg3 ∧ Holds n src none n' ∨
      ¬ Msg3Stops n src msg3 ∧ Alike n src n') n := by
  obtain ⟨session, hestablished⟩ := hestablished
  unfold onSessionMsg3
  dsimp only [Leaves]
  by_cases hlen : msg3.handshakePayload.length = XK_HANDSHAKE_MSG3_SIZE
  swap
  · rw [if_pos (by simpa using hlen)]
    refine .inr ⟨?_, .refl n src⟩
    rintro ⟨_, _, _, _, _, hlen', -⟩
    exact hlen hlen'
  rw [if_neg (by simpa using hlen), wp_bind_iff, wp_takeSession_iff]
  refine ⟨fun e he => ?_, fun hnone => ?_⟩
  swap
  · rw [sessionState, hnone, Option.bind_none] at hestablished
    cases hestablished
  have htaken := (Alike.refl n src).take
  rw [sessionState_of_lookup he] at hestablished
  by_cases hrekey : (e.isEstablished && e.hasRekeyInProgress && !e.rekeyInitiator) = true
  · rw [if_pos hrekey]
    cases hhandshake : e.rekeyState with
    | none => simp [SessionEntry.hasRekeyInProgress, hhandshake] at hrekey
    | some handshake =>
      have hstops : Msg3Stops n src msg3 ↔
          sessionFromMsg3 msg3.handshakePayload handshake = .error .panic := by
        refine ⟨?_, fun h => ⟨e, handshake, he, hrekey, hhandshake, hlen, h⟩⟩
        rintro ⟨_, _, he', -, hhandshake', -, h⟩
        cases he.symm.trans he'
        cases hhandshake.symm.trans hhandshake'
        exact h
      rw [hstops]
      dsimp only
      rw [wp_bind_iff, wp_attempt_iff, wp_pureCall_iff]
      refine ⟨fun session hsession => ?_, fun failed hfailed => ?_⟩
      · refine .inr ⟨fun hpanic => ?_, htaken.putBack he rfl⟩
        cases hpanic.symm.trans hsession
      · cases failed with
        | error failed =>
          refine .inr ⟨fun hpanic => ?_, htaken.putBack he rfl⟩
          cases hpanic.symm.trans hfailed
        | panic => exact .inl ⟨hfailed, htaken⟩
  · rw [if_neg hrekey, if_pos (by simp [SessionEntry.isAwaitingMsg3, hestablished,
      EndToEndState.isAwaitingMsg3])]
    refine .inr ⟨?_, htaken.putBack he rfl⟩
    rintro ⟨_, _, he', hrekey', -⟩
    cases he.symm.trans he'
    exact hrekey hrekey'

/-! ## What destroys a session -/

/-- The handler of each message. -/
def onSessionHandshake (src : NodeAddr) : SessionHandshake → Handler SecretKey PublicKey ν μ Unit
  | .setup setup => onSessionSetup env src setup
  | .ack ack => onSessionAck env src ack
  | .msg3 msg3 => onSessionMsg3 env src msg3

/-- The node after a handshake message from `src`. -/
def afterHandshake (n : Node SecretKey PublicKey ν μ) (src : NodeAddr)
    (message : SessionHandshake) : Node SecretKey PublicKey ν μ :=
  (onSessionHandshake env src message n).1

/-- After `message` there is a session with `src`. -/
def Completes (n : Node SecretKey PublicKey ν μ) (src : NodeAddr) (message : SessionHandshake) :
    Prop := EstablishedAt src (afterHandshake env n src message)

/-- `message` is what the handshake with `src` waits for. -/
inductive Awaited (n : Node SecretKey PublicKey ν μ) (src : NodeAddr) : SessionHandshake → Prop
  | ack {ack : SessionAck} {handshake : HandshakeState SecretKey PublicKey} :
      n.sessionState src = some (.initiating handshake) →
      ack.handshakePayload.length = XK_HANDSHAKE_MSG2_SIZE →
      FinishesAsInitiator env n src ack.handshakePayload handshake → Awaited n src (.ack ack)
  | msg3 {msg3 : SessionMsg3} {handshake : HandshakeState SecretKey PublicKey} :
      n.sessionState src = some (.awaitingMsg3 handshake) →
      msg3.handshakePayload.length = XK_HANDSHAKE_MSG3_SIZE →
      FinishesAsResponder msg3.handshakePayload handshake → Awaited n src (.msg3 msg3)

/-- How a message destroys the session or the handshake with `src`. -/
inductive Destroys (n : Node SecretKey PublicKey ν μ) (src : NodeAddr) : SessionHandshake → Prop
  | beginsAnew {setup : SessionSetup} :
      (n.sessionState src).isSome → BeginsAnew env n src setup → Destroys n src (.setup setup)
  | badAck {ack : SessionAck} {handshake : HandshakeState SecretKey PublicKey} :
      n.sessionState src = some (.initiating handshake) →
      ack.handshakePayload.length = XK_HANDSHAKE_MSG2_SIZE →
      ¬ FinishesAsInitiator env n src ack.handshakePayload handshake → Destroys n src (.ack ack)
  | badMsg3 {msg3 : SessionMsg3} {handshake : HandshakeState SecretKey PublicKey} :
      n.sessionState src = some (.awaitingMsg3 handshake) →
      msg3.handshakePayload.length = XK_HANDSHAKE_MSG3_SIZE →
      ¬ FinishesAsResponder msg3.handshakePayload handshake → Destroys n src (.msg3 msg3)
  | ackStops {ack : SessionAck} : AckStops env n src ack → Destroys n src (.ack ack)
  | msg3Stops {msg3 : SessionMsg3} : Msg3Stops n src msg3 → Destroys n src (.msg3 msg3)

/-- The current session is the one it was; a handshake is completed, or `genuine` completes it. -/
structure Survives (env' : Env SecretKey) (n n' : Node SecretKey PublicKey ν μ) (src : NodeAddr)
    (genuine : SessionHandshake) : Prop where
  current : ∀ session, n.sessionState src = some (.established session) →
    n'.sessionState src = some (.established session)
  handshake : n.Handshaking src → EstablishedAt src n' ∨ Completes env' n' src genuine

/-- **Completion**: the handshakes that a message completes are those that wait for it. -/
theorem completes_iff (h : ¬ EstablishedAt src n) (message : SessionHandshake) :
    Completes env n src message ↔ Awaited env n src message := by
  cases message with
  | setup setup =>
    refine iff_of_false ?_ fun h => by cases h
    rcases fst_of_wp (leaves_onSessionSetup env n src setup) with hnew | hsame
    · exact hnew.2.not_establishedAt
    · exact fun hdone => h (hsame.2.establishedAt_iff.mp hdone)
  | ack ack =>
    by_cases hopen : ∃ handshake, n.sessionState src = some (.initiating handshake) ∧
        ack.handshakePayload.length = XK_HANDSHAKE_MSG2_SIZE
    · obtain ⟨handshake, hstate, hlen⟩ := hopen
      rcases fst_of_wp (leaves_onSessionAck_initiating env hstate hlen) with hdone | hlost
      · exact iff_of_true hdone.2 (.ack hstate hlen hdone.1)
      · refine iff_of_false hlost.2.not_establishedAt fun hawaited => ?_
        cases hawaited with
        | ack hstate' _ hfinishes =>
          cases hstate.symm.trans hstate'
          exact hlost.1 hfinishes
    · have hsame : Alike n src (afterHandshake env n src (.ack ack)) :=
        fst_of_wp (leaves_onSessionAck_idle env h fun handshake hstate hlen =>
          hopen ⟨handshake, hstate, hlen⟩)
      refine iff_of_false (fun hdone => h (hsame.establishedAt_iff.mp hdone)) fun hawaited => ?_
      cases hawaited with
      | ack hstate hlen _ => exact hopen ⟨_, hstate, hlen⟩
  | msg3 msg3 =>
    by_cases hopen : ∃ handshake, n.sessionState src = some (.awaitingMsg3 handshake) ∧
        msg3.handshakePayload.length = XK_HANDSHAKE_MSG3_SIZE
    · obtain ⟨handshake, hstate, hlen⟩ := hopen
      rcases fst_of_wp (leaves_onSessionMsg3_awaiting env hstate hlen) with hdone | hlost
      · exact iff_of_true hdone.2 (.msg3 hstate hlen hdone.1)
      · refine iff_of_false hlost.2.not_establishedAt fun hawaited => ?_
        cases hawaited with
        | msg3 hstate' _ hfinishes =>
          cases hstate.symm.trans hstate'
          exact hlost.1 hfinishes
    · have hsame : Alike n src (afterHandshake env n src (.msg3 msg3)) :=
        fst_of_wp (leaves_onSessionMsg3_idle env h fun handshake hstate hlen =>
          hopen ⟨handshake, hstate, hlen⟩)
      refine iff_of_false (fun hdone => h (hsame.establishedAt_iff.mp hdone)) fun hawaited => ?_
      cases hawaited with
      | msg3 hstate hlen _ => exact hopen ⟨_, hstate, hlen⟩

omit [Sha256] [HkdfSha256] [ChaCha20Poly1305] [Secp256k1 SecretKey PublicKey] [SessionMmp μ] in
/-- Whether a payload gets away depends on identity, configuration and the outside. -/
theorem reaches_congr (hidentity : n'.identity = n.identity) (hconfig : n'.config = n.config)
    (dest : NodeAddr) (payload : Bytes) :
    Reaches env n' dest payload ↔ Reaches env n dest payload := by
  unfold Reaches Node.nodeAddr
  rw [hidentity, hconfig]

omit [SessionMmp μ] in
theorem Awaited.of_alike (h : Alike n src n') {message : SessionHandshake}
    (hawaited : Awaited env n src message) : Awaited env n' src message := by
  cases hawaited with
  | ack hstate hlen hfinishes =>
    refine .ack (h.state.trans hstate) hlen ?_
    obtain ⟨opened, msg3, closed, session, hopened, hclosed, hreaches, hsession⟩ := hfinishes
    exact ⟨opened, msg3, closed, session, hopened, hclosed,
      (reaches_congr env h.identity h.config src _).mpr hreaches, hsession⟩
  | msg3 hstate hlen hfinishes => exact .msg3 (h.state.trans hstate) hlen hfinishes

/-- An ack stops the program only in the rekey of an established session. -/
theorem AckStops.establishedAt {ack : SessionAck} (h : AckStops env n src ack) :
    EstablishedAt src n := by
  obtain ⟨e, _, he, hrekey, -⟩ := h
  simp only [Bool.and_eq_true] at hrekey
  obtain ⟨session, hstate⟩ := SessionEntry.isEstablished_iff.mp hrekey.1.1
  exact ⟨session, (sessionState_of_lookup he).trans hstate⟩

omit [SessionMmp μ] in
/-- A third message stops the program only in the rekey of an established session. -/
theorem Msg3Stops.establishedAt {msg3 : SessionMsg3} (h : Msg3Stops n src msg3) :
    EstablishedAt src n := by
  obtain ⟨e, _, he, hrekey, -⟩ := h
  simp only [Bool.and_eq_true] at hrekey
  obtain ⟨session, hstate⟩ := SessionEntry.isEstablished_iff.mp hrekey.1.1
  exact ⟨session, (sessionState_of_lookup he).trans hstate⟩

/-- **The outcome** of a message for a session or a handshake. -/
theorem afterHandshake_outcome (hstate : (n.sessionState src).isSome) (message : SessionHandshake) :
    ¬ Destroys env n src message ∧ (Alike n src (afterHandshake env n src message) ∨
      ¬ EstablishedAt src n ∧ EstablishedAt src (afterHandshake env n src message)) ∨
    Destroys env n src message ∧ (Holds n src none (afterHandshake env n src message) ∨
      AwaitingAt src (afterHandshake env n src message) ∧ ¬ AwaitingAt src n) := by
  cases message with
  | setup setup =>
    have hdestroys : Destroys env n src (.setup setup) ↔ BeginsAnew env n src setup := by
      refine ⟨fun h => ?_, .beginsAnew hstate⟩
      cases h with
      | beginsAnew _ h => exact h
    rw [hdestroys]
    rcases fst_of_wp (leaves_onSessionSetup env n src setup) with hnew | hsame
    · refine .inr ⟨hnew.1, .inr ⟨hnew.2, ?_⟩⟩
      rintro ⟨handshake, hawaiting⟩
      have hgives := hnew.1.givesWay
      unfold Node.givesWay at hgives
      rw [hawaiting] at hgives
      cases hgives
    · exact .inl ⟨hsame.1, .inl hsame.2⟩
  | ack ack =>
    by_cases hestablished : EstablishedAt src n
    · have hdestroys : Destroys env n src (.ack ack) ↔ AckStops env n src ack := by
        refine ⟨fun h => ?_, .ackStops⟩
        cases h with
        | badAck hinitiating _ _ =>
          obtain ⟨session, hstate⟩ := hestablished
          cases hstate.symm.trans hinitiating
        | ackStops h => exact h
      rw [hdestroys]
      rcases fst_of_wp (leaves_onSessionAck_established env hestablished ack) with hstop | hsame
      · exact .inr ⟨hstop.1, .inl hstop.2⟩
      · exact .inl ⟨hsame.1, .inl hsame.2⟩
    by_cases hopen : ∃ handshake, n.sessionState src = some (.initiating handshake) ∧
        ack.handshakePayload.length = XK_HANDSHAKE_MSG2_SIZE
    · obtain ⟨handshake, hinitiating, hlen⟩ := hopen
      have hdestroys : Destroys env n src (.ack ack) ↔
          ¬ FinishesAsInitiator env n src ack.handshakePayload handshake := by
        refine ⟨fun h => ?_, .badAck hinitiating hlen⟩
        cases h with
        | badAck hinitiating' _ h =>
          cases hinitiating.symm.trans hinitiating'
          exact h
        | ackStops h => exact absurd h.establishedAt hestablished
      rw [hdestroys, not_not]
      rcases fst_of_wp (leaves_onSessionAck_initiating env hinitiating hlen) with hdone | hlost
      · exact .inl ⟨hdone.1, .inr ⟨hestablished, hdone.2⟩⟩
      · exact .inr ⟨hlost.1, .inl hlost.2⟩
    · refine .inl ⟨fun h => ?_, .inl (fst_of_wp (leaves_onSessionAck_idle env hestablished
        fun handshake hinitiating hlen => hopen ⟨handshake, hinitiating, hlen⟩))⟩
      cases h with
      | badAck hinitiating hlen _ => exact hopen ⟨_, hinitiating, hlen⟩
      | ackStops h => exact hestablished h.establishedAt
  | msg3 msg3 =>
    by_cases hestablished : EstablishedAt src n
    · have hdestroys : Destroys env n src (.msg3 msg3) ↔ Msg3Stops n src msg3 := by
        refine ⟨fun h => ?_, .msg3Stops⟩
        cases h with
        | badMsg3 hawaiting _ _ =>
          obtain ⟨session, hstate⟩ := hestablished
          cases hstate.symm.trans hawaiting
        | msg3Stops h => exact h
      rw [hdestroys]
      rcases fst_of_wp (leaves_onSessionMsg3_established env hestablished msg3) with hstop | hsame
      · exact .inr ⟨hstop.1, .inl hstop.2⟩
      · exact .inl ⟨hsame.1, .inl hsame.2⟩
    by_cases hopen : ∃ handshake, n.sessionState src = some (.awaitingMsg3 handshake) ∧
        msg3.handshakePayload.length = XK_HANDSHAKE_MSG3_SIZE
    · obtain ⟨handshake, hawaiting, hlen⟩ := hopen
      have hdestroys : Destroys env n src (.msg3 msg3) ↔
          ¬ FinishesAsResponder msg3.handshakePayload handshake := by
        refine ⟨fun h => ?_, .badMsg3 hawaiting hlen⟩
        cases h with
        | badMsg3 hawaiting' _ h =>
          cases hawaiting.symm.trans hawaiting'
          exact h
        | msg3Stops h => exact absurd h.establishedAt hestablished
      rw [hdestroys, not_not]
      rcases fst_of_wp (leaves_onSessionMsg3_awaiting env hawaiting hlen) with hdone | hlost
      · exact .inl ⟨hdone.1, .inr ⟨hestablished, hdone.2⟩⟩
      · exact .inr ⟨hlost.1, .inl hlost.2⟩
    · refine .inl ⟨fun h => ?_, .inl (fst_of_wp (leaves_onSessionMsg3_idle env hestablished
        fun handshake hawaiting hlen => hopen ⟨handshake, hawaiting, hlen⟩))⟩
      cases h with
      | badMsg3 hawaiting hlen _ => exact hopen ⟨_, hawaiting, hlen⟩
      | msg3Stops h => exact hestablished h.establishedAt

/-- There is a session to destroy. -/
theorem Destroys.isSome {message : SessionHandshake} (h : Destroys env n src message) :
    (n.sessionState src).isSome := by
  have hsome : ∀ state, n.sessionState src = some state → (n.sessionState src).isSome :=
    fun _ hstate => Option.isSome_of_mem hstate
  cases h with
  | beginsAnew hstate _ => exact hstate
  | badAck hstate _ _ => exact hsome _ hstate
  | badMsg3 hstate _ _ => exact hsome _ hstate
  | ackStops h => exact hsome _ h.establishedAt.choose_spec
  | msg3Stops h => exact hsome _ h.establishedAt.choose_spec

/-- A state that is lost does not come back with the message that would have completed it. -/
theorem not_completes_of_lost {genuine : SessionHandshake} (hawaited : Awaited env n src genuine)
    (hlost : Holds n src none n' ∨ AwaitingAt src n' ∧ ¬ AwaitingAt src n) (env' : Env SecretKey) :
    ¬ Completes env' n' src genuine := by
  rcases hlost with hnone | ⟨⟨handshake, hnew⟩, hold⟩
  · rw [completes_iff env' hnone.not_establishedAt]
    intro hawaited'
    cases hawaited' with
    | ack hstate _ _ => cases hnone.state.symm.trans hstate
    | msg3 hstate _ _ => cases hnone.state.symm.trans hstate
  · rw [completes_iff env' (AwaitingAt.not_establishedAt ⟨handshake, hnew⟩)]
    intro hawaited'
    cases hawaited with
    | ack _ _ _ =>
      cases hawaited' with
      | ack hstate _ _ => cases hnew.symm.trans hstate
    | msg3 hstate _ _ => exact hold ⟨_, hstate⟩

/-- **Survival**: a handshake message, forged or not, leaves the current session, and a handshake
that `genuine` completes, exactly when it does not destroy them. -/
theorem survives_iff {env' : Env SecretKey} {message genuine : SessionHandshake}
    (hgenuine : n.Handshaking src → Completes env' n src genuine) :
    Survives env' n (afterHandshake env n src message) src genuine ↔
      ¬ Destroys env n src message := by
  by_cases hstate : (n.sessionState src).isSome
  swap
  · -- nothing to destroy: without a state no message completes anything
    refine iff_of_true ⟨fun session h => ?_, fun h => ?_⟩ fun h => hstate h.isSome
    · rw [h] at hstate
      exact absurd rfl hstate
    · have hawaited := (completes_iff env' (handshaking_iff.mp h).2 genuine).mp (hgenuine h)
      cases hawaited with
      | ack h _ _ =>
        rw [h] at hstate
        exact absurd rfl hstate
      | msg3 h _ _ =>
        rw [h] at hstate
        exact absurd rfl hstate
  rcases afterHandshake_outcome env hstate message with ⟨hnot, hkept⟩ | ⟨hdestroys, hlost⟩
  · refine iff_of_true ?_ hnot
    rcases hkept with halike | ⟨hbefore, hafter⟩
    · refine ⟨fun session h => halike.state.trans h, fun h => .inr ?_⟩
      have hopen := (handshaking_iff.mp h).2
      have hawaited := (completes_iff env' hopen genuine).mp (hgenuine h)
      exact (completes_iff env' (mt halike.establishedAt_iff.mp hopen) genuine).mpr
        (hawaited.of_alike env' halike)
    · exact ⟨fun session h => absurd ⟨session, h⟩ hbefore, fun _ => .inl hafter⟩
  · refine iff_of_false (fun hsurvives => ?_) fun h => h hdestroys
    have hgone : ¬ EstablishedAt src (afterHandshake env n src message) :=
      hlost.elim Holds.not_establishedAt fun h => h.1.not_establishedAt
    by_cases hestablished : EstablishedAt src n
    · obtain ⟨session, hsession⟩ := hestablished
      exact hgone ⟨session, hsurvives.current session hsession⟩
    · have hlookup : (n.sessions.lookup src).isSome := by
        unfold sessionState at hstate
        cases hlookup : n.sessions.lookup src with
        | none =>
          rw [hlookup] at hstate
          exact hstate
        | some e => rfl
      have hopen : n.Handshaking src := handshaking_iff.mpr ⟨hlookup, hestablished⟩
      have hawaited := (completes_iff env' hestablished genuine).mp (hgenuine hopen)
      rcases hsurvives.handshake hopen with hdone | hcompletes
      · exact hgone hdone
      · exact not_completes_of_lost env' hawaited hlost env' hcompletes

end Node

/-! ## An acknowledgement that does not open -/

namespace Sample

open Node

/-- Node 1 has sent a setup to node 2. -/
def initiating : Node Scalar Point Unit Unit :=
  (initiateSession (env 1 0 ⟨11⟩) (addr 2) ⟨2⟩ (node 1 ⟨1⟩)).1

/-- An acknowledgement from node 2 with the given Noise message. -/
def ackWith (msg2 : Bytes) : SessionHandshake :=
  .ack ((SessionAck.new (TreeCoordinate.rootWithMeta (addr 2) 0 0)
    (TreeCoordinate.rootWithMeta (addr 1) 0 0)).withHandshake msg2)

/-- What node 2 answers to that setup. -/
def genuineAck : SessionHandshake :=
  ackWith (((xkRespond (env 2 10 ⟨13⟩) (addr 1) (node 2 ⟨2⟩)
    (Secp256k1.serialize Scalar (Secp256k1.publicKey (⟨11⟩ : Scalar)))).toOption.map (·.2)).getD [])

/-- An ephemeral key of somebody else, and no ciphertext that opens. -/
def forgedAck : SessionHandshake :=
  ackWith (Secp256k1.serialize Scalar (Secp256k1.publicKey (⟨99⟩ : Scalar)) ++ List.replicate 24 0)

/-- A setup that claims to come from node 2. -/
def forgedSetup : SessionHandshake :=
  .setup ((SessionSetup.new (TreeCoordinate.rootWithMeta (addr 2) 0 0)
    (TreeCoordinate.rootWithMeta (addr 1) 0 0)).withHandshake
      (Secp256k1.serialize Scalar (Secp256k1.publicKey (⟨99⟩ : Scalar))))

/-- The ack of the node that was called completes the handshake. -/
theorem genuineAck_completes : Completes (env 1 20 ⟨11⟩) initiating (addr 2) genuineAck := by
  unfold Completes
  decide +kernel

/-- Node 1 has the smaller address: its handshake stays. -/
theorem survives_forgedSetup :
    (Handshaking initiating (addr 2) → Completes (env 1 20 ⟨11⟩) initiating (addr 2) genuineAck) ∧
      Survives (env 1 20 ⟨11⟩) initiating
        (afterHandshake (env 1 15 ⟨17⟩) initiating (addr 2) forgedSetup) (addr 2) genuineAck := by
  refine ⟨fun _ => genuineAck_completes,
    (survives_iff (env 1 15 ⟨17⟩) fun _ => genuineAck_completes).mpr fun h => ?_⟩
  cases h with
  | beginsAnew _ h => exact absurd h.givesWay (by decide +kernel)

/-- **Failing case**: the entry is gone, and the genuine acknowledgement completes nothing. -/
theorem forged_ack_destroys :
    Handshaking initiating (addr 2) ∧
      Completes (env 1 20 ⟨11⟩) initiating (addr 2) genuineAck ∧
      ¬ Completes (env 1 15 ⟨11⟩) initiating (addr 2) forgedAck ∧
      ¬ Survives (env 1 20 ⟨11⟩) initiating
        (afterHandshake (env 1 15 ⟨11⟩) initiating (addr 2) forgedAck) (addr 2) genuineAck := by
  have hopen : Handshaking initiating (addr 2) :=
    handshaking_iff.mpr ⟨by decide +kernel, by decide +kernel⟩
  have hforged : ¬ Completes (env 1 15 ⟨11⟩) initiating (addr 2) forgedAck := by
    unfold Completes
    decide +kernel
  have hafter : ¬ Completes (env 1 20 ⟨11⟩)
      (afterHandshake (env 1 15 ⟨11⟩) initiating (addr 2) forgedAck) (addr 2) genuineAck := by
    unfold Completes
    decide +kernel
  exact ⟨hopen, genuineAck_completes, hforged, fun h => (h.handshake hopen).elim hforged hafter⟩

end Sample

end Fips
