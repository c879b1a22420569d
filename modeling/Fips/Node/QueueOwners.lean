import Fips.Node.Dispatch
import Fips.Node.SessionRekey
import Fips.Node.SessionRules

/-!
# Who waits for a session

Outbound packets wait while their session is in handshake, or, without a session, while a lookup of
their destination is pending. `HeldOn S pending n` says so of the destinations in `S`; which lookups
are pending is a parameter, since the session handlers do not touch them.

A handler that takes an entry out of the table is followed on all other destinations (`S` is `· ≠ src`)
until it puts an entry back or the packets are flushed.

## Results

* `keeps_held_onSessionSetup`, `keeps_held_handleEncryptedSessionMsg`, `keeps_held_checkSessionRekey`,
  the timeouts and the removal of a peer: kept without a condition.
* `wp_held_onSessionAck`, `wp_held_onSessionMsg3`: kept if the handshake can be finished
  (`FinishesAsInitiator`, `FinishesAsResponder`), or a lookup is pending, or nothing waits.
* `wp_held_initiateSession`: succeeds exactly when a setup can be built and handed to a next hop
  (`CanInitiate`).
-/

open Checked

namespace Fips

variable {SecretKey PublicKey ν μ : Type}

/-- The session is still in handshake, as the timeouts take it (`timeout.rs:178`). -/
def SessionEntry.inHandshake (e : SessionEntry SecretKey PublicKey μ) : Bool := !e.isEstablished

/-- An established session is in no handshake. -/
theorem SessionEntry.not_inHandshake_of_established {e : SessionEntry SecretKey PublicKey μ}
    (h : e.isEstablished = true) : e.inHandshake = false := by
  rw [inHandshake, h]
  rfl

theorem SessionEntry.inHandshake_of_state {e e' : SessionEntry SecretKey PublicKey μ}
    (h : e'.state = e.state) : e'.inHandshake = e.inHandshake := by
  unfold inHandshake isEstablished
  rw [h]

/-- A cutover leaves an established session established. -/
theorem SessionEntry.isEstablished_cutoverToNewSession [Mmp μ] (e : SessionEntry SecretKey PublicKey μ)
    (h : e.isEstablished = true) (nowMs instant : Nat) :
    (e.cutoverToNewSession nowMs instant).1.isEstablished = true := by
  unfold cutoverToNewSession
  cases e.pendingNewSession with
  | none => exact h
  | some session => rfl

namespace Node

variable {S pending : NodeAddr → Prop} {n : Node SecretKey PublicKey ν μ} {addr : NodeAddr}

/-- There is a session to `d`, in handshake. -/
def Handshaking (n : Node SecretKey PublicKey ν μ) (d : NodeAddr) : Prop :=
  ∃ e, n.sessions.lookup d = some e ∧ e.inHandshake = true

/-- Packets wait for `d`. -/
def Queued (n : Node SecretKey PublicKey ν μ) (d : NodeAddr) : Prop :=
  (n.pendingTunPackets.lookup d).isSome

/-- Whoever waits at a destination in `S` has an owner. -/
def HeldOn (S pending : NodeAddr → Prop) (n : Node SecretKey PublicKey ν μ) : Prop :=
  ∀ d, S d → n.Queued d → n.Handshaking d ∨ n.sessions.lookup d = none ∧ pending d

/-- Whoever waits has an owner. -/
abbrev Held (pending : NodeAddr → Prop) (n : Node SecretKey PublicKey ν μ) : Prop :=
  HeldOn (fun _ => True) pending n

/-- Whoever waits has an owner, `src` apart. -/
abbrev HeldBut (src : NodeAddr) (pending : NodeAddr → Prop) (n : Node SecretKey PublicKey ν μ) :
    Prop := HeldOn (fun d => d ≠ src) pending n

section Held

/-- An established session has no packets that wait for it. -/
theorem HeldOn.unqueued (h : HeldOn S pending n) {d : NodeAddr} (hS : S d)
    {e : SessionEntry SecretKey PublicKey μ} (hlookup : n.sessions.lookup d = some e)
    (he : e.isEstablished = true) : n.pendingTunPackets.lookup d = none := by
  by_contra hqueue
  rcases h d hS (Option.isSome_iff_ne_none.mpr hqueue) with ⟨e', hlookup', he'⟩ | ⟨hnone, -⟩
  · rw [hlookup] at hlookup'
    cases hlookup'
    rw [SessionEntry.not_inHandshake_of_established he] at he'
    cases he'
  · rw [hlookup] at hnone
    cases hnone

/-- Whoever waits for a session in the table has it in handshake. -/
theorem Held.inHandshake (h : Held pending n) {d : NodeAddr}
    {e : SessionEntry SecretKey PublicKey μ} (he : n.sessions.lookup d = some e)
    (hqueued : n.Queued d) : e.inHandshake = true := by
  rcases h d trivial hqueued with ⟨e', he', hphase⟩ | ⟨hnone, -⟩
  · cases he.symm.trans he'
    exact hphase
  · cases he.symm.trans hnone

/-- Sessions and waiting packets decide. -/
theorem HeldOn.congr {n' : Node SecretKey PublicKey ν μ} (h : HeldOn S pending n)
    (hsessions : n'.sessions = n.sessions)
    (hqueues : n'.pendingTunPackets = n.pendingTunPackets) : HeldOn S pending n' := by
  intro d hS hqueued
  unfold Queued at hqueued
  rw [hqueues] at hqueued
  unfold Handshaking
  rw [hsessions]
  exact h d hS hqueued

/-- Mutation of an entry that leaves its phase as it was. -/
theorem HeldOn.modifyAt (h : HeldOn S pending n)
    {f : SessionEntry SecretKey PublicKey μ → SessionEntry SecretKey PublicKey μ}
    (hf : ∀ e, n.sessions.lookup addr = some e → (f e).inHandshake = e.inHandshake) :
    HeldOn S pending { n with sessions := n.sessions.modify addr f } := by
  intro d hS hqueued
  have hlookup := Map.lookup_modify n.sessions addr d f
  rcases h d hS hqueued with ⟨e, he, hphase⟩ | ⟨hnone, hpending⟩
  · rw [he] at hlookup
    by_cases hd : d = addr
    · rw [if_pos hd] at hlookup
      exact .inl ⟨f e, hlookup, (hf e (hd ▸ he)).trans hphase⟩
    · rw [if_neg hd] at hlookup
      exact .inl ⟨e, hlookup, hphase⟩
  · rw [hnone] at hlookup
    exact .inr ⟨by simpa using hlookup, hpending⟩

/-- Mutation that leaves the state of every entry as it was. -/
theorem HeldOn.modify (h : HeldOn S pending n) (addr : NodeAddr)
    {f : SessionEntry SecretKey PublicKey μ → SessionEntry SecretKey PublicKey μ}
    (hf : ∀ e, (f e).state = e.state) :
    HeldOn S pending { n with sessions := n.sessions.modify addr f } :=
  h.modifyAt fun e _ => SessionEntry.inHandshake_of_state (hf e)

/-- An entry put into the table. -/
theorem HeldOn.put (h : HeldBut addr pending n) {e : SessionEntry SecretKey PublicKey μ}
    (he : S addr → n.Queued addr → e.inHandshake = true) :
    HeldOn S pending { n with sessions := n.sessions.insert addr e } := by
  intro d hS hqueued
  have hlookup := Map.lookup_insert' n.sessions addr d e
  by_cases hd : d = addr
  · subst hd
    rw [if_pos rfl] at hlookup
    exact .inl ⟨e, hlookup, he hS hqueued⟩
  · rw [if_neg hd] at hlookup
    rcases h d hd hqueued with ⟨e', he', hphase⟩ | ⟨hnone, hpending⟩
    · exact .inl ⟨e', hlookup.trans he', hphase⟩
    · exact .inr ⟨hlookup.trans hnone, hpending⟩

/-- Queues that are held everywhere else are held but for one address. -/
theorem HeldOn.but (h : HeldOn S pending n) (hS : ∀ d, d ≠ addr → S d) : HeldBut addr pending n :=
  fun d hd hqueued => h d (hS d hd) hqueued

theorem Held.but (h : Held pending n) (addr : NodeAddr) : HeldBut addr pending n :=
  HeldOn.but h fun _ _ => trivial

/-- An entry taken out of the table. -/
theorem HeldOn.take (h : HeldBut addr pending n) :
    HeldBut addr pending { n with sessions := n.sessions.erase addr } := by
  intro d hd hqueued
  have hlookup : (n.sessions.erase addr).lookup d = n.sessions.lookup d := by
    rw [Map.lookup_erase', if_neg hd]
  rcases h d hd hqueued with ⟨e, he, hphase⟩ | ⟨hnone, hpending⟩
  · exact .inl ⟨e, hlookup.trans he, hphase⟩
  · exact .inr ⟨hlookup.trans hnone, hpending⟩

/-- The destination that was left out has an owner too. -/
theorem HeldOn.close (h : HeldBut addr pending n)
    (haddr : n.Queued addr → n.Handshaking addr ∨ n.sessions.lookup addr = none ∧ pending addr) :
    HeldOn S pending n := by
  intro d _ hqueued
  by_cases hd : d = addr
  · subst hd
    exact haddr hqueued
  · exact h d hd hqueued

/-- Other lookups are pending, as far as this matters. -/
theorem HeldOn.mono {pending' : NodeAddr → Prop} (h : HeldOn S pending n)
    (hmono : ∀ d, pending d → n.Queued d → n.sessions.lookup d = none → pending' d) :
    HeldOn S pending' n := by
  intro d hS hqueued
  rcases h d hS hqueued with hphase | ⟨hnone, hpending⟩
  · exact .inl hphase
  · exact .inr ⟨hnone, hmono d hpending hqueued hnone⟩

/-- Packets taken out of the queue. -/
theorem HeldOn.flushed (h : HeldBut addr pending n) :
    HeldOn S pending { n with pendingTunPackets := n.pendingTunPackets.erase addr } := by
  intro d _ hqueued
  have hlookup := Map.lookup_erase' n.pendingTunPackets addr d
  unfold Queued at hqueued
  by_cases hd : d = addr
  · rw [if_pos hd] at hlookup
    rw [hlookup] at hqueued
    cases hqueued
  · rw [if_neg hd] at hlookup
    rw [hlookup] at hqueued
    exact h d hd hqueued

/-- A session is forgotten together with its queue. -/
theorem HeldOn.forgetSession (h : Held pending n) (addr : NodeAddr) :
    Held pending (n.forgetSession addr) := HeldOn.flushed (Held.but h addr).take

theorem HeldOn.forgetSessions (addrs : List NodeAddr) {n : Node SecretKey PublicKey ν μ}
    (h : Held pending n) : Held pending (addrs.foldl Node.forgetSession n) := by
  induction addrs generalizing n with
  | nil => exact h
  | cons addr addrs ih => exact ih (h.forgetSession addr)

end Held

section Sessions

variable [SessionMmp μ]

/-- No flags matter to who waits. -/
theorem sessionRules_heldOn [ChaCha20Poly1305] :
    SessionRules (fun _ _ => True) (HeldOn S pending : Node SecretKey PublicKey ν μ → Prop) where
  note _ addr _ hf h := h.modify addr fun e => (hf e).state
  advance n addr e session inner header hlookup hstate h := by
    intro d hS hqueued
    by_cases hd : d = addr
    · subst hd
      have hunqueued := h.unqueued hS hlookup (SessionEntry.isEstablished_iff.mpr ⟨session, hstate⟩)
      unfold Queued at hqueued
      rw [hunqueued] at hqueued
      cases hqueued
    · have hsame := Map.lookup_insert' n.sessions addr d
        (e.setState (.established (session.encryptWithAad inner header).1))
      rw [if_neg hd] at hsame
      unfold Handshaking
      rw [hsame]
      exact h d hS hqueued
  frame _ _ _ _ _ _ _ _ _ _ _ _ h := h.congr rfl rfl
  effect _ _ _ _ h := h.congr rfl rfl
  pings _ _ h := h.congr rfl rfl

variable (env : Env SecretKey)

theorem keeps_heldOn_sendSessionPayload (dest : NodeAddr) (payload : Bytes) :
    Keeps (HeldOn S pending)
      (sendSessionPayload env dest payload : M SecretKey PublicKey ν μ SendError Unit) :=
  keeps_sendSessionPayload_of_note env dest payload
    (fun _ _ hf h => h.modify dest fun e => (hf e).state) fun _ _ _ _ _ h => h.congr rfl rfl

variable [ChaCha20Poly1305]

theorem keeps_heldOn_sendCoordsWarmup (dest : NodeAddr) :
    Keeps (HeldOn S pending)
      (sendCoordsWarmup env dest : M SecretKey PublicKey ν μ SendError Unit) :=
  sessionRules_heldOn.keeps_sendCoordsWarmup env (fun _ => trivial) dest

theorem keeps_heldOn_sendIpv6Packet (dest : NodeAddr) (packet : Bytes) :
    Keeps (HeldOn S pending)
      (sendIpv6Packet env dest packet : M SecretKey PublicKey ν μ SendError Unit) :=
  keeps_sendIpv6Packet env (fun _ _ _ => sessionRules_heldOn.keeps_sendSessionData env
    (fun _ _ => trivial) (keeps_heldOn_sendCoordsWarmup env) _ _ _ _) packet

/-- **A flush** settles the destination it is for. -/
theorem wp_held_flushPendingPackets {src : NodeAddr} (h : HeldBut src pending n) :
    wp (flushPendingPackets env src : Handler SecretKey PublicKey ν μ Unit)
      (fun _ => Held pending) (fun _ => Held pending) n := by
  unfold flushPendingPackets
  refine wp_body_of_wp ?_
  rw [wp_bind_iff, wp_read_iff, wp_bind_iff, wp_orElse_iff]
  refine ⟨fun packets _ => ?_, fun hnone => ?_⟩
  · rw [wp_bind_iff, wp_write_iff]
    exact (keeps_flushPackets env (keeps_heldOn_sendIpv6Packet env src) packets).wp h.flushed
  · refine h.close fun hqueued => ?_
    unfold Queued at hqueued
    rw [hnone] at hqueued
    cases hqueued

/-- The queue that is sent out is empty afterwards. -/
theorem keeps_held_flushPendingPackets (src : NodeAddr) :
    Keeps (Held pending) (flushPendingPackets env src : Handler SecretKey PublicKey ν μ Unit) :=
  keeps_iff.mpr fun _ hn => wp_held_flushPendingPackets env (Held.but hn src)

/-! ## Handshakes -/

variable [Sha256] [HkdfSha256] [Secp256k1 SecretKey PublicKey]

/-- A setup for `dest` can be built and sent. -/
def CanInitiate (env : Env SecretKey) (n : Node SecretKey PublicKey ν μ) (dest : NodeAddr)
    (destPubkey : PublicKey) : Prop :=
  let handshake := (HandshakeState.newXkInitiator n.identity.secretKey destPubkey).setLocalEpoch
    n.startupEpoch
  ∃ msg1 started,
    call (HandshakeState.writeXkMessage1 (env.ephemeral dest)) handshake = .ok (msg1, started) ∧
    Reaches env n dest
      ((SessionSetup.new env.myCoords (env.destCoords dest)).withHandshake msg1).encode

/-- An answer to our setup is accepted, and its answer can be sent. -/
def FinishesAsInitiator (env : Env SecretKey) (n : Node SecretKey PublicKey ν μ) (src : NodeAddr)
    (msg2 : Bytes) (handshake : HandshakeState SecretKey PublicKey) : Prop :=
  ∃ opened msg3 closed session,
    call (HandshakeState.readXkMessage2 msg2) handshake = .ok ((), opened) ∧
    call HandshakeState.writeXkMessage3 opened = .ok (msg3, closed) ∧
    Reaches env n src (SessionMsg3.new msg3).encode ∧ closed.intoSession = .ok session

/-- A third message is accepted. -/
def FinishesAsResponder (msg3 : Bytes) (handshake : HandshakeState SecretKey PublicKey) : Prop :=
  ∃ closed remotePubkey session,
    call (HandshakeState.readXkMessage3 msg3) handshake = .ok ((), closed) ∧
    closed.remoteStatic = some remotePubkey ∧ closed.intoSession = .ok session

/-- The entry that a setup opens is in a handshake, so the queue has an owner. -/
theorem keeps_held_acceptSetup (src : NodeAddr) (setup : SessionSetup) :
    Keeps (Held pending) (acceptSetup env src setup : Handler SecretKey PublicKey ν μ Unit) := by
  refine (keeps_read _).bind fun _ => (keeps_orReturn _).bind fun _ => ?_
  refine (keeps_heldOn_sendSessionPayload env _ _).attempt.bind fun sent => ?_
  cases sent with
  | error e => exact keeps_stop _
  | ok u =>
    refine (keeps_read _).bind fun _ => ?_
    exact fun n hn => HeldOn.put (Held.but hn src) fun _ _ => rfl

/-- Answering a rekey sends one payload and notes the rekey in the entry. -/
theorem keeps_acceptRekey {I : Node SecretKey PublicKey ν μ → Prop} {src : NodeAddr}
    {setup : SessionSetup}
    (hsend : ∀ msg2, Keeps I (sendSessionPayload env src
      ((SessionAck.new env.myCoords setup.srcCoords).withHandshake msg2).encode :
        M SecretKey PublicKey ν μ SendError Unit))
    (habandon : Keeps I (modifySession src (·.abandonRekey) : Handler SecretKey PublicKey ν μ Unit))
    (hrekey : ∀ handshake, Keeps I (modifySession src
      fun e => (e.setRekeyState handshake false).recordPeerRekey env.nowMs :
        Handler SecretKey PublicKey ν μ Unit))
    (existing : SessionEntry SecretKey PublicKey μ) :
    Keeps I (acceptRekey env src setup existing : Handler SecretKey PublicKey ν μ Unit) := by
  refine (keeps_read _).bind fun my => ?_
  extract_lets respond
  have hrespond : ∀ u, Keeps I (respond u) := by
    refine fun u => (keeps_read _).bind fun _ => (keeps_orReturn _).bind fun answer => ?_
    refine (hsend _).attempt.bind fun sent => ?_
    cases sent with
    | error e => exact keeps_stop _
    | ok u => exact (keeps_expect _).bind fun _ => hrekey answer.1
  refine Keeps.ite (Keeps.ite ((keeps_stop _).bind hrespond) ?_)
    (Keeps.ite ((keeps_stop _).bind hrespond) (hrespond ()))
  exact (keeps_expect _).bind fun _ => habandon.bind hrespond

theorem keeps_held_acceptRekey (src : NodeAddr) (setup : SessionSetup)
    (existing : SessionEntry SecretKey PublicKey μ) :
    Keeps (Held pending) (acceptRekey env src setup existing :
      Handler SecretKey PublicKey ν μ Unit) :=
  keeps_acceptRekey env (fun _ => keeps_heldOn_sendSessionPayload env _ _)
    (fun _ hn => hn.modify src fun _ => rfl) (fun _ _ hn => hn.modify src fun _ => rfl) existing

theorem keeps_held_onSessionSetup (src : NodeAddr) (setup : SessionSetup) :
    Keeps (Held pending) (onSessionSetup env src setup : Handler SecretKey PublicKey ν μ Unit) := by
  refine Keeps.ite (keeps_stop _) ((keeps_read _).bind fun existing => ?_)
  cases existing with
  | none => exact keeps_held_acceptSetup env src setup
  | some existing =>
    refine (keeps_read _).bind fun my => (keeps_read _).bind fun config => ?_
    refine Keeps.ite (Keeps.ite (keeps_stop _) (keeps_held_acceptSetup env src setup)) ?_
    refine Keeps.ite ?_ (Keeps.ite (keeps_held_acceptRekey env src setup existing)
      (keeps_held_acceptSetup env src setup))
    split
    · exact keeps_pure _
    · exact (keeps_heldOn_sendSessionPayload env _ _).attempt.bind fun _ => keeps_pure _

/-- The entry of `src` is with the handler; what waits for it is as before. -/
def Taken (src : NodeAddr) (pending : NodeAddr → Prop) (base n : Node SecretKey PublicKey ν μ) :
    Prop :=
  HeldBut src pending n ∧ n.sessions.lookup src = none ∧
    n.pendingTunPackets.lookup src = base.pendingTunPackets.lookup src

omit [Sha256] [HkdfSha256] [Secp256k1 SecretKey PublicKey] [ChaCha20Poly1305] [SessionMmp μ] in
/-- An entry that is taken out leaves its queue without an owner until it is put back. -/
theorem Held.taken (h : Held pending n) (src : NodeAddr) :
    Taken src pending n { n with sessions := n.sessions.erase src } :=
  ⟨(Held.but h src).take, AList.lookup_erase _ _, rfl⟩

section Taken

variable {src : NodeAddr} {base : Node SecretKey PublicKey ν μ}

omit [Sha256] [HkdfSha256] [Secp256k1 SecretKey PublicKey] [ChaCha20Poly1305] in
/-- A send touches neither sessions nor queues. -/
theorem keeps_taken_sendSessionPayload (dest : NodeAddr) (payload : Bytes) :
    Keeps (Taken src pending base)
      (sendSessionPayload env dest payload : M SecretKey PublicKey ν μ SendError Unit) := by
  refine keeps_sendSessionPayload_of_note env dest payload ?_ fun _ _ _ _ _ h =>
    ⟨h.1.congr rfl rfl, h.2⟩
  intro n f hf h
  refine ⟨h.1.modify dest fun e => (hf e).state, ?_, h.2.2⟩
  have hlookup := Map.lookup_modify n.sessions dest src f
  rw [h.2.1, Option.map_none, ite_self] at hlookup
  exact hlookup

omit [Sha256] [HkdfSha256] [Secp256k1 SecretKey PublicKey] [ChaCha20Poly1305] [SessionMmp μ] in
/-- An entry put back. -/
theorem Taken.put (h : Taken src pending base n) {e : SessionEntry SecretKey PublicKey μ}
    (he : base.Queued src → e.inHandshake = true) :
    Held pending { n with sessions := n.sessions.insert src e } := by
  refine HeldOn.put h.1 fun _ hqueued => he ?_
  unfold Queued at hqueued ⊢
  rwa [← h.2.2]

omit [Sha256] [HkdfSha256] [Secp256k1 SecretKey PublicKey] [ChaCha20Poly1305] [SessionMmp μ] in
/-- An entry dropped. -/
theorem Taken.lost (h : Taken src pending base n) (hpending : base.Queued src → pending src) :
    Held pending n := by
  refine h.1.close fun hqueued => .inr ⟨h.2.1, hpending ?_⟩
  unfold Queued at hqueued ⊢
  rwa [← h.2.2]

omit [Sha256] [HkdfSha256] [Secp256k1 SecretKey PublicKey] [ChaCha20Poly1305] [SessionMmp μ] in
/-- An entry put back as an established one. -/
theorem Taken.but (h : Taken src pending base n) (e : SessionEntry SecretKey PublicKey μ) :
    HeldBut src pending { n with sessions := n.sessions.insert src e } :=
  HeldOn.put h.1 fun hsrc => absurd rfl hsrc

end Taken

/-- **Finishing as initiator**: whether it succeeds, with a property that sends keep. -/
theorem wp_finishAsInitiator {I : Node SecretKey PublicKey ν μ → Prop} {src : NodeAddr}
    {handshake : HandshakeState SecretKey PublicKey} {msg2 : Bytes}
    (hI : ∀ payload, Keeps I (sendSessionPayload env src payload :
      M SecretKey PublicKey ν μ SendError Unit)) (h : I n) :
    wp (finishAsInitiator env src msg2 handshake)
      (fun _ n' => I n' ∧ FinishesAsInitiator env n src msg2 handshake)
      (fun _ n' => I n' ∧ ¬ FinishesAsInitiator env n src msg2 handshake) n := by
  unfold finishAsInitiator
  rw [wp_bind_iff, wp_orReturn_iff]
  refine ⟨fun opened hopened => ?_, fun herror => ⟨h, ?_⟩, fun hpanic => ⟨h, ?_⟩⟩
  · obtain ⟨_, opened⟩ := opened
    dsimp only
    rw [wp_bind_iff, wp_orReturn_iff]
    refine ⟨fun closed hclosed => ?_, fun herror => ⟨h, ?_⟩, fun hpanic => ⟨h, ?_⟩⟩
    · obtain ⟨msg3, closed⟩ := closed
      dsimp only
      rw [wp_bind_iff, wp_attempt_iff]
      have hunreached : ¬ Reaches env n src (SessionMsg3.new msg3).encode →
          ¬ FinishesAsInitiator env n src msg2 handshake := by
        rintro hunreached ⟨_, _, _, _, hopened', hclosed', hreaches, -⟩
        cases hopened.symm.trans hopened'
        cases hclosed.symm.trans hclosed'
        exact hunreached hreaches
      refine wp_mono (fun _ n' hn' => ?_) (fun e n' hn' => ?_)
        (wp_sendSessionPayload_reaches env (hI _) h)
      · dsimp only
        rw [wp_orReturn_iff]
        have hopen : ∀ e, closed.intoSession = .error e →
            ¬ FinishesAsInitiator env n src msg2 handshake := by
          rintro e herror ⟨_, _, _, _, hopened', hclosed', -, hsession⟩
          cases hopened.symm.trans hopened'
          cases hclosed.symm.trans hclosed'
          cases herror.symm.trans hsession
        exact ⟨fun session hsession =>
            ⟨hn'.1, opened, msg3, closed, session, hopened, hclosed, hn'.2, hsession⟩,
          fun ⟨_, herror⟩ => ⟨hn'.1, hopen _ herror⟩, fun hpanic => ⟨hn'.1, hopen _ hpanic⟩⟩
      · cases e with
        | error e => exact ⟨hn'.1, hunreached hn'.2⟩
        | panic => exact ⟨hn'.1, hunreached hn'.2⟩
    · rintro ⟨_, _, _, _, hopened', hclosed', -, -⟩
      obtain ⟨e, herror⟩ := herror
      cases hopened.symm.trans hopened'
      cases herror.symm.trans hclosed'
    · rintro ⟨_, _, _, _, hopened', hclosed', -, -⟩
      cases hopened.symm.trans hopened'
      cases hpanic.symm.trans hclosed'
  · rintro ⟨_, _, _, _, hopened, -, -, -⟩
    obtain ⟨e, herror⟩ := herror
    cases herror.symm.trans hopened
  · rintro ⟨_, _, _, _, hopened, -, -, -⟩
    cases hpanic.symm.trans hopened

/-- Nothing waits for `src`, or the answer to our setup can be used, or a lookup is pending. -/
def AckHolds (env : Env SecretKey) (pending : NodeAddr → Prop) (n : Node SecretKey PublicKey ν μ)
    (src : NodeAddr) (ack : SessionAck) : Prop :=
  ∀ e handshake, n.sessions.lookup src = some e → e.state = some (.initiating handshake) →
    ack.handshakePayload.length = XK_HANDSHAKE_MSG2_SIZE → n.Queued src →
    pending src ∨ FinishesAsInitiator env n src ack.handshakePayload handshake

/-- Nothing waits for `src`, or the third message can be used, or a lookup is pending. -/
def Msg3Holds (pending : NodeAddr → Prop) (n : Node SecretKey PublicKey ν μ) (src : NodeAddr)
    (msg3 : SessionMsg3) : Prop :=
  ∀ e handshake, n.sessions.lookup src = some e → e.state = some (.awaitingMsg3 handshake) →
    msg3.handshakePayload.length = XK_HANDSHAKE_MSG3_SIZE → n.Queued src →
    pending src ∨ FinishesAsResponder msg3.handshakePayload handshake

/-- An ack either establishes the session or must leave no queue behind. -/
theorem wp_held_onSessionAck {src : NodeAddr} {ack : SessionAck} (h : Held pending n)
    (hack : AckHolds env pending n src ack) :
    wp (onSessionAck env src ack) (fun _ => Held pending) (fun _ => Held pending) n := by
  unfold onSessionAck
  by_cases hlen : ack.handshakePayload.length = XK_HANDSHAKE_MSG2_SIZE
  · rw [if_neg (by simpa using hlen), wp_bind_iff, wp_takeSession_iff]
    refine ⟨fun e he => ?_, fun _ => h⟩
    have htaken := Held.taken h src
    by_cases hrekey : (e.isEstablished && e.hasRekeyInProgress && e.rekeyInitiator) = true
    · -- an established session: nothing waits for it
      rw [if_pos hrekey]
      simp only [Bool.and_eq_true] at hrekey
      have hnobody : ¬ n.Queued src := by
        unfold Queued
        rw [HeldOn.unqueued h trivial he hrekey.1.1]
        exact Bool.false_ne_true
      split
      · exact htaken.put fun hqueued => absurd hqueued hnobody
      · rw [wp_bind_iff, wp_attempt_iff]
        refine wp_mono (fun _ n' hn' => ?_) (fun failed n' hn' => ?_)
          (wp_finishAsInitiator env (keeps_taken_sendSessionPayload env src) htaken)
        · exact hn'.1.put fun hqueued => absurd hqueued hnobody
        · cases failed with
          | error e => exact hn'.1.put fun hqueued => absurd hqueued hnobody
          | panic => exact hn'.1.lost fun hqueued => absurd hqueued hnobody
    · rw [if_neg hrekey]
      by_cases hinitiating : e.isInitiating = true
      · rw [if_neg (by simp [hinitiating])]
        obtain ⟨handshake, hstate⟩ := SessionEntry.isInitiating_iff.mp hinitiating
        rw [hstate]
        dsimp only
        rw [wp_bind_iff]
        refine wp_mono (fun session n' hn' => ?_) (fun _ n' hn' => ?_)
          (wp_finishAsInitiator env (keeps_taken_sendSessionPayload env src) htaken)
        · rw [wp_bind_iff, wp_read_iff, wp_bind_iff, wp_putSession_iff, wp_bind_iff,
            wp_cacheCoords_iff]
          exact wp_held_flushPendingPackets env ((hn'.1.but _).congr rfl rfl)
        · refine hn'.1.lost fun hqueued => ?_
          exact (hack e handshake he hstate hlen hqueued).resolve_right hn'.2
      · rw [if_pos (by simpa using hinitiating)]
        exact htaken.put (Held.inHandshake h he)
  · rw [if_pos (by simpa using hlen)]
    exact h

/-- A third message either establishes the session or must leave no queue behind. -/
theorem wp_held_onSessionMsg3 {src : NodeAddr} {msg3 : SessionMsg3} (h : Held pending n)
    (hmsg3 : Msg3Holds pending n src msg3) :
    wp (onSessionMsg3 env src msg3) (fun _ => Held pending) (fun _ => Held pending) n := by
  unfold onSessionMsg3
  by_cases hlen : msg3.handshakePayload.length = XK_HANDSHAKE_MSG3_SIZE
  · rw [if_neg (by simpa using hlen), wp_bind_iff, wp_takeSession_iff]
    refine ⟨fun e he => ?_, fun _ => h⟩
    have htaken := Held.taken h src
    by_cases hrekey : (e.isEstablished && e.hasRekeyInProgress && !e.rekeyInitiator) = true
    · rw [if_pos hrekey]
      simp only [Bool.and_eq_true] at hrekey
      have hnobody : ¬ n.Queued src := by
        unfold Queued
        rw [HeldOn.unqueued h trivial he hrekey.1.1]
        exact Bool.false_ne_true
      split
      · exact htaken.put fun hqueued => absurd hqueued hnobody
      · rw [wp_bind_iff, wp_attempt_iff, wp_pureCall_iff]
        refine ⟨fun _ _ => htaken.put fun hqueued => absurd hqueued hnobody, fun failed _ => ?_⟩
        cases failed with
        | error e => exact htaken.put fun hqueued => absurd hqueued hnobody
        | panic => exact htaken.lost fun hqueued => absurd hqueued hnobody
    · rw [if_neg hrekey]
      by_cases hawaiting : e.isAwaitingMsg3 = true
      · rw [if_neg (by simp [hawaiting])]
        obtain ⟨handshake, hstate⟩ := SessionEntry.isAwaitingMsg3_iff.mp hawaiting
        rw [hstate]
        dsimp only
        have hlost : ∀ n', Taken src pending n n' →
            ¬ FinishesAsResponder msg3.handshakePayload handshake → Held pending n' :=
          fun n' hn' hfails => hn'.lost fun hqueued =>
            (hmsg3 e handshake he hstate hlen hqueued).resolve_right hfails
        rw [wp_bind_iff, wp_orReturn_iff]
        refine ⟨fun closed hclosed => ?_, fun ⟨_, herror⟩ => hlost _ htaken ?_,
          fun hpanic => hlost _ htaken ?_⟩
        · obtain ⟨_, closed⟩ := closed
          dsimp only
          rw [wp_bind_iff, wp_orElse_iff]
          refine ⟨fun remotePubkey hremote => ?_, fun hnone => hlost _ htaken ?_⟩
          · rw [wp_bind_iff, wp_registerIdentity_iff, wp_bind_iff, wp_orReturn_iff]
            have hnoted : Taken src pending n { n with
                sessions := n.sessions.erase src
                effects := n.effects ++ [.registerIdentity src remotePubkey] } :=
              ⟨htaken.1.congr rfl rfl, htaken.2⟩
            have hfails : ∀ failed, closed.intoSession = .error failed →
                ¬ FinishesAsResponder msg3.handshakePayload handshake := by
              rintro failed herror ⟨_, _, _, hclosed', -, hsession⟩
              cases hclosed.symm.trans hclosed'
              cases herror.symm.trans hsession
            refine ⟨fun session _ => ?_, fun ⟨_, herror⟩ => hlost _ hnoted (hfails _ herror),
              fun hpanic => hlost _ hnoted (hfails _ hpanic)⟩
            rw [wp_bind_iff, wp_read_iff, wp_bind_iff, wp_putSession_iff]
            exact wp_held_flushPendingPackets env (hnoted.but _)
          · rintro ⟨_, _, _, hclosed', hremote, -⟩
            cases hclosed.symm.trans hclosed'
            cases hnone.symm.trans hremote
        · rintro ⟨_, _, _, hclosed', -, -⟩
          cases herror.symm.trans hclosed'
        · rintro ⟨_, _, _, hclosed', -, -⟩
          cases hpanic.symm.trans hclosed'
      · rw [if_pos (by simpa using hawaiting)]
        exact htaken.put (Held.inHandshake h he)
  · rw [if_pos (by simpa using hlen)]
    exact h

/-! ## Established sessions -/

omit [Sha256] [HkdfSha256] [Secp256k1 SecretKey PublicKey] in
/-- Only an established entry is opened, and it is put back as one. -/
theorem wp_held_openSessionFrame {src : NodeAddr} {kBit : Bool} {frame : NoiseSession.Frame}
    (h : Held pending n) :
    wp (openSessionFrame env src kBit frame) (fun _ => Held pending) (fun _ => Held pending) n := by
  unfold openSessionFrame
  rw [wp_bind_iff, wp_read_iff, wp_bind_iff, wp_orElse_iff]
  refine ⟨fun e he => ?_, fun _ => h⟩
  by_cases hestablished : e.isEstablished = true
  · rw [if_neg (by simpa using hestablished)]
    rw [wp_bind_iff, wp_expect_iff]
    refine ⟨fun e' _ => ?_, fun _ => h⟩
    extract_lets decrypt
    have hnobody : ¬ n.Queued src := by
      unfold Queued
      rw [HeldOn.unqueued h trivial he hestablished]
      exact Bool.false_ne_true
    have hdecrypt : ∀ u n', HeldBut src pending n' → ¬ n'.Queued src →
        wp (decrypt u) (fun _ => Held pending) (fun _ => Held pending) n' := by
      intro u n' hn' hnobody'
      have hput : ∀ e, Held pending { n' with
          sessions := (n'.sessions.erase src).insert src e } := fun e =>
        HeldOn.put hn'.take fun _ hqueued => absurd hqueued hnobody'
      have hclosed : Held pending { n' with sessions := n'.sessions.erase src } :=
        hn'.take.close fun hqueued => absurd hqueued hnobody'
      simp only [decrypt]
      rw [wp_bind_iff, wp_takeSession_iff]
      refine ⟨fun entry _ => ?_, fun _ => hn'.close fun hqueued => absurd hqueued hnobody'⟩
      split
      · exact hclosed
      · rw [wp_bind_iff, wp_putSession_iff, wp_orReturn_iff]
        exact ⟨fun _ _ => hput _, fun _ => hput _, fun _ => hput _⟩
      · exact hput _
    split_ifs
    · rw [wp_bind_iff, wp_expect_iff]
      refine ⟨fun _ _ => ?_, fun _ => h⟩
      rw [wp_bind_iff, wp_modifySession_iff]
      refine hdecrypt () _ (fun d hd hqueued => ?_) hnobody
      unfold Handshaking
      rw [Map.lookup_modify_ne _ hd]
      exact h d trivial hqueued
    · exact hdecrypt () _ (Held.but h src) hnobody
  · rw [if_pos (by simpa using hestablished)]
    exact h

omit [Sha256] [HkdfSha256] [Secp256k1 SecretKey PublicKey] in
theorem keeps_held_handleEncryptedSessionMsg (src : NodeAddr) (payload : Bytes) (pathMtu : Nat)
    (ceFlag : Bool) :
    Keeps (Held pending) (handleEncryptedSessionMsg env src payload pathMtu ceFlag :
      Handler SecretKey PublicKey ν μ Unit) := by
  have hrules : SessionRules (fun _ _ => True)
      (Held pending : Node SecretKey PublicKey ν μ → Prop) := sessionRules_heldOn
  refine Keeps.body <| (keeps_orReturn _).bind fun _ => (keeps_orReturn _).bind fun coords => ?_
  refine (keeps_read _).bind fun _ => (hrules.keeps_cacheCoords _ _).bind fun _ => ?_
  refine (hrules.keeps_cacheCoords _ _).bind fun _ => Keeps.bind ?_ fun _ => ?_
  · exact keeps_iff.mpr fun _ hn => wp_held_openSessionFrame env hn
  · exact (keeps_orReturn _).bind fun _ => hrules.receives.keeps_processSessionMessage env
      (keeps_held_flushPendingPackets env src) _ _ _ _ _

/-- No handshake that packets wait for is lost with this payload. -/
def PayloadHolds (env : Env SecretKey) (pending : NodeAddr → Prop)
    (n : Node SecretKey PublicKey ν μ) (src : NodeAddr) (payload : Bytes) : Prop :=
  ∀ pre, FspCommonPrefix.parse payload = .ok pre →
    (∀ ack, pre.phase = FSP_PHASE_MSG2 →
      SessionAck.decode (payload.drop FSP_COMMON_PREFIX_SIZE) = .ok ack →
      AckHolds env pending n src ack) ∧
    (∀ msg3, pre.phase = FSP_PHASE_MSG3 →
      SessionMsg3.decode (payload.drop FSP_COMMON_PREFIX_SIZE) = .ok msg3 →
      Msg3Holds pending n src msg3)

/-- Of the payloads only handshake messages need a condition. -/
theorem wp_held_handleSessionPayload {src : NodeAddr} {payload : Bytes} {pathMtu : Nat}
    {ceFlag : Bool} (h : Held pending n) (hpayload : PayloadHolds env pending n src payload) :
    wp (handleSessionPayload env src payload pathMtu ceFlag : Handler SecretKey PublicKey ν μ Unit)
      (fun _ => Held pending) (fun _ => Held pending) n := by
  have hrules : SessionRules (fun _ _ => True)
      (Held pending : Node SecretKey PublicKey ν μ → Prop) := sessionRules_heldOn
  have hwarm : ∀ dest, Keeps (Held pending) (warmUp env dest : Handler SecretKey PublicKey ν μ Unit) :=
    fun dest => keeps_warmUp env (keeps_heldOn_sendCoordsWarmup env dest)
  unfold handleSessionPayload
  refine wp_body_of_wp ?_
  rw [wp_bind_iff, wp_orReturn_iff]
  refine ⟨fun pre hpre => ?_, fun _ => h, fun _ => h⟩
  rw [wp_bind_iff, wp_orReturn_iff]
  refine ⟨fun inner hinner => ?_, fun _ => h, fun _ => h⟩
  obtain ⟨hack, hmsg3⟩ := hpayload pre hpre
  rw [(sliceFrom_eq_ok.mp hinner).2] at hack hmsg3
  by_cases hphase1 : (pre.phase == FSP_PHASE_MSG1) = true
  · rw [if_pos hphase1]
    exact (Keeps.body ((keeps_orReturn _).bind fun _ => keeps_held_onSessionSetup env _ _)).wp h
  rw [if_neg hphase1]
  by_cases hphase2 : (pre.phase == FSP_PHASE_MSG2) = true
  · rw [if_pos hphase2]
    unfold handleSessionAck
    refine wp_body_of_wp ?_
    rw [wp_bind_iff, wp_orReturn_iff]
    exact ⟨fun ack hdecode => wp_held_onSessionAck env h (hack ack (by simpa using hphase2) hdecode),
      fun _ => h, fun _ => h⟩
  rw [if_neg hphase2]
  by_cases hphase3 : (pre.phase == FSP_PHASE_MSG3) = true
  · rw [if_pos hphase3]
    unfold handleSessionMsg3
    refine wp_body_of_wp ?_
    rw [wp_bind_iff, wp_orReturn_iff]
    exact ⟨fun msg3 hdecode =>
      wp_held_onSessionMsg3 env h (hmsg3 msg3 (by simpa using hphase3) hdecode), fun _ => h, fun _ => h⟩
  rw [if_neg hphase3]
  refine Keeps.wp (Keeps.ite (Keeps.ite (Keeps.ite (keeps_stop _) ?_)
    (keeps_held_handleEncryptedSessionMsg env _ _ _ _)) (keeps_pure _)) h
  refine (keeps_orReturn _).bind fun _ => (keeps_orReturn _).bind fun errorBody => ?_
  split
  · exact hrules.receives.keeps_handleCoordsRequired env hwarm _
  · exact hrules.receives.keeps_handlePathBroken env hwarm _
  · exact hrules.receives.keeps_handleMtuExceeded env _
  · exact keeps_pure _

/-! ## Initiation -/

omit [ChaCha20Poly1305] in
/-- **Initiation** leaves a session in handshake if it succeeds, and otherwise no setup could be
sent. -/
theorem wp_held_initiateSession {dest : NodeAddr} {destPubkey : PublicKey} (h : Held pending n)
    (hnew : n.sessions.lookup dest = none) :
    wp (initiateSession env dest destPubkey)
      (fun _ n' => Held pending n' ∧ n'.Handshaking dest)
      (fun _ n' => (Held pending n' ∧ n'.sessions.lookup dest = none ∧
        n'.pendingTunPackets = n.pendingTunPackets ∧ n'.peers = n.peers) ∧
        ¬ CanInitiate env n dest destPubkey) n := by
  unfold initiateSession
  rw [wp_bind_iff, wp_read_iff, hnew, if_neg (by simp)]
  rw [wp_bind_iff, wp_read_iff, wp_bind_iff, wp_attempt_iff, wp_pureCall_iff]
  have hkeeps : ∀ payload, Keeps (fun n' => Held pending n' ∧ n'.sessions.lookup dest = none ∧
        n'.pendingTunPackets = n.pendingTunPackets ∧ n'.peers = n.peers)
      (sendSessionPayload env dest payload : M SecretKey PublicKey ν μ SendError Unit) := by
    refine fun payload => keeps_sendSessionPayload_of_note env dest payload ?_
      fun _ _ _ _ _ h => ⟨h.1.congr rfl rfl, h.2⟩
    intro n f hf h
    refine ⟨h.1.modify dest fun e => (hf e).state, ?_, h.2.2⟩
    rw [Map.lookup_modify, if_pos rfl, h.2.1, Option.map_none]
  refine ⟨fun started hstarted => ?_, fun failed hfailed => ?_⟩
  · obtain ⟨msg1, handshake⟩ := started
    dsimp only
    rw [wp_bind_iff]
    refine wp_mono (fun _ n' hn' => ?_) (fun _ n' hn' => ?_)
      (wp_sendSessionPayload_reaches env (hkeeps _) ⟨h, hnew, rfl, rfl⟩)
    · rw [wp_bind_iff, wp_registerIdentity_iff, wp_putSession_iff]
      refine ⟨HeldOn.put ((Held.but hn'.1.1 dest).congr rfl rfl) fun _ _ => rfl, ?_⟩
      exact ⟨_, AList.lookup_insert _, rfl⟩
    · refine ⟨hn'.1, ?_⟩
      rintro ⟨msg1', started', hstarted', hreaches⟩
      cases hstarted.symm.trans hstarted'
      exact hn'.2 hreaches
  · have hfails : ¬ CanInitiate env n dest destPubkey := by
      rintro ⟨_, _, hstarted, -⟩
      cases hfailed.symm.trans hstarted
    cases failed with
    | error e => exact ⟨⟨h, hnew, rfl, rfl⟩, hfails⟩
    | panic => exact ⟨⟨h, hnew, rfl, rfl⟩, hfails⟩

omit [ChaCha20Poly1305] in
theorem keeps_held_initiateSession (dest : NodeAddr) (destPubkey : PublicKey) :
    Keeps (Held pending) (initiateSession env dest destPubkey :
      M SecretKey PublicKey ν μ SendError Unit) := by
  refine (keeps_read _).bind fun existing => Keeps.ite (keeps_pure ()) ?_
  refine (keeps_read _).bind fun _ => (keeps_pureCall _).attempt.bind fun started => ?_
  cases started with
  | error e => exact keeps_stop _
  | ok r =>
    refine (keeps_heldOn_sendSessionPayload env dest _).bind fun _ => ?_
    refine Keeps.bind (fun n hn => hn.congr rfl rfl) fun _ => ?_
    exact fun n hn => HeldOn.put (Held.but hn dest) fun _ _ => rfl

/-! ## Rekeys, timeouts and removal -/

omit [ChaCha20Poly1305] in
theorem keeps_held_initiateSessionRekeys (dests : List NodeAddr) :
    Keeps (Held pending) (initiateSessionRekeys env dests : Handler SecretKey PublicKey ν μ Unit) := by
  induction dests with
  | nil => exact keeps_pure ()
  | cons dest dests ih =>
    refine Keeps.bind (Keeps.body ?_) fun _ => ih
    refine (keeps_orElse _ _).bind fun _ => (keeps_read _).bind fun _ => (keeps_orElse _ _).bind
      fun _ => (keeps_read _).bind fun _ => (keeps_orReturn _).bind fun _ => ?_
    refine (keeps_heldOn_sendSessionPayload env dest _).attempt.bind fun sent => ?_
    cases sent with
    | error e => exact keeps_stop _
    | ok u => exact fun n hn => hn.modify dest fun _ => rfl

omit [ChaCha20Poly1305] in
/-- **A rekey tick** works on established sessions alone, which stay established. -/
theorem keeps_held_checkSessionRekey :
    Keeps (Held pending) (checkSessionRekey env : Handler SecretKey PublicKey ν μ Unit) := by
  rw [keeps_iff]
  intro n hn
  refine wp_body_of_wp ?_
  rw [wp_bind_iff, wp_read_iff]
  split_ifs
  · exact hn
  · rw [wp_bind_iff, wp_write_iff, wp_bind_iff, wp_write_iff]
    refine (keeps_held_initiateSessionRekeys env _).wp ?_
    have hcutover : Held pending (Node.modifySessions
        (fun e => (e.cutoverToNewSession env.nowMs env.instant).1)
        (n.sessionsWhere (wantsCutover env.nowMs)) n) := by
      refine modifySessions_keeps (P := fun e => e.isEstablished = true) ?_
        (fun e he => e.isEstablished_cutoverToNewSession he env.nowMs env.instant)
        (fun addr haddr e he => isEstablished_of_wantsCutover haddr he) hn
      intro m addr hm hheld
      refine hm.modifyAt fun e he => ?_
      have hstill := e.isEstablished_cutoverToNewSession (hheld e he) env.nowMs env.instant
      exact (SessionEntry.not_inHandshake_of_established hstill).trans
        (SessionEntry.not_inHandshake_of_established (hheld e he)).symm
    exact modifySessions_keeps (P := fun _ => True) (f := SessionEntry.completeDrain)
      (fun m addr hm _ => hm.modify addr fun _ => rfl) (fun _ _ => trivial)
      (fun _ _ _ _ => trivial) hcutover

omit [ChaCha20Poly1305] [Sha256] [HkdfSha256] [Secp256k1 SecretKey PublicKey] in
theorem keeps_held_resendPendingSessionHandshakes {ε : Type} :
    Keeps (Held pending) (resendPendingSessionHandshakes env : M SecretKey PublicKey ν μ ε Unit) := by
  refine (keeps_write fun n hn => HeldOn.forgetSessions _ hn).bind fun _ => ?_
  refine (keeps_read _).bind fun candidates => ?_
  induction candidates with
  | nil => exact keeps_pure ()
  | cons candidate candidates ih =>
    refine Keeps.bind ?_ fun _ => ih
    refine (keeps_heldOn_sendSessionPayload env _ _).attempt.bind fun sent => ?_
    cases sent with
    | error e => exact keeps_pure ()
    | ok u => exact (keeps_read _).bind fun _ => fun n hn => hn.modify _ fun _ => rfl

omit [ChaCha20Poly1305] [Sha256] [HkdfSha256] [Secp256k1 SecretKey PublicKey] [SessionMmp μ] in
theorem Held.purgeIdleSessions (h : Held pending n) (nowMs : Nat) :
    Held pending (n.purgeIdleSessions nowMs) := by
  unfold Node.purgeIdleSessions
  extract_lets timeoutMs
  split_ifs
  · exact h
  · exact HeldOn.forgetSessions _ h

omit [ChaCha20Poly1305] [Sha256] [HkdfSha256] [Secp256k1 SecretKey PublicKey] [SessionMmp μ] in
/-- The release of an index touches no session. -/
theorem releaseIndex_frames (n : Node SecretKey PublicKey ν μ) (tid : TransportId)
    (index : Option SessionIndex) :
    (n.releaseIndex tid index).sessions = n.sessions ∧
      (n.releaseIndex tid index).pendingTunPackets = n.pendingTunPackets ∧
      (n.releaseIndex tid index).effects = n.effects := by
  cases index with
  | none => exact ⟨rfl, rfl, rfl⟩
  | some index => exact ⟨rfl, rfl, rfl⟩

omit [ChaCha20Poly1305] [Sha256] [HkdfSha256] [Secp256k1 SecretKey PublicKey] [SessionMmp μ] in
/-- Indices are released without a look at sessions. -/
theorem releaseIndices_frames (n : Node SecretKey PublicKey ν μ)
    (peer : ActivePeer SecretKey PublicKey ν) :
    (n.releaseIndices peer).sessions = n.sessions ∧
      (n.releaseIndices peer).pendingTunPackets = n.pendingTunPackets ∧
      (n.releaseIndices peer).effects = n.effects := by
  have hrelease : ∀ (n' : Node SecretKey PublicKey ν μ) (tid : TransportId)
      (index : Option SessionIndex),
      n'.sessions = n.sessions ∧ n'.pendingTunPackets = n.pendingTunPackets ∧
        n'.effects = n.effects →
      (n'.releaseIndex tid index).sessions = n.sessions ∧
        (n'.releaseIndex tid index).pendingTunPackets = n.pendingTunPackets ∧
        (n'.releaseIndex tid index).effects = n.effects := by
    intro n' tid index h
    obtain ⟨hsessions, hqueues, heffects⟩ := releaseIndex_frames n' tid index
    exact ⟨hsessions.trans h.1, hqueues.trans h.2.1, heffects.trans h.2.2⟩
  unfold Node.releaseIndices
  cases peer.transportId with
  | none => exact ⟨rfl, rfl, rfl⟩
  | some tid =>
    refine hrelease _ tid _ (hrelease _ tid _ (hrelease _ tid _ ?_))
    cases peer.rekeyOurIndex with
    | none => exact hrelease n tid _ ⟨rfl, rfl, rfl⟩
    | some index => exact hrelease n tid _ ⟨rfl, rfl, rfl⟩

omit [ChaCha20Poly1305] [Sha256] [HkdfSha256] [Secp256k1 SecretKey PublicKey] [SessionMmp μ] in
/-- A peer that is removed takes its session and the queue with it. -/
theorem Held.removeActivePeer (h : Held pending n) (addr : NodeAddr) :
    Held pending (n.removeActivePeer addr) := by
  unfold Node.removeActivePeer
  cases n.peers.lookup addr with
  | none => exact h
  | some peer =>
    have hforgotten : Held pending { n with
        peers := n.peers.erase addr
        sessions := n.sessions.erase addr
        pendingTunPackets := n.pendingTunPackets.erase addr } :=
      (h.forgetSession addr).congr rfl rfl
    obtain ⟨hsessions, hqueues, -⟩ := releaseIndices_frames { n with
      peers := n.peers.erase addr
      sessions := n.sessions.erase addr
      pendingTunPackets := n.pendingTunPackets.erase addr } peer
    exact HeldOn.congr hforgotten hsessions hqueues

end Sessions

end Node

end Fips
