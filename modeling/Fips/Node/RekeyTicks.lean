import Fips.Node.LinkSample
import Fips.Node.RekeyIndices
import Fips.Node.SessionRekey
import Fips.Node.SessionRules
import Fips.Wire.Codec

/-!
# Rekeys that are never answered

A tick resends the first messages of link rekeys (`resend_pending_rekeys`) and looks for links
(`check_rekey`) and sessions (`check_session_rekey`) that are due for a rekey. A rekey under way
keeps its peer out of all that `check_rekey` does about rekeys, and its session out of
`check_session_rekey`.

`resend_pending_rekeys` is documented to abandon a rekey that has timed out, with the number of
resends of an initial handshake (`rekey.rs:218-221`). It counts nothing and abandons nothing, and no
tick gives up the rekey of a session.

## Results

* `inProgress_rekeyTick`: a tick leaves every rekey under way.
* `rekeysEnd_iff`: unanswered rekeys end as they should exactly in the runs that are too short for
  one to become overdue.
-/

open Checked

namespace Fips

namespace Node

variable {SecretKey PublicKey ν μ : Type}

/-! ## Session rekeys under way -/

/-- The datagram that a message handed to a link carries is for this node. -/
def isDatagramTo (addr : NodeAddr) : Effect PublicKey → Bool
  | .sentLinkMessage _ message _ =>
    match SessionDatagram.decode message.tail with
    | .ok d => d.destAddr == addr
    | .error _ => false
  | _ => false

/-- How many datagrams for a node were sent. -/
def datagramsTo (addr : NodeAddr) (n : Node SecretKey PublicKey ν μ) : Nat :=
  n.effects.countP (isDatagramTo addr)

/-- The session with a node has a rekey under way, begun here or there. -/
def rekeying (n : Node SecretKey PublicKey ν μ) (addr : NodeAddr) : Bool :=
  (n.sessions.lookup addr).any (·.hasRekeyInProgress)

/-- A change of sessions sends nothing. -/
theorem datagramsTo_modifySessions (n : Node SecretKey PublicKey ν μ) (addr : NodeAddr)
    (f : SessionEntry SecretKey PublicKey μ → SessionEntry SecretKey PublicKey μ)
    (addrs : List NodeAddr) : (modifySessions f addrs n).datagramsTo addr = n.datagramsTo addr :=
  EventRun.exec_frames (fun n : Node SecretKey PublicKey ν μ => n.datagramsTo addr) fun _ _ _ => rfl

/-- A datagram is one to its destination. -/
theorem isDatagramTo_encode (nextHop addr : NodeAddr) (d : SessionDatagram) (ceFlag : Bool) :
    isDatagramTo addr (.sentLinkMessage nextHop d.encode ceFlag : Effect PublicKey) =
      (d.destAddr == addr) := by
  simp only [isDatagramTo, SessionDatagram.decode_encode]

/-- Mutation of sessions that leaves a rekey alone. -/
theorem rekeying_modifySessions (n : Node SecretKey PublicKey ν μ) {addr : NodeAddr}
    (f : SessionEntry SecretKey PublicKey μ → SessionEntry SecretKey PublicKey μ)
    {addrs : List NodeAddr} (hf : addr ∈ addrs → ∀ e, (f e).rekeyState = e.rekeyState) :
    (modifySessions f addrs n).rekeying addr = n.rekeying addr := by
  refine EventRun.exec_frames (fun n : Node SecretKey PublicKey ν μ => n.rekeying addr)
    fun m b hb => ?_
  unfold rekeying
  by_cases hab : addr = b
  · subst hab
    cases he : m.sessions.lookup addr with
    | none =>
      unfold Map.modify
      rw [he]
      exact congrArg _ he
    | some e =>
      rw [Map.lookup_modify_self he f, Option.any_some, Option.any_some]
      exact congrArg Option.isSome (hf hb e)
  · rw [Map.lookup_modify_ne m.sessions hab f]

section Rekeying

variable [Sha256] [HkdfSha256] [Secp256k1 SecretKey PublicKey] [SessionMmp μ] (env : Env SecretKey)
  {n : Node SecretKey PublicKey ν μ} {addr : NodeAddr}

/-- `initiate_session_rekey` changes the entry and sends to the node it is for. -/
theorem keeps_initiateSessionRekey {I : Node SecretKey PublicKey ν μ → Prop} {dest : NodeAddr}
    (hmodify : ∀ n f, I n → I { n with sessions := n.sessions.modify dest f })
    (hsent : ∀ n nextHop (d : SessionDatagram), d.destAddr = dest → I n →
      I { n with effects := n.effects ++ [.sentLinkMessage nextHop d.encode false] }) :
    Keeps I (initiateSessionRekey env dest : Handler SecretKey PublicKey ν μ Unit) := by
  refine Keeps.body ((keeps_orElse _ _).bind fun _ => (keeps_read _).bind fun _ =>
    (keeps_orElse _ _).bind fun entry => (keeps_read _).bind fun n =>
    (keeps_orReturn _).bind fun started => ?_)
  have hsend := keeps_sendSessionPayload_of_note env (ν := ν) (μ := μ) (I := I) dest
    ((SessionSetup.new env.myCoords (env.destCoords dest)).withHandshake started.1).encode
    (fun n f _ => hmodify n f) fun n nextHop d hdest _ => hsent n nextHop d hdest
  refine hsend.attempt.bind fun sent => ?_
  cases sent with
  | error failed => exact keeps_stop _
  | ok u => exact fun n hn => hmodify n _ hn

/-- What every rekey of a tick keeps, the tick's loop keeps. -/
theorem keeps_initiateSessionRekeys {I : Node SecretKey PublicKey ν μ → Prop}
    {dests : List NodeAddr} (h : ∀ dest ∈ dests, Keeps I (initiateSessionRekey env dest :
      Handler SecretKey PublicKey ν μ Unit)) :
    Keeps I (initiateSessionRekeys env dests : Handler SecretKey PublicKey ν μ Unit) := by
  induction dests with
  | nil => exact keeps_pure ()
  | cons dest dests ih =>
    exact (h dest List.mem_cons_self).bind fun _ => ih fun d hd => h d (List.mem_cons_of_mem _ hd)

/-- `check_session_rekey` works on sessions only. -/
theorem frames_checkSessionRekey : Frames
    (fun n : Node SecretKey PublicKey ν μ => (n.peers, n.config))
    (checkSessionRekey env : Handler SecretKey PublicKey ν μ Unit) := by
  have hmodify : ∀ (f : SessionEntry SecretKey PublicKey μ → SessionEntry SecretKey PublicKey μ)
      (addrs : List NodeAddr) (n : Node SecretKey PublicKey ν μ),
      ((modifySessions f addrs n).peers, (modifySessions f addrs n).config) =
        (n.peers, n.config) := by
    intro f addrs n
    exact EventRun.exec_frames (fun n : Node SecretKey PublicKey ν μ => (n.peers, n.config))
      fun _ _ _ => rfl
  refine frames_of_keeps fun t => Keeps.body ((keeps_read _).bind fun n => ?_)
  refine Keeps.ite (keeps_stop _) ?_
  refine (keeps_write fun m hm => (hmodify _ _ m).trans hm).bind fun _ => ?_
  refine (keeps_write fun m hm => (hmodify _ _ m).trans hm).bind fun _ => ?_
  exact keeps_initiateSessionRekeys env fun dest _ => keeps_initiateSessionRekey env
    (fun _ _ hm => hm) fun _ _ _ _ hm => hm

/-- **A session with a rekey under way** keeps it, and is sent nothing. -/
theorem rekeying_checkSessionRekey (h : n.rekeying addr = true) :
    ((checkSessionRekey env n : _ × Result Unit Unit).1.rekeying addr = true) ∧
      (checkSessionRekey env n : _ × Result Unit Unit).1.datagramsTo addr = n.datagramsTo addr := by
  let I : Node SecretKey PublicKey ν μ → Prop := fun m =>
    m.rekeying addr = true ∧ m.datagramsTo addr = n.datagramsTo addr
  have hbusy : ∀ e, n.sessions.lookup addr = some e → e.hasRekeyInProgress = true := by
    intro e he
    unfold rekeying at h
    rwa [he, Option.any_some] at h
  have hcutover : addr ∉ n.sessionsWhere (wantsCutover env.nowMs) := by
    intro hmem
    obtain ⟨e, he, hwants⟩ := mem_sessionsWhere.mp hmem
    unfold wantsCutover at hwants
    simp only [hbusy e he, Bool.not_true, Bool.and_false, Bool.false_and] at hwants
    cases hwants
  have hrekey : addr ∉ n.sessionsWhere (wantsRekey n.config env.nowMs) := by
    intro hmem
    obtain ⟨e, he, hwants⟩ := mem_sessionsWhere.mp hmem
    unfold wantsRekey at hwants
    simp only [hbusy e he, Bool.not_true, Bool.and_false, Bool.false_and] at hwants
    cases hwants
  have hinitiate : ∀ dest ∈ n.sessionsWhere (wantsRekey n.config env.nowMs),
      Keeps I (initiateSessionRekey env dest : Handler SecretKey PublicKey ν μ Unit) := by
    intro dest hdest
    have hne : addr ≠ dest := fun heq => hrekey (heq ▸ hdest)
    refine keeps_initiateSessionRekey env (fun m f hm => ⟨?_, hm.2⟩) fun m nextHop d hd hm => ?_
    · refine Eq.trans ?_ hm.1
      unfold rekeying
      rw [Map.lookup_modify_ne m.sessions hne f]
    · refine ⟨hm.1, Eq.trans ?_ hm.2⟩
      have hother : isDatagramTo addr (.sentLinkMessage nextHop d.encode false : Effect PublicKey) =
          false := by
        rw [isDatagramTo_encode, hd]
        exact beq_false_of_ne hne.symm
      unfold datagramsTo
      rw [List.countP_append, List.countP_singleton, hother]
      rfl
  refine fst_of_wp (P := I) (wp_body_of_wp ?_)
  rw [wp_bind_iff, wp_read_iff]
  split_ifs
  · exact ⟨h, rfl⟩
  · rw [wp_bind_iff, wp_write_iff, wp_bind_iff, wp_write_iff]
    refine (keeps_initiateSessionRekeys env hinitiate).wp ⟨?_, ?_⟩
    · refine (rekeying_modifySessions _ (·.completeDrain) fun _ _ => rfl).trans ?_
      exact (rekeying_modifySessions n _ fun hmem => absurd hmem hcutover).trans h
    · rw [datagramsTo_modifySessions, datagramsTo_modifySessions]

end Rekeying

end Node

namespace LinkNode

variable {SecretKey PublicKey ν μ : Type} {ε : Type}

/-! ## Ticks -/

/-- The last loop of `resend_pending_rekeys`. -/
def resendRekeys (env : LinkEnv SecretKey) : List NodeAddr → M SecretKey PublicKey ν μ ε Unit
  | [] => pure ()
  | addr :: addrs => do
    resendRekey env addr
    resendRekeys env addrs

/-- `resend_pending_rekeys`. -/
def resendPendingRekeys (env : LinkEnv SecretKey) : M SecretKey PublicKey ν μ ε Unit := do
  let n ← read id
  if n.config.rekeyEnabled then
    resendRekeys env (n.peersWhere (·.needsMsg1Resend env.nowMs))

/-- What one tick reads from outside: for the resends, for the rekey of each peer, and for the
sessions. The clock does not go back within a tick. -/
structure RekeyTick (SecretKey : Type) where
  resend : LinkEnv SecretKey
  instant : Nat
  link : NodeAddr → LinkEnv SecretKey
  session : Env SecretKey
  le_link : ∀ addr, resend.nowMs ≤ (link addr).nowMs

/-- The time of a tick, which its first handler reads. -/
def RekeyTick.nowMs (t : RekeyTick SecretKey) : Nat := t.resend.nowMs

section Tick

variable [Sha256] [HkdfSha256] [ChaCha20Poly1305] [Secp256k1 SecretKey PublicKey] [Mmp ν]
  [SessionMmp μ]

/-- The link part of the rekeys of a tick (`rx_loop.rs:150-160`). -/
def linkRekeyTick (n : LinkNode SecretKey PublicKey ν μ) (t : RekeyTick SecretKey) :
    LinkNode SecretKey PublicKey ν μ :=
  let resent := (resendPendingRekeys t.resend n : _ × Result Unit Unit).1
  (checkRekey t.instant t.link resent : _ × Result Unit Unit).1

/-- The rekeys of a tick. -/
def rekeyTick (n : LinkNode SecretKey PublicKey ν μ) (t : RekeyTick SecretKey) :
    LinkNode SecretKey PublicKey ν μ :=
  (onNode (Node.checkSessionRekey t.session) (n.linkRekeyTick t)).1

end Tick

/-! ## What a resend does -/

/-- The frame that the resends of a tick put out for a peer. -/
def resentFrame (env : LinkEnv SecretKey) (n : LinkNode SecretKey PublicKey ν μ) (addr : NodeAddr) :
    Option Outgoing := do
  let peer ← n.peers.lookup addr
  if !(n.config.rekeyEnabled && peer.needsMsg1Resend env.nowMs) then none
  else do
    let msg1Bytes ← peer.rekeyMsg1
    let transportId ← peer.transportId
    let remoteAddr ← peer.currentAddr
    if env.send transportId remoteAddr msg1Bytes = .sent then
      some ⟨transportId, remoteAddr, msg1Bytes⟩
    else none

section Resend

variable {n n' : LinkNode SecretKey PublicKey ν μ} (env : LinkEnv SecretKey)

/-- The resends for these peers, and nothing else, lead from `n` to `n'`. -/
structure Resent (addrs : List NodeAddr) (n n' : LinkNode SecretKey PublicKey ν μ) : Prop where
  outbox : n'.outbox = n.outbox ++ addrs.filterMap (resentFrame env n)
  sessions : n'.sessions = n.sessions
  config : n'.config = n.config
  effects : n'.effects = n.effects
  sentTo : ∀ a ∈ addrs, (resentFrame env n a).isSome → n'.peers.lookup a = (n.peers.lookup a).map
    (·.setMsg1NextResend (env.nowMs + n.config.handshakeResendIntervalMs))
  other : ∀ a, (a ∈ addrs → resentFrame env n a = none) → n'.peers.lookup a = n.peers.lookup a

/-- **One resend.** The message goes out once if it is due, and its next time is set. -/
theorem wp_resendRekey (henabled : n.config.rekeyEnabled = true) (addr : NodeAddr) :
    wp (resendRekey env addr : M SecretKey PublicKey ν μ ε Unit) (fun _ => Resent env [addr] n)
      (fun _ _ => False) n := by
  have hnone : resentFrame env n addr = none → Resent env [addr] n n := by
    intro h
    refine ⟨by simp [h], rfl, rfl, rfl, fun a ha hsome => ?_, fun _ _ => rfl⟩
    rw [List.mem_singleton.mp ha, h] at hsome
    cases hsome
  unfold resendRekey
  rw [wp_body_iff, wp_bind_iff, wp_read_iff, wp_bind_iff, wp_orElse_iff]
  refine ⟨fun peer hpeer => ?_, fun hpeer => hnone (by unfold resentFrame; rw [hpeer]; rfl)⟩
  have hframe : ∀ o, (do
      let msg1Bytes ← peer.rekeyMsg1
      let transportId ← peer.transportId
      let remoteAddr ← peer.currentAddr
      if env.send transportId remoteAddr msg1Bytes = .sent then
        some ⟨transportId, remoteAddr, msg1Bytes⟩
      else none) = o → peer.needsMsg1Resend env.nowMs = true → resentFrame env n addr = o := by
    rintro o rfl hdue
    unfold resentFrame
    rw [hpeer, Option.bind_eq_bind, Option.bind_some, if_neg (by simp [hdue, henabled])]
  rw [wp_bind_iff, wp_read_iff]
  by_cases hdue : peer.needsMsg1Resend env.nowMs = true
  · rw [if_neg (by simp [hdue]), wp_bind_iff, wp_orElse_iff]
    refine ⟨fun msg1 hmsg1 => ?_, fun hmsg1 => hnone (hframe _ (by rw [hmsg1]; rfl) hdue)⟩
    rw [wp_bind_iff, wp_orElse_iff]
    refine ⟨fun tid htid => ?_, fun htid => hnone (hframe _ (by rw [hmsg1, htid]; rfl) hdue)⟩
    rw [wp_bind_iff, wp_orElse_iff]
    refine ⟨fun remoteAddr haddr => ?_,
      fun haddr => hnone (hframe _ (by rw [hmsg1, htid, haddr]; rfl) hdue)⟩
    split
    · rename_i hsent
      have hsome : resentFrame env n addr = some ⟨tid, remoteAddr, msg1⟩ :=
        hframe _ (by rw [hmsg1, htid, haddr]; exact if_pos hsent) hdue
      refine ⟨by simp [hsome], rfl, rfl, rfl, fun a ha _ => ?_, fun a ha => ?_⟩
      · rw [List.mem_singleton.mp ha, hpeer]
        exact Map.lookup_modify_self hpeer _
      · refine Map.lookup_modify_ne n.peers ?_ _
        rintro rfl
        cases hsome.symm.trans (ha (List.mem_singleton.mpr rfl))
    · rename_i hsent
      exact hnone (hframe _ (by rw [hmsg1, htid, haddr]; exact if_neg hsent) hdue)
  · rw [if_pos (by simpa using hdue)]
    refine hnone ?_
    unfold resentFrame
    rw [hpeer, Option.bind_eq_bind, Option.bind_some, if_pos (by simp [hdue])]

/-- What is resent depends on the peer and the configuration. -/
theorem resentFrame_congr {m : LinkNode SecretKey PublicKey ν μ} {a : NodeAddr}
    (hpeer : m.peers.lookup a = n.peers.lookup a) (hconfig : m.config = n.config) :
    resentFrame env m a = resentFrame env n a := by
  unfold resentFrame
  rw [hpeer, hconfig]

/-- The resends of one tick are to different peers. -/
theorem Resent.cons {m : LinkNode SecretKey PublicKey ν μ} {addr : NodeAddr}
    {addrs : List NodeAddr} (hfresh : addr ∉ addrs) (h : Resent env [addr] n m)
    (h' : Resent env addrs m n') : Resent env (addr :: addrs) n n' := by
  have hother : ∀ a ∈ addrs, m.peers.lookup a = n.peers.lookup a := fun a ha =>
    h.other a fun hmem => absurd (List.mem_singleton.mp hmem ▸ ha) hfresh
  have hframes : ∀ a ∈ addrs, resentFrame env m a = resentFrame env n a :=
    fun a ha => resentFrame_congr env (hother a ha) h.config
  refine ⟨?_, h'.sessions.trans h.sessions, h'.config.trans h.config, h'.effects.trans h.effects,
    ?_, ?_⟩
  · rw [h'.outbox, h.outbox, List.filterMap_congr hframes, List.append_assoc]
    congr 1
    rw [List.filterMap_cons, List.filterMap_cons, List.filterMap_nil]
    cases resentFrame env n addr <;> rfl
  · intro a ha hsome
    rcases List.mem_cons.mp ha with rfl | hrest
    · rw [h'.other a fun hmem => absurd hmem hfresh]
      exact h.sentTo a (List.mem_singleton.mpr rfl) hsome
    · rw [h'.sentTo a hrest (hframes a hrest ▸ hsome), hother a hrest, h.config]
  · intro a ha
    rw [h'.other a fun hmem => (hframes a hmem).trans (ha (List.mem_cons_of_mem _ hmem))]
    exact h.other a fun hmem => ha (List.mem_singleton.mp hmem ▸ List.mem_cons_self)

/-- **The resend loop.** -/
theorem wp_resendRekeys (henabled : n.config.rekeyEnabled = true) {addrs : List NodeAddr}
    (hnodup : addrs.Nodup) :
    wp (resendRekeys env addrs : M SecretKey PublicKey ν μ ε Unit) (fun _ => Resent env addrs n)
      (fun _ _ => False) n := by
  induction addrs generalizing n with
  | nil =>
    exact ⟨(List.append_nil _).symm, rfl, rfl, rfl, fun _ ha => absurd ha List.not_mem_nil,
      fun _ _ => rfl⟩
  | cons a addrs ih =>
    obtain ⟨hfresh, hnodup⟩ := List.nodup_cons.mp hnodup
    unfold resendRekeys
    rw [wp_bind_iff]
    refine wp_mono (fun _ m hm => ?_) (fun _ _ hF => hF.elim) (wp_resendRekey env henabled a)
    exact wp_mono (fun _ n' hn' => hm.cons env hfresh hn') (fun _ _ hF => hF.elim)
      (ih (hm.config ▸ henabled) hnodup)

/-- **The resends of a tick**: the frames they put out, and when each peer is next due. -/
theorem resent_resendPendingRekeys :
    Resent env (n.peersWhere (·.needsMsg1Resend env.nowMs)) n
      (resendPendingRekeys env n : _ × Result ε Unit).1 := by
  refine fst_of_wp_returns ?_
  unfold resendPendingRekeys
  rw [wp_bind_iff, wp_read_iff]
  by_cases henabled : n.config.rekeyEnabled = true
  · rw [id_eq, if_pos henabled]
    exact wp_resendRekeys env henabled (nodup_peersWhere _)
  · have hnone : ∀ a, resentFrame env n a = none := by
      intro a
      unfold resentFrame
      cases n.peers.lookup a with
      | none => rfl
      | some peer =>
        rw [Option.bind_eq_bind, Option.bind_some, if_pos (by simp [henabled])]
    rw [id_eq, if_neg henabled]
    refine ⟨?_, rfl, rfl, rfl, fun a _ hsome => ?_, fun _ _ => rfl⟩
    · rw [List.filterMap_eq_nil_iff.mpr fun a _ => hnone a, List.append_nil]
    · rw [hnone a] at hsome
      cases hsome

end Resend

/-! ## Link rekeys under way -/

/-- When the msg1 of a link rekey under way is next due. -/
def dueAt (n : LinkNode SecretKey PublicKey ν μ) (addr : NodeAddr) : Option Nat :=
  (n.peers.lookup addr).bind fun peer =>
    if peer.rekeyInProgress then some peer.rekeyMsg1NextResend else none

section Due

variable {n n' : LinkNode SecretKey PublicKey ν μ} {a b : NodeAddr}

theorem dueAt_congr (h : n'.peers.lookup a = n.peers.lookup a) : n'.dueAt a = n.dueAt a := by
  unfold dueAt
  rw [h]

/-- Mutation of a peer that leaves its rekey alone. -/
theorem dueAt_modify {f : ActivePeer SecretKey PublicKey ν → ActivePeer SecretKey PublicKey ν}
    (hf : ∀ p, n.peers.lookup b = some p → (f p).rekeyInProgress = p.rekeyInProgress ∧
      (p.rekeyInProgress = true → (f p).rekeyMsg1NextResend = p.rekeyMsg1NextResend)) :
    dueAt { n with peers := n.peers.modify b f } a = n.dueAt a := by
  by_cases hab : a = b
  · subst hab
    cases hp : n.peers.lookup a with
    | none =>
      unfold Map.modify
      rw [hp]
    | some p =>
      obtain ⟨hprogress, hnext⟩ := hf p hp
      unfold dueAt
      rw [Map.lookup_modify_self hp f, hp, Option.bind_some, Option.bind_some, hprogress]
      split_ifs with h
      · rw [hnext h]
      · rfl
  · exact dueAt_congr (Map.lookup_modify_ne n.peers hab f)

/-- Only a message that is due is resent. -/
theorem due_of_resentFrame {env : LinkEnv SecretKey} (h : (resentFrame env n a).isSome) :
    ∃ p, n.peers.lookup a = some p ∧ p.needsMsg1Resend env.nowMs = true := by
  unfold resentFrame at h
  cases hp : n.peers.lookup a with
  | none =>
    rw [hp] at h
    cases h
  | some p =>
    refine ⟨p, rfl, ?_⟩
    by_contra hdue
    rw [hp, Option.bind_eq_bind, Option.bind_some, if_pos (by simp [hdue])] at h
    cases h

/-- A peer whose msg1 was resent was due, and is due again an interval later. -/
theorem Resent.dueAt_of_sent {env : LinkEnv SecretKey}
    (h : Resent env (n.peersWhere (·.needsMsg1Resend env.nowMs)) n n')
    (hsome : (resentFrame env n a).isSome) : (∃ next, n.dueAt a = some next ∧ next ≤ env.nowMs) ∧
      n'.dueAt a = some (env.nowMs + n.config.handshakeResendIntervalMs) := by
  obtain ⟨p, hp, hdue⟩ := due_of_resentFrame hsome
  have hlookup := h.sentTo a (mem_peersWhere_iff.mpr ⟨p, hp, hdue⟩) hsome
  unfold ActivePeer.needsMsg1Resend at hdue
  rw [Bool.and_eq_true, Bool.and_eq_true, decide_eq_true_eq] at hdue
  obtain ⟨⟨hprogress, -⟩, hnext⟩ := hdue
  rw [hp, Option.map_some] at hlookup
  refine ⟨⟨_, ?_, hnext⟩, ?_⟩
  · unfold dueAt
    rw [hp, Option.bind_some, if_pos hprogress]
  · unfold dueAt
    rw [hlookup, Option.bind_some]
    exact if_pos hprogress

theorem Resent.dueAt_of_none {env : LinkEnv SecretKey} {addrs : List NodeAddr}
    (h : Resent env addrs n n') (hnone : resentFrame env n a = none) : n'.dueAt a = n.dueAt a :=
  dueAt_congr (h.other a fun _ => hnone)

/-- A cutover leaves the rekeys that are under way. -/
theorem dueAt_cutovers [Mmp ν] (now : Nat) {addrs : List NodeAddr}
    (hidle : ∀ b ∈ addrs, n.dueAt b = none) :
    (addrs.foldl (cutover now) n).dueAt a = n.dueAt a := by
  induction addrs generalizing n with
  | nil => rfl
  | cons b addrs ih =>
    have hstep : ∀ c, (cutover now n b).dueAt c = n.dueAt c := by
      intro c
      refine dueAt_modify fun p hp => ?_
      have hprogress : p.rekeyInProgress = false := by
        have hb := hidle b List.mem_cons_self
        unfold dueAt at hb
        rw [hp, Option.bind_some] at hb
        by_contra hne
        rw [if_pos (by simpa using hne)] at hb
        cases hb
      refine ⟨?_, fun h => absurd h (by simp [hprogress])⟩
      unfold ActivePeer.cutoverToNewSession
      split
      · rfl
      · exact hprogress.symm
    rw [List.foldl_cons, ih fun c hc => (hstep c).trans (hidle c (List.mem_cons_of_mem b hc)),
      hstep]

theorem dueAt_drains (addrs : List NodeAddr) : (addrs.foldl drain n).dueAt a = n.dueAt a := by
  change (EventRun.exec drain n addrs).dueAt a = _
  refine EventRun.exec_frames (fun m : LinkNode SecretKey PublicKey ν μ => m.dueAt a)
    fun m b _ => ?_
  cases hp : m.peers.lookup b with
  | none => rw [drain_of_none hp]
  | some p =>
    obtain ⟨index, allocated, heq, -⟩ := drain_eq hp
    have hmodify : m.peers.insert b p.completeDrain.1 =
        m.peers.modify b fun p => p.completeDrain.1 := 
          (Map.modify_eq_insert hp fun p => p.completeDrain.1).symm
    rw [heq, hmodify]
    exact dueAt_modify (n := m) fun p _ => ⟨rfl, fun _ => rfl⟩

/-- Rekeys of these peers and nothing else lead from `n` to `n'`: what is new is due an interval
after it was begun. -/
structure Rekeyed (env : NodeAddr → LinkEnv SecretKey) (addrs : List NodeAddr)
    (n n' : LinkNode SecretKey PublicKey ν μ) : Prop where
  sessions : n'.sessions = n.sessions
  config : n'.config = n.config
  effects : n'.effects = n.effects
  other : ∀ a, a ∉ addrs → n'.dueAt a = n.dueAt a
  begun : ∀ a, n'.dueAt a = n.dueAt a ∨
    n'.dueAt a = some ((env a).nowMs + n.config.handshakeResendIntervalMs)

theorem Rekeyed.refl (env : NodeAddr → LinkEnv SecretKey) (addrs : List NodeAddr) :
    Rekeyed env addrs n n := ⟨rfl, rfl, rfl, fun _ _ => rfl, fun _ => .inl rfl⟩

theorem Rekeyed.mono {env : NodeAddr → LinkEnv SecretKey} {addrs addrs' : List NodeAddr}
    (h : Rekeyed env addrs n n') (hsub : addrs ⊆ addrs') : Rekeyed env addrs' n n' :=
  ⟨h.sessions, h.config, h.effects, fun a ha => h.other a fun hmem => ha (hsub hmem), h.begun⟩

theorem Rekeyed.trans {env : NodeAddr → LinkEnv SecretKey} {m : LinkNode SecretKey PublicKey ν μ}
    {addrs : List NodeAddr} (h : Rekeyed env addrs n m) (h' : Rekeyed env addrs m n') :
    Rekeyed env addrs n n' where
  sessions := h'.sessions.trans h.sessions
  config := h'.config.trans h.config
  effects := h'.effects.trans h.effects
  other b hb := (h'.other b hb).trans (h.other b hb)
  begun b := by
    rcases h'.begun b with hsame | hbegun
    · rw [hsame]
      exact h.begun b
    · exact .inr (h.config ▸ hbegun)

/-- A peer with a rekey under way is not due for one. -/
theorem not_mem_wantsRekey {config : NodeConfig} {now : Nat} (h : (n.dueAt a).isSome) :
    a ∉ n.peersWhere (wantsRekey config now) := by
  intro hmem
  obtain ⟨p, hp, hwants⟩ := mem_peersWhere_iff.mp hmem
  obtain ⟨-, hidle, -⟩ := idle_of_wantsRekey hwants
  unfold dueAt at h
  rw [hp, Option.bind_some, hidle] at h
  cases h

variable [Sha256] [HkdfSha256] [ChaCha20Poly1305] [Secp256k1 SecretKey PublicKey]

/-- A rekey that begins now is due later. -/
theorem wp_initiateRekey_due (env : NodeAddr → LinkEnv SecretKey) (a : NodeAddr) :
    wp (initiateRekey (env a) a : M SecretKey PublicKey ν μ ε Unit) (fun _ => Rekeyed env [a] n)
      (fun _ => Rekeyed env [a] n) n := by
  have hsame : ∀ n' : LinkNode SecretKey PublicKey ν μ, n'.sessions = n.sessions →
      n'.config = n.config → n'.effects = n.effects → n'.peers = n.peers → Rekeyed env [a] n n' :=
    fun n' hsessions hconfig heffects hpeers => ⟨hsessions, hconfig, heffects,
      fun b _ => dueAt_congr (by rw [hpeers]), fun b => .inl (dueAt_congr (by rw [hpeers]))⟩
  unfold initiateRekey
  refine wp_body_of_wp ?_
  rw [wp_bind_iff, wp_read_iff, wp_bind_iff, wp_orElse_iff]
  refine ⟨fun p hp => ?_, fun _ => hsame n rfl rfl rfl rfl⟩
  rw [wp_bind_iff, wp_orElse_iff]
  refine ⟨fun tid _ => ?_, fun _ => hsame n rfl rfl rfl rfl⟩
  rw [wp_bind_iff, wp_orElse_iff]
  refine ⟨fun remoteAddr _ => ?_, fun _ => hsame n rfl rfl rfl rfl⟩
  rw [wp_bind_iff, wp_read_iff, wp_bind_iff, wp_orElse_iff]
  refine ⟨fun pubkey _ => ?_, fun _ => hsame n rfl rfl rfl rfl⟩
  rw [wp_bind_iff, wp_attempt_iff, wp_allocate_iff]
  refine ⟨fun i _ => ?_, fun _ => hsame n rfl rfl rfl rfl⟩
  rw [wp_bind_iff, wp_read_iff, wp_bind_iff, wp_attempt_iff, wp_pureCall_iff]
  refine ⟨fun started _ => ?_, fun e _ => ?_⟩
  · obtain ⟨noiseMsg1, hs⟩ := started
    refine wp_bind_iff.mpr (wp_transmit (env a) fun sent outbox => ?_)
    cases sent with
    | false => exact hsame _ rfl rfl rfl rfl
    | true =>
      have hbegun : ∀ m' : LinkNode SecretKey PublicKey ν μ, m'.peers = n.peers.modify a
          (·.setRekeyState hs i (buildMsg1 i noiseMsg1)
            ((env a).nowMs + n.config.handshakeResendIntervalMs)) →
          m'.dueAt a = some ((env a).nowMs + n.config.handshakeResendIntervalMs) := by
        intro m' hpeers
        unfold dueAt
        rw [hpeers, Map.lookup_modify_self hp]
        rfl
      have hother : ∀ b, b ≠ a → ∀ m' : LinkNode SecretKey PublicKey ν μ,
          m'.peers = n.peers.modify a (·.setRekeyState hs i (buildMsg1 i noiseMsg1)
            ((env a).nowMs + n.config.handshakeResendIntervalMs)) → m'.dueAt b = n.dueAt b := by
        intro b hb m' hpeers
        refine dueAt_congr ?_
        rw [hpeers]
        exact Map.lookup_modify_ne n.peers hb _
      refine ⟨rfl, rfl, rfl, fun b hb => ?_, fun b => ?_⟩
      · exact hother b (fun hba => hb (List.mem_singleton.mpr hba)) _ rfl
      by_cases hb : b = a
      · subst hb
        exact .inr (hbegun _ rfl)
      · exact .inl (hother b hb _ rfl)
  · cases e with
    | error e => exact hsame _ rfl rfl rfl rfl
    | panic => exact hsame _ rfl rfl rfl rfl

theorem wp_initiateRekeys_due (env : NodeAddr → LinkEnv SecretKey) (addrs : List NodeAddr) :
    wp (initiateRekeys env addrs : M SecretKey PublicKey ν μ ε Unit)
      (fun _ => Rekeyed env addrs n) (fun _ => Rekeyed env addrs n) n := by
  induction addrs generalizing n with
  | nil => exact .refl env []
  | cons a addrs ih =>
    unfold initiateRekeys
    rw [wp_bind_iff]
    refine wp_mono (fun _ m hm => ?_) (fun _ m hm => ?_) (wp_initiateRekey_due env a)
    · have hhead : Rekeyed env (a :: addrs) n m := hm.mono (by simp)
      have htail : ∀ n', Rekeyed env addrs m n' → Rekeyed env (a :: addrs) n n' :=
        fun n' h => hhead.trans (h.mono (List.subset_cons_self a addrs))
      exact wp_mono (fun _ n' => htail n') (fun _ n' => htail n') ih
    · exact hm.mono (by simp)

variable [Mmp ν]

omit [Sha256] [HkdfSha256] [ChaCha20Poly1305] [Secp256k1 SecretKey PublicKey] in
/-- Cutovers and the ends of drains leave every rekey as it is. -/
theorem rekeyed_acted (now : Nat) (env : NodeAddr → LinkEnv SecretKey) (addrs : List NodeAddr) :
    Rekeyed env addrs n ((n.peersWhere (wantsDrain now)).foldl drain
      ((n.peersWhere wantsCutover).foldl (cutover now) n)) := by
  have hidle : ∀ b ∈ n.peersWhere wantsCutover, n.dueAt b = none := by
    intro b hb
    obtain ⟨p, hp, hwants⟩ := mem_peersWhere_iff.mp hb
    unfold wantsCutover at hwants
    rw [Bool.and_eq_true, Bool.not_eq_true'] at hwants
    unfold dueAt
    rw [hp, Option.bind_some, hwants.2]
    rfl
  have hdue : ∀ a, ((n.peersWhere (wantsDrain now)).foldl drain
      ((n.peersWhere wantsCutover).foldl (cutover now) n)).dueAt a = n.dueAt a :=
    fun a => (dueAt_drains _).trans (dueAt_cutovers now hidle)
  have hrest : ∀ addrs addrs' : List NodeAddr,
      ((addrs.foldl drain (addrs'.foldl (cutover now) n)).sessions,
      (addrs.foldl drain (addrs'.foldl (cutover now) n)).config,
      (addrs.foldl drain (addrs'.foldl (cutover now) n)).effects) =
        (n.sessions, n.config, n.effects) := by
    intro addrs addrs'
    have hdrain : ∀ m : LinkNode SecretKey PublicKey ν μ, ∀ b ∈ addrs,
        ((drain m b).sessions, (drain m b).config, (drain m b).effects) =
          (m.sessions, m.config, m.effects) := by
      intro m b _
      cases hp : m.peers.lookup b with
      | none => rw [drain_of_none hp]
      | some p =>
        obtain ⟨index, allocated, heq, -⟩ := drain_eq hp
        rw [heq]
    exact (EventRun.exec_frames (fun m : LinkNode SecretKey PublicKey ν μ =>
      (m.sessions, m.config, m.effects)) hdrain).trans (EventRun.exec_frames
        (fun m : LinkNode SecretKey PublicKey ν μ => (m.sessions, m.config, m.effects))
          fun _ _ _ => rfl)
  have h := hrest (n.peersWhere (wantsDrain now)) (n.peersWhere wantsCutover)
  simp only [Prod.mk.injEq] at h
  exact ⟨h.1, h.2.1, h.2.2, fun a _ => hdue a, fun a => .inl (hdue a)⟩

/-- **`check_rekey`** begins rekeys of the peers that are due for one. -/
theorem rekeyed_checkRekey (now : Nat) (env : NodeAddr → LinkEnv SecretKey) :
    Rekeyed env (n.peersWhere (wantsRekey n.config now)) n
      (checkRekey now env n : _ × Result ε Unit).1 := by
  refine fst_of_wp ?_
  unfold checkRekey
  rw [wp_bind_iff, wp_read_iff]
  split_ifs with henabled
  · rw [wp_bind_iff, wp_write_iff, wp_bind_iff, wp_write_iff, id_eq]
    have hacted := rekeyed_acted (n := n) now env (n.peersWhere (wantsRekey n.config now))
    exact wp_mono (fun _ _ h => hacted.trans h) (fun _ _ h => hacted.trans h)
      (wp_initiateRekeys_due env _)
  · exact .refl env _

end Due

/-! ## Runs of ticks -/

section Run

variable [Sha256] [HkdfSha256] [ChaCha20Poly1305] [Secp256k1 SecretKey PublicKey] [Mmp ν]
  [SessionMmp μ] {n : LinkNode SecretKey PublicKey ν μ}

/-- Of a link or of a session. -/
inductive RekeyOf
  | link
  | session

/-- A rekey with this node is under way. -/
def InProgress (n : LinkNode SecretKey PublicKey ν μ) (addr : NodeAddr) : RekeyOf → Prop
  | .link => (n.dueAt addr).isSome
  | .session => n.rekeying addr = true

/-- The three parts of a tick. -/
theorem rekeyTick_parts (n : LinkNode SecretKey PublicKey ν μ) (t : RekeyTick SecretKey) :
    ∃ m m' : LinkNode SecretKey PublicKey ν μ,
      Resent t.resend (n.peersWhere (·.needsMsg1Resend t.resend.nowMs)) n m ∧
      Rekeyed t.link (m.peersWhere (wantsRekey m.config t.instant)) m m' ∧
      (n.rekeyTick t).toNode =
        (Node.checkSessionRekey t.session m'.toNode : _ × Result Unit Unit).1 := by
  obtain ⟨links, addrToLink, heq⟩ := onNode_eq
    (Node.checkSessionRekey t.session : Node.Handler SecretKey PublicKey ν μ Unit)
    (n.linkRekeyTick t)
  exact ⟨_, n.linkRekeyTick t, resent_resendPendingRekeys (ε := Unit) t.resend,
    rekeyed_checkRekey (ε := Unit) t.instant t.link, congrArg (fun r => r.1.toNode) heq⟩

theorem config_rekeyTick (n : LinkNode SecretKey PublicKey ν μ) (t : RekeyTick SecretKey) :
    (n.rekeyTick t).config = n.config := by
  obtain ⟨m, m', hresent, hrekeyed, heq⟩ := rekeyTick_parts n t
  have hframe := Node.frames_checkSessionRekey t.session m'.toNode
  rw [← heq, Prod.mk.injEq] at hframe
  exact hframe.2.trans (hrekeyed.config.trans hresent.config)

/-- The configuration stays. -/
theorem config_ticks (n : LinkNode SecretKey PublicKey ν μ) (ticks : List (RekeyTick SecretKey)) :
    (EventRun.exec rekeyTick n ticks).config = n.config :=
  EventRun.exec_frames (fun m : LinkNode SecretKey PublicKey ν μ => m.config)
    fun m t _ => config_rekeyTick m t

/-- **One tick**, for the rekey of a link: a msg1 that goes out again was due, and is due again an
interval later; otherwise its time stays. -/
theorem dueAt_rekeyTick (t : RekeyTick SecretKey) (a : NodeAddr) :
    (resentFrame t.resend n a = none → (n.dueAt a).isSome →
      (n.rekeyTick t).dueAt a = n.dueAt a) ∧
    ((resentFrame t.resend n a).isSome → (∃ next, n.dueAt a = some next ∧ next ≤ t.nowMs) ∧
      (n.rekeyTick t).dueAt a = some (t.nowMs + n.config.handshakeResendIntervalMs)) ∧
    (n.dueAt a = none → (n.rekeyTick t).dueAt a = none ∨
      (n.rekeyTick t).dueAt a = some ((t.link a).nowMs + n.config.handshakeResendIntervalMs)) := by
  obtain ⟨m, m', hresent, hrekeyed, heq⟩ := rekeyTick_parts n t
  have hframe := Node.frames_checkSessionRekey t.session m'.toNode
  rw [← heq, Prod.mk.injEq] at hframe
  have hlast : (n.rekeyTick t).dueAt a = m'.dueAt a := dueAt_congr (by rw [hframe.1])
  refine ⟨fun hnone hdue => ?_, fun hsome => ?_, fun hidle => ?_⟩
  · have hm := hresent.dueAt_of_none hnone
    rw [hlast, hrekeyed.other a (not_mem_wantsRekey (hm ▸ hdue)), hm]
  · obtain ⟨hdue, hm⟩ := hresent.dueAt_of_sent hsome
    refine ⟨hdue, ?_⟩
    rw [hlast, hrekeyed.other a (not_mem_wantsRekey (hm ▸ rfl)), hm]
    rfl
  · have hnone : resentFrame t.resend n a = none := by
      refine Option.not_isSome_iff_eq_none.mp fun hsome => ?_
      obtain ⟨⟨next, hnext, -⟩, -⟩ := hresent.dueAt_of_sent hsome
      cases hidle.symm.trans hnext
    have hm := (hresent.dueAt_of_none hnone).trans hidle
    rw [hlast, ← hresent.config]
    exact (hrekeyed.begun a).imp_left fun h => h.trans hm

/-- The same for the rekey of a session: nothing goes out for it. -/
theorem rekeying_rekeyTick (t : RekeyTick SecretKey) {a : NodeAddr} (h : n.rekeying a = true) :
    (n.rekeyTick t).rekeying a = true ∧ (n.rekeyTick t).datagramsTo a = n.datagramsTo a := by
  obtain ⟨m, m', hresent, hrekeyed, heq⟩ := rekeyTick_parts n t
  have hbefore : m'.rekeying a = true := by
    unfold Node.rekeying at h ⊢
    rwa [hrekeyed.sessions, hresent.sessions]
  have heffects : m'.datagramsTo a = n.datagramsTo a := by
    unfold Node.datagramsTo
    rw [hrekeyed.effects, hresent.effects]
  rw [heq, ← heffects]
  exact Node.rekeying_checkSessionRekey t.session hbefore

/-- **A tick leaves every rekey under way.** -/
theorem inProgress_rekeyTick (t : RekeyTick SecretKey) {a : NodeAddr} {of : RekeyOf}
    (h : n.InProgress a of) : (n.rekeyTick t).InProgress a of := by
  cases of with
  | session => exact (rekeying_rekeyTick t h).1
  | link =>
    obtain ⟨hunsent, hsent, -⟩ := dueAt_rekeyTick (n := n) t a
    change ((n.rekeyTick t).dueAt a).isSome
    cases hframe : resentFrame t.resend n a with
    | none =>
      rw [hunsent hframe h]
      exact h
    | some frame =>
      rw [(hsent (by rw [hframe]; rfl)).2]
      rfl

/-- A rekey under way stays so through every run of ticks. -/
theorem inProgress_ticks (ticks : List (RekeyTick SecretKey)) {a : NodeAddr} {of : RekeyOf}
    (h : n.InProgress a of) :
    EventRun.Always rekeyTick (fun m : LinkNode SecretKey PublicKey ν μ => m.InProgress a of) n
      ticks := EventRun.Always.of_step (fun _ t hm => inProgress_rekeyTick t hm) h

/-- How often one tick sends the first message of the rekey with this node. -/
def firstMessage (a : NodeAddr) (n : LinkNode SecretKey PublicKey ν μ) (t : RekeyTick SecretKey) :
    RekeyOf → Nat
  | .link => if (resentFrame t.resend n a).isSome then 1 else 0
  | .session => (n.rekeyTick t).datagramsTo a - n.datagramsTo a

/-- How often these ticks send it. -/
def firstMessages (a : NodeAddr) (of : RekeyOf) : LinkNode SecretKey PublicKey ν μ →
    List (RekeyTick SecretKey) → Nat
  | _, [] => 0
  | n, t :: ticks => firstMessage a n t of + firstMessages a of (n.rekeyTick t) ticks

/-- Nothing goes out for the rekey of a session once it is under way. -/
theorem firstMessages_session (ticks : List (RekeyTick SecretKey)) {a : NodeAddr}
    (h : n.rekeying a = true) : firstMessages a .session n ticks = 0 := by
  induction ticks generalizing n with
  | nil => rfl
  | cons t ticks ih =>
    obtain ⟨hstill, hsent⟩ := rekeying_rekeyTick t h
    rw [firstMessages, ih hstill, firstMessage, hsent, Nat.sub_self]

/-- **The resends of a link rekey** are an interval apart: the last of `k` is due `k - 1` intervals
after the first. -/
theorem firstMessages_link {a : NodeAddr} {next bound : Nat} (hdue : n.dueAt a = some next)
    (ticks : List (RekeyTick SecretKey)) (hbound : ∀ t ∈ ticks, t.nowMs < bound) :
    firstMessages a .link n ticks = 0 ∨
      next + (firstMessages a .link n ticks - 1) * n.config.handshakeResendIntervalMs < bound := by
  induction ticks generalizing n next with
  | nil => exact .inl rfl
  | cons t ticks ih =>
    obtain ⟨hunsent, hsent, -⟩ := dueAt_rekeyTick (n := n) t a
    have hrest := fun u hu => hbound u (List.mem_cons_of_mem t hu)
    rw [firstMessages, firstMessage]
    cases hframe : resentFrame t.resend n a with
    | none =>
      have hsame := (hunsent hframe (hdue ▸ rfl)).trans hdue
      have := ih hsame hrest
      rw [config_rekeyTick] at this
      simpa using this
    | some frame =>
      obtain ⟨⟨next', hnext', hle⟩, hagain⟩ := hsent (hframe ▸ rfl)
      cases hdue.symm.trans hnext'
      have hnow := hbound t List.mem_cons_self
      have hlater := ih hagain hrest
      rw [config_rekeyTick] at hlater
      refine .inr ?_
      rw [Option.isSome_some, if_pos rfl, Nat.add_sub_cancel_left]
      rcases hlater with hzero | hlater
      · rw [hzero, Nat.zero_mul]
        exact hle.trans_lt hnow
      · have hstep := Nat.mul_le_mul_right n.config.handshakeResendIntervalMs
          (Nat.sub_le_iff_le_add.mp (Nat.le_refl (firstMessages a .link (n.rekeyTick t) ticks - 1)))
        rw [Nat.succ_mul] at hstep
        omega

/-- How long after its first message a rekey may be under way: the resends of an initial handshake,
and an interval after the last. -/
def rekeySpan (n : LinkNode SecretKey PublicKey ν μ) : Nat :=
  (n.config.handshakeMaxResends + 1) * n.config.handshakeResendIntervalMs

/-- The time of the last of these ticks, in a run that starts at `start`. -/
def timeAfter (start : Nat) (ticks : List (RekeyTick SecretKey)) : Nat :=
  (ticks.getLast?.map RekeyTick.nowMs).getD start

/-- In `m'` the rekey that was under way in `m` is given up: for a link, with its index and its
entry among the outbound handshakes. -/
def GivenUp (a : NodeAddr) (m m' : LinkNode SecretKey PublicKey ν μ) : RekeyOf → Prop
  | .session => ¬ m'.InProgress a .session
  | .link => ¬ m'.InProgress a .link ∧ ∀ p tid i, m.peers.lookup a = some p →
      p.transportId = some tid → p.rekeyOurIndex = some i →
        i ∉ m'.allocatedIndices ∧ m'.pendingOutbound.lookup (tid, i) = none

/-- **Unanswered rekeys end**: the first message of a rekey that a tick begins goes out
`1 + handshake_max_resends` times at most, and a rekey that is under way for longer than its resends
take is given up on the next tick. -/
structure RekeysEnd (start : Nat) (n : LinkNode SecretKey PublicKey ν μ)
    (ticks : List (RekeyTick SecretKey)) : Prop where
  sends : ∀ a of pre t mid rest, ticks = pre ++ t :: mid ++ rest →
    ¬ (EventRun.exec rekeyTick n pre).InProgress a of →
    EventRun.Always rekeyTick (fun m : LinkNode SecretKey PublicKey ν μ => m.InProgress a of)
      (EventRun.exec rekeyTick n (pre ++ [t])) mid →
    1 + firstMessages a of (EventRun.exec rekeyTick n (pre ++ [t])) mid ≤
      1 + n.config.handshakeMaxResends
  ends : ∀ a of pre mid t rest, ticks = pre ++ mid ++ t :: rest →
    EventRun.Always rekeyTick (fun m : LinkNode SecretKey PublicKey ν μ => m.InProgress a of)
      (EventRun.exec rekeyTick n pre) mid →
    timeAfter start pre + n.rekeySpan ≤ t.nowMs →
    GivenUp a (EventRun.exec rekeyTick n (pre ++ mid))
      (EventRun.exec rekeyTick n (pre ++ mid ++ [t])) of

/-- No tick comes so late that a rekey could have had all its resends before. -/
def NoneOverdue (start : Nat) (n : LinkNode SecretKey PublicKey ν μ)
    (ticks : List (RekeyTick SecretKey)) : Prop :=
  ∀ a of pre mid t rest, ticks = pre ++ mid ++ t :: rest →
    (EventRun.exec rekeyTick n pre).InProgress a of → t.nowMs < timeAfter start pre + n.rekeySpan

/-- **Unanswered rekeys end as they should exactly in runs without a late tick.** -/
theorem rekeysEnd_iff (start : Nat) (n : LinkNode SecretKey PublicKey ν μ)
    (ticks : List (RekeyTick SecretKey)) : RekeysEnd start n ticks ↔ NoneOverdue start n ticks := by
  constructor
  · intro h a of pre mid t rest hticks hstart
    refine Nat.not_le.mp fun hlate => ?_
    have hlasts := inProgress_ticks mid hstart
    have hgiven := h.ends a of pre mid t rest hticks hlasts hlate
    have hbefore : (EventRun.exec rekeyTick n (pre ++ mid)).InProgress a of := by
      rw [EventRun.exec_append]
      exact hlasts.exec
    have hafter : (EventRun.exec rekeyTick n (pre ++ mid ++ [t])).InProgress a of := by
      rw [EventRun.exec_append]
      exact inProgress_rekeyTick t hbefore
    cases of with
    | link => exact hgiven.1 hafter
    | session => exact hgiven hafter
  · intro h
    refine ⟨fun a of pre t mid rest hticks hidle hlasts => Nat.add_le_add_left ?_ 1,
      fun a of pre mid t rest hticks hlasts hlate => ?_⟩
    · cases of with
      | session =>
        rw [firstMessages_session mid hlasts.head]
        exact Nat.zero_le _
      | link =>
        have hafter : EventRun.exec rekeyTick n (pre ++ [t]) =
            (EventRun.exec rekeyTick n pre).rekeyTick t := EventRun.exec_append ..
        have hconfig : (EventRun.exec rekeyTick n (pre ++ [t])).config = n.config :=
          config_ticks n _
        have hbound : ∀ u ∈ mid, u.nowMs < t.nowMs + n.rekeySpan := by
          intro u hu
          obtain ⟨mid₁, mid₂, rfl⟩ := List.append_of_mem hu
          have hlt := h a .link (pre ++ [t]) mid₁ u (mid₂ ++ rest)
            (by rw [hticks]; simp only [List.append_assoc, List.cons_append, List.nil_append])
            hlasts.head
          rwa [timeAfter, List.getLast?_concat] at hlt
        obtain ⟨-, -, hbegun⟩ := dueAt_rekeyTick (n := EventRun.exec rekeyTick n pre) t a
        rw [← hafter, config_ticks n pre] at hbegun
        have hdue := (hbegun (Option.not_isSome_iff_eq_none.mp hidle)).resolve_left fun hnone => by
          have hhead := hlasts.head
          unfold InProgress at hhead
          rw [hnone] at hhead
          cases hhead
        have hlink : t.nowMs ≤ (t.link a).nowMs := t.le_link a
        rcases firstMessages_link hdue mid hbound with hzero | hlast
        · rw [hzero]
          exact Nat.zero_le _
        · rw [hconfig, rekeySpan, Nat.succ_mul] at hlast
          by_contra hmany
          have hintervals := Nat.mul_le_mul_right n.config.handshakeResendIntervalMs
            (Nat.le_sub_one_of_lt (Nat.not_le.mp hmany))
          omega
    · exact absurd (h a of pre mid t rest hticks hlasts.head) (Nat.not_lt.mpr hlate)

end Run

/-! ### A rekey that nobody answers -/

open Sample

/-- A node whose link to node 2 is due for a rekey after two minutes. -/
def dueNode : LinkNode Scalar Point Unit Unit :=
  { linkNode 1 1 with
    peers := (∅ : Map NodeAddr (ActivePeer Scalar Point Unit)).insert (addr 2)
      (peer 2 1 1 (Sample.session .initiator 1 2 ⟨2⟩))
    peerKeys := (∅ : Map NodeAddr Point).insert (addr 2) ⟨2⟩ }

/-- A tick at which every handler reads the same time. -/
def tickAt (nowMs : Nat) : RekeyTick Scalar where
  resend := linkEnv nowMs 9 1
  instant := nowMs
  link _ := linkEnv nowMs 9 1
  session := Sample.env 1 nowMs ⟨9⟩
  le_link _ := Nat.le_refl nowMs

/-- The ticks of the seconds from the first one on. -/
def tickEach (first seconds : Nat) : List (RekeyTick Scalar) :=
  (List.range seconds).map fun i => tickAt (first + i * 1000)

/-- **Its msg1 is lost**: after the first tick it is sent again with every tick, seven times in all
where five are configured, and the rekey is never given up. -/
theorem rekey_unanswered : ¬ RekeysEnd 0 dueNode (tickEach 120000 8) ∧
    firstMessages (addr 2) .link (EventRun.exec rekeyTick dueNode [tickAt 120000])
      (tickEach 121000 7) = 7 := by
  have hbegun : (EventRun.exec rekeyTick dueNode [tickAt 120000]).InProgress (addr 2) .link := by
    unfold InProgress
    decide +kernel
  refine ⟨fun h => ?_, by decide +kernel⟩
  have hlasts := inProgress_ticks (tickEach 121000 5) hbegun
  have hgiven := h.ends (addr 2) .link [tickAt 120000] (tickEach 121000 5) (tickAt 126000)
    [tickAt 127000] rfl hlasts (by decide)
  refine hgiven.1 (inProgress_rekeyTick (tickAt 126000) ?_)
  exact hlasts.exec

end LinkNode

end Fips
