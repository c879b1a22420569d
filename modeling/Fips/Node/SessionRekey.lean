import Fips.Node.SessionTimeouts

/-!
# Session rekey on the tick

Model of `node/handlers/rekey.rs:274-426`: `check_session_rekey` cuts an initiator over to its
pending session, ends drain windows and starts rekeys; `initiate_session_rekey` sends the setup of
one. The three lists are taken from the table before any of them is worked on.

## Results

* `modifySessions_keeps`: the invariant rule for the mutation of the sessions of a list.
-/

open Checked

namespace Fips

namespace Node

variable {SecretKey PublicKey ν μ ε : Type}

/-- `DRAIN_WINDOW_SECS` in milliseconds. -/
def DRAIN_WINDOW_MS : Nat := 10000

/-- `REKEY_DAMPENING_SECS` in milliseconds. -/
def REKEY_DAMPENING_MS : Nat := 30000

/-- `FSP_CUTOVER_DELAY_MS`: the initiator waits for its msg3 to arrive before it cuts over. -/
def FSP_CUTOVER_DELAY_MS : Nat := 2000

/-- `rekey.rs:297-310`: a completed rekey whose msg3 has had time to arrive. -/
def wantsCutover (nowMs : Nat) (e : SessionEntry SecretKey PublicKey μ) : Bool :=
  e.isEstablished && e.pendingNewSession.isSome && !e.hasRekeyInProgress && e.rekeyInitiator &&
    decide (FSP_CUTOVER_DELAY_MS ≤ nowMs - e.rekeyCompletedMs)

/-- A session that is cut over is established. -/
theorem isEstablished_of_wantsCutover {n : Node SecretKey PublicKey ν μ} {nowMs : Nat} {addr : NodeAddr}
    {e : SessionEntry SecretKey PublicKey μ} (haddr : addr ∈ n.sessionsWhere (wantsCutover nowMs))
    (he : n.sessions.lookup addr = some e) : e.isEstablished = true := by
  obtain ⟨e', he', hwants⟩ := mem_sessionsWhere.mp haddr
  cases he.symm.trans he'
  unfold wantsCutover at hwants
  simp only [Bool.and_eq_true] at hwants
  exact hwants.1.1.1.1

/-- `rekey.rs:312-315`. -/
def wantsDrainEnd (nowMs : Nat) (e : SessionEntry SecretKey PublicKey μ) : Bool :=
  e.isEstablished && !wantsCutover nowMs e && e.isDraining && e.drainExpired nowMs DRAIN_WINDOW_MS

/-- `rekey.rs:317-334`. -/
def wantsRekey (config : NodeConfig) (nowMs : Nat) (e : SessionEntry SecretKey PublicKey μ) : Bool :=
  e.isEstablished && !wantsCutover nowMs e && !e.hasRekeyInProgress && e.pendingNewSession.isNone &&
    !e.isRekeyDampened nowMs REKEY_DAMPENING_MS &&
    (decide (config.rekeyAfterSecs ≤ (nowMs - e.sessionStartMs) / 1000) ||
      decide (config.rekeyAfterMessages ≤ e.sendCounter))

section Rekey

variable [Sha256] [HkdfSha256] [Secp256k1 SecretKey PublicKey] [SessionMmp μ] (env : Env SecretKey)

/-- `initiate_session_rekey`. -/
def initiateSessionRekey (dest : NodeAddr) : Handler SecretKey PublicKey ν μ Unit := body do
  let _ ← orElse () (env.findNextHop dest)
  let entry ← orElse () (← read (·.sessions.lookup dest))
  let n ← read id
  let handshake :=
    (HandshakeState.newXkInitiator n.identity.secretKey entry.remotePubkey).setLocalEpoch
      n.startupEpoch
  let (msg1, handshake) ← orReturn (call (HandshakeState.writeXkMessage1 (env.ephemeral dest)) handshake)
  let setupPayload :=
    ((SessionSetup.new env.myCoords (env.destCoords dest)).withHandshake msg1).encode
  match ← attempt (sendSessionPayload env dest setupPayload) with
  | .error _ => stop ()
  | .ok () => modifySession dest (·.setRekeyState handshake true)

/-- The last loop of `check_session_rekey`. -/
def initiateSessionRekeys : List NodeAddr → Handler SecretKey PublicKey ν μ Unit
  | [] => pure ()
  | dest :: dests => do
    initiateSessionRekey env dest
    initiateSessionRekeys dests

/-- Mutation of each of these sessions. -/
def modifySessions (f : SessionEntry SecretKey PublicKey μ → SessionEntry SecretKey PublicKey μ)
    (addrs : List NodeAddr) (n : Node SecretKey PublicKey ν μ) : Node SecretKey PublicKey ν μ :=
  addrs.foldl (fun n addr => { n with sessions := n.sessions.modify addr f }) n

omit [Sha256] [HkdfSha256] [Secp256k1 SecretKey PublicKey] [SessionMmp μ] in
/-- **The mutation rule.** Sessions that satisfy `P` are mutated one after the other, each to one that
satisfies `P`. What one such mutation keeps, all of them keep. -/
theorem modifySessions_keeps {I : Node SecretKey PublicKey ν μ → Prop}
    {P : SessionEntry SecretKey PublicKey μ → Prop}
    {f : SessionEntry SecretKey PublicKey μ → SessionEntry SecretKey PublicKey μ}
    (hI : ∀ n addr, I n → (∀ e, n.sessions.lookup addr = some e → P e) →
      I { n with sessions := n.sessions.modify addr f })
    (hP : ∀ e, P e → P (f e)) {addrs : List NodeAddr} {n : Node SecretKey PublicKey ν μ}
    (haddrs : ∀ addr ∈ addrs, ∀ e, n.sessions.lookup addr = some e → P e) (hn : I n) :
    I (modifySessions f addrs n) := by
  induction addrs generalizing n with
  | nil => exact hn
  | cons addr addrs ih =>
    refine ih (fun d hd e he => ?_) (hI n addr hn (haddrs addr List.mem_cons_self))
    rw [Map.lookup_modify] at he
    split_ifs at he with hsame
    · obtain ⟨e', he', rfl⟩ := Option.map_eq_some_iff.mp he
      exact hP e' (haddrs d (List.mem_cons_of_mem _ hd) e' he')
    · exact haddrs d (List.mem_cons_of_mem _ hd) e he

/-- `check_session_rekey`. -/
def checkSessionRekey : Handler SecretKey PublicKey ν μ Unit := body do
  let n ← read id
  if !n.config.rekeyEnabled then stop ()
  else do
    write (modifySessions (fun e => (e.cutoverToNewSession env.nowMs env.instant).1)
      (n.sessionsWhere (wantsCutover env.nowMs)))
    write (modifySessions (·.completeDrain) (n.sessionsWhere (wantsDrainEnd env.nowMs)))
    initiateSessionRekeys env (n.sessionsWhere (wantsRekey n.config env.nowMs))

end Rekey

end Node

end Fips
