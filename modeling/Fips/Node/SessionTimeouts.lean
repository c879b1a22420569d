import Fips.Node.Session

/-!
# Session timeouts

Model of `node/handlers/timeout.rs:157-271`: the resends of session handshakes with the timeout of the
handshake, and the removal of idle sessions. Both drop the outbound packets that wait for the session
they remove.
-/

open Checked

namespace Fips

namespace Node

variable {SecretKey PublicKey ν μ ε : Type}

/-- Remove a session with the packets that wait for it. -/
def forgetSession (n : Node SecretKey PublicKey ν μ) (addr : NodeAddr) :
    Node SecretKey PublicKey ν μ :=
  { n with
    sessions := n.sessions.erase addr
    pendingTunPackets := n.pendingTunPackets.erase addr }

/-- The addresses of the sessions that satisfy `p`. -/
def sessionsWhere (p : SessionEntry SecretKey PublicKey μ → Bool) (n : Node SecretKey PublicKey ν μ) :
    List NodeAddr := (n.sessions.entries.filter fun e => p e.2).map fun e => e.1

/-- `timeout.rs:174-180`. -/
def handshakeTimedOut (config : NodeConfig) (nowMs : Nat) (e : SessionEntry SecretKey PublicKey μ) :
    Bool :=
  !e.isEstablished && decide (config.handshakeTimeoutSecs * 1000 < nowMs - e.lastActivity)

/-- `timeout.rs:193-203`. -/
def wantsResend (config : NodeConfig) (nowMs : Nat) (e : SessionEntry SecretKey PublicKey μ) : Bool :=
  !e.isEstablished && e.handshakePayload.isSome &&
    decide (e.resendCount < config.handshakeMaxResends) && decide (0 < e.nextResendAtMs) &&
    decide (e.nextResendAtMs ≤ nowMs)

/-- Remove the sessions whose handshake has timed out. -/
def dropTimedOutHandshakes (nowMs : Nat) (n : Node SecretKey PublicKey ν μ) :
    Node SecretKey PublicKey ν μ :=
  (n.sessionsWhere (handshakeTimedOut n.config nowMs)).foldl forgetSession n

/-- `purge_idle_sessions`; a timeout of 0 disables it. -/
def purgeIdleSessions (nowMs : Nat) (n : Node SecretKey PublicKey ν μ) :
    Node SecretKey PublicKey ν μ :=
  let timeoutMs := n.config.idleTimeoutSecs * 1000
  if timeoutMs = 0 then n
  else
    (n.sessionsWhere fun e => e.isEstablished && decide (timeoutMs < nowMs - e.lastActivity)).foldl
      forgetSession n

section Resend

variable [SessionMmp μ] (env : Env SecretKey)

/-- One resend of a stored handshake message. -/
def resendHandshake (dest : NodeAddr) (payload : Bytes) : M SecretKey PublicKey ν μ ε Unit := do
  match ← attempt (sendSessionPayload env dest payload) with
  | .error _ => pure ()
  | .ok () => do
    let config ← read (·.config)
    modifySession dest fun e =>
      e.recordResend (env.nowMs + config.resendIntervalMs (e.resendCount + 1))

/-- The resend loop of `resend_pending_session_handshakes`. -/
def resendHandshakes : List (NodeAddr × Bytes) → M SecretKey PublicKey ν μ ε Unit
  | [] => pure ()
  | (dest, payload) :: candidates => do
    resendHandshake env dest payload
    resendHandshakes candidates

/-- The messages to resend. -/
def resendCandidates (nowMs : Nat) (n : Node SecretKey PublicKey ν μ) : List (NodeAddr × Bytes) :=
  (n.sessions.entries.filter fun e => wantsResend n.config nowMs e.2).filterMap fun e =>
    e.2.handshakePayload.map fun payload => (e.1, payload)

/-- `resend_pending_session_handshakes`. -/
def resendPendingSessionHandshakes : M SecretKey PublicKey ν μ ε Unit := do
  write (dropTimedOutHandshakes env.nowMs)
  resendHandshakes env (← read (resendCandidates env.nowMs))

end Resend

section Forget

variable {n : Node SecretKey PublicKey ν μ}

theorem lookup_forgetSession_pendingTunPackets (n : Node SecretKey PublicKey ν μ)
    (addr d : NodeAddr) :
    (n.forgetSession addr).pendingTunPackets.lookup d =
      if d = addr then none else n.pendingTunPackets.lookup d :=
  Map.lookup_erase' _ _ _

/-- What is forgotten leaves no packets. -/
theorem lookup_forgetSessions {addrs : List NodeAddr} {d : NodeAddr} (h : d ∈ addrs) :
    (addrs.foldl forgetSession n).pendingTunPackets.lookup d = none := by
  have hgone : ∀ (addrs : List NodeAddr) (n : Node SecretKey PublicKey ν μ),
      n.pendingTunPackets.lookup d = none →
      (addrs.foldl forgetSession n).pendingTunPackets.lookup d = none := by
    intro addrs
    induction addrs with
    | nil => exact fun _ hn => hn
    | cons addr addrs ih =>
      intro n hn
      rw [List.foldl_cons]
      refine ih _ ?_
      rw [lookup_forgetSession_pendingTunPackets, hn, ite_self]
  induction addrs generalizing n with
  | nil => cases h
  | cons addr addrs ih =>
    rw [List.foldl_cons]
    rcases List.mem_cons.mp h with rfl | h
    · refine hgone addrs _ ?_
      rw [lookup_forgetSession_pendingTunPackets, if_pos rfl]
    · exact ih h

theorem mem_sessionsWhere {p : SessionEntry SecretKey PublicKey μ → Bool} {d : NodeAddr} :
    d ∈ n.sessionsWhere p ↔ ∃ e, n.sessions.lookup d = some e ∧ p e = true := by
  unfold sessionsWhere
  rw [List.mem_map]
  constructor
  · rintro ⟨⟨d', e⟩, hmem, rfl⟩
    obtain ⟨hentry, hp⟩ := List.mem_filter.mp hmem
    exact ⟨e, Map.mem_entries_iff.mp hentry, hp⟩
  · rintro ⟨e, hlookup, hp⟩
    exact ⟨⟨d, e⟩, List.mem_filter.mpr ⟨Map.mem_entries_iff.mpr hlookup, hp⟩, rfl⟩

end Forget

end Node

end Fips
