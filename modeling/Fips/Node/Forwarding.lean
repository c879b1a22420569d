import Fips.Node.Session

/-!
# Session datagrams

Model of `node/handlers/forwarding.rs`: `handle_session_datagram` decodes the envelope, counts down
the hop limit, warms the coordinate cache from the plaintext headers of the inner message, and then
delivers the message to this node's session handlers or passes it on, answering with an error signal
where it cannot.

Congestion of the outgoing link, the coordinate cache, routing and the rate limiters are read from
`Env`.

## Results

* `panic_tryWarmCoordCache_iff`: the cache warming stops the program exactly on an inner message of
  phase 0 that sets the coordinate flag and is shorter than its 12-byte header.
-/

open Checked

namespace Fips

namespace Node

variable {SecretKey PublicKey ν μ : Type} (env : Env SecretKey)

/-! ## Cache warming -/

/-- The two cache insertions of `try_warm_coord_cache`. -/
def warmPair (datagram : SessionDatagram) (src dest : Option TreeCoordinate) :
    Handler SecretKey PublicKey ν μ Unit := do
  cacheCoords datagram.srcAddr src
  cacheCoords datagram.destAddr dest

/-- `try_warm_coord_cache`. -/
def tryWarmCoordCache (datagram : SessionDatagram) : Handler SecretKey PublicKey ν μ Unit := body do
  let pre ← orReturn (FspCommonPrefix.parse datagram.payload)
  let inner ← orReturn (sliceFrom datagram.payload FSP_COMMON_PREFIX_SIZE : Result Unit Bytes)
  if pre.phase == FSP_PHASE_MSG1 then do
    let setup ← orReturn (SessionSetup.decode inner)
    warmPair datagram (some setup.srcCoords) (some setup.destCoords)
  else if pre.phase == FSP_PHASE_MSG2 then do
    let ack ← orReturn (SessionAck.decode inner)
    warmPair datagram (some ack.srcCoords) (some ack.destCoords)
  else if pre.phase == FSP_PHASE_ESTABLISHED && pre.hasCoords then do
    -- only the 4-byte prefix is known to be there
    let coordData ← orReturn (sliceFrom datagram.payload FSP_HEADER_SIZE : Result Unit Bytes)
    let (srcCoords, destCoords, _) ← orReturn (parseEncryptedCoords coordData)
    warmPair datagram srcCoords destCoords

section Warming

variable {n n' : Node SecretKey PublicKey ν μ} {datagram : SessionDatagram}

/-- The header of an inner message with coordinates is there. -/
def Warms (datagram : SessionDatagram) : Prop :=
  ∀ pre, FspCommonPrefix.parse datagram.payload = .ok pre →
    (pre.phase == FSP_PHASE_ESTABLISHED && pre.hasCoords) = true →
    FSP_HEADER_SIZE ≤ datagram.payload.length

/-- Only the coordinate cache was written to. -/
def CachesOnly (n n' : Node SecretKey PublicKey ν μ) : Prop :=
  ∃ es, n' = { n with effects := n.effects ++ es } ∧
    ∀ e ∈ es, ∃ addr coords, e = .cacheCoords addr coords

theorem CachesOnly.refl (n : Node SecretKey PublicKey ν μ) : CachesOnly n n :=
  ⟨[], by rw [List.append_nil], List.forall_mem_nil _⟩

theorem wp_cacheCoords_cachesOnly {ε : Type} (h : CachesOnly n n') (addr : NodeAddr)
    (coords : Option TreeCoordinate) :
    wp (cacheCoords addr coords : M SecretKey PublicKey ν μ ε Unit)
      (fun _ => CachesOnly n) (fun _ _ => False) n' := by
  cases coords with
  | none => exact h
  | some coords =>
    obtain ⟨es, rfl, hes⟩ := h
    refine ⟨es ++ [.cacheCoords addr coords], ?_, ?_⟩
    · rw [← List.append_assoc]
    · exact List.forall_mem_append.mpr ⟨hes, List.forall_mem_singleton.mpr ⟨addr, coords, rfl⟩⟩

theorem wp_warmPair (datagram : SessionDatagram) (src dest : Option TreeCoordinate) :
    wp (warmPair datagram src dest : Handler SecretKey PublicKey ν μ Unit)
      (fun _ => CachesOnly n) (fun _ _ => False) n := by
  unfold warmPair
  rw [wp_bind_iff]
  refine wp_mono (fun _ n' hn' => ?_) (fun _ _ hF => hF) (wp_cacheCoords_cachesOnly (.refl n) _ src)
  exact wp_cacheCoords_cachesOnly hn' _ dest

/-- **Cache warming** writes to the cache, or stops the program on a header cut short. -/
theorem wp_tryWarmCoordCache (datagram : SessionDatagram) :
    wp (tryWarmCoordCache datagram : Handler SecretKey PublicKey ν μ Unit)
      (fun _ n' => Warms datagram ∧ CachesOnly n n')
      (fun e n' => e = .panic ∧ ¬Warms datagram ∧ n' = n) n := by
  have hpair : Warms datagram → ∀ src dest,
      wp (warmPair datagram src dest : Handler SecretKey PublicKey ν μ Unit)
        (fun _ n' => Warms datagram ∧ CachesOnly n n') (fun _ _ => False) n :=
    fun hwarms src dest => wp_mono (fun _ _ hn' => ⟨hwarms, hn'⟩) (fun _ _ hF => hF)
      (wp_warmPair datagram src dest)
  have hsame : Warms datagram → Warms datagram ∧ CachesOnly n n := fun h => ⟨h, .refl n⟩
  unfold tryWarmCoordCache
  rw [wp_body_iff, wp_bind_iff, wp_orReturn_iff]
  refine ⟨fun pre hpre => ?_, fun ⟨e, he⟩ => ?_, fun hpanic => ?_⟩
  · have hlen := FspCommonPrefix.length_of_parse hpre
    have hother : (pre.phase == FSP_PHASE_ESTABLISHED && pre.hasCoords) ≠ true → Warms datagram :=
      fun hphase pre' hpre' hcoords => by
        cases hpre.symm.trans hpre'
        exact absurd hcoords hphase
    rw [sliceFrom_of_le hlen, wp_bind_iff, wp_orReturn_ok]
    split_ifs with hsetup hack hcoords
    · have hwarms : Warms datagram := hother fun h => by
        rw [beq_iff_eq.mp hsetup] at h
        cases h
      rw [wp_bind_iff, wp_orReturn_iff]
      refine ⟨fun setup _ => ?_, fun _ => hsame hwarms, fun hpanic => ?_⟩
      · exact wp_mono (fun _ _ hn' => hn') (fun _ _ hF => hF.elim) (hpair hwarms _ _)
      · exact absurd hpanic (SessionSetup.noPanic_decode _)
    · have hwarms : Warms datagram := hother fun h => by
        rw [beq_iff_eq.mp hack] at h
        cases h
      rw [wp_bind_iff, wp_orReturn_iff]
      refine ⟨fun ack _ => ?_, fun _ => hsame hwarms, fun hpanic => ?_⟩
      · exact wp_mono (fun _ _ hn' => hn') (fun _ _ hF => hF.elim) (hpair hwarms _ _)
      · exact absurd hpanic (SessionAck.noPanic_decode _)
    · rcases Nat.lt_or_ge datagram.payload.length FSP_HEADER_SIZE with hshort | hlong
      · have hnot : ¬Warms datagram := fun h => absurd (h pre hpre hcoords) (Nat.not_le.mpr hshort)
        unfold sliceFrom
        rw [if_neg (Nat.not_le.mpr hshort), wp_bind_iff]
        exact ⟨rfl, hnot, rfl⟩
      · have hwarms : Warms datagram := fun _ _ _ => hlong
        rw [sliceFrom_of_le hlong, wp_bind_iff, wp_orReturn_ok, wp_bind_iff, wp_orReturn_iff]
        refine ⟨fun parsed _ => ?_, fun _ => hsame hwarms, fun hpanic => ?_⟩
        · exact wp_mono (fun _ _ hn' => hn') (fun _ _ hF => hF.elim) (hpair hwarms _ _)
        · exact absurd hpanic (noPanic_parseEncryptedCoords _)
    · exact hsame (hother hcoords)
  · refine hsame fun pre hpre => ?_
    cases hpre.symm.trans he
  · exact absurd hpanic (FspCommonPrefix.noPanic_parse _)

theorem panic_tryWarmCoordCache_iff (datagram : SessionDatagram)
    (n : Node SecretKey PublicKey ν μ) :
    (tryWarmCoordCache datagram n).2 = .error .panic ↔ ¬Warms datagram := by
  have hwp := wp_tryWarmCoordCache (n := n) datagram
  unfold wp at hwp
  rcases hrun : tryWarmCoordCache datagram n with ⟨n', r⟩
  rw [hrun] at hwp
  cases r with
  | ok u => exact ⟨fun h => (by cases h), fun h => absurd hwp.1 h⟩
  | error e =>
    obtain ⟨rfl, hshort, -⟩ := hwp
    exact ⟨fun _ => hshort, fun _ => rfl⟩

end Warming

/-! ## Error signals -/

/-- The common end of the two error signals: route `payload` back to the source. -/
def sendError (original : SessionDatagram) (payload : Bytes) :
    Handler SecretKey PublicKey ν μ Unit := do
  let my ← read Node.nodeAddr
  let config ← read (·.config)
  let errorDg := (SessionDatagram.new my original.srcAddr payload).withTtl config.defaultTtl
  let nextHop ← orElse () (env.findNextHop original.srcAddr)
  let _ ← attempt (sendLinkMessage env nextHop errorDg.encode false)

/-- `send_routing_error`. -/
def sendRoutingError (original : SessionDatagram) : Handler SecretKey PublicKey ν μ Unit := body do
  if !env.routingErrorAllowed original.destAddr then stop ()
  else do
    let my ← read Node.nodeAddr
    let payload :=
      match env.cachedCoords original.destAddr with
      | some coords => (PathBroken.mk original.destAddr my (some coords)).encode
      | none => (CoordsRequired.mk original.destAddr my).encode
    sendError env original payload

/-- `send_mtu_exceeded_error`. -/
def sendMtuExceededError (original : SessionDatagram) (bottleneckMtu : Nat) :
    Handler SecretKey PublicKey ν μ Unit := body do
  if !env.routingErrorAllowed original.destAddr then stop ()
  else do
    let my ← read Node.nodeAddr
    sendError env original (MtuExceeded.mk original.destAddr my bottleneckMtu).encode

/-! ## The handler -/

/-- `forwarding.rs:74-139`: pass a datagram for another node on. -/
def forwardDatagram (datagram : SessionDatagram) (incomingCe : Bool) :
    Handler SecretKey PublicKey ν μ Unit :=
  match env.findNextHop datagram.destAddr with
  | none => sendRoutingError env datagram
  | some nextHop => do
    let datagram := { datagram with pathMtu := min datagram.pathMtu (env.linkMtu nextHop) }
    let outgoingCe := incomingCe || env.congested nextHop
    match ← attempt (sendLinkMessage env nextHop datagram.encode outgoingCe) with
    | .error (.mtuExceeded _ _ mtu) => sendMtuExceededError env datagram mtu
    | .error _ => pure ()
    | .ok () => pure ()

variable [Sha256] [HkdfSha256] [ChaCha20Poly1305] [Secp256k1 SecretKey PublicKey] [SessionMmp μ]

/-- `handle_session_datagram`. -/
def handleSessionDatagram (payload : Bytes) (incomingCe : Bool) :
    Handler SecretKey PublicKey ν μ Unit := body do
  let datagram ← orReturn (SessionDatagram.decode payload)
  let datagram ← orElse () datagram.decrementTtl
  tryWarmCoordCache datagram
  let my ← read Node.nodeAddr
  if datagram.destAddr == my then
    handleSessionPayload env datagram.srcAddr datagram.payload datagram.pathMtu incomingCe
  else forwardDatagram env datagram incomingCe

end Node

end Fips
