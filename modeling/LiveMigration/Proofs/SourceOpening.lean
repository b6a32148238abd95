import LiveMigration.Bootstrap
import LiveMigration.Proofs.PhaseRuns

/-! Opening the migration source. The destination's address comes from the URI, then the RAM block
    is looked up, then the pre-copy timer is armed on the caller's scheduler; a fault at any of these
    three steps ends the opening before the engine is asked anything, and the scheduler keeps what
    it kept. Once the timer is armed, the engine is asked once to open as client node 2 towards the
    destination's sync port. If it refuses, or answers with a descriptor that is not positive, the
    timer is cancelled again: the scheduler keeps exactly the timers it kept before, and only its
    next identifier has moved on. Otherwise the session is client node 2 of domain 1, with itself as
    the owner of what it unmaps, pages of 4096 bytes, and the new timer armed in pre-copy. -/

namespace LiveMigration

/-- A client names only itself as the owner of what it unmaps. --/
theorem rangeOwners_client (d : DomainId) (self : NodeId) (nodes : Registry) :
    rangeOwners .client d self nodes = .ok ⟨[self], Nat.le_of_ble_eq_true rfl⟩ := rfl

/-- The session the migration source opens over `span`, with the engine's handle and the timer it
    armed. --/
structure OpenedSource (span : RamSpan) (handle timer : Nat) (s : Session) : Prop where
  handle : s.handle = handle
  role : s.role = .client
  domain : s.domain = DomainId.liveMigration
  localNode : s.localNode = NodeId.migrationClient
  nodes : s.nodes = Registry.empty
  regions : s.regions = RegionTable.empty
  span : s.span = span
  owners : s.unmapOwners.ids = [NodeId.migrationClient]
  timer : s.timer = some timer
  pageSize : s.pageSize = guestPageSize
  prefetch : s.prefetchWorkers = 0

section Source
variable {engine : Engine} {control : Controller} {ports : Ports} {uri : String} {d : Nat}

/-- On a working scheduler the session's new phase arms the timer under the next identifier. --/
theorem startTimer_fresh (hf : control.timers.failing = false) :
    ({ control with phase := {} } : Controller).startTimer d =
      (.ok control.timers.nextId, { control with phase := { armed := true }, timers := control.timers.keep d }) :=
  Controller.startTimer_of_working rfl hf

theorem migrateSrcInit_invalidUri {ram : Option RamSpan} (h : ipFromUri uri = none) :
    migrateSrcInit engine control ram ports uri d = ⟨engine, { control with phase := {} }, .error (.invalidUri uri)⟩ := by
  simp only [migrateSrcInit, h]

variable {ip : Net.Ipv4} (hip : ipFromUri uri = some ip)
include hip

theorem migrateSrcInit_ramNotFound :
    migrateSrcInit engine control none ports uri d = ⟨engine, { control with phase := {} }, .error .ramNotFound⟩ := by
  simp only [migrateSrcInit, hip, resolveRam]

theorem migrateSrcInit_timerFailed {span : RamSpan} (hf : control.timers.failing = true) :
    migrateSrcInit engine control (some span) ports uri d =
      ⟨engine, { control with phase := {} }, .error (.timer (.timer .tooManyOpenFiles))⟩ := by
  simp only [migrateSrcInit, hip, resolveRam, rangeOwners_client, Controller.startTimer_of_failing (c := { control with phase := {} }) rfl hf]

section Armed
variable {span : RamSpan} (hf : control.timers.failing = false)
include hf

/-- Once the timer is armed, the engine is asked once, to open as node 2 towards the sync port. --/
theorem migrateSrcInit_engine :
    (migrateSrcInit engine control (some span) ports uri d).engine =
      { engine with clientCalls := engine.clientCalls ++ [(span, NodeId.migrationClient, ⟨ip, ports.tcpSyncPort⟩)] } := by
  simp only [migrateSrcInit, hip, resolveRam, rangeOwners_client, startTimer_fresh hf,
    Engine.openAsClient]
  cases h : engine.failOpen
  · simp only [Bool.false_eq_true, ↓reduceIte]
    cases handleOf? engine.fd <;> rfl
  · rfl

theorem migrateSrcInit_refused (h : engine.failOpen = true) :
    migrateSrcInit engine control (some span) ports uri d =
      ⟨(migrateSrcInit engine control (some span) ports uri d).engine,
        ({ control with phase := { armed := true }, timers := control.timers.keep d } : Controller).cancelTimer
          control.timers.nextId,
        .error (.engine (.openClient .connectionRefused))⟩ := by
  simp only [migrateSrcInit, hip, resolveRam, rangeOwners_client, startTimer_fresh hf,
    Engine.openAsClient, h, ↓reduceIte]

theorem migrateSrcInit_invalidHandle (h : engine.failOpen = false) (hfd : engine.fd ≤ 0) :
    migrateSrcInit engine control (some span) ports uri d =
      ⟨(migrateSrcInit engine control (some span) ports uri d).engine,
        ({ control with phase := { armed := true }, timers := control.timers.keep d } : Controller).cancelTimer
          control.timers.nextId,
        .error (.invalidHandle engine.fd)⟩ := by
  have hnone : handleOf? engine.fd = none := by
    simp only [handleOf?, gt_iff_lt, Int.not_lt.mpr hfd, ↓reduceIte]
  simp only [migrateSrcInit, hip, resolveRam, rangeOwners_client, startTimer_fresh hf,
    Engine.openAsClient, h, Bool.false_eq_true, ↓reduceIte, hnone]

theorem migrateSrcInit_opened (h : engine.failOpen = false) (hfd : 0 < engine.fd) :
    (migrateSrcInit engine control (some span) ports uri d).control =
        { control with phase := { armed := true }, timers := control.timers.keep d } ∧
      (migrateSrcInit engine control (some span) ports uri d).result =
        .ok { handle := engine.fd.toNat, role := .client, domain := DomainId.liveMigration,
              localNode := NodeId.migrationClient, nodes := Registry.empty, regions := RegionTable.empty, span,
              unmapOwners := ⟨[NodeId.migrationClient], by decide⟩, timer := some control.timers.nextId,
              pageSize := guestPageSize } := by
  have hsome : handleOf? engine.fd = some engine.fd.toNat := by
    simp only [handleOf?, gt_iff_lt, hfd, ↓reduceIte]
  simp only [migrateSrcInit, hip, resolveRam, rangeOwners_client, startTimer_fresh hf,
    Engine.openAsClient, h, Bool.false_eq_true, ↓reduceIte, hsome, and_self]

end Armed

end Source

/-- Opening the migration source checks the URI, then the RAM block, then arms the pre-copy timer;
    a fault at any of these ends the opening with the engine not asked and the scheduler keeping
    what it kept. Past them the engine is asked once, as node 2 towards the destination's sync port.
    A refusal or a descriptor that is not positive cancels the new timer, so that the scheduler keeps
    exactly the timers it kept before; otherwise the source's session opens, in pre-copy, with the
    one new timer armed. --/
theorem migrateSrcInit_outcome (engine : Engine) (control : Controller) (ram : Option RamSpan) (ports : Ports)
    (uri : String) (delay : Nat) (hids : control.timers.Issued) :
    (ipFromUri uri = none →
      migrateSrcInit engine control ram ports uri delay = ⟨engine, { control with phase := {} }, .error (.invalidUri uri)⟩) ∧
    ∀ ip, ipFromUri uri = some ip →
      migrateSrcInit engine control none ports uri delay = ⟨engine, { control with phase := {} }, .error .ramNotFound⟩ ∧
      ∀ span : RamSpan,
        (control.timers.failing = true →
          migrateSrcInit engine control (some span) ports uri delay =
            ⟨engine, { control with phase := {} }, .error (.timer (.timer .tooManyOpenFiles))⟩) ∧
        (control.timers.failing = false →
          let o := migrateSrcInit engine control (some span) ports uri delay
          o.engine =
            { engine with clientCalls := engine.clientCalls ++ [(span, NodeId.migrationClient, ⟨ip, ports.tcpSyncPort⟩)] } ∧
          (engine.failOpen = true →
            o.result = .error (.engine (.openClient .connectionRefused)) ∧
            o.control.timers = { control.timers with nextId := control.timers.nextId + 1 } ∧
            o.control.phase.armed = false) ∧
          (engine.failOpen = false → engine.fd ≤ 0 →
            o.result = .error (.invalidHandle engine.fd) ∧
            o.control.timers = { control.timers with nextId := control.timers.nextId + 1 } ∧
            o.control.phase.armed = false) ∧
          (engine.failOpen = false → 0 < engine.fd →
            o.control.timers =
              { control.timers with nextId := control.timers.nextId + 1,
                                    pending := control.timers.pending ++ [(control.timers.nextId, delay)] } ∧
            o.control.phase = { armed := true } ∧
            ∃ s, o.result = .ok s ∧ OpenedSource span engine.fd.toNat control.timers.nextId s)) := by
  refine ⟨migrateSrcInit_invalidUri, fun ip hip =>
    ⟨migrateSrcInit_ramNotFound hip, fun span => ⟨migrateSrcInit_timerFailed hip, fun hf => ?_⟩⟩⟩
  -- cancelling the new timer gives the scheduler back its timers, one identifier further on
  have hcancel : ({ control with phase := { armed := true }, timers := control.timers.keep delay } : Controller).cancelTimer
      control.timers.nextId = { control with phase := {}, timers := { control.timers with nextId := control.timers.nextId + 1 } } := by
    simp only [Controller.cancelTimer, ManualTimers.cancel_keep hids]
  refine ⟨migrateSrcInit_engine hip hf, fun h => ?_, fun h hfd => ?_, fun h hfd => ?_⟩
  · rw [migrateSrcInit_refused hip hf h, hcancel]
    exact ⟨rfl, rfl, rfl⟩
  · rw [migrateSrcInit_invalidHandle hip hf h hfd, hcancel]
    exact ⟨rfl, rfl, rfl⟩
  · obtain ⟨hc, hr⟩ := migrateSrcInit_opened (d := delay) hip hf h hfd
    refine ⟨by rw [hc]; rfl, by rw [hc], _, hr, ?_⟩
    exact { handle := rfl, role := rfl, domain := rfl, localNode := rfl, nodes := rfl, regions := rfl, span := rfl,
            owners := rfl, timer := rfl, pageSize := rfl, prefetch := rfl }

theorem migrateSrcInit_outcome_fresh :
    ManualTimers.Issued {} ∧
    (ipFromUri "tcp:10.0.0.2:4444" = none →
      migrateSrcInit {} {} none {} "tcp:10.0.0.2:4444" 1000 =
        ⟨{}, { ({} : Controller) with phase := {} }, .error (.invalidUri "tcp:10.0.0.2:4444")⟩) ∧
    ∀ ip, ipFromUri "tcp:10.0.0.2:4444" = some ip →
      migrateSrcInit {} {} none {} "tcp:10.0.0.2:4444" 1000 = ⟨{}, { ({} : Controller) with phase := {} }, .error .ramNotFound⟩ ∧
      ∀ span : RamSpan,
        (({} : Controller).timers.failing = true →
          migrateSrcInit {} {} (some span) {} "tcp:10.0.0.2:4444" 1000 =
            ⟨{}, { ({} : Controller) with phase := {} }, .error (.timer (.timer .tooManyOpenFiles))⟩) ∧
        (({} : Controller).timers.failing = false →
          let o := migrateSrcInit {} {} (some span) {} "tcp:10.0.0.2:4444" 1000
          o.engine =
            { ({} : Engine) with clientCalls := ({} : Engine).clientCalls ++
                [(span, NodeId.migrationClient, ⟨ip, ({} : Ports).tcpSyncPort⟩)] } ∧
          (({} : Engine).failOpen = true →
            o.result = .error (.engine (.openClient .connectionRefused)) ∧
            o.control.timers = { nextId := 1 } ∧
            o.control.phase.armed = false) ∧
          (({} : Engine).failOpen = false → ({} : Engine).fd ≤ 0 →
            o.result = .error (.invalidHandle ({} : Engine).fd) ∧
            o.control.timers = { nextId := 1 } ∧
            o.control.phase.armed = false) ∧
          (({} : Engine).failOpen = false → 0 < ({} : Engine).fd →
            o.control.timers = { nextId := 1, pending := [(0, 1000)] } ∧
            o.control.phase = { armed := true } ∧
            ∃ s, o.result = .ok s ∧ OpenedSource span ({} : Engine).fd.toNat 0 s)) :=
  ⟨ManualTimers.issued_default, migrateSrcInit_outcome {} {} none {} "tcp:10.0.0.2:4444" 1000 ManualTimers.issued_default⟩

end LiveMigration
