import LiveMigration.Metrics

/-! The migration phase. A migration starts in pre-copy and enters post-copy once, for good. A
    pre-copy timer can be armed on a scheduler; arming twice is refused, and a scheduler that fails
    leaves the timer unarmed. When the timer expires the controller is disarmed and marked expired;
    only the first expiry counts. The scheduler here is a manual one: it keeps the timers it was
    given with identifiers 0, 1, … in order, forgets a cancelled one, and runs them all, in order,
    when told to fire. A failing scheduler refuses every timer with "too many open files". -/

namespace LiveMigration

/-- The two phases of a migration. --/
inductive Stage where
  | preCopy | postCopy
deriving DecidableEq, Repr

/-- What the phase controller knows. --/
structure Phase where
  postCopy : Bool := false
  armed : Bool := false
  expired : Bool := false
deriving DecidableEq, Repr

/-- The current phase. --/
def Phase.stage (p : Phase) : Stage := if p.postCopy then .postCopy else .preCopy

/-- `pre-copy` or `post-copy`. --/
def Stage.render : Stage → String
  | .preCopy => "pre-copy" | .postCopy => "post-copy"

/-- Why the pre-copy timer was not armed. --/
inductive PhaseError where
  | alreadyArmed
  | timer (e : OsError)
deriving DecidableEq

/-- The wording of each phase fault. --/
def PhaseError.message : PhaseError → String
  | .alreadyArmed => "The pre-copy timer is already armed"
  | .timer e => "Failed to arm the pre-copy timer: " ++ e.message

/-! ### The manual scheduler -/

/-- Timers kept until they are fired or cancelled, as identifier and delay in nanoseconds. --/
structure ManualTimers where
  failing : Bool := false
  nextId : Nat := 0
  pending : List (Nat × Nat) := []
deriving DecidableEq, Repr

namespace ManualTimers

/-- Keeps a timer and gives its identifier, unless the scheduler fails. --/
def schedule (t : ManualTimers) (delay : Nat) : Except OsError (Nat × ManualTimers) :=
  if t.failing then .error .tooManyOpenFiles
  else .ok (t.nextId, { t with nextId := t.nextId + 1, pending := t.pending ++ [(t.nextId, delay)] })

/-- Forgets the timer with this identifier, if there is one. --/
def cancel (t : ManualTimers) (id : Nat) : ManualTimers :=
  { t with pending := t.pending.filter fun e => e.1 ≠ id }

/-- The delays of the kept timers, in order. --/
def delays (t : ManualTimers) : List Nat := t.pending.map (·.2)

end ManualTimers

/-! ### The controller -/

/-- The phase, the timers armed for it, and the counters it moves. --/
structure Controller where
  phase : Phase := {}
  timers : ManualTimers := {}
  metrics : Metrics := {}

namespace Controller

/-- Arms the pre-copy timer for `delay` nanoseconds and gives its identifier. --/
def startTimer (c : Controller) (delay : Nat) : Except PhaseError Nat × Controller :=
  if c.phase.armed then (.error .alreadyArmed, c)
  else
    match c.timers.schedule delay with
    | .ok (id, timers) => (.ok id, { c with phase := { c.phase with armed := true }, timers })
    | .error e => (.error (.timer e), c)

/-- Cancels a timer and disarms, whatever the identifier. --/
def cancelTimer (c : Controller) (id : Nat) : Controller :=
  { c with timers := c.timers.cancel id, phase := { c.phase with armed := false } }

/-- The pre-copy timer expired: disarm, and mark and count the first expiry. --/
def onTimerExpired (c : Controller) : Controller :=
  let phase := { c.phase with armed := false }
  if c.phase.expired then { c with phase }
  else { c with phase := { phase with expired := true },
                metrics := c.metrics.inc .timerExpirations }

/-- Runs every kept timer, in order, and says how many ran. --/
def fireAll (c : Controller) : Nat × Controller :=
  let n := c.timers.pending.length
  let c := { c with timers := { c.timers with pending := [] } }
  (n, (List.replicate n ()).foldl (fun c _ => c.onTimerExpired) c)

/-- Enters post-copy; only the first entry counts. --/
def enterPostCopy (c : Controller) : Controller :=
  if c.phase.postCopy then c
  else { c with phase := { c.phase with postCopy := true }, metrics := c.metrics.inc .postCopyEntries }

theorem onTimerExpired_armed (c : Controller) : c.onTimerExpired.phase.armed = false := by
  unfold onTimerExpired
  split <;> rfl

end Controller

/-! ### Steps -/

/-- A request to the phase controller. --/
inductive PhaseStep where
  | startTimer (delay : Nat)
  | cancelTimer (id : Nat)
  | fireAll
  | delays
  | onTimerExpired
  | enterPostCopy
  /-- Waits for the expiry for some nanoseconds, or without end. --/
  | wait (timeout : Option Nat)
  | state

/-- What a phase request answers. --/
inductive PhaseReply where
  | timer (id : Nat)
  | done
  | count (n : Nat)
  | delays (delays : List Nat)
  | expired (b : Bool)
  | state (p : Phase)

/-- Carries out a request. The manual scheduler runs nothing by itself, so a wait sees the expiry
    only when it already happened. --/
def Controller.step (c : Controller) : PhaseStep → Except PhaseError PhaseReply × Controller
  | .startTimer delay =>
    let (r, c) := c.startTimer delay
    (r.map .timer, c)
  | .cancelTimer id => (.ok .done, c.cancelTimer id)
  | .fireAll =>
    let (n, c) := c.fireAll
    (.ok (.count n), c)
  | .delays => (.ok (.delays c.timers.delays), c)
  | .onTimerExpired => (.ok .done, c.onTimerExpired)
  | .enterPostCopy => (.ok .done, c.enterPostCopy)
  | .wait _ => (.ok (.expired c.phase.expired), c)
  | .state => (.ok (.state c.phase), c)

end LiveMigration
