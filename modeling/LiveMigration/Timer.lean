import LiveMigration.Phase

/-! Timers on a clock. Each timer is due a number of nanoseconds after it was scheduled, at least
    one (a timer of no delay would never be set off), and fires on the timer thread once the clock
    reaches that time, unless it was cancelled first. The clock
    moves only while somebody waits: a wait for one timer ends when it fires or when the wait runs
    out, and every timer due by then fires on the way, in the order they fall due. Identifiers are
    0, 1, … in scheduling order; cancelling an unknown or finished timer does nothing. -/

namespace LiveMigration

/-- What became of a timer. --/
inductive TimerState where
  | pending | fired | cancelled
deriving DecidableEq, Repr

/-- A timer: its identifier, when it is due, and what became of it. --/
structure TimerEntry where
  id : Nat
  due : Nat
  state : TimerState
deriving DecidableEq, Repr

/-- Timers on a clock that moves only while somebody waits. --/
structure TimerClock where
  now : Nat := 0
  nextId : Nat := 0
  timers : List TimerEntry := []
deriving DecidableEq, Repr

namespace TimerClock

/-- The name of the thread the timers fire on. --/
def threadName : String := "dsm_mig_timer"

/-- Schedules a timer due after `delay` nanoseconds, or one if `delay` is zero, and gives its
    identifier. --/
def schedule (t : TimerClock) (delay : Nat) : Nat × TimerClock :=
  (t.nextId, { t with nextId := t.nextId + 1, timers := t.timers ++ [⟨t.nextId, t.now + max delay 1, .pending⟩] })

/-- Cancels a pending timer. --/
def cancel (t : TimerClock) (id : Nat) : TimerClock :=
  { t with timers := t.timers.map fun e =>
      if e.id = id && e.state = .pending then { e with state := .cancelled } else e }

/-- How many timers have neither fired nor been cancelled. --/
def pendingCount (t : TimerClock) : Nat := (t.timers.filter (·.state = .pending)).length

/-- Moves the clock to `time` and fires every pending timer due by then; gives how many fired. --/
def advance (t : TimerClock) (time : Nat) : Nat × TimerClock :=
  let due := t.timers.filter fun e => e.state = .pending && e.due ≤ time
  (due.length, { t with now := max t.now time,
                        timers := t.timers.map fun e =>
                          if e.state = .pending && e.due ≤ time then { e with state := .fired } else e })

/-- The state of a timer. --/
def stateOf? (t : TimerClock) (id : Nat) : Option TimerState :=
  (t.timers.find? (·.id = id)).map (·.state)

/-- The due time of a timer. --/
def dueOf? (t : TimerClock) (id : Nat) : Option Nat := (t.timers.find? (·.id = id)).map (·.due)

/-- Waits up to `timeout` nanoseconds for a timer to fire; says whether it fired. --/
def waitFired (t : TimerClock) (id timeout : Nat) : Bool × TimerClock :=
  match t.stateOf? id, t.dueOf? id with
  | some .fired, _ => (true, t)
  | some .pending, some due =>
    if due ≤ t.now + timeout then (true, (t.advance due).2)
    else (false, (t.advance (t.now + timeout)).2)
  | _, _ => (false, (t.advance (t.now + timeout)).2)

end TimerClock

/-- A phase controller whose timers run on a clock. --/
structure ClockedPhase where
  phase : Phase := {}
  clock : TimerClock := {}
  metrics : Metrics := {}

namespace ClockedPhase

/-- The controller view, to reuse its expiry rule. --/
def expire (c : ClockedPhase) (times : Nat) : ClockedPhase :=
  let ctl : Controller := { phase := c.phase, metrics := c.metrics }
  let ctl := (List.replicate times ()).foldl (fun ctl _ => ctl.onTimerExpired) ctl
  { c with phase := ctl.phase, metrics := ctl.metrics }

/-- Arms the pre-copy timer for `delay` nanoseconds. --/
def startTimer (c : ClockedPhase) (delay : Nat) : Except PhaseError Nat × ClockedPhase :=
  if c.phase.armed then (.error .alreadyArmed, c)
  else
    let (id, clock) := c.clock.schedule delay
    (.ok id, { c with phase := { c.phase with armed := true }, clock })

/-- Cancels a timer and disarms. --/
def cancelTimer (c : ClockedPhase) (id : Nat) : ClockedPhase :=
  { c with clock := c.clock.cancel id, phase := { c.phase with armed := false } }

/-- Waits without end for the expiry: true once expired; none when the timer is neither armed nor
    expired, so that nothing could end the wait. --/
def waitForever (c : ClockedPhase) : Option (Bool × ClockedPhase) :=
  if c.phase.expired then some (true, c)
  else if !c.phase.armed then none
  else
    let dues := (c.clock.timers.filter (·.state = .pending)).map (·.due)
    match dues.min? with
    | some due =>
      let (n, clock) := c.clock.advance due
      some (true, ({ c with clock }).expire n)
    | none => none

/-- Enters post-copy; only the first entry counts. --/
def enterPostCopy (c : ClockedPhase) : ClockedPhase :=
  let ctl : Controller := ({ phase := c.phase, metrics := c.metrics } : Controller).enterPostCopy
  { c with phase := ctl.phase, metrics := ctl.metrics }

end ClockedPhase

end LiveMigration
