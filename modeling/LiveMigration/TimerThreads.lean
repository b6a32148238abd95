import LiveMigration.Timer

/-! The timer scheduler as threads. Each scheduled timer gets a worker thread of its own, which
    sleeps until its timer expires or a cancel signals it. Once awake, the worker takes its
    identifier out of the scheduler's shared map of pending timers and runs the callback only if the
    identifier was still there; then it exits. A cancel takes the identifier out of the map and, if
    it was there, signals the worker. Whoever takes the entry out decides: the timer fires, or it is
    cancelled.

    Every access to the map is one atomic step (the map sits behind a lock), and so is scheduling:
    it takes the next identifier, and either sets up the timer, its entry and its worker and gives
    the identifier out, or fails to set them up and leaves the map alone. A run is any interleaving
    of these steps. Waiting on the timer descriptor and on the wake-up signal does not fail here.

    Besides the map and the workers, the state keeps what the callers and the callbacks see: the
    handles given out, the callbacks run, and the cancels that found their entry, each in order. -/

namespace LiveMigration

/-- Where a timer's worker thread is. --/
inductive WorkerStage where
  | asleep | awake | exited
deriving DecidableEq, Repr

/-- The worker thread of one timer. --/
structure Worker where
  id : Nat
  stage : WorkerStage := .asleep
  /-- The timer's delay has passed. --/
  due : Bool := false
  /-- A cancel wrote to the worker's wake-up signal. --/
  signalled : Bool := false
deriving DecidableEq, Repr

/-- The scheduler's shared state, its workers, and what has been seen of them. --/
structure TimerThreads where
  nextId : Nat := 0
  /-- The identifiers in the map of pending timers. --/
  pending : List Nat := []
  workers : List Worker := []
  /-- The handles that scheduling gave out, in order. --/
  handles : List Nat := []
  /-- The timers whose callback ran, in order. --/
  ran : List Nat := []
  /-- The timers whose entry a cancel took out of the map, in order. --/
  cancelled : List Nat := []
deriving DecidableEq, Repr

/-- One atomic step of a caller or of a worker thread. --/
inductive TimerAction where
  /-- Scheduling sets up a timer, its entry and its worker, under the next identifier. -/
  | schedule
  /-- Scheduling takes the next identifier but cannot set up the timer or its thread. -/
  | scheduleFails
  /-- A cancel of the timer with this handle. -/
  | cancel (id : Nat)
  /-- The delay of a timer passes. -/
  | elapse (id : Nat)
  /-- A worker's wait ends: its timer is due, or it was signalled. -/
  | wake (id : Nat)
  /-- An awake worker takes its identifier out of the map, runs the callback if it was there,
      and exits. -/
  | finish (id : Nat)
deriving DecidableEq, Repr

namespace TimerThreads

/-- Changes the worker of a timer. --/
def updateWorker (t : TimerThreads) (id : Nat) (f : Worker → Worker) : TimerThreads :=
  { t with workers := t.workers.map fun w => if w.id = id then f w else w }

/-- Whether the worker of a timer is awake. --/
def isAwake (t : TimerThreads) (id : Nat) : Bool := t.workers.any fun w => w.id = id && w.stage = .awake

/-- Whether the worker of a timer is asleep with a reason to wake. --/
def canWake (t : TimerThreads) (id : Nat) : Bool :=
  t.workers.any fun w => w.id = id && w.stage = .asleep && (w.due || w.signalled)

/-- Carries out one step; a step that cannot happen in this state changes nothing. --/
def step (t : TimerThreads) : TimerAction → TimerThreads
  | .schedule =>
    { t with nextId := t.nextId + 1, pending := t.pending ++ [t.nextId],
             workers := t.workers ++ [{ id := t.nextId }], handles := t.handles ++ [t.nextId] }
  | .scheduleFails => { t with nextId := t.nextId + 1 }
  | .cancel id =>
    if id ∈ t.pending then
      { t.updateWorker id ({ · with signalled := true }) with
          pending := t.pending.erase id, cancelled := t.cancelled ++ [id] }
    else t
  | .elapse id => t.updateWorker id ({ · with due := true })
  | .wake id => if t.canWake id then t.updateWorker id ({ · with stage := .awake }) else t
  | .finish id =>
    if t.isAwake id then
      let t' := t.updateWorker id ({ · with stage := .exited })
      if id ∈ t.pending then { t' with pending := t.pending.erase id, ran := t.ran ++ [id] } else t'
    else t

/-- The state after a run of steps. --/
def run (t : TimerThreads) : List TimerAction → TimerThreads
  | [] => t
  | a :: as => (t.step a).run as

/-- How many timers are pending: the size of the map. --/
def pendingCount (t : TimerThreads) : Nat := t.pending.length

/-- What became of a timer: pending while its entry is in the map, then fired or cancelled by
    whoever took the entry out. --/
def stateOf? (t : TimerThreads) (id : Nat) : Option TimerState :=
  if id ∈ t.pending then some .pending
  else if id ∈ t.ran then some .fired
  else if id ∈ t.cancelled then some .cancelled
  else none

@[simp]
theorem updateWorker_pending (t : TimerThreads) (id : Nat) (f : Worker → Worker) :
    (t.updateWorker id f).pending = t.pending := rfl

@[simp]
theorem updateWorker_handles (t : TimerThreads) (id : Nat) (f : Worker → Worker) :
    (t.updateWorker id f).handles = t.handles := rfl

@[simp]
theorem updateWorker_ran (t : TimerThreads) (id : Nat) (f : Worker → Worker) :
    (t.updateWorker id f).ran = t.ran := rfl

@[simp]
theorem updateWorker_cancelled (t : TimerThreads) (id : Nat) (f : Worker → Worker) :
    (t.updateWorker id f).cancelled = t.cancelled := rfl

@[simp]
theorem updateWorker_nextId (t : TimerThreads) (id : Nat) (f : Worker → Worker) :
    (t.updateWorker id f).nextId = t.nextId := rfl

/-- Two changes to the worker of a timer, the first keeping its identifier, are one change. --/
theorem updateWorker_updateWorker (t : TimerThreads) (id : Nat) {f : Worker → Worker} (g : Worker → Worker)
    (hf : ∀ w, (f w).id = w.id) : (t.updateWorker id f).updateWorker id g = t.updateWorker id (g ∘ f) := by
  simp only [updateWorker, List.map_map]
  congr 2
  funext w
  by_cases h : w.id = id <;> simp [h, hf]

theorem run_append (t : TimerThreads) (as bs : List TimerAction) : t.run (as ++ bs) = (t.run as).run bs := by
  induction as generalizing t with
  | nil => rfl
  | cons a as ih => exact ih (t.step a)

/-- Changing a worker keeps every worker's identifier, when the change does. --/
theorem updateWorker_ids (t : TimerThreads) (id : Nat) {f : Worker → Worker} (hf : ∀ w, (f w).id = w.id) :
    (t.updateWorker id f).workers.map (·.id) = t.workers.map (·.id) := by
  simp only [updateWorker, List.map_map]
  congr 1
  funext w
  by_cases h : w.id = id <;> simp [h, hf]

end TimerThreads

end LiveMigration
