import LiveMigration.Phase

/-! Runs of the phase controller: requests carried out one after another on one controller and its
    manual scheduler.

    Entering post-copy is the only request that leaves pre-copy, and it does so for good. The expiry
    flag is set by the first run of the expiry callback, directly or through the scheduler, and never
    cleared. Each of the two phase counters moves once at most over a whole run, exactly when its
    flag is set. Arming is refused while a timer is armed and then changes nothing; a failing
    scheduler leaves everything as it was; cancelling and expiring disarm. A wait answers at once
    whether the timer has expired.

    While expiry comes only from the scheduler and every cancel names the armed timer, the scheduler
    holds a timer exactly when the controller is armed, and never two. A cancel may name any timer,
    though, and it disarms whatever it names: with the handle of a timer that already fired, the
    armed timer stays with the scheduler while the controller counts itself disarmed, and the next
    arming puts a second timer beside it.

    Each fact is stated once for one request (`step_postCopy`, `step_expired`, …) and carried over
    a run by induction on the requests. -/

namespace LiveMigration

/-! ### Counters -/

namespace Metrics

@[simp]
theorem count_inc_self (m : Metrics) (p : CounterPath) : (m.inc p).count p = m.count p + 1 := by
  simp only [count, inc, add, get_update_self, Counter.add]

theorem count_inc_of_ne (m : Metrics) {p q : CounterPath} (h : q ≠ p) : (m.inc p).count q = m.count q := by
  simp only [count, inc, add, get_update_of_ne _ _ h]

end Metrics

/-! ### The manual scheduler -/

namespace ManualTimers

/-- Every kept timer has an identifier that the scheduler already handed out. --/
def Issued (t : ManualTimers) : Prop := ∀ e ∈ t.pending, e.1 < t.nextId

/-- The scheduler after keeping a timer of `delay` nanoseconds under the next identifier. --/
def keep (t : ManualTimers) (delay : Nat) : ManualTimers :=
  { t with nextId := t.nextId + 1, pending := t.pending ++ [(t.nextId, delay)] }

variable {t : ManualTimers} {delay : Nat}

theorem schedule_of_failing (h : t.failing = true) : t.schedule delay = .error .tooManyOpenFiles := by
  simp only [schedule, h, ↓reduceIte]

theorem schedule_of_working (h : t.failing = false) : t.schedule delay = .ok (t.nextId, t.keep delay) := by
  simp only [schedule, h, Bool.false_eq_true, ↓reduceIte, keep]

theorem issued_default : Issued {} := fun _ h => nomatch h

theorem Issued.keep (h : t.Issued) : (t.keep delay).Issued := by
  intro e he
  simp only [ManualTimers.keep, List.mem_append, List.mem_singleton] at he ⊢
  rcases he with he | rfl
  · exact Nat.lt_succ_of_lt (h e he)
  · exact Nat.lt_succ_self _

theorem Issued.cancel (h : t.Issued) (id : Nat) : (t.cancel id).Issued :=
  fun e he => h e (List.mem_filter.mp he).1

/-- Cancelling the timer just kept leaves the timers kept before it: none of them has its
    identifier. --/
theorem cancel_keep (h : t.Issued) : (t.keep delay).cancel t.nextId = { t with nextId := t.nextId + 1 } := by
  have hold : t.pending.filter (fun e => e.1 ≠ t.nextId) = t.pending :=
    List.filter_eq_self.mpr fun e he => decide_eq_true (Nat.ne_of_lt (h e he))
  simp only [cancel, ManualTimers.keep, List.filter_append, hold, List.filter_cons, List.filter_nil, ne_eq,
    not_true_eq_false, decide_false, Bool.false_eq_true, ↓reduceIte, List.append_nil]

end ManualTimers

/-! ### One request -/

namespace Controller

variable (c : Controller)

/-- Expiring disarms and marks the phase expired; only the first expiry counts. --/
theorem onTimerExpired_eq :
    c.onTimerExpired =
      { c with phase := { c.phase with armed := false, expired := true },
               metrics := if c.phase.expired then c.metrics else c.metrics.inc .timerExpirations } := by
  unfold onTimerExpired
  cases h : c.phase.expired
  · rfl
  · simp only [↓reduceIte]
    rw [← h]

/-- Entering post-copy; only the first entry counts. --/
theorem enterPostCopy_eq :
    c.enterPostCopy =
      { c with phase := { c.phase with postCopy := true },
               metrics := if c.phase.postCopy then c.metrics else c.metrics.inc .postCopyEntries } := by
  unfold enterPostCopy
  cases h : c.phase.postCopy
  · rfl
  · simp only [↓reduceIte]
    rw [← h]

/-- A second expiry changes nothing. --/
@[simp]
theorem onTimerExpired_onTimerExpired : c.onTimerExpired.onTimerExpired = c.onTimerExpired := by
  rw [onTimerExpired_eq c.onTimerExpired, onTimerExpired_eq c]
  simp only [↓reduceIte]

/-- The scheduler runs the callback once per kept timer; after the first run the others change
    nothing. --/
theorem foldl_onTimerExpired (n : Nat) :
    (List.replicate (n + 1) ()).foldl (fun c _ => c.onTimerExpired) c = c.onTimerExpired := by
  induction n generalizing c with
  | zero => rfl
  | succ n ih =>
    rw [List.replicate_succ, List.foldl_cons, ih, onTimerExpired_onTimerExpired]

theorem fireAll_of_nil (h : c.timers.pending = []) : c.fireAll = (0, c) := by
  simp only [fireAll, h, List.length_nil, List.replicate_zero, List.foldl_nil]
  rw [← h]

theorem fireAll_of_ne_nil (h : c.timers.pending ≠ []) :
    c.fireAll = (c.timers.pending.length, { c.onTimerExpired with timers := { c.timers with pending := [] } }) := by
  obtain ⟨n, hn⟩ := Nat.exists_eq_succ_of_ne_zero (mt List.length_eq_zero_iff.mp h)
  simp only [fireAll, hn, foldl_onTimerExpired]
  rw [onTimerExpired_eq, onTimerExpired_eq]

variable {c}

theorem startTimer_of_armed {delay : Nat} (h : c.phase.armed = true) : c.startTimer delay = (.error .alreadyArmed, c) := by
  simp only [startTimer, h, ↓reduceIte]

theorem startTimer_of_failing {delay : Nat} (h : c.phase.armed = false) (hf : c.timers.failing = true) :
    c.startTimer delay = (.error (.timer .tooManyOpenFiles), c) := by
  simp only [startTimer, h, Bool.false_eq_true, ↓reduceIte, ManualTimers.schedule_of_failing hf]

theorem startTimer_of_working {delay : Nat} (h : c.phase.armed = false) (hf : c.timers.failing = false) :
    c.startTimer delay = (.ok c.timers.nextId, { c with phase := { c.phase with armed := true }, timers := c.timers.keep delay }) := by
  simp only [startTimer, h, Bool.false_eq_true, ↓reduceIte, ManualTimers.schedule_of_working hf]

variable (c)

/-- Arming changes only the arm flag and the scheduler. --/
theorem startTimer_frame (delay : Nat) :
    ∃ armed timers, (c.startTimer delay).2 = { c with phase := { c.phase with armed }, timers } := by
  cases h : c.phase.armed
  · cases hf : c.timers.failing
    · exact ⟨true, _, by rw [startTimer_of_working h hf]⟩
    · exact ⟨false, c.timers, by rw [startTimer_of_failing h hf, ← h]⟩
  · exact ⟨true, c.timers, by rw [startTimer_of_armed h, ← h]⟩

/-! ### Requests -/

/-- How many times a request runs the expiry callback: once when it is called directly, and once
    for each kept timer when the scheduler fires. --/
def expiries : PhaseStep → Nat
  | .onTimerExpired => 1
  | .fireAll => c.timers.pending.length
  | _ => 0

/-- What a request does to the two flags that never clear and to the counters: what an expiry
    does, when it runs the expiry callback; what entering post-copy does, when it is that request;
    and nothing, otherwise. --/
theorem step_marks (s : PhaseStep) :
    (0 < c.expiries s ∧ s ≠ .enterPostCopy ∧ (c.step s).2.phase.postCopy = c.phase.postCopy ∧
        (c.step s).2.phase.expired = true ∧ (c.step s).2.metrics = c.onTimerExpired.metrics) ∨
    (s = .enterPostCopy ∧ (c.step s).2.phase = { c.phase with postCopy := true } ∧
        (c.step s).2.metrics = c.enterPostCopy.metrics) ∨
    (c.expiries s = 0 ∧ s ≠ .enterPostCopy ∧ (c.step s).2.phase.postCopy = c.phase.postCopy ∧
        (c.step s).2.phase.expired = c.phase.expired ∧ (c.step s).2.metrics = c.metrics) := by
  cases s with
  | startTimer delay =>
    obtain ⟨a, t, h⟩ := c.startTimer_frame delay
    exact .inr (.inr ⟨rfl, nofun, by simp only [step, h], by simp only [step, h], by simp only [step, h]⟩)
  | fireAll =>
    by_cases h : c.timers.pending = []
    · exact .inr (.inr ⟨by simp [expiries, h], nofun, by simp only [step, fireAll_of_nil c h],
        by simp only [step, fireAll_of_nil c h], by simp only [step, fireAll_of_nil c h]⟩)
    · refine .inl ⟨List.length_pos_iff.mpr h, nofun, ?_, ?_, ?_⟩ <;>
        simp only [step, fireAll_of_ne_nil c h, onTimerExpired_eq]
  | onTimerExpired =>
    refine .inl ⟨Nat.one_pos, nofun, ?_, ?_, rfl⟩ <;> simp only [step, onTimerExpired_eq]
  | enterPostCopy => exact .inr (.inl ⟨rfl, by simp only [step, enterPostCopy_eq], rfl⟩)
  | cancelTimer | delays | wait | state => exact .inr (.inr ⟨rfl, nofun, rfl, rfl, rfl⟩)

theorem step_postCopy (s : PhaseStep) :
    (c.step s).2.phase.postCopy = true ↔ c.phase.postCopy = true ∨ s = .enterPostCopy := by
  rcases c.step_marks s with ⟨-, hs, hp, -, -⟩ | ⟨rfl, hp, -⟩ | ⟨-, hs, hp, -, -⟩
  · simp [hp, hs]
  · simp [hp]
  · simp [hp, hs]

theorem step_expired (s : PhaseStep) :
    (c.step s).2.phase.expired = true ↔ c.phase.expired = true ∨ 0 < c.expiries s := by
  rcases c.step_marks s with ⟨h0, -, -, he, -⟩ | ⟨rfl, hp, -⟩ | ⟨h0, -, -, he, -⟩
  · simp [he, h0]
  · simp [hp, expiries]
  · simp [he, h0]

theorem step_count_timerExpirations (s : PhaseStep) :
    (c.step s).2.metrics.count .timerExpirations =
      c.metrics.count .timerExpirations + if !c.phase.expired && (c.step s).2.phase.expired then 1 else 0 := by
  rcases c.step_marks s with ⟨-, -, -, he, hm⟩ | ⟨rfl, hp, hm⟩ | ⟨-, -, -, he, hm⟩
  · cases hc : c.phase.expired <;> simp [he, hm, onTimerExpired_eq, hc]
  · cases hc : c.phase.postCopy <;> simp [hp, hm, enterPostCopy_eq, hc, Metrics.count_inc_of_ne]
  · simp [he, hm]

theorem step_count_postCopyEntries (s : PhaseStep) :
    (c.step s).2.metrics.count .postCopyEntries =
      c.metrics.count .postCopyEntries + if !c.phase.postCopy && (c.step s).2.phase.postCopy then 1 else 0 := by
  rcases c.step_marks s with ⟨-, -, hp, -, hm⟩ | ⟨rfl, hp, hm⟩ | ⟨-, -, hp, -, hm⟩
  · cases hc : c.phase.expired <;> simp [hp, hm, onTimerExpired_eq, hc, Metrics.count_inc_of_ne]
  · cases hc : c.phase.postCopy <;> simp [hp, hm, enterPostCopy_eq, hc]
  · simp [hp, hm]

/-- Every request keeps the identifiers the scheduler holds among those it handed out. --/
theorem issued_step (h : c.timers.Issued) (s : PhaseStep) : (c.step s).2.timers.Issued := by
  cases s with
  | startTimer delay =>
    cases ha : c.phase.armed
    · cases hf : c.timers.failing
      · simp only [step, startTimer_of_working ha hf]
        exact h.keep
      · simpa only [step, startTimer_of_failing ha hf] using h
    · simpa only [step, startTimer_of_armed ha] using h
  | cancelTimer id => exact h.cancel id
  | fireAll =>
    by_cases hp : c.timers.pending = []
    · simpa only [step, fireAll_of_nil c hp] using h
    · simp only [step, fireAll_of_ne_nil c hp]
      exact fun _ he => nomatch he
  | onTimerExpired => simpa only [step, onTimerExpired_eq] using h
  | enterPostCopy => simpa only [step, enterPostCopy_eq] using h
  | delays | wait | state => exact h

/-! ### Runs -/

/-- The controller after a run of requests. --/
def run (c : Controller) : List PhaseStep → Controller
  | [] => c
  | s :: ss => (c.step s).2.run ss

/-- How many times a run of requests runs the expiry callback. --/
def expiriesAlong (c : Controller) : List PhaseStep → Nat
  | [] => 0
  | s :: ss => c.expiries s + (c.step s).2.expiriesAlong ss

/-- The phase leaves pre-copy in a run exactly when the run enters post-copy, and stays out. --/
theorem run_postCopy (ss : List PhaseStep) :
    (c.run ss).phase.postCopy = true ↔ c.phase.postCopy = true ∨ PhaseStep.enterPostCopy ∈ ss := by
  induction ss generalizing c with
  | nil => simp [run]
  | cons s ss ih =>
    rw [run, ih, step_postCopy, List.mem_cons, or_assoc, @eq_comm _ s]

/-- The phase is expired after a run exactly when it was before or the run ran the callback. --/
theorem run_expired (ss : List PhaseStep) :
    (c.run ss).phase.expired = true ↔ c.phase.expired = true ∨ 0 < c.expiriesAlong ss := by
  induction ss generalizing c with
  | nil => simp [run, expiriesAlong]
  | cons s ss ih =>
    rw [run, ih, step_expired, expiriesAlong, Nat.add_pos_iff_pos_or_pos, or_assoc]

theorem run_expired_of_expired {ss : List PhaseStep} (h : c.phase.expired = true) :
    (c.run ss).phase.expired = true :=
  (c.run_expired ss).mpr (Or.inl h)

theorem run_postCopy_of_postCopy {ss : List PhaseStep} (h : c.phase.postCopy = true) :
    (c.run ss).phase.postCopy = true :=
  (c.run_postCopy ss).mpr (Or.inl h)

/-- A scheduler reached by any run of requests holds only identifiers it handed out. --/
theorem issued_run (h : c.timers.Issued) (ss : List PhaseStep) : (c.run ss).timers.Issued := by
  induction ss generalizing c with
  | nil => exact h
  | cons s ss ih => exact ih _ (c.issued_step h s)

/-- One more at each of two steps where a flag turns on, for a flag that never turns off, is one more
    over both. --/
private theorem add_turnedOn (n : UInt64) {a b e : Bool} (hab : a = true → b = true) (hbe : b = true → e = true) :
    n + (if !a && b then 1 else 0) + (if !b && e then 1 else 0) = n + if !a && e then 1 else 0 := by
  cases a <;> cases b <;> cases e <;> simp_all

/-- Over a run, the expiry counter moves by one exactly when the run sets the expiry flag. --/
theorem run_count_timerExpirations (ss : List PhaseStep) :
    (c.run ss).metrics.count .timerExpirations =
      c.metrics.count .timerExpirations + if !c.phase.expired && (c.run ss).phase.expired then 1 else 0 := by
  induction ss generalizing c with
  | nil => simp [run]
  | cons s ss ih =>
    rw [run, ih, step_count_timerExpirations]
    exact add_turnedOn _ (fun h => (c.step_expired s).mpr (Or.inl h)) (run_expired_of_expired _)

/-- Over a run, the post-copy counter moves by one exactly when the run enters post-copy. --/
theorem run_count_postCopyEntries (ss : List PhaseStep) :
    (c.run ss).metrics.count .postCopyEntries =
      c.metrics.count .postCopyEntries + if !c.phase.postCopy && (c.run ss).phase.postCopy then 1 else 0 := by
  induction ss generalizing c with
  | nil => simp [run]
  | cons s ss ih =>
    rw [run, ih, step_count_postCopyEntries]
    exact add_turnedOn _ (fun h => (c.step_postCopy s).mpr (Or.inl h)) (run_postCopy_of_postCopy _)

/-! ### Arming, disarming and waiting -/

variable {c}

theorem step_startTimer_of_armed {delay : Nat} (h : c.phase.armed = true) :
    c.step (.startTimer delay) = (.error .alreadyArmed, c) := by
  simp only [step, startTimer_of_armed h]
  rfl

theorem step_startTimer_of_failing {delay : Nat} (h : c.phase.armed = false) (hf : c.timers.failing = true) :
    c.step (.startTimer delay) = (.error (.timer .tooManyOpenFiles), c) := by
  simp only [step, startTimer_of_failing h hf]
  rfl

theorem step_startTimer_of_working {delay : Nat} (h : c.phase.armed = false) (hf : c.timers.failing = false) :
    c.step (.startTimer delay) =
      (.ok (.timer c.timers.nextId), { c with phase := { c.phase with armed := true }, timers := c.timers.keep delay }) := by
  simp only [step, startTimer_of_working h hf]
  rfl

variable (c)

/-- Arming is refused exactly while a timer is armed. --/
theorem step_startTimer_alreadyArmed_iff (delay : Nat) :
    (c.step (.startTimer delay)).1 = .error .alreadyArmed ↔ c.phase.armed = true := by
  refine ⟨fun h => ?_, fun h => by rw [step_startTimer_of_armed h]⟩
  cases ha : c.phase.armed
  · cases hf : c.timers.failing
    · rw [step_startTimer_of_working ha hf] at h
      cases h
    · rw [step_startTimer_of_failing ha hf] at h
      cases h
  · rfl

/-- An accepted arming leaves the controller armed. --/
theorem step_startTimer_armed_of_ok {delay : Nat} {r : PhaseReply} (h : (c.step (.startTimer delay)).1 = .ok r) :
    (c.step (.startTimer delay)).2.phase.armed = true := by
  cases ha : c.phase.armed
  · cases hf : c.timers.failing
    · rw [step_startTimer_of_working ha hf]
    · rw [step_startTimer_of_failing ha hf] at h
      cases h
  · rw [step_startTimer_of_armed ha] at h
    cases h

theorem step_cancelTimer_armed (id : Nat) : (c.step (.cancelTimer id)).2.phase.armed = false := rfl

theorem step_onTimerExpired_armed : (c.step .onTimerExpired).2.phase.armed = false :=
  c.onTimerExpired_armed

theorem step_fireAll_armed (h : c.timers.pending ≠ []) : (c.step .fireAll).2.phase.armed = false := by
  simp only [step, fireAll_of_ne_nil c h]
  exact c.onTimerExpired_armed

/-- A wait answers whether the timer has expired, and changes nothing. --/
theorem step_wait (t : Option Nat) : c.step (.wait t) = (.ok (.expired c.phase.expired), c) := rfl

/-! ### The life of a phase -/

/-- The life of a phase controller over any run of requests. Pre-copy ends with the first entry
    into post-copy and never comes back, and no other request ends it. The expiry flag is set by the
    first run of the expiry callback and stays set. Over the whole run each phase counter moves by
    one exactly when its flag was set during the run, and otherwise not at all. Arming is refused
    exactly while armed, and then nothing changes; a failing scheduler changes nothing either; an
    accepted arming arms, and a cancel, a direct expiry or a firing of kept timers disarms. A wait
    of any length, the longest included, answers true once expired; before that a wait of any
    finite length answers false; no wait changes anything. --/
theorem phase_lifecycle :
    (∀ ss, (c.run ss).phase.postCopy = true ↔ c.phase.postCopy = true ∨ PhaseStep.enterPostCopy ∈ ss) ∧
    (∀ ss, (c.run ss).phase.expired = true ↔ c.phase.expired = true ∨ 0 < c.expiriesAlong ss) ∧
    (∀ ss, (c.run ss).metrics.count .timerExpirations =
      c.metrics.count .timerExpirations + if !c.phase.expired && (c.run ss).phase.expired then 1 else 0) ∧
    (∀ ss, (c.run ss).metrics.count .postCopyEntries =
      c.metrics.count .postCopyEntries + if !c.phase.postCopy && (c.run ss).phase.postCopy then 1 else 0) ∧
    (∀ delay, (c.step (.startTimer delay)).1 = .error .alreadyArmed ↔ c.phase.armed = true) ∧
    (∀ delay, c.phase.armed = true → (c.step (.startTimer delay)).2 = c) ∧
    (∀ delay, c.phase.armed = false → c.timers.failing = true →
      c.step (.startTimer delay) = (.error (.timer .tooManyOpenFiles), c)) ∧
    (∀ delay r, (c.step (.startTimer delay)).1 = .ok r → (c.step (.startTimer delay)).2.phase.armed = true) ∧
    (∀ id, (c.step (.cancelTimer id)).2.phase.armed = false) ∧
    (c.step .onTimerExpired).2.phase.armed = false ∧
    (c.timers.pending ≠ [] → (c.step .fireAll).2.phase.armed = false) ∧
    (c.phase.expired = true → ∀ t, c.step (.wait t) = (.ok (.expired true), c)) ∧
    (c.phase.expired = false → ∀ timeout, c.step (.wait (some timeout)) = (.ok (.expired false), c)) :=
  ⟨c.run_postCopy, c.run_expired, c.run_count_timerExpirations, c.run_count_postCopyEntries,
    c.step_startTimer_alreadyArmed_iff, fun _ h => by rw [step_startTimer_of_armed h],
    fun _ h hf => step_startTimer_of_failing h hf, fun _ _ h => c.step_startTimer_armed_of_ok h,
    c.step_cancelTimer_armed, c.step_onTimerExpired_armed, c.step_fireAll_armed,
    fun h t => by rw [step_wait, h], fun h timeout => by rw [step_wait, h]⟩

/-! ### One timer at a time -/

/-- The scheduler keeps a timer exactly when the controller is armed, and never two. --/
def OneTimer (c : Controller) : Prop := c.timers.pending.length = if c.phase.armed then 1 else 0

/-- A request that leaves expiry to the scheduler and, while a timer is armed, cancels only a timer
    that the scheduler still keeps. --/
def Orderly (c : Controller) : PhaseStep → Prop
  | .onTimerExpired => False
  | .cancelTimer id => c.phase.armed = true → id ∈ c.timers.pending.map (·.1)
  | _ => True

/-- Every request of a run is orderly when it comes. --/
def OrderlyAlong (c : Controller) : List PhaseStep → Prop
  | [] => True
  | s :: ss => c.Orderly s ∧ (c.step s).2.OrderlyAlong ss

variable {c}

theorem OneTimer.startTimer (h : c.OneTimer) (delay : Nat) : (c.step (.startTimer delay)).2.OneTimer := by
  cases ha : c.phase.armed
  · cases hf : c.timers.failing
    · -- nothing was kept while disarmed, so the new timer is the only one
      have hnil : c.timers.pending = [] := by
        rw [OneTimer, ha] at h
        exact List.length_eq_zero_iff.mp h
      rw [step_startTimer_of_working ha hf]
      simp [OneTimer, ManualTimers.keep, hnil]
    · rwa [step_startTimer_of_failing ha hf]
  · rwa [step_startTimer_of_armed ha]

/-- A cancel that names the armed timer leaves nothing with the scheduler. --/
theorem OneTimer.cancelTimer (h : c.OneTimer) {id : Nat} (ho : c.Orderly (.cancelTimer id)) :
    (c.step (.cancelTimer id)).2.OneTimer := by
  -- the scheduler keeps nothing, or only the timer that the cancel names
  have hkept : c.timers.pending = [] ∨ ∃ d, c.timers.pending = [(id, d)] := by
    rw [OneTimer] at h
    cases ha : c.phase.armed
    · rw [ha] at h
      exact Or.inl (List.length_eq_zero_iff.mp h)
    · rw [ha] at h
      obtain ⟨⟨j, d⟩, he⟩ := List.length_eq_one_iff.mp h
      have hid : id ∈ c.timers.pending.map (·.1) := ho ha
      rw [he, List.map_singleton, List.mem_singleton] at hid
      exact Or.inr ⟨d, by rw [he, hid]⟩
  show (c.timers.pending.filter fun e => e.1 ≠ id).length = 0
  rcases hkept with hnil | ⟨d, hone⟩
  · rw [hnil]
    rfl
  · rw [hone]
    simp

theorem OneTimer.fireAll (h : c.OneTimer) : (c.step .fireAll).2.OneTimer := by
  by_cases hp : c.timers.pending = []
  · simpa [step, fireAll_of_nil c hp] using h
  · simp only [OneTimer, step, fireAll_of_ne_nil c hp, onTimerExpired_armed, List.length_nil]
    rfl

theorem OneTimer.step (h : c.OneTimer) {s : PhaseStep} (ho : c.Orderly s) : (c.step s).2.OneTimer := by
  cases s with
  | startTimer delay => exact h.startTimer delay
  | cancelTimer id => exact h.cancelTimer ho
  | fireAll => exact h.fireAll
  | onTimerExpired => exact ho.elim
  | enterPostCopy => simpa [OneTimer, Controller.step, enterPostCopy_eq] using h
  | delays | wait | state => exact h

theorem OneTimer.run (h : c.OneTimer) {ss : List PhaseStep} (ho : c.OrderlyAlong ss) : (c.run ss).OneTimer := by
  induction ss generalizing c with
  | nil => exact h
  | cons s ss ih => exact ih (h.step ho.1) ho.2

/-- Along a run where expiry comes only from the scheduler and every cancel names the armed timer,
    the scheduler keeps at most one timer of the controller, and one exactly when it is armed. --/
theorem run_one_timer_when_armed {ss : List PhaseStep} (h : c.OneTimer) (ho : c.OrderlyAlong ss) :
    (c.run ss).timers.pending.length ≤ 1 ∧
      ((c.run ss).timers.pending.length = 1 ↔ (c.run ss).phase.armed = true) := by
  have hrun : (c.run ss).OneTimer := h.run ho
  rw [OneTimer] at hrun
  rw [hrun]
  cases (c.run ss).phase.armed <;> simp

theorem run_one_timer_when_armed_sample :
    (({} : Controller)).OneTimer ∧
      ({} : Controller).OrderlyAlong [.startTimer 1000, .fireAll, .startTimer 1000, .cancelTimer 1, .startTimer 5] ∧
      (({} : Controller).run [.startTimer 1000, .fireAll, .startTimer 1000, .cancelTimer 1, .startTimer 5]).timers.pending.length ≤ 1 ∧
      ((({} : Controller).run [.startTimer 1000, .fireAll, .startTimer 1000, .cancelTimer 1, .startTimer 5]).timers.pending.length = 1 ↔
        (({} : Controller).run [.startTimer 1000, .fireAll, .startTimer 1000, .cancelTimer 1, .startTimer 5]).phase.armed = true) := by
  have h : (({} : Controller)).OneTimer := rfl
  have ho : ({} : Controller).OrderlyAlong [.startTimer 1000, .fireAll, .startTimer 1000, .cancelTimer 1, .startTimer 5] :=
    ⟨trivial, trivial, trivial, fun _ => by decide, trivial, trivial⟩
  exact ⟨h, ho, run_one_timer_when_armed h ho⟩

/-- A cancel that names a timer which already fired disarms the controller while the armed timer
    stays with the scheduler; arming again then puts a second timer beside it. --/
theorem stale_cancel_leaves_armed_timer :
    (({} : Controller).run [.startTimer 1000, .fireAll, .startTimer 1000, .cancelTimer 0]).timers.pending.length = 1 ∧
      (({} : Controller).run [.startTimer 1000, .fireAll, .startTimer 1000, .cancelTimer 0]).phase.armed = false ∧
      (({} : Controller).run [.startTimer 1000, .fireAll, .startTimer 1000, .cancelTimer 0,
        .startTimer 1000]).timers.pending.length = 2 :=
  ⟨rfl, rfl, rfl⟩

end Controller

end LiveMigration
