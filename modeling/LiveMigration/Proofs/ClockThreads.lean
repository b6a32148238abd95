import LiveMigration.Proofs.TimerRace
import Mathlib.Data.List.Nodup

/-! The timers on a clock are one schedule of the worker threads. Scheduling on the clock is the
    threads' scheduling step; a cancel on the clock is the threads' cancel; and when the clock moves
    on, each timer falling due fires as its worker would fire it, in three steps: its delay passes,
    the worker wakes, and the worker takes the entry out of the map. Along the way the threads give
    out the same handles, leave every timer with the same fate, and keep as many timers pending as
    the clock counts.

    The link between the two is `Tracks`, kept by each operation of the clock
    (`Tracks.schedule`, `Tracks.cancel`, `Tracks.advance`). -/

namespace LiveMigration

/-! ### The clock's view of a timer -/

namespace TimerClock

variable {t t' : TimerClock}

/-- When every timer changes in a way that keeps its identifier, the state of a timer is the
    changed state of the first timer with that identifier. --/
theorem stateOf?_of_timers {f : TimerEntry → TimerEntry} (hf : ∀ e, (f e).id = e.id)
    (ht : t'.timers = t.timers.map f) (x : Nat) :
    t'.stateOf? x = (t.timers.find? (·.id = x)).map fun e => (f e).state := by
  have hp : ((fun e : TimerEntry => decide (e.id = x)) ∘ f) = fun e => decide (e.id = x) := by
    funext e
    simp [hf]
  simp only [stateOf?, ht, List.find?_map, hp, Option.map_map]
  rfl

/-- Among timers with distinct identifiers, a timer passes a test exactly when the first timer
    with its identifier does. --/
theorem mem_filter_ids {l : List TimerEntry} (hl : (l.map (·.id)).Nodup) {p : TimerEntry → Bool} {x : Nat} :
    x ∈ (l.filter p).map (·.id) ↔ ∃ e, l.find? (·.id = x) = some e ∧ p e = true := by
  constructor
  · rintro hx
    obtain ⟨e, he, rfl⟩ := List.mem_map.mp hx
    obtain ⟨hel, hpe⟩ := List.mem_filter.mp he
    obtain ⟨e', he'⟩ := Option.isSome_iff_exists.mp
      (List.find?_isSome.mpr ⟨e, hel, decide_eq_true rfl⟩ : (l.find? (·.id = e.id)).isSome)
    have hid : e'.id = e.id := by simpa using List.find?_some he'
    have heq : e' = e := List.inj_on_of_nodup_map hl (List.mem_of_find?_eq_some he') hel hid
    exact ⟨e', he', heq ▸ hpe⟩
  · rintro ⟨e, he, hpe⟩
    have hid : e.id = x := by simpa using List.find?_some he
    exact List.mem_map.mpr ⟨e, List.mem_filter.mpr ⟨List.mem_of_find?_eq_some he, hpe⟩, hid⟩

theorem stateOf?_cancel (id x : Nat) :
    (t.cancel id).stateOf? x = (t.stateOf? x).map fun s => if x = id ∧ s = .pending then .cancelled else s := by
  rw [stateOf?_of_timers (f := fun e => if e.id = id && e.state = .pending then { e with state := .cancelled } else e)
    (fun e => by split <;> rfl) rfl, stateOf?, Option.map_map]
  cases h : t.timers.find? (·.id = x) with
  | none => rfl
  | some e =>
    have hx : e.id = x := by simpa using List.find?_some h
    by_cases hc : e.id = id ∧ e.state = .pending
    · simp [hc, ← hx]
    · simp only [Option.map_some, Function.comp_apply, ← hx]
      rw [if_neg (by simpa using hc), if_neg hc]

/-- The timers that fall due when the clock moves to `time`. --/
def dueIds (t : TimerClock) (time : Nat) : List Nat :=
  (t.timers.filter fun e => e.state = .pending && e.due ≤ time).map (·.id)

theorem stateOf?_advance (hl : (t.timers.map (·.id)).Nodup) (time x : Nat) :
    (t.advance time).2.stateOf? x = if x ∈ t.dueIds time then some .fired else t.stateOf? x := by
  rw [stateOf?_of_timers (f := fun e => if e.state = .pending && e.due ≤ time then { e with state := .fired } else e)
    (fun e => by split <;> rfl) rfl]
  by_cases hx : x ∈ t.dueIds time
  · -- the first timer with this identifier is pending and due
    obtain ⟨e, he, hd⟩ := (mem_filter_ids hl).mp hx
    rw [if_pos hx, he, Option.map_some, if_pos hd]
  · rw [if_neg hx, stateOf?]
    cases h : t.timers.find? (·.id = x) with
    | none => rfl
    | some e =>
      have hd : ¬(e.state = .pending && decide (e.due ≤ time)) = true := fun hd =>
        hx ((mem_filter_ids hl).mpr ⟨e, h, hd⟩)
      simp only [Option.map_some]
      rw [if_neg hd]

theorem stateOf?_schedule (hfresh : t.nextId ∉ t.timers.map (·.id)) (delay x : Nat) :
    (t.schedule delay).2.stateOf? x = if x = t.nextId then some .pending else t.stateOf? x := by
  simp only [schedule, stateOf?, List.find?_append]
  by_cases hx : x = t.nextId
  · -- no earlier timer has the new identifier
    subst hx
    have hnone : t.timers.find? (·.id = t.nextId) = none :=
      List.find?_eq_none.mpr fun e he hid => hfresh (List.mem_map.mpr ⟨e, he, by simpa using hid⟩)
    simp [hnone]
  · simp [hx, Ne.symm hx]

end TimerClock

/-! ### The threads' view of a timer -/

namespace TimerThreads

variable {t t' : TimerThreads} {x : Nat}

/-- The state of a timer depends only on where its identifier is. --/
theorem stateOf?_congr (hp : x ∈ t'.pending ↔ x ∈ t.pending) (hr : x ∈ t'.ran ↔ x ∈ t.ran)
    (hc : x ∈ t'.cancelled ↔ x ∈ t.cancelled) : t'.stateOf? x = t.stateOf? x := by
  simp only [stateOf?, hp, hr, hc]

theorem stateOf?_eq_pending_iff : t.stateOf? x = some .pending ↔ x ∈ t.pending := by
  unfold stateOf?
  by_cases hp : x ∈ t.pending
  · simp [hp]
  · by_cases hr : x ∈ t.ran <;> by_cases hc : x ∈ t.cancelled <;> simp [hp, hr, hc]

theorem Inv.stateOf?_of_ran (h : t.Inv) (hx : x ∈ t.ran) : t.stateOf? x = some .fired := by
  simp only [stateOf?, h.not_pending_of_ran hx, hx, ↓reduceIte]

theorem Inv.stateOf?_of_cancelled (h : t.Inv) (hx : x ∈ t.cancelled) : t.stateOf? x = some .cancelled := by
  have hp : x ∉ t.pending := fun hp => (h.not_removed_of_pending hp).2 hx
  have hr : x ∉ t.ran := fun hr => h.not_cancelled_of_ran hr hx
  simp only [stateOf?, hp, hr, hx, ↓reduceIte]

theorem stateOf?_schedule (x : Nat) :
    (t.step .schedule).stateOf? x = if x = t.nextId then some .pending else t.stateOf? x := by
  by_cases hx : x = t.nextId
  · rw [if_pos hx, stateOf?_eq_pending_iff, hx]
    exact List.mem_append_right _ (List.mem_singleton_self _)
  · rw [if_neg hx]
    exact stateOf?_congr (by simp [TimerThreads.step, hx]) Iff.rfl Iff.rfl

theorem Inv.stateOf?_cancel (h : t.Inv) (id x : Nat) :
    (t.step (.cancel id)).stateOf? x = (t.stateOf? x).map fun s => if x = id ∧ s = .pending then .cancelled else s := by
  by_cases hp : id ∈ t.pending
  · by_cases hx : x = id
    · -- the cancel takes this timer's entry out
      rw [hx, stateOf?_eq_pending_iff.mpr hp, (h.cancel id).stateOf?_of_cancelled]
      · simp
      · simp [TimerThreads.step, hp]
    · have hsame : (t.step (.cancel id)).stateOf? x = t.stateOf? x := by
        refine stateOf?_congr ?_ (by simp [TimerThreads.step, hp]) ?_
        · simp only [TimerThreads.step, hp, ↓reduceIte]
          exact h.pending_nodup.mem_erase_iff.trans (and_iff_right hx)
        · simp [TimerThreads.step, hp, hx]
      rw [hsame]
      cases t.stateOf? x <;> simp [hx]
  · -- nothing to take out: the cancel changes nothing, and the timer is not pending
    have hs : t.step (.cancel id) = t := by simp only [TimerThreads.step, hp, ↓reduceIte]
    rw [hs]
    cases hstate : t.stateOf? x with
    | none => rfl
    | some s =>
      have hne : ¬(x = id ∧ s = .pending) := by
        rintro ⟨rfl, rfl⟩
        exact hp (stateOf?_eq_pending_iff.mp hstate)
      simp only [Option.map_some, if_neg hne]

/-! ### Sleeping workers -/

/-- The worker of every pending timer still sleeps: no wake-up is under way. --/
def PendingAsleep (t : TimerThreads) : Prop := ∀ w ∈ t.workers, w.id ∈ t.pending → w.stage = .asleep

theorem Inv.pendingAsleep_schedule (h : t.Inv) (hw : t.PendingAsleep) : (t.step .schedule).PendingAsleep := by
  intro w hwm hp
  simp only [TimerThreads.step, List.mem_append, List.mem_singleton] at hwm hp
  rcases hwm with hwm | rfl
  · rcases hp with hp | hp
    · exact hw w hwm hp
    · -- an old worker carries a handle already given out, below the next identifier
      have hlt := h.lt_next _ (h.workers ▸ List.mem_map_of_mem hwm)
      omega
  · rfl

theorem PendingAsleep.cancel (hw : t.PendingAsleep) (id : Nat) : (t.step (.cancel id)).PendingAsleep := by
  intro w hwm hp
  by_cases hid : id ∈ t.pending
  · -- the cancel signals the worker but leaves it where it was
    simp only [TimerThreads.step, hid, ↓reduceIte, TimerThreads.updateWorker, List.mem_map] at hwm hp
    obtain ⟨w₀, hw₀, rfl⟩ := hwm
    have hp₀ := List.mem_of_mem_erase hp
    by_cases he : w₀.id = id
    · simp only [he, ↓reduceIte] at hp₀ ⊢
      exact hw w₀ hw₀ (he ▸ hp₀)
    · simp only [he, ↓reduceIte] at hp₀ ⊢
      exact hw w₀ hw₀ hp₀
  · simp only [TimerThreads.step, hid, ↓reduceIte] at hwm hp
    exact hw w hwm hp

/-! ### A worker firing its timer -/

/-- The steps by which a timer's worker fires it: its delay passes, the worker wakes, and it takes
    the entry out of the map. --/
def fireSteps (id : Nat) : List TimerAction := [.elapse id, .wake id, .finish id]

/-- The steps by which the workers of these timers fire them, one timer after another. --/
def fireAllSteps (ids : List Nat) : List TimerAction := ids.flatMap fireSteps

section Firing

variable {id : Nat} (h : t.Inv) (hp : id ∈ t.pending) (hw : t.PendingAsleep)
include h hp hw

/-- A pending timer whose worker sleeps fires in its three steps; nothing else changes but its
    worker. --/
theorem Inv.run_fireSteps :
    t.run (fireSteps id) =
      { t.updateWorker id ({ · with due := true, stage := .exited }) with
          pending := t.pending.erase id, ran := t.ran ++ [id] } := by
  -- the timer has a worker, since every handle has one
  obtain ⟨w, hwm, hwid⟩ : ∃ w ∈ t.workers, w.id = id := by
    have hh : id ∈ t.handles := h.parts.mem_iff.mpr (List.mem_append_left _ (List.mem_append_left _ hp))
    rw [← h.workers] at hh
    simpa using hh
  have hwake : (t.updateWorker id ({ · with due := true })).canWake id = true := by
    simp only [canWake, TimerThreads.updateWorker, List.any_map, List.any_eq_true]
    exact ⟨w, hwm, by simp [hwid, hw w hwm (hwid ▸ hp)]⟩
  have hawake : ((t.updateWorker id ({ · with due := true })).updateWorker id
      ({ · with stage := .awake })).isAwake id = true := by
    simp only [isAwake, TimerThreads.updateWorker, List.any_map, List.any_eq_true]
    exact ⟨w, hwm, by simp [hwid]⟩
  simp only [fireSteps, TimerThreads.run, TimerThreads.step, hwake, ↓reduceIte, hawake, updateWorker_pending, hp,
    updateWorker_ran]
  -- the three changes to the worker are one
  simp only [TimerThreads.updateWorker, List.map_map]
  congr 2
  funext w
  by_cases hx : w.id = id <;> simp [hx]

/-- Firing a timer leaves every other timer's entry where it was. --/
theorem Inv.mem_pending_fireSteps (hx : x ≠ id) : x ∈ (t.run (fireSteps id)).pending ↔ x ∈ t.pending := by
  rw [h.run_fireSteps hp hw]
  exact h.pending_nodup.mem_erase_iff.trans (and_iff_right hx)

theorem Inv.stateOf?_fireSteps (x : Nat) :
    (t.run (fireSteps id)).stateOf? x = if x = id then some .fired else t.stateOf? x := by
  have hrun := h.run_fireSteps hp hw
  by_cases hx : x = id
  · rw [if_pos hx, hx]
    refine (h.run _).stateOf?_of_ran ?_
    rw [hrun]
    exact List.mem_append_right _ (List.mem_singleton_self _)
  · rw [if_neg hx]
    refine stateOf?_congr (h.mem_pending_fireSteps hp hw hx) ?_ ?_ <;> rw [hrun]
    · simp [hx]
    · exact Iff.rfl

theorem Inv.pendingAsleep_fireSteps : (t.run (fireSteps id)).PendingAsleep := by
  rw [h.run_fireSteps hp hw]
  intro w hwm hwp
  obtain ⟨hne, hwp⟩ := h.pending_nodup.mem_erase_iff.mp hwp
  obtain ⟨w₀, hw₀, rfl⟩ := List.mem_map.mp hwm
  by_cases he : w₀.id = id
  · simp [he] at hne
  · simp only [he, ↓reduceIte] at hwp ⊢
    exact hw w₀ hw₀ hwp

end Firing

/-- Firing timers one after another: each becomes fired, the other timers keep their state, and
    the workers of the timers still pending still sleep. Induction on the timers, each fired by
    `Inv.run_fireSteps`. --/
theorem Inv.run_fireAllSteps (h : t.Inv) {ids : List Nat} (hnd : ids.Nodup) (hp : ∀ x ∈ ids, x ∈ t.pending)
    (hw : t.PendingAsleep) :
    (∀ x, (t.run (fireAllSteps ids)).stateOf? x = if x ∈ ids then some .fired else t.stateOf? x) ∧
    (t.run (fireAllSteps ids)).PendingAsleep ∧
    (t.run (fireAllSteps ids)).handles = t.handles ∧ (t.run (fireAllSteps ids)).nextId = t.nextId := by
  induction ids generalizing t with
  | nil => exact ⟨fun x => by simp [fireAllSteps, TimerThreads.run], hw, rfl, rfl⟩
  | cons id ids ih =>
    obtain ⟨hid, hnd'⟩ := List.nodup_cons.mp hnd
    have hpid : id ∈ t.pending := hp id List.mem_cons_self
    -- the other timers are still pending after the first one fires
    have hp1 : ∀ x ∈ ids, x ∈ (t.run (fireSteps id)).pending := fun x hx =>
      (h.mem_pending_fireSteps hpid hw fun e => hid (e ▸ hx)).mpr (hp x (List.mem_cons_of_mem _ hx))
    obtain ⟨ihs, ihw, ihh, ihn⟩ := ih (h.run _) hnd' hp1 (h.pendingAsleep_fireSteps hpid hw)
    have hrun := h.run_fireSteps hpid hw
    simp only [fireAllSteps, List.flatMap_cons, run_append] at ihs ihw ihh ihn ⊢
    refine ⟨fun x => ?_, ihw, by rw [ihh, hrun]; rfl, by rw [ihn, hrun]; rfl⟩
    rw [ihs x, h.stateOf?_fireSteps hpid hw x]
    by_cases hx : x = id
    · simp [hx]
    · by_cases hxs : x ∈ ids <;> simp [hx, hxs]

end TimerThreads

/-! ### The clock as a schedule of the threads -/

/-- What a caller does with the timers on the clock. --/
inductive ClockOp where
  | schedule (delay : Nat)
  | cancel (id : Nat)
  | waitFired (id timeout : Nat)
deriving DecidableEq, Repr

namespace TimerClock

/-- The clock after a caller's operation. --/
def apply (c : TimerClock) : ClockOp → TimerClock
  | .schedule delay => (c.schedule delay).2
  | .cancel id => c.cancel id
  | .waitFired id timeout => (c.waitFired id timeout).2

/-- The clock after a caller's operations, in order. --/
def runOps (c : TimerClock) : List ClockOp → TimerClock
  | [] => c
  | op :: ops => (c.apply op).runOps ops

end TimerClock

/-- The threads are where the clock's timers are: the same handles and next identifier, the same
    fate for every timer, and the worker of every pending timer still asleep. --/
structure Tracks (c : TimerClock) (t : TimerThreads) : Prop where
  inv : t.Inv
  nextId : t.nextId = c.nextId
  handles : c.timers.map (·.id) = t.handles
  stateOf : ∀ x, t.stateOf? x = c.stateOf? x
  asleep : t.PendingAsleep

theorem tracks_empty : Tracks {} {} where
  inv := TimerThreads.inv_empty
  nextId := rfl
  handles := rfl
  stateOf _ := rfl
  asleep _ hw := nomatch hw

namespace Tracks

variable {c : TimerClock} {t : TimerThreads}

theorem ids_nodup (h : Tracks c t) : (c.timers.map (·.id)).Nodup := h.handles ▸ h.inv.nodup

/-- A timer is pending on the clock exactly when its entry is in the threads' map. --/
theorem mem_pending_iff (h : Tracks c t) {x : Nat} :
    x ∈ t.pending ↔ c.stateOf? x = some .pending := by
  rw [← h.stateOf, TimerThreads.stateOf?_eq_pending_iff]

/-- Scheduling on the clock is the threads' scheduling step. --/
theorem schedule (h : Tracks c t) (delay : Nat) : Tracks (c.schedule delay).2 (t.step .schedule) := by
  -- the next identifier was never handed out
  have hfresh : c.nextId ∉ c.timers.map (·.id) := fun hm =>
    Nat.lt_irrefl _ (h.inv.lt_next _ (h.nextId ▸ h.handles ▸ hm))
  refine ⟨h.inv.step _, ?_, ?_, fun x => ?_, h.inv.pendingAsleep_schedule h.asleep⟩
  · simp [TimerClock.schedule, TimerThreads.step, h.nextId]
  · simp [TimerClock.schedule, TimerThreads.step, h.handles, h.nextId]
  · rw [TimerThreads.stateOf?_schedule, TimerClock.stateOf?_schedule hfresh, h.nextId, h.stateOf]

/-- A cancel on the clock is the threads' cancel. --/
theorem cancel (h : Tracks c t) (id : Nat) : Tracks (c.cancel id) (t.step (.cancel id)) := by
  have hids : (c.cancel id).timers.map (·.id) = c.timers.map (·.id) := by
    simp only [TimerClock.cancel, List.map_map]
    congr 1
    funext e
    simp only [Function.comp_apply]
    split <;> rfl
  refine ⟨h.inv.step _, ?_, ?_, fun x => ?_, h.asleep.cancel id⟩
  · by_cases hp : id ∈ t.pending <;> simp [TimerClock.cancel, TimerThreads.step, hp, h.nextId]
  · by_cases hp : id ∈ t.pending <;> simp [hids, TimerThreads.step, hp, h.handles]
  · rw [h.inv.stateOf?_cancel, TimerClock.stateOf?_cancel, h.stateOf]

/-- When the clock moves on, the workers of the timers falling due fire them, one after another. --/
theorem advance (h : Tracks c t) (time : Nat) :
    Tracks (c.advance time).2 (t.run (TimerThreads.fireAllSteps (c.dueIds time))) := by
  have hnd : (c.dueIds time).Nodup := (List.filter_sublist.map _).nodup h.ids_nodup
  -- each timer falling due is pending on the clock, so its entry is in the map
  have hp : ∀ x ∈ c.dueIds time, x ∈ t.pending := fun x hx => by
    obtain ⟨e, he, hd⟩ := (TimerClock.mem_filter_ids h.ids_nodup).mp hx
    have hs : e.state = .pending := by simp_all
    exact h.mem_pending_iff.mpr (by simp [TimerClock.stateOf?, he, hs])
  obtain ⟨hs, hw, hh, hn⟩ := h.inv.run_fireAllSteps hnd hp h.asleep
  refine ⟨h.inv.run _, by rw [hn, h.nextId]; rfl, ?_, fun x => ?_, hw⟩
  · rw [hh, ← h.handles]
    simp only [TimerClock.advance, List.map_map]
    congr 1
    funext e
    simp only [Function.comp_apply]
    split <;> rfl
  · rw [hs, TimerClock.stateOf?_advance h.ids_nodup, h.stateOf]

/-- A wait on the clock is a run of the threads. --/
theorem waitFired (h : Tracks c t) (id timeout : Nat) :
    ∃ as, Tracks (c.waitFired id timeout).2 (t.run as) := by
  unfold TimerClock.waitFired
  split
  · exact ⟨[], h⟩
  · split
    · exact ⟨_, h.advance _⟩
    · exact ⟨_, h.advance _⟩
  · exact ⟨_, h.advance _⟩

/-- The map holds as many timers as the clock counts pending. --/
theorem pendingCount (h : Tracks c t) : t.pendingCount = c.pendingCount := by
  -- both lists hold, without repeats, the timers pending on the clock
  have hl : (c.timers.filter (·.state = .pending)).map (·.id) |>.Nodup :=
    (List.filter_sublist.map _).nodup h.ids_nodup
  have hperm : t.pending.Perm ((c.timers.filter (·.state = .pending)).map (·.id)) := by
    refine (List.perm_ext_iff_of_nodup h.inv.pending_nodup hl).mpr fun x => ?_
    rw [h.mem_pending_iff, TimerClock.mem_filter_ids h.ids_nodup]
    simp [TimerClock.stateOf?]
  simpa [TimerThreads.pendingCount, TimerClock.pendingCount] using hperm.length_eq

theorem apply (h : Tracks c t) (op : ClockOp) : ∃ as, Tracks (c.apply op) (t.run as) := by
  cases op with
  | schedule delay => exact ⟨[.schedule], h.schedule delay⟩
  | cancel id => exact ⟨[.cancel id], h.cancel id⟩
  | waitFired id timeout => exact h.waitFired id timeout

/-- Every run of the clock is tracked by a run of the threads; induction on the operations, each
    one matched by the steps `Tracks.apply` gives. --/
theorem runOps (h : Tracks c t) (ops : List ClockOp) : ∃ as, Tracks (c.runOps ops) (t.run as) := by
  induction ops generalizing c t with
  | nil => exact ⟨[], h⟩
  | cons op ops ih =>
    obtain ⟨as, ha⟩ := h.apply op
    obtain ⟨bs, hb⟩ := ih ha
    exact ⟨as ++ bs, by rw [TimerThreads.run_append]; exact hb⟩

end Tracks

/-- Whatever a caller does with the timers on the clock, some interleaving of the worker threads
    gives out the same handles, leaves every timer with the same fate, and keeps as many timers
    pending. --/
theorem clock_runs_are_thread_runs (ops : List ClockOp) :
    ∃ as, (({} : TimerThreads).run as).handles = (({} : TimerClock).runOps ops).timers.map (·.id) ∧
      (∀ x, (({} : TimerThreads).run as).stateOf? x = (({} : TimerClock).runOps ops).stateOf? x) ∧
      (({} : TimerThreads).run as).pendingCount = (({} : TimerClock).runOps ops).pendingCount := by
  obtain ⟨as, h⟩ := tracks_empty.runOps ops
  exact ⟨as, h.handles.symm, h.stateOf, h.pendingCount⟩

end LiveMigration
