import LiveMigration.TimerThreads

/-! Firing and cancelling race through the scheduler's map, and exactly one of them wins. Along any
    interleaving of scheduling, cancels and worker steps, every handle given out is in exactly one
    place: pending in the map, fired, or cancelled (`Inv.parts`). From this: handles are distinct,
    a callback runs at most once and only in the step where its own worker takes the entry out of
    the map, a cancel that took the entry out keeps the callback from ever running, a cancel after
    the callback ran changes nothing, and the size of the map is the number of handles that neither
    fired nor were cancelled.

    `Inv` is stated once, kept by each step (`Inv.step`) and so by every run (`Inv.run`). -/

namespace LiveMigration

namespace TimerThreads

/-! ### Moving an entry out of the map -/

section Moves
variable {p r c : List Nat} {x : Nat}

/-- Taking a pending entry out of the map and counting it as fired keeps the three places a
    rearrangement of the same identifiers. --/
theorem perm_fire (hx : x ∈ p) : (p ++ r ++ c).Perm (p.erase x ++ (r ++ [x]) ++ c) :=
  calc (p ++ r ++ c).Perm (x :: (p.erase x ++ r ++ c)) :=
        ((List.perm_cons_erase hx).append_right r).append_right c
    _ = ([x] ++ (p.erase x ++ r)) ++ c := rfl
    List.Perm _ ((p.erase x ++ r ++ [x]) ++ c) := List.perm_append_comm.append_right c
    _ = p.erase x ++ (r ++ [x]) ++ c := by rw [List.append_assoc (p.erase x)]

/-- Taking a pending entry out of the map and counting it as cancelled keeps the three places a
    rearrangement of the same identifiers. --/
theorem perm_cancel (hx : x ∈ p) : (p ++ r ++ c).Perm (p.erase x ++ r ++ (c ++ [x])) :=
  calc (p ++ r ++ c).Perm (x :: (p.erase x ++ r ++ c)) :=
        ((List.perm_cons_erase hx).append_right r).append_right c
    _ = [x] ++ (p.erase x ++ r ++ c) := rfl
    List.Perm _ (p.erase x ++ r ++ c ++ [x]) := List.perm_append_comm
    _ = p.erase x ++ r ++ (c ++ [x]) := List.append_assoc _ _ _

end Moves

/-! ### The invariant -/

/-- What every reachable state keeps: the handles given out are distinct and below the next
    identifier, each of them is in exactly one of the three places, and each has its worker, in
    the order the handles were given out. --/
structure Inv (t : TimerThreads) : Prop where
  nodup : t.handles.Nodup
  lt_next : ∀ h ∈ t.handles, h < t.nextId
  parts : t.handles.Perm (t.pending ++ t.ran ++ t.cancelled)
  workers : t.workers.map (·.id) = t.handles

theorem inv_empty : Inv {} := ⟨List.nodup_nil, nofun, List.Perm.refl _, rfl⟩

variable {t : TimerThreads}

theorem Inv.parts_nodup (h : t.Inv) : (t.pending ++ t.ran ++ t.cancelled).Nodup :=
  h.parts.nodup_iff.mp h.nodup

theorem Inv.ran_nodup (h : t.Inv) : t.ran.Nodup :=
  (List.nodup_append.mp (List.nodup_append.mp h.parts_nodup).1).2.1

theorem Inv.pending_nodup (h : t.Inv) : t.pending.Nodup :=
  (List.nodup_append.mp (List.nodup_append.mp h.parts_nodup).1).1

/-- A timer that fired was not cancelled. --/
theorem Inv.not_cancelled_of_ran (h : t.Inv) {x : Nat} (hx : x ∈ t.ran) : x ∉ t.cancelled := fun hc =>
  (List.nodup_append.mp h.parts_nodup).2.2 x (List.mem_append_right _ hx) x hc rfl

/-- A timer that fired is no longer pending. --/
theorem Inv.not_pending_of_ran (h : t.Inv) {x : Nat} (hx : x ∈ t.ran) : x ∉ t.pending := fun hp =>
  (List.nodup_append.mp (List.nodup_append.mp h.parts_nodup).1).2.2 x hp x hx rfl

/-- A pending timer has neither fired nor been cancelled. --/
theorem Inv.not_removed_of_pending (h : t.Inv) {x : Nat} (hx : x ∈ t.pending) : x ∉ t.ran ∧ x ∉ t.cancelled :=
  ⟨fun hr => h.not_pending_of_ran hr hx,
    fun hc => (List.nodup_append.mp h.parts_nodup).2.2 x (List.mem_append_left _ hx) x hc rfl⟩

/-- Changing a worker without changing its identifier keeps the invariant. --/
theorem Inv.updateWorker (h : t.Inv) (id : Nat) {f : Worker → Worker} (hf : ∀ w, (f w).id = w.id) :
    (t.updateWorker id f).Inv :=
  ⟨h.nodup, h.lt_next, h.parts, (t.updateWorker_ids id hf).trans h.workers⟩

theorem Inv.schedule (h : t.Inv) : (t.step .schedule).Inv := by
  have hfresh : t.nextId ∉ t.handles := fun hm => Nat.lt_irrefl _ (h.lt_next _ hm)
  refine ⟨?_, ?_, ?_, ?_⟩
  · exact List.nodup_append.mpr ⟨h.nodup, List.nodup_cons.mpr ⟨List.not_mem_nil, List.nodup_nil⟩,
      fun a ha b hb => by rw [List.mem_singleton.mp hb]; exact fun e => hfresh (e ▸ ha)⟩
  · intro x hx
    rcases List.mem_append.mp hx with hx | hx
    · exact Nat.lt_succ_of_lt (h.lt_next x hx)
    · rw [List.mem_singleton.mp hx]
      exact Nat.lt_succ_self _
  · -- the new identifier goes to the map: move it past the fired and the cancelled timers
    show (t.handles ++ [t.nextId]).Perm (t.pending ++ [t.nextId] ++ t.ran ++ t.cancelled)
    calc (t.handles ++ [t.nextId]).Perm (t.pending ++ (t.ran ++ t.cancelled) ++ [t.nextId]) := by
          rw [← List.append_assoc]
          exact h.parts.append_right _
      _ = t.pending ++ ((t.ran ++ t.cancelled) ++ [t.nextId]) := List.append_assoc _ _ _
      List.Perm _ (t.pending ++ ([t.nextId] ++ (t.ran ++ t.cancelled))) := List.perm_append_comm.append_left _
      _ = t.pending ++ [t.nextId] ++ t.ran ++ t.cancelled := by simp only [List.append_assoc]
  · simp [step, h.workers]

theorem Inv.cancel (h : t.Inv) (id : Nat) : (t.step (.cancel id)).Inv := by
  simp only [step]
  split
  · next hp =>
    have hw := h.updateWorker id (f := ({ · with signalled := true })) fun _ => rfl
    exact ⟨h.nodup, h.lt_next, h.parts.trans (perm_cancel hp), hw.workers⟩
  · exact h

theorem Inv.finish (h : t.Inv) (id : Nat) : (t.step (.finish id)).Inv := by
  simp only [step]
  split
  · have hw := h.updateWorker id (f := ({ · with stage := .exited })) fun _ => rfl
    split
    · next hp => exact ⟨h.nodup, h.lt_next, h.parts.trans (perm_fire hp), hw.workers⟩
    · exact hw
  · exact h

theorem Inv.step (h : t.Inv) (a : TimerAction) : (t.step a).Inv := by
  cases a with
  | schedule => exact h.schedule
  | scheduleFails => exact ⟨h.nodup, fun x hx => Nat.lt_succ_of_lt (h.lt_next x hx), h.parts, h.workers⟩
  | cancel id => exact h.cancel id
  | elapse id => exact h.updateWorker id fun _ => rfl
  | wake id =>
    simp only [TimerThreads.step]
    split
    · exact h.updateWorker id fun _ => rfl
    · exact h
  | finish id => exact h.finish id

theorem Inv.run (h : t.Inv) (as : List TimerAction) : (t.run as).Inv := by
  induction as generalizing t with
  | nil => exact h
  | cons a as ih => exact ih (h.step a)

/-! ### Who wins the race -/

/-- A timer joins the fired ones only in the step where its own worker, awake, finds its entry
    still in the map and takes it out: the callback runs exactly then. --/
theorem mem_step_ran {a : TimerAction} {x : Nat} :
    x ∈ (t.step a).ran ↔ x ∈ t.ran ∨ (a = .finish x ∧ t.isAwake x = true ∧ x ∈ t.pending) := by
  cases a with
  | finish id =>
    simp only [step, TimerAction.finish.injEq]
    split
    · next hw =>
      split
      · next hp =>
        simp only [List.mem_append, List.mem_singleton]
        constructor
        · rintro (hr | rfl)
          · exact Or.inl hr
          · exact Or.inr ⟨rfl, hw, hp⟩
        · rintro (hr | ⟨rfl, -, -⟩)
          · exact Or.inl hr
          · exact Or.inr rfl
      · next hp =>
        refine ⟨Or.inl, ?_⟩
        rintro (hr | ⟨rfl, -, hp'⟩)
        · exact hr
        · exact absurd hp' hp
    · next hw =>
      refine ⟨Or.inl, ?_⟩
      rintro (hr | ⟨rfl, hw', -⟩)
      · exact hr
      · exact absurd hw' hw
  | cancel id =>
    simp only [step]
    split <;> simp
  | wake id =>
    simp only [step]
    split <;> simp
  | schedule | scheduleFails | elapse => simp [step]

/-- Cancels only ever add to the cancelled timers. --/
theorem cancelled_prefix_step (a : TimerAction) : t.cancelled <+: (t.step a).cancelled := by
  cases a with
  | cancel id =>
    simp only [step]
    split
    · exact List.prefix_append _ _
    · exact List.prefix_refl _
  | finish id =>
    simp only [step]
    split
    · split <;> exact List.prefix_refl _
    · exact List.prefix_refl _
  | wake id =>
    simp only [step]
    split <;> exact List.prefix_refl _
  | schedule | scheduleFails | elapse => exact List.prefix_refl _

theorem cancelled_prefix_run (as : List TimerAction) : t.cancelled <+: (t.run as).cancelled := by
  induction as generalizing t with
  | nil => exact List.prefix_refl _
  | cons a as ih => exact (cancelled_prefix_step a).trans ih

/-- Once a cancel took a timer's entry out of the map, its callback never runs, whatever follows. --/
theorem Inv.never_ran_of_cancelled (h : t.Inv) {x : Nat} (hx : x ∈ t.cancelled) (as : List TimerAction) :
    x ∉ (t.run as).ran := fun hr =>
  (h.run as).not_cancelled_of_ran hr ((cancelled_prefix_run as).subset hx)

/-- A cancel of a timer that already fired changes nothing. --/
theorem Inv.cancel_of_ran (h : t.Inv) {x : Nat} (hx : x ∈ t.ran) : t.step (.cancel x) = t := by
  simp only [TimerThreads.step, h.not_pending_of_ran hx, ↓reduceIte]

/-- The map holds exactly the handles that neither fired nor were cancelled. --/
theorem Inv.pendingCount_eq (h : t.Inv) :
    t.pendingCount = (t.handles.filter fun x => x ∉ t.ran ∧ x ∉ t.cancelled).length := by
  have hpending : t.pending.filter (fun x => x ∉ t.ran ∧ x ∉ t.cancelled) = t.pending :=
    List.filter_eq_self.mpr fun x hx => decide_eq_true (h.not_removed_of_pending hx)
  have hran : t.ran.filter (fun x => x ∉ t.ran ∧ x ∉ t.cancelled) = [] :=
    List.filter_eq_nil_iff.mpr fun x hx hp => (of_decide_eq_true hp).1 hx
  have hcancelled : t.cancelled.filter (fun x => x ∉ t.ran ∧ x ∉ t.cancelled) = [] :=
    List.filter_eq_nil_iff.mpr fun x hx hp => (of_decide_eq_true hp).2 hx
  rw [(h.parts.filter _).length_eq, List.filter_append, List.filter_append, hpending, hran, hcancelled,
    List.append_nil, List.append_nil, pendingCount]

/-- Firing and cancelling race through the map, along any interleaving of scheduling, cancels and
    worker steps from a new scheduler. The handles given out are distinct. A callback runs at most
    once, and only in the step where its own worker, awake, still finds the entry in the map and
    takes it out. A fired timer was not cancelled; once a cancel took the entry out, the callback
    never runs; a cancel after the callback ran changes nothing. The map holds exactly the handles
    that neither fired nor were cancelled. --/
theorem timer_race_one_winner (as : List TimerAction) :
    let t := ({} : TimerThreads).run as
    t.handles.Nodup ∧
    t.ran.Nodup ∧
    (∀ a x, x ∈ (t.step a).ran ↔ x ∈ t.ran ∨ (a = .finish x ∧ t.isAwake x = true ∧ x ∈ t.pending)) ∧
    (∀ x ∈ t.ran, x ∉ t.cancelled) ∧
    (∀ x ∈ t.cancelled, ∀ bs, x ∉ (t.run bs).ran) ∧
    (∀ x ∈ t.ran, t.step (.cancel x) = t) ∧
    t.pendingCount = (t.handles.filter fun x => x ∉ t.ran ∧ x ∉ t.cancelled).length := by
  intro t
  have h : t.Inv := inv_empty.run as
  exact ⟨h.nodup, h.ran_nodup, fun _ _ => mem_step_ran, fun _ => h.not_cancelled_of_ran,
    fun _ hx bs => h.never_ran_of_cancelled hx bs, fun _ => h.cancel_of_ran, h.pendingCount_eq⟩

end TimerThreads

end LiveMigration
