import LiveMigration.Log.Record

/-! What a computation may end in. A result meets a pair of conditions when it is a value meeting the
    first or a fault meeting the second; a computation that writes log records meets them when its
    result does whatever was written before it. The records never steer a computation here, so the
    conditions compose through `bind`, carry over a fold as an invariant of its accumulator, and hold
    of the result of a run. -/

namespace LiveMigration

/-- The result is a value meeting `ok`, or a fault meeting `err`. --/
def Meets {ε α : Type} (r : Except ε α) (ok : α → Prop) (err : ε → Prop) : Prop :=
  match r with
  | .ok a => ok a
  | .error e => err e

section Meets
variable {ε α β : Type} {ok : α → Prop} {err : ε → Prop}

@[simp]
theorem meets_ok {a : α} : Meets (.ok a : Except ε α) ok err ↔ ok a := Iff.rfl

@[simp]
theorem meets_error {e : ε} : Meets (.error e : Except ε α) ok err ↔ err e := Iff.rfl

@[simp]
theorem meets_throw {e : ε} : Meets (throw e : Except ε α) ok err ↔ err e := Iff.rfl

@[simp]
theorem meets_throw_bind {e : ε} {f : α → Except ε β} {ok' : β → Prop} : Meets (throw e >>= f) ok' err ↔ err e :=
  Iff.rfl

@[simp]
theorem mapError_ok {ε' : Type} {a : α} {f : ε → ε'} : (Except.ok a : Except ε α).mapError f = .ok a := rfl

@[simp]
theorem mapError_error {ε' : Type} {e : ε} {f : ε → ε'} : (Except.error e : Except ε α).mapError f = .error (f e) :=
  rfl

theorem meets_bind {x : Except ε α} {f : α → Except ε β} {ok₁ : α → Prop} {ok₂ : β → Prop}
    (hx : Meets x ok₁ err) (hf : ∀ a, ok₁ a → Meets (f a) ok₂ err) : Meets (x >>= f) ok₂ err := by
  cases x with
  | ok a => exact hf a hx
  | error e => exact hx

theorem Meets.mono {r : Except ε α} {ok' : α → Prop} {err' : ε → Prop} (h : Meets r ok err)
    (hok : ∀ a, ok a → ok' a) (herr : ∀ e, err e → err' e) : Meets r ok' err' := by
  cases r with
  | ok a => exact hok a h
  | error e => exact herr e h

theorem Meets.of_eq_ok {r : Except ε α} {a : α} (h : Meets r ok err) (hr : r = .ok a) : ok a := by
  subst hr
  exact h

theorem Meets.eq_ok {r : Except ε α} {a : α} (h : Meets r (· = a) fun _ => False) : r = .ok a := by
  cases r with
  | ok b => exact congrArg Except.ok h
  | error e => exact h.elim

/-- A fold meets an invariant indexed by the elements already folded, when each step takes it
    from the elements before one to those up to it. --/
theorem meets_foldlM_indexed {γ : Type} {I : List γ → β → Prop} {f : β → γ → Except ε β} {init : β}
    (l : List γ) (hinit : I [] init)
    (hstep : ∀ pre c post b, l = pre ++ c :: post → I pre b → Meets (f b c) (I (pre ++ [c])) err) :
    Meets (l.foldlM f init) (I l) err := by
  -- the fold of what is left, from the elements `pre` already folded
  suffices h : ∀ pre rest b, l = pre ++ rest → I pre b → Meets (rest.foldlM f b) (I l) err from
    h [] l init rfl hinit
  intro pre rest
  induction rest generalizing pre with
  | nil =>
    intro b hl hb
    rw [hl, List.append_nil]
    exact hb
  | cons c rest ih =>
    intro b hl hb
    rw [List.foldlM_cons]
    exact meets_bind (hstep pre c rest b hl hb) fun b' hb' => ih (pre ++ [c]) b' (by simp [hl]) hb'

end Meets

namespace Log

/-- Whatever was written before it, the computation ends in a value meeting `ok` or a fault meeting
    `err`. --/
def Told.Meets {ε α : Type} (x : Told ε α) (ok : α → Prop) (err : ε → Prop) : Prop :=
  ∀ rs, LiveMigration.Meets ((ExceptT.run x).run rs).1 ok err

namespace Told
variable {ε α β : Type} {ok : α → Prop} {err : ε → Prop}

theorem meets_pure {a : α} (h : ok a) : Told.Meets (pure a : Told ε α) ok err := fun _ => h

theorem meets_throw {e : ε} (h : err e) : Told.Meets (throw e : Told ε α) ok err := fun _ => h

theorem meets_ofExcept {x : Except ε α} (h : LiveMigration.Meets x ok err) : Told.Meets (Told.ofExcept x) ok err :=
  fun _ => h

theorem meets_ofExcept_ok {x : Except ε α} {a : α} (h : x = .ok a) : Told.Meets (Told.ofExcept x) (· = a) err :=
  meets_ofExcept (by rw [h]; rfl)

theorem meets_tell (r : Record) : Told.Meets (tell r : Told ε Unit) (fun _ => True) err :=
  fun _ => trivial

theorem meets_bind {x : Told ε α} {f : α → Told ε β} {ok₁ : α → Prop} {ok₂ : β → Prop}
    (hx : Told.Meets x ok₁ err) (hf : ∀ a, ok₁ a → Told.Meets (f a) ok₂ err) : Told.Meets (x >>= f) ok₂ err := by
  intro rs
  have h := hx rs
  simp only [ExceptT.run_bind, StateT.run_bind]
  revert h
  rcases (ExceptT.run x).run rs with ⟨r, rs'⟩
  cases r with
  | ok a => exact fun h => hf a h rs'
  | error e => exact id

/-- The fold meets an invariant indexed by the elements already folded. --/
theorem meets_foldlM_indexed {γ : Type} {I : List γ → β → Prop} {f : β → γ → Told ε β} {init : β}
    (l : List γ) (hinit : I [] init)
    (hstep : ∀ pre c post b, l = pre ++ c :: post → I pre b → Told.Meets (f b c) (I (pre ++ [c])) err) :
    Told.Meets (l.foldlM f init) (I l) err := by
  suffices h : ∀ pre rest b, l = pre ++ rest → I pre b → Told.Meets (rest.foldlM f b) (I l) err from
    h [] l init rfl hinit
  intro pre rest
  induction rest generalizing pre with
  | nil =>
    intro b hl hb
    rw [hl, List.append_nil]
    exact meets_pure hb
  | cons c rest ih =>
    intro b hl hb
    rw [List.foldlM_cons]
    exact meets_bind (hstep pre c rest b hl hb) fun b' hb' => ih (pre ++ [c]) b' (by simp [hl]) hb'

/-- An invariant of the accumulator that every step keeps holds at the end of the fold. --/
theorem meets_foldlM {γ : Type} {I : β → Prop} {f : β → γ → Told ε β} {init : β} (l : List γ) (hinit : I init)
    (hstep : ∀ b c, c ∈ l → I b → Told.Meets (f b c) I err) : Told.Meets (l.foldlM f init) I err :=
  meets_foldlM_indexed (I := fun _ b => I b) l hinit fun pre c post b hl hb =>
    hstep b c (by simp [hl]) hb

theorem Meets.run {x : Told ε α} (h : Told.Meets x ok err) : LiveMigration.Meets x.run.2 ok err := h []

end Told
end Log
end LiveMigration
