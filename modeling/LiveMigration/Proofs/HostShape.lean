import LiveMigration.Host

/-! Writing to a file changes what it holds, never where a path leads. Two hosts have the same shape
    when they have the same working directory and, at every place, entries that differ at most in
    the bytes of a regular file (`SameShape`). A walk on two such hosts ends on the same places with
    entries of the same shape, or fails the same way on both, so a file opens, or fails to open,
    alike on both. Writing through a handle, appending, and printing to a standard stream keep the
    shape of a host.

    A walk also ends on what the host holds: the entry it ends on is the one at its place, and a
    free name it ends on is below the root (`Spot.Sound`). -/

namespace LiveMigration

@[simp]
theorem exceptMap_ok {ε α β : Type} {f : α → β} {a : α} : (Except.ok a : Except ε α).map f = .ok (f a) := rfl

@[simp]
theorem exceptMap_error {ε α β : Type} {f : α → β} {e : ε} : (Except.error e : Except ε α).map f = .error e := rfl

namespace Entry

/-- An entry with the bytes of a regular file forgotten. --/
def shape : Entry → Entry
  | .file _ => .file []
  | e => e

@[simp]
theorem isDirectory_shape (e : Entry) : e.shape.isDirectory = e.isDirectory := by
  cases e <;> rfl

@[simp]
theorem opened_shape (e : Entry) : e.shape.opened = e.opened := by
  cases e <;> rfl

/-- An entry that is no regular file is its own shape, and the only entry of that shape. --/
theorem eq_of_shape_eq {e e' : Entry} (h : e.shape = e'.shape) (hfile : ∀ b, e ≠ .file b) : e = e' := by
  cases e <;> cases e' <;> simp_all [shape]

theorem ne_of_shape_eq {e e' x : Entry} (h : e.shape = e'.shape) (hx : ∀ b, x ≠ .file b) (hne : e ≠ x) :
    e' ≠ x := by
  rintro rfl
  exact hne (eq_of_shape_eq h.symm hx).symm

theorem eq_full_iff_of_shape_eq {e e' : Entry} (h : e.shape = e'.shape) : e = .full ↔ e' = .full := by
  cases e <;> cases e' <;> simp_all [shape]

theorem isDirectory_of_shape_eq {e e' : Entry} (h : e.shape = e'.shape) : e'.isDirectory = e.isDirectory := by
  rw [← isDirectory_shape e', ← h, isDirectory_shape]

end Entry

/-- A spot with the bytes of the regular file it stands on forgotten. --/
def Spot.shape : Spot → Spot
  | .found p e => .found p e.shape
  | .free p b => .free p b

theorem Spot.eq_of_shape_free {s : Spot} {p : Place} {b : Bool} (h : (Spot.free p b).shape = s.shape) :
    s = .free p b := by
  cases s <;> simp_all [Spot.shape]

theorem Spot.exists_of_shape_found {s : Spot} {p : Place} {e : Entry} (h : (Spot.found p e).shape = s.shape) :
    ∃ e', s = .found p e' ∧ e.shape = e'.shape := by
  cases s <;> simp_all [Spot.shape]

/-- A spot that agrees with the host: its place holds the entry it stands on, or it is a free name
    below the root. --/
def Spot.Sound (s : Spot) (h : Host) : Prop :=
  match s with
  | .found p e => e = (h.entry? p).getD .directory
  | .free p _ => p ≠ []

namespace Host

/-- The same working directory, and entries of the same shape at the same places. --/
structure SameShape (h h' : Host) : Prop where
  cwd : h.cwd = h'.cwd
  entry : ∀ p, (h.entry? p).map Entry.shape = (h'.entry? p).map Entry.shape

namespace SameShape

theorem refl (h : Host) : h.SameShape h := ⟨rfl, fun _ => rfl⟩

theorem symm {h h' : Host} (hs : h.SameShape h') : h'.SameShape h := ⟨hs.cwd.symm, fun p => (hs.entry p).symm⟩

theorem trans {h h' h'' : Host} (hs : h.SameShape h') (hs' : h'.SameShape h'') : h.SameShape h'' :=
  ⟨hs.cwd.trans hs'.cwd, fun p => (hs.entry p).trans (hs'.entry p)⟩

section
variable {h h' : Host} (hs : h.SameShape h') {p : Place}
include hs

theorem entry_none (he : h.entry? p = none) : h'.entry? p = none := by
  simpa [he] using (hs.entry p).symm

theorem entry_some {e : Entry} (he : h.entry? p = some e) : ∃ e', h'.entry? p = some e' ∧ e.shape = e'.shape := by
  have hp := hs.entry p
  rw [he] at hp
  cases he' : h'.entry? p with
  | none => simp [he'] at hp
  | some e' => exact ⟨e', rfl, by simpa [he'] using hp⟩

theorem found_getD (q : Place) :
    (Spot.found q ((h.entry? q).getD .directory)).shape = (Spot.found q ((h'.entry? q).getD .directory)).shape := by
  cases he : h.entry? q with
  | none => simp [Spot.shape, hs.entry_none he]
  | some e =>
    obtain ⟨e', he', hee⟩ := hs.entry_some he
    simp [Spot.shape, he', hee]

theorem parentSpot (p : Place) : (h.parentSpot p).shape = (h'.parentSpot p).shape :=
  hs.found_getD p.dropLast

/-- A walk on hosts of the same shape, from spots of the same shape, ends alike. --/
theorem walkFrom (n : Nat) (s : Spot) (names : List String) :
    ∀ s', s.shape = s'.shape → (h.walkFrom n s names).map Spot.shape = (h'.walkFrom n s' names).map Spot.shape := by
  fun_induction h.walkFrom n s names with
  | case1 links s =>
    intro s' hss
    rw [Host.walkFrom]
    exact congrArg Except.ok hss
  | case2 links rest p b ih =>
    intro s' hss
    obtain rfl := Spot.eq_of_shape_free hss
    conv => rhs; rw [Host.walkFrom]
    exact ih _ rfl
  | case3 links name rest p b hname =>
    intro s' hss
    obtain rfl := Spot.eq_of_shape_free hss
    conv => rhs; rw [Host.walkFrom]
    simp [hname]
  | case4 links name rest p e hdir =>
    intro s' hss
    obtain ⟨e', rfl, he⟩ := Spot.exists_of_shape_found hss
    have hd := Entry.isDirectory_of_shape_eq he
    conv => rhs; rw [Host.walkFrom]
    simp [hd, hdir]
  | case5 links name rest p e hdir hname ih =>
    intro s' hss
    obtain ⟨e', rfl, he⟩ := Spot.exists_of_shape_found hss
    have hd := Entry.isDirectory_of_shape_eq he
    conv => rhs; rw [Host.walkFrom]
    simp only [hd, hdir, hname]
    exact ih _ hss
  | case6 links rest p e hdir hname ih =>
    intro s' hss
    obtain ⟨e', rfl, he⟩ := Spot.exists_of_shape_found hss
    have hd := Entry.isDirectory_of_shape_eq he
    conv => rhs; rw [Host.walkFrom]
    simp only [hd, hdir, hname]
    exact ih _ (hs.parentSpot p)
  | case7 links name rest p e hdir hname hdots hlong =>
    intro s' hss
    obtain ⟨e', rfl, he⟩ := Spot.exists_of_shape_found hss
    have hd := Entry.isDirectory_of_shape_eq he
    conv => rhs; rw [Host.walkFrom]
    simp [hd, hdir, hname, hdots, hlong]
  | case8 name rest p e hdir hname hdots hlong target hlink =>
    intro s' hss
    obtain ⟨e', rfl, he⟩ := Spot.exists_of_shape_found hss
    have hd := Entry.isDirectory_of_shape_eq he
    obtain ⟨l, hl, hll⟩ := hs.entry_some hlink
    obtain rfl := (Entry.eq_of_shape_eq hll (by simp)).symm
    conv => rhs; rw [Host.walkFrom]
    simp [hd, hdir, hname, hdots, hlong, hl]
  | case9 name rest p e hdir hname hdots hlong target hlink k start ih =>
    intro s' hss
    obtain ⟨e', rfl, he⟩ := Spot.exists_of_shape_found hss
    have hd := Entry.isDirectory_of_shape_eq he
    obtain ⟨l, hl, hll⟩ := hs.entry_some hlink
    obtain rfl := (Entry.eq_of_shape_eq hll (by simp)).symm
    conv => rhs; rw [Host.walkFrom]
    simp only [hd, hdir, hname, hdots, hlong, hl]
    refine ih _ ?_
    by_cases ht : target.startsWith "/" = true <;> simp [start, ht, Spot.shape, he]
  | case10 links name rest p e hdir hname hdots hlong e₁ hnot hentry ih =>
    intro s' hss
    obtain ⟨e', rfl, he⟩ := Spot.exists_of_shape_found hss
    have hd := Entry.isDirectory_of_shape_eq he
    obtain ⟨e₂, he₂, hee⟩ := hs.entry_some hentry
    have hnot₂ : ∀ t, e₂ = .link t → False := fun t => Entry.ne_of_shape_eq hee (by simp) (hnot t)
    conv => rhs; rw [Host.walkFrom]
    simp only [hd, hdir, hname, hdots, hlong, he₂, if_false]
    exact ih _ (by simp [Spot.shape, hee])
  | case11 links name rest p hname hdots hlong hnone hdir =>
    intro s' hss
    obtain ⟨e', rfl, he⟩ := Spot.exists_of_shape_found hss
    obtain rfl := Entry.eq_of_shape_eq he (by simp)
    conv => rhs; rw [Host.walkFrom]
    simp [hname, hdots, hlong, hs.entry_none hnone, Entry.isDirectory]
  | case12 links name rest p e hdir hname hdots hlong hnone hsys ih =>
    intro s' hss
    obtain ⟨e', rfl, he⟩ := Spot.exists_of_shape_found hss
    have hd := Entry.isDirectory_of_shape_eq he
    have hsys' : ¬e' = .systemDirectory := Entry.ne_of_shape_eq he (by simp) hsys
    conv => rhs; rw [Host.walkFrom]
    simp only [hd, hdir, hname, hdots, hlong, hs.entry_none hnone, hsys', if_false]
    exact ih _ rfl

theorem walk (path : String) : (h.walk path).map Spot.shape = (h'.walk path).map Spot.shape := by
  unfold Host.walk
  split
  · rfl
  split
  · rfl
  rw [hs.cwd]
  exact hs.walkFrom _ _ _ _ (hs.found_getD _)

variable {path : String}

theorem walk_error {e : OsError} (hw : h.walk path = .error e) : h'.walk path = .error e := by
  have hm := hs.walk path
  rw [hw] at hm
  cases hw' : h'.walk path with
  | error e' =>
    rw [hw'] at hm
    have hee : e = e' := Except.error.inj (show (Except.error e : Except OsError Spot) = .error e' from hm)
    rw [hee]
  | ok s' => rw [hw'] at hm; cases hm

theorem walk_found {q : Place} {e : Entry} (hw : h.walk path = .ok (.found q e)) :
    ∃ e', h'.walk path = .ok (.found q e') ∧ e.shape = e'.shape := by
  have hm := hs.walk path
  rw [hw] at hm
  cases hw' : h'.walk path with
  | error e' => rw [hw'] at hm; cases hm
  | ok s' =>
    rw [hw'] at hm
    obtain ⟨e', rfl, he⟩ := Spot.exists_of_shape_found (Except.ok.inj hm)
    exact ⟨e', rfl, he⟩

theorem walk_free {q : Place} {b : Bool} (hw : h.walk path = .ok (.free q b)) : h'.walk path = .ok (.free q b) := by
  have hm := hs.walk path
  rw [hw] at hm
  cases hw' : h'.walk path with
  | error e' => rw [hw'] at hm; cases hm
  | ok s' =>
    rw [hw'] at hm
    rw [Spot.eq_of_shape_free (Except.ok.inj hm)]

end

end SameShape

/-! ### Walks end on what the host holds -/

theorem sound_walkFrom {h : Host} (n : Nat) (s : Spot) (names : List String) :
    s.Sound h → ∀ s', h.walkFrom n s names = .ok s' → s'.Sound h := by
  fun_induction h.walkFrom n s names with
  | case1 links s =>
    intro hs s' hw
    cases hw
    exact hs
  | case2 links rest p b ih => exact fun hs => ih hs
  | case5 links name rest p e hdir hname ih => exact ih
  | case6 links rest p e hdir hname ih => exact fun _ => ih rfl
  | case9 name rest p e hdir hname hdots hlong target hlink k start ih =>
    intro hs
    refine ih ?_
    by_cases ht : target.startsWith "/" = true
    · simp only [start, ht, dite_true]
      rfl
    · simpa [start, ht] using hs
  | case10 links name rest p e hdir hname hdots hlong e₁ hnot hentry ih =>
    exact fun _ => ih (by rw [Spot.Sound, hentry]; rfl)
  | case12 links name rest p e hdir hname hdots hlong hnone hsys ih => exact fun _ => ih (by simp [Spot.Sound])
  | _ => intro _ s' hw; cases hw

theorem sound_walk {h : Host} {path : String} {s : Spot} (hw : h.walk path = .ok s) : s.Sound h := by
  unfold Host.walk at hw
  split at hw
  · cases hw
  split at hw
  · cases hw
  exact sound_walkFrom _ _ _ (by simp [Spot.Sound]) s hw

/-- An entry a walk ends on that can be opened is the entry at its place. --/
theorem entry?_of_walk_found {h : Host} {path : String} {p : Place} {e : Entry}
    (hw : h.walk path = .ok (.found p e)) (ho : e.opened = .ok ()) : h.entry? p = some e := by
  have hs : e = (h.entry? p).getD .directory := sound_walk hw
  cases he : h.entry? p with
  | none =>
    rw [he] at hs
    subst hs
    cases ho
  | some e' =>
    rw [he] at hs
    rw [hs]
    rfl

/-! ### Writes keep the shape -/

theorem entry?_of_ne_nil (h : Host) {p : Place} (hp : p ≠ []) : h.entry? p = (h.entries.find? (·.1 = p)).map (·.2) := by
  unfold Host.entry?
  rw [if_neg hp]

theorem put_entries (h : Host) (p : Place) (e : Entry) :
    (h.put p e).entries = if (h.entries.find? (·.1 = p)).isSome then h.entries.map (fun q => if q.1 = p then (p, e) else q)
      else h.entries ++ [(p, e)] := by
  unfold put
  split <;> rfl

/-- Replacing the entry at `p` leaves the other places alone, and finds the new entry at `p`. --/
theorem find?_put_entries (h : Host) (p q : Place) (e : Entry) :
    (h.put p e).entries.find? (·.1 = q) = if q = p then some (p, e) else h.entries.find? (·.1 = q) := by
  rw [put_entries]
  split
  · rename_i hfound
    rw [List.find?_map]
    -- the replacement keeps the first component, so it meets the same places
    have hpred : ((fun r : Place × Entry => decide (r.1 = q)) ∘ fun r => if r.1 = p then (p, e) else r) =
        fun r => decide (r.1 = q) := by
      funext r
      by_cases hr : r.1 = p <;> simp [hr]
    rw [hpred]
    by_cases hq : q = p
    · subst hq
      obtain ⟨x, hx⟩ := Option.isSome_iff_exists.mp hfound
      have hxq : x.1 = q := by simpa using List.find?_some hx
      simp [hx, hxq]
    · cases hx : h.entries.find? (·.1 = q) with
      | none => simp [hq]
      | some x =>
        have hxq : x.1 = q := by simpa using List.find?_some hx
        have hxp : ¬x.1 = p := by rw [hxq]; exact hq
        simp [hq, hxp]
  · rename_i hnone
    rw [List.find?_append]
    by_cases hq : q = p
    · subst hq
      simp [Option.not_isSome_iff_eq_none.mp hnone]
    · cases h.entries.find? (·.1 = q) <;> simp [Ne.symm hq, hq]

theorem entry?_put_self (h : Host) {p : Place} (hp : p ≠ []) (e : Entry) : Host.entry? (h.put p e) p = some e := by
  rw [entry?_of_ne_nil _ hp, find?_put_entries]
  simp

theorem entry?_put_of_ne (h : Host) {p q : Place} (hq : q ≠ p) (e : Entry) : Host.entry? (h.put p e) q = h.entry? q := by
  by_cases hnil : q = []
  · subst hnil
    rfl
  rw [entry?_of_ne_nil _ hnil, entry?_of_ne_nil _ hnil, find?_put_entries, if_neg hq]

@[simp]
theorem put_cwd (h : Host) (p : Place) (e : Entry) : (h.put p e).cwd = h.cwd := by
  unfold put
  split <;> rfl

@[simp]
theorem put_stdout (h : Host) (p : Place) (e : Entry) : (h.put p e).stdout = h.stdout := by
  unfold put
  split <;> rfl

theorem sameShape_put_file {h : Host} {p : Place} {old : List UInt8} (hp : h.entry? p = some (.file old))
    (new : List UInt8) : h.SameShape (h.put p (.file new)) := by
  have hne : p ≠ [] := by
    rintro rfl
    have hroot : h.entry? [] = some .directory := rfl
    rw [hroot] at hp
    cases hp
  refine ⟨(put_cwd h p _).symm, fun q => ?_⟩
  by_cases hq : q = p
  · subst hq
    rw [entry?_put_self h hne, hp]
    rfl
  · rw [entry?_put_of_ne h hq]

theorem sameShape_emit (h : Host) (c : Channel) (text : String) : h.SameShape (h.emit c text) := by
  cases c <;> exact ⟨rfl, fun _ => rfl⟩

/-- A later host: the same shape, and standard output that goes on from where it was. --/
structure Extends (h h' : Host) : Prop where
  shape : h.SameShape h'
  stdout : ∃ s, h'.stdout = h.stdout ++ s

namespace Extends

theorem refl (h : Host) : h.Extends h := ⟨.refl h, "", by simp⟩

theorem trans {h h' h'' : Host} (he : h.Extends h') (he' : h'.Extends h'') : h.Extends h'' := by
  obtain ⟨s, hs⟩ := he.stdout
  obtain ⟨s', hs'⟩ := he'.stdout
  exact ⟨he.shape.trans he'.shape, s ++ s', by rw [hs', hs, String.append_assoc]⟩

end Extends

theorem extends_emit (h : Host) (c : Channel) (text : String) : h.Extends (h.emit c text) := by
  cases c with
  | stdout => exact ⟨sameShape_emit h .stdout text, text, rfl⟩
  | stderr => exact ⟨sameShape_emit h .stderr text, "", by simp [emit]⟩

theorem extends_writeAt {h h' : Host} {p : Place} {offset : Nat} {text : String}
    (hw : h.writeAt p offset text = .ok h') : h.Extends h' := by
  unfold writeAt at hw
  split at hw
  · rename_i old hp
    cases hw
    exact ⟨sameShape_put_file hp _, "", by simp⟩
  · cases hw
  · cases hw
    exact extends_emit h _ text
  · rename_i e _ _ _ _
    cases ho : e.opened with
    | error err => rw [ho] at hw; cases hw
    | ok u => rw [ho] at hw; cases hw; exact .refl h
  · cases hw

/-! ### Opening and appending -/

theorem SameShape.openAppend_error {h h' : Host} (hs : h.SameShape h') {path : String} {err : OsError}
    (ho : h.openAppend path = .error err) : h'.openAppend path = .error err := by
  unfold openAppend at ho ⊢
  cases hw : h.walk path with
  | error e =>
    rw [hw] at ho
    rw [hs.walk_error hw]
    exact ho
  | ok s =>
    rw [hw] at ho
    cases s with
    | found q e =>
      obtain ⟨e', hw', he⟩ := hs.walk_found hw
      rw [hw']
      dsimp only at ho ⊢
      have hopen : e'.opened = e.opened := by rw [← Entry.opened_shape e', ← he, Entry.opened_shape]
      rw [hopen]
      cases hoe : e.opened with
      | error err' => rw [hoe] at ho; exact ho
      | ok u => rw [hoe] at ho; cases ho
    | free q b =>
      rw [hs.walk_free hw]
      cases b
      · cases ho
      · exact ho

/-- A path leads to a device with no space alike on hosts of the same shape. --/
theorem SameShape.walk_full_iff {h h' : Host} (hs : h.SameShape h') (path : String) :
    (∃ q, h.walk path = .ok (.found q .full)) ↔ ∃ q, h'.walk path = .ok (.found q .full) := by
  constructor
  · rintro ⟨q, hw⟩
    obtain ⟨e', hw', he⟩ := hs.walk_found hw
    exact ⟨q, by rw [hw', ← (Entry.eq_full_iff_of_shape_eq he).mp rfl]⟩
  · rintro ⟨q, hw⟩
    obtain ⟨e', hw', he⟩ := hs.symm.walk_found hw
    exact ⟨q, by rw [hw', ← (Entry.eq_full_iff_of_shape_eq he).mp rfl]⟩

/-- Opening to append fails alike on hosts of the same shape. --/
theorem SameShape.openAppend_error_iff {h h' : Host} (hs : h.SameShape h') (path : String) (err : OsError) :
    h.openAppend path = .error err ↔ h'.openAppend path = .error err :=
  ⟨hs.openAppend_error, hs.symm.openAppend_error⟩

theorem openAppend_stdout {h h₂ : Host} {path : String} {p : Place} (ho : h.openAppend path = .ok (p, h₂)) :
    h₂.stdout = h.stdout := by
  unfold openAppend at ho
  split at ho
  · cases ho
  · rename_i e _
    cases hoe : e.opened with
    | error err => rw [hoe] at ho; cases ho
    | ok u => rw [hoe] at ho; cases ho; rfl
  · cases ho
  · cases ho
    exact put_stdout _ _ _

/-- A file opened to append is an entry that takes writes, and it is a device with no space
    exactly when the path led to one. --/
theorem openAppend_entry {h h₂ : Host} {path : String} {p : Place} (ho : h.openAppend path = .ok (p, h₂)) :
    ∃ e, h₂.entry? p = some e ∧ e.opened = .ok () ∧ (e = .full ↔ ∃ q, h.walk path = .ok (.found q .full)) := by
  unfold openAppend at ho
  cases hw : h.walk path with
  | error e => rw [hw] at ho; cases ho
  | ok s =>
    rw [hw] at ho
    cases s with
    | found q e =>
      dsimp only at ho
      cases hoe : e.opened with
      | error err => rw [hoe] at ho; cases ho
      | ok u =>
        rw [hoe] at ho
        cases ho
        refine ⟨e, entry?_of_walk_found hw hoe, hoe, ⟨fun hf => ⟨p, by rw [hf]⟩, ?_⟩⟩
        rintro ⟨q', hq'⟩
        cases hq'
        rfl
    | free q b =>
      cases b
      · cases ho
        refine ⟨.file [], entry?_put_self h (sound_walk hw) _, rfl, ⟨fun hf => (by cases hf), ?_⟩⟩
        rintro ⟨q', hq'⟩
        cases hq'
      · cases ho

theorem append_of_full {h : Host} {p : Place} (he : h.entry? p = some .full) (text : String) :
    h.append p text = .error .noSpace := by
  simp [append, writeAt, he]

/-- Appending to an entry that takes writes succeeds unless it is a device with no space. --/
theorem append_of_opened {h : Host} {p : Place} {e : Entry} (he : h.entry? p = some e) (ho : e.opened = .ok ())
    (hf : e ≠ .full) (text : String) : ∃ h', h.append p text = .ok h' := by
  cases e with
  | full => exact absurd rfl hf
  | noDevice | directory | systemDirectory => cases ho
  | file old | stream c =>
    simp only [append, writeAt, he]
    exact ⟨_, rfl⟩
  | sink | link t => exact ⟨h, by simp [append, writeAt, he, Entry.opened]⟩

theorem extends_append {h h' : Host} {p : Place} {text : String} (hw : h.append p text = .ok h') : h.Extends h' := by
  unfold append at hw
  split at hw <;> exact extends_writeAt hw

end Host

end LiveMigration
