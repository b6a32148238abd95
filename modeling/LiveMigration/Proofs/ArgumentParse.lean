import LiveMigration.CommandLine.Parse
import Mathlib.Data.String.Basic

/-! What a parse of a command line does, said without the parser. If a word is `--help`, the parse
    records a given flag `help` and nothing else; otherwise the same for `--version`. Otherwise the
    words are read from the left as items, each `--name` of a declared argument not named before,
    followed by its value when it takes one, and the parse stops at the first word that is not such
    an item (`Stops`). When every word is read, the declared arguments are checked in name order and
    the parse fails at the first that is required but absent, or present with the present argument
    it conflicts with (`Bad`). A parse that succeeds leaves each declared argument with the value
    read for it, and answers its default when none was.

    The scan is followed through the values read so far: from the declared arguments with values
    `pre` (`withGiven`), the rest of the words either read whole (`Reads`) or stop at a word, and the
    parse answers accordingly (`populate_of_reads`, `populate_of_stops`); every list of words does
    one or the other (`reads_or_stops`). -/

namespace LiveMigration
namespace CommandLine

/-- An argument as declared: nothing given for it yet, and a default, if any, that is a text. --/
structure Arg.Declared (a : Arg) : Prop where
  fresh : a.given = none
  default_text : ∀ b, a.default ≠ some (.flag b)

namespace Args

/-! ### Declared arguments -/

/-- Arguments in ascending name order, so each name once. --/
def Sorted (l : List Arg) : Prop := l.Pairwise fun a b => a.name < b.name

theorem mem_insertSorted {a x : Arg} {l : List Arg} (h : x ∈ insertSorted a l) : x = a ∨ x ∈ l := by
  induction l with
  | nil => simpa [insertSorted] using h
  | cons b bs ih =>
    simp only [insertSorted] at h
    split at h
    · rcases List.mem_cons.mp h with rfl | h
      · exact .inl rfl
      · exact .inr (List.mem_cons_of_mem b h)
    · split at h
      · rcases List.mem_cons.mp h with rfl | h
        · exact .inl rfl
        · exact .inr h
      · rcases List.mem_cons.mp h with rfl | h
        · exact .inr List.mem_cons_self
        · exact (ih h).imp_right (List.mem_cons_of_mem b)

theorem sorted_insertSorted (a : Arg) {l : List Arg} (h : Sorted l) : Sorted (insertSorted a l) := by
  induction l with
  | nil => simp [insertSorted, Sorted]
  | cons b bs ih =>
    rw [Sorted, List.pairwise_cons] at h
    simp only [insertSorted]
    split
    · rename_i heq
      exact List.pairwise_cons.mpr ⟨fun x hx => heq ▸ h.1 x hx, h.2⟩
    · split
      · rename_i _ hlt
        exact List.pairwise_cons.mpr ⟨fun x hx => by
          rcases List.mem_cons.mp hx with rfl | hx
          · exact hlt
          · exact lt_trans hlt (h.1 x hx), List.pairwise_cons.mpr h⟩
      · rename_i hne hnlt
        -- `b` comes first: its name is below `a`'s and below every other name
        have hba : b.name < a.name := (lt_or_gt_of_ne hne).resolve_left hnlt
        refine List.pairwise_cons.mpr ⟨fun x hx => ?_, ih h.2⟩
        rcases mem_insertSorted hx with rfl | hx
        · exact hba
        · exact h.1 x hx

/-- In a sorted table, declaring an argument replaces the one of its name, or adds it. --/
theorem find?_insertSorted (a : Arg) {l : List Arg} (h : Sorted l) (n : String) :
    (insertSorted a l).find? (·.name = n) = if a.name = n then some a else l.find? (·.name = n) := by
  induction l with
  | nil => by_cases ha : a.name = n <;> simp [insertSorted, ha]
  | cons b bs ih =>
    rw [Sorted, List.pairwise_cons] at h
    simp only [insertSorted]
    split
    · rename_i heq
      by_cases ha : a.name = n
      · simp [ha]
      · simp [ha, ← heq]
    · split
      · by_cases ha : a.name = n <;> simp [ha]
      · rename_i hne _
        rw [List.find?_cons, ih h.2]
        by_cases hb : b.name = n
        · have : a.name ≠ n := fun ha => hne (ha.trans hb.symm)
          simp [hb, this]
        · by_cases ha : a.name = n <;> simp [ha, hb]

theorem sorted_declare {as : Args} (h : Sorted as.args) (a : Arg) : Sorted (as.declare a).args :=
  sorted_insertSorted a h

theorem find?_declare {as : Args} (h : Sorted as.args) (a : Arg) (n : String) :
    (as.declare a).find? n = if a.name = n then some a else as.find? n :=
  find?_insertSorted a h n

theorem sorted_ofList (l : List Arg) : Sorted (ofList l).args := by
  suffices ∀ acc : Args, Sorted acc.args → Sorted (l.foldl declare acc).args from this {} List.Pairwise.nil
  induction l with
  | nil => exact fun acc h => h
  | cons a l ih => exact fun acc h => ih _ (sorted_declare h a)

/-- Every argument of a table built from declared arguments is one of them. --/
theorem mem_ofList {l : List Arg} {x : Arg} (h : x ∈ (ofList l).args) : x ∈ l := by
  suffices ∀ acc : Args, x ∈ (l.foldl declare acc).args → x ∈ acc.args ∨ x ∈ l from
    (this {} h).resolve_left List.not_mem_nil
  clear h
  induction l with
  | nil => exact fun acc h => .inl h
  | cons a l ih =>
    intro acc hx
    rcases ih _ hx with hx | hx
    · rcases mem_insertSorted hx with rfl | hx
      · exact .inr List.mem_cons_self
      · exact .inl hx
    · exact .inr (List.mem_cons_of_mem a hx)

theorem name_of_find? {as : Args} {n : String} {a : Arg} (h : as.find? n = some a) : a.name = n := by
  simpa using List.find?_some h

theorem mem_of_find? {as : Args} {n : String} {a : Arg} (h : as.find? n = some a) : a ∈ as.args :=
  List.mem_of_find?_eq_some h

/-! ### Values read -/

/-- The declared arguments, each with the value read for its name. --/
def withGiven (as : Args) (given : List (String × Value)) : Args :=
  ⟨as.args.map fun a => { a with given := given.lookup a.name }⟩

theorem sorted_withGiven {as : Args} (h : Sorted as.args) (given : List (String × Value)) :
    Sorted (as.withGiven given).args :=
  List.pairwise_map.mpr h

theorem find?_withGiven (as : Args) (given : List (String × Value)) (n : String) :
    (as.withGiven given).find? n = (as.find? n).map fun a => { a with given := given.lookup n } := by
  unfold withGiven find?
  -- recording what was given keeps every name, so the search finds the same entry
  have hsame : ((fun x : Arg => decide (x.name = n)) ∘ fun a : Arg => { a with given := given.lookup a.name }) =
      fun x => decide (x.name = n) := rfl
  rw [List.find?_map, hsame]
  cases h : as.args.find? (·.name = n) with
  | none => rfl
  | some a =>
    have ha : a.name = n := by simpa using List.find?_some h
    simp only [Option.map_some, ha]

theorem withGiven_nil {as : Args} (h : ∀ a ∈ as.args, a.given = none) : as.withGiven [] = as := by
  unfold withGiven
  congr 1
  refine (List.map_congr_left fun a ha => ?_).trans (List.map_id _)
  cases a
  simpa using (h _ ha).symm

/-- Giving a value to a name not read yet reads it last. --/
theorem update_withGiven (as : Args) {given : List (String × Value)} {n : String} (hn : given.lookup n = none)
    (v : Value) :
    (as.withGiven given).update n (fun a => { a with given := some v }) = as.withGiven (given ++ [(n, v)]) := by
  unfold update withGiven
  congr 1
  rw [List.map_map]
  refine List.map_congr_left fun a _ => ?_
  by_cases h : a.name = n
  · simp [h, List.lookup_append, hn]
  · have hbeq : (a.name == n) = false := by simpa using h
    simp [h, List.lookup_append, List.lookup_cons, hbeq]

/-! ### Words -/

@[simp]
theorem startsWith_prefixText (n : String) : ("--" ++ n).startsWith prefixText = true :=
  String.startsWith_string_iff.mpr (String.toList_append ▸ List.prefix_append _ _)

@[simp]
theorem name_prefixText (n : String) : String.ofList (("--" ++ n).toList.drop 2) = n := by
  simp

/-- A word that starts with `--` is `--` and a name. --/
theorem eq_prefixText {w : String} (h : w.startsWith prefixText = true) :
    w = "--" ++ String.ofList (w.toList.drop 2) := by
  obtain ⟨t, ht⟩ := String.startsWith_string_iff.mp h
  apply String.ext
  rw [String.toList_append, String.toList_ofList, ← ht]
  simp [prefixText]

/-! ### Reading the words -/

/-- `Reads as ws given`: the words `ws` are whole items, each `--name` of a declared argument,
    followed by a value that does not start with `--` when the argument takes one, and no name comes
    twice; `given` pairs each item's name with its value, in order. --/
inductive Reads (as : Args) : List String → List (String × Value) → Prop
  | nil : Reads as [] []
  | flag {n : String} {a : Arg} {ws : List String} {given : List (String × Value)} :
      as.find? n = some a → a.takesValue = false → given.lookup n = none → Reads as ws given →
      Reads as (("--" ++ n) :: ws) ((n, .flag true) :: given)
  | value {n v : String} {a : Arg} {ws : List String} {given : List (String × Value)} :
      as.find? n = some a → a.takesValue = true → v.startsWith "--" = false → given.lookup n = none →
      Reads as ws given → Reads as (("--" ++ n) :: v :: ws) ((n, .text v) :: given)

/-- After the values `given` were read, the scan stops at the word `w`, followed by `tail`, with the
    error `e`: a word without the `--` prefix, an undeclared name, a name read before, or a name
    that takes a value with no word after it that could be one. --/
inductive Stops (as : Args) (given : List (String × Value)) : String → List String → ArgError → Prop
  | unprefixed {w : String} {tail : List String} :
      w.startsWith "--" = false → Stops as given w tail (.unexpectedArgument w)
  | undeclared {n : String} {tail : List String} :
      as.find? n = none → Stops as given ("--" ++ n) tail (.unexpectedArgument n)
  | duplicate {n : String} {a : Arg} {tail : List String} :
      as.find? n = some a → given.lookup n ≠ none → Stops as given ("--" ++ n) tail (.duplicateArgument n)
  | noValue {n : String} {a : Arg} {tail : List String} :
      as.find? n = some a → given.lookup n = none → a.takesValue = true →
      (∀ v ∈ tail.head?, v.startsWith "--" = true) → Stops as given ("--" ++ n) tail (.missingValue n)

/-- No name read in `pre` is read again in `given`. --/
def Apart (pre given : List (String × Value)) : Prop := ∀ n, pre.lookup n ≠ none → given.lookup n = none

theorem apart_nil (given : List (String × Value)) : Apart [] given := fun _ h => absurd rfl h

theorem Apart.cons {pre given : List (String × Value)} {n : String} {v : Value}
    (h : Apart (pre ++ [(n, v)]) given) (hn : pre.lookup n = none) : Apart pre ((n, v) :: given) := by
  intro m hm
  have hmn : m ≠ n := fun h' => hm (h' ▸ hn)
  have hbeq : (m == n) = false := by simpa using hmn
  have := h m (by simp [List.lookup_append, hm])
  simpa [List.lookup_cons, hbeq] using this

theorem Apart.snoc {pre given : List (String × Value)} {n : String} {v : Value}
    (h : Apart pre ((n, v) :: given)) (hn : given.lookup n = none) : Apart (pre ++ [(n, v)]) given := by
  intro m hm
  by_cases hmn : m = n
  · exact hmn ▸ hn
  · have hbeq : (m == n) = false := by simpa using hmn
    have hpre : pre.lookup m ≠ none := by simpa [List.lookup_append, List.lookup_cons, hbeq] using hm
    simpa [List.lookup_cons, hbeq] using h m hpre

theorem apart_nil_right (pre : List (String × Value)) : Apart pre [] := fun _ _ => rfl

theorem Apart.lookup_snoc {pre given : List (String × Value)} {n : String} {v : Value}
    (h : Apart (pre ++ [(n, v)]) given) : given.lookup n = none :=
  h n (by simp [List.lookup_append])

theorem lookup_none_of_apart {pre given : List (String × Value)} {n : String} {v : Value}
    (h : Apart pre ((n, v) :: given)) : pre.lookup n = none :=
  Classical.byContradiction fun hn => by simpa [List.lookup_cons] using h n hn

/-! ### The scan -/

section Scan
variable {as : Args}

variable {pre : List (String × Value)} {n : String} {a : Arg}

/-- A flag not read before is read last, and the scan goes on. --/
theorem populate_flag (hfind : as.find? n = some a) (hn : pre.lookup n = none) (hv : a.takesValue = false)
    (ws : List String) :
    (as.withGiven pre).populate (("--" ++ n) :: ws) = (as.withGiven (pre ++ [(n, .flag true)])).populate ws := by
  simp only [populate, startsWith_prefixText, Bool.not_true, Bool.false_eq_true, if_false,
    name_prefixText, find?_withGiven, hfind, Option.map_some, hn, Option.isSome_none, hv,
    update_withGiven as hn]

/-- An argument that takes a value, not read before and followed by a word that can be its value,
    is read last with that value, and the scan goes on. --/
theorem populate_value (hfind : as.find? n = some a) (hn : pre.lookup n = none) (hv : a.takesValue = true)
    {v : String} (hvalue : v.startsWith "--" = false) (ws : List String) :
    (as.withGiven pre).populate (("--" ++ n) :: v :: ws) = (as.withGiven (pre ++ [(n, .text v)])).populate ws := by
  have hvalue' : v.startsWith prefixText = false := hvalue
  simp only [populate, startsWith_prefixText, Bool.not_true, Bool.false_eq_true, if_false,
    name_prefixText, find?_withGiven, hfind, Option.map_some, hn, Option.isSome_none, hv, if_true,
    hvalue', update_withGiven as hn]

/-- An argument that takes a value, not read before and followed by no word that can be its value,
    stops the scan. --/
theorem populate_noValue (hfind : as.find? n = some a) (hn : pre.lookup n = none) (hv : a.takesValue = true)
    {ws : List String} (hws : ∀ v ∈ ws.head?, v.startsWith "--" = true) :
    (as.withGiven pre).populate (("--" ++ n) :: ws) = (.error (.missingValue n), as.withGiven pre) := by
  have hname := name_of_find? hfind
  cases ws with
  | nil =>
    simp only [populate, startsWith_prefixText, Bool.not_true, Bool.false_eq_true, if_false,
      name_prefixText, find?_withGiven, hfind, Option.map_some, hn, Option.isSome_none, hv, if_true, hname]
  | cons v ws =>
    have hvalue : v.startsWith prefixText = true := hws v rfl
    simp only [populate, startsWith_prefixText, Bool.not_true, Bool.false_eq_true, if_false,
      name_prefixText, find?_withGiven, hfind, Option.map_some, hn, Option.isSome_none, hv, if_true,
      hvalue, hname]

/-- Words that read whole give their values, and the scan ends with the check. --/
theorem populate_of_reads {ws : List String} {given : List (String × Value)} (hr : Reads as ws given) :
    ∀ {pre}, Apart pre given →
      (as.withGiven pre).populate ws = ((as.withGiven (pre ++ given)).validate, as.withGiven (pre ++ given)) := by
  induction hr with
  | nil => intro pre _; simp [populate]
  | flag hfind hv hlook _ ih =>
    intro pre hap
    rw [populate_flag hfind (lookup_none_of_apart hap) hv, ih (hap.snoc hlook), List.append_assoc,
      List.singleton_append]
  | value hfind hv hvalue hlook _ ih =>
    intro pre hap
    rw [populate_value hfind (lookup_none_of_apart hap) hv hvalue, ih (hap.snoc hlook), List.append_assoc,
      List.singleton_append]

/-- Words that read whole up to a word where the scan stops give that word's error. --/
theorem populate_of_stops {ws : List String} {given : List (String × Value)} (hr : Reads as ws given)
    {w : String} {tail : List String} {e : ArgError} :
    ∀ {pre}, Apart pre given → Stops as (pre ++ given) w tail e →
      (as.withGiven pre).populate (ws ++ w :: tail) = (.error e, as.withGiven (pre ++ given)) := by
  induction hr with
  | nil =>
    intro pre _ hst
    rw [List.append_nil] at hst ⊢
    cases hst with
    | unprefixed h =>
      have h' : w.startsWith prefixText = false := h
      simp [populate, h']
    | undeclared hfind =>
      simp [populate, find?_withGiven, hfind]
    | duplicate hfind hlook =>
      obtain ⟨v, hv⟩ := Option.ne_none_iff_exists'.mp hlook
      simp [populate, find?_withGiven, hfind, hv]
    | noValue hfind hlook hv hws => exact populate_noValue hfind hlook hv hws
  | flag hfind hv hlook _ ih =>
    intro pre hap hst
    rw [List.cons_append, populate_flag hfind (lookup_none_of_apart hap) hv,
      ih (hap.snoc hlook) (by rwa [List.append_assoc, List.singleton_append]), List.append_assoc,
      List.singleton_append]
  | value hfind hv hvalue hlook _ ih =>
    intro pre hap hst
    rw [List.cons_append, List.cons_append, populate_value hfind (lookup_none_of_apart hap) hv hvalue,
      ih (hap.snoc hlook) (by rwa [List.append_assoc, List.singleton_append]), List.append_assoc,
      List.singleton_append]

/-- An item read in front of words that read whole or stop, with its name one more value read,
    gives words that read whole or stop. --/
theorem reads_or_stops_of_item (item : List String) {rest : List String} {n : String} {v : Value} {pre : List (String × Value)}
    (hn : pre.lookup n = none)
    (hitem : ∀ {ws given}, Reads as ws given → given.lookup n = none → Reads as (item ++ ws) ((n, v) :: given))
    (h : (∃ given, Reads as rest given ∧ Apart (pre ++ [(n, v)]) given) ∨
      (∃ ws₁ w tail given e, rest = ws₁ ++ w :: tail ∧ Reads as ws₁ given ∧ Apart (pre ++ [(n, v)]) given ∧
        Stops as (pre ++ [(n, v)] ++ given) w tail e)) :
    (∃ given, Reads as (item ++ rest) given ∧ Apart pre given) ∨
    (∃ ws₁ w tail given e, item ++ rest = ws₁ ++ w :: tail ∧ Reads as ws₁ given ∧ Apart pre given ∧
      Stops as (pre ++ given) w tail e) := by
  rcases h with ⟨given, hr, hap⟩ | ⟨ws₁, w, tail, given, e, rfl, hr, hap, hst⟩
  · exact .inl ⟨_, hitem hr hap.lookup_snoc, hap.cons hn⟩
  · refine .inr ⟨item ++ ws₁, w, tail, (n, v) :: given, e, by rw [List.append_assoc],
      hitem hr hap.lookup_snoc, hap.cons hn, ?_⟩
    rwa [List.append_assoc, List.singleton_append] at hst

/-- From any values read, the rest of the words read whole, or read whole up to a word where the
    scan stops. --/
theorem reads_or_stops (as : Args) : ∀ (ws : List String) (pre : List (String × Value)),
    (∃ given, Reads as ws given ∧ Apart pre given) ∨
    (∃ ws₁ w tail given e, ws = ws₁ ++ w :: tail ∧ Reads as ws₁ given ∧ Apart pre given ∧
      Stops as (pre ++ given) w tail e)
  | [], _ => .inl ⟨[], .nil, apart_nil_right _⟩
  | w :: ws, pre => by
    by_cases hw : w.startsWith "--" = true
    · obtain ⟨n, rfl⟩ : ∃ n, w = "--" ++ n := ⟨_, eq_prefixText hw⟩
      cases hfind : as.find? n with
      | none =>
        exact .inr ⟨[], _, ws, [], _, rfl, .nil, apart_nil_right _, .undeclared hfind⟩
      | some a =>
        by_cases hn : pre.lookup n = none
        · cases hv : a.takesValue with
          | false =>
            -- a flag: read it, then the rest with one more value read
            exact reads_or_stops_of_item ["--" ++ n] hn (fun hr hl => .flag hfind hv hl hr)
              (reads_or_stops as ws _)
          | true =>
            match ws with
            | [] =>
              exact .inr ⟨[], _, [], [], _, rfl, .nil, apart_nil_right _,
                .noValue hfind (by simpa using hn) hv (by simp)⟩
            | v :: rest =>
              by_cases hvalue : v.startsWith "--" = true
              · exact .inr ⟨[], _, v :: rest, [], _, rfl, .nil, apart_nil_right _,
                  .noValue hfind (by simpa using hn) hv (by simpa using hvalue)⟩
              · -- a value: read the argument with it, then the rest with one more value read
                have hvalue : v.startsWith "--" = false := by simpa using hvalue
                exact reads_or_stops_of_item ["--" ++ n, v] hn
                  (fun hr hl => .value hfind hv hvalue hl hr) (reads_or_stops as rest _)
        · exact .inr ⟨[], _, ws, [], _, rfl, .nil, apart_nil_right _, .duplicate hfind (by simpa using hn)⟩
    · exact .inr ⟨[], w, ws, [], _, rfl, .nil, apart_nil_right _, .unprefixed (by simpa using hw)⟩

end Scan

/-! ### The check in name order -/

theorem forM_eq_ok {α ε : Type} {f : α → Except ε Unit} :
    ∀ {l : List α}, forM l f = .ok () ↔ ∀ a ∈ l, f a = .ok ()
  | [] => by simp [List.forM_nil]; rfl
  | b :: l => by
    rw [List.forM_cons]
    cases hb : f b with
    | error e' => simp [bind, Except.bind, hb]
    | ok u => simp [bind, Except.bind, hb, forM_eq_ok]

/-- A list has a first element with Q, all before it with P, exactly when its head has Q or has
    P and its tail has such an element. --/
theorem exists_first_cons {α : Type} {P Q : α → Prop} {b : α} {l : List α} :
    (∃ l₁ a l₂, b :: l = l₁ ++ a :: l₂ ∧ (∀ c ∈ l₁, P c) ∧ Q a) ↔
      Q b ∨ P b ∧ ∃ l₁ a l₂, l = l₁ ++ a :: l₂ ∧ (∀ c ∈ l₁, P c) ∧ Q a := by
  constructor
  · rintro ⟨_ | ⟨c, l₁⟩, a, l₂, hl, hp, hq⟩
    · obtain ⟨rfl, -⟩ := List.cons.inj hl
      exact .inl hq
    · obtain ⟨rfl, rfl⟩ := List.cons.inj hl
      exact .inr ⟨hp _ List.mem_cons_self, l₁, a, l₂, rfl, fun d hd => hp d (List.mem_cons_of_mem _ hd), hq⟩
  · rintro (hq | ⟨hp, l₁, a, l₂, rfl, hps, hq⟩)
    · exact ⟨[], b, l, rfl, by simp, hq⟩
    · exact ⟨b :: l₁, a, l₂, rfl, fun c hc => (List.mem_cons.mp hc).elim (· ▸ hp) (hps c), hq⟩

/-- A pass that can fail fails at the first element it fails on. --/
theorem forM_eq_error {α ε : Type} {f : α → Except ε Unit} {e : ε} :
    ∀ {l : List α}, forM l f = .error e ↔ ∃ l₁ a l₂, l = l₁ ++ a :: l₂ ∧ (∀ b ∈ l₁, f b = .ok ()) ∧ f a = .error e
  | [] => by simp [List.forM_nil, pure, Except.pure]
  | b :: l => by
    rw [List.forM_cons, exists_first_cons]
    cases f b with
    | error e' => simp [bind, Except.bind]
    | ok u => simp [bind, Except.bind, forM_eq_error]

theorem eq_ok_iff_ne_error {ε : Type} {r : Except ε Unit} : r = .ok () ↔ ∀ e, r ≠ .error e := by
  cases r <;> simp

/-- A pass that fails exactly on the elements that are wrong fails at the first that is. --/
theorem forM_eq_error_of_iff {α ε : Type} {f : α → Except ε Unit} {P : α → ε → Prop}
    (hf : ∀ a e, f a = .error e ↔ P a e) {l : List α} {e : ε} :
    forM l f = .error e ↔ ∃ l₁ a l₂, l = l₁ ++ a :: l₂ ∧ (∀ b ∈ l₁, ∀ e', ¬P b e') ∧ P a e := by
  rw [forM_eq_error]
  refine exists_congr fun l₁ => exists_congr fun a => exists_congr fun l₂ =>
    and_congr_right fun _ => and_congr (forall₂_congr fun b _ => ?_) (hf a e)
  simp only [eq_ok_iff_ne_error, ne_eq, hf]

/-- What is wrong with an argument once the words are read: it is required but absent, or present
    together with the present argument it conflicts with. --/
inductive Bad (as : Args) (a : Arg) : ArgError → Prop
  | missing : a.required = true → a.given = none → Bad as a (.missingArgument a.name)
  | conflict {o : String} {b : Arg} :
      a.given ≠ none → a.conflictsWith = some o → as.find? o = some b → b.given ≠ none →
      Bad as a (.conflictingArguments a.name o)

theorem bad_iff {as : Args} {a : Arg} {e : ArgError} :
    Bad as a e ↔ (a.required = true ∧ a.given = none ∧ e = .missingArgument a.name) ∨
      ∃ o b, a.given ≠ none ∧ a.conflictsWith = some o ∧ as.find? o = some b ∧ b.given ≠ none ∧
        e = .conflictingArguments a.name o := by
  constructor
  · rintro (⟨hr, hg⟩ | ⟨hg, ho, hf, hb⟩)
    · exact .inl ⟨hr, hg, rfl⟩
    · exact .inr ⟨_, _, hg, ho, hf, hb, rfl⟩
  · rintro (⟨hr, hg, rfl⟩ | ⟨o, b, hg, ho, hf, hb, rfl⟩)
    · exact .missing hr hg
    · exact .conflict hg ho hf hb

/-- The check runs over the arguments in table order and fails on an argument exactly with what is
    wrong with it. --/
theorem validate_checks (as : Args) :
    ∃ f : Arg → Except ArgError Unit, as.validate = forM as.args f ∧ ∀ a e, f a = .error e ↔ Bad as a e := by
  refine ⟨_, by unfold validate; rw [List.forM_eq_forM], fun a e => ?_⟩
  -- the check of one argument, by what was given for it
  obtain ⟨name, required, conflictsWith, takesValue, default, help, given⟩ := a
  cases given with
  | none =>
    cases required
    · simp [pure, Except.pure, bad_iff]
    · simp [throw, throwThe, MonadExceptOf.throw, Except.bind, bind, bad_iff, eq_comm]
  | some v =>
    cases conflictsWith with
    | none => simp [pure, Except.pure, bad_iff]
    | some o =>
      cases hf : as.find? o with
      | none => simp [hf, pure, Except.pure, bad_iff]
      | some b =>
        cases hb : b.given <;> simp [hf, hb, pure, Except.pure, throw, throwThe, MonadExceptOf.throw, bad_iff, eq_comm]

/-- The check fails with `e` at an argument that is wrong this way, and no argument of a smaller
    name is wrong. --/
def FirstBad (as : Args) (e : ArgError) : Prop :=
  ∃ a ∈ as.args, Bad as a e ∧ ∀ b ∈ as.args, b.name < a.name → ∀ e', ¬Bad as b e'

/-- In a sorted table, the arguments before one are those of smaller names. --/
theorem Sorted.lt_iff_mem {l₁ l₂ : List Arg} {a b : Arg} (hs : Sorted (l₁ ++ a :: l₂)) (hb : b ∈ l₁ ++ a :: l₂) :
    b.name < a.name ↔ b ∈ l₁ := by
  rw [Sorted, List.pairwise_append, List.pairwise_cons] at hs
  constructor
  · intro hlt
    rcases List.mem_append.mp hb with hb | hb
    · exact hb
    · rcases List.mem_cons.mp hb with rfl | hb
      · exact absurd hlt (lt_irrefl _)
      · exact absurd (hs.2.1.1 b hb) (lt_asymm hlt)
  · intro hb
    exact hs.2.2 b hb a List.mem_cons_self

/-- In a sorted table the check fails at the first wrong argument in name order. --/
theorem validate_eq_error_iff {as : Args} (hs : Sorted as.args) (e : ArgError) :
    as.validate = .error e ↔ FirstBad as e := by
  obtain ⟨f, hv, hf⟩ := validate_checks as
  rw [hv, forM_eq_error_of_iff hf]
  constructor
  · rintro ⟨l₁, a, l₂, hl, hok, ha⟩
    refine ⟨a, hl ▸ List.mem_append_right l₁ List.mem_cons_self, ha, fun b hb hlt => ?_⟩
    rw [hl] at hs hb
    exact hok b ((hs.lt_iff_mem hb).mp hlt)
  · rintro ⟨a, ha, hbad, hfirst⟩
    obtain ⟨l₁, l₂, hl⟩ := List.append_of_mem ha
    refine ⟨l₁, a, l₂, hl, fun b hb => hfirst b (hl ▸ List.mem_append_left _ hb) ?_, hbad⟩
    rw [hl] at hs
    exact (hs.lt_iff_mem (List.mem_append_left _ hb)).mpr hb

/-- The check passes when no argument is wrong. --/
theorem validate_eq_ok_iff (as : Args) : as.validate = .ok () ↔ ∀ a ∈ as.args, ∀ e, ¬Bad as a e := by
  obtain ⟨f, hv, hf⟩ := validate_checks as
  rw [hv, forM_eq_ok]
  exact forall₂_congr fun a _ => by simp only [eq_ok_iff_ne_error, ne_eq, hf]

/-! ### The parse -/

/-- The flag a parse records when the command line asks for help or for the version. --/
def givenFlag (name : String) : Arg := { name := name, given := some (.flag true) }

/-- What a parse of the words after the program's name gives, rule by rule: `--help` anywhere, else
    `--version` anywhere, records that flag and nothing else; otherwise the words read whole up to
    a word where the scan stops, or read whole and then pass or fail the check. The arguments left
    hold the values read. --/
inductive Parses (as : Args) (rest : List String) : Except ArgError Unit → Args → Prop
  | help : "--help" ∈ rest → Parses as rest (.ok ()) (as.declare (givenFlag "help"))
  | version : "--help" ∉ rest → "--version" ∈ rest → Parses as rest (.ok ()) (as.declare (givenFlag "version"))
  | stops {ws : List String} {w : String} {tail : List String} {given : List (String × Value)} {e : ArgError} :
      "--help" ∉ rest → "--version" ∉ rest → rest = ws ++ w :: tail → Reads as ws given →
      Stops as given w tail e → Parses as rest (.error e) (as.withGiven given)
  | rejected {given : List (String × Value)} {e : ArgError} :
      "--help" ∉ rest → "--version" ∉ rest → Reads as rest given → FirstBad (as.withGiven given) e →
      Parses as rest (.error e) (as.withGiven given)
  | accepted {given : List (String × Value)} :
      "--help" ∉ rest → "--version" ∉ rest → Reads as rest given →
      (∀ a ∈ (as.withGiven given).args, ∀ e, ¬Bad (as.withGiven given) a e) →
      Parses as rest (.ok ()) (as.withGiven given)

section Parse
variable {as : Args} (bin : String) (rest : List String)

theorem parse_of_help (h : "--help" ∈ rest) :
    as.parse (bin :: rest) = (.ok (), as.declare (givenFlag "help")) := by
  simp [parse, h, givenFlag]

theorem parse_of_version (hh : "--help" ∉ rest) (hv : "--version" ∈ rest) :
    as.parse (bin :: rest) = (.ok (), as.declare (givenFlag "version")) := by
  simp [parse, hh, hv, givenFlag]

theorem parse_of_scan (hh : "--help" ∉ rest) (hv : "--version" ∉ rest) : as.parse (bin :: rest) = as.populate rest := by
  simp [parse, hh, hv]

section Fresh
variable (hfresh : ∀ a ∈ as.args, a.given = none)
include hfresh

theorem populate_fresh_of_reads {ws : List String} {given : List (String × Value)} (hr : Reads as ws given) :
    as.populate ws = ((as.withGiven given).validate, as.withGiven given) := by
  have hp := populate_of_reads hr (apart_nil given)
  rwa [withGiven_nil hfresh, List.nil_append] at hp

theorem populate_fresh_of_stops {ws : List String} {given : List (String × Value)} (hr : Reads as ws given)
    {w : String} {tail : List String} {e : ArgError} (hst : Stops as given w tail e) :
    as.populate (ws ++ w :: tail) = (.error e, as.withGiven given) := by
  have hp := populate_of_stops hr (apart_nil given) hst
  rwa [withGiven_nil hfresh, List.nil_append] at hp

end Fresh

/-- From a sorted table with nothing given, a parse gives exactly what the rules say. --/
theorem parse_eq_iff (hs : Sorted as.args) (hfresh : ∀ a ∈ as.args, a.given = none) (r : Except ArgError Unit)
    (as' : Args) : as.parse (bin :: rest) = (r, as') ↔ Parses as rest r as' := by
  constructor
  · intro hp
    by_cases hh : "--help" ∈ rest
    · rw [parse_of_help bin rest hh, Prod.mk.injEq] at hp
      obtain ⟨rfl, rfl⟩ := hp
      exact .help hh
    by_cases hv : "--version" ∈ rest
    · rw [parse_of_version bin rest hh hv, Prod.mk.injEq] at hp
      obtain ⟨rfl, rfl⟩ := hp
      exact .version hh hv
    rw [parse_of_scan bin rest hh hv] at hp
    -- the words read whole, or stop at a word
    rcases reads_or_stops as rest [] with ⟨given, hr, -⟩ | ⟨ws, w, tail, given, e, rfl, hr, -, hst⟩
    · rw [populate_fresh_of_reads hfresh hr, Prod.mk.injEq] at hp
      obtain ⟨rfl, rfl⟩ := hp
      cases hval : (as.withGiven given).validate with
      | error e =>
        exact .rejected hh hv hr ((validate_eq_error_iff (sorted_withGiven hs given) e).mp hval)
      | ok u => exact .accepted hh hv hr ((validate_eq_ok_iff _).mp hval)
    · rw [populate_fresh_of_stops hfresh hr hst, Prod.mk.injEq] at hp
      obtain ⟨rfl, rfl⟩ := hp
      exact .stops hh hv rfl hr hst
  · intro hp
    cases hp with
    | help hh => exact parse_of_help bin rest hh
    | version hh hv => exact parse_of_version bin rest hh hv
    | stops hh hv hrest hr hst =>
      rw [parse_of_scan bin rest hh hv, hrest, populate_fresh_of_stops hfresh hr hst]
    | rejected hh hv hr hbad =>
      rw [parse_of_scan bin rest hh hv, populate_fresh_of_reads hfresh hr,
        (validate_eq_error_iff (sorted_withGiven hs _) _).mpr hbad]
    | accepted hh hv hr hok =>
      rw [parse_of_scan bin rest hh hv, populate_fresh_of_reads hfresh hr, (validate_eq_ok_iff _).mpr hok]

/-- Both roles given: the check reaches `client` first, which names no conflict, then `master`. --/
example : ((ofList [{ name := "master", takesValue := true, conflictsWith := some "client" },
    { name := "client", takesValue := true }]).parse ["tool", "--client", "y", "--master", "x"]).1 =
    .error (.conflictingArguments "master" "client") := by decide +kernel

end Parse

/-! ### Values after a parse -/

theorem value?_withGiven (as : Args) (given : List (String × Value)) (n : String) :
    (as.withGiven given).value? n = (as.find? n).bind fun a => (given.lookup n).or a.default := by
  simp only [value?, find?_withGiven, Option.bind_map, Function.comp_def]

section Values
variable {as : Args} {given : List (String × Value)} {n : String}

theorem text?_of_text {s : String} (h : given.lookup n = some (.text s)) (hn : as.find? n ≠ none) :
    (as.withGiven given).text? n = some s := by
  obtain ⟨a, ha⟩ := Option.ne_none_iff_exists'.mp hn
  simp [text?, value?_withGiven, ha, h]

/-- An argument is a present flag exactly when the flag was read. --/
theorem flag_withGiven_iff (hdecl : ∀ a ∈ as.args, a.Declared) (hn : given.lookup n ≠ none → as.find? n ≠ none) :
    (as.withGiven given).flag n = true ↔ given.lookup n = some (.flag true) := by
  unfold flag
  rw [value?_withGiven]
  cases hf : as.find? n with
  | none =>
    have : given.lookup n = none := Classical.byContradiction fun h' => hn h' hf
    simp [this]
  | some a =>
    have hd := hdecl a (mem_of_find? hf)
    cases hl : given.lookup n with
    | some v =>
      cases v with
      | flag b => cases b <;> simp
      | text s => simp
    | none =>
      cases hdef : a.default with
      | none => simp [hdef]
      | some v =>
        cases v with
        | flag b => exact absurd hdef (hd.default_text b)
        | text s => simp [hdef]

end Values

theorem flag_of_find?_none {as : Args} {n : String} (h : as.find? n = none) : as.flag n = false := by
  unfold flag value?
  rw [h]
  rfl

@[simp]
theorem givenFlag_name (n : String) : (givenFlag n).name = n := rfl

theorem flag_declare_self {as : Args} (hs : Sorted as.args) (n : String) :
    (as.declare (givenFlag n)).flag n = true := by
  unfold flag value?
  rw [find?_declare hs, givenFlag_name, if_pos rfl]
  rfl

theorem flag_declare_of_ne {as : Args} (hs : Sorted as.args) {m n : String} (hne : m ≠ n) :
    (as.declare (givenFlag m)).flag n = as.flag n := by
  unfold flag value?
  rw [find?_declare hs, givenFlag_name, if_neg hne]

/-- Every name read is declared. --/
theorem Reads.declared {as : Args} {ws : List String} {given : List (String × Value)} (hr : Reads as ws given)
    {n : String} (h : given.lookup n ≠ none) : as.find? n ≠ none := by
  induction hr with
  | nil => exact absurd rfl h
  | @flag m a _ _ hfind _ _ _ ih =>
    by_cases hmn : n = m
    · subst hmn
      simp [hfind]
    · have hbeq : (n == m) = false := by simpa using hmn
      exact ih (by simpa [List.lookup_cons, hbeq] using h)
  | @value m v a _ _ hfind _ _ _ _ ih =>
    by_cases hmn : n = m
    · subst hmn
      simp [hfind]
    · have hbeq : (n == m) = false := by simpa using hmn
      exact ih (by simpa [List.lookup_cons, hbeq] using h)

/-! ### The parse of a declared table -/

/-- A parse of a table of declared arguments follows the rules of `Parses`; `--help` and `--version`
    add their flag and change no other argument; and once the words are read, a value-taking
    argument answers the text given for it, an argument not given answers its default, and a flag is
    present exactly when it was given. --/
theorem parse_follows_rules (decls : List Arg) (hdecl : ∀ a ∈ decls, a.Declared) (bin : String)
    (rest : List String) :
    (∀ r as', (ofList decls).parse (bin :: rest) = (r, as') ↔ Parses (ofList decls) rest r as') ∧
    (∀ name n, ((ofList decls).declare (givenFlag name)).find? n =
      if name = n then some (givenFlag name) else (ofList decls).find? n) ∧
    (∀ given, Reads (ofList decls) rest given → ∀ n,
      (∀ s, given.lookup n = some (.text s) → ((ofList decls).withGiven given).text? n = some s) ∧
      (given.lookup n = none → ((ofList decls).withGiven given).value? n = ((ofList decls).find? n).bind (·.default)) ∧
      (((ofList decls).withGiven given).flag n = true ↔ given.lookup n = some (.flag true))) := by
  have hs := sorted_ofList decls
  have hd : ∀ a ∈ (ofList decls).args, a.Declared := fun a ha => hdecl a (mem_ofList ha)
  refine ⟨parse_eq_iff bin rest hs (fun a ha => (hd a ha).fresh), fun name n => find?_declare hs _ n, ?_⟩
  intro given hr n
  refine ⟨fun s h => text?_of_text h (hr.declared (by simp [h])), fun h => ?_, flag_withGiven_iff hd hr.declared⟩
  simp [value?_withGiven, h]

/-- A table in the shape of a tool's: two roles that exclude each other, a level with a default and
    a flag. --/
def sampleDecls : List Arg :=
  [{ name := "master", takesValue := true, conflictsWith := some "client" },
   { name := "client", takesValue := true },
   { name := "level", takesValue := true, default := some (.text "info") },
   { name := "quiet" }]

theorem parse_follows_rules_sample :
    (∀ a ∈ sampleDecls, a.Declared) ∧
    ((∀ r as', (ofList sampleDecls).parse ["tool", "--master", "x", "--quiet"] = (r, as') ↔
        Parses (ofList sampleDecls) ["--master", "x", "--quiet"] r as') ∧
      (∀ name n, ((ofList sampleDecls).declare (givenFlag name)).find? n =
        if name = n then some (givenFlag name) else (ofList sampleDecls).find? n) ∧
      (∀ given, Reads (ofList sampleDecls) ["--master", "x", "--quiet"] given → ∀ n,
        (∀ s, given.lookup n = some (.text s) → ((ofList sampleDecls).withGiven given).text? n = some s) ∧
        (given.lookup n = none →
          ((ofList sampleDecls).withGiven given).value? n = ((ofList sampleDecls).find? n).bind (·.default)) ∧
        (((ofList sampleDecls).withGiven given).flag n = true ↔ given.lookup n = some (.flag true)))) :=
  have hdecl : ∀ a ∈ sampleDecls, a.Declared := by
    intro a ha
    simp only [sampleDecls, List.mem_cons, List.not_mem_nil, or_false] at ha
    rcases ha with rfl | rfl | rfl | rfl <;> exact ⟨rfl, by simp⟩
  ⟨hdecl, parse_follows_rules sampleDecls hdecl "tool" ["--master", "x", "--quiet"]⟩

end Args

end CommandLine
end LiveMigration
