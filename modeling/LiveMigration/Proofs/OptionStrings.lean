import LiveMigration.Proofs.FaultOrder
import LiveMigration.Proofs.TextRoundTrip

/-! # Option strings and option pairs

An option string is cut at every comma; each item is trimmed and empty items are dropped (`items`).
Each item left must hold an `=`, and is cut at its first one into a key and a value, both trimmed
(`itemPair?`). Reading then adds the pairs in order with two checks on each key: it is not empty,
and no pair before it has it (`pairChecks`). So reading fails with the first fault of these checks
along the items (`itemChecks`), and otherwise holds the pairs in order. Options built from pairs
that are already cut make the same two key checks on the pairs as they are, untrimmed.

Either way the options have nonempty, distinct keys (`Keyed`), and a key looks up the value it is
paired with. Writing pairs out as `key=value` items joined by commas, where no key or value holds a
comma or has a blank at either end and no key holds an `=`, and reading the text back, is building
the options from the pairs: the same options, or the same fault (`option_strings_read_in_order`). -/

namespace LiveMigration

open Text

/-! ### Folds that report checks -/

/-- A fold reports the checks of each element in turn, each given the elements before it, when each
    step keeps an invariant `I` of the elements folded so far. --/
theorem reports_foldlM {ε β γ : Type} {f : β → γ → Except ε β} {init : β} (checks : List γ → γ → List (Option ε))
    {I : List γ → β → Prop} (l : List γ) (hinit : I [] init)
    (hstep : ∀ pre c post b, l = pre ++ c :: post → I pre b → Reports (f b c) (checks pre c) (I (pre ++ [c]))) :
    Reports (l.foldlM f init) (checksAlong checks [] l) (I l) := by
  refine meets_foldlM_indexed (I := fun pre b => firstFault (checksAlong checks [] pre) = none ∧ I pre b) l
    ⟨rfl, hinit⟩ fun pre c post b hl ⟨hpre, hb⟩ => Meets.mono (hstep pre c post b hl hb)
      (fun b' hb' => ⟨?_, hb'.2⟩) fun e he => ?_
  · rw [checksAlong_snoc, firstFault_append_of_none hpre, hb'.1]
  · -- the checks of the whole list run through those of `pre`, then those of `c`
    rw [hl, checksAlong_append, List.nil_append, checksAlong, firstFault_append_of_none hpre,
      firstFault_append_of_some he]

/-- A computation that reports checks none of which finds a fault returns a value meeting its
    condition. --/
theorem Reports.exists_of_none {ε α : Type} {x : Except ε α} {cs : List (Option ε)} {P : α → Prop}
    (h : Reports x cs P) (hnone : firstFault cs = none) : ∃ a, x = .ok a ∧ P a := by
  obtain ⟨a, ha⟩ := h.exists_ok_iff.mpr hnone
  exact ⟨a, ha, (h.of_eq_ok ha).2⟩

namespace Options

/-! ### The checks -/

/-- The checks of a pair added after the pairs `pre`: a key that is not empty, then a key that none
    of them has. --/
def pairChecks (pre : List (String × String)) (p : String × String) : List (Option ConfigError) :=
  [if p.1 = "" then some (.malformedOption ("=" ++ p.2)) else none,
   if p.1 ∈ pre.map (·.1) then some (.duplicateKey p.1) else none]

/-- The key and value of an item cut at its first `=`, both trimmed. --/
def itemPair? (item : List Char) : Option (String × String) :=
  (splitOnce '=' item).map fun kv => (String.ofList (trimChars kv.1), String.ofList (trimChars kv.2))

/-- The checks of an item after the items `pre`: it holds an `=`, then its pair passes the checks of
    a pair after the pairs of the items before it. --/
def itemChecks (pre : List (List Char)) (item : List Char) : List (Option ConfigError) :=
  match itemPair? item with
  | none => [some (.malformedOption (String.ofList item))]
  | some p => none :: pairChecks (pre.filterMap itemPair?) p

/-- Options whose keys are nonempty and distinct. --/
structure Keyed (o : Options) : Prop where
  nonempty : ∀ p ∈ o.pairs, p.1 ≠ ""
  distinct : (o.pairs.map (·.1)).Nodup

/-- A pair written as `key=value` between commas reads back as itself: no comma in the key or the
    value, no `=` in the key, and no blank at either end of either. --/
structure Writable (p : String × String) : Prop where
  keyComma : ',' ∉ p.1.toList
  valueComma : ',' ∉ p.2.toList
  keyEquals : '=' ∉ p.1.toList
  keyHead : ∀ c ∈ p.1.toList.head?, isBlank c = false
  keyLast : ∀ c ∈ p.1.toList.getLast?, isBlank c = false
  valueHead : ∀ c ∈ p.2.toList.head?, isBlank c = false
  valueLast : ∀ c ∈ p.2.toList.getLast?, isBlank c = false

/-! ### Adding a pair -/

theorem isSome_get?_iff {o : Options} {k : String} : (o.get? k).isSome ↔ k ∈ o.pairs.map (·.1) := by
  simp [get?, List.find?_isSome]

/-- A pair that passes its checks has a key, and a key that no pair before it has. --/
theorem pairChecks_pass {pre : List (String × String)} {p : String × String}
    (h : firstFault (pairChecks pre p) = none) : p.1 ≠ "" ∧ p.1 ∉ pre.map (·.1) := by
  unfold pairChecks at h
  by_cases hk : p.1 = ""
  · rw [if_pos hk, firstFault_cons_some] at h
    cases h
  by_cases hd : p.1 ∈ pre.map (·.1)
  · rw [if_neg hk, if_pos hd, firstFault_cons_none, firstFault_cons_some] at h
    cases h
  exact ⟨hk, hd⟩

theorem keyed_empty : Keyed {} := ⟨by simp, by simp⟩

theorem Keyed.append {ps : List (String × String)} {p : String × String} (hps : Keyed ⟨ps⟩)
    (h : firstFault (pairChecks ps p) = none) : Keyed ⟨ps ++ [p]⟩ := by
  obtain ⟨hk, hfresh⟩ := pairChecks_pass h
  refine ⟨fun q hq => ?_, nodup_map_append_of_fresh hps.distinct fun x hx hkey => hfresh ?_⟩
  · rcases List.mem_append.mp hq with hq | hq
    · exact hps.nonempty q hq
    · rw [List.mem_singleton.mp hq]
      exact hk
  · rw [← hkey]
    exact List.mem_map_of_mem hx

/-- In options with distinct keys, a key looks up the value it is paired with. --/
theorem Keyed.get?_eq_some_iff {o : Options} (ho : o.Keyed) {k v : String} :
    o.get? k = some v ↔ (k, v) ∈ o.pairs := by
  have hfind : ∀ q, o.pairs.find? (fun q => decide (q.1 = k)) = some q ↔ q ∈ o.pairs ∧ q.1 = k := fun q => by
    rw [find?_eq_some_iff_of_keys ho.distinct fun a b ha hb => by
      simp only [decide_eq_true_eq] at ha hb; rw [ha, hb], decide_eq_true_eq]
  simp only [get?, Option.map_eq_some_iff, hfind]
  constructor
  · rintro ⟨q, ⟨hq, rfl⟩, rfl⟩
    exact hq
  · intro h
    exact ⟨(k, v), ⟨h, rfl⟩, rfl⟩

/-- Adding a pair makes its two checks, and keeps the keys nonempty and distinct. --/
theorem add_reports {o : Options} (ho : o.Keyed) (k v : String) :
    Reports (o.add k v) (pairChecks o.pairs (k, v)) fun o' => o'.pairs = o.pairs ++ [(k, v)] ∧ o'.Keyed := by
  unfold add
  by_cases hk : k = ""
  · rw [if_pos (by simp [hk])]
    exact reports_error (by simp [pairChecks, hk])
  rw [if_neg (by simpa using hk)]
  by_cases hdup : k ∈ o.pairs.map (·.1)
  · rw [if_pos (isSome_get?_iff.mpr hdup)]
    exact reports_error (by simp [pairChecks, hk, hdup])
  · rw [if_neg (mt isSome_get?_iff.mp hdup)]
    have hnone : firstFault (pairChecks o.pairs (k, v)) = none := by simp [pairChecks, hk, hdup]
    exact reports_ok hnone ⟨rfl, Keyed.append ho hnone⟩

/-! ### Building from pairs -/

theorem ofPairs_reports (ps : List (String × String)) :
    Reports (ofPairs ps) (checksAlong pairChecks [] ps) fun o => o.pairs = ps ∧ o.Keyed := by
  unfold ofPairs
  refine reports_foldlM pairChecks (I := fun pre (o : Options) => o.pairs = pre ∧ o.Keyed) ps ⟨rfl, keyed_empty⟩
    fun pre p _ o _ ⟨ho, hkeyed⟩ => ?_
  have h := add_reports hkeyed p.1 p.2
  rw [ho] at h
  exact h

/-! ### Reading -/

theorem itemPair?_of_split {item k v : List Char} (h : splitOnce '=' item = some (k, v)) :
    itemPair? item = some (String.ofList (trimChars k), String.ofList (trimChars v)) := by
  simp [itemPair?, h]

theorem readItem_reports {pre : List (List Char)} {o : Options} (ho : o.pairs = pre.filterMap itemPair?)
    (hkeyed : o.Keyed) (item : List Char) :
    Reports (readItem item >>= fun kv => o.add kv.1 kv.2) (itemChecks pre item)
      fun o' => o'.pairs = (pre ++ [item]).filterMap itemPair? ∧ o'.Keyed := by
  unfold readItem itemChecks
  cases hsplit : splitOnce '=' item with
  | none =>
    rw [show itemPair? item = none by simp [itemPair?, hsplit]]
    exact reports_error rfl
  | some kv =>
    obtain ⟨k, v⟩ := kv
    rw [itemPair?_of_split hsplit]
    refine Reports.bind_one (reports_ok rfl rfl) fun _ hkv => ?_
    subst hkv
    have h := add_reports hkeyed (String.ofList (trimChars k)) (String.ofList (trimChars v))
    rw [ho] at h
    refine Meets.mono h (fun o' h' => ⟨h'.1, ?_, h'.2.2⟩) fun _ h' => h'
    rw [h'.2.1, List.filterMap_append, List.filterMap_cons_some (itemPair?_of_split hsplit), List.filterMap_nil]

theorem parse_reports (text : String) :
    Reports (parse text) (checksAlong itemChecks [] (items text))
      fun o => o.pairs = (items text).filterMap itemPair? ∧ o.Keyed := by
  unfold parse
  exact reports_foldlM itemChecks (I := fun pre (o : Options) => o.pairs = pre.filterMap itemPair? ∧ o.Keyed) _
    ⟨rfl, keyed_empty⟩ fun pre item _ o _ ⟨ho, hkeyed⟩ => readItem_reports ho hkeyed item

/-! ### Writing pairs out -/

theorem foldlM_congr_of_mem {ε β γ : Type} {f g : β → γ → Except ε β} {l : List γ}
    (h : ∀ b, ∀ c ∈ l, f b c = g b c) (b : β) : l.foldlM f b = l.foldlM g b := by
  induction l generalizing b with
  | nil => rfl
  | cons c l ih =>
    rw [List.foldlM_cons, List.foldlM_cons, h b c List.mem_cons_self]
    congr 1
    funext b'
    exact ih (fun b c hc => h b c (List.mem_cons_of_mem _ hc)) b'

/-- An item `k=v` whose key starts and whose value ends with no blank is its own trim. --/
theorem trimChars_pair {k v : List Char} (hk : ∀ c ∈ k.head?, isBlank c = false)
    (hv : ∀ c ∈ v.getLast?, isBlank c = false) : trimChars (k ++ '=' :: v) = k ++ '=' :: v := by
  refine trimChars_of_ends (fun c hc => ?_) fun c hc => ?_
  · cases k with
    | nil =>
      rw [List.nil_append, List.head?_cons, Option.mem_some_iff] at hc
      rw [← hc]
      decide
    | cons c' k => exact hk c (by simpa using hc)
  · rw [List.getLast?_append_of_ne_nil _ (List.cons_ne_nil _ _), List.getLast?_cons, Option.mem_some_iff] at hc
    cases hlast : v.getLast? with
    | none =>
      rw [hlast, Option.getD_none] at hc
      rw [← hc]
      decide
    | some c' =>
      rw [hlast, Option.getD_some] at hc
      exact hv c (hc ▸ hlast)

theorem written_toList (ps : List (String × String)) :
    (",".intercalate (ps.map fun p => p.1 ++ "=" ++ p.2)).toList =
      [','].intercalate (ps.map fun p => p.1.toList ++ '=' :: p.2.toList) := by
  rw [String.toList_intercalate, List.map_map]
  refine congrArg _ (List.map_congr_left fun p _ => ?_)
  rw [Function.comp_apply, String.toList_append, String.toList_append, List.append_assoc]
  rfl

theorem readItem_written {p : String × String} (hp : Writable p) :
    readItem (p.1.toList ++ '=' :: p.2.toList) = .ok p := by
  simp only [readItem, splitOnce_append hp.keyEquals, trimChars_of_ends hp.keyHead hp.keyLast,
    trimChars_of_ends hp.valueHead hp.valueLast, String.ofList_toList]

theorem items_written {ps : List (String × String)} (hw : ∀ p ∈ ps, Writable p) :
    items (",".intercalate (ps.map fun p => p.1 ++ "=" ++ p.2)) = ps.map fun p => p.1.toList ++ '=' :: p.2.toList := by
  have htext : ",".intercalate (ps.map fun p => p.1 ++ "=" ++ p.2) =
      String.ofList ([','].intercalate (ps.map fun p => p.1.toList ++ '=' :: p.2.toList)) := by
    rw [← written_toList, String.ofList_toList]
  rw [htext]
  refine items_intercalate_of_trimmed (fun l hl => ?_) (fun l hl => ?_) fun l hl => ?_ <;>
    obtain ⟨p, hp, rfl⟩ := List.mem_map.mp hl
  · simp
  · have hw' := hw p hp
    simp [hw'.keyComma, hw'.valueComma]
  · exact trimChars_pair (hw p hp).keyHead (hw p hp).valueLast

/-- Pairs written out and read back are the options built from them, or the same fault. --/
theorem parse_written {ps : List (String × String)} (hw : ∀ p ∈ ps, Writable p) :
    parse (",".intercalate (ps.map fun p => p.1 ++ "=" ++ p.2)) = ofPairs ps := by
  unfold parse ofPairs
  rw [items_written hw, List.foldlM_map]
  refine foldlM_congr_of_mem (fun o p hp => ?_) _
  rw [readItem_written (hw p hp)]
  rfl

/-! ### Both ways in -/

/-- Reading an option string and building options from pairs. Reading fails with exactly the first
    fault of the checks of its items, in order, and otherwise holds the items' pairs in order; the
    pairs are checked the same way, as they are. What either gives has nonempty, distinct keys, and
    a key looks up the value paired with it. Pairs written out as `key=value` items joined by
    commas, with no comma in a key or value, no `=` in a key and no blank at either end of either,
    read back as building the options from the pairs would give them, fault included. --/
theorem option_strings_read_in_order :
    (∀ text e, parse text = .error e ↔ firstFault (checksAlong itemChecks [] (items text)) = some e) ∧
    (∀ text, firstFault (checksAlong itemChecks [] (items text)) = none →
      parse text = .ok ⟨(items text).filterMap itemPair?⟩) ∧
    (∀ ps e, ofPairs ps = .error e ↔ firstFault (checksAlong pairChecks [] ps) = some e) ∧
    (∀ ps, firstFault (checksAlong pairChecks [] ps) = none → ofPairs ps = .ok ⟨ps⟩) ∧
    (∀ o, ((∃ text, parse text = .ok o) ∨ ∃ ps, ofPairs ps = .ok o) →
      o.Keyed ∧ ∀ k v, o.get? k = some v ↔ (k, v) ∈ o.pairs) ∧
    (∀ ps, (∀ p ∈ ps, Writable p) → parse (",".intercalate (ps.map fun p => p.1 ++ "=" ++ p.2)) = ofPairs ps) := by
  refine ⟨fun text _ => (parse_reports text).eq_error_iff, fun text hnone => ?_,
    fun ps _ => (ofPairs_reports ps).eq_error_iff, fun ps hnone => ?_, fun o ho => ?_,
    fun _ hw => parse_written hw⟩
  · obtain ⟨o, ho, hpairs, -⟩ := (parse_reports text).exists_of_none hnone
    rw [ho, ← hpairs]
  · obtain ⟨o, ho, hpairs, -⟩ := (ofPairs_reports ps).exists_of_none hnone
    rw [ho, ← hpairs]
  · -- what either way gives meets the invariant of its fold
    have hkeyed : o.Keyed := by
      rcases ho with ⟨text, ho⟩ | ⟨ps, ho⟩
      · exact ((parse_reports text).of_eq_ok ho).2.2
      · exact ((ofPairs_reports ps).of_eq_ok ho).2.2
    exact ⟨hkeyed, fun _ _ => hkeyed.get?_eq_some_iff⟩

/-- Two plain pairs written out read back as the options built from them. --/
theorem dsmid_vmid_read_back :
    (∀ p ∈ [("dsmid", "3"), ("vmid", "2")], Writable p) ∧
    parse (",".intercalate ([("dsmid", "3"), ("vmid", "2")].map fun p => p.1 ++ "=" ++ p.2)) =
      ofPairs [("dsmid", "3"), ("vmid", "2")] := by
  have hw : ∀ p ∈ [("dsmid", "3"), ("vmid", "2")], Writable p := by
    intro p hp
    rcases List.mem_pair.mp hp with rfl | rfl <;>
      exact ⟨by decide, by decide, by decide, fun c hc => by cases hc; rfl, fun c hc => by cases hc; rfl,
        fun c hc => by cases hc; rfl, fun c hc => by cases hc; rfl⟩
  exact ⟨hw, option_strings_read_in_order.2.2.2.2.2 _ hw⟩

end Options

end LiveMigration
