import LiveMigration.Config.Fields
import LiveMigration.Proofs.Told

/-! Texts that read back. The decimal digits of a number read back as the number and a dotted quad
    as its address; pieces joined at a separator that none of them holds split back into the
    pieces; a text with no blank character is its own trim. So an option string written from
    distinct keys reads back as its pairs, and each field reader takes back the field written for
    it. -/

namespace LiveMigration

/-- The element a fold is at is not among the ones before it, when the keys are distinct. --/
theorem not_mem_map_of_nodup {α β : Type} {g : α → β} {l pre post : List α} {c : α} (h : (l.map g).Nodup)
    (hl : l = pre ++ c :: post) : g c ∉ pre.map g := by
  rw [hl, List.map_append, List.map_cons, List.nodup_append] at h
  exact fun hc => h.2.2 _ hc _ List.mem_cons_self rfl

namespace Text

/-! ### Digits -/

theorem isDigit_of_mem_toDigits {n : Nat} {c : Char} (h : c ∈ Nat.toDigits 10 n) : c.isDigit = true :=
  Nat.isDigit_of_mem_toDigits (by decide) (by decide) h

theorem allDigits_toDigits (n : Nat) : allDigits (Nat.toDigits 10 n) = true := by
  simp only [allDigits, Bool.and_eq_true, Bool.not_eq_eq_eq_not, Bool.not_true, List.isEmpty_eq_false_iff,
    List.all_eq_true]
  exact ⟨Nat.toDigits_ne_nil, fun c hc => isDigit_of_mem_toDigits hc⟩

theorem digitsValue_toDigits (n : Nat) : digitsValue (Nat.toDigits 10 n) = n := Nat.ofDigitChars_ten_toDigits

theorem readNat?_toDigits (n : Nat) : readNat? (Nat.toDigits 10 n) = some n := by
  unfold readNat?
  split
  · -- digits never start with a sign
    rename_i rest h
    have := isDigit_of_mem_toDigits (n := n) (c := '+') (by rw [h]; exact List.mem_cons_self)
    cases this
  · simp [allDigits_toDigits, digitsValue_toDigits]

theorem readWord?_toDigits {bits n : Nat} (h : n < Nat.pow 2 bits) : readWord? bits (Nat.toDigits 10 n) = some n := by
  simp only [readWord?, readNat?_toDigits, Option.filter_some, decide_eq_true h, if_true]

theorem head?_toDigits_ne_zero {n : Nat} (h : 0 < n) : (Nat.toDigits 10 n).head? ≠ some '0' := by
  induction n using Nat.strongRecOn with
  | ind n ih =>
    rw [Nat.toDigits_eq_if (by decide)]
    split
    · simp only [List.head?_cons, ne_eq, Option.some.injEq, Nat.digitChar_eq_zero]
      omega
    · -- the leading digit is the leading digit of `n / 10`, itself positive
      have hne : (Nat.toDigits 10 (n / 10)).head?.isSome := by simp
      obtain ⟨c, hc⟩ := Option.isSome_iff_exists.mp hne
      rw [List.head?_append, hc, Option.some_or, ← hc]
      exact ih (n / 10) (by omega) (by omega)

/-! ### Blanks -/

theorem isBlank_of_isDigit {c : Char} (h : c.isDigit = true) : isBlank c = false := by
  simp only [Char.isDigit, Bool.and_eq_true, decide_eq_true_eq] at h
  have h1 : 48 ≤ c.toNat := h.1
  have h2 : c.toNat ≤ 57 := h.2
  simp only [isBlank, Bool.or_eq_false_iff, Bool.and_eq_false_iff, decide_eq_false_iff_not, beq_eq_false_iff_ne]
  omega

theorem trimStart_of_head {cs : List Char} (h : ∀ c ∈ cs.head?, isBlank c = false) : trimStart cs = cs := by
  cases cs with
  | nil => rfl
  | cons c cs => simp [trimStart, h c rfl]

/-- A text with no blank at either end is its own trim. --/
theorem trimChars_of_ends {cs : List Char} (hhead : ∀ c ∈ cs.head?, isBlank c = false)
    (hlast : ∀ c ∈ cs.getLast?, isBlank c = false) : trimChars cs = cs := by
  unfold trimChars
  rw [trimStart_of_head hhead, trimStart_of_head, List.reverse_reverse]
  rw [List.head?_reverse]
  exact hlast

theorem trimChars_of_forall {cs : List Char} (h : ∀ c ∈ cs, isBlank c = false) : trimChars cs = cs :=
  trimChars_of_ends (fun c hc => h c (List.mem_of_mem_head? hc)) fun c hc => h c (List.mem_of_getLast? hc)

/-! ### Texts of digits and marks -/

/-- Every character of `cs` is a digit or one of the marks `ps`. --/
def Spelled (ps cs : List Char) : Prop := ∀ c ∈ cs, c.isDigit = true ∨ c ∈ ps

theorem spelled_toDigits (ps : List Char) (n : Nat) : Spelled ps (Nat.toDigits 10 n) :=
  fun _ hc => .inl (isDigit_of_mem_toDigits hc)

theorem mem_intercalate {α : Type} {sep : α} {ls : List (List α)} {c : α} (h : c ∈ [sep].intercalate ls) :
    c = sep ∨ ∃ l ∈ ls, c ∈ l := by
  induction ls with
  | nil => simp at h
  | cons l ls ih =>
    rcases ls with _ | ⟨l', ls⟩
    · exact .inr ⟨l, List.mem_singleton_self l, by simpa using h⟩
    · rw [List.intercalate_cons_cons, List.mem_append, List.mem_append, List.mem_singleton] at h
      rcases h with (h | h) | h
      · exact .inr ⟨l, List.mem_cons_self, h⟩
      · exact .inl h
      · rcases ih h with h | ⟨l'', hl'', h⟩
        · exact .inl h
        · exact .inr ⟨l'', List.mem_cons_of_mem l hl'', h⟩

theorem spelled_intercalate {ps : List Char} {sep : Char} {ls : List (List Char)} (hsep : sep ∈ ps)
    (h : ∀ l ∈ ls, Spelled ps l) : Spelled ps ([sep].intercalate ls) := fun c hc => by
  rcases mem_intercalate hc with rfl | ⟨l, hl, hc⟩
  · exact .inr hsep
  · exact h l hl c hc

theorem Spelled.mono {ps qs cs : List Char} (h : Spelled ps cs) (hpq : ∀ c ∈ ps, c ∈ qs) : Spelled qs cs :=
  fun c hc => (h c hc).imp id (hpq c)

theorem Spelled.not_mem {ps cs : List Char} {c : Char} (h : Spelled ps cs) (hdigit : c.isDigit = false)
    (hc : c ∉ ps) : c ∉ cs := fun hmem => by
  rcases h c hmem with h | h
  · rw [hdigit] at h
    cases h
  · exact hc h

theorem not_mem_toDigits {c : Char} (hc : c.isDigit = false) (n : Nat) : c ∉ Nat.toDigits 10 n :=
  (spelled_toDigits [] n).not_mem hc List.not_mem_nil

theorem Spelled.not_blank {ps cs : List Char} (h : Spelled ps cs) (hps : ∀ c ∈ ps, isBlank c = false) :
    ∀ c ∈ cs, isBlank c = false := fun c hc => (h c hc).elim isBlank_of_isDigit (hps c)

/-! ### Separators -/

theorem splitOnce_append {sep : Char} {a b : List Char} (h : sep ∉ a) : splitOnce sep (a ++ sep :: b) = some (a, b) := by
  induction a with
  | nil => simp [splitOnce]
  | cons c a ih =>
    have hc : c ≠ sep := fun hc => h (hc ▸ List.mem_cons_self)
    simp [splitOnce, hc, ih (fun hs => h (List.mem_cons_of_mem c hs))]

/-- Pieces joined at a terminator that none of them holds split back into the pieces; no piece may
    be empty, for an empty last piece is dropped. --/
theorem splitTerminator_intercalate {sep : Char} {ls : List (List Char)} (hsep : ∀ l ∈ ls, sep ∉ l)
    (hne : ∀ l ∈ ls, l ≠ []) : splitTerminator sep ([sep].intercalate ls) = ls := by
  by_cases hnil : ls = []
  · subst hnil
    exact splitTerminator_nil sep
  · have hlast : ls.getLast? ≠ some [] := fun h => hne [] (List.mem_of_getLast? h) rfl
    simp only [splitTerminator, split, List.splitOn_intercalate sep hsep hnil, if_neg hlast]

end Text

/-! ### Addresses -/

namespace Net

open Text

theorem readOctet?_toDigits {n : Nat} (h : n ≤ 255) : readOctet? (Nat.toDigits 10 n) = some n.toUInt8 := by
  have hlen : (Nat.toDigits 10 n).length ≤ 3 :=
    (Nat.length_toDigits_le_iff (by decide) (by decide)).mpr (by omega)
  have hlead : ¬((Nat.toDigits 10 n).length > 1 ∧ (Nat.toDigits 10 n).head? = some '0') := by
    rintro ⟨hl, hz⟩
    rcases Nat.eq_zero_or_pos n with rfl | hn
    · simp at hl
    · exact head?_toDigits_ne_zero hn hz
  simp [readOctet?, allDigits_toDigits, hlen, hlead, digitsValue_toDigits, h]

theorem Ipv4.render_toList (ip : Ipv4) :
    ip.render.toList = ['.'].intercalate [Nat.toDigits 10 ip.a.toNat, Nat.toDigits 10 ip.b.toNat,
      Nat.toDigits 10 ip.c.toNat, Nat.toDigits 10 ip.d.toNat] := by
  simp [Ipv4.render, List.intercalate]
  rfl

theorem Ipv4.spelled_render (ip : Ipv4) : Spelled ['.'] ip.render.toList := by
  rw [render_toList]
  exact spelled_intercalate (List.mem_singleton_self _) (by simp [spelled_toDigits])

/-- A dotted quad reads back as its address. --/
theorem Ipv4.read?_render (ip : Ipv4) : Ipv4.read? ip.render = some ip := by
  unfold Ipv4.read?
  rw [render_toList, List.splitOn_intercalate]
  · have h255 (x : UInt8) : x.toNat ≤ 255 := Nat.le_of_lt_succ x.toNat_lt
    simp [readOctet?_toDigits, h255]
  · simp [not_mem_toDigits (show '.'.isDigit = false by decide)]
  · simp

end Net

/-! ### Option strings -/

namespace Options

open Text

/-- Items joined at commas, none of them empty, holding a comma or padded with blanks, are read back
    as themselves. --/
theorem items_intercalate_of_trimmed {ls : List (List Char)} (hne : ∀ l ∈ ls, l ≠ []) (hsep : ∀ l ∈ ls, ',' ∉ l)
    (htrimmed : ∀ l ∈ ls, trimChars l = l) : items (String.ofList ([','].intercalate ls)) = ls := by
  unfold items
  rw [String.toList_ofList]
  by_cases hnil : ls = []
  · subst hnil
    rfl
  · have htrim : ls.map trimChars = ls := (List.map_congr_left htrimmed).trans (List.map_id ls)
    rw [split, List.splitOn_intercalate ',' hsep hnil, htrim, List.filter_eq_self]
    intro l hl
    simp [hne l hl]

theorem items_intercalate {ls : List (List Char)} (hne : ∀ l ∈ ls, l ≠ [])
    (hchars : ∀ l ∈ ls, ∀ c ∈ l, c ≠ ',' ∧ isBlank c = false) : items (String.ofList ([','].intercalate ls)) = ls :=
  items_intercalate_of_trimmed hne (fun l hl hc => (hchars l hl ',' hc).1 rfl)
    fun l hl => trimChars_of_forall fun c hc => (hchars l hl c hc).2

theorem readItem_pair {k v : List Char} (hk : '=' ∉ k) (hblank : ∀ c ∈ k ++ v, isBlank c = false) :
    readItem (k ++ '=' :: v) = .ok (String.ofList k, String.ofList v) := by
  have hk' : trimChars k = k := trimChars_of_forall fun c hc => hblank c (List.mem_append_left v hc)
  have hv' : trimChars v = v := trimChars_of_forall fun c hc => hblank c (List.mem_append_right k hc)
  simp only [readItem, splitOnce_append hk, hk', hv']

theorem add_fresh {ps : List (String × String)} {k v : String} (hk : k ≠ "") (hfresh : k ∉ ps.map (·.1)) :
    (Options.mk ps).add k v = .ok ⟨ps ++ [(k, v)]⟩ := by
  have hnone : (Options.mk ps).get? k = none := by
    simp only [get?, Option.map_eq_none_iff, List.find?_eq_none, decide_eq_true_eq]
    exact fun p hp hpk => hfresh (List.mem_map.mpr ⟨p, hp, hpk⟩)
  simp [add, hnone, hk]

/-- An option string written from distinct, nonempty keys without `=` and values without commas or
    blanks reads back as its pairs, in order. --/
theorem parse_pairs (ps : List (List Char × List Char)) (hkeys : (ps.map (·.1)).Nodup)
    (hkey : ∀ p ∈ ps, p.1 ≠ [] ∧ '=' ∉ p.1) (hchars : ∀ p ∈ ps, ∀ c ∈ p.1 ++ p.2, c ≠ ',' ∧ isBlank c = false) :
    parse (String.ofList ([','].intercalate (ps.map fun p => p.1 ++ '=' :: p.2))) =
      .ok ⟨ps.map fun p => (String.ofList p.1, String.ofList p.2)⟩ := by
  have hitems : items (String.ofList ([','].intercalate (ps.map fun p => p.1 ++ '=' :: p.2))) =
      ps.map fun p => p.1 ++ '=' :: p.2 := by
    refine items_intercalate (fun l hl => ?_) fun l hl c hc => ?_
    · obtain ⟨p, hp, rfl⟩ := List.mem_map.mp hl
      simp
    obtain ⟨p, hp, rfl⟩ := List.mem_map.mp hl
    rcases List.mem_append.mp hc with hc | hc
    · exact hchars p hp c (List.mem_append_left _ hc)
    · rcases List.mem_cons.mp hc with rfl | hc
      · exact ⟨by decide, by decide⟩
      · exact hchars p hp c (List.mem_append_right _ hc)
  unfold parse
  rw [hitems, List.foldlM_map]
  refine Meets.eq_ok (meets_foldlM_indexed
    (I := fun (pre : List (List Char × List Char)) (o : Options) => o = ⟨pre.map fun p => (String.ofList p.1, String.ofList p.2)⟩)
    ps rfl fun pre p post o hsplit ho => ?_)
  subst ho
  have hp : p ∈ ps := by simp [hsplit]
  have hblank : ∀ c ∈ p.1 ++ p.2, isBlank c = false := fun c hc => (hchars p hp c hc).2
  -- the key is new: written keys are distinct, and so are the strings of distinct keys
  have hfresh : String.ofList p.1 ∉ (pre.map fun p => (String.ofList p.1, String.ofList p.2)).map (·.1) := by
    intro hmem
    simp only [List.map_map, List.mem_map, Function.comp_apply] at hmem
    obtain ⟨q, hq, hqp⟩ := hmem
    have : q.1 = p.1 := by simpa using congrArg String.toList hqp
    exact not_mem_map_of_nodup hkeys hsplit (List.mem_map.mpr ⟨q, hq, this⟩)
  have hk : String.ofList p.1 ≠ "" := fun h => (hkey p hp).1 (by simpa using congrArg String.toList h)
  simp only [readItem_pair (hkey p hp).2 hblank, bind, Except.bind, add_fresh hk hfresh, List.map_append,
    List.map_singleton, meets_ok]

end Options

/-! ### Fields -/

namespace Config

open Text

theorem readNumber_toDigits (key : String) {n : Nat} (h : n < Nat.pow 2 64) :
    readNumber key (Nat.toDigits 10 n) = .ok n := by
  simp only [readNumber, trimChars_of_forall ((spelled_toDigits [] n).not_blank (by simp)), readWord?_toDigits h]

theorem readPort_toDigits (x : UInt16) : readPort (Nat.toDigits 10 x.toNat) = .ok x := by
  have hlt : x.toNat < Nat.pow 2 16 := x.toNat_lt
  simp only [readPort, trimChars_of_forall ((spelled_toDigits [] _).not_blank (by simp)), readWord?_toDigits hlt,
    UInt16.ofNat_toNat, Nat.toUInt16_eq]

theorem readIp_render (ip : Net.Ipv4) : readIp ip.render.toList = .ok ip := by
  simp only [readIp, trimChars_of_forall ((Net.Ipv4.spelled_render ip).not_blank (by simp [isBlank])), String.ofList_toList,
    Net.Ipv4.read?_render]

theorem readNodeId_toDigits (key : String) (i : NodeId) : readNodeId key (Nat.toDigits 10 i.val) = .ok i := by
  have hlt : i.val < Nat.pow 2 64 := Nat.lt_trans i.lt (by decide)
  have hraw : NodeId.ofRaw i.val = .ok i := by
    simp only [NodeId.ofRaw, NodeId.ofNat?, dif_pos (And.intro i.pos i.lt)]
  simp only [readNodeId, readNumber_toDigits key hlt, hraw, bind, Except.bind, mapError_ok]

end Config

end LiveMigration
