import LiveMigration.Config.Ports

/-! # Port files: the last line that sets a port wins

A port file is read line by line from the defaults. A line sets a port when, once trimmed, it is not
empty and no comment, holds an `=`, its text before the first `=` is the port's key once trimmed, and
its text after it a nonzero 16-bit number once trimmed (`lineSets?`). Every other line (a comment, a
line without `=`, an unknown key, a value that is zero or no number) leaves both ports as they were:
a bad value does not reset a port to its default, whatever its warning says. So each port is the
value of the last line that sets it, or its default when no line does; each port reads only the
lines of its own key; and both ports are nonzero (`ports_from_last_setting_lines`).

The proof says what one line does to the ports (`applyLine_value`), and from it what the fold over
the lines does (`parse_value`): the warnings the fold writes never steer it. -/

namespace LiveMigration
namespace Ports

open Text Log

/-! ### What a line sets -/

/-- The port a line of a port file gives `key`: the line, trimmed, is neither empty nor a comment,
    its text before the first `=` is `key` once trimmed, and its text after it a nonzero 16-bit
    number once trimmed. --/
def lineSets? (key : String) (line : List Char) : Option UInt16 :=
  let t := trimChars line
  if t = [] ∨ t.head? = some '#' then none
  else (splitOnce '=' t).bind fun kv =>
    if String.ofList (trimChars kv.1) = key then
      (readWord? 16 (trimChars kv.2)).bind fun n => if n = 0 then none else some n.toUInt16
    else none

/-- The port that lines give `key`: what the last line that sets it gives, else `default`. --/
def lastSet (key : String) (default : UInt16) (ls : List (List Char)) : UInt16 :=
  ((ls.filterMap (lineSets? key)).getLast?).getD default

/-- The ports after one line: each is what the line sets it to, else what it was. --/
def setBy (p : Ports) (line : List Char) : Ports :=
  ⟨(lineSets? rdmaKey line).getD p.rdmaPort, (lineSets? tcpSyncKey line).getD p.tcpSyncPort⟩

theorem rdmaKey_ne_tcpSyncKey : rdmaKey ≠ tcpSyncKey := by decide

section Line
variable {key : String} {line k v : List Char}

/-- Blank lines and comments set no port. --/
theorem lineSets?_of_skipped (h : trimChars line = [] ∨ (trimChars line).head? = some '#') :
    lineSets? key line = none := by
  rcases h with h | h <;> simp [lineSets?, h]

/-- A line without `=` sets no port. --/
theorem lineSets?_of_unsplit (h : splitOnce '=' (trimChars line) = none) : lineSets? key line = none := by
  simp [lineSets?, h]

/-- A line `k=v` sets the port of key `k` to `v`, when that is a nonzero 16-bit number. --/
theorem lineSets?_of_split (hskip : ¬(trimChars line = [] ∨ (trimChars line).head? = some '#'))
    (h : splitOnce '=' (trimChars line) = some (k, v)) :
    lineSets? key line = if String.ofList (trimChars k) = key then readValue? v else none := by
  rw [not_or] at hskip
  unfold readValue?
  by_cases hk : String.ofList (trimChars k) = key
  · cases hn : readWord? 16 (trimChars v) with
    | none => simp [lineSets?, hskip, h, hk, hn]
    | some n => by_cases h0 : n = 0 <;> simp [lineSets?, hskip, h, hk, hn, h0]
  · simp [lineSets?, hskip, h, hk]

theorem readValue?_ne_zero {port : UInt16} (h : readValue? v = some port) : port ≠ 0 := by
  unfold readValue? at h
  cases hn : readWord? 16 (trimChars v) with
  | none => simp [hn] at h
  | some n =>
    have hlt : n < Nat.pow 2 16 := readWord?_lt hn
    by_cases h0 : n = 0
    · simp [hn, h0] at h
    · simp only [hn, h0, if_false, Option.some.injEq] at h
      subst h
      intro hz
      have hval := congrArg UInt16.toNat hz
      rw [Nat.toUInt16_eq, UInt16.toNat_ofNat_of_lt' hlt, UInt16.toNat_zero] at hval
      exact h0 hval

/-- A port a line sets is never zero. --/
theorem lineSets?_ne_zero {port : UInt16} (h : lineSets? key line = some port) : port ≠ 0 := by
  by_cases hskip : trimChars line = [] ∨ (trimChars line).head? = some '#'
  · rw [lineSets?_of_skipped hskip] at h
    cases h
  cases hsplit : splitOnce '=' (trimChars line) with
  | none =>
    rw [lineSets?_of_unsplit hsplit] at h
    cases h
  | some kv =>
    rw [lineSets?_of_split hskip hsplit] at h
    split at h
    · exact readValue?_ne_zero h
    · cases h

end Line

/-! ### One line, then the file -/

/-- What applying a trimmed line gives, whatever was written before: the ports it sets. --/
theorem applyLine_value (p : Ports) (line : List Char) (rs : List Record) :
    ((applyLine p (trimChars line)).run rs).1 = p.setBy line := by
  unfold applyLine
  by_cases hskip : trimChars line = [] ∨ (trimChars line).head? = some '#'
  · have hb : ((trimChars line).isEmpty || (trimChars line).head? = some '#') = true := by simpa using hskip
    simp only [hb, setBy, lineSets?_of_skipped hskip, if_true, Option.getD_none]
    rfl
  have hb : ((trimChars line).isEmpty || (trimChars line).head? = some '#') = false := by simpa using hskip
  cases hsplit : splitOnce '=' (trimChars line) with
  | none =>
    simp only [hb, setBy, lineSets?_of_unsplit hsplit, Option.getD_none]
    rfl
  | some kv =>
    obtain ⟨k, v⟩ := kv
    simp only [hb, setBy, lineSets?_of_split hskip hsplit]
    -- the key names the RDMA port, the sync port, or neither
    by_cases hr : String.ofList (trimChars k) = rdmaKey
    · cases readValue? v <;> simp [hr, rdmaKey_ne_tcpSyncKey] <;> rfl
    · by_cases ht : String.ofList (trimChars k) = tcpSyncKey
      · cases readValue? v <;> simp [ht] <;> rfl
      · simp [hr, ht]
        rfl

/-- The fold over lines, whatever was written before, gives the ports the lines set in turn. --/
theorem foldlM_applyLine_value (ls : List (List Char)) (p : Ports) (rs : List Record) :
    ((ls.foldlM (fun p line => applyLine p (trimChars line)) p).run rs).1 = ls.foldl setBy p := by
  induction ls generalizing p rs with
  | nil => rfl
  | cons line ls ih =>
    rw [List.foldlM_cons, List.foldl_cons, StateT.run_bind, ← applyLine_value p line rs]
    exact ih _ _

theorem parse_value (text : String) : (parse text).run'.2 = (lines text.toList).foldl setBy {} := by
  unfold parse
  rw [List.foldlM_map]
  exact foldlM_applyLine_value _ _ []

/-! ### The last line wins -/

/-- A value the lines set is the value of the last line that sets one. --/
theorem getLast?_filterMap_cons {α β : Type} (f : α → Option β) (a : α) (l : List α) (d : β) :
    (((a :: l).filterMap f).getLast?).getD d = ((l.filterMap f).getLast?).getD ((f a).getD d) := by
  cases hfa : f a with
  | none => rw [List.filterMap_cons_none hfa, Option.getD_none]
  | some b => rw [List.filterMap_cons_some hfa, List.getLast?_cons, Option.getD_some, Option.getD_some]

theorem foldl_setBy (ls : List (List Char)) (p : Ports) :
    ls.foldl setBy p = ⟨lastSet rdmaKey p.rdmaPort ls, lastSet tcpSyncKey p.tcpSyncPort ls⟩ := by
  induction ls generalizing p with
  | nil => rfl
  | cons line ls ih =>
    rw [List.foldl_cons, ih]
    simp only [lastSet, setBy, getLast?_filterMap_cons]

theorem lastSet_ne_zero {key : String} {d : UInt16} (hd : d ≠ 0) (ls : List (List Char)) : lastSet key d ls ≠ 0 := by
  unfold lastSet
  cases hlast : (ls.filterMap (lineSets? key)).getLast? with
  | none => exact hd
  | some port =>
    obtain ⟨line, -, hline⟩ := List.mem_filterMap.mp (List.mem_of_getLast? hlast)
    exact lineSets?_ne_zero hline

/-- Reading a port file. Each port is the value of the last line that sets it, or its default, 4444
    for RDMA and 4445 for the sync port, when no line does; so both are nonzero. A file that was read
    gives what its text gives, and one that could not be read the defaults. --/
theorem ports_from_last_setting_lines (text : String) :
    (parse text).run'.2 = ⟨lastSet rdmaKey 4444 (lines text.toList), lastSet tcpSyncKey 4445 (lines text.toList)⟩ ∧
    (parse text).run'.2.rdmaPort ≠ 0 ∧ (parse text).run'.2.tcpSyncPort ≠ 0 ∧
    ∀ (path : String) (content : Except OsError String), (ofFile path content).run'.2 =
      match content with
      | .ok file => (parse file).run'.2
      | .error _ => ⟨4444, 4445⟩ := by
  have hports := (parse_value text).trans (foldl_setBy _ _)
  refine ⟨hports, ?_, ?_, fun path content => ?_⟩
  · rw [hports]
    exact lastSet_ne_zero (by decide) _
  · rw [hports]
    exact lastSet_ne_zero (by decide) _
  · cases content <;> rfl

end Ports
end LiveMigration
