import LiveMigration.Proofs.KeyedTables

/-! # The order of a master configuration's checks

Building a master configuration makes its checks one after another and stops at the first that
fails. This file writes the checks down as one flat list, in the order they are made, each check
on the fields it reads and naming the fault it reports (`masterChecks`): the domain (given, a
number, a domain identifier), then the node list (given, each record in turn: four fields, the
identifier a number and a node identifier, the address, the two ports, and a node not named
before; then not empty, and holding node 1), then the region list (given, each record in turn:
two fields at least, the identifier a number below 2^32, the size a number and a nonzero multiple
of the page size, each owner field in turn, and a region not named before). A check that reads a
value another check before it failed to read passes: the earlier check has already answered.

The builder fails with exactly the first fault of that list and succeeds exactly when no check
finds one (`buildMaster_first_fault`). Its parts are related to their stretches of the list by a
Hoare-style predicate (`Reports`) with one rule per way the code composes: values, faults, binds,
guards and folds over records. -/

namespace LiveMigration

open Text Log

/-! ### The first fault of a list of checks -/

section Checks
variable {ε α β : Type}

/-- The first fault a list of checks finds, reading from the left. --/
def firstFault (cs : List (Option ε)) : Option ε := cs.findSome? id

@[simp]
theorem firstFault_nil : firstFault ([] : List (Option ε)) = none := rfl

@[simp]
theorem firstFault_cons_none (cs : List (Option ε)) : firstFault (none :: cs) = firstFault cs := rfl

@[simp]
theorem firstFault_cons_some (e : ε) (cs : List (Option ε)) : firstFault (some e :: cs) = some e := rfl

theorem firstFault_append_of_some {cs₁ cs₂ : List (Option ε)} {e : ε} (h : firstFault cs₁ = some e) :
    firstFault (cs₁ ++ cs₂) = some e := by
  rw [firstFault, List.findSome?_append, ← firstFault, h, Option.some_or]

theorem firstFault_append_of_none {cs₁ cs₂ : List (Option ε)} (h : firstFault cs₁ = none) :
    firstFault (cs₁ ++ cs₂) = firstFault cs₂ := by
  rw [firstFault, List.findSome?_append, ← firstFault, h, Option.none_or]
  rfl

/-- The checks of each item in turn, each check list given the items before it. --/
def checksAlong {γ : Type} (checks : List γ → γ → List (Option ε)) : List γ → List γ → List (Option ε)
  | _, [] => []
  | pre, c :: rest => checks pre c ++ checksAlong checks (pre ++ [c]) rest

theorem checksAlong_append {γ : Type} (checks : List γ → γ → List (Option ε)) (q xs ys : List γ) :
    checksAlong checks q (xs ++ ys) = checksAlong checks q xs ++ checksAlong checks (q ++ xs) ys := by
  induction xs generalizing q with
  | nil => simp [checksAlong]
  | cons x xs ih => simp [checksAlong, ih, List.append_assoc]

theorem checksAlong_snoc {γ : Type} (checks : List γ → γ → List (Option ε)) (pre : List γ) (c : γ) :
    checksAlong checks [] (pre ++ [c]) = checksAlong checks [] pre ++ checks pre c := by
  simp [checksAlong_append, checksAlong]

/-- A computation reports the first fault of the checks `cs`: it fails with that fault, and when no
    check finds one it returns a value meeting `P`. --/
def Reports (x : Except ε α) (cs : List (Option ε)) (P : α → Prop) : Prop :=
  Meets x (fun a => firstFault cs = none ∧ P a) (fun e => firstFault cs = some e)

theorem reports_ok {a : α} {cs : List (Option ε)} {P : α → Prop} (hcs : firstFault cs = none) (h : P a) :
    Reports (.ok a) cs P := ⟨hcs, h⟩

theorem reports_error {e : ε} {cs : List (Option ε)} {P : α → Prop} (h : firstFault cs = some e) :
    Reports (.error e : Except ε α) cs P := h

/-- The checks of a bind are those of its first part, then those of the rest. --/
theorem Reports.bind {x : Except ε α} {f : α → Except ε β} {cs₁ cs₂ : List (Option ε)} {P : α → Prop}
    {Q : β → Prop} (hx : Reports x cs₁ P) (hf : ∀ a, P a → Reports (f a) cs₂ Q) :
    Reports (x >>= f) (cs₁ ++ cs₂) Q := by
  have hx' : Meets x (fun a => firstFault cs₁ = none ∧ P a) fun e => firstFault (cs₁ ++ cs₂) = some e :=
    Meets.mono hx (fun _ ha => ha) fun _ he => firstFault_append_of_some he
  refine meets_bind hx' fun a ⟨hnone, ha⟩ => Meets.mono (hf a ha) (fun b hb => ⟨?_, hb.2⟩) fun e he => ?_
  · rw [firstFault_append_of_none hnone, hb.1]
  · rw [firstFault_append_of_none hnone, he]

/-- A bind whose first part makes one check. --/
theorem Reports.bind_one {x : Except ε α} {f : α → Except ε β} {c : Option ε} {cs : List (Option ε)}
    {P : α → Prop} {Q : β → Prop} (hx : Reports x [c] P) (hf : ∀ a, P a → Reports (f a) cs Q) :
    Reports (x >>= f) (c :: cs) Q :=
  Reports.bind hx hf

/-- A bind whose first part makes two checks. --/
theorem Reports.bind_two {x : Except ε α} {f : α → Except ε β} {c₁ c₂ : Option ε} {cs : List (Option ε)}
    {P : α → Prop} {Q : β → Prop} (hx : Reports x [c₁, c₂] P) (hf : ∀ a, P a → Reports (f a) cs Q) :
    Reports (x >>= f) (c₁ :: c₂ :: cs) Q :=
  Reports.bind hx hf

/-- A bind whose rest makes no check of its own. --/
theorem Reports.bind_last {x : Except ε α} {f : α → Except ε β} {cs : List (Option ε)} {P : α → Prop}
    {Q : β → Prop} (hx : Reports x cs P) (hf : ∀ a, P a → Reports (f a) [] Q) : Reports (x >>= f) cs Q := by
  have h := Reports.bind hx hf
  rwa [List.append_nil] at h

theorem Reports.ok_bind {a : α} {f : α → Except ε β} {cs : List (Option ε)} {Q : β → Prop}
    (h : Reports (f a) cs Q) : Reports (.ok a >>= f) cs Q := h

/-- A computation that reports the checks `cs` fails with exactly their first fault. --/
theorem Reports.eq_error_iff {x : Except ε α} {cs : List (Option ε)} {P : α → Prop} (h : Reports x cs P) {e : ε} :
    x = .error e ↔ firstFault cs = some e := by
  cases x with
  | ok a =>
    have hnone : firstFault cs = none := h.1
    simp [hnone]
  | error e' =>
    have hsome : firstFault cs = some e' := h
    simp [hsome]

/-- It succeeds exactly when no check finds a fault. --/
theorem Reports.exists_ok_iff {x : Except ε α} {cs : List (Option ε)} {P : α → Prop} (h : Reports x cs P) :
    (∃ a, x = .ok a) ↔ firstFault cs = none := by
  cases x with
  | ok a =>
    have hnone : firstFault cs = none := h.1
    simp [hnone]
  | error e =>
    have hsome : firstFault cs = some e := h
    simp [hsome]

/-- A guard `if c then throw e` is one check, which finds `e` when `c` holds. --/
theorem Reports.guard {c : Prop} [Decidable c] {e : ε} {k : Unit → Except ε α} {check : Option ε}
    {cs : List (Option ε)} {P : α → Prop} (hcheck : check = if c then some e else none)
    (hk : ¬c → Reports (k ()) cs P) : Reports (if c then throw e >>= k else k ()) (check :: cs) P := by
  by_cases hc : c
  · simp only [hc, ↓reduceIte] at hcheck ⊢
    rw [hcheck]
    exact reports_error rfl
  · simp only [hc, ↓reduceIte] at hcheck ⊢
    rw [hcheck]
    exact hk hc

end Checks

/-! ### Checks of computations that write records -/

namespace Log

section Told
variable {ε α β : Type}

theorem Told.Meets.mono {x : Told ε α} {ok ok' : α → Prop} {err err' : ε → Prop} (h : Told.Meets x ok err)
    (hok : ∀ a, ok a → ok' a) (herr : ∀ e, err e → err' e) : Told.Meets x ok' err' :=
  fun rs => LiveMigration.Meets.mono (h rs) hok herr

/-- A computation that writes records reports the first fault of the checks `cs`. --/
def Told.Reports (x : Told ε α) (cs : List (Option ε)) (P : α → Prop) : Prop :=
  Told.Meets x (fun a => firstFault cs = none ∧ P a) (fun e => firstFault cs = some e)

theorem Told.reports_ofExcept {x : Except ε α} {cs : List (Option ε)} {P : α → Prop}
    (h : LiveMigration.Reports x cs P) : Told.Reports (Told.ofExcept x) cs P :=
  Told.meets_ofExcept h

/-- Writing a record makes no check. --/
theorem Told.Reports.tell_bind {r : Record} {f : Unit → Told ε β} {cs : List (Option ε)} {Q : β → Prop}
    (h : Told.Reports (f ()) cs Q) : Told.Reports (tell r >>= f) cs Q :=
  fun rs => h (rs ++ [r])

theorem Told.reports_pure {a : α} {P : α → Prop} (h : P a) : Told.Reports (pure a : Told ε α) [] P :=
  Told.meets_pure ⟨rfl, h⟩

theorem Told.Reports.bind {x : Told ε α} {f : α → Told ε β} {cs₁ cs₂ : List (Option ε)} {P : α → Prop}
    {Q : β → Prop} (hx : Told.Reports x cs₁ P) (hf : ∀ a, P a → Told.Reports (f a) cs₂ Q) :
    Told.Reports (x >>= f) (cs₁ ++ cs₂) Q := by
  have hx' : Told.Meets x (fun a => firstFault cs₁ = none ∧ P a) fun e => firstFault (cs₁ ++ cs₂) = some e :=
    Told.Meets.mono hx (fun _ ha => ha) fun _ he => firstFault_append_of_some he
  refine Told.meets_bind hx' fun a ⟨hnone, ha⟩ => Told.Meets.mono (hf a ha) (fun b hb => ⟨?_, hb.2⟩) fun e he => ?_
  · rw [firstFault_append_of_none hnone, hb.1]
  · rw [firstFault_append_of_none hnone, he]

theorem Told.Reports.bind_last {x : Told ε α} {f : α → Told ε β} {cs : List (Option ε)} {P : α → Prop}
    {Q : β → Prop} (hx : Told.Reports x cs P) (hf : ∀ a, P a → Told.Reports (f a) [] Q) :
    Told.Reports (x >>= f) cs Q := by
  have h := Told.Reports.bind hx hf
  rwa [List.append_nil] at h

theorem Told.Reports.ofExcept_ok_bind {a : α} {f : α → Told ε β} {cs : List (Option ε)} {Q : β → Prop}
    (h : Told.Reports (f a) cs Q) : Told.Reports (Told.ofExcept (.ok a) >>= f) cs Q :=
  fun rs => h rs

theorem Told.reports_ofExcept_error_bind {e : ε} {f : α → Told ε β} {cs : List (Option ε)} {Q : β → Prop}
    (h : firstFault cs = some e) : Told.Reports (Told.ofExcept (.error e) >>= f) cs Q :=
  fun _ => h

theorem Told.Reports.guard {c : Prop} [Decidable c] {e : ε} {k : Unit → Told ε α} {check : Option ε}
    {cs : List (Option ε)} {P : α → Prop} (hcheck : check = if c then some e else none)
    (hk : ¬c → Told.Reports (k ()) cs P) : Told.Reports (if c then throw e >>= k else k ()) (check :: cs) P := by
  by_cases hc : c
  · simp only [hc, ↓reduceIte] at hcheck ⊢
    rw [hcheck]
    exact Told.meets_bind (Told.meets_throw rfl) fun _ (h : False) => h.elim
  · simp only [hc, ↓reduceIte] at hcheck ⊢
    rw [hcheck]
    exact hk hc

/-- A fold over records reports the checks of each record in turn, each given the records before
    it, when each step keeps an invariant `I` of the records folded so far. --/
theorem Told.reports_foldlM {γ : Type} {f : β → γ → Told ε β} {init : β} (checks : List γ → γ → List (Option ε))
    {I : List γ → β → Prop} (l : List γ) (hinit : I [] init)
    (hstep : ∀ pre c post b, l = pre ++ c :: post → I pre b → Told.Reports (f b c) (checks pre c) (I (pre ++ [c]))) :
    Told.Reports (l.foldlM f init) (checksAlong checks [] l) (I l) := by
  refine Told.meets_foldlM_indexed (I := fun pre b => firstFault (checksAlong checks [] pre) = none ∧ I pre b) l
    ⟨rfl, hinit⟩ fun pre c post b hl ⟨hpre, hb⟩ => Told.Meets.mono (hstep pre c post b hl hb)
      (fun b' hb' => ⟨?_, hb'.2⟩) fun e he => ?_
  · rw [checksAlong_snoc, firstFault_append_of_none hpre, hb'.1]
  · -- the checks of the whole list run through those of `pre`, then those of `c`
    rw [hl, checksAlong_append, List.nil_append, checksAlong, firstFault_append_of_none hpre,
      firstFault_append_of_some he]

theorem Told.Reports.run {x : Told ε α} {cs : List (Option ε)} {P : α → Prop} (h : Told.Reports x cs P) :
    LiveMigration.Reports x.run.2 cs P :=
  Told.Meets.run h

end Told

end Log

/-! ### Adding configured nodes -/

namespace Registry

/-- A configured node joins a configured registry unless its identifier is taken: a second master
    would be node 1 again. --/
theorem insert_of_configured {r : Registry} {d : DomainId} {n : Node} (hr : r.Configured d) (hn : n.Configured d) :
    r.insert n = if r.contains n.domain n.id then .error (.duplicateNode n.id n.domain) else .ok ⟨r.nodes ++ [n]⟩ := by
  split
  · rename_i h
    exact insert_eq_duplicateNode_iff.mpr h
  · rename_i h
    refine insert_eq_ok_iff.mpr ⟨by simpa using h, fun hm => master?_eq_none_iff.mpr fun x hx hxd => ?_⟩
    cases hxm : x.isMaster
    · rfl
    · have hid : x.id = n.id := by rw [(hr.nodes x hx).isMaster.mp hxm, hn.isMaster.mp hm]
      exact absurd (contains_iff.mpr ⟨x, hx, hxd, hid⟩) h

end Registry

/-! ### The checks of a master configuration -/

namespace Config

/-- The number a field holds: a 64-bit decimal once trimmed. --/
def number? (field : List Char) : Option Nat := readWord? 64 (trimChars field)

/-- The node a field names, when its number is a node identifier. --/
def nodeId? (field : List Char) : Option NodeId := (number? field).bind NodeId.ofNat?

/-- The field holds a 64-bit number. --/
def numberCheck (key : String) (field : List Char) : Option ConfigError :=
  if (number? field).isNone then some (.invalidNumber key (String.ofList field)) else none

/-- The number the field holds is a node identifier, from 1 to 65535. --/
def nodeIdCheck (field : List Char) : Option ConfigError :=
  (number? field).bind fun raw => if 0 < raw ∧ raw < 65536 then none else some (.node (.invalidNodeId raw))

/-- The number the field holds is a domain identifier, from 1 to 65535. --/
def domainIdCheck (field : List Char) : Option ConfigError :=
  (number? field).bind fun raw => if 0 < raw ∧ raw < 65536 then none else some (.node (.invalidDomainId raw))

/-- The field holds an IPv4 address. --/
def addressCheck (field : List Char) : Option ConfigError :=
  if (Net.Ipv4.read? (String.ofList (trimChars field))).isNone then some (.invalidAddress (String.ofList field))
  else none

/-- The field holds a 16-bit port. --/
def portCheck (field : List Char) : Option ConfigError :=
  if (readWord? 16 (trimChars field)).isNone then some (.invalidNumber "port" (String.ofList field)) else none

/-! #### Node records -/

/-- The checks of one node record on its own: four fields, then the identifier (a number and a node
    identifier), the address, and the RDMA and sync ports. --/
def nodeRecordChecks (record : List Char) : List (Option ConfigError) :=
  match splitTerminator ':' record with
  | [idField, ipField, rdmaField, tcpField] =>
    [numberCheck nodeListKey idField, nodeIdCheck idField, addressCheck ipField, portCheck rdmaField,
      portCheck tcpField]
  | _ => [some (.malformedRecord nodeListKey (String.ofList record))]

/-- The node a record names. --/
def recordNodeId? (record : List Char) : Option NodeId :=
  match splitTerminator ':' record with
  | [idField, _, _, _] => nodeId? idField
  | _ => none

/-- The checks of a node record of domain `d` after the records `pre`: its own, then that no record
    before it names its node. --/
def nodeChecks (d : DomainId) (pre : List (List Char)) (record : List Char) : List (Option ConfigError) :=
  nodeRecordChecks record ++
    [(recordNodeId? record).bind fun id =>
      if id ∈ pre.filterMap recordNodeId? then some (.node (.duplicateNode id d)) else none]

/-! #### Region records -/

/-- The checks of an owner field of region `region`, after the owner fields `pre`, against the nodes
    `known`: room for another owner, then a number, a node identifier, a node of the list, and a
    node not listed before. --/
def ownerChecks (known : List NodeId) (region : Nat) (pre : List (List Char)) (field : List Char) :
    List (Option ConfigError) :=
  [if ownerCapacity ≤ pre.length then some (.region (.tooManyOwners region)) else none,
   numberCheck regionListKey field,
   nodeIdCheck field,
   (nodeId? field).bind fun owner => if owner ∈ known then none else some (.unknownOwner region owner),
   (nodeId? field).bind fun owner =>
     if owner ∈ pre.filterMap nodeId? then some (.duplicateOwner region owner) else none]

/-- The checks of one region record on its own, with pages of `p` bytes and the nodes `known`: two
    fields at least, then the identifier (a number, below 2^32), the size (a number, a nonzero
    multiple of `p`), and each owner field in turn. --/
def regionRecordChecks (p : Nat) (known : List NodeId) (record : List Char) : List (Option ConfigError) :=
  match splitTerminator ':' record with
  | idField :: sizeField :: ownerFields =>
    [numberCheck regionListKey idField,
     (number? idField).bind fun id =>
       if Nat.pow 2 32 ≤ id then some (.invalidNumber regionListKey (String.ofList idField)) else none,
     numberCheck regionListKey sizeField,
     (number? idField).bind fun id => (number? sizeField).bind fun size =>
       if size = 0 ∨ p = 0 ∨ size % p ≠ 0 then some (.region (.invalidSize id size p)) else none] ++
    match number? idField with
    | some id => checksAlong (ownerChecks known id) [] ownerFields
    | none => []
  | _ => [some (.malformedRecord regionListKey (String.ofList record))]

/-- The region a record names. --/
def recordRegionId? (record : List Char) : Option Nat :=
  match splitTerminator ':' record with
  | idField :: _ :: _ => number? idField
  | _ => none

/-- The checks of a region record of domain `d` after the records `pre`: its own, then that no
    record before it names its region. --/
def regionChecks (p : Nat) (d : DomainId) (known : List NodeId) (pre : List (List Char)) (record : List Char) :
    List (Option ConfigError) :=
  regionRecordChecks p known record ++
    [(recordRegionId? record).bind fun id =>
      if id ∈ pre.filterMap recordRegionId? then some (.region (.duplicateRegion d id)) else none]

/-! #### The options -/

/-- The checks of the domain: the option `dsmid` is given, holds a number, and the number is a
    domain identifier. --/
def domainChecks (o : Options) : List (Option ConfigError) :=
  match o.get? domainKey with
  | none => [some (.missingKey domainKey)]
  | some v => [numberCheck domainKey v.toList, domainIdCheck v.toList]

/-- The domain the options name. --/
def domain? (o : Options) : Option DomainId :=
  (o.get? domainKey).bind fun v => (number? v.toList).bind DomainId.ofNat?

/-- The records of the node list. --/
def nodeRecords (o : Options) : List (List Char) :=
  ((o.get? nodeListKey).map fun list => splitTerminator '#' list.toList).getD []

/-- The checks of the node list of domain `d`: the option `vminfo` is given, each record in turn,
    then the list is not empty and names node 1. --/
def nodeListChecks (d : DomainId) (o : Options) : List (Option ConfigError) :=
  match o.get? nodeListKey with
  | none => [some (.missingKey nodeListKey)]
  | some list =>
    checksAlong (nodeChecks d) [] (splitTerminator '#' list.toList) ++
      [if splitTerminator '#' list.toList = [] then some .emptyNodeList else none,
       if NodeId.master ∈ (splitTerminator '#' list.toList).filterMap recordNodeId? then none
       else some (.missingLocalNode NodeId.master)]

/-- The checks of the region list of domain `d` with pages of `p` bytes: the option `mr` is given,
    then each record in turn, against the nodes of the node list. --/
def regionListChecks (p : Nat) (d : DomainId) (o : Options) : List (Option ConfigError) :=
  match o.get? regionListKey with
  | none => [some (.missingKey regionListKey)]
  | some list =>
    checksAlong (regionChecks p d ((nodeRecords o).filterMap recordNodeId?)) [] (splitTerminator '#' list.toList)

/-- Every check of a master's options with pages of `p` bytes, in the order they are made: the
    domain, and once it reads, the node list and then the region list. --/
def masterChecks (p : Nat) (o : Options) : List (Option ConfigError) :=
  domainChecks o ++
    match domain? o with
    | none => []
    | some d => nodeListChecks d o ++ regionListChecks p d o

/-! ### Fields -/

theorem readNumber_reports (key : String) (field : List Char) :
    Reports (readNumber key field) [numberCheck key field] (number? field = some ·) := by
  unfold readNumber numberCheck number?
  split
  · rename_i n hn
    exact reports_ok (by simp [hn]) hn
  · rename_i hn
    exact reports_error (by simp [hn])

theorem readPort_reports (field : List Char) : Reports (readPort field) [portCheck field] fun _ => True := by
  unfold readPort portCheck
  split
  · rename_i n hn
    exact reports_ok (by simp [hn]) trivial
  · rename_i hn
    exact reports_error (by simp [hn])

theorem readIp_reports (field : List Char) : Reports (readIp field) [addressCheck field] fun _ => True := by
  unfold readIp addressCheck
  split
  · rename_i ip hip
    exact reports_ok (by simp [hip]) trivial
  · rename_i hip
    exact reports_error (by simp [hip])

theorem readNodeId_reports (key : String) (field : List Char) :
    Reports (readNodeId key field) [numberCheck key field, nodeIdCheck field] (nodeId? field = some ·) := by
  refine Reports.bind (readNumber_reports key field) fun raw hraw => ?_
  unfold nodeIdCheck nodeId? NodeId.ofRaw
  rw [hraw, Option.bind_some, Option.bind_some]
  by_cases h : 0 < raw ∧ raw < 65536
  · have hid : NodeId.ofNat? raw = some ⟨raw, h.1, h.2⟩ := dif_pos h
    rw [hid, if_pos h]
    exact reports_ok rfl rfl
  · have hid : NodeId.ofNat? raw = none := dif_neg h
    rw [hid, if_neg h]
    exact reports_error rfl

theorem readDomain_reports (o : Options) : Reports (readDomain o) (domainChecks o) (domain? o = some ·) := by
  unfold readDomain domainChecks domain?
  cases hv : o.get? domainKey with
  | none =>
    have hreq : o.require domainKey = .error (.missingKey domainKey) := by simp [Options.require, hv]
    rw [hreq]
    exact reports_error rfl
  | some v =>
    have hreq : o.require domainKey = .ok v := by simp [Options.require, hv]
    rw [hreq]
    refine Reports.ok_bind ?_
    refine Reports.bind (readNumber_reports domainKey v.toList) fun raw hraw => ?_
    unfold domainIdCheck DomainId.ofRaw
    rw [hraw, Option.bind_some, Option.bind_some]
    by_cases h : 0 < raw ∧ raw < 65536
    · have hid : DomainId.ofNat? raw = some ⟨raw, h.1, h.2⟩ := dif_pos h
      rw [hid, if_pos h]
      exact reports_ok rfl (by simp [hraw, hid])
    · have hid : DomainId.ofNat? raw = none := dif_neg h
      rw [hid, if_neg h]
      exact reports_error rfl

/-! ### Records -/

theorem readNode_reports (d : DomainId) (record : List Char) :
    Reports (readNode d record) (nodeRecordChecks record) fun n => n.Configured d ∧ recordNodeId? record = some n.id := by
  unfold readNode nodeRecordChecks recordNodeId?
  generalize splitTerminator ':' record = fields
  match fields with
  | [idField, ipField, rdmaField, tcpField] =>
    refine Reports.bind_two (readNodeId_reports nodeListKey idField) fun id hid => ?_
    refine Reports.bind_one (readIp_reports ipField) fun _ _ => ?_
    refine Reports.bind_one (readPort_reports rdmaField) fun _ _ => ?_
    refine Reports.bind_one (readPort_reports tcpField) fun _ _ => ?_
    exact reports_ok rfl ⟨⟨rfl, by simp, rfl⟩, hid⟩
  | [] | [_] | [_, _] | [_, _, _] | _ :: _ :: _ :: _ :: _ :: _ => exact reports_error rfl

/-- The owner fields after `pre` report their checks in turn, while the owners taken so far are
    those `pre` names. --/
theorem readOwners_reports (d : DomainId) (nodes : Registry) {known : List NodeId}
    (hknown : ∀ x, nodes.contains d x = true ↔ x ∈ known) (region : Nat) (fields : List (List Char)) :
    ∀ (pre : List (List Char)) (owners : OwnerList), owners.ids = pre.filterMap nodeId? →
      owners.size = pre.length →
      Reports (readOwners d nodes region owners fields) (checksAlong (ownerChecks known region) pre fields)
        fun _ => True := by
  induction fields with
  | nil => exact fun _ _ _ _ => reports_ok rfl trivial
  | cons field rest ih =>
    intro pre owners hids hsize
    have hbound : owners.size ≤ ownerCapacity := owners.bound
    rw [readOwners]
    refine Reports.guard (if_congr ?_ rfl rfl) fun hfull => ?_
    · simp only [OwnerList.isFull, beq_iff_eq]
      omega
    refine Reports.bind_two (readNodeId_reports regionListKey field) fun owner hown => ?_
    refine Reports.guard ?_ fun _ => ?_
    · rw [hown, Option.bind_some]
      by_cases h : owner ∈ known <;> simp [h, hknown]
    refine Reports.guard ?_ fun _ => ?_
    · rw [hown, Option.bind_some, ← hids]
      by_cases h : owner ∈ owners.ids <;> simp [h, OwnerList.contains]
    -- the list has room: it was not full
    have hroom : owners.ids.length < ownerCapacity := by
      simp only [OwnerList.isFull, beq_iff_eq, OwnerList.size] at hfull hbound hsize
      omega
    have hpush : owners.push owner = .ok ⟨owners.ids ++ [owner], by
        rw [List.length_append, List.length_singleton]; omega⟩ := dif_pos hroom
    rw [hpush]
    refine ih (pre ++ [field]) _ ?_ ?_
    · rw [List.filterMap_append, ← hids]
      simp [hown]
    · simp only [OwnerList.size, List.length_append, List.length_singleton] at hsize ⊢
      omega

theorem checkRegionSize_reports (id size p : Nat) :
    Reports ((checkRegionSize id size p).mapError ConfigError.region)
      [if size = 0 ∨ p = 0 ∨ size % p ≠ 0 then some (.region (.invalidSize id size p)) else none]
      fun _ => checkRegionSize id size p = .ok () := by
  by_cases h : size = 0 ∨ p = 0 ∨ size % p ≠ 0
  · have hsize : checkRegionSize id size p = .error (.invalidSize id size p) := if_pos h
    rw [hsize, if_pos h]
    exact reports_error rfl
  · have hsize : checkRegionSize id size p = .ok () := if_neg h
    rw [hsize, if_neg h]
    exact reports_ok rfl rfl

theorem readRegion_reports (p : Nat) (d : DomainId) (nodes : Registry) {known : List NodeId}
    (hknown : ∀ x, nodes.contains d x = true ↔ x ∈ known) (record : List Char) :
    Reports (readRegion p d nodes record) (regionRecordChecks p known record)
      fun r => r.domain = d ∧ recordRegionId? record = some r.id := by
  unfold readRegion regionRecordChecks recordRegionId?
  generalize splitTerminator ':' record = fields
  match fields with
  | idField :: sizeField :: ownerFields =>
    refine Reports.bind_one (readNumber_reports regionListKey idField) fun id hid => ?_
    simp only [hid, Option.bind_some]
    refine Reports.guard rfl fun _ => ?_
    refine Reports.bind_one (readNumber_reports regionListKey sizeField) fun size hsize => ?_
    simp only [hsize, Option.bind_some]
    refine Reports.bind_one (checkRegionSize_reports id size p) fun _ hok => ?_
    refine Reports.bind_last (readOwners_reports d nodes hknown id ownerFields [] OwnerList.empty rfl rfl)
      fun owners _ => ?_
    simp only [Region.make, hok]
    exact reports_ok rfl ⟨rfl, rfl⟩
  | [] | [_] => exact reports_error rfl

/-! ### The lists -/

/-- The registry after the node records `pre`: the node of each record, in domain `d`. --/
structure NodesRead (d : DomainId) (pre : List (List Char)) (r : Registry) : Prop where
  configured : r.Configured d
  ids : r.nodes.map (·.id) = pre.filterMap recordNodeId?
  length : r.nodes.length = pre.length

theorem NodesRead.contains_iff {d : DomainId} {pre : List (List Char)} {r : Registry} (hr : NodesRead d pre r)
    (x : NodeId) : r.contains d x = true ↔ x ∈ pre.filterMap recordNodeId? := by
  rw [Registry.contains_iff, ← hr.ids, List.mem_map]
  constructor
  · rintro ⟨n, hn, -, hid⟩
    exact ⟨n, hn, hid⟩
  · rintro ⟨n, hn, hid⟩
    exact ⟨n, hn, (hr.configured.nodes n hn).domain, hid⟩

theorem readNodeList_step (d : DomainId) {pre : List (List Char)} {record : List Char} {r : Registry}
    (hr : NodesRead d pre r) :
    Told.Reports (do
        let node ← Told.ofExcept (readNode d record)
        tell (debugRecord ("Adding node " ++ node.render))
        Told.ofExcept ((r.insert node).mapError ConfigError.node))
      (nodeChecks d pre record) (NodesRead d (pre ++ [record])) := by
  refine Told.Reports.bind (Told.reports_ofExcept (readNode_reports d record)) fun node ⟨hnode, hid⟩ => ?_
  refine Told.Reports.tell_bind (Told.reports_ofExcept ?_)
  rw [Registry.insert_of_configured hr.configured hnode, hid, Option.bind_some, hnode.domain]
  by_cases h : node.id ∈ pre.filterMap recordNodeId?
  · rw [if_pos ((hr.contains_iff node.id).mpr h), if_pos h, mapError_error]
    exact reports_error rfl
  · have hins : r.insert node = .ok ⟨r.nodes ++ [node]⟩ := by
      rw [Registry.insert_of_configured hr.configured hnode, hnode.domain, if_neg (mt (hr.contains_iff node.id).mp h)]
    rw [if_neg (mt (hr.contains_iff node.id).mp h), if_neg h, mapError_ok]
    refine reports_ok rfl ⟨?_, ?_, ?_⟩
    · exact (Registry.insert_meets hr.configured hnode).of_eq_ok (by rw [hins]; rfl)
    · simp [List.filterMap_append, hid, hr.ids]
    · simp [hr.length]

theorem readNodeList_reports (d : DomainId) (list : String) :
    Told.Reports (readNodeList d list)
      (checksAlong (nodeChecks d) [] (splitTerminator '#' list.toList) ++
        [if splitTerminator '#' list.toList = [] then some .emptyNodeList else none])
      (NodesRead d (splitTerminator '#' list.toList)) := by
  unfold readNodeList
  refine Told.Reports.bind (Told.reports_foldlM (nodeChecks d) _ ⟨Registry.configured_empty d, rfl, rfl⟩
    fun _ _ _ _ _ hr => readNodeList_step d hr) fun nodes hnodes => ?_
  refine Told.Reports.guard (if_congr ?_ rfl rfl) fun _ => Told.reports_pure hnodes
  -- no node was read exactly when there was no record
  rw [List.isEmpty_iff, ← List.length_eq_zero_iff, ← List.length_eq_zero_iff, hnodes.length]

/-- The table after the region records `pre`: the region of each record, in domain `d`. --/
structure RegionsRead (d : DomainId) (pre : List (List Char)) (t : RegionTable) : Prop where
  domain : ∀ x ∈ t.regions, x.domain = d
  ids : t.regions.map (·.id) = pre.filterMap recordRegionId?

theorem RegionsRead.taken_iff {d : DomainId} {pre : List (List Char)} {t : RegionTable} (ht : RegionsRead d pre t)
    (i : Nat) : (t.find? d i).isSome = true ↔ i ∈ pre.filterMap recordRegionId? := by
  rw [RegionTable.find?_isSome_iff, ← ht.ids, List.mem_map]
  constructor
  · rintro ⟨x, hx, -, hid⟩
    exact ⟨x, hx, hid⟩
  · rintro ⟨x, hx, hid⟩
    exact ⟨x, hx, ht.domain x hx, hid⟩

theorem readRegionList_step (p : Nat) (d : DomainId) (nodes : Registry) {known : List NodeId}
    (hknown : ∀ x, nodes.contains d x = true ↔ x ∈ known) {pre : List (List Char)} {record : List Char}
    {t : RegionTable} (ht : RegionsRead d pre t) :
    Told.Reports (do
        let region ← Told.ofExcept (readRegion p d nodes record)
        tell (debugRecord ("Adding region " ++ region.render))
        Told.ofExcept ((t.insert region).mapError ConfigError.region))
      (regionChecks p d known pre record) (RegionsRead d (pre ++ [record])) := by
  refine Told.Reports.bind (Told.reports_ofExcept (readRegion_reports p d nodes hknown record))
    fun region ⟨hdom, hid⟩ => ?_
  refine Told.Reports.tell_bind (Told.reports_ofExcept ?_)
  unfold RegionTable.insert
  rw [hid, Option.bind_some, hdom]
  by_cases h : region.id ∈ pre.filterMap recordRegionId?
  · rw [if_pos ((ht.taken_iff region.id).mpr h), if_pos h, mapError_error]
    exact reports_error rfl
  · rw [if_neg (mt (ht.taken_iff region.id).mp h), if_neg h, mapError_ok]
    refine reports_ok rfl ⟨fun x hx => ?_, by simp [List.filterMap_append, hid, ht.ids]⟩
    rcases List.mem_append.mp hx with hx | hx
    · exact ht.domain x hx
    · rw [List.mem_singleton.mp hx, hdom]

theorem readRegionList_reports (p : Nat) (d : DomainId) (nodes : Registry) {known : List NodeId}
    (hknown : ∀ x, nodes.contains d x = true ↔ x ∈ known) (list : String) :
    Told.Reports (readRegionList p d nodes list) (checksAlong (regionChecks p d known) [] (splitTerminator '#' list.toList))
      (RegionsRead d (splitTerminator '#' list.toList)) := by
  unfold readRegionList
  exact Told.reports_foldlM (regionChecks p d known) _ ⟨by simp [RegionTable.empty], rfl⟩
    fun _ _ _ _ _ ht => readRegionList_step p d nodes hknown ht

/-! ### The configuration -/

theorem buildMaster_reports (p : Nat) (o : Options) :
    Told.Reports (buildMaster p o) (masterChecks p o) fun _ => True := by
  unfold buildMaster masterChecks
  refine Told.Reports.bind (Told.reports_ofExcept (readDomain_reports o)) fun d hd => ?_
  simp only [hd]
  refine Told.Reports.tell_bind ?_
  unfold nodeListChecks
  cases hlist : o.get? nodeListKey with
  | none =>
    have hreq : o.require nodeListKey = .error (.missingKey nodeListKey) := by simp [Options.require, hlist]
    rw [hreq]
    exact Told.reports_ofExcept_error_bind rfl
  | some list =>
    have hreq : o.require nodeListKey = .ok list := by simp [Options.require, hlist]
    -- the node list's own checks, then node 1 among its nodes, then the region list
    rw [hreq, List.append_assoc, show ∀ (e l : Option ConfigError) (rest : List (Option ConfigError)),
      [e, l] ++ rest = [e] ++ l :: rest from fun _ _ _ => rfl, ← List.append_assoc]
    refine Told.Reports.ofExcept_ok_bind (Told.Reports.bind (readNodeList_reports d list) fun nodes hnodes => ?_)
    refine Told.Reports.guard ?_ fun _ => ?_
    · by_cases h : NodeId.master ∈ (splitTerminator '#' list.toList).filterMap recordNodeId? <;>
        simp [h, hnodes.contains_iff]
    have hknown : ∀ x, nodes.contains d x = true ↔ x ∈ (nodeRecords o).filterMap recordNodeId? := by
      simp only [nodeRecords, hlist, Option.map_some, Option.getD_some]
      exact hnodes.contains_iff
    unfold regionListChecks
    cases hregions : o.get? regionListKey with
    | none =>
      have hreq : o.require regionListKey = .error (.missingKey regionListKey) := by
        simp [Options.require, hregions]
      rw [hreq]
      exact Told.reports_ofExcept_error_bind rfl
    | some regionList =>
      have hreq : o.require regionListKey = .ok regionList := by simp [Options.require, hregions]
      rw [hreq]
      refine Told.Reports.ofExcept_ok_bind (Told.Reports.bind_last (readRegionList_reports p d nodes hknown regionList)
        fun _ _ => ?_)
      exact Told.Reports.tell_bind (Told.reports_pure trivial)

/-! ### Which fault a region record gets -/

/-- The nodes of a registry in domain `d`. --/
theorem contains_iff_mem_ids (nodes : Registry) (d : DomainId) (x : NodeId) :
    nodes.contains d x = true ↔ x ∈ (nodes.nodes.filter (·.domain = d)).map (·.id) := by
  rw [Registry.contains_iff, List.mem_map]
  constructor
  · rintro ⟨n, hn, hd, hid⟩
    exact ⟨n, List.mem_filter.mpr ⟨hn, decide_eq_true hd⟩, hid⟩
  · rintro ⟨n, hn, hid⟩
    obtain ⟨hn, hd⟩ := List.mem_filter.mp hn
    exact ⟨n, hn, of_decide_eq_true hd, hid⟩

theorem nodeId?_eq_some {field : List Char} {x : NodeId} (h : nodeId? field = some x) :
    number? field = some x.val ∧ 0 < x.val ∧ x.val < 65536 := by
  obtain ⟨raw, hraw, hx⟩ := Option.bind_eq_some_iff.mp h
  rw [← NodeId.ofNat?_val hx] at hraw
  exact ⟨hraw, x.pos, x.lt⟩

/-- Owner fields that name distinct nodes of the list, not named before, while the list has room,
    find no fault. --/
theorem firstFault_ownerChecks_of_valid (known : List NodeId) (region : Nat) (fields : List (List Char)) :
    ∀ (pre : List (List Char)) (ids : List NodeId), fields.map nodeId? = ids.map some →
      (pre.filterMap nodeId? ++ ids).Nodup → (∀ x ∈ ids, x ∈ known) → pre.length + fields.length ≤ ownerCapacity →
      firstFault (checksAlong (ownerChecks known region) pre fields) = none := by
  induction fields with
  | nil => exact fun _ _ _ _ _ _ => rfl
  | cons field rest ih =>
    intro pre ids hids hnodup hknown hroom
    obtain ⟨x, xs, rfl, hx, hxs⟩ : ∃ x xs, ids = x :: xs ∧ nodeId? field = some x ∧ rest.map nodeId? = xs.map some := by
      cases ids with
      | nil => cases hids
      | cons x xs =>
        simp only [List.map_cons, List.cons.injEq] at hids
        exact ⟨x, xs, rfl, hids.1, hids.2⟩
    obtain ⟨hnum, hpos, hlt⟩ := nodeId?_eq_some hx
    have hfresh : ¬∃ a, a ∈ pre ∧ nodeId? a = some x := fun hmem =>
      (List.nodup_append.mp hnodup).2.2 x (List.mem_filterMap.mpr hmem) x List.mem_cons_self rfl
    have hfull : ¬ownerCapacity ≤ pre.length := by
      simp only [List.length_cons] at hroom
      omega
    have hown : firstFault (ownerChecks known region pre field) = none := by
      simp [ownerChecks, numberCheck, nodeIdCheck, hnum, hx, hpos, hlt, hfull, hfresh, hknown x List.mem_cons_self]
    rw [checksAlong, firstFault_append_of_none hown]
    refine ih (pre ++ [field]) xs hxs ?_ (fun y hy => hknown y (List.mem_cons_of_mem x hy)) ?_
    · simpa [List.filterMap_append, hx] using hnodup
    · simp only [List.length_append, List.length_cons, List.length_nil] at hroom ⊢
      omega

section Region
variable {p : Nat} {d : DomainId} {nodes : Registry} {record idField sizeField : List Char}
  {ownerFields : List (List Char)} {id : Nat}

/-- The checks of a record whose identifier reads and is below 2^32: the identifier's two pass,
    then come the size's two and the owner fields'. --/
theorem regionRecordChecks_of_id {known : List NodeId}
    (hsplit : splitTerminator ':' record = idField :: sizeField :: ownerFields) (hid : number? idField = some id)
    (hid32 : id < Nat.pow 2 32) :
    regionRecordChecks p known record =
      none :: none :: numberCheck regionListKey sizeField ::
        ((number? sizeField).bind fun size =>
          if size = 0 ∨ p = 0 ∨ size % p ≠ 0 then some (.region (.invalidSize id size p)) else none) ::
        checksAlong (ownerChecks known id) [] ownerFields := by
  have hnot32 : ¬Nat.pow 2 32 ≤ id := by omega
  unfold regionRecordChecks
  rw [hsplit]
  simp only [numberCheck, hid, Option.isNone_some, Option.bind_some, hnot32, Bool.false_eq_true, ↓reduceIte,
    List.cons_append, List.nil_append]

/-- A record whose identifier and size are right, and whose first 32 owner fields name distinct nodes
    of the list, fails with too many owners when it has more owner fields, whatever they hold. --/
theorem readRegion_tooManyOwners (hsplit : splitTerminator ':' record = idField :: sizeField :: ownerFields)
    (hid : number? idField = some id) (hid32 : id < Nat.pow 2 32) {size : Nat}
    (hsize : number? sizeField = some size) (hpage : 0 < size ∧ 0 < p ∧ size % p = 0) {ids : List NodeId}
    (hfirst : (ownerFields.take ownerCapacity).map nodeId? = ids.map some) (hnodup : ids.Nodup)
    (hknown : ∀ x ∈ ids, nodes.contains d x = true) (hlong : ownerCapacity < ownerFields.length) :
    readRegion p d nodes record = .error (.region (.tooManyOwners id)) := by
  refine (readRegion_reports p d nodes (contains_iff_mem_ids nodes d) record).eq_error_iff.mpr ?_
  obtain ⟨field, rest, hdrop⟩ : ∃ field rest, ownerFields.drop ownerCapacity = field :: rest := by
    cases h : ownerFields.drop ownerCapacity with
    | nil => simp at h; omega
    | cons field rest => exact ⟨field, rest, rfl⟩
  have htake : (ownerFields.take ownerCapacity).length = ownerCapacity := List.length_take_of_le (by omega)
  -- the first 32 owner fields pass, and the next one finds the list full
  have hvalid := firstFault_ownerChecks_of_valid ((nodes.nodes.filter (·.domain = d)).map (·.id)) id
    (ownerFields.take ownerCapacity) [] ids hfirst (by simpa using hnodup)
    (fun x hx => (contains_iff_mem_ids nodes d x).mp (hknown x hx))
    (Nat.le_of_eq (by rw [List.length_nil, htake, Nat.zero_add]))
  have hfits : ¬(size = 0 ∨ p = 0 ∨ size % p ≠ 0) := by omega
  rw [regionRecordChecks_of_id hsplit hid hid32, ← List.take_append_drop ownerCapacity ownerFields, hdrop]
  simp only [numberCheck, hsize, Option.isNone_some, Option.bind_some, hfits, Bool.false_eq_true, ↓reduceIte,
    firstFault_cons_none, checksAlong_append, List.nil_append, firstFault_append_of_none hvalid, checksAlong,
    ownerChecks, htake, if_pos (Nat.le_refl ownerCapacity), List.cons_append, firstFault_cons_some]

/-- A record whose identifier is right and whose size is not fails with the size's fault, whatever its
    owner fields hold. --/
theorem readRegion_size_fault (hsplit : splitTerminator ':' record = idField :: sizeField :: ownerFields)
    (hid : number? idField = some id) (hid32 : id < Nat.pow 2 32) :
    (number? sizeField = none →
      readRegion p d nodes record = .error (.invalidNumber regionListKey (String.ofList sizeField))) ∧
    ∀ size, number? sizeField = some size → (size = 0 ∨ p = 0 ∨ size % p ≠ 0) →
      readRegion p d nodes record = .error (.region (.invalidSize id size p)) := by
  have hreports := readRegion_reports p d nodes (contains_iff_mem_ids nodes d) record
  rw [regionRecordChecks_of_id hsplit hid hid32] at hreports
  refine ⟨fun hsize => hreports.eq_error_iff.mpr ?_, fun size hsize hbad => hreports.eq_error_iff.mpr ?_⟩
  · simp only [numberCheck, hsize, Option.isNone_none, ↓reduceIte, firstFault_cons_none, firstFault_cons_some]
  · simp only [numberCheck, hsize, Option.isNone_some, Option.bind_some, hbad, Bool.false_eq_true, ↓reduceIte,
      firstFault_cons_none, firstFault_cons_some]

end Region

/-- Building a master configuration with pages of `p` bytes fails with exactly the first fault of
    its checks, in the order `masterChecks` lists them, and succeeds exactly when none finds one.
    Within a region record, this order means: once the identifier and size are right, a record
    whose first 32 owner fields name distinct nodes of the list fails with too many owners whatever
    its later fields hold, and a size fault comes before any fault of the owner fields. --/
theorem buildMaster_first_fault (p : Nat) (o : Options) :
    (∀ e, (buildMaster p o).run.2 = .error e ↔ firstFault (masterChecks p o) = some e) ∧
    ((∃ c, (buildMaster p o).run.2 = .ok c) ↔ firstFault (masterChecks p o) = none) ∧
    (∀ (d : DomainId) (nodes : Registry) (record idField sizeField : List Char) (ownerFields : List (List Char))
      (id size : Nat) (ids : List NodeId), splitTerminator ':' record = idField :: sizeField :: ownerFields →
      number? idField = some id → id < Nat.pow 2 32 → number? sizeField = some size →
      0 < size ∧ 0 < p ∧ size % p = 0 → (ownerFields.take ownerCapacity).map nodeId? = ids.map some →
      ids.Nodup → (∀ x ∈ ids, nodes.contains d x = true) → ownerCapacity < ownerFields.length →
      readRegion p d nodes record = .error (.region (.tooManyOwners id))) ∧
    (∀ (d : DomainId) (nodes : Registry) (record idField sizeField : List Char) (ownerFields : List (List Char))
      (id : Nat), splitTerminator ':' record = idField :: sizeField :: ownerFields →
      number? idField = some id → id < Nat.pow 2 32 →
      (number? sizeField = none →
        readRegion p d nodes record = .error (.invalidNumber regionListKey (String.ofList sizeField))) ∧
      ∀ size, number? sizeField = some size → (size = 0 ∨ p = 0 ∨ size % p ≠ 0) →
        readRegion p d nodes record = .error (.region (.invalidSize id size p))) := by
  have h := (buildMaster_reports p o).run
  exact ⟨fun _ => h.eq_error_iff, h.exists_ok_iff,
    fun _ _ _ _ _ _ _ _ _ hsplit hid hid32 hsize hpage hfirst hnodup hknown hlong =>
      readRegion_tooManyOwners hsplit hid hid32 hsize hpage hfirst hnodup hknown hlong,
    fun _ _ _ _ _ _ _ hsplit hid hid32 => readRegion_size_fault hsplit hid hid32⟩

end Config

end LiveMigration
