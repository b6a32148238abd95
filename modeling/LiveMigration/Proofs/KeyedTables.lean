import Mathlib.Data.List.Nodup
import LiveMigration.Proofs.MasterConfig

/-! # Keyed tables

The node registry and the region table keep their entries in the order they were added and key each
entry by its domain and its identifier. Adding an entry whose key is taken is refused, and the
registry also refuses a second master of a domain. A refused call returns no table, so the caller's
table stays as it was (`afterInsert`). Along any sequence of calls from the empty table every key is
held at most once and every domain has at most one master (`Keyed`): a lookup by key, or for a
domain's master, finds the one entry there is, and the entries stand in the order in which their
calls were accepted (`accepted`).

Each table has one lemma per outcome of `insert`, one step lemma (`Keyed.afterInsert`) and one run
lemma over a sequence of calls (`keyed_foldl_afterInsert`, `foldl_afterInsert_eq`). -/

namespace LiveMigration

/-- In a list where at most one element satisfies `p`, `find?` gives that element. --/
theorem find?_eq_some_iff_of_unique {α : Type} {l : List α} {p : α → Bool}
    (h : ∀ x ∈ l, ∀ y ∈ l, p x = true → p y = true → x = y) {x : α} :
    l.find? p = some x ↔ x ∈ l ∧ p x = true := by
  refine ⟨fun hx => ⟨List.mem_of_find?_eq_some hx, List.find?_some hx⟩, fun ⟨hmem, hpx⟩ => ?_⟩
  obtain ⟨y, hy⟩ := Option.isSome_iff_exists.mp (List.find?_isSome.mpr ⟨x, hmem, hpx⟩)
  rw [hy, h y (List.mem_of_find?_eq_some hy) x hmem (List.find?_some hy) hpx]

/-- In a list whose keys are distinct, a lookup whose test holds only of entries of one key finds
    the one entry it holds of. --/
theorem find?_eq_some_iff_of_keys {α κ : Type} {l : List α} {key : α → κ} (hl : (l.map key).Nodup)
    {p : α → Bool} (hp : ∀ a b, p a = true → p b = true → key a = key b) {x : α} :
    l.find? p = some x ↔ x ∈ l ∧ p x = true :=
  find?_eq_some_iff_of_unique fun a ha b hb hpa hpb => List.inj_on_of_nodup_map hl ha hb (hp a b hpa hpb)

/-- Adding an entry whose key no entry has keeps the keys distinct. --/
theorem nodup_map_append_of_fresh {α κ : Type} {l : List α} {key : α → κ} {a : α} (hl : (l.map key).Nodup)
    (hfresh : ∀ x ∈ l, key x ≠ key a) : ((l ++ [a]).map key).Nodup := by
  rw [List.map_append, List.map_singleton, ← List.concat_eq_append]
  refine hl.concat fun hmem => ?_
  obtain ⟨x, hx, hkey⟩ := List.mem_map.mp hmem
  exact hfresh x hx hkey

/-! ### The node registry -/

namespace Registry

/-- The registry after a call to `insert`: the new one, or the same one when the node is refused. --/
def afterInsert (r : Registry) (n : Node) : Registry :=
  match r.insert n with
  | .ok r' => r'
  | .error _ => r

/-- The nodes that a sequence of `insert` calls accepts, in the order of the calls. --/
def accepted (r : Registry) : List Node → List Node
  | [] => []
  | n :: ns =>
    match r.insert n with
    | .ok r' => n :: r'.accepted ns
    | .error _ => r.accepted ns

/-- Each domain and identifier names at most one node, and each domain has at most one master. --/
structure Keyed (r : Registry) : Prop where
  keys : (r.nodes.map fun x => (x.domain, x.id)).Nodup
  master : ∀ a ∈ r.nodes, ∀ b ∈ r.nodes, a.domain = b.domain → a.isMaster = true → b.isMaster = true → a = b

section Insert
variable {r : Registry} {n : Node}

theorem master?_eq_none_iff {d : DomainId} :
    r.master? d = none ↔ ∀ x ∈ r.nodes, x.domain = d → x.isMaster = false := by
  simp [master?]

/-- A node is refused as a repeated node exactly when its domain already holds its identifier. --/
theorem insert_eq_duplicateNode_iff :
    r.insert n = .error (.duplicateNode n.id n.domain) ↔ r.contains n.domain n.id = true := by
  unfold insert
  split
  · rename_i h
    simp only [h]
  · rename_i h
    simp only [h]
    split
    · split <;> simp
    · simp

/-- A node whose place is free is refused as a second master exactly when it is a master and its
    domain already has one, which the fault names. --/
theorem insert_eq_duplicateMaster_iff {d : DomainId} {m : NodeId} :
    r.insert n = .error (.duplicateMaster d m) ↔
      r.contains n.domain n.id = false ∧ n.isMaster = true ∧ d = n.domain ∧
        (r.master? n.domain).map (·.id) = some m := by
  unfold insert
  split
  · rename_i h
    simp [h]
  · rename_i h
    split
    · rename_i hm
      split
      · rename_i x hx
        simp only [Except.error.injEq, NodeError.duplicateMaster.injEq, hx, Option.map_some,
          Option.some.injEq]
        simp only [Bool.not_eq_true] at h
        simp only [h, hm, true_and]
        exact ⟨fun h => ⟨h.1.symm, h.2⟩, fun h => ⟨h.1.symm, h.2⟩⟩
      · rename_i hx
        simp [hx]
    · rename_i hm
      simp [hm]

/-- Otherwise the node is added at the end. --/
theorem insert_eq_ok_iff :
    r.insert n = .ok ⟨r.nodes ++ [n]⟩ ↔
      r.contains n.domain n.id = false ∧ (n.isMaster = true → r.master? n.domain = none) := by
  unfold insert
  split
  · rename_i h
    simp [h]
  · rename_i h
    simp only [Bool.not_eq_true] at h
    split
    · rename_i hm
      split
      · rename_i x hx
        simp [h, hm, hx]
      · rename_i hx
        simp [h, hx]
    · rename_i hm
      simp [h, hm]

theorem afterInsert_of_ok {r' : Registry} (h : r.insert n = .ok r') : r.afterInsert n = r' := by
  simp only [afterInsert, h]

theorem afterInsert_of_error {e : NodeError} (h : r.insert n = .error e) : r.afterInsert n = r := by
  simp only [afterInsert, h]

end Insert

/-! ### Keys stay unique -/

theorem keyed_empty : empty.Keyed := ⟨by simp [empty], by simp [empty]⟩

/-- An accepted node holds a free key, and is no second master of its domain. --/
theorem Keyed.append {r : Registry} {n : Node} (hr : r.Keyed) (hfresh : r.contains n.domain n.id = false)
    (hmaster : n.isMaster = true → r.master? n.domain = none) : (Registry.mk (r.nodes ++ [n])).Keyed := by
  have hkey : ∀ x ∈ r.nodes, (x.domain, x.id) ≠ (n.domain, n.id) := fun x hx heq => by
    have : r.contains n.domain n.id = true :=
      contains_iff.mpr ⟨x, hx, (Prod.mk.inj heq).1, (Prod.mk.inj heq).2⟩
    rw [hfresh] at this
    cases this
  -- a master already in `n`'s domain would have made `master?` find it
  have hsole : n.isMaster = true → ∀ x ∈ r.nodes, x.domain = n.domain → x.isMaster = false :=
    fun hn => master?_eq_none_iff.mp (hmaster hn)
  refine ⟨nodup_map_append_of_fresh hr.keys hkey, fun a ha b hb hab hma hmb => ?_⟩
  simp only [List.mem_append, List.mem_singleton] at ha hb
  rcases ha with ha | rfl <;> rcases hb with hb | rfl
  · exact hr.master a ha b hb hab hma hmb
  · rw [hsole hmb a ha hab] at hma
    cases hma
  · rw [hsole hma b hb hab.symm] at hmb
    cases hmb
  · rfl

/-- One call keeps the keys unique, whether it adds the node or refuses it. --/
theorem Keyed.afterInsert {r : Registry} (hr : r.Keyed) (n : Node) : (r.afterInsert n).Keyed := by
  cases h : r.insert n with
  | error e => rwa [afterInsert_of_error h]
  | ok r' =>
    have hr' : r' = ⟨r.nodes ++ [n]⟩ := by rw [← insert_nodes h]
    rw [afterInsert_of_ok h]
    subst hr'
    exact hr.append (insert_eq_ok_iff.mp h).1 (insert_eq_ok_iff.mp h).2

/-- Any sequence of calls keeps the keys unique. --/
theorem keyed_foldl_afterInsert (ns : List Node) {r : Registry} (hr : r.Keyed) :
    (ns.foldl afterInsert r).Keyed := by
  induction ns generalizing r with
  | nil => exact hr
  | cons n ns ih => exact ih (hr.afterInsert n)

/-- After any sequence of calls the registry holds the nodes it had and then the accepted ones, in
    the order of their calls. --/
theorem foldl_afterInsert_eq (ns : List Node) (r : Registry) :
    (ns.foldl afterInsert r).nodes = r.nodes ++ r.accepted ns := by
  induction ns generalizing r with
  | nil => simp [accepted]
  | cons n ns ih =>
    rw [List.foldl_cons, ih, accepted]
    cases h : r.insert n with
    | error e => simp only [afterInsert_of_error h]
    | ok r' => simp only [afterInsert_of_ok h, insert_nodes h, List.append_assoc, List.singleton_append]

/-! ### Lookups in a keyed registry -/

section Lookup
variable {r : Registry} (hr : r.Keyed)
include hr

theorem Keyed.find?_eq_some_iff {d : DomainId} {i : NodeId} {x : Node} :
    r.find? d i = some x ↔ x ∈ r.nodes ∧ x.domain = d ∧ x.id = i := by
  unfold find?
  rw [find?_eq_some_iff_of_keys hr.keys fun a b hpa hpb => ?_]
  · simp
  · simp only [Bool.and_eq_true, decide_eq_true_eq] at hpa hpb
    rw [hpa.1, hpa.2, hpb.1, hpb.2]

theorem Keyed.master?_eq_some_iff {d : DomainId} {x : Node} :
    r.master? d = some x ↔ x ∈ r.nodes ∧ x.domain = d ∧ x.isMaster = true := by
  unfold master?
  rw [find?_eq_some_iff_of_unique fun a ha b hb hpa hpb => ?_]
  · simp
  · simp only [Bool.and_eq_true, decide_eq_true_eq] at hpa hpb
    exact hr.master a ha b hb (hpa.1.trans hpb.1.symm) hpa.2 hpb.2

end Lookup

/-- What a registry reached by calls to `insert` answers: each lookup finds the one node with its
    key or the one master of its domain, and the next call refuses a node exactly when its key is
    held, then exactly when it is a second master of its domain (naming the stored one), and adds
    it at the end otherwise. --/
structure Answers (r : Registry) : Prop where
  find? : ∀ d i x, r.find? d i = some x ↔ x ∈ r.nodes ∧ x.domain = d ∧ x.id = i
  contains : ∀ d i, r.contains d i = true ↔ ∃ x ∈ r.nodes, x.domain = d ∧ x.id = i
  master? : ∀ d x, r.master? d = some x ↔ x ∈ r.nodes ∧ x.domain = d ∧ x.isMaster = true
  duplicateNode : ∀ n, r.insert n = .error (.duplicateNode n.id n.domain) ↔
    ∃ x ∈ r.nodes, x.domain = n.domain ∧ x.id = n.id
  duplicateMaster : ∀ n d m, r.insert n = .error (.duplicateMaster d m) ↔
    (¬∃ x ∈ r.nodes, x.domain = n.domain ∧ x.id = n.id) ∧ n.isMaster = true ∧ d = n.domain ∧
      ∃ x ∈ r.nodes, x.domain = n.domain ∧ x.isMaster = true ∧ x.id = m
  append : ∀ n, r.insert n = .ok ⟨r.nodes ++ [n]⟩ ↔
    (¬∃ x ∈ r.nodes, x.domain = n.domain ∧ x.id = n.id) ∧
      (n.isMaster = true → ¬∃ x ∈ r.nodes, x.domain = n.domain ∧ x.isMaster = true)

theorem Keyed.answers {r : Registry} (hr : r.Keyed) : r.Answers where
  find? _ _ _ := hr.find?_eq_some_iff
  contains _ _ := contains_iff
  master? _ _ := hr.master?_eq_some_iff
  duplicateNode _ := insert_eq_duplicateNode_iff.trans contains_iff
  duplicateMaster n d m := by
    rw [insert_eq_duplicateMaster_iff, ← contains_iff, Bool.not_eq_true]
    simp only [Option.map_eq_some_iff, hr.master?_eq_some_iff]
    constructor
    · rintro ⟨hc, hn, hd, x, ⟨hx, hxd, hxm⟩, rfl⟩
      exact ⟨hc, hn, hd, x, hx, hxd, hxm, rfl⟩
    · rintro ⟨hc, hn, hd, x, hx, hxd, hxm, rfl⟩
      exact ⟨hc, hn, hd, x, ⟨hx, hxd, hxm⟩, rfl⟩
  append n := by
    rw [insert_eq_ok_iff, ← contains_iff, Bool.not_eq_true, master?_eq_none_iff]
    simp

end Registry

/-! ### The region table -/

namespace RegionTable

/-- The table after a call to `insert`: the new one, or the same one when the region is refused. --/
def afterInsert (t : RegionTable) (r : Region) : RegionTable :=
  match t.insert r with
  | .ok t' => t'
  | .error _ => t

/-- The regions that a sequence of `insert` calls accepts, in the order of the calls. --/
def accepted (t : RegionTable) : List Region → List Region
  | [] => []
  | r :: rs =>
    match t.insert r with
    | .ok t' => r :: t'.accepted rs
    | .error _ => t.accepted rs

/-- Each domain and identifier names at most one region. --/
def Keyed (t : RegionTable) : Prop := (t.regions.map fun x => (x.domain, x.id)).Nodup

section Insert
variable {t : RegionTable} {r : Region}

theorem find?_isSome_iff {d : DomainId} {i : Nat} :
    (t.find? d i).isSome = true ↔ ∃ x ∈ t.regions, x.domain = d ∧ x.id = i := by
  simp [find?]

/-- A region is refused exactly when its domain already holds its identifier. --/
theorem insert_eq_duplicateRegion_iff :
    t.insert r = .error (.duplicateRegion r.domain r.id) ↔ ∃ x ∈ t.regions, x.domain = r.domain ∧ x.id = r.id := by
  rw [← find?_isSome_iff]
  unfold insert
  split <;> simp_all

/-- Otherwise it is added at the end. --/
theorem insert_eq_ok_iff :
    t.insert r = .ok ⟨t.regions ++ [r]⟩ ↔ ¬∃ x ∈ t.regions, x.domain = r.domain ∧ x.id = r.id := by
  rw [← find?_isSome_iff]
  unfold insert
  split <;> simp_all

theorem insert_regions {t' : RegionTable} (h : t.insert r = .ok t') : t'.regions = t.regions ++ [r] := by
  unfold insert at h
  split at h
  · cases h
  · cases h
    rfl

theorem afterInsert_of_ok {t' : RegionTable} (h : t.insert r = .ok t') : t.afterInsert r = t' := by
  simp only [afterInsert, h]

theorem afterInsert_of_error {e : RegionError} (h : t.insert r = .error e) : t.afterInsert r = t := by
  simp only [afterInsert, h]

end Insert

theorem keyed_empty : empty.Keyed := by simp [Keyed, empty]

theorem Keyed.afterInsert {t : RegionTable} (ht : t.Keyed) (r : Region) : (t.afterInsert r).Keyed := by
  cases h : t.insert r with
  | error e => rwa [afterInsert_of_error h]
  | ok t' =>
    have ht' : t' = ⟨t.regions ++ [r]⟩ := by rw [← insert_regions h]
    rw [afterInsert_of_ok h]
    subst ht'
    have hkey : ∀ x ∈ t.regions, (x.domain, x.id) ≠ (r.domain, r.id) := fun x hx heq =>
      insert_eq_ok_iff.mp h ⟨x, hx, (Prod.mk.inj heq).1, (Prod.mk.inj heq).2⟩
    exact nodup_map_append_of_fresh ht hkey

theorem keyed_foldl_afterInsert (rs : List Region) {t : RegionTable} (ht : t.Keyed) :
    (rs.foldl afterInsert t).Keyed := by
  induction rs generalizing t with
  | nil => exact ht
  | cons r rs ih => exact ih (ht.afterInsert r)

theorem foldl_afterInsert_eq (rs : List Region) (t : RegionTable) :
    (rs.foldl afterInsert t).regions = t.regions ++ t.accepted rs := by
  induction rs generalizing t with
  | nil => simp [accepted]
  | cons r rs ih =>
    rw [List.foldl_cons, ih, accepted]
    cases h : t.insert r with
    | error e => simp only [afterInsert_of_error h]
    | ok t' => simp only [afterInsert_of_ok h, insert_regions h, List.append_assoc, List.singleton_append]

theorem Keyed.find?_eq_some_iff {t : RegionTable} (ht : t.Keyed) {d : DomainId} {i : Nat} {x : Region} :
    t.find? d i = some x ↔ x ∈ t.regions ∧ x.domain = d ∧ x.id = i := by
  unfold find?
  rw [find?_eq_some_iff_of_keys ht fun a b hpa hpb => ?_]
  · simp
  · simp only [Bool.and_eq_true, decide_eq_true_eq] at hpa hpb
    rw [hpa.1, hpa.2, hpb.1, hpb.2]

end RegionTable

/-- Any sequence of `insert` calls from the empty registry, and any from the empty table: the
    registry holds the accepted nodes in the order of their calls, each key at most once and at most
    one master per domain, and answers lookups and the next call by its keys (`Registry.Answers`);
    the table holds the accepted regions in order, each key at most once, finds the one region with a
    key, and refuses the next region exactly when its key is held, adding it at the end otherwise. --/
theorem inserts_keep_keys_unique (ns : List Node) (rs : List Region) :
    (ns.foldl Registry.afterInsert Registry.empty).nodes = Registry.empty.accepted ns ∧
    (ns.foldl Registry.afterInsert Registry.empty).Keyed ∧
    (ns.foldl Registry.afterInsert Registry.empty).Answers ∧
    (rs.foldl RegionTable.afterInsert RegionTable.empty).regions = RegionTable.empty.accepted rs ∧
    (rs.foldl RegionTable.afterInsert RegionTable.empty).Keyed ∧
    (∀ d i x, (rs.foldl RegionTable.afterInsert RegionTable.empty).find? d i = some x ↔
      x ∈ (rs.foldl RegionTable.afterInsert RegionTable.empty).regions ∧ x.domain = d ∧ x.id = i) ∧
    (∀ r, (rs.foldl RegionTable.afterInsert RegionTable.empty).insert r = .error (.duplicateRegion r.domain r.id) ↔
      ∃ x ∈ (rs.foldl RegionTable.afterInsert RegionTable.empty).regions, x.domain = r.domain ∧ x.id = r.id) ∧
    (∀ r, (rs.foldl RegionTable.afterInsert RegionTable.empty).insert r =
        .ok ⟨(rs.foldl RegionTable.afterInsert RegionTable.empty).regions ++ [r]⟩ ↔
      ¬∃ x ∈ (rs.foldl RegionTable.afterInsert RegionTable.empty).regions, x.domain = r.domain ∧ x.id = r.id) := by
  have hr := Registry.keyed_foldl_afterInsert ns Registry.keyed_empty
  have ht := RegionTable.keyed_foldl_afterInsert rs RegionTable.keyed_empty
  exact ⟨Registry.foldl_afterInsert_eq ns _, hr, hr.answers, RegionTable.foldl_afterInsert_eq rs _, ht,
    fun _ _ _ => ht.find?_eq_some_iff, fun _ => RegionTable.insert_eq_duplicateRegion_iff,
    fun _ => RegionTable.insert_eq_ok_iff⟩

end LiveMigration
