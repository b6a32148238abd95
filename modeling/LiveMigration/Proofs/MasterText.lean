import LiveMigration.Proofs.MasterConfig
import LiveMigration.Proofs.TextRoundTrip

/-! Master option strings read back. A domain, node records and region records, written out as a
    master's options, parse and build into exactly the configuration they describe: the nodes in
    record order, node 1 the master and each with its sync port, and the regions in record order,
    unbound, owned as listed and flagged to unmap automatically. This holds whenever the records
    are what a master accepts: distinct node identifiers with node 1 among them, distinct region
    identifiers, sizes in whole pages, and owners that are distinct listed nodes. -/

namespace LiveMigration

open Text Log Config

/-- A node record `id:a.b.c.d:rdma:tcp`. --/
structure NodeRecord where
  id : NodeId
  ip : Net.Ipv4
  rdma : UInt16
  tcp : UInt16

/-- A region record `id:size:owner...`. --/
structure RegionRecord where
  id : UInt32
  size : UInt64
  owners : OwnerList

namespace NodeRecord

def text (n : NodeRecord) : String :=
  ":".intercalate [decimal n.id.val, n.ip.render, decimal n.rdma.toNat, decimal n.tcp.toNat]

/-- The node a record describes in domain `d`. --/
def node (d : DomainId) (n : NodeRecord) : Node :=
  { domain := d, id := n.id, endpoint := ⟨n.ip, n.rdma, some n.tcp⟩, isMaster := n.id = NodeId.master }

end NodeRecord

namespace RegionRecord

def text (r : RegionRecord) : String :=
  ":".intercalate (decimal r.id.toNat :: decimal r.size.toNat :: r.owners.ids.map fun x => decimal x.val)

/-- The region a record describes in domain `d`. --/
def region (d : DomainId) (r : RegionRecord) : Region :=
  { domain := d, id := r.id.toNat, size := r.size.toNat, owners := r.owners, flags := RegionFlags.autoUnmapOnly }

end RegionRecord

/-- `dsmid=D,vminfo=N#N...,mr=R#R...`. --/
def masterOptions (d : DomainId) (nodes : List NodeRecord) (regions : List RegionRecord) : String :=
  "dsmid=" ++ decimal d.val ++ ",vminfo=" ++ "#".intercalate (nodes.map NodeRecord.text) ++ ",mr=" ++
    "#".intercalate (regions.map RegionRecord.text)

/-- The configuration the records describe. --/
def describedConfig (d : DomainId) (p : Nat) (nodes : List NodeRecord) (regions : List RegionRecord) :
    MasterConfig :=
  { domain := d, nodes := ⟨nodes.map (·.node d)⟩, regions := ⟨regions.map (·.region d)⟩, pageSize := p }

/-! ### Records -/

theorem OwnerList.eq_of_ids {o o' : OwnerList} (h : o.ids = o'.ids) : o = o' := by
  cases o
  cases o'
  subst h
  rfl

/-- Records joined at a terminator split back into their texts, when their texts are spelled
    without it and none is empty. --/
theorem splitTerminator_records {β : Type} (ps : List Char) {sep : Char} (text : β → String) {xs : List β}
    (hsep : sep.isDigit = false ∧ sep ∉ ps) (hspelled : ∀ x ∈ xs, Spelled ps (text x).toList)
    (hne : ∀ x ∈ xs, (text x).toList ≠ []) :
    splitTerminator sep ((String.singleton sep).intercalate (xs.map text)).toList = xs.map fun x => (text x).toList := by
  rw [String.toList_intercalate, String.toList_singleton, List.map_map]
  refine splitTerminator_intercalate (fun l hl => ?_) (fun l hl => ?_)
  · obtain ⟨x, hx, rfl⟩ := List.mem_map.mp hl
    exact (hspelled x hx).not_mem hsep.1 hsep.2
  · obtain ⟨x, hx, rfl⟩ := List.mem_map.mp hl
    exact hne x hx

namespace NodeRecord

theorem text_toList (n : NodeRecord) :
    n.text.toList = [':'].intercalate [Nat.toDigits 10 n.id.val, n.ip.render.toList, Nat.toDigits 10 n.rdma.toNat,
      Nat.toDigits 10 n.tcp.toNat] := by
  simp [text, decimal]

theorem spelled_text (n : NodeRecord) : Spelled ['.', ':'] n.text.toList := by
  rw [text_toList]
  refine spelled_intercalate (by simp) ?_
  simp only [List.forall_mem_cons, List.not_mem_nil, false_implies, implies_true, and_true]
  exact ⟨spelled_toDigits _ _, (Net.Ipv4.spelled_render n.ip).mono (by simp), spelled_toDigits _ _,
    spelled_toDigits _ _⟩

theorem text_ne_nil (n : NodeRecord) : n.text.toList ≠ [] := by
  simp [text_toList, Nat.toDigits_ne_nil]

theorem readNode_text (d : DomainId) (n : NodeRecord) : readNode d n.text.toList = .ok (n.node d) := by
  have hsplit : splitTerminator ':' n.text.toList = [Nat.toDigits 10 n.id.val, n.ip.render.toList,
      Nat.toDigits 10 n.rdma.toNat, Nat.toDigits 10 n.tcp.toNat] := by
    rw [text_toList]
    refine splitTerminator_intercalate ?_ ?_
    · simp only [List.forall_mem_cons, List.not_mem_nil, false_implies, implies_true, and_true]
      exact ⟨not_mem_toDigits (by decide) _, (Net.Ipv4.spelled_render n.ip).not_mem (by decide) (by decide),
        not_mem_toDigits (by decide) _, not_mem_toDigits (by decide) _⟩
    · simp only [List.forall_mem_cons, List.not_mem_nil, false_implies, implies_true, and_true]
      exact ⟨Nat.toDigits_ne_nil, by simp [Net.Ipv4.render_toList], Nat.toDigits_ne_nil, Nat.toDigits_ne_nil⟩
  simp only [readNode, hsplit, readNodeId_toDigits, readIp_render, readPort_toDigits, bind, Except.bind, pure,
    Except.pure]
  rfl

/-- A record whose identifier is new joins the registry of the records before it. --/
theorem insert_node {d : DomainId} {pre : List NodeRecord} {n : NodeRecord} (hfresh : n.id ∉ pre.map (·.id)) :
    (Registry.mk (pre.map (·.node d))).insert (n.node d) = .ok ⟨(pre ++ [n]).map (·.node d)⟩ := by
  have hnew : ∀ x ∈ pre, x.id ≠ n.id := fun x hx hid => hfresh (List.mem_map.mpr ⟨x, hx, hid⟩)
  have hcontains : (Registry.mk (pre.map (·.node d))).contains d n.id = false := by
    simpa [Registry.contains, Registry.find?, node] using hnew
  -- the earlier masters would be node 1 again
  have hmaster : n.id = NodeId.master → (Registry.mk (pre.map (·.node d))).master? d = none := by
    intro hid
    simp only [Registry.master?, List.find?_eq_none, List.mem_map, Bool.and_eq_true, decide_eq_true_eq]
    rintro _ ⟨x, hx, rfl⟩ ⟨-, hm⟩
    exact hnew x hx (by simpa [node, hid] using hm)
  unfold Registry.insert
  rw [show (n.node d).domain = d from rfl, show (n.node d).id = n.id from rfl, hcontains]
  by_cases hid : n.id = NodeId.master
  · have hm : (n.node d).isMaster = true := by simp [node, hid]
    simp only [Bool.false_eq_true, ↓reduceIte, hm, hmaster hid, List.map_append, List.map_singleton]
  · have hm : (n.node d).isMaster = false := by simp [node, hid]
    simp only [Bool.false_eq_true, ↓reduceIte, hm, List.map_append, List.map_singleton]

end NodeRecord

theorem readNodeList_text (d : DomainId) {nodes : List NodeRecord} (hne : nodes ≠ [])
    (hids : (nodes.map (·.id)).Nodup) :
    Told.Meets (readNodeList d ("#".intercalate (nodes.map NodeRecord.text))) (· = ⟨nodes.map (·.node d)⟩)
      fun _ => False := by
  unfold readNodeList
  rw [show "#" = String.singleton '#' from rfl, splitTerminator_records ['.', ':'] NodeRecord.text (by decide)
    (fun n _ => n.spelled_text) (fun n _ => n.text_ne_nil), List.foldlM_map]
  apply Told.meets_bind (Told.meets_foldlM_indexed
    (I := fun (pre : List NodeRecord) (r : Registry) => r = ⟨pre.map (·.node d)⟩) nodes rfl ?_)
  · intro r hr
    subst hr
    split
    · rename_i hempty
      simp only [List.isEmpty_iff, List.map_eq_nil_iff] at hempty
      exact absurd hempty hne
    · exact Told.meets_pure rfl
  · intro pre n post r hsplit hr
    subst hr
    -- a variable for the record's text keeps unification from unfolding the text itself
    generalize hrecord : n.text.toList = record
    refine Told.meets_bind (Told.meets_ofExcept_ok (hrecord ▸ n.readNode_text d)) fun node hnode => ?_
    subst hnode
    refine Told.meets_bind (Told.meets_tell _) fun _ _ => Told.meets_ofExcept ?_
    rw [NodeRecord.insert_node (not_mem_map_of_nodup hids hsplit)]
    rfl

theorem NodeRecord.contains_node {d : DomainId} {nodes : List NodeRecord} {x : NodeId} (hx : x ∈ nodes.map (·.id)) :
    (Registry.mk (nodes.map (·.node d))).contains d x = true := by
  obtain ⟨n, hn, rfl⟩ := List.mem_map.mp hx
  exact Registry.contains_iff.mpr ⟨n.node d, List.mem_map_of_mem hn, rfl, rfl⟩

namespace RegionRecord

theorem text_toList (r : RegionRecord) :
    r.text.toList = [':'].intercalate (Nat.toDigits 10 r.id.toNat :: Nat.toDigits 10 r.size.toNat ::
      r.owners.ids.map fun x => Nat.toDigits 10 x.val) := by
  simp [text, decimal, Function.comp_def]

theorem spelled_text (r : RegionRecord) : Spelled [':'] r.text.toList := by
  rw [text_toList]
  refine spelled_intercalate (by simp) fun l hl => ?_
  simp only [List.mem_cons, List.mem_map] at hl
  rcases hl with rfl | rfl | ⟨x, -, rfl⟩ <;> exact spelled_toDigits _ _

theorem text_ne_nil (r : RegionRecord) : r.text.toList ≠ [] := by
  simp [text_toList, Nat.toDigits_ne_nil]

end RegionRecord

namespace Config

/-- Owners read one by one onto a list with room for all of them, each a listed node not yet on
    it, end up after the ones already there. --/
theorem readOwners_ids (d : DomainId) (nodes : Registry) (region : Nat) (ids : List NodeId) :
    ∀ (owners : OwnerList) (hlen : owners.ids.length + ids.length ≤ ownerCapacity), (owners.ids ++ ids).Nodup →
      (∀ x ∈ ids, nodes.contains d x = true) →
      readOwners d nodes region owners (ids.map fun x => Nat.toDigits 10 x.val) =
        .ok ⟨owners.ids ++ ids, by rw [List.length_append]; exact hlen⟩ := by
  -- on the owners still to read, with the list read so far generalized
  induction ids with
  | nil =>
    intro owners hlen _ _
    simp only [List.map_nil, readOwners, List.append_nil]
  | cons x ids ih =>
    intro owners hlen hnodup hknown
    have hroom : owners.ids.length < ownerCapacity := by
      simp only [List.length_cons] at hlen
      omega
    have hfull : owners.isFull = false := by
      simp only [OwnerList.isFull, OwnerList.size, beq_eq_false_iff_ne]
      omega
    have hnew : owners.contains x = false := by
      have : x ∉ owners.ids := fun hx => (List.nodup_append.mp hnodup).2.2 x hx x List.mem_cons_self rfl
      simpa [OwnerList.contains] using this
    have hpush : owners.push x = .ok ⟨owners.ids ++ [x], by rw [List.length_append, List.length_singleton]; omega⟩ := by
      simp only [OwnerList.push, dif_pos hroom]
    have hrest := ih ⟨owners.ids ++ [x], by rw [List.length_append, List.length_singleton]; omega⟩
      (by simp only [List.length_append, List.length_singleton]; simp only [List.length_cons] at hlen; omega)
      (by simpa using hnodup) fun y hy => hknown y (List.mem_cons_of_mem x hy)
    rw [List.map_cons, readOwners]
    simp only [hfull, Bool.false_eq_true, ↓reduceIte, readNodeId_toDigits, bind, Except.bind,
      hknown x List.mem_cons_self, Bool.not_true, hnew, hpush, hrest]
    simp

end Config

namespace RegionRecord

theorem readRegion_text {p : Nat} {d : DomainId} {nodes : Registry} {r : RegionRecord}
    (hsize : 0 < r.size.toNat ∧ r.size.toNat % p = 0) (hnodup : r.owners.ids.Nodup)
    (hknown : ∀ x ∈ r.owners.ids, nodes.contains d x = true) :
    readRegion p d nodes r.text.toList = .ok (r.region d) := by
  have hsplit : splitTerminator ':' r.text.toList = Nat.toDigits 10 r.id.toNat :: Nat.toDigits 10 r.size.toNat ::
      r.owners.ids.map fun x => Nat.toDigits 10 x.val := by
    rw [text_toList]
    refine splitTerminator_intercalate (fun l hl => ?_) (fun l hl => ?_)
    · simp only [List.mem_cons, List.mem_map] at hl
      rcases hl with rfl | rfl | ⟨x, -, rfl⟩ <;> exact not_mem_toDigits (by decide) _
    · simp only [List.mem_cons, List.mem_map] at hl
      rcases hl with rfl | rfl | ⟨x, -, rfl⟩ <;> exact Nat.toDigits_ne_nil
  -- a size in whole pages leaves no room for a zero page size
  have hp : 0 < p := Nat.pos_of_ne_zero fun h => by
    rw [h, Nat.mod_zero] at hsize
    omega
  have hid : r.id.toNat < Nat.pow 2 64 := Nat.lt_trans r.id.toNat_lt (by decide)
  have hid32 : ¬r.id.toNat ≥ Nat.pow 2 32 := Nat.not_le.mpr r.id.toNat_lt
  have hcheck : checkRegionSize r.id.toNat r.size.toNat p = .ok () :=
    checkRegionSize_eq_ok_iff.mpr ⟨hsize.1, hp, hsize.2⟩
  have howners : readOwners d nodes r.id.toNat OwnerList.empty (r.owners.ids.map fun x => Nat.toDigits 10 x.val) =
      .ok r.owners := by
    rw [readOwners_ids d nodes _ _ OwnerList.empty (by simpa [OwnerList.empty] using r.owners.bound)
      (by simpa [OwnerList.empty] using hnodup) hknown]
    exact congrArg Except.ok (OwnerList.eq_of_ids (by simp [OwnerList.empty]))
  simp only [readRegion, hsplit, readNumber_toDigits _ hid, readNumber_toDigits _ r.size.toNat_lt, hid32, ↓reduceIte,
    bind, Except.bind, hcheck, mapError_ok, howners, Region.make]
  rfl

/-- A record whose identifier is new joins the table of the records before it. --/
theorem insert_region {d : DomainId} {pre : List RegionRecord} {r : RegionRecord} (hfresh : r.id ∉ pre.map (·.id)) :
    (RegionTable.mk (pre.map (·.region d))).insert (r.region d) = .ok ⟨(pre ++ [r]).map (·.region d)⟩ := by
  have hnone : (RegionTable.mk (pre.map (·.region d))).find? d r.id.toNat = none := by
    simp only [RegionTable.find?, List.find?_eq_none, List.mem_map, Bool.and_eq_true, decide_eq_true_eq]
    rintro _ ⟨x, hx, rfl⟩ ⟨-, h⟩
    exact hfresh (List.mem_map.mpr ⟨x, hx, UInt32.toNat_inj.mp h⟩)
  simp only [RegionTable.insert, show (r.region d).domain = d from rfl, show (r.region d).id = r.id.toNat from rfl,
    hnone, Option.isSome_none, Bool.false_eq_true, ↓reduceIte, List.map_append, List.map_singleton]

end RegionRecord

theorem readRegionList_text (p : Nat) (d : DomainId) (nodes : Registry) {regions : List RegionRecord}
    (hrids : (regions.map (·.id)).Nodup) (hsize : ∀ r ∈ regions, 0 < r.size.toNat ∧ r.size.toNat % p = 0)
    (howners : ∀ r ∈ regions, r.owners.ids.Nodup ∧ ∀ x ∈ r.owners.ids, nodes.contains d x = true) :
    Told.Meets (readRegionList p d nodes ("#".intercalate (regions.map RegionRecord.text)))
      (· = ⟨regions.map (·.region d)⟩) fun _ => False := by
  unfold readRegionList
  rw [show "#" = String.singleton '#' from rfl, splitTerminator_records [':'] RegionRecord.text (by decide)
    (fun r _ => r.spelled_text) (fun r _ => r.text_ne_nil), List.foldlM_map]
  refine Told.meets_foldlM_indexed
    (I := fun (pre : List RegionRecord) (t : RegionTable) => t = ⟨pre.map (·.region d)⟩) regions rfl ?_
  intro pre r post t hsplit ht
  subst ht
  have hr : r ∈ regions := by simp [hsplit]
  generalize hrecord : r.text.toList = record
  refine Told.meets_bind (Told.meets_ofExcept_ok
    (hrecord ▸ r.readRegion_text (hsize r hr) (howners r hr).1 (howners r hr).2)) fun region hregion => ?_
  subst hregion
  refine Told.meets_bind (Told.meets_tell _) fun _ _ => Told.meets_ofExcept ?_
  rw [RegionRecord.insert_region (not_mem_map_of_nodup hrids hsplit)]
  rfl

/-! ### The options -/

theorem pair_chars {k v ps : List Char} (hk : ∀ c ∈ k, c ≠ ',' ∧ isBlank c = false) (hv : Spelled ps v)
    (hcomma : ',' ∉ ps) (hblank : ∀ c ∈ ps, isBlank c = false) : ∀ c ∈ k ++ v, c ≠ ',' ∧ isBlank c = false := by
  intro c hc
  rcases List.mem_append.mp hc with hc | hc
  · exact hk c hc
  · exact ⟨fun he => hv.not_mem (by decide) hcomma (he ▸ hc), hv.not_blank hblank c hc⟩

theorem spelled_records {ps : List Char} {ls : List String} (h : ∀ l ∈ ls, Spelled ps l.toList) (hsep : '#' ∈ ps) :
    Spelled ps ("#".intercalate ls).toList := by
  rw [String.toList_intercalate]
  refine spelled_intercalate hsep fun l hl => ?_
  obtain ⟨s, hs, rfl⟩ := List.mem_map.mp hl
  exact h s hs

/-- The options a master's text holds: the domain, the node list and the region list. --/
def masterPairs (d : DomainId) (nodes : List NodeRecord) (regions : List RegionRecord) : Options :=
  ⟨[(domainKey, decimal d.val), (nodeListKey, "#".intercalate (nodes.map NodeRecord.text)),
    (regionListKey, "#".intercalate (regions.map RegionRecord.text))]⟩

/-- The options of a master read back as its three keys with their values. --/
theorem parse_masterOptions (d : DomainId) (nodes : List NodeRecord) (regions : List RegionRecord) :
    Options.parse (masterOptions d nodes regions) = .ok (masterPairs d nodes regions) := by
  have hnodes : Spelled ['.', ':', '#'] ("#".intercalate (nodes.map NodeRecord.text)).toList :=
    spelled_records (fun l hl => by
      obtain ⟨n, -, rfl⟩ := List.mem_map.mp hl
      exact n.spelled_text.mono (by simp)) (by simp)
  have hregions : Spelled [':', '#'] ("#".intercalate (regions.map RegionRecord.text)).toList :=
    spelled_records (fun l hl => by
      obtain ⟨r, -, rfl⟩ := List.mem_map.mp hl
      exact r.spelled_text.mono (by simp)) (by simp)
  have hpairs := Options.parse_pairs [("dsmid".toList, Nat.toDigits 10 d.val),
      ("vminfo".toList, ("#".intercalate (nodes.map NodeRecord.text)).toList),
      ("mr".toList, ("#".intercalate (regions.map RegionRecord.text)).toList)]
    (by simp only [List.map_cons, List.map_nil]; decide) (by simp)
    (by
      intro p hp
      simp only [List.mem_cons, List.not_mem_nil, or_false] at hp
      rcases hp with rfl | rfl | rfl
      · exact pair_chars (by simp [isBlank]) (spelled_toDigits [] _) (by decide) (by simp [isBlank])
      · exact pair_chars (by simp [isBlank]) hnodes (by decide) (by simp [isBlank])
      · exact pair_chars (by simp [isBlank]) hregions (by decide) (by simp [isBlank]))
  have htext : masterOptions d nodes regions = String.ofList ([','].intercalate
      ([("dsmid".toList, Nat.toDigits 10 d.val),
        ("vminfo".toList, ("#".intercalate (nodes.map NodeRecord.text)).toList),
        ("mr".toList, ("#".intercalate (regions.map RegionRecord.text)).toList)].map fun p => p.1 ++ '=' :: p.2)) := by
    rw [← String.toList_inj, String.toList_ofList]
    simp [masterOptions, decimal]
  rw [htext, hpairs]
  simp only [List.map_cons, List.map_nil, String.ofList_toList, masterPairs, decimal, domainKey, nodeListKey,
    regionListKey]

/-! ### The configuration -/

/-- Records a master accepts, with regions in pages of `p` bytes: distinct node identifiers with
    node 1 among them, distinct region identifiers, sizes in whole pages, and owners that are
    distinct listed nodes. --/
structure Accepted (p : Nat) (nodes : List NodeRecord) (regions : List RegionRecord) : Prop where
  ids : (nodes.map (·.id)).Nodup
  master_mem : NodeId.master ∈ nodes.map (·.id)
  region_ids : (regions.map (·.id)).Nodup
  sizes : ∀ r ∈ regions, 0 < r.size.toNat ∧ r.size.toNat % p = 0
  owners : ∀ r ∈ regions, r.owners.ids.Nodup ∧ ∀ x ∈ r.owners.ids, x ∈ nodes.map (·.id)

theorem buildMaster_described (p : Nat) (d : DomainId) {nodes : List NodeRecord} {regions : List RegionRecord}
    (h : Accepted p nodes regions) :
    Told.Meets (buildMaster p (masterPairs d nodes regions)) (· = describedConfig d p nodes regions) fun _ => False := by
  have hne : nodes ≠ [] := fun hnil => by
    have := h.master_mem
    rw [hnil] at this
    cases this
  have hraw : DomainId.ofRaw d.val = .ok d := by
    simp only [DomainId.ofRaw, DomainId.ofNat?, dif_pos (And.intro d.pos d.lt)]
  have hdomain : readDomain (masterPairs d nodes regions) = .ok d := by
    simp only [readDomain, masterPairs, Options.require, Options.get?, List.find?_cons, decide_true, Option.map_some,
      decimal, String.toList_ofList, readNumber_toDigits _ (Nat.lt_trans d.lt (by decide)), bind, Except.bind, hraw,
      mapError_ok]
  have hnodeList : (masterPairs d nodes regions).require nodeListKey =
      .ok ("#".intercalate (nodes.map NodeRecord.text)) := by
    simp [masterPairs, Options.require, Options.get?, domainKey, nodeListKey]
  have hregionList : (masterPairs d nodes regions).require regionListKey =
      .ok ("#".intercalate (regions.map RegionRecord.text)) := by
    simp [masterPairs, Options.require, Options.get?, domainKey, nodeListKey, regionListKey]
  unfold buildMaster
  refine Told.meets_bind (Told.meets_ofExcept_ok hdomain) fun d' hd => ?_
  subst hd
  refine Told.meets_bind (Told.meets_tell _) fun _ _ => ?_
  refine Told.meets_bind (Told.meets_ofExcept_ok hnodeList) fun list hlist => ?_
  subst hlist
  refine Told.meets_bind (readNodeList_text d' hne h.ids) fun reg hreg => ?_
  subst hreg
  split
  · rename_i hmissing
    rw [NodeRecord.contains_node h.master_mem] at hmissing
    cases hmissing
  · refine Told.meets_bind (Told.meets_ofExcept_ok hregionList) fun list hlist => ?_
    subst hlist
    refine Told.meets_bind (readRegionList_text p d' _ h.region_ids h.sizes fun r hr =>
      ⟨(h.owners r hr).1, fun x hx => NodeRecord.contains_node ((h.owners r hr).2 x hx)⟩) fun t ht => ?_
    subst ht
    exact Told.meets_bind (Told.meets_tell _) fun _ _ => Told.meets_pure rfl

theorem buildMaster_masterPairs (p : Nat) (d : DomainId) {nodes : List NodeRecord} {regions : List RegionRecord}
    (h : Accepted p nodes regions) :
    (Config.buildMaster p (masterPairs d nodes regions)).run.2 = .ok (describedConfig d p nodes regions) :=
  Meets.eq_ok (buildMaster_described p d h).run

/-- The options written from records a master accepts parse, and build into exactly the
    configuration the records describe. --/
theorem buildMaster_reads_masterOptions (d : DomainId) (p : Nat) (nodes : List NodeRecord)
    (regions : List RegionRecord) (h : Accepted p nodes regions) :
    ∃ o, Options.parse (masterOptions d nodes regions) = .ok o ∧
      (Config.buildMaster p o).run.2 = .ok (describedConfig d p nodes regions) :=
  ⟨_, parse_masterOptions d nodes regions, buildMaster_masterPairs p d h⟩

/-- Node 1 and node 2 on their own addresses, and one region of two pages owned by both. --/
def sampleNodes : List NodeRecord :=
  [⟨NodeId.master, ⟨10, 0, 0, 1⟩, 7471, 7472⟩, ⟨NodeId.migrationClient, ⟨10, 0, 0, 2⟩, 7471, 7472⟩]

def sampleRegions : List RegionRecord := [⟨0, 8192, ⟨[NodeId.master, NodeId.migrationClient], by decide⟩⟩]

theorem sample_accepted : Accepted 4096 sampleNodes sampleRegions :=
  ⟨by decide, by decide, by decide, by decide, by decide⟩

theorem buildMaster_reads_sample :
    Accepted 4096 sampleNodes sampleRegions ∧
    ∃ o, Options.parse (masterOptions DomainId.liveMigration sampleNodes sampleRegions) = .ok o ∧
      (Config.buildMaster 4096 o).run.2 = .ok (describedConfig DomainId.liveMigration 4096 sampleNodes sampleRegions) :=
  ⟨sample_accepted, buildMaster_reads_masterOptions DomainId.liveMigration 4096 sampleNodes sampleRegions sample_accepted⟩

end LiveMigration
