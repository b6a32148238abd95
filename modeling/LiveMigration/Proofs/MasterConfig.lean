import LiveMigration.Config.Master
import LiveMigration.Proofs.Told

/-! Master configurations are well formed. Every configuration built from options lists the nodes
    of its domain once each, node 1 among them and the only master, each with a sync port; its
    regions are listed once each, sized in whole pages, unbound, flagged to unmap automatically,
    and owned by distinct nodes of the list. No option string makes the builder report a second
    master: a node is the master exactly when it is node 1, and a second node 1 is refused as a
    repeated node first.

    Each reader is shown to keep its part (`readNode_meets`, `readOwners_meets`,
    `readRegion_meets`), the two lists keep their invariants over the fold of their records
    (`readNodeList_meets`, `readRegionList_meets`), and the builder puts them together
    (`buildMaster_meets`). -/

namespace LiveMigration

open Log Config Text

/-- A fault other than a second master of a domain. --/
def ConfigError.NotDuplicateMaster (e : ConfigError) : Prop := ∀ d n, e ≠ .node (.duplicateMaster d n)

/-! ### Nodes -/

/-- A node as a master configuration of domain `d` lists it: in the domain, the master exactly when
    it is node 1, and with a sync port. --/
structure Node.Configured (d : DomainId) (n : Node) : Prop where
  domain : n.domain = d
  isMaster : n.isMaster = true ↔ n.id = NodeId.master
  tcp : n.endpoint.tcpPort.isSome = true

/-- The nodes of a master configuration of domain `d`, each listed once. --/
structure Registry.Configured (d : DomainId) (r : Registry) : Prop where
  nodes : ∀ n ∈ r.nodes, n.Configured d
  ids : (r.nodes.map (·.id)).Nodup

namespace Registry

theorem contains_iff {r : Registry} {d : DomainId} {i : NodeId} :
    r.contains d i = true ↔ ∃ n ∈ r.nodes, n.domain = d ∧ n.id = i := by
  simp [contains, find?]

theorem configured_empty (d : DomainId) : Registry.empty.Configured d := ⟨by simp [empty], by simp [empty]⟩

/-- A configured node joins the registry or is refused as a repeated node, never as a second
    master: the domain's master is node 1, already there. --/
theorem insert_meets {r : Registry} {d : DomainId} {n : Node} (hr : r.Configured d) (hn : n.Configured d) :
    Meets ((r.insert n).mapError .node) (·.Configured d) ConfigError.NotDuplicateMaster := by
  have keep (hfresh : r.contains n.domain n.id = false) : (Registry.mk (r.nodes ++ [n])).Configured d := by
    refine ⟨fun x hx => ?_, ?_⟩
    · rcases List.mem_append.mp hx with hx | hx
      · exact hr.nodes x hx
      · rw [List.mem_singleton.mp hx]
        exact hn
    · have hnot : ∀ x ∈ r.nodes, x.id ≠ n.id := fun x hx hid => by
        have : r.contains n.domain n.id = true :=
          contains_iff.mpr ⟨x, hx, by rw [(hr.nodes x hx).domain, hn.domain], hid⟩
        rw [hfresh] at this
        cases this
      rw [List.map_append, List.nodup_append]
      refine ⟨hr.ids, by simp, ?_⟩
      simpa using hnot
  unfold insert
  split
  · intro d' n' h
    cases h
  · rename_i hfresh
    have hfresh : r.contains n.domain n.id = false := by simpa using hfresh
    split
    · split
      · -- a master already in the domain is node 1, so `n` would repeat it
        rename_i hmaster _ m hm
        have hmem := List.mem_of_find?_eq_some hm
        have hsat := List.find?_some hm
        simp only [Bool.and_eq_true, decide_eq_true_eq] at hsat
        have hid : m.id = n.id := by
          rw [((hr.nodes m hmem).isMaster).mp hsat.2, hn.isMaster.mp hmaster]
        have : r.contains n.domain n.id = true := contains_iff.mpr ⟨m, hmem, hsat.1, hid⟩
        rw [hfresh] at this
        cases this
      · exact keep hfresh
    · exact keep hfresh

end Registry

/-! ### Regions -/

/-- Owners given to a region of domain `d`: distinct nodes of the list. --/
def OwnerList.Known (d : DomainId) (nodes : Registry) (o : OwnerList) : Prop :=
  o.ids.Nodup ∧ ∀ x ∈ o.ids, nodes.contains d x = true

/-- A region as a master configuration of domain `d` with pages of `p` bytes lists it: in the
    domain, a nonzero whole number of pages, unbound, unmapped automatically, and owned by at most
    32 distinct nodes of the list. --/
structure Region.Configured (p : Nat) (d : DomainId) (nodes : Registry) (r : Region) : Prop where
  domain : r.domain = d
  size_pos : 0 < r.size
  page_pos : 0 < p
  size_dvd : r.size % p = 0
  base : r.base = 0
  flags : r.flags = RegionFlags.autoUnmapOnly
  owners_le : r.owners.size ≤ ownerCapacity
  owners : r.owners.Known d nodes

/-- The regions of a master configuration, each listed once. --/
structure RegionTable.Configured (p : Nat) (d : DomainId) (nodes : Registry) (t : RegionTable) : Prop where
  regions : ∀ r ∈ t.regions, r.Configured p d nodes
  ids : (t.regions.map (·.id)).Nodup

theorem RegionTable.configured_empty (p : Nat) (d : DomainId) (nodes : Registry) :
    RegionTable.empty.Configured p d nodes := ⟨by simp [empty], by simp [empty]⟩

/-- A configured region joins the table or is refused as a repeated region. --/
theorem RegionTable.insert_meets {p : Nat} {d : DomainId} {nodes : Registry} {t : RegionTable} {r : Region}
    (ht : t.Configured p d nodes) (hr : r.Configured p d nodes) :
    Meets ((t.insert r).mapError .region) (·.Configured p d nodes) ConfigError.NotDuplicateMaster := by
  unfold insert
  split
  · intro d' n' h
    cases h
  · rename_i hfresh
    have hnot : ∀ x ∈ t.regions, x.id ≠ r.id := fun x hx hid => by
      have : (t.find? r.domain r.id).isSome = true := by
        simp only [find?, List.find?_isSome, Bool.and_eq_true, decide_eq_true_eq]
        exact ⟨x, hx, by rw [(ht.regions x hx).domain, hr.domain], hid⟩
      exact hfresh this
    refine ⟨fun x hx => ?_, ?_⟩
    · rcases List.mem_append.mp hx with hx | hx
      · exact ht.regions x hx
      · rw [List.mem_singleton.mp hx]
        exact hr
    · rw [List.map_append, List.nodup_append]
      refine ⟨ht.ids, by simp, ?_⟩
      simpa using hnot

/-! ### Reading records -/

namespace Config

/-- No field reader reports a second master. --/
theorem readNumber_meets (key : String) (field : List Char) :
    Meets (readNumber key field) (fun _ => True) ConfigError.NotDuplicateMaster := by
  unfold readNumber
  split <;> simp [ConfigError.NotDuplicateMaster]

theorem readPort_meets (field : List Char) :
    Meets (readPort field) (fun _ => True) ConfigError.NotDuplicateMaster := by
  unfold readPort
  split <;> simp [ConfigError.NotDuplicateMaster]

theorem readIp_meets (field : List Char) :
    Meets (readIp field) (fun _ => True) ConfigError.NotDuplicateMaster := by
  unfold readIp
  split <;> simp [ConfigError.NotDuplicateMaster]

theorem readNodeId_meets (key : String) (field : List Char) :
    Meets (readNodeId key field) (fun _ => True) ConfigError.NotDuplicateMaster := by
  refine meets_bind (readNumber_meets key field) fun raw _ => ?_
  unfold NodeId.ofRaw
  split <;> simp [ConfigError.NotDuplicateMaster]

theorem readNode_meets (d : DomainId) (record : List Char) :
    Meets (readNode d record) (·.Configured d) ConfigError.NotDuplicateMaster := by
  unfold readNode
  split
  · refine meets_bind (readNodeId_meets _ _) fun id _ => ?_
    refine meets_bind (readIp_meets _) fun ip _ => ?_
    refine meets_bind (readPort_meets _) fun rdma _ => ?_
    refine meets_bind (readPort_meets _) fun tcp _ => ?_
    exact ⟨rfl, by simp, rfl⟩
  · simp [ConfigError.NotDuplicateMaster]

theorem readNodeList_meets (d : DomainId) (list : String) :
    Told.Meets (readNodeList d list) (fun r => r.Configured d ∧ r.nodes ≠ []) ConfigError.NotDuplicateMaster := by
  unfold readNodeList
  refine Told.meets_bind (Told.meets_foldlM _ (Registry.configured_empty d) fun r record _ hr => ?_) fun nodes hn => ?_
  · refine Told.meets_bind (Told.meets_ofExcept (readNode_meets d record)) fun node hnode => ?_
    refine Told.meets_bind (Told.meets_tell _) fun _ _ => ?_
    exact Told.meets_ofExcept (Registry.insert_meets hr hnode)
  · split
    · exact Told.meets_bind (Told.meets_throw (by simp [ConfigError.NotDuplicateMaster])) fun _ (h : False) => h.elim
    · rename_i hne
      exact Told.meets_pure ⟨hn, by simpa using hne⟩

theorem readOwners_meets (d : DomainId) (nodes : Registry) (region : Nat) (fields : List (List Char)) :
    ∀ owners : OwnerList, owners.Known d nodes →
      Meets (readOwners d nodes region owners fields) (·.Known d nodes) ConfigError.NotDuplicateMaster := by
  induction fields with
  | nil => exact fun owners ho => ho
  | cons field rest ih =>
    intro owners ho
    rw [readOwners]
    split
    · simp [ConfigError.NotDuplicateMaster]
    · refine meets_bind (readNodeId_meets _ _) fun owner _ => ?_
      dsimp only
      split
      · simp [ConfigError.NotDuplicateMaster]
      · rename_i hknown
        split
        · simp [ConfigError.NotDuplicateMaster]
        · rename_i hnew
          split
          · rename_i owners' hpush
            refine ih owners' ⟨?_, fun x hx => ?_⟩
            · rw [OwnerList.push_ids hpush, List.nodup_append]
              have hnew : owner ∉ owners.ids := by simpa [OwnerList.contains] using hnew
              exact ⟨ho.1, by simp, fun a ha b hb hab => hnew (by rw [← List.mem_singleton.mp hb, ← hab]; exact ha)⟩
            · rw [OwnerList.push_ids hpush] at hx
              rcases List.mem_append.mp hx with hx | hx
              · exact ho.2 x hx
              · rw [List.mem_singleton.mp hx]
                simpa using hknown
          · simp [ConfigError.NotDuplicateMaster]

theorem checkRegionSize_meets (region size p : Nat) :
    Meets ((checkRegionSize region size p).mapError .region) (fun _ => 0 < size ∧ 0 < p ∧ size % p = 0)
      ConfigError.NotDuplicateMaster := by
  unfold checkRegionSize
  split
  · simp [ConfigError.NotDuplicateMaster]
  · rename_i h
    simp only [mapError_ok, meets_ok]
    omega

theorem readRegion_meets (p : Nat) (d : DomainId) (nodes : Registry) (record : List Char) :
    Meets (readRegion p d nodes record) (·.Configured p d nodes) ConfigError.NotDuplicateMaster := by
  unfold readRegion
  split
  · rename_i ownerFields _
    refine meets_bind (readNumber_meets _ _) fun id _ => ?_
    dsimp only
    split
    · simp [ConfigError.NotDuplicateMaster]
    · refine meets_bind (readNumber_meets _ _) fun size _ => ?_
      refine meets_bind (checkRegionSize_meets id size p) fun _ hsize => ?_
      refine meets_bind (readOwners_meets d nodes id ownerFields OwnerList.empty ⟨by simp [OwnerList.empty], by
        simp [OwnerList.empty]⟩) fun owners ho => ?_
      have hok : checkRegionSize id size p = .ok () := checkRegionSize_eq_ok_iff.mpr hsize
      simp only [Region.make, hok]
      exact ⟨rfl, hsize.1, hsize.2.1, hsize.2.2, rfl, rfl, owners.bound, ho⟩
  · simp [ConfigError.NotDuplicateMaster]

theorem readRegionList_meets (p : Nat) (d : DomainId) (nodes : Registry) (list : String) :
    Told.Meets (readRegionList p d nodes list) (·.Configured p d nodes) ConfigError.NotDuplicateMaster := by
  unfold readRegionList
  refine Told.meets_foldlM _ (RegionTable.configured_empty p d nodes) fun t record _ ht => ?_
  refine Told.meets_bind (Told.meets_ofExcept (readRegion_meets p d nodes record)) fun region hr => ?_
  refine Told.meets_bind (Told.meets_tell _) fun _ _ => ?_
  exact Told.meets_ofExcept (RegionTable.insert_meets ht hr)

theorem require_meets (o : Options) (key : String) :
    Meets (o.require key) (fun _ => True) ConfigError.NotDuplicateMaster := by
  unfold Options.require
  split <;> simp [ConfigError.NotDuplicateMaster]

theorem readDomain_meets (o : Options) :
    Meets (readDomain o) (fun _ => True) ConfigError.NotDuplicateMaster := by
  unfold readDomain
  refine meets_bind (require_meets o _) fun text _ => ?_
  refine meets_bind (readNumber_meets _ _) fun raw _ => ?_
  unfold DomainId.ofRaw
  split <;> simp [ConfigError.NotDuplicateMaster]

end Config

/-! ### The configuration -/

/-- What every master configuration built with pages of `p` bytes satisfies. --/
structure MasterConfig.WellFormed (c : MasterConfig) (p : Nat) : Prop where
  localNode : c.localNode = NodeId.master
  pageSize : c.pageSize = p
  nodes_ne : c.nodes.nodes ≠ []
  nodes : c.nodes.Configured c.domain
  master_mem : c.nodes.contains c.domain NodeId.master = true
  regions : c.regions.Configured p c.domain c.nodes

namespace Config

theorem buildMaster_meets (p : Nat) (o : Options) :
    Told.Meets (buildMaster p o) (·.WellFormed p) ConfigError.NotDuplicateMaster := by
  unfold buildMaster
  refine Told.meets_bind (Told.meets_ofExcept (readDomain_meets o)) fun d _ => ?_
  refine Told.meets_bind (Told.meets_tell _) fun _ _ => ?_
  refine Told.meets_bind (Told.meets_ofExcept (require_meets o _)) fun list _ => ?_
  refine Told.meets_bind (readNodeList_meets d list) fun nodes ⟨hn, hne⟩ => ?_
  split
  · exact Told.meets_bind (Told.meets_throw (by simp [ConfigError.NotDuplicateMaster])) fun _ (h : False) => h.elim
  · rename_i hmaster
    have hmaster : nodes.contains d NodeId.master = true := by simpa using hmaster
    refine Told.meets_bind (Told.meets_ofExcept (require_meets o _)) fun regionList _ => ?_
    refine Told.meets_bind (readRegionList_meets p d nodes regionList) fun regions hr => ?_
    refine Told.meets_bind (Told.meets_tell _) fun _ _ => ?_
    exact Told.meets_pure ⟨rfl, rfl, hne, hn, hmaster, hr⟩

theorem wellFormed_of_buildMaster {p : Nat} {o : Options} {c : MasterConfig}
    (h : (buildMaster p o).run.2 = .ok c) : c.WellFormed p :=
  (buildMaster_meets p o).run.of_eq_ok h

end Config

/-- Node 1 is the master the registry reports for the domain. --/
theorem MasterConfig.WellFormed.master? {c : MasterConfig} {p : Nat} (h : c.WellFormed p) :
    ∃ n, c.nodes.master? c.domain = some n ∧ n.id = NodeId.master := by
  obtain ⟨m, hm, hd, hid⟩ := Registry.contains_iff.mp h.master_mem
  have hsome : (c.nodes.master? c.domain).isSome = true := by
    simp only [Registry.master?, List.find?_isSome, Bool.and_eq_true, decide_eq_true_eq]
    exact ⟨m, hm, hd, ((h.nodes.nodes m hm).isMaster).mpr hid⟩
  obtain ⟨n, hn⟩ := Option.isSome_iff_exists.mp hsome
  have hsat := List.find?_some hn
  simp only [Bool.and_eq_true, decide_eq_true_eq] at hsat
  exact ⟨n, hn, ((h.nodes.nodes n (List.mem_of_find?_eq_some hn)).isMaster).mp hsat.2⟩

/-- Every master configuration built from options is well formed, with node 1 as the domain's
    master, and no options make the builder report a second master. --/
theorem buildMaster_wellFormed (p : Nat) (o : Options) :
    (∀ c, (Config.buildMaster p o).run.2 = .ok c →
      c.WellFormed p ∧ ∃ n, c.nodes.master? c.domain = some n ∧ n.id = NodeId.master) ∧
    ∀ d n, (Config.buildMaster p o).run.2 ≠ .error (.node (.duplicateMaster d n)) := by
  refine ⟨fun c h => ⟨Config.wellFormed_of_buildMaster h, (Config.wellFormed_of_buildMaster h).master?⟩,
    fun d n h => ?_⟩
  have := (Config.buildMaster_meets p o).run
  rw [h] at this
  exact this d n rfl

end LiveMigration
