import LiveMigration.Bootstrap
import LiveMigration.Proofs.MasterText

/-! Opening a configured master. With no RAM block the engine is not called; with one, the regions
    must fit in it and the domain may have at most 32 nodes besides the master, and only then is the
    engine asked, once, to open as master of the configured nodes and of the regions laid out back
    to back from the start of the block. The session that comes back is the domain's master, with
    the regions the engine was given, no timer, and every other node of the domain as the owners of
    an unmapped range, each once. -/

namespace LiveMigration

open Text

namespace RegionTable

/-- The sizes of regions added up, with no bound. --/
def sizeSum : List Region → Nat
  | [] => 0
  | r :: rs => r.size + sizeSum rs

theorem foldl_saturatingAdd (rs : List Region) {a : Nat} (ha : a ≤ wordMax) :
    rs.foldl (fun acc r => saturatingAdd acc r.size) a = min (a + sizeSum rs) wordMax := by
  induction rs generalizing a with
  | nil =>
    simp only [List.foldl_nil, sizeSum, Nat.add_zero]
    omega
  | cons r rs ih =>
    rw [List.foldl_cons, ih (show saturatingAdd a r.size ≤ wordMax from Nat.min_le_right _ _), saturatingAdd,
      sizeSum]
    omega

/-- The saturating total is the plain sum held at the largest 64-bit value. --/
theorem totalSize_eq (t : RegionTable) : t.totalSize = min (sizeSum t.regions) wordMax := by
  rw [totalSize, foldl_saturatingAdd _ (Nat.zero_le _), Nat.zero_add]

theorem bind_of_lt {t : RegionTable} {span : RamSpan} (hword : sizeSum t.regions ≤ wordMax)
    (h : span.size < sizeSum t.regions) : t.bind span = .error (.exceedsRam (sizeSum t.regions) span.size) := by
  have htotal : t.totalSize = sizeSum t.regions := by
    rw [totalSize_eq]
    omega
  simp only [bind, htotal, gt_iff_lt, h, ↓reduceIte]

theorem bind_of_le {t : RegionTable} {span : RamSpan} (hword : sizeSum t.regions ≤ wordMax)
    (h : sizeSum t.regions ≤ span.size) : t.bind span = .ok ⟨layOut span.hostAddr t.regions⟩ := by
  have htotal : t.totalSize = sizeSum t.regions := by
    rw [totalSize_eq]
    omega
  simp only [bind, htotal, gt_iff_lt, Nat.not_lt.mpr h, ↓reduceIte]

end RegionTable

/-! ### The owners of a master's ranges -/

namespace Registry

theorem peers_nodup {r : Registry} (d : DomainId) (self : NodeId) (h : (r.nodes.map (·.id)).Nodup) :
    (r.peers d self).Nodup :=
  h.sublist (List.filter_sublist.map _)

theorem self_not_mem_peers (r : Registry) (d : DomainId) (self : NodeId) : self ∉ r.peers d self := by
  simp [peers]

end Registry

theorem rangeOwners_master_of_le {d : DomainId} {self : NodeId} {nodes : Registry}
    (h : (nodes.peers d self).length ≤ ownerCapacity) :
    rangeOwners .master d self nodes = .ok ⟨nodes.peers d self, h⟩ := by
  simp only [rangeOwners, OwnerList.ofList, dif_pos h]

theorem rangeOwners_master_of_lt {d : DomainId} {self : NodeId} {nodes : Registry}
    (h : ownerCapacity < (nodes.peers d self).length) :
    rangeOwners .master d self nodes = .error (.tooManyPeers d (nodes.peers d self).length) := by
  simp only [rangeOwners, OwnerList.ofList, dif_neg (Nat.not_le.mpr h)]

/-! ### Opening -/

/-- The session a master opens: the domain's master over `span`, with the configured nodes, the
    regions laid out from the start of the block, no timer, and the domain's other nodes as owners,
    each once. --/
structure OpenedMaster (c : MasterConfig) (span : RamSpan) (handle : Nat) (s : Session) : Prop where
  handle : s.handle = handle
  role : s.role = .master
  domain : s.domain = c.domain
  localNode : s.localNode = NodeId.master
  nodes : s.nodes = c.nodes
  regions : s.regions = ⟨RegionTable.layOut span.hostAddr c.regions.regions⟩
  span : s.span = span
  timer : s.timer = none
  pageSize : s.pageSize = c.pageSize
  owners : s.unmapOwners.ids = c.nodes.peers c.domain NodeId.master
  owners_nodup : s.unmapOwners.ids.Nodup
  master_not_mem : NodeId.master ∉ s.unmapOwners.ids
  prefetch : s.prefetchWorkers = 0

section OpenAsMaster
variable {engine : Engine} {control : Controller} {d : DomainId} {nodes : Registry} {regions : RegionTable}
  {span : RamSpan} {p : Nat} {owners : OwnerList}

/-- Too many peers: the engine is not called. --/
theorem openAsMaster_of_error {e : SessionError} (hown : rangeOwners .master d NodeId.master nodes = .error e) :
    openAsMaster engine control d nodes regions span p = ⟨engine, control, .error (.session e)⟩ := by
  simp only [openAsMaster, hown]

section Owners
variable (hown : rangeOwners .master d NodeId.master nodes = .ok owners)
include hown

/-- Past the owners the engine is asked once, whatever it answers, and the controller is left as
    it was. --/
theorem openAsMaster_calls :
    (openAsMaster engine control d nodes regions span p).engine =
      { engine with masterCalls := engine.masterCalls ++ [(nodes, regions)] } ∧
    (openAsMaster engine control d nodes regions span p).control = control := by
  unfold openAsMaster
  rw [hown]
  dsimp only [Engine.openAsMaster]
  split <;> (try split) <;> exact ⟨rfl, rfl⟩

theorem openAsMaster_refused (h : engine.failOpen = true) :
    (openAsMaster engine control d nodes regions span p).result = .error (.engine (.openMaster .connectionRefused)) := by
  simp only [openAsMaster, hown, Engine.openAsMaster, h, ↓reduceIte]

theorem openAsMaster_invalidHandle (h : engine.failOpen = false) (hfd : engine.fd ≤ 0) :
    (openAsMaster engine control d nodes regions span p).result = .error (.invalidHandle engine.fd) := by
  have hnone : handleOf? engine.fd = none := by
    simp only [handleOf?, gt_iff_lt, Int.not_lt.mpr hfd, ↓reduceIte]
  simp only [openAsMaster, hown, Engine.openAsMaster, h, Bool.false_eq_true, ↓reduceIte, hnone]

theorem openAsMaster_ok (h : engine.failOpen = false) (hfd : 0 < engine.fd) :
    (openAsMaster engine control d nodes regions span p).result =
      .ok { handle := engine.fd.toNat, role := .master, domain := d, localNode := NodeId.master, nodes, regions, span,
            unmapOwners := owners, timer := none, pageSize := p } := by
  have hsome : handleOf? engine.fd = some engine.fd.toNat := by
    simp only [handleOf?, gt_iff_lt, hfd, ↓reduceIte]
  simp only [openAsMaster, hown, Engine.openAsMaster, h, Bool.false_eq_true, ↓reduceIte, hsome]

end Owners

end OpenAsMaster

/-- Opening a master built from options: no RAM block, regions that do not fit, or more than 32
    other nodes in the domain end the opening before the engine is called; otherwise the engine is
    asked once, with the configured nodes and the regions laid out from the start of the block, and
    its answer decides between a fault and the master's session. --/
theorem openMaster_outcome {p : Nat} {o : Options} {c : MasterConfig} (hc : (Config.buildMaster p o).run.2 = .ok c)
    (engine : Engine) (control : Controller) :
    openMaster engine control none c = ⟨engine, control, .error .ramNotFound⟩ ∧
    ∀ span : RamSpan, span.hostAddr + RegionTable.sizeSum c.regions.regions ≤ wordMax →
      (span.size < RegionTable.sizeSum c.regions.regions →
        openMaster engine control (some span) c =
          ⟨engine, control, .error (.region (.exceedsRam (RegionTable.sizeSum c.regions.regions) span.size))⟩) ∧
      (RegionTable.sizeSum c.regions.regions ≤ span.size →
        ownerCapacity < (c.nodes.peers c.domain NodeId.master).length →
        openMaster engine control (some span) c =
          ⟨engine, control, .error (.session (.tooManyPeers c.domain (c.nodes.peers c.domain NodeId.master).length))⟩) ∧
      (RegionTable.sizeSum c.regions.regions ≤ span.size →
        (c.nodes.peers c.domain NodeId.master).length ≤ ownerCapacity →
        (openMaster engine control (some span) c).engine =
          { engine with masterCalls := engine.masterCalls ++
              [(c.nodes, ⟨RegionTable.layOut span.hostAddr c.regions.regions⟩)] } ∧
        (openMaster engine control (some span) c).control = control ∧
        (engine.failOpen = true →
          (openMaster engine control (some span) c).result = .error (.engine (.openMaster .connectionRefused))) ∧
        (engine.failOpen = false → engine.fd ≤ 0 →
          (openMaster engine control (some span) c).result = .error (.invalidHandle engine.fd)) ∧
        (engine.failOpen = false → 0 < engine.fd →
          ∃ s, (openMaster engine control (some span) c).result = .ok s ∧ OpenedMaster c span engine.fd.toNat s)) := by
  have hwf := Config.wellFormed_of_buildMaster hc
  refine ⟨rfl, fun span hspan => ?_⟩
  have hword : RegionTable.sizeSum c.regions.regions ≤ wordMax := by omega
  refine ⟨fun hlt => ?_, fun hle hpeers => ?_, fun hle hpeers => ?_⟩
  · simp only [openMaster, resolveRam, RegionTable.bind_of_lt hword hlt]
  · simp only [openMaster, resolveRam, RegionTable.bind_of_le hword hle, openAsMaster_of_error
      (rangeOwners_master_of_lt hpeers)]
  · -- the regions fit and the owners fit: what is left is opening as master
    have hown := rangeOwners_master_of_le hpeers
    have hopen : openMaster engine control (some span) c = openAsMaster engine control c.domain c.nodes
        ⟨RegionTable.layOut span.hostAddr c.regions.regions⟩ span c.pageSize := by
      simp only [openMaster, resolveRam, RegionTable.bind_of_le hword hle]
    rw [hopen]
    refine ⟨(openAsMaster_calls hown).1, (openAsMaster_calls hown).2, openAsMaster_refused hown,
      openAsMaster_invalidHandle hown, fun h hfd => ⟨_, openAsMaster_ok hown h hfd, ?_⟩⟩
    exact { handle := rfl, role := rfl, domain := rfl, localNode := rfl, nodes := rfl, regions := rfl, span := rfl,
            timer := rfl, pageSize := rfl, owners := rfl,
            owners_nodup := Registry.peers_nodup _ _ hwf.nodes.ids,
            master_not_mem := Registry.self_not_mem_peers _ _ _, prefetch := rfl }

theorem openMaster_sample :
    (Config.buildMaster 4096 (masterPairs DomainId.liveMigration sampleNodes sampleRegions)).run.2 = .ok (describedConfig DomainId.liveMigration 4096 sampleNodes sampleRegions) ∧
    (openMaster {} {} none (describedConfig DomainId.liveMigration 4096 sampleNodes sampleRegions) = ⟨{}, {}, .error .ramNotFound⟩ ∧
    ∀ span : RamSpan, span.hostAddr + RegionTable.sizeSum (describedConfig DomainId.liveMigration 4096 sampleNodes sampleRegions).regions.regions ≤ wordMax →
      (span.size < RegionTable.sizeSum (describedConfig DomainId.liveMigration 4096 sampleNodes sampleRegions).regions.regions →
        openMaster {} {} (some span) (describedConfig DomainId.liveMigration 4096 sampleNodes sampleRegions) =
          ⟨{}, {}, .error (.region (.exceedsRam (RegionTable.sizeSum (describedConfig DomainId.liveMigration 4096 sampleNodes sampleRegions).regions.regions) span.size))⟩) ∧
      (RegionTable.sizeSum (describedConfig DomainId.liveMigration 4096 sampleNodes sampleRegions).regions.regions ≤ span.size →
        ownerCapacity < ((describedConfig DomainId.liveMigration 4096 sampleNodes sampleRegions).nodes.peers (describedConfig DomainId.liveMigration 4096 sampleNodes sampleRegions).domain NodeId.master).length →
        openMaster {} {} (some span) (describedConfig DomainId.liveMigration 4096 sampleNodes sampleRegions) =
          ⟨{}, {}, .error (.session (.tooManyPeers (describedConfig DomainId.liveMigration 4096 sampleNodes sampleRegions).domain
            ((describedConfig DomainId.liveMigration 4096 sampleNodes sampleRegions).nodes.peers (describedConfig DomainId.liveMigration 4096 sampleNodes sampleRegions).domain NodeId.master).length))⟩) ∧
      (RegionTable.sizeSum (describedConfig DomainId.liveMigration 4096 sampleNodes sampleRegions).regions.regions ≤ span.size →
        ((describedConfig DomainId.liveMigration 4096 sampleNodes sampleRegions).nodes.peers (describedConfig DomainId.liveMigration 4096 sampleNodes sampleRegions).domain NodeId.master).length ≤ ownerCapacity →
        (openMaster {} {} (some span) (describedConfig DomainId.liveMigration 4096 sampleNodes sampleRegions)).engine =
          { ({} : Engine) with masterCalls := ({} : Engine).masterCalls ++
              [((describedConfig DomainId.liveMigration 4096 sampleNodes sampleRegions).nodes, ⟨RegionTable.layOut span.hostAddr (describedConfig DomainId.liveMigration 4096 sampleNodes sampleRegions).regions.regions⟩)] } ∧
        (openMaster {} {} (some span) (describedConfig DomainId.liveMigration 4096 sampleNodes sampleRegions)).control = {} ∧
        (({} : Engine).failOpen = true →
          (openMaster {} {} (some span) (describedConfig DomainId.liveMigration 4096 sampleNodes sampleRegions)).result = .error (.engine (.openMaster .connectionRefused))) ∧
        (({} : Engine).failOpen = false → ({} : Engine).fd ≤ 0 →
          (openMaster {} {} (some span) (describedConfig DomainId.liveMigration 4096 sampleNodes sampleRegions)).result = .error (.invalidHandle ({} : Engine).fd)) ∧
        (({} : Engine).failOpen = false → 0 < ({} : Engine).fd →
          ∃ s, (openMaster {} {} (some span) (describedConfig DomainId.liveMigration 4096 sampleNodes sampleRegions)).result = .ok s ∧
            OpenedMaster (describedConfig DomainId.liveMigration 4096 sampleNodes sampleRegions) span ({} : Engine).fd.toNat s))) :=
  have hc := @buildMaster_masterPairs 4096 DomainId.liveMigration sampleNodes sampleRegions sample_accepted
  ⟨hc, openMaster_outcome hc {} {}⟩

end LiveMigration
