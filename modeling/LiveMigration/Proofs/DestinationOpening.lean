import LiveMigration.Proofs.OpenMaster

/-! # Opening the migration destination

The destination builds its domain itself: node 1 is the destination and the master, node 2 the
source, both on the RDMA port and with no sync port, and one region of id 1 covers the whole RAM
block, owned by node 2 and fetched on access. Built this way, the node and region tables can fail in
one way only: a RAM block whose size is zero or no whole number of pages is refused as the region's
size. Two nodes with different identifiers never clash, whatever their addresses; one owner fits in
an owner list; one region has no duplicate; a table of one region fits in its own block; and node 1
has a single peer. So the destination either ends before the engine is asked (no RAM block, or a
block of the wrong size), or asks it once to open as master of exactly these two nodes and this one
region at the start of the block, and then the engine's answer decides. -/

namespace LiveMigration

open Text

/-- The two nodes of a migration as the engine is given them: the destination as master node 1
    and the source as node 2, both on the RDMA port and with no sync port. --/
def migrationRegistry (ports : Ports) (destIp sourceIp : Net.Ipv4) : Registry :=
  ⟨[⟨DomainId.liveMigration, NodeId.master, ⟨destIp, ports.rdmaPort, none⟩, true⟩,
    ⟨DomainId.liveMigration, NodeId.migrationClient, ⟨sourceIp, ports.rdmaPort, none⟩, false⟩]⟩

/-- The region of a migration bound to `span`: region 1 of domain 1 over the whole block, owned by
    node 2 and fetched on access. --/
def migrationRegion (span : RamSpan) : Region :=
  { domain := DomainId.liveMigration, id := 1, base := span.hostAddr, size := span.size,
    owners := ⟨[NodeId.migrationClient], Nat.le_of_ble_eq_true rfl⟩, flags := RegionFlags.copyOnAccessOnly }

/-! ### The tables of a migration -/

/-- The two nodes always make a registry, also when both have the same address. --/
theorem migrationNodes_eq (ports : Ports) (destIp sourceIp : Net.Ipv4) :
    migrationNodes ports destIp sourceIp = .ok (migrationRegistry ports destIp sourceIp) := rfl

theorem push_migrationClient :
    OwnerList.empty.push NodeId.migrationClient = .ok ⟨[NodeId.migrationClient], Nat.le_of_ble_eq_true rfl⟩ := rfl

theorem migrationRegions_of_invalid {span : RamSpan} (h : span.size = 0 ∨ span.size % guestPageSize ≠ 0) :
    migrationRegions span = .error (.invalidSize 1 span.size guestPageSize) := by
  have hsize : checkRegionSize 1 span.size guestPageSize = .error (.invalidSize 1 span.size guestPageSize) :=
    if_pos (h.elim Or.inl fun h => Or.inr (Or.inr h))
  simp only [migrationRegions, push_migrationClient, Region.make, hsize]
  rfl

/-- A table whose total fits in the block is laid out from its start. --/
theorem RegionTable.bind_of_totalSize_le {t : RegionTable} {span : RamSpan} (h : t.totalSize ≤ span.size) :
    t.bind span = .ok ⟨RegionTable.layOut span.hostAddr t.regions⟩ := by
  simp only [RegionTable.bind, gt_iff_lt, Nat.not_lt.mpr h, ↓reduceIte]

/-- A block of a nonzero whole number of pages becomes the one region, bound at its start: one
    region needs no more bytes than its own block has. --/
theorem migrationRegions_of_valid {span : RamSpan} (hpos : 0 < span.size) (hpage : span.size % guestPageSize = 0) :
    migrationRegions span = .ok ⟨[migrationRegion span]⟩ := by
  have hsize : checkRegionSize 1 span.size guestPageSize = .ok () :=
    checkRegionSize_eq_ok_iff.mpr ⟨hpos, by decide, hpage⟩
  let r : Region := { migrationRegion span with base := 0 }
  have hfit : (RegionTable.mk [r]).totalSize ≤ span.size := by
    rw [RegionTable.totalSize_eq]
    exact Nat.le_trans (Nat.min_le_left _ _) (Nat.le_of_eq (Nat.add_zero _))
  have hinsert : RegionTable.empty.insert r = .ok ⟨[r]⟩ := rfl
  simp only [migrationRegions, push_migrationClient, Region.make, hsize]
  show (RegionTable.empty.insert r >>= fun table => table.bind span) = _
  rw [hinsert]
  exact RegionTable.bind_of_totalSize_le hfit

/-- Node 1 of the migration has one peer, the source. --/
theorem rangeOwners_migration (ports : Ports) (destIp sourceIp : Net.Ipv4) :
    rangeOwners .master DomainId.liveMigration NodeId.master (migrationRegistry ports destIp sourceIp) =
      .ok ⟨[NodeId.migrationClient], Nat.le_of_ble_eq_true rfl⟩ := rfl

/-! ### Opening -/

/-- The destination's session: the master of domain 1 over `span`, with the migration's nodes and
    its one region at the start of the block, the source as the owner of every unmapped range,
    pages of 4096 bytes and no timer. --/
structure OpenedDestination (ports : Ports) (destIp sourceIp : Net.Ipv4) (span : RamSpan) (handle : Nat)
    (s : Session) : Prop where
  handle : s.handle = handle
  role : s.role = .master
  domain : s.domain = DomainId.liveMigration
  localNode : s.localNode = NodeId.master
  nodes : s.nodes = migrationRegistry ports destIp sourceIp
  regions : s.regions = ⟨[migrationRegion span]⟩
  span : s.span = span
  owners : s.unmapOwners.ids = [NodeId.migrationClient]
  timer : s.timer = none
  pageSize : s.pageSize = guestPageSize
  prefetch : s.prefetchWorkers = 0

section Destination
variable {engine : Engine} {control : Controller} {ports : Ports} {destIp sourceIp : Net.Ipv4}

theorem migrateDestInit_ramNotFound :
    migrateDestInit engine control none ports destIp sourceIp = ⟨engine, control, .error .ramNotFound⟩ := rfl

theorem migrateDestInit_invalidSize {span : RamSpan} (h : span.size = 0 ∨ span.size % guestPageSize ≠ 0) :
    migrateDestInit engine control (some span) ports destIp sourceIp =
      ⟨engine, control, .error (.region (.invalidSize 1 span.size guestPageSize))⟩ := by
  simp only [migrateDestInit, resolveRam, migrationNodes_eq, migrationRegions_of_invalid h, bind, Except.bind,
    mapError_ok, mapError_error]

/-- A block of the right size hands the opening to the master's: the engine is asked with the
    migration's nodes and its region. --/
theorem migrateDestInit_of_valid {span : RamSpan} (hpos : 0 < span.size) (hpage : span.size % guestPageSize = 0) :
    migrateDestInit engine control (some span) ports destIp sourceIp =
      openAsMaster engine control DomainId.liveMigration (migrationRegistry ports destIp sourceIp)
        ⟨[migrationRegion span]⟩ span guestPageSize := by
  simp only [migrateDestInit, resolveRam, migrationNodes_eq, migrationRegions_of_valid hpos hpage, bind, Except.bind,
    mapError_ok, pure, Except.pure]

end Destination

/-- Every fault the destination can end with: no RAM block, a block of the wrong size, the engine's
    refusal or an invalid descriptor. No node fault, no owner, duplicate region or RAM size fault of
    the region table, and no fault about the owners of unmapped ranges is ever reported. --/
theorem migrateDestInit_faults (engine : Engine) (control : Controller) (ram : Option RamSpan) (ports : Ports)
    (destIp sourceIp : Net.Ipv4) {e : BootstrapError}
    (h : (migrateDestInit engine control ram ports destIp sourceIp).result = .error e) :
    e = .ramNotFound ∨ (∃ size, e = .region (.invalidSize 1 size guestPageSize)) ∨ (∃ ee, e = .engine ee) ∨
      ∃ fd, e = .invalidHandle fd := by
  cases ram with
  | none =>
    rw [migrateDestInit_ramNotFound] at h
    cases h
    exact .inl rfl
  | some span =>
    by_cases hvalid : 0 < span.size ∧ span.size % guestPageSize = 0
    · have hown := rangeOwners_migration ports destIp sourceIp
      rw [migrateDestInit_of_valid hvalid.1 hvalid.2] at h
      cases hf : engine.failOpen
      · by_cases hfd : 0 < engine.fd
        · rw [openAsMaster_ok hown hf hfd] at h
          cases h
        · rw [openAsMaster_invalidHandle hown hf (by omega)] at h
          cases h
          exact .inr (.inr (.inr ⟨_, rfl⟩))
      · rw [openAsMaster_refused hown hf] at h
        cases h
        exact .inr (.inr (.inl ⟨_, rfl⟩))
    · rw [migrateDestInit_invalidSize (by omega)] at h
      cases h
      exact .inr (.inl ⟨_, rfl⟩)

/-- Opening the migration destination. With no RAM block, or a block of zero bytes or of no whole
    number of pages, it ends before the engine is asked, with the controller untouched. Otherwise the
    engine is asked once to open as master of the destination (node 1, master) and the source
    (node 2), both on the RDMA port with no sync port, and of region 1 over the whole block, owned by
    node 2 and fetched on access; its refusal or a descriptor that is not positive is the fault, and
    otherwise the session is the master's, with the regions the engine was given, the source as the
    owner of every unmapped range and pages of 4096 bytes. No other fault is ever reported. --/
theorem migrateDestInit_outcome (engine : Engine) (control : Controller) (ports : Ports) (destIp sourceIp : Net.Ipv4) :
    migrateDestInit engine control none ports destIp sourceIp = ⟨engine, control, .error .ramNotFound⟩ ∧
    ∀ span : RamSpan, span.hostAddr + span.size ≤ wordMax →
      ((span.size = 0 ∨ span.size % guestPageSize ≠ 0) →
        migrateDestInit engine control (some span) ports destIp sourceIp =
          ⟨engine, control, .error (.region (.invalidSize 1 span.size guestPageSize))⟩) ∧
      (0 < span.size → span.size % guestPageSize = 0 →
        (migrateDestInit engine control (some span) ports destIp sourceIp).engine =
          { engine with masterCalls := engine.masterCalls ++
              [(migrationRegistry ports destIp sourceIp, ⟨[migrationRegion span]⟩)] } ∧
        (migrateDestInit engine control (some span) ports destIp sourceIp).control = control ∧
        (engine.failOpen = true →
          (migrateDestInit engine control (some span) ports destIp sourceIp).result =
            .error (.engine (.openMaster .connectionRefused))) ∧
        (engine.failOpen = false → engine.fd ≤ 0 →
          (migrateDestInit engine control (some span) ports destIp sourceIp).result = .error (.invalidHandle engine.fd)) ∧
        (engine.failOpen = false → 0 < engine.fd →
          ∃ s, (migrateDestInit engine control (some span) ports destIp sourceIp).result = .ok s ∧
            OpenedDestination ports destIp sourceIp span engine.fd.toNat s)) ∧
      ∀ e, (migrateDestInit engine control (some span) ports destIp sourceIp).result = .error e →
        e = .ramNotFound ∨ (∃ size, e = .region (.invalidSize 1 size guestPageSize)) ∨ (∃ ee, e = .engine ee) ∨
          ∃ fd, e = .invalidHandle fd := by
  refine ⟨migrateDestInit_ramNotFound, fun span _ => ⟨migrateDestInit_invalidSize, fun hpos hpage => ?_,
    fun _ h => migrateDestInit_faults engine control (some span) ports destIp sourceIp h⟩⟩
  have hown := rangeOwners_migration ports destIp sourceIp
  rw [migrateDestInit_of_valid hpos hpage]
  refine ⟨(openAsMaster_calls hown).1, (openAsMaster_calls hown).2, openAsMaster_refused hown,
    openAsMaster_invalidHandle hown, fun hf hfd => ⟨_, openAsMaster_ok hown hf hfd, ?_⟩⟩
  exact { handle := rfl, role := rfl, domain := rfl, localNode := rfl, nodes := rfl, regions := rfl, span := rfl,
          owners := rfl, timer := rfl, pageSize := rfl, prefetch := rfl }

end LiveMigration
