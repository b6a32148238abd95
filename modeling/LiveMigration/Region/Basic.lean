import LiveMigration.Region.Owners
import LiveMigration.Text.Decimal

/-! Memory regions of a domain. A region has an identifier, a size that is a nonzero multiple of
    the page size, an owner list and flags; its base is 0 until the region table lays it into the
    guest RAM block. The end address is base plus size, held at the largest 64-bit value. The
    region errors, including those of the region table, are gathered here with their wording. -/

namespace LiveMigration

open Text

/-! ### Flags -/

/-- What the engine does with a region's pages. --/
structure RegionFlags where
  /-- Pages are dropped from the local node once copied (bit 1). --/
  autoUnmap : Bool := false
  /-- Pages are fetched from an owner when first touched (bit 2). --/
  copyOnAccess : Bool := false
deriving DecidableEq

namespace RegionFlags

/-- Flags from their bits; other bits are dropped. --/
def ofBits (n : Nat) : RegionFlags := ⟨n % 2 = 1, n / 2 % 2 = 1⟩

/-- The bits of the flags. --/
def bits (f : RegionFlags) : Nat := (if f.autoUnmap then 1 else 0) + (if f.copyOnAccess then 2 else 0)

/-- Only `AUTO_UNMAP`. --/
def autoUnmapOnly : RegionFlags := ⟨true, false⟩

/-- Only `COPY_ON_ACCESS`. --/
def copyOnAccessOnly : RegionFlags := ⟨false, true⟩

/-- `RegionFlags(AUTO_UNMAP | COPY_ON_ACCESS)`, the set names joined, or `RegionFlags(0x0)`. --/
def render (f : RegionFlags) : String :=
  let names := (if f.autoUnmap then ["AUTO_UNMAP"] else []) ++
    (if f.copyOnAccess then ["COPY_ON_ACCESS"] else [])
  "RegionFlags(" ++ (if names.isEmpty then "0x0" else " | ".intercalate names) ++ ")"

end RegionFlags

/-! ### Errors -/

/-- Faults about regions and the region table. --/
inductive RegionError where
  /-- The size is zero or no multiple of the page size. --/
  | invalidSize (region size pageSize : Nat)
  /-- The region lists more owners than an owner list holds. --/
  | tooManyOwners (region : Nat)
  /-- The domain already defines a region with this identifier. --/
  | duplicateRegion (domain : DomainId) (region : Nat)
  /-- The regions together need more bytes than the guest RAM block has. --/
  | exceedsRam (needed available : Nat)
deriving DecidableEq

/-- The wording of each region fault. --/
def RegionError.message : RegionError → String
  | .invalidSize region size page =>
    s!"Region {region} has invalid size {size}: must be nonzero and a multiple of {page}"
  | .tooManyOwners region => s!"Region {region} lists more than 32 owners"
  | .duplicateRegion domain region =>
    s!"Region {region} is already defined in domain {domain.val}"
  | .exceedsRam needed available =>
    "Regions need " ++ hex needed ++ " bytes but the guest RAM block only has " ++ hex available

/-- A region size must be a nonzero multiple of a nonzero page size. --/
def checkRegionSize (region size pageSize : Nat) : Except RegionError Unit :=
  if size = 0 ∨ pageSize = 0 ∨ size % pageSize ≠ 0 then .error (.invalidSize region size pageSize)
  else .ok ()

theorem checkRegionSize_eq_ok_iff {region size pageSize : Nat} :
    checkRegionSize region size pageSize = .ok () ↔ 0 < size ∧ 0 < pageSize ∧ size % pageSize = 0 := by
  unfold checkRegionSize
  split
  · rename_i h
    simp only [reduceCtorEq, false_iff]
    omega
  · rename_i h
    simp only [true_iff]
    omega

/-! ### Regions -/

/-- A region of guest memory shared in a domain. --/
structure Region where
  domain : DomainId
  id : Nat
  base : Nat := 0
  size : Nat
  owners : OwnerList
  flags : RegionFlags
deriving DecidableEq

namespace Region

/-- A region at base 0, once its size is checked against the page size. --/
def make (domain : DomainId) (id size pageSize : Nat) (owners : OwnerList) (flags : RegionFlags) :
    Except RegionError Region := do
  checkRegionSize id size pageSize
  pure { domain, id, size, owners, flags }

/-- Base plus size, held at the largest 64-bit value. --/
def endAddress (r : Region) : Nat := min (r.base + r.size) wordMax

/-- `{ domain: D, region: R, base: 0x.., size: 0x.., owners: [..], flags: RegionFlags(..) }`. --/
def render (r : Region) : String :=
  "\x7b domain: " ++ r.domain.render ++ ", region: " ++ toString r.id ++ ", base: " ++ hex r.base ++
    ", size: " ++ hex r.size ++ ", owners: " ++ r.owners.render ++ ", flags: " ++ r.flags.render ++
    " \x7d"

end Region

end LiveMigration
