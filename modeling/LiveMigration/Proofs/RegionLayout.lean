import Mathlib.Data.List.Chain
import LiveMigration.Proofs.OpenMaster

/-! # Binding regions to the guest RAM block

Binding compares the saturating total of the region sizes with the size of the block, and then
lays the regions out with plain additions. The two agree on every table whose regions fit below the
largest 64-bit address: a table that needs more bytes than the block has is refused with the total
held at the largest 64-bit value, and binding returns no table, so the caller's table stays as it
was. A table that fits keeps its regions, in order and with every field but the base; the first
region starts at the start of the block and each next one where the one before it ends. The bound
regions are therefore pairwise disjoint and each lies inside the block.

One lemma per fact of `layOut` (`layOut_keeps`, `layOut_chain`, `bounds_of_mem_layOut`,
`layOut_pairwise`), each by induction on the regions; `bind_lays_out` puts them together. -/

namespace LiveMigration

open Text

namespace RegionTable

/-! ### Laying regions out -/

/-- Laying out changes the base of each region and nothing else, and keeps their order. --/
theorem layOut_keeps (next : Nat) (rs : List Region) :
    List.Forall₂ (fun r r' => r' = { r with base := r'.base }) rs (layOut next rs) := by
  induction rs generalizing next with
  | nil => exact .nil
  | cons r rs ih => exact .cons rfl (ih (next + r.size))

theorem base_of_head?_layOut {next : Nat} {rs : List Region} {x : Region}
    (hx : x ∈ (layOut next rs).head?) : x.base = next := by
  cases rs with
  | nil => cases hx
  | cons r rs =>
    rw [layOut, List.head?_cons, Option.mem_some_iff] at hx
    rw [← hx]

/-- Each region starts where the one before it ends. --/
theorem layOut_chain (next : Nat) (rs : List Region) :
    (layOut next rs).IsChain fun a b => b.base = a.base + a.size := by
  induction rs generalizing next with
  | nil => exact .nil
  | cons r rs ih =>
    rw [layOut, List.isChain_cons]
    exact ⟨fun y hy => by rw [base_of_head?_layOut hy], ih (next + r.size)⟩

/-- A laid-out region starts at `next` or later and ends no later than the sizes of all regions
    after `next`. --/
theorem bounds_of_mem_layOut {next : Nat} {rs : List Region} {x : Region} (hx : x ∈ layOut next rs) :
    next ≤ x.base ∧ x.base + x.size ≤ next + sizeSum rs := by
  induction rs generalizing next with
  | nil => cases hx
  | cons r rs ih =>
    rw [layOut] at hx
    rcases List.mem_cons.mp hx with rfl | hx
    · simp only [sizeSum]
      omega
    · have := ih hx
      simp only [sizeSum]
      omega

/-- Every region ends before each later region starts. --/
theorem layOut_pairwise (next : Nat) (rs : List Region) :
    (layOut next rs).Pairwise fun a b => a.base + a.size ≤ b.base := by
  induction rs generalizing next with
  | nil => exact .nil
  | cons r rs ih =>
    rw [layOut, List.pairwise_cons]
    exact ⟨fun y hy => (bounds_of_mem_layOut hy).1, ih (next + r.size)⟩

/-! ### Binding -/

/-- What binding to `span` makes of the regions `rs`: the same regions in the same order, only
    their bases changed, the first one at the start of the block, each next one where the one
    before it ends, none overlapping a later one, and each inside the block. --/
structure BoundTo (span : RamSpan) (rs rs' : List Region) : Prop where
  keeps : List.Forall₂ (fun r r' => r' = { r with base := r'.base }) rs rs'
  first : ∀ x ∈ rs'.head?, x.base = span.hostAddr
  contiguous : rs'.IsChain fun a b => b.base = a.base + a.size
  disjoint : rs'.Pairwise fun a b => a.base + a.size ≤ b.base
  inside : ∀ x ∈ rs', span.containsRange (x.base - span.hostAddr) x.size = true

theorem boundTo_layOut {span : RamSpan} {rs : List Region} (hfit : sizeSum rs ≤ span.size)
    (hword : span.hostAddr + sizeSum rs ≤ wordMax) : BoundTo span rs (layOut span.hostAddr rs) where
  keeps := layOut_keeps span.hostAddr rs
  first _ hx := base_of_head?_layOut hx
  contiguous := layOut_chain span.hostAddr rs
  disjoint := layOut_pairwise span.hostAddr rs
  inside x hx := by
    obtain ⟨hstart, hend⟩ := bounds_of_mem_layOut hx
    have hmax : wordMax < Nat.pow 2 64 := by decide
    simp only [RamSpan.containsRange, Bool.and_eq_true, decide_eq_true_eq]
    omega

/-- Binding a table to the block `span`. With `T` the plain sum of the region sizes: when the
    block is smaller than `T` and than the largest 64-bit value, binding is refused with the total
    held at that value; when `T` fits in the block and the block's start plus `T` is a 64-bit value,
    the regions are laid out back to back from the start of the block. --/
theorem bind_lays_out (t : RegionTable) (span : RamSpan) :
    (span.size < sizeSum t.regions → span.size < wordMax →
      t.bind span = .error (.exceedsRam (min (sizeSum t.regions) wordMax) span.size)) ∧
    (sizeSum t.regions ≤ span.size → span.hostAddr + sizeSum t.regions ≤ wordMax →
      ∃ t', t.bind span = .ok t' ∧ BoundTo span t.regions t'.regions) := by
  refine ⟨fun hlt hmax => ?_, fun hle hword => ⟨_, ?_, boundTo_layOut hle hword⟩⟩
  · have hover : span.size < min (sizeSum t.regions) wordMax := by omega
    simp only [bind, totalSize_eq, gt_iff_lt, hover, ↓reduceIte]
  · exact bind_of_le (by omega) hle

/-- One owner always fits in an owner list. --/
theorem single_owner_fits (n : NodeId) : [n].length ≤ ownerCapacity := Nat.le_of_ble_eq_true rfl

/-- Two regions of domain 1, of two pages and of one page, owned by node 2. --/
def twoRegions : RegionTable :=
  ⟨[{ domain := DomainId.liveMigration, id := 1, size := 0x2000,
      owners := ⟨[NodeId.migrationClient], single_owner_fits _⟩, flags := RegionFlags.autoUnmapOnly },
    { domain := DomainId.liveMigration, id := 2, size := 0x1000,
      owners := ⟨[NodeId.migrationClient], single_owner_fits _⟩, flags := RegionFlags.autoUnmapOnly }]⟩

theorem bind_lays_out_twoRegions :
    (0x2000 < sizeSum twoRegions.regions ∧ 0x2000 < wordMax ∧
      twoRegions.bind ⟨0x1000, 0x2000⟩ = .error (.exceedsRam (min (sizeSum twoRegions.regions) wordMax) 0x2000)) ∧
    (sizeSum twoRegions.regions ≤ 0x4000 ∧ 0x7f0000000000 + sizeSum twoRegions.regions ≤ wordMax ∧
      ∃ t', twoRegions.bind ⟨0x7f0000000000, 0x4000⟩ = .ok t' ∧
        BoundTo ⟨0x7f0000000000, 0x4000⟩ twoRegions.regions t'.regions) :=
  ⟨⟨by decide, by decide, (bind_lays_out twoRegions ⟨0x1000, 0x2000⟩).1 (by decide) (by decide)⟩,
    ⟨by decide, by decide, (bind_lays_out twoRegions ⟨0x7f0000000000, 0x4000⟩).2 (by decide) (by decide)⟩⟩

end RegionTable

end LiveMigration
