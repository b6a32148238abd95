import LiveMigration.Ram.Span
import LiveMigration.Text.Decimal

/-! Guest memory and walks over it. Guest memory is a list of blocks at guest addresses, each
    mapped somewhere in the host; the RAM block is the one at guest address 0. Touching an offset reads eight bytes there: the offset
    must lie in the RAM block, and the read may run on into blocks that follow without a gap; a read
    that finds fewer than eight bytes fails and says how many it found. A prefetch walk touches the
    offsets 0, p, 2p, … below the block size, one page of p bytes each, and stops at the first
    failure. -/

namespace LiveMigration

open Text

/-- Why guest RAM could not be touched. --/
inductive GuestRamError where
  /-- The offset is not inside the RAM block. --/
  | outOfRange (offset : Nat)
  /-- There is no block at guest address 0. --/
  | noRamBlock
  /-- A read found only `completed` of the `expected` bytes. --/
  | partialRead (completed expected : Nat)
deriving DecidableEq

/-- The wording of each guest RAM fault. --/
def GuestRamError.message : GuestRamError → String
  | .outOfRange offset => "Offset " ++ hex offset ++ " is outside the guest RAM block"
  | .noRamBlock => "Guest RAM has no block starting at address 0"
  | .partialRead completed expected =>
    s!"Failed to read guest RAM: Guest memory error: only used {completed} bytes in {expected} long buffer"

/-! ### Guest memory -/

/-- A block of guest memory: where the guest sees it, how many bytes it has, and where the host
    mapped it, which is never address 0. --/
@[ext]
structure Block where
  guestAddr : Nat
  size : Nat
  hostAddr : Nat
  hostAddr_pos : 0 < hostAddr

-- two blocks are equal when their addresses and sizes are: the mapping's proof is no data
instance : DecidableEq Block := fun _ _ => decidable_of_iff _ Block.ext_iff.symm

/-- Blocks of guest memory, sorted and apart. --/
structure GuestMemory where
  blocks : List Block
deriving DecidableEq

namespace GuestMemory

/-- The host mapping of the block that holds guest address 0. --/
def ramSpan? (g : GuestMemory) : Option RamSpan :=
  (g.blocks.find? fun b => b.guestAddr = 0 && 0 < b.size).map fun b => ⟨b.hostAddr, b.size⟩

/-- The size of the block that holds guest address 0. --/
def ramSize? (g : GuestMemory) : Option Nat := g.ramSpan?.map (·.size)

/-- The RAM block is never mapped at host address 0. --/
theorem hostAddr_pos_of_ramSpan? {g : GuestMemory} {s : RamSpan} (h : g.ramSpan? = some s) : 0 < s.hostAddr := by
  obtain ⟨b, -, rfl⟩ := Option.map_eq_some_iff.mp h
  exact b.hostAddr_pos

/-- How many of the next `want` bytes from `addr` on lie in some block, counting until the first
    byte outside every block. --/
def readable (blocks : List Block) : Nat → Nat → Nat
  | 0, _ => 0
  | want + 1, addr =>
    if blocks.any fun b => b.guestAddr ≤ addr && addr < b.guestAddr + b.size then 1 + readable blocks want (addr + 1)
    else 0

/-- Reads eight bytes at an offset of the RAM block. --/
def touch (g : GuestMemory) (offset : Nat) : Except GuestRamError Unit :=
  match g.ramSize? with
  | none => .error .noRamBlock
  | some size =>
    if offset ≥ size then .error (.outOfRange offset)
    else
      let got := readable g.blocks 8 offset
      if got < 8 then .error (.partialRead got 8) else .ok ()

end GuestMemory

/-! ### Prefetch walks -/

/-- Guest RAM as a walk sees it: the RAM block, if there is one, and a touch of one offset of it. --/
structure GuestRam where
  span : Option RamSpan
  touch : Nat → Except GuestRamError Unit

namespace GuestRam

/-- The test double: a RAM block, if any, whose touch fails at one offset and only there. --/
def failingAt (span : Option RamSpan) (failAt : Option Nat) : GuestRam where
  span := span
  touch offset := if failAt = some offset then .error (.outOfRange offset) else .ok ()

/-- The walk's loop: while the offset is below `size`, touches it, counts the page and moves on by
    `page` bytes; the first touch that fails ends it. Gives the offsets it tried to touch, in order,
    and the number of pages, or the fault of the last offset tried. --/
def touchFrom (ram : GuestRam) (size page : Nat) (hpage : 0 < page) (offset pages : Nat) :
    List Nat × Except GuestRamError Nat :=
  if offset < size then
    match ram.touch offset with
    | .error e => ([offset], .error e)
    | .ok () =>
      let rest := ram.touchFrom size page hpage (offset + page) (pages + 1)
      (offset :: rest.1, rest.2)
  else ([], .ok pages)
-- each turn moves the offset a whole page on, and `hpage` makes that a step closer to `size`
termination_by size - offset

/-- Touches every page of the RAM block in order from offset 0. Without a block this is a fault;
    pages of no bytes touch nothing. --/
def touchAll (ram : GuestRam) (page : Nat) : List Nat × Except GuestRamError Nat :=
  match ram.span with
  | none => ([], .error .noRamBlock)
  | some s =>
    if hzero : page = 0 then ([], .ok 0)
    else ram.touchFrom s.size page (Nat.pos_of_ne_zero hzero) 0 0

end GuestRam

/-- What the joined prefetch worker did: the offsets it touched, whether it tried a touch at all,
    and how it ended (the number of pages, or the fault that stopped it). --/
structure Walk where
  touched : List Nat
  started : Bool
  result : Except GuestRamError Nat

/-- Walks guest RAM on the prefetch worker and waits for it. The offsets touched are those whose
    touch went through. --/
def spawnRamTouch (ram : GuestRam) (page : Nat) : Walk :=
  let (tried, result) := ram.touchAll page
  ⟨tried.filter fun offset => (ram.touch offset).isOk, !tried.isEmpty, result⟩

/-- The name of the thread that walks guest RAM. --/
def touchThreadName : String := "dsm_ram_touch"

end LiveMigration
