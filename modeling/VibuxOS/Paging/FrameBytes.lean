import VibuxOS.Lib.Record
import VibuxOS.Paging.MappingLaws

namespace VibuxOS.Paging

open VibuxOS.Lib

/-!
# Bytes in frames

The memory is one: the frames of the pages lie beside the frames of the tables,
and a byte of a frame is a byte of one of its words.  Filling a frame that holds
no table leaves all walks alone, so only the bytes of its own page change.
-/

variable
  (frame : UInt64)
  (words : Nat → UInt64)

def frameByte (memory : Memory) (frame : UInt64) (offset : Nat) : UInt8 :=
  leByte (memory ⟨frame, offset / 8⟩) (offset % 8)

def memoryByte (memory : Memory) (physicalAddress : UInt64) : UInt8 :=
  frameByte memory (pageOf physicalAddress) (physicalAddress.toNat % 4096)

def seenByte
    (memory : Memory)
    (cr3 virtualAddress : UInt64) :
    Option UInt8 :=
  (translate memory cr3 virtualAddress).map
    fun mapping => memoryByte memory mapping.physicalAddress

/-- The words of a frame with some bytes copied into it. -/
def copiedWords
    (memory : Memory)
    (frame : UInt64)
    (offset : Nat)
    (bytes : List UInt8)
    (index : Nat) :
    UInt64 :=
  getU64
    (blit (frameByte memory frame) offset (fun place => bytes.getD place 0)
      bytes.length)
    (8 * index)

/-- `copy_nonoverlapping` of some bytes into a frame -/
def copyIntoFrame
    {κ ε : Type}
    (frame : UInt64)
    (offset : Nat)
    (bytes : List UInt8) :
    Kernel κ ε Unit :=
  Prog.modify fun machine =>
    machine.fillFrame frame (copiedWords machine.memory frame offset bytes)

/-- The frame is behind a page of the user. -/
def UserFrame (memory : Memory) (cr3 frame : UInt64) : Prop :=
  ∃ virtualAddress mapping,
    translate memory cr3 virtualAddress = some mapping ∧
      permits user memory cr3 virtualAddress = true ∧
      pageOf mapping.physicalAddress = frame

/-- The callback returns frame addresses, and none of a frame in use. -/
structure Unused
    {κ : Type}
    (allocate : Allocate κ)
    (machine : Machine κ) : Prop where
  fresh : Fresh allocate machine
  userFree :
    ∀ frame,
      Pending allocate machine.supply frame →
      ¬ UserFrame machine.memory machine.cr3 frame
  addresses :
    ∀ call frame,
      (allocate
          ((fun supply => (allocate supply).2)^[call] machine.supply)).1 =
        some frame →
      frame &&& entryAddrMask = frame

variable {κ : Type} {allocate : Allocate κ} {machine : Machine κ}

/-! ## Bytes of a filled frame -/

theorem Machine.fillFrame_here
    (machine : Machine κ)
    (index : Nat) :
    (machine.fillFrame frame words).memory ⟨frame, index⟩ = words index :=
  if_pos rfl

theorem Machine.fillFrame_of_ne
    {frame : UInt64}
    (machine : Machine κ)
    {slot : TableSlot}
    (different : slot.frame ≠ frame) :
    (machine.fillFrame frame words).memory slot = machine.memory slot :=
  if_neg different

@[simp] theorem Machine.cr3_fillFrame
    (frame : UInt64)
    (words : Nat → UInt64)
    (machine : Machine κ) :
    (machine.fillFrame frame words).cr3 = machine.cr3 :=
  rfl

theorem Machine.fillFrame_fillFrame
    (first second : Nat → UInt64)
    (machine : Machine κ) :
    (machine.fillFrame frame first).fillFrame frame second =
      machine.fillFrame frame second := by
  unfold Machine.fillFrame
  congr 1
  funext slot
  by_cases here : slot.frame = frame
  · rw [if_pos here, if_pos here]
  · rw [if_neg here, if_neg here]
    exact if_neg here

theorem frameByte_fillFrame_of_ne
    {frame other : UInt64}
    (different : other ≠ frame)
    (offset : Nat) :
    frameByte (machine.fillFrame frame words).memory other offset =
      frameByte machine.memory other offset := by
  rw [frameByte, Machine.fillFrame_of_ne _ _ different, frameByte]

theorem frameByte_zeroed
    (machine : Machine κ)
    (frame : UInt64)
    (offset : Nat) :
    frameByte (machine.fillFrame frame fun _ => 0).memory frame offset =
      0 := by
  rw [frameByte, Machine.fillFrame_here, leByte, UInt64.toNat_zero,
    Nat.zero_div]
  rfl

theorem frameByte_copied
    (machine : Machine κ)
    (frame : UInt64)
    (start : Nat)
    (bytes : List UInt8)
    (offset : Nat) :
    frameByte
        (machine.fillFrame frame
          (copiedWords machine.memory frame start bytes)).memory
        frame offset =
      blit (frameByte machine.memory frame) start
        (fun place => bytes.getD place 0) bytes.length offset := by
  have inWord : offset % 8 < 8 := Nat.mod_lt _ (by decide)
  rw [frameByte, Machine.fillFrame_here, copiedWords,
    leByte_getU64 _ _ inWord, Nat.div_add_mod]

/-! ## Filling a frame that holds no table -/

/-- A change beside the tables keeps all walks and their entries. -/
structure BesideTables (memory changed : Memory) (cr3 : UInt64) : Prop where
  same :
    ∀ slot : TableSlot,
      TableFrame memory cr3 slot.frame →
      changed slot = memory slot

namespace BesideTables

variable {memory changed : Memory} {cr3 : UInt64}

section

variable (beside : BesideTables memory changed cr3)

include beside

theorem entry
    {virtualAddress : UInt64}
    {visit : Nat × TableSlot}
    (visited : visit ∈ path memory cr3 virtualAddress) :
    changed visit.2 = memory visit.2 :=
  beside.same _ ⟨virtualAddress, visit, visited, rfl⟩

theorem path
    (virtualAddress : UInt64) :
    path changed cr3 virtualAddress = path memory cr3 virtualAddress :=
  Radix.visits_frame fun _ visited => beside.entry visited

theorem translate
    (virtualAddress : UInt64) :
    translate changed cr3 virtualAddress =
      translate memory cr3 virtualAddress :=
  translate_congr (beside.path virtualAddress) fun _ ends =>
    beside.entry (List.mem_of_getLast? ends)

theorem permits
    (bit virtualAddress : UInt64) :
    permits bit changed cr3 virtualAddress =
      permits bit memory cr3 virtualAddress :=
  permits_congr (beside.path virtualAddress) fun _ visited =>
    beside.entry visited

theorem tableFrame :
    TableFrame changed cr3 frame ↔ TableFrame memory cr3 frame :=
  tableFrame_of_same_paths beside.path frame

theorem userFrame :
    UserFrame changed cr3 frame ↔ UserFrame memory cr3 frame := by
  unfold UserFrame
  simp only [beside.translate, beside.permits]

theorem wellFormed
    (tables : TableWellFormed memory cr3) :
    TableWellFormed changed cr3 where
  tree := tables.tree.of_same_paths beside.path
  userMonotone virtualAddress mapping found isUser := by
    rw [beside.translate] at found
    rw [beside.permits]
    exact tables.userMonotone virtualAddress mapping found isUser

end

end BesideTables

theorem besideTables_fillFrame
    {frame : UInt64}
    (noTable : ¬ TableFrame machine.memory machine.cr3 frame)
    (words : Nat → UInt64) :
    BesideTables machine.memory (machine.fillFrame frame words).memory
      machine.cr3 := by
  constructor
  intro slot table
  apply Machine.fillFrame_of_ne
  rintro rfl
  exact noTable table

end VibuxOS.Paging
