import VibuxOS.Lib.Radix
import VibuxOS.Lib.Words

namespace VibuxOS.Paging

open VibuxOS.Lib

/-!
# Page tables

The four-level tables of `arch/x86_64/paging.rs`, in a memory of table slots.
A frame is named by its physical address, so `table_mut` of a physical address
is the frame of that address.

`translate` is the kernel's own lookup.  `lookup` is the walk of the processor,
which also collects the permissions that every entry on the way has to grant.
-/

variable
  (virtualAddress : UInt64)
  (memory : Memory)

def pageSize : UInt64 := 4096

/-- `1 << 21`, the size of the page that an entry of level 2 maps -/
def largePageSize : UInt64 := 0x200000

/-- `1 << 30`, the size of the page that an entry of level 3 maps -/
def hugePageSize : UInt64 := 0x40000000

def entryAddrMask : UInt64 := 0x000ffffffffff000

def canonicalMask : UInt64 := 0xffff800000000000

/-- `USER_VA_LIMIT`, which `syscall.rs` calls `USER_LIMIT` -/
def userLimit : UInt64 := 0x0000800000000000

def present : UInt64 := 1

def write : UInt64 := 2

def user : UInt64 := 4

def huge : UInt64 := 0x80

/-- `NX` -/
def noExecute : UInt64 := 0x8000000000000000

abbrev TableSlot := Radix.Slot UInt64

/-- The entries of all tables, and the words of all other frames. -/
abbrev Memory := TableSlot → UInt64

structure PageFlags where
  bits : UInt64
  deriving DecidableEq

def PageFlags.contains (flags other : PageFlags) : Bool :=
  flags.bits &&& other.bits == other.bits

def PageFlags.union (flags other : PageFlags) : PageFlags :=
  ⟨flags.bits ||| other.bits⟩

structure Mapping where
  virtualAddress : UInt64
  physicalAddress : UInt64
  flags : PageFlags
  pageSize : UInt64
  deriving DecidableEq

/-- `indexes`: the index of an address in its table of a level. -/
def indexes (virtualAddress : UInt64) : Nat → Nat
  | 4 => ((virtualAddress >>> 39) &&& 0x1ff).toNat
  | 3 => ((virtualAddress >>> 30) &&& 0x1ff).toNat
  | 2 => ((virtualAddress >>> 21) &&& 0x1ff).toNat
  | 1 => ((virtualAddress >>> 12) &&& 0x1ff).toNat
  | _ => 0

def canonical (virtualAddress : UInt64) : Bool :=
  let upper := virtualAddress &&& canonicalMask
  upper == 0 || upper == canonicalMask

def translate
    (memory : Memory)
    (cr3 virtualAddress : UInt64) :
    Option Mapping :=
  if !canonical virtualAddress then
    none
  else
    let l4 := cr3 &&& entryAddrMask
    let e4 := memory ⟨l4, indexes virtualAddress 4⟩
    if e4 &&& present == 0 then
      none
    else
      let l3 := e4 &&& entryAddrMask
      let e3 := memory ⟨l3, indexes virtualAddress 3⟩
      if e3 &&& present == 0 then
        none
      else if e3 &&& huge != 0 then
        let base := e3 &&& 0x000fffc000000000
        some
          { virtualAddress := virtualAddress &&& ~~~(hugePageSize - 1)
            physicalAddress := base + (virtualAddress &&& (hugePageSize - 1))
            flags := ⟨e3 &&& (~~~entryAddrMask ||| noExecute)⟩
            pageSize := hugePageSize }
      else
        let l2 := e3 &&& entryAddrMask
        let e2 := memory ⟨l2, indexes virtualAddress 2⟩
        if e2 &&& present == 0 then
          none
        else if e2 &&& huge != 0 then
          let base := e2 &&& 0x000fffffffe00000
          some
            { virtualAddress := virtualAddress &&& ~~~(largePageSize - 1)
              physicalAddress := base + (virtualAddress &&& (largePageSize - 1))
              flags := ⟨e2 &&& (~~~entryAddrMask ||| noExecute)⟩
              pageSize := largePageSize }
        else
          let l1 := e2 &&& entryAddrMask
          let e1 := memory ⟨l1, indexes virtualAddress 1⟩
          if e1 &&& present == 0 then
            none
          else
            some
              { virtualAddress := virtualAddress &&& ~~~(pageSize - 1)
                physicalAddress :=
                  (e1 &&& entryAddrMask) +
                    (virtualAddress &&& (pageSize - 1))
                flags := ⟨e1 &&& (~~~entryAddrMask ||| noExecute)⟩
                pageSize := pageSize }

/-! ## The walk -/

/-- An entry leads to a table when it is present and maps no huge page. -/
def shape : Radix.Shape UInt64 UInt64 where
  descends level entry :=
    entry &&& present != 0 &&
      (level == 4 || level != 1 && entry &&& huge == 0)
  child entry := entry &&& entryAddrMask

/-- The slots on the walk of an address, each with its level. -/
def path
    (memory : Memory)
    (cr3 virtualAddress : UInt64) :
    List (Nat × TableSlot) :=
  Radix.visits shape memory (indexes virtualAddress) 4
    (cr3 &&& entryAddrMask)

/-- What `translate` reports for an address whose walk ends in an entry. -/
def mappingAt
    (virtualAddress : UInt64)
    (level : Nat)
    (entry : UInt64) :
    Option Mapping :=
  let report (base size : UInt64) : Mapping :=
    { virtualAddress := virtualAddress &&& ~~~(size - 1)
      physicalAddress := base + (virtualAddress &&& (size - 1))
      flags := ⟨entry &&& (~~~entryAddrMask ||| noExecute)⟩
      pageSize := size }
  if entry &&& present == 0 then
    none
  else
    match level with
    | 3 => some (report (entry &&& 0x000fffc000000000) hugePageSize)
    | 2 => some (report (entry &&& 0x000fffffffe00000) largePageSize)
    | 1 => some (report (entry &&& entryAddrMask) pageSize)
    | _ => none

theorem translate_eq
    (cr3 virtualAddress : UInt64) :
    translate memory cr3 virtualAddress =
      if canonical virtualAddress then
        (path memory cr3 virtualAddress).getLast?.bind
          (fun visit =>
            mappingAt virtualAddress visit.1 (memory visit.2))
      else
        none := by
  unfold translate path
  rw [Radix.getLast?_visits, Radix.getLast?_visits, Radix.getLast?_visits,
    Radix.getLast?_visits_one]
  dsimp only [shape]
  obtain ⟨e4, read4⟩ :
      ∃ e4, memory ⟨cr3 &&& entryAddrMask, indexes virtualAddress 4⟩ = e4 :=
    ⟨_, rfl⟩
  obtain ⟨e3, read3⟩ :
      ∃ e3, memory ⟨e4 &&& entryAddrMask, indexes virtualAddress 3⟩ = e3 :=
    ⟨_, rfl⟩
  obtain ⟨e2, read2⟩ :
      ∃ e2, memory ⟨e3 &&& entryAddrMask, indexes virtualAddress 2⟩ = e2 :=
    ⟨_, rfl⟩
  cases canonical virtualAddress with
  | false =>
      rfl
  | true =>
      by_cases absent4 : e4 &&& present = 0
      · simp [mappingAt, read4, absent4]
      · by_cases absent3 : e3 &&& present = 0
        · simp [mappingAt, read4, absent4, read3, absent3]
        · by_cases small3 : e3 &&& huge = 0
          · by_cases absent2 : e2 &&& present = 0
            · simp [mappingAt, read4, absent4, read3, absent3, small3, read2,
                absent2]
            · by_cases small2 : e2 &&& huge = 0
              · simp [mappingAt, read4, absent4, read3, absent3, small3,
                  read2, absent2, small2]
              · simp [mappingAt, read4, absent4, read3, absent3, small3,
                  read2, absent2, small2]
          · simp [mappingAt, read4, absent4, read3, absent3, small3]

/-! ## The processor's lookup -/

/-- What the processor finds for an address. -/
structure Access where
  physical : UInt64
  user : Bool
  writable : Bool

/-- Every entry on the walk of an address has a bit set. -/
def permits
    (bit : UInt64)
    (memory : Memory)
    (cr3 virtualAddress : UInt64) :
    Bool :=
  (path memory cr3 virtualAddress).all
    (fun visit => memory visit.2 &&& bit != 0)

/-- The physical address in the page that an entry of a level maps. -/
def leafAddress
    (virtualAddress : UInt64)
    (level : Nat)
    (entry : UInt64) :
    Option UInt64 :=
  if entry &&& present == 0 then
    none
  else
    match level with
    | 3 =>
        some
          ((entry &&& 0x000fffffc0000000) +
            (virtualAddress &&& (hugePageSize - 1)))
    | 2 =>
        some
          ((entry &&& 0x000fffffffe00000) +
            (virtualAddress &&& (largePageSize - 1)))
    | 1 =>
        some
          ((entry &&& 0x000ffffffffff000) +
            (virtualAddress &&& (pageSize - 1)))
    | _ => none

/-- The walk of the processor; an access needs a permission on every level. -/
def lookup
    (memory : Memory)
    (cr3 virtualAddress : UInt64) :
    Option Access :=
  if canonical virtualAddress then
    (path memory cr3 virtualAddress).getLast?.bind fun visit =>
      (leafAddress virtualAddress visit.1 (memory visit.2)).map fun physical =>
        { physical
          user := permits user memory cr3 virtualAddress
          writable := permits write memory cr3 virtualAddress }
  else
    none

/-- A page is mapped when the kernel's lookup finds it. -/
def Mapped
    (memory : Memory)
    (cr3 virtualAddress : UInt64) : Prop :=
  (translate memory cr3 virtualAddress).isSome = true

instance
    (memory : Memory)
    (cr3 virtualAddress : UInt64) :
    Decidable (Mapped memory cr3 virtualAddress) :=
  inferInstanceAs (Decidable (_ = true))

theorem isSome_leafAddress
    (level : Nat)
    (entry : UInt64) :
    (leafAddress virtualAddress level entry).isSome =
      (mappingAt virtualAddress level entry).isSome := by
  unfold leafAddress mappingAt
  cases entry &&& present == 0 with
  | true =>
      rfl
  | false =>
      rw [if_neg Bool.false_ne_true, if_neg Bool.false_ne_true]
      split <;> rfl

/-- The processor finds a page where the kernel finds one. -/
theorem lookup_of_mapped
    {memory : Memory}
    {cr3 virtualAddress : UInt64}
    (mapped : Mapped memory cr3 virtualAddress) :
    ∃ physical,
      lookup memory cr3 virtualAddress =
        some
          ⟨physical, permits user memory cr3 virtualAddress,
            permits write memory cr3 virtualAddress⟩ := by
  unfold Mapped at mapped
  rw [translate_eq] at mapped
  unfold lookup
  split at mapped
  · rename_i inRange
    rw [if_pos inRange]
    cases last : (path memory cr3 virtualAddress).getLast? with
    | none =>
        rw [last] at mapped
        cases mapped
    | some visit =>
        rw [last, Option.bind_some, ← isSome_leafAddress] at mapped
        obtain ⟨physical, found⟩ := Option.isSome_iff_exists.mp mapped
        rw [Option.bind_some, found]
        exact ⟨physical, rfl⟩
  · cases mapped

theorem lookup_of_not_mapped
    {memory : Memory}
    {cr3 virtualAddress : UInt64}
    (unmapped : ¬ Mapped memory cr3 virtualAddress) :
    lookup memory cr3 virtualAddress = none := by
  unfold Mapped at unmapped
  rw [translate_eq] at unmapped
  unfold lookup
  split at unmapped
  · rename_i inRange
    rw [if_pos inRange]
    cases last : (path memory cr3 virtualAddress).getLast? with
    | none =>
        rfl
    | some visit =>
        rw [last, Option.bind_some, ← isSome_leafAddress,
          Bool.not_eq_true, Option.isSome_eq_false_iff,
          Option.isNone_iff_eq_none] at unmapped
        rw [Option.bind_some, unmapped]
        rfl
  · rename_i outOfRange
    rw [if_neg outOfRange]

theorem Mapped.canonical
    {memory : Memory}
    {cr3 virtualAddress : UInt64}
    (mapped : Mapped memory cr3 virtualAddress) :
    canonical virtualAddress = true := by
  unfold Mapped at mapped
  rw [translate_eq] at mapped
  split at mapped
  · assumption
  · cases mapped

/-! ## Addresses -/

def pageOf (virtualAddress : UInt64) : UInt64 :=
  virtualAddress &&& ~~~(pageSize - 1)

theorem toNat_pageOf :
    (pageOf virtualAddress).toNat =
      virtualAddress.toNat - virtualAddress.toNat % 4096 :=
  toNat_and_high virtualAddress _ (by decide : 12 ≤ 64) rfl

theorem and_entryAddrMask
    {address : UInt64}
    (below : address.toNat < 2 ^ 52)
    (aligned : address.toNat % 4096 = 0) :
    address &&& entryAddrMask = address := by
  have parts :
      entryAddrMask = ~~~(pageSize - 1) &&& 0x000fffffffffffff := by
    decide
  have high :
      (address &&& ~~~(pageSize - 1)).toNat =
        address.toNat - address.toNat % 2 ^ 12 :=
    toNat_and_high address _ (by decide : 12 ≤ 64) rfl
  have low :=
    @toNat_and_low (address &&& ~~~(pageSize - 1)) 0x000fffffffffffff 52 rfl
  rw [parts, ← UInt64.and_assoc, ← UInt64.toNat_inj, low, high]
  omega

theorem toNat_pageOffset :
    (virtualAddress &&& (pageSize - 1)).toNat =
      virtualAddress.toNat % 4096 :=
  @toNat_and_low virtualAddress _ 12 rfl

theorem indexes_eq :
    indexes virtualAddress 4 = virtualAddress.toNat / 2 ^ 39 % 512 ∧
      indexes virtualAddress 3 = virtualAddress.toNat / 2 ^ 30 % 512 ∧
      indexes virtualAddress 2 = virtualAddress.toNat / 2 ^ 21 % 512 ∧
      indexes virtualAddress 1 = virtualAddress.toNat / 2 ^ 12 % 512 := by
  have group :
      ∀ shift : UInt64,
        ((virtualAddress >>> shift) &&& 0x1ff).toNat =
          virtualAddress.toNat / 2 ^ (shift.toNat % 64) % 512 := by
    intro shift
    have low :=
      @toNat_and_low (virtualAddress >>> shift) 0x1ff 9 rfl
    rw [UInt64.toNat_shiftRight, Nat.shiftRight_eq_div_pow] at low
    exact low
  exact ⟨group 39, group 30, group 21, group 12⟩

theorem canonical_iff :
    canonical virtualAddress = true ↔
      virtualAddress.toNat < 2 ^ 47 ∨
        2 ^ 64 - 2 ^ 47 ≤ virtualAddress.toNat := by
  have upper :
      (virtualAddress &&& canonicalMask).toNat =
        virtualAddress.toNat - virtualAddress.toNat % 2 ^ 47 :=
    toNat_and_high virtualAddress _ (by decide : 47 ≤ 64) rfl
  have bound := virtualAddress.toNat_lt
  simp only [canonical, Bool.or_eq_true, beq_iff_eq, ← UInt64.toNat_inj,
    upper]
  have zero : (0 : UInt64).toNat = 0 := rfl
  have mask : canonicalMask.toNat = 2 ^ 64 - 2 ^ 47 := rfl
  rw [zero, mask]
  omega

theorem toNat_and_mod_page
    (entry mask : UInt64)
    (high : mask &&& (pageSize - 1) = 0) :
    (entry &&& mask).toNat % 4096 = 0 := by
  have low := toNat_pageOffset (entry &&& mask)
  rw [UInt64.and_assoc, high, UInt64.and_zero] at low
  exact low.symm

/-- Two addresses are in the same page. -/
def SamePage (left right : UInt64) : Prop :=
  left.toNat / 4096 = right.toNat / 4096

section

variable
  {left right : UInt64}
  (same : SamePage left right)

include same

theorem SamePage.indexes :
    indexes left = indexes right := by
  have ofLeft := indexes_eq left
  have ofRight := indexes_eq right
  unfold SamePage at same
  funext level
  match level with
  | 4 => omega
  | 3 => omega
  | 2 => omega
  | 1 => omega
  | 0 => rfl
  | _ + 5 => rfl

theorem SamePage.canonical :
    canonical left = canonical right := by
  unfold SamePage at same
  rw [Bool.eq_iff_iff, canonical_iff, canonical_iff]
  omega

omit same in
theorem samePage_pageOf :
    SamePage (pageOf virtualAddress) virtualAddress := by
  have start := toNat_pageOf virtualAddress
  unfold SamePage
  omega

theorem SamePage.path
    (cr3 : UInt64) :
    path memory cr3 left = path memory cr3 right := by
  rw [Paging.path, Paging.path, same.indexes]

theorem SamePage.permits
    (bit : UInt64)
    (memory : Memory)
    (cr3 : UInt64) :
    permits bit memory cr3 left = permits bit memory cr3 right := by
  rw [Paging.permits, Paging.permits, same.path]

omit same in
theorem isSome_mappingAt
    (left right : UInt64)
    (level : Nat)
    (entry : UInt64) :
    (mappingAt left level entry).isSome =
      (mappingAt right level entry).isSome := by
  unfold mappingAt
  cases entry &&& present == 0 with
  | true =>
      rfl
  | false =>
      rw [if_neg Bool.false_ne_true, if_neg Bool.false_ne_true]
      split <;> rfl

theorem SamePage.mapped
    (cr3 : UInt64) :
    Mapped memory cr3 left ↔ Mapped memory cr3 right := by
  unfold Mapped
  rw [translate_eq, translate_eq, same.canonical, same.path]
  cases (Paging.path memory cr3 right).getLast? with
  | none =>
      rfl
  | some visit =>
      cases Paging.canonical right with
      | false =>
          rfl
      | true =>
          rw [if_pos rfl, if_pos rfl, Option.bind_some, Option.bind_some,
            isSome_mappingAt left right]

end

end VibuxOS.Paging
