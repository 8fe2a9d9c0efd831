import VibuxOS.Lib.Record
import VibuxOS.Lib.Words

namespace VibuxOS.Elf

open VibuxOS.Lib

/-!
# The format of an executable

The reader of `velf/format.rs`: the header of an image, its program headers and
the bytes of the file.  Every access to the file is checked, so a read outside
the file is an error.
-/

/-- `Error` of `velf/error.rs`, without the errors of the dynamic linker -/
inductive Error where
  | empty
  | tooSmall
  | badMagic
  | notElf64
  | notLittleEndian
  | badIdentVersion
  | unsupportedMachine (machine : UInt16)
  | unsupportedType (kind : UInt16)
  | badHeader (reason : String)
  | phdrOutOfBounds
  | badPhdrSize (size : UInt16)
  | segmentOutOfBounds
  | fileszGreaterThanMemsz
  | badAlignment
  | addressOverflow
  | outsideUserRange
  | tooManyLoadSegments
  | outOfMemory
  | pageAlreadyMapped (page : UInt64)
  | mappingFailed
  deriving Repr, DecidableEq

def elf64 : UInt8 := 2

def littleEndian : UInt8 := 1

def etExec : UInt16 := 2

def etDyn : UInt16 := 3

def emX8664 : UInt16 := 0x3e

def ptLoad : UInt32 := 1

def pfX : UInt32 := 1

def pfW : UInt32 := 2

/-- The size of a program header in the file. -/
def phdrSize : Nat := 56

structure Header where
  kind : UInt16
  machine : UInt16
  version : UInt32
  entry : UInt64
  phoff : UInt64
  phnum : UInt16
  phentsize : UInt16
  deriving Repr, DecidableEq

structure ProgramHeader where
  kind : UInt32
  flags : UInt32
  offset : UInt64
  vaddr : UInt64
  paddr : UInt64
  filesz : UInt64
  memsz : UInt64
  align : UInt64
  deriving Repr, DecidableEq

structure Image where
  bytes : List UInt8
  header : Header
  deriving Repr, DecidableEq

def okOr {α : Type} (error : Error) (value : Option α) : Except Error α :=
  match value with
  | some value => .ok value
  | none => .error error

def fileByte (data : List UInt8) (index : Nat) : UInt8 :=
  data.getD index 0

/-- The little-endian number in `data.get(at..at + width)` -/
def readLe (data : List UInt8) (start width : Nat) : Option Nat :=
  if start + width ≤ data.length then
    some (leValue (fun index => fileByte data (start + index)) width)
  else
    none

def readU16 (data : List UInt8) (start : Nat) : Option UInt16 :=
  (readLe data start 2).map UInt16.ofNat

def readU32 (data : List UInt8) (start : Nat) : Option UInt32 :=
  (readLe data start 4).map UInt32.ofNat

def readU64 (data : List UInt8) (start : Nat) : Option UInt64 :=
  (readLe data start 8).map UInt64.ofNat

/-- The fields of the header that `parse` reads. -/
def readHeader (bytes : List UInt8) : Except Error Header := do
  let kind ← okOr (.badHeader "e_type") (readU16 bytes 16)
  let machine ← okOr (.badHeader "e_machine") (readU16 bytes 18)
  let version ← okOr (.badHeader "e_version") (readU32 bytes 20)
  let entry ← okOr (.badHeader "e_entry") (readU64 bytes 24)
  let phoff ← okOr (.badHeader "e_phoff") (readU64 bytes 32)
  let phentsize ← okOr (.badHeader "e_phentsize") (readU16 bytes 54)
  let phnum ← okOr (.badHeader "e_phnum") (readU16 bytes 56)
  pure { kind, machine, version, entry, phoff, phnum, phentsize }

/-- The checks of `parse` on the header. -/
def checkHeader (bytes : List UInt8) (header : Header) : Except Error Unit :=
  if header.machine ≠ emX8664 then
    .error (.unsupportedMachine header.machine)
  else if header.kind ≠ etExec ∧ header.kind ≠ etDyn then
    .error (.unsupportedType header.kind)
  else if header.version ≠ 1 then
    .error (.badHeader "e_version is not EV_CURRENT")
  else if header.phentsize ≠ 56 then
    .error (.badPhdrSize header.phentsize)
  else
    let needed := header.phnum.toNat * phdrSize
    if 2 ^ 64 ≤ header.phoff.toNat + needed then
      .error .phdrOutOfBounds
    else if bytes.length < header.phoff.toNat + needed then
      .error .phdrOutOfBounds
    else
      .ok ()

def Image.parse (bytes : List UInt8) : Except Error Image :=
  if bytes.length < 64 then
    .error (if bytes.isEmpty then .empty else .tooSmall)
  else if bytes.take 4 ≠ [0x7f, 0x45, 0x4c, 0x46] then
    .error .badMagic
  else if fileByte bytes 4 ≠ elf64 then
    .error .notElf64
  else if fileByte bytes 5 ≠ littleEndian then
    .error .notLittleEndian
  else if fileByte bytes 6 ≠ 1 then
    .error .badIdentVersion
  else do
    let header ← readHeader bytes
    checkHeader bytes header
    pure { bytes, header }

/-- The fields of the program header at an offset. -/
def readPhdr (bytes : List UInt8) (base : Nat) : Option ProgramHeader := do
  let kind ← readU32 bytes base
  let flags ← readU32 bytes (base + 4)
  let offset ← readU64 bytes (base + 8)
  let vaddr ← readU64 bytes (base + 16)
  let paddr ← readU64 bytes (base + 24)
  let filesz ← readU64 bytes (base + 32)
  let memsz ← readU64 bytes (base + 40)
  let align ← readU64 bytes (base + 48)
  pure { kind, flags, offset, vaddr, paddr, filesz, memsz, align }

def Image.phdr (image : Image) (index : Nat) : Except Error ProgramHeader :=
  if image.header.phnum.toNat ≤ index then
    .error .phdrOutOfBounds
  else
    let base := image.header.phoff.toNat + index * phdrSize
    if 2 ^ 64 ≤ base + phdrSize ∨ image.bytes.length < base + phdrSize then
      .error .phdrOutOfBounds
    else
      okOr .phdrOutOfBounds (readPhdr image.bytes base)

def Image.bytesAt
    (image : Image)
    (offset length : UInt64) :
    Except Error (List UInt8) :=
  if 2 ^ 64 ≤ offset.toNat + length.toNat ∨
      image.bytes.length < offset.toNat + length.toNat then
    .error .segmentOutOfBounds
  else
    .ok ((image.bytes.drop offset.toNat).take length.toNat)

theorem bind_eq_ok
    {α β : Type}
    {first : Except Error α}
    {next : α → Except Error β}
    {result : β} :
    (first >>= next) = .ok result ↔
      ∃ value, first = .ok value ∧ next value = .ok result := by
  cases first with
  | ok value =>
      constructor
      · intro returned
        exact ⟨value, rfl, returned⟩
      · rintro ⟨_, same, returned⟩
        cases same
        exact returned
  | error error =>
      constructor
      · intro returned
        cases returned
      · rintro ⟨_, same, _⟩
        cases same

theorem okOr_eq_ok
    {α : Type}
    {error : Error}
    {value : Option α}
    {result : α} :
    okOr error value = .ok result ↔ value = some result := by
  cases value with
  | none =>
      constructor <;> intro same <;> cases same
  | some value =>
      constructor <;> intro same <;> cases same <;> rfl

theorem Image.bytesAt_eq_ok
    {image : Image}
    {offset length : UInt64}
    {slice : List UInt8}
    (returned : image.bytesAt offset length = .ok slice) :
    offset.toNat + length.toNat ≤ image.bytes.length ∧
      slice.length = length.toNat ∧
      ∀ index,
        index < length.toNat →
        fileByte slice index =
          fileByte image.bytes (offset.toNat + index) := by
  unfold Image.bytesAt at returned
  split at returned
  · cases returned
  · rename_i inside
    rw [not_or, Nat.not_lt] at inside
    cases returned
    refine ⟨inside.2, ?_, ?_⟩
    · rw [List.length_take, List.length_drop]
      omega
    · intro index below
      unfold fileByte
      rw [List.getD_eq_getElem?_getD, List.getElem?_take_of_lt below,
        List.getElem?_drop, List.getD_eq_getElem?_getD]

end VibuxOS.Elf
