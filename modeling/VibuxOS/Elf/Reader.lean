import VibuxOS.Elf.Format
import VibuxOS.Lib.Prog

namespace VibuxOS.Elf

open VibuxOS.Lib

/-!
# The reader, with its plain sums and indexes

The functions of `velf/format.rs` that read a parsed image.  Some of their sums,
differences, indexes and slices are checked by the code, others are not: those
go wrong here with a panic.  On a file no panic is reached, and the header and
the bytes that are read are those of `phdr` and `bytes_at`.
-/

/-- `Error` with the errors of the readers for the dynamic linker -/
inductive ReadError where
  | file (error : Error)
  | invalidInterpreter
  | invalidDynamic
  | invalidStringTable
  deriving Repr, DecidableEq

/-- A reader; it hangs where the code panics or never returns. -/
abbrev Reader (α : Type) := Prog Unit ReadError α

def ptDynamic : UInt32 := 2

def ptInterp : UInt32 := 3

/-- `left + right` of type `usize` -/
def plainAdd (left right : Nat) : Reader Nat :=
  if left + right < 2 ^ 64 then
    pure (left + right)
  else
    Prog.hang

/-- `left - right` of type `usize` -/
def plainSub (left right : Nat) : Reader Nat :=
  if right ≤ left then
    pure (left - right)
  else
    Prog.hang

/-- `data[index]` -/
def byteIndex (data : List UInt8) (index : Nat) : Reader UInt8 :=
  if index < data.length then
    pure (fileByte data index)
  else
    Prog.hang

/-- `&data[start..stop]` -/
def subslice (data : List UInt8) (start stop : Nat) : Reader (List UInt8) :=
  if start ≤ stop ∧ stop ≤ data.length then
    pure ((data.drop start).take (stop - start))
  else
    Prog.hang

/-- `ok_or(error)?` -/
def required {α : Type} (error : ReadError) (value : Option α) : Reader α :=
  match value with
  | some value => pure value
  | none => Prog.fail error

/-- A result of the readers that are shared with the loader. -/
def ofFile {α : Type} (result : Except Error α) : Reader α :=
  Prog.ofExcept (result.mapError .file)

/-- `read_u32` or `read_u64`, with the sum `at + width` -/
def readAt
    {α : Type}
    (read : List UInt8 → Nat → Option α)
    (width : Nat)
    (data : List UInt8)
    (start : Nat) :
    Reader (Option α) := do
  let _ ← plainAdd start width
  pure (read data start)

namespace Image

variable (image : Image)

/-- A field of the program header at `base`. -/
def phdrField
    {α : Type}
    (read : List UInt8 → Nat → Option α)
    (width base offset : Nat) :
    Reader α := do
  let start ← plainAdd base offset
  let field ← readAt read width image.bytes start
  required (.file .phdrOutOfBounds) field

/-- `phdr` -/
def readPhdr (index : Nat) : Reader ProgramHeader :=
  if image.header.phnum.toNat ≤ index then
    Prog.fail (.file .phdrOutOfBounds)
  else
    let base := image.header.phoff.toNat + index * phdrSize
    if 2 ^ 64 ≤ base + phdrSize ∨ image.bytes.length < base + phdrSize then
      Prog.fail (.file .phdrOutOfBounds)
    else do
      let kind ← image.phdrField readU32 4 base 0
      let flags ← image.phdrField readU32 4 base 4
      let offset ← image.phdrField readU64 8 base 8
      let vaddr ← image.phdrField readU64 8 base 16
      let paddr ← image.phdrField readU64 8 base 24
      let filesz ← image.phdrField readU64 8 base 32
      let memsz ← image.phdrField readU64 8 base 40
      let align ← image.phdrField readU64 8 base 48
      pure { kind, flags, offset, vaddr, paddr, filesz, memsz, align }

/-- `bytes_at` -/
def readBytes (offset length : UInt64) : Reader (List UInt8) :=
  if 2 ^ 64 ≤ offset.toNat + length.toNat ∨
      image.bytes.length < offset.toNat + length.toNat then
    Prog.fail (.file .segmentOutOfBounds)
  else
    subslice image.bytes offset.toNat (offset.toNat + length.toNat)

/-- The path in a segment of type `PT_INTERP`. -/
def interpreterPath (ph : ProgramHeader) : Reader (List UInt8) := do
  let data ← image.readBytes ph.offset ph.filesz
  if data.isEmpty then
    Prog.fail .invalidInterpreter
  else do
    let last ← plainSub data.length 1
    let final ← byteIndex data last
    if final ≠ 0 then
      Prog.fail .invalidInterpreter
    else
      subslice data 0 last

/-- The loop of `interpreter` -/
def interpreterFrom : List Nat → Reader (Option (List UInt8))
  | [] => pure none
  | index :: rest => do
      let ph ← image.readPhdr index
      if ph.kind ≠ ptInterp then
        interpreterFrom rest
      else do
        let path ← image.interpreterPath ph
        pure (some path)

def interpreter : Reader (Option (List UInt8)) :=
  image.interpreterFrom (List.range image.header.phnum.toNat)

/-- The loop of `dynamic` -/
def dynamicFrom : List Nat → Reader (Option ProgramHeader)
  | [] => pure none
  | index :: rest => do
      let ph ← image.readPhdr index
      if ph.kind = ptDynamic then
        pure (some ph)
      else
        dynamicFrom rest

def dynamic : Reader (Option ProgramHeader) :=
  image.dynamicFrom (List.range image.header.phnum.toNat)

/-- The loop of `address_to_file` -/
def addressToFileFrom (address : UInt64) : List Nat → Reader (Option UInt64)
  | [] => pure none
  | index :: rest => do
      match ← Prog.attempt (image.readPhdr index) with
      | .error _ => pure none
      | .ok ph =>
          if ph.kind ≠ ptLoad then
            addressToFileFrom address rest
          else
            match checkedAdd ph.vaddr ph.filesz with
            | none => pure none
            | some stop =>
                if ph.vaddr ≤ address ∧ address < stop then do
                  let inside ← plainSub address.toNat ph.vaddr.toNat
                  pure (checkedAdd ph.offset (UInt64.ofNat inside))
                else
                  addressToFileFrom address rest

def addressToFile (address : UInt64) : Reader (Option UInt64) :=
  image.addressToFileFrom address (List.range image.header.phnum.toNat)

end Image

/-! ## Sums and indexes in range -/

theorem plainAdd_eq
    {left right : Nat}
    (inRange : left + right < 2 ^ 64) :
    plainAdd left right = pure (left + right) :=
  if_pos inRange

theorem plainSub_eq
    {left right : Nat}
    (inRange : right ≤ left) :
    plainSub left right = pure (left - right) :=
  if_pos inRange

theorem byteIndex_eq
    {data : List UInt8}
    {index : Nat}
    (inside : index < data.length) :
    byteIndex data index = pure (fileByte data index) :=
  if_pos inside

theorem subslice_eq
    {data : List UInt8}
    {start stop : Nat}
    (ordered : start ≤ stop)
    (inside : stop ≤ data.length) :
    subslice data start stop =
      pure ((data.drop start).take (stop - start)) :=
  if_pos ⟨ordered, inside⟩

theorem ends_required
    {α : Type}
    (error : ReadError)
    (value : Option α) :
    Prog.Ends (required error value) := by
  cases value with
  | none => exact .fail error
  | some value => exact .pure value

theorem ends_ofFile
    {α : Type}
    (result : Except Error α) :
    Prog.Ends (ofFile result) :=
  .ofExcept _

theorem ofFile_eq_ok
    {α : Type}
    {result : Except Error α}
    {value : α}
    {state final : Unit} :
    ofFile result state = .ok value final ↔
      result = .ok value ∧ state = final := by
  cases result with
  | ok found =>
      constructor
      · intro returned
        cases returned
        exact ⟨rfl, rfl⟩
      · rintro ⟨⟨⟩, ⟨⟩⟩
        rfl
  | error error =>
      constructor
      · intro returned
        cases returned
      · rintro ⟨⟨⟩, _⟩

/-! ## Program headers -/

/-- A program header with the little-endian values of the bytes at `base`. -/
structure SpelledAt
    (bytes : List UInt8)
    (base : Nat)
    (ph : ProgramHeader) : Prop where
  kind :
    ph.kind.toNat = leValue (fun index => fileByte bytes (base + index)) 4
  flags :
    ph.flags.toNat =
      leValue (fun index => fileByte bytes (base + 4 + index)) 4
  offset :
    ph.offset.toNat =
      leValue (fun index => fileByte bytes (base + 8 + index)) 8
  vaddr :
    ph.vaddr.toNat =
      leValue (fun index => fileByte bytes (base + 16 + index)) 8
  paddr :
    ph.paddr.toNat =
      leValue (fun index => fileByte bytes (base + 24 + index)) 8
  filesz :
    ph.filesz.toNat =
      leValue (fun index => fileByte bytes (base + 32 + index)) 8
  memsz :
    ph.memsz.toNat =
      leValue (fun index => fileByte bytes (base + 40 + index)) 8
  align :
    ph.align.toNat =
      leValue (fun index => fileByte bytes (base + 48 + index)) 8

section Headers

variable {bytes : List UInt8} {start base : Nat}

theorem readU32_eq_some (inside : start + 4 ≤ bytes.length) :
    ∃ value,
      readU32 bytes start = some value ∧
        value.toNat =
          leValue (fun index => fileByte bytes (start + index)) 4 := by
  refine ⟨_, by rw [readU32, readLe, if_pos inside, Option.map_some], ?_⟩
  exact UInt32.toNat_ofNat_of_lt' (leValue_lt _ 4)

theorem readU64_eq_some (inside : start + 8 ≤ bytes.length) :
    ∃ value,
      readU64 bytes start = some value ∧
        value.toNat =
          leValue (fun index => fileByte bytes (start + index)) 8 := by
  refine ⟨_, by rw [readU64, readLe, if_pos inside, Option.map_some], ?_⟩
  exact UInt64.toNat_ofNat_of_lt' (leValue_lt _ 8)

theorem readPhdr_eq_some (inside : base + phdrSize ≤ bytes.length) :
    ∃ ph, readPhdr bytes base = some ph ∧ SpelledAt bytes base ph := by
  have size : phdrSize = 56 := rfl
  obtain ⟨kind, isKind, spellsKind⟩ :=
    @readU32_eq_some bytes base (by omega)
  obtain ⟨flags, isFlags, spellsFlags⟩ :=
    @readU32_eq_some bytes (base + 4) (by omega)
  have words :=
    fun (offset : Nat) (within : offset + 8 ≤ 56) =>
      @readU64_eq_some bytes (base + offset) (by omega)
  obtain ⟨offset, isOffset, spellsOffset⟩ := words 8 (by decide)
  obtain ⟨vaddr, isVaddr, spellsVaddr⟩ := words 16 (by decide)
  obtain ⟨paddr, isPaddr, spellsPaddr⟩ := words 24 (by decide)
  obtain ⟨filesz, isFilesz, spellsFilesz⟩ := words 32 (by decide)
  obtain ⟨memsz, isMemsz, spellsMemsz⟩ := words 40 (by decide)
  obtain ⟨align, isAlign, spellsAlign⟩ := words 48 (by decide)
  refine
    ⟨⟨kind, flags, offset, vaddr, paddr, filesz, memsz, align⟩, ?_,
      spellsKind, spellsFlags, spellsOffset, spellsVaddr, spellsPaddr,
      spellsFilesz, spellsMemsz, spellsAlign⟩
  simp [readPhdr, isKind, isFlags, isOffset, isVaddr, isPaddr, isFilesz,
    isMemsz, isAlign]

end Headers

section Images

variable (image : Image)

theorem Image.phdrField_eq
    {α : Type}
    (read : List UInt8 → Nat → Option α)
    {width base offset : Nat}
    (inRange : base + offset + width < 2 ^ 64) :
    image.phdrField read width base offset =
      required (.file .phdrOutOfBounds) (read image.bytes (base + offset)) := by
  have start : base + offset < 2 ^ 64 := by omega
  unfold Image.phdrField readAt
  rw [plainAdd_eq start]
  change plainAdd (base + offset) width >>= _ >>= _ = _
  rw [plainAdd_eq inRange]
  rfl

theorem Image.readPhdr_eq (index : Nat) :
    image.readPhdr index = ofFile (image.phdr index) := by
  unfold Image.readPhdr Image.phdr
  split
  · rfl
  · dsimp only
    split
    · rfl
    · rename_i inside
      rw [not_or, Nat.not_le, Nat.not_lt] at inside
      have size : phdrSize = 56 := rfl
      obtain ⟨inRange, inFile⟩ := inside
      obtain ⟨ph, isPh, _⟩ := readPhdr_eq_some inFile
      rw [isPh]
      unfold VibuxOS.Elf.readPhdr at isPh
      obtain ⟨kind, isKind, isPh⟩ := Option.bind_eq_some_iff.mp isPh
      obtain ⟨flags, isFlags, isPh⟩ := Option.bind_eq_some_iff.mp isPh
      obtain ⟨offset, isOffset, isPh⟩ := Option.bind_eq_some_iff.mp isPh
      obtain ⟨vaddr, isVaddr, isPh⟩ := Option.bind_eq_some_iff.mp isPh
      obtain ⟨paddr, isPaddr, isPh⟩ := Option.bind_eq_some_iff.mp isPh
      obtain ⟨filesz, isFilesz, isPh⟩ := Option.bind_eq_some_iff.mp isPh
      obtain ⟨memsz, isMemsz, isPh⟩ := Option.bind_eq_some_iff.mp isPh
      obtain ⟨align, isAlign, isPh⟩ := Option.bind_eq_some_iff.mp isPh
      cases isPh
      rw [image.phdrField_eq readU32 (by omega),
        image.phdrField_eq readU32 (by omega),
        image.phdrField_eq readU64 (by omega),
        image.phdrField_eq readU64 (by omega),
        image.phdrField_eq readU64 (by omega),
        image.phdrField_eq readU64 (by omega),
        image.phdrField_eq readU64 (by omega),
        image.phdrField_eq readU64 (by omega), Nat.add_zero, isKind, isFlags,
        isOffset, isVaddr, isPaddr, isFilesz, isMemsz, isAlign]
      rfl

theorem Image.readBytes_eq (offset length : UInt64) :
    image.readBytes offset length = ofFile (image.bytesAt offset length) := by
  unfold Image.readBytes Image.bytesAt
  split
  · rfl
  · rename_i inside
    rw [not_or, Nat.not_lt] at inside
    rw [subslice_eq (Nat.le_add_right _ _) inside.2, Nat.add_sub_cancel_left]
    rfl

theorem Image.parse_spec
    {bytes : List UInt8}
    {image : Image}
    (parsed : Image.parse bytes = .ok image) :
    image.bytes = bytes ∧
      image.header.phoff.toNat + image.header.phnum.toNat * phdrSize ≤
        bytes.length ∧
      image.header.phoff.toNat + image.header.phnum.toNat * phdrSize <
        2 ^ 64 := by
  unfold Image.parse at parsed
  iterate 5
    split at parsed
    · cases parsed
  obtain ⟨header, _, parsed⟩ := bind_eq_ok.mp parsed
  obtain ⟨_, checked, parsed⟩ := bind_eq_ok.mp parsed
  cases parsed
  unfold checkHeader at checked
  iterate 4
    split at checked
    · cases checked
  dsimp only at checked
  split at checked
  · cases checked
  · rename_i inRange
    split at checked
    · cases checked
    · rename_i inFile
      exact ⟨rfl, Nat.not_lt.mp inFile, Nat.not_le.mp inRange⟩

theorem Image.readPhdr_spelled
    {bytes : List UInt8}
    {image : Image}
    (parsed : Image.parse bytes = .ok image)
    {index : Nat}
    (below : index < image.header.phnum.toNat) :
    ∃ ph,
      image.readPhdr index () = .ok ph () ∧
        SpelledAt bytes (image.header.phoff.toNat + 56 * index) ph := by
  obtain ⟨sameBytes, inFile, inRange⟩ := Image.parse_spec parsed
  have size : phdrSize = 56 := rfl
  rw [size] at inFile inRange
  have within :
      image.header.phoff.toNat + 56 * index + phdrSize ≤ bytes.length := by
    omega
  obtain ⟨ph, isPh, spelled⟩ := readPhdr_eq_some within
  refine ⟨ph, ?_, spelled⟩
  have isRead : image.phdr index = .ok ph := by
    have fits :
        ¬ (2 ^ 64 ≤
              image.header.phoff.toNat + index * phdrSize + phdrSize ∨
            image.bytes.length <
              image.header.phoff.toNat + index * phdrSize + phdrSize) := by
      rw [sameBytes, size]
      omega
    unfold Image.phdr
    rw [if_neg (Nat.not_le.mpr below)]
    dsimp only
    rw [if_neg fits, sameBytes, size, Nat.mul_comm index, isPh]
    rfl
  rw [image.readPhdr_eq, isRead]
  rfl

/-! ## Readers that return -/

theorem Image.ends_readBytes (offset length : UInt64) :
    Prog.Ends (image.readBytes offset length) := by
  rw [image.readBytes_eq]
  exact ends_ofFile _

theorem Image.ends_readPhdr (index : Nat) :
    Prog.Ends (image.readPhdr index) := by
  rw [image.readPhdr_eq]
  exact ends_ofFile _

theorem Image.ends_interpreterPath (ph : ProgramHeader) :
    Prog.Ends (image.interpreterPath ph) := by
  unfold Image.interpreterPath
  refine .bind (image.ends_readBytes _ _) fun data => ?_
  cases data with
  | nil =>
      exact .fail _
  | cons first rest =>
      have some : 1 ≤ (first :: rest).length := by simp
      have last : (first :: rest).length - 1 < (first :: rest).length := by
        omega
      rw [plainSub_eq some]
      refine .ite (.fail _) ?_
      change
        Prog.Ends (byteIndex (first :: rest) ((first :: rest).length - 1) >>= _)
      rw [byteIndex_eq last]
      refine .bind (.pure _) fun final => .ite (.fail _) ?_
      rw [subslice_eq (Nat.zero_le _) (Nat.le_of_lt last)]
      exact .pure _

theorem Image.ends_interpreterFrom (indexes : List Nat) :
    Prog.Ends (image.interpreterFrom indexes) := by
  induction indexes with
  | nil =>
      exact .pure _
  | cons index rest inductionHypothesis =>
      refine .bind (image.ends_readPhdr index) fun ph => ?_
      refine .ite inductionHypothesis ?_
      exact .bind (image.ends_interpreterPath ph) fun path => .pure _

theorem Image.ends_dynamicFrom (indexes : List Nat) :
    Prog.Ends (image.dynamicFrom indexes) := by
  induction indexes with
  | nil =>
      exact .pure _
  | cons index rest inductionHypothesis =>
      refine .bind (image.ends_readPhdr index) fun ph => ?_
      exact .ite (.pure _) inductionHypothesis

theorem Image.ends_addressToFileFrom
    (address : UInt64)
    (indexes : List Nat) :
    Prog.Ends (image.addressToFileFrom address indexes) := by
  induction indexes with
  | nil =>
      exact .pure _
  | cons index rest inductionHypothesis =>
      refine .bind (.attempt (image.ends_readPhdr index)) fun found => ?_
      cases found with
      | error error =>
          exact .pure _
      | ok ph =>
          refine .ite inductionHypothesis ?_
          cases checkedAdd ph.vaddr ph.filesz with
          | none =>
              exact .pure _
          | some stop =>
              dsimp only
              split
              · rename_i inside
                rw [plainSub_eq (UInt64.le_iff_toNat_le.mp inside.1)]
                exact .bind (.pure _) fun _ => .pure _
              · exact inductionHypothesis

end Images

end VibuxOS.Elf
