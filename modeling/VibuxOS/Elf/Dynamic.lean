import VibuxOS.Elf.LoadImage
import VibuxOS.Elf.Reader

namespace VibuxOS.Elf

open VibuxOS.Lib

/-!
# The table for the dynamic linker

`velf/dynamic.rs`: the entries of the segment of type `PT_DYNAMIC` and the names
of the libraries that they need.  The table keeps at most 32 of those; a table
that was not made by `parse` could count more of them than it has.
-/

namespace Dynamic

def dtNull : UInt64 := 0

def dtNeeded : UInt64 := 1

def dtPltrelsz : UInt64 := 2

def dtStrtab : UInt64 := 5

def dtRela : UInt64 := 7

def dtRelasz : UInt64 := 8

def dtRelaent : UInt64 := 9

def dtStrsz : UInt64 := 10

def dtJmprel : UInt64 := 23

def maxNeeded : Nat := 32

structure Info where
  needed : Vector UInt64 maxNeeded
  neededCount : Nat
  strtab : UInt64
  strsz : UInt64
  rela : UInt64
  relasz : UInt64
  relaent : UInt64
  jmprel : UInt64
  pltrelsz : UInt64
  deriving DecidableEq

def Info.empty : Info where
  needed := Vector.replicate maxNeeded 0
  neededCount := 0
  strtab := 0
  strsz := 0
  rela := 0
  relasz := 0
  relaent := 0
  jmprel := 0
  pltrelsz := 0

/-- `info.needed[index]` -/
def neededAt (info : Info) (index : Nat) : Reader UInt64 :=
  match info.needed[index]? with
  | some value => pure value
  | none => Prog.hang

/-- The entry of type `DT_NEEDED` in the loop of `parse` -/
def addNeeded (value : UInt64) (info : Info) : Reader Info :=
  if maxNeeded ≤ info.neededCount then
    Prog.fail .invalidDynamic
  else if inside : info.neededCount < maxNeeded then do
    let count ← plainAdd info.neededCount 1
    pure
      { info with
        needed := info.needed.set info.neededCount value inside
        neededCount := count }
  else
    Prog.hang

/-- The `match` in the loop of `parse` -/
def parseEntry (tag value : UInt64) (info : Info) : Reader Info :=
  if tag = dtNeeded then
    addNeeded value info
  else if tag = dtStrtab then
    pure { info with strtab := value }
  else if tag = dtStrsz then
    pure { info with strsz := value }
  else if tag = dtRela then
    pure { info with rela := value }
  else if tag = dtRelasz then
    pure { info with relasz := value }
  else if tag = dtRelaent then
    pure { info with relaent := value }
  else if tag = dtJmprel then
    pure { info with jmprel := value }
  else if tag = dtPltrelsz then
    pure { info with pltrelsz := value }
  else
    pure info

/-- The loop of `parse`; `position` is its `at`. -/
def parseFrom (data : List UInt8) : Nat → Nat → Info → Reader Info
  | 0, _, _ => Prog.hang
  | fuel + 1, position, info => do
      let next ← plainAdd position 16
      if next ≤ data.length then do
        let tag ← readAt readU64 8 data position
        let tag ← required .invalidDynamic tag
        let second ← plainAdd position 8
        let value ← readAt readU64 8 data second
        let value ← required .invalidDynamic value
        if tag = dtNull then
          pure info
        else do
          let info ← parseEntry tag value info
          parseFrom data fuel next info
      else
        pure info

/-- The checks of `parse` behind its loop -/
def checkInfo (info : Info) : Reader (Option Info) :=
  if info.neededCount ≠ 0 ∧ (info.strtab = 0 ∨ info.strsz = 0) then
    Prog.fail .invalidDynamic
  else if info.relasz ≠ 0 ∧ info.relaent = 0 then
    Prog.fail .invalidDynamic
  else
    pure (some info)

/-- What `parse` makes of a segment of type `PT_DYNAMIC` -/
def parseSegment (image : Image) (ph : ProgramHeader) : Reader (Option Info) :=
  if ph.filesz = 0 ∨ ph.filesz % 16 ≠ 0 then
    Prog.fail .invalidDynamic
  else do
    let data ← image.readBytes ph.offset ph.filesz
    -- more turns than the segment has entries
    let info ← parseFrom data (data.length / 16 + 1) 0 .empty
    checkInfo info

def parse (image : Image) : Reader (Option Info) := do
  match ← image.dynamic with
  | none => pure none
  | some ph => parseSegment image ph

def neededName (image : Image) (info : Info) (index : Nat) :
    Reader (List UInt8) :=
  if info.neededCount ≤ index then
    Prog.fail .invalidStringTable
  else do
    let stringOffset ← neededAt info index
    if info.strsz ≤ stringOffset then
      Prog.fail .invalidStringTable
    else do
      let virtualAddress ←
        required .invalidStringTable (checkedAdd info.strtab stringOffset)
      let found ← image.addressToFile virtualAddress
      let fileOffset ← required .invalidStringTable found
      let remaining ← plainSub info.strsz.toNat stringOffset.toNat
      let data ← image.readBytes fileOffset (UInt64.ofNat remaining)
      let last ← required .invalidStringTable (data.findIdx? (· == 0))
      subslice data 0 last

/-! ## `parse` returns -/

variable {image : Image} {info : Info} {data : List UInt8}

/-- The table counts no more names than it has. -/
def Info.Counted (info : Info) : Prop :=
  info.neededCount ≤ maxNeeded

theorem ends_addNeeded (value : UInt64) (info : Info) :
    Prog.Ends (addNeeded value info) := by
  unfold addNeeded
  split
  · exact .fail _
  · rename_i room
    rw [Nat.not_le] at room
    have small : info.neededCount + 1 < 2 ^ 64 := by
      have most : maxNeeded = 32 := rfl
      omega
    rw [dif_pos room, plainAdd_eq small]
    exact .bind (.pure _) fun _ => .pure _

theorem ends_parseEntry (tag value : UInt64) (info : Info) :
    Prog.Ends (parseEntry tag value info) := by
  unfold parseEntry
  refine .ite (ends_addNeeded value info) ?_
  refine .ite (.pure _) (.ite (.pure _) (.ite (.pure _) (.ite (.pure _) ?_)))
  exact .ite (.pure _) (.ite (.pure _) (.ite (.pure _) (.pure _)))

theorem ends_parseFrom
    {fuel position : Nat}
    (isSlice : data.length < 2 ^ 63)
    (inside : position ≤ data.length)
    (enough : data.length < position + 16 * fuel)
    (info : Info) :
    Prog.Ends (parseFrom data fuel position info) := by
  induction fuel generalizing position info with
  | zero =>
      omega
  | succ fuel inductionHypothesis =>
      have small : position + 16 < 2 ^ 64 := by omega
      have second : position + 8 < 2 ^ 64 := by omega
      rw [parseFrom, plainAdd_eq small]
      change Prog.Ends (if position + 16 ≤ data.length then _ else _)
      split
      · rename_i fits
        unfold readAt
        rw [plainAdd_eq second]
        refine .bind (.bind (.pure _) fun _ => .pure _) fun tag => ?_
        refine .bind (ends_required _ _) fun tag => ?_
        change
          Prog.Ends
            ((plainAdd (position + 8) 8 >>= fun _ =>
              pure (readU64 data (position + 8))) >>= _)
        rw [plainAdd_eq (by omega)]
        refine .bind (.bind (.pure _) fun _ => .pure _) fun value => ?_
        refine .bind (ends_required _ _) fun value => ?_
        refine .ite (.pure _) (.bind (ends_parseEntry _ _ _) fun info => ?_)
        exact inductionHypothesis fits (by omega) info
      · exact .pure _

theorem ends_parse
    (isSlice : image.bytes.length < 2 ^ 63) :
    Prog.Ends (parse image) := by
  refine .bind (image.ends_dynamicFrom _) fun found => ?_
  cases found with
  | none =>
      exact .pure _
  | some ph =>
      refine .ite (.fail _) ?_
      intro state stuck
      rcases Prog.bind_eq_hang.mp stuck with
        notRead | ⟨data, middle, isRead, stuck⟩
      · exact image.ends_readBytes _ _ state notRead
      · have short : data.length < 2 ^ 63 := by
          rw [image.readBytes_eq] at isRead
          obtain ⟨inFile, isLength, _⟩ :=
            Image.bytesAt_eq_ok (ofFile_eq_ok.mp isRead).1
          omega
        have checks :
            Prog.Ends
              (parseFrom data (data.length / 16 + 1) 0 .empty >>= checkInfo) :=
          .bind (ends_parseFrom short (Nat.zero_le _) (by omega) _)
            fun info => .ite (.fail _) (.ite (.fail _) (.pure _))
        exact checks middle stuck

/-! ## What `parse` returns -/

theorem counted_addNeeded
    {value : UInt64}
    {next : Info}
    {state final : Unit}
    (returned : addNeeded value info state = .ok next final) :
    next.Counted := by
  unfold addNeeded at returned
  split at returned
  · cases returned
  · split at returned
    · rename_i room
      obtain ⟨count, _, isCount, returned⟩ := Prog.bind_eq_ok.mp returned
      cases returned
      have small : info.neededCount + 1 < 2 ^ 64 := by
        have most : maxNeeded = 32 := rfl
        omega
      rw [plainAdd_eq small] at isCount
      cases isCount
      exact room
    · cases returned

theorem counted_parseEntry
    {tag value : UInt64}
    {next : Info}
    {state final : Unit}
    (counted : info.Counted)
    (returned : parseEntry tag value info state = .ok next final) :
    next.Counted := by
  unfold parseEntry at returned
  split at returned
  · exact counted_addNeeded returned
  · iterate 7
      split at returned
      · cases returned
        exact counted
    cases returned
    exact counted

theorem counted_parseFrom
    {fuel position : Nat}
    {next : Info}
    {state final : Unit}
    (counted : info.Counted)
    (returned : parseFrom data fuel position info state = .ok next final) :
    next.Counted := by
  induction fuel generalizing position info state with
  | zero =>
      cases returned
  | succ fuel inductionHypothesis =>
      obtain ⟨stop, _, _, returned⟩ := Prog.bind_eq_ok.mp returned
      split at returned
      · obtain ⟨_, _, _, returned⟩ := Prog.bind_eq_ok.mp returned
        obtain ⟨tag, _, _, returned⟩ := Prog.bind_eq_ok.mp returned
        obtain ⟨_, _, _, returned⟩ := Prog.bind_eq_ok.mp returned
        obtain ⟨_, _, _, returned⟩ := Prog.bind_eq_ok.mp returned
        obtain ⟨value, _, _, returned⟩ := Prog.bind_eq_ok.mp returned
        split at returned
        · cases returned
          exact counted
        · obtain ⟨added, _, isAdded, returned⟩ := Prog.bind_eq_ok.mp returned
          exact
            inductionHypothesis (counted_parseEntry counted isAdded) returned
      · cases returned
        exact counted

theorem counted_parse
    {state final : Unit}
    (returned : parse image state = .ok (some info) final) :
    info.Counted := by
  obtain ⟨found, _, _, returned⟩ := Prog.bind_eq_ok.mp returned
  cases found with
  | none =>
      cases returned
  | some ph =>
      dsimp only at returned
      unfold parseSegment at returned
      split at returned
      · cases returned
      · obtain ⟨data, _, _, returned⟩ := Prog.bind_eq_ok.mp returned
        obtain ⟨parsed, _, isParsed, returned⟩ := Prog.bind_eq_ok.mp returned
        unfold checkInfo at returned
        split at returned
        · cases returned
        · split at returned
          · cases returned
          · cases returned
            exact counted_parseFrom (Nat.zero_le _) isParsed

/-! ## Names -/

/-- A name that is needed, where the file has it. -/
structure NameAt
    (image : Image)
    (info : Info)
    (index : Nat)
    (name : List UInt8)
    (offset position : UInt64) : Prop where
  listed : info.needed[index]? = some offset
  inTable : offset < info.strsz
  found :
    ∃ address,
      checkedAdd info.strtab offset = some address ∧
        image.addressToFile address () = .ok (some position) ()
  noNul : ∀ byte ∈ name, byte ≠ 0
  bytes :
    ∀ place < name.length,
      fileByte name place = fileByte image.bytes (position.toNat + place)
  followed : fileByte image.bytes (position.toNat + name.length) = 0
  inRange : name.length < info.strsz.toNat - offset.toNat
  inFile : position.toNat + name.length < image.bytes.length

theorem nul_found
    {last : Nat}
    (isLast : data.findIdx? (· == 0) = some last) :
    last < data.length ∧
      fileByte data last = 0 ∧
      ∀ byte ∈ data.take last, byte ≠ 0 := by
  obtain ⟨inside, isNul, before⟩ := List.findIdx?_eq_some_iff_getElem.mp isLast
  refine ⟨inside, ?_, ?_⟩
  · rw [fileByte, List.getD_eq_getElem _ _ inside]
    exact eq_of_beq isNul
  · intro byte among
    obtain ⟨index, below, rfl⟩ := List.mem_take_iff_getElem.mp among
    have notNul := before index (by omega)
    simpa using notNul

theorem ends_neededName
    (counted : info.Counted)
    (index : Nat) :
    Prog.Ends (neededName image info index) := by
  unfold neededName
  split
  · exact .fail _
  · rename_i listed
    have inside : index < maxNeeded := by
      unfold Info.Counted at counted
      omega
    unfold neededAt
    rw [Vector.getElem?_eq_getElem inside]
    change Prog.Ends (if info.strsz ≤ info.needed[index] then _ else _)
    split
    · exact .fail _
    · rename_i inTable
      have ordered : info.needed[index].toNat ≤ info.strsz.toNat :=
        Nat.le_of_lt (UInt64.lt_iff_toNat_lt.mp (UInt64.not_le.mp inTable))
      refine .bind (ends_required _ _) fun address => ?_
      refine .bind (image.ends_addressToFileFrom _ _) fun found => ?_
      refine .bind (ends_required _ _) fun position => ?_
      rw [plainSub_eq ordered]
      refine .bind (.pure _) fun remaining => ?_
      refine .bind (image.ends_readBytes _ _) fun data => ?_
      cases isLast : data.findIdx? (· == 0) with
      | none =>
          change Prog.Ends (Prog.fail ReadError.invalidStringTable)
          exact .fail _
      | some last =>
          obtain ⟨inData, _, _⟩ := nul_found isLast
          change Prog.Ends (subslice data 0 last)
          rw [subslice_eq (Nat.zero_le _) (Nat.le_of_lt inData)]
          exact .pure _

theorem required_eq_ok
    {α : Type}
    {error : ReadError}
    {value : Option α}
    {result : α}
    {state final : Unit} :
    required error value state = .ok result final → value = some result := by
  intro returned
  cases value with
  | none => cases returned
  | some value =>
      cases returned
      rfl

theorem neededName_eq_ok
    {index : Nat}
    {name : List UInt8}
    {state final : Unit}
    (returned : neededName image info index state = .ok name final) :
    ∃ offset position, NameAt image info index name offset position := by
  unfold neededName at returned
  split at returned
  · cases returned
  · obtain ⟨offset, _, isOffset, returned⟩ := Prog.bind_eq_ok.mp returned
    have listed : info.needed[index]? = some offset := by
      unfold neededAt at isOffset
      cases found : info.needed[index]? with
      | none =>
          rw [found] at isOffset
          cases isOffset
      | some value =>
          rw [found] at isOffset
          cases isOffset
          rfl
    split at returned
    · cases returned
    · rename_i inTable
      rw [UInt64.not_le] at inTable
      have ordered : offset.toNat ≤ info.strsz.toNat :=
        Nat.le_of_lt (UInt64.lt_iff_toNat_lt.mp inTable)
      obtain ⟨address, _, isAddress, returned⟩ := Prog.bind_eq_ok.mp returned
      obtain ⟨found, _, isFound, returned⟩ := Prog.bind_eq_ok.mp returned
      obtain ⟨position, _, isPosition, returned⟩ := Prog.bind_eq_ok.mp returned
      rw [plainSub_eq ordered] at returned
      obtain ⟨remaining, _, isRemaining, returned⟩ :=
        Prog.bind_eq_ok.mp returned
      obtain ⟨data, _, isData, returned⟩ := Prog.bind_eq_ok.mp returned
      obtain ⟨last, _, isLast, isName⟩ := Prog.bind_eq_ok.mp returned
      cases isRemaining
      have amount :
          (UInt64.ofNat (info.strsz.toNat - offset.toNat)).toNat =
            info.strsz.toNat - offset.toNat := by
        have bound := info.strsz.toNat_lt
        rw [UInt64.toNat_ofNat', Nat.mod_eq_of_lt (by omega)]
      rw [image.readBytes_eq] at isData
      obtain ⟨inFile, lengthIs, bytesAre⟩ :=
        Image.bytesAt_eq_ok (ofFile_eq_ok.mp isData).1
      rw [amount] at inFile lengthIs bytesAre
      obtain ⟨inData, isNul, noNul⟩ := nul_found (required_eq_ok isLast)
      rw [subslice_eq (Nat.zero_le _) (Nat.le_of_lt inData), List.drop_zero,
        Nat.sub_zero] at isName
      cases isName
      have nameLength : (data.take last).length = last := by
        rw [List.length_take]
        omega
      rw [required_eq_ok isPosition] at isFound
      refine
        ⟨offset, position, listed, inTable,
          ⟨address, required_eq_ok isAddress, isFound⟩, noNul, ?_, ?_, ?_, ?_⟩
      · intro place below
        rw [nameLength] at below
        rw [← bytesAre place (by omega), fileByte, fileByte,
          List.getD_eq_getElem?_getD, List.getElem?_take_of_lt below,
          List.getD_eq_getElem?_getD]
      · rw [nameLength, ← bytesAre last (by omega)]
        exact isNul
      · omega
      · omega

/-! ## The reader on a file -/

/-- What the reader does with a parsed image. -/
structure ReaderSafe (bytes : List UInt8) (image : Image) : Prop where
  headers :
    ∀ index < image.header.phnum.toNat,
      ∃ ph,
        image.readPhdr index () = .ok ph () ∧
          SpelledAt bytes (image.header.phoff.toNat + 56 * index) ph
  bytesAt :
    ∀ offset length,
      Prog.Ends (image.readBytes offset length) ∧
        ∀ slice,
          image.readBytes offset length () = .ok slice () →
          offset.toNat + length.toNat ≤ bytes.length ∧
            slice = (bytes.drop offset.toNat).take length.toNat
  interpreter : Prog.Ends image.interpreter
  dynamic : Prog.Ends image.dynamic
  addressToFile : ∀ address, Prog.Ends (image.addressToFile address)
  parse : Prog.Ends (parse image)
  counted :
    ∀ info, Dynamic.parse image () = .ok (some info) () → info.Counted
  neededName :
    ∀ info index, info.Counted → Prog.Ends (neededName image info index)
  names :
    ∀ info index name,
      Dynamic.neededName image info index () = .ok name () →
      ∃ offset position, NameAt image info index name offset position

/-- The reader is safe on every file that it accepts. -/
theorem reader_safe
    (bytes : List UInt8)
    (image : Image)
    (isSlice : bytes.length < 2 ^ 63)
    (parsed : Image.parse bytes = .ok image) :
    ReaderSafe bytes image := by
  obtain ⟨sameBytes, _⟩ := Image.parse_spec parsed
  constructor
  · exact fun index below => Image.readPhdr_spelled parsed below
  · intro offset length
    refine ⟨image.ends_readBytes offset length, ?_⟩
    intro slice returned
    rw [image.readBytes_eq] at returned
    have isSlice := (ofFile_eq_ok.mp returned).1
    obtain ⟨inFile, _, _⟩ := Image.bytesAt_eq_ok isSlice
    unfold Image.bytesAt at isSlice
    split at isSlice
    · cases isSlice
    · cases isSlice
      rw [← sameBytes]
      exact ⟨inFile, rfl⟩
  · exact image.ends_interpreterFrom _
  · exact image.ends_dynamicFrom _
  · exact fun address => image.ends_addressToFileFrom address _
  · exact ends_parse (sameBytes ▸ isSlice)
  · exact fun info returned => counted_parse returned
  · exact fun info index counted => ends_neededName counted index
  · exact fun info index name returned => neededName_eq_ok returned

/-- A file that needs the library `m`. -/
def libraryFile : List UInt8 :=
  [0x7f, 0x45, 0x4c, 0x46, 2, 1, 1] ++ leList 0 9 ++ leList 3 2 ++
    leList 0x3e 2 ++ leList 1 4 ++ leList 0 8 ++ leList 64 8 ++
    leList 0 12 ++ leList 64 2 ++ leList 56 2 ++ leList 2 2 ++ leList 0 6 ++
    loadHeader 4 0 243 243 ++
    leList 2 4 ++ leList 4 4 ++ leList 176 8 ++ leList 176 8 ++
    leList 176 8 ++ leList 64 8 ++ leList 64 8 ++ leList 8 8 ++
    leList 1 8 ++ leList 1 8 ++ leList 5 8 ++ leList 240 8 ++
    leList 10 8 ++ leList 3 8 ++ leList 0 16 ++ [0, 109, 0]

/-- `libraryFile` with its header. -/
def libraryImage : Image where
  bytes := libraryFile
  header := ⟨3, 0x3e, 1, 0, 64, 2, 56⟩

/-- The table of `libraryFile`. -/
def libraryInfo : Info :=
  { Info.empty with
    needed := Info.empty.needed.set 0 1
    neededCount := 1
    strtab := 240
    strsz := 3 }

/-- The name of the library is read where the table says. -/
theorem reader_safe_library :
    Image.parse libraryFile = .ok libraryImage ∧
      (∃ ph,
        libraryImage.readPhdr 1 () = .ok ph () ∧
          SpelledAt libraryFile 120 ph) ∧
      parse libraryImage () = .ok (some libraryInfo) () ∧
      libraryInfo.Counted ∧
      neededName libraryImage libraryInfo 0 () = .ok [109] () ∧
      ∃ offset position,
        NameAt libraryImage libraryInfo 0 [109] offset position := by
  have parsed : Image.parse libraryFile = .ok libraryImage := by
    decide +kernel
  obtain ⟨⟨⟩, isInfo⟩ :
      ∃ final, parse libraryImage () = .ok (some libraryInfo) final :=
    Prog.eq_ok_of_value? (by decide +kernel)
  obtain ⟨⟨⟩, isName⟩ :
      ∃ final, neededName libraryImage libraryInfo 0 () = .ok [109] final :=
    Prog.eq_ok_of_value? (by decide +kernel)
  have safe :=
    reader_safe libraryFile libraryImage (by decide +kernel) parsed
  exact
    ⟨parsed, safe.headers 1 (by decide), isInfo, safe.counted _ isInfo, isName,
      safe.names _ _ _ isName⟩

/-- A table that counts a name more than it has makes `needed_name` panic. -/
theorem neededName_panics :
    ¬ ∀ bytes image,
        bytes.length < 2 ^ 63 →
        Image.parse bytes = .ok image →
        ∀ info index, Prog.Ends (neededName image info index) := by
  intro returns
  have parsed : Image.parse libraryFile = .ok libraryImage := by
    decide +kernel
  exact
    returns libraryFile libraryImage (by decide +kernel) parsed
      { Info.empty with neededCount := 33 } 32 () rfl

end Dynamic

end VibuxOS.Elf
