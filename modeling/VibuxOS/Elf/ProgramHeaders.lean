import VibuxOS.Elf.LinkedAddresses

namespace VibuxOS.Elf

open VibuxOS.Lib
open VibuxOS.Paging
open VibuxOS.UserSpace

/-!
# The program headers in memory

The runner tells a program where its program headers are: at the base of the
image and their offset in the file.  They are there when the segment at that
address holds just that part of the file; a segment may hold any.
-/

variable
  {κ : Type}
  {allocate : Allocate κ}
  {image : Image}
  {segment : ProgramHeader}
  {bias physicalOffset page : UInt64}
  {machine final : Machine κ}

/-- An address is in a page of the segments at some indexes. -/
def InSegments
    (image : Image)
    (indexes : List Nat)
    (bias address : UInt64) : Prop :=
  ∃ segment, image.LoadsAmong indexes segment ∧ InPages segment bias address

def InImage (image : Image) (bias address : UInt64) : Prop :=
  InSegments image (List.range image.header.phnum.toNat) bias address

/-! ## What the loader changes -/

section

variable (ready : Ready allocate machine)

include ready

theorem changes_of_loadPage
    (below : page.toNat < 2 ^ 47)
    (aligned : page.toNat % 4096 = 0)
    (returned :
      loadPage allocate image segment bias physicalOffset page machine =
        .ok () final) :
    Changes allocate (SamePage · page) machine final := by
  obtain ⟨frame, mapped, words, isHanded, mapsOn, rfl, shown⟩ :=
    loadPage_maps ready below aligned returned
  exact
    (newPage_of_mapsOn isHanded mapsOn (UInt64.lt_iff_toNat_lt.mpr below)
      shown).changes

theorem changes_of_loadPages
    {mappedEnd : UInt64}
    {fuel pages more : Nat}
    (below : mappedEnd.toNat ≤ 2 ^ 47)
    (stopIsPage : IsPage mappedEnd)
    (isPage : IsPage page)
    (returned :
      loadPages allocate image segment bias physicalOffset mappedEnd fuel page
          pages machine =
        .ok more final) :
    Changes allocate (InRange page mappedEnd) machine final := by
  induction fuel generalizing page pages machine with
  | zero =>
      cases returned
  | succ fuel inductionHypothesis =>
      rw [loadPages] at returned
      split at returned
      · rename_i inside
        obtain ⟨_, middle, isLoaded, returned⟩ :=
          Prog.bind_eq_ok.mp returned
        obtain ⟨next, isNext, returned⟩ :=
          Prog.ofExcept_bind_eq_ok.mp returned
        have within : page.toNat < mappedEnd.toNat :=
          UInt64.lt_iff_toNat_lt.mp inside
        have nextIs : next.toNat = page.toNat + 4096 :=
          toNat_of_addAddress isNext
        have first :=
          changes_of_loadPage ready (by omega) isPage isLoaded
        have nextIsPage : IsPage next := by
          unfold IsPage at isPage ⊢
          omega
        have rest := inductionHypothesis first.ready nextIsPage returned
        refine (first.mono ?_).trans (rest.mono ?_)
        · intro other same
          exact
            inRange_of_samePage isPage stopIsPage same
              ⟨UInt64.le_refl _, inside⟩
        · rintro other ⟨above, before⟩
          refine ⟨?_, before⟩
          rw [UInt64.le_iff_toNat_le] at above ⊢
          omega
      · cases returned
        exact Changes.refl ready _

theorem changes_of_loadSegments
    {indexes : List Nat}
    {pages more : Nat}
    {scan : Scan}
    (accepted :
      ∀ segment, image.LoadsAmong indexes segment → Accepted segment bias scan)
    (returned :
      loadSegments allocate image bias physicalOffset indexes pages machine =
        .ok more final) :
    Changes allocate (InSegments image indexes bias) machine final := by
  induction indexes generalizing pages machine with
  | nil =>
      cases returned
      exact Changes.refl ready _
  | cons index rest inductionHypothesis =>
      obtain ⟨load, isLoad, returned⟩ := Prog.ofExcept_bind_eq_ok.mp returned
      have restAccepted :
          ∀ other,
            image.LoadsAmong rest other → Accepted other bias scan :=
        fun other among =>
          accepted other (Image.loadsAmong_cons.mpr (.inr among))
      have restAmong :
          ∀ other,
            InSegments image rest bias other →
            InSegments image (index :: rest) bias other := by
        rintro other ⟨segment, among, inside⟩
        exact ⟨segment, Image.loadsAmong_cons.mpr (.inr among), inside⟩
      split at returned
      · exact
          (inductionHypothesis ready restAccepted returned).mono restAmong
      · rename_i isKind
        rw [not_not] at isKind
        have here : image.LoadsAmong (index :: rest) load :=
          ⟨index, List.mem_cons_self, isLoad, isKind⟩
        obtain ⟨range, isRange, returned⟩ :=
          Prog.ofExcept_bind_eq_ok.mp returned
        obtain ⟨count, middle, isLoaded, returned⟩ :=
          Prog.bind_eq_ok.mp returned
        obtain ⟨startIs, stopIs⟩ := mappedRange_eq_ok isRange
        have below := (accepted load here).below
        have startIsPage : IsPage range.1 := by
          unfold IsPage
          rw [startIs, pagesStart]
          omega
        have stopIsPage : IsPage range.2 := by
          unfold IsPage
          rw [stopIs, pagesEnd]
          omega
        have first :=
          changes_of_loadPages ready (by omega) stopIsPage startIsPage isLoaded
        have others := inductionHypothesis first.ready restAccepted returned
        refine (first.mono ?_).trans (others.mono restAmong)
        rintro other ⟨above, before⟩
        refine ⟨load, here, ?_⟩
        unfold InPages
        rw [UInt64.le_iff_toNat_le] at above
        rw [UInt64.lt_iff_toNat_lt] at before
        omega

theorem changes_of_loadAt
    {loaded : Loaded}
    (returned :
      loadAt allocate image physicalOffset bias machine = .ok loaded final) :
    Changes allocate (InImage image bias) machine final := by
  obtain ⟨scan, isScan, returned⟩ := Prog.ofExcept_bind_eq_ok.mp returned
  split at returned
  · cases returned
  · obtain ⟨pages, middle, isLoaded, returned⟩ := Prog.bind_eq_ok.mp returned
    obtain ⟨entry, _, returned⟩ := Prog.ofExcept_bind_eq_ok.mp returned
    cases returned
    exact
      changes_of_loadSegments ready (scanSegments_further isScan).accepted
        isLoaded

end

/-! ## What the program sees -/

def UserSees (machine : Machine κ) (address : UInt64) (byte : UInt8) : Prop :=
  FindsUser machine address ∧
    seenByte machine.memory machine.cr3 address = some byte

theorem userSees_elsewhere
    {before after : Machine κ}
    {address : UInt64}
    {byte : UInt8}
    (ready : Ready allocate before)
    (isApart : TablesApart before)
    (changes : Changes allocate (InImage image bias) before after)
    (elsewhere : ¬ InImage image bias address) :
    UserSees after address byte ↔ UserSees before address byte := by
  unfold UserSees
  rw [changes.findsUser elsewhere]
  apply and_congr_right
  rintro ⟨mapping, found, isUser⟩
  have isFrame := userFrame_of_findsUser ready.tables found isUser
  have words :=
    (changes.words _ (isApart _ isFrame)
      fun isPending => ready.unused.userFree _ isPending isFrame).2
  rw [seenByte, seenByte, changes.elsewhere address elsewhere, found,
    Option.map_some, Option.map_some, memoryByte, memoryByte, frameByte,
    frameByte, words]

theorem userSees_inImage
    {loaded : Loaded}
    {address : UInt64}
    {byte : UInt8}
    (ready : Ready allocate machine)
    (returned :
      loadAt allocate image physicalOffset bias machine = .ok loaded final)
    (isLoad : image.IsLoad segment)
    (inside : InPages segment bias address) :
    UserSees final address byte ↔
      segmentByte image segment bias address.toNat = byte := by
  have shown := (adds_of_loadAt ready returned).2.2 segment isLoad
  have seen := seenByte_of_shows shown inside
  obtain ⟨mapping, found, _, flags, _⟩ := mapped_of_shows shown inside
  have isUser : mapping.flags.contains .user = true := by
    rw [flags]
    exact (contains_segmentFlags segment).1
  unfold UserSees
  rw [seen, Option.some_inj]
  exact and_iff_right ⟨mapping, found, isUser⟩

/-! ## The table of the program headers -/

/-- The size of the table of the program headers. -/
def tableSize (image : Image) : Nat :=
  image.header.phnum.toNat * phdrSize

/-- A byte of the table of the program headers. -/
def tableByte (image : Image) (place : Nat) : UInt8 :=
  fileByte image.bytes (image.header.phoff.toNat + place)

/-- The program sees the table of its program headers from an address on. -/
def TableShown
    (image : Image)
    (phdr : UInt64)
    (machine : Machine κ) : Prop :=
  ∀ place < tableSize image,
    UserSees machine (phdr + UInt64.ofNat place) (tableByte image place)

def TableInSegment (image : Image) (segment : ProgramHeader) : Prop :=
  image.IsLoad segment ∧
    segment.offset.toNat ≤ image.header.phoff.toNat ∧
    image.header.phoff.toNat + tableSize image ≤
      segment.offset.toNat + segment.filesz.toNat

/--
Where the table is looked for, the segment has the bytes of the table.  Where
no segment is, the bytes would have to be in memory already.
-/
def TableLinked
    (image : Image)
    (bias phdr : UInt64)
    (before : Machine κ) : Prop :=
  ∀ place < tableSize image,
    (∃ segment,
        image.IsLoad segment ∧
          InPages segment bias (phdr + UInt64.ofNat place) ∧
          segmentByte image segment bias (phdr + UInt64.ofNat place).toNat =
            tableByte image place) ∨
      ¬ InImage image bias (phdr + UInt64.ofNat place) ∧
        UserSees before (phdr + UInt64.ofNat place) (tableByte image place)

/-- The value of the runner for `AT_PHDR` in the auxiliary vector. -/
def atPhdr (main : Loaded) (header : Header) : Option UInt64 :=
  checkedAdd main.bias header.phoff

/-- The program finds its headers where the image was linked to have them. -/
theorem phdr_shown_iff
    {κ : Type}
    (allocate : Allocate κ)
    (image : Image)
    (physicalOffset bias : UInt64)
    (before after : Machine κ)
    (loaded : Loaded)
    (ready : Ready allocate before)
    (isApart : TablesApart before)
    (returned :
      loadAt allocate image physicalOffset bias before = .ok loaded after) :
    ∀ phdr,
      atPhdr loaded image.header = some phdr →
      (TableShown image phdr after ↔ TableLinked image bias phdr before) := by
  have changes := changes_of_loadAt ready returned
  intro phdr _
  constructor
  · intro shown place inTable
    by_cases inImage : InImage image bias (phdr + UInt64.ofNat place)
    · obtain ⟨segment, isLoad, inside⟩ := inImage
      exact
        .inl
          ⟨segment, isLoad, inside,
            (userSees_inImage ready returned isLoad inside).mp
              (shown place inTable)⟩
    · exact
        .inr
          ⟨inImage,
            (userSees_elsewhere ready isApart changes inImage).mp
              (shown place inTable)⟩
  · intro linked place inTable
    rcases linked place inTable with
      ⟨segment, isLoad, inside, same⟩ | ⟨elsewhere, seen⟩
    · exact (userSees_inImage ready returned isLoad inside).mpr same
    · exact (userSees_elsewhere ready isApart changes elsewhere).mpr seen

theorem tableLinked_of_offset
    {before after : Machine κ}
    {loaded : Loaded}
    {phdr : UInt64}
    (returned :
      loadAt allocate image physicalOffset bias before = .ok loaded after)
    (located : atPhdr loaded image.header = some phdr)
    (hasTable : TableInSegment image segment)
    (sameOffset : segment.vaddr = segment.offset) :
    TableLinked image bias phdr before := by
  obtain ⟨isLoad, above, below⟩ := hasTable
  have phdrIs := toNat_of_checkedAdd located
  obtain ⟨scan, isScan, returned⟩ := Prog.ofExcept_bind_eq_ok.mp returned
  have accepted := (scanSegments_further isScan).accepted segment isLoad
  have sizes := accepted.sizes
  have limit := accepted.below
  split at returned
  · cases returned
  · obtain ⟨pages, middle, _, returned⟩ := Prog.bind_eq_ok.mp returned
    obtain ⟨entry, _, returned⟩ := Prog.ofExcept_bind_eq_ok.mp returned
    cases returned
    dsimp only at phdrIs
    intro place inTable
    have start : segmentStart segment bias =
        segment.offset.toNat + bias.toNat := by
      rw [segmentStart, sameOffset]
    unfold pagesEnd at limit
    rw [start] at limit
    have addressIs :
        (phdr + UInt64.ofNat place).toNat =
          bias.toNat + image.header.phoff.toNat + place := by
      rw [UInt64.toNat_add, UInt64.toNat_ofNat', phdrIs]
      omega
    left
    refine ⟨segment, isLoad, ?_, ?_⟩
    · unfold InPages pagesStart pagesEnd
      rw [addressIs, start]
      omega
    · have inFile :
          segmentStart segment bias ≤ (phdr + UInt64.ofNat place).toNat ∧
            (phdr + UInt64.ofNat place).toNat <
              segmentStart segment bias + segment.filesz.toNat := by
        rw [addressIs, start]
        omega
      rw [segmentByte, if_pos inFile, addressIs, start, tableByte]
      congr 1
      omega

/-! ## A table that is found, and one that is not -/

/-- An executable with a table for one segment, mapped at an address. -/
def tableFile (vaddr : UInt64) : List UInt8 :=
  [0x7f, 0x45, 0x4c, 0x46, 2, 1, 1] ++ leList 0 9 ++ leList 3 2 ++
    leList 0x3e 2 ++ leList 1 4 ++ leList 0x40 8 ++ leList 64 8 ++
    leList 0 12 ++ leList 64 2 ++ leList 56 2 ++ leList 1 2 ++ leList 0 6 ++
    loadHeader 4 vaddr 120 120

/-- `tableFile` with its header. -/
def tableImage (vaddr : UInt64) : Image where
  bytes := tableFile vaddr
  header := ⟨3, 0x3e, 1, 0x40, 64, 1, 56⟩

theorem tablesApart_emptyTables : TablesApart emptyTables := by
  rintro frame ⟨address, mapping, found, _⟩
  rw [translate_emptyTables] at found
  cases found

theorem exists_loaded_table :
    (∃ final,
        loadAt FrameAllocator.allocate (tableImage 0) 0 mainBase emptyTables =
          .ok ⟨0x400000000040, mainBase, mainBase, 0x400000001000, 1, 1⟩
            final) ∧
      ∃ final,
        loadAt FrameAllocator.allocate (tableImage 0x1000) 0 mainBase
            emptyTables =
          .ok
            ⟨0x400000000040, mainBase, 0x400000001000, 0x400000002000, 1, 1⟩
            final :=
  ⟨Prog.eq_ok_of_value? (by decide +kernel),
    Prog.eq_ok_of_value? (by decide +kernel)⟩

theorem tableInSegment_tableImage :
    TableInSegment (tableImage 0) ⟨1, 4, 0, 0, 0, 120, 120, 4096⟩ ∧
      TableInSegment (tableImage 0x1000)
        ⟨1, 4, 0, 0x1000, 0x1000, 120, 120, 4096⟩ := by
  refine ⟨⟨⟨0, ?_, ?_, rfl⟩, ?_⟩, ⟨0, ?_, ?_, rfl⟩, ?_⟩
  all_goals decide +kernel

/-- A program whose headers are mapped at their offset finds them. -/
theorem phdr_shown_table :
    ∃ loaded final,
      loadAt FrameAllocator.allocate (tableImage 0) 0 mainBase emptyTables =
          .ok loaded final ∧
        atPhdr loaded (tableImage 0).header = some 0x400000000040 ∧
        TableShown (tableImage 0) 0x400000000040 final := by
  obtain ⟨⟨final, returned⟩, _⟩ := exists_loaded_table
  refine ⟨_, final, returned, by decide, ?_⟩
  exact
    (phdr_shown_iff FrameAllocator.allocate (tableImage 0) 0 mainBase
      emptyTables final _ ready_emptyTables tablesApart_emptyTables returned
      0x400000000040 (by decide)).mpr
      (tableLinked_of_offset returned (by decide)
        tableInSegment_tableImage.1 rfl)

/-- A program whose headers are mapped at another address does not. -/
theorem phdr_not_shown :
    ∃ segment loaded final,
      Image.parse (tableFile 0x1000) = .ok (tableImage 0x1000) ∧
        TableInSegment (tableImage 0x1000) segment ∧
        loadAt FrameAllocator.allocate (tableImage 0x1000) 0 mainBase
            emptyTables =
          .ok loaded final ∧
        atPhdr loaded (tableImage 0x1000).header = some 0x400000000040 ∧
        ¬ TableShown (tableImage 0x1000) 0x400000000040 final := by
  obtain ⟨_, final, returned⟩ := exists_loaded_table
  refine
    ⟨_, _, final, by decide +kernel, tableInSegment_tableImage.2, returned,
      by decide, fun shown => ?_⟩
  have isHeader :
      (tableImage 0x1000).phdr 0 =
        .ok ⟨1, 4, 0, 0x1000, 0x1000, 120, 120, 4096⟩ := by
    decide +kernel
  have elsewhere :
      ¬ InImage (tableImage 0x1000) mainBase
          (0x400000000040 + UInt64.ofNat 0) := by
    rintro ⟨segment, ⟨index, among, found, _⟩, above, _⟩
    have first : index = 0 := Nat.lt_one_iff.mp (List.mem_range.mp among)
    rw [first, isHeader] at found
    cases found
    exact absurd above (by decide)
  have changes := changes_of_loadAt ready_emptyTables returned
  have before :=
    (userSees_elsewhere ready_emptyTables tablesApart_emptyTables changes
      elsewhere).mp (shown 0 (by decide))
  obtain ⟨⟨mapping, found, _⟩, _⟩ := before
  rw [translate_emptyTables] at found
  cases found

end VibuxOS.Elf
