import Mathlib.Order.Bounds.Basic
import VibuxOS.Elf.Loader
import VibuxOS.Paging.OwnPages

namespace VibuxOS.Elf

open VibuxOS.Lib
open VibuxOS.Paging

/-!
# The image in memory

Every page of a segment shows the bytes of the file where the segment has them
and zeros around them, on a frame of its own.  Two segments never share a page:
the loader refuses a page that is mapped already, so a page that was filled for
one segment is left as it is by all later ones.
-/

/-- The address at which a segment starts in memory. -/
def segmentStart (segment : ProgramHeader) (bias : UInt64) : Nat :=
  segment.vaddr.toNat + bias.toNat

/-- The address of the first page of a segment. -/
def pagesStart (segment : ProgramHeader) (bias : UInt64) : Nat :=
  segmentStart segment bias - segmentStart segment bias % 4096

/-- The address behind the last page of a segment. -/
def pagesEnd (segment : ProgramHeader) (bias : UInt64) : Nat :=
  (segmentStart segment bias + segment.memsz.toNat + 4095) / 4096 * 4096

/-- The address is in a page of a segment. -/
def InPages
    (segment : ProgramHeader)
    (bias address : UInt64) : Prop :=
  pagesStart segment bias ≤ address.toNat ∧
    address.toNat < pagesEnd segment bias

/-- A page of a segment. -/
def PageOf
    (segment : ProgramHeader)
    (bias page : UInt64) : Prop :=
  InPages segment bias page ∧ page.toNat % 4096 = 0

def segmentByte
    (image : Image)
    (segment : ProgramHeader)
    (bias : UInt64)
    (address : Nat) :
    UInt8 :=
  if segmentStart segment bias ≤ address ∧
      address < segmentStart segment bias + segment.filesz.toNat then
    fileByte image.bytes
      (segment.offset.toNat + (address - segmentStart segment bias))
  else
    0

/-- The program headers at some indexes have a segment to load. -/
def Image.LoadsAmong
    (image : Image)
    (indexes : List Nat)
    (segment : ProgramHeader) : Prop :=
  ∃ index ∈ indexes, image.phdr index = .ok segment ∧ segment.kind = ptLoad

def Image.IsLoad (image : Image) (segment : ProgramHeader) : Prop :=
  image.LoadsAmong (List.range image.header.phnum.toNat) segment

variable
  {κ : Type}
  {allocate : Allocate κ}
  {image : Image}
  {segment : ProgramHeader}
  {bias physicalOffset page frame : UInt64}
  {machine final : Machine κ}

/-! ## Addresses -/

theorem toNat_of_addAddress
    {left right sum : UInt64}
    (added : addAddress left right = .ok sum) :
    sum.toNat = left.toNat + right.toNat :=
  toNat_of_checkedAdd (okOr_eq_ok.mp added)

theorem mappedRange_eq_ok
    {range : UInt64 × UInt64}
    (returned : mappedRange segment bias = .ok range) :
    range.1.toNat = pagesStart segment bias ∧
      range.2.toNat = pagesEnd segment bias := by
  obtain ⟨start, isStart, returned⟩ := bind_eq_ok.mp returned
  obtain ⟨size, isSize, returned⟩ := bind_eq_ok.mp returned
  obtain ⟨rawEnd, isRawEnd, returned⟩ := bind_eq_ok.mp returned
  obtain ⟨mappedEnd, isMappedEnd, returned⟩ := bind_eq_ok.mp returned
  cases returned
  obtain ⟨sum, isSum, rfl⟩ :=
    Option.map_eq_some_iff.mp (okOr_eq_ok.mp isMappedEnd)
  have startIs := toNat_of_addAddress isStart
  have sizeIs := toNat_of_addAddress isSize
  have rawEndIs := toNat_of_addAddress isRawEnd
  have sumIs := toNat_of_checkedAdd isSum
  have rest : (pageSize - 1).toNat = 4095 := by decide
  rw [rest] at sumIs
  have first : (down start).toNat = start.toNat - start.toNat % 4096 :=
    toNat_pageOf start
  have last : (down sum).toNat = sum.toNat - sum.toNat % 4096 :=
    toNat_pageOf sum
  unfold pagesStart pagesEnd segmentStart
  dsimp only
  omega

/-! ## Filling a page -/

theorem segmentByte_of_outside
    {address : Nat}
    (outside :
      address < segmentStart segment bias ∨
        segmentStart segment bias + segment.filesz.toNat ≤ address) :
    segmentByte image segment bias address = 0 := by
  unfold segmentByte
  rw [if_neg]
  omega

theorem populate_eq_ok
    (returned :
      populate image segment bias page physicalOffset frame machine =
        .ok () final) :
    ∃ words,
      final = machine.fillFrame frame words ∧
        ∀ offset,
          offset < 4096 →
          frameByte final.memory frame offset =
            segmentByte image segment bias (page.toNat + offset) := by
  obtain ⟨start, isStart, returned⟩ := Prog.ofExcept_bind_eq_ok.mp returned
  obtain ⟨fileEnd, isFileEnd, returned⟩ :=
    Prog.ofExcept_bind_eq_ok.mp returned
  obtain ⟨pageEnd, isPageEnd, returned⟩ :=
    Prog.ofExcept_bind_eq_ok.mp returned
  obtain ⟨_, _, returned⟩ := Prog.ofExcept_bind_eq_ok.mp returned
  have startIs : start.toNat = segmentStart segment bias :=
    toNat_of_addAddress isStart
  have fileEndIs := toNat_of_addAddress isFileEnd
  have pageEndIs : pageEnd.toNat = page.toNat + 4096 :=
    toNat_of_addAddress isPageEnd
  have copyStartIs := toNat_max start page
  have copyEndIs := toNat_min fileEnd pageEnd
  change
    (if min fileEnd pageEnd ≤ max start page then _ else _ : Kernel κ Error Unit)
        (machine.fillFrame frame fun _ => 0) =
      .ok () final at returned
  split at returned
  · rename_i empty
    cases returned
    refine ⟨_, rfl, ?_⟩
    intro offset inside
    rw [UInt64.le_iff_toNat_le] at empty
    rw [frameByte_zeroed, segmentByte_of_outside]
    omega
  · rename_i notEmpty
    rw [UInt64.le_iff_toNat_le] at notEmpty
    obtain ⟨sourceOffset, isOffset, returned⟩ :=
      Prog.ofExcept_bind_eq_ok.mp returned
    obtain ⟨source, isSource, returned⟩ :=
      Prog.ofExcept_bind_eq_ok.mp returned
    cases returned
    refine ⟨_, Machine.fillFrame_fillFrame _ _ _ _, ?_⟩
    intro offset inside
    have offsetIs := toNat_of_addAddress isOffset
    obtain ⟨_, lengthIs, bytesAre⟩ := Image.bytesAt_eq_ok isSource
    have intoFile :=
      UInt64.toNat_sub_of_le (max start page) start
        (UInt64.le_iff_toNat_le.mpr (by omega))
    have intoPage :=
      UInt64.toNat_sub_of_le (max start page) page
        (UInt64.le_iff_toNat_le.mpr (by omega))
    have amount :=
      UInt64.toNat_sub_of_le (min fileEnd pageEnd) (max start page)
        (UInt64.le_iff_toNat_le.mpr (by omega))
    rw [frameByte_copied, lengthIs, amount, intoPage]
    by_cases copied :
        max start.toNat page.toNat ≤ page.toNat + offset ∧
          page.toNat + offset < min fileEnd.toNat pageEnd.toNat
    · rw [blit_inside (by omega) (by omega)]
      have shown :=
        bytesAre (offset - ((max start page).toNat - page.toNat)) (by omega)
      have inFile :
          segmentStart segment bias ≤ page.toNat + offset ∧
            page.toNat + offset <
              segmentStart segment bias + segment.filesz.toNat := by
        omega
      rw [segmentByte, if_pos inFile]
      refine Eq.trans shown (congrArg _ ?_)
      omega
    · rw [blit_outside (by omega), frameByte_zeroed, segmentByte_of_outside]
      omega

/-! ## Loading a page -/

theorem combined_segmentFlags
    (segment : ProgramHeader) :
    (segmentFlags segment).Combined := by
  have isUser : (PageFlags.empty.union .user).Combined :=
    .union .empty (by decide)
  unfold segmentFlags
  dsimp only
  split <;> split
  · exact .union (.union isUser (by decide)) (by decide)
  · exact .union isUser (by decide)
  · exact .union isUser (by decide)
  · exact isUser

theorem contains_segmentFlags
    (segment : ProgramHeader) :
    ((segmentFlags segment).union .present).contains .user = true ∧
      (((segmentFlags segment).union .present).contains .writable = true ↔
        segment.flags &&& pfW ≠ 0) ∧
      (((segmentFlags segment).union .present).contains .noExecute = true ↔
        segment.flags &&& pfX = 0) := by
  unfold segmentFlags
  dsimp only
  by_cases writable : segment.flags &&& pfW ≠ 0
  · rw [if_pos writable]
    by_cases data : segment.flags &&& pfX = 0
    · rw [if_pos data]
      exact ⟨by decide, iff_of_true (by decide) writable,
        iff_of_true (by decide) data⟩
    · rw [if_neg data]
      exact ⟨by decide, iff_of_true (by decide) writable,
        iff_of_false (by decide) data⟩
  · rw [if_neg writable]
    by_cases data : segment.flags &&& pfX = 0
    · rw [if_pos data]
      exact ⟨by decide, iff_of_false (by decide) writable,
        iff_of_true (by decide) data⟩
    · rw [if_neg data]
      exact ⟨by decide, iff_of_false (by decide) writable,
        iff_of_false (by decide) data⟩

/-- A page shows its part of a segment, on a frame of its own. -/
def Shows
    (allocate : Allocate κ)
    (image : Image)
    (segment : ProgramHeader)
    (bias page : UInt64)
    (machine : Machine κ) : Prop :=
  ∃ frame,
    PageAt allocate page frame (segmentFlags segment)
      (fun offset => segmentByte image segment bias (page.toNat + offset))
      machine

theorem Shows.adds
    {new : UInt64 → Prop}
    (shows_ : Shows allocate image segment bias page machine)
    (adds : Adds allocate new machine final) :
    Shows allocate image segment bias page final := by
  obtain ⟨frame, pageAt⟩ := shows_
  exact ⟨frame, adds.pages _ _ _ _ pageAt⟩

theorem canonical_of_lt
    {address : UInt64}
    (below : address.toNat < 2 ^ 47) :
    canonical address = true :=
  (canonical_iff address).mpr (Or.inl below)

theorem loadPage_maps
    (ready : Ready allocate machine)
    (below : page.toNat < 2 ^ 47)
    (aligned : page.toNat % 4096 = 0)
    (returned :
      loadPage allocate image segment bias physicalOffset page machine =
        .ok () final) :
    ∃ frame mapped words,
      (allocate machine.supply).1 = some frame ∧
        MapsOn allocate (machine.called allocate) mapped page frame
          (segmentFlags segment) ∧
        final = Machine.fillFrame frame words mapped ∧
        ∀ offset < 4096,
          frameByte final.memory frame offset =
            segmentByte image segment bias (page.toNat + offset) := by
  obtain ⟨found, _, returned⟩ := (Prog.ReadOnly.gets _).of_bind_ok returned
  split at returned
  · cases returned
  · have called :
        (allocateFrame allocate : Kernel κ Error _) machine =
          .ok (allocate machine.supply).1 (machine.called allocate) :=
      rfl
    rw [Prog.bind_of_ok called] at returned
    cases isHanded : (allocate machine.supply).1 with
    | none =>
        rw [isHanded] at returned
        cases returned
    | some frame =>
        rw [isHanded] at returned
        obtain ⟨_, mapped, isMapped, populated⟩ :=
          Prog.bind_eq_ok.mp returned
        obtain ⟨readyCalled, taken⟩ := ready.call isHanded
        have isUser : (segmentFlags segment).contains .user = true := by
          have shown := (contains_segmentFlags segment).1
          rwa [PageFlags.contains_union _ (by decide)] at shown
        have mapsOn :=
          mapsOn_of_map4k readyCalled taken (canonical_of_lt below) aligned
            isUser (combined_segmentFlags segment)
            (Prog.mapError_eq_ok.mp isMapped)
        obtain ⟨words, isFilled, shown⟩ := populate_eq_ok populated
        exact ⟨frame, mapped, words, rfl, mapsOn, isFilled, shown⟩

theorem loadPage_eq_ok
    (ready : Ready allocate machine)
    (below : page.toNat < 2 ^ 47)
    (aligned : page.toNat % 4096 = 0)
    (returned :
      loadPage allocate image segment bias physicalOffset page machine =
        .ok () final) :
    Adds allocate (· = page) machine final ∧
      Shows allocate image segment bias page final := by
  obtain ⟨frame, mapped, words, isHanded, mapsOn, rfl, shown⟩ :=
    loadPage_maps ready below aligned returned
  obtain ⟨adds, pageAt⟩ := mapsOn.filled words
  exact ⟨(ready.adds_call isHanded _).trans adds, frame,
    { pageAt with bytes := shown }⟩

/-! ## Loading the pages of a segment -/

/-- The pages of a range that the loop loads. -/
def Between (first last : Nat) (page : UInt64) : Prop :=
  first ≤ page.toNat ∧ page.toNat < last ∧ page.toNat % 4096 = 0

theorem loadPages_eq_ok
    {mappedEnd : UInt64}
    {fuel pages more : Nat}
    (ready : Ready allocate machine)
    (below : mappedEnd.toNat ≤ 2 ^ 47)
    (aligned : page.toNat % 4096 = 0)
    (returned :
      loadPages allocate image segment bias physicalOffset mappedEnd fuel page
          pages machine =
        .ok more final) :
    Adds allocate (Between page.toNat mappedEnd.toNat) machine final ∧
      ∀ loaded,
        Between page.toNat mappedEnd.toNat loaded →
        Shows allocate image segment bias loaded final := by
  induction fuel generalizing page pages machine with
  | zero =>
      cases returned
  | succ fuel inductionHypothesis =>
      rw [loadPages] at returned
      split at returned
      · rename_i inRange
        rw [UInt64.lt_iff_toNat_lt] at inRange
        obtain ⟨_, middle, isLoaded, returned⟩ :=
          Prog.bind_eq_ok.mp returned
        obtain ⟨next, isNext, returned⟩ :=
          Prog.ofExcept_bind_eq_ok.mp returned
        have nextIs : next.toNat = page.toNat + 4096 :=
          toNat_of_addAddress isNext
        obtain ⟨adds, shown⟩ :=
          loadPage_eq_ok ready (by omega) aligned isLoaded
        obtain ⟨restAdds, restShown⟩ :=
          inductionHypothesis adds.ready (by omega) returned
        have firstAmong :
            ∀ other, other = page → Between page.toNat mappedEnd.toNat other := by
          rintro other rfl
          exact ⟨Nat.le_refl _, inRange, aligned⟩
        have restAmong :
            ∀ other,
              Between next.toNat mappedEnd.toNat other →
              Between page.toNat mappedEnd.toNat other := by
          rintro other ⟨above, inside, isAligned⟩
          exact ⟨by omega, inside, isAligned⟩
        refine ⟨(adds.mono firstAmong).trans (restAdds.mono restAmong), ?_⟩
        rintro loaded ⟨above, inside, isAligned⟩
        by_cases here : loaded = page
        · rw [here]
          exact shown.adds restAdds
        · apply restShown
          have different : loaded.toNat ≠ page.toNat :=
            mt UInt64.toNat_inj.mp here
          exact ⟨by omega, inside, isAligned⟩
      · rename_i atEnd
        rw [UInt64.lt_iff_toNat_lt] at atEnd
        cases returned
        refine ⟨Adds.refl ready _, ?_⟩
        rintro loaded ⟨above, inside, _⟩
        omega

/-! ## The first pass -/

/-- A segment that the first pass accepted. -/
structure Accepted
    (segment : ProgramHeader)
    (bias : UInt64)
    (scan : Scan) : Prop where
  sizes : segment.filesz.toNat ≤ segment.memsz.toNat
  below : pagesEnd segment bias ≤ 2 ^ 47
  start : scan.start.toNat ≤ pagesStart segment bias
  stop : pagesEnd segment bias ≤ scan.stop.toNat

/-- The second scan has gone further than the first. -/
structure Scan.Further
    (image : Image)
    (bias : UInt64)
    (indexes : List Nat)
    (before after : Scan) : Prop where
  accepted :
    ∀ segment, image.LoadsAmong indexes segment → Accepted segment bias after
  start : after.start.toNat ≤ before.start.toNat
  stop : before.stop.toNat ≤ after.stop.toNat
  startFrom :
    after.start = before.start ∨
      ∃ segment,
        image.LoadsAmong indexes segment ∧
          after.start.toNat = pagesStart segment bias
  stopFrom :
    after.stop = before.stop ∨
      ∃ segment,
        image.LoadsAmong indexes segment ∧
          after.stop.toNat = pagesEnd segment bias
  counted :
    after.segments ≠ before.segments →
    ∃ segment, image.LoadsAmong indexes segment

/-- The first pass at one program header. -/
theorem scanSegment_further
    {index : Nat}
    {before after : Scan}
    (returned : scanSegment image bias index before = .ok after) :
    Scan.Further image bias [index] before after := by
  obtain ⟨segment, isSegment, returned⟩ := bind_eq_ok.mp returned
  split at returned
  · rename_i otherKind
    cases returned
    refine ⟨?_, Nat.le_refl _, Nat.le_refl _, Or.inl rfl, Or.inl rfl,
      fun different => absurd rfl different⟩
    rintro load ⟨_, among, found, isLoad⟩
    rw [List.mem_singleton] at among
    rw [among, isSegment] at found
    cases found
    exact absurd isLoad otherKind
  · rename_i isLoad
    rw [not_not] at isLoad
    split at returned
    · cases returned
    · obtain ⟨_, isValid, returned⟩ := bind_eq_ok.mp returned
      obtain ⟨range, isRange, returned⟩ := bind_eq_ok.mp returned
      split at returned
      · cases returned
      · rename_i inside
        cases returned
        obtain ⟨startIs, stopIs⟩ := mappedRange_eq_ok isRange
        have limit : userLimit.toNat = 2 ^ 47 := by decide
        rw [not_or, UInt64.not_lt, UInt64.le_iff_toNat_le,
          UInt64.le_iff_toNat_le, limit] at inside
        have among : image.LoadsAmong [index] segment :=
          ⟨index, List.mem_singleton_self _, isSegment, isLoad⟩
        have least := toNat_min before.start range.1
        have greatest := toNat_max before.stop range.2
        have sizes : segment.filesz.toNat ≤ segment.memsz.toNat := by
          unfold validateSegment at isValid
          split at isValid
          · cases isValid
          · rename_i enough
            rwa [UInt64.not_lt, UInt64.le_iff_toNat_le] at enough
        constructor
        · rintro load ⟨_, amongIndexes, found, _⟩
          rw [List.mem_singleton] at amongIndexes
          rw [amongIndexes, isSegment] at found
          cases found
          exact ⟨sizes, by omega, by dsimp only; omega, by dsimp only; omega⟩
        · dsimp only
          omega
        · dsimp only
          omega
        · by_cases smaller : before.start.toNat ≤ range.1.toNat
          · left
            apply UInt64.toNat_inj.mp
            dsimp only
            omega
          · right
            exact ⟨segment, among, by dsimp only; omega⟩
        · by_cases larger : range.2.toNat ≤ before.stop.toNat
          · left
            apply UInt64.toNat_inj.mp
            dsimp only
            omega
          · right
            exact ⟨segment, among, by dsimp only; omega⟩
        · exact fun _ => ⟨segment, among⟩

theorem Image.loadsAmong_cons
    {index : Nat}
    {rest : List Nat} :
    image.LoadsAmong (index :: rest) segment ↔
      image.LoadsAmong [index] segment ∨ image.LoadsAmong rest segment := by
  unfold Image.LoadsAmong
  simp only [List.mem_cons, List.not_mem_nil, or_false, or_and_right,
    exists_or]

/-- The first pass accepts all segments and finds their bounds. -/
theorem scanSegments_further
    {indexes : List Nat}
    {before after : Scan}
    (returned : scanSegments image bias indexes before = .ok after) :
    Scan.Further image bias indexes before after := by
  induction indexes generalizing before with
  | nil =>
      cases returned
      refine ⟨?_, Nat.le_refl _, Nat.le_refl _, Or.inl rfl, Or.inl rfl,
        fun different => absurd rfl different⟩
      rintro load ⟨_, among, _⟩
      cases among
  | cons index rest inductionHypothesis =>
      obtain ⟨middle, isMiddle, returned⟩ := bind_eq_ok.mp returned
      have first := scanSegment_further isMiddle
      have later := inductionHypothesis returned
      have firstAmong :
          ∀ load,
            image.LoadsAmong [index] load →
            image.LoadsAmong (index :: rest) load :=
        fun _ among => Image.loadsAmong_cons.mpr (Or.inl among)
      have laterAmong :
          ∀ load,
            image.LoadsAmong rest load →
            image.LoadsAmong (index :: rest) load :=
        fun _ among => Image.loadsAmong_cons.mpr (Or.inr among)
      constructor
      · intro load among
        rcases Image.loadsAmong_cons.mp among with here | there
        · have accepted := first.accepted load here
          exact ⟨accepted.sizes, accepted.below,
            Nat.le_trans later.start accepted.start,
            Nat.le_trans accepted.stop later.stop⟩
        · exact later.accepted load there
      · exact Nat.le_trans later.start first.start
      · exact Nat.le_trans first.stop later.stop
      · rcases later.startFrom with same | ⟨load, among, isStart⟩
        · rw [same]
          rcases first.startFrom with before | ⟨load, among, isStart⟩
          · exact Or.inl before
          · exact Or.inr ⟨load, firstAmong load among, isStart⟩
        · exact Or.inr ⟨load, laterAmong load among, isStart⟩
      · rcases later.stopFrom with same | ⟨load, among, isStop⟩
        · rw [same]
          rcases first.stopFrom with before | ⟨load, among, isStop⟩
          · exact Or.inl before
          · exact Or.inr ⟨load, firstAmong load among, isStop⟩
        · exact Or.inr ⟨load, laterAmong load among, isStop⟩
      · intro different
        by_cases firstCounted : middle.segments = before.segments
        · rw [← firstCounted] at different
          obtain ⟨load, among⟩ := later.counted different
          exact ⟨load, laterAmong load among⟩
        · obtain ⟨load, among⟩ := first.counted firstCounted
          exact ⟨load, firstAmong load among⟩

/-! ## The second pass -/

/-- The pages of the segments at some indexes. -/
def PagesAmong
    (image : Image)
    (indexes : List Nat)
    (bias page : UInt64) : Prop :=
  ∃ segment, image.LoadsAmong indexes segment ∧ PageOf segment bias page

theorem loadSegments_eq_ok
    {indexes : List Nat}
    {pages more : Nat}
    {scan : Scan}
    (ready : Ready allocate machine)
    (accepted :
      ∀ segment, image.LoadsAmong indexes segment → Accepted segment bias scan)
    (returned :
      loadSegments allocate image bias physicalOffset indexes pages machine =
        .ok more final) :
    Adds allocate (PagesAmong image indexes bias) machine final ∧
      ∀ segment,
        image.LoadsAmong indexes segment →
        ∀ loaded,
          PageOf segment bias loaded →
          Shows allocate image segment bias loaded final := by
  induction indexes generalizing pages machine with
  | nil =>
      cases returned
      refine ⟨Adds.refl ready _, ?_⟩
      rintro load ⟨_, among, _⟩
      cases among
  | cons index rest inductionHypothesis =>
      obtain ⟨load, isLoad, returned⟩ := Prog.ofExcept_bind_eq_ok.mp returned
      have restAccepted :
          ∀ other,
            image.LoadsAmong rest other → Accepted other bias scan :=
        fun other among =>
          accepted other (Image.loadsAmong_cons.mpr (Or.inr among))
      have restAmong :
          ∀ other,
            PagesAmong image rest bias other →
            PagesAmong image (index :: rest) bias other := by
        rintro other ⟨segment, among, isPage⟩
        exact ⟨segment, Image.loadsAmong_cons.mpr (Or.inr among), isPage⟩
      split at returned
      · rename_i otherKind
        obtain ⟨adds, shown⟩ :=
          inductionHypothesis ready restAccepted returned
        refine ⟨adds.mono restAmong, ?_⟩
        intro segment among
        rcases Image.loadsAmong_cons.mp among with here | there
        · obtain ⟨_, isIndex, found, isKind⟩ := here
          rw [List.mem_singleton] at isIndex
          rw [isIndex, isLoad] at found
          cases found
          exact absurd isKind otherKind
        · exact shown segment there
      · rename_i isKind
        rw [not_not] at isKind
        have here : image.LoadsAmong [index] load :=
          ⟨index, List.mem_singleton_self _, isLoad, isKind⟩
        obtain ⟨range, isRange, returned⟩ :=
          Prog.ofExcept_bind_eq_ok.mp returned
        obtain ⟨count, middle, isLoaded, returned⟩ :=
          Prog.bind_eq_ok.mp returned
        obtain ⟨startIs, stopIs⟩ := mappedRange_eq_ok isRange
        have below :=
          (accepted load (Image.loadsAmong_cons.mpr (Or.inl here))).below
        have aligned : range.1.toNat % 4096 = 0 := by
          rw [startIs, pagesStart]
          omega
        obtain ⟨adds, shown⟩ :=
          loadPages_eq_ok ready (by omega) aligned isLoaded
        rw [startIs, stopIs] at adds shown
        obtain ⟨restAdds, restShown⟩ :=
          inductionHypothesis adds.ready restAccepted returned
        have firstAmong :
            ∀ other,
              Between (pagesStart load bias) (pagesEnd load bias) other →
              PagesAmong image (index :: rest) bias other := by
          rintro other ⟨above, inside, isAligned⟩
          exact ⟨load, Image.loadsAmong_cons.mpr (Or.inl here),
            ⟨above, inside⟩, isAligned⟩
        refine ⟨(adds.mono firstAmong).trans (restAdds.mono restAmong), ?_⟩
        intro segment among
        rcases Image.loadsAmong_cons.mp among with first | there
        · obtain ⟨_, isIndex, found, _⟩ := first
          rw [List.mem_singleton] at isIndex
          rw [isIndex, isLoad] at found
          cases found
          rintro page ⟨⟨above, inside⟩, isAligned⟩
          exact (shown page ⟨above, inside, isAligned⟩).adds restAdds
        · exact restShown segment there

/-! ## The image in memory -/

/-- What `load_at` leaves in memory. -/
structure LoadedImage
    (image : Image)
    (bias : UInt64)
    (before after : Machine κ)
    (loaded : Loaded) : Prop where
  bytes :
    ∀ segment,
      image.IsLoad segment →
      ∀ address : UInt64,
        segmentStart segment bias ≤ address.toNat →
        address.toNat < segmentStart segment bias + segment.memsz.toNat →
        seenByte after.memory after.cr3 address =
          some
            (if address.toNat - segmentStart segment bias <
                segment.filesz.toNat then
              fileByte image.bytes
                (segment.offset.toNat +
                  (address.toNat - segmentStart segment bias))
            else
              0)
  padding :
    ∀ segment,
      image.IsLoad segment →
      ∀ address,
        InPages segment bias address →
        address.toNat < segmentStart segment bias ∨
          segmentStart segment bias + segment.memsz.toNat ≤ address.toNat →
        seenByte after.memory after.cr3 address = some 0
  mapped :
    ∀ segment,
      image.IsLoad segment →
      ∀ address,
        InPages segment bias address →
        ∃ mapping,
          translate after.memory after.cr3 address = some mapping ∧
            permits user after.memory after.cr3 address = true ∧
            mapping.flags.contains .user = true ∧
            (mapping.flags.contains .writable = true ↔
              segment.flags &&& pfW ≠ 0) ∧
            (mapping.flags.contains .noExecute = true ↔
              segment.flags &&& pfX = 0) ∧
            ∀ other otherMapping,
              translate after.memory after.cr3 other = some otherMapping →
              permits user after.memory after.cr3 other = true →
              ¬ SamePage other address →
              pageOf otherMapping.physicalAddress ≠
                pageOf mapping.physicalAddress
  start :
    IsLeast
      {bound | ∃ segment,
        image.IsLoad segment ∧ bound = pagesStart segment bias}
      loaded.start.toNat
  stop :
    IsGreatest
      {bound | ∃ segment,
        image.IsLoad segment ∧ bound = pagesEnd segment bias}
      loaded.stop.toNat
  pageBounds :
    (∀ segment,
        image.IsLoad segment →
        pagesStart segment bias < pagesEnd segment bias) →
    IsLeast
        {bound | ∃ segment page,
          image.IsLoad segment ∧
            PageOf segment bias page ∧ bound = page.toNat}
        loaded.start.toNat ∧
      IsGreatest
        {bound | ∃ segment page,
          image.IsLoad segment ∧
            PageOf segment bias page ∧ bound = page.toNat + 4096}
        loaded.stop.toNat
  elsewhere :
    ∀ address,
      (∀ segment, image.IsLoad segment → ¬ InPages segment bias address) →
      translate after.memory after.cr3 address =
        translate before.memory before.cr3 address

theorem pageOf_of_inPages
    {address : UInt64}
    (inside : InPages segment bias address) :
    PageOf segment bias (pageOf address) := by
  have first := toNat_pageOf address
  unfold InPages pagesStart at inside
  unfold PageOf InPages pagesStart
  omega

theorem inPages_of_samePage
    {address : UInt64}
    (isPage : PageOf segment bias page)
    (same : SamePage address page) :
    InPages segment bias address := by
  unfold SamePage at same
  unfold PageOf InPages pagesEnd at isPage
  unfold InPages pagesEnd
  omega

section

variable
  {address : UInt64}
  (shown :
    ∀ page,
      PageOf segment bias page →
      Shows allocate image segment bias page final)
  (inside : InPages segment bias address)

include shown inside

theorem seenByte_of_shows :
    seenByte final.memory final.cr3 address =
      some (segmentByte image segment bias address.toNat) := by
  have isPage := pageOf_of_inPages inside
  obtain ⟨frame, pageAt⟩ := shown _ isPage
  have samePage : SamePage address (pageOf address) :=
    (samePage_pageOf address).symm
  obtain ⟨offset, inPage, isAddress⟩ := samePage.exists_offset isPage.2
  rw [isAddress, seenByte_of_pageAt pageAt inPage,
    toNat_page_add isPage.2 inPage]

theorem mapped_of_shows :
    ∃ mapping,
      translate final.memory final.cr3 address = some mapping ∧
        permits user final.memory final.cr3 address = true ∧
        mapping.flags = (segmentFlags segment).union .present ∧
        ∀ other otherMapping,
          translate final.memory final.cr3 other = some otherMapping →
          permits user final.memory final.cr3 other = true →
          ¬ SamePage other address →
          pageOf otherMapping.physicalAddress ≠
            pageOf mapping.physicalAddress := by
  have isPage := pageOf_of_inPages inside
  obtain ⟨frame, pageAt⟩ := shown _ isPage
  have samePage : SamePage address (pageOf address) :=
    (samePage_pageOf address).symm
  obtain ⟨offset, inPage, isAddress⟩ := samePage.exists_offset isPage.2
  have found := pageAt.found offset inPage
  rw [← isAddress] at found
  refine ⟨_, found, ?_, rfl, ?_⟩
  · rw [samePage.permits]
    exact pageAt.permitted
  · intro other otherMapping otherFound permitted different
    rw [pageOf_frame_add pageAt.isFrame inPage]
    apply pageAt.own other otherMapping otherFound permitted
    intro same
    exact different (Eq.trans same samePage.symm)

end

theorem pageBounds_of_bounds
    {scan : Scan}
    (accepted :
      ∀ segment, image.IsLoad segment → Accepted segment bias scan)
    (start :
      ∃ segment,
        image.IsLoad segment ∧ scan.start.toNat = pagesStart segment bias)
    (stop :
      ∃ segment,
        image.IsLoad segment ∧ scan.stop.toNat = pagesEnd segment bias)
    (notEmpty :
      ∀ segment,
        image.IsLoad segment →
        pagesStart segment bias < pagesEnd segment bias) :
    IsLeast
        {bound | ∃ segment page,
          image.IsLoad segment ∧
            PageOf segment bias page ∧ bound = page.toNat}
        scan.start.toNat ∧
      IsGreatest
        {bound | ∃ segment page,
          image.IsLoad segment ∧
            PageOf segment bias page ∧ bound = page.toNat + 4096}
        scan.stop.toNat := by
  refine ⟨⟨?_, ?_⟩, ?_, ?_⟩
  · obtain ⟨segment, isLoad, isStart⟩ := start
    have some := notEmpty segment isLoad
    refine ⟨segment, scan.start, isLoad, ⟨⟨?_, ?_⟩, ?_⟩, rfl⟩
    · exact Nat.le_of_eq isStart.symm
    · omega
    · rw [isStart, pagesStart]
      omega
  · rintro bound ⟨segment, page, isLoad, ⟨⟨above, _⟩, _⟩, rfl⟩
    exact Nat.le_trans (accepted segment isLoad).start above
  · obtain ⟨segment, isLoad, isStop⟩ := stop
    have some := notEmpty segment isLoad
    have ofStop := scan.stop.toNat_lt
    have last : (scan.stop - 4096).toNat = scan.stop.toNat - 4096 := by
      apply UInt64.toNat_sub_of_le
      rw [UInt64.le_iff_toNat_le]
      unfold pagesEnd at isStop some
      change 4096 ≤ scan.stop.toNat
      omega
    refine ⟨segment, scan.stop - 4096, isLoad, ⟨⟨?_, ?_⟩, ?_⟩, ?_⟩
    all_goals
      rw [last, isStop]
      unfold pagesStart pagesEnd at *
      omega
  · rintro bound ⟨segment, page, isLoad, ⟨⟨_, inside⟩, aligned⟩, rfl⟩
    have atMost := (accepted segment isLoad).stop
    unfold pagesEnd at inside atMost
    omega

/-- `load_at` leaves the image in memory. -/
theorem load_image
    {κ : Type}
    (allocate : Allocate κ)
    (image : Image)
    (physicalOffset bias : UInt64)
    (before after : Machine κ)
    (loaded : Loaded)
    (tables : TableWellFormed before.memory before.cr3)
    (unused : Unused allocate before)
    (returned :
      loadAt allocate image physicalOffset bias before = .ok loaded after) :
    LoadedImage image bias before after loaded := by
  obtain ⟨scan, isScan, returned⟩ := Prog.ofExcept_bind_eq_ok.mp returned
  split at returned
  · cases returned
  · rename_i counted
    obtain ⟨pages, middle, isLoaded, returned⟩ := Prog.bind_eq_ok.mp returned
    obtain ⟨entry, _, returned⟩ := Prog.ofExcept_bind_eq_ok.mp returned
    cases returned
    have further := scanSegments_further isScan
    have accepted :
        ∀ segment, image.IsLoad segment → Accepted segment bias scan :=
      further.accepted
    obtain ⟨adds, shown⟩ :=
      loadSegments_eq_ok ⟨tables, unused⟩ further.accepted isLoaded
    obtain ⟨first, isFirst⟩ := further.counted counted
    have ofFirst := accepted first isFirst
    have start :
        ∃ segment,
          image.IsLoad segment ∧
            scan.start.toNat = pagesStart segment bias := by
      rcases further.startFrom with initial | found
      · have atStart := ofFirst.start
        have below := ofFirst.below
        rw [initial] at atStart
        have top : 2 ^ 64 - 1 ≤ pagesStart first bias := atStart
        unfold pagesStart at top
        unfold pagesEnd at below
        omega
      · exact found
    have stop :
        ∃ segment,
          image.IsLoad segment ∧ scan.stop.toNat = pagesEnd segment bias := by
      rcases further.stopFrom with initial | found
      · refine ⟨first, isFirst, ?_⟩
        have atStop := ofFirst.stop
        rw [initial] at atStop ⊢
        exact (Nat.le_zero.mp atStop).symm
      · exact found
    constructor
    · intro segment isLoad address above inside
      have sizes := (accepted segment isLoad).sizes
      have inPages : InPages segment bias address := by
        unfold InPages pagesStart pagesEnd
        omega
      rw [seenByte_of_shows (shown segment isLoad) inPages, segmentByte]
      congr 1
      by_cases inFile :
          address.toNat - segmentStart segment bias < segment.filesz.toNat
      · rw [if_pos inFile, if_pos (by omega)]
      · rw [if_neg inFile, if_neg (by omega)]
    · intro segment isLoad address inPages outside
      have sizes := (accepted segment isLoad).sizes
      rw [seenByte_of_shows (shown segment isLoad) inPages,
        segmentByte_of_outside]
      omega
    · intro segment isLoad address inPages
      obtain ⟨mapping, found, permitted, flags, own⟩ :=
        mapped_of_shows (shown segment isLoad) inPages
      obtain ⟨isUser, writable, noExecute⟩ := contains_segmentFlags segment
      rw [← flags] at isUser writable noExecute
      exact ⟨mapping, found, permitted, isUser, writable, noExecute, own⟩
    · refine ⟨start, ?_⟩
      rintro bound ⟨segment, isLoad, rfl⟩
      exact (accepted segment isLoad).start
    · refine ⟨stop, ?_⟩
      rintro bound ⟨segment, isLoad, rfl⟩
      exact (accepted segment isLoad).stop
    · exact pageBounds_of_bounds accepted start stop
    · intro address apart
      apply adds.elsewhere
      rintro page ⟨segment, isLoad, isPage⟩ same
      exact apart segment isLoad (inPages_of_samePage isPage same)

/-! ## Two segments, one of them without a page -/

/-- The first bytes of a number, the lowest first. -/
def leList (value : UInt64) (width : Nat) : List UInt8 :=
  (List.range width).map (leByte value)

/-- The bytes of a program header of type `PT_LOAD`. -/
def loadHeader (flags vaddr filesz memsz : UInt64) : List UInt8 :=
  leList 1 4 ++ leList flags 4 ++ leList 0 8 ++ leList vaddr 8 ++
    leList vaddr 8 ++ leList filesz 8 ++ leList memsz 8 ++ leList 4096 8

/-- An executable with an empty segment below a segment of five bytes. -/
def sampleFile : List UInt8 :=
  [0x7f, 0x45, 0x4c, 0x46, 2, 1, 1] ++ leList 0 9 ++ leList 2 2 ++
    leList 0x3e 2 ++ leList 1 4 ++ leList 0x401000 8 ++ leList 64 8 ++
    leList 0 12 ++ leList 64 2 ++ leList 56 2 ++ leList 2 2 ++ leList 0 6 ++
    loadHeader 4 0x400000 0 0 ++ loadHeader 6 0x401000 3 5

/-- `sampleFile` with its header. -/
def sampleImage : Image where
  bytes := sampleFile
  header := ⟨2, 0x3e, 1, 0x401000, 64, 2, 56⟩

theorem exists_loaded_sample :
    ∃ final,
      loadAt FrameAllocator.allocate sampleImage 0 0 emptyTables =
        .ok ⟨0x401000, 0, 0x400000, 0x402000, 2, 1⟩ final :=
  Prog.eq_ok_of_value? (by decide +kernel)

theorem sampleImage_phdr :
    sampleImage.phdr 0 = .ok ⟨1, 4, 0, 0x400000, 0x400000, 0, 0, 4096⟩ ∧
      sampleImage.phdr 1 = .ok ⟨1, 6, 0, 0x401000, 0x401000, 3, 5, 4096⟩ := by
  decide +kernel

/-- The start that is reported need not be that of a page. -/
theorem start_without_page :
    ∃ loaded final,
      Image.parse sampleFile = .ok sampleImage ∧
        TableWellFormed emptyTables.memory emptyTables.cr3 ∧
        Unused FrameAllocator.allocate emptyTables ∧
        loadAt FrameAllocator.allocate sampleImage 0 0 emptyTables =
          .ok loaded final ∧
        ¬ IsLeast
            {bound | ∃ segment page,
              sampleImage.IsLoad segment ∧
                PageOf segment 0 page ∧ bound = page.toNat}
            loaded.start.toNat := by
  obtain ⟨final, returned⟩ := exists_loaded_sample
  refine ⟨_, final, by decide +kernel, tableWellFormed_emptyTables,
    unused_emptyTables, returned, ?_⟩
  rintro ⟨⟨segment, page, ⟨index, among, found, _⟩, ⟨inPages, _⟩, same⟩, _⟩
  obtain ⟨first, second⟩ := sampleImage_phdr
  have isIndex : index = 0 ∨ index = 1 := by
    have below : index < 2 := List.mem_range.mp among
    omega
  rcases isIndex with rfl | rfl
  · rw [first] at found
    cases found
    have noPage :
        pagesStart ⟨1, 4, 0, 0x400000, 0x400000, 0, 0, 4096⟩ 0 =
          pagesEnd ⟨1, 4, 0, 0x400000, 0x400000, 0, 0, 4096⟩ 0 := by
      decide
    have inside := Nat.lt_of_le_of_lt inPages.1 inPages.2
    rw [noPage] at inside
    exact Nat.lt_irrefl _ inside
  · rw [second] at found
    cases found
    have above :
        0x400000 < pagesStart ⟨1, 6, 0, 0x401000, 0x401000, 3, 5, 4096⟩ 0 := by
      decide
    have atStart : (0x400000 : UInt64).toNat = page.toNat := same
    have inside := inPages.1
    rw [← atStart] at inside
    exact absurd inside (Nat.not_le.mpr above)

/-- The sample is loaded as its segments say. -/
theorem load_sample :
    ∃ loaded final,
      LoadedImage sampleImage 0 emptyTables final loaded := by
  obtain ⟨final, returned⟩ := exists_loaded_sample
  exact ⟨_, final,
    load_image FrameAllocator.allocate sampleImage 0 0 emptyTables final _
      tableWellFormed_emptyTables unused_emptyTables returned⟩

end VibuxOS.Elf
