import VibuxOS.Elf.ImageRange
import VibuxOS.UserSpace.ExecReset

namespace VibuxOS.Elf

open VibuxOS.Lib
open VibuxOS.Paging
open VibuxOS.UserSpace

/-!
# Loading over a cleared address space

`exec_program` clears the ranges of the new program and of its interpreter and
loads the two images after it.  The loader reports a page that is mapped already
for a page of a segment only; so the pages it will touch have to be unmapped
when it comes to them, and its own new pages have to lie elsewhere.
-/

/-- The error does not say that a page is mapped. -/
def OtherError (error : Error) : Prop :=
  ∀ page, error ≠ .pageAlreadyMapped page

/-- Two segments to load of an image, at other indexes, share a page. -/
def SharesPage (image : Image) (bias : UInt64) : Prop :=
  ∃ first second firstSegment secondSegment page,
    first ≠ second ∧
      image.phdr first = .ok firstSegment ∧
      firstSegment.kind = ptLoad ∧
      image.phdr second = .ok secondSegment ∧
      secondSegment.kind = ptLoad ∧
      PageOf firstSegment bias page ∧
      PageOf secondSegment bias page

/-- Two ranges have an address in common. -/
def RangesOverlap (left right : UInt64 × UInt64) : Prop :=
  ∃ address, InRange left.1 left.2 address ∧ InRange right.1 right.2 address

variable
  {κ : Type}
  {allocate : Allocate κ}
  {image : Image}
  {segment : ProgramHeader}
  {bias physicalOffset page : UInt64}
  {machine final : Machine κ}

/-! ## Errors that have nothing to do with mapped pages -/

section Errors

variable {α β : Type}

/-- A check never fails because of a page that is mapped. -/
def Checks (result : Except Error α) : Prop :=
  ∀ error, result = .error error → OtherError error

namespace Checks

theorem ok (value : α) : Checks (.ok value) := nofun

theorem error
    {error : Error}
    (other : OtherError error) :
    Checks (.error error : Except Error α) := by
  rintro _ ⟨⟩
  exact other

theorem okOr
    {error : Error}
    (other : OtherError error)
    (value : Option α) :
    Checks (okOr error value) := by
  cases value with
  | none => exact .error other
  | some value => exact .ok value

theorem bind
    {first : Except Error α}
    {next : α → Except Error β}
    (firstChecks : Checks first)
    (nextChecks : ∀ value, Checks (next value)) :
    Checks (first >>= next) := by
  cases first with
  | ok value => exact nextChecks value
  | error error => exact .error (firstChecks error rfl)

theorem ite
    {condition : Prop}
    [Decidable condition]
    {yes no : Except Error α}
    (yesChecks : Checks yes)
    (noChecks : Checks no) :
    Checks (if condition then yes else no) := by
  split
  · exact yesChecks
  · exact noChecks

end Checks

theorem checks_addAddress (left right : UInt64) :
    Checks (addAddress left right) :=
  .okOr (by rintro _ ⟨⟩) _

theorem checks_phdr (image : Image) (index : Nat) :
    Checks (image.phdr index) := by
  unfold Image.phdr
  exact .ite (.error fun _ => nofun) (.ite (.error fun _ => nofun) (.okOr (by rintro _ ⟨⟩) _))

theorem checks_bytesAt (image : Image) (offset length : UInt64) :
    Checks (image.bytesAt offset length) := by
  unfold Image.bytesAt
  exact .ite (.error fun _ => nofun) (.ok _)

theorem checks_validateSegment (image : Image) (segment : ProgramHeader) :
    Checks (validateSegment image segment) := by
  unfold validateSegment
  refine .ite (.error fun _ => nofun) (.ite (.error fun _ => nofun) ?_)
  refine .bind (checks_bytesAt _ _ _) fun _ => ?_
  exact .bind (checks_addAddress _ _) fun _ => .ok _

theorem checks_mappedRange (segment : ProgramHeader) (bias : UInt64) :
    Checks (mappedRange segment bias) := by
  unfold mappedRange
  refine .bind (checks_addAddress _ _) fun start => ?_
  refine .bind (checks_addAddress _ _) fun size => ?_
  refine .bind (checks_addAddress _ _) fun rawEnd => ?_
  exact .bind (.okOr (by rintro _ ⟨⟩) _) fun mappedEnd => .ok _

theorem checks_scanSegment
    (image : Image)
    (bias : UInt64)
    (index : Nat)
    (scan : Scan) :
    Checks (scanSegment image bias index scan) := by
  unfold scanSegment
  refine .bind (checks_phdr image index) fun segment => ?_
  refine .ite (.ok _) (.ite (.error fun _ => nofun) ?_)
  refine .bind (checks_validateSegment image segment) fun _ => ?_
  refine .bind (checks_mappedRange segment bias) fun range => ?_
  exact .ite (.error fun _ => nofun) (.ok _)

theorem checks_scanSegments
    (image : Image)
    (bias : UInt64)
    (indexes : List Nat)
    (scan : Scan) :
    Checks (scanSegments image bias indexes scan) := by
  induction indexes generalizing scan with
  | nil =>
      exact .ok _
  | cons index rest inductionHypothesis =>
      exact .bind (checks_scanSegment image bias index scan) inductionHypothesis

theorem raises_populate
    (image : Image)
    (segment : ProgramHeader)
    (bias page physicalOffset frame : UInt64) :
    Prog.Raises OtherError
      (populate image segment bias page physicalOffset frame :
        Kernel κ Error Unit) := by
  have adds :=
    fun left right =>
      @Prog.Raises.ofExcept (Machine κ) Error UInt64 OtherError _
        (checks_addAddress left right)
  unfold populate
  refine .bind (adds _ _) fun start => ?_
  refine .bind (adds _ _) fun fileEnd => ?_
  refine .bind (adds _ _) fun pageEnd => ?_
  refine .bind (adds _ _) fun _ => ?_
  refine .bind (.modify _) fun _ => ?_
  refine .ite (.pure _) ?_
  refine .bind (adds _ _) fun sourceOffset => ?_
  exact .bind (.ofExcept (checks_bytesAt _ _ _)) fun source => .modify _

end Errors

/-! ## The second pass over unmapped pages -/

theorem loadPage_other
    (unmapped : translate machine.memory machine.cr3 page = none)
    {error : Error}
    (failed :
      loadPage allocate image segment bias physicalOffset page machine =
        .err error final) :
    OtherError error := by
  rw [loadPage, Prog.gets_bind_apply, unmapped] at failed
  rcases Prog.bind_eq_err.mp failed with
    noFrame | ⟨frame, middle, _, failed⟩
  · cases noFrame
  · cases frame with
    | none =>
        cases failed
        exact nofun
    | some physical =>
        have raises :=
          @Prog.Raises.bind _ _ _ _ OtherError
            (Prog.mapError (fun _ => Error.mappingFailed)
              (map4k allocate page physical (segmentFlags segment)))
            (fun _ => populate image segment bias page physicalOffset physical)
            (.mapError _ fun _ _ => nofun) fun _ =>
              raises_populate image segment bias page physicalOffset physical
        exact raises middle error final failed

section

variable (ready : Ready allocate machine)

include ready

theorem loadPages_other
    {mappedEnd : UInt64}
    {fuel pages : Nat}
    (below : mappedEnd.toNat ≤ 2 ^ 47)
    (aligned : page.toNat % 4096 = 0)
    (unmapped :
      ∀ other,
        Between page.toNat mappedEnd.toNat other →
        translate machine.memory machine.cr3 other = none)
    {error : Error}
    (failed :
      loadPages allocate image segment bias physicalOffset mappedEnd fuel page
          pages machine =
        .err error final) :
    OtherError error := by
  induction fuel generalizing page pages machine with
  | zero =>
      cases failed
  | succ fuel inductionHypothesis =>
      rw [loadPages] at failed
      split at failed
      · rename_i inRange
        rw [UInt64.lt_iff_toNat_lt] at inRange
        have here := unmapped page ⟨Nat.le_refl _, inRange, aligned⟩
        rcases Prog.bind_eq_err.mp failed with
          notLoaded | ⟨_, middle, isLoaded, failed⟩
        · exact loadPage_other here notLoaded
        · obtain ⟨adds, _⟩ :=
            loadPage_eq_ok ready (by omega) aligned isLoaded
          rcases Prog.ofExcept_bind_eq_err failed with
            overflow | ⟨next, isNext, failed⟩
          · exact checks_addAddress _ _ _ overflow
          · have nextIs : next.toNat = page.toNat + 4096 :=
              toNat_of_addAddress isNext
            refine inductionHypothesis adds.ready (by omega) ?_ failed
            rintro other ⟨above, inside, isAligned⟩
            rw [adds.elsewhere other]
            · exact unmapped other ⟨by omega, inside, isAligned⟩
            · rintro _ rfl same
              unfold SamePage at same
              omega
      · cases failed

/-- The second pass reports no page when those of its segments are unmapped. -/
theorem loadSegments_other
    {indexes : List Nat}
    {pages : Nat}
    {scan : Scan}
    (apart : ¬ SharesPage image bias)
    (nodup : indexes.Nodup)
    (accepted :
      ∀ segment, image.LoadsAmong indexes segment → Accepted segment bias scan)
    (unmapped :
      ∀ page,
        PagesAmong image indexes bias page →
        translate machine.memory machine.cr3 page = none)
    {error : Error}
    (failed :
      loadSegments allocate image bias physicalOffset indexes pages machine =
        .err error final) :
    OtherError error := by
  induction indexes generalizing pages machine with
  | nil =>
      cases failed
  | cons index rest inductionHypothesis =>
      obtain ⟨notAmong, restNodup⟩ := List.nodup_cons.mp nodup
      have restAccepted :
          ∀ other,
            image.LoadsAmong rest other → Accepted other bias scan :=
        fun other among =>
          accepted other (Image.loadsAmong_cons.mpr (.inr among))
      have restUnmapped :
          ∀ other,
            PagesAmong image rest bias other →
            translate machine.memory machine.cr3 other = none := by
        rintro other ⟨load, among, isPage⟩
        exact
          unmapped other
            ⟨load, Image.loadsAmong_cons.mpr (.inr among), isPage⟩
      rcases Prog.ofExcept_bind_eq_err failed with
        notRead | ⟨load, isLoad, failed⟩
      · exact checks_phdr _ _ _ notRead
      · split at failed
        · exact
            inductionHypothesis ready restNodup restAccepted restUnmapped
              failed
        · rename_i isKind
          rw [not_not] at isKind
          have here : image.LoadsAmong (index :: rest) load :=
            ⟨index, List.mem_cons_self, isLoad, isKind⟩
          rcases Prog.ofExcept_bind_eq_err failed with
            overflow | ⟨range, isRange, failed⟩
          · exact checks_mappedRange _ _ _ overflow
          · obtain ⟨startIs, stopIs⟩ := mappedRange_eq_ok isRange
            have below := (accepted load here).below
            have aligned : range.1.toNat % 4096 = 0 := by
              rw [startIs, pagesStart]
              omega
            have isPageOf :
                ∀ other,
                  Between range.1.toNat range.2.toNat other →
                  PageOf load bias other := by
              rintro other ⟨above, inside, isAligned⟩
              rw [startIs] at above
              rw [stopIs] at inside
              exact ⟨⟨above, inside⟩, isAligned⟩
            have hereUnmapped :
                ∀ other,
                  Between range.1.toNat range.2.toNat other →
                  translate machine.memory machine.cr3 other = none :=
              fun other among => unmapped other ⟨load, here, isPageOf other among⟩
            rcases Prog.bind_eq_err.mp failed with
              notLoaded | ⟨count, middle, isLoaded, failed⟩
            · exact
                loadPages_other ready (by omega) aligned hereUnmapped notLoaded
            · obtain ⟨adds, _⟩ :=
                loadPages_eq_ok ready (by omega) aligned isLoaded
              refine
                inductionHypothesis adds.ready restNodup restAccepted ?_ failed
              -- what was just mapped is not a page of the later segments
              rintro other ⟨next, ⟨later, among, found, nextKind⟩, isPage⟩
              rw [adds.elsewhere other]
              · exact
                  restUnmapped other
                    ⟨next, ⟨later, among, found, nextKind⟩, isPage⟩
              · intro page among' same
                have samePage : page = other := by
                  have otherAligned := isPage.2
                  have pageAligned := among'.2.2
                  unfold SamePage at same
                  apply UInt64.toNat_inj.mp
                  omega
                subst samePage
                refine
                  apart
                    ⟨index, later, load, next, page, ?_, isLoad, isKind, found,
                      nextKind, isPageOf page among', isPage⟩
                rintro rfl
                exact notAmong among

theorem loadAt_other
    (apart : ¬ SharesPage image bias)
    (unmapped :
      ∀ scan page,
        scanSegments image bias (List.range image.header.phnum.toNat)
            ⟨0, 0xffffffffffffffff, 0⟩ =
          .ok scan →
        PagesAmong image (List.range image.header.phnum.toNat) bias page →
        translate machine.memory machine.cr3 page = none)
    {error : Error}
    (failed :
      loadAt allocate image physicalOffset bias machine = .err error final) :
    OtherError error := by
  rcases Prog.ofExcept_bind_eq_err failed with
    notScanned | ⟨scan, isScan, failed⟩
  · exact checks_scanSegments _ _ _ _ _ notScanned
  · split at failed
    · cases failed
      exact fun _ => nofun
    · rcases Prog.bind_eq_err.mp failed with
        notLoaded | ⟨pages, last, _, failed⟩
      · exact
          loadSegments_other ready apart List.nodup_range
            (scanSegments_further isScan).accepted
            (fun page => unmapped scan page isScan) notLoaded
      · rcases Prog.ofExcept_bind_eq_err failed with
          overflow | ⟨entry, _, returned⟩
        · exact checks_addAddress _ _ _ overflow
        · cases returned

/-! ## Two images -/

omit ready in
theorem unmapped_of_rangeGone
    {range : UInt64 × UInt64}
    {scan : Scan}
    (isRange : imageRange image bias = some range)
    (gone : RangeGone range.1 range.2 machine)
    (isScan :
      scanSegments image bias (List.range image.header.phnum.toNat)
          ⟨0, 0xffffffffffffffff, 0⟩ =
        .ok scan)
    (among :
      PagesAmong image (List.range image.header.phnum.toNat) bias page) :
    translate machine.memory machine.cr3 page = none := by
  obtain ⟨load, isLoad, ⟨above, inside⟩, aligned⟩ := among
  obtain ⟨start, stop, limit⟩ := scanned_of_imageRange isRange isScan isLoad
  have first := toNat_pageOf range.1
  have below : page < userLimit := by
    rw [UInt64.lt_iff_toNat_lt]
    exact Nat.lt_of_lt_of_le inside limit
  have within : page < range.2 := by
    rw [UInt64.lt_iff_toNat_lt]
    omega
  refine gone page ⟨?_, lt_unmapStop below within⟩ below
  rw [UInt64.le_iff_toNat_le]
  omega

theorem adds_of_loadAt
    {loaded : Loaded}
    (returned :
      loadAt allocate image physicalOffset bias machine = .ok loaded final) :
    (∃ scan,
        scanSegments image bias (List.range image.header.phnum.toNat)
            ⟨0, 0xffffffffffffffff, 0⟩ =
          .ok scan) ∧
      Adds allocate
          (PagesAmong image (List.range image.header.phnum.toNat) bias) machine
          final ∧
        ∀ segment,
          image.IsLoad segment →
          ∀ page,
            PageOf segment bias page →
            Shows allocate image segment bias page final := by
  obtain ⟨scan, isScan, returned⟩ := Prog.ofExcept_bind_eq_ok.mp returned
  split at returned
  · cases returned
  · obtain ⟨pages, middle, isLoaded, returned⟩ := Prog.bind_eq_ok.mp returned
    obtain ⟨entry, _, returned⟩ := Prog.ofExcept_bind_eq_ok.mp returned
    cases returned
    exact
      ⟨⟨scan, isScan⟩,
        loadSegments_eq_ok ready (scanSegments_further isScan).accepted
          isLoaded⟩

omit ready in
theorem inRange_of_pagesAmong
    {range : UInt64 × UInt64}
    {scan : Scan}
    (isRange : imageRange image bias = some range)
    (isScan :
      scanSegments image bias (List.range image.header.phnum.toNat)
          ⟨0, 0xffffffffffffffff, 0⟩ =
        .ok scan)
    (among :
      PagesAmong image (List.range image.header.phnum.toNat) bias page) :
    InRange range.1 range.2 page := by
  obtain ⟨load, isLoad, ⟨above, inside⟩, aligned⟩ := among
  obtain ⟨start, stop, _⟩ := scanned_of_imageRange isRange isScan isLoad
  unfold InRange
  rw [UInt64.le_iff_toNat_le, UInt64.lt_iff_toNat_lt]
  omega

theorem loadAt_after_reset
    {range : UInt64 × UInt64}
    (isRange : imageRange image bias = some range)
    (apart : ¬ SharesPage image bias)
    (gone : RangeGone range.1 range.2 machine)
    (page : UInt64)
    (final : Machine κ) :
    loadAt allocate image physicalOffset bias machine ≠
      .err (.pageAlreadyMapped page) final := by
  intro failed
  refine loadAt_other ready apart ?_ failed page rfl
  exact fun _ _ isScan among => unmapped_of_rangeGone isRange gone isScan among

theorem loadAt_after_loadAt
    {main rtld : Image}
    {mainBase rtldBase : UInt64}
    {mainRange rtldRange : UInt64 × UInt64}
    {loaded : Loaded}
    {middle : Machine κ}
    (isMain : imageRange main mainBase = some mainRange)
    (isRtld : imageRange rtld rtldBase = some rtldRange)
    (apart : ¬ SharesPage rtld rtldBase)
    (rangesApart : ¬ RangesOverlap mainRange rtldRange)
    (gone : RangeGone rtldRange.1 rtldRange.2 machine)
    (returned :
      loadAt allocate main physicalOffset mainBase machine =
        .ok loaded middle)
    (page : UInt64)
    (final : Machine κ) :
    loadAt allocate rtld physicalOffset rtldBase middle ≠
      .err (.pageAlreadyMapped page) final := by
  intro failed
  obtain ⟨⟨mainScan, isMainScan⟩, adds, _⟩ := adds_of_loadAt ready returned
  refine loadAt_other adds.ready apart ?_ failed page rfl
  intro scan page isScan among
  rw [adds.elsewhere page]
  · exact unmapped_of_rangeGone isRtld gone isScan among
  · intro other mainAmong same
    have samePage : other = page := by
      obtain ⟨_, _, _, aligned⟩ := among
      obtain ⟨_, _, _, otherAligned⟩ := mainAmong
      unfold SamePage at same
      apply UInt64.toNat_inj.mp
      omega
    subst samePage
    exact
      rangesApart
        ⟨other, inRange_of_pagesAmong isMain isMainScan mainAmong,
          inRange_of_pagesAmong isRtld isScan among⟩

end

/-- The range of an image, its cleanup and its loading fit together. -/
theorem exec_ranges_fit
    {κ : Type}
    (allocate : Allocate κ)
    (physicalOffset : UInt64) :
    (∀ image bias range machine loaded final,
        imageRange image bias = some range →
        loadAt allocate image physicalOffset bias machine =
          .ok loaded final →
        (loaded.start, loaded.stop) = range) ∧
      ∀ main rtld mainBase rtldBase mainRange rtldRange,
        imageRange main mainBase = some mainRange →
        imageRange rtld rtldBase = some rtldRange →
        ¬ SharesPage main mainBase →
        ¬ SharesPage rtld rtldBase →
        ¬ RangesOverlap mainRange rtldRange →
        ∀ (space : Space κ) (stackBottom stackTop tlsPage : UInt64),
          Ready allocate space.machine →
          NoLargePages space.machine →
          ∃ cleared,
            (resetProcessForExec mainRange.1 mainRange.2 rtldRange.1
                    rtldRange.2 stackBottom stackTop tlsPage :
                  Prog (Space κ) Error Unit)
                space =
                .ok () cleared ∧
              (∀ page final,
                loadAt allocate main physicalOffset mainBase cleared.machine ≠
                  .err (.pageAlreadyMapped page) final) ∧
              ∀ loaded middle,
                loadAt allocate main physicalOffset mainBase cleared.machine =
                  .ok loaded middle →
                ∀ page final,
                  loadAt allocate rtld physicalOffset rtldBase middle ≠
                    .err (.pageAlreadyMapped page) final := by
  refine ⟨fun image bias range machine loaded final => loadAt_bounds, ?_⟩
  intro main rtld mainBase rtldBase mainRange rtldRange isMain isRtld
    mainApart rtldApart rangesApart space stackBottom stackTop tlsPage ready
    small
  obtain ⟨machine, returned, removes, gone⟩ :=
    @resetProcessForExec_spec κ Error allocate space ready mainRange.1
      mainRange.2 rtldRange.1 rtldRange.2 stackBottom stackTop tlsPage
  obtain ⟨mainGone, rtldGone⟩ := gone small
  refine ⟨_, returned, ?_, ?_⟩
  · exact loadAt_after_reset removes.ready isMain mainApart mainGone
  · intro loaded middle isLoaded
    exact
      loadAt_after_loadAt removes.ready isMain isRtld rtldApart rangesApart
        rtldGone isLoaded

theorem not_sharesPage_sampleImage
    {bias : UInt64}
    (aligned : bias.toNat % 4096 = 0) :
    ¬ SharesPage sampleImage bias := by
  obtain ⟨zero, _⟩ := sampleImage_phdr
  have below :
      ∀ index segment, sampleImage.phdr index = .ok segment → index < 2 := by
    intro index segment found
    by_contra beyond
    have outside : sampleImage.header.phnum.toNat ≤ index :=
      Nat.not_lt.mp beyond
    rw [Image.phdr, if_pos outside] at found
    cases found
  have noPage :
      ∀ segment page,
        sampleImage.phdr 0 = .ok segment →
        ¬ PageOf segment bias page := by
    rintro segment page found ⟨⟨above, inside⟩, _⟩
    rw [zero] at found
    cases found
    have start : (0x400000 : UInt64).toNat = 4194304 := rfl
    have size : (0 : UInt64).toNat = 0 := rfl
    unfold pagesStart segmentStart at above
    unfold pagesEnd segmentStart at inside
    dsimp only at above inside
    rw [start] at above inside
    rw [size] at inside
    omega
  rintro ⟨first, second, firstSegment, secondSegment, page, different,
    isFirst, _, isSecond, _, firstHas, secondHas⟩
  have firstBelow := below first _ isFirst
  have secondBelow := below second _ isSecond
  have eitherZero : first = 0 ∨ second = 0 := by
    omega
  rcases eitherZero with rfl | rfl
  · exact noPage _ _ isFirst firstHas
  · exact noPage _ _ isSecond secondHas

/-- A process that has mapped nothing. -/
def sampleSpace : Space FrameAllocator where
  machine := emptyTables
  nextMmap := mmapBase
  brk := heapBase

/-- The sample is loaded twice, as a program and as its interpreter. -/
theorem exec_ranges_fit_sample :
    ∃ cleared loaded middle,
      (resetProcessForExec 0x400000 0x402000 0x500000400000 0x500000402000
              0x7efffffc0000 0x7f0000000000 0x5fff00000000 :
            Prog (Space FrameAllocator) Error Unit)
          sampleSpace =
          .ok () cleared ∧
        loadAt FrameAllocator.allocate sampleImage 0 0 cleared.machine =
          .ok loaded middle ∧
        (loaded.start, loaded.stop) = (0x400000, 0x402000) ∧
        ∀ page final,
          loadAt FrameAllocator.allocate sampleImage 0 0x500000000000 middle ≠
            .err (.pageAlreadyMapped page) final := by
  have isMain : imageRange sampleImage 0 = some (0x400000, 0x402000) := by
    decide +kernel
  have isRtld :
      imageRange sampleImage 0x500000000000 =
        some (0x500000400000, 0x500000402000) := by
    decide +kernel
  have apart :
      ¬ RangesOverlap (0x400000, 0x402000)
          (0x500000400000, 0x500000402000) := by
    rintro ⟨address, ⟨_, before⟩, after, _⟩
    exact absurd (UInt64.lt_of_le_of_lt after before) (by decide)
  have small : NoLargePages sampleSpace.machine := by
    intro address _ mapped
    rw [Mapped, sampleSpace, translate_emptyTables] at mapped
    cases mapped
  have runs :
      ∃ final,
        (do
            resetProcessForExec 0x400000 0x402000 0x500000400000
              0x500000402000 0x7efffffc0000 0x7f0000000000 0x5fff00000000
            onMachine (loadAt FrameAllocator.allocate sampleImage 0 0) :
            Prog (Space FrameAllocator) Error Loaded)
            sampleSpace =
          .ok ⟨0x401000, 0, 0x400000, 0x402000, 2, 1⟩ final :=
    Prog.eq_ok_of_value? (by decide +kernel)
  have fits := exec_ranges_fit FrameAllocator.allocate 0
  obtain ⟨cleared, returned, _, later⟩ :=
    fits.2 sampleImage sampleImage 0 0x500000000000 _ _ isMain isRtld
      (not_sharesPage_sampleImage (by decide))
      (not_sharesPage_sampleImage (by decide)) apart sampleSpace
      0x7efffffc0000 0x7f0000000000 0x5fff00000000 ready_emptyTables small
  obtain ⟨final, loads⟩ := runs
  rw [Prog.bind_of_ok returned] at loads
  obtain ⟨middle, isLoaded, _⟩ := Prog.onPart_eq_ok.mp loads
  exact
    ⟨cleared, _, middle, returned, isLoaded,
      fits.1 _ _ _ _ _ _ isMain isLoaded, later _ middle isLoaded⟩

end VibuxOS.Elf
