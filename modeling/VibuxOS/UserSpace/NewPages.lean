import VibuxOS.Paging.MapProgress
import VibuxOS.UserSpace.PageLoops

namespace VibuxOS.UserSpace

open VibuxOS.Lib VibuxOS.Paging

/-!
# Ranges of new pages

`mmap` and `brk` give the pages of a range new frames, one after the other.  No
later page takes the frame of an earlier one, so when the loop is done every page
of the range has a frame of its own with the bytes that it was given.
-/

variable
  {κ : Type}
  {allocate : Allocate κ}
  {flags : PageFlags}
  {start machine before after : Machine κ}

/-- A page has a new frame, whatever it had before. -/
structure PageGiven
    (allocate : Allocate κ)
    (flags : PageFlags)
    (page : UInt64)
    (bytes : Nat → UInt8)
    (before after : Machine κ) : Prop where
  changes : Changes allocate (SamePage · page) before after
  below : page < userLimit
  here :
    ∃ frame,
      Drawn allocate frame before after ∧
        PageAt allocate page frame flags bytes after

theorem NewPage.given
    {page : UInt64}
    {bytes : Nat → UInt8}
    (made : NewPage allocate page flags bytes before after) :
    PageGiven allocate flags page bytes before after :=
  ⟨made.changes, made.below, made.here⟩

/-- The pages of a range have new frames. -/
structure PagesGiven
    (allocate : Allocate κ)
    (flags : PageFlags)
    (bytes : UInt64 → Nat → UInt8)
    (first : UInt64)
    (start : Machine κ)
    (reached : UInt64)
    (machine : Machine κ) : Prop where
  changes : Changes allocate (InRange first reached) start machine
  pages :
    ∀ page,
      IsPage page →
      InRange first reached page →
      page < userLimit ∧
        ∃ frame,
          Drawn allocate frame start machine ∧
            PageAt allocate page frame flags (bytes page) machine

namespace PagesGiven

variable {bytes : UInt64 → Nat → UInt8} {first page stop : UInt64}

theorem refl
    (ready : Ready allocate start)
    (first : UInt64) :
    PagesGiven allocate flags bytes first start first start where
  changes := Changes.refl ready _
  pages _ _ inside := absurd inside (not_inRange_self _ _)

theorem next
    (isUser : flags.contains .user = true)
    (stopIsPage : IsPage stop)
    (isPage : IsPage page)
    (inside : InRange first stop page)
    (given : PagesGiven allocate flags bytes first start page machine)
    (isGiven : PageGiven allocate flags page (bytes page) machine after) :
    PagesGiven allocate flags bytes first start (page + pageSize) after := by
  have steps :=
    fun address =>
      @inRange_nextPage first stop page address inside.1 isPage stopIsPage
        inside.2
  constructor
  · apply (given.changes.mono _).trans (isGiven.changes.mono _)
    · exact fun other isBefore => (steps other).mpr (.inl isBefore)
    · exact fun other same => (steps other).mpr (.inr same)
  · intro other otherIsPage isInside
    by_cases same : SamePage other page
    · have here : other = page := by
        unfold SamePage at same
        unfold IsPage at isPage otherIsPage
        apply UInt64.toNat_inj.mp
        omega
      subst here
      obtain ⟨frame, isDrawn, isAt⟩ := isGiven.here
      exact
        ⟨isGiven.below, frame,
          ⟨given.changes.pending frame isDrawn.pending, isDrawn.noTable,
            isDrawn.taken⟩,
          isAt⟩
    · have isBefore := ((steps other).mp isInside).resolve_right same
      obtain ⟨below, frame, isDrawn, isAt⟩ :=
        given.pages other otherIsPage isBefore
      refine ⟨below, frame, isGiven.changes.drawn isDrawn, ?_⟩
      apply isGiven.changes.pageAt given.changes.ready isUser _ isAt
      intro offset within touched
      have samePage := (page_offset otherIsPage within).1
      exact same (samePage.symm.trans touched)

end PagesGiven

/-- A program gives a page a new frame, or changes that page only. -/
def GivesPage
    (allocate : Allocate κ)
    (flags : PageFlags)
    (page : UInt64)
    (bytes : Nat → UInt8)
    (program : Kernel κ UInt64 Unit) : Prop :=
  ∀ machine,
    Ready allocate machine →
    (∀ value final,
        program machine = .ok value final →
        PageGiven allocate flags page bytes machine final) ∧
      ∀ error final,
        program machine = .err error final →
        Changes allocate (SamePage · page) machine final

theorem ensures_pagesGiven
    {body : UInt64 → Kernel κ UInt64 Unit}
    {bytes : UInt64 → Nat → UInt8}
    {first stop : UInt64}
    (isUser : flags.contains .user = true)
    (gives :
      ∀ page,
        IsPage page →
        InRange first stop page →
        GivesPage allocate flags page (bytes page) (body page))
    (firstIsPage : IsPage first)
    (stopIsPage : IsPage stop)
    (before : first ≤ stop)
    (fuel : Nat) :
    Prog.Ensures (PagesGiven allocate flags bytes first start first)
      (forPages body stop fuel first)
      (fun _ => PagesGiven allocate flags bytes first start stop)
      (Changes allocate (InRange first stop) start) := by
  apply
    @ensures_forPages κ UInt64 body stop
      (PagesGiven allocate flags bytes first start) _ first stopIsPage
      (fun page isPage inside => ?_) fuel firstIsPage before
  intro machine given
  obtain ⟨onReturn, onError⟩ :=
    gives page isPage inside machine given.changes.ready
  constructor
  · intro value final returned
    exact
      given.next isUser stopIsPage isPage inside (onReturn _ _ returned)
  · intro error final failed
    apply (given.changes.mono _).trans ((onError _ _ failed).mono _)
    · exact fun other isBefore =>
        ⟨isBefore.1, UInt64.lt_trans isBefore.2 inside.2⟩
    · exact fun other same =>
        inRange_of_samePage firstIsPage stopIsPage same inside

/-! ## When a new page is made -/

theorem ends_newPage
    {page : UInt64}
    {fill : UInt64 → Kernel κ UInt64 Unit}
    (fillEnds : ∀ frame, Prog.Ends (fill frame)) :
    Prog.Ends (newPage allocate page flags fill) := by
  apply Prog.Ends.bind
  · intro machine stuck
    cases stuck
  · intro handed
    cases handed with
    | none => exact .fail _
    | some frame =>
        exact
          .bind (.mapError _ (ends_map4k allocate page frame flags)) fun _ =>
            .bind (.modify _) fun _ => fillEnds frame

theorem givesPage_newPage
    {page : UInt64}
    {fill : UInt64 → Kernel κ UInt64 Unit}
    {bytes : Nat → UInt8}
    (isUser : flags.contains .user = true)
    (combined : flags.Combined)
    (fills : Fills fill bytes) :
    GivesPage allocate flags page bytes
      (newPage allocate page flags fill) := by
  intro machine ready
  obtain ⟨onReturn, onError⟩ := newPage_spec ready isUser combined fills
  constructor
  · intro value final returned
    exact (onReturn _ _ returned).given
  · intro error final failed
    exact Changes.ofQuiet (onError _ _ failed) _

theorem topOpen_fillFrame
    {frame address : UInt64}
    (noTable : ¬ TableFrame machine.memory machine.cr3 frame)
    (words : Nat → UInt64)
    (isOpen : TopOpen machine address) :
    TopOpen (machine.fillFrame frame words) address := by
  apply
    @TopOpen.of_words κ machine (machine.fillFrame frame words) address isOpen
      rfl
  intro index
  apply Machine.fillFrame_of_ne
  rintro rfl
  exact noTable (tableFrame_root machine)

theorem topOpen_newPage
    {page address : UInt64}
    {fill : UInt64 → Kernel κ UInt64 Unit}
    {bytes : Nat → UInt8}
    (ready : Ready allocate machine)
    (isUser : flags.contains .user = true)
    (combined : flags.Combined)
    (fills : Fills fill bytes)
    (isOpen : TopOpen machine address) :
    (∀ value final,
        newPage allocate page flags fill machine = .ok value final →
        TopOpen final address) ∧
      ∀ error final,
        newPage allocate page flags fill machine = .err error final →
        TopOpen final address := by
  have quiet := quiet_call ready
  have sound : Sound allocate (machine.called allocate) :=
    ⟨quiet.ready.tables, quiet.ready.unused.fresh⟩
  have opened :=
    fun frame =>
      @ensures_topOpen_map4k κ allocate (machine.called allocate) flags isUser
        page frame address (machine.called allocate) ⟨rfl, sound, isOpen⟩
  constructor
  · intro value final returned
    obtain ⟨frame, mapped, words, isHanded, mapsPage, rfl, _⟩ :=
      newPage_eq_ok fills returned
    obtain ⟨readyCalled, taken⟩ := ready.call isHanded
    obtain ⟨inRange, aligned, _⟩ := checks_of_map4k isUser mapsPage
    have mapsOn :=
      mapsOn_of_map4k readyCalled taken inRange aligned isUser combined
        mapsPage
    exact
      topOpen_fillFrame mapsOn.noTable words ((opened frame).1 _ _ mapsPage)
  · intro code final failed
    rcases newPage_eq_err fills failed with
      rfl | ⟨frame, error, _, notMapped⟩
    · exact isOpen
    · exact (opened frame).2 _ _ notMapped

theorem newPage_returns
    {page : UInt64}
    {fill : UInt64 → Kernel κ UInt64 Unit}
    {bytes : Nat → UInt8}
    {count : Nat}
    (ready : Ready allocate machine)
    (isUser : flags.contains .user = true)
    (fills : Fills fill bytes)
    (isPage : IsPage page)
    (below : page < userLimit)
    (free : ¬ Mapped machine.memory machine.cr3 page)
    (isOpen : TopOpen machine page)
    (enough : Enough allocate machine.supply (count + 4)) :
    ∃ final,
      newPage allocate page flags fill machine = .ok () final ∧
        Enough allocate final.supply count := by
  have called :
      (allocateFrame allocate : Kernel κ UInt64 _) machine =
        .ok (allocate machine.supply).1 (machine.called allocate) :=
    rfl
  obtain ⟨⟨frame, isHanded⟩, left⟩ := enough.next
  obtain ⟨readyCalled, taken⟩ := ready.call isHanded
  have inRange : canonical page = true := by
    rw [canonical_iff]
    rw [UInt64.lt_iff_toNat_lt] at below
    exact .inl below
  obtain ⟨mapped, isMapped, isLeft⟩ :=
    @map4k_returns κ allocate (machine.called allocate) flags page frame count
      ⟨readyCalled.tables, readyCalled.unused.fresh⟩ isUser inRange isPage
      (aligned_of_isFrame taken.isFrame) below free isOpen left
  obtain ⟨words, isFilled, _⟩ :=
    fills frame (mapped.fillFrame frame fun _ => 0)
      (frameByte_zeroed mapped frame)
  rw [Machine.fillFrame_fillFrame] at isFilled
  have zeroed :
      (zeroFrame frame : Kernel κ UInt64 Unit) mapped =
        .ok () (mapped.fillFrame frame fun _ => 0) :=
    rfl
  refine ⟨mapped.fillFrame frame words, ?_, ?_⟩
  · unfold newPage
    rw [Prog.bind_of_ok called, isHanded]
    dsimp only
    rw [Prog.bind_of_ok (Prog.mapError_eq_ok.mpr isMapped),
      Prog.bind_of_ok zeroed, isFilled]
  · exact isLeft

end VibuxOS.UserSpace
