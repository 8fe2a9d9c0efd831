import VibuxOS.UserSpace.NewPages

namespace VibuxOS.UserSpace

open VibuxOS.Lib VibuxOS.Paging

/-!
# What `mmap` maps

`map_memory` looks for a free range, moving `next_mmap` up until there is one,
and then gives every page of the range a new frame with a part of the file.  The
offset in the file is counted in 64 bits: from `2^64` on it starts at the
beginning of the file again.
-/

variable (fixed : Bool)

/-- A negated error number. -/
abbrev IsErrno (value : UInt64) : Prop := 2 ^ 64 - 4095 ≤ value.toNat

variable
  {κ : Type}
  {allocate : Allocate κ}
  {machine : Machine κ}
  {flags : PageFlags}
  {fuel : Nat}
  {backings : Backings}
  {fd : Int}
  {fileData : Option (List UInt8)}

/-! ## A page of the mapping -/

theorem givesPage_placePage
    {page : UInt64}
    (fileData : Option (List UInt8))
    (fileOffset : UInt64)
    (isUser : flags.contains .user = true)
    (combined : flags.Combined) :
    GivesPage allocate flags page
      (fun offset => backingByte fileData (fileOffset.toNat + offset))
      (placePage allocate fixed flags fileData fileOffset page) := by
  intro machine ready
  have gives :=
    @givesPage_newPage κ allocate flags page _ _ isUser combined
      (fills_copyFile fileData fileOffset)
  unfold placePage
  rw [Prog.gets_bind_apply]
  by_cases found : (translate machine.memory machine.cr3 page).isSome = true
  · rw [if_pos found]
    cases fixed with
    | false =>
        constructor
        · intro value final returned
          cases returned
        · intro error final failed
          cases failed
          exact Changes.refl ready _
    | true =>
        rw [if_pos rfl]
        rcases unmap4k_spec ready page with
          ⟨frame, middle, unmapped, cleared⟩ | ⟨⟨error, refused⟩, _⟩
        · rw [Prog.bind_of_ok (Prog.mapError_eq_ok.mpr unmapped)]
          have changed := cleared.changes
          obtain ⟨onReturn, onError⟩ := gives middle changed.ready
          constructor
          · intro value final returned
            obtain ⟨changes, below, frame, isDrawn, isAt⟩ :=
              onReturn _ _ returned
            exact
              ⟨changed.trans changes, below, frame,
                ⟨changed.pending frame isDrawn.pending, isDrawn.noTable,
                  isDrawn.taken⟩,
                isAt⟩
          · intro error final failed
            exact changed.trans (onError _ _ failed)
        · rw [Prog.bind_of_err
            (Prog.mapError_eq_err.mpr ⟨error, refused, rfl⟩)]
          constructor
          · intro value final returned
            cases returned
          · intro code final failed
            cases failed
            exact Changes.refl ready _
  · rw [if_neg found]
    exact gives machine ready

theorem ends_copyFile
    (fileData : Option (List UInt8))
    (fileOffset frame : UInt64) :
    Prog.Ends (copyFile fileData fileOffset frame : Kernel κ UInt64 Unit) := by
  unfold copyFile
  cases fileData with
  | none => exact .pure _
  | some data => exact .ite (.modify _) (.pure _)

theorem ends_placePage
    (flags : PageFlags)
    (fileData : Option (List UInt8))
    (fileOffset page : UInt64) :
    Prog.Ends
      (placePage allocate fixed flags fileData fileOffset page) := by
  have made :=
    @ends_newPage κ allocate flags page _ (ends_copyFile fileData fileOffset)
  apply Prog.Ends.bind (.gets _)
  intro found
  apply Prog.Ends.ite
  · apply Prog.Ends.ite
    · exact .bind (.mapError _ (ends_unmap4k page)) fun _ => made
    · exact .fail _
  · exact made

theorem raises_copyFile
    (fileData : Option (List UInt8))
    (fileOffset frame : UInt64) :
    Prog.Raises IsErrno
      (copyFile fileData fileOffset frame : Kernel κ UInt64 Unit) := by
  unfold copyFile
  cases fileData with
  | none => exact .pure _
  | some data => exact .ite (.modify _) (.pure _)

theorem raises_newPage
    {page : UInt64}
    {fill : UInt64 → Kernel κ UInt64 Unit}
    (fillRaises : ∀ frame, Prog.Raises IsErrno (fill frame)) :
    Prog.Raises IsErrno (newPage allocate page flags fill) := by
  have isEnomem : IsErrno (negErrno enomem) := by decide
  apply Prog.Raises.bind
  · intro machine error final failed
    cases failed
  · intro handed
    cases handed with
    | none => exact .fail isEnomem
    | some frame =>
        exact
          .bind (.mapError _ fun _ => isEnomem) fun _ =>
            .bind (.modify _) fun _ => fillRaises frame

theorem raises_placePage
    (flags : PageFlags)
    (fileData : Option (List UInt8))
    (fileOffset page : UInt64) :
    Prog.Raises IsErrno
      (placePage allocate fixed flags fileData fileOffset page) := by
  have isEnomem : IsErrno (negErrno enomem) := by decide
  have made :=
    @raises_newPage κ allocate flags page _
      (raises_copyFile fileData fileOffset)
  exact
    .bind (.gets _) fun _ =>
      .ite
        (.ite (.bind (.mapError _ fun _ => isEnomem) fun _ => made)
          (.fail isEnomem))
        made

/-! ## The search for a free range -/

theorem rangeFree_spec
    {stop page : UInt64}
    (stopIsPage : IsPage stop)
    (isPage : IsPage page)
    (enough : stop.toNat - page.toNat < 4096 * fuel)
    (isFree : rangeFree machine stop fuel page = true)
    {address : UInt64}
    (inside : InRange page stop address) :
    ¬ Mapped machine.memory machine.cr3 address := by
  induction fuel generalizing page with
  | zero =>
      omega
  | succ fuel inductionHypothesis =>
      have notEmpty := UInt64.lt_of_le_of_lt inside.1 inside.2
      rw [rangeFree, if_pos notEmpty, Bool.and_eq_true] at isFree
      obtain ⟨unmapped, restFree⟩ := isFree
      obtain ⟨next, within⟩ := toNat_nextPage isPage stopIsPage notEmpty
      by_cases same : SamePage address page
      · rw [same.mapped, Mapped, Option.isNone_iff_eq_none.mp unmapped]
        exact Bool.false_ne_true
      · have nextIsPage : IsPage (page + pageSize) := by
          unfold IsPage at isPage ⊢
          omega
        apply inductionHypothesis nextIsPage (by omega) restFree
        refine ⟨?_, inside.2⟩
        have above := UInt64.le_iff_toNat_le.mp inside.1
        unfold SamePage at same
        unfold IsPage at isPage
        rw [UInt64.le_iff_toNat_le]
        omega

/-- A length of whole pages below the limit. -/
structure IsLength (length : UInt64) : Prop where
  isPage : IsPage length
  positive : 0 < length.toNat
  below : length.toNat ≤ userLimit.toNat

/-- A range of a length in which nothing is mapped. -/
structure FreeRange
    (machine : Machine κ)
    (length first : UInt64) : Prop where
  isPage : IsPage first
  below : first < userLimit
  free :
    ∀ address,
      InRange first (first + length) address →
      ¬ Mapped machine.memory machine.cr3 address

theorem toNat_rangeStop
    {length first : UInt64}
    (isLength : IsLength length)
    (isPage : IsPage first)
    (below : first < userLimit) :
    (first + length).toNat = first.toNat + length.toNat ∧
      IsPage (first + length) ∧
      (first + length).toNat - first.toNat < 4096 * turns length := by
  have limit : userLimit.toNat = 2 ^ 47 := rfl
  have lengthIsPage := isLength.isPage
  have lengthBelow := isLength.below
  rw [UInt64.lt_iff_toNat_lt] at below
  have sum : (first + length).toNat = first.toNat + length.toNat := by
    rw [UInt64.toNat_add]
    omega
  unfold IsPage turns at *
  omega

theorem nextMmap_spec
    {length next : UInt64}
    (isLength : IsLength length)
    (below : next < userLimit) :
    ((checkedAdd next length).getD userLimit).toNat =
      next.toNat + length.toNat := by
  have limit : userLimit.toNat = 2 ^ 47 := rfl
  have lengthBelow := isLength.below
  rw [UInt64.lt_iff_toNat_lt] at below
  have added : checkedAdd next length = some (next + length) := by
    unfold checkedAdd
    rw [if_pos ((le_add_iff _ _).mpr (by omega))]
  rw [added, Option.getD_some, toNat_of_checkedAdd added]

theorem findRange_ends
    {length candidate : UInt64}
    {space : Space κ}
    (isLength : IsLength length)
    (enough : userLimit.toNat < space.nextMmap.toNat + 4096 * fuel) :
    findRange length (fuel + 1) candidate space ≠ .hang := by
  induction fuel generalizing candidate space with
  | zero =>
      have beyond : userLimit ≤ space.nextMmap := by
        rw [UInt64.le_iff_toNat_le]
        omega
      rw [findRange, Prog.gets_bind_apply]
      split
      · exact fun stuck => nomatch stuck
      · rw [Prog.gets_bind_apply, if_pos beyond]
        exact fun stuck => nomatch stuck
  | succ fuel inductionHypothesis =>
      rw [findRange, Prog.gets_bind_apply]
      split
      · exact fun stuck => nomatch stuck
      · rw [Prog.gets_bind_apply]
        split
        · exact fun stuck => nomatch stuck
        · rename_i below
          rw [UInt64.not_le] at below
          rw [Prog.modify_bind_apply]
          apply inductionHypothesis
          have moved := nextMmap_spec isLength below
          have positive := isLength.positive
          have isPage := isLength.isPage
          unfold IsPage at isPage
          dsimp only
          omega

theorem findRange_eq_ok
    {length candidate found : UInt64}
    {space final : Space κ}
    (isLength : IsLength length)
    (isPage : IsPage candidate)
    (below : candidate < userLimit)
    (returned : findRange length fuel candidate space = .ok found final) :
    final.machine = space.machine ∧
      FreeRange space.machine length found := by
  induction fuel generalizing candidate space with
  | zero =>
      cases returned
  | succ fuel inductionHypothesis =>
      rw [findRange, Prog.gets_bind_apply] at returned
      split at returned
      · rename_i isFree
        cases returned
        obtain ⟨_, stopIsPage, enough⟩ := toNat_rangeStop isLength isPage below
        exact
          ⟨rfl, isPage, below,
            fun _ inside =>
              rangeFree_spec stopIsPage isPage enough isFree inside⟩
      · rw [Prog.gets_bind_apply] at returned
        split at returned
        · cases returned
        · rename_i nextBelow
          rw [UInt64.not_le] at nextBelow
          rw [Prog.modify_bind_apply] at returned
          have start := toNat_pageOf space.nextMmap
          have pageBelow : pageOf space.nextMmap < userLimit := by
            rw [UInt64.lt_iff_toNat_lt] at nextBelow ⊢
            omega
          have later := inductionHypothesis (isPage_pageOf _) pageBelow returned
          exact later

theorem raises_findRange
    (length : UInt64)
    (fuel : Nat)
    (candidate : UInt64) :
    Prog.Raises IsErrno (findRange length fuel candidate : Call κ UInt64) := by
  have isEnomem : IsErrno (negErrno enomem) := by decide
  induction fuel generalizing candidate with
  | zero =>
      exact .hang
  | succ fuel inductionHypothesis =>
      exact
        .bind (.gets _) fun _ =>
          .ite (.pure _)
            (.bind (.gets _) fun next =>
              .ite (.fail isEnomem)
                (.bind (.modify _) fun _ =>
                  inductionHypothesis (pageOf next)))

/-! ## The call -/

theorem isLength_roundUp
    {length rounded target : UInt64}
    (notEmpty : length ≠ 0)
    (isRounded : (checkedAdd length (pageSize - 1)).map pageOf = some rounded)
    (fits : target.toNat + rounded.toNat ≤ userLimit.toNat) :
    rounded = roundUp length ∧ IsLength rounded := by
  have rounds := toNat_rounded isRounded
  have positive : length.toNat ≠ 0 := by
    intro isZero
    exact notEmpty (UInt64.toNat_inj.mp isZero)
  obtain ⟨sum, added, rfl⟩ := Option.map_eq_some_iff.mp isRounded
  refine ⟨?_, isPage_pageOf sum, by omega, by omega⟩
  unfold checkedAdd at added
  split at added
  · rw [← Option.some.inj added]
    rfl
  · cases added

/-- What `map_memory` has checked and found before it maps. -/
structure Requested
    (backings : Backings)
    (address length flags : UInt64)
    (fd : Int)
    (offset : UInt64)
    (target : UInt64)
    (fileData : Option (List UInt8)) : Prop where
  isPage : IsPage target
  fits : target.toNat + (roundUp length).toNat ≤ userLimit.toNat
  isLength : IsLength (roundUp length)
  fixed : flags &&& mapFixed ≠ 0 → target = address
  offsetIsPage : IsPage offset
  backing : backingOf backings flags fd = .ok fileData

theorem requestedTarget_eq
    (address length flags : UInt64)
    (space : Space κ) :
    ∃ target middle,
      requestedTarget address length flags space = .ok target middle ∧
        middle.machine = space.machine ∧
        (flags &&& mapFixed ≠ 0 → target = address) := by
  unfold requestedTarget
  by_cases fixed : flags &&& mapFixed = 0
  · rw [if_neg (by simpa using fixed)]
    by_cases hinted : pageOf address = 0
    · rw [Prog.gets_bind_apply, if_neg (by simpa using hinted)]
      exact ⟨_, _, rfl, rfl, fun isFixed => absurd fixed isFixed⟩
    · rw [Prog.gets_bind_apply, if_pos (by simpa using hinted)]
      exact ⟨_, _, rfl, rfl, fun isFixed => absurd fixed isFixed⟩
  · rw [if_pos (by simpa using fixed)]
    exact ⟨_, _, rfl, rfl, fun _ => rfl⟩

theorem isErrno_of_backingOf
    {flags code : UInt64}
    (refused : backingOf backings flags fd = .error code) :
    IsErrno code := by
  unfold backingOf at refused
  split at refused
  · cases refused
  · split at refused
    · cases refused
      decide
    · split at refused
      · cases refused
      · cases refused
        decide
      · cases refused
        decide

theorem backings_of_backingOf
    {flags : UInt64}
    {data : List UInt8}
    (backing : backingOf backings flags fd = .ok (some data)) :
    backings fd = some (.file (some data)) := by
  unfold backingOf at backing
  split at backing
  · cases backing
  · split at backing
    · cases backing
    · split at backing
      · rename_i found
        cases backing
        exact found
      · cases backing
      · cases backing

theorem mapMemory_cases
    (backings : Backings)
    (address length prot flags : UInt64)
    (fd : Int)
    (offset : UInt64)
    (space : Space κ) :
    (∃ code final,
        mapMemory allocate backings address length prot flags fd offset
            space =
          .err code final ∧
          final.machine = space.machine ∧
          IsErrno code) ∨
      ∃ target fileData middle,
        requestedTarget address (roundUp length) flags space =
            .ok target middle ∧
          middle.machine = space.machine ∧
          Requested backings address length flags fd offset target fileData ∧
          mapMemory allocate backings address length prot flags fd offset
              space =
            mapWithRuntimeAllocator allocate target (roundUp length) prot flags
              offset fileData middle := by
  have refused :
      ∀ (code : UInt64) (final : Space κ),
        IsErrno code →
        final.machine = space.machine →
        ∃ error last,
          (Outcome.err code final : Outcome (Space κ) UInt64 UInt64) =
              .err error last ∧
            last.machine = space.machine ∧
            IsErrno error :=
    fun code final isErrno same => ⟨code, final, rfl, same, isErrno⟩
  have isEinval : IsErrno (negErrno einval) := by decide
  have isEnomem : IsErrno (negErrno enomem) := by decide
  unfold mapMemory
  by_cases isEmpty : length = 0
  · rw [if_pos isEmpty]
    exact .inl (refused _ _ isEinval rfl)
  rw [if_neg isEmpty]
  by_cases offsetIsPage : (offset &&& (pageSize - 1) != 0) = true
  · rw [if_pos offsetIsPage]
    exact .inl (refused _ _ isEinval rfl)
  rw [if_neg offsetIsPage]
  rw [Bool.not_eq_true, isPage_iff] at offsetIsPage
  cases isRounded : (checkedAdd length (pageSize - 1)).map pageOf with
  | none =>
      exact .inl (refused _ _ isEinval rfl)
  | some rounded =>
      obtain ⟨target, middle, isTarget, same, fixed⟩ :=
        requestedTarget_eq address rounded flags space
      dsimp only
      rw [Prog.bind_of_ok isTarget]
      by_cases targetIsPage : (target &&& (pageSize - 1) != 0) = true
      · rw [if_pos targetIsPage]
        exact .inl (refused _ _ isEinval same)
      rw [if_neg targetIsPage]
      rw [Bool.not_eq_true, isPage_iff] at targetIsPage
      cases isStop : checkedAdd target rounded with
      | none =>
          exact .inl (refused _ _ isEnomem same)
      | some stop =>
          dsimp only
          by_cases outside :
              userLimit ≤ target ∨ userLimit < stop ∨ stop ≤ target
          · rw [if_pos outside]
            exact .inl (refused _ _ isEnomem same)
          rw [if_neg outside]
          have fits : target.toNat + rounded.toNat ≤ userLimit.toNat := by
            rw [not_or, not_or, UInt64.not_lt] at outside
            rw [← toNat_of_checkedAdd isStop]
            exact UInt64.le_iff_toNat_le.mp outside.2.1
          obtain ⟨isRoundUp, isLength⟩ :=
            isLength_roundUp isEmpty isRounded fits
          subst isRoundUp
          by_cases noType : flags &&& mapType = 0
          · rw [if_pos noType]
            exact .inl (refused _ _ isEinval same)
          rw [if_neg noType]
          cases backing : backingOf backings flags fd with
          | error code =>
              exact .inl (refused _ _ (isErrno_of_backingOf backing) same)
          | ok fileData =>
              exact
                .inr
                  ⟨target, fileData, middle, isTarget, same,
                    ⟨targetIsPage, fits, isLength, fixed, offsetIsPage,
                      backing⟩,
                    rfl⟩

section

variable
  {address length flags : UInt64}
  {offset target : UInt64}
  (requested :
    Requested backings address length flags fd offset target fileData)

include requested

theorem actualTarget_cases
    (space : Space κ) :
    (∃ code final,
        actualTarget target (roundUp length) flags space = .err code final ∧
          IsErrno code) ∨
      ∃ first middle,
        actualTarget target (roundUp length) flags space = .ok first middle ∧
          middle.machine = space.machine ∧
          IsPage first ∧
          first < userLimit ∧
          (flags &&& mapFixed ≠ 0 → first = address) ∧
          (flags &&& mapFixed = 0 →
            FreeRange space.machine (roundUp length) first) := by
  have below : target < userLimit := by
    have fits := requested.fits
    have positive := requested.isLength.positive
    rw [UInt64.lt_iff_toNat_lt]
    omega
  unfold actualTarget
  by_cases fixed : flags &&& mapFixed = 0
  · rw [if_neg (by simpa using fixed)]
    have start := toNat_pageOf target
    have pageBelow : pageOf target < userLimit := by
      rw [UInt64.lt_iff_toNat_lt] at below ⊢
      omega
    have limit : userLimit.toNat = 2 ^ 47 := rfl
    have ends :=
      @findRange_ends κ (userLimit.toNat / 4096 + 1) (roundUp length)
        (pageOf target) space requested.isLength (by omega)
    cases result : findRange (roundUp length) rounds (pageOf target) space with
    | ok first middle =>
        obtain ⟨same, free⟩ :=
          findRange_eq_ok requested.isLength (isPage_pageOf target) pageBelow
            result
        exact
          .inr
            ⟨first, middle, rfl, same, free.isPage, free.below,
              fun isFixed => absurd fixed isFixed, fun _ => free⟩
    | err code final =>
        exact .inl ⟨code, final, rfl, raises_findRange _ _ _ _ _ _ result⟩
    | hang =>
        exact absurd result ends
  · rw [if_pos (by simpa using fixed)]
    exact
      .inr
        ⟨target, space, rfl, rfl, requested.isPage, below,
          fun isFixed => requested.fixed isFixed,
          fun notFixed => absurd notFixed fixed⟩

def mappedBytes
    (fileData : Option (List UInt8))
    (offset first page : UInt64)
    (place : Nat) :
    UInt8 :=
  backingByte fileData ((offset + (page - first)).toNat + place)

omit requested in
theorem placePages_cases
    {length first : UInt64}
    (isLength : IsLength length)
    (isPage : IsPage first)
    (below : first < userLimit)
    (prot flags offset : UInt64)
    (fileData : Option (List UInt8))
    (ready : Ready allocate machine) :
    (∃ code final,
        placePages allocate first length prot flags offset fileData machine =
            .err code final ∧
          IsErrno code ∧
          Changes allocate (InRange first (first + length)) machine final) ∨
      ∃ final,
        placePages allocate first length prot flags offset fileData machine =
            .ok () final ∧
          PagesGiven allocate (pageFlags prot)
            (mappedBytes fileData offset first) first machine
            (first + length) final := by
  obtain ⟨sum, stopIsPage, enough⟩ := toNat_rangeStop isLength isPage below
  have inOrder : first ≤ first + length := by
    rw [UInt64.le_iff_toNat_le]
    omega
  obtain ⟨combined, isUser, _, _⟩ := pageFlags_spec prot
  have ensures :
      Prog.Ensures _ (placePages allocate first length prot flags offset fileData)
        _ _ :=
    @ensures_pagesGiven κ allocate (pageFlags prot) machine _
      (mappedBytes fileData offset first) first (first + length) isUser
      (fun page _ _ =>
        givesPage_placePage _ fileData (offset + (page - first)) isUser
          combined)
      isPage stopIsPage inOrder (turns length)
  have ends :
      Prog.Ends
        (placePages allocate first length prot flags offset fileData) :=
    ends_forPages stopIsPage (fun page => ends_placePage _ _ _ _ page) isPage
      enough
  have raises :
      Prog.Raises IsErrno
        (placePages allocate first length prot flags offset fileData) :=
    raises_forPages (fun page => raises_placePage _ _ _ _ page) _ _
  cases result :
      placePages allocate first length prot flags offset fileData machine with
  | ok value final =>
      exact
        .inr
          ⟨final, rfl,
            (ensures machine (PagesGiven.refl ready first)).1 _ _ result⟩
  | err code final =>
      exact
        .inl
          ⟨code, final, rfl, raises _ _ _ result,
            (ensures machine (PagesGiven.refl ready first)).2 _ _ result⟩
  | hang =>
      exact absurd result (ends machine)

theorem mapWithRuntimeAllocator_cases
    (prot : UInt64)
    {space : Space κ}
    (ready : Ready allocate space.machine) :
    (∃ code final,
        mapWithRuntimeAllocator allocate target (roundUp length) prot flags
            offset fileData space =
          .err code final ∧
          IsErrno code) ∨
      ∃ first final,
        mapWithRuntimeAllocator allocate target (roundUp length) prot flags
            offset fileData space =
          .ok first final ∧
          IsPage first ∧
          first < userLimit ∧
          (flags &&& mapFixed ≠ 0 → first = address) ∧
          (flags &&& mapFixed = 0 →
            FreeRange space.machine (roundUp length) first) ∧
          PagesGiven allocate (pageFlags prot)
            (mappedBytes fileData offset first) first space.machine
            (first + roundUp length) final.machine := by
  unfold mapWithRuntimeAllocator
  rcases actualTarget_cases requested space with
    ⟨code, final, failed, isErrno⟩ |
      ⟨first, middle, found, same, isPage, below, fixed, free⟩
  · exact .inl ⟨code, final, Prog.bind_of_err failed, isErrno⟩
  · rw [Prog.bind_of_ok found]
    rw [← same] at ready
    rcases placePages_cases requested.isLength isPage below prot flags offset
        fileData ready with
      ⟨code, final, failed, isErrno, _⟩ | ⟨final, placed, given⟩
    · exact
        .inl ⟨code, _, Prog.bind_of_err (onMachine_of_err failed), isErrno⟩
    · rw [same] at given
      exact
        .inr
          ⟨first, _, Prog.bind_of_ok (onMachine_of_ok placed), isPage, below,
            fixed, free, given⟩

end

/-- What a call of `mmap` that returned an address has done. -/
structure MapsPages
    (allocate : Allocate κ)
    (backings : Backings)
    (address length prot flags : UInt64)
    (fd : Int)
    (offset : UInt64)
    (fileData : Option (List UInt8))
    (start : Machine κ)
    (first : UInt64)
    (final : Machine κ) : Prop where
  isLength : IsLength (roundUp length)
  offsetIsPage : IsPage offset
  backing : backingOf backings flags fd = .ok fileData
  isPage : IsPage first
  below : first < userLimit
  asked : flags &&& mapFixed ≠ 0 → first = address
  free : flags &&& mapFixed = 0 → FreeRange start (roundUp length) first
  given :
    PagesGiven allocate (pageFlags prot) (mappedBytes fileData offset first)
      first start (first + roundUp length) final

theorem mapMemory_spec
    {space : Space κ}
    (ready : Ready allocate space.machine)
    (backings : Backings)
    (address length prot flags : UInt64)
    (fd : Int)
    (offset : UInt64) :
    (∃ code final,
        mapMemory allocate backings address length prot flags fd offset
            space =
          .err code final ∧
          IsErrno code) ∨
      ∃ first final fileData,
        mapMemory allocate backings address length prot flags fd offset
            space =
          .ok first final ∧
          MapsPages allocate backings address length prot flags fd offset
            fileData space.machine first final.machine := by
  rcases @mapMemory_cases κ allocate backings address length prot flags fd
      offset space with
    ⟨code, final, refused, _, isErrno⟩ |
      ⟨target, fileData, middle, _, same, requested, goesOn⟩
  · exact .inl ⟨code, final, refused, isErrno⟩
  · rw [goesOn]
    rw [← same] at ready ⊢
    rcases mapWithRuntimeAllocator_cases requested prot ready with
      ⟨code, final, failed, isErrno⟩ |
        ⟨first, final, mapped, isPage, below, asked, free, given⟩
    · exact .inl ⟨code, final, failed, isErrno⟩
    · exact
        .inr
          ⟨first, final, fileData, mapped, requested.isLength,
            requested.offsetIsPage, requested.backing, isPage, below, asked,
            free, given⟩

/-! ## What is seen in the mapping -/

theorem MapsPages.seenByte
    {address length prot flags : UInt64}
    {offset : UInt64}
    {start : Machine κ}
    {first : UInt64}
    (maps :
      MapsPages allocate backings address length prot flags fd offset fileData
        start first machine)
    (place : Nat)
    (inside : place < (roundUp length).toNat) :
    Paging.seenByte machine.memory machine.cr3 (first + UInt64.ofNat place) =
      some (backingByte fileData ((offset.toNat + place) % 2 ^ 64)) := by
  have isPage := maps.isPage
  obtain ⟨stop, stopIsPage, _⟩ :=
    toNat_rangeStop maps.isLength isPage maps.below
  have limit : userLimit.toNat = 2 ^ 47 := rfl
  have lengthBelow := maps.isLength.below
  have firstBelow := UInt64.lt_iff_toNat_lt.mp maps.below
  have address :
      (first + UInt64.ofNat place).toNat = first.toNat + place := by
    rw [UInt64.toNat_add, UInt64.toNat_ofNat']
    omega
  have inRange :
      InRange first (first + roundUp length) (first + UInt64.ofNat place) := by
    unfold InRange
    rw [UInt64.le_iff_toNat_le, UInt64.lt_iff_toNat_lt]
    omega
  have pageStart := toNat_pageOf (first + UInt64.ofNat place)
  have pageIsPage := isPage_pageOf (first + UInt64.ofNat place)
  obtain ⟨_, frame, _, isAt⟩ :=
    maps.given.pages _ pageIsPage (inRange_pageOf isPage stopIsPage inRange)
  have samePage :
      SamePage (first + UInt64.ofNat place)
        (pageOf (first + UInt64.ofNat place)) :=
    (samePage_pageOf _).symm
  obtain ⟨rest, within, isAddress⟩ := samePage.exists_offset pageIsPage
  have restIs := toNat_page_add pageIsPage within
  rw [← isAddress] at restIs
  rw [isAddress, seenByte_of_pageAt isAt within, mappedBytes]
  have fromFirst :
      (pageOf (first + UInt64.ofNat place) - first).toNat =
        place - rest.toNat := by
    unfold IsPage at isPage
    rw [UInt64.toNat_sub_of_le _ _ (by rw [UInt64.le_iff_toNat_le]; omega)]
    omega
  have offsetIsPage := maps.offsetIsPage
  unfold IsPage at isPage offsetIsPage pageIsPage
  rw [UInt64.toNat_add, fromFirst]
  congr 2
  omega

theorem stop_le_of_pagesGiven
    {bytes : UInt64 → Nat → UInt8}
    {length first : UInt64}
    {start : Machine κ}
    (isLength : IsLength length)
    (isPage : IsPage first)
    (below : first < userLimit)
    (given :
      PagesGiven allocate flags bytes first start (first + length) machine) :
    first.toNat + length.toNat ≤ userLimit.toNat := by
  obtain ⟨sum, stopIsPage, _⟩ := toNat_rangeStop isLength isPage below
  have limit : userLimit.toNat = 2 ^ 47 := rfl
  have positive := isLength.positive
  have lengthIsPage := isLength.isPage
  have size : pageSize.toNat = 4096 := rfl
  unfold IsPage at isPage stopIsPage lengthIsPage
  have last :
      (first + length - pageSize).toNat = first.toNat + length.toNat - 4096 := by
    rw [UInt64.toNat_sub_of_le _ _ (by rw [UInt64.le_iff_toNat_le]; omega)]
    omega
  have lastIsPage : IsPage (first + length - pageSize) := by
    unfold IsPage
    omega
  have inside : InRange first (first + length) (first + length - pageSize) := by
    unfold InRange
    rw [UInt64.le_iff_toNat_le, UInt64.lt_iff_toNat_lt]
    omega
  have lastBelow := (given.pages _ lastIsPage inside).1
  rw [UInt64.lt_iff_toNat_lt] at lastBelow
  omega

/-- What `mmap` is to have done when it returns an address. -/
structure MapsRange
    (allocate : Allocate κ)
    (address length prot flags offset : UInt64)
    (fileData : Option (List UInt8))
    (start : Machine κ)
    (first : UInt64)
    (final : Machine κ) : Prop where
  isPage : IsPage first
  below : first.toNat + (roundUp length).toNat ≤ userLimit.toNat
  asked : flags &&& mapFixed ≠ 0 → first = address
  wasFree :
    flags &&& mapFixed = 0 →
    ∀ other,
      InRange first (first + roundUp length) other →
      ¬ Mapped start.memory start.cr3 other
  pages :
    ∀ page,
      IsPage page →
      InRange first (first + roundUp length) page →
      ∃ frame shown bytes,
        ¬ UserFrame start.memory start.cr3 frame ∧
          ¬ TableFrame start.memory start.cr3 frame ∧
          PageAt allocate page frame shown bytes final ∧
          shown.contains .user = true ∧
          ((shown.union .present).contains .writable = true ↔
            prot &&& protWrite ≠ 0) ∧
          ((shown.union .present).contains .noExecute = true ↔
            prot &&& protExec = 0)
  contents :
    ∀ place,
      place < (roundUp length).toNat →
      seenByte final.memory final.cr3 (first + UInt64.ofNat place) =
        some (backingByte fileData (offset.toNat + place))
  elsewhere :
    ∀ other,
      ¬ InRange first (first + roundUp length) other →
      translate final.memory final.cr3 other =
        translate start.memory start.cr3 other

/-- The file has zeros where the mapping starts again with it, if it does. -/
def OffsetFits
    (fileData : Option (List UInt8))
    (offset length : UInt64) : Prop :=
  ∀ position,
    2 ^ 64 + position < offset.toNat + (roundUp length).toNat →
    backingByte fileData position = 0

theorem contents_iff
    (offset : UInt64)
    {length : UInt64}
    (isSlice : ∀ data, fileData = some data → data.length < 2 ^ 63) :
    (∀ place,
        place < (roundUp length).toNat →
        backingByte fileData ((offset.toNat + place) % 2 ^ 64) =
          backingByte fileData (offset.toNat + place)) ↔
      OffsetFits fileData offset length := by
  have bound := offset.toNat_lt
  have lengthBound := (roundUp length).toNat_lt
  have beyond :
      ∀ position, 2 ^ 64 ≤ position → backingByte fileData position = 0 := by
    intro position isBeyond
    cases fileData with
    | none => rfl
    | some data =>
        have short := isSlice data rfl
        exact List.getD_eq_default _ _ (by omega)
  constructor
  · intro same position wraps
    have shown := same (2 ^ 64 + position - offset.toNat) (by omega)
    have sum :
        offset.toNat + (2 ^ 64 + position - offset.toNat) =
          2 ^ 64 + position := by
      omega
    rwa [sum, Nat.add_mod_left, Nat.mod_eq_of_lt (by omega),
      beyond _ (Nat.le_add_right _ _)] at shown
  · intro fits place inside
    by_cases wraps : 2 ^ 64 ≤ offset.toNat + place
    · rw [beyond _ wraps]
      apply fits
      omega
    · rw [Nat.mod_eq_of_lt (by omega)]

/--
`mmap` fails with an error number, or maps what it is to map exactly if the file
has only zeros where its offset would wrap around.
-/
theorem mmap_maps_iff
    {space : Space κ}
    (ready : Ready allocate space.machine)
    {backings : Backings}
    (slices :
      ∀ fd data, backings fd = some (.file (some data)) → data.length < 2 ^ 63)
    (address length prot flags : UInt64)
    (fd : Int)
    (offset : UInt64) :
    (∃ code final,
        mapMemory allocate backings address length prot flags fd offset
            space =
          .err code final ∧
          IsErrno code) ∨
      ∃ first final fileData,
        mapMemory allocate backings address length prot flags fd offset
            space =
          .ok first final ∧
          backingOf backings flags fd = .ok fileData ∧
          (MapsRange allocate address length prot flags offset fileData
              space.machine first final.machine ↔
            OffsetFits fileData offset length) := by
  rcases mapMemory_spec ready backings address length prot flags fd offset with
    failed | ⟨first, final, fileData, returned, maps⟩
  · exact .inl failed
  · refine .inr ⟨first, final, fileData, returned, maps.backing, ?_⟩
    have isSlice : ∀ data, fileData = some data → data.length < 2 ^ 63 := by
      rintro data rfl
      exact slices fd data (backings_of_backingOf maps.backing)
    have shown := fun place => maps.seenByte place
    rw [← contents_iff offset isSlice]
    constructor
    · intro correct place inside
      have wanted := correct.contents place inside
      rw [shown place inside] at wanted
      exact Option.some.inj wanted
    · intro contents
      obtain ⟨_, isUser, writable, data⟩ := pageFlags_spec prot
      constructor
      · exact maps.isPage
      · exact
          stop_le_of_pagesGiven maps.isLength maps.isPage maps.below maps.given
      · exact maps.asked
      · exact fun notFixed => (maps.free notFixed).free
      · intro page pageIsPage inside
        obtain ⟨_, frame, isDrawn, isAt⟩ :=
          maps.given.pages page pageIsPage inside
        exact
          ⟨frame, _, _, ready.unused.userFree frame isDrawn.pending,
            ready.unused.fresh.unused frame isDrawn.pending, isAt, isUser,
            writable, data⟩
      · intro place inside
        rw [shown place inside, contents place inside]
      · exact maps.given.changes.elsewhere

/-- A page for a program that had none. -/
theorem mmap_maps_first :
    ∃ first final,
      mapMemory FrameAllocator.allocate (fun _ => none) 0 0x1000 3 0x22 (-1) 0
          ⟨emptyTables, mmapBase, heapBase⟩ =
        .ok first final ∧
        MapsRange FrameAllocator.allocate 0 0x1000 3 0x22 0 none emptyTables
          first final.machine := by
  obtain ⟨made, isMade⟩ :
      ∃ made,
        mapMemory FrameAllocator.allocate (fun _ => none) 0 0x1000 3 0x22 (-1)
            0 ⟨emptyTables, mmapBase, heapBase⟩ =
          .ok 0x600000000000 made :=
    Prog.eq_ok_of_value? (by decide +kernel)
  rcases @mmap_maps_iff _ FrameAllocator.allocate
      ⟨emptyTables, mmapBase, heapBase⟩ ready_emptyTables (fun _ => none)
      (fun _ _ found => nomatch found) 0 0x1000 3 0x22 (-1) 0 with
    ⟨code, final, failed, _⟩ |
      ⟨first, final, fileData, returned, backing, correct⟩
  · rw [isMade] at failed
    cases failed
  · cases backing
    exact ⟨first, final, returned, correct.mpr fun _ _ => rfl⟩

/-- A mapping from the last page of the offsets on begins its file again. -/
theorem mmap_begins_again :
    ∃ first final,
      mapMemory FrameAllocator.allocate (fun _ => some (.file (some [1])))
          0x10000 0x2000 3 0x12 3 0xFFFFFFFFFFFFF000
          ⟨emptyTables, mmapBase, heapBase⟩ =
        .ok first final ∧
        ¬ MapsRange FrameAllocator.allocate 0x10000 0x2000 3 0x12
          0xFFFFFFFFFFFFF000 (some [1]) emptyTables first final.machine := by
  obtain ⟨made, isMade⟩ :
      ∃ made,
        mapMemory FrameAllocator.allocate (fun _ => some (.file (some [1])))
            0x10000 0x2000 3 0x12 3 0xFFFFFFFFFFFFF000
            ⟨emptyTables, mmapBase, heapBase⟩ =
          .ok 0x10000 made :=
    Prog.eq_ok_of_value? (by decide +kernel)
  rcases @mapMemory_spec _ FrameAllocator.allocate
      ⟨emptyTables, mmapBase, heapBase⟩ ready_emptyTables
      (fun _ => some (.file (some [1]))) 0x10000 0x2000 3 0x12 3
      0xFFFFFFFFFFFFF000 with
    ⟨code, final, failed, _⟩ | ⟨first, final, fileData, returned, maps⟩
  · rw [isMade] at failed
    cases failed
  · have isFile : fileData = some [1] := by
      have backing := maps.backing
      cases backing
      rfl
    subst isFile
    refine ⟨first, final, returned, ?_⟩
    intro correct
    have wanted := correct.contents 0x1000 (by decide)
    rw [maps.seenByte 0x1000 (by decide)] at wanted
    have different :
        backingByte (some [1])
            (((0xFFFFFFFFFFFFF000 : UInt64).toNat + 0x1000) % 2 ^ 64) ≠
          backingByte (some [1])
            ((0xFFFFFFFFFFFFF000 : UInt64).toNat + 0x1000) := by
      decide +kernel
    exact different (Option.some.inj wanted)

end VibuxOS.UserSpace
