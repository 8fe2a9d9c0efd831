import VibuxOS.UserSpace.Mappings

namespace VibuxOS.UserSpace

open VibuxOS.Lib VibuxOS.Paging

/-!
# Where `mmap` maps

Without a hint `mmap` takes the first free range from `next_mmap` on, in steps of
the length; with `MAP_FIXED` it takes the range that it is given.  Whether it
succeeds or not, it changes no page elsewhere.
-/

variable {κ : Type} {allocate : Allocate κ} {machine : Machine κ}

theorem rangeFree_of_free
    {stop page : UInt64}
    {fuel : Nat}
    (stopIsPage : IsPage stop)
    (isPage : IsPage page)
    (free :
      ∀ address,
        InRange page stop address →
        ¬ Mapped machine.memory machine.cr3 address) :
    rangeFree machine stop fuel page = true := by
  induction fuel generalizing page with
  | zero =>
      rfl
  | succ fuel inductionHypothesis =>
      rw [rangeFree]
      split
      · rename_i notEmpty
        obtain ⟨next, within⟩ := toNat_nextPage isPage stopIsPage notEmpty
        have nextIsPage : IsPage (page + pageSize) := by
          unfold IsPage at isPage ⊢
          omega
        rw [Bool.and_eq_true]
        constructor
        · rw [Option.isNone_iff_eq_none, ← Option.not_isSome_iff_eq_none]
          exact free page ⟨UInt64.le_refl _, notEmpty⟩
        · apply inductionHypothesis nextIsPage
          intro address inside
          apply free address
          refine ⟨?_, inside.2⟩
          have after := UInt64.le_iff_toNat_le.mp inside.1
          rw [UInt64.le_iff_toNat_le]
          omega
      · rfl

/-- The first free range of a length, in steps of the length. -/
structure FirstFree
    (machine : Machine κ)
    (length start first : UInt64) : Prop where
  free : FreeRange machine length first
  steps :
    ∃ count : Nat,
      first = start + UInt64.ofNat count * length ∧
        ∀ earlier < count,
          ¬ FreeRange machine length (start + UInt64.ofNat earlier * length)

theorem FirstFree.later
    {length start first : UInt64}
    (notFree : ¬ FreeRange machine length start)
    (isFirst : FirstFree machine length (start + length) first) :
    FirstFree machine length start first := by
  have step :
      ∀ count,
        start + length + UInt64.ofNat count * length =
          start + UInt64.ofNat (count + 1) * length := by
    intro count
    rw [UInt64.ofNat_add, UInt64.add_mul, UInt64.add_assoc,
      UInt64.add_comm (UInt64.ofNat count * length)]
    congr 2
    exact (UInt64.one_mul length).symm
  obtain ⟨free, count, isFirst, notBefore⟩ := isFirst
  refine ⟨free, count + 1, isFirst.trans (step count), ?_⟩
  intro earlier before
  cases earlier with
  | zero =>
      rwa [show UInt64.ofNat 0 = 0 from rfl, UInt64.zero_mul, UInt64.add_zero]
  | succ earlier =>
      rw [← step]
      exact notBefore earlier (Nat.lt_of_succ_lt_succ before)

theorem preserves_findRange
    (length : UInt64)
    (fuel : Nat)
    (candidate : UInt64) :
    Prog.Preserves Space.machine
      (findRange length fuel candidate : Call κ UInt64) := by
  induction fuel generalizing candidate with
  | zero =>
      exact .of_readOnly .hang
  | succ fuel inductionHypothesis =>
      exact
        .bind (.of_readOnly (.gets _)) fun _ =>
          .ite (.of_readOnly (.pure _))
            (.bind (.of_readOnly (.gets _)) fun next =>
              .ite (.of_readOnly (.fail _))
                (.bind (.modify fun _ => rfl) fun _ =>
                  inductionHypothesis (pageOf next)))

theorem findRange_first
    {length candidate found : UInt64}
    {fuel : Nat}
    {space final : Space κ}
    (isLength : IsLength length)
    (isPage : IsPage candidate)
    (below : candidate < userLimit)
    (isNext :
      space.nextMmap < userLimit → space.nextMmap = candidate + length)
    (returned : findRange length fuel candidate space = .ok found final) :
    FirstFree space.machine length candidate found := by
  induction fuel generalizing candidate space with
  | zero =>
      cases returned
  | succ fuel inductionHypothesis =>
      obtain ⟨sum, stopIsPage, enough⟩ := toNat_rangeStop isLength isPage below
      rw [findRange, Prog.gets_bind_apply] at returned
      split at returned
      · rename_i isFree
        cases returned
        refine ⟨⟨isPage, below, fun _ inside => ?_⟩, 0, ?_, ?_⟩
        · exact rangeFree_spec stopIsPage isPage enough isFree inside
        · rw [show UInt64.ofNat 0 = 0 from rfl, UInt64.zero_mul,
            UInt64.add_zero]
        · exact fun _ before => absurd before (Nat.not_lt_zero _)
      · rename_i notFree
        rw [Prog.gets_bind_apply] at returned
        split at returned
        · cases returned
        · rename_i nextBelow
          rw [UInt64.not_le] at nextBelow
          have next := isNext nextBelow
          have moved := nextMmap_spec isLength nextBelow
          rw [Prog.modify_bind_apply, next] at returned
          rw [next] at nextBelow moved
          have same : pageOf (candidate + length) = candidate + length := by
            have start := toNat_pageOf (candidate + length)
            unfold IsPage at stopIsPage
            apply UInt64.toNat_inj.mp
            omega
          rw [same] at returned
          have isFirst :=
            fun isNext =>
              inductionHypothesis stopIsPage nextBelow isNext returned
          apply FirstFree.later
          · intro free
            exact notFree (rangeFree_of_free stopIsPage isPage free.free)
          · apply isFirst
            intro _
            have limit : userLimit.toNat = 2 ^ 47 := rfl
            have lengthBelow := isLength.below
            rw [UInt64.lt_iff_toNat_lt] at nextBelow
            apply UInt64.toNat_inj.mp
            dsimp only
            rw [moved, UInt64.toNat_add (candidate + length)]
            omega

/-! ## The call -/

/-- Where the pages of an anonymous mapping come to lie. -/
def Lands
    (space : Space κ)
    (address length first : UInt64) : Prop :=
  if address = 0 then
    FirstFree space.machine length space.nextMmap first
  else
    first = address ∧
      IsPage address ∧ address.toNat + length.toNat ≤ userLimit.toNat

/-- The flags of an anonymous mapping at an address, or anywhere for zero. -/
def anonymousFlags (address : UInt64) : UInt64 :=
  mapPrivate ||| mapAnonymous ||| if address ≠ 0 then mapFixed else 0

theorem fixed_anonymousFlags (address : UInt64) :
    anonymousFlags address &&& mapFixed ≠ 0 ↔ address ≠ 0 := by
  unfold anonymousFlags
  by_cases anywhere : address = 0
  · rw [if_neg (not_not_intro anywhere)]
    exact ⟨fun isFixed => absurd isFixed (by decide), absurd anywhere⟩
  · rw [if_pos anywhere]
    exact ⟨fun _ => anywhere, fun _ => by decide⟩

theorem actualTarget_lands
    {backings : Backings}
    {address length : UInt64}
    {fd : Int}
    {offset target : UInt64}
    {fileData : Option (List UInt8)}
    {space middle : Space κ}
    (isTarget :
      requestedTarget address (roundUp length) (anonymousFlags address) space =
        .ok target middle)
    (requested :
      Requested backings address length (anonymousFlags address) fd offset
        target fileData)
    (isSame : middle.machine = space.machine) :
    (∃ code final,
        actualTarget target (roundUp length) (anonymousFlags address) middle =
            .err code final ∧
          IsErrno code ∧
          final.machine = space.machine) ∨
      ∃ first final,
        actualTarget target (roundUp length) (anonymousFlags address) middle =
            .ok first final ∧
          final.machine = space.machine ∧
          IsPage first ∧
          first < userLimit ∧
          Lands space address (roundUp length) first := by
  have isLength := requested.isLength
  have fits := requested.fits
  have positive := isLength.positive
  have below : target < userLimit := by
    rw [UInt64.lt_iff_toNat_lt]
    omega
  by_cases anywhere : address = 0
  · have notFixed : anonymousFlags address &&& mapFixed = 0 := by
      by_contra isFixed
      exact (fixed_anonymousFlags address).mp isFixed anywhere
    rw [requestedTarget, if_neg (by simpa using notFixed),
      Prog.gets_bind_apply, anywhere, if_neg (by decide),
      Prog.modify_bind_apply] at isTarget
    cases isTarget
    unfold actualTarget
    rw [if_neg (by simpa using notFixed)]
    have same : pageOf space.nextMmap = space.nextMmap := by
      have start := toNat_pageOf space.nextMmap
      have isPage := requested.isPage
      unfold IsPage at isPage
      apply UInt64.toNat_inj.mp
      omega
    rw [same]
    have moved := nextMmap_spec isLength below
    have limit : userLimit.toNat = 2 ^ 47 := rfl
    have lengthBelow := isLength.below
    generalize isMiddle :
      ({ space with
          nextMmap :=
            (checkedAdd space.nextMmap (roundUp length)).getD userLimit } :
        Space κ) = middle
    have machineSame : middle.machine = space.machine := by
      rw [← isMiddle]
    have keeps :=
      preserves_findRange (roundUp length) rounds space.nextMmap space.machine
        middle machineSame
    cases result :
        findRange (roundUp length) rounds space.nextMmap middle with
    | ok first final =>
        have isFirst :=
          findRange_first isLength requested.isPage below
            (fun _ => by
              have bound := UInt64.lt_iff_toNat_lt.mp below
              rw [← isMiddle]
              apply UInt64.toNat_inj.mp
              dsimp only
              rw [moved, UInt64.toNat_add]
              omega)
            result
        rw [machineSame] at isFirst
        refine
          .inr
            ⟨first, final, rfl, keeps.1 _ _ result, isFirst.free.isPage,
              isFirst.free.below, ?_⟩
        unfold Lands
        rwa [if_pos anywhere]
    | err code final =>
        exact
          .inl
            ⟨code, final, rfl, raises_findRange _ _ _ _ _ _ result,
              keeps.2 _ _ result⟩
    | hang =>
        apply absurd result
        apply
          @findRange_ends κ (userLimit.toNat / 4096 + 1) (roundUp length)
            space.nextMmap middle isLength
        omega
  · have isFixed := (fixed_anonymousFlags address).mpr anywhere
    unfold actualTarget
    rw [if_pos (by simpa using isFixed)]
    have isAddress := requested.fixed isFixed
    refine .inr ⟨target, middle, rfl, isSame, requested.isPage, below, ?_⟩
    unfold Lands
    rw [if_neg anywhere, ← isAddress]
    exact ⟨rfl, requested.isPage, fits⟩

theorem mapMemory_lands
    {space : Space κ}
    (ready : Ready allocate space.machine)
    (backings : Backings)
    (address length prot : UInt64)
    (fd : Int)
    (offset : UInt64) :
    (∃ code final,
        mapMemory allocate backings address length prot
            (anonymousFlags address) fd offset space =
          .err code final ∧
          IsErrno code ∧
          (final.machine = space.machine ∨
            ∃ first,
              Lands space address (roundUp length) first ∧
                Changes allocate (InRange first (first + roundUp length))
                  space.machine final.machine)) ∨
      ∃ first final bytes,
        mapMemory allocate backings address length prot
            (anonymousFlags address) fd offset space =
          .ok first final ∧
          IsLength (roundUp length) ∧
          IsPage first ∧
          first < userLimit ∧
          Lands space address (roundUp length) first ∧
          PagesGiven allocate (pageFlags prot) bytes first space.machine
            (first + roundUp length) final.machine := by
  rcases @mapMemory_cases κ allocate backings address length prot
      (anonymousFlags address) fd offset space with
    ⟨code, final, refused, same, isErrno⟩ |
      ⟨target, fileData, middle, isTarget, same, requested, goesOn⟩
  · exact .inl ⟨code, final, refused, isErrno, .inl same⟩
  · rw [goesOn]
    unfold mapWithRuntimeAllocator
    rcases actualTarget_lands isTarget requested same with
      ⟨code, final, failed, isErrno, unchanged⟩ |
        ⟨first, found, isFirst, unchanged, isPage, below, lands⟩
    · exact
        .inl ⟨code, final, Prog.bind_of_err failed, isErrno, .inl unchanged⟩
    · rw [Prog.bind_of_ok isFirst]
      rw [← unchanged] at ready ⊢
      rcases placePages_cases requested.isLength isPage below prot
          (anonymousFlags address) offset fileData ready with
        ⟨code, final, failed, isErrno, changes⟩ | ⟨final, placed, given⟩
      · exact
          .inl
            ⟨code, _, Prog.bind_of_err (onMachine_of_err failed), isErrno,
              .inr ⟨first, lands, changes⟩⟩
      · exact
          .inr
            ⟨first, _, _, Prog.bind_of_ok (onMachine_of_ok placed),
              requested.isLength, isPage, below, lands, given⟩

end VibuxOS.UserSpace
