import VibuxOS.Paging.UserCopySafety

namespace VibuxOS.Paging

open VibuxOS.Lib

/-!
# The bytes that the user copies move

A load returns the byte behind the mapping of its address.  A store changes the
byte behind the mapping of its address; two addresses can have the same byte
behind them, but only when they are at the same offset of their pages.  So a
range of at most a page never overwrites itself.
-/

variable
  {space : AddressSpace}
  {virtualAddress : UInt64}
  {address : UInt64}
  {input : List UInt8}
  {len : Nat}

/-- The physical address behind an address. -/
def AddressSpace.target
    (space : AddressSpace)
    (virtualAddress : UInt64) :
    Option UInt64 :=
  (space.lookup virtualAddress).map Access.physical

theorem leafAddress_mod
    {virtualAddress entry physical : UInt64}
    {level : Nat}
    (found : leafAddress virtualAddress level entry = some physical) :
    physical.toNat % 4096 = virtualAddress.toNat % 4096 := by
  have sum :
      ∀ mask size : UInt64,
        ∀ width,
          mask &&& (pageSize - 1) = 0 →
          size.toNat = 2 ^ width - 1 →
          12 ≤ width →
          ((entry &&& mask) + (virtualAddress &&& size)).toNat % 4096 =
            virtualAddress.toNat % 4096 := by
    intro mask size width high low wide
    have base := toNat_and_mod_page entry mask high
    have offset := toNat_and_low virtualAddress size low
    have factor : 4096 ∣ 2 ^ width := Nat.pow_dvd_pow 2 wide
    have inner := Nat.mod_mod_of_dvd virtualAddress.toNat factor
    rw [UInt64.toNat_add, offset]
    omega
  unfold leafAddress at found
  split at found
  · cases found
  · split at found
    · cases found
      exact sum _ _ 30 (by decide) (by decide) (by decide)
    · cases found
      exact sum _ _ 21 (by decide) (by decide) (by decide)
    · cases found
      exact sum _ _ 12 (by decide) (by decide) (by decide)
    · cases found

theorem AddressSpace.target_mod
    {virtualAddress physical : UInt64}
    (found : space.target virtualAddress = some physical) :
    physical.toNat % 4096 = virtualAddress.toNat % 4096 := by
  unfold AddressSpace.target AddressSpace.lookup Paging.lookup at found
  split at found
  · cases last : (path space.memory space.cr3 virtualAddress).getLast? with
    | none =>
        rw [last] at found
        cases found
    | some visit =>
        rw [last, Option.bind_some, Option.map_map] at found
        obtain ⟨place, isLeaf, rfl⟩ := Option.map_eq_some_iff.mp found
        exact leafAddress_mod isLeaf
  · cases found

theorem AddressSpace.target_of_loads
    (loads : space.Loads virtualAddress) :
    ∃ physical, space.target virtualAddress = some physical := by
  obtain ⟨physical, found⟩ := lookup_of_mapped loads
  have found' : space.lookup virtualAddress = some ⟨physical, _, _⟩ := found
  refine ⟨physical, ?_⟩
  unfold AddressSpace.target
  rw [found', Option.map_some]

theorem AddressSpace.byteAt_of_target
    {virtualAddress physical : UInt64}
    (found : space.target virtualAddress = some physical)
    (bytes : UInt64 → UInt8) :
    space.byteAt bytes virtualAddress = bytes physical := by
  unfold AddressSpace.target at found
  unfold AddressSpace.byteAt
  obtain ⟨access, isAccess, rfl⟩ := Option.map_eq_some_iff.mp found
  rw [isAccess]

theorem storeByte_eq_ok
    {byte : UInt8}
    {state final : Copying}
    (stored : storeByte space virtualAddress byte state = .ok () final) :
    ∃ physical,
      space.target virtualAddress = some physical ∧
        final.bytes = Function.update state.bytes physical byte := by
  unfold storeByte at stored
  unfold AddressSpace.target
  cases found : space.lookup virtualAddress with
  | none =>
      rw [found] at stored
      cases stored
  | some access =>
      rw [found] at stored
      dsimp only at stored
      split at stored
      · cases stored
        exact ⟨access.physical, rfl, rfl⟩
      · cases stored

/-! ## What a store of several bytes does -/

/-- The bytes of a range are stored and all others kept. -/
structure Stored
    (space : AddressSpace)
    (address : UInt64)
    (input : List UInt8)
    (before after : UInt64 → UInt8) : Prop where
  kept :
    ∀ physical,
      (∀ index < input.length,
        space.target (address + UInt64.ofNat index) ≠ some physical) →
      after physical = before physical
  written :
    input.length ≤ 4096 →
    ∀ index (inside : index < input.length),
      ∃ physical,
        space.target (address + UInt64.ofNat index) = some physical ∧
          after physical = input[index]

/-- What lands behind an address is meant for an address with the same byte. -/
structure Landed
    (space : AddressSpace)
    (address : UInt64)
    (input : List UInt8)
    (before after : UInt64 → UInt8) : Prop where
  kept :
    ∀ physical,
      (∀ index < input.length,
        space.target (address + UInt64.ofNat index) ≠ some physical) →
      after physical = before physical
  landed :
    ∀ index < input.length,
      ∃ physical other,
        ∃ inside : other < input.length,
          space.target (address + UInt64.ofNat index) = some physical ∧
            space.target (address + UInt64.ofNat other) = some physical ∧
            after physical = input[other]

theorem Landed.stored
    {before after : UInt64 → UInt8}
    (landed : Landed space address input before after) :
    Stored space address input before after where
  kept := landed.kept
  written short index inside := by
    obtain ⟨physical, other, otherInside, isTarget, sameTarget, isByte⟩ :=
      landed.landed index inside
    have left := AddressSpace.target_mod isTarget
    have right := AddressSpace.target_mod sameTarget
    rw [UInt64.toNat_add, UInt64.toNat_ofNat'] at left right
    have same : other = index := by omega
    subst same
    exact ⟨physical, isTarget, isByte⟩

theorem Landed.nil
    (space : AddressSpace)
    (address : UInt64)
    (bytes : UInt64 → UInt8) :
    Landed space address [] bytes bytes where
  kept _ _ := rfl
  landed _ inside := absurd inside (Nat.not_lt_zero _)

theorem Landed.append
    {first second : List UInt8}
    {before middle after : UInt64 → UInt8}
    (one : Landed space address first before middle)
    (two :
      Landed space (address + UInt64.ofNat first.length) second middle
        after) :
    Landed space address (first ++ second) before after where
  kept physical away := by
    rw [List.length_append] at away
    rw [two.kept physical, one.kept physical]
    · intro index inside
      exact away index (Nat.lt_add_right _ inside)
    · intro index inside
      have later := away (first.length + index) (by omega)
      rwa [add_ofNat_add] at later
  landed := by
    -- a byte of the second range is there to stay
    have second_landed :
        ∀ index < second.length,
          ∃ physical other,
            ∃ inside : other < (first ++ second).length,
              space.target
                  (address + UInt64.ofNat (first.length + index)) =
                some physical ∧
              space.target (address + UInt64.ofNat other) = some physical ∧
              after physical = (first ++ second)[other] := by
      intro index inside
      obtain ⟨physical, other, otherInside, isTarget, sameTarget, isByte⟩ :=
        two.landed index inside
      refine ⟨physical, first.length + other, ?_, ?_, ?_, ?_⟩
      · rw [List.length_append]
        omega
      · rwa [add_ofNat_add]
      · rwa [add_ofNat_add]
      · rw [isByte, List.getElem_append_right (Nat.le_add_right _ _)]
        simp only [Nat.add_sub_cancel_left]
    intro index inside
    rw [List.length_append] at inside
    by_cases early : index < first.length
    · obtain ⟨physical, other, otherInside, isTarget, sameTarget, isByte⟩ :=
        one.landed index early
      by_cases covered :
          ∀ later < second.length,
            space.target
                (address + UInt64.ofNat first.length +
                  UInt64.ofNat later) ≠
              some physical
      · refine ⟨physical, other, ?_, isTarget, sameTarget, ?_⟩
        · rw [List.length_append]
          omega
        · rw [two.kept physical covered, isByte,
            List.getElem_append_left otherInside]
      · push Not at covered
        obtain ⟨later, laterInside, again⟩ := covered
        obtain ⟨found, last, lastInside, isFound, lastTarget, isLast⟩ :=
          second_landed later laterInside
        rw [add_ofNat_add, again, Option.some.injEq] at isFound
        subst isFound
        exact ⟨physical, last, lastInside, isTarget, lastTarget, isLast⟩
    · have place := second_landed (index - first.length) (by omega)
      rwa [Nat.add_sub_cancel' (Nat.le_of_not_lt early)] at place

theorem landed_of_storeBytes
    {state final : Copying}
    (returned :
      storeBytes space virtualAddress input state = .ok () final) :
    Landed space virtualAddress input state.bytes final.bytes := by
  induction input generalizing virtualAddress state with
  | nil =>
      cases returned
      exact Landed.nil _ _ _
  | cons byte rest inductionHypothesis =>
      obtain ⟨_, middle, stored, later⟩ := Prog.bind_eq_ok.mp returned
      obtain ⟨physical, isTarget, isUpdate⟩ := storeByte_eq_ok stored
      have here :
          space.target (virtualAddress + UInt64.ofNat 0) = some physical := by
        rwa [show UInt64.ofNat 0 = 0 from rfl, UInt64.add_zero]
      have one : Landed space virtualAddress [byte] state.bytes middle.bytes := by
        constructor
        · intro other away
          have apart := away 0 (by decide : 0 < 1)
          rw [here] at apart
          rw [isUpdate,
            Function.update_of_ne fun same => apart (congrArg some same.symm)]
        · intro index inside
          have first : index = 0 := Nat.lt_one_iff.mp inside
          subst first
          refine ⟨physical, 0, inside, here, here, ?_⟩
          rw [isUpdate, Function.update_self]
          rfl
      exact one.append (inductionHypothesis later)

/-! ## The loop over pages -/

section Ranges

variable
  {space : AddressSpace}
  {len : Nat}
  {transfer : UInt64 → Nat → Nat → Copy Unit}
  {address : UInt64}
  {invariant : Nat → Copying → Prop}

theorem copyPages_induct
    (keeps :
      ∀ offset amount state final,
        offset + amount ≤ len →
        transfer (address + UInt64.ofNat offset) offset amount state =
          .ok () final →
        invariant offset state →
        invariant (offset + amount) final)
    {fuel offset : Nat}
    (inside : offset ≤ len)
    {state final : Copying}
    (copied :
      copyPages space transfer address len fuel offset state =
        .ok () final)
    (holds : invariant offset state) :
    invariant len final := by
  induction fuel generalizing offset state with
  | zero =>
      cases copied
  | succ fuel inductionHypothesis =>
      rcases Nat.lt_or_eq_of_le inside with more | rfl
      · rw [copyPages_succ more] at copied
        generalize amountIs :
          min (pageLeft (address + UInt64.ofNat offset))
            (len - offset) = amount at copied
        have atMost : offset + amount ≤ len := by
          omega
        split at copied
        · cases copied
        · obtain ⟨_, middle, moved, later⟩ := Prog.bind_eq_ok.mp copied
          exact inductionHypothesis atMost later
            (keeps offset amount state middle atMost moved holds)
      · rw [copyPages, if_neg (Nat.lt_irrefl _)] at copied
        cases copied
        exact holds

theorem copyRange_induct
    (keeps :
      ∀ offset amount state final,
        offset + amount ≤ len →
        transfer (address + UInt64.ofNat offset) offset amount state =
          .ok () final →
        invariant offset state →
        invariant (offset + amount) final)
    {state final : Copying}
    (copied : copyRange space transfer address len state = .ok () final)
    (holds : invariant 0 state) :
    invariant len final := by
  by_cases empty : len = 0
  · subst empty
    cases copied
    exact holds
  · rw [copyRange_eq empty] at copied
    split at copied
    · exact copyPages_induct keeps (Nat.zero_le len) copied holds
    · cases copied

end Ranges

/-! ## The copies -/

theorem landed_of_copyUserOut
    {state final : Copying}
    (copied : copyUserOut space address input state = .ok () final) :
    Landed space address input state.bytes final.bytes := by
  have whole :=
    @copyRange_induct space input.length _ address
      (fun offset middle =>
        Landed space address (input.take offset) state.bytes middle.bytes)
      (fun offset amount middle last inside moved landed => by
        have chunk := landed_of_storeBytes moved
        have length : (input.take offset).length = offset := by
          rw [List.length_take]
          omega
        rw [← length] at chunk
        have both := landed.append chunk
        rwa [length, ← List.take_add] at both)
      state final copied
      (by
        rw [List.take_zero]
        exact Landed.nil _ _ _)
  rwa [List.take_length] at whole

theorem stored_of_copyUserOut
    {state final : Copying}
    (copied : copyUserOut space address input state = .ok () final) :
    Stored space address input state.bytes final.bytes :=
  (landed_of_copyUserOut copied).stored

theorem loadBytes_eq_ok
    {amount : Nat}
    {chunk : List UInt8}
    {state final : Copying}
    (returned :
      loadBytes space virtualAddress amount state = .ok chunk final) :
    chunk = chunkAt space state.bytes virtualAddress amount ∧
      final.bytes = state.bytes ∧ final.output = state.output := by
  by_cases loads :
      ∀ index < amount, space.Loads (virtualAddress + UInt64.ofNat index)
  · rw [loadBytes_of_loads loads] at returned
    cases returned
    exact ⟨rfl, rfl, rfl⟩
  · rw [loadBytes_of_not_loads loads] at returned
    cases returned

theorem output_of_copyUserIn
    {state final : Copying}
    (copied : copyUserIn space address len state = .ok () final) :
    ∀ index < len,
      final.output index =
        space.byteAt state.bytes (address + UInt64.ofNat index) := by
  have whole :=
    @copyRange_induct space len _ address
      (fun offset middle =>
        middle.bytes = state.bytes ∧
          ∀ index < offset,
            middle.output index =
              space.byteAt state.bytes (address + UInt64.ofNat index))
      (fun offset amount middle last _ moved holds => by
        obtain ⟨chunk, loadedState, loaded, later⟩ :=
          Prog.bind_eq_ok.mp moved
        obtain ⟨isChunk, sameBytes, sameOutput⟩ := loadBytes_eq_ok loaded
        cases later
        refine ⟨sameBytes.trans holds.1, ?_⟩
        intro index below
        dsimp only
        by_cases early : index < offset
        · rw [blit_outside (Or.inl early), sameOutput]
          exact holds.2 index early
        · have place : offset + (index - offset) = index := by
            omega
          rw [blit_inside (Nat.le_of_not_lt early) below, isChunk, chunkAt,
            List.getD_eq_getElem _ _ (by
              rw [List.length_map, List.length_range]
              omega),
            List.getElem_map, List.getElem_range, holds.1, ← add_ofNat_add,
            place])
      state final copied
      ⟨rfl, fun _ below => absurd below (Nat.not_lt_zero _)⟩
  exact whole.2

theorem copyUserIn_of_covered
    (covered : Covered space.Loads address len)
    (state : Copying) :
    ∃ final, copyUserIn space address len state = .ok () final := by
  obtain ⟨final, copied, _⟩ :=
    copyRange_of_covered (transfers_loadBytes space len) covered state
  exact ⟨final, copied⟩

theorem covered_of_copyUserIn
    {state final : Copying}
    (some : len ≠ 0)
    (copied : copyUserIn space address len state = .ok () final) :
    Covered space.Loads address len := by
  rcases covered_of_copyRange (transfers_loadBytes space len) copied
    with ⟨empty, _⟩ | covered
  · exact absurd empty some
  · exact covered

end VibuxOS.Paging
