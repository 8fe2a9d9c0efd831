import VibuxOS.Paging.UserBytes

namespace VibuxOS.Paging

open VibuxOS.Lib

/-!
# When the user copies are exact

The loads are exact on every page table.  A copy to user memory asks for a mapping
only: where a page is not writable the processor faults, and the kernel does not come
back.  On writable pages it is exact unless addresses share a byte and disagree on it.
-/

section Exact

variable
  (space : AddressSpace)
  (bytes : UInt64 → UInt8)
  (output : Nat → UInt8)
  (address : UInt64)

/-- What `copy_user_in` should do. -/
def InExact (len : Nat) : Prop :=
  ((∃ final,
      copyUserIn space address len (.start bytes output) = .ok () final) ↔
    len = 0 ∨ Covered space.Loads address len) ∧
    ∀ final,
      copyUserIn space address len (.start bytes output) = .ok () final →
      ∀ index < len,
        final.output index =
          space.byteAt bytes (address + UInt64.ofNat index)

/-- A mapped byte of the user that is not in a range. -/
def Beside (len : Nat) (other : UInt64) : Prop :=
  other < userLimit ∧
    space.Loads other ∧
    ∀ index < len, address + UInt64.ofNat index ≠ other

/-- What `copy_user_out` should do. -/
def OutExact (input : List UInt8) : Prop :=
  ((∃ final,
      copyUserOut space address input (.start bytes output) = .ok () final) ↔
    input.length = 0 ∨ Covered space.Loads address input.length) ∧
    ∀ final,
      copyUserOut space address input (.start bytes output) = .ok () final →
      (∀ index (inside : index < input.length),
          space.byteAt final.bytes (address + UInt64.ofNat index) =
            input[index]) ∧
        ∀ other,
          Beside space address input.length other →
          space.byteAt final.bytes other = space.byteAt bytes other

/-- What `read_c_string` should do. -/
def StringExact (len : Nat) : Prop :=
  ∀ length,
    ((∃ final,
        readCString space address len (.start bytes output) =
          .ok length final) ↔
      address < userLimit ∧
        length + 1 < len ∧
        EndsAt space bytes address length) ∧
      ∀ final,
        readCString space address len (.start bytes output) =
          .ok length final →
        ∀ index < length,
          final.output index =
            space.byteAt bytes (address + UInt64.ofNat index)

/-- Addresses with the same byte behind them do not disagree on it. -/
structure Agreed (input : List UInt8) : Prop where
  inside :
    ∀ left right
      (leftInside : left < input.length) (rightInside : right < input.length),
      space.target (address + UInt64.ofNat left) =
        space.target (address + UInt64.ofNat right) →
      input[left] = input[right]
  beside :
    ∀ other,
      Beside space address input.length other →
      ∀ index (inside : index < input.length),
        space.target (address + UInt64.ofNat index) = space.target other →
        input[index] = space.byteAt bytes other

end Exact

variable
  {space : AddressSpace}
  {bytes : UInt64 → UInt8}
  {output : Nat → UInt8}
  {address : UInt64}

/-! ## Loads -/

theorem copyUserIn_exact
    (len : Nat) :
    InExact space bytes output address len := by
  refine ⟨⟨?_, ?_⟩, fun final copied => output_of_copyUserIn copied⟩
  · rintro ⟨final, copied⟩
    by_cases empty : len = 0
    · exact .inl empty
    · exact .inr (covered_of_copyUserIn empty copied)
  · rintro (rfl | covered)
    · exact ⟨_, rfl⟩
    · exact copyUserIn_of_covered covered _

theorem output_of_readCStringLoop
    {limit fuel index length : Nat}
    {state final : Copying}
    (before :
      ∀ place < index,
        state.output place =
          space.byteAt state.bytes (address + UInt64.ofNat place))
    (returned :
      readCStringLoop space address limit fuel index state =
        .ok length final) :
    ∀ place < length,
      final.output place =
        space.byteAt state.bytes (address + UInt64.ofNat place) := by
  induction fuel generalizing index state with
  | zero =>
      cases returned
  | succ fuel inductionHypothesis =>
      by_cases inside : index < limit
      · by_cases inRange : address.toNat + index < 2 ^ 64
        · by_cases loads : space.Loads (address + UInt64.ofNat index)
          · rw [readCStringLoop_of_loads inside inRange loads] at returned
            -- the chunk comes behind what is in the buffer already
            have filled :
                ∀ place < index + amountAt address limit index,
                  (state.load space (address + UInt64.ofNat index) index
                      (amountAt address limit index)).output place =
                    space.byteAt state.bytes
                      (address + UInt64.ofNat place) := by
              intro place below
              unfold Copying.load
              dsimp only
              by_cases early : place < index
              · rw [blit_outside (Or.inl early)]
                exact before place early
              · have split : index + (place - index) = place := by omega
                rw [blit_inside (Nat.le_of_not_lt early) below, chunkAt,
                  List.getD_eq_getElem _ _ (by
                    rw [List.length_map, List.length_range]
                    omega),
                  List.getElem_map, List.getElem_range, ← add_ofNat_add,
                  split]
            split at returned
            · rename_i position found
              obtain ⟨bounded, _⟩ := findIdx?_chunkAt_some.mp found
              cases returned
              exact fun place below => filled place (by omega)
            · exact
                @inductionHypothesis _
                  (state.load space (address + UInt64.ofNat index) index
                    (amountAt address limit index)) filled returned
          · rw [readCStringLoop_of_not_loads inside loads] at returned
            cases returned
        · rw [readCStringLoop, if_pos inside,
            if_pos (Nat.le_of_not_lt inRange)] at returned
          cases returned
      · rw [readCStringLoop, if_neg inside] at returned
        cases returned

theorem readCString_exact
    (len : Nat) :
    StringExact space bytes output address len := by
  refine fun length => ⟨readCString_eq_ok, ?_⟩
  intro final returned
  unfold readCString at returned
  split at returned
  · cases returned
  · exact
      output_of_readCStringLoop
        (fun _ below => absurd below (Nat.not_lt_zero _)) returned

/-! ## Stores -/

section Stores

variable {input : List UInt8}

theorem copyUserOut_returns_iff
    (state : Copying) :
    (∃ final, copyUserOut space address input state = .ok () final) ↔
      input.length = 0 ∨ Covered space.Stores address input.length := by
  have transfers := transfers_storeBytes space input
  constructor
  · rintro ⟨final, copied⟩
    exact (covered_of_copyRange transfers copied).imp And.left id
  · rintro (empty | covered)
    · rw [copyUserOut, copyRange, if_pos empty]
      exact ⟨_, rfl⟩
    · obtain ⟨final, copied, _⟩ :=
        copyRange_of_covered transfers covered state
      exact ⟨final, copied⟩

theorem AddressSpace.byteAt_congr
    {left right : UInt64}
    (same : space.target left = space.target right)
    (contents : UInt64 → UInt8) :
    space.byteAt contents left = space.byteAt contents right := by
  unfold AddressSpace.target at same
  unfold AddressSpace.byteAt
  cases atLeft : space.lookup left <;> cases atRight : space.lookup right <;>
    simp_all

theorem Landed.exact
    {final : UInt64 → UInt8}
    (landed : Landed space address input bytes final)
    (agreed : Agreed space bytes address input) :
    (∀ index (inside : index < input.length),
        space.byteAt final (address + UInt64.ofNat index) = input[index]) ∧
      ∀ other,
        Beside space address input.length other →
        space.byteAt final other = space.byteAt bytes other := by
  have stored :
      ∀ index (inside : index < input.length),
        space.byteAt final (address + UInt64.ofNat index) = input[index] := by
    intro index inside
    obtain ⟨physical, last, lastInside, isTarget, lastTarget, isByte⟩ :=
      landed.landed index inside
    rw [AddressSpace.byteAt_of_target isTarget, isByte]
    exact
      agreed.inside last index lastInside inside
        (lastTarget.trans isTarget.symm)
  refine ⟨stored, ?_⟩
  intro other beside
  obtain ⟨physical, isTarget⟩ := AddressSpace.target_of_loads beside.2.1
  by_cases shared :
      ∃ index < input.length,
        space.target (address + UInt64.ofNat index) = some physical
  · obtain ⟨index, inside, sameTarget⟩ := shared
    have same := sameTarget.trans isTarget.symm
    rw [← AddressSpace.byteAt_congr same, stored index inside]
    exact agreed.beside other beside index inside same
  · push Not at shared
    rw [AddressSpace.byteAt_of_target isTarget,
      AddressSpace.byteAt_of_target isTarget]
    exact landed.kept physical shared

theorem agreed_of_exact
    {final : UInt64 → UInt8}
    (stored :
      ∀ index (inside : index < input.length),
        space.byteAt final (address + UInt64.ofNat index) = input[index])
    (kept :
      ∀ other,
        Beside space address input.length other →
        space.byteAt final other = space.byteAt bytes other) :
    Agreed space bytes address input where
  inside left right leftInside rightInside same := by
    rw [← stored left leftInside, ← stored right rightInside]
    exact AddressSpace.byteAt_congr same final
  beside other beside index inside same := by
    rw [← stored index inside, ← kept other beside]
    exact AddressSpace.byteAt_congr same final

theorem copyUserOut_exact_iff :
    OutExact space bytes output address input ↔
      (Covered space.Loads address input.length →
        Covered space.Stores address input.length ∧
          Agreed space bytes address input) := by
  unfold OutExact
  rw [copyUserOut_returns_iff]
  constructor
  · rintro ⟨returns, exactly⟩ mapped
    have covered : Covered space.Stores address input.length := by
      rcases returns.mpr (.inr mapped) with empty | covered
      · rw [empty]
        exact ⟨empty ▸ mapped.1, fun _ inside => absurd inside (Nat.not_lt_zero _)⟩
      · exact covered
    obtain ⟨final, copied⟩ :=
      (copyUserOut_returns_iff (.start bytes output)).mpr (.inr covered)
    obtain ⟨stored, kept⟩ := exactly final copied
    exact ⟨covered, agreed_of_exact stored kept⟩
  · intro condition
    have mapped_of_stores :
        Covered space.Stores address input.length →
        Covered space.Loads address input.length :=
      fun covered => ⟨covered.1, fun index inside => (covered.2 index inside).1⟩
    refine ⟨or_congr_right ⟨mapped_of_stores, And.left ∘ condition⟩, ?_⟩
    intro final copied
    rcases (copyUserOut_returns_iff _).mp ⟨final, copied⟩ with empty | covered
    · -- an empty copy leaves the memory alone
      rw [copyUserOut, copyRange, if_pos empty] at copied
      cases copied
      exact
        ⟨fun index inside => absurd inside (by omega), fun _ _ => rfl⟩
    · have agreed := (condition (mapped_of_stores covered)).2
      exact (landed_of_copyUserOut copied).exact agreed

end Stores

/-- Loads are always exact; stores where the mapped bytes are writable and agree. -/
theorem userCopies_exact_iff
    (space : AddressSpace)
    (bytes : UInt64 → UInt8)
    (output : Nat → UInt8)
    (address : UInt64) :
    (∀ len, InExact space bytes output address len) ∧
      (∀ input,
        OutExact space bytes output address input ↔
          (Covered space.Loads address input.length →
            Covered space.Stores address input.length ∧
              Agreed space bytes address input)) ∧
      ∀ len, StringExact space bytes output address len :=
  ⟨copyUserIn_exact, fun _ => copyUserOut_exact_iff, readCString_exact⟩

/-- Tables with one page of the user, present but not writable. -/
def programTextSpace : AddressSpace where
  cr3 := 0x1000
  memory slot :=
    if slot = ⟨0x1000, 0⟩ then 0x2007
    else if slot = ⟨0x2000, 0⟩ then 0x3007
    else if slot = ⟨0x3000, 0⟩ then 0x4007
    else if slot = ⟨0x4000, 5⟩ then 0x8005
    else 0

/-- A copy to a mapped page of program text does not come back. -/
theorem program_text_stops :
    ¬ ∀ space bytes output address,
        (∀ len, InExact space bytes output address len) ∧
          (∀ input, OutExact space bytes output address input) ∧
          ∀ len, StringExact space bytes output address len := by
  intro claimed
  have returns :=
    ((claimed programTextSpace (fun _ => 0) (fun _ => 0) 0x5000).2.1 [1]).1
  have mapped : Covered programTextSpace.Loads 0x5000 1 := by
    refine ⟨by decide, ?_⟩
    intro index inside
    rw [Nat.lt_one_iff.mp inside]
    change Mapped _ _ _
    decide
  -- the table lets the copy through, and then the processor faults on the store
  obtain ⟨final, copied⟩ := returns.mpr (.inr mapped)
  cases copied

end VibuxOS.Paging
