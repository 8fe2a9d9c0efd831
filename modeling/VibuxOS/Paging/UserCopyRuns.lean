import VibuxOS.Paging.UserCopy

namespace VibuxOS.Paging

open VibuxOS.Lib

/-!
# What a user copy reaches

A transfer of a chunk goes through when every byte of it can be loaded or
stored, and then logs the pages of the chunk.  The loop over pages adds this up
to the whole range, and the loop of `read_c_string` to the range up to the
first zero byte.
-/

variable
  {space : AddressSpace}
  {virtualAddress : UInt64}
  {amount : Nat}
  {index : Nat}

/-- A byte that the kernel can load. -/
def AddressSpace.Loads
    (space : AddressSpace)
    (virtualAddress : UInt64) : Prop :=
  Mapped space.memory space.cr3 virtualAddress

/-- A byte that the kernel can store. -/
def AddressSpace.Stores
    (space : AddressSpace)
    (virtualAddress : UInt64) : Prop :=
  Mapped space.memory space.cr3 virtualAddress ∧
    permits write space.memory space.cr3 virtualAddress = true

/-- The byte that the processor loads from a mapped address. -/
def AddressSpace.byteAt
    (space : AddressSpace)
    (bytes : UInt64 → UInt8)
    (virtualAddress : UInt64) :
    UInt8 :=
  match space.lookup virtualAddress with
  | none => 0
  | some access => bytes access.physical

/-- The pages of the bytes of a range. -/
def touched (address : UInt64) (len : Nat) : List UInt64 :=
  (List.range len).map fun index => pageOf (address + UInt64.ofNat index)

theorem add_ofNat_add
    (address : UInt64)
    (first second : Nat) :
    address + UInt64.ofNat (first + second) =
      address + UInt64.ofNat first + UInt64.ofNat second := by
  rw [UInt64.ofNat_add, UInt64.add_assoc]

theorem add_ofNat_succ
    (address : UInt64)
    (index : Nat) :
    address + UInt64.ofNat (index + 1) =
      address + 1 + UInt64.ofNat index := by
  rw [Nat.add_comm, add_ofNat_add]
  rfl

theorem touched_succ
    (address : UInt64)
    (len : Nat) :
    touched address (len + 1) =
      pageOf address :: touched (address + 1) len := by
  unfold touched
  rw [List.range_succ_eq_map, List.map_cons, List.map_map,
    show UInt64.ofNat 0 = 0 from rfl, UInt64.add_zero]
  congr 2
  funext index
  exact congrArg pageOf (add_ofNat_succ address index)

theorem touched_add
    (address : UInt64)
    (first second : Nat) :
    touched address (first + second) =
      touched address first ++
        touched (address + UInt64.ofNat first) second := by
  unfold touched
  rw [List.range_add, List.map_append, List.map_map]
  congr 2
  funext index
  exact congrArg pageOf (add_ofNat_add address first index)

theorem pageLeft_eq
    (virtualAddress : UInt64) :
    pageLeft virtualAddress = 4096 - virtualAddress.toNat % 4096 := by
  have offset := toNat_pageOffset virtualAddress
  have below : virtualAddress &&& (pageSize - 1) ≤ pageSize := by
    rw [UInt64.le_iff_toNat_le, offset]
    exact Nat.le_of_lt (Nat.mod_lt _ (by decide : 0 < 4096))
  unfold pageLeft
  rw [UInt64.toNat_sub_of_le _ _ below, offset]
  rfl

theorem pageLeft_pos
    (virtualAddress : UInt64) :
    0 < pageLeft virtualAddress := by
  rw [pageLeft_eq]
  omega

/-! ## Chunks -/

theorem loadByte_of_loads
    (loads : space.Loads virtualAddress)
    (state : Copying) :
    loadByte space virtualAddress state =
      .ok (space.byteAt state.bytes virtualAddress)
        { state with
          readPages := state.readPages ++ [pageOf virtualAddress] } := by
  obtain ⟨physical, found⟩ := lookup_of_mapped loads
  have found' :
      space.lookup virtualAddress = some ⟨physical, _, _⟩ := found
  unfold loadByte AddressSpace.byteAt
  rw [found']
  rfl

theorem loadByte_of_not_loads
    (unable : ¬ space.Loads virtualAddress)
    (state : Copying) :
    loadByte space virtualAddress state = .hang := by
  have missing : space.lookup virtualAddress = none :=
    lookup_of_not_mapped unable
  unfold loadByte
  rw [missing]
  rfl

theorem storeByte_of_stores
    (stores : space.Stores virtualAddress)
    (byte : UInt8)
    (state : Copying) :
    ∃ bytes,
      storeByte space virtualAddress byte state =
        .ok ()
          { state with
            bytes := bytes
            writtenPages := state.writtenPages ++ [pageOf virtualAddress] } := by
  obtain ⟨physical, found⟩ := lookup_of_mapped stores.1
  have found' :
      space.lookup virtualAddress = some ⟨physical, _, _⟩ := found
  unfold storeByte
  rw [found']
  dsimp only
  rw [if_pos stores.2]
  exact ⟨_, rfl⟩

theorem storeByte_of_not_stores
    (unable : ¬ space.Stores virtualAddress)
    (byte : UInt8)
    (state : Copying) :
    storeByte space virtualAddress byte state = .hang := by
  unfold storeByte
  by_cases mapped : Mapped space.memory space.cr3 virtualAddress
  · obtain ⟨physical, found⟩ := lookup_of_mapped mapped
    have found' :
        space.lookup virtualAddress = some ⟨physical, _, _⟩ := found
    rw [found']
    dsimp only
    rw [if_neg fun writable => unable ⟨mapped, writable⟩]
    rfl
  · have missing : space.lookup virtualAddress = none :=
      lookup_of_not_mapped mapped
    rw [missing]
    rfl

theorem forall_range_succ
    {able : UInt64 → Prop}
    {address : UInt64}
    {len : Nat} :
    (∀ index < len + 1, able (address + UInt64.ofNat index)) ↔
      able address ∧
        ∀ index < len, able (address + 1 + UInt64.ofNat index) := by
  constructor
  · intro holds
    constructor
    · have first := holds 0 (Nat.succ_pos len)
      rwa [show UInt64.ofNat 0 = 0 from rfl, UInt64.add_zero] at first
    · intro index bounded
      rw [← add_ofNat_succ]
      exact holds (index + 1) (Nat.succ_lt_succ bounded)
  · rintro ⟨first, rest⟩ index bounded
    cases index with
    | zero =>
        rwa [show UInt64.ofNat 0 = 0 from rfl, UInt64.add_zero]
    | succ index =>
        rw [add_ofNat_succ]
        exact rest index (Nat.lt_of_succ_lt_succ bounded)

theorem loadBytes_of_loads
    (loads :
      ∀ index < amount, space.Loads (virtualAddress + UInt64.ofNat index))
    (state : Copying) :
    loadBytes space virtualAddress amount state =
      .ok
        ((List.range amount).map fun index =>
          space.byteAt state.bytes (virtualAddress + UInt64.ofNat index))
        { state with
          readPages := state.readPages ++ touched virtualAddress amount } := by
  induction amount generalizing virtualAddress state with
  | zero =>
      simp [loadBytes, touched]
  | succ amount inductionHypothesis =>
      obtain ⟨first, rest⟩ := forall_range_succ.mp loads
      unfold loadBytes
      rw [Prog.bind_of_ok (loadByte_of_loads first state),
        Prog.bind_of_ok (inductionHypothesis rest _), touched_succ,
        List.range_succ_eq_map, List.map_cons, List.map_map]
      simp only [Prog.pure_apply, List.append_assoc, List.singleton_append,
        show UInt64.ofNat 0 = 0 from rfl, UInt64.add_zero]
      congr 2
      apply List.map_congr_left
      intro index _
      exact congrArg _ (add_ofNat_succ virtualAddress index).symm

theorem loadBytes_of_not_loads
    (unable :
      ¬ ∀ index < amount, space.Loads (virtualAddress + UInt64.ofNat index))
    (state : Copying) :
    loadBytes space virtualAddress amount state = .hang := by
  induction amount generalizing virtualAddress state with
  | zero =>
      exact absurd (fun _ bounded => absurd bounded (Nat.not_lt_zero _)) unable
  | succ amount inductionHypothesis =>
      unfold loadBytes
      by_cases first : space.Loads virtualAddress
      · rw [Prog.bind_of_ok (loadByte_of_loads first state)]
        apply Prog.bind_of_hang
        apply inductionHypothesis
        intro rest
        exact unable (forall_range_succ.mpr ⟨first, rest⟩)
      · exact Prog.bind_of_hang (loadByte_of_not_loads first state)

theorem storeBytes_of_stores
    {input : List UInt8}
    (stores :
      ∀ index < input.length,
        space.Stores (virtualAddress + UInt64.ofNat index))
    (state : Copying) :
    ∃ bytes,
      storeBytes space virtualAddress input state =
        .ok ()
          { state with
            bytes := bytes
            writtenPages :=
              state.writtenPages ++
                touched virtualAddress input.length } := by
  induction input generalizing virtualAddress state with
  | nil =>
      refine ⟨state.bytes, ?_⟩
      simp [storeBytes, touched]
  | cons byte rest inductionHypothesis =>
      obtain ⟨first, others⟩ := forall_range_succ.mp stores
      obtain ⟨middle, stored⟩ := storeByte_of_stores first byte state
      obtain ⟨final, storedRest⟩ := inductionHypothesis others
        { state with
          bytes := middle
          writtenPages := state.writtenPages ++ [pageOf virtualAddress] }
      refine ⟨final, ?_⟩
      unfold storeBytes
      rw [Prog.bind_of_ok stored, storedRest, List.length_cons, touched_succ,
        List.append_assoc, List.singleton_append]

theorem storeBytes_of_not_stores
    {input : List UInt8}
    (unable :
      ¬ ∀ index < input.length,
        space.Stores (virtualAddress + UInt64.ofNat index))
    (state : Copying) :
    storeBytes space virtualAddress input state = .hang := by
  induction input generalizing virtualAddress state with
  | nil =>
      exact absurd (fun _ bounded => absurd bounded (Nat.not_lt_zero _)) unable
  | cons byte rest inductionHypothesis =>
      unfold storeBytes
      by_cases first : space.Stores virtualAddress
      · obtain ⟨middle, stored⟩ := storeByte_of_stores first byte state
        rw [Prog.bind_of_ok stored]
        apply inductionHypothesis
        intro others
        exact unable (forall_range_succ.mpr ⟨first, others⟩)
      · exact Prog.bind_of_hang (storeByte_of_not_stores first byte state)

/-! ## Ranges -/

/-- A transfer of chunks that returns for bytes it is able to reach. -/
structure Transfers
    (space : AddressSpace)
    (able : UInt64 → Prop)
    (pages : Copying → List UInt64)
    (len : Nat)
    (transfer : UInt64 → Nat → Nat → Copy Unit) : Prop where
  mapped :
    ∀ virtualAddress, able virtualAddress → space.Loads virtualAddress
  moves :
    ∀ virtualAddress offset amount state,
      offset + amount ≤ len →
      (∀ index < amount, able (virtualAddress + UInt64.ofNat index)) →
      ∃ final,
        transfer virtualAddress offset amount state = .ok () final ∧
          pages final = pages state ++ touched virtualAddress amount
  stuck :
    ∀ virtualAddress offset amount state,
      offset + amount ≤ len →
      (¬ ∀ index < amount, able (virtualAddress + UInt64.ofNat index)) →
      transfer virtualAddress offset amount state = .hang

section Ranges

variable
  {space : AddressSpace}
  {able : UInt64 → Prop}
  {pages : Copying → List UInt64}
  {transfer : UInt64 → Nat → Nat → Copy Unit}
  {address : UInt64}
  {len : Nat}

theorem forall_range_add
    {first second : Nat} :
    (∀ index < first + second, able (address + UInt64.ofNat index)) ↔
      (∀ index < first, able (address + UInt64.ofNat index)) ∧
        ∀ index < second,
          able
            (address + UInt64.ofNat first + UInt64.ofNat index) := by
  constructor
  · intro holds
    constructor
    · intro index bounded
      exact holds index (Nat.lt_add_right second bounded)
    · intro index bounded
      rw [← add_ofNat_add]
      exact holds (first + index) (Nat.add_lt_add_left bounded first)
  · rintro ⟨before, after⟩ index bounded
    by_cases inFirst : index < first
    · exact before index inFirst
    · have rest := after (index - first) (by omega)
      rw [← add_ofNat_add] at rest
      rwa [Nat.add_sub_cancel' (Nat.le_of_not_lt inFirst)] at rest

theorem copyPages_succ
    {fuel offset : Nat}
    (inside : offset < len) :
    copyPages space transfer address len (fuel + 1) offset =
      if (space.translate (address + UInt64.ofNat offset)).isNone then
        Prog.fail efault
      else
        transfer (address + UInt64.ofNat offset) offset
            (min (pageLeft (address + UInt64.ofNat offset))
              (len - offset)) >>= fun _ =>
          copyPages space transfer address len fuel
            (offset +
              min (pageLeft (address + UInt64.ofNat offset))
                (len - offset)) := by
  rw [copyPages, if_pos inside]

theorem AddressSpace.Loads.translate
    (loads : space.Loads virtualAddress) :
    (space.translate virtualAddress).isNone = false := by
  rw [Option.isNone_eq_false_iff]
  exact loads

section

variable (transfers : Transfers space able pages len transfer)

include transfers

theorem copyPages_of_able
    {fuel offset : Nat}
    (inside : offset ≤ len)
    (fuelled : len < fuel + offset)
    (reachable :
      ∀ index < len - offset,
        able (address + UInt64.ofNat offset + UInt64.ofNat index))
    (state : Copying) :
    ∃ final,
      copyPages space transfer address len fuel offset state =
          .ok () final ∧
        pages final =
          pages state ++
            touched (address + UInt64.ofNat offset) (len - offset) := by
  induction fuel generalizing offset state with
  | zero =>
      omega
  | succ fuel inductionHypothesis =>
      rcases Nat.lt_or_eq_of_le inside with more | rfl
      · rw [copyPages_succ more]
        have positive := pageLeft_pos (address + UInt64.ofNat offset)
        generalize amountIs :
          min (pageLeft (address + UInt64.ofNat offset))
            (len - offset) = amount
        have split : len - offset = amount + (len - (offset + amount)) := by
          omega
        rw [split] at reachable ⊢
        obtain ⟨chunk, rest⟩ := forall_range_add.mp reachable
        have here : able (address + UInt64.ofNat offset) := by
          have first := chunk 0 (by omega)
          rwa [show UInt64.ofNat 0 = 0 from rfl, UInt64.add_zero] at first
        rw [(transfers.mapped _ here).translate,
          if_neg Bool.false_ne_true]
        obtain ⟨middle, moved, middlePages⟩ :=
          transfers.moves _ offset amount state (by omega) chunk
        rw [← add_ofNat_add] at rest
        obtain ⟨final, copied, finalPages⟩ :=
          inductionHypothesis (by omega) (by omega) rest middle
        refine ⟨final, ?_, ?_⟩
        · rw [Prog.bind_of_ok moved, copied]
        · rw [finalPages, middlePages, touched_add, ← add_ofNat_add,
            List.append_assoc]
      · rw [copyPages, if_neg (Nat.lt_irrefl _), Nat.sub_self]
        exact ⟨state, rfl, (List.append_nil _).symm⟩

/-- The loop returns without an error from no other range. -/
theorem able_of_copyPages
    {fuel offset : Nat}
    (inside : offset ≤ len)
    {state final : Copying}
    (copied :
      copyPages space transfer address len fuel offset state =
        .ok () final) :
    ∀ index < len - offset,
      able (address + UInt64.ofNat offset + UInt64.ofNat index) := by
  induction fuel generalizing offset state with
  | zero =>
      cases copied
  | succ fuel inductionHypothesis =>
      rcases Nat.lt_or_eq_of_le inside with more | rfl
      · rw [copyPages_succ more] at copied
        have positive := pageLeft_pos (address + UInt64.ofNat offset)
        generalize amountIs :
          min (pageLeft (address + UInt64.ofNat offset))
            (len - offset) = amount at copied
        have split : len - offset = amount + (len - (offset + amount)) := by
          omega
        split at copied
        · cases copied
        · obtain ⟨_, middle, moved, later⟩ := Prog.bind_eq_ok.mp copied
          rw [split, forall_range_add]
          constructor
          · by_contra unable
            rw [transfers.stuck _ offset amount state (by omega) unable]
              at moved
            cases moved
          · rw [← add_ofNat_add]
            exact inductionHypothesis (by omega) later
      · intro index bounded
        omega

/-- A range below `USER_LIMIT` whose bytes a transfer is able to reach. -/
def Covered
    (able : UInt64 → Prop)
    (address : UInt64)
    (len : Nat) : Prop :=
  address.toNat + len ≤ userLimit.toNat ∧
    ∀ index < len, able (address + UInt64.ofNat index)

omit transfers in
theorem copyRange_eq
    (some : len ≠ 0)
    (state : Copying) :
    copyRange space transfer address len state =
      if address.toNat + len ≤ userLimit.toNat then
        copyPages space transfer address len (len + 1) 0 state
      else
        .err efault state := by
  have limit : userLimit.toNat = 2 ^ 47 := rfl
  unfold copyRange
  rw [if_neg some]
  by_cases overflows : 2 ^ 64 ≤ address.toNat + len
  · rw [if_pos overflows, if_neg (by omega)]
    rfl
  · have stop :
        (address + UInt64.ofNat len).toNat = address.toNat + len := by
      rw [UInt64.toNat_add, UInt64.toNat_ofNat', Nat.add_mod_mod]
      exact Nat.mod_eq_of_lt (Nat.lt_of_not_le overflows)
    rw [if_neg overflows]
    simp only [UInt64.le_iff_toNat_le, UInt64.lt_iff_toNat_lt, stop]
    by_cases below : address.toNat + len ≤ userLimit.toNat
    · rw [if_pos below, if_neg (by omega)]
    · rw [if_neg below, if_pos (by omega)]
      rfl

theorem copyRange_of_covered
    (covered : Covered able address len)
    (state : Copying) :
    ∃ final,
      copyRange space transfer address len state = .ok () final ∧
        pages final = pages state ++ touched address len := by
  by_cases empty : len = 0
  · subst empty
    exact ⟨state, rfl, (List.append_nil _).symm⟩
  · rw [copyRange_eq empty, if_pos covered.1]
    have fromStart :
        ∀ index < len - 0,
          able (address + UInt64.ofNat 0 + UInt64.ofNat index) := by
      rw [show UInt64.ofNat 0 = 0 from rfl, UInt64.add_zero]
      exact covered.2
    obtain ⟨final, copied, finalPages⟩ :=
      copyPages_of_able transfers (Nat.zero_le len) (Nat.lt_succ_self len)
        fromStart state
    rw [show UInt64.ofNat 0 = 0 from rfl, UInt64.add_zero] at finalPages
    exact ⟨final, copied, finalPages⟩

theorem covered_of_copyRange
    {state final : Copying}
    (copied : copyRange space transfer address len state = .ok () final) :
    len = 0 ∧ final = state ∨ Covered able address len := by
  by_cases empty : len = 0
  · subst empty
    cases copied
    exact Or.inl ⟨rfl, rfl⟩
  · refine Or.inr ?_
    rw [copyRange_eq empty] at copied
    split at copied
    · rename_i below
      have reached := able_of_copyPages transfers (Nat.zero_le len) copied
      rw [show UInt64.ofNat 0 = 0 from rfl, UInt64.add_zero] at reached
      exact ⟨below, reached⟩
    · cases copied

end

end Ranges

/-! ## Strings -/

theorem samePage_of_lt_pageLeft
    (inside : index < pageLeft virtualAddress) :
    SamePage (virtualAddress + UInt64.ofNat index) virtualAddress := by
  rw [pageLeft_eq] at inside
  have bound := virtualAddress.toNat_lt
  unfold SamePage
  rw [UInt64.toNat_add, UInt64.toNat_ofNat']
  omega

theorem SamePage.pageOf
    {left right : UInt64}
    (same : SamePage left right) :
    pageOf left = pageOf right := by
  rw [← UInt64.toNat_inj, toNat_pageOf, toNat_pageOf]
  unfold SamePage at same
  omega

theorem mem_touched
    {address page : UInt64}
    {len : Nat} :
    page ∈ touched address len ↔
      ∃ index < len, page = pageOf (address + UInt64.ofNat index) := by
  simp only [touched, List.mem_map, List.mem_range, eq_comm]

/-- The first zero byte from an address on, behind mapped bytes only. -/
structure EndsAt
    (space : AddressSpace)
    (bytes : UInt64 → UInt8)
    (address : UInt64)
    (length : Nat) : Prop where
  loads :
    ∀ index ≤ length, space.Loads (address + UInt64.ofNat index)
  zero :
    space.byteAt bytes (address + UInt64.ofNat length) = 0
  first :
    ∀ index < length,
      space.byteAt bytes (address + UInt64.ofNat index) ≠ 0

section Strings

variable
  {space : AddressSpace}
  {address : UInt64}
  {limit : Nat}

/-- The bytes of a chunk, as the loop looks for a zero in them. -/
def chunkAt
    (space : AddressSpace)
    (bytes : UInt64 → UInt8)
    (virtualAddress : UInt64)
    (amount : Nat) :
    List UInt8 :=
  (List.range amount).map fun index =>
    space.byteAt bytes (virtualAddress + UInt64.ofNat index)

/-- The state after a chunk went to the kernel's buffer. -/
def Copying.load
    (space : AddressSpace)
    (virtualAddress : UInt64)
    (index amount : Nat)
    (state : Copying) :
    Copying :=
  { state with
    readPages := state.readPages ++ touched virtualAddress amount
    output :=
      blit state.output index
        (fun position =>
          (chunkAt space state.bytes virtualAddress amount).getD position 0)
        amount }

/-- The bytes the loop of `read_c_string` takes from an index on. -/
def amountAt (address : UInt64) (limit index : Nat) : Nat :=
  min (pageLeft (address + UInt64.ofNat index)) (limit - index)

theorem samePage_of_lt_amountAt
    {index offset : Nat}
    (bounded : offset < amountAt address limit index) :
    SamePage
      (address + UInt64.ofNat index + UInt64.ofNat offset)
      (address + UInt64.ofNat index) :=
  samePage_of_lt_pageLeft
    (Nat.lt_of_lt_of_le bounded (Nat.min_le_left _ _))

theorem pageOf_of_lt_amountAt
    {index position : Nat}
    (atLeast : index ≤ position)
    (bounded : position < index + amountAt address limit index) :
    pageOf (address + UInt64.ofNat position) =
      pageOf (address + UInt64.ofNat index) := by
  have offset : position - index < amountAt address limit index := by
    omega
  have same := (samePage_of_lt_amountAt offset).pageOf
  rwa [← add_ofNat_add, Nat.add_sub_cancel' atLeast] at same

theorem mem_chunk
    {page : UInt64}
    (positive : 0 < amountAt address limit index) :
    page ∈
        touched (address + UInt64.ofNat index)
          (amountAt address limit index) ↔
      page = pageOf (address + UInt64.ofNat index) := by
  rw [mem_touched]
  constructor
  · rintro ⟨offset, bounded, rfl⟩
    exact (samePage_of_lt_amountAt bounded).pageOf
  · intro isPage
    refine ⟨0, positive, ?_⟩
    rwa [show UInt64.ofNat 0 = 0 from rfl, UInt64.add_zero]

theorem loads_of_lt_amountAt
    (loads : space.Loads (address + UInt64.ofNat index))
    (offset : Nat)
    (bounded : offset < amountAt address limit index) :
    space.Loads (address + UInt64.ofNat index + UInt64.ofNat offset) :=
  ((samePage_of_lt_amountAt bounded).mapped _ _).mpr loads

theorem readCStringLoop_of_loads
    {fuel index : Nat}
    (inside : index < limit)
    (inRange : address.toNat + index < 2 ^ 64)
    (loads : space.Loads (address + UInt64.ofNat index))
    (state : Copying) :
    readCStringLoop space address limit (fuel + 1) index state =
      match
        (chunkAt space state.bytes (address + UInt64.ofNat index)
          (amountAt address limit index)).findIdx? (· == 0)
      with
      | some position =>
          .ok (index + position)
            (state.load space (address + UInt64.ofNat index) index
              (amountAt address limit index))
      | none =>
          readCStringLoop space address limit fuel
            (index + amountAt address limit index)
            (state.load space (address + UInt64.ofNat index) index
              (amountAt address limit index)) := by
  have loaded :=
    loadBytes_of_loads (@loads_of_lt_amountAt _ _ _ limit loads) state
  unfold amountAt at loaded ⊢
  rw [readCStringLoop, if_pos inside, if_neg (Nat.not_le_of_lt inRange),
    loads.translate, if_neg Bool.false_ne_true, Prog.bind_of_ok loaded,
    Prog.modify_bind_apply]
  unfold chunkAt
  split
  · rename_i found
    rw [found]
    rfl
  · rename_i missing
    rw [missing]
    rfl

theorem readCStringLoop_of_not_loads
    {fuel index : Nat}
    (inside : index < limit)
    (unable : ¬ space.Loads (address + UInt64.ofNat index))
    (state : Copying) :
    readCStringLoop space address limit (fuel + 1) index state =
      .err efault state := by
  have missing :
      (space.translate (address + UInt64.ofNat index)).isNone = true := by
    rw [Option.isNone_iff_eq_none, ← Option.not_isSome_iff_eq_none]
    exact unable
  by_cases overflows : 2 ^ 64 ≤ address.toNat + index
  · rw [readCStringLoop, if_pos inside, if_pos overflows]
    rfl
  · rw [readCStringLoop, if_pos inside, if_neg overflows, missing, if_pos rfl]
    rfl

theorem findIdx?_chunkAt_some
    {bytes : UInt64 → UInt8}
    {amount position : Nat} :
    (chunkAt space bytes virtualAddress amount).findIdx? (· == 0) =
        some position ↔
      position < amount ∧
        space.byteAt bytes (virtualAddress + UInt64.ofNat position) = 0 ∧
        ∀ index < position,
          space.byteAt bytes (virtualAddress + UInt64.ofNat index) ≠ 0 := by
  simp [chunkAt, List.findIdx?_eq_some_iff_getElem, and_left_comm]

theorem findIdx?_chunkAt_none
    {bytes : UInt64 → UInt8} :
    (chunkAt space bytes virtualAddress amount).findIdx? (· == 0) = none ↔
      ∀ index < amount,
        space.byteAt bytes (virtualAddress + UInt64.ofNat index) ≠ 0 := by
  simp [chunkAt]

theorem forall_range_add_bytes
    (bytes : UInt64 → UInt8)
    {first second : Nat} :
    (∀ index < first + second,
        space.byteAt bytes (address + UInt64.ofNat index) ≠ 0) ↔
      (∀ index < first,
          space.byteAt bytes (address + UInt64.ofNat index) ≠ 0) ∧
        ∀ index < second,
          space.byteAt bytes
            (address + UInt64.ofNat first + UInt64.ofNat index) ≠ 0 :=
  @forall_range_add (fun place => space.byteAt bytes place ≠ 0) _ _ _

theorem endsAt_of_readCStringLoop
    {fuel index length : Nat}
    {state final : Copying}
    (loadsBefore :
      ∀ before < index, space.Loads (address + UInt64.ofNat before))
    (noZeroBefore :
      ∀ before < index,
        space.byteAt state.bytes (address + UInt64.ofNat before) ≠ 0)
    (returned :
      readCStringLoop space address limit fuel index state =
        .ok length final) :
    EndsAt space state.bytes address length ∧ length < limit := by
  induction fuel generalizing index state with
  | zero =>
      cases returned
  | succ fuel inductionHypothesis =>
      by_cases inside : index < limit
      · by_cases inRange : address.toNat + index < 2 ^ 64
        · by_cases loads : space.Loads (address + UInt64.ofNat index)
          · rw [readCStringLoop_of_loads inside inRange loads] at returned
            have chunkLoads := @loads_of_lt_amountAt _ _ _ limit loads
            have inLimit : amountAt address limit index ≤ limit - index :=
              Nat.min_le_right _ _
            split at returned
            · rename_i position found
              obtain ⟨bounded, isZero, noZero⟩ :=
                findIdx?_chunkAt_some.mp found
              cases returned
              refine ⟨⟨?_, ?_, ?_⟩, by omega⟩
              · intro place atMost
                refine forall_range_add.mpr ⟨loadsBefore, chunkLoads⟩ place ?_
                omega
              · rwa [add_ofNat_add]
              · exact (forall_range_add_bytes state.bytes).mpr
                  ⟨noZeroBefore, noZero⟩
            · rename_i missing
              have noZero := findIdx?_chunkAt_none.mp missing
              have later :=
                @inductionHypothesis _ (state.load space _ _ _)
                  (forall_range_add.mpr ⟨loadsBefore, chunkLoads⟩)
                  ((forall_range_add_bytes state.bytes).mpr
                    ⟨noZeroBefore, noZero⟩)
                  returned
              exact later
          · rw [readCStringLoop_of_not_loads inside loads] at returned
            cases returned
        · rw [readCStringLoop, if_pos inside,
            if_pos (Nat.le_of_not_lt inRange)] at returned
          cases returned
      · rw [readCStringLoop, if_neg inside] at returned
        cases returned

theorem readCStringLoop_of_endsAt
    {fuel index length : Nat}
    {state : Copying}
    (ends : EndsAt space state.bytes address length)
    (short : length < limit)
    (inRange : address.toNat + length < 2 ^ 64)
    (before : index ≤ length)
    (fuelled : limit < fuel + index) :
    ∃ final,
      readCStringLoop space address limit fuel index state =
          .ok length final ∧
        ∀ page,
          page ∈ final.readPages ↔
            page ∈ state.readPages ∨
              ∃ position,
                index ≤ position ∧ position ≤ length ∧
                  page = pageOf (address + UInt64.ofNat position) := by
  induction fuel generalizing index state with
  | zero =>
      omega
  | succ fuel inductionHypothesis =>
      rw [readCStringLoop_of_loads (Nat.lt_of_le_of_lt before short)
        (Nat.lt_of_le_of_lt (Nat.add_le_add_left before _) inRange)
        (ends.loads index before)]
      have positive : 0 < amountAt address limit index := by
        have pagePositive := pageLeft_pos (address + UInt64.ofNat index)
        unfold amountAt
        omega
      by_cases inChunk : length < index + amountAt address limit index
      · have found :
            (chunkAt space state.bytes (address + UInt64.ofNat index)
                (amountAt address limit index)).findIdx? (· == 0) =
              some (length - index) := by
          rw [findIdx?_chunkAt_some, ← add_ofNat_add,
            Nat.add_sub_cancel' before]
          refine ⟨by omega, ends.zero, ?_⟩
          intro offset bounded
          rw [← add_ofNat_add]
          exact ends.first _ (by omega)
        rw [found]
        dsimp only
        rw [Nat.add_sub_cancel' before]
        refine ⟨_, rfl, ?_⟩
        intro page
        rw [Copying.load, List.mem_append, mem_chunk positive]
        apply or_congr_right
        constructor
        · intro isPage
          exact ⟨index, Nat.le_refl _, before, isPage⟩
        · rintro ⟨position, atLeast, atMost, rfl⟩
          have here : position < index + amountAt address limit index :=
            Nat.lt_of_le_of_lt atMost inChunk
          exact pageOf_of_lt_amountAt atLeast here
      · have missing :
            (chunkAt space state.bytes (address + UInt64.ofNat index)
                (amountAt address limit index)).findIdx? (· == 0) =
              none := by
          rw [findIdx?_chunkAt_none]
          intro offset bounded
          rw [← add_ofNat_add]
          exact ends.first _ (by omega)
        rw [missing]
        obtain ⟨final, returned, pages⟩ :=
          @inductionHypothesis _
            (state.load space (address + UInt64.ofNat index) index
              (amountAt address limit index))
            ends (Nat.le_of_not_lt inChunk) (by omega)
        refine ⟨final, returned, ?_⟩
        intro page
        rw [pages, Copying.load, List.mem_append, mem_chunk positive, or_assoc]
        apply or_congr_right
        constructor
        · rintro (isPage | ⟨position, atLeast, atMost, isPage⟩)
          · exact ⟨index, Nat.le_refl _, before, isPage⟩
          · exact ⟨position, by omega, atMost, isPage⟩
        · rintro ⟨position, atLeast, atMost, rfl⟩
          by_cases here : position < index + amountAt address limit index
          · exact Or.inl (pageOf_of_lt_amountAt atLeast here)
          · exact Or.inr
              ⟨position, Nat.le_of_not_lt here, atMost, rfl⟩

theorem below_of_loads
    {length : Nat}
    (below : address < userLimit)
    (loads :
      ∀ index ≤ length, space.Loads (address + UInt64.ofNat index)) :
    address.toNat + length < userLimit.toNat := by
  have limitIs : userLimit.toNat = 2 ^ 47 := rfl
  rw [UInt64.lt_iff_toNat_lt, limitIs] at below
  rw [limitIs]
  by_contra beyond
  have atLimit := loads (2 ^ 47 - address.toNat) (by omega)
  have place :
      (address + UInt64.ofNat (2 ^ 47 - address.toNat)).toNat = 2 ^ 47 := by
    rw [UInt64.toNat_add, UInt64.toNat_ofNat']
    omega
  have inRange := (atLimit : Mapped _ _ _).canonical
  rw [canonical_iff, place] at inRange
  omega

theorem readCString_eq_ok
    {len length : Nat}
    {state : Copying} :
    (∃ final, readCString space address len state = .ok length final) ↔
      address < userLimit ∧ length + 1 < len ∧
        EndsAt space state.bytes address length := by
  unfold readCString
  constructor
  · rintro ⟨final, returned⟩
    split at returned
    · cases returned
    · rename_i passed
      rw [not_or, UInt64.not_le] at passed
      obtain ⟨ends, short⟩ :=
        endsAt_of_readCStringLoop
          (fun _ before => absurd before (Nat.not_lt_zero _))
          (fun _ before => absurd before (Nat.not_lt_zero _))
          returned
      exact ⟨passed.2, by omega, ends⟩
  · rintro ⟨below, short, ends⟩
    have inRange := below_of_loads below ends.loads
    have limitIs : userLimit.toNat = 2 ^ 47 := rfl
    rw [if_neg]
    · obtain ⟨final, returned, _⟩ :=
        @readCStringLoop_of_endsAt _ _ (len - 1) len 0 length state ends
          (by omega) (by omega) (Nat.zero_le _) (by omega)
      exact ⟨final, returned⟩
    · rw [not_or, UInt64.not_le]
      exact ⟨by omega, below⟩

theorem readPages_of_readCString
    {len length : Nat}
    {state final : Copying}
    (returned : readCString space address len state = .ok length final)
    (page : UInt64) :
    page ∈ final.readPages ↔
      page ∈ state.readPages ∨
        ∃ position ≤ length,
          page = pageOf (address + UInt64.ofNat position) := by
  obtain ⟨below, short, ends⟩ := readCString_eq_ok.mp ⟨final, returned⟩
  have inRange := below_of_loads below ends.loads
  have limitIs : userLimit.toNat = 2 ^ 47 := rfl
  obtain ⟨other, looped, pages⟩ :=
    @readCStringLoop_of_endsAt _ _ (len - 1) len 0 length state ends
      (by omega) (by omega) (Nat.zero_le _) (by omega)
  unfold readCString at returned
  split at returned
  · cases returned
  · rw [looped] at returned
    cases returned
    rw [pages]
    simp

end Strings

end VibuxOS.Paging
