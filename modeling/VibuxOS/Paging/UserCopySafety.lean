import VibuxOS.Paging.UserCopyRuns

namespace VibuxOS.Paging

open VibuxOS.Lib

/-!
# Whose pages the user copies reach

The checks of the user copies ask for an address below `USER_LIMIT` and a
mapping, and not for the permissions of the mapping.  So a copy reaches user
pages only when every mapped page of its range is one, and a store that returns
is to a writable page because the processor faults on the others.
-/

variable
  {space : AddressSpace}
  {len : Nat}
  {transfer : UInt64 → Nat → Nat → Copy Unit}

/-- A page that user code may access. -/
def AddressSpace.UserPage
    (space : AddressSpace)
    (page : UInt64) : Prop :=
  Mapped space.memory space.cr3 page ∧
    permits user space.memory space.cr3 page = true

/-- A page that user code may write. -/
def AddressSpace.UserWritablePage
    (space : AddressSpace)
    (page : UInt64) : Prop :=
  space.UserPage page ∧ permits write space.memory space.cr3 page = true

/-- Every entry on the walk of an address has the `USER` bit. -/
def AddressSpace.GrantsUser
    (space : AddressSpace)
    (virtualAddress : UInt64) : Prop :=
  permits user space.memory space.cr3 virtualAddress = true

section Checks

variable
  (space : AddressSpace)
  (bytes : UInt64 → UInt8)
  (output : Nat → UInt8)
  (address : UInt64)

/-- `copy_user_in` reads user pages only, when it returns `Ok`. -/
def InIsUser (len : Nat) : Prop :=
  ∀ final,
    copyUserIn space address len (.start bytes output) = .ok () final →
    ∀ page ∈ final.readPages, space.UserPage page

/-- `copy_user_out` writes writable user pages only, when it returns `Ok`. -/
def OutIsUser (input : List UInt8) : Prop :=
  ∀ final,
    copyUserOut space address input (.start bytes output) = .ok () final →
    ∀ page ∈ final.writtenPages, space.UserWritablePage page

/-- `copy_user_zero` writes writable user pages only, when it returns 0. -/
def ZeroIsUser (len : Nat) : Prop :=
  ∀ final,
    copyUserZero space address len (.start bytes output) = .ok 0 final →
    ∀ page ∈ final.writtenPages, space.UserWritablePage page

/-- `read_c_string` reads user pages only, when it returns `Ok`. -/
def StringIsUser (len : Nat) : Prop :=
  ∀ length final,
    readCString space address len (.start bytes output) =
      .ok length final →
    ∀ page ∈ final.readPages, space.UserPage page

end Checks

/-! ## The transfers of the copies -/

theorem transfers_loadBytes
    (space : AddressSpace)
    (len : Nat) :
    Transfers space space.Loads Copying.readPages len
      (fun virtualAddress offset amount =>
        loadBytes space virtualAddress amount >>= fun chunk =>
          Prog.modify fun state =>
            { state with
              output :=
                blit state.output offset (fun index => chunk.getD index 0)
                  amount }) where
  mapped _ loads := loads
  moves virtualAddress offset amount state _ loads := by
    rw [Prog.bind_of_ok (loadBytes_of_loads loads state)]
    exact ⟨_, rfl, rfl⟩
  stuck virtualAddress offset amount state _ unable :=
    Prog.bind_of_hang (loadBytes_of_not_loads unable state)

theorem transfers_storeBytes
    (space : AddressSpace)
    (input : List UInt8) :
    Transfers space space.Stores Copying.writtenPages input.length
      (fun virtualAddress offset amount =>
        storeBytes space virtualAddress
          ((input.drop offset).take amount)) where
  mapped _ stores := stores.1
  moves virtualAddress offset amount state inside stores := by
    have length : ((input.drop offset).take amount).length = amount := by
      rw [List.length_take, List.length_drop]
      omega
    rw [← length] at stores
    obtain ⟨final, stored⟩ := storeBytes_of_stores stores state
    refine ⟨_, stored, ?_⟩
    rw [length]
  stuck virtualAddress offset amount state inside unable := by
    have length : ((input.drop offset).take amount).length = amount := by
      rw [List.length_take, List.length_drop]
      omega
    rw [← length] at unable
    exact storeBytes_of_not_stores unable state

theorem transfers_storeZeros
    (space : AddressSpace)
    (len : Nat) :
    Transfers space space.Stores Copying.writtenPages len
      (fun virtualAddress _ amount =>
        storeBytes space virtualAddress (List.replicate amount 0)) where
  mapped _ stores := stores.1
  moves virtualAddress offset amount state _ stores := by
    have length : (List.replicate amount (0 : UInt8)).length = amount :=
      List.length_replicate
    rw [← length] at stores
    obtain ⟨final, stored⟩ := storeBytes_of_stores stores state
    refine ⟨_, stored, ?_⟩
    rw [length]
  stuck virtualAddress offset amount state _ unable := by
    have length : (List.replicate amount (0 : UInt8)).length = amount :=
      List.length_replicate
    rw [← length] at unable
    exact storeBytes_of_not_stores unable state

/-! ## What the pages of a copy are -/

theorem good_pages_iff
    {able good : UInt64 → Prop}
    {pages : Copying → List UInt64}
    {address : UInt64}
    {state : Copying}
    (transfers : Transfers space able pages len transfer)
    (fresh : pages state = [])
    (grants :
      ∀ virtualAddress,
        able virtualAddress →
        (good (pageOf virtualAddress) ↔ space.GrantsUser virtualAddress)) :
    (∀ final,
        copyRange space transfer address len state = .ok () final →
        ∀ page ∈ pages final, good page) ↔
      (Covered able address len →
        ∀ index < len, space.GrantsUser (address + UInt64.ofNat index)) := by
  constructor
  · intro holds covered index bounded
    obtain ⟨final, copied, finalPages⟩ :=
      copyRange_of_covered transfers covered state
    apply (grants _ (covered.2 index bounded)).mp
    apply holds final copied
    rw [finalPages, fresh, List.nil_append, mem_touched]
    exact ⟨index, bounded, rfl⟩
  · intro holds final copied page isPage
    rcases covered_of_copyRange transfers copied with
        ⟨_, rfl⟩ | covered
    · rw [fresh] at isPage
      cases isPage
    · obtain ⟨other, again, finalPages⟩ :=
        copyRange_of_covered transfers covered state
      rw [copied] at again
      cases again
      rw [finalPages, fresh, List.nil_append, mem_touched] at isPage
      obtain ⟨index, bounded, rfl⟩ := isPage
      exact (grants _ (covered.2 index bounded)).mpr (holds covered index bounded)

theorem userPage_pageOf
    (virtualAddress : UInt64)
    (loads : space.Loads virtualAddress) :
    space.UserPage (pageOf virtualAddress) ↔
      space.GrantsUser virtualAddress := by
  have same := samePage_pageOf virtualAddress
  unfold AddressSpace.UserPage AddressSpace.GrantsUser
  rw [same.mapped, same.permits]
  exact and_iff_right loads

theorem userWritablePage_pageOf
    (virtualAddress : UInt64)
    (stores : space.Stores virtualAddress) :
    space.UserWritablePage (pageOf virtualAddress) ↔
      space.GrantsUser virtualAddress := by
  have same := samePage_pageOf virtualAddress
  unfold AddressSpace.UserWritablePage
  rw [userPage_pageOf virtualAddress stores.1, same.permits]
  exact and_iff_left stores.2

theorem storeBytes_neverFails
    (space : AddressSpace)
    (virtualAddress : UInt64)
    (input : List UInt8) :
    Prog.NeverFails (storeBytes space virtualAddress input) := by
  intro state code final failed
  by_cases stores :
      ∀ index < input.length,
        space.Stores (virtualAddress + UInt64.ofNat index)
  · obtain ⟨_, stored⟩ := storeBytes_of_stores stores state
    rw [stored] at failed
    cases failed
  · rw [storeBytes_of_not_stores stores state] at failed
    cases failed

theorem copyPages_eq_err
    {address code : UInt64}
    {len fuel offset : Nat}
    {state final : Copying}
    (transferReturns :
      ∀ virtualAddress offset amount,
        Prog.NeverFails (transfer virtualAddress offset amount))
    (failed :
      copyPages space transfer address len fuel offset state =
        .err code final) :
    code = efault := by
  induction fuel generalizing offset state with
  | zero =>
      cases failed
  | succ fuel inductionHypothesis =>
      by_cases inside : offset < len
      · rw [copyPages_succ inside] at failed
        split at failed
        · cases failed
          rfl
        · rcases Prog.bind_eq_err.mp failed with
              part | ⟨_, middle, _, later⟩
          · exact absurd part (transferReturns _ _ _ _ _ _)
          · exact inductionHypothesis later
      · rw [copyPages, if_neg inside] at failed
        cases failed

theorem copyRange_eq_err
    {address code : UInt64}
    {state final : Copying}
    (transferReturns :
      ∀ virtualAddress offset amount,
        Prog.NeverFails (transfer virtualAddress offset amount))
    (failed :
      copyRange space transfer address len state = .err code final) :
    code = efault := by
  by_cases empty : len = 0
  · subst empty
    cases failed
  · rw [copyRange_eq empty] at failed
    split at failed
    · exact copyPages_eq_err transferReturns failed
    · cases failed
      rfl

theorem copyUserZero_eq_zero
    {address : UInt64}
    {state final : Copying} :
    copyUserZero space address len state = .ok 0 final ↔
      copyRange space
          (fun virtualAddress _ amount =>
            storeBytes space virtualAddress (List.replicate amount 0))
          address len state =
        .ok () final := by
  unfold copyUserZero
  constructor
  · intro returned
    cases copied :
        copyRange space
          (fun virtualAddress _ amount =>
            storeBytes space virtualAddress (List.replicate amount 0))
          address len state with
    | ok value middle =>
        rw [Prog.bind_of_ok (Prog.attempt_of_ok copied)] at returned
        cases returned
        rfl
    | err code middle =>
        rw [Prog.bind_of_ok (Prog.attempt_of_err copied)] at returned
        have isFault : code = efault :=
          copyRange_eq_err
            (fun _ _ _ => storeBytes_neverFails space _ _) copied
        subst isFault
        cases returned
    | hang =>
        rw [Prog.bind_of_hang (Prog.attempt_of_hang copied)] at returned
        cases returned
  · intro copied
    rw [Prog.bind_of_ok (Prog.attempt_of_ok copied)]
    rfl

/-! ## The copies -/

/--
A user copy that returns has reached user pages only, and stored to writable
ones only, exactly when in the range it copies every page it can reach is a
user page: for the loads every mapped one, for the stores every writable one,
and for a string the mapped ones up to its first zero byte.
-/
theorem user_copies_iff
    (space : AddressSpace)
    (bytes : UInt64 → UInt8)
    (output : Nat → UInt8)
    (address : UInt64) :
    (∀ len,
        InIsUser space bytes output address len ↔
          (Covered space.Loads address len →
            ∀ index < len,
              space.GrantsUser (address + UInt64.ofNat index))) ∧
      (∀ len,
        StringIsUser space bytes output address len ↔
          ∀ length,
            address < userLimit →
            length + 1 < len →
            EndsAt space bytes address length →
            ∀ index ≤ length,
              space.GrantsUser (address + UInt64.ofNat index)) ∧
      (∀ input : List UInt8,
        OutIsUser space bytes output address input ↔
          (Covered space.Stores address input.length →
            ∀ index < input.length,
              space.GrantsUser (address + UInt64.ofNat index))) ∧
      ∀ len,
        ZeroIsUser space bytes output address len ↔
          (Covered space.Stores address len →
            ∀ index < len,
              space.GrantsUser (address + UInt64.ofNat index)) := by
  refine ⟨?_, ?_, ?_, ?_⟩
  · intro len
    exact good_pages_iff (transfers_loadBytes space len) rfl userPage_pageOf
  · intro len
    constructor
    · intro holds length below short ends index atMost
      obtain ⟨final, returned⟩ :=
        (@readCString_eq_ok _ _ _ _ (.start bytes output)).mpr
          ⟨below, short, ends⟩
      apply (userPage_pageOf _ (ends.loads index atMost)).mp
      apply holds length final returned
      rw [readPages_of_readCString returned]
      exact Or.inr ⟨index, atMost, rfl⟩
    · intro holds length final returned page isPage
      obtain ⟨below, short, ends⟩ :=
        readCString_eq_ok.mp ⟨final, returned⟩
      rw [readPages_of_readCString returned] at isPage
      rcases isPage with before | ⟨index, atMost, rfl⟩
      · cases before
      · exact (userPage_pageOf _ (ends.loads index atMost)).mpr
          (holds length below short ends index atMost)
  · intro input
    exact good_pages_iff (transfers_storeBytes space input) rfl
      userWritablePage_pageOf
  · intro len
    unfold ZeroIsUser
    simp only [copyUserZero_eq_zero]
    exact good_pages_iff (transfers_storeZeros space len) rfl
      userWritablePage_pageOf

/-- Tables with one page, present and writable but without `USER`. -/
def kernelPageSpace : AddressSpace where
  cr3 := 0x1000
  memory slot :=
    if slot = ⟨0x1000, 0⟩ then 0x2007
    else if slot = ⟨0x2000, 0⟩ then 0x3007
    else if slot = ⟨0x3000, 0⟩ then 0x4007
    else if slot = ⟨0x4000, 5⟩ then 0x8003
    else 0

/-- A byte is copied from and to a page that is not a user page. -/
theorem kernel_page_copied :
    ¬ ∀ space bytes output address,
        (∀ len, InIsUser space bytes output address len) ∧
          (∀ len, StringIsUser space bytes output address len) ∧
          (∀ input, OutIsUser space bytes output address input) ∧
          ∀ len, ZeroIsUser space bytes output address len := by
  intro claimed
  have copiesIn := (claimed kernelPageSpace (fun _ => 0) (fun _ => 0) 0x5000).1
  have userPage := copiesIn 1 _ rfl 0x5000 List.mem_cons_self
  exact absurd userPage.2 (by decide)

end VibuxOS.Paging
