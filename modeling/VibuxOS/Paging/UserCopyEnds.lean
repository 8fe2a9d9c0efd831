import Mathlib.Data.Nat.Find
import VibuxOS.Paging.UserBytes

namespace VibuxOS.Paging

open VibuxOS.Lib

/-!
# How a user copy ends

A copy that checks and transfers page after page returns when it covers its
range.  It fails when the range is too high, or when it comes to a page that is
not mapped with all bytes before it transferred.  In between it comes to a page
that is mapped and does not permit the transfer, and does not return.
-/

/-- A range that a copy leaves with `EFAULT`. -/
def Refused
    (space : AddressSpace)
    (able : UInt64 → Prop)
    (address : UInt64)
    (len : Nat) : Prop :=
  userLimit.toNat < address.toNat + len ∨
    ∃ index < len,
      ¬ space.Loads (address + UInt64.ofNat index) ∧
        ∀ earlier < index, able (address + UInt64.ofNat earlier)

section Ranges

variable
  {space : AddressSpace}
  {able : UInt64 → Prop}
  {pages : Copying → List UInt64}
  {transfer : UInt64 → Nat → Nat → Copy Unit}
  {address : UInt64}
  {len : Nat}

theorem not_refused_of_covered
    (mapped : ∀ virtualAddress, able virtualAddress → space.Loads virtualAddress)
    (covered : Covered able address len) :
    ¬ Refused space able address len := by
  rintro (beyond | ⟨index, inside, missing, _⟩)
  · exact Nat.not_lt_of_le covered.1 beyond
  · exact missing (mapped _ (covered.2 index inside))

section

variable (transfers : Transfers space able pages len transfer)

include transfers

/-- The loop fails at the first page that is not mapped. -/
theorem copyPages_of_refused
    {fuel offset index : Nat}
    (fuelled : len < fuel + offset)
    (reached : offset ≤ index)
    (inside : index < len)
    (missing : ¬ space.Loads (address + UInt64.ofNat index))
    (reachable :
      ∀ earlier < index, able (address + UInt64.ofNat earlier))
    (state : Copying) :
    ∃ final,
      copyPages space transfer address len fuel offset state =
        .err efault final := by
  induction fuel generalizing offset state with
  | zero =>
      omega
  | succ fuel inductionHypothesis =>
      rw [copyPages_succ (Nat.lt_of_le_of_lt reached inside)]
      by_cases here : space.Loads (address + UInt64.ofNat offset)
      · rw [here.translate, if_neg Bool.false_ne_true]
        have positive := pageLeft_pos (address + UInt64.ofNat offset)
        -- the missing page is not the page of this chunk
        have beyond :
            offset + pageLeft (address + UInt64.ofNat offset) ≤ index := by
          by_contra within
          have same :
              SamePage
                (address + UInt64.ofNat offset +
                  UInt64.ofNat (index - offset))
                (address + UInt64.ofNat offset) :=
            samePage_of_lt_pageLeft (by omega)
          rw [← add_ofNat_add, Nat.add_sub_cancel' reached] at same
          exact missing ((same.mapped _ _).mpr here)
        generalize amountIs :
          min (pageLeft (address + UInt64.ofNat offset))
            (len - offset) = amount
        have chunk :
            ∀ place < amount,
              able
                (address + UInt64.ofNat offset + UInt64.ofNat place) := by
          intro place bounded
          rw [← add_ofNat_add]
          exact reachable _ (by omega)
        obtain ⟨middle, moved, _⟩ :=
          transfers.moves _ offset amount state (by omega) chunk
        rw [Prog.bind_of_ok moved]
        exact inductionHypothesis (by omega) (by omega) middle
      · have isNone :
            (space.translate (address + UInt64.ofNat offset)).isNone = true := by
          rw [Option.isNone_iff_eq_none]
          exact Option.not_isSome_iff_eq_none.mp here
        rw [if_pos isNone]
        exact ⟨state, rfl⟩

theorem refused_of_copyPages
    (transferReturns :
      ∀ virtualAddress offset amount,
        Prog.NeverFails (transfer virtualAddress offset amount))
    {fuel offset : Nat}
    {code : UInt64}
    {state final : Copying}
    (reachable :
      ∀ earlier < offset, able (address + UInt64.ofNat earlier))
    (failed :
      copyPages space transfer address len fuel offset state =
        .err code final) :
    ∃ index < len,
      ¬ space.Loads (address + UInt64.ofNat index) ∧
        ∀ earlier < index, able (address + UInt64.ofNat earlier) := by
  induction fuel generalizing offset state with
  | zero =>
      cases failed
  | succ fuel inductionHypothesis =>
      by_cases inside : offset < len
      · rw [copyPages_succ inside] at failed
        split at failed
        · rename_i isNone
          refine ⟨offset, inside, fun loads => ?_, reachable⟩
          rw [loads.translate] at isNone
          cases isNone
        · generalize amountIs :
            min (pageLeft (address + UInt64.ofNat offset))
              (len - offset) = amount at failed
          rcases Prog.bind_eq_err.mp failed with part | ⟨_, middle, moved, later⟩
          · exact absurd part (transferReturns _ _ _ _ _ _)
          · apply inductionHypothesis _ later
            have chunk :
                ∀ place < amount,
                  able
                    (address + UInt64.ofNat offset +
                      UInt64.ofNat place) := by
              by_contra unable
              rw [transfers.stuck _ offset amount state (by omega) unable]
                at moved
              cases moved
            exact forall_range_add.mpr ⟨reachable, chunk⟩
      · rw [copyPages, if_neg inside] at failed
        cases failed

section

variable
  (transferReturns :
    ∀ virtualAddress offset amount,
      Prog.NeverFails (transfer virtualAddress offset amount))
  (some : len ≠ 0)
  (state : Copying)

include transferReturns some

theorem copyRange_fails_iff :
    (∃ code final,
        copyRange space transfer address len state = .err code final) ↔
      Refused space able address len := by
  rw [copyRange_eq some]
  constructor
  · rintro ⟨code, final, failed⟩
    split at failed
    · right
      exact
        refused_of_copyPages transfers transferReturns
          (fun _ before => absurd before (Nat.not_lt_zero _)) failed
    · rename_i beyond
      exact .inl (Nat.lt_of_not_le beyond)
  · intro refused
    split
    · rename_i below
      rcases refused with beyond | ⟨index, inside, missing, reachable⟩
      · exact absurd beyond (Nat.not_lt_of_le below)
      · obtain ⟨final, failed⟩ :=
          copyPages_of_refused transfers (Nat.lt_succ_self len)
            (Nat.zero_le index) inside missing reachable state
        exact ⟨efault, final, failed⟩
    · exact ⟨efault, state, rfl⟩

theorem copyRange_hangs_iff :
    copyRange space transfer address len state = .hang ↔
      ¬ Covered able address len ∧ ¬ Refused space able address len := by
  constructor
  · intro stuck
    constructor
    · intro covered
      obtain ⟨final, copied, _⟩ := copyRange_of_covered transfers covered state
      rw [stuck] at copied
      cases copied
    · intro refused
      obtain ⟨code, final, failed⟩ :=
        (copyRange_fails_iff transfers transferReturns some state).mpr refused
      rw [stuck] at failed
      cases failed
  · rintro ⟨uncovered, accepted⟩
    cases copied : copyRange space transfer address len state with
    | ok value final =>
        rcases covered_of_copyRange transfers copied with
            ⟨empty, _⟩ | covered
        · exact absurd empty some
        · exact absurd covered uncovered
    | err code final =>
        exact
          absurd
            ((copyRange_fails_iff transfers transferReturns some state).mp
              ⟨code, final, copied⟩)
            accepted
    | hang =>
        rfl

end

end

end Ranges

/-! ## Copies in and out -/

theorem loadBytes_neverFails
    (space : AddressSpace)
    (virtualAddress : UInt64)
    (amount : Nat) :
    Prog.NeverFails (loadBytes space virtualAddress amount) := by
  intro state code final failed
  by_cases loads :
      ∀ index < amount, space.Loads (virtualAddress + UInt64.ofNat index)
  · rw [loadBytes_of_loads loads] at failed
    cases failed
  · rw [loadBytes_of_not_loads loads] at failed
    cases failed

theorem refused_of_not_covered
    {space : AddressSpace}
    {address : UInt64}
    {len : Nat}
    (uncovered : ¬ Covered space.Loads address len) :
    Refused space space.Loads address len := by
  by_cases below : address.toNat + len ≤ userLimit.toNat
  · right
    have missing :
        ∃ index,
          index < len ∧ ¬ space.Loads (address + UInt64.ofNat index) := by
      by_contra all
      push Not at all
      exact uncovered ⟨below, all⟩
    classical
    refine ⟨Nat.find missing, (Nat.find_spec missing).1,
      (Nat.find_spec missing).2, ?_⟩
    intro earlier before
    by_contra unmapped
    have bounded := Nat.lt_trans before (Nat.find_spec missing).1
    exact Nat.find_min missing before ⟨bounded, unmapped⟩
  · exact .inl (Nat.lt_of_not_le below)

theorem copyUserIn_cases
    (space : AddressSpace)
    (address : UInt64)
    {len : Nat}
    (some : len ≠ 0)
    (state : Copying) :
    (Covered space.Loads address len ∧
        ∃ final, copyUserIn space address len state = .ok () final) ∨
      ¬ Covered space.Loads address len ∧
        ∃ final, copyUserIn space address len state = .err efault final := by
  have transfers := transfers_loadBytes space len
  have transferReturns :
      ∀ virtualAddress offset amount,
        Prog.NeverFails
          (loadBytes space virtualAddress amount >>= fun chunk =>
            Prog.modify fun state : Copying =>
              { state with
                output :=
                  blit state.output offset (fun index => chunk.getD index 0)
                    amount }) :=
    fun virtualAddress _ amount =>
      .bind (loadBytes_neverFails space virtualAddress amount)
        fun _ => .modify _
  by_cases covered : Covered space.Loads address len
  · exact .inl ⟨covered, copyUserIn_of_covered covered state⟩
  · obtain ⟨code, final, failed⟩ :=
      (copyRange_fails_iff transfers transferReturns some state).mpr
        (refused_of_not_covered covered)
    have isFault := copyRange_eq_err transferReturns failed
    subst isFault
    exact .inr ⟨covered, final, failed⟩

theorem copyUserOut_cases
    (space : AddressSpace)
    (address : UInt64)
    {input : List UInt8}
    (some : input.length ≠ 0)
    (state : Copying) :
    (Covered space.Stores address input.length ∧
        ∃ final, copyUserOut space address input state = .ok () final) ∨
      (Refused space space.Stores address input.length ∧
        ∃ final,
          copyUserOut space address input state = .err efault final) ∨
      ¬ Covered space.Stores address input.length ∧
        ¬ Refused space space.Stores address input.length ∧
        copyUserOut space address input state = .hang := by
  have transfers := transfers_storeBytes space input
  have transferReturns :
      ∀ virtualAddress offset amount,
        Prog.NeverFails
          (storeBytes space virtualAddress
            ((input.drop offset).take amount)) :=
    fun virtualAddress offset amount => storeBytes_neverFails _ _ _
  by_cases covered : Covered space.Stores address input.length
  · obtain ⟨final, copied, _⟩ := copyRange_of_covered transfers covered state
    exact .inl ⟨covered, final, copied⟩
  · by_cases refused : Refused space space.Stores address input.length
    · obtain ⟨code, final, failed⟩ :=
        (copyRange_fails_iff transfers transferReturns some state).mpr refused
      have isFault := copyRange_eq_err transferReturns failed
      subst isFault
      exact .inr (.inl ⟨refused, final, failed⟩)
    · have stuck :=
        (copyRange_hangs_iff transfers transferReturns some state).mpr
          ⟨covered, refused⟩
      exact .inr (.inr ⟨covered, refused, stuck⟩)

end VibuxOS.Paging
