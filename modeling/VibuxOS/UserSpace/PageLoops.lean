import VibuxOS.UserSpace.PageChanges

namespace VibuxOS.UserSpace

open VibuxOS.Lib VibuxOS.Paging

/-!
# Loops over the pages of a range

The loops of the memory calls go from the first page of a range to its end.
What every turn makes of a condition on the page and the tables, the loop makes
of it; and a loop with enough turns returns when its turns do.
-/

variable {κ ε : Type}

/-! ## Programs over the tables -/

section OnMachine

variable {α : Type} {program : Kernel κ ε α} {space : Space κ} {final : Machine κ}

theorem onMachine_of_ok
    {value : α}
    (returned : program space.machine = .ok value final) :
    onMachine program space = .ok value { space with machine := final } :=
  Prog.onPart_eq_ok.mpr ⟨final, returned, rfl⟩

theorem onMachine_of_err
    {error : ε}
    (failed : program space.machine = .err error final) :
    onMachine program space = .err error { space with machine := final } :=
  Prog.onPart_eq_err.mpr ⟨final, failed, rfl⟩

end OnMachine

/-! ## Addresses of pages -/

abbrev IsPage (address : UInt64) : Prop := address.toNat % 4096 = 0

theorem isPage_iff (address : UInt64) :
    (address &&& (pageSize - 1) != 0) = false ↔ IsPage address := by
  rw [bne_eq_false_iff_eq, ← UInt64.toNat_inj, toNat_pageOffset]
  rfl

theorem isPage_pageOf (address : UInt64) : IsPage (pageOf address) := by
  have start := toNat_pageOf address
  unfold IsPage
  omega

theorem toNat_nextPage
    {page stop : UInt64}
    (isPage : IsPage page)
    (stopIsPage : IsPage stop)
    (inside : page < stop) :
    (page + pageSize).toNat = page.toNat + 4096 ∧
      page.toNat + 4096 ≤ stop.toNat := by
  have bound := stop.toNat_lt
  have size : pageSize.toNat = 4096 := rfl
  have within : page.toNat < stop.toNat := UInt64.lt_iff_toNat_lt.mp inside
  unfold IsPage at isPage stopIsPage
  rw [UInt64.toNat_add, size]
  omega

theorem toNat_rounded
    {length rounded : UInt64}
    (isRounded : (checkedAdd length (pageSize - 1)).map pageOf = some rounded) :
    rounded.toNat = (length.toNat + 4095) / 4096 * 4096 := by
  obtain ⟨sum, added, rfl⟩ := Option.map_eq_some_iff.mp isRounded
  have sumIs := toNat_of_checkedAdd added
  have size : (pageSize - 1).toNat = 4095 := rfl
  rw [toNat_pageOf, sumIs, size]
  omega

def InRange (first stop address : UInt64) : Prop :=
  first ≤ address ∧ address < stop

theorem inRange_of_samePage
    {first stop address other : UInt64}
    (firstIsPage : IsPage first)
    (stopIsPage : IsPage stop)
    (same : SamePage address other)
    (inside : InRange first stop other) :
    InRange first stop address := by
  unfold InRange at inside ⊢
  unfold SamePage at same
  unfold IsPage at firstIsPage stopIsPage
  rw [UInt64.le_iff_toNat_le, UInt64.lt_iff_toNat_lt] at inside ⊢
  omega

theorem inRange_pageOf
    {first stop address : UInt64}
    (firstIsPage : IsPage first)
    (stopIsPage : IsPage stop)
    (inside : InRange first stop address) :
    InRange first stop (pageOf address) :=
  inRange_of_samePage firstIsPage stopIsPage (samePage_pageOf address) inside

theorem not_inRange_self (first address : UInt64) :
    ¬ InRange first first address :=
  fun inside =>
    UInt64.lt_irrefl _ (UInt64.lt_of_le_of_lt inside.1 inside.2)

theorem inRange_nextPage
    {first stop page address : UInt64}
    (after : first ≤ page)
    (isPage : IsPage page)
    (stopIsPage : IsPage stop)
    (inside : page < stop) :
    InRange first (page + pageSize) address ↔
      InRange first page address ∨ SamePage address page := by
  obtain ⟨next, _⟩ := toNat_nextPage isPage stopIsPage inside
  unfold InRange SamePage
  unfold IsPage at isPage
  rw [UInt64.le_iff_toNat_le] at after ⊢
  rw [UInt64.lt_iff_toNat_lt, UInt64.lt_iff_toNat_lt, next]
  omega

/-! ## Rules of the loop -/

section Rules

variable {body : UInt64 → Kernel κ ε Unit} {stop : UInt64}

theorem forPages_of_le
    {fuel : Nat}
    {page : UInt64}
    (atEnd : stop ≤ page) :
    forPages body stop (fuel + 1) page = pure () := by
  have notBelow : ¬ page < stop := UInt64.not_lt.mpr atEnd
  rw [forPages, if_neg notBelow]

theorem ensures_forPages_from
    {condition : UInt64 → Machine κ → Prop}
    {failed : Machine κ → Prop}
    {first : UInt64}
    (stopIsPage : IsPage stop)
    (turn :
      ∀ page,
        IsPage page →
        InRange first stop page →
        Prog.Ensures (condition page) (body page)
          (fun _ => condition (page + pageSize)) failed)
    (fuel : Nat)
    {page : UInt64}
    (isPage : IsPage page)
    (after : first ≤ page)
    (before : page ≤ stop) :
    Prog.Ensures (condition page) (forPages body stop fuel page)
      (fun _ => condition stop) failed := by
  induction fuel generalizing page with
  | zero =>
      exact Prog.Ensures.hang
  | succ fuel inductionHypothesis =>
      rw [forPages]
      apply Prog.Ensures.ite
      · intro inside
        obtain ⟨next, within⟩ := toNat_nextPage isPage stopIsPage inside
        have nextIsPage : IsPage (page + pageSize) := by
          unfold IsPage at isPage ⊢
          omega
        have nextAfter : first ≤ page + pageSize := by
          rw [UInt64.le_iff_toNat_le] at after ⊢
          omega
        have nextBefore : page + pageSize ≤ stop := by
          rw [UInt64.le_iff_toNat_le]
          omega
        exact
          (turn page isPage ⟨after, inside⟩).bind
            fun _ => inductionHypothesis nextIsPage nextAfter nextBefore
      · intro atEnd
        have same : page = stop :=
          UInt64.le_antisymm before (UInt64.not_lt.mp atEnd)
        subst same
        exact Prog.Ensures.pure fun _ holds => holds

theorem ensures_forPages
    {condition : UInt64 → Machine κ → Prop}
    {failed : Machine κ → Prop}
    {first : UInt64}
    (stopIsPage : IsPage stop)
    (turn :
      ∀ page,
        IsPage page →
        InRange first stop page →
        Prog.Ensures (condition page) (body page)
          (fun _ => condition (page + pageSize)) failed)
    (fuel : Nat)
    (isPage : IsPage first)
    (before : first ≤ stop) :
    Prog.Ensures (condition first) (forPages body stop fuel first)
      (fun _ => condition stop) failed :=
  ensures_forPages_from stopIsPage turn fuel isPage (UInt64.le_refl _) before

theorem ends_forPages
    (stopIsPage : IsPage stop)
    (turnEnds : ∀ page, Prog.Ends (body page))
    {fuel : Nat}
    {page : UInt64}
    (isPage : IsPage page)
    (enough : stop.toNat - page.toNat < 4096 * fuel) :
    Prog.Ends (forPages body stop fuel page) := by
  induction fuel generalizing page with
  | zero =>
      omega
  | succ fuel inductionHypothesis =>
      rw [forPages]
      by_cases inside : page < stop
      · obtain ⟨next, within⟩ := toNat_nextPage isPage stopIsPage inside
        have nextIsPage : IsPage (page + pageSize) := by
          unfold IsPage at isPage ⊢
          omega
        rw [if_pos inside]
        exact
          (turnEnds page).bind
            fun _ => inductionHypothesis nextIsPage (by omega)
      · rw [if_neg inside]
        exact .pure _

theorem raises_forPages
    {property : ε → Prop}
    (turnRaises : ∀ page, Prog.Raises property (body page))
    (fuel : Nat)
    (page : UInt64) :
    Prog.Raises property (forPages body stop fuel page) := by
  induction fuel generalizing page with
  | zero =>
      exact .hang
  | succ fuel inductionHypothesis =>
      exact
        .ite
          (.bind (turnRaises page) fun _ =>
            inductionHypothesis (page + pageSize))
          (.pure _)

end Rules

/-! ## `munmap` and `mprotect` -/

theorem overPages_eq
    {body : UInt64 → Kernel κ UInt64 Unit}
    {address length rounded : UInt64}
    (isPage : IsPage address)
    (isRounded :
      (checkedAdd length (pageSize - 1)).map pageOf = some rounded) :
    overPages body address length =
      onMachine
          (forPages body (address + rounded) (turns rounded) address) >>=
        fun _ => pure 0 := by
  unfold overPages
  rw [(isPage_iff address).mpr isPage, if_neg Bool.false_ne_true, isRounded]

theorem isPage_stop
    {address rounded : UInt64}
    (isPage : IsPage address)
    (roundedIsPage : IsPage rounded) :
    IsPage (address + rounded) ∧
      (address + rounded).toNat - address.toNat < 4096 * turns rounded := by
  unfold IsPage turns at *
  rw [UInt64.toNat_add]
  omega

/-- The tables that `munmap` and `mprotect` leave are those of their loop. -/
theorem final_overPages
    {body : UInt64 → Kernel κ UInt64 Unit}
    {address length rounded : UInt64}
    (isPage : IsPage address)
    (isRounded :
      (checkedAdd length (pageSize - 1)).map pageOf = some rounded)
    (space : Space κ) :
    (overPages body address length space).final? =
      (forPages body (address + rounded) (turns rounded) address
          space.machine).final?.map
        fun machine => { space with machine := machine } := by
  rw [overPages_eq isPage isRounded]
  cases result :
      forPages body (address + rounded) (turns rounded) address
        space.machine with
  | ok value final =>
      rw [Prog.bind_of_ok (onMachine_of_ok result)]
      rfl
  | err error final =>
      rw [Prog.bind_of_err (onMachine_of_err result)]
      rfl
  | hang =>
      have onSpace :
          onMachine
              (forPages body (address + rounded) (turns rounded) address)
              space =
            .hang := by
        unfold onMachine Prog.onPart
        rw [result]
      rw [Prog.bind_of_hang onSpace]
      rfl

theorem ends_range
    {body : UInt64 → Kernel κ ε Unit}
    {address rounded : UInt64}
    (turnEnds : ∀ page, Prog.Ends (body page))
    (isPage : IsPage address)
    (roundedIsPage : IsPage rounded) :
    Prog.Ends
      (forPages body (address + rounded) (turns rounded) address) := by
  obtain ⟨stopIsPage, enough⟩ := isPage_stop isPage roundedIsPage
  exact ends_forPages stopIsPage turnEnds isPage enough

end VibuxOS.UserSpace
