import Mathlib.Order.Bounds.Basic
import Mathlib.Order.Nat
import VibuxOS.Files.ReadOnlyFiles

namespace VibuxOS.Files

open VibuxOS.Lib

/-!
# Copies of descriptors, and their flags

One word holds the access mode of a descriptor, its status flags and whether it
is closed by `execve`.  `F_SETFL` puts the access mode back but takes all other
bits from its argument.  `fd_duplicate` chooses no number below 3, and
`fd_duplicate_exact` does not look at the table when both numbers are equal.
-/

/-- The calls that copy a descriptor or change its flags. -/
inductive FlagCall where
  | dup (oldFd : Int)
  | dup2 (oldFd newFd : Int)
  | dup3 (oldFd newFd : Int) (flags : UInt64)
  | dupFd (fdNumber : Int) (argument : UInt64)
  | dupFdCloexec (fdNumber : Int) (argument : UInt64)
  | setFd (fdNumber : Int) (argument : UInt64)
  | setFl (fdNumber : Int) (argument : UInt64)

/-- The smallest number that `F_DUPFD` is to return. -/
def minimum (argument : UInt64) : Int := argument.toUInt32.toBitVec.toInt

def returnsFd (call : Sys Nat) : Sys FcntlAnswer := do
  let number ← call
  pure (.fd number)

/-- The arms of the table of system calls. -/
def FlagCall.run : FlagCall → Sys FcntlAnswer
  | .dup oldFd => returnsFd (fdDuplicate oldFd 3 false)
  | .dup2 oldFd newFd => returnsFd (fdDuplicateExact oldFd newFd false)
  | .dup3 oldFd newFd flags =>
      returnsFd
        (fdDuplicateExact oldFd newFd (flags &&& Syscall.oCloexec != 0))
  | .dupFd fdNumber argument => fcntl fdNumber 0 argument
  | .dupFdCloexec fdNumber argument => fcntl fdNumber 1030 argument
  | .setFd fdNumber argument => fcntl fdNumber 2 argument
  | .setFl fdNumber argument => fcntl fdNumber 4 argument

/-! ## What the calls have to do -/

def freeNumbers (state : State) (lowest : Nat) : Set Nat :=
  {index |
    lowest ≤ index ∧ index < Syscall.fileFdMax ∧
      (state.fds index).used = false}

/-- A descriptor is a copy of one that was open, and no other has changed. -/
structure Copied
    (state final : State)
    (oldFd : Int)
    (newFd : Nat)
    (cloexec : Bool) : Prop where
  isOpen : OpenFd state.fds oldFd
  inTable : newFd < Syscall.fileFdMax
  copy :
    final.fds newFd =
      { state.fds oldFd.toNat with flags := (final.fds newFd).flags }
  status :
    (final.fds newFd).flags &&& ~~~Syscall.oCloexec =
      (state.fds oldFd.toNat).flags &&& ~~~Syscall.oCloexec
  closeOnExec :
    ((final.fds newFd).flags &&& Syscall.oCloexec != 0) = cloexec
  others : ∀ index, index ≠ newFd → final.fds index = state.fds index

/-- A call that fails changes nothing. -/
def Refuses
    (state : State)
    (outcome : Outcome State Errno FcntlAnswer) : Prop :=
  ∀ error final, outcome = .err error final → final = state

/-- A copy at the lowest free number from a minimum on. -/
structure Allocates
    (oldFd minFd : Int)
    (cloexec : Bool)
    (state : State)
    (outcome : Outcome State Errno FcntlAnswer) : Prop where
  chooses :
    ∀ number,
      (∃ final, outcome = .ok (.fd number) final) ↔
        OpenFd state.fds oldFd ∧ 0 ≤ minFd ∧
          IsLeast (freeNumbers state minFd.toNat) number
  copies :
    ∀ number final,
      outcome = .ok (.fd number) final →
      Copied state final oldFd number cloexec
  refuses : Refuses state outcome

/-- A copy at a number that is given. -/
structure Replaces
    (oldFd newFd : Int)
    (cloexec : Bool)
    (state : State)
    (outcome : Outcome State Errno FcntlAnswer) : Prop where
  copies :
    ∀ answer final,
      outcome = .ok answer final →
      answer = .fd newFd.toNat ∧
        Copied state final oldFd newFd.toNat cloexec
  refuses : Refuses state outcome

/-- At most whether one descriptor is closed by `execve` is changed. -/
structure ChangesCloexec
    (fdNumber : Int)
    (state : State)
    (outcome : Outcome State Errno FcntlAnswer) : Prop where
  only :
    ∀ answer final,
      outcome = .ok answer final →
      final.fds fdNumber.toNat =
          { state.fds fdNumber.toNat with
            flags := (final.fds fdNumber.toNat).flags } ∧
        (final.fds fdNumber.toNat).flags &&& ~~~Syscall.oCloexec =
          (state.fds fdNumber.toNat).flags &&& ~~~Syscall.oCloexec
  others :
    ∀ answer final,
      outcome = .ok answer final →
      ∀ index, index ≠ fdNumber.toNat → final.fds index = state.fds index
  refuses : Refuses state outcome

/-- Neither the access modes nor what `execve` closes is changed. -/
structure KeepsMode
    (state : State)
    (outcome : Outcome State Errno FcntlAnswer) : Prop where
  accessMode :
    ∀ answer final,
      outcome = .ok answer final →
      ∀ index,
        (final.fds index).flags &&& Syscall.oAccmode =
          (state.fds index).flags &&& Syscall.oAccmode
  closeOnExec :
    ∀ answer final,
      outcome = .ok answer final →
      ∀ index,
        (final.fds index).flags &&& Syscall.oCloexec =
          (state.fds index).flags &&& Syscall.oCloexec
  refuses : Refuses state outcome

namespace FlagCall

def Lawful (state : State) (call : FlagCall) : Prop :=
  match call with
  | .dup oldFd => Allocates oldFd 0 false state (call.run state)
  | .dup2 oldFd newFd => Replaces oldFd newFd false state (call.run state)
  | .dup3 oldFd newFd flags =>
      Replaces oldFd newFd (flags &&& Syscall.oCloexec != 0) state
        (call.run state)
  | .dupFd fdNumber argument =>
      Allocates fdNumber (minimum argument) false state (call.run state)
  | .dupFdCloexec fdNumber argument =>
      Allocates fdNumber (minimum argument) true state (call.run state)
  | .setFd fdNumber _ => ChangesCloexec fdNumber state (call.run state)
  | .setFl _ _ => KeepsMode state (call.run state)

end FlagCall

/-! ## When they do it -/

/-- No number from a minimum on is free below the first that is chosen. -/
def NoneBelow (oldFd minFd : Int) (state : State) : Prop :=
  OpenFd state.fds oldFd →
  0 ≤ minFd →
  ∀ index < 3, minFd.toNat ≤ index → (state.fds index).used = true

/-- A descriptor that is copied to itself is already what is asked for. -/
def AlreadyThere
    (oldFd newFd : Int)
    (cloexec : Bool)
    (state : State) : Prop :=
  oldFd = newFd →
  0 ≤ oldFd →
  cloexec = false →
  OpenFd state.fds oldFd ∧
    (state.fds oldFd.toNat).flags &&& Syscall.oCloexec = 0

/-- The case in which a call does what it has to do. -/
def FlagCall.Sound (state : State) : FlagCall → Prop
  | .dup oldFd => NoneBelow oldFd 0 state
  | .dup2 oldFd newFd => AlreadyThere oldFd newFd false state
  | .dup3 oldFd newFd flags =>
      AlreadyThere oldFd newFd (flags &&& Syscall.oCloexec != 0) state
  | .dupFd fdNumber argument => NoneBelow fdNumber (minimum argument) state
  | .dupFdCloexec fdNumber argument =>
      NoneBelow fdNumber (minimum argument) state
  | .setFd _ _ => True
  | .setFl fdNumber argument =>
      OpenFd state.fds fdNumber →
      argument &&& Syscall.oCloexec =
        (state.fds fdNumber.toNat).flags &&& Syscall.oCloexec

/-! ## The copies -/

section Copies

variable
  {state final : State}
  {oldFd newFd minFd : Int}
  {cloexec : Bool}

theorem find_free_iff
    {target number : Nat} :
    ((List.range' target (Syscall.fileFdMax - target)).find? fun index =>
          !(state.fds index).used) =
        some number ↔
      IsLeast (freeNumbers state target) number := by
  rw [List.find?_range'_eq_some, List.mem_range'_1]
  constructor
  · rintro ⟨isFree, ⟨above, below⟩, first⟩
    refine ⟨⟨above, by omega, by simpa using isFree⟩, ?_⟩
    rintro other ⟨otherAbove, _, otherFree⟩
    by_contra before
    have used := first other otherAbove (Nat.lt_of_not_le before)
    simp [otherFree] at used
  · rintro ⟨⟨above, below, isFree⟩, first⟩
    refine ⟨by simpa using isFree, ⟨above, by omega⟩, ?_⟩
    intro other otherAbove before
    by_contra otherFree
    have least :=
      first
        ⟨otherAbove, Nat.lt_trans before below, by simpa using otherFree⟩
    omega

theorem exists_isLeast
    {numbers : Set Nat}
    (some : numbers.Nonempty) :
    ∃ least, IsLeast numbers least := by
  classical exact ⟨Nat.find some, Nat.isLeast_find some⟩

theorem flags_withCloexec (fd : Fd) :
    (fd.withCloexec cloexec).flags &&& ~~~Syscall.oCloexec =
        fd.flags &&& ~~~Syscall.oCloexec ∧
      ((fd.withCloexec cloexec).flags &&& Syscall.oCloexec != 0) =
        cloexec := by
  cases cloexec with
  | true =>
      refine ⟨or_and_of_disjoint _ (by decide), ?_⟩
      exact bne_iff_ne.mpr (or_and_ne_zero _ (by decide))
  | false =>
      refine ⟨?_, ?_⟩
      · change fd.flags &&& _ &&& _ = _
        rw [UInt64.and_assoc, UInt64.and_self]
      · change (fd.flags &&& _ &&& _ != 0) = _
        rw [and_not_and]
        rfl

theorem copied_setFd
    (isOpen : OpenFd state.fds oldFd)
    {number : Nat}
    (inTable : number < Syscall.fileFdMax) :
    Copied state
      (state.setFd number ((state.fds oldFd.toNat).withCloexec cloexec)) oldFd
      number cloexec := by
  have isNew :=
    fds_setFd_self state number
      ((state.fds oldFd.toNat).withCloexec cloexec)
  obtain ⟨status, closeOnExec⟩ :=
    @flags_withCloexec cloexec (state.fds oldFd.toNat)
  refine ⟨isOpen, inTable, ?_, ?_, ?_, ?_⟩
  · rw [isNew]
    rfl
  · rw [isNew, status]
  · rw [isNew, closeOnExec]
  · exact fun index other => Function.update_of_ne other _ _

theorem returnsFd_eq_ok
    {call : Sys Nat}
    {answer : FcntlAnswer} :
    returnsFd call state = .ok answer final ↔
      ∃ number, call state = .ok number final ∧ answer = .fd number := by
  unfold returnsFd
  rw [Prog.bind_eq_ok]
  constructor
  · rintro ⟨number, middle, returned, same⟩
    cases same
    exact ⟨number, returned, rfl⟩
  · rintro ⟨number, returned, rfl⟩
    exact ⟨number, final, returned, rfl⟩

theorem returnsFd_eq_err
    {call : Sys Nat}
    {error : Errno} :
    returnsFd call state = .err error final ↔
      call state = .err error final := by
  unfold returnsFd
  rw [Prog.bind_eq_err]
  constructor
  · rintro (failed | ⟨_, _, _, same⟩)
    · exact failed
    · cases same
  · exact .inl

theorem fdDuplicate_cases
    (oldFd minFd : Int)
    (cloexec : Bool)
    (state : State) :
    (∃ error, fdDuplicate oldFd minFd cloexec state = .err error state ∧
        ¬ (OpenFd state.fds oldFd ∧ 0 ≤ minFd ∧
            (freeNumbers state (max minFd.toNat 3)).Nonempty)) ∨
      ∃ number,
        OpenFd state.fds oldFd ∧ 0 ≤ minFd ∧
          IsLeast (freeNumbers state (max minFd.toNat 3)) number ∧
          fdDuplicate oldFd minFd cloexec state =
            .ok number
              (state.setFd number
                ((state.fds oldFd.toNat).withCloexec cloexec)) := by
  unfold fdDuplicate
  by_cases negative : oldFd < 0 ∨ minFd < 0
  · rw [if_pos negative]
    refine .inl ⟨_, rfl, ?_⟩
    rintro ⟨⟨first, _⟩, second, _⟩
    omega
  rw [if_neg negative]
  by_cases isOpen : OpenFd state.fds oldFd
  · rw [Prog.bind_of_ok (fdSnapshot_of_open isOpen), Prog.gets_bind_apply]
    cases found :
        (List.range' (max minFd.toNat 3)
            (Syscall.fileFdMax - max minFd.toNat 3)).find? fun index =>
          !(state.fds index).used with
    | none =>
        refine .inl ⟨_, rfl, ?_⟩
        rintro ⟨_, _, some⟩
        obtain ⟨least, isLeast⟩ := exists_isLeast some
        rw [find_free_iff.mpr isLeast] at found
        cases found
    | some number =>
        exact .inr ⟨number, isOpen, by omega, find_free_iff.mp found, rfl⟩
  · rw [Prog.bind_of_err (fdSnapshot_of_not_open isOpen)]
    exact .inl ⟨_, rfl, fun opened => isOpen opened.1⟩

theorem isLeast_free_iff
    (lowest : Nat) :
    (∀ number,
        IsLeast (freeNumbers state (max lowest 3)) number ↔
          IsLeast (freeNumbers state lowest) number) ↔
      ∀ index < 3, lowest ≤ index → (state.fds index).used = true := by
  constructor
  · intro same index small above
    by_contra isFree
    have among : index ∈ freeNumbers state lowest :=
      ⟨above, Nat.lt_trans small (by decide), by simpa using isFree⟩
    obtain ⟨least, isLeast⟩ := exists_isLeast ⟨index, among⟩
    have chosen := ((same least).mpr isLeast).1.1
    have below := isLeast.2 among
    omega
  · intro used number
    have same :
        freeNumbers state (max lowest 3) = freeNumbers state lowest := by
      ext index
      constructor
      · rintro ⟨above, inTable, isFree⟩
        exact ⟨by omega, inTable, isFree⟩
      · rintro ⟨above, inTable, isFree⟩
        refine ⟨?_, inTable, isFree⟩
        by_contra small
        have isUsed := used index (by omega) above
        simp [isFree] at isUsed
    rw [same]

theorem fdDuplicate_eq_ok
    {number : Nat} :
    fdDuplicate oldFd minFd cloexec state = .ok number final ↔
      OpenFd state.fds oldFd ∧ 0 ≤ minFd ∧
        IsLeast (freeNumbers state (max minFd.toNat 3)) number ∧
        final =
          state.setFd number ((state.fds oldFd.toNat).withCloexec cloexec) := by
  rcases fdDuplicate_cases oldFd minFd cloexec state with
    ⟨error, failed, noneFree⟩ | ⟨chosen, isOpen, nonnegative, isLeast, made⟩
  · constructor
    · intro returned
      rw [failed] at returned
      cases returned
    · rintro ⟨isOpen, nonnegative, isLeast, _⟩
      exact absurd ⟨isOpen, nonnegative, _, isLeast.1⟩ noneFree
  · constructor
    · intro returned
      rw [made] at returned
      cases returned
      exact ⟨isOpen, nonnegative, isLeast, rfl⟩
    · rintro ⟨_, _, alsoLeast, rfl⟩
      rw [made, isLeast.unique alsoLeast]

theorem fdDuplicate_eq_err
    {error : Errno}
    (failed : fdDuplicate oldFd minFd cloexec state = .err error final) :
    final = state := by
  rcases fdDuplicate_cases oldFd minFd cloexec state with
    ⟨_, refused, _⟩ | ⟨_, _, _, _, made⟩
  · rw [refused] at failed
    cases failed
    rfl
  · rw [made] at failed
    cases failed

theorem allocates_iff
    {passed : Int}
    (sameSign : 0 ≤ passed ↔ 0 ≤ minFd)
    (sameStart : max passed.toNat 3 = max minFd.toNat 3) :
    Allocates oldFd minFd cloexec state
        (returnsFd (fdDuplicate oldFd passed cloexec) state) ↔
      NoneBelow oldFd minFd state := by
  have returns :
      ∀ number final,
        returnsFd (fdDuplicate oldFd passed cloexec) state =
            .ok (.fd number) final ↔
          OpenFd state.fds oldFd ∧ 0 ≤ minFd ∧
            IsLeast (freeNumbers state (max minFd.toNat 3)) number ∧
            final =
              state.setFd number
                ((state.fds oldFd.toNat).withCloexec cloexec) := by
    intro number final
    rw [returnsFd_eq_ok, ← sameSign, ← sameStart, ← fdDuplicate_eq_ok]
    constructor
    · rintro ⟨_, returned, same⟩
      cases same
      exact returned
    · exact fun returned => ⟨number, returned, rfl⟩
  constructor
  · intro allocates isOpen nonnegative
    apply (isLeast_free_iff _).mp
    intro number
    have chosen := allocates.chooses number
    simp only [returns, isOpen, nonnegative, true_and, exists_and_left,
      exists_eq, and_true] at chosen
    exact chosen
  · intro noneBelow
    refine ⟨?_, ?_, ?_⟩
    · intro number
      simp only [returns, exists_and_left, exists_eq, and_true]
      refine and_congr_right fun isOpen => and_congr_right fun nonnegative => ?_
      exact (isLeast_free_iff _).mpr (noneBelow isOpen nonnegative) number
    · intro number final returned
      obtain ⟨isOpen, _, isLeast, rfl⟩ := (returns number final).mp returned
      exact copied_setFd isOpen isLeast.1.2.1
    · intro error final failed
      exact fdDuplicate_eq_err (returnsFd_eq_err.mp failed)

theorem Replaces.of_err
    {error : Errno} :
    Replaces oldFd newFd cloexec state (.err error state) where
  copies := nofun
  refuses _ _ failed := by
    cases failed
    rfl

theorem Replaces.of_ok
    (copied : Copied state final oldFd newFd.toNat cloexec) :
    Replaces oldFd newFd cloexec state (.ok (.fd newFd.toNat) final) where
  copies _ _ returned := by
    cases returned
    exact ⟨rfl, copied⟩
  refuses := nofun

theorem copied_self_iff :
    Copied state state oldFd oldFd.toNat false ↔
      OpenFd state.fds oldFd ∧
        (state.fds oldFd.toNat).flags &&& Syscall.oCloexec = 0 := by
  constructor
  · intro copied
    exact ⟨copied.isOpen, by simpa using copied.closeOnExec⟩
  · rintro ⟨isOpen, clear⟩
    have inTable : oldFd.toNat < Syscall.fileFdMax :=
      (Int.toNat_lt isOpen.1).mpr isOpen.2.1
    exact ⟨isOpen, inTable, rfl, rfl, by simp [clear], fun _ _ => rfl⟩

/-- A copy at a given number goes wrong if it is the number that is copied. -/
theorem replaces_iff :
    Replaces oldFd newFd cloexec state
        (returnsFd (fdDuplicateExact oldFd newFd cloexec) state) ↔
      AlreadyThere oldFd newFd cloexec state := by
  have refused :
      ∀ error,
        (oldFd = newFd → oldFd < 0 ∨ cloexec = true) →
        fdDuplicateExact oldFd newFd cloexec state = .err error state →
        (Replaces oldFd newFd cloexec state
            (returnsFd (fdDuplicateExact oldFd newFd cloexec) state) ↔
          AlreadyThere oldFd newFd cloexec state) := by
    intro error excluded failed
    rw [returnsFd_eq_err.mpr failed]
    refine iff_of_true .of_err ?_
    intro same nonnegative plain
    rcases excluded same with negative | closes
    · omega
    · rw [plain] at closes
      cases closes
  by_cases negative : oldFd < 0 ∨ newFd < 0
  · exact
      refused .ebadf (by omega) (by rw [fdDuplicateExact, if_pos negative]; rfl)
  by_cases same : oldFd = newFd
  · subst same
    cases cloexec with
    | true =>
        apply refused .einval (fun _ => .inr rfl)
        rw [fdDuplicateExact, if_neg negative, if_pos rfl, if_pos rfl]
        rfl
    | false =>
        have returned :
            returnsFd (fdDuplicateExact oldFd oldFd false) state =
              .ok (.fd oldFd.toNat) state := by
          refine returnsFd_eq_ok.mpr ⟨_, ?_, rfl⟩
          rw [fdDuplicateExact, if_neg negative, if_pos rfl,
            if_neg Bool.false_ne_true]
          rfl
        rw [returned]
        constructor
        · intro replaces _ _ _
          exact copied_self_iff.mp (replaces.copies _ _ rfl).2
        · intro alreadyThere
          exact
            .of_ok (copied_self_iff.mpr (alreadyThere rfl (by omega) rfl))
  have noCase : AlreadyThere oldFd newFd cloexec state :=
    fun equal => absurd equal same
  by_cases outside : newFd ≥ Syscall.fileFdMax
  · apply refused .ebadf (fun equal => absurd equal same)
    rw [fdDuplicateExact, if_neg negative, if_neg same, if_pos outside]
    rfl
  by_cases isOpen : OpenFd state.fds oldFd
  · have returned :
        returnsFd (fdDuplicateExact oldFd newFd cloexec) state =
          .ok (.fd newFd.toNat)
            (state.setFd newFd.toNat
              ((state.fds oldFd.toNat).withCloexec cloexec)) := by
      refine returnsFd_eq_ok.mpr ⟨_, ?_, rfl⟩
      rw [fdDuplicateExact, if_neg negative, if_neg same, if_neg outside,
        Prog.bind_of_ok (fdSnapshot_of_open isOpen)]
      rfl
    rw [returned]
    exact iff_of_true (.of_ok (copied_setFd isOpen (by omega))) noCase
  · apply refused .ebadf (fun equal => absurd equal same)
    rw [fdDuplicateExact, if_neg negative, if_neg same, if_neg outside,
      Prog.bind_of_err (fdSnapshot_of_not_open isOpen)]

end Copies

/-! ## The flags -/

section Flags

variable
  {state final : State}
  {fdNumber : Int}
  {argument : UInt64}

theorem fcntl_setFd
    (isOpen : OpenFd state.fds fdNumber) :
    fcntl fdNumber 2 argument state =
      .ok (.word 0)
        (state.setFlags fdNumber.toNat
          ((state.fds fdNumber.toNat).withCloexec
            (argument &&& 1 != 0)).flags) := by
  rw [fcntl, Prog.bind_of_ok (fdSnapshot_of_open isOpen)]
  rfl

theorem fcntl_setFl
    (isOpen : OpenFd state.fds fdNumber) :
    fcntl fdNumber 4 argument state =
      .ok (.word 0)
        (state.setFlags fdNumber.toNat
          (setFlFlags (state.fds fdNumber.toNat).flags argument)) := by
  rw [fcntl, Prog.bind_of_ok (fdSnapshot_of_open isOpen)]
  rfl

theorem fcntl_closed
    (closed : ¬ OpenFd state.fds fdNumber)
    (command : UInt64) :
    fcntl fdNumber command argument state = .err .ebadf state := by
  rw [fcntl, Prog.bind_of_err (fdSnapshot_of_not_open closed)]

theorem fcntl_dupFd
    (isOpen : OpenFd state.fds fdNumber)
    (cloexec : Bool) :
    fcntl fdNumber (if cloexec then 1030 else 0) argument state =
      returnsFd (fdDuplicate fdNumber (minimum argument) cloexec) state := by
  cases cloexec <;>
  · rw [fcntl, Prog.bind_of_ok (fdSnapshot_of_open isOpen)]
    rfl

theorem changesCloexec_setFd :
    ChangesCloexec fdNumber state (fcntl fdNumber 2 argument state) := by
  by_cases isOpen : OpenFd state.fds fdNumber
  · rw [fcntl_setFd isOpen]
    have isNew :=
      fds_setFd_self state fdNumber.toNat
        { state.fds fdNumber.toNat with
          flags :=
            ((state.fds fdNumber.toNat).withCloexec
              (argument &&& 1 != 0)).flags }
    refine ⟨?_, ?_, nofun⟩
    · rintro answer final ⟨⟩
      rw [State.setFlags, isNew]
      exact ⟨rfl, (flags_withCloexec _).1⟩
    · rintro answer final ⟨⟩ index other
      exact Function.update_of_ne other _ _
  · rw [fcntl_closed isOpen]
    refine ⟨nofun, nofun, ?_⟩
    rintro error final ⟨⟩
    rfl

theorem setFlFlags_cloexec (flags argument : UInt64) :
    setFlFlags flags argument &&& Syscall.oCloexec =
      argument &&& Syscall.oCloexec := by
  have apart : Syscall.oAccmode &&& Syscall.oCloexec = 0 := by decide
  rw [setFlFlags, or_and, UInt64.and_assoc, apart, UInt64.and_zero,
    UInt64.zero_or, UInt64.and_assoc, not_and_of_disjoint apart]

theorem keepsMode_setFl_iff :
    KeepsMode state (fcntl fdNumber 4 argument state) ↔
      (OpenFd state.fds fdNumber →
        argument &&& Syscall.oCloexec =
          (state.fds fdNumber.toNat).flags &&& Syscall.oCloexec) := by
  by_cases isOpen : OpenFd state.fds fdNumber
  · rw [fcntl_setFl isOpen]
    have isNew :
        ((state.setFlags fdNumber.toNat
              (setFlFlags (state.fds fdNumber.toNat).flags argument)).fds
            fdNumber.toNat).flags =
          setFlFlags (state.fds fdNumber.toNat).flags argument := by
      rw [State.setFlags, fds_setFd_self]
    constructor
    · intro keeps _
      have same := keeps.closeOnExec _ _ rfl fdNumber.toNat
      rwa [isNew, setFlFlags_cloexec] at same
    · intro sameBit
      have others :
          ∀ index,
            index ≠ fdNumber.toNat →
            (state.setFlags fdNumber.toNat
                (setFlFlags (state.fds fdNumber.toNat).flags argument)).fds
                index =
              state.fds index :=
        fun index other => Function.update_of_ne other _ _
      refine ⟨?_, ?_, nofun⟩
      · rintro answer final ⟨⟩ index
        by_cases isIt : index = fdNumber.toNat
        · rw [isIt, isNew, setFlFlags_accmode]
        · rw [others index isIt]
      · rintro answer final ⟨⟩ index
        by_cases isIt : index = fdNumber.toNat
        · rw [isIt, isNew, setFlFlags_cloexec, sameBit isOpen]
        · rw [others index isIt]
  · rw [fcntl_closed isOpen]
    refine iff_of_true ⟨nofun, nofun, ?_⟩ fun opened => absurd opened isOpen
    rintro error final ⟨⟩
    rfl

theorem allocates_closed
    {minFd : Int}
    {cloexec : Bool}
    {error : Errno}
    (closed : ¬ OpenFd state.fds fdNumber) :
    Allocates fdNumber minFd cloexec state (.err error state) where
  chooses number := by
    constructor
    · rintro ⟨_, ⟨⟩⟩
    · exact fun chosen => absurd chosen.1 closed
  copies := nofun
  refuses := by
    rintro _ _ ⟨⟩
    rfl

theorem allocates_dupFd_iff
    (cloexec : Bool) :
    Allocates fdNumber (minimum argument) cloexec state
        (fcntl fdNumber (if cloexec then 1030 else 0) argument state) ↔
      NoneBelow fdNumber (minimum argument) state := by
  by_cases isOpen : OpenFd state.fds fdNumber
  · rw [fcntl_dupFd isOpen]
    exact allocates_iff Iff.rfl rfl
  · rw [fcntl_closed isOpen]
    exact
      iff_of_true (allocates_closed isOpen)
        fun opened => absurd opened isOpen

end Flags

/--
A call on descriptors does what it has to do exactly if it need not choose a
number below 3, does not copy a descriptor to itself, and does not mention
`O_CLOEXEC` to `F_SETFL`.
-/
theorem flagCall_lawful_iff
    (state : State)
    (call : FlagCall) :
    call.Lawful state ↔ call.Sound state := by
  cases call with
  | dup oldFd =>
      exact allocates_iff (by decide) (by decide)
  | dup2 oldFd newFd =>
      exact replaces_iff
  | dup3 oldFd newFd flags =>
      exact replaces_iff
  | dupFd fdNumber argument =>
      exact allocates_dupFd_iff false
  | dupFdCloexec fdNumber argument =>
      exact allocates_dupFd_iff true
  | setFd fdNumber argument =>
      exact iff_of_true changesCloexec_setFd trivial
  | setFl fdNumber argument =>
      exact keepsMode_setFl_iff

/-- A table whose descriptor 0 is a terminal that `execve` closes. -/
def closingTerminal : State :=
  State.setFd 0
    { Fd.empty with used := true, kind := .tty, flags := Syscall.oCloexec }
    State.new

/-- `F_SETFL` without `O_CLOEXEC` clears it. -/
theorem setFl_clears_cloexec :
    ¬ FlagCall.Lawful closingTerminal (.setFl 0 0) := by
  intro lawful
  have same := lawful.closeOnExec _ _ rfl 0
  exact absurd same (by decide)

end VibuxOS.Files
