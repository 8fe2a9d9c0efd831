import VibuxOS.Syscall.Channels

namespace VibuxOS.Syscall

open VibuxOS.Lib

/-!
# What the calls do to the channels
-/

variable
  {slot : Nat}
  {state : State}
  {id : Nat}
  {index : Nat}

/-- The flags that `pipe2` takes. -/
def PipeFlags (flags : UInt64) : Prop :=
  flags &&& ~~~(oCloexec ||| oNonblock ||| oDirect) = 0

/-! ## Taking slots -/

theorem of_find_range'
    {start count index : Nat}
    {test : Nat → Bool}
    (found : (List.range' start count).find? test = some index) :
    start ≤ index ∧ index < start + count ∧ test index = true := by
  have member := List.mem_of_find?_eq_some found
  rw [List.mem_range'_1] at member
  exact ⟨member.1, member.2, List.find?_some found⟩

theorem toNat_ofNat_slot
    (inside : slot < pipeMax) :
    (UInt8.ofNat slot).toNat = slot := by
  have small : pipeMax < 256 := by decide
  exact Nat.mod_eq_of_lt (Nat.lt_trans inside small)

theorem pipeSlot_lt
    (slot : state.pipeSlot = some id) :
    id < pipeMax :=
  List.mem_range.mp (List.mem_of_find?_eq_some slot)

theorem pipeAllocSlot_of_some
    (slot : state.pipeSlot = some id) :
    pipeAllocSlot state =
      .ok (some (UInt8.ofNat id))
        (state.setPipe id PipeBuffer.fresh) := by
  simp only [pipeAllocSlot, Prog.gets_bind_apply, slot,
    Prog.modify_bind_apply, Prog.pure_apply]

theorem pipeAllocSlot_of_none
    (slot : state.pipeSlot = none) :
    pipeAllocSlot state = .ok none state := by
  simp only [pipeAllocSlot, Prog.gets_bind_apply, slot,
    Prog.pure_apply]

theorem allocFd_of_some
    (free : state.freeFd = some index)
    (fd : Fd) :
    allocFd fd state = .ok (some index) (state.setFd index fd) := by
  simp only [allocFd, Prog.gets_bind_apply, free,
    Prog.modify_bind_apply, Prog.pure_apply]

theorem allocFd_of_none
    (free : state.freeFd = none)
    (fd : Fd) :
    allocFd fd state = .ok none state := by
  simp only [allocFd, Prog.gets_bind_apply, free, Prog.pure_apply]

theorem releasePipe_of_fresh
    {base : Nat → PipeBuffer}
    (fresh :
      state.pipeBuffers =
        Function.update base id PipeBuffer.fresh) :
    releasePipe id state =
      .ok ()
        { state with
          pipeBuffers := Function.update base id PipeBuffer.empty } := by
  simp only [releasePipe, Prog.modify_apply, State.setPipe, fresh,
    Function.update_self, Function.update_idem]
  rfl

/-! ## Making a pipe -/

/-- A read or write end of a pipe that a call has made. -/
structure IsPipeEnd
    (id made : Nat)
    (fd : Fd) : Prop where
  kind : fd.kind = .pipeRead ∨ fd.kind = .pipeWrite
  pathLen : fd.pathLen = 1
  path : (fd.path 0).toNat = id
  made : fd.made = made

theorem isPipeEnd_pipeEnd
    {kind : FileKind}
    (isPipe : kind = .pipeRead ∨ kind = .pipeWrite)
    (flags : UInt64)
    (inside : id < pipeMax)
    (made : Nat) :
    IsPipeEnd id made (pipeEnd kind flags (UInt8.ofNat id) made) where
  kind := isPipe
  pathLen := rfl
  path := by
    simp only [pipeEnd, Function.update_self]
    exact toNat_ofNat_slot inside
  made := rfl

/-- What a call of `pipe` leaves behind. -/
inductive Piped (flags : UInt64) (before : State) : State → Prop where
  | unchanged :
      Piped flags before before
  | undone
      {id : Nat}
      {fds : Nat → Fd} :
      PipeFlags flags →
      before.pipeSlot = some id →
      Derived before.fds fds →
      Piped flags before
        { before with
          fds := fds
          pipeBuffers :=
            Function.update before.pipeBuffers id PipeBuffer.empty }
  | created
      {id : Nat}
      {fds : Nat → Fd} :
      PipeFlags flags →
      before.pipeSlot = some id →
      Extends before.fds fds (IsPipeEnd id before.made) →
      Piped flags before
        { before with
          fds := fds
          pipeBuffers :=
            Function.update before.pipeBuffers id
              PipeBuffer.fresh
          made := before.made + 1 }

theorem piped_of_step
    {before after : State}
    {copied : Bool}
    {flags : UInt64}
    (step : Step before (.pipe copied flags) after) :
    Piped flags before after := by
  simp only [Step, Call.run, createPipe] at step
  split at step
  case isTrue =>
    cases step
    exact .unchanged
  case isFalse valid =>
    rw [ne_eq, Decidable.not_not] at valid
    rw [Prog.gets_bind_apply] at step
    cases slot : before.pipeSlot with
    | none =>
        rw [Prog.bind_of_ok (pipeAllocSlot_of_none slot)] at step
        cases step
        exact .unchanged
    | some id =>
        have inside := pipeSlot_lt slot
        rw [Prog.bind_of_ok (pipeAllocSlot_of_some slot)] at step
        simp only [toNat_ofNat_slot inside] at step
        cases readFree :
            (before.setPipe id PipeBuffer.fresh).freeFd with
        | none =>
            rw [Prog.bind_of_ok (allocFd_of_none readFree _)] at step
            dsimp only at step
            rw [Prog.bind_of_ok (releasePipe_of_fresh rfl)] at step
            cases step
            exact .undone valid slot (.refl _)
        | some readFd =>
            rw [Prog.bind_of_ok (allocFd_of_some readFree _)] at step
            dsimp only at step
            have readEnd :=
              isPipeEnd_pipeEnd (Or.inl rfl) flags inside before.made
            have writeEnd :=
              isPipeEnd_pipeEnd (Or.inr rfl) (flags ||| oWronly) inside
                before.made
            cases writeFree :
                ((before.setPipe id PipeBuffer.fresh).setFd readFd
                  (pipeEnd .pipeRead flags (UInt8.ofNat id)
                    before.made)).freeFd with
            | none =>
                rw [Prog.bind_of_ok (allocFd_of_none writeFree _)]
                  at step
                simp only [clearFd, Prog.modify_bind_apply] at step
                rw [Prog.bind_of_ok (releasePipe_of_fresh rfl)] at step
                cases step
                refine .undone valid slot ?_
                simp only [State.setFd, State.setPipe,
                  Function.update_idem]
                exact (Extends.refl _).clear _
            | some writeFd =>
                rw [Prog.bind_of_ok (allocFd_of_some writeFree _)]
                  at step
                cases copied with
                | true =>
                    simp only [↓reduceIte, Prog.modify_bind_apply,
                      Prog.pure_apply] at step
                    cases step
                    exact .created valid slot
                      (((Extends.refl _).put readEnd readFd).put writeEnd
                        writeFd)
                | false =>
                    simp only [Bool.false_eq_true, ↓reduceIte, clearFd,
                      Prog.modify_bind_apply] at step
                    rw [Prog.bind_of_ok (releasePipe_of_fresh rfl)]
                      at step
                    cases step
                    refine .undone valid slot (Extends.undo ?_)
                    intro index notRead notWrite
                    simp only [State.setFd, State.setPipe,
                      Function.update_of_ne notRead,
                      Function.update_of_ne notWrite]

/-! ## Making a socket pair -/

/-- Only unused buffers have been taken or emptied. -/
def Spared (before after : Nat → PipeBuffer) : Prop :=
  ∀ slot,
    after slot = before slot ∨
      (before slot).used = false ∧
        (after slot = PipeBuffer.empty ∨
          after slot = PipeBuffer.fresh)

namespace Spared

variable {before middle : Nat → PipeBuffer}

theorem refl (buffers : Nat → PipeBuffer) : Spared buffers buffers :=
  fun _ => Or.inl rfl

theorem update
    (spared : Spared before middle)
    (unused : (before slot).used = false)
    {pipe : PipeBuffer}
    (isNew : pipe = PipeBuffer.empty ∨ pipe = PipeBuffer.fresh) :
    Spared before (Function.update middle slot pipe) := by
  intro other
  by_cases same : other = slot
  · subst other
    rw [Function.update_self]
    exact Or.inr ⟨unused, isNew⟩
  · rw [Function.update_of_ne same]
    exact spared other

theorem of_used
    {after : Nat → PipeBuffer}
    (spared : Spared before after)
    (used : (before slot).used = true) :
    after slot = before slot := by
  rcases spared slot with same | ⟨unused, _⟩
  · exact same
  · rw [used] at unused
    cases unused

theorem wellFormed
    {after : Nat → PipeBuffer}
    (spared : Spared before after)
    (ring : ∀ slot, (before slot).WellFormed)
    (slot : Nat) :
    (after slot).WellFormed := by
  rcases spared slot with same | ⟨_, isEmpty | isFresh⟩
  · rw [same]
    exact ring slot
  · rw [isEmpty]
    exact PipeBuffer.wellFormed_empty
  · rw [isFresh]
    exact PipeBuffer.wellFormed_fresh

end Spared

theorem unusedPipe_spec
    (slot : state.unusedPipe = some id) :
    id < pipeMax ∧ (state.pipeBuffers id).used = false := by
  have unused := List.find?_some slot
  exact ⟨List.mem_range.mp (List.mem_of_find?_eq_some slot),
    by simpa using unused⟩

theorem unusedPair_spec
    (pair : state.unusedPair = some index) :
    index < socketMax ∧ (state.socketPairs index).used = false := by
  have unused := List.find?_some pair
  exact ⟨List.mem_range.mp (List.mem_of_find?_eq_some pair),
    by simpa using unused⟩

theorem freeFd_unused
    (free : state.freeFd = some index) :
    (state.fds index).used = false := by
  simpa using (of_find_range' free).2.2

theorem socketPipeAlloc_of_some
    (slot : state.unusedPipe = some id) :
    socketPipeAlloc state =
      .ok (some (UInt8.ofNat id))
        (state.setPipe id PipeBuffer.fresh) := by
  simp only [socketPipeAlloc, Prog.gets_bind_apply, slot,
    Prog.modify_bind_apply, Prog.pure_apply]

theorem socketPipeAlloc_of_none
    (slot : state.unusedPipe = none) :
    socketPipeAlloc state = .ok none state := by
  simp only [socketPipeAlloc, Prog.gets_bind_apply, slot,
    Prog.pure_apply]

theorem socketPairAlloc_cases (state : State) :
    (∃ buffers,
        Spared state.pipeBuffers buffers ∧
          socketPairAlloc state =
            .ok none { state with pipeBuffers := buffers }) ∨
      ∃ pair aToB bToA,
        pair < socketMax ∧
          (state.socketPairs pair).used = false ∧
          aToB < pipeMax ∧
          (state.pipeBuffers aToB).used = false ∧
          bToA < pipeMax ∧
          (state.pipeBuffers bToA).used = false ∧
          aToB ≠ bToA ∧
          socketPairAlloc state =
            .ok (some pair)
              { state with
                pipeBuffers :=
                  Function.update
                    (Function.update state.pipeBuffers aToB
                      PipeBuffer.fresh)
                    bToA PipeBuffer.fresh
                socketPairs :=
                  Function.update state.socketPairs pair
                    ⟨true, UInt8.ofNat aToB, UInt8.ofNat bToA⟩ } := by
  unfold socketPairAlloc
  rw [Prog.gets_bind_apply]
  cases pairFree : state.unusedPair with
  | none =>
      exact Or.inl ⟨_, .refl _, rfl⟩
  | some pair =>
      obtain ⟨pairInside, pairUnused⟩ := unusedPair_spec pairFree
      dsimp only
      cases firstFree : state.unusedPipe with
      | none =>
          rw [Prog.bind_of_ok (socketPipeAlloc_of_none firstFree)]
          exact Or.inl ⟨_, .refl _, rfl⟩
      | some aToB =>
          obtain ⟨aInside, aUnused⟩ := unusedPipe_spec firstFree
          rw [Prog.bind_of_ok (socketPipeAlloc_of_some firstFree)]
          dsimp only
          cases secondFree :
              (state.setPipe aToB PipeBuffer.fresh).unusedPipe with
          | none =>
              rw [Prog.bind_of_ok (socketPipeAlloc_of_none secondFree)]
              simp only [toNat_ofNat_slot aInside,
                Prog.modify_bind_apply, Prog.pure_apply]
              refine Or.inl ⟨_, ?_, rfl⟩
              exact ((Spared.refl _).update aUnused (Or.inr rfl)).update
                aUnused (Or.inl rfl)
          | some bToA =>
              obtain ⟨bInside, bUnused⟩ := unusedPipe_spec secondFree
              rw [Prog.bind_of_ok (socketPipeAlloc_of_some secondFree)]
              have different : aToB ≠ bToA := by
                rintro rfl
                simp only [State.setPipe, Function.update_self,
                  PipeBuffer.fresh, Bool.true_eq_false] at bUnused
              simp only [State.setPipe,
                Function.update_of_ne different.symm] at bUnused
              exact Or.inr ⟨pair, aToB, bToA, pairInside, pairUnused,
                aInside, aUnused, bInside, bUnused, different, rfl⟩

/-- One end of a socket pair that a call has made. -/
structure IsSocketEnd
    (pair made : Nat)
    (fd : Fd) : Prop where
  kind : fd.kind = .socket
  pathLen : fd.pathLen = 2
  path : (fd.path 0).toNat = pair
  made : fd.made = made

/-- What a call of `socketpair` leaves behind. -/
inductive Socketed (before : State) : State → Prop where
  | leaked
      {buffers : Nat → PipeBuffer} :
      Spared before.pipeBuffers buffers →
      Socketed before { before with pipeBuffers := buffers }
  | undone
      {buffers : Nat → PipeBuffer}
      {fds : Nat → Fd}
      {pair : Nat} :
      Spared before.pipeBuffers buffers →
      Derived before.fds fds →
      (before.socketPairs pair).used = false →
      Socketed before
        { before with
          fds := fds
          pipeBuffers := buffers
          socketPairs :=
            Function.update before.socketPairs pair SocketPair.empty }
  | created
      {fds : Nat → Fd}
      {pair aToB bToA : Nat} :
      pair < socketMax →
      (before.socketPairs pair).used = false →
      aToB < pipeMax →
      (before.pipeBuffers aToB).used = false →
      bToA < pipeMax →
      (before.pipeBuffers bToA).used = false →
      aToB ≠ bToA →
      Extends before.fds fds (IsSocketEnd pair before.made) →
      Socketed before
        { before with
          fds := fds
          pipeBuffers :=
            Function.update
              (Function.update before.pipeBuffers aToB PipeBuffer.fresh)
              bToA PipeBuffer.fresh
          socketPairs :=
            Function.update before.socketPairs pair
              ⟨true, UInt8.ofNat aToB, UInt8.ofNat bToA⟩
          made := before.made + 1 }

theorem extends_setSide
    {fds : Nat → Fd}
    {a b pair made : Nat}
    (different : b ≠ a)
    (inside : pair < 256)
    (flags : UInt64)
    (first second : UInt8) :
    let fresh := socketEnd flags made
    let side := fun byte : UInt8 =>
      { fresh with
        path :=
          Function.update
            (Function.update fresh.path 0 (UInt8.ofNat pair)) 1 byte }
    Extends fds
      (Function.update
        (Function.update
          (Function.update (Function.update fds a fresh) b fresh)
          a (side first))
        b (side second))
      (IsSocketEnd pair made) := by
  intro fresh side
  have isEnd : ∀ byte, IsSocketEnd pair made (side byte) := by
    intro byte
    refine ⟨rfl, rfl, ?_, rfl⟩
    exact Nat.mod_eq_of_lt inside
  rw [Function.update_comm different, Function.update_idem,
    Function.update_idem]
  exact ((Extends.refl fds).put (isEnd first) a).put (isEnd second) b

theorem socketed_of_step
    {before after : State}
    {domain address flags : UInt64}
    {copied : Bool}
    (step : Step before (.socketpair domain address copied flags) after) :
    Socketed before after := by
  simp only [Step, Call.run, socketpair, socketPairFromUser] at step
  split at step
  case isFalse =>
    cases step
    exact .leaked (.refl _)
  case isTrue =>
    split at step
    case isTrue =>
      cases step
      exact .leaked (.refl _)
    case isFalse =>
      rw [Prog.gets_bind_apply] at step
      rcases socketPairAlloc_cases before with
          ⟨buffers, spared, allocated⟩ |
          ⟨pair, aToB, bToA, pairInside, pairUnused, aInside, aUnused,
            bInside, bUnused, different, allocated⟩
      · rw [Prog.bind_of_ok allocated] at step
        cases step
        exact .leaked spared
      · rw [Prog.bind_of_ok allocated] at step
        have spared :
            Spared before.pipeBuffers
              (Function.update
                (Function.update before.pipeBuffers aToB
                  PipeBuffer.fresh)
                bToA PipeBuffer.fresh) :=
          ((Spared.refl _).update aUnused (Or.inr rfl)).update bUnused
            (Or.inr rfl)
        dsimp only at step
        generalize middleIs :
          ({ before with
             pipeBuffers :=
               Function.update
                 (Function.update before.pipeBuffers aToB
                   PipeBuffer.fresh)
                 bToA PipeBuffer.fresh
             socketPairs :=
               Function.update before.socketPairs pair
                 ⟨true, UInt8.ofNat aToB, UInt8.ofNat bToA⟩ } : State) =
            middle at step
        cases aFree : middle.freeFd with
        | none =>
            rw [Prog.bind_of_ok (allocFd_of_none aFree _),
              Prog.bind_of_ok (allocFd_of_none aFree _)] at step
            subst middle
            simp only [clearPair, Prog.modify_bind_apply, State.setPair,
              Function.update_idem] at step
            cases step
            exact .undone spared (Extends.refl _) pairUnused
        | some a =>
            rw [Prog.bind_of_ok (allocFd_of_some aFree _)] at step
            cases bFree :
                (middle.setFd a (socketEnd flags before.made)).freeFd with
            | none =>
                rw [Prog.bind_of_ok (allocFd_of_none bFree _)] at step
                subst middle
                simp only [clearFd, clearPair, Prog.modify_bind_apply,
                  State.setFd, State.setPair, Function.update_idem]
                  at step
                cases step
                exact .undone spared ((Extends.refl _).clear a)
                  pairUnused
            | some b =>
                have bUnusedFd := freeFd_unused bFree
                have bNotA : b ≠ a := by
                  rintro rfl
                  simp only [State.setFd, Function.update_self,
                    socketEnd, Bool.true_eq_false] at bUnusedFd
                rw [Prog.bind_of_ok (allocFd_of_some bFree _)] at step
                subst middle
                have sides :=
                  @extends_setSide before.fds a b pair before.made bNotA
                    (Nat.lt_trans pairInside (by decide)) flags 0 1
                simp only [setSide, Prog.modify_bind_apply, State.setFd,
                  Function.update_self,
                  Function.update_of_ne bNotA,
                  Function.update_of_ne bNotA.symm] at step
                cases copied with
                | true =>
                    simp only [↓reduceIte, Prog.modify_bind_apply,
                      Prog.pure_apply] at step
                    cases step
                    exact .created pairInside pairUnused aInside aUnused
                      bInside bUnused different sides
                | false =>
                    simp only [Bool.false_eq_true, ↓reduceIte, clearFd,
                      clearPair, Prog.modify_bind_apply, State.setFd,
                      State.setPair, Function.update_idem] at step
                    cases step
                    refine .undone spared (Extends.undo ?_) pairUnused
                    intro index notA notB
                    simp only [Function.update_of_ne notA,
                      Function.update_of_ne notB]

end VibuxOS.Syscall
