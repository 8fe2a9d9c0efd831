import VibuxOS.Syscall.ChannelCalls

namespace VibuxOS.Syscall

open VibuxOS.Lib

/-!
# Calls that make no channel

Duplicating and closing change the running process's table only.  Reading and
writing move bytes through one buffer, of a channel that the descriptor is an
end of.
-/

variable
  {cloexec : Bool}
  {fdNumber : Int}
  {count : Nat}
  {copied : Bool}
  {source : Nat → UInt8}
  {device : Device}
  {before : State}
  {reached : State → Prop}

theorem fdSnapshot_cases (fdNumber : Int) (state : State) :
    (∃ fd,
        Opens state.fds fd ∧
          fdSnapshot fdNumber state = .ok fd state) ∨
      fdSnapshot fdNumber state = .err .ebadf state := by
  unfold fdSnapshot
  split
  case isTrue =>
    exact Or.inr rfl
  case isFalse inside =>
    rw [Prog.gets_bind_apply]
    have isIndex : fdNumber.toNat < fileFdMax := by omega
    cases used : (state.fds fdNumber.toNat).used with
    | true =>
        exact Or.inl ⟨_, ⟨_, isIndex, rfl, used⟩, rfl⟩
    | false =>
        exact Or.inr rfl

theorem leadsTo_fdSnapshot_bind
    {α : Type}
    {next : Fd → Sys α}
    (already : reached before)
    (opened :
      ∀ fd,
        Opens before.fds fd →
        fdSnapshot fdNumber before = .ok fd before →
        Prog.LeadsTo before reached (next fd)) :
    Prog.LeadsTo before reached (fdSnapshot fdNumber >>= next) := by
  rintro _ rfl
  rcases fdSnapshot_cases fdNumber _ with ⟨fd, opens, looked⟩ | failed
  · rw [Prog.bind_of_ok looked]
    exact opened fd opens looked _ rfl
  · exact Prog.ends_err (Prog.bind_of_err failed) already

/-! ## Changing the table -/

/-- Only the running process's table has changed, and nothing is new in it. -/
def Retabled (before after : State) : Prop :=
  ∃ fds, Derived before.fds fds ∧ after = { before with fds := fds }

theorem Retabled.refl (state : State) : Retabled state state :=
  ⟨state.fds, Extends.refl _, rfl⟩

theorem Fd.alike_withCloexec (fd : Fd) (cloexec : Bool) :
    (fd.withCloexec cloexec).Alike fd :=
  ⟨rfl, rfl, rfl, rfl⟩

theorem Retabled.copy
    {state : State}
    {old : Fd}
    (opens : Opens state.fds old)
    (cloexec : Bool)
    (index : Nat) :
    Retabled state (state.setFd index (old.withCloexec cloexec)) :=
  ⟨_, (Extends.refl _).copy opens (old.alike_withCloexec cloexec) index,
    rfl⟩

theorem retables_fdDuplicate
    {oldFd minFd : Int} :
    Prog.LeadsTo before (Retabled before)
      (fdDuplicate oldFd minFd cloexec) := by
  have same := Retabled.refl before
  apply Prog.LeadsTo.ite fun _ => .fail same
  intro nonnegative
  apply Prog.LeadsTo.gets_bind
  apply Prog.LeadsTo.ite fun _ => .fail same
  intro isOpen
  have opens : Opens before.fds (before.fds oldFd.toNat) := by
    refine ⟨_, ?_, rfl, ?_⟩
    · omega
    · simp only [not_or, Bool.not_eq_false] at isOpen
      exact isOpen.2
  apply Prog.LeadsTo.gets_bind
  split
  · exact .fail same
  · rintro _ rfl
    exact Prog.ends_ok rfl (.copy opens cloexec _)

theorem retables_fdDuplicateExact
    {oldFd newFd : Int} :
    Prog.LeadsTo before (Retabled before)
      (fdDuplicateExact oldFd newFd cloexec) := by
  have same := Retabled.refl before
  apply Prog.LeadsTo.ite fun _ => .fail same
  intro nonnegative
  apply Prog.LeadsTo.ite fun _ => .ite (fun _ => .fail same) fun _ => .pure same
  intro _
  apply Prog.LeadsTo.ite fun _ => .fail same
  intro inside
  apply Prog.LeadsTo.gets_bind
  apply Prog.LeadsTo.ite fun _ => .fail same
  intro isOpen
  have opens : Opens before.fds (before.fds oldFd.toNat) := by
    refine ⟨_, ?_, rfl, ?_⟩
    · omega
    · simpa using isOpen
  rintro _ rfl
  exact Prog.ends_ok rfl (.copy opens cloexec _)

theorem retables_fcntlDuplicate
    {fd minFd : Int} :
    Prog.LeadsTo before (Retabled before) (fcntlDuplicate fd minFd cloexec) :=
  leadsTo_fdSnapshot_bind (.refl _) fun _ _ _ => retables_fdDuplicate

theorem retables_close
    {fd : Int} :
    Prog.LeadsTo before (Retabled before) (close fd) := by
  apply leadsTo_fdSnapshot_bind (.refl _)
  rintro _ _ _ _ rfl
  exact Prog.ends_ok rfl ⟨_, (Extends.refl _).clear _, rfl⟩

theorem retables_closeRangeImpl
    {first last : UInt32}
    {flags : UInt64} :
    Prog.LeadsTo before (Retabled before)
      (closeRangeImpl first last flags) := by
  have same := Retabled.refl before
  apply Prog.LeadsTo.ite fun _ => .fail same
  intro _
  apply Prog.LeadsTo.ite fun _ => .fail same
  rintro _ _ rfl
  refine Prog.ends_ok rfl ⟨_, ?_, rfl⟩
  rintro fd ⟨index, inside, isFd, used⟩
  dsimp only at isFd
  split at isFd
  case isTrue =>
    subst fd
    cases used
  case isFalse =>
    exact Or.inr ⟨fd, ⟨index, inside, isFd, used⟩, .refl fd⟩

/-! ## Moving bytes -/

/-- What a read or write leaves behind. -/
inductive Moved (before : State) : State → Prop where
  | unchanged :
      Moved before before
  | pipeRead
      {fd : Fd}
      {slot amount : Nat} :
      Opens before.fds fd →
      fd.Carries before slot (.pipe fd.made) →
      amount ≤ (before.pipeBuffers slot).len →
      Moved before
        ((before.takePipe slot amount).logDelivered fd.made
          ((before.pipeBuffers slot).peek amount))
  | pipeWrite
      {fd : Fd}
      {slot amount : Nat}
      {source : Nat → UInt8} :
      Opens before.fds fd →
      fd.Carries before slot (.pipe fd.made) →
      amount ≤ pipeCapacity - (before.pipeBuffers slot).len →
      Moved before
        ((before.putPipe slot source amount).logAccepted fd.made
          ((List.range amount).map source))
  | socketRead
      {fd : Fd}
      {slot amount made : Nat}
      {aToB : Bool} :
      Opens before.fds fd →
      fd.Carries before slot (.socket made aToB) →
      amount ≤ (before.pipeBuffers slot).len →
      Moved before (before.takePipe slot amount)
  | socketWrite
      {fd : Fd}
      {slot amount made : Nat}
      {aToB : Bool}
      {source : Nat → UInt8} :
      Opens before.fds fd →
      fd.Carries before slot (.socket made aToB) →
      amount ≤ pipeCapacity - (before.pipeBuffers slot).len →
      Moved before (before.putPipe slot source amount)

theorem pipeAvailable_of_some
    {state : State}
    {id available : Nat}
    (isSome : state.pipeAvailable id = some available) :
    available = (state.pipeBuffers id).len := by
  unfold State.pipeAvailable at isSome
  split at isSome
  case isTrue => cases isSome
  case isFalse =>
    split at isSome
    case isTrue => exact (Option.some.inj isSome).symm
    case isFalse => cases isSome

theorem moves_pipeReadFd :
    Prog.LeadsTo before (Moved before) (pipeReadFd fdNumber count copied) := by
  apply Prog.LeadsTo.ite fun _ => .pure .unchanged
  intro _
  apply leadsTo_fdSnapshot_bind .unchanged
  intro fd opens _
  apply Prog.LeadsTo.ite fun _ => .fail .unchanged
  intro isPipe
  rw [not_or, not_not, not_not] at isPipe
  apply Prog.LeadsTo.gets_bind
  cases isSome : before.pipeAvailable (fd.path 0).toNat with
  | none => exact .fail .unchanged
  | some available =>
      apply Prog.LeadsTo.ite
      · intro _
        apply Prog.LeadsTo.gets_bind
        exact .ite (fun _ => .fail .unchanged) fun _ => .pure .unchanged
      · intro _
        apply Prog.LeadsTo.gets_bind
        apply Prog.LeadsTo.ite _ fun _ => .fail .unchanged
        rintro _ _ rfl
        apply Prog.ends_ok rfl
        apply Moved.pipeRead opens (.pipe (Or.inl isPipe.1) isPipe.2 rfl)
        rw [← pipeAvailable_of_some isSome]
        exact Nat.min_le_right _ _

theorem moves_pipeWriteFd :
    Prog.LeadsTo before (Moved before)
      (pipeWriteFd fdNumber count source copied) := by
  apply Prog.LeadsTo.ite fun _ => .pure .unchanged
  intro _
  apply leadsTo_fdSnapshot_bind .unchanged
  intro fd opens _
  apply Prog.LeadsTo.ite fun _ => .fail .unchanged
  intro isPipe
  rw [not_or, not_not, not_not] at isPipe
  apply Prog.LeadsTo.gets_bind
  cases isSome : before.pipeAvailable (fd.path 0).toNat with
  | none => exact .fail .unchanged
  | some available =>
      apply Prog.LeadsTo.gets_bind
      apply Prog.LeadsTo.ite fun _ => .fail .unchanged
      intro _
      apply Prog.LeadsTo.ite fun _ => .fail .unchanged
      intro _
      apply Prog.LeadsTo.ite _ fun _ => .fail .unchanged
      rintro _ _ rfl
      apply Prog.ends_ok rfl
      apply Moved.pipeWrite opens (.pipe (Or.inr isPipe.1) isPipe.2 rfl)
      rw [← pipeAvailable_of_some isSome]
      exact Nat.min_le_right _ _

section

variable
  (isSocket :
    ∀ {fd},
      fdSnapshot fdNumber before = .ok fd before →
      fd.kind = .socket)

include isSocket

theorem moves_socketReadFd :
    Prog.LeadsTo before (Moved before)
      (socketReadFd fdNumber count copied) := by
  apply leadsTo_fdSnapshot_bind .unchanged
  intro fd opens looked
  apply Prog.LeadsTo.ite fun _ => .fail .unchanged
  intro length
  rw [not_not] at length
  apply Prog.LeadsTo.gets_bind
  cases slotIs : before.socketPipeFor (fd.path 0).toNat (fd.path 1) false with
  | none => exact .fail .unchanged
  | some slot =>
      apply Prog.LeadsTo.gets_bind
      apply Prog.LeadsTo.ite
      · exact fun _ => .ite (fun _ => .fail .unchanged) fun _ => .pure .unchanged
      · intro _
        apply Prog.LeadsTo.ite _ fun _ => .fail .unchanged
        rintro _ _ rfl
        apply Prog.ends_ok rfl
        exact
          .socketRead opens (.socket (isSocket looked) length slotIs)
            (Nat.min_le_right _ _)

theorem moves_socketWriteFd :
    Prog.LeadsTo before (Moved before)
      (socketWriteFd fdNumber count source copied) := by
  apply leadsTo_fdSnapshot_bind .unchanged
  intro fd opens looked
  apply Prog.LeadsTo.ite fun _ => .fail .unchanged
  intro length
  rw [not_not] at length
  apply Prog.LeadsTo.gets_bind
  cases slotIs : before.socketPipeFor (fd.path 0).toNat (fd.path 1) true with
  | none => exact .fail .unchanged
  | some slot =>
      apply Prog.LeadsTo.gets_bind
      apply Prog.LeadsTo.ite fun _ => .fail .unchanged
      intro _
      apply Prog.LeadsTo.ite _ fun _ => .fail .unchanged
      rintro _ _ rfl
      apply Prog.ends_ok rfl
      exact
        .socketWrite opens (.socket (isSocket looked) length slotIs)
          (Nat.min_le_right _ _)

end

theorem moves_ofDevice :
    Prog.LeadsTo before (Moved before) (ofDevice device) := by
  rintro _ rfl
  cases device <;> constructor <;> intro _ _ ended <;> cases ended <;>
    exact .unchanged

theorem moves_readFd :
    Prog.LeadsTo before (Moved before)
      (readFd fdNumber count copied device) := by
  apply Prog.LeadsTo.ite fun _ => .fail .unchanged
  intro _
  apply Prog.LeadsTo.ite fun _ => .pure .unchanged
  intro _
  apply leadsTo_fdSnapshot_bind .unchanged
  intro fd _ looked
  apply Prog.LeadsTo.ite fun _ => .fail .unchanged
  intro _
  split
  · exact moves_pipeReadFd
  case h_2 kind =>
    apply moves_socketReadFd
    intro other again
    cases looked.symm.trans again
    exact kind
  · exact moves_ofDevice
  · exact .fail .unchanged

theorem moves_writeFd :
    Prog.LeadsTo before (Moved before)
      (writeFd fdNumber count source copied device) := by
  apply Prog.LeadsTo.ite fun _ => .fail .unchanged
  intro _
  apply Prog.LeadsTo.ite fun _ => .pure .unchanged
  intro _
  apply leadsTo_fdSnapshot_bind .unchanged
  intro fd _ looked
  apply Prog.LeadsTo.ite fun _ => .fail .unchanged
  intro _
  split
  · exact moves_pipeWriteFd
  case h_2 kind =>
    apply moves_socketWriteFd
    intro other again
    cases looked.symm.trans again
    exact kind
  · exact moves_ofDevice
  · exact .fail .unchanged

end VibuxOS.Syscall
