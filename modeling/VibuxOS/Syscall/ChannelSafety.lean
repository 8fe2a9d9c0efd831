import VibuxOS.Syscall.ChannelRuns

namespace VibuxOS.Syscall

open VibuxOS.Lib

set_option maxRecDepth 4000

/-!
# Exclusive buffers, and pipes that survive a child

Both results hold in runs in which `pipe` takes a slot that is nobody's, and
both fail without that: a pipe can take the slot of a socket pair, and a child
can take the slot of its parent's pipe.
-/

/-- A slot belongs to one channel at most. -/
def Exclusive (state : State) : Prop :=
  ∀ slot first second,
    state.Uses slot first →
    state.Uses slot second →
    first = second

/--
A pipe with an open end holds what went into it and has not come out, and a
read hands out the front of it.
-/
def Intact (state : State) : Prop :=
  ∀ slot made,
    state.Uses slot (.pipe made) →
    state.accepted made =
        state.delivered made ++ (state.pipeBuffers slot).contents ∧
      ∀ amount,
        amount ≤ (state.pipeBuffers slot).len →
        (state.pipeBuffers slot).peek amount =
          (state.pipeBuffers slot).contents.take amount

/-! ## Without a child -/

variable {before after : State}

theorem parent_of_step
    {call : Call}
    (notFamily : call.family = false)
    (step : Step before call after) :
    after.parent = before.parent := by
  have retabled :
      Retabled before after → after.parent = before.parent := by
    rintro ⟨fds, _, rfl⟩
    rfl
  have moved : Moved before after → after.parent = before.parent := by
    intro moved
    cases moved <;> rfl
  cases call with
  | pipe copied flags =>
      cases piped_of_step step <;> rfl
  | socketpair domain address copied flags =>
      cases socketed_of_step step <;> rfl
  | dup fd => exact retabled (retables_fdDuplicate.final step)
  | dup2 oldFd newFd => exact retabled (retables_fdDuplicateExact.final step)
  | dup3 oldFd newFd flags =>
      exact retabled (retables_fdDuplicateExact.final step)
  | fcntl fd minFd cloexec =>
      exact retabled (retables_fcntlDuplicate.final step)
  | close fd => exact retabled (retables_close.final step)
  | closeRange first last flags =>
      exact retabled (retables_closeRangeImpl.final step)
  | read fd count copied device => exact moved (moves_readFd.final step)
  | write fd count source copied device =>
      exact moved (moves_writeFd.final step)
  | fork | vfork | exit => cases notFamily

theorem not_pipe_of_pipeSlot
    {state : State}
    (alone : state.parent = none)
    {id : Nat}
    (isSlot : state.pipeSlot = some id)
    (made : Nat) :
    ¬ state.Uses id (.pipe made) := by
  rintro ⟨fd, opens | ⟨_, isParent, _⟩, carries⟩
  · obtain ⟨index, inside, isFd, _⟩ := opens
    have unreferenced := List.find?_some isSlot
    have referenced : state.pipeSlotReferenced id = true := by
      unfold State.pipeSlotReferenced
      rw [List.any_eq_true]
      refine ⟨index, List.mem_range.mpr inside, ?_⟩
      rw [isFd]
      cases carries with
      | pipe isPipe length isId =>
          simp [Fd.isPipeEnd, isPipe, length, isId]
    rw [referenced] at unreferenced
    cases unreferenced
  · rw [alone] at isParent
    cases isParent

theorem untaken_of_apart
    {state : State}
    {call : Call}
    (alone : state.parent = none)
    (allowed : apart state call) :
    untaken state call := by
  cases call with
  | pipe copied flags =>
      intro valid id isSlot channel inUse
      cases channel with
      | pipe made => exact not_pipe_of_pipeSlot alone isSlot made inUse
      | socket made aToB => exact allowed valid id isSlot made aToB inUse
  | socketpair | dup | dup2 | dup3 | fcntl | close | closeRange | read
  | write | fork | vfork | exit =>
      trivial

theorem owned_of_apart
    {state : State}
    (run : Run apart State.initial state) :
    Owned state ∧ state.parent = none := by
  refine invariant_of_run
    (fun state => Owned state ∧ state.parent = none) ?_ run
    ⟨Owned.initial, rfl⟩
  rintro earlier later ⟨call, allowed, step⟩ ⟨owned, alone⟩
  have notFamily : call.family = false := by
    cases call with
    | pipe copied flags => rfl
    | socketpair | dup | dup2 | dup3 | fcntl | close | closeRange | read
    | write | fork | vfork | exit =>
        exact allowed
  exact ⟨owned.step (untaken_of_apart alone allowed) step,
    (parent_of_step notFamily step).trans alone⟩

/--
In runs in which `pipe` never takes the slot of a socket pair, every slot
belongs to one channel at most, and calls that allocate leave the channels
alone.
-/
theorem exclusive_of_apart
    (state : State)
    (run : Run apart State.initial state) :
    Exclusive state ∧
      ∀ call after,
        call.allocates = true →
        apart state call →
        Step state call after →
        KeepsChannels state after := by
  obtain ⟨owned, alone⟩ := owned_of_apart run
  constructor
  · intro slot first second firstUses secondUses
    exact owned.exclusive firstUses secondUses
  · intro call after allocates allowed step
    exact (keepsChannels_of_step owned (untaken_of_apart alone allowed)
      allocates step).2

/-- A first pipe is the only channel on its slot. -/
theorem exclusive_of_apart_pipe :
    ∃ state,
      state.Uses 0 (.pipe 0) ∧ Exclusive state := by
  have run :
      ∃ state,
        Run apart State.initial state ∧ state.Uses 0 (.pipe 0) :=
    ⟨_, .single ⟨.pipe true 0,
        fun _ _ _ _ _ => not_uses_initial _ _, rfl⟩,
      _, Or.inl ⟨3, by decide, rfl, rfl⟩, .pipe (Or.inl rfl) rfl rfl⟩
  obtain ⟨state, run, inUse⟩ := run
  exact ⟨state, inUse, (exclusive_of_apart state run).1⟩

/-- After `socketpair`, `pipe` takes the slot of its first direction. -/
theorem pipe_takes_socket_slot :
    ¬ ∀ state : State,
        Run childless State.initial state →
        Exclusive state := by
  intro claimed
  have run :
      ∃ state,
        Run childless State.initial state ∧
          state.Uses 0 (.socket 0 true) ∧
          state.Uses 0 (.pipe 1) := by
    refine ⟨_,
      .head ⟨.socketpair 1 8 true 0, rfl, rfl⟩
        (.single ⟨.pipe true 0, rfl, rfl⟩),
      ⟨_, Or.inl ⟨3, by decide, rfl, rfl⟩, ?_⟩,
      ⟨_, Or.inl ⟨5, by decide, rfl, rfl⟩, .pipe (Or.inl rfl) rfl rfl⟩⟩
    exact @Fd.Carries.socket _ _ _ true rfl rfl rfl
  obtain ⟨state, run, socketUses, pipeUses⟩ := run
  cases claimed state run 0 _ _ socketUses pipeUses

/-! ## With a child -/

/--
In runs in which `pipe` never takes the slot of a channel of the running process
or of its suspended parent, every pipe with an open end on either side holds
what went into it and has not come out, and calls that allocate leave the
channels alone.
-/
theorem intact_of_untaken
    (state : State)
    (run : Run untaken State.initial state) :
    Intact state ∧
      ∀ call after,
        call.allocates = true →
        untaken state call →
        Step state call after →
        KeepsChannels state after := by
  have owned := owned_of_run run
  constructor
  · intro slot made inUse
    exact ⟨owned.intact inUse, fun _ => (owned.ring slot).peek⟩
  · intro call after allocates allowed step
    exact (keepsChannels_of_step owned allowed allocates step).2

/-- A byte written before a child is started is still in the pipe after its exit. -/
theorem intact_of_untaken_vfork :
    ∃ state,
      state.accepted 0 = [97] ∧
        state.parent = none ∧
        Intact state := by
  have run :
      ∃ state,
        Run untaken State.initial state ∧
          state.accepted 0 = [97] ∧
          state.parent = none :=
    ⟨_,
      .head
        ⟨.pipe true 0, fun _ _ _ _ => not_uses_initial _ _, rfl⟩
        (.head ⟨.write 4 1 (fun _ => 97) true (.ok 0), trivial, rfl⟩
          (.head ⟨.vfork, trivial, rfl⟩
            (.single ⟨.exit, trivial, rfl⟩))),
      rfl, rfl⟩
  obtain ⟨state, run, accepted, alone⟩ := run
  exact ⟨state, accepted, alone, (intact_of_untaken state run).1⟩

/--
A child closes both ends of its parent's pipe and makes a pipe of its own, which
empties the parent's.
-/
theorem child_takes_parent_slot :
    ¬ ∀ state : State,
        Run anyCall State.initial state →
        Intact state := by
  intro claimed
  have run :
      ∃ state,
        Run anyCall State.initial state ∧
          state.Uses 0 (.pipe 0) ∧
          state.accepted 0 = [97] ∧
          state.delivered 0 = [] ∧
          (state.pipeBuffers 0).len = 0 :=
    ⟨_,
      .head ⟨.pipe true 0, trivial, rfl⟩
        (.head ⟨.write 4 1 (fun _ => 97) true (.ok 0), trivial, rfl⟩
          (.head ⟨.fork true, trivial, rfl⟩
            (.head ⟨.close 3, trivial, rfl⟩
              (.head ⟨.close 4, trivial, rfl⟩
                (.head ⟨.pipe true 0, trivial, rfl⟩
                  (.single ⟨.exit, trivial, rfl⟩)))))),
      ⟨_, Or.inl ⟨3, by decide, rfl, rfl⟩, .pipe (Or.inl rfl) rfl rfl⟩,
      rfl, rfl, rfl⟩
  obtain ⟨state, run, inUse, accepted, delivered, empty⟩ := run
  have law := (claimed state run 0 0 inUse).1
  have noContents : (state.pipeBuffers 0).contents = [] := by
    unfold PipeBuffer.contents
    rw [empty]
    rfl
  rw [accepted, delivered, noContents] at law
  cases law

end VibuxOS.Syscall
