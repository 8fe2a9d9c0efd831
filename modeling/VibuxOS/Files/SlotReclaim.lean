import VibuxOS.Files.SlotCreation

namespace VibuxOS.Files

open VibuxOS.Lib

/-!
# Entries are reclaimed along careful runs

A careful call keeps the marks in step with the descriptors, and so does a run
of careful calls.  Without the care they get out of step: no way of dropping a
descriptor clears a mark.
-/

/-! ## Calls that take an entry -/

section Creation

variable
  {state : ObjectState}
  {call : ObjectCall}
  {table : Table}

theorem createsSafely_run
    (sound : Sound state)
    (creates : call.creates = some table)
    (failsEarly : call.FailsEarly state) :
    CreatesSafely state call.run := by
  cases call with
  | eventfd => exact createsSafely_eventfdAlloc sound failsEarly
  | timerfd => exact createsSafely_timerfdAlloc sound _ _
  | signalfd => exact createsSafely_signalfdAlloc sound failsEarly
  | epoll => exact createsSafely_epollAlloc sound _
  | socketpair => exact createsSafely_socketpair sound failsEarly
  | _ => cases creates

theorem unmarked_of_not_held
    (sound : Sound state)
    (notHeld : ∀ id, ¬ Held state.references (table, id))
    (id : Nat) :
    state.marked (table, id) = false := by
  rw [Bool.eq_false_iff]
  intro marked
  exact notHeld id ((sound.tracked _).mp marked)

theorem run_returns
    (sound : Sound state)
    (creates : call.creates = some table)
    (ready : call.Ready state)
    (notHeld : ∀ id, ¬ Held state.references (table, id)) :
    ∃ number final, call.run state = .ok number final := by
  have initialized := sound.initialized
  have unmarked := unmarked_of_not_held sound notHeld
  cases call with
  | eventfd counter flags semaphore =>
      cases creates
      obtain ⟨known, free⟩ := ready
      change ∃ number final, eventfdAlloc _ _ _ state = .ok number final
      unfold eventfdAlloc
      rw [if_neg (not_not.mpr known)]
      exact
        allocObject_returns initialized (takesFrom_eventFds _ _) unmarked free
  | timerfd clockId flags =>
      cases creates
      obtain ⟨known, isClock, free⟩ := ready
      change ∃ number final, timerfdAlloc _ _ state = .ok number final
      unfold timerfdAlloc
      rw [if_neg (not_not.mpr known), if_neg (not_not.mpr isClock)]
      exact allocObject_returns initialized takesFrom_timerFds unmarked free
  | signalfd mask flags =>
      cases creates
      obtain ⟨known, free⟩ := ready
      change ∃ number final, signalfdAlloc _ _ state = .ok number final
      unfold signalfdAlloc
      rw [if_neg (not_not.mpr known)]
      exact
        allocObject_returns initialized (takesFrom_signalFds _) unmarked free
  | epoll flags =>
      cases creates
      obtain ⟨known, free⟩ := ready
      change ∃ number final, epollAlloc _ state = .ok number final
      unfold epollAlloc
      rw [if_neg (not_not.mpr known)]
      exact allocObject_returns initialized takesFrom_epolls unmarked free
  | socketpair domain address copied flags =>
      cases creates
      obtain ⟨isUnix, someAddress, rfl, free, buffers⟩ := ready
      have isFound : state.unusedPair.isSome = true :=
        firstUnused_isSome (by decide) (unmarked 0)
      obtain ⟨pair, foundPair⟩ := Option.isSome_iff_exists.mp isFound
      obtain ⟨_, _, _, _, _, _, _, returns⟩ :=
        @socketPairFromUser_returns state.toState address flags pair someAddress
          foundPair buffers free
      change
        ∃ number final,
          onFiles (socketpair _ _ _ _) state = .ok number final
      unfold socketpair
      rw [if_pos isUnix]
      exact ⟨0, _, onFiles_of_ok returns⟩
  | _ => cases creates

end Creation

/-! ## One step -/

section Steps

variable {before after : ObjectState}

theorem sound_doFork
    {cloned : Bool}
    {files : State}
    (sound : Sound before)
    (ended : (doFork cloned before.toState).final? = some files) :
    Sound { before with toState := files } := by
  unfold doFork at ended
  rw [Prog.gets_bind_apply] at ended
  cases noParent : before.parent with
  | some fds =>
      rw [noParent] at ended
      cases ended
      exact sound
  | none =>
      rw [noParent] at ended
      cases cloned with
      | true =>
          cases ended
          exact sound_of_child sound noParent
      | false =>
          cases ended
          exact sound

theorem sound_doVfork
    {files : State}
    (sound : Sound before)
    (ended : (doVfork before.toState).final? = some files) :
    Sound { before with toState := files } := by
  unfold doVfork at ended
  rw [Prog.gets_bind_apply] at ended
  cases noParent : before.parent with
  | some fds =>
      rw [noParent] at ended
      cases ended
      exact sound
  | none =>
      rw [noParent] at ended
      cases ended
      exact sound_of_child sound noParent

theorem sound_childExit
    {files : State}
    (sound : Sound before)
    (careful : ObjectCall.exit.Careful before)
    (ended : (childExit before.toState).final? = some files) :
    Sound { before with toState := files } := by
  unfold childExit at ended
  rw [Prog.gets_bind_apply] at ended
  cases isParent : before.parent with
  | none =>
      rw [isParent] at ended
      cases ended
  | some fds =>
      rw [isParent] at ended
      cases ended
      exact sound_of_exit sound careful isParent

theorem final_bind_pure
    {α γ : Type}
    {program : Sys α}
    {value : γ}
    {files : State} :
    ((program >>= fun _ => pure value) files).final? =
      (program files).final? := by
  cases result : program files with
  | ok number final => rw [Prog.bind_of_ok result]; rfl
  | err error final => rw [Prog.bind_of_err result]; rfl
  | hang => rw [Prog.bind_of_hang result]; rfl

theorem sound_run
    {call : ObjectCall}
    (sound : Sound before)
    (careful : call.Careful before)
    (ended : (call.run before).final? = some after) :
    Sound after := by
  cases call with
  | eventfd | timerfd | signalfd | epoll | socketpair =>
      exact
        (createsSafely_run sound rfl careful.failsEarly).sound after ended
  | dup fdNumber =>
      exact
        sound_of_rewiresOnly sound careful (rewiresOnly_fdDuplicate _ _ _) ended
  | dupExact oldFd newFd cloexec =>
      refine
        sound_of_rewiresOnly sound careful
          (rewiresOnly_fdDuplicateExact _ ?_) ended
      intro nonnegative different isOpen
      exact ⟨by omega, different, isOpen⟩
  | fcntl fdNumber command argument =>
      exact
        sound_of_rewiresOnly sound careful
          ((rewiresOnly_fcntl _ _ _).bind_pure _) ended
  | close fdNumber =>
      have rewires :
          RewiresOnly ((ObjectCall.close fdNumber).Drops before) before.toState
            (close fdNumber) := by
        apply rewiresOnly_close
        rintro ⟨nonnegative, _, _⟩
        change fdNumber = (fdNumber.toNat : Int)
        omega
      exact sound_of_rewiresOnly sound careful (rewires.bind_pure _) ended
  | closeRange first last flags =>
      have rewires :
          RewiresOnly ((ObjectCall.closeRange first last flags).Drops before)
            before.toState (closeRange first last flags) := by
        apply Prog.Ensures.ite (fun _ => RewiresOnly.of_readOnly (.fail _))
        intro valid
        apply rewiresOnly_clear
        rintro index ⟨behind, atLeast, atMost⟩
        have known : flags &&& 3 = flags := by
          by_contra unknown
          exact valid (.inl unknown)
        exact ⟨known, behind, atLeast, by omega⟩
      exact sound_of_rewiresOnly sound careful (rewires.bind_pure _) ended
  | exec =>
      have rewires :
          RewiresOnly (ObjectCall.exec.Drops before) before.toState
            closeOnExec := by
        apply rewiresOnly_clear
        rintro index ⟨behind, _, _, onExec⟩
        exact ⟨behind, onExec⟩
      exact sound_of_rewiresOnly sound careful (rewires.bind_pure _) ended
  | fork cloned =>
      obtain ⟨files, filesEnded, rfl⟩ := onFiles_final ended
      rw [final_bind_pure] at filesEnded
      exact sound_doFork sound filesEnded
  | vfork =>
      obtain ⟨files, filesEnded, rfl⟩ := onFiles_final ended
      rw [final_bind_pure] at filesEnded
      exact sound_doVfork sound filesEnded
  | exit =>
      obtain ⟨files, filesEnded, rfl⟩ := onFiles_final ended
      rw [final_bind_pure] at filesEnded
      exact sound_childExit sound careful filesEnded

theorem sound_step
    (step :
      ObjectStep (fun state call => call.Careful state) before after)
    (sound : Sound before) :
    Sound after := by
  cases step with
  | call call careful ended => exact sound_run sound careful ended
  | elsewhere initialized references marks timers epolls pairs =>
      refine ⟨initialized, ?_, ?_, ?_, ?_⟩
      · rw [references, marks]
        exact sound.tracked
      · intro id unused
        have unusedBefore : (before.timerFds id).used = false :=
          (congrFun marks (.timerFd, id)).symm.trans unused
        exact (timers id unusedBefore).trans (sound.timers id unusedBefore)
      · intro id unused
        have unusedBefore : (before.epolls id).used = false :=
          (congrFun marks (.epoll, id)).symm.trans unused
        exact (epolls id unusedBefore).trans (sound.epolls id unusedBefore)
      · intro id unused
        have unusedBefore : (before.socketPairs id).used = false :=
          (congrFun marks (.socketPair, id)).symm.trans unused
        exact (pairs id unusedBefore).trans (sound.pairs id unusedBefore)

end Steps

/-! ## Careful runs -/

theorem Sound.reclaimed
    {state : ObjectState}
    (sound : Sound state) :
    Reclaimed state where
  tracked := sound.tracked
  again := fun _ _ creates ready notHeld =>
    run_returns sound creates ready notHeld
  leftAlone := fun _ _ error final creates careful failed =>
    (createsSafely_run sound creates careful.failsEarly).leftAlone error final
      failed

/--
Along every run of careful calls, an entry is marked exactly when a descriptor
refers to it.
-/
theorem slots_reclaimed
    {state : ObjectState}
    (run :
      Relation.ReflTransGen
        (ObjectStep fun state call => call.Careful state)
        ObjectState.booted state) :
    Reclaimed state :=
  (invariant_of_run Sound (fun _ _ => sound_step) run sound_booted).reclaimed

/-! ## A counter that is duplicated, and one that is closed -/

/-- The first counter is made; it gets descriptor 3. -/
def counterMade : ObjectState :=
  ((ObjectCall.eventfd 0 0 false).run ObjectState.booted).final?.getD
    ObjectState.booted

/-- Its descriptor is duplicated; the copy is descriptor 4. -/
def counterCopied : ObjectState :=
  ((ObjectCall.dup 3).run counterMade).final?.getD counterMade

theorem counterMade_careful :
    (ObjectCall.eventfd 0 0 false).Careful ObjectState.booted where
  shared := fun _ _ dropped => dropped.elim
  failsEarly := by
    intro _ full
    have free : freeFd ObjectState.booted.fds = some 3 := rfl
    rw [free] at full
    cases full

theorem slots_reclaimed_copy_closed :
    Reclaimed
      (((ObjectCall.close 4).run counterCopied).final?.getD counterCopied) := by
  have made :
      ObjectStep (fun state call => call.Careful state) ObjectState.booted
        counterMade :=
    .call _ counterMade_careful rfl
  have copied :
      ObjectStep (fun state call => call.Careful state) counterMade
        counterCopied :=
    .call (.dup 3) ⟨fun _ _ dropped => dropped.elim, trivial⟩ rfl
  have careful : (ObjectCall.close 4).Careful counterCopied := by
    refine ⟨?_, trivial⟩
    intro index key dropped refers
    have isCopy : index = 4 := by
      change (4 : Int) = index at dropped
      omega
    subst isCopy
    refine .inl ⟨3, ?_, ?_⟩
    · change ¬ (4 : Int) = (3 : Nat)
      decide
    · rw [← refers]
      rfl
  exact
    slots_reclaimed
      (((Relation.ReflTransGen.single made).tail copied).tail
        (.call _ careful rfl))

def counterClosed : ObjectState :=
  ((ObjectCall.close 3).run counterMade).final?.getD counterMade

/-- The entry of a counter that was closed stays marked. -/
theorem slots_not_reclaimed :
    ¬ ∀ state,
        Relation.ReflTransGen (ObjectStep fun _ _ => True)
          ObjectState.booted state →
        Reclaimed state := by
  intro always
  have made :
      ObjectStep (fun _ _ => True) ObjectState.booted counterMade :=
    .call (.eventfd 0 0 false) trivial rfl
  have closed : ObjectStep (fun _ _ => True) counterMade counterClosed :=
    .call (.close 3) trivial rfl
  have reclaimed :=
    always counterClosed ((Relation.ReflTransGen.single made).tail closed)
  have noSlot :
      ∀ index < Syscall.fileFdMax, (counterClosed.fds index).slot = none := by
    decide +kernel
  have held := (reclaimed.tracked (.eventFd, 0)).mp rfl
  rcases held_references_iff.mp held with
      ⟨index, refers⟩ | ⟨fds, other, isParent, _⟩
  · unfold slotsOf at refers
    split at refers
    · rw [noSlot index ‹_›] at refers
      cases refers
    · cases refers
  · cases isParent

end VibuxOS.Files
