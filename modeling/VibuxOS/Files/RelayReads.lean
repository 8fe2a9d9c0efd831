import VibuxOS.Files.Polling
import VibuxOS.Files.Relays

namespace VibuxOS.Files

open VibuxOS.Lib

/-!
# Reads into a buffer of the kernel

When the copies into the buffer succeed, a read of any kind that returns bytes
has removed these bytes from its input.  When they fail, no read returns bytes,
and one that would have returned some fails.
-/

section Removing

variable
  {world : World}
  {state after : State}
  {fdNumber : Int}
  {count : Nat}
  {bytes : List UInt8}

theorem contents_of_delivered
    {source : Option Nat}
    {slot : Nat}
    (delivers : Delivered source state after bytes)
    (isSource : source = some slot)
    (notEmpty : bytes ≠ [])
    (wellFormed : (state.pipeBuffers slot).WellFormed) :
    (state.pipeBuffers slot).contents =
      bytes ++ (after.pipeBuffers slot).contents := by
  cases delivers with
  | unchanged _ notHere _ =>
      rcases notHere with noSource | nothing
      · rw [isSource] at noSource
        cases noSource
      · exact absurd nothing notEmpty
  | taken other amount isOther enough taken =>
      rw [isSource] at isOther
      cases isOther
      rw [taken, Function.update_self]
      exact wellFormed.contents_take enough

theorem connected_of_socketReadFd
    (returned : socketReadFd world fdNumber count state = .ok bytes after) :
    ∃ slot,
      socketPipeFor state (state.fds fdNumber.toNat).id
          ((state.fds fdNumber.toNat).path.getD 1 0) false =
        some slot := by
  unfold socketReadFd at returned
  by_cases isOpen : OpenFd state.fds fdNumber
  · rw [Prog.bind_of_ok (fdSnapshot_of_open isOpen)] at returned
    split at returned
    · cases returned
    · rw [Prog.gets_bind_apply, id] at returned
      cases source :
          socketPipeFor state (state.fds fdNumber.toNat).id
            ((state.fds fdNumber.toNat).path.getD 1 0) false with
      | none =>
          rw [source] at returned
          cases returned
      | some slot =>
          exact ⟨slot, rfl⟩
  · rw [Prog.bind_of_err (fdSnapshot_of_not_open isOpen)] at returned
    cases returned

theorem positionMoved_setPosition
    {start amount : Nat}
    (isStart : start = (state.fds fdNumber.toNat).position.toNat) :
    PositionMoved fdNumber amount state
      (state.setPosition fdNumber.toNat (start + amount)) := by
  unfold PositionMoved State.setPosition State.setFd
  dsimp only
  rw [Function.update_self, isStart, UInt64.ofNat_add, UInt64.ofNat_toNat]

theorem removed_of_ramFileRead
    (mapped : ∀ offset len, world.copied offset len = true)
    (isOpen : OpenFd state.fds fdNumber)
    (returned : ramFileRead world fdNumber count state = .ok bytes after)
    (notEmpty : bytes ≠ []) :
    (∃ index,
        ramFileIndex state (state.fds fdNumber.toNat).path = some index ∧
          bytes =
            window (state.ramFiles index).data
              (state.fds fdNumber.toNat).position.toNat bytes.length) ∧
      PositionMoved fdNumber bytes.length state after := by
  cases found : ramFileIndex state (state.fds fdNumber.toNat).path with
  | none =>
      unfold ramFileRead at returned
      rw [Prog.bind_of_ok (fdSnapshot_of_open isOpen), Prog.gets_bind_apply,
        id, found] at returned
      cases returned
  | some index =>
      rw [ramFileRead_of_found isOpen found] at returned
      dsimp only at returned
      rw [chunksCopied_of_maps (fun offset len _ => mapped offset len)
        (by decide) (Nat.le_refl _), if_neg (Nat.lt_irrefl _)] at returned
      split at returned
      · cases returned
        exact absurd rfl notEmpty
      · rename_i something
        have start :
            readStart state (state.fds fdNumber.toNat) index =
              (state.fds fdNumber.toNat).position.toNat := by
          unfold readAmount readStart at *
          omega
        cases returned
        rw [length_window, start]
        exact ⟨⟨index, rfl, rfl⟩, positionMoved_setPosition rfl⟩

theorem removed_of_fixedRead
    {contents : Option (List UInt8)}
    (returned :
      fixedRead world fdNumber (state.fds fdNumber.toNat) contents count
          state =
        .ok bytes after)
    (notEmpty : bytes ≠ []) :
    (∃ data,
        contents = some data ∧
          bytes =
            (data.drop (state.fds fdNumber.toNat).position.toNat).take
              bytes.length) ∧
      PositionMoved fdNumber bytes.length state after := by
  cases contents with
  | none =>
      cases returned
  | some data =>
      unfold fixedRead at returned
      dsimp only at returned
      split at returned
      · cases returned
        -- a position past the end has no bytes behind it
        have inside :
            (state.fds fdNumber.toNat).position.toNat < data.length := by
          by_contra past
          apply notEmpty
          rw [Nat.min_eq_right (Nat.le_of_not_lt past), List.drop_length,
            List.take_nil]
        rw [Nat.min_eq_left (Nat.le_of_lt inside)]
        refine ⟨⟨data, rfl, ?_⟩, positionMoved_setPosition rfl⟩
        rw [List.length_take, ← List.take_eq_take_min]
      · cases returned

theorem blockReadLoop_of_none
    {cursor : UInt64}
    {written : List UInt8}
    (more : written.length < count)
    (found : world.disk cursor (min 512 (count - written.length)) = none)
    (fuel : Nat) :
    blockReadLoop world count (fuel + 1) cursor written =
      pure (written, cursor) := by
  simp only [blockReadLoop, more, ↓reduceIte, found]

theorem blockReadLoop_of_some
    {cursor : UInt64}
    {written : List UInt8}
    {data : Nat → UInt8}
    (more : written.length < count)
    (found : world.disk cursor (min 512 (count - written.length)) = some data)
    (fuel : Nat) :
    blockReadLoop world count (fuel + 1) cursor written =
      (do
        copyUserOut world written.length
          (window data 0 (min 512 (count - written.length)))
        blockReadLoop world count fuel
          (cursor + UInt64.ofNat (min 512 (count - written.length)))
          (written ++ window data 0 (min 512 (count - written.length)))) := by
  simp only [blockReadLoop, more, ↓reduceIte, found]

theorem cursor_of_blockReadLoop
    {fuel : Nat}
    {cursor stop : UInt64}
    {written : List UInt8}
    (returned :
      blockReadLoop world count fuel cursor written state =
        .ok (bytes, stop) after) :
    stop + UInt64.ofNat written.length =
      cursor + UInt64.ofNat bytes.length := by
  induction fuel generalizing cursor written with
  | zero =>
      cases returned
  | succ fuel inductionHypothesis =>
      by_cases more : written.length < count
      · cases found : world.disk cursor (min 512 (count - written.length)) with
        | none =>
            rw [blockReadLoop_of_none more found] at returned
            cases returned
            rfl
        | some data =>
            rw [blockReadLoop_of_some more found] at returned
            obtain ⟨_, _, rest⟩ :=
              (readOnly_copyUserOut _ _ _).of_bind_ok returned
            have moved := inductionHypothesis rest
            rw [List.length_append, length_window, UInt64.ofNat_add] at moved
            grind
      · rw [blockReadLoop, if_neg more] at returned
        cases returned
        rfl

theorem removed_of_blockRead
    (returned :
      blockRead world fdNumber (state.fds fdNumber.toNat) count state =
        .ok bytes after) :
    (∃ count cursor,
        blockReadLoop world count (count + 1)
            (state.fds fdNumber.toNat).position [] state =
          .ok (bytes, cursor) state) ∧
      PositionMoved fdNumber bytes.length state after := by
  unfold blockRead at returned
  obtain ⟨⟨written, cursor⟩, read, moved⟩ :=
    (readOnly_blockReadLoop _ _ _ _ _).of_bind_ok returned
  have behind := cursor_of_blockReadLoop read
  cases moved
  refine ⟨⟨count, cursor, read⟩, ?_⟩
  unfold PositionMoved State.setFd
  dsimp only
  rw [Function.update_self]
  rw [List.length_nil] at behind
  grind

theorem late_eq_ok
    {room : Nat}
    {change : State → State}
    {record : List UInt8}
    (returned :
      (Prog.modify change >>= fun _ =>
          if count < room then
            Prog.fail .einval
          else
            copyUserOut world 0 record >>= fun _ => pure record : Sys _)
          state =
        .ok bytes after) :
    bytes = record ∧ after = change state := by
  rw [Prog.modify_bind_apply] at returned
  split at returned
  · cases returned
  · rw [copyUserOut_eq] at returned
    split at returned
    · cases returned
      exact ⟨rfl, rfl⟩
    · cases returned

theorem removed_of_eventFdRead
    {fd : Fd}
    (returned : eventFdRead world fd count state = .ok bytes after)
    (notEmpty : bytes ≠ []) :
    ∃ value,
      bytes = leBytes value 8 ∧
        (state.eventFds fd.id).counter.toNat =
          value.toNat + (after.eventFds fd.id).counter.toNat := by
  unfold eventFdRead at returned
  split at returned
  · cases returned
  · rw [Prog.gets_bind_apply] at returned
    split at returned
    · cases returned
    · split at returned
      · split at returned
        · cases returned
        · cases returned
          exact absurd rfl notEmpty
      · rename_i some
        obtain ⟨isValue, rfl⟩ := late_eq_ok returned
        refine ⟨_, isValue, ?_⟩
        unfold State.setEventFd
        dsimp only
        rw [Function.update_self]
        have bounded :
            (if (state.eventFds fd.id).semaphore = true then 1
              else (state.eventFds fd.id).counter) ≤
              (state.eventFds fd.id).counter := by
          split
          · grind
          · exact UInt64.le_refl _
        rw [UInt64.toNat_sub_of_le _ _ bounded]
        have bounded' := UInt64.le_iff_toNat_le.mp bounded
        omega

theorem removed_of_timerFdRead
    {fd : Fd}
    (returned : timerFdRead world fd count state = .ok bytes after)
    (notEmpty : bytes ≠ []) :
    bytes = leBytes (expirations (state.timerFds fd.id) world.nowNs) 8 ∧
      after.timerFds fd.id = (state.timerFds fd.id).fired world.nowNs := by
  unfold timerFdRead at returned
  split at returned
  · cases returned
  · rw [Prog.gets_bind_apply] at returned
    split at returned
    · cases returned
    · split at returned
      · split at returned
        · cases returned
        · cases returned
          exact absurd rfl notEmpty
      · split at returned
        · cases returned
        · obtain ⟨isValue, rfl⟩ := late_eq_ok returned
          refine ⟨isValue, ?_⟩
          unfold State.setTimerFd
          dsimp only
          rw [Function.update_self]

theorem removed_of_signalFdRead
    {fd : Fd}
    (returned : signalFdRead world fd count state = .ok bytes after)
    (notEmpty : bytes ≠ []) :
    ∃ signum,
      Signals.lowestSignal
            (state.pending &&& (state.signalFds fd.id).mask) =
          some signum ∧
        bytes = signalInfo signum state.process.pid ∧
        after.pending = state.pending &&& ~~~Signals.signalBit signum := by
  unfold signalFdRead at returned
  split at returned
  · cases returned
  · rw [Prog.gets_bind_apply, id] at returned
    split at returned
    · cases returned
    · cases lowest :
          Signals.lowestSignal
            (state.pending &&& (state.signalFds fd.id).mask) with
      | none =>
          rw [lowest] at returned
          dsimp only at returned
          split at returned
          · cases returned
          · cases returned
            exact absurd rfl notEmpty
      | some signum =>
          rw [lowest] at returned
          obtain ⟨isValue, rfl⟩ := late_eq_ok returned
          exact ⟨signum, rfl, isValue, rfl⟩

theorem removed_of_ttyRead
    {fd : Fd}
    (returned : ttyRead world fd state = .ok bytes after)
    (notEmpty : bytes ≠ []) :
    ∃ byte, readByte state = .ok byte after ∧ bytes = [byte] := by
  unfold ttyRead at returned
  split at returned
  · cases returned
  · obtain ⟨byte, middle, read, rest⟩ := Prog.bind_eq_ok.mp returned
    split at rest
    · obtain ⟨interrupted, later, _, rest⟩ := Prog.bind_eq_ok.mp rest
      split at rest
      · cases rest
      · cases rest
        exact absurd rfl notEmpty
    · rw [copyUserOut_eq] at rest
      split at rest
      · cases rest
        exact ⟨byte, read, rfl⟩
      · cases rest

theorem removed_of_readKind
    (mapped : ∀ offset len, world.copied offset len = true)
    (isOpen : OpenFd state.fds fdNumber)
    (returned :
      readKind world fdNumber (state.fds fdNumber.toNat) count state =
        .ok bytes after)
    (notEmpty : bytes ≠ []) :
    Removed world fdNumber bytes state after := by
  have delivers := (delivers_readKind _ rfl).1 _ _ returned
  unfold Removed
  unfold readKind at returned
  unfold readSlot at delivers
  unfold readSlot
  dsimp only at delivers ⊢
  cases kind : (state.fds fdNumber.toNat).kind with
  | pipeRead =>
      rw [kind] at delivers
      exact
        ⟨_, rfl, contents_of_delivered delivers rfl notEmpty⟩
  | socket =>
      rw [kind] at returned delivers
      obtain ⟨slot, isSlot⟩ := connected_of_socketReadFd returned
      exact
        ⟨slot, isSlot, contents_of_delivered delivers isSlot notEmpty⟩
  | ramFile =>
      rw [kind] at returned
      exact removed_of_ramFileRead mapped isOpen returned notEmpty
  | binary =>
      rw [kind] at returned
      obtain ⟨⟨data, isData, isBytes⟩, moved⟩ :=
        removed_of_fixedRead returned notEmpty
      obtain ⟨binary, found, rfl⟩ := Option.map_eq_some_iff.mp isData
      exact ⟨⟨binary, found, isBytes⟩, moved⟩
  | text =>
      rw [kind] at returned
      exact removed_of_fixedRead returned notEmpty
  | block =>
      rw [kind] at returned
      exact removed_of_blockRead returned
  | eventFd =>
      rw [kind] at returned
      exact removed_of_eventFdRead returned notEmpty
  | timerFd =>
      rw [kind] at returned
      exact removed_of_timerFdRead returned notEmpty
  | signalFd =>
      rw [kind] at returned
      exact removed_of_signalFdRead returned notEmpty
  | tty =>
      rw [kind] at returned
      exact removed_of_ttyRead returned notEmpty
  | zero =>
      rw [kind] at returned
      dsimp only at returned
      rw [copyUserOut_eq] at returned
      split at returned
      · cases returned
        rw [List.length_replicate]
        exact ⟨rfl, rfl⟩
      · cases returned
  | null =>
      rw [kind] at returned
      cases returned
      exact absurd rfl notEmpty
  | none | pipeWrite | epoll | inotify =>
      rw [kind] at returned
      cases returned

end Removing

/-! ## Copies that are refused -/

/-- Every copy of a byte or more is refused. -/
def World.Refuses (world : World) : Prop :=
  ∀ offset len, len ≠ 0 → world.copied offset len = false

/--
Two reads that differ in their copies: the second one returns no bytes, and
fails when the first one returns some.
-/
def Refused (mapped refused : Sys (List UInt8)) : Prop :=
  ∀ state,
    (∀ bytes after, refused state = .ok bytes after → bytes = []) ∧
      ∀ bytes after,
        mapped state = .ok bytes after →
        bytes ≠ [] →
        ∃ error final, refused state = .err error final

namespace Refused

theorem of_yields
    {program : Sys (List UInt8)}
    (nothing : Prog.Yields (· = []) program) :
    Refused program program :=
  fun state =>
    ⟨fun bytes after returned => nothing state bytes after returned,
      fun bytes after returned notEmpty =>
        absurd (nothing state bytes after returned) notEmpty⟩

theorem of_fails
    {mapped refused : Sys (List UInt8)}
    (fails : ∀ state, ∃ error final, refused state = .err error final) :
    Refused mapped refused := by
  intro state
  obtain ⟨error, final, failed⟩ := fails state
  refine ⟨fun bytes after returned => ?_, fun _ _ _ _ => ⟨_, _, failed⟩⟩
  rw [failed] at returned
  cases returned

theorem bind
    {α : Type}
    {first : Sys α}
    {mapped refused : α → Sys (List UInt8)}
    (next : ∀ value, Refused (mapped value) (refused value)) :
    Refused (first >>= mapped) (first >>= refused) := by
  intro state
  cases result : first state with
  | ok value middle =>
      rw [Prog.bind_of_ok result, Prog.bind_of_ok result]
      exact next value middle
  | err error middle =>
      rw [Prog.bind_of_err result, Prog.bind_of_err result]
      refine ⟨fun _ _ returned => ?_, fun _ _ returned _ => ?_⟩
      · cases returned
      · cases returned
  | hang =>
      rw [Prog.bind_of_hang result, Prog.bind_of_hang result]
      refine ⟨fun _ _ returned => ?_, fun _ _ returned _ => ?_⟩
      · cases returned
      · cases returned

theorem ite
    {condition : Prop}
    [Decidable condition]
    {mapped refused mapped' refused' : Sys (List UInt8)}
    (yes : condition → Refused mapped refused)
    (no : ¬ condition → Refused mapped' refused') :
    Refused (if condition then mapped else mapped')
      (if condition then refused else refused') := by
  split
  · exact yes ‹_›
  · exact no ‹_›

theorem fail
    (error : Errno) :
    Refused (Prog.fail error) (Prog.fail error) :=
  of_yields (.fail _)

theorem empty : Refused (pure []) (pure []) :=
  of_yields (.pure rfl)

theorem copy
    {refused : World}
    (refuses : refused.Refuses)
    {offset : Nat}
    {record : List UInt8}
    (something : record.length ≠ 0)
    (mapped : Sys (List UInt8))
    (next : Unit → Sys (List UInt8)) :
    Refused mapped (copyUserOut refused offset record >>= next) := by
  apply of_fails
  intro state
  have failed : copyUserOut refused offset record state = .err .efault state := by
    unfold copyUserOut
    rw [refuses offset _ something]
    rfl
  exact ⟨_, _, Prog.bind_of_err failed⟩

end Refused

section Refusing

variable
  {world : World}
  {copied : Nat → Nat → Bool}
  {count : Nat}

section

variable (refuses : ({ world with copied := copied } : World).Refuses)

include refuses

theorem refused_fixedRead
    (fdNumber : Int)
    (fd : Fd)
    (contents : Option (List UInt8)) :
    Refused
      (fixedRead { world with copied := fun _ _ => true } fdNumber fd contents
        count)
      (fixedRead { world with copied := copied } fdNumber fd contents
        count) := by
  cases contents with
  | none =>
      exact .fail _
  | some data =>
      unfold fixedRead
      dsimp only
      by_cases empty :
          (data.drop (min fd.position.toNat data.length)).take count = []
      · rw [if_pos (.inl empty), if_pos (.inl empty), empty]
        exact .bind fun _ => .empty
      · have refused := refuses 0 _ (mt List.eq_nil_of_length_eq_zero empty)
        rw [if_neg (not_or.mpr ⟨empty, Bool.eq_false_iff.mp refused⟩)]
        exact .of_fails fun state => ⟨_, _, rfl⟩

theorem refused_blockRead
    (something : count ≠ 0)
    (fdNumber : Int)
    (fd : Fd) :
    Refused
      (blockRead { world with copied := fun _ _ => true } fdNumber fd count)
      (blockRead { world with copied := copied } fdNumber fd count) := by
  have more : ([] : List UInt8).length < count := Nat.pos_of_ne_zero something
  unfold blockRead
  cases found : world.disk fd.position (min 512 (count - [].length)) with
  | none =>
      have ends (copies : Nat → Nat → Bool) :
          blockReadLoop { world with copied := copies } count (count + 1)
              fd.position [] =
            pure ([], fd.position) :=
        @blockReadLoop_of_none { world with copied := copies } _ _ _ more found
          _
      rw [ends, ends]
      apply Refused.of_yields
      intro state bytes final returned
      cases returned
      rfl
  | some data =>
      rw [@blockReadLoop_of_some { world with copied := copied } _ _ _ _ more
        found]
      apply Refused.of_fails
      intro state
      have failed :
          copyUserOut { world with copied := copied } 0
              (window data 0 (min 512 (count - 0))) state =
            .err .efault state := by
        unfold copyUserOut
        rw [refuses 0 _ (by rw [length_window]; omega)]
        rfl
      exact ⟨_, _, Prog.bind_of_err (Prog.bind_of_err failed)⟩

theorem refused_ramFileRead
    (fdNumber : Int) :
    Refused
      (ramFileRead { world with copied := fun _ _ => true } fdNumber count)
      (ramFileRead { world with copied := copied } fdNumber count) := by
  refine .bind fun fd => .bind fun state => ?_
  dsimp only
  cases ramFileIndex state fd.path with
  | none =>
      exact .fail _
  | some index =>
      refine .ite (fun _ => .empty) fun something => ?_
      generalize
        min count
            ((state.ramFiles index).len -
              min fd.position.toNat (state.ramFiles index).len) =
          amount at something ⊢
      have nothing :
          chunksCopied { world with copied := copied } 4096 amount amount 0 =
            0 := by
        rw [chunksCopied_eq_zero_iff (by decide)
          (Nat.pos_of_ne_zero something)]
        exact refuses 0 _ (by omega)
      rw [nothing, if_pos (Nat.pos_of_ne_zero something), if_pos rfl]
      exact .of_fails fun state => ⟨_, _, rfl⟩

theorem refused_readKind
    (something : count ≠ 0)
    (fdNumber : Int)
    (fd : Fd) :
    Refused
      (readKind { world with copied := fun _ _ => true } fdNumber fd count)
      (readKind { world with copied := copied } fdNumber fd count) := by
  unfold readKind
  cases fd.kind with
  | pipeRead =>
      refine .ite (fun none => absurd none something) fun _ =>
        .bind fun fd => .ite (fun _ => .fail _) fun _ => .bind fun state => ?_
      dsimp only
      cases pipeAvailable state fd.id with
      | none =>
          exact .fail _
      | some available =>
          refine .ite (fun _ => .ite (fun _ => .fail _) fun _ => .empty) ?_
          intro notEmpty
          refine .copy refuses ?_ _ _
          rw [Syscall.PipeBuffer.length_peek]
          omega
  | socket =>
      refine .bind fun fd => .ite (fun _ => .fail _) fun _ =>
        .bind fun state => ?_
      dsimp only
      cases socketPipeFor state fd.id (fd.path.getD 1 0) false with
      | none =>
          exact .fail _
      | some slot =>
          refine .ite (fun _ => .ite (fun _ => .fail _) fun _ => .empty) ?_
          intro notEmpty
          refine .copy refuses ?_ _ _
          rw [Syscall.PipeBuffer.length_peek]
          omega
  | eventFd =>
      refine .ite (fun _ => .of_yields .hang) fun _ => .bind fun event =>
        .ite (fun _ => .fail _) fun _ =>
          .ite (fun _ => .ite (fun _ => .fail _) fun _ => .empty) fun _ => ?_
      refine .bind fun _ => .ite (fun _ => .fail _) fun _ => ?_
      exact .copy refuses (by rw [length_leBytes]; decide) _ _
  | timerFd =>
      refine .ite (fun _ => .of_yields .hang) fun _ => .bind fun timer =>
        .ite (fun _ => .fail _) fun _ =>
          .ite (fun _ => .ite (fun _ => .fail _) fun _ => .empty) fun _ =>
            .ite (fun _ => .fail _) fun _ => ?_
      refine .bind fun _ => .ite (fun _ => .fail _) fun _ => ?_
      exact .copy refuses (by rw [length_leBytes]; decide) _ _
  | signalFd =>
      refine .ite (fun _ => .of_yields .hang) fun _ => .bind fun state =>
        .ite (fun _ => .fail _) fun _ => ?_
      cases
        Signals.lowestSignal
          (state.pending &&& (state.signalFds fd.id).mask) with
      | none =>
          exact .ite (fun _ => .fail _) fun _ => .empty
      | some signum =>
          refine .bind fun _ => .ite (fun _ => .fail _) fun _ => ?_
          exact .copy refuses (by rw [length_signalInfo]; decide) _ _
  | tty =>
      refine .ite (fun _ => .fail _) fun _ => .bind fun byte =>
        .ite (fun _ => ?_) fun _ => ?_
      · exact .bind fun _ => .ite (fun _ => .fail _) fun _ => .empty
      · have one : [byte].length ≠ 0 := Nat.succ_ne_zero 0
        exact .copy refuses one _ _
  | zero =>
      refine .copy refuses ?_ _ _
      rw [List.length_replicate]
      omega
  | null =>
      exact .empty
  | binary | text =>
      exact refused_fixedRead refuses fdNumber fd _
  | block =>
      exact refused_blockRead refuses something fdNumber fd
  | ramFile =>
      exact refused_ramFileRead refuses fdNumber
  | none | pipeWrite | epoll | inotify =>
      exact .fail _

theorem refused_readFd
    (fdNumber : Int) :
    Refused
      (readFd { world with copied := fun _ _ => true } fdNumber count)
      (readFd { world with copied := copied } fdNumber count) := by
  refine .ite (fun _ => .fail _) fun _ => .ite (fun _ => .empty) ?_
  intro something
  refine .bind fun fd => .ite (fun _ => .fail _) fun _ => ?_
  exact refused_readKind refuses something fdNumber fd

end

end Refusing

theorem removed_of_readFd
    {world : World}
    {state after : State}
    {fdNumber : Int}
    {count : Nat}
    {bytes : List UInt8}
    (mapped : ∀ offset len, world.copied offset len = true)
    (returned : readFd world fdNumber count state = .ok bytes after)
    (notEmpty : bytes ≠ []) :
    Removed world fdNumber bytes state after := by
  unfold readFd at returned
  split at returned
  · cases returned
  · split at returned
    · cases returned
      exact absurd rfl notEmpty
    · by_cases isOpen : OpenFd state.fds fdNumber
      · rw [Prog.bind_of_ok (fdSnapshot_of_open isOpen)] at returned
        split at returned
        · cases returned
        · exact removed_of_readKind mapped isOpen returned notEmpty
      · rw [Prog.bind_of_err (fdSnapshot_of_not_open isOpen)] at returned
        cases returned

end VibuxOS.Files
