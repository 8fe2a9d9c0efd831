import VibuxOS.Paging.UserBytes
import VibuxOS.Signals.Delivery

namespace VibuxOS.Signals

open VibuxOS.Lib VibuxOS.Paging

/-!
# What is in a signal frame

`build_signal_frame` and `rt_sigreturn` share a layout of numbered offsets.
The fields do not overlap, so every word that one writes is the word that the
other reads, as long as both look at the same address.
-/

/-- The bytes of user memory from an address on. -/
def Machine.bytesFrom
    (machine : Machine)
    (address : UInt64)
    (index : Nat) :
    UInt8 :=
  machine.space.byteAt machine.bytes (address + UInt64.ofNat index)

theorem copyIn_eq_ok
    {address : UInt64}
    {len : Nat}
    {machine final : Machine}
    {data : Nat → UInt8}
    (copied : copyIn address len machine = .ok data final) :
    final = machine ∧
      (len ≠ 0 → Covered machine.space.Loads address len) ∧
      ∀ index < len, data index = machine.bytesFrom address index := by
  unfold copyIn at copied
  cases result :
      copyUserIn machine.space address len
        (.start machine.bytes fun _ => 0) with
  | ok value last =>
      rw [result] at copied
      cases copied
      exact
        ⟨rfl, fun some => covered_of_copyUserIn some result,
          output_of_copyUserIn result⟩
  | err code last =>
      rw [result] at copied
      cases copied
  | hang =>
      rw [result] at copied
      cases copied

theorem copyIn_of_covered
    {address : UInt64}
    {len : Nat}
    {machine : Machine}
    (covered : Covered machine.space.Loads address len) :
    ∃ data, copyIn address len machine = .ok data machine := by
  obtain ⟨final, copied⟩ :=
    copyUserIn_of_covered covered (.start machine.bytes fun _ => 0)
  refine ⟨final.output, ?_⟩
  unfold copyIn
  rw [copied]

theorem copyOut_eq_ok
    {address : UInt64}
    {input : List UInt8}
    {machine final : Machine}
    (copied : copyOut address input machine = .ok () final) :
    ∃ bytes,
      final = { machine with bytes := bytes } ∧
        Landed machine.space address input machine.bytes bytes := by
  unfold copyOut at copied
  cases result :
      copyUserOut machine.space address input
        (.start machine.bytes fun _ => 0) with
  | ok value last =>
      rw [result] at copied
      cases copied
      exact ⟨last.bytes, rfl, landed_of_copyUserOut result⟩
  | err code last =>
      rw [result] at copied
      cases copied
  | hang =>
      rw [result] at copied
      cases copied

/-! ## The layout -/

theorem frameFields_apart
    (frame : SyscallFrame)
    (signum : UInt64)
    (action : SignalAction)
    (oldMask oldRsp frameBase fsBase pid : UInt64) :
    (frameFields frame signum action oldMask oldRsp frameBase fsBase
      pid).Pairwise Field.Apart := by
  have places :
      ([(0, 8), (8, 8), (16, 8), (48, 8), (56, 8), (64, 8), (72, 8), (80, 8),
        (88, 8), (96, 8), (104, 8), (112, 8), (120, 8), (128, 8), (136, 8),
        (144, 8), (152, 8), (160, 8), (168, 8), (176, 8), (184, 8), (192, 8),
        (200, 8), (208, 8), (216, 8), (224, 8), (232, 8), (240, 8), (304, 8),
        (432, 4), (436, 4), (440, 4), (448, 4), (452, 4)] :
        List (Nat × Nat)).Pairwise
        fun first second =>
          first.1 + first.2 ≤ second.1 ∨ second.1 + second.2 ≤ first.1 := by
    decide
  exact
    List.Pairwise.of_map (fun field : Field => (field.offset, field.width))
      (fun _ _ apart => apart) places

theorem getU64_frame
    {frame : SyscallFrame}
    {signum : UInt64}
    {action : SignalAction}
    {oldMask oldRsp frameBase fsBase pid : UInt64}
    {offset : Nat}
    {value : UInt64}
    (place : Nat)
    (among :
      (frameFields frame signum action oldMask oldRsp frameBase fsBase
        pid)[place]? = some (putU64 offset value)) :
    getU64
        (record (fun _ => 0)
          (frameFields frame signum action oldMask oldRsp frameBase fsBase
            pid))
        offset =
      value :=
  getU64_record (frameFields_apart _ _ _ _ _ _ _ _)
    (List.mem_of_getElem? among)

/-! ## What `rt_sigreturn` makes of a frame -/

/-- The checks on the words of a frame. -/
def accepts (data : Nat → UInt8) : Bool :=
  !refuses (getU64 data (ucMcontext + 144)) (getU64 data (ucMcontext + 128))
    (getU64 data (ucMcontext + 120)) (getU64 data (ucMcontext + 136))

/-- The machine with a stack pointer, a base of `fs` and a mask restored. -/
def Machine.restored (rsp fs savedMask : UInt64) (machine : Machine) : Machine :=
  { machine with
    syscallSavedRsp := rsp
    savedRsp := if machine.childActive then machine.savedRsp else rsp
    childSavedRsp := if machine.childActive then rsp else machine.childSavedRsp
    fsBase := fs
    process :=
      { machine.process with
        signalMask := savedMask
        pendingSignals := machine.pending } }

section Restored

variable
  (rsp fs savedMask : UInt64)
  (machine : Machine)

@[simp] theorem signalMask_restored :
    (machine.restored rsp fs savedMask).process.signalMask = savedMask :=
  rfl

@[simp] theorem fsBase_restored :
    (machine.restored rsp fs savedMask).fsBase = fs :=
  rfl

@[simp] theorem childActive_restored :
    (machine.restored rsp fs savedMask).childActive = machine.childActive :=
  rfl

@[simp] theorem parentState_restored :
    (machine.restored rsp fs savedMask).parentState = machine.parentState :=
  rfl

@[simp] theorem userRsp_restored :
    (machine.restored rsp fs savedMask).userRsp = rsp := by
  unfold Machine.userRsp Machine.restored
  cases machine.childActive <;> rfl

end Restored

/-- The machine after a return from a handler. -/
def Machine.returned (data : Nat → UInt8) (machine : Machine) : Machine :=
  machine.restored (getU64 data (ucMcontext + 120))
    (getU64 data (ucMcontext + 192)) (getU64 data ucSigmask)

section Same

variable
  {left right : Nat → UInt8}
  (same : ∀ index < rtSigframeSize, left index = right index)

include same

theorem getU64_same
    {offset : Nat}
    (inside : offset + 8 ≤ rtSigframeSize) :
    getU64 left offset = getU64 right offset :=
  getU64_congr fun index below => same (offset + index) (by omega)

theorem accepts_same : accepts left = accepts right := by
  unfold accepts
  simp (disch := decide) only [getU64_same same]

theorem frameRegisters_same :
    frameRegisters left = frameRegisters right := by
  unfold frameRegisters
  simp (disch := decide) only [getU64_same same]

theorem returned_same
    (machine : Machine) :
    machine.returned left = machine.returned right := by
  unfold Machine.returned
  simp (disch := decide) only [getU64_same same]

end Same

theorem rtSigreturnImpl_eq_ok
    {machine final : Machine}
    {registers : SyscallFrame} :
    rtSigreturnImpl machine = .ok registers final ↔
      ∃ frameBase,
        returnPlace machine.syscallSavedRsp = some frameBase ∧
          Covered machine.space.Loads frameBase rtSigframeSize ∧
          accepts (machine.bytesFrom frameBase) = true ∧
          registers = frameRegisters (machine.bytesFrom frameBase) ∧
          final = machine.returned (machine.bytesFrom frameBase) := by
  have finish :
      ∀ (data : Nat → UInt8) (machine : Machine),
        (if
            refuses (getU64 data (ucMcontext + 144))
              (getU64 data (ucMcontext + 128))
              (getU64 data (ucMcontext + 120))
              (getU64 data (ucMcontext + 136)) then
          (Prog.fail efault : Sys SyscallFrame)
        else do
          setSavedUserRsp (getU64 data (ucMcontext + 120))
          Prog.modify fun machine =>
            { machine with
              fsBase := getU64 data (ucMcontext + 192)
              process :=
                { machine.process with
                  signalMask := getU64 data ucSigmask
                  pendingSignals := machine.pending } }
          pure (frameRegisters data)) machine =
          if accepts data then
            .ok (frameRegisters data) (machine.returned data)
          else
            .err efault machine := by
    intro data machine
    unfold accepts
    cases refuses (getU64 data (ucMcontext + 144))
      (getU64 data (ucMcontext + 128)) (getU64 data (ucMcontext + 120))
      (getU64 data (ucMcontext + 136)) with
    | true =>
        rfl
    | false =>
        unfold setSavedUserRsp Machine.returned Machine.restored
        cases active : machine.childActive with
        | true =>
            simp [active]
        | false =>
            simp [active]
  unfold rtSigreturnImpl savedUserRsp
  rw [Prog.gets_bind_apply]
  cases place : returnPlace machine.syscallSavedRsp with
  | none =>
      constructor
      · intro returned
        cases returned
      · rintro ⟨frameBase, found, _⟩
        cases found
  | some frameBase =>
      dsimp only
      constructor
      · intro returned
        obtain ⟨data, middle, copied, later⟩ := Prog.bind_eq_ok.mp returned
        obtain ⟨rfl, covered, isData⟩ := copyIn_eq_ok copied
        rw [finish] at later
        split at later
        · rename_i accepted
          cases later
          exact
            ⟨frameBase, rfl, covered (by decide),
              (accepts_same isData).symm.trans accepted,
              frameRegisters_same isData, returned_same isData _⟩
        · cases later
      · rintro ⟨_, found, covered, accepted, rfl, rfl⟩
        cases found
        obtain ⟨data, copied⟩ := copyIn_of_covered covered
        obtain ⟨_, _, isData⟩ := copyIn_eq_ok copied
        rw [Prog.bind_of_ok copied, finish, accepts_same isData, accepted,
          if_pos rfl, frameRegisters_same isData, returned_same isData]

theorem rtSigreturnImpl_eq_err
    {machine final : Machine}
    {error : UInt64}
    (failed : rtSigreturnImpl machine = .err error final) :
    final = machine := by
  unfold rtSigreturnImpl savedUserRsp at failed
  rw [Prog.gets_bind_apply] at failed
  cases place : returnPlace machine.syscallSavedRsp with
  | none =>
      rw [place] at failed
      cases failed
      rfl
  | some frameBase =>
      rw [place] at failed
      rcases Prog.bind_eq_err.mp failed with
          copying | ⟨data, middle, copied, later⟩
      · unfold copyIn at copying
        split at copying
        · cases copying
        · cases copying
          rfl
        · cases copying
      · obtain ⟨rfl, _⟩ := copyIn_eq_ok copied
        dsimp only at later
        split at later
        · cases later
          rfl
        · cases later

end VibuxOS.Signals
