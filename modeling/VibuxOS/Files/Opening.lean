import VibuxOS.Files.RamContents

namespace VibuxOS.Files

open VibuxOS.Lib

/-!
# What an opened descriptor is

`open_path` takes a free descriptor and fills it in; which kind and which path
it gets depends on where the path is found first.
-/

theorem accmode_of_not_opensWritable
    {flags : UInt64}
    (noWrite : opensWritable flags = false) :
    flags &&& Syscall.oAccmode = 0 := by
  have noBits : flags &&& (Syscall.oWronly ||| Syscall.oRdwr) = 0 := by
    simpa [opensWritable] using noWrite
  exact noBits

@[simp] theorem fds_setFd_self
    (state : State)
    (index : Nat)
    (fd : Fd) :
    (state.setFd index fd).fds index = fd :=
  Function.update_self _ _ _

theorem fds_setFd_of_ne
    {state : State}
    {index other : Nat}
    {fd : Fd}
    (apart : other ≠ index) :
    (state.setFd index fd).fds other = state.fds other :=
  Function.update_of_ne apart _ _

theorem allocFd_of_free
    {state : State}
    {index : Nat}
    (free : freeFd state.fds = some index)
    (fd : Fd) :
    allocFd fd state = .ok index (state.setFd index fd) := by
  simp only [allocFd, Prog.gets_bind_apply, free, Prog.modify_bind_apply,
    Prog.pure_apply]

theorem allocFd_of_full
    {state : State}
    (full : freeFd state.fds = none)
    (fd : Fd) :
    allocFd fd state = .err .emfile state := by
  simp only [allocFd, Prog.gets_bind_apply, full, Prog.fail_apply]

theorem ensures_allocFd
    (fd : Fd) :
    Prog.Ensures (fun _ => True) (allocFd fd)
      (fun index final => final.fds index = fd) (fun _ => True) := by
  intro state _
  cases free : freeFd state.fds with
  | none =>
      rw [allocFd_of_full free]
      constructor <;> intro _ _ ended <;> cases ended
      trivial
  | some index =>
      rw [allocFd_of_free free]
      constructor <;> intro _ _ ended <;> cases ended
      exact fds_setFd_self _ _ _

theorem freeFd_unused
    {fds : Nat → Fd}
    {index : Nat}
    (free : freeFd fds = some index) :
    3 ≤ index ∧ index < Syscall.fileFdMax ∧ (fds index).used = false := by
  have place := List.mem_of_find?_eq_some free
  rw [List.mem_range'_1] at place
  have unused := List.find?_some free
  exact ⟨place.1, by omega, by simpa using unused⟩

/-- A number that is not in use, past the standard descriptors. -/
def HasFreeFd (state : State) : Prop :=
  ∃ index,
    3 ≤ index ∧
      index < Syscall.fileFdMax ∧
      (state.fds index).used = false

theorem freeFd_of_hasFreeFd
    {state : State}
    (free : HasFreeFd state) :
    ∃ fd,
      freeFd state.fds = some fd ∧ 3 ≤ fd ∧ fd < Syscall.fileFdMax := by
  obtain ⟨index, behind, inTable, unused⟩ := free
  have found : (freeFd state.fds).isSome = true := by
    apply List.find?_isSome.mpr
    refine ⟨index, ?_, by simp [unused]⟩
    rw [List.mem_range'_1]
    omega
  obtain ⟨fd, isFree⟩ := Option.isSome_iff_exists.mp found
  obtain ⟨past, inside, _⟩ := freeFd_unused isFree
  exact ⟨fd, isFree, past, inside⟩

/-- The kinds whose descriptors carry an index into a table. -/
def FileKind.slotted : FileKind → Bool
  | .pipeRead | .pipeWrite | .eventFd | .timerFd | .signalFd | .epoll
  | .socket => true
  | _ => false

theorem devicePath_mem
    {path stored : List UInt8}
    {kind : FileKind}
    (isDevice : devicePath path = some (kind, stored)) :
    ∃ device ∈ devicePaths,
      path = ascii device.1 ∧ kind = device.2.1 ∧ stored = ascii device.2.2 := by
  obtain ⟨device, found, same⟩ := Option.map_eq_some_iff.mp isDevice
  refine ⟨device, List.mem_of_find?_eq_some found, ?_⟩
  have samePath := List.find?_some found
  rw [beq_iff_eq] at samePath
  cases same
  exact ⟨samePath, rfl, rfl⟩

theorem devicePath_kind
    {path stored : List UInt8}
    {kind : FileKind}
    (isDevice : devicePath path = some (kind, stored)) :
    kind.slotted = false ∧ kind ≠ .ramFile := by
  obtain ⟨device, member, _, rfl, _⟩ := devicePath_mem isDevice
  have plain :
      ∀ device ∈ devicePaths,
        device.2.1.slotted = false ∧ device.2.1 ≠ .ramFile := by
    decide
  exact plain device member

section Opens

variable
  {invariant failed : State → Prop}
  {after : Nat → State → Prop}
  {path : List UInt8}
  {flags : UInt64}

/--
An invariant that `open_path` keeps until it allocates, and what holds after
that; the descriptor of a RAM file has the path that is opened.
-/
structure OpensWith
    (invariant : State → Prop)
    (path : List UInt8)
    (flags : UInt64)
    (after : Nat → State → Prop)
    (failed : State → Prop) : Prop where
  refused : ∀ state, invariant state → failed state
  started : Prog.Ensures invariant init (fun _ => invariant) failed
  ramFile :
    ∀ state index file,
      invariant state → invariant (state.setRamFile index file)
  allocates :
    ∀ kind stored,
      kind.slotted = false →
      (kind = .ramFile → stored = path) →
      Prog.Ensures invariant (allocFd (opened kind flags stored)) after failed

namespace OpensWith

section

variable (opensWith : OpensWith invariant path flags after failed)

include opensWith

theorem ensures_ramFileOpenFd
    (index : Nat) :
    Prog.Ensures
      (fun state => invariant state ∧ (state.ramFiles index).path = path)
      (ramFileOpenFd index flags) after failed := by
  apply @Prog.Ensures.bind _ _ _ _ _ fun stored state =>
    invariant state ∧ stored = path
  · exact .gets fun _ holds => holds
  · rintro stored state ⟨holds, samePath⟩
    exact opensWith.allocates _ _ rfl (fun _ => samePath) state holds

theorem ensures_openRamFile
    {state : State}
    {index : Nat}
    (found : ramFileIndex state path = some index)
    (holds : invariant state) :
    Prog.Ensures (fun current => current = state) (openRamFile index flags)
      after failed := by
  have samePath := (ramFileIndex_used found).2
  have refused : ∀ current, current = state → failed current := by
    rintro _ rfl
    exact opensWith.refused _ holds
  apply Prog.Ensures.ite (fun _ => .fail refused)
  intro _
  apply Prog.Ensures.ite
  · intro _
    apply Prog.Ensures.bind _ fun _ => opensWith.ensures_ramFileOpenFd index
    apply Prog.Ensures.modify
    rintro current rfl
    refine ⟨opensWith.ramFile _ _ _ holds, ?_⟩
    rw [ramFiles_setRamFile_self]
    exact samePath
  · intro _
    apply (opensWith.ensures_ramFileOpenFd index).weaken
    rintro current rfl
    exact ⟨holds, samePath⟩

theorem ensures_createRamFile :
    Prog.Ensures invariant (createRamFile path flags) after failed := by
  have refused := opensWith.refused
  apply Prog.Ensures.ite _ fun _ => .fail refused
  intro _
  apply Prog.Ensures.bind _ opensWith.ensures_ramFileOpenFd
  apply Prog.Ensures.ite (fun _ => .fail refused)
  intro _
  apply @Prog.Ensures.bind _ _ _ _ _ fun _ => invariant
  · exact .gets fun _ holds => holds
  intro unused
  cases unused with
  | none => exact .fail refused
  | some index =>
      apply @Prog.Ensures.bind _ _ _ _ _ fun _ current =>
        invariant current ∧ (current.ramFiles index).path = path
      · apply Prog.Ensures.modify
        intro current holds
        rw [ramFiles_setRamFile_self]
        exact ⟨opensWith.ramFile _ _ _ holds, rfl⟩
      · exact fun _ => .pure fun _ holds => holds

theorem ensures_openPath
    (world : World) :
    Prog.Ensures invariant (openPath world path flags) after failed := by
  apply Prog.Ensures.bind opensWith.started
  intro _
  apply @Prog.Ensures.bind _ _ _ _ _ fun looked current =>
    current = looked ∧ invariant looked
  · exact .gets fun _ holds => ⟨rfl, holds⟩
  intro looked
  have still : ∀ current, current = looked ∧ invariant looked → invariant current := by
    rintro _ ⟨rfl, holds⟩
    exact holds
  have refused := fun current holds => opensWith.refused current (still current holds)
  have allocates :
      ∀ kind stored,
        kind.slotted = false →
        kind ≠ .ramFile →
        Prog.Ensures (fun current => current = looked ∧ invariant looked)
          (allocFd (opened kind flags stored)) after failed :=
    fun kind stored plain other =>
      (opensWith.allocates kind stored plain fun same => (other same).elim).weaken
        still
  apply Prog.Ensures.ite
  · intro _
    exact .ite (fun _ => .fail refused) fun _ => allocates _ _ rfl (by decide)
  intro _
  cases device : devicePath path with
  | some target =>
      obtain ⟨plain, other⟩ := devicePath_kind device
      exact allocates _ _ plain other
  | none =>
      cases found : ramFileIndex looked path with
      | some index =>
          rintro _ ⟨rfl, holds⟩
          exact opensWith.ensures_openRamFile found holds _ rfl
      | none =>
          dsimp only
          split
          · exact
              .ite (fun _ => .fail refused) fun _ =>
                allocates _ _ rfl (by decide)
          · apply Prog.Ensures.ite
            · intro _
              exact
                .ite (fun _ => .fail refused) fun _ =>
                  allocates _ _ rfl (by decide)
            · intro _
              exact opensWith.ensures_createRamFile.weaken still

end

end OpensWith

/-- A freshly opened descriptor; one of a RAM file has the path it was given. -/
def OpenedAt
    (path : List UInt8)
    (flags : UInt64)
    (fd : Nat)
    (final : State) :
    Prop :=
  ∃ kind stored,
    final.fds fd = opened kind flags stored ∧
      (kind = .ramFile → stored = path)

theorem ensures_openPath
    (world : World)
    (path : List UInt8)
    (flags : UInt64) :
    Prog.Ensures (fun _ => True) (openPath world path flags)
      (OpenedAt path flags) (fun _ => True) := by
  apply OpensWith.ensures_openPath
  refine ⟨fun _ _ => trivial, .modify fun _ _ => trivial, fun _ _ _ _ => trivial, ?_⟩
  intro kind stored _ samePath
  exact
    (ensures_allocFd _).consequence fun _ _ filled =>
      ⟨kind, stored, filled, samePath⟩

end Opens

/-! ## Where a path is found -/

theorem init_of_initialized
    {state : State}
    (initialized : state.initialized = true) :
    init state = .ok () state := by
  unfold init
  rw [Prog.modify_apply, if_pos initialized]

def openedDirectory (state : State) (path : List UInt8) : List UInt8 :=
  if path = ascii ['.'] then
    state.cwd
  else if path = ascii ['.', '.'] then
    ascii ['/']
  else
    path

section Found

variable
  {world : World}
  {state : State}
  {path : List UInt8}
  {flags : UInt64}

section

variable (initialized : state.initialized = true)

include initialized

theorem openPath_of_directory
    (directory : isDirectory path = true)
    (noWrite : opensWritable flags = false) :
    openPath world path flags state =
      allocFd (opened .text flags ((openedDirectory state path).take 160))
        state := by
  have noWriteOnly :
      ¬ (flags &&& Syscall.oWronly ≠ 0 ∧ flags &&& Syscall.oRdwr = 0) := by
    rintro ⟨written, _⟩
    apply written
    have readMode := accmode_of_not_opensWritable noWrite
    have inside : Syscall.oAccmode &&& Syscall.oWronly = Syscall.oWronly := by
      decide
    rw [← inside, ← UInt64.and_assoc, readMode, UInt64.zero_and]
  unfold openPath
  rw [Prog.bind_of_ok (init_of_initialized initialized), Prog.gets_bind_apply,
    if_pos directory, if_neg noWriteOnly]
  rfl

theorem openPath_of_device
    {kind : FileKind}
    {stored : List UInt8}
    (noDirectory : isDirectory path = false)
    (device : devicePath path = some (kind, stored)) :
    openPath world path flags state =
      allocFd (opened kind flags stored) state := by
  unfold openPath
  rw [Prog.bind_of_ok (init_of_initialized initialized), Prog.gets_bind_apply,
    if_neg (Bool.eq_false_iff.mp noDirectory), device]

theorem openPath_of_plain
    (noDirectory : isDirectory path = false)
    (noDevice : devicePath path = none) :
    openPath world path flags state =
      (match ramFileIndex state path with
      | some index => openRamFile index flags
      | none =>
          match world.binary path with
          | some binary =>
              if opensWritable flags ∧ flags &&& oTrunc ≠ 0 then
                Prog.fail .erofs
              else
                allocFd (opened .binary flags (binary.path.take 160))
          | none =>
              if (world.text path).isSome then
                if opensWritable flags then
                  Prog.fail .erofs
                else
                  allocFd (opened .text flags (path.take 160))
              else
                createRamFile path flags)
        state := by
  unfold openPath
  rw [Prog.bind_of_ok (init_of_initialized initialized), Prog.gets_bind_apply,
    if_neg (Bool.eq_false_iff.mp noDirectory), noDevice]
  rfl

theorem openPath_of_ramFile
    {index : Nat}
    (noDirectory : isDirectory path = false)
    (noDevice : devicePath path = none)
    (found : ramFileIndex state path = some index)
    (noWrite : opensWritable flags = false)
    (noCreate : flags &&& oCreat = 0) :
    openPath world path flags state =
      allocFd (opened .ramFile flags path) state := by
  rw [openPath_of_plain initialized noDirectory noDevice, found]
  dsimp only
  unfold openRamFile ramFileOpenFd
  rw [if_neg (fun exclusive => exclusive.2 noCreate), if_neg (by simp [noWrite]),
    Prog.gets_bind_apply, (ramFileIndex_used found).2]

end

end Found

end VibuxOS.Files
