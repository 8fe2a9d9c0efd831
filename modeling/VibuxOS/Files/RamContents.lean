import Mathlib.Data.List.Find
import VibuxOS.Files.ByteFiles
import VibuxOS.Files.ChunkedCopies

namespace VibuxOS.Files

open VibuxOS.Lib

/-!
# RAM files are byte arrays, up to what a gap shows

The bytes behind the end of a RAM file stay in its buffer when the file is cut.
`ftruncate` blanks what it shows again, but a write past the end does not, so
what it skips may be old contents.  A run of calls on RAM files is one on byte
arrays exactly when no write skips a byte that is not zero.
-/

variable
  {state : State}
  {path : List UInt8}
  {index : Nat}
  {file : RamFile}
  {files : ByteFiles}
  {world : World}
  {fdNumber : Int}

/-! ## Replacing a RAM file -/

theorem ramFileIndex_used
    (found : ramFileIndex state path = some index) :
    (state.ramFiles index).used = true ∧
      (state.ramFiles index).path = path := by
  have holds := List.find?_some found
  rw [Bool.and_eq_true, beq_iff_eq] at holds
  exact holds

theorem ramFileIndex_lt
    (found : ramFileIndex state path = some index) :
    index < ramFileMax :=
  List.mem_range.mp (List.mem_of_find?_eq_some found)

@[simp] theorem ramFiles_setRamFile_self
    (state : State)
    (index : Nat)
    (file : RamFile) :
    (state.setRamFile index file).ramFiles index = file :=
  Function.update_self _ _ _

theorem ramFiles_setRamFile_of_ne
    {index other : Nat}
    (apart : other ≠ index) :
    (state.setRamFile index file).ramFiles other = state.ramFiles other :=
  Function.update_of_ne apart _ _

theorem ramFileIndex_setRamFile
    (used : file.used = (state.ramFiles index).used)
    (path : file.path = (state.ramFiles index).path) :
    ramFileIndex (state.setRamFile index file) = ramFileIndex state := by
  funext wanted
  apply List.find?_congr
  intro other _
  by_cases same : other = index
  · subst same
    rw [ramFiles_setRamFile_self, used, path]
  · rw [ramFiles_setRamFile_of_ne same]

theorem contentsAt_setRamFile
    (found : ramFileIndex state path = some index)
    (used : file.used = (state.ramFiles index).used)
    (samePath : file.path = (state.ramFiles index).path) :
    contentsAt (state.setRamFile index file) =
      Function.update (contentsAt state) path
        (some (window file.data 0 file.len)) := by
  funext wanted
  unfold contentsAt
  rw [ramFileIndex_setRamFile used samePath]
  by_cases same : wanted = path
  · subst same
    rw [Function.update_self, found, Option.map_some,
      ramFiles_setRamFile_self]
  · rw [Function.update_of_ne same]
    cases elsewhere : ramFileIndex state wanted with
    | none =>
        rfl
    | some other =>
        have apart : other ≠ index := by
          rintro rfl
          exact
            same
              ((ramFileIndex_used elsewhere).2.symm.trans
                (ramFileIndex_used found).2)
        rw [Option.map_some, ramFiles_setRamFile_of_ne apart, Option.map_some]

theorem ramFileIndex_create
    (inside : index < ramFileMax)
    (missing : ramFileIndex state file.path = none)
    (used : file.used = true) :
    ramFileIndex (state.setRamFile index file) file.path = some index := by
  unfold ramFileIndex
  cases found :
      (List.range ramFileMax).find? fun other =>
        ((state.setRamFile index file).ramFiles other).used &&
          ((state.setRamFile index file).ramFiles other).path == file.path with
  | none =>
      have absent :=
        List.find?_eq_none.mp found index (List.mem_range.mpr inside)
      rw [ramFiles_setRamFile_self, used, beq_self_eq_true] at absent
      exact absurd rfl absent
  | some other =>
      by_cases same : other = index
      · rw [same]
      · have holds := List.find?_some found
        rw [ramFiles_setRamFile_of_ne same] at holds
        exact
          absurd holds
            (List.find?_eq_none.mp missing other
              (List.mem_of_find?_eq_some found))

theorem ramFileIndex_create_of_ne
    (unused : (state.ramFiles index).used = false)
    (apart : path ≠ file.path) :
    ramFileIndex (state.setRamFile index file) path =
      ramFileIndex state path := by
  apply List.find?_congr
  intro other _
  by_cases same : other = index
  · subst same
    rw [ramFiles_setRamFile_self, unused, Bool.false_and,
      beq_false_of_ne apart.symm, Bool.and_false]
  · rw [ramFiles_setRamFile_of_ne same]

theorem contentsAt_create
    (inside : index < ramFileMax)
    (unused : (state.ramFiles index).used = false)
    (missing : ramFileIndex state file.path = none)
    (used : file.used = true) :
    contentsAt (state.setRamFile index file) =
      Function.update (contentsAt state) file.path
        (some (window file.data 0 file.len)) := by
  funext wanted
  unfold contentsAt
  by_cases same : wanted = file.path
  · subst same
    rw [Function.update_self, ramFileIndex_create inside missing used,
      Option.map_some, ramFiles_setRamFile_self]
  · rw [Function.update_of_ne same, ramFileIndex_create_of_ne unused same]
    cases elsewhere : ramFileIndex state wanted with
    | none =>
        rfl
    | some other =>
        have apart : other ≠ index := by
          rintro rfl
          have taken := (ramFileIndex_used elsewhere).1
          rw [unused] at taken
          cases taken
        rw [Option.map_some, ramFiles_setRamFile_of_ne apart, Option.map_some]

theorem freeSlots_setRamFile
    (used : file.used = (state.ramFiles index).used) :
    freeSlots (state.setRamFile index file) = freeSlots state := by
  apply Finset.filter_congr
  intro other _
  by_cases same : other = index
  · subst same
    rw [ramFiles_setRamFile_self, used]
  · rw [ramFiles_setRamFile_of_ne same]

theorem freeSlots_create
    (used : file.used = true) :
    freeSlots (state.setRamFile index file) =
      (freeSlots state).erase index := by
  ext other
  unfold freeSlots
  rw [Finset.mem_filter, Finset.mem_erase, Finset.mem_filter]
  by_cases same : other = index
  · subst same
    rw [ramFiles_setRamFile_self, used]
    simp
  · rw [ramFiles_setRamFile_of_ne same]
    simp [same]

/-! ## What the calls do to what a state represents -/

namespace Represents

variable {state : State} {files : ByteFiles}

section

variable (represents : Represents state files)

include represents

theorem setFd
    (index : Nat)
    (fd : Fd) :
    Represents (state.setFd index fd) (files.setFd index fd) := by
  refine ⟨represents.contents, represents.room, represents.initialized, ?_⟩
  exact congrArg (fun fds => Function.update fds index fd) represents.fds

theorem setPosition
    (index position : Nat) :
    Represents (state.setPosition index position)
      (files.setPosition index position) := by
  unfold State.setPosition ByteFiles.setPosition
  rw [represents.fds]
  exact represents.setFd index _

theorem contents_update
    (path : List UInt8)
    (file : ByteFile)
    (wanted : List UInt8) :
    Function.update (contentsAt state) path (some file.bytes) wanted =
      (Function.update files.files path (some file) wanted).map
        ByteFile.bytes := by
  by_cases same : wanted = path
  · subst same
    rw [Function.update_self, Function.update_self, Option.map_some]
  · rw [Function.update_of_ne same, Function.update_of_ne same]
    exact represents.contents wanted

theorem setFile
    (found : ramFileIndex state path = some index)
    {ramFile : RamFile}
    (used : ramFile.used = (state.ramFiles index).used)
    (samePath : ramFile.path = (state.ramFiles index).path)
    {file : ByteFile}
    (bytes : window ramFile.data 0 ramFile.len = file.bytes) :
    Represents (state.setRamFile index ramFile) (files.setFile path file) where
  contents := by
    intro wanted
    rw [contentsAt_setRamFile found used samePath, bytes]
    exact represents.contents_update path file wanted
  room := by
    rw [freeSlots_setRamFile used]
    exact represents.room
  initialized := represents.initialized
  fds := represents.fds

theorem create
    (inside : index < ramFileMax)
    (unused : (state.ramFiles index).used = false)
    {ramFile : RamFile}
    (missing : ramFileIndex state ramFile.path = none)
    (used : ramFile.used = true)
    {file : ByteFile}
    (bytes : window ramFile.data 0 ramFile.len = file.bytes) :
    Represents (state.setRamFile index ramFile)
      { files.setFile ramFile.path file with room := files.room - 1 } where
  contents := by
    intro wanted
    rw [contentsAt_create inside unused missing used, bytes]
    exact represents.contents_update ramFile.path file wanted
  room := by
    have free : index ∈ freeSlots state :=
      Finset.mem_filter.mpr ⟨Finset.mem_range.mpr inside, unused⟩
    rw [freeSlots_create used, Finset.card_erase_of_mem free, represents.room]
  initialized := represents.initialized
  fds := represents.fds

theorem missing_iff
    (path : List UInt8) :
    ramFileIndex state path = none ↔ files.files path = none := by
  have same := represents.contents path
  unfold contentsAt at same
  constructor
  · intro missing
    rw [missing, Option.map_none] at same
    exact Option.map_eq_none_iff.mp same.symm
  · intro missing
    rw [missing, Option.map_none] at same
    exact Option.map_eq_none_iff.mp same

theorem found
    (found : ramFileIndex state path = some index) :
    ∃ file,
      files.files path = some file ∧
        file.bytes =
          window (state.ramFiles index).data 0 (state.ramFiles index).len := by
  have same := represents.contents path
  unfold contentsAt at same
  rw [found, Option.map_some] at same
  obtain ⟨file, present, bytes⟩ := Option.map_eq_some_iff.mp same.symm
  exact ⟨file, present, bytes⟩

end

end Represents

/-! ## Opening -/

section

variable (represents : Represents state files)

include represents

theorem allocFd_related
    (fd : Fd) :
    Outcome.Related Represents (allocFd fd state)
      (ByteFiles.allocFd fd files) := by
  unfold allocFd ByteFiles.allocFd
  rw [Prog.gets_bind_apply, Prog.gets_bind_apply, represents.fds]
  cases freeFd files.fds with
  | some index =>
      exact .ok index (represents.setFd index fd)
  | none =>
      exact .err _ represents

theorem ramFileOpenFd_related
    (samePath : (state.ramFiles index).path = path)
    (flags : UInt64) :
    Outcome.Related Represents (ramFileOpenFd index flags state)
      (ByteFiles.allocFd (opened .ramFile flags path) files) := by
  unfold ramFileOpenFd
  rw [Prog.gets_bind_apply, samePath]
  exact allocFd_related represents _

theorem init_related :
    Outcome.Related
      (fun middle other =>
        Represents middle other ∧ middle.ramFiles = state.ramFiles)
      (init state) (ByteFiles.init files) := by
  refine .ok () ?_
  dsimp only
  rw [← represents.initialized]
  cases initialized : state.initialized with
  | true =>
      rw [if_pos rfl, if_pos rfl]
      exact ⟨represents, rfl⟩
  | false =>
      rw [if_neg Bool.false_ne_true, if_neg Bool.false_ne_true]
      refine ⟨⟨represents.contents, represents.room, rfl, ?_⟩, rfl⟩
      dsimp only
      rw [represents.fds]

theorem openRamFile_related
    (found : ramFileIndex state path = some index)
    (flags : UInt64) :
    Outcome.Related Represents (openRamFile index flags state)
      ((if flags &&& oExcl ≠ 0 ∧ flags &&& oCreat ≠ 0 then
          Prog.fail .eexist
        else if flags &&& oTrunc ≠ 0 ∧ opensWritable flags then
          Prog.modify (ByteFiles.setFile path ByteFile.empty) >>= fun _ =>
            ByteFiles.allocFd (opened .ramFile flags path)
        else
          ByteFiles.allocFd (opened .ramFile flags path) :
          ByteFiles.Sys Nat) files) := by
  have samePath := (ramFileIndex_used found).2
  unfold openRamFile
  split
  · exact .err _ represents
  · split
    · rw [Prog.modify_bind_apply, Prog.modify_bind_apply]
      have truncated :
          Represents
            (state.setRamFile index { state.ramFiles index with len := 0 })
            (files.setFile path ByteFile.empty) := by
        apply represents.setFile found
        · rfl
        · rfl
        · rfl
      apply ramFileOpenFd_related truncated
      rw [ramFiles_setRamFile_self]
      exact samePath
    · exact ramFileOpenFd_related represents samePath flags

theorem unusedRamFile_eq_none_iff :
    unusedRamFile state = none ↔ files.room = 0 := by
  rw [← represents.room, Finset.card_eq_zero]
  unfold unusedRamFile freeSlots
  rw [List.find?_eq_none, Finset.filter_eq_empty_iff]
  simp only [List.mem_range, Finset.mem_range, Bool.not_eq_true,
    Bool.not_eq_false', Bool.not_eq_false]

end

theorem ramFileCreate_of_fit
    (fit : ¬ (path = [] ∨ path.length > 160))
    (mode : UInt32)
    (state : State) :
    ramFileCreate path mode state =
      match unusedRamFile state with
      | some index =>
          .ok index
            (state.setRamFile index
              { RamFile.empty with used := true, mode := mode, path := path })
      | none => .err .enospc state := by
  unfold ramFileCreate
  rw [if_neg fit, Prog.gets_bind_apply]
  cases unusedRamFile state with
  | some index =>
      rfl
  | none =>
      rfl

section

variable (represents : Represents state files)

include represents

theorem createRamFile_related
    (missing : ramFileIndex state path = none)
    (flags : UInt64) :
    Outcome.Related Represents (createRamFile path flags state)
      ((if flags &&& oCreat = 0 then
          Prog.fail .enoent
        else if path = [] ∨ path.length > 160 ∨ files.room = 0 then
          Prog.fail .enospc
        else
          (Prog.modify fun (state : ByteFiles) =>
            { state.setFile path ByteFile.empty with
              room := state.room - 1 }) >>= fun _ =>
            ByteFiles.allocFd (opened .ramFile flags path) :
          ByteFiles.Sys Nat) files) := by
  unfold createRamFile
  by_cases creates : flags &&& oCreat = 0
  · rw [if_neg (not_not.mpr creates), if_pos creates]
    exact .err _ represents
  · rw [if_pos creates, if_neg creates]
    by_cases unfit : path = [] ∨ path.length > 160
    · have refused :
          ramFileCreate path (createMode flags) state = .err .enospc state := by
        unfold ramFileCreate
        rw [if_pos unfit]
        rfl
      rw [Prog.bind_of_err refused, if_pos (by tauto)]
      exact .err _ represents
    · have created := ramFileCreate_of_fit unfit (createMode flags) state
      cases unused : unusedRamFile state with
      | none =>
          have full := (unusedRamFile_eq_none_iff represents).mp unused
          rw [unused] at created
          rw [Prog.bind_of_err created, if_pos (Or.inr (Or.inr full))]
          exact .err _ represents
      | some index =>
          have room : files.room ≠ 0 := by
            intro full
            rw [(unusedRamFile_eq_none_iff represents).mpr full] at unused
            cases unused
          have fit :
              ¬ (path = [] ∨ path.length > 160 ∨ files.room = 0) := by
            tauto
          rw [unused] at created
          rw [Prog.bind_of_ok created, if_neg fit, Prog.modify_bind_apply]
          have free := List.find?_some unused
          rw [Bool.not_eq_true'] at free
          have made :=
            @Represents.create index state files represents
              (List.mem_range.mp (List.mem_of_find?_eq_some unused)) free
              { RamFile.empty with
                used := true
                mode := createMode flags
                path := path }
              missing rfl ByteFile.empty rfl
          apply ramFileOpenFd_related made
          rw [ramFiles_setRamFile_self]

theorem openPath_related
    (ramPath : RamPath world state path)
    (flags : UInt64) :
    Outcome.Related Represents (openPath world path flags state)
      (ByteFiles.openPath path flags files) := by
  obtain ⟨noDirectory, noDevice, notFixed⟩ := ramPath
  unfold openPath ByteFiles.openPath
  apply Outcome.Related.bind (init_related represents)
  · intro middle other kept
    exact kept.1
  · intro _ middle other kept
    obtain ⟨represents, sameFiles⟩ := kept
    have sameIndex : ramFileIndex middle path = ramFileIndex state path := by
      unfold ramFileIndex
      rw [sameFiles]
    rw [Prog.gets_bind_apply, Prog.gets_bind_apply, noDirectory,
      if_neg Bool.false_ne_true, noDevice, id, id]
    dsimp only
    cases found : ramFileIndex middle path with
    | some index =>
        obtain ⟨file, present, _⟩ := represents.found found
        rw [present]
        exact openRamFile_related represents found flags
    | none =>
        obtain ⟨noBinary, noText⟩ := notFixed (sameIndex ▸ found)
        rw [(represents.missing_iff path).mp found, noBinary, noText]
        exact createRamFile_related represents found flags

/-! ## Reading and writing -/

theorem ramFileRead_related
    (mapped : Mapped world)
    (isOpen : OpenFd state.fds fdNumber)
    (count : Nat) :
    Outcome.Related Represents (ramFileRead world fdNumber count state)
      ((Prog.gets id >>= fun (files : ByteFiles) =>
          match files.files (state.fds fdNumber.toNat).path with
          | none => Prog.fail .enoent
          | some file =>
              let bytes :=
                file.read (state.fds fdNumber.toNat).position.toNat count
              if bytes = [] then
                pure []
              else do
                Prog.modify
                  (ByteFiles.setPosition fdNumber.toNat
                    ((state.fds fdNumber.toNat).position.toNat +
                      bytes.length))
                pure bytes : ByteFiles.Sys (List UInt8)) files) := by
  unfold ramFileRead
  rw [Prog.bind_of_ok (fdSnapshot_of_open isOpen), Prog.gets_bind_apply,
    Prog.gets_bind_apply, id, id]
  generalize state.fds fdNumber.toNat = fd
  cases found : ramFileIndex state fd.path with
  | none =>
      rw [(represents.missing_iff _).mp found]
      exact .err _ represents
  | some index =>
      obtain ⟨file, present, bytes⟩ := represents.found found
      rw [present]
      dsimp only
      generalize state.ramFiles index = ramFile at bytes
      have reads :
          file.read fd.position.toNat count =
            window ramFile.data fd.position.toNat
              (min count (ramFile.len - fd.position.toNat)) := by
        unfold ByteFile.read
        rw [bytes, drop_window, take_window, Nat.zero_add]
      rw [reads]
      by_cases nothing : min count (ramFile.len - fd.position.toNat) = 0
      · have start :
            min count
                (ramFile.len - min fd.position.toNat ramFile.len) =
              0 := by
          omega
        rw [nothing, start, if_pos rfl, window_zero, if_pos rfl]
        exact .ok _ represents
      · have start : min fd.position.toNat ramFile.len = fd.position.toNat := by
          omega
        have shown :
            window ramFile.data fd.position.toNat
                (min count (ramFile.len - fd.position.toNat)) ≠
              [] := by
          intro empty
          have length := congrArg List.length empty
          rw [length_window] at length
          exact nothing length
        rw [start, if_neg nothing,
          (chunksCopied_eq_amount_iff (by decide)).mpr fun _ _ => mapped _ _,
          if_neg (Nat.lt_irrefl _), if_neg shown, Prog.modify_bind_apply,
          Prog.modify_bind_apply, length_window]
        exact .ok _ (represents.setPosition _ _)

theorem readFd_related
    (mapped : Mapped world)
    (ramDescriptor : RamDescriptor state fdNumber)
    (count : Nat) :
    Outcome.Related Represents (readFd world fdNumber count state)
      (ByteFiles.readFd fdNumber count files) := by
  unfold readFd ByteFiles.readFd
  split
  · exact .err _ represents
  · split
    · exact .ok _ represents
    · by_cases isOpen : OpenFd state.fds fdNumber
      · rw [Prog.bind_of_ok (fdSnapshot_of_open isOpen),
          Prog.bind_of_ok
            (ByteFiles.fdSnapshot_of_open (represents.fds ▸ isOpen)),
          ← represents.fds]
        split
        · exact .err _ represents
        · unfold readKind
          rw [ramDescriptor isOpen]
          exact ramFileRead_related represents mapped isOpen count
      · rw [Prog.bind_of_err (fdSnapshot_of_not_open isOpen),
          Prog.bind_of_err
            (ByteFiles.fdSnapshot_of_not_open (represents.fds ▸ isOpen))]
        exact .err _ represents

end

/-- A write skips nothing but zeros on its way from the end to its start. -/
def SkipsZeros (state : State) (fd : Fd) : Prop :=
  ∀ index,
    ramFileIndex state fd.path = some index →
    ByteFiles.writeStart fd (state.ramFiles index).len < ramFileCapacity →
    ∀ place,
      (state.ramFiles index).len ≤ place →
      place < ByteFiles.writeStart fd (state.ramFiles index).len →
      (state.ramFiles index).data place = 0

theorem ramFileWrite_of_mapped
    (mapped : Mapped world)
    (isOpen : OpenFd state.fds fdNumber)
    {count index start : Nat}
    (some_ : count ≠ 0)
    (found :
      ramFileIndex state (state.fds fdNumber.toNat).path = some index)
    (starts :
      ByteFiles.writeStart (state.fds fdNumber.toNat)
        (state.ramFiles index).len = start)
    (within : start < ramFileCapacity) :
    ramFileWrite world fdNumber count state =
      .ok (min count (ramFileCapacity - start))
        (State.setPosition fdNumber.toNat
          (start + min count (ramFileCapacity - start))
          (state.setRamFile index
            { state.ramFiles index with
              data :=
                blit (state.ramFiles index).data start world.source
                  (min count (ramFileCapacity - start))
              len :=
                max (state.ramFiles index).len
                  (start + min count (ramFileCapacity - start)) })) := by
  have positive : min count (ramFileCapacity - start) ≠ 0 := by
    omega
  have fits : ¬ (start ≥ ramFileCapacity ∧ count ≠ 0) := by
    omega
  unfold ByteFiles.writeStart at starts
  unfold ramFileWrite
  rw [Prog.bind_of_ok (fdSnapshot_of_open isOpen), Prog.gets_bind_apply, id]
  rw [found]
  dsimp only
  rw [starts, if_neg fits, if_neg positive,
    (chunksCopied_eq_amount_iff (by decide)).mpr fun _ _ => mapped _ _,
    if_neg (Nat.lt_irrefl _)]
  rfl

theorem ramFileWrite_of_full
    (isOpen : OpenFd state.fds fdNumber)
    {count index : Nat}
    (some_ : count ≠ 0)
    (found :
      ramFileIndex state (state.fds fdNumber.toNat).path = some index)
    (full :
      ramFileCapacity ≤
        ByteFiles.writeStart (state.fds fdNumber.toNat)
          (state.ramFiles index).len) :
    ramFileWrite world fdNumber count state = .err .enospc state := by
  unfold ByteFiles.writeStart at full
  unfold ramFileWrite
  rw [Prog.bind_of_ok (fdSnapshot_of_open isOpen), Prog.gets_bind_apply, id]
  rw [found]
  dsimp only
  rw [if_pos ⟨full, some_⟩]
  rfl

section

variable (represents : Represents state files)

include represents

theorem represents_written_iff
    (found : ramFileIndex state path = some index)
    {file : ByteFile}
    (bytes :
      file.bytes =
        window (state.ramFiles index).data 0 (state.ramFiles index).len)
    {source : Nat → UInt8}
    {start amount fdIndex position : Nat}
    {written : List UInt8}
    (isWritten : written = window source 0 amount)
    (fits : start + written.length ≤ ramFileCapacity) :
    Represents
        (State.setPosition fdIndex position
          (state.setRamFile index
            { state.ramFiles index with
              data := blit (state.ramFiles index).data start source amount
              len := max (state.ramFiles index).len (start + amount) }))
        (ByteFiles.setPosition fdIndex position
          (files.setFile path (file.write start written fits))) ↔
      ∀ place,
        (state.ramFiles index).len ≤ place →
        place < start →
        (state.ramFiles index).data place = 0 := by
  rw [← @window_blit_eq_overwrite_iff UInt8 0 (state.ramFiles index).data
    source (state.ramFiles index).len start amount]
  constructor
  · intro after
    have shown := after.contents path
    have sameContents :
        contentsAt
            (State.setPosition fdIndex position
              (state.setRamFile index
                { state.ramFiles index with
                  data :=
                    blit (state.ramFiles index).data start source amount
                  len :=
                    max (state.ramFiles index).len (start + amount) }))
            path =
          some
            (window (blit (state.ramFiles index).data start source amount) 0
              (max (state.ramFiles index).len (start + amount))) := by
      refine (congrFun (contentsAt_setRamFile found ?_ ?_) path).trans ?_
      · rfl
      · rfl
      · exact Function.update_self _ _ _
    rw [sameContents] at shown
    have sameFile :
        (ByteFiles.setPosition fdIndex position
            (files.setFile path (file.write start written fits))).files
            path =
          some (file.write start written fits) :=
      Function.update_self _ _ _
    rw [sameFile, Option.map_some] at shown
    rw [Option.some.inj shown, ← bytes, ← isWritten]
    rfl
  · intro shown
    apply Represents.setPosition
    apply represents.setFile found
    · rfl
    · rfl
    · rw [shown, ← bytes, ← isWritten]
      rfl

theorem ramFileWrite_related_iff
    (mapped : Mapped world)
    (isOpen : OpenFd state.fds fdNumber)
    {count : Nat}
    (some_ : count ≠ 0) :
    Outcome.Related Represents (ramFileWrite world fdNumber count state)
        ((Prog.gets id >>= fun (files : ByteFiles) =>
            match files.files (state.fds fdNumber.toNat).path with
            | none => Prog.fail .enoent
            | some file =>
                let position :=
                  ByteFiles.writeStart (state.fds fdNumber.toNat)
                    file.bytes.length
                let bytes :=
                  (window world.source 0 count).take
                    (ramFileCapacity - position)
                if fits :
                    position + bytes.length ≤ ramFileCapacity ∧ bytes ≠ [] then do
                  Prog.modify
                    (ByteFiles.setFile (state.fds fdNumber.toNat).path
                      (file.write position bytes fits.1))
                  Prog.modify
                    (ByteFiles.setPosition fdNumber.toNat
                      (position + bytes.length))
                  pure bytes.length
                else
                  Prog.fail .enospc : ByteFiles.Sys Nat) files) ↔
      SkipsZeros state (state.fds fdNumber.toNat) := by
  rw [Prog.gets_bind_apply, id]
  unfold SkipsZeros
  cases found : ramFileIndex state (state.fds fdNumber.toNat).path with
  | none =>
      have refused : ramFileWrite world fdNumber count state =
          .err .enoent state := by
        unfold ramFileWrite
        rw [Prog.bind_of_ok (fdSnapshot_of_open isOpen), Prog.gets_bind_apply,
          id]
        rw [found]
        rfl
      rw [refused, (represents.missing_iff _).mp found]
      refine ⟨fun _ index missing => ?_, fun _ => .err _ represents⟩
      cases missing
  | some index =>
      obtain ⟨file, present, bytes⟩ := represents.found found
      have length : file.bytes.length = (state.ramFiles index).len := by
        rw [bytes, length_window]
      rw [present]
      dsimp only
      rw [length]
      generalize starts :
        ByteFiles.writeStart (state.fds fdNumber.toNat)
          (state.ramFiles index).len = start
      by_cases within : start < ramFileCapacity
      · have taken :
            (window world.source 0 count).take (ramFileCapacity - start) =
              window world.source 0 (min count (ramFileCapacity - start)) := by
          rw [take_window, Nat.min_comm]
        have amount :
            ((window world.source 0 count).take
                (ramFileCapacity - start)).length =
              min count (ramFileCapacity - start) := by
          rw [taken, length_window]
        rw [ramFileWrite_of_mapped mapped isOpen some_ found starts within]
        generalize (window world.source 0 count).take
          (ramFileCapacity - start) = written at taken amount
        have fits :
            start + written.length ≤ ramFileCapacity ∧ written ≠ [] := by
          refine ⟨by omega, ?_⟩
          rintro rfl
          rw [List.length_nil] at amount
          omega
        rw [← amount] at taken
        rw [dif_pos fits, ← amount, Prog.modify_bind_apply,
          Prog.modify_bind_apply]
        have after :=
          @represents_written_iff state (state.fds fdNumber.toNat).path index
            files represents found file bytes
            world.source start written.length fdNumber.toNat
            (start + written.length) written taken fits.1
        constructor
        · intro related other same inside
          cases same
          rw [starts]
          cases related with
          | ok _ represented =>
              exact after.mp represented
        · intro skips
          have zeros := skips index rfl (starts.symm ▸ within)
          rw [starts] at zeros
          exact .ok _ (after.mpr zeros)
      · rw [ramFileWrite_of_full isOpen some_ found
          (starts ▸ Nat.le_of_not_lt within)]
        rw [dif_neg]
        · refine ⟨fun _ other same inside => ?_, fun _ => .err _ represents⟩
          cases same
          rw [starts] at inside
          exact absurd inside within
        · rintro ⟨_, shown⟩
          rw [Nat.sub_eq_zero_of_le (Nat.le_of_not_lt within)] at shown
          exact shown List.take_zero

theorem writeFd_related_iff
    (mapped : Mapped world)
    (ramDescriptor : RamDescriptor state fdNumber)
    (count : Nat) :
    Outcome.Related Represents (writeFd world fdNumber count state)
        (ByteFiles.writeFd fdNumber (window world.source 0 count) files) ↔
      (OpenFd state.fds fdNumber →
        count ≠ 0 →
        fdWritable (state.fds fdNumber.toNat) = true →
        SkipsZeros state (state.fds fdNumber.toNat)) := by
  unfold writeFd ByteFiles.writeFd
  by_cases outside : fdNumber < 0 ∨ fdNumber ≥ Syscall.fileFdMax
  · rw [if_pos outside, if_pos outside]
    refine ⟨fun _ isOpen => ?_, fun _ => .err _ represents⟩
    obtain ⟨nonnegative, inTable, _⟩ := isOpen
    omega
  · rw [if_neg outside, if_neg outside]
    by_cases nothing : count = 0
    · subst nothing
      rw [if_pos rfl, window_zero, if_pos rfl]
      exact ⟨fun _ _ some_ => absurd rfl some_, fun _ => .ok _ represents⟩
    · have some_ : window world.source 0 count ≠ [] := by
        intro empty
        have length := congrArg List.length empty
        rw [length_window] at length
        exact nothing length
      rw [if_neg nothing, if_neg some_]
      by_cases isOpen : OpenFd state.fds fdNumber
      · rw [Prog.bind_of_ok (fdSnapshot_of_open isOpen),
          Prog.bind_of_ok
            (ByteFiles.fdSnapshot_of_open (represents.fds ▸ isOpen)),
          ← represents.fds]
        cases writable : fdWritable (state.fds fdNumber.toNat) with
        | false =>
            have refused :
                false = false ∧ (state.fds fdNumber.toNat).kind ≠ .tty := by
              rw [ramDescriptor isOpen]
              decide
            rw [if_pos refused, if_pos rfl]
            refine ⟨fun _ _ _ writes => ?_, fun _ => .err _ represents⟩
            cases writes
        | true =>
            rw [if_neg (fun both => Bool.false_ne_true both.1.symm),
              if_neg Bool.false_ne_true.symm]
            unfold writeKind
            rw [ramDescriptor isOpen]
            have obvious :
                (OpenFd state.fds fdNumber →
                    count ≠ 0 →
                    true = true →
                    SkipsZeros state (state.fds fdNumber.toNat)) ↔
                  SkipsZeros state (state.fds fdNumber.toNat) := by
              tauto
            rw [obvious]
            exact ramFileWrite_related_iff represents mapped isOpen nothing
      · rw [Prog.bind_of_err (fdSnapshot_of_not_open isOpen),
          Prog.bind_of_err
            (ByteFiles.fdSnapshot_of_not_open (represents.fds ▸ isOpen))]
        exact ⟨fun _ opens => absurd opens isOpen, fun _ => .err _ represents⟩

/-! ## Seeking and truncating -/

theorem lseek_related
    (ramDescriptor : RamDescriptor state fdNumber)
    (world : World)
    (offset : UInt64)
    (whence : Int) :
    Outcome.Related Represents (lseek world fdNumber offset whence state)
      (ByteFiles.lseek fdNumber offset whence files) := by
  unfold lseek ByteFiles.lseek
  by_cases isOpen : OpenFd state.fds fdNumber
  · rw [Prog.bind_of_ok (fdSnapshot_of_open isOpen),
      Prog.bind_of_ok
        (ByteFiles.fdSnapshot_of_open (represents.fds ▸ isOpen)),
      ← represents.fds]
    have kind := ramDescriptor isOpen
    generalize state.fds fdNumber.toNat = fd at kind
    have size :
        seekSize world state fd =
          ((files.files fd.path).map fun file => file.bytes.length).getD 0 := by
      unfold seekSize ramFileSize
      rw [kind, if_neg (by decide), if_neg (by decide)]
      cases found : ramFileIndex state fd.path with
      | none =>
          rw [(represents.missing_iff _).mp found]
          rfl
      | some index =>
          obtain ⟨file, present, bytes⟩ := represents.found found
          rw [present, Option.map_some, Option.map_some, bytes, length_window]
    have seekable : ¬ fd.kind.unseekable = true := by
      rw [kind]
      decide
    rw [if_neg seekable, Prog.gets_bind_apply, Prog.gets_bind_apply, id, id,
      size]
    cases
      seekTarget (asI64 fd.position)
        (((files.files fd.path).map fun file => file.bytes.length).getD 0 :
          Nat)
        (asI64 offset) whence with
    | none =>
        exact .err _ represents
    | some next =>
        dsimp only
        split
        · exact .err _ represents
        · exact .ok _ (represents.setPosition _ _)
  · rw [Prog.bind_of_err (fdSnapshot_of_not_open isOpen),
      Prog.bind_of_err
        (ByteFiles.fdSnapshot_of_not_open (represents.fds ▸ isOpen))]
    exact .err _ represents

theorem ramFileTruncate_related
    (path : List UInt8)
    (size : Nat) :
    Outcome.Related Represents (ramFileTruncate path size state)
      (ByteFiles.truncate path size files) := by
  unfold ramFileTruncate ByteFiles.truncate
  rw [Prog.gets_bind_apply, Prog.gets_bind_apply, id, id]
  cases found : ramFileIndex state path with
  | none =>
      rw [(represents.missing_iff _).mp found]
      exact .err _ represents
  | some index =>
      obtain ⟨file, present, bytes⟩ := represents.found found
      rw [present]
      dsimp only
      by_cases fits : size ≤ ramFileCapacity
      · rw [if_neg (Nat.not_lt.mpr fits), dif_pos fits]
        refine .ok () ?_
        apply represents.setFile found
        · rfl
        · rfl
        · have shown :=
            window_resized 0 (state.ramFiles index).data
              (state.ramFiles index).len size
          rw [← bytes] at shown
          exact shown
      · rw [if_pos (Nat.lt_of_not_le fits), dif_neg fits]
        exact .err _ represents

theorem ftruncate_related
    (ramDescriptor : RamDescriptor state fdNumber)
    (size : Nat) :
    Outcome.Related Represents (ftruncate fdNumber size state)
      (ByteFiles.ftruncate fdNumber size files) := by
  unfold ftruncate ByteFiles.ftruncate
  by_cases isOpen : OpenFd state.fds fdNumber
  · rw [Prog.bind_of_ok (fdSnapshot_of_open isOpen),
      Prog.bind_of_ok
        (ByteFiles.fdSnapshot_of_open (represents.fds ▸ isOpen)),
      ← represents.fds, ramDescriptor isOpen, if_pos rfl]
    exact ramFileTruncate_related represents _ size
  · rw [Prog.bind_of_err (fdSnapshot_of_not_open isOpen),
      Prog.bind_of_err
        (ByteFiles.fdSnapshot_of_not_open (represents.fds ▸ isOpen))]
    exact .err _ represents

end

/-! ## Runs -/

/-- A call that does not write past old contents. -/
def Call.SkipsZeros (call : Call) (state : State) : Prop :=
  match call with
  | writeFd _ fdNumber count =>
      OpenFd state.fds fdNumber →
        count ≠ 0 →
        fdWritable (state.fds fdNumber.toNat) = true →
        Files.SkipsZeros state (state.fds fdNumber.toNat)
  | _ => True

theorem represents_new :
    Represents State.new ByteFiles.new :=
  ⟨fun _ => rfl, by decide, rfl, rfl⟩

theorem call_related_iff
    (call : Call)
    (state : State)
    (files : ByteFiles)
    (represents : Represents state files)
    (onRamFile : call.OnRamFile state) :
    Outcome.Related Represents (call.run state) (call.specification files) ↔
      call.SkipsZeros state := by
  cases call with
  | openPath world path flags =>
      exact
        ⟨fun _ => trivial,
          fun _ => (openPath_related represents onRamFile flags).map _⟩
  | readFd world fdNumber count =>
      exact
        ⟨fun _ => trivial,
          fun _ =>
            (readFd_related represents onRamFile.1 onRamFile.2 count).map _⟩
  | writeFd world fdNumber count =>
      have decides :=
        writeFd_related_iff represents onRamFile.1 onRamFile.2 count
      constructor
      · intro related
        apply decides.mp
        apply related.of_map
        intro left right same
        cases same
        rfl
      · intro skips
        exact (decides.mpr skips).map _
  | lseek world fdNumber offset whence =>
      exact
        ⟨fun _ => trivial,
          fun _ =>
            (lseek_related represents onRamFile world offset whence).map _⟩
  | ftruncate fdNumber size =>
      exact
        ⟨fun _ => trivial,
          fun _ => (ftruncate_related represents onRamFile size).map _⟩
  | truncate path size =>
      exact
        ⟨fun _ => trivial,
          fun _ => (ramFileTruncate_related represents path size).map _⟩

/--
A run of calls on RAM files, from a state that represents byte arrays, answers
and shows what the byte arrays do exactly when no write skips a byte that is
not zero.
-/
theorem run_follows_byteFiles_iff
    {state : State}
    {files : ByteFiles}
    (represents : Represents state files)
    {calls : List Call}
    (onRamFiles : Along Call.run Call.OnRamFile calls state) :
    Follows Represents Call.run Call.specification calls state files ↔
      Along Call.run Call.SkipsZeros calls state :=
  follows_iff_along call_related_iff represents onRamFiles

/-- Two letters are written to a new file. -/
def letterCalls : List Call :=
  [.openPath World.idle (ascii ['/', 'a']) (oCreat ||| Syscall.oRdwr),
    .writeFd World.idle 3 2]

/-- The letters are cut off, and a third one is written behind where one was. -/
def staleCalls : List Call :=
  letterCalls ++
    [.ftruncate 3 0, .lseek World.idle 3 1 0, .writeFd World.idle 3 1]

theorem letters_follow_byteFiles :
    Follows Represents Call.run Call.specification letterCalls State.new
      ByteFiles.new := by
  apply (run_follows_byteFiles_iff represents_new ?_).mpr
  · refine ⟨trivial, ?_⟩
    intro next ended
    obtain rfl := Option.some.inj (show some _ = some next from ended)
    refine ⟨?_, fun _ _ => trivial⟩
    intro _ _ _ index found _ place _ before
    obtain rfl := Option.some.inj (show some 0 = some index from found)
    exact absurd (show place < 0 from before) (Nat.not_lt_zero place)
  · refine ⟨⟨rfl, rfl, fun _ => ⟨rfl, rfl⟩⟩, ?_⟩
    intro next ended
    obtain rfl := Option.some.inj (show some _ = some next from ended)
    refine ⟨⟨fun _ _ => rfl, fun _ => rfl⟩, fun _ _ => trivial⟩

theorem stale_letter :
    ¬ Follows Represents Call.run Call.specification staleCalls State.new
      ByteFiles.new := by
  intro follows
  have written := (follows.2 _ _ rfl rfl).2 _ _ rfl rfl
  have sought := (written.2 _ _ rfl rfl).2 _ _ rfl rfl
  have represents := sought.1.final rfl rfl
  have shown := represents.contents (ascii ['/', 'a'])
  exact absurd shown (by decide)

end VibuxOS.Files
