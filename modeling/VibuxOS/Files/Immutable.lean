import VibuxOS.Files.FileRuns

namespace VibuxOS.Files

open VibuxOS.Lib

/-!
# Built-in files stay what they are

RAM files are looked up before built-in ones, so a built-in file is what its
path shows as long as no RAM file has that path.  `open_path` never creates one
there; `ram_file_rename` does not look at what its new path stands for.
-/

variable
  {store : Store}
  {state : State}

/-! ## Paths without RAM files -/

/-- No RAM file has the path of a built-in file. -/
def Store.Uncovered (store : Store) (state : State) : Prop :=
  ∀ index,
    (state.ramFiles index).used = true →
    store.contentsOf (state.ramFiles index).path = none

/-- The calls that do not rename a RAM file to the path of a built-in file. -/
def Store.Spares (store : Store) (state : State) (call : FileCall) : Prop :=
  ∀ old new,
    call = .rename old new →
    (ramFileIndex state old).isSome = true →
    new.length ≤ 160 →
    store.contentsOf new = none

theorem uncovered_booted (store : Store) :
    store.Uncovered State.booted :=
  fun _ used => (Bool.false_ne_true used).elim

theorem uncovered_step
    {before after : State}
    (step : FileStep store store.Spares before after)
    (settled : Settled before)
    (uncovered : store.Uncovered before) :
    store.Uncovered after := by
  intro index used
  cases step with
  | call call served spares ended =>
      have change := nameChange_of_ended settled served ended
      cases change.entries index used with
      | @kept origin same =>
          have wasUsed : (before.ramFiles origin).used = true :=
            (congrArg RamName.used same).trans used
          have samePath :
              (before.ramFiles origin).path = (after.ramFiles index).path :=
            congrArg RamName.path same
          rw [← samePath]
          exact uncovered origin wasUsed
      | created _ free =>
          exact free
      | renamed found isRename fits _ =>
          exact
            spares _ _ isRename (Option.isSome_of_mem found) fits
  | elsewhere names _ _ =>
      have same := congrFun names index
      have wasUsed : (before.ramFiles index).used = true :=
        (congrArg RamName.used same).symm.trans used
      have samePath :
          (after.ramFiles index).path = (before.ramFiles index).path :=
        congrArg RamName.path same
      rw [samePath]
      exact uncovered index wasUsed

theorem uncovered_of_run
    (run :
      Relation.ReflTransGen (FileStep store store.Spares) State.booted state) :
    Settled state ∧ store.Uncovered state := by
  apply
    invariant_of_run (fun state => Settled state ∧ store.Uncovered state) _ run
  · exact ⟨settled_booted, uncovered_booted store⟩
  · rintro before after step ⟨settled, uncovered⟩
    exact ⟨settled_step step settled, uncovered_step step settled uncovered⟩

/-! ## Opening a built-in file -/

/-- What a descriptor of a kind for a path reads from. -/
def Store.ShowsAs
    (store : Store)
    (kind : FileKind)
    (path contents : List UInt8) : Prop :=
  (kind = .binary ∧
      ∃ binary,
        find store.binaries path = some binary ∧
          binary.bytes = contents) ∨
    kind = .text ∧ textFile path = some contents

theorem ramFileIndex_of_uncovered
    {path contents : List UInt8}
    (uncovered : store.Uncovered state)
    (builtIn : store.contentsOf path = some contents) :
    ramFileIndex state path = none := by
  cases found : ramFileIndex state path with
  | none => rfl
  | some index =>
      obtain ⟨used, samePath⟩ := ramFileIndex_used found
      have free := uncovered index used
      rw [samePath, builtIn] at free
      cases free

theorem not_special_of_textFile
    {path contents : List UInt8}
    (isText : textFile path = some contents) :
    isDirectory path = false ∧ devicePath path = none := by
  obtain ⟨file, member, samePath, _⟩ := textFile_mem isText
  have apart :
      ∀ file ∈ textFiles,
        isDirectory (bytes file.1) = false ∧
          (devicePath (bytes file.1)).isNone = true := by
    decide +kernel
  rw [samePath]
  obtain ⟨noDirectory, noDevice⟩ := apart file member
  exact ⟨noDirectory, Option.isNone_iff_eq_none.mp noDevice⟩

theorem not_special_of_find
    {path : List UInt8}
    {binary : StoredBinary}
    (found : find store.binaries path = some binary) :
    isDirectory path = false ∧ devicePath path = none := by
  have notReserved : ¬ Reserved path := by
    intro reserved
    rw [store.find_of_reserved reserved] at found
    cases found
  constructor
  · apply Bool.eq_false_iff.mpr
    exact fun directory => notReserved (.inl directory)
  · cases device : devicePath path with
    | none => rfl
    | some target =>
        exact
          (notReserved
            (.inr (.inl (by rw [device, Option.isSome_some])))).elim

theorem shows_of_contentsOf
    {path contents : List UInt8}
    (builtIn : store.contentsOf path = some contents) :
    (∃ binary,
        find store.binaries path = some binary ∧
          binary.path = path ∧ binary.bytes = contents) ∨
      find store.binaries path = none ∧ textFile path = some contents := by
  unfold Store.contentsOf at builtIn
  cases found : store.binaries.find? fun binary => binary.path == path with
  | some binary =>
      rw [found] at builtIn
      have samePath := List.find?_some found
      rw [beq_iff_eq] at samePath
      refine .inl ⟨binary, ?_, samePath, Option.some.inj builtIn⟩
      rw [← samePath]
      exact store.find_path (List.mem_of_find?_eq_some found)
  | none =>
      rw [found] at builtIn
      refine .inr ⟨store.find_of_reserved (.inr (.inr ?_)), builtIn⟩
      exact Option.isSome_of_mem builtIn

theorem openPath_of_uncovered
    {world : World}
    {path contents : List UInt8}
    {flags : UInt64}
    (settled : Settled state)
    (uncovered : store.Uncovered state)
    (serves : store.Serves world)
    (builtIn : store.contentsOf path = some contents)
    (fits : path.length ≤ 160)
    (noWrite : opensWritable flags = false) :
    ∃ kind,
      store.ShowsAs kind path contents ∧
        openPath world path flags state =
          allocFd (opened kind flags path) state := by
  have noRamFile := ramFileIndex_of_uncovered uncovered builtIn
  rcases shows_of_contentsOf builtIn with
      ⟨binary, found, samePath, sameBytes⟩ | ⟨notFound, isText⟩
  · obtain ⟨noDirectory, noDevice⟩ := not_special_of_find found
    refine ⟨.binary, .inl ⟨rfl, binary, found, sameBytes⟩, ?_⟩
    have isBinary : world.binary path = some binary.toBinary := by
      rw [serves.binary_eq, found, Option.map_some]
    rw [openPath_of_plain settled.initialized noDirectory noDevice, noRamFile,
      isBinary]
    dsimp only
    rw [if_neg (by rw [noWrite]; simp), samePath, List.take_of_length_le fits]
  · obtain ⟨noDirectory, noDevice⟩ := not_special_of_textFile isText
    refine ⟨.text, .inr ⟨rfl, isText⟩, ?_⟩
    have noBinary : world.binary path = none := by
      rw [serves.binary_eq, notFound, Option.map_none]
    rw [openPath_of_plain settled.initialized noDirectory noDevice, noRamFile,
      noBinary, serves.text, isText]
    dsimp only
    rw [if_pos Option.isSome_some, if_neg (by rw [noWrite]; simp),
      List.take_of_length_le fits]

/-! ## Reading it to the end -/

/-- Buffers of up to a size can be written to. -/
def World.Accepts (world : World) (count : Nat) : Prop :=
  ∀ len ≤ count, world.copied 0 len = true

/-- Reads of any positive sizes, up to the first one that gives nothing. -/
inductive ReadsToEnd
    (store : Store)
    (fd : Nat) :
    State →
    List UInt8 →
    Prop
  | finished
      {world : World}
      {count : Nat}
      {state final : State}
      (serves : store.Serves world)
      (accepts : world.Accepts count)
      (positive : 0 < count)
      (ran : readFd world fd count state = .ok [] final) :
      ReadsToEnd store fd state []
  | more
      {world : World}
      {count : Nat}
      {state middle : State}
      {chunk rest : List UInt8}
      (serves : store.Serves world)
      (accepts : world.Accepts count)
      (positive : 0 < count)
      (ran : readFd world fd count state = .ok chunk middle)
      (nonempty : chunk ≠ [])
      (continued : ReadsToEnd store fd middle rest) :
      ReadsToEnd store fd state (chunk ++ rest)

/-- The store as a call finds it that has all the buffers it needs. -/
def Store.world (store : Store) : World :=
  { World.idle with
    binary :=
      fun path => (find store.binaries path).map StoredBinary.toBinary
    text := textFile }

theorem Store.serves_world (store : Store) : store.Serves store.world where
  binary := rfl
  text := rfl

/-- A descriptor for reading that has got to a position. -/
def readerAt
    (kind : FileKind)
    (flags : UInt64)
    (path : List UInt8)
    (position : Nat) :
    Fd where
  used := true
  kind := kind
  flags := flags
  position := UInt64.ofNat position
  path := path

section Reading

variable
  {store : Store}
  {kind : FileKind}
  {flags : UInt64}
  {path contents : List UInt8}
  {fd position : Nat}
  {state : State}

theorem readFd_of_readerAt
    {world : World}
    {count : Nat}
    (shows : store.ShowsAs kind path contents)
    (noWrite : opensWritable flags = false)
    (size : contents.length < 2 ^ 64)
    (inTable : fd < Syscall.fileFdMax)
    (atPosition : state.fds fd = readerAt kind flags path position)
    (inside : position ≤ contents.length)
    (serves : store.Serves world)
    (accepts : world.Accepts count)
    (positive : 0 < count) :
    readFd world fd count state =
      .ok ((contents.drop position).take count)
        (state.setPosition fd
          (position + ((contents.drop position).take count).length)) := by
  have isOpen : OpenFd state.fds fd := by
    refine ⟨by omega, by omega, ?_⟩
    rw [Int.toNat_natCast, atPosition]
    rfl
  have readable : fdReadable (readerAt kind flags path position) = true := by
    change (flags &&& Syscall.oAccmode != Syscall.oWronly) = true
    rw [accmode_of_not_opensWritable noWrite]
    decide
  have fixed :
      readKind world fd (readerAt kind flags path position) count =
        fixedRead world fd (readerAt kind flags path position) (some contents)
          count := by
    rcases shows with ⟨rfl, binary, found, rfl⟩ | ⟨rfl, isText⟩
    · change fixedRead _ _ _ ((world.binary path).map Binary.bytes) _ = _
      rw [serves.binary_eq, found, Option.map_some, Option.map_some]
    · change fixedRead _ _ _ (world.text path) _ = _
      rw [serves.text, isText]
  have start :
      min (readerAt kind flags path position).position.toNat contents.length =
        position := by
    change min (UInt64.ofNat position).toNat contents.length = position
    rw [UInt64.toNat_ofNat_of_lt' (by
      change position < 2 ^ 64
      omega)]
    exact Nat.min_eq_left inside
  unfold readFd
  rw [if_neg (by omega), if_neg (by omega),
    Prog.bind_of_ok (fdSnapshot_of_open isOpen), Int.toNat_natCast,
    atPosition, readable, if_neg Bool.noConfusion, fixed]
  unfold fixedRead
  dsimp only
  rw [start, if_pos]
  · rfl
  · right
    apply accepts
    exact List.length_take_le _ _

theorem fds_setPosition_readerAt
    (atPosition : state.fds fd = readerAt kind flags path position)
    (next : Nat) :
    (state.setPosition fd next).fds fd = readerAt kind flags path next := by
  unfold State.setPosition
  rw [fds_setFd_self, atPosition]
  rfl

section

variable
  (shows : store.ShowsAs kind path contents)
  (noWrite : opensWritable flags = false)
  (size : contents.length < 2 ^ 64)
  (inTable : fd < Syscall.fileFdMax)

include shows noWrite size inTable

theorem eq_drop_of_readsToEnd
    {text : List UInt8}
    (reads : ReadsToEnd store fd state text)
    (atPosition : state.fds fd = readerAt kind flags path position)
    (inside : position ≤ contents.length) :
    text = contents.drop position := by
  induction reads generalizing position with
  | finished serves accepts positive ran =>
      rw [readFd_of_readerAt shows noWrite size inTable atPosition inside serves
        accepts positive] at ran
      injection ran with nothing _
      rcases List.take_eq_nil_iff.mp nothing with zero | atEnd
      · omega
      · exact atEnd.symm
  | @more world count state middle chunk rest serves accepts positive ran _ _
      inductionHypothesis =>
      rw [readFd_of_readerAt shows noWrite size inTable atPosition inside serves
        accepts positive] at ran
      injection ran with isChunk isMiddle
      have isPrefix : chunk <+: contents.drop position := by
        rw [← isChunk]
        exact List.take_prefix _ _
      have length := isPrefix.length_le
      rw [List.length_drop] at length
      rw [isChunk] at isMiddle
      have rested :=
        inductionHypothesis
          (isMiddle ▸ fds_setPosition_readerAt atPosition _) (by omega)
      rw [rested, ← List.drop_drop]
      exact List.prefix_iff_eq_append.mp isPrefix

theorem readsToEnd_drop
    (atPosition : state.fds fd = readerAt kind flags path position)
    (inside : position ≤ contents.length) :
    ReadsToEnd store fd state (contents.drop position) := by
  have accepts : ∀ count, store.world.Accepts count :=
    fun _ _ _ => rfl
  have atEnd :
      ∀ final : State,
        final.fds fd = readerAt kind flags path contents.length →
        ReadsToEnd store fd final [] := by
    intro final isAtEnd
    have ran :=
      readFd_of_readerAt shows noWrite size inTable isAtEnd (Nat.le_refl _)
        store.serves_world (accepts 1) Nat.one_pos
    rw [List.drop_length, List.take_nil] at ran
    exact .finished store.serves_world (accepts 1) Nat.one_pos ran
  rcases Nat.eq_or_lt_of_le inside with rfl | before
  · rw [List.drop_length]
    exact atEnd state atPosition
  · have left : 0 < contents.length - position := Nat.sub_pos_of_lt before
    have ran :=
      readFd_of_readerAt shows noWrite size inTable atPosition inside
        store.serves_world (accepts (contents.length - position)) left
    have whole :
        (contents.drop position).take (contents.length - position) =
          contents.drop position :=
      List.take_of_length_le (List.length_drop ▸ Nat.le_refl _)
    rw [whole, List.length_drop, Nat.add_sub_of_le inside] at ran
    have nonempty : contents.drop position ≠ [] := by
      intro nothing
      have atLeast := List.drop_eq_nil_iff.mp nothing
      omega
    rw [← List.append_nil (contents.drop position)]
    exact
      .more store.serves_world (accepts _) left ran nonempty
        (atEnd _ (fds_setPosition_readerAt atPosition _))

end

end Reading

theorem Store.length_contentsOf
    {path contents : List UInt8}
    (builtIn : store.contentsOf path = some contents) :
    contents.length < 2 ^ 64 := by
  unfold Store.contentsOf at builtIn
  cases found : store.binaries.find? fun binary => binary.path == path with
  | some binary =>
      rw [found] at builtIn
      cases builtIn
      have size := store.sizes binary (List.mem_of_find?_eq_some found)
      omega
  | none =>
      rw [found] at builtIn
      obtain ⟨file, member, _, rfl⟩ := textFile_mem builtIn
      have short : ∀ file ∈ textFiles, (bytes file.2).length < 2 ^ 64 := by
        decide +kernel
      exact short file member

/--
After any run of calls on files in which no RAM file is renamed to the path of
a built-in file, that path opens for reading, and what is read to the end is the
built-in content and nothing else.
-/
theorem builtIn_unchanged
    {store : Store}
    {world : World}
    {state : State}
    {path contents : List UInt8}
    {flags : UInt64}
    (run :
      Relation.ReflTransGen (FileStep store store.Spares) State.booted state)
    (builtIn : store.contentsOf path = some contents)
    (readable : path.length < 160)
    (noWrite : opensWritable flags = false)
    (serves : store.Serves world)
    (free : HasFreeFd state) :
    ∃ fd first,
      openPath world path flags state = .ok fd first ∧
        ∀ text, ReadsToEnd store fd first text ↔ text = contents := by
  obtain ⟨settled, uncovered⟩ := uncovered_of_run run
  obtain ⟨kind, shows, opens⟩ :=
    openPath_of_uncovered settled uncovered serves builtIn
      (Nat.le_of_lt readable) noWrite
  obtain ⟨fd, isFree, _, inTable⟩ := freeFd_of_hasFreeFd free
  have size := Store.length_contentsOf builtIn
  have atStart :
      (state.setFd fd (opened kind flags path)).fds fd =
        readerAt kind flags path 0 := by
    rw [fds_setFd_self]
    rfl
  refine ⟨fd, _, opens.trans (allocFd_of_free isFree _), ?_⟩
  intro text
  constructor
  · intro reads
    exact
      eq_drop_of_readsToEnd shows noWrite size inTable reads atStart (Nat.zero_le _)
  · rintro rfl
    exact readsToEnd_drop shows noWrite size inTable atStart (Nat.zero_le _)

/-- A letter is written to a new file, which then gets another path. -/
def renameCalls (path : List UInt8) : List FileCall :=
  [.creat Store.shellOnly.world (bytes "/a") 0,
    .write Store.shellOnly.world 3 1,
    .rename (bytes "/a") path]

/-- The state after that. -/
def letterMoved (path : List UInt8) : State :=
  (FileCall.runAll (renameCalls path) State.booted).getD State.booted

theorem renameCalls_served
    (path : List UInt8) :
    ∀ call ∈ renameCalls path,
      ∀ world, call.Finds world → Store.shellOnly.Serves world := by
  intro call member world finds
  simp only [renameCalls, List.mem_cons, List.not_mem_nil, or_false] at member
  rcases member with rfl | rfl | rfl
  · exact finds ▸ Store.shellOnly.serves_world
  · exact finds ▸ Store.shellOnly.serves_world
  · exact finds.elim

/-- A file that is renamed elsewhere leaves the name of the host alone. -/
theorem hostname_unchanged :
    ∃ fd first,
      openPath Store.shellOnly.world (bytes "/etc/hostname") 0
            (letterMoved (bytes "/b")) =
          .ok fd first ∧
        ∀ text,
          ReadsToEnd Store.shellOnly fd first text ↔ text = bytes "vibux\n" := by
  have spares :
      ∀ call ∈ renameCalls (bytes "/b"),
        ∀ state, Store.shellOnly.Spares state call := by
    intro call member state old new isRename _ _
    subst isRename
    simp only [renameCalls, List.mem_cons, List.not_mem_nil, or_false,
      reduceCtorEq, FileCall.rename.injEq, false_or] at member
    rw [member.2]
    decide +kernel
  exact
    builtIn_unchanged (run_of_runAll (renameCalls_served _) spares rfl)
      (by decide +kernel) (by decide +kernel) (by decide)
      Store.shellOnly.serves_world ⟨4, by decide, by decide, rfl⟩

/-- The state after the file was moved to the name of the host and opened. -/
def coverOpened : State :=
  (openPath Store.shellOnly.world (bytes "/etc/hostname") 0
      (letterMoved (bytes "/etc/hostname"))).final?.getD State.booted

theorem coverOpened_reads_letter :
    ReadsToEnd Store.shellOnly 4 coverOpened ([97] ++ []) := by
  have accepts : Store.shellOnly.world.Accepts 1 := fun _ _ => rfl
  refine
    @ReadsToEnd.more _ _ Store.shellOnly.world 1 coverOpened _ [97] []
      Store.shellOnly.serves_world accepts Nat.one_pos rfl (by decide) ?_
  exact
    @ReadsToEnd.finished _ _ Store.shellOnly.world 1 _ _
      Store.shellOnly.serves_world accepts Nat.one_pos rfl

/-- A file that is renamed to the name of the host is read in its place. -/
theorem hostname_covered :
    ¬ ∀ (store : Store) (world : World) (state : State)
        (path contents : List UInt8) (flags : UInt64),
      Relation.ReflTransGen (FileStep store fun _ _ => True) State.booted
        state →
      store.contentsOf path = some contents →
      path.length < 160 →
      opensWritable flags = false →
      store.Serves world →
      HasFreeFd state →
      ∃ fd first,
        openPath world path flags state = .ok fd first ∧
          ∀ text, ReadsToEnd store fd first text ↔ text = contents := by
  intro unchanged
  obtain ⟨fd, first, opens, reads⟩ :=
    unchanged Store.shellOnly Store.shellOnly.world
      (letterMoved (bytes "/etc/hostname")) (bytes "/etc/hostname")
      (bytes "vibux\n") 0
      (run_of_runAll (renameCalls_served (bytes "/etc/hostname"))
        (fun _ _ _ => trivial) rfl)
      (by decide +kernel) (by decide +kernel) (by decide)
      Store.shellOnly.serves_world ⟨4, by decide, by decide, rfl⟩
  have opened :
      openPath Store.shellOnly.world (bytes "/etc/hostname") 0
          (letterMoved (bytes "/etc/hostname")) =
        .ok 4 coverOpened :=
    rfl
  rw [opened] at opens
  injection opens with sameFd sameState
  subst sameFd sameState
  exact absurd ((reads _).mp coverOpened_reads_letter) (by decide +kernel)

end VibuxOS.Files
