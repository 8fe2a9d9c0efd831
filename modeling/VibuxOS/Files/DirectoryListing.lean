import VibuxOS.Files.FileCalls
import VibuxOS.Lib.Simulation

namespace VibuxOS.Files

open VibuxOS.Lib

/-!
# Listing a directory by pages

`fill_getdents64` emits records while they fit into the buffer, and moves the
position of the descriptor once, after the last of them.  A fault after the
first record returns what was emitted and leaves the position where it was.  A
buffer that is too small for the next record returns 0, like the end of the
directory.
-/

variable
  {state : State}
  {fdNumber : Int}

/-- `file_identity`: the device, and a hash of the path -/
def fileIdentity (path : List UInt8) : UInt64 × UInt64 :=
  let hash :=
    path.foldl
      (fun hash byte => (hash ^^^ byte.toUInt64) * 0x100000001b3)
      0xcbf29ce484222325
  (0x5649425558000001, if hash = 0 then 1 else hash)

/-- The entries of a directory. -/
def directoryNames (path : List UInt8) : List (List UInt8) :=
  if path = bytes "/" then
    [bytes ".", bytes "..", bytes "bin", bytes "dev", bytes "etc",
      bytes "home", bytes "proc", bytes "tmp", bytes "usr", bytes "var",
      bytes "root", bytes "sys", bytes "run"]
  else if path = bytes "/home" then
    [bytes ".", bytes "..", bytes "boi"]
  else if path = bytes "/home/boi" then
    [bytes ".", bytes "..", bytes "README"]
  else if path = bytes "/etc" then
    [bytes ".", bytes "..", bytes "passwd", bytes "group", bytes "hostname",
      bytes "profile", bytes "bash.bashrc", bytes "bashrc", bytes "mtab",
      bytes "fstab", bytes "resolv.conf", bytes "hosts"]
  else
    [bytes ".", bytes ".."]

/-- `(19 + name.len() + 1 + 7) & !7` -/
def reclen (name : List UInt8) : Nat :=
  (19 + name.length + 1 + 7) / 8 * 8

/-- `dtype` -/
def direntType (path name : List UInt8) : UInt8 :=
  if name = bytes "." ∨ name = bytes ".." then
    4
  else if path = bytes "/home/boi" ∧ name = bytes "README" then
    8
  else
    4

/-- The record of the entry at an index. -/
def dirent (path : List UInt8) (current : Nat) (name : List UInt8) :
    List UInt8 :=
  leBytes (fileIdentity name).2 8 ++ leBytes (UInt64.ofNat (current + 1)) 8 ++
    leBytes (UInt64.ofNat (reclen name)) 2 ++ [direntType path name] ++ name ++
    List.replicate (reclen name - 19 - name.length) 0

/-- How the loop ends, with the bytes in the buffer. -/
inductive Filling where
  | done (current : Nat) (data : List UInt8)
  | fault (data : List UInt8)

/-- The loop of `fill_getdents64` over the entries from an index on. -/
def fillLoop
    (world : World)
    (path : List UInt8)
    (count : Nat) :
    List (List UInt8) →
    Nat →
    List UInt8 →
    Filling
  | [], current, data => .done current data
  | name :: rest, current, data =>
      if data.length + reclen name > count then
        .done current data
      else if world.copied data.length (reclen name) then
        fillLoop world path count rest (current + 1)
          (data ++ dirent path current name)
      else
        .fault data

/-- `fill_getdents64`; the bytes that reach the caller. -/
def fillGetdents64
    (world : World)
    (fdNumber : Int)
    (count : Nat) :
    Sys (List UInt8) :=
  if count < 24 then
    Prog.fail .einval
  else do
    let fd ← fdSnapshot fdNumber
    if fdIsDirectory fd = false then
      Prog.fail .enotdir
    else
      let path := normalizeFdPath fd
      let names := directoryNames path
      let index := fd.position.toNat
      if index ≥ names.length then
        pure []
      else
        match fillLoop world path count (names.drop index) index [] with
        | .done current data => do
            Prog.modify (State.setPosition fdNumber.toNat current)
            pure data
        | .fault data =>
            if data.length = 0 then
              Prog.fail .efault
            else
              pure data

/-! ## Sequences of calls -/

/-- A call of `getdents64`. -/
structure GetdentsCall where
  world : World
  count : Nat

def GetdentsCall.run (fdNumber : Int) (call : GetdentsCall) :
    Sys (List UInt8) :=
  fillGetdents64 call.world fdNumber call.count

/-- The records of entries, the first of which is at an index. -/
def dirents (path : List UInt8) : Nat → List (List UInt8) → List (List UInt8)
  | _, [] => []
  | current, name :: rest =>
      dirent path current name :: dirents path (current + 1) rest

/-- The records of a directory from the position of its descriptor on. -/
def recordsLeft (fd : Fd) : List (List UInt8) :=
  dirents (normalizeFdPath fd) fd.position.toNat
    ((directoryNames (normalizeFdPath fd)).drop fd.position.toNat)

/-- What a call returns. -/
def returned : Outcome State Errno (List UInt8) → List UInt8
  | .ok data _ => data
  | .err _ _ => []
  | .hang => []

/--
After every call of a sequence, what was returned so far is the first records,
and a call returns 0 only if all of them were returned.
-/
def ListsInOrder
    (fdNumber : Int)
    (records : List (List UInt8)) :
    List GetdentsCall →
    State →
    List UInt8 →
    Prop
  | [], _, _ => True
  | call :: rest, state, sofar =>
      (∃ number,
          sofar ++ returned (call.run fdNumber state) =
            (records.take number).flatten) ∧
        (∀ final,
          call.run fdNumber state = .ok [] final →
          sofar = records.flatten) ∧
        ∃ next,
          (call.run fdNumber state).final? = some next ∧
            ListsInOrder fdNumber records rest next
              (sofar ++ returned (call.run fdNumber state))

/-- How long records are together. -/
def recordsLength (names : List (List UInt8)) : Nat :=
  (names.map reclen).sum

/-- The next record fits, and no record after it meets a fault. -/
structure Roomy
    (world : World)
    (count : Nat)
    (names : List (List UInt8)) : Prop where
  fits : ∀ name rest, names = name :: rest → reclen name ≤ count
  noLateFault :
    ∀ first before name rest,
      names = first :: before ++ name :: rest →
      world.copied 0 (reclen first) = true →
      recordsLength (first :: before) + reclen name ≤ count →
      world.copied (recordsLength (first :: before)) (reclen name) = true

/-- A call that can return the next records. -/
def GetdentsCall.Sound
    (fdNumber : Int)
    (call : GetdentsCall)
    (state : State) : Prop :=
  Roomy call.world call.count
    ((directoryNames (normalizeFdPath (state.fds fdNumber.toNat))).drop
      (state.fds fdNumber.toNat).position.toNat)

/-! ## Records -/

section Records

variable
  {path : List UInt8}
  {current : Nat}
  {names : List (List UInt8)}

@[simp] theorem length_dirent (name : List UInt8) :
    (dirent path current name).length = reclen name := by
  simp only [dirent, leBytes, reclen, List.length_append, List.length_map,
    List.length_range, List.length_cons, List.length_nil,
    List.length_replicate]
  omega

theorem length_flatten_dirents :
    (dirents path current names).flatten.length = recordsLength names := by
  induction names generalizing current with
  | nil =>
      rfl
  | cons name rest inductionHypothesis =>
      simp [dirents, recordsLength, inductionHypothesis]

theorem dirents_append (before after : List (List UInt8)) :
    dirents path current (before ++ after) =
      dirents path current before ++
        dirents path (current + before.length) after := by
  induction before generalizing current with
  | nil =>
      rfl
  | cons name rest inductionHypothesis =>
      simp [dirents, inductionHypothesis, Nat.add_assoc, Nat.add_comm 1]

theorem flatten_dirents_eq_nil :
    (dirents path current names).flatten = [] ↔ names = [] := by
  cases names with
  | nil =>
      exact iff_of_true rfl rfl
  | cons name rest =>
      have long : 0 < reclen name := by
        unfold reclen
        omega
      rw [← @length_dirent path current name] at long
      simp [dirents, List.ne_nil_of_length_pos long]

end Records

/-! ## One call -/

section Calls

variable
  {world : World}
  {path : List UInt8}
  {count current : Nat}
  {names : List (List UInt8)}
  {data : List UInt8}

/--
What the loop emits: all entries, or those before one that does not fit, or
those before a fault.
-/
inductive Emits
    (world : World)
    (path : List UInt8)
    (count current : Nat)
    (names : List (List UInt8))
    (data : List UInt8) : Filling → Prop where
  | all :
      Emits world path count current names data
        (.done (current + names.length)
          (data ++ (dirents path current names).flatten))
  | full
      (taken : List (List UInt8))
      {name : List UInt8}
      {rest : List (List UInt8)}
      (isNames : names = taken ++ name :: rest)
      (tooLong : count < data.length + recordsLength taken + reclen name) :
      Emits world path count current names data
        (.done (current + taken.length)
          (data ++ (dirents path current taken).flatten))
  | fault
      (taken : List (List UInt8))
      {name : List UInt8}
      {rest : List (List UInt8)}
      (isNames : names = taken ++ name :: rest)
      (fits : data.length + recordsLength taken + reclen name ≤ count)
      (first :
        ∀ head before,
          taken = head :: before →
          world.copied data.length (reclen head) = true)
      (faults :
        world.copied (data.length + recordsLength taken) (reclen name) =
          false) :
      Emits world path count current names data
        (.fault (data ++ (dirents path current taken).flatten))

theorem emits_fillLoop :
    Emits world path count current names data
      (fillLoop world path count names current data) := by
  induction names generalizing current data with
  | nil =>
      simpa [fillLoop, dirents] using
        @Emits.all world path count current [] data
  | cons name rest inductionHypothesis =>
      unfold fillLoop
      split
      · rename_i tooLong
        simpa [dirents] using
          @Emits.full world path count current _ data [] name rest rfl
            (by simpa [recordsLength] using tooLong)
      · rename_i fits
        split
        · rename_i copies
          have emits :=
            @inductionHypothesis (current + 1)
              (data ++ dirent path current name)
          generalize
            fillLoop world path count rest (current + 1)
              (data ++ dirent path current name) = filling at emits ⊢
          cases emits with
          | all =>
              simpa [dirents, Nat.add_assoc, Nat.add_comm 1] using
                @Emits.all world path count current (name :: rest) data
          | full taken isNames tooLong =>
              simpa [dirents, Nat.add_assoc, Nat.add_comm 1] using
                @Emits.full world path count current _ data (name :: taken) _ _
                  (congrArg (List.cons name) isNames)
                  (by simpa [recordsLength, Nat.add_assoc] using tooLong)
          | fault taken isNames fits _ faults =>
              have first :
                  ∀ head before,
                    name :: taken = head :: before →
                    world.copied data.length (reclen head) = true := by
                rintro head before ⟨⟩
                exact copies
              simpa [dirents, Nat.add_assoc, Nat.add_comm 1] using
                @Emits.fault world path count current _ data (name :: taken) _ _
                  (congrArg (List.cons name) isNames)
                  (by simpa [recordsLength, Nat.add_assoc] using fits) first
                  (by simpa [recordsLength, Nat.add_assoc] using faults)
        · rename_i faults
          simpa [dirents] using
            @Emits.fault world path count current _ data [] name rest rfl
              (by simpa [recordsLength] using fits) nofun
              (by simpa [recordsLength] using faults)

/-- An open descriptor of a directory, at some position. -/
structure DirectoryFd
    (fdNumber : Int)
    (path : List UInt8)
    (position : Nat)
    (state : State) : Prop where
  isOpen : OpenFd state.fds fdNumber
  isDirectory : fdIsDirectory (state.fds fdNumber.toNat) = true
  isPath : normalizeFdPath (state.fds fdNumber.toNat) = path
  isAt : (state.fds fdNumber.toNat).position.toNat = position

theorem length_directoryNames (path : List UInt8) :
    (directoryNames path).length ≤ 13 := by
  unfold directoryNames
  split
  · decide
  split
  · decide
  split
  · decide
  split
  · decide
  · decide

theorem DirectoryFd.setPosition
    {position next : Nat}
    (isFd : DirectoryFd fdNumber path position state)
    (inWord : next < 2 ^ 64) :
    DirectoryFd fdNumber path next
      (state.setPosition fdNumber.toNat next) := by
  have isNew :
      (state.setPosition fdNumber.toNat next).fds fdNumber.toNat =
        { state.fds fdNumber.toNat with position := UInt64.ofNat next } :=
    Function.update_self _ _ _
  refine ⟨⟨isFd.isOpen.1, isFd.isOpen.2.1, ?_⟩, ?_, ?_, ?_⟩
  · rw [isNew]
    exact isFd.isOpen.2.2
  · rw [isNew]
    exact isFd.isDirectory
  · rw [isNew]
    exact isFd.isPath
  · rw [isNew, UInt64.toNat_ofNat', Nat.mod_eq_of_lt inWord]

/-- What a call does that can return the next records. -/
structure Advances
    (fdNumber : Int)
    (path : List UInt8)
    (position : Nat)
    (outcome : Outcome State Errno (List UInt8))
    (taken left : List (List UInt8))
    (next : State) : Prop where
  isNames : (directoryNames path).drop position = taken ++ left
  isReturned : returned outcome = (dirents path position taken).flatten
  isNext : outcome.final? = some next
  isFd : DirectoryFd fdNumber path (position + taken.length) next
  atEnd : ∀ final, outcome = .ok [] final → taken ++ left = []

theorem DirectoryFd.advances
    {position : Nat}
    (isFd : DirectoryFd fdNumber path position state)
    (roomy : Roomy world count ((directoryNames path).drop position)) :
    ∃ taken left next,
      Advances fdNumber path position (fillGetdents64 world fdNumber count state)
        taken left next := by
  unfold fillGetdents64
  split
  · exact ⟨[], _, state, rfl, rfl, rfl, isFd, nofun⟩
  rw [Prog.bind_of_ok (fdSnapshot_of_open isFd.isOpen),
    if_neg (by simp [isFd.isDirectory]), isFd.isPath, isFd.isAt]
  split
  · rename_i beyond
    exact
      ⟨[], _, state, rfl, rfl, rfl, isFd,
        fun _ _ => List.drop_eq_nil_of_le beyond⟩
  rename_i inside
  have few := length_directoryNames path
  have emits :=
    @emits_fillLoop world path count position
      ((directoryNames path).drop position) []
  have total :
      ((directoryNames path).drop position).length =
        (directoryNames path).length - position :=
    List.length_drop
  generalize isRest : (directoryNames path).drop position = names at *
  generalize fillLoop world path count names position [] = filling at emits ⊢
  cases emits with
  | all =>
      refine
        ⟨names, [], _, isRest.trans (List.append_nil _).symm, rfl, rfl,
          isFd.setPosition (by omega), ?_⟩
      intro final isOk
      have isEmpty := congrArg returned isOk
      rw [List.append_nil]
      exact flatten_dirents_eq_nil.mp isEmpty
  | full taken isNames tooLong =>
      have fewer : taken.length ≤ names.length := by
        rw [isNames, List.length_append]
        exact Nat.le_add_right _ _
      refine
        ⟨taken, _, _, isRest.trans isNames, rfl, rfl,
          isFd.setPosition (by omega), ?_⟩
      intro final isOk
      have isEmpty := congrArg returned isOk
      obtain rfl := flatten_dirents_eq_nil.mp isEmpty
      have fits := roomy.fits _ _ isNames
      simp only [List.length_nil, recordsLength, List.map_nil,
        List.sum_nil] at tooLong
      omega
  | fault taken isNames fits first faults =>
      rw [List.length_nil, Nat.zero_add] at fits faults
      cases taken with
      | nil =>
          exact ⟨[], _, state, isRest, rfl, rfl, isFd, nofun⟩
      | cons head before =>
          have copies :=
            roomy.noLateFault head before _ _ isNames (first head before rfl)
              fits
          rw [faults] at copies
          cases copies

end Calls

/-! ## Runs -/

/--
The position of the descriptor counts the records that were returned, through
all calls that can return the next ones.
-/
theorem DirectoryFd.listsInOrder
    {path : List UInt8}
    {position : Nat}
    {calls : List GetdentsCall}
    {records before : List (List UInt8)}
    (isFd : DirectoryFd fdNumber path position state)
    (isRecords :
      records =
        before ++
          dirents path position ((directoryNames path).drop position))
    (sound :
      Along (GetdentsCall.run fdNumber) (GetdentsCall.Sound fdNumber) calls
        state) :
    ListsInOrder fdNumber records calls state before.flatten := by
  induction calls generalizing state position before with
  | nil =>
      trivial
  | cons call rest inductionHypothesis =>
      obtain ⟨roomy, along⟩ := sound
      rw [GetdentsCall.Sound, isFd.isPath, isFd.isAt] at roomy
      obtain ⟨taken, left, next, isNames, isReturned, isNext, nextIsFd, atEnd⟩ :=
        isFd.advances roomy
      have isLeft :
          (directoryNames path).drop (position + taken.length) = left := by
        rw [← List.drop_drop, isNames, List.drop_left]
      have whole :
          records =
            (before ++ dirents path position taken) ++
              dirents path (position + taken.length) left := by
        rw [isRecords, isNames, dirents_append, List.append_assoc]
      have sofar :
          before.flatten ++ returned (call.run fdNumber state) =
            (before ++ dirents path position taken).flatten := by
        rw [List.flatten_append, ← isReturned]
        rfl
      refine
        ⟨⟨(before ++ dirents path position taken).length, ?_⟩, ?_, next, isNext,
          ?_⟩
      · rw [sofar, whole, List.take_left]
      · intro final isEmpty
        have none := atEnd final isEmpty
        rw [isRecords, isNames, none, dirents, List.append_nil]
      · rw [sofar]
        apply inductionHypothesis nextIsFd _ (along next isNext)
        rw [isLeft, whole]

/--
Calls whose buffers have room for the next record, and no fault behind it,
return the records of a directory in order, each once, and 0 only at the end.
-/
theorem getdents64_lists_in_order
    {state : State}
    {fdNumber : Int}
    {calls : List GetdentsCall}
    (isOpen : OpenFd state.fds fdNumber)
    (isDirectory : fdIsDirectory (state.fds fdNumber.toNat) = true)
    (sound :
      Along (GetdentsCall.run fdNumber) (GetdentsCall.Sound fdNumber) calls
        state) :
    ListsInOrder fdNumber (recordsLeft (state.fds fdNumber.toNat)) calls state
      [] := by
  have isFd :
      DirectoryFd fdNumber (normalizeFdPath (state.fds fdNumber.toNat))
        (state.fds fdNumber.toNat).position.toNat state :=
    ⟨isOpen, isDirectory, rfl, rfl⟩
  exact isFd.listsInOrder (List.nil_append _).symm sound

/-- A table whose descriptor 3 is a directory with one file. -/
def homeDirectory : State :=
  State.setFd 3
    { Fd.empty with used := true, kind := .text, path := bytes "/home/boi" }
    State.new

/-- A buffer of 4096 bytes. -/
def wholePage : GetdentsCall where
  world := World.idle
  count := 4096

theorem isOpen_homeDirectory : OpenFd homeDirectory.fds 3 :=
  ⟨by decide, by decide, rfl⟩

theorem getdents64_lists_home :
    ListsInOrder 3 (recordsLeft (homeDirectory.fds 3)) [wholePage]
      homeDirectory [] := by
  apply getdents64_lists_in_order isOpen_homeDirectory (by decide +kernel)
  refine ⟨⟨?_, fun _ _ _ _ _ _ _ => rfl⟩, fun _ _ => trivial⟩
  intro name rest isNames
  have isFirst : name = bytes "." := by
    have first := congrArg List.head? isNames
    cases first
    rfl
  rw [isFirst]
  decide

/-- A buffer of 24 bytes. -/
def shortBuffer : GetdentsCall where
  world := World.idle
  count := 24

/-- The third call returns 0, and one entry is left. -/
theorem getdents64_stops_early :
    ¬ ListsInOrder 3 (recordsLeft (homeDirectory.fds 3))
        [shortBuffer, shortBuffer, shortBuffer] homeDirectory [] := by
  have first :
      shortBuffer.run 3 homeDirectory =
        .ok (dirent (bytes "/home/boi") 0 (bytes "."))
          (homeDirectory.setPosition 3 1) :=
    rfl
  have second :
      shortBuffer.run 3 (homeDirectory.setPosition 3 1) =
        .ok (dirent (bytes "/home/boi") 1 (bytes ".."))
          ((homeDirectory.setPosition 3 1).setPosition 3 2) :=
    rfl
  have third :
      shortBuffer.run 3 ((homeDirectory.setPosition 3 1).setPosition 3 2) =
        .ok [] (((homeDirectory.setPosition 3 1).setPosition 3 2).setPosition
          3 2) :=
    rfl
  rintro ⟨_, _, next, isNext, _, _, last, isLast, _, atEnd, _⟩
  rw [first] at isNext atEnd
  obtain rfl := Option.some.inj isNext
  rw [second] at isLast atEnd
  obtain rfl := Option.some.inj isLast
  have returned := congrArg List.length (atEnd _ third)
  rw [recordsLeft, length_flatten_dirents] at returned
  simp only [List.length_append, Files.returned, length_dirent] at returned
  revert returned
  decide

end VibuxOS.Files
