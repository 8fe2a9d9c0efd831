import VibuxOS.Commands.CoreUtils
import VibuxOS.Lib.Lines

namespace VibuxOS.Commands

open VibuxOS.Lib VibuxOS.Storage.Vfs

/-!
# `head` and `tail`

`head` compares its count only behind a line, so it emits one line at least.
`tail` counts the places behind line breaks, of which there is one more than
lines behind a last line break, and its table ends at 4096 of them.
-/

variable (file : List UInt8)

/-- The number of lines of a file. -/
def lineCount (bytes : List UInt8) : Nat :=
  (lines newline bytes).length

def firstLines (count : Nat) (bytes : List UInt8) : List UInt8 :=
  ((lines newline bytes).take (min count (lineCount bytes))).flatten

def lastLines (count : Nat) (bytes : List UInt8) : List UInt8 :=
  ((lines newline bytes).drop
    (lineCount bytes - min count (lineCount bytes))).flatten

/-- The number of places in the table of `tail`. -/
def tableLength (bytes : List UInt8) : Nat :=
  min (bytes.count newline + 1) startsLength

/-! ## The loops -/

theorem headLoop_eq
    (wanted : Nat)
    (bytes : List UInt8)
    (count : Nat) :
    headLoop wanted bytes count =
      ((lines newline bytes).take (max 1 (wanted - count))).flatten := by
  induction bytes generalizing count with
  | nil =>
      simp [headLoop, lines]
  | cons byte rest inductionHypothesis =>
      rw [headLoop, lines]
      split
      · rename_i isNewline
        split
        · rename_i last
          rw [show max 1 (wanted - count) = 0 + 1 by omega,
            List.take_succ_cons, isNewline]
          rfl
        · rename_i goesOn
          rw [inductionHypothesis,
            show max 1 (wanted - count) =
              max 1 (wanted - (count + 1)) + 1 by omega,
            List.take_succ_cons, List.flatten_cons]
          rfl
      · obtain ⟨more, isMore⟩ :
            ∃ more, max 1 (wanted - count) = more + 1 :=
          ⟨max 1 (wanted - count) - 1, by omega⟩
        rw [inductionHypothesis, isMore, flatten_take_extendFirst]

theorem fillStarts_eq
    (bytes : List UInt8)
    (index : Nat)
    (starts : List Nat) :
    fillStarts bytes index starts =
      starts ++
        ((lineEnds newline bytes).map (index + ·)).take
          (startsLength - starts.length) := by
  induction bytes generalizing index starts with
  | nil =>
      simp [fillStarts, lineEnds]
  | cons byte rest inductionHypothesis =>
      have shifted :
          ((lineEnds newline rest).map (· + 1)).map (index + ·) =
            (lineEnds newline rest).map (index + 1 + ·) := by
        rw [List.map_map]
        apply List.map_congr_left
        intro place _
        simp only [Function.comp_apply]
        omega
      rw [fillStarts, lineEnds]
      by_cases isNewline : byte = newline
      · rw [if_pos isNewline, List.map_cons, shifted]
        by_cases room : starts.length < startsLength
        · obtain ⟨left, isLeft⟩ :
              ∃ left, startsLength - starts.length = left + 1 :=
            ⟨startsLength - starts.length - 1, by omega⟩
          have rest :
              startsLength - (starts ++ [index + 1]).length = left := by
            rw [List.length_append, List.length_singleton]
            omega
          rw [if_pos ⟨isNewline, room⟩, inductionHypothesis, rest, isLeft,
            List.take_succ_cons, List.append_assoc]
          rfl
        · have full : startsLength - starts.length = 0 := by omega
          rw [if_neg (fun both => room both.2), inductionHypothesis, full,
            List.take_zero, List.take_zero]
      · rw [if_neg (fun both => isNewline both.1), if_neg isNewline,
          inductionHypothesis, shifted]

theorem fillStarts_table
    (bytes : List UInt8) :
    fillStarts bytes 0 [0] =
      (List.range (tableLength bytes)).map (lineOffset newline bytes) := by
  have first : lineOffset newline bytes 0 = 0 := rfl
  have length :
      tableLength bytes =
        min (startsLength - 1) (bytes.count newline) + 1 := by
    unfold tableLength startsLength
    omega
  rw [fillStarts_eq, lineEnds_eq, List.map_map, ← List.map_take,
    List.take_range, length, List.range_succ_eq_map, List.map_cons, first,
    List.map_map]
  simp only [Function.comp_def, Nat.zero_add, List.length_singleton,
    List.singleton_append]

theorem tailStart_eq
    {wanted : Nat}
    (some : wanted ≠ 0)
    (bytes : List UInt8) :
    tailStart wanted bytes =
      lineOffset newline bytes (tableLength bytes - wanted) := by
  unfold tailStart
  dsimp only
  rw [fillStarts_table, List.length_map, List.length_range]
  split
  · rename_i fewer
    rw [List.getD_eq_getElem?_getD, List.getElem?_map,
      List.getElem?_range (by omega)]
    rfl
  · rename_i enough
    rw [Nat.sub_eq_zero_of_le (Nat.le_of_not_lt enough)]
    rfl

/-! ## What the commands emit -/

section File

variable
  {disk : Disk}
  {path : List UInt8}
  {cwd ino : Nat}

section

variable
  (resolved : resolveWith path cwd disk = .ok ino disk)
  (isFile : IsFile disk.inode ino)
  (small : (disk.inode ino).size ≤ bufSize)
  (wanted : Nat)

include resolved isFile small

theorem head_of_file :
    head path wanted cwd disk =
      .ok
        ((((lines newline (disk.contents ino)).take
            (max 1 wanted)).flatten).map .byte)
        disk := by
  unfold head
  rw [Prog.bind_of_ok (readBuffer_of_file resolved isFile small)]
  dsimp only
  rw [headLoop_eq]
  rfl

theorem tail_of_file :
    tail path wanted cwd disk =
      .ok
        (if wanted = 0 then
          []
        else
          (((lines newline (disk.contents ino)).drop
            (tableLength (disk.contents ino) - wanted)).flatten).map .byte)
        disk := by
  unfold tail
  rw [Prog.bind_of_ok (readBuffer_of_file resolved isFile small)]
  dsimp only
  by_cases none : wanted = 0
  · rw [if_pos none, if_pos none]
    rfl
  · rw [if_neg none, if_neg none, tailStart_eq none, drop_lineOffset]
    rfl

end

/-- `head` and `tail` show the lines of a file that they are asked for. -/
structure ShowsLines
    (disk : Disk)
    (path : List UInt8)
    (cwd : Nat)
    (file : List UInt8)
    (count : Nat) : Prop where
  first :
    head path count cwd disk = .ok ((firstLines count file).map .byte) disk
  last :
    tail path count cwd disk = .ok ((lastLines count file).map .byte) disk
  whole :
    count ≤ lineCount file →
    ∃ upper lower,
      head path (lineCount file - count) cwd disk = .ok upper disk ∧
        tail path count cwd disk = .ok lower disk ∧
        upper ++ lower = file.map .byte

/-- Both commands are asked for something that they get right. -/
def Agrees (file : List UInt8) (count : Nat) : Prop :=
  file = [] ∨
    lineCount file < count ∨
    (0 < count ∧
      count < lineCount file ∧
      tableLength file = lineCount file)

theorem lineCount_eq_zero_iff
    {file : List UInt8} :
    lineCount file = 0 ↔ file = [] := by
  rw [lineCount, List.length_eq_zero_iff, lines_eq_nil_iff]

theorem tableLength_le :
    0 < tableLength file ∧ tableLength file ≤ lineCount file + 1 := by
  have counted := (@count_le_length_lines _ _ newline file).1
  unfold tableLength startsLength lineCount
  omega

theorem shown_inj
    {first second : List UInt8}
    {disk : Disk} :
    (Outcome.ok (first.map Output.byte) disk :
        Outcome Disk Empty (List Output)) =
        .ok (second.map .byte) disk ↔
      first = second := by
  constructor
  · intro same
    injection same with bytes
    exact (List.map_inj_right fun _ _ => Output.byte.inj).mp bytes
  · rintro rfl
    rfl

section

variable
  (resolved : resolveWith path cwd disk = .ok ino disk)
  (isFile : IsFile disk.inode ino)
  (small : (disk.inode ino).size ≤ bufSize)
  (wanted : Nat)

include resolved isFile small

theorem head_first_iff :
    head path wanted cwd disk =
        .ok ((firstLines wanted (disk.contents ino)).map .byte) disk ↔
      wanted ≠ 0 ∨ disk.contents ino = [] := by
  rw [head_of_file resolved isFile small, shown_inj, firstLines]
  have capped :
      (lines newline (disk.contents ino)).take (max 1 wanted) =
        (lines newline (disk.contents ino)).take
          (min (max 1 wanted) (lineCount (disk.contents ino))) := by
    rw [lineCount, ← List.take_eq_take_min]
  rw [capped, ← lineCount_eq_zero_iff]
  refine
    (flatten_take_lines_inj (Nat.min_le_right _ _)
      (Nat.min_le_right _ _)).trans ?_
  change
    min (max 1 wanted) (lineCount (disk.contents ino)) =
        min wanted (lineCount (disk.contents ino)) ↔ _
  omega

theorem tail_last_iff :
    tail path wanted cwd disk =
        .ok ((lastLines wanted (disk.contents ino)).map .byte) disk ↔
      wanted = 0 ∨
        tableLength (disk.contents ino) - wanted =
          lineCount (disk.contents ino) - wanted := by
  rw [tail_of_file resolved isFile small, lastLines]
  by_cases none : wanted = 0
  · rw [if_pos none, none, Nat.zero_min, Nat.sub_zero, lineCount,
      List.drop_length]
    exact iff_of_true rfl (Or.inl rfl)
  · have table := tableLength_le (disk.contents ino)
    have inside :
        tableLength (disk.contents ino) - wanted ≤
          lineCount (disk.contents ino) := by
      omega
    rw [if_neg none, shown_inj]
    refine (flatten_drop_lines_inj inside (Nat.sub_le _ _)).trans ?_
    change
      _ =
          lineCount (disk.contents ino) -
            min wanted (lineCount (disk.contents ino)) ↔ _
    omega

end

/--
`head` and `tail` show the lines that they are asked for exactly if the file is
empty, more lines are asked for than there are, or fewer, and some, of a file whose
table has a place for each line and no other.
-/
theorem showsLines_iff
    (resolved : resolveWith path cwd disk = .ok ino disk)
    (isFile : IsFile disk.inode ino)
    (small : (disk.inode ino).size ≤ bufSize)
    (wanted : Nat) :
    ShowsLines disk path cwd (disk.contents ino) wanted ↔
      Agrees (disk.contents ino) wanted := by
  have table := tableLength_le (disk.contents ino)
  have isEmpty := @lineCount_eq_zero_iff (disk.contents ino)
  have headRight := head_first_iff resolved isFile small
  have tailRight := tail_last_iff resolved isFile small wanted
  constructor
  · rintro ⟨first, last, whole⟩
    rw [headRight, ← isEmpty] at first
    rw [tailRight] at last
    have notAll : wanted = lineCount (disk.contents ino) → wanted = 0 := by
      intro all
      by_contra some
      obtain ⟨upper, lower, isUpper, isLower, together⟩ := whole all.le
      rw [tail_of_file resolved isFile small, if_neg some,
        show tableLength (disk.contents ino) - wanted = 0 by omega,
        List.drop_zero, flatten_lines] at isLower
      rw [head_of_file resolved isFile small,
        show max 1 (lineCount (disk.contents ino) - wanted) = 1 by omega]
        at isUpper
      cases isUpper
      cases isLower
      have firstLine :=
        @lineOffset_lt _ _ newline (disk.contents ino) 0 1 (by decide)
          (show 1 ≤ lineCount (disk.contents ino) by omega)
      have lengths := congrArg List.length together
      rw [List.length_append, List.length_map] at lengths
      unfold lineOffset at firstLine
      omega
    rw [Agrees, ← isEmpty]
    omega
  · intro agrees
    rw [Agrees, ← isEmpty] at agrees
    refine ⟨?_, ?_, ?_⟩
    · rw [headRight, ← isEmpty]
      omega
    · rw [tailRight]
      omega
    · intro fewer
      refine
        ⟨_, _, head_of_file resolved isFile small _,
          tail_of_file resolved isFile small _, ?_⟩
      by_cases none : wanted = 0
      · have empty : disk.contents ino = [] := isEmpty.mp (by omega)
        rw [if_pos none, empty]
        simp [lines]
      · have same :
            max 1 (lineCount (disk.contents ino) - wanted) =
              tableLength (disk.contents ino) - wanted := by
          omega
        rw [if_neg none, same, ← List.map_append, ← List.flatten_append,
          List.take_append_drop, flatten_lines]

end File

/-! ## A disk with one file -/

/-- A disk with the file `f` in its root directory. -/
def fileDisk (file : List UInt8) : Disk where
  inode := fun slot =>
    if slot = 1 then
      { rootRecord with firstChild := 2 }
    else if slot = 2 then
      { Inode.zero with
        kind := 1
        parent := 1
        size := file.length
        startBlock := bitmapStart + 1
        blockCount := 1
        name := storedName sampleName }
    else
      Inode.zero
  bytes := fun address =>
    file.getD (address - blockBytes (bitmapStart + 1)) 0

theorem resolve_fileDisk :
    resolveWith sampleName rootInode (fileDisk file) = .ok 2 (fileDisk file) :=
  rfl

theorem isFile_fileDisk :
    IsFile (fileDisk file).inode 2 :=
  ⟨by decide, rfl⟩

theorem contents_fileDisk :
    (fileDisk file).contents 2 = file := by
  refine (window_eq_iff.mpr ?_).trans (window_getD file 0)
  intro index _
  rw [Nat.zero_add]
  exact
    congrArg (fun place => file.getD place 0) (Nat.add_sub_cancel_left _ _)

/-- Of two lines without a last line break, both commands show one. -/
theorem showsLines_two :
    ShowsLines (fileDisk [97, 10, 98]) sampleName rootInode [97, 10, 98] 1 := by
  have shows :=
    showsLines_iff (resolve_fileDisk [97, 10, 98])
      (isFile_fileDisk [97, 10, 98]) (by decide) 1
  rw [contents_fileDisk] at shows
  exact shows.mpr (Or.inr (Or.inr (by decide)))

/-- Behind a last line break `tail` counts a line that is none. -/
theorem tail_shows_nothing :
    ¬ ShowsLines (fileDisk [97, 10, 98, 10]) sampleName rootInode
      [97, 10, 98, 10] 1 := by
  intro shows
  have right :=
    tail_last_iff (resolve_fileDisk [97, 10, 98, 10])
      (isFile_fileDisk [97, 10, 98, 10]) (by decide) 1
  rw [contents_fileDisk] at right
  exact absurd (right.mp shows.last) (by decide)

end VibuxOS.Commands
