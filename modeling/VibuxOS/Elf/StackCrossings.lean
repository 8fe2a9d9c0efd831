import VibuxOS.Elf.StackImage

namespace VibuxOS.Elf

open VibuxOS.Lib
open VibuxOS.Paging

/-!
# Strings across two pages

`put_bytes` looks up the frame of the first byte of a string and copies the
whole string from there, so a string that runs into the next page of the stack
runs into the next frame of the memory instead.
-/

/-- `exec_program` fills the stack for a program. -/
def FillsStack
    (main rtld : Loaded)
    (header : Header)
    (counter phdr : UInt64)
    (path : List UInt8)
    (argv envp : List (List UInt8))
    (memory : Memory)
    (cr3 : UInt64)
    (frames : List UInt64) : Prop :=
  ∃ sp final,
    fillStack main rtld header counter path argv envp
        (StackBuilder.new frames memory) =
      .ok sp final ∧
    InitialStack main rtld header phdr path argv envp cr3 frames memory
      final.memory sp

variable
  {main rtld : Loaded}
  {header : Header}
  {counter phdr : UInt64}
  {path : List UInt8}
  {argv envp : List (List UInt8)}
  {memory : Memory}
  {cr3 : UInt64}
  {frames : List UInt64}

theorem straight_stackWrites
    (accepted : ExecArguments path argv envp)
    (straight : ∀ write ∈ stringWrites path argv envp, write.Straight frames) :
    ∀ write ∈ stackWrites main rtld header counter phdr path argv envp,
      write.Straight frames := by
  intro write among
  have bounds := (downwards_stackWrites accepted).mem among
  have bottom := (initialSp_spec accepted).2.1
  rcases within_or_string accepted among with within | isString
  · exact within.straight (Nat.le_trans bottom bounds.1)
  · exact straight write isString

theorem appears_stackWrites
    (accepted : ExecArguments path argv envp)
    (mapped : StackMapped memory cr3 frames)
    (straight : ∀ write ∈ stringWrites path argv envp, write.Straight frames)
    {write : Write}
    (among :
      write ∈ stackWrites main rtld header counter phdr path argv envp) :
    Appears
      (stored frames memory
        (stackWrites main rtld header counter phdr path argv envp))
      cr3 write.address write.bytes := by
  have all :=
    @straight_stackWrites main rtld header counter phdr path argv envp frames
      accepted straight
  have downwards :=
    @downwards_stackWrites counter phdr main rtld header path argv envp
      accepted
  have bottom := (initialSp_spec accepted).2.1
  have bounds := downwards.mem among
  intro place inside
  rw [seenByte_stack mapped
      (fun slot elsewhere =>
        stored_elsewhere mapped.isStack downwards (Nat.le_refl _) all elsewhere)
      (by omega) (by omega),
    stackByte_stored mapped.isStack downwards bottom (Nat.le_refl _) all among
      inside]

theorem fillsStack_of_straight
    (accepted : ExecArguments path argv envp)
    (located : checkedAdd main.bias header.phoff = some phdr)
    (mapped : StackMapped memory cr3 frames)
    (straight : ∀ write ∈ stringWrites path argv envp, write.Straight frames) :
    FillsStack main rtld header counter phdr path argv envp memory cr3
      frames := by
  have returned :=
    @fillStack_returns frames memory mapped.isStack main rtld header counter
      phdr path argv envp accepted located
  rw [← stackWrites] at returned
  obtain ⟨names, random, randomBelow, argvSize, envSize, entries⟩ :=
    accepted.room
  obtain ⟨aligned, bottom, below⟩ := initialSp_spec accepted
  have topIs := toNat_stackTop
  have bottomIs := toNat_stackBottom
  have spIs := toNat_ofNat_below (Nat.le_of_lt below)
  have appear :
      ∀ write ∈ stackWrites main rtld header counter phdr path argv envp,
        Appears _ cr3 write.address write.bytes :=
    fun write among => appears_stackWrites accepted mapped straight among
  have ofData :
      ∀ write ∈ dataWrites counter path argv envp,
        write ∈ stackWrites main rtld header counter phdr path argv envp :=
    fun write among => List.mem_append_left _ among
  have nameStrings :=
    @stringsAt_textWrites _ cr3 stackTop.toNat [path, platformName]
      (Nat.le_refl _) (by omega) fun write among =>
        appear write (ofData write (by simp [dataWrites, nameWrites, among]))
  have argvStrings :=
    @stringsAt_textWrites _ cr3 (randomAt path) argv (by omega) (by omega)
      fun write among =>
        appear write (ofData write (by simp [dataWrites, argvWrites, among]))
  have envStrings :=
    @stringsAt_textWrites _ cr3 (envTop path argv) envp
      (by
        unfold envTop
        omega)
      (by
        unfold envTop
        omega)
      fun write among =>
        appear write (ofData write (by simp [dataWrites, envWrites, among]))
  have words :=
    @appears_wordWrites _ cr3 (entryTop path argv envp)
      (entriesFor main rtld header phdr path argv envp).reverse
      (by
        rw [List.length_reverse, length_entriesFor]
        simp only [entryTop, envTop, paddedFor]
        omega)
      fun write among => appear write (List.mem_append_right _ among)
  rw [List.reverse_reverse, List.length_reverse, length_entriesFor,
    ← initialSp] at words
  rw [← nameWrites, nameWrites_eq] at nameStrings
  obtain ⟨execfnString, platformString⟩ := List.forall₂_cons.mp nameStrings
  refine ⟨_, _, returned, ?_⟩
  rw [memory_builderAt]
  constructor
  · refine
      ⟨pointersTo (argvWrites path argv), pointersTo (envWrites path argv envp),
        UInt64.ofNat (platformAt path), UInt64.ofNat (randomAt path),
        UInt64.ofNat (execfnAt path), ?_, argvStrings, envStrings,
        (List.forall₂_cons.mp platformString).1, execfnString⟩
    rw [spIs]
    exact words
  · intro slot elsewhere
    exact
      stored_elsewhere mapped.isStack (downwards_stackWrites accepted)
        (Nat.le_refl _) (straight_stackWrites accepted straight) elsewhere
  · rw [spIs]
    exact aligned
  · rw [UInt64.le_iff_toNat_le, spIs]
    exact bottom

/-! ## Frames with gaps between them -/

def gapFrame (page : Nat) : UInt64 :=
  UInt64.ofNat (0x100000 + 0x2000 * page)

/-- Frames of a stack of which no two follow on one another. -/
def gapFrames : List UInt64 :=
  (List.range stackPages).map gapFrame

/-- The tables of a stack with gaps, in a memory of ones. -/
def gapMemory : Memory := fun slot =>
  if slot = ⟨0x1000, 253⟩ then 0x2007
  else if slot = ⟨0x2000, 511⟩ then 0x3007
  else if slot = ⟨0x3000, 511⟩ then 0x4007
  else if slot.frame = 0x4000 ∧ 448 ≤ slot.index then
    leafEntry (gapFrame (slot.index - 448)) stackFlags
  else 0xffffffffffffffff

theorem toNat_gapFrame
    {page : Nat}
    (inside : page < 64) :
    (gapFrame page).toNat = 0x100000 + 0x2000 * page := by
  apply UInt64.toNat_ofNat_of_lt'
  exact Nat.lt_of_lt_of_le (by omega : _ < 2 ^ 21) (by decide)

theorem getD_gapFrames
    {page : Nat}
    (inside : page < 64) :
    gapFrames.getD page 0 = gapFrame page := by
  simp [gapFrames, stackPages, List.getD_eq_getElem?_getD, inside]

theorem mem_gapFrames {frame : UInt64} :
    frame ∈ gapFrames ↔ ∃ page, page < 64 ∧ gapFrame page = frame := by
  simp [gapFrames, stackPages]

theorem stackFrames_gapFrames : StackFrames gapFrames where
  count := by simp [gapFrames]
  isFrame frame among := by
    obtain ⟨page, inside, rfl⟩ := mem_gapFrames.mp among
    have isNat := toNat_gapFrame inside
    exact and_entryAddrMask (by omega) (by omega)
  distinct := by
    refine List.nodup_range.map_on ?_
    intro first firstInside second secondInside same
    rw [List.mem_range, stackPages] at firstInside secondInside
    have sameNat := congrArg UInt64.toNat same
    rw [toNat_gapFrame firstInside, toNat_gapFrame secondInside] at sameNat
    omega

theorem toNat_gapTable
    {table : UInt64}
    (isTable :
      table ∈ ([0x1000, 0x2000, 0x3000, 0x4000] : List UInt64)) :
    table.toNat < 0x100000 := by
  simp only [List.mem_cons, List.not_mem_nil, or_false] at isTable
  rcases isTable with rfl | rfl | rfl | rfl <;> decide

theorem path_gapMemory
    {address : UInt64}
    (above : stackBottom ≤ address)
    (below : address < stackTop) :
    Paging.path gapMemory 0x1000 address =
      [(4, ⟨0x1000, 253⟩), (3, ⟨0x2000, 511⟩), (2, ⟨0x3000, 511⟩),
        (1, ⟨0x4000, 448 + (address.toNat - stackBottom.toNat) / 4096⟩)] := by
  rw [UInt64.le_iff_toNat_le, toNat_stackBottom] at above
  rw [UInt64.lt_iff_toNat_lt, toNat_stackTop] at below
  obtain ⟨index4, index3, index2, index1⟩ := indexes_eq address
  have at4 : indexes address 4 = 253 := by omega
  have at3 : indexes address 3 = 511 := by omega
  have at2 : indexes address 2 = 511 := by omega
  have at1 :
      indexes address 1 =
        448 + (address.toNat - stackBottom.toNat) / 4096 := by
    rw [toNat_stackBottom]
    omega
  have read4 : gapMemory ⟨0x1000, 253⟩ = 0x2007 := rfl
  have read3 : gapMemory ⟨0x2000, 511⟩ = 0x3007 := rfl
  have read2 : gapMemory ⟨0x3000, 511⟩ = 0x4007 := rfl
  have root : (0x1000 : UInt64) &&& entryAddrMask = 0x1000 := by decide
  have to3 : shape.descends 4 0x2007 = true ∧ shape.child 0x2007 = 0x2000 := by
    decide
  have to2 : shape.descends 3 0x3007 = true ∧ shape.child 0x3007 = 0x3000 := by
    decide
  have to1 : shape.descends 2 0x4007 = true ∧ shape.child 0x4007 = 0x4000 := by
    decide
  have leaf : ∀ entry, shape.descends 1 entry = false := by
    intro entry
    simp [shape]
  rw [Paging.path, root, Radix.visits, at4, read4, to3.1, to3.2, if_pos rfl,
    Radix.visits, at3, read3, to2.1, to2.2, if_pos rfl, Radix.visits, at2,
    read2, to1.1, to1.2, if_pos rfl, Radix.visits, at1, leaf]
  rfl

theorem stackMapped_gapMemory : StackMapped gapMemory 0x1000 gapFrames where
  isStack := stackFrames_gapFrames
  found address above below := by
    have isPath := path_gapMemory above below
    rw [UInt64.le_iff_toNat_le] at above
    rw [UInt64.lt_iff_toNat_lt] at below
    have topIs := toNat_stackTop
    have bottomIs := toNat_stackBottom
    have inRange : canonical address = true := by
      rw [canonical_iff]
      omega
    have page : (address.toNat - stackBottom.toNat) / 4096 < 64 := by
      omega
    have isFrame :=
      stackFrames_gapFrames.isFrame _ (mem_gapFrames.mpr ⟨_, page, rfl⟩)
    have entry :
        gapMemory
            ⟨0x4000, 448 + (address.toNat - stackBottom.toNat) / 4096⟩ =
          leafEntry (gapFrame ((address.toNat - stackBottom.toNat) / 4096))
            stackFlags := by
      simp [gapMemory]
    have ends :
        (Paging.path gapMemory 0x1000 address).getLast? =
          some
            (1,
              ⟨0x4000, 448 + (address.toNat - stackBottom.toNat) / 4096⟩) := by
      rw [isPath]
      rfl
    rw [translate_of_last inRange ends, entry, mappingAt_leafEntry _ _ (by decide)]
    have isUser : (stackFlags.union .present).contains .user = true := by
      decide
    refine ⟨_, rfl, isUser, ?_⟩
    dsimp only
    have frameIs := toNat_gapFrame page
    rw [isFrame, UInt64.toNat_add, toNat_pageOffset, stackPlace,
      getD_gapFrames page]
    omega
  apart address above below visit visited := by
    rw [path_gapMemory above below] at visited
    rw [mem_gapFrames]
    rintro ⟨page, inside, same⟩
    have frameIs := toNat_gapFrame inside
    rw [same] at frameIs
    have isTable :
        visit.2.frame ∈ ([0x1000, 0x2000, 0x3000, 0x4000] : List UInt64) := by
      simp only [List.mem_cons, List.not_mem_nil, or_false] at visited
      rcases visited with rfl | rfl | rfl | rfl <;> simp
    have isLow := toNat_gapTable isTable
    omega

/-! ## A string that runs into a gap -/

/-- The physical address behind an address of the stack with gaps. -/
def gapPlace (address : Nat) : Nat :=
  0x100000 + 0x2000 * ((address - stackBottom.toNat) / 4096) +
    (address - stackBottom.toNat) % 4096

theorem stackPlace_gapFrames
    {address : Nat}
    (below : address < stackTop.toNat) :
    stackPlace gapFrames address = gapPlace address := by
  have inside := stackFrames_gapFrames.page_inside below
  rw [stackFrames_gapFrames.count, stackPages] at inside
  rw [stackPlace, getD_gapFrames inside, toNat_gapFrame inside, gapPlace]

theorem gapPlace_add_le
    {address : Nat}
    (size : Nat)
    (above : stackBottom.toNat ≤ address) :
    gapPlace address + size ≤ gapPlace (address + size) := by
  unfold gapPlace
  omega

section

variable
  {top low : Nat}
  {writes : List Write}
  (downwards : Downwards top writes low)
  (bottom : stackBottom.toNat ≤ low)
  (inStack : top ≤ stackTop.toNat)

include downwards bottom inStack

theorem frameByte_stored_gaps
    {frame : UInt64}
    {offset : Nat}
    (behind : gapPlace top ≤ frame.toNat + offset) :
    frameByte (stored gapFrames memory writes) frame offset =
      frameByte memory frame offset := by
  induction writes generalizing top memory with
  | nil =>
      rfl
  | cons write rest inductionHypothesis =>
      have fits := downwards.1
      have lower := downwards.2.le
      have ends := gapPlace_add_le write.bytes.length (Nat.le_trans bottom lower)
      have higher :=
        gapPlace_add_le (top - (write.address + write.bytes.length))
          (by omega : stackBottom.toNat ≤ write.address + write.bytes.length)
      rw [Nat.add_sub_cancel' fits] at higher
      rw [stored_cons,
        inductionHypothesis downwards.2 (by omega) (by omega),
        frameByte_writePhysical]
      apply writtenByte_outside
      intro _ _
      by_cases empty : write.bytes.length = 0
      · omega
      · rw [stackPlace_gapFrames (by omega)]
        omega

theorem gap_written
    {write : Write}
    {text : List UInt8}
    (among : write ∈ writes)
    (isText : write.bytes = text ++ [0])
    (short : text.length < 4096)
    (leaves : ¬ write.WithinPage) :
    ∃ slot : TableSlot,
      slot.frame ∉ gapFrames ∧
        stored gapFrames gapMemory writes slot ≠ gapMemory slot := by
  obtain ⟨earlier, later, rfl⟩ := List.append_of_mem among
  have bounds := downwards.mem among
  have length : write.bytes.length = text.length + 1 := by
    rw [isText, List.length_append, List.length_singleton]
  unfold Write.WithinPage at leaves
  have topIs := toNat_stackTop
  have bottomIs := toNat_stackBottom
  -- the place of the byte that ends the string
  have placeIs :
      gapPlace write.address =
        0x100000 + 0x2000 * ((write.address - stackBottom.toNat) / 4096) +
          (write.address - stackBottom.toNat) % 4096 :=
    rfl
  have frameIs :
      (gapFrame ((write.address - stackBottom.toNat) / 4096) + 0x1000).toNat =
        0x101000 + 0x2000 * ((write.address - stackBottom.toNat) / 4096) := by
    rw [UInt64.toNat_add, toNat_gapFrame (by omega)]
    have small : (0x1000 : UInt64).toNat = 0x1000 := rfl
    omega
  generalize gapFrame ((write.address - stackBottom.toNat) / 4096) + 0x1000 =
    frame at frameIs
  obtain ⟨offset, offsetIs⟩ :
      ∃ offset, frame.toNat + offset = gapPlace write.address + text.length :=
    ⟨gapPlace write.address + text.length - frame.toNat, by omega⟩
  have ended :
      frameByte
          (stored gapFrames gapMemory (earlier ++ write :: later)) frame
          offset =
        0 := by
    rw [stored_append, stored_cons,
      frameByte_stored_gaps downwards.later bottom (by omega) (by omega),
      frameByte_writePhysical, stackPlace_gapFrames (by omega),
      writtenByte_inside (by omega) (by omega) offsetIs (by omega), isText,
      List.getD_append_right _ _ _ _ (Nat.le_refl _), Nat.sub_self]
    rfl
  refine ⟨⟨frame, offset / 8⟩, ?_, ?_⟩
  · rw [mem_gapFrames]
    rintro ⟨page, inside, rfl⟩
    rw [toNat_gapFrame inside] at frameIs
    omega
  · intro unchanged
    have different :
        ∀ table ∈ ([0x1000, 0x2000, 0x3000, 0x4000] : List UInt64),
          frame ≠ table := by
      rintro table isTable rfl
      have low := toNat_gapTable isTable
      omega
    have ones : gapMemory ⟨frame, offset / 8⟩ = 0xffffffffffffffff := by
      simp only [List.forall_mem_cons] at different
      simp [gapMemory, different]
    rw [frameByte, unchanged, ones] at ended
    have inWord : offset % 8 < 8 := Nat.mod_lt _ (by decide)
    have noZero :
        ∀ index < 8, leByte 0xffffffffffffffff index ≠ 0 := by
      decide
    exact noZero _ inWord ended

end

/-! ## When the stack is what the program expects -/

theorem bytes_of_mem_textWrites
    {sp : Nat}
    {texts : List (List UInt8)}
    {write : Write}
    (among : write ∈ textWrites sp texts) :
    ∃ text ∈ texts, write.bytes = text ++ [0] := by
  induction texts generalizing sp with
  | nil =>
      cases among
  | cons text rest inductionHypothesis =>
      rcases List.mem_cons.mp among with rfl | later
      · exact ⟨text, List.mem_cons_self, rfl⟩
      · obtain ⟨other, isOther, isText⟩ := inductionHypothesis later
        exact ⟨other, List.mem_cons_of_mem text isOther, isText⟩

theorem short_of_mem_stringWrites
    (accepted : ExecArguments path argv envp)
    {write : Write}
    (among : write ∈ stringWrites path argv envp) :
    ∃ text : List UInt8, write.bytes = text ++ [0] ∧ text.length < 4096 := by
  simp only [stringWrites, List.mem_append] at among
  rcases among with (isName | isArgv) | isEnv
  · obtain ⟨text, isName, isText⟩ := bytes_of_mem_textWrites isName
    refine ⟨text, isText, ?_⟩
    have pathShort := accepted.pathLength
    have platformShort : platformName.length < 4096 := by decide
    simp only [List.mem_cons, List.not_mem_nil, or_false] at isName
    rcases isName with rfl | rfl
    · omega
    · exact platformShort
  · obtain ⟨text, isArgument, isText⟩ := bytes_of_mem_textWrites isArgv
    have short := accepted.argvTexts text isArgument
    exact ⟨text, isText, by omega⟩
  · obtain ⟨text, isVariable, isText⟩ := bytes_of_mem_textWrites isEnv
    have short := accepted.envTexts text isVariable
    exact ⟨text, isText, by omega⟩

theorem mem_stackWrites_of_string
    {write : Write}
    (among : write ∈ stringWrites path argv envp) :
    write ∈ stackWrites main rtld header counter phdr path argv envp := by
  simp only [stringWrites, List.mem_append] at among
  simp only [stackWrites, dataWrites, List.mem_append]
  rcases among with (isName | isArgv) | isEnv
  · exact .inl (.inl (.inl (.inl isName)))
  · exact .inl (.inl (.inr isArgv))
  · exact .inl (.inr isEnv)

theorem above_of_string
    (accepted : ExecArguments path argv envp)
    {write : Write}
    (among : write ∈ stringWrites path argv envp) :
    stackBottom.toNat ≤ write.address := by
  have bounds :=
    (@downwards_stackWrites 0 0 ⟨0, 0, 0, 0, 0, 0⟩ ⟨0, 0, 0, 0, 0, 0⟩
      ⟨0, 0, 0, 0, 0, 0, 0⟩ path argv envp accepted).mem
      (mem_stackWrites_of_string among)
  exact Nat.le_trans (initialSp_spec accepted).2.1 bounds.1

theorem withinPage_of_fillsStack
    (accepted : ExecArguments path argv envp)
    (located : checkedAdd main.bias header.phoff = some phdr)
    (filled :
      FillsStack main rtld header counter phdr path argv envp gapMemory 0x1000
        gapFrames) :
    ∀ write ∈ stringWrites path argv envp, write.WithinPage := by
  intro write among
  by_contra leaves
  obtain ⟨sp, final, returned, isStack⟩ := filled
  have filledWith :=
    @fillStack_returns gapFrames gapMemory stackFrames_gapFrames main rtld
      header counter phdr path argv envp accepted located
  rw [returned, ← stackWrites, Outcome.ok.injEq] at filledWith
  obtain ⟨_, rfl⟩ := filledWith
  obtain ⟨text, isText, short⟩ := short_of_mem_stringWrites accepted among
  have written :
      write ∈ stackWrites main rtld header counter phdr path argv envp :=
    mem_stackWrites_of_string among
  obtain ⟨slot, elsewhere, changed⟩ :=
    gap_written (downwards_stackWrites accepted)
      (initialSp_spec accepted).2.1 (Nat.le_refl _) written isText short leaves
  have same := isStack.elsewhere slot elsewhere
  rw [memory_builderAt] at same
  exact changed same

/-- The stack is what the program expects wherever its frames are, when no
string runs from one page into the next. -/
theorem fillStack_image_iff
    (main rtld : Loaded)
    (header : Header)
    (counter phdr : UInt64)
    (path : List UInt8)
    (argv envp : List (List UInt8))
    (accepted : ExecArguments path argv envp)
    (located : checkedAdd main.bias header.phoff = some phdr) :
    (∀ memory cr3 frames,
        StackMapped memory cr3 frames →
        (∀ write ∈ stringWrites path argv envp, write.Straight frames) →
        FillsStack main rtld header counter phdr path argv envp memory cr3
          frames) ∧
      ((∀ memory cr3 frames,
          StackMapped memory cr3 frames →
          FillsStack main rtld header counter phdr path argv envp memory cr3
            frames) ↔
        ∀ write ∈ stringWrites path argv envp, write.WithinPage) := by
  have sufficient :
      ∀ memory cr3 frames,
        StackMapped memory cr3 frames →
        (∀ write ∈ stringWrites path argv envp, write.Straight frames) →
        FillsStack main rtld header counter phdr path argv envp memory cr3
          frames :=
    fun _ _ _ mapped straight =>
      fillsStack_of_straight accepted located mapped straight
  refine ⟨sufficient, fun always => ?_, fun within memory cr3 frames mapped => ?_⟩
  · exact
      withinPage_of_fillsStack accepted located
        (always gapMemory 0x1000 gapFrames stackMapped_gapMemory)
  · apply sufficient memory cr3 frames mapped
    intro write among
    exact (within write among).straight (above_of_string accepted among)

/-- A program that is loaded at its base. -/
def samplePosition : Loaded where
  entry := 0x0000400000001000
  bias := 0x0000400000000000
  start := 0x0000400000000000
  stop := 0x0000400000002000
  segments := 1
  pages := 2

/-- A header behind which the program headers follow. -/
def samplePhdrs : Header where
  kind := etDyn
  machine := emX8664
  version := 1
  entry := 0x1000
  phoff := 64
  phnum := 1
  phentsize := 56

/-- The arguments of `echo vibux`. -/
def sampleArgv : List (List UInt8) :=
  [[101, 99, 104, 111], [118, 105, 98, 117, 120]]

/-- The stack of `echo vibux` is right on scattered frames. -/
theorem echo_fillsStack :
    FillsStack samplePosition samplePosition samplePhdrs 7 0x0000400000000040
      [47, 101, 99, 104, 111] sampleArgv [] gapMemory 0x1000 gapFrames :=
  (fillStack_image_iff samplePosition samplePosition samplePhdrs 7
      0x0000400000000040 [47, 101, 99, 104, 111] sampleArgv []
      ⟨by decide, by decide, by decide, by decide, by decide⟩
      (by decide +kernel)).2.mpr
    (by decide +kernel) gapMemory 0x1000 gapFrames stackMapped_gapMemory

/-- Sixteen long arguments. -/
def longArgv : List (List UInt8) :=
  List.replicate 16 (List.replicate 255 97)

/-- The last of sixteen long arguments is written into a gap. -/
theorem longArgv_notFilled :
    ExecArguments [47, 101, 99, 104, 111] longArgv [] ∧
      StackMapped gapMemory 0x1000 gapFrames ∧
      ¬ FillsStack samplePosition samplePosition samplePhdrs 7
          0x0000400000000040 [47, 101, 99, 104, 111] longArgv [] gapMemory
          0x1000 gapFrames := by
  have accepted : ExecArguments [47, 101, 99, 104, 111] longArgv [] :=
    ⟨by decide, by decide +kernel, by decide, by decide +kernel, by decide⟩
  refine ⟨accepted, stackMapped_gapMemory, fun filled => ?_⟩
  have within := withinPage_of_fillsStack accepted (by decide +kernel) filled
  revert within
  decide +kernel

end VibuxOS.Elf
