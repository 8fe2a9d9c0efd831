import VibuxOS.Elf.UserStack
import VibuxOS.Paging.OwnPages

namespace VibuxOS.Elf

open VibuxOS.Lib
open VibuxOS.Paging

/-!
# Where the initial stack has what

The builder goes down from the top of the stack and writes at addresses that
depend only on the lengths of the strings.  With room for all of them it fills
the stack with a known list of writes.
-/

/-- A write to the stack. -/
structure Write where
  address : Nat
  bytes : List UInt8

/-- The frames of a stack. -/
structure StackFrames (frames : List UInt64) : Prop where
  count : frames.length = stackPages
  isFrame : ∀ frame ∈ frames, frame &&& entryAddrMask = frame
  distinct : frames.Nodup

/-- The physical address behind an address of the stack. -/
def stackPlace (frames : List UInt64) (address : Nat) : Nat :=
  (frames.getD ((address - stackBottom.toNat) / 4096) 0).toNat +
    (address - stackBottom.toNat) % 4096

/-- The memory after some writes, each from the frame of its first byte on. -/
def stored
    (frames : List UInt64)
    (memory : Memory)
    (writes : List Write) :
    Memory :=
  writes.foldl
    (fun memory write =>
      writePhysical memory (stackPlace frames write.address) write.bytes)
    memory

def builderAt (frames : List UInt64) (memory : Memory) (sp : Nat) : StackBuilder where
  frames
  sp := UInt64.ofNat sp
  bottom := stackBottom
  memory

/-- The room that strings take with their ends. -/
def textSize (texts : List (List UInt8)) : Nat :=
  (texts.map fun text => text.length + 1).sum

/-- The strings below an address, one below the other. -/
def textWrites : Nat → List (List UInt8) → List Write
  | _, [] => []
  | sp, text :: rest =>
      ⟨sp - (text.length + 1), text ++ [0]⟩ ::
        textWrites (sp - (text.length + 1)) rest

/-- The numbers below an address, one below the other. -/
def wordWrites : Nat → List UInt64 → List Write
  | _, [] => []
  | sp, value :: rest =>
      ⟨sp - 8, wordBytes value⟩ :: wordWrites (sp - 8) rest

variable
  {frames : List UInt64}
  {memory : Memory}
  {sp : Nat}

theorem toNat_stackTop : stackTop.toNat = 0x7f0000000000 :=
  rfl

theorem toNat_stackBottom : stackBottom.toNat = 0x7efffffc0000 :=
  rfl

@[simp] theorem memory_builderAt
    (frames : List UInt64)
    (memory : Memory)
    (sp : Nat) :
    (builderAt frames memory sp).memory = memory :=
  rfl

@[simp] theorem stored_nil (frames : List UInt64) (memory : Memory) :
    stored frames memory [] = memory :=
  rfl

theorem stored_cons
    (frames : List UInt64)
    (memory : Memory)
    (write : Write)
    (rest : List Write) :
    stored frames memory (write :: rest) =
      stored frames
        (writePhysical memory (stackPlace frames write.address) write.bytes)
        rest :=
  rfl

theorem stored_append
    (frames : List UInt64)
    (memory : Memory)
    (first second : List Write) :
    stored frames memory (first ++ second) =
      stored frames (stored frames memory first) second :=
  List.foldl_append

theorem StackFrames.page_inside
    (isStack : StackFrames frames)
    {address : Nat}
    (below : address < stackTop.toNat) :
    (address - stackBottom.toNat) / 4096 < frames.length := by
  rw [isStack.count, stackPages]
  rw [toNat_stackTop] at below
  rw [toNat_stackBottom]
  omega

theorem StackFrames.getD_mem
    (isStack : StackFrames frames)
    {address : Nat}
    (below : address < stackTop.toNat) :
    frames.getD ((address - stackBottom.toNat) / 4096) 0 ∈ frames := by
  have inside := isStack.page_inside below
  rw [List.getD_eq_getElem _ _ inside]
  exact List.getElem_mem inside

theorem StackFrames.frame_bound
    (isStack : StackFrames frames)
    {frame : UInt64}
    (among : frame ∈ frames) :
    frame.toNat % 4096 = 0 ∧ frame.toNat < 2 ^ 52 := by
  have isFrame := isStack.isFrame frame among
  refine ⟨aligned_of_isFrame isFrame, ?_⟩
  have bound : (frame &&& entryAddrMask).toNat ≤ entryAddrMask.toNat := by
    rw [UInt64.toNat_and]
    exact Nat.and_le_right
  rw [isFrame] at bound
  have mask : entryAddrMask.toNat < 2 ^ 52 := by decide
  exact Nat.lt_of_le_of_lt bound mask

/-! ## The methods of the builder -/

theorem toNat_ofNat_below
    {value : Nat}
    (below : value ≤ stackTop.toNat) :
    (UInt64.ofNat value).toNat = value := by
  apply UInt64.toNat_ofNat_of_lt'
  rw [toNat_stackTop] at below
  exact Nat.lt_of_le_of_lt below (by decide)

theorem checkedSub_ofNat
    {size : Nat}
    (high : sp ≤ stackTop.toNat)
    (sized : size ≤ sp) :
    checkedSub (UInt64.ofNat sp) (UInt64.ofNat size) =
      some (UInt64.ofNat (sp - size)) := by
  have spIs := toNat_ofNat_below high
  have sizeIs := toNat_ofNat_below (Nat.le_trans sized high)
  have differenceIs :=
    toNat_ofNat_below (Nat.le_trans (Nat.sub_le sp size) high)
  have notLess : UInt64.ofNat size ≤ UInt64.ofNat sp := by
    rw [UInt64.le_iff_toNat_le, spIs, sizeIs]
    exact sized
  unfold checkedSub
  rw [if_pos notLess, Option.some_inj, ← UInt64.toNat_inj,
    UInt64.toNat_sub_of_le _ _ notLess, spIs, sizeIs, differenceIs]

theorem alignedDown_ofNat
    {value width : Nat}
    {alignment : UInt64}
    (below : value ≤ stackTop.toNat)
    (power : alignment.toNat = 2 ^ width) :
    UInt64.ofNat value &&& ~~~(alignment - 1) =
      UInt64.ofNat (value - value % 2 ^ width) := by
  have positive : 0 < alignment.toNat := by
    rw [power]
    exact Nat.two_pow_pos width
  have fits := alignment.toNat_lt
  rw [power] at fits
  have narrow : width < 64 := (Nat.pow_lt_pow_iff_right (by decide)).mp fits
  have oneLess : (alignment - 1).toNat = alignment.toNat - 1 :=
    UInt64.toNat_sub_of_le _ _ (UInt64.le_iff_toNat_le.mpr positive)
  have mask : (~~~(alignment - 1)).toNat = 2 ^ 64 - 2 ^ width := by
    rw [power] at positive
    rw [UInt64.toNat_not, oneLess, power]
    change 2 ^ 64 - 1 - (2 ^ width - 1) = _
    omega
  rw [← UInt64.toNat_inj, toNat_and_high _ _ (Nat.le_of_lt narrow) mask,
    toNat_ofNat_below below,
    toNat_ofNat_below (Nat.le_trans (Nat.sub_le _ _) below)]

theorem reserve_returns
    {size width : Nat}
    {alignment : UInt64}
    (power : alignment.toNat = 2 ^ width)
    (single : alignment ≠ 0 ∧ alignment &&& (alignment - 1) = 0)
    (high : sp ≤ stackTop.toNat)
    (sized : size ≤ sp)
    (room :
      stackBottom.toNat ≤ sp - size - (sp - size) % 2 ^ width) :
    reserve size alignment (builderAt frames memory sp) =
      .ok (UInt64.ofNat (sp - size - (sp - size) % 2 ^ width))
        (builderAt frames memory (sp - size - (sp - size) % 2 ^ width)) := by
  have lower : sp - size ≤ stackTop.toNat :=
    Nat.le_trans (Nat.sub_le sp size) high
  have aligned := alignedDown_ofNat lower power
  have notBelow :
      ¬ UInt64.ofNat (sp - size - (sp - size) % 2 ^ width) < stackBottom := by
    rw [UInt64.lt_iff_toNat_lt,
      toNat_ofNat_below (Nat.le_trans (Nat.sub_le _ _) lower)]
    exact Nat.not_lt_of_le room
  have read :
      (Prog.gets id : Building StackBuilder) (builderAt frames memory sp) =
        .ok (builderAt frames memory sp) (builderAt frames memory sp) :=
    rfl
  have spIs : (builderAt frames memory sp).sp = UInt64.ofNat sp := rfl
  have bottomIs : (builderAt frames memory sp).bottom = stackBottom := rfl
  unfold reserve
  rw [if_neg (not_or.mpr ⟨single.1, not_not.mpr single.2⟩),
    Prog.bind_of_ok read, spIs, checkedSub_ofNat high sized]
  dsimp only
  rw [aligned, bottomIs, if_neg notBelow]
  rfl

section

variable (isStack : StackFrames frames)

include isStack

theorem ptrAt_returns
    {address : Nat}
    (high : stackBottom.toNat ≤ address)
    (below : address < stackTop.toNat) :
    ∃ pointer : UInt64,
      pointer.toNat = stackPlace frames address ∧
        ptrAt (UInt64.ofNat address) (builderAt frames memory sp) =
          .ok pointer (builderAt frames memory sp) := by
  have addressIs := toNat_ofNat_below (Nat.le_of_lt below)
  have offsetIs :
      (UInt64.ofNat address - stackBottom).toNat =
        address - stackBottom.toNat := by
    rw [UInt64.toNat_sub_of_le, addressIs]
    rw [UInt64.le_iff_toNat_le, addressIs]
    exact high
  have pageIs :
      ((UInt64.ofNat address - stackBottom) / pageSize).toNat =
        (address - stackBottom.toNat) / 4096 := by
    rw [UInt64.toNat_div, offsetIs]
    rfl
  have restIs :
      ((UInt64.ofNat address - stackBottom) % pageSize).toNat =
        (address - stackBottom.toNat) % 4096 := by
    rw [UInt64.toNat_mod, offsetIs]
    rfl
  have among := isStack.getD_mem below
  have inside := isStack.page_inside below
  have bound := isStack.frame_bound among
  rw [List.getD_eq_getElem _ _ inside] at bound
  have found :
      frames[((UInt64.ofNat address - stackBottom) / pageSize).toNat]? =
        some frames[(address - stackBottom.toNat) / 4096] := by
    rw [pageIs]
    exact List.getElem?_eq_getElem inside
  refine
    ⟨frames[(address - stackBottom.toNat) / 4096] +
      (UInt64.ofNat address - stackBottom) % pageSize, ?_, ?_⟩
  · rw [UInt64.toNat_add, restIs, stackPlace, List.getD_eq_getElem _ _ inside]
    omega
  · have read :
        (Prog.gets id : Building StackBuilder) (builderAt frames memory sp) =
          .ok (builderAt frames memory sp) (builderAt frames memory sp) :=
      rfl
    have framesAre : (builderAt frames memory sp).frames = frames := rfl
    have bottomIs : (builderAt frames memory sp).bottom = stackBottom := rfl
    unfold ptrAt
    rw [Prog.bind_of_ok read, framesAre, bottomIs, found]
    rfl

theorem putBytes_returns
    {text : List UInt8}
    (high : sp ≤ stackTop.toNat)
    (room : stackBottom.toNat + (text.length + 1) ≤ sp) :
    putBytes text (builderAt frames memory sp) =
      .ok (UInt64.ofNat (sp - (text.length + 1)))
        (builderAt frames
          (stored frames memory [⟨sp - (text.length + 1), text ++ [0]⟩])
          (sp - (text.length + 1))) := by
  have reserved :=
    @reserve_returns frames memory sp (text.length + 1) 0 1 (by decide)
      (by decide) high (by omega) (by omega)
  rw [Nat.pow_zero, Nat.mod_one, Nat.sub_zero] at reserved
  have inStack : sp - (text.length + 1) < stackTop.toNat := by
    omega
  have aboveBottom : stackBottom.toNat ≤ sp - (text.length + 1) := by
    omega
  obtain ⟨pointer, pointerIs, found⟩ :=
    @ptrAt_returns frames memory (sp - (text.length + 1)) isStack _
      aboveBottom inStack
  obtain ⟨again, againIs, foundAgain⟩ :=
    @ptrAt_returns frames
      (writePhysical memory pointer.toNat text)
      (sp - (text.length + 1)) isStack _ aboveBottom inStack
  have written :
      writeAt pointer.toNat text
          (builderAt frames memory (sp - (text.length + 1))) =
        .ok ()
          (builderAt frames (writePhysical memory pointer.toNat text)
            (sp - (text.length + 1))) :=
    rfl
  have ended :
      writeAt (again.toNat + text.length) [0]
          (builderAt frames (writePhysical memory pointer.toNat text)
            (sp - (text.length + 1))) =
        .ok ()
          (builderAt frames
            (stored frames memory [⟨sp - (text.length + 1), text ++ [0]⟩])
            (sp - (text.length + 1))) := by
    have joined :=
      writePhysical_append memory (stackPlace frames (sp - (text.length + 1)))
        text [0]
    change
      Outcome.ok ()
          (builderAt frames
            (writePhysical (writePhysical memory _ _) _ _) _) =
        _
    rw [pointerIs, againIs, joined]
    rfl
  unfold putBytes
  rw [Prog.bind_of_ok reserved, Prog.bind_of_ok found, Prog.bind_of_ok written,
    Prog.bind_of_ok foundAgain, Prog.bind_of_ok ended]
  rfl

theorem putU64_returns
    (value : UInt64)
    (aligned : sp % 8 = 0)
    (high : sp ≤ stackTop.toNat)
    (room : stackBottom.toNat + 8 ≤ sp) :
    putU64 value (builderAt frames memory sp) =
      .ok (UInt64.ofNat (sp - 8))
        (builderAt frames (stored frames memory [⟨sp - 8, wordBytes value⟩])
          (sp - 8)) := by
  have stays : sp - 8 - (sp - 8) % 2 ^ 3 = sp - 8 := by
    omega
  have reserved :=
    @reserve_returns frames memory sp 8 3 8 (by decide) (by decide) high
      (by omega) (by omega)
  rw [stays] at reserved
  obtain ⟨pointer, pointerIs, found⟩ :=
    @ptrAt_returns frames memory (sp - 8) isStack (sp - 8) (by omega)
      (by omega)
  have written :
      writeAt pointer.toNat (wordBytes value) (builderAt frames memory (sp - 8)) =
        .ok ()
          (builderAt frames
            (stored frames memory [⟨sp - 8, wordBytes value⟩]) (sp - 8)) := by
    rw [pointerIs]
    rfl
  unfold putU64
  rw [Prog.bind_of_ok reserved, Prog.bind_of_ok found, Prog.bind_of_ok written]
  rfl

/-! ## The loops -/

theorem putStrings_returns
    {texts : List (List UInt8)}
    (high : sp ≤ stackTop.toNat)
    (room : stackBottom.toNat + textSize texts ≤ sp) :
    putStrings texts (builderAt frames memory sp) =
      .ok ((textWrites sp texts).map fun write => UInt64.ofNat write.address)
        (builderAt frames (stored frames memory (textWrites sp texts))
          (sp - textSize texts)) := by
  induction texts generalizing sp memory with
  | nil =>
      rfl
  | cons text rest inductionHypothesis =>
      have size : textSize (text :: rest) = text.length + 1 + textSize rest :=
        List.sum_cons
      rw [size] at room ⊢
      have put :=
        @putBytes_returns frames memory sp isStack text high (by omega)
      have others :=
        @inductionHypothesis
          (stored frames memory [⟨sp - (text.length + 1), text ++ [0]⟩])
          (sp - (text.length + 1)) (by omega) (by omega)
      rw [← stored_append, Nat.sub_sub] at others
      unfold putStrings
      rw [Prog.bind_of_ok put, Prog.bind_of_ok others]
      rfl

theorem putWords_returns
    {values : List UInt64}
    (aligned : sp % 8 = 0)
    (high : sp ≤ stackTop.toNat)
    (room : stackBottom.toNat + values.length * 8 ≤ sp) :
    putWords values (builderAt frames memory sp) =
      .ok ()
        (builderAt frames (stored frames memory (wordWrites sp values))
          (sp - values.length * 8)) := by
  induction values generalizing sp memory with
  | nil =>
      rfl
  | cons value rest inductionHypothesis =>
      rw [List.length_cons] at room ⊢
      have put :=
        @putU64_returns frames memory sp isStack value aligned high (by omega)
      have others :=
        @inductionHypothesis
          (stored frames memory [⟨sp - 8, wordBytes value⟩]) (sp - 8)
          (by omega) (by omega) (by omega)
      have lower : sp - 8 - rest.length * 8 = sp - (rest.length + 1) * 8 := by
        omega
      rw [← stored_append, lower] at others
      unfold putWords
      rw [Prog.bind_of_ok put, others]
      rfl

end

/-- The stack pointer before a block, so that it is aligned behind it. -/
def paddedFor (sp blockSize : Nat) : Nat :=
  sp - (sp - blockSize) % 16

theorem alignBeforeBlock_returns
    {blockSize : Nat}
    (high : sp ≤ stackTop.toNat)
    (room : stackBottom.toNat + blockSize + 16 ≤ sp) :
    alignBeforeBlock blockSize (builderAt frames memory sp) =
      .ok () (builderAt frames memory (paddedFor sp blockSize)) := by
  have lower : sp - blockSize ≤ stackTop.toNat :=
    Nat.le_trans (Nat.sub_le sp blockSize) high
  have sixteen : (2 : Nat) ^ 4 = 16 := by decide
  have padding :
      UInt64.ofNat (sp - blockSize) &&& 0xf =
        UInt64.ofNat ((sp - blockSize) % 16) := by
    rw [← UInt64.toNat_inj, @toNat_and_low _ 0xf 4 (by decide),
      toNat_ofNat_below lower,
      toNat_ofNat_below (Nat.le_trans (Nat.mod_le _ _) lower), sixteen]
  have read :
      (Prog.gets id : Building StackBuilder) (builderAt frames memory sp) =
        .ok (builderAt frames memory sp) (builderAt frames memory sp) :=
    rfl
  have spIs : (builderAt frames memory sp).sp = UInt64.ofNat sp := rfl
  have notBelow : ¬ UInt64.ofNat (paddedFor sp blockSize) < stackBottom := by
    unfold paddedFor
    rw [UInt64.lt_iff_toNat_lt, toNat_ofNat_below (by omega)]
    omega
  have moved :
      (Prog.modify fun builder : StackBuilder =>
          { builder with sp := UInt64.ofNat (paddedFor sp blockSize) } :
        Building Unit) (builderAt frames memory sp) =
        .ok () (builderAt frames memory (paddedFor sp blockSize)) :=
    rfl
  have bottomIs : (builderAt frames memory sp).bottom = stackBottom := rfl
  have less : (sp - blockSize) % 16 ≤ sp := by
    omega
  have subtracted := checkedSub_ofNat high less
  rw [← paddedFor] at subtracted
  unfold alignBeforeBlock
  rw [Prog.bind_of_ok read, spIs, checkedSub_ofNat high (by omega)]
  dsimp only
  rw [padding, subtracted]
  dsimp only
  rw [Prog.bind_of_ok moved, bottomIs, if_neg notBelow]
  rfl

theorem pushBlock_returns
    (isStack : StackFrames frames)
    {entries : List UInt64}
    (high : sp ≤ stackTop.toNat)
    (room : stackBottom.toNat + entries.length * 8 + 16 ≤ sp) :
    pushBlock entries (builderAt frames memory sp) =
      .ok (UInt64.ofNat (paddedFor sp (entries.length * 8) - entries.length * 8))
        (builderAt frames
          (stored frames memory
            (wordWrites (paddedFor sp (entries.length * 8)) entries.reverse))
          (paddedFor sp (entries.length * 8) - entries.length * 8)) := by
  have fits : ¬ 2 ^ 64 ≤ entries.length * 8 := by
    rw [toNat_stackTop] at high
    omega
  have aligned :=
    @alignBeforeBlock_returns frames memory sp (entries.length * 8) high room
  have words :=
    @putWords_returns frames memory (paddedFor sp (entries.length * 8)) isStack
      entries.reverse
      (by
        unfold paddedFor
        omega)
      (by
        unfold paddedFor
        omega)
      (by
        unfold paddedFor
        rw [List.length_reverse]
        omega)
  rw [List.length_reverse] at words
  unfold pushBlock
  rw [if_neg fits, Prog.bind_of_ok aligned, Prog.bind_of_ok words]
  rfl

/-! ## The whole stack -/

/-- The address of the random bytes. -/
def randomAt (path : List UInt8) : Nat :=
  let below := stackTop.toNat - textSize [path, platformName] - 16
  below - below % 16

/-- The name of the program and that of the platform. -/
def nameWrites (path : List UInt8) : List Write :=
  textWrites stackTop.toNat [path, platformName]

/-- The strings of `argv`. -/
def argvWrites (path : List UInt8) (argv : List (List UInt8)) : List Write :=
  textWrites (randomAt path) argv

/-- The address below the strings of `argv`. -/
def envTop (path : List UInt8) (argv : List (List UInt8)) : Nat :=
  randomAt path - textSize argv

/-- The strings of `envp`. -/
def envWrites (path : List UInt8) (argv envp : List (List UInt8)) : List Write :=
  textWrites (envTop path argv) envp

/-- All strings. -/
def stringWrites (path : List UInt8) (argv envp : List (List UInt8)) : List Write :=
  nameWrites path ++ argvWrites path argv ++ envWrites path argv envp

/-- The pointers to some strings. -/
def pointersTo (writes : List Write) : List UInt64 :=
  writes.map fun write => UInt64.ofNat write.address

/-- The pointer to the name of the program. -/
def execfnAt (path : List UInt8) : Nat :=
  stackTop.toNat - (path.length + 1)

/-- The pointer to the name of the platform. -/
def platformAt (path : List UInt8) : Nat :=
  execfnAt path - (platformName.length + 1)

/-- The entries on the stack of a program. -/
def entriesFor
    (main rtld : Loaded)
    (header : Header)
    (phdr : UInt64)
    (path : List UInt8)
    (argv envp : List (List UInt8)) :
    List UInt64 :=
  stackEntries (pointersTo (argvWrites path argv))
    (pointersTo (envWrites path argv envp))
    (auxv main rtld header phdr (UInt64.ofNat (platformAt path))
      (UInt64.ofNat (randomAt path)) (UInt64.ofNat (execfnAt path)))

/-- The number of entries. -/
def entryCount (argv envp : List (List UInt8)) : Nat :=
  argv.length + envp.length + 39

/-- The stack pointer above the entries. -/
def entryTop (path : List UInt8) (argv envp : List (List UInt8)) : Nat :=
  paddedFor (envTop path argv - textSize envp) (entryCount argv envp * 8)

/-- The stack pointer of the program. -/
def initialSp (path : List UInt8) (argv envp : List (List UInt8)) : Nat :=
  entryTop path argv envp - entryCount argv envp * 8

/-- Everything that is written before the entries. -/
def dataWrites
    (counter : UInt64)
    (path : List UInt8)
    (argv envp : List (List UInt8)) :
    List Write :=
  nameWrites path ++ [⟨randomAt path, randomSeed counter⟩] ++
    argvWrites path argv ++ envWrites path argv envp

/-- What `execve` accepts. -/
structure ExecArguments (path : List UInt8) (argv envp : List (List UInt8)) : Prop where
  pathLength : path.length < 160
  argvCount : argv.length ≤ 31
  envCount : envp.length ≤ 31
  argvTexts : ∀ text ∈ argv, text.length < 256
  envTexts : ∀ text ∈ envp, text.length < 256

theorem textSize_le
    {texts : List (List UInt8)}
    (short : ∀ text ∈ texts, text.length < 256) :
    textSize texts ≤ texts.length * 256 := by
  induction texts with
  | nil =>
      exact Nat.zero_le _
  | cons text rest inductionHypothesis =>
      have first := short text List.mem_cons_self
      have others :=
        inductionHypothesis fun other among =>
          short other (List.mem_cons_of_mem text among)
      have size : textSize (text :: rest) = text.length + 1 + textSize rest :=
        List.sum_cons
      rw [size, List.length_cons]
      omega

@[simp] theorem length_textWrites (sp : Nat) (texts : List (List UInt8)) :
    (textWrites sp texts).length = texts.length := by
  induction texts generalizing sp with
  | nil =>
      rfl
  | cons text rest inductionHypothesis =>
      rw [textWrites, List.length_cons, inductionHypothesis, List.length_cons]

theorem length_entriesFor
    (main rtld : Loaded)
    (header : Header)
    (phdr : UInt64)
    (path : List UInt8)
    (argv envp : List (List UInt8)) :
    (entriesFor main rtld header phdr path argv envp).length =
      entryCount argv envp := by
  simp [entriesFor, stackEntries, pointersTo, argvWrites, envWrites, auxv,
    entryCount]
  omega

/-- Where the parts of an accepted stack lie. -/
structure Room (path : List UInt8) (argv envp : List (List UInt8)) : Prop where
  names : textSize [path, platformName] ≤ 200
  random : stackTop.toNat - 240 ≤ randomAt path
  randomBelow :
    randomAt path + 16 ≤ stackTop.toNat - textSize [path, platformName]
  argvSize : textSize argv ≤ 8000
  envSize : textSize envp ≤ 8000
  entries : entryCount argv envp ≤ 101

theorem ExecArguments.room
    {path : List UInt8}
    {argv envp : List (List UInt8)}
    (accepted : ExecArguments path argv envp) :
    Room path argv envp := by
  have argvSize := textSize_le accepted.argvTexts
  have envSize := textSize_le accepted.envTexts
  have pathShort := accepted.pathLength
  have argvCount := accepted.argvCount
  have envCount := accepted.envCount
  have names : textSize [path, platformName] = path.length + 8 := by
    simp [textSize, platformName]
  constructor
  · omega
  · simp only [randomAt, names, toNat_stackTop]
    omega
  · simp only [randomAt, names, toNat_stackTop]
    omega
  · omega
  · omega
  · unfold entryCount
    omega

theorem nameWrites_eq (path : List UInt8) :
    nameWrites path =
      [⟨execfnAt path, path ++ [0]⟩, ⟨platformAt path, platformName ++ [0]⟩] := by
  simp only [nameWrites, textWrites, platformAt, execfnAt]

theorem fillStack_returns
    (isStack : StackFrames frames)
    {main rtld : Loaded}
    {header : Header}
    {counter phdr : UInt64}
    {path : List UInt8}
    {argv envp : List (List UInt8)}
    (accepted : ExecArguments path argv envp)
    (located : checkedAdd main.bias header.phoff = some phdr) :
    fillStack main rtld header counter path argv envp
        (StackBuilder.new frames memory) =
      .ok (UInt64.ofNat (initialSp path argv envp))
        (builderAt frames
          (stored frames memory
            (dataWrites counter path argv envp ++
              wordWrites (entryTop path argv envp)
                (entriesFor main rtld header phdr path argv envp).reverse))
          (initialSp path argv envp)) := by
  obtain ⟨names, random, randomBelow, argvSize, envSize, entries⟩ :=
    accepted.room
  have namesIs : textSize [path, platformName] = path.length + 8 := by
    simp [textSize, platformName]
  have platformLength : platformName.length = 6 := rfl
  have topIs := toNat_stackTop
  have bottomIs := toNat_stackBottom
  rw [namesIs] at names randomBelow
  have putName :=
    @putBytes_returns frames memory stackTop.toNat isStack path (Nat.le_refl _)
      (by omega)
  rw [← execfnAt] at putName
  have execfnIs : execfnAt path = stackTop.toNat - (path.length + 1) := rfl
  have putPlatform :=
    @putBytes_returns frames
      (stored frames memory [⟨execfnAt path, path ++ [0]⟩]) (execfnAt path)
      isStack platformName (by omega) (by omega)
  rw [← platformAt] at putPlatform
  have platformIs : platformAt path = execfnAt path - 7 := rfl
  have randomIs :
      platformAt path - 16 - (platformAt path - 16) % 2 ^ 4 = randomAt path := by
    unfold randomAt
    rw [namesIs, platformIs, execfnIs]
    dsimp only
    omega
  have namesStored :
      stored frames (stored frames memory [⟨execfnAt path, path ++ [0]⟩])
          [⟨platformAt path, platformName ++ [0]⟩] =
        stored frames memory (nameWrites path) := by
    rw [nameWrites_eq, stored_cons, stored_cons, stored_cons, stored_cons]
    simp only [stored_nil]
  rw [namesStored] at putPlatform
  have reserved :=
    @reserve_returns frames (stored frames memory (nameWrites path))
      (platformAt path) 16 4 16 (by decide) (by decide) (by omega) (by omega)
      (by omega)
  rw [randomIs] at reserved
  obtain ⟨pointer, pointerIs, found⟩ :=
    @ptrAt_returns frames (stored frames memory (nameWrites path))
      (randomAt path) isStack (randomAt path) (by omega) (by omega)
  have written :
      writeAt pointer.toNat (randomSeed counter)
          (builderAt frames (stored frames memory (nameWrites path))
            (randomAt path)) =
        .ok ()
          (builderAt frames
            (stored frames memory
              (nameWrites path ++ [⟨randomAt path, randomSeed counter⟩]))
            (randomAt path)) := by
    rw [stored_append, pointerIs]
    rfl
  have putArgv :=
    @putStrings_returns frames
      (stored frames memory
        (nameWrites path ++ [⟨randomAt path, randomSeed counter⟩]))
      (randomAt path) isStack argv (by omega) (by omega)
  rw [← argvWrites, ← envTop, ← stored_append] at putArgv
  have envTopIs : envTop path argv = randomAt path - textSize argv := rfl
  have putEnv :=
    @putStrings_returns frames
      (stored frames memory
        (nameWrites path ++ [⟨randomAt path, randomSeed counter⟩] ++
          argvWrites path argv))
      (envTop path argv) isStack envp (by omega) (by omega)
  rw [← envWrites, ← stored_append] at putEnv
  have counted := length_entriesFor main rtld header phdr path argv envp
  have pushed :=
    @pushBlock_returns frames
      (stored frames memory (dataWrites counter path argv envp))
      (envTop path argv - textSize envp) isStack
      (entriesFor main rtld header phdr path argv envp) (by omega)
      (by
        rw [counted]
        omega)
  rw [counted, ← entryTop, ← initialSp, ← stored_append] at pushed
  have allArgv : argv.take 32 = argv :=
    List.take_of_length_le (by
      have := accepted.argvCount
      omega)
  have allEnv : envp.take 32 = envp :=
    List.take_of_length_le (by
      have := accepted.envCount
      omega)
  have started :
      StackBuilder.new frames memory =
        builderAt frames memory stackTop.toNat :=
    rfl
  unfold fillStack orOutOfMemory
  rw [started, Prog.bind_of_ok (Prog.mapError_eq_ok.mpr putName),
    Prog.bind_of_ok (Prog.mapError_eq_ok.mpr putPlatform),
    Prog.bind_of_ok (Prog.mapError_eq_ok.mpr reserved),
    Prog.bind_of_ok (Prog.mapError_eq_ok.mpr found),
    Prog.bind_of_ok (Prog.mapError_eq_ok.mpr written), allArgv,
    Prog.bind_of_ok (Prog.mapError_eq_ok.mpr putArgv), allEnv,
    Prog.bind_of_ok (Prog.mapError_eq_ok.mpr putEnv), located]
  dsimp only
  rw [← pointersTo, ← pointersTo, ← entriesFor, counted,
    if_neg (by omega), if_neg]
  · exact Prog.mapError_eq_ok.mpr pushed
  · simp [pointersTo, argvWrites, envWrites, auxv, entryCount]
    omega

end VibuxOS.Elf
