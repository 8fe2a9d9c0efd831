import VibuxOS.Lib.Record
import VibuxOS.Storage.NvmeRanges

namespace VibuxOS.Storage.NvmeRanges

open VibuxOS.Lib VibuxOS.Storage.Nvme

/-!
# Which blocks the commands of a range address

The bounds check of `read_range`, `write_range` and `zero_range` is in bytes, and
their commands move whole pages.  Where the namespace ends within a page, a range
that ends in that page passes the check, and its last command does not.
-/

variable
  {buf : Nat → UInt8}
  {blocks : Nat × Nat}

/-! ## The namespace -/

/--
What `identify_namespace` reads from the data page: `namespace_bytes` and
`lba_bytes`.
-/
def identifyNamespace (data : Nat → UInt8) : Except NvmeError Controller :=
  let nsze := getU64 data 0
  let flbas := data 26
  let formatIndex := (flbas &&& 0x0f).toNat
  let offset := 128 + formatIndex * 4
  if offset + 4 > pageSize then
    .error .invalid
  else
    let lbads := data (offset + 2)
    if lbads = 0 ∨ lbads ≥ 63 then
      .error .invalid
    else
      let lbaBytes := 2 ^ lbads.toNat
      if nsze.toNat * lbaBytes ≥ 2 ^ 64 then
        .error .invalid
      else
        .ok { lbaBytes := lbaBytes, namespaceBytes := nsze.toNat * lbaBytes }

theorem identifyNamespace_eq_ok
    {data : Nat → UInt8}
    {controller : Controller}
    (accepted : identifyNamespace data = .ok controller) :
    0 < controller.lbaBytes ∧ controller.namespaceBytes < 2 ^ 64 := by
  unfold identifyNamespace at accepted
  dsimp only at accepted
  split at accepted
  · cases accepted
  · split at accepted
    · cases accepted
    · split at accepted
      · cases accepted
      case isFalse fits =>
        cases accepted
        exact ⟨Nat.two_pow_pos _, Nat.lt_of_not_le fits⟩

/-! ## The commands of a call -/

/-- The first block that a command addresses, and how many it addresses. -/
def blocksOf : Request → Nat × Nat
  | .ioTransfer _ lba count => (lba.toNat, count.toNat)
  | .writeZeroes lba count => (lba.toNat, count.toNat)
  | .submitAdmin _ _ _ _ _ _ => (0, 0)
  | .flush => (0, 0)

/-- A command addresses only blocks below a limit. -/
def Below (limit : Nat) (request : Request) : Prop :=
  (blocksOf request).1 + (blocksOf request).2 ≤ limit

variable {δ α : Type}

/-- A device, and the commands that it was given. -/
abbrev Logged (δ : Type) := List Request × δ

/-- The drive without the commands. -/
def unlogged (drive : Drive (Logged δ)) : Drive δ :=
  ⟨drive.bytes, drive.page, drive.rest.2⟩

/-- What a command does to the drive without the commands. -/
def relogged
    (inner : Drive δ)
    (drive : Drive (Logged δ)) :
    Drive (Logged δ) :=
  ⟨inner.bytes, inner.page, drive.rest.1, inner.rest⟩

/-- The same device, which notes every command before it performs it. -/
def recorded (device : Device δ) : Device (Logged δ) := fun request => do
  Prog.modify fun drive =>
    { drive with rest := (drive.rest.1 ++ [request], drive.rest.2) }
  Prog.onPart unlogged relogged (device request)

/--
Whatever the device does with them, all commands of a call address only blocks
below a limit.
-/
def StaysBelow
    (limit : Nat)
    (call : ∀ δ : Type, Device δ → Io δ α) : Prop :=
  ∀ (δ : Type) (device : Device δ) (drive final : Drive (Logged δ)),
    drive.rest.1 = [] →
    (call (Logged δ) (recorded device) drive).final? = some final →
    ∀ request ∈ final.rest.1, Below limit request

/-- The end of the last page of a range that is not empty. -/
def pagesEnd (byteOffset length : Nat) : Nat :=
  ((byteOffset + length - 1) / pageSize + 1) * pageSize

/-- A range has no page, or all of its pages end in the namespace. -/
def PagesFit
    (controller : Controller)
    (byteOffset length : Nat) : Prop :=
  length = 0 ∨ pagesEnd byteOffset length ≤ controller.namespaceBytes

/-! ## Commands that stay below -/

/-- The commands so far stay below a limit. -/
def LogBelow (limit : Nat) (drive : Drive (Logged δ)) : Prop :=
  ∀ request ∈ drive.rest.1, Below limit request

section Below

variable
  {limit : Nat}
  {device : Device δ}
  {controller : Controller}

theorem keeps_recorded
    {request : Request}
    (below : Below limit request) :
    Prog.Keeps (LogBelow limit) (recorded device request) := by
  apply Prog.Keeps.bind
  · apply Prog.Keeps.modify
    intro drive logged other among
    rcases List.mem_append.mp among with before | last
    · exact logged other before
    · rw [List.mem_singleton.mp last]
      exact below
  · intro _
    apply Prog.Ensures.onPart
    · exact fun _ _ _ logged _ => logged
    · exact fun _ _ _ logged _ => logged

theorem keeps_readBlocks
    {lba count : Nat}
    (fits : lba + count ≤ limit) :
    Prog.Keeps (LogBelow limit) (readBlocks (recorded device) lba count) := by
  apply Prog.Keeps.ite (.of_readOnly (.fail _))
  refine Prog.Keeps.bind (.modify fun _ logged => logged) fun _ => ?_
  apply keeps_recorded
  exact
    Nat.le_trans (Nat.add_le_add (Nat.mod_le lba _) (Nat.mod_le count _)) fits

theorem keeps_writeBlocks
    {lba count : Nat}
    (fits : lba + count ≤ limit) :
    Prog.Keeps (LogBelow limit) (writeBlocks (recorded device) lba count) := by
  apply Prog.Keeps.ite (.of_readOnly (.fail _))
  apply keeps_recorded
  exact
    Nat.le_trans (Nat.add_le_add (Nat.mod_le lba _) (Nat.mod_le count _)) fits

theorem keeps_writeZeroes
    {lba count : Nat}
    (fits : lba + count ≤ limit) :
    Prog.Keeps (LogBelow limit) (writeZeroes (recorded device) lba count) := by
  apply Prog.Keeps.ite (.of_readOnly (.fail _))
  apply keeps_recorded
  exact
    Nat.le_trans (Nat.add_le_add (Nat.mod_le lba _) (Nat.mod_le count _)) fits

theorem keeps_read4k
    {lba : Nat}
    (fits : lba + controller.blocksPerPage ≤ limit) :
    Prog.Keeps (LogBelow limit) (controller.read4k (recorded device) lba) := by
  apply Prog.Keeps.ite (.of_readOnly (.fail _))
  exact .bind (keeps_readBlocks fits) fun _ => .of_readOnly (.gets _)

theorem keeps_write4k
    {lba : Nat}
    {input : Nat → UInt8}
    (fits : lba + controller.blocksPerPage ≤ limit) :
    Prog.Keeps (LogBelow limit)
      (controller.write4k (recorded device) lba input) := by
  apply Prog.Keeps.ite (.of_readOnly (.fail _))
  exact
    .bind (.modify fun _ logged => logged) fun _ => keeps_writeBlocks fits

theorem page_le_last
    {offset remaining : Nat}
    (more : remaining ≠ 0) :
    (offset / pageSize + 1) * pageSize ≤ pagesEnd offset remaining := by
  unfold pagesEnd
  apply Nat.mul_le_mul_right
  apply Nat.succ_le_succ
  apply Nat.div_le_div_right
  omega

section

variable
  (positive : 0 < controller.lbaBytes)
  (divides : controller.lbaBytes ∣ pageSize)

include positive divides

theorem blocks_of_page_iff
    (page : Nat) :
    page * controller.blocksPerPage + controller.blocksPerPage ≤
        controller.namespaceBytes / controller.lbaBytes ↔
      (page + 1) * pageSize ≤ controller.namespaceBytes := by
  rw [Nat.le_div_iff_mul_le positive, ← Nat.succ_mul, Nat.mul_assoc,
    blocksPerPage_mul divides]

theorem blocks_of_offset
    {offset remaining : Nat}
    (more : remaining ≠ 0)
    (fits : PagesFit controller offset remaining) :
    offset / pageSize * controller.blocksPerPage + controller.blocksPerPage ≤
      controller.namespaceBytes / controller.lbaBytes := by
  rw [blocks_of_page_iff positive divides]
  exact Nat.le_trans (page_le_last more) (fits.resolve_left more)

omit positive divides in
theorem PagesFit.rest
    {offset remaining part : Nat}
    (fits : PagesFit controller offset remaining)
    (within : part ≤ remaining) :
    PagesFit controller (offset + part) (remaining - part) := by
  rcases Nat.eq_or_lt_of_le within with rfl | below
  · exact .inl (Nat.sub_self _)
  · have sameEnd : offset + part + (remaining - part) = offset + remaining := by
      omega
    right
    unfold pagesEnd
    rw [sameEnd]
    exact fits.resolve_left (by omega)

omit positive divides in
theorem chunk_le (offset remaining : Nat) :
    Controller.chunk offset remaining ≤ remaining :=
  Nat.min_le_right _ _

theorem keeps_readRangeLoop
    {offset dst remaining : Nat}
    (fits : PagesFit controller offset remaining) :
    Prog.Keeps
      (LogBelow (controller.namespaceBytes / controller.lbaBytes))
      (controller.readRangeLoop (recorded device) offset dst remaining
        buf) := by
  induction offset, dst, remaining, buf
    using Controller.readRangeLoop.induct with
  | case1 offset dst buf =>
      rw [Controller.readRangeLoop, if_pos rfl]
      exact .of_readOnly (.pure _)
  | case2 offset dst remaining buf more inductionHypothesis =>
      rw [Controller.readRangeLoop, if_neg more]
      exact
        .bind (keeps_read4k (blocks_of_offset positive divides more fits))
          fun page => inductionHypothesis page (fits.rest (chunk_le _ _))

theorem keeps_writeRangeLoop
    {offset src remaining : Nat}
    (fits : PagesFit controller offset remaining) :
    Prog.Keeps
      (LogBelow (controller.namespaceBytes / controller.lbaBytes))
      (controller.writeRangeLoop (recorded device) offset src remaining
        buf) := by
  induction offset, src, remaining
    using Controller.writeRangeLoop.induct with
  | case1 offset src =>
      rw [Controller.writeRangeLoop, if_pos rfl]
      exact .of_readOnly (.pure _)
  | case2 offset src remaining more inductionHypothesis =>
      have inNamespace := blocks_of_offset positive divides more fits
      rw [Controller.writeRangeLoop, if_neg more]
      apply Prog.Keeps.bind
      · apply Prog.Keeps.ite (.of_readOnly (.pure _))
        exact
          .bind (keeps_read4k inNamespace) fun _ => .of_readOnly (.pure _)
      · intro page
        exact
          .bind (keeps_write4k inNamespace)
            fun _ => inductionHypothesis (fits.rest (chunk_le _ _))

theorem keeps_zeroRangeLoop
    {offset remaining : Nat}
    (fits : PagesFit controller offset remaining) :
    Prog.Keeps
      (LogBelow (controller.namespaceBytes / controller.lbaBytes))
      (controller.zeroRangeLoop (recorded device) offset remaining) := by
  induction offset, remaining using Controller.zeroRangeLoop.induct with
  | case1 offset =>
      rw [Controller.zeroRangeLoop, if_pos rfl]
      exact .of_readOnly (.pure _)
  | case2 offset remaining more whole inductionHypothesis =>
      rw [Controller.zeroRangeLoop, if_neg more, if_pos whole]
      exact
        .bind
          (keeps_writeZeroes (blocks_of_offset positive divides more fits))
          fun _ => inductionHypothesis (fits.rest whole.2)
  | case3 offset remaining more part inductionHypothesis =>
      have inNamespace := blocks_of_offset positive divides more fits
      rw [Controller.zeroRangeLoop, if_neg more, if_neg part]
      refine .bind (.bind (keeps_read4k inNamespace) fun page => ?_) fun _ => ?_
      · exact keeps_write4k inNamespace
      · exact inductionHypothesis (fits.rest (chunk_le _ _))

end

end Below

/-! ## The command of the last page -/

/-- A device on which every command succeeds and does nothing. -/
def calm : Device Unit := fun _ => pure ()

/-- The blocks of the last page of a range that is not empty. -/
def lastBlocks
    (controller : Controller)
    (byteOffset length : Nat) :
    Nat × Nat :=
  ((byteOffset + length - 1) / pageSize * controller.blocksPerPage,
    controller.blocksPerPage)

/-- Some command so far has addressed these blocks. -/
def Addressed (blocks : Nat × Nat) (drive : Drive (Logged Unit)) : Prop :=
  ∃ request ∈ drive.rest.1, blocksOf request = blocks

/-- A call that returns on the calm device, and has addressed these blocks. -/
def Reaches
    (blocks : Nat × Nat)
    (call : Io (Logged Unit) α) : Prop :=
  ∀ drive,
    ∃ value final,
      call drive = .ok value final ∧
        Addressed blocks final

section Last

variable
  {controller : Controller}
  {offset remaining : Nat}

theorem Reaches.andThen
    {β : Type}
    {first : Io (Logged Unit) α}
    {next : α → Io (Logged Unit) β}
    (reaches : Reaches blocks first)
    (returns : ∀ value, ∃ result, next value = pure result) :
    Reaches blocks (first >>= next) := by
  intro drive
  obtain ⟨value, final, returned, addressed⟩ := reaches drive
  obtain ⟨result, isPure⟩ := returns value
  refine ⟨result, final, ?_, addressed⟩
  rw [Prog.bind_of_ok returned, isPure]
  rfl

/-- A call that returns on the calm device. -/
def Returns (call : Io (Logged Unit) α) : Prop :=
  ∀ drive, ∃ value final, call drive = .ok value final

theorem Reaches.returns
    {call : Io (Logged Unit) α}
    (reaches : Reaches blocks call) :
    Returns call := by
  intro drive
  obtain ⟨value, final, returned, _⟩ := reaches drive
  exact ⟨value, final, returned⟩

theorem Returns.bind
    {β : Type}
    {first : Io (Logged Unit) α}
    {next : α → Io (Logged Unit) β}
    (firstReturns : Returns first)
    (nextReturns : ∀ value, Returns (next value)) :
    Returns (first >>= next) := by
  intro drive
  obtain ⟨value, middle, returned⟩ := firstReturns drive
  obtain ⟨result, final, later⟩ := nextReturns value middle
  exact ⟨result, final, (Prog.bind_of_ok returned).trans later⟩

theorem Returns.reaches
    {β : Type}
    {first : Io (Logged Unit) α}
    {next : α → Io (Logged Unit) β}
    (returns : Returns first)
    (reaches : ∀ value, Reaches blocks (next value)) :
    Reaches blocks (first >>= next) := by
  intro drive
  obtain ⟨value, middle, returned⟩ := returns drive
  obtain ⟨result, final, later, addressed⟩ := reaches value middle
  exact
    ⟨result, final, (Prog.bind_of_ok returned).trans later, addressed⟩

section

variable
  (positive : 0 < controller.lbaBytes)
  (divides : controller.lbaBytes ∣ pageSize)

include positive divides

theorem blocksPerPage_bounds :
    0 < controller.blocksPerPage ∧ controller.blocksPerPage ≤ pageSize :=
  ⟨Nat.div_pos (Nat.le_of_dvd (by decide) divides) positive,
    Nat.div_le_self _ _⟩

theorem badLba_of_divides :
    controller.badLba = false := by
  unfold Controller.badLba
  rw [Nat.mod_eq_zero_of_dvd divides]
  simp only [bne_self_eq_false, Bool.or_false, beq_eq_false_iff_ne]
  exact Nat.ne_of_gt positive

def pageBlocks (controller : Controller) (offset : Nat) : Nat × Nat :=
  (offset / pageSize * controller.blocksPerPage, controller.blocksPerPage)

omit positive divides in
theorem pageBlocks_eq
    (divides : controller.lbaBytes ∣ pageSize)
    (inRange : offset < 2 ^ 64) :
    ((UInt64.ofNat (offset / pageSize * controller.blocksPerPage)).toNat,
        (UInt16.ofNat controller.blocksPerPage).toNat) =
      pageBlocks controller offset := by
  obtain ⟨lbaFits, countFits, _⟩ := pageLba divides inRange
  rw [UInt64.toNat_ofNat_of_lt' lbaFits, UInt16.toNat_ofNat_of_lt' countFits]
  rfl

theorem count_ne_zero :
    ¬ UInt16.ofNat controller.blocksPerPage = 0 := by
  intro isZero
  obtain ⟨some, _⟩ := blocksPerPage_bounds positive divides
  have same :=
    congrArg Prod.snd
      (@pageBlocks_eq controller 0 divides (by decide))
  rw [isZero] at same
  exact Nat.ne_of_lt some same

omit positive divides in
theorem reaches_command (request : Request) :
    Reaches (blocksOf request) (recorded calm request) :=
  fun _ =>
    ⟨(), _, rfl, request, List.mem_append_right _ List.mem_cons_self, rfl⟩

theorem reaches_readBlocks
    (inRange : offset < 2 ^ 64) :
    Reaches (pageBlocks controller offset)
      (readBlocks (recorded calm)
        (offset / pageSize * controller.blocksPerPage)
        controller.blocksPerPage) := by
  unfold readBlocks
  rw [if_neg (count_ne_zero positive divides),
    ← pageBlocks_eq divides inRange]
  exact
    Returns.reaches (fun drive => ⟨(), _, rfl⟩) fun _ => reaches_command _

theorem reaches_writeBlocks
    (inRange : offset < 2 ^ 64) :
    Reaches (pageBlocks controller offset)
      (writeBlocks (recorded calm)
        (offset / pageSize * controller.blocksPerPage)
        controller.blocksPerPage) := by
  unfold writeBlocks
  rw [if_neg (count_ne_zero positive divides),
    ← pageBlocks_eq divides inRange]
  exact reaches_command _

theorem reaches_writeZeroes
    (inRange : offset < 2 ^ 64) :
    Reaches (pageBlocks controller offset)
      (writeZeroes (recorded calm)
        (offset / pageSize * controller.blocksPerPage)
        controller.blocksPerPage) := by
  unfold writeZeroes
  rw [if_neg (count_ne_zero positive divides),
    ← pageBlocks_eq divides inRange]
  exact reaches_command _

theorem reaches_read4k
    (inRange : offset < 2 ^ 64) :
    Reaches (pageBlocks controller offset)
      (controller.read4k (recorded calm)
        (offset / pageSize * controller.blocksPerPage)) := by
  intro drive
  obtain ⟨_, final, returned, addressed⟩ :=
    reaches_readBlocks positive divides inRange drive
  unfold Controller.read4k
  rw [if_neg (by simp [badLba_of_divides positive divides]),
    Prog.bind_of_ok returned]
  exact ⟨_, final, rfl, addressed⟩

theorem reaches_write4k
    (inRange : offset < 2 ^ 64)
    (input : Nat → UInt8) :
    Reaches (pageBlocks controller offset)
      (controller.write4k (recorded calm)
        (offset / pageSize * controller.blocksPerPage) input) := by
  unfold Controller.write4k
  rw [if_neg (by simp [badLba_of_divides positive divides])]
  exact
    Returns.reaches (fun drive => ⟨(), _, rfl⟩)
      fun _ => reaches_writeBlocks positive divides inRange

omit positive divides in
theorem lastBlocks_of_chunk
    (more : remaining ≠ 0)
    (all : remaining - Controller.chunk offset remaining = 0) :
    lastBlocks controller offset remaining = pageBlocks controller offset := by
  have samePage : (offset + remaining - 1) / pageSize = offset / pageSize := by
    simp only [Controller.chunk, pageSize] at all ⊢
    omega
  unfold lastBlocks pageBlocks
  rw [samePage]

omit positive divides in
theorem lastBlocks_rest
    {part : Nat}
    (within : part ≤ remaining) :
    lastBlocks controller (offset + part) (remaining - part) =
      lastBlocks controller offset remaining := by
  have sameEnd : offset + part + (remaining - part) = offset + remaining := by
    omega
  unfold lastBlocks
  rw [sameEnd]

theorem reaches_readRangeLoop
    {dst : Nat}
    (more : remaining ≠ 0)
    (inRange : offset + remaining ≤ 2 ^ 64) :
    Reaches (lastBlocks controller offset remaining)
      (controller.readRangeLoop (recorded calm) offset dst remaining buf) := by
  induction offset, dst, remaining, buf
    using Controller.readRangeLoop.induct with
  | case1 offset dst buf =>
      exact (more rfl).elim
  | case2 offset dst remaining buf _ inductionHypothesis =>
      have within := chunk_le offset remaining
      have reads :=
        @reaches_read4k controller offset positive divides (by omega)
      rw [Controller.readRangeLoop, if_neg more]
      by_cases last : remaining - Controller.chunk offset remaining = 0
      · rw [lastBlocks_of_chunk more last]
        refine reads.andThen fun page => ?_
        rw [last, Controller.readRangeLoop, if_pos rfl]
        exact ⟨_, rfl⟩
      · refine reads.returns.reaches fun page => ?_
        have later := inductionHypothesis page last (by omega)
        rw [lastBlocks_rest within] at later
        exact later

theorem reaches_writeRangeLoop
    {src : Nat}
    (more : remaining ≠ 0)
    (inRange : offset + remaining ≤ 2 ^ 64) :
    Reaches (lastBlocks controller offset remaining)
      (controller.writeRangeLoop (recorded calm) offset src remaining buf) := by
  induction offset, src, remaining using Controller.writeRangeLoop.induct with
  | case1 offset src =>
      exact (more rfl).elim
  | case2 offset src remaining _ inductionHypothesis =>
      have within := chunk_le offset remaining
      have writes :=
        @reaches_write4k controller offset positive divides (by omega)
      have fills :
          Returns
            (controller.pageToWrite (recorded calm) offset src remaining
              buf) := by
        unfold Controller.pageToWrite
        split
        · exact fun drive => ⟨_, drive, rfl⟩
        · exact
            (reaches_read4k positive divides (by omega)).returns.bind
              fun _ drive => ⟨_, drive, rfl⟩
      rw [Controller.writeRangeLoop, if_neg more]
      refine fills.reaches fun page => ?_
      by_cases last : remaining - Controller.chunk offset remaining = 0
      · rw [lastBlocks_of_chunk more last]
        refine (writes page).andThen fun _ => ?_
        rw [last, Controller.writeRangeLoop, if_pos rfl]
        exact ⟨_, rfl⟩
      · refine (writes page).returns.reaches fun _ => ?_
        have later := inductionHypothesis last (by omega)
        rw [lastBlocks_rest within] at later
        exact later

theorem reaches_zeroRangeLoop
    (more : remaining ≠ 0)
    (inRange : offset + remaining ≤ 2 ^ 64) :
    Reaches (lastBlocks controller offset remaining)
      (controller.zeroRangeLoop (recorded calm) offset remaining) := by
  induction offset, remaining using Controller.zeroRangeLoop.induct with
  | case1 offset =>
      exact (more rfl).elim
  | case2 offset remaining _ whole inductionHypothesis =>
      have zeroes :=
        @reaches_writeZeroes controller offset positive divides (by omega)
      have isChunk : Controller.chunk offset remaining = pageSize := by
        unfold Controller.chunk
        rw [whole.1, Nat.sub_zero]
        exact Nat.min_eq_left whole.2
      rw [Controller.zeroRangeLoop, if_neg more, if_pos whole]
      by_cases last : remaining - pageSize = 0
      · rw [← isChunk] at last
        rw [lastBlocks_of_chunk more last]
        refine zeroes.andThen fun _ => ?_
        rw [← isChunk, last, Controller.zeroRangeLoop, if_pos rfl]
        exact ⟨_, rfl⟩
      · refine zeroes.returns.reaches fun _ => ?_
        have later := inductionHypothesis last (by omega)
        rw [lastBlocks_rest whole.2] at later
        exact later
  | case3 offset remaining _ part inductionHypothesis =>
      have within := chunk_le offset remaining
      have zeroes :
          Reaches (pageBlocks controller offset)
            (controller.zeroPart (recorded calm) offset remaining) :=
        (reaches_read4k positive divides (by omega)).returns.reaches
          fun _ => reaches_write4k positive divides (by omega) _
      rw [Controller.zeroRangeLoop, if_neg more, if_neg part]
      by_cases last : remaining - Controller.chunk offset remaining = 0
      · rw [lastBlocks_of_chunk more last]
        refine zeroes.andThen fun _ => ?_
        rw [last, Controller.zeroRangeLoop, if_pos rfl]
        exact ⟨_, rfl⟩
      · refine zeroes.returns.reaches fun _ => ?_
        have later := inductionHypothesis last (by omega)
        rw [lastBlocks_rest within] at later
        exact later

end

end Last

/-! ## The calls -/

section Calls

variable
  {data : Nat → UInt8}
  {controller : Controller}
  {byteOffset length : Nat}

theorem StaysBelow.of_reaches
    {limit : Nat}
    {call : ∀ δ : Type, Device δ → Io δ α}
    (below : StaysBelow limit call)
    (reaches : Reaches blocks (call (Logged Unit) (recorded calm))) :
    blocks.1 + blocks.2 ≤ limit := by
  obtain ⟨value, final, returned, request, among, same⟩ :=
    reaches ⟨fun _ => 0, fun _ => 0, [], ()⟩
  rw [← same]
  apply
    below Unit calm ⟨fun _ => 0, fun _ => 0, [], ()⟩ final rfl _ request among
  rw [returned]
  rfl

section

variable
  (positive : 0 < controller.lbaBytes)
  (divides : controller.lbaBytes ∣ pageSize)

include positive divides

/--
A call whose rounds stay below when all pages of the range fit, and which reaches
the last page, stays below exactly if they fit.
-/
theorem staysBelow_iff
    {call : ∀ δ : Type, Device δ → Io δ α}
    (keeps :
      PagesFit controller byteOffset length →
      ∀ (δ : Type) (device : Device δ),
        Prog.Keeps
          (LogBelow (controller.namespaceBytes / controller.lbaBytes))
          (call (Logged δ) (recorded device)))
    (reaches :
      length ≠ 0 →
      Reaches (lastBlocks controller byteOffset length)
        (call (Logged Unit) (recorded calm))) :
    StaysBelow (controller.namespaceBytes / controller.lbaBytes) call ↔
      PagesFit controller byteOffset length := by
  constructor
  · intro below
    by_cases empty : length = 0
    · exact .inl empty
    · right
      exact
        (blocks_of_page_iff positive divides _).mp
          (below.of_reaches (reaches empty))
  · intro fits δ device drive final unused ended
    apply Prog.Ensures.final (keeps fits δ device) _ ended
    intro request among
    rw [unused] at among
    cases among

omit positive divides in
theorem not_outOfRange
    (fits : byteOffset + length ≤ controller.namespaceBytes)
    (bounded : controller.namespaceBytes < 2 ^ 64) :
    ¬ controller.outOfRange byteOffset length = true := by
  simp only [Controller.outOfRange, Bool.or_eq_true, decide_eq_true_eq]
  omega

theorem readRange_eq
    (bounded : controller.namespaceBytes < 2 ^ 64)
    (fits : byteOffset + length ≤ controller.namespaceBytes)
    (δ : Type)
    (device : Device δ)
    (buf : Nat → UInt8) :
    controller.readRange device byteOffset length buf =
      controller.readRangeLoop device byteOffset 0 length buf := by
  unfold Controller.readRange
  rw [if_neg (by simp [badLba_of_divides positive divides])]
  by_cases empty : length = 0
  · rw [if_pos empty, empty, Controller.readRangeLoop, if_pos rfl]
  · rw [if_neg empty, if_neg (not_outOfRange fits bounded)]

theorem writeRange_eq
    (bounded : controller.namespaceBytes < 2 ^ 64)
    (fits : byteOffset + length ≤ controller.namespaceBytes)
    (δ : Type)
    (device : Device δ)
    (buf : Nat → UInt8) :
    controller.writeRange device byteOffset length buf =
      controller.writeRangeLoop device byteOffset 0 length buf := by
  unfold Controller.writeRange
  rw [if_neg (by simp [badLba_of_divides positive divides])]
  by_cases empty : length = 0
  · rw [if_pos empty, empty, Controller.writeRangeLoop, if_pos rfl]
  · rw [if_neg empty, if_neg (not_outOfRange fits bounded)]

theorem zeroRange_eq
    (bounded : controller.namespaceBytes < 2 ^ 64)
    (fits : byteOffset + length ≤ controller.namespaceBytes)
    (δ : Type)
    (device : Device δ) :
    controller.zeroRange device byteOffset length =
      controller.zeroRangeLoop device byteOffset length := by
  unfold Controller.zeroRange
  by_cases empty : length = 0
  · rw [if_pos empty, empty, Controller.zeroRangeLoop, if_pos rfl]
  · rw [if_neg empty, if_neg (not_outOfRange fits bounded),
      if_neg (by simp [badLba_of_divides positive divides])]

end

/--
The commands of a call whose range ends in the namespace address only blocks of
the namespace exactly if the range has no page, or its last page ends there too.
-/
theorem commands_in_namespace_iff
    (accepted : identifyNamespace data = .ok controller)
    (divides : controller.lbaBytes ∣ pageSize)
    (fits : byteOffset + length ≤ controller.namespaceBytes)
    (buf : Nat → UInt8) :
    (StaysBelow (controller.namespaceBytes / controller.lbaBytes)
        (fun _ device => controller.readRange device byteOffset length buf) ↔
      PagesFit controller byteOffset length) ∧
    (StaysBelow (controller.namespaceBytes / controller.lbaBytes)
        (fun _ device => controller.writeRange device byteOffset length buf) ↔
      PagesFit controller byteOffset length) ∧
    (StaysBelow (controller.namespaceBytes / controller.lbaBytes)
        (fun _ device => controller.zeroRange device byteOffset length) ↔
      PagesFit controller byteOffset length) := by
  obtain ⟨positive, bounded⟩ := identifyNamespace_eq_ok accepted
  have inRange : byteOffset + length ≤ 2 ^ 64 :=
    Nat.le_trans fits (Nat.le_of_lt bounded)
  refine ⟨?_, ?_, ?_⟩
  · apply staysBelow_iff positive divides
    · intro pagesFit δ device
      rw [readRange_eq positive divides bounded fits]
      exact keeps_readRangeLoop positive divides pagesFit
    · intro more
      rw [readRange_eq positive divides bounded fits]
      exact reaches_readRangeLoop positive divides more inRange
  · apply staysBelow_iff positive divides
    · intro pagesFit δ device
      rw [writeRange_eq positive divides bounded fits]
      exact keeps_writeRangeLoop positive divides pagesFit
    · intro more
      rw [writeRange_eq positive divides bounded fits]
      exact reaches_writeRangeLoop positive divides more inRange
  · apply staysBelow_iff positive divides
    · intro pagesFit δ device
      rw [zeroRange_eq positive divides bounded fits]
      exact keeps_zeroRangeLoop positive divides pagesFit
    · intro more
      rw [zeroRange_eq positive divides bounded fits]
      exact reaches_zeroRangeLoop positive divides more inRange

theorem pagesFit_of_whole
    (whole : pageSize ∣ controller.namespaceBytes)
    (fits : byteOffset + length ≤ controller.namespaceBytes) :
    PagesFit controller byteOffset length := by
  by_cases empty : length = 0
  · exact .inl empty
  · right
    obtain ⟨pages, isWhole⟩ := whole
    rw [isWhole] at fits ⊢
    unfold pagesEnd
    rw [Nat.mul_comm pageSize pages] at fits ⊢
    apply Nat.mul_le_mul_right
    rw [Nat.succ_le_iff, Nat.div_lt_iff_lt_mul (by decide)]
    omega

end Calls

/-! ## Namespaces of 512-byte blocks -/

/-- The data page of a namespace of some blocks of 512 bytes. -/
def smallNamespace (blocks : UInt8) : Nat → UInt8 := fun index =>
  if index = 0 then blocks else if index = 130 then 9 else 0

/-- A namespace of 64 blocks has eight pages, and all its ranges are served. -/
theorem commands_in_namespace_whole :
    StaysBelow 64 (fun _ device =>
        Controller.readRange ⟨512, 32768⟩ device 32000 768 fun _ => 0) ∧
    StaysBelow 64 (fun _ device =>
        Controller.writeRange ⟨512, 32768⟩ device 32000 768 fun _ => 0) ∧
    StaysBelow 64 (fun _ device =>
        Controller.zeroRange ⟨512, 32768⟩ device 32000 768) := by
  have pagesFit : PagesFit ⟨512, 32768⟩ 32000 768 :=
    pagesFit_of_whole (by decide) (by decide)
  obtain ⟨reads, writes, zeroes⟩ :=
    @commands_in_namespace_iff (smallNamespace 64) ⟨512, 32768⟩ 32000 768
      rfl (by decide) (by decide) fun _ => 0
  exact ⟨reads.mpr pagesFit, writes.mpr pagesFit, zeroes.mpr pagesFit⟩

/--
The last block of a namespace of nine is the only one of its page: reading it
addresses the eight blocks from it on.
-/
theorem commands_beyond_namespace :
    ¬ ∀ (data : Nat → UInt8) (controller : Controller) (byteOffset length : Nat)
        (buf : Nat → UInt8),
      identifyNamespace data = .ok controller →
      controller.lbaBytes ∣ pageSize →
      byteOffset + length ≤ controller.namespaceBytes →
      StaysBelow (controller.namespaceBytes / controller.lbaBytes)
        fun _ device => controller.readRange device byteOffset length buf := by
  intro claim
  have below :=
    claim (smallNamespace 9) ⟨512, 4608⟩ 4096 512 (fun _ => 0) rfl (by decide)
      (by decide)
  obtain ⟨positive, bounded⟩ :=
    @identifyNamespace_eq_ok (smallNamespace 9) ⟨512, 4608⟩ rfl
  have reaches :
      Reaches (8, 8)
        (Controller.readRange ⟨512, 4608⟩ (recorded calm) 4096 512
          fun _ => 0) := by
    rw [readRange_eq positive (by decide) bounded (by decide)]
    exact
      reaches_readRangeLoop positive (by decide) (by decide) (by decide)
  exact absurd (below.of_reaches reaches) (by decide)

end VibuxOS.Storage.NvmeRanges
