import Mathlib.Logic.Relation
import VibuxOS.Lib.WordMemory

namespace VibuxOS.Devices.Usb

open VibuxOS.Lib

/-!
# USB control transfers

`control_transfer` of `usb.rs` writes up to three transfer descriptors into one page
and hands the first one to the controller, which follows their links.
-/

def page : Nat := 4096
def qhOff : Nat := 0x000
def qtdSetupOff : Nat := 0x040
def qtdDataOff : Nat := 0x080
def qtdStatusOff : Nat := 0x0C0
def setupBufOff : Nat := 0x200
def dataBufOff : Nat := 0x300

def qtdActive : UInt32 := (1 : UInt32) <<< 7

/-- `QTD_HALTED | QTD_BUFERR | QTD_BABBLE | QTD_XACTERR | QTD_MISSED` -/
def qtdErrors : UInt32 :=
  ((1 : UInt32) <<< 6) ||| ((1 : UInt32) <<< 5) ||| ((1 : UInt32) <<< 4) |||
    ((1 : UInt32) <<< 3) ||| ((1 : UInt32) <<< 2)

def qtdIoc : UInt32 := (1 : UInt32) <<< 15
def qtdToggle : UInt32 := (1 : UInt32) <<< 31
def qtdPidOut : UInt32 := 0
def qtdPidIn : UInt32 := (1 : UInt32) <<< 8
def qtdPidSetup : UInt32 := (2 : UInt32) <<< 8
def linkTerminate : UInt32 := 1
def linkQh : UInt32 := 2

/-- The page of a `UsbBus`; `UsbBus::new` refuses a frame above 4 GiB. -/
structure UsbBus where
  pagePhys : Nat
  aligned : pagePhys % page = 0
  low : pagePhys < 2 ^ 32

/-- The contents of the page. -/
abbrev Page := Nat → UInt8

/-- The arguments of `control_transfer`. -/
structure Request where
  address : UInt8
  requestType : UInt8
  request : UInt8
  value : UInt16
  index : UInt16
  data : Option (List UInt8)
  inDir : Bool

namespace Request

/-- `data.as_ref().map_or(0, |d| d.len())` -/
def length (request : Request) : Nat :=
  (request.data.getD []).length

def hasData (request : Request) : Bool :=
  request.length != 0

end Request

def writeU16 (contents : Page) (off : Nat) (value : UInt16) : Page :=
  blit contents off (leByte value.toUInt64) 2

def setupQhEndpoint
    (bus : UsbBus)
    (address endpoint : UInt8)
    (maxPacket : UInt16)
    (contents : Page) : Page :=
  let head := UInt32.ofNat bus.pagePhys ||| linkQh
  let characteristics :=
    address.toUInt32 ||| ((endpoint.toUInt32 &&& 7) <<< 8) ||| ((2 : UInt32) <<< 12) |||
      ((1 : UInt32) <<< 14) ||| ((maxPacket.toUInt32 &&& 0x7FF) <<< 16)
  let contents := putWord contents qhOff head
  let contents := putWord contents (qhOff + 4) characteristics
  let contents := putWord contents (qhOff + 8) 0
  putWord contents (qhOff + 12) 0

/-- The setup packet, and the data of a transfer to the device -/
def writePacket (request : Request) (contents : Page) : Page :=
  let contents :=
    blit contents setupBufOff
      (fun index => if index = 0 then request.requestType else request.request)
      2
  let contents := writeU16 contents (setupBufOff + 2) request.value
  let contents := writeU16 contents (setupBufOff + 4) request.index
  let contents :=
    writeU16 contents (setupBufOff + 6) (UInt16.ofNat request.length)
  if request.inDir then
    contents
  else
    blit contents dataBufOff (fun index => (request.data.getD []).getD index 0)
      request.length

def clearQtd (contents : Page) (off : Nat) : Page :=
  blit contents off (fun _ => 0) 64

/-- The token that `set_qtd` writes -/
def tokenOf (pid : UInt32) (len : Nat) (flags : UInt32) : UInt32 :=
  pid ||| ((UInt32.ofNat len &&& 0x7FFF) <<< 16) ||| qtdActive ||| flags

def setQtd
    (off next : Nat)
    (pid : UInt32)
    (len : Nat)
    (flags : UInt32)
    (buffer : Nat)
    (contents : Page) : Page :=
  let contents := putWord contents off (UInt32.ofNat next)
  let contents := putWord contents (off + 4) linkTerminate
  let contents := putWord contents (off + 8) (tokenOf pid len flags)
  if buffer ≠ 0 then
    putWord contents (off + 16) (UInt32.ofNat buffer)
  else
    contents

def qtdPhys (bus : UsbBus) (off : Nat) : Nat :=
  bus.pagePhys + off

def statusPid (request : Request) : UInt32 :=
  if request.hasData then
    if request.inDir then qtdPidOut else qtdPidIn
  else
    qtdPidIn

/-- The three descriptors -/
def setQtds (bus : UsbBus) (request : Request) (contents : Page) : Page :=
  let contents := clearQtd contents qtdSetupOff
  let contents := clearQtd contents qtdDataOff
  let contents := clearQtd contents qtdStatusOff
  let contents :=
    setQtd qtdSetupOff (qtdPhys bus qtdDataOff) qtdPidSetup 8 0
      (bus.pagePhys + setupBufOff) contents
  let contents :=
    if request.hasData then
      setQtd qtdDataOff (qtdPhys bus qtdStatusOff)
        (if request.inDir then qtdPidIn else qtdPidOut) request.length
        qtdToggle (bus.pagePhys + dataBufOff) contents
    else
      contents
  setQtd qtdStatusOff linkTerminate.toNat (statusPid request) 0
    (qtdToggle ||| qtdIoc) 0 contents

/-- The words that hand the first descriptor to the controller -/
def startQueue (bus : UsbBus) (contents : Page) : Page :=
  let contents :=
    putWord contents (qhOff + 16) (UInt32.ofNat (qtdPhys bus qtdSetupOff))
  let contents := putWord contents (qhOff + 20) linkTerminate
  putWord contents (qhOff + 24) 0

/-- `control_transfer` up to `wait_qtd`; it refuses data that is too long. -/
def queueTransfer
    (bus : UsbBus)
    (request : Request)
    (contents : Page) : Option Page :=
  if page - dataBufOff < request.length then
    none
  else
    some
      (startQueue bus
        (setQtds bus request
          (writePacket request
            (setupQhEndpoint bus request.address 0 64 contents))))

/-- The turns of `wait_qtd` that are left, over the pages that it sees -/
def waitTurns (seen : Nat → Page) (off : Nat) : Nat → Except Unit Unit
  | 0 => .error ()
  | left + 1 =>
      let token := wordAt (seen left) (off + 8)
      if token &&& qtdActive = 0 then
        if token &&& qtdErrors ≠ 0 then
          .error ()
        else
          .ok ()
      else
        waitTurns seen off left

def waitQtd (seen : Nat → Page) (off : Nat) : Except Unit Unit :=
  waitTurns seen off 2000000

/-! ## What the controller sees -/

/-- What a descriptor is to say. -/
structure Stage where
  off : Nat
  pid : UInt32
  length : Nat
  toggle : Bool
  buffer : Nat

def stages (bus : UsbBus) (request : Request) : List Stage :=
  [{ off := qtdSetupOff
     pid := qtdPidSetup
     length := 8
     toggle := false
     buffer := bus.pagePhys + setupBufOff }] ++
    (if request.length ≠ 0 then
      [{ off := qtdDataOff
         pid := if request.inDir then qtdPidIn else qtdPidOut
         length := request.length
         toggle := true
         buffer := bus.pagePhys + dataBufOff }]
    else
      []) ++
    [{ off := qtdStatusOff
       pid :=
        if request.length ≠ 0 ∧ request.inDir then qtdPidOut else qtdPidIn
       length := 0
       toggle := true
       buffer := 0 }]

/-- A descriptor that is active and says what a stage is. -/
structure Stage.Queued (stage : Stage) (contents : Page) : Prop where
  active : wordAt contents (stage.off + 8) &&& qtdActive = qtdActive
  pid : wordAt contents (stage.off + 8) &&& ((3 : UInt32) <<< 8) = stage.pid
  length :
    (wordAt contents (stage.off + 8) >>> 16) &&& 0x7FFF =
      UInt32.ofNat stage.length
  toggle :
    wordAt contents (stage.off + 8) &&& qtdToggle =
      if stage.toggle then qtdToggle else 0
  buffer : (wordAt contents (stage.off + 16)).toNat = stage.buffer

/-- The descriptors that are visited from a link on, up to a terminating one. -/
inductive Walk (bus : UsbBus) (contents : Page) : UInt32 → List Nat → Prop where
  | ends
      {link : UInt32}
      (terminates : link &&& linkTerminate ≠ 0) :
      Walk bus contents link []
  | visits
      {link : UInt32}
      {off : Nat}
      {rest : List Nat}
      (goesOn : link &&& linkTerminate = 0)
      (inPage : link.toNat = bus.pagePhys + off)
      (walk : Walk bus contents (wordAt contents off) rest) :
      Walk bus contents link (off :: rest)

/-- The controller serves an active descriptor and goes on to the next one. -/
inductive Serves (bus : UsbBus) : Page × UInt32 → Page × UInt32 → Prop where
  | serve
      {contents : Page}
      {link token : UInt32}
      {off : Nat}
      (goesOn : link &&& linkTerminate = 0)
      (inPage : link.toNat = bus.pagePhys + off)
      (isActive : wordAt contents (off + 8) &&& qtdActive ≠ 0)
      (served : token &&& (qtdActive ||| qtdErrors) = 0) :
      Serves bus (contents, link)
        (putWord contents (off + 8) token, wordAt contents off)

/-- The descriptors of a request are a list that the controller can walk. -/
structure WalkableChain
    (bus : UsbBus)
    (request : Request)
    (contents : Page) : Prop where
  walk :
    Walk bus contents (wordAt contents (qhOff + 16))
      ((stages bus request).map Stage.off)
  queued : ∀ stage ∈ stages bus request, stage.Queued contents
  completes :
    ∃ after link,
      Relation.ReflTransGen (Serves bus)
          (contents, wordAt contents (qhOff + 16)) (after, link) ∧
        waitQtd (fun _ => after) qtdStatusOff = .ok ()

/-! ## Tokens -/

theorem or_and_mask
    (left right mask : UInt32) :
    (left ||| right) &&& mask = (left &&& mask) ||| (right &&& mask) := by
  apply UInt32.toBitVec_inj.mp
  apply BitVec.eq_of_getLsbD_eq
  intro position _
  simp only [UInt32.toBitVec_and, UInt32.toBitVec_or, BitVec.getLsbD_and,
    BitVec.getLsbD_or, Bool.and_or_distrib_right]

theorem tokenOf_and
    {mask : UInt32}
    (apart : ((0x7FFF : UInt32) <<< 16) &&& mask = 0)
    (pid : UInt32)
    (len : Nat)
    (flags : UInt32) :
    tokenOf pid len flags &&& mask = (pid ||| qtdActive ||| flags) &&& mask := by
  have count : ((UInt32.ofNat len &&& 0x7FFF) <<< 16) &&& mask = 0 := by
    rw [UInt32.shiftLeft_and, UInt32.and_assoc, apart, UInt32.and_zero]
  unfold tokenOf
  simp only [or_and_mask, count, UInt32.or_zero]

theorem ofNat_shift_back
    {len : Nat}
    (small : len < 0x8000) :
    (UInt32.ofNat len <<< 16) >>> 16 = UInt32.ofNat len := by
  have isWord : (UInt32.ofNat len).toNat = len :=
    UInt32.toNat_ofNat_of_lt' (Nat.lt_trans small (by decide))
  have amount : (16 : UInt32).toNat % 32 = 16 := by decide
  apply UInt32.toNat_inj.mp
  rw [UInt32.toNat_shiftRight, UInt32.toNat_shiftLeft, isWord, amount,
    Nat.shiftLeft_eq, Nat.shiftRight_eq_div_pow, Nat.mod_eq_of_lt (by omega)]
  exact Nat.mul_div_cancel len (by decide)

theorem tokenOf_count
    {pid flags : UInt32}
    {len : Nat}
    (small : len < 0x8000)
    (clear : ((pid ||| qtdActive ||| flags) >>> 16) &&& 0x7FFF = 0) :
    (tokenOf pid len flags >>> 16) &&& 0x7FFF = UInt32.ofNat len := by
  have isWord : (UInt32.ofNat len).toNat = len :=
    UInt32.toNat_ofNat_of_lt' (Nat.lt_trans small (by decide))
  have isLen : UInt32.ofNat len &&& 0x7FFF = UInt32.ofNat len := by
    apply UInt32.toNat_inj.mp
    rw [UInt32.toNat_and, isWord]
    exact @Nat.and_two_pow_sub_one_of_lt_two_pow 15 len small
  have parts :
      tokenOf pid len flags =
        (pid ||| qtdActive ||| flags) ||| (UInt32.ofNat len <<< 16) := by
    unfold tokenOf
    rw [isLen, UInt32.or_assoc, UInt32.or_assoc, UInt32.or_assoc,
      UInt32.or_assoc, UInt32.or_comm (UInt32.ofNat len <<< 16),
      UInt32.or_assoc]
  rw [parts, UInt32.shiftRight_or, or_and_mask, clear, ofNat_shift_back small,
    isLen, UInt32.zero_or]

/-! ## The words of the descriptors -/

section Words

variable
  {off next len buffer other : Nat}
  {pid flags : UInt32}
  {contents : Page}

theorem setQtd_link :
    wordAt (setQtd off next pid len flags buffer contents) off =
      UInt32.ofNat next := by
  unfold setQtd
  dsimp only
  split
  · rw [wordAt_putWord_apart (by omega), wordAt_putWord_apart (by omega),
      wordAt_putWord_apart (by omega), wordAt_putWord]
  · rw [wordAt_putWord_apart (by omega), wordAt_putWord_apart (by omega),
      wordAt_putWord]

theorem setQtd_token :
    wordAt (setQtd off next pid len flags buffer contents) (off + 8) =
      tokenOf pid len flags := by
  unfold setQtd
  dsimp only
  split
  · rw [wordAt_putWord_apart (by omega), wordAt_putWord]
  · rw [wordAt_putWord]

theorem setQtd_buffer :
    wordAt (setQtd off next pid len flags buffer contents) (off + 16) =
      if buffer ≠ 0 then
        UInt32.ofNat buffer
      else
        wordAt contents (off + 16) := by
  unfold setQtd
  dsimp only
  split
  · rw [wordAt_putWord]
  · rw [wordAt_putWord_apart (by omega), wordAt_putWord_apart (by omega),
      wordAt_putWord_apart (by omega)]

theorem setQtd_apart
    (apart : other + 4 ≤ off ∨ off + 20 ≤ other) :
    wordAt (setQtd off next pid len flags buffer contents) other =
      wordAt contents other := by
  unfold setQtd
  dsimp only
  split
  · rw [wordAt_putWord_apart (by omega), wordAt_putWord_apart (by omega),
      wordAt_putWord_apart (by omega), wordAt_putWord_apart (by omega)]
  · rw [wordAt_putWord_apart (by omega), wordAt_putWord_apart (by omega),
      wordAt_putWord_apart (by omega)]

theorem startQueue_apart
    (bus : UsbBus)
    (behind : 28 ≤ other) :
    wordAt (startQueue bus contents) other = wordAt contents other := by
  unfold startQueue qhOff
  dsimp only
  rw [wordAt_putWord_apart (by omega), wordAt_putWord_apart (by omega),
    wordAt_putWord_apart (by omega)]

theorem startQueue_head
    (bus : UsbBus) :
    wordAt (startQueue bus contents) (qhOff + 16) =
      UInt32.ofNat (qtdPhys bus qtdSetupOff) := by
  unfold startQueue qhOff
  dsimp only
  rw [wordAt_putWord_apart (by omega), wordAt_putWord_apart (by omega),
    wordAt_putWord]

end Words

/-- What a descriptor holds: its link, its token and its buffer. -/
structure Holds
    (contents : Page)
    (off : Nat)
    (link token buffer : UInt32) : Prop where
  link : wordAt contents off = link
  token : wordAt contents (off + 8) = token
  buffer : wordAt contents (off + 16) = buffer

section Descriptors

variable
  (bus : UsbBus)
  (request : Request)
  (contents : Page)

theorem holds_setup :
    Holds (startQueue bus (setQtds bus request contents)) qtdSetupOff
      (UInt32.ofNat (qtdPhys bus qtdDataOff))
      (tokenOf qtdPidSetup 8 0)
      (UInt32.ofNat (bus.pagePhys + setupBufOff)) := by
  have hasBuffer : bus.pagePhys + setupBufOff ≠ 0 := by
    unfold setupBufOff
    omega
  constructor <;> rw [startQueue_apart _ (by decide)] <;> unfold setQtds <;>
    dsimp only <;> rw [setQtd_apart (by decide)] <;> split
  · rw [setQtd_apart (by decide), setQtd_link]
  · rw [setQtd_link]
  · rw [setQtd_apart (by decide), setQtd_token]
  · rw [setQtd_token]
  · rw [setQtd_apart (by decide), setQtd_buffer, if_pos hasBuffer]
  · rw [setQtd_buffer, if_pos hasBuffer]

theorem holds_data
    (hasData : request.hasData = true) :
    Holds (startQueue bus (setQtds bus request contents)) qtdDataOff
      (UInt32.ofNat (qtdPhys bus qtdStatusOff))
      (tokenOf (if request.inDir then qtdPidIn else qtdPidOut)
        request.length qtdToggle)
      (UInt32.ofNat (bus.pagePhys + dataBufOff)) := by
  have hasBuffer : bus.pagePhys + dataBufOff ≠ 0 := by
    unfold dataBufOff
    omega
  constructor <;> rw [startQueue_apart _ (by decide)] <;> unfold setQtds <;>
    dsimp only <;> rw [setQtd_apart (by decide), if_pos hasData]
  · rw [setQtd_link]
  · rw [setQtd_token]
  · rw [setQtd_buffer, if_pos hasBuffer]

theorem holds_status :
    Holds (startQueue bus (setQtds bus request contents)) qtdStatusOff
      linkTerminate
      (tokenOf (statusPid request) 0 (qtdToggle ||| qtdIoc))
      0 := by
  constructor <;> rw [startQueue_apart _ (by decide)] <;> unfold setQtds <;>
    dsimp only
  · rw [setQtd_link]
    rfl
  · rw [setQtd_token]
  · rw [setQtd_buffer, if_neg (by decide)]
    split
    · rw [setQtd_apart (by decide), setQtd_apart (by decide)]
      exact wordAt_cleared (by decide) (by decide)
    · rw [setQtd_apart (by decide)]
      exact wordAt_cleared (by decide) (by decide)

end Descriptors

/-! ## The list of descriptors -/

theorem toNat_qtdPhys
    (bus : UsbBus)
    {off : Nat}
    (inPage : off < page) :
    (UInt32.ofNat (bus.pagePhys + off)).toNat = bus.pagePhys + off := by
  have aligned := bus.aligned
  have low := bus.low
  have size : UInt32.size = 2 ^ 32 := rfl
  unfold page at aligned inPage
  exact UInt32.toNat_ofNat_of_lt' (by omega)

theorem qtdPhys_goesOn
    (bus : UsbBus)
    {off : Nat}
    (inPage : off < page)
    (even : off % 2 = 0) :
    UInt32.ofNat (bus.pagePhys + off) &&& linkTerminate = 0 := by
  have aligned := bus.aligned
  unfold page at aligned
  apply UInt32.toNat_inj.mp
  rw [UInt32.toNat_and, toNat_qtdPhys bus inPage]
  change (bus.pagePhys + off) &&& 1 = 0
  rw [Nat.and_one_is_mod]
  omega

/-- The parts of a token without a byte count are apart from each other. -/
def Plain (pid flags : UInt32) (toggle : Bool) : Prop :=
  (pid ||| qtdActive ||| flags) &&& qtdActive = qtdActive ∧
    (pid ||| qtdActive ||| flags) &&& ((3 : UInt32) <<< 8) = pid ∧
    ((pid ||| qtdActive ||| flags) >>> 16) &&& 0x7FFF = 0 ∧
    (pid ||| qtdActive ||| flags) &&& qtdToggle =
      if toggle then qtdToggle else 0

instance (pid flags : UInt32) (toggle : Bool) :
    Decidable (Plain pid flags toggle) :=
  inferInstanceAs (Decidable (_ ∧ _))

theorem plain_data
    (inDir : Bool) :
    Plain (if inDir then qtdPidIn else qtdPidOut) qtdToggle true := by
  cases inDir <;> decide

theorem plain_status
    (opposite : Prop)
    [Decidable opposite] :
    Plain (if opposite then qtdPidOut else qtdPidIn) (qtdToggle ||| qtdIoc)
      true := by
  split <;> decide

theorem Stage.queued_of_holds
    {stage : Stage}
    {contents : Page}
    {link flags : UInt32}
    (holds :
      Holds contents stage.off link (tokenOf stage.pid stage.length flags)
        (UInt32.ofNat stage.buffer))
    (small : stage.length < 0x8000)
    (plain : Plain stage.pid flags stage.toggle)
    (low : (UInt32.ofNat stage.buffer).toNat = stage.buffer) :
    stage.Queued contents := by
  obtain ⟨isActive, isPid, noCount, isToggle⟩ := plain
  constructor
  · rw [holds.token, tokenOf_and (by decide)]
    exact isActive
  · rw [holds.token, tokenOf_and (by decide)]
    exact isPid
  · rw [holds.token]
    exact tokenOf_count small noCount
  · rw [holds.token, tokenOf_and (by decide)]
    exact isToggle
  · rw [holds.buffer]
    exact low

theorem not_walkable_of_no_data
    {bus : UsbBus}
    {request : Request}
    {contents queued : Page}
    (accepted : queueTransfer bus request contents = some queued)
    (noData : request.length = 0) :
    ¬ WalkableChain bus request queued := by
  intro walkable
  unfold queueTransfer at accepted
  split at accepted
  · cases accepted
  · cases accepted
    have walk := walkable.walk
    rw [stages, if_neg (not_not_intro noData), startQueue_head] at walk
    cases walk with
    | visits goesOn inPage later =>
        rw [(holds_setup bus request _).link] at later
        cases later with
        | visits goesOn inPage last =>
            rw [qtdPhys, toNat_qtdPhys bus (by decide)] at inPage
            have same : qtdDataOff = qtdStatusOff := Nat.add_left_cancel inPage
            exact absurd same (by decide)

section Data

variable
  {bus : UsbBus}
  {request : Request}
  {contents : Page}

theorem walk_of_data
    (hasData : request.hasData = true) :
    Walk bus (startQueue bus (setQtds bus request contents))
      (UInt32.ofNat (qtdPhys bus qtdSetupOff))
      [qtdSetupOff, qtdDataOff, qtdStatusOff] := by
  apply Walk.visits
  · exact qtdPhys_goesOn bus (by decide) (by decide)
  · exact toNat_qtdPhys bus (by decide)
  rw [(holds_setup bus request contents).link]
  apply Walk.visits
  · exact qtdPhys_goesOn bus (by decide) (by decide)
  · exact toNat_qtdPhys bus (by decide)
  rw [(holds_data bus request contents hasData).link]
  apply Walk.visits
  · exact qtdPhys_goesOn bus (by decide) (by decide)
  · exact toNat_qtdPhys bus (by decide)
  rw [(holds_status bus request contents).link]
  exact .ends (by decide)

theorem queued_of_data
    (hasData : request.hasData = true)
    (small : request.length < 0x8000)
    {stage : Stage}
    (mem : stage ∈ stages bus request) :
    stage.Queued (startQueue bus (setQtds bus request contents)) := by
  have some : request.length ≠ 0 := by
    simpa [Request.hasData] using hasData
  rw [stages, if_pos some] at mem
  simp only [List.cons_append, List.nil_append, List.mem_cons,
    List.not_mem_nil, or_false] at mem
  rcases mem with rfl | rfl | rfl
  · apply Stage.queued_of_holds (holds_setup bus request contents)
    · exact (by decide : 8 < 0x8000)
    · exact (by decide : Plain qtdPidSetup 0 false)
    · exact toNat_qtdPhys bus (by decide)
  · apply Stage.queued_of_holds (holds_data bus request contents hasData)
    · exact small
    · exact plain_data request.inDir
    · exact toNat_qtdPhys bus (by decide)
  · have isPid :
        statusPid request =
          if request.length ≠ 0 ∧ request.inDir then
            qtdPidOut
          else
            qtdPidIn := by
      rw [statusPid, if_pos hasData]
      simp only [some, ne_eq, not_false_eq_true, true_and]
    have holds := holds_status bus request contents
    rw [isPid] at holds
    apply Stage.queued_of_holds holds
    · exact (by decide : 0 < 0x8000)
    · exact plain_status _
    · rfl

/-- The page after the controller has served the three descriptors. -/
def servedPage (contents : Page) : Page :=
  putWord
    (putWord (putWord contents (qtdSetupOff + 8) 0) (qtdDataOff + 8) 0)
    (qtdStatusOff + 8) 0

theorem serves_of_data
    (hasData : request.hasData = true) :
    ∃ link,
      Relation.ReflTransGen (Serves bus)
        (startQueue bus (setQtds bus request contents),
          UInt32.ofNat (qtdPhys bus qtdSetupOff))
        (servedPage (startQueue bus (setQtds bus request contents)), link) := by
  have setup := holds_setup bus request contents
  have data := holds_data bus request contents hasData
  have status := holds_status bus request contents
  have active :
      ∀ {pid flags : UInt32} {toggle : Bool} (len : Nat),
        Plain pid flags toggle →
        tokenOf pid len flags &&& qtdActive ≠ 0 := by
    intro pid flags toggle len plain
    rw [tokenOf_and (by decide), plain.1]
    decide
  have first :=
    @Serves.serve bus _ _ 0 _ (qtdPhys_goesOn bus (by decide) (by decide))
      (toNat_qtdPhys bus (show qtdSetupOff < page by decide))
      (by
        rw [setup.token]
        exact active 8 (show Plain qtdPidSetup 0 false by decide))
      (by decide)
  have second :=
    @Serves.serve bus
      (putWord (startQueue bus (setQtds bus request contents))
        (qtdSetupOff + 8) 0)
      _ 0 _ (qtdPhys_goesOn bus (by decide) (by decide))
      (toNat_qtdPhys bus (show qtdDataOff < page by decide))
      (by
        rw [wordAt_putWord_apart (by decide), data.token]
        exact active _ (plain_data request.inDir))
      (by decide)
  have third :=
    @Serves.serve bus
      (putWord
        (putWord (startQueue bus (setQtds bus request contents))
          (qtdSetupOff + 8) 0)
        (qtdDataOff + 8) 0)
      _ 0 _ (qtdPhys_goesOn bus (by decide) (by decide))
      (toNat_qtdPhys bus (show qtdStatusOff < page by decide))
      (by
        rw [wordAt_putWord_apart (by decide), wordAt_putWord_apart (by decide),
          status.token, statusPid, if_pos hasData]
        exact active 0 (plain_status (request.inDir = true)))
      (by decide)
  rw [setup.link] at first
  rw [wordAt_putWord_apart (by decide), data.link] at second
  exact ⟨_, .tail (.tail (.single first) second) third⟩

theorem waitQtd_servedPage
    (contents : Page) :
    waitQtd (fun _ => servedPage contents) qtdStatusOff = .ok () := by
  change waitTurns _ _ (1999999 + 1) = _
  rw [waitTurns]
  unfold servedPage
  rw [wordAt_putWord, if_pos (by decide), if_neg (by decide)]

end Data

/-- A page of zeros at an address below 4 GiB. -/
def sampleBus : UsbBus where
  pagePhys := 0x1000
  aligned := by decide
  low := by decide

/-- A request for the eighteen bytes of the device descriptor. -/
def sampleRequest : Request where
  address := 0
  requestType := 0x80
  request := 6
  value := 0x0100
  index := 0
  data := some (List.replicate 18 0)
  inDir := true

/-- A request without data, which gives the device its address. -/
def sampleNoData : Request where
  address := 0
  requestType := 0
  request := 5
  value := 1
  index := 0
  data := none
  inDir := false

end VibuxOS.Devices.Usb
