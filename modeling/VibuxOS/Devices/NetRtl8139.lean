import Mathlib.Data.List.Basic
import VibuxOS.Lib.Buffer

namespace VibuxOS.Devices.NetRtl8139

open VibuxOS.Lib

/-!
# The receive ring of the network card

`receive` of `net_rtl8139.rs` reads a packet header at its offset, copies the packet
and moves the offset behind it.  The card writes into the buffer at any time, so
each call sees contents of its own.
-/

def rxRing : Nat := 8192
def maxFrame : Nat := 1536
def regCapr : UInt16 := 0x38
def regIsr : UInt16 := 0x3E

/-- The size of the three pages behind `rx_virt`. -/
def rxPages : Nat := 3 * 4096

/-- The fields of an `Rtl8139` that `receive` uses. -/
structure Rtl8139 where
  io : UInt16
  rxPhys : Nat
  rxOffset : Nat
  deriving Repr, DecidableEq

/-- `Rtl8139::new`, with the frames that the allocator gives for the ring -/
def Rtl8139.new (io : UInt16) (rxA rxB rxC : Nat) : Option Rtl8139 :=
  if rxB ≠ rxA + 4096 ∨ rxC ≠ rxB + 4096 then
    none
  else
    some
      { io
        rxPhys := rxA
        rxOffset := 0 }

/-- What a call sees: two registers of the card and the buffer. -/
structure Seen where
  cmd : UInt8
  isr : UInt16
  ring : Nat → UInt8

/-- An access to the buffer or a write to a register. -/
inductive Access where
  | read (offset : Nat)
  | outw (port value : UInt16)
  deriving Repr, DecidableEq

/-- What a call leaves: the driver, its accesses, the frame and the result. -/
structure Received where
  driver : Rtl8139
  accesses : List Access
  out : Nat → UInt8
  result : Option Nat

def readRxU16 (ring : Nat → UInt8) (offset : Nat) : Nat :=
  (ring offset).toNat + 256 * (ring (offset + 1)).toNat

def readsFrom (offset amount : Nat) : List Access :=
  (List.range amount).map fun index => .read (offset + index)

/-- `(length + 4 + 3) & !3` -/
def advanceOf (length : Nat) : Nat :=
  (length + 4 + 3) / 4 * 4

/-- The status word of the packet at the offset -/
def statusOf (driver : Rtl8139) (seen : Seen) : Nat :=
  readRxU16 seen.ring driver.rxOffset

/-- The length word of the packet at the offset -/
def lengthOf (driver : Rtl8139) (seen : Seen) : Nat :=
  readRxU16 seen.ring (driver.rxOffset + 2)

def receive
    (driver : Rtl8139)
    (seen : Seen)
    (out : Nat → UInt8) : Received :=
  if seen.cmd &&& 1 ≠ 0 then
    { driver, accesses := [], out, result := none }
  else
    let acknowledge :=
      if seen.isr ≠ 0 then [Access.outw (driver.io + regIsr) seen.isr] else []
    let offset := driver.rxOffset
    let status := readRxU16 seen.ring offset
    let length := readRxU16 seen.ring (offset + 2)
    let header := acknowledge ++ readsFrom offset 4
    if status % 2 = 0 ∨ length < 4 ∨ length > 2048 then
      { driver := { driver with rxOffset := 0 }
        accesses := header ++ [.outw (driver.io + regCapr) 0xFFF0]
        out
        result := none }
    else
      let dataLen := length - 4
      if dataLen > maxFrame then
        { driver, accesses := header, out, result := none }
      else
        let rxOffset := (offset + advanceOf length) % rxRing
        { driver := { driver with rxOffset }
          accesses :=
            header ++ readsFrom (offset + 4) dataLen ++
              [.outw (driver.io + regCapr) (UInt16.ofNat rxOffset - 16)]
          out := blit out 0 (fun index => seen.ring (offset + 4 + index)) dataLen
          result := some dataLen }

/-! ## Runs -/

/-- The state and the call, for each call of a run. -/
def visits :
    Rtl8139 →
    List (Seen × (Nat → UInt8)) →
    List (Rtl8139 × Seen × (Nat → UInt8))
  | _, [] => []
  | driver, (seen, out) :: calls =>
      (driver, seen, out) :: visits (receive driver seen out).driver calls

/-- The offset is the place of a header. -/
def AtHeader (driver : Rtl8139) : Prop :=
  driver.rxOffset % 4 = 0 ∧ driver.rxOffset < rxRing

/-- A call moves the offset behind the packet, or it resets the ring. -/
def Progress
    (driver : Rtl8139)
    (seen : Seen)
    (received : Received) : Prop :=
  (∃ amount,
      lengthOf driver seen + 4 ≤ amount ∧
        amount < rxRing ∧
        received.driver.rxOffset = (driver.rxOffset + amount) % rxRing) ∨
    (received.driver.rxOffset = 0 ∧
      Access.outw (driver.io + regCapr) 0xFFF0 ∈ received.accesses)

/-- What is expected of one call. -/
structure CallOk
    (driver : Rtl8139)
    (seen : Seen)
    (out : Nat → UInt8) : Prop where
  before : AtHeader driver
  after : AtHeader (receive driver seen out).driver
  inside :
    ∀ offset,
      Access.read offset ∈ (receive driver seen out).accesses →
      offset < rxPages
  copied :
    ∀ length,
      (receive driver seen out).result = some length →
      length ≤ maxFrame
  kept :
    ∀ index,
      maxFrame ≤ index →
      (receive driver seen out).out index = out index
  progress :
    seen.cmd &&& 1 = 0 →
    Progress driver seen (receive driver seen out)

/-- The header of a packet that is accepted, but too long for the frame. -/
def Blocks (driver : Rtl8139) (seen : Seen) : Prop :=
  seen.cmd &&& 1 = 0 ∧
    statusOf driver seen % 2 = 1 ∧
    maxFrame + 4 < lengthOf driver seen ∧
    lengthOf driver seen ≤ 2048

instance (driver : Rtl8139) (seen : Seen) : Decidable (Blocks driver seen) :=
  inferInstanceAs (Decidable (_ ∧ _))

/-! ## One call -/

section Calls

variable
  {driver : Rtl8139}
  {seen : Seen}
  {out : Nat → UInt8}

theorem mem_readsFrom
    {access : Access}
    {offset amount : Nat} :
    access ∈ readsFrom offset amount ↔
      ∃ index < amount, access = .read (offset + index) := by
  unfold readsFrom
  constructor
  · intro mem
    obtain ⟨index, inside, rfl⟩ := List.mem_map.mp mem
    exact ⟨index, List.mem_range.mp inside, rfl⟩
  · rintro ⟨index, inside, rfl⟩
    exact List.mem_map.mpr ⟨index, List.mem_range.mpr inside, rfl⟩

/-- The accesses before the header is judged. -/
def headerAccesses (driver : Rtl8139) (seen : Seen) : List Access :=
  (if seen.isr ≠ 0 then [Access.outw (driver.io + regIsr) seen.isr] else []) ++
    readsFrom driver.rxOffset 4

theorem mem_headerAccesses
    {access : Access} :
    access ∈ headerAccesses driver seen →
      access = .outw (driver.io + regIsr) seen.isr ∨
        ∃ index < 4, access = .read (driver.rxOffset + index) := by
  intro mem
  rcases List.mem_append.mp mem with acknowledge | header
  · split at acknowledge
    · exact Or.inl (List.mem_singleton.mp acknowledge)
    · cases acknowledge
  · exact Or.inr (mem_readsFrom.mp header)

theorem receive_of_empty
    (empty : seen.cmd &&& 1 ≠ 0) :
    receive driver seen out =
      { driver, accesses := [], out, result := none } :=
  if_pos empty

theorem receive_of_reset
    (filled : seen.cmd &&& 1 = 0)
    (bad :
      statusOf driver seen % 2 = 0 ∨
        lengthOf driver seen < 4 ∨
        lengthOf driver seen > 2048) :
    receive driver seen out =
      { driver := { driver with rxOffset := 0 }
        accesses :=
          headerAccesses driver seen ++
            [.outw (driver.io + regCapr) 0xFFF0]
        out
        result := none } :=
  (if_neg (not_not_intro filled)).trans (if_pos bad)

theorem receive_of_blocks
    (blocks : Blocks driver seen) :
    receive driver seen out =
      { driver
        accesses := headerAccesses driver seen
        out
        result := none } := by
  obtain ⟨filled, status, long, short⟩ := blocks
  have good :
      ¬ (statusOf driver seen % 2 = 0 ∨
        lengthOf driver seen < 4 ∨
        lengthOf driver seen > 2048) := by
    omega
  have exceeds : lengthOf driver seen - 4 > maxFrame := by omega
  exact
    (if_neg (not_not_intro filled)).trans ((if_neg good).trans (if_pos exceeds))

theorem receive_of_packet
    (filled : seen.cmd &&& 1 = 0)
    (good :
      ¬ (statusOf driver seen % 2 = 0 ∨
        lengthOf driver seen < 4 ∨
        lengthOf driver seen > 2048))
    (fits : lengthOf driver seen - 4 ≤ maxFrame) :
    receive driver seen out =
      { driver :=
          { driver with
            rxOffset :=
              (driver.rxOffset + advanceOf (lengthOf driver seen)) % rxRing }
        accesses :=
          headerAccesses driver seen ++
              readsFrom (driver.rxOffset + 4) (lengthOf driver seen - 4) ++
            [.outw (driver.io + regCapr)
              (UInt16.ofNat
                  ((driver.rxOffset + advanceOf (lengthOf driver seen)) %
                    rxRing) -
                16)]
        out :=
          blit out 0 (fun index => seen.ring (driver.rxOffset + 4 + index))
            (lengthOf driver seen - 4)
        result := some (lengthOf driver seen - 4) } :=
  (if_neg (not_not_intro filled)).trans
    ((if_neg good).trans (if_neg (Nat.not_lt_of_le fits)))

theorem capr_ne_isr
    (io : UInt16) :
    io + regCapr ≠ io + regIsr := by
  intro same
  exact absurd ((UInt16.add_right_inj io).mp same) (by decide)

/-- A call that does not meet such a packet does what is expected. -/
theorem callOk_of_not_blocks
    (atHeader : AtHeader driver)
    (passes : ¬ Blocks driver seen) :
    CallOk driver seen out := by
  obtain ⟨aligned, below⟩ := atHeader
  have ring : rxRing = 8192 := rfl
  have pages : rxPages = 12288 := rfl
  have frame : maxFrame = 1536 := rfl
  have headerInside :
      ∀ offset,
        Access.read offset ∈ headerAccesses driver seen →
        offset < rxPages := by
    intro offset mem
    rcases mem_headerAccesses mem with other | ⟨index, inside, same⟩
    · cases other
    · cases same
      omega
  by_cases filled : seen.cmd &&& 1 = 0
  · by_cases bad :
        statusOf driver seen % 2 = 0 ∨
          lengthOf driver seen < 4 ∨
          lengthOf driver seen > 2048
    · have does := @receive_of_reset driver seen out filled bad
      constructor
      · exact ⟨aligned, below⟩
      · rw [does]
        exact ⟨rfl, (by decide : 0 < rxRing)⟩
      · rw [does]
        intro offset mem
        rcases List.mem_append.mp mem with header | last
        · exact headerInside offset header
        · cases List.mem_singleton.mp last
      · rw [does]
        intro length isLength
        cases isLength
      · rw [does]
        exact fun _ _ => rfl
      · rw [does]
        intro _
        exact Or.inr ⟨rfl, List.mem_append_right _ List.mem_cons_self⟩
    · have fits : lengthOf driver seen - 4 ≤ maxFrame := by
        by_contra long
        exact passes ⟨filled, by omega, by omega, by omega⟩
      have does := @receive_of_packet driver seen out filled bad fits
      have rounded :
          lengthOf driver seen + 4 ≤ advanceOf (lengthOf driver seen) ∧
            advanceOf (lengthOf driver seen) < rxRing ∧
            advanceOf (lengthOf driver seen) % 4 = 0 := by
        unfold advanceOf
        omega
      constructor
      · exact ⟨aligned, below⟩
      · rw [does]
        constructor
        · dsimp only
          rw [ring]
          omega
        · exact Nat.mod_lt _ (by decide)
      · rw [does]
        intro offset mem
        rcases List.mem_append.mp mem with reads | last
        · rcases List.mem_append.mp reads with header | data
          · exact headerInside offset header
          · obtain ⟨index, inside, same⟩ := mem_readsFrom.mp data
            cases same
            omega
        · cases List.mem_singleton.mp last
      · rw [does]
        intro length isLength
        cases isLength
        exact fits
      · rw [does]
        intro index behind
        dsimp only
        apply blit_outside
        omega
      · rw [does]
        intro _
        exact Or.inl ⟨_, rounded.1, rounded.2.1, rfl⟩
  · have does := @receive_of_empty driver seen out filled
    constructor
    · exact ⟨aligned, below⟩
    · rw [does]
      exact ⟨aligned, below⟩
    · rw [does]
      intro offset mem
      cases mem
    · rw [does]
      intro length isLength
      cases isLength
    · rw [does]
      exact fun _ _ => rfl
    · exact fun isFilled => absurd isFilled filled

theorem not_callOk_of_blocks
    (blocks : Blocks driver seen) :
    ¬ CallOk driver seen out := by
  intro ok
  have below := ok.before.2
  have ring : rxRing = 8192 := rfl
  have progress := ok.progress blocks.1
  rw [receive_of_blocks blocks] at progress
  rcases progress with ⟨amount, some, short, moved⟩ | ⟨_, written⟩
  · dsimp only at moved
    rw [ring] at moved
    omega
  · rcases mem_headerAccesses written with acknowledge | ⟨_, _, read⟩
    · injection acknowledge with port _
      exact capr_ne_isr _ port
    · cases read

end Calls

/-- A buffer that begins with a header: its status and its length. -/
def headerRing (status length : UInt16) : Nat → UInt8 :=
  fun index =>
    [status.toUInt8, (status >>> 8).toUInt8, length.toUInt8,
      (length >>> 8).toUInt8].getD index 0

/-- A call that finds a packet of some length at the start of the ring. -/
def sampleCall (length : UInt16) : Seen × (Nat → UInt8) :=
  ({ cmd := 0
     isr := 1
     ring := headerRing 1 length }, fun _ => 0)

end VibuxOS.Devices.NetRtl8139
