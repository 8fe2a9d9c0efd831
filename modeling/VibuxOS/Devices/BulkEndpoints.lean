import Mathlib.Data.List.Basic
import Mathlib.Data.Vector.Basic
import VibuxOS.Lib.Given

namespace VibuxOS.Devices.Usb

open VibuxOS.Lib

/-!
# The bulk endpoints of a configuration

`parse_bulk_endpoints` of `usb.rs` follows the length bytes of the descriptors that a
device has sent, and a read outside the string is a fault.  The indices of a slice do
not overflow.
-/

/-- The variables of the loop, but for its index. -/
structure Found where
  bulkIn : UInt8
  bulkOut : Vector UInt8 2
  count : Nat
  packet : UInt16
  deriving Repr, DecidableEq

/-- The variables before the loop -/
def Found.none : Found :=
  ⟨0, #v[0, 0], 0, 0⟩

/-- `u16::from_le_bytes([low, high]) & 0x07FF` -/
def maxPacketSize (low high : UInt8) : UInt16 :=
  (low.toUInt16 + 256 * high.toUInt16) &&& 0x07FF

/-- What an endpoint changes -/
def Found.add (found : Found) (ep : UInt8) (mps : UInt16) : Found :=
  let found := { found with packet := max found.packet mps }
  if ep &&& 0x80 ≠ 0 then
    { found with bulkIn := ep }
  else if room : found.count < 2 then
    { found with
      bulkOut := found.bulkOut.set found.count ep
      count := found.count + 1 }
  else
    found

/-- The body of the loop for a descriptor that ends inside the string -/
def lookAt
    (config : List UInt8)
    (i len : Nat)
    (found : Found) :
    Option Found := do
  let kind ← config[i + 1]?
  if kind = 5 ∧ len ≥ 7 then do
    let attributes ← config[i + 3]?
    if attributes &&& 3 = 2 then do
      let ep ← config[i + 2]?
      let low ← config[i + 4]?
      let high ← config[i + 5]?
      some (found.add ep (maxPacketSize low high))
    else
      some found
  else
    some found

/-- The loop from an index on -/
def parseFrom
    (config : List UInt8)
    (i : Nat)
    (found : Found) :
    Option Found :=
  if i + 2 ≤ config.length then
    match config[i]? with
    | none => none
    | some byte =>
        if _stops : byte.toNat < 2 ∨ i + byte.toNat > config.length then
          some found
        else
          match lookAt config i byte.toNat found with
          | none => none
          | some next => parseFrom config (i + byte.toNat) next
  else
    some found
termination_by config.length - i
decreasing_by omega

def parseBulkEndpoints
    (config : List UInt8) :
    Option (UInt8 × Vector UInt8 2 × UInt16) := do
  let found ← parseFrom config 0 Found.none
  some (found.bulkIn, found.bulkOut, found.packet)

/-! ## Descriptors -/

/-- The descriptors of a string, up to a length that is too small or too large -/
def descriptors : List UInt8 → List (List UInt8)
  | [] => []
  | [_] => []
  | first :: second :: rest =>
      let config := first :: second :: rest
      if first.toNat < 2 ∨ first.toNat > config.length then
        []
      else
        config.take first.toNat :: descriptors (config.drop first.toNat)
termination_by config => config.length
decreasing_by
  rw [List.length_drop]
  simp only [List.length_cons]
  omega

/-- A well-formed endpoint descriptor of the bulk transfer type. -/
def IsBulkEndpoint (descriptor : List UInt8) : Prop :=
  descriptor.getD 1 0 = 5 ∧
    7 ≤ descriptor.length ∧
    descriptor.getD 3 0 &&& 3 = 2

instance : DecidablePred IsBulkEndpoint := fun _ =>
  inferInstanceAs (Decidable (_ ∧ _ ∧ _))

/-- The addresses in a list that have the direction bit as given -/
def addresses (isIn : Bool) (endpoints : List (List UInt8)) : List UInt8 :=
  (endpoints.map fun descriptor => descriptor.getD 2 0).filter fun ep =>
    decide (ep &&& 0x80 ≠ 0) == isIn

/-- The packet size that an endpoint descriptor announces -/
def packetSize (descriptor : List UInt8) : UInt16 :=
  maxPacketSize (descriptor.getD 4 0) (descriptor.getD 5 0)

/-- What is to be found among some endpoints. -/
structure Among (endpoints : List (List UInt8)) (found : Found) : Prop where
  bulkIn : found.bulkIn = (addresses true endpoints).getLastD 0
  bulkOut :
    found.bulkOut =
      #v[(addresses false endpoints).getD 0 0,
        (addresses false endpoints).getD 1 0]
  count : found.count = min 2 (addresses false endpoints).length
  packet : found.packet = (endpoints.map packetSize).foldl max 0

theorem among_none : Among [] Found.none where
  bulkIn := rfl
  bulkOut := rfl
  count := rfl
  packet := rfl

theorem addresses_append
    (isIn : Bool)
    (endpoints : List (List UInt8))
    (descriptor : List UInt8) :
    addresses isIn (endpoints ++ [descriptor]) =
      addresses isIn endpoints ++
        if decide (descriptor.getD 2 0 &&& 0x80 ≠ 0) = isIn then
          [descriptor.getD 2 0]
        else
          [] := by
  rw [addresses, List.map_append, List.filter_append]
  congr 1
  rw [List.map_singleton, List.filter_singleton, cond_eq_ite]
  simp only [beq_iff_eq]

theorem Among.add
    {endpoints : List (List UInt8)}
    {found : Found}
    (among : Among endpoints found)
    (descriptor : List UInt8) :
    Among (endpoints ++ [descriptor])
      (found.add (descriptor.getD 2 0) (packetSize descriptor)) := by
  have largest :
      max found.packet (packetSize descriptor) =
        ((endpoints ++ [descriptor]).map packetSize).foldl max 0 := by
    rw [List.map_append, List.foldl_append, ← among.packet]
    rfl
  have isIn := addresses_append true endpoints descriptor
  have isOut := addresses_append false endpoints descriptor
  unfold Found.add
  by_cases direction : descriptor.getD 2 0 &&& 0x80 ≠ 0
  · rw [if_pos direction]
    rw [decide_eq_true direction, if_pos rfl] at isIn
    rw [decide_eq_true direction, if_neg (by decide), List.append_nil] at isOut
    refine ⟨?_, ?_, ?_, largest⟩
    · rw [isIn, List.getLastD_concat]
    · rw [isOut]
      exact among.bulkOut
    · rw [isOut]
      exact among.count
  · rw [if_neg direction]
    rw [decide_eq_false direction, if_neg (by decide), List.append_nil] at isIn
    rw [decide_eq_false direction, if_pos rfl] at isOut
    have sameIn := among.bulkIn
    rw [← isIn] at sameIn
    have wasOut := among.bulkOut
    have wasCount := among.count
    -- The two places fill up one after the other.
    rcases outs : addresses false endpoints with _ | ⟨one, _ | ⟨two, more⟩⟩
    all_goals
      rw [outs] at isOut wasOut wasCount
      dsimp only
    · have isFirst : found.count = 0 := wasCount
      rw [dif_pos (by omega)]
      refine ⟨sameIn, ?_, ?_, largest⟩ <;> rw [isOut]
      · simp [wasOut, isFirst]
      · simp [isFirst]
    · have isSecond : found.count = 1 := wasCount
      rw [dif_pos (by omega)]
      refine ⟨sameIn, ?_, ?_, largest⟩ <;> rw [isOut]
      · simp [wasOut, isSecond]
      · simp [isSecond]
    · have isFull : found.count = 2 := by simpa using wasCount
      rw [dif_neg (by omega)]
      refine ⟨sameIn, ?_, ?_, largest⟩ <;> rw [isOut]
      · exact wasOut
      · simp [isFull]

/-! ## The loop -/

section Loop

variable
  {config : List UInt8}
  {i len : Nat}

theorem getElem?_descriptor
    (inside : i + len ≤ config.length)
    {offset : Nat}
    (isByte : offset < len) :
    config[i + offset]? =
      some (((config.drop i).take len).getD offset 0) := by
  have inRange : i + offset < config.length := by omega
  rw [List.getD_eq_getElem?_getD, List.getElem?_take_of_lt isByte,
    List.getElem?_drop, List.getElem?_eq_getElem inRange]
  rfl

theorem lookAt_eq
    (inside : i + len ≤ config.length)
    (atLeastTwo : 2 ≤ len)
    (found : Found) :
    lookAt config i len found =
      some
        (if IsBulkEndpoint ((config.drop i).take len) then
          found.add (((config.drop i).take len).getD 2 0)
            (packetSize ((config.drop i).take len))
        else
          found) := by
  have sameLength : ((config.drop i).take len).length = len := by
    rw [List.length_take, List.length_drop]
    omega
  have byte := fun offset (isByte : offset < len) =>
    getElem?_descriptor inside isByte
  have isBulkEndpoint_iff :
      IsBulkEndpoint ((config.drop i).take len) ↔
        (((config.drop i).take len).getD 1 0 = 5 ∧ len ≥ 7) ∧
          ((config.drop i).take len).getD 3 0 &&& 3 = 2 := by
    rw [IsBulkEndpoint, sameLength, and_assoc]
  unfold lookAt
  rw [byte 1 (by omega)]
  change (if _ then _ else _) = _
  by_cases isEndpoint : ((config.drop i).take len).getD 1 0 = 5 ∧ len ≥ 7
  · rw [if_pos isEndpoint, byte 3 (by omega)]
    change (if _ then _ else _) = _
    by_cases isBulk : ((config.drop i).take len).getD 3 0 &&& 3 = 2
    · rw [if_pos isBulk, byte 2 (by omega), byte 4 (by omega),
        byte 5 (by omega), if_pos (isBulkEndpoint_iff.mpr ⟨isEndpoint, isBulk⟩)]
      rfl
    · rw [if_neg isBulk, if_neg fun is => isBulk (isBulkEndpoint_iff.mp is).2]
  · rw [if_neg isEndpoint, if_neg fun is => isEndpoint (isBulkEndpoint_iff.mp is).1]

theorem drop_eq_cons_cons
    (inside : i + 2 ≤ config.length) :
    ∃ first second rest,
      config.drop i = first :: second :: rest ∧
        config[i]? = some first := by
  have two : 2 ≤ (config.drop i).length := by
    rw [List.length_drop]
    omega
  rcases split : config.drop i with _ | ⟨first, _ | ⟨second, rest⟩⟩
  · rw [split] at two
    cases two
  · rw [split] at two
    exact absurd two (by simp)
  · refine ⟨first, second, rest, rfl, ?_⟩
    have head := congrArg (·[0]?) split
    rwa [List.getElem?_drop] at head

theorem parseFrom_spec
    (inside : i ≤ config.length)
    {endpoints : List (List UInt8)}
    {found : Found}
    (among : Among endpoints found) :
    Gives (parseFrom config i found)
      (Among
        (endpoints ++ (descriptors (config.drop i)).filter (IsBulkEndpoint ·))) := by
  induction remaining : config.length - i using Nat.strongRecOn
    generalizing i endpoints found with
  | ind remaining inductionHypothesis =>
  have noMore : ∀ {others}, others = [] →
      Gives (some found)
        (Among (endpoints ++ List.filter (IsBulkEndpoint ·) others)) := by
    rintro _ rfl
    rw [List.filter_nil, List.append_nil]
    exact .some among
  rw [parseFrom]
  by_cases goesOn : i + 2 ≤ config.length
  · obtain ⟨first, second, rest, split, head⟩ := drop_eq_cons_cons goesOn
    have sameLength : (first :: second :: rest).length = config.length - i := by
      rw [← split, List.length_drop]
    rw [if_pos goesOn, head]
    dsimp only
    by_cases stops : first.toNat < 2 ∨ i + first.toNat > config.length
    · rw [dif_pos stops]
      apply noMore
      rw [split, descriptors, sameLength, if_pos (by omega)]
    · have fits : i + first.toNat ≤ config.length := by omega
      have met :
          descriptors (config.drop i) =
            (config.drop i).take first.toNat ::
              descriptors (config.drop (i + first.toNat)) := by
        rw [← List.drop_drop, split, descriptors, sameLength, if_neg (by omega)]
      rw [dif_neg stops, lookAt_eq fits (by omega), met]
      by_cases isBulk : IsBulkEndpoint ((config.drop i).take first.toNat)
      · rw [if_pos isBulk, List.filter_cons_of_pos (by simpa using isBulk),
          List.append_cons]
        exact
          inductionHypothesis _ (by omega) fits (among.add _) rfl
      · rw [if_neg isBulk, List.filter_cons_of_neg (by simpa using isBulk)]
        exact inductionHypothesis _ (by omega) fits among rfl
  · rw [if_neg goesOn]
    apply noMore
    have short : (config.drop i).length < 2 := by
      rw [List.length_drop]
      omega
    rcases split : config.drop i with _ | ⟨first, _ | ⟨second, rest⟩⟩
    · rw [descriptors]
    · rw [descriptors]
    · rw [split] at short
      exact absurd short (by simp)

end Loop

/--
Every string is read to its end without a fault, and the result is what is among the
bulk endpoints that its length bytes lead to.
-/
theorem parseBulkEndpoints_eq (config : List UInt8) :
    (let endpoints := (descriptors config).filter (IsBulkEndpoint ·)
    parseBulkEndpoints config =
      some
        ((addresses true endpoints).getLastD 0,
          #v[(addresses false endpoints).getD 0 0,
            (addresses false endpoints).getD 1 0],
          (endpoints.map packetSize).foldl max 0)) := by
  obtain ⟨found, parsed, among⟩ :=
    parseFrom_spec (Nat.zero_le config.length) among_none
  rw [List.nil_append, List.drop_zero] at among
  rw [parseBulkEndpoints, parsed]
  change some (found.bulkIn, found.bulkOut, found.packet) = _
  rw [among.bulkIn, among.bulkOut, among.packet]

end VibuxOS.Devices.Usb
