import Mathlib.Algebra.Group.Nat.Defs
import Mathlib.Data.List.Forall2
import Mathlib.Data.List.Induction

namespace VibuxOS.Devices.Ipv4Address

/-!
# Reading an Internet address

`parse_ipv4` of `net_rtl8139.rs` reads a string once and checks a group of digits at
the dot behind it, the last one at the end.  A number that does not fit and an index
out of range stop it, as `None` does.
-/

variable
  {byte : UInt8}
  {octet : UInt8}
  {address : Vector UInt8 4}

/-- `b'.'` -/
def dot : UInt8 := 46

/-- How the function ends without an address. -/
inductive Stop where
  | refused
  | overflow
  deriving Repr, DecidableEq

/-- A number of 16 bits, if it fits -/
def u16 (value : Nat) : Except Stop Nat :=
  if value < 65536 then .ok value else .error .overflow

/-- The variables of the loop. -/
structure Scan where
  result : Vector UInt8 4
  octet : Nat
  value : Nat
  digits : Nat
  deriving Repr, DecidableEq

/-- The variables before the loop -/
def Scan.start : Scan :=
  ⟨Vector.replicate 4 0, 0, 0, 0⟩

/-- A byte from `b'0'` to `b'9'` -/
abbrev IsDigit (byte : UInt8) : Prop :=
  48 ≤ byte ∧ byte ≤ 57

/-- A turn of the loop -/
def turn (scan : Scan) (byte : UInt8) : Except Stop Scan :=
  if byte = dot then
    if scan.octet ≥ 3 ∨ scan.digits = 0 ∨ scan.value > 255 then
      .error .refused
    else if inRange : scan.octet < 4 then
      .ok
        { result := scan.result.set scan.octet (UInt8.ofNat scan.value)
          octet := scan.octet + 1
          value := 0
          digits := 0 }
    else
      .error .overflow
  else if IsDigit byte then
    if scan.digits ≥ 3 then
      .error .refused
    else do
      let tens ← u16 (scan.value * 10)
      let value ← u16 (tens + (byte - 48).toNat)
      .ok { scan with value, digits := scan.digits + 1 }
  else
    .error .refused

/-- What is done after the loop -/
def finish (scan : Scan) : Except Stop (Vector UInt8 4) :=
  if scan.octet ≠ 3 ∨ scan.digits = 0 ∨ scan.value > 255 then
    .error .refused
  else
    .ok (scan.result.set 3 (UInt8.ofNat scan.value))

def parseIpv4 (input : List UInt8) : Except Stop (Vector UInt8 4) := do
  let scan ← input.foldlM turn Scan.start
  finish scan

/-! ## Groups of digits -/

/-- The number that a group of digits stands for -/
def decimal (group : List UInt8) : Nat :=
  group.foldl (fun value byte => value * 10 + (byte.toNat - 48)) 0

/-- A group that stands for an octet. -/
structure IsGroup (group : List UInt8) (octet : UInt8) : Prop where
  nonempty : group ≠ []
  short : group.length ≤ 3
  digits : ∀ byte ∈ group, IsDigit byte
  value : decimal group = octet.toNat

theorem IsGroup.rightUnique :
    Relator.RightUnique IsGroup := by
  intro group octet other isGroup isOther
  exact UInt8.toNat_inj.mp (isGroup.value.symm.trans isOther.value)

theorem decimal_append
    (group : List UInt8)
    (byte : UInt8) :
    decimal (group ++ [byte]) = decimal group * 10 + (byte.toNat - 48) := by
  rw [decimal, List.foldl_append]
  rfl

theorem IsDigit.bounds
    (isDigit : IsDigit byte) :
    48 ≤ byte.toNat ∧ byte.toNat ≤ 57 :=
  ⟨UInt8.le_iff_toNat_le.mp isDigit.1, UInt8.le_iff_toNat_le.mp isDigit.2⟩

theorem IsDigit.toNat_sub
    (isDigit : IsDigit byte) :
    (byte - 48).toNat = byte.toNat - 48 :=
  UInt8.toNat_sub_of_le _ _ isDigit.1

theorem IsDigit.ne_dot
    (isDigit : IsDigit byte) :
    byte ≠ dot := by
  rintro rfl
  exact absurd isDigit.bounds.1 (by decide)

theorem decimal_lt
    {group : List UInt8}
    (digits : ∀ byte ∈ group, IsDigit byte) :
    decimal group < 10 ^ group.length := by
  induction group using List.reverseRec with
  | nil =>
      exact Nat.zero_lt_one
  | append_singleton rest byte inductionHypothesis =>
      have small :=
        inductionHypothesis fun other member =>
          digits other (List.mem_append_left _ member)
      have bounds := (digits byte (by simp)).bounds
      rw [decimal_append, List.length_append, List.length_singleton, Nat.pow_succ]
      omega

theorem intercalate_append
    (closed : List (List UInt8))
    (opened : List UInt8) :
    [dot].intercalate (closed ++ [opened]) =
      closed.flatMap (· ++ [dot]) ++ opened := by
  induction closed with
  | nil =>
      exact List.intercalate_singleton
  | cons group rest inductionHypothesis =>
      rw [List.cons_append,
        List.intercalate_cons_of_ne_nil
          (List.append_ne_nil_of_right_ne_nil _ (List.cons_ne_nil _ _)),
        inductionHypothesis, List.flatMap_cons]
      simp only [List.append_assoc]

/-! ## What has been read -/

/-- The groups with a dot behind them and the digits after the last dot. -/
structure Reads
    (closed : List (List UInt8))
    (opened read : List UInt8)
    (scan : Scan) : Prop where
  whole : read = closed.flatMap (· ++ [dot]) ++ opened
  few : scan.octet ≤ 3
  groups : List.Forall₂ IsGroup closed (scan.result.toList.take scan.octet)
  digits : scan.digits = opened.length
  short : opened.length ≤ 3
  areDigits : ∀ byte ∈ opened, IsDigit byte
  value : scan.value = decimal opened

theorem reads_start : Reads [] [] [] Scan.start where
  whole := rfl
  few := by decide
  groups := .nil
  digits := rfl
  short := by decide
  areDigits := by intro _ member; cases member
  value := rfl

namespace Reads

variable
  {closed : List (List UInt8)}
  {opened read : List UInt8}
  {scan : Scan}

section

variable (reads : Reads closed opened read scan)

include reads

theorem length_closed :
    closed.length = scan.octet := by
  have few := reads.few
  have sameLength := reads.groups.length_eq
  rw [List.length_take, Vector.length_toList] at sameLength
  omega

theorem isGroup
    (some : scan.digits ≠ 0)
    (small : scan.value ≤ 255) :
    IsGroup opened (UInt8.ofNat scan.value) where
  nonempty := by
    rintro rfl
    exact some reads.digits
  short := reads.short
  digits := reads.areDigits
  value := by
    rw [UInt8.toNat_ofNat_of_lt' (Nat.lt_succ_of_le small), reads.value]

theorem set_octet
    (isGroup : IsGroup opened octet)
    (inRange : scan.octet < 4) :
    List.Forall₂ IsGroup (closed ++ [opened])
      ((scan.result.set scan.octet octet).toList.take (scan.octet + 1)) := by
  have same :
      (scan.result.set scan.octet octet).toList.take (scan.octet + 1) =
        scan.result.toList.take scan.octet ++ [octet] := by
    have inList : scan.octet < scan.result.toList.length := by
      rwa [Vector.length_toList]
    rw [Vector.toList_set, List.take_add_one, List.take_set_of_le (Nat.le_refl _),
      List.getElem?_set_self inList]
    rfl
  rw [same]
  exact List.rel_append reads.groups (.cons isGroup .nil)

theorem turn_dot
    (isGroup : IsGroup opened octet)
    (few : scan.octet < 3) :
    ∃ next,
      turn scan dot = .ok next ∧
        Reads (closed ++ [opened]) [] (read ++ [dot]) next := by
  have isValue : UInt8.ofNat scan.value = octet := by
    rw [reads.value, isGroup.value, UInt8.ofNat_toNat]
  have goesOn :
      ¬ (scan.octet ≥ 3 ∨ scan.digits = 0 ∨ scan.value > 255) := by
    have positive := List.length_pos_of_ne_nil isGroup.nonempty
    have small := octet.toNat_lt
    rw [reads.digits, reads.value, isGroup.value]
    omega
  have inRange : scan.octet < 4 := Nat.lt_succ_of_lt few
  refine
    ⟨⟨scan.result.set scan.octet octet, scan.octet + 1, 0, 0⟩, ?_, ?_⟩
  · rw [turn, if_pos rfl, if_neg goesOn, dif_pos inRange, isValue]
  · refine ⟨?_, few, reads.set_octet isGroup inRange, rfl, by decide, ?_, rfl⟩
    · rw [reads.whole, List.flatMap_append, List.append_nil, List.append_assoc,
        List.flatMap_singleton]
    · exact by intro _ member; cases member

theorem turn_digit
    (isDigit : IsDigit byte)
    (few : opened.length < 3) :
    ∃ next,
      turn scan byte = .ok next ∧
        Reads closed (opened ++ [byte]) (read ++ [byte]) next := by
  have bounds := isDigit.bounds
  have small : scan.value < 100 := by
    rw [reads.value]
    exact
      Nat.lt_of_lt_of_le (decimal_lt reads.areDigits)
        (Nat.pow_le_pow_right (by decide) (Nat.le_of_lt_succ few))
  have tensFit : scan.value * 10 < 65536 := by omega
  have valueFits : scan.value * 10 + (byte.toNat - 48) < 65536 := by omega
  have goesOn : ¬ scan.digits ≥ 3 := by
    rw [reads.digits]
    exact Nat.not_le_of_lt few
  refine
    ⟨{ scan with
        value := scan.value * 10 + (byte.toNat - 48)
        digits := scan.digits + 1 }, ?_, ?_⟩
  · rw [turn, if_neg isDigit.ne_dot, if_pos isDigit, if_neg goesOn, u16,
      if_pos tensFit, isDigit.toNat_sub]
    change (u16 (scan.value * 10 + (byte.toNat - 48)) >>= _) = _
    rw [u16, if_pos valueFits]
    rfl
  · refine ⟨?_, reads.few, reads.groups, ?_, ?_, ?_, ?_⟩
    · rw [reads.whole, List.append_assoc]
    · rw [List.length_append, ← reads.digits]
      rfl
    · rw [List.length_append]
      exact few
    · intro other member
      rcases List.mem_append.mp member with before | isLast
      · exact reads.areDigits other before
      · rwa [List.mem_singleton.mp isLast]
    · rw [decimal_append, ← reads.value]

theorem turn_spec
    (byte : UInt8) :
    turn scan byte = .error .refused ∨
      ∃ next closed opened,
        turn scan byte = .ok next ∧
          Reads closed opened (read ++ [byte]) next := by
  by_cases isDot : byte = dot
  · subst isDot
    by_cases stops : scan.octet ≥ 3 ∨ scan.digits = 0 ∨ scan.value > 255
    · left
      rw [turn, if_pos rfl, if_pos stops]
    · obtain ⟨next, turned, readsNext⟩ :=
        reads.turn_dot
          (reads.isGroup (fun none => stops (.inr (.inl none))) (by omega))
          (by omega)
      exact .inr ⟨next, _, _, turned, readsNext⟩
  · by_cases isDigit : IsDigit byte
    · by_cases few : opened.length < 3
      · obtain ⟨next, turned, readsNext⟩ := reads.turn_digit isDigit few
        exact .inr ⟨next, _, _, turned, readsNext⟩
      · left
        have stops : scan.digits ≥ 3 := by
          rw [reads.digits]
          exact Nat.le_of_not_lt few
        rw [turn, if_neg isDot, if_pos isDigit, if_pos stops]
    · left
      rw [turn, if_neg isDot, if_neg isDigit]

theorem foldlM_spec
    (input : List UInt8) :
    input.foldlM turn scan = .error .refused ∨
      ∃ final closed opened,
        input.foldlM turn scan = .ok final ∧
          Reads closed opened (read ++ input) final := by
  induction input generalizing closed opened read scan with
  | nil =>
      rw [List.append_nil]
      exact .inr ⟨scan, closed, opened, rfl, reads⟩
  | cons byte rest inductionHypothesis =>
      rw [List.foldlM_cons]
      rcases reads.turn_spec byte with refused | ⟨_, _, _, turned, readsNext⟩
      · left
        rw [refused]
        rfl
      · rw [turned, List.append_cons]
        exact inductionHypothesis readsNext

theorem foldlM_digits
    {group : List UInt8}
    (digits : ∀ byte ∈ group, IsDigit byte)
    (short : opened.length + group.length ≤ 3) :
    ∃ next,
      group.foldlM turn scan = .ok next ∧
        Reads closed (opened ++ group) (read ++ group) next := by
  induction group generalizing opened read scan with
  | nil =>
      rw [List.append_nil, List.append_nil]
      exact ⟨scan, rfl, reads⟩
  | cons byte rest inductionHypothesis =>
      rw [List.length_cons] at short
      obtain ⟨next, turned, readsNext⟩ :=
        reads.turn_digit (digits byte List.mem_cons_self) (by omega)
      rw [List.foldlM_cons, turned, List.append_cons, List.append_cons read]
      apply inductionHypothesis readsNext
      · exact fun other member => digits other (List.mem_cons_of_mem _ member)
      · rw [List.length_append, List.length_singleton]
        omega

end

theorem foldlM_groups
    (reads : Reads closed [] read scan)
    {groups : List (List UInt8)}
    {octets : List UInt8}
    (areGroups : List.Forall₂ IsGroup groups octets)
    (few : closed.length + groups.length ≤ 3) :
    ∃ next,
      (groups.flatMap (· ++ [dot])).foldlM turn scan = .ok next ∧
        Reads (closed ++ groups) []
          (read ++ groups.flatMap (· ++ [dot])) next := by
  induction areGroups generalizing closed read scan with
  | nil =>
      rw [List.append_nil]
      exact ⟨scan, rfl, by simpa using reads⟩
  | @cons group octet rest _ isGroup _ inductionHypothesis =>
      rw [List.length_cons] at few
      obtain ⟨middle, digitsRead, readsMiddle⟩ :=
        reads.foldlM_digits isGroup.digits
          (by rw [List.length_nil, Nat.zero_add]; exact isGroup.short)
      have fewBefore : middle.octet < 3 := by
        rw [← readsMiddle.length_closed]
        omega
      obtain ⟨next, turned, readsNext⟩ :=
        readsMiddle.turn_dot isGroup fewBefore
      obtain ⟨final, othersRead, readsFinal⟩ :=
        inductionHypothesis readsNext
          (by rw [List.length_append, List.length_singleton]; omega)
      refine ⟨final, ?_, ?_⟩
      · rw [List.flatMap_cons, List.foldlM_append, List.foldlM_append, digitsRead]
        change ((turn middle dot >>= pure) >>= _) = _
        rw [turned]
        exact othersRead
      · simpa using readsFinal

theorem groups_of_finish
    (reads : Reads closed opened read scan)
    (finished : finish scan = .ok address) :
    List.Forall₂ IsGroup (closed ++ [opened]) address.toList := by
  unfold finish at finished
  split at finished
  · cases finished
  next goesOn =>
  cases finished
  have isLast : scan.octet = 3 := by omega
  have completed :=
    reads.set_octet (reads.isGroup (by omega) (by omega)) (by omega)
  simp only [isLast] at completed
  rwa [List.take_of_length_le (Nat.le_of_eq Vector.length_toList)] at completed

theorem finish_of_group
    (reads : Reads closed opened read scan)
    (isGroup : IsGroup opened octet)
    (three : closed.length = 3) :
    ∃ address, finish scan = .ok address := by
  have positive := List.length_pos_of_ne_nil isGroup.nonempty
  have small := octet.toNat_lt
  refine ⟨_, if_neg ?_⟩
  rw [← reads.length_closed, reads.digits, reads.value, isGroup.value]
  omega

end Reads

/-! ## The parser -/

theorem parseIpv4_sound
    {input : List UInt8}
    (parsed : parseIpv4 input = .ok address) :
    ∃ groups,
      List.Forall₂ IsGroup groups address.toList ∧
        input = [dot].intercalate groups := by
  unfold parseIpv4 at parsed
  rcases reads_start.foldlM_spec input with
    refused | ⟨final, closed, opened, scanned, reads⟩
  · rw [refused] at parsed
    cases parsed
  · rw [scanned] at parsed
    refine ⟨closed ++ [opened], reads.groups_of_finish parsed, ?_⟩
    rw [intercalate_append]
    exact reads.whole

theorem parseIpv4_complete
    {groups : List (List UInt8)}
    (areGroups : List.Forall₂ IsGroup groups address.toList) :
    parseIpv4 ([dot].intercalate groups) = .ok address := by
  obtain ⟨first, second, third, fourth, rfl⟩ :
      ∃ first second third fourth, groups = [first, second, third, fourth] := by
    apply List.length_eq_four.mp
    rw [areGroups.length_eq, Vector.length_toList]
  obtain ⟨octet, isLast, areFirst⟩ :
      ∃ octet, IsGroup fourth octet ∧
        ∃ octets, List.Forall₂ IsGroup [first, second, third] octets := by
    generalize address.toList = octets at areGroups
    rcases areGroups with _ | ⟨one, _ | ⟨two, _ | ⟨three, _ | ⟨four, _⟩⟩⟩⟩
    exact ⟨_, four, _, .cons one (.cons two (.cons three .nil))⟩
  obtain ⟨octets, areFirst⟩ := areFirst
  obtain ⟨middle, groupsRead, readsMiddle⟩ :=
    reads_start.foldlM_groups areFirst (Nat.le_refl 3)
  obtain ⟨scan, digitsRead, reads⟩ :=
    readsMiddle.foldlM_digits isLast.digits
      (by rw [List.length_nil, Nat.zero_add]; exact isLast.short)
  obtain ⟨found, finished⟩ := reads.finish_of_group isLast rfl
  have same : found = address := by
    apply Vector.toList_inj.mp
    exact
      IsGroup.rightUnique.forall₂ (reads.groups_of_finish finished) areGroups
  have split : [first, second, third, fourth] = [first, second, third] ++ [fourth] :=
    rfl
  rw [parseIpv4, split, intercalate_append, List.foldlM_append, groupsRead]
  change (fourth.foldlM turn middle >>= finish) = _
  rw [digitsRead, ← same]
  exact finished

/--
A string is an address exactly when it consists of four groups of one to three digits,
each for an octet, with single dots between them; and no number gets too large.
-/
theorem parseIpv4_iff (input : List UInt8) :
    (∀ address,
        parseIpv4 input = .ok address ↔
          ∃ groups,
            List.Forall₂ IsGroup groups address.toList ∧
              input = [dot].intercalate groups) ∧
      parseIpv4 input ≠ .error .overflow := by
  constructor
  · intro address
    constructor
    · exact parseIpv4_sound
    · rintro ⟨groups, areGroups, rfl⟩
      exact parseIpv4_complete areGroups
  · intro overflows
    unfold parseIpv4 at overflows
    rcases reads_start.foldlM_spec input with
      refused | ⟨final, _, _, scanned, _⟩
    · rw [refused] at overflows
      cases overflows
    · rw [scanned] at overflows
      change finish final = _ at overflows
      unfold finish at overflows
      split at overflows <;> cases overflows

end VibuxOS.Devices.Ipv4Address
