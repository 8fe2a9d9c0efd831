import Mathlib.Algebra.Group.Nat.Defs
import Mathlib.Logic.Function.Basic
import VibuxOS.Lib.Contents
import VibuxOS.Lib.Prog
import VibuxOS.Shell.Tokenizer

namespace VibuxOS.Shell

open VibuxOS.Lib

/-!
# `parse_line`

The loops of `parse_line` share a read and a write index over one buffer.  They
are steps of a machine here, so that every state between two of them is one that
a statement can be about.
-/

def lineMax : Nat := 256

def argMax : Nat := 16

def argMaxLen : Nat := 128

/-- The loop that is at its head: the outer one, the one over an argument, or none. -/
inductive Point where
  | outer
  | argument (start : Nat) (quote : UInt8)
  | done
  deriving Repr, DecidableEq

/-- The variables of `parse_line`; the spans are those up to `argc`. -/
structure Scan where
  line : Nat → UInt8
  read : Nat
  writePos : Nat
  spans : List (Nat × Nat)
  point : Point

namespace Scan

/-- The state before the loops. -/
def start (line : Nat → UInt8) : Scan where
  line := line
  read := 0
  writePos := 0
  spans := []
  point := .outer

/-- `line[write_pos] = byte; write_pos += 1` -/
def put (scan : Scan) (byte : UInt8) : Scan :=
  { scan with
    line := Function.update scan.line scan.writePos byte
    writePos := scan.writePos + 1 }

end Scan

/-- The loops that skip white space -/
def skipWhitespace (line : Nat → UInt8) (len read : Nat) : Nat :=
  if read < len ∧ isAsciiWhitespace (line read) then
    skipWhitespace line len (read + 1)
  else
    read
termination_by len - read

def asU16 (value : Nat) : Nat :=
  value % 2 ^ 16

/-- One turn of the loop over an argument -/
def argumentTurn
    (len start : Nat)
    (quote : UInt8)
    (scan : Scan) : Scan :=
  let c := scan.line scan.read
  if c = backslash then
    if scan.read + 1 < len then
      { scan.put (scan.line (scan.read + 1)) with read := scan.read + 2 }
    else
      { scan with read := scan.read + 1 }
  else if isQuote c then
    if quote = 0 then
      { scan with
        read := scan.read + 1
        point := .argument start c }
    else if quote = c then
      { scan with
        read := scan.read + 1
        point := .argument start 0 }
    else
      { scan.put c with read := scan.read + 1 }
  else
    { scan.put c with read := scan.read + 1 }

/-- What follows the loop over an argument -/
def finishArgument (len start : Nat) (scan : Scan) : Scan :=
  { scan with
    spans :=
      scan.spans ++
        [(asU16 start, asU16 (min scan.writePos (start + argMaxLen)))]
    read := skipWhitespace scan.line len scan.read
    point := .outer }

/-- One step of `parse_line` -/
def step (len : Nat) (scan : Scan) : Option Scan :=
  match scan.point with
  | .outer =>
      if scan.read < len then
        let read := skipWhitespace scan.line len scan.read
        if len ≤ read ∨ argMax ≤ scan.spans.length then
          some
            { scan with
              read := read
              point := .done }
        else
          some
            { scan with
              read := read
              point := .argument scan.writePos 0 }
      else
        some { scan with point := .done }
  | .argument start quote =>
      if scan.read < len ∧
          ¬ (quote = 0 ∧ isAsciiWhitespace (scan.line scan.read)) then
        some (argumentTurn len start quote scan)
      else
        some (finishArgument len start scan)
  | .done => none

/-- How far a state is from the end. -/
def remaining (len : Nat) (scan : Scan) : Nat :=
  match scan.point with
  | .outer => 3 * (len - scan.read) + if scan.read < len then 2 else 1
  | .argument _ _ => 3 * (len - scan.read) + if scan.read < len then 1 else 2
  | .done => 0

/-! ## White space -/

section

variable (line : Nat → UInt8)

theorem le_skipWhitespace
    (len read : Nat) :
    read ≤ skipWhitespace line len read := by
  fun_induction skipWhitespace line len read with
  | case1 read skips inductionHypothesis => omega
  | case2 read stops => exact Nat.le_refl _

theorem skipWhitespace_le
    {len read : Nat}
    (inside : read ≤ len) :
    skipWhitespace line len read ≤ len := by
  fun_induction skipWhitespace line len read with
  | case1 read skips inductionHypothesis => exact inductionHypothesis skips.1
  | case2 read stops => exact inside

theorem not_whitespace_skipWhitespace
    (len read : Nat) :
    ¬ (skipWhitespace line len read < len ∧
      isAsciiWhitespace (line (skipWhitespace line len read))) := by
  fun_induction skipWhitespace line len read with
  | case1 read skips inductionHypothesis => exact inductionHypothesis
  | case2 read stops => exact stops

/-- The bytes from an index up to the length. -/
def unreadFrom (line : Nat → UInt8) (len read : Nat) : List UInt8 :=
  window line read (len - read)

theorem unreadFrom_cons
    {len read : Nat}
    (inside : read < len) :
    unreadFrom line len read = line read :: unreadFrom line len (read + 1) := by
  unfold unreadFrom
  rw [show len - read = 1 + (len - (read + 1)) by omega, window_add]
  rfl

theorem unreadFrom_end
    {len read : Nat}
    (ended : len ≤ read) :
    unreadFrom line len read = [] := by
  unfold unreadFrom
  rw [Nat.sub_eq_zero_of_le ended, window_zero]

theorem unreadFrom_skipWhitespace
    (len read : Nat) :
    unreadFrom line len (skipWhitespace line len read) =
      (unreadFrom line len read).dropWhile isAsciiWhitespace := by
  fun_induction skipWhitespace line len read with
  | case1 read skips inductionHypothesis =>
      rw [inductionHypothesis, unreadFrom_cons line skips.1,
        List.dropWhile_cons_of_pos skips.2]
  | case2 read stops =>
      by_cases inside : read < len
      · rw [unreadFrom_cons line inside,
          List.dropWhile_cons_of_neg fun isWhite => stops ⟨inside, isWhite⟩]
      · rw [unreadFrom_end line (Nat.le_of_not_lt inside)]
        rfl

end

/-! ## One turn of the loop over an argument -/

/--
What a turn does: it moves on, perhaps into or out of quotes, or it copies a byte.
In both cases the reference goes on with the bytes that are left.
-/
inductive Turned
    (len start : Nat)
    (quote : UInt8)
    (scan : Scan) : Scan → Prop where
  | moved
      (amount : Nat)
      (within : UInt8)
      (some : 0 < amount)
      (inside : scan.read + amount ≤ len)
      (same :
        argumentOf quote (unreadFrom scan.line len scan.read) =
          argumentOf within (unreadFrom scan.line len (scan.read + amount))) :
      Turned len start quote scan
        { scan with
          read := scan.read + amount
          point := .argument start within }
  | copied
      (amount : Nat)
      (byte : UInt8)
      (some : 0 < amount)
      (inside : scan.read + amount ≤ len)
      (same :
        argumentOf quote (unreadFrom scan.line len scan.read) =
          (byte ::
            (argumentOf quote
              (unreadFrom scan.line len (scan.read + amount))).1,
            (argumentOf quote
              (unreadFrom scan.line len (scan.read + amount))).2)) :
      Turned len start quote scan
        { scan.put byte with
          read := scan.read + amount
          point := .argument start quote }

theorem turned_argumentTurn
    {len start : Nat}
    {quote : UInt8}
    {scan : Scan}
    (point : scan.point = .argument start quote)
    (inside : scan.read < len)
    (goesOn : ¬ (quote = 0 ∧ isAsciiWhitespace (scan.line scan.read))) :
    Turned len start quote scan (argumentTurn len start quote scan) := by
  have stays :
      ∀ amount, ({ scan with read := scan.read + amount } : Scan) =
        { scan with
          read := scan.read + amount
          point := .argument start quote } := by
    intro amount
    rw [← point]
  have puts :
      ∀ byte amount,
        ({ scan.put byte with read := scan.read + amount } : Scan) =
          { scan.put byte with
            read := scan.read + amount
            point := .argument start quote } := by
    intro byte amount
    rw [← point]
    rfl
  have first := unreadFrom_cons scan.line inside
  unfold argumentTurn
  dsimp only
  by_cases literal : scan.line scan.read = backslash
  · rw [if_pos literal]
    rw [literal] at first
    by_cases another : scan.read + 1 < len
    · rw [if_pos another, puts]
      apply Turned.copied 2 _ (by decide) another
      rw [first, unreadFrom_cons scan.line another, argumentOf_backslash]
    · rw [if_neg another, stays]
      apply Turned.moved 1 _ (by decide) inside
      rw [first, unreadFrom_end scan.line (Nat.le_of_not_lt another),
        argumentOf_backslash_nil]
      rfl
  · rw [if_neg literal]
    by_cases isOne : isQuote (scan.line scan.read)
    · rw [if_pos isOne]
      by_cases opens : quote = 0
      · rw [if_pos opens]
        apply Turned.moved 1 _ (by decide) inside
        rw [first, opens, argumentOf_of_opens isOne]
      · rw [if_neg opens]
        by_cases closes : quote = scan.line scan.read
        · rw [if_pos closes]
          apply Turned.moved 1 _ (by decide) inside
          rw [first, closes, argumentOf_of_closes isOne]
        · rw [if_neg closes, puts]
          apply Turned.copied 1 _ (by decide) inside
          rw [first, argumentOf_of_plain goesOn literal fun _ => ⟨opens, closes⟩]
    · rw [if_neg isOne, puts]
      apply Turned.copied 1 _ (by decide) inside
      rw [first,
        argumentOf_of_plain goesOn literal fun isQuote => absurd isQuote isOne]

/-! ## One step -/

/-- What a step does, by the loop that is at its head. -/
inductive Stepped (len : Nat) (scan : Scan) : Scan → Prop where
  | ended
      (point : scan.point = .outer)
      (noneLeft : len ≤ scan.read) :
      Stepped len scan { scan with point := .done }
  | stopped
      (point : scan.point = .outer)
      (inside : scan.read < len)
      (enough :
        len ≤ skipWhitespace scan.line len scan.read ∨
          argMax ≤ scan.spans.length) :
      Stepped len scan
        { scan with
          read := skipWhitespace scan.line len scan.read
          point := .done }
  | begun
      (point : scan.point = .outer)
      (inside : skipWhitespace scan.line len scan.read < len)
      (room : scan.spans.length < argMax) :
      Stepped len scan
        { scan with
          read := skipWhitespace scan.line len scan.read
          point := .argument scan.writePos 0 }
  | turned
      {start : Nat}
      {quote : UInt8}
      {next : Scan}
      (point : scan.point = .argument start quote)
      (inside : scan.read < len)
      (does : Turned len start quote scan next) :
      Stepped len scan next
  | finished
      {start : Nat}
      {quote : UInt8}
      (point : scan.point = .argument start quote)
      (behind :
        len ≤ scan.read ∨
          (scan.read < len ∧
            quote = 0 ∧ isAsciiWhitespace (scan.line scan.read))) :
      Stepped len scan (finishArgument len start scan)

theorem stepped_of_step
    {len : Nat}
    {scan next : Scan}
    (step : step len scan = some next) :
    Stepped len scan next := by
  unfold Shell.step at step
  cases point : scan.point with
  | outer =>
      simp only [point] at step
      split at step
      · rename_i inside
        split at step
        · rename_i enough
          cases step
          exact .stopped point inside enough
        · rename_i goesOn
          cases step
          exact
            .begun point
              (Nat.lt_of_not_le fun exceeds => goesOn (Or.inl exceeds))
              (Nat.lt_of_not_le fun exceeds => goesOn (Or.inr exceeds))
      · rename_i ended
        cases step
        exact .ended point (Nat.le_of_not_lt ended)
  | argument start quote =>
      simp only [point] at step
      split at step
      · rename_i goesOn
        injection step with same
        rw [← same]
        exact
          .turned point goesOn.1 (turned_argumentTurn point goesOn.1 goesOn.2)
      · rename_i behind
        cases step
        apply Stepped.finished point
        by_cases inside : scan.read < len
        · refine Or.inr ⟨inside, ?_⟩
          by_contra goesOn
          exact behind ⟨inside, goesOn⟩
        · exact Or.inl (Nat.le_of_not_lt inside)
  | done =>
      simp only [point] at step
      cases step

theorem remaining_finishArgument
    (len start : Nat)
    (scan : Scan) :
    remaining len (finishArgument len start scan) =
      3 * (len - skipWhitespace scan.line len scan.read) +
        if skipWhitespace scan.line len scan.read < len then 2 else 1 :=
  rfl

theorem remaining_step
    {len : Nat}
    {scan next : Scan}
    (step : step len scan = some next) :
    remaining len next < remaining len scan := by
  have forward := le_skipWhitespace scan.line len scan.read
  cases stepped_of_step step with
  | ended point noneLeft =>
      simp only [remaining, point]
      split <;> omega
  | stopped point inside enough =>
      simp only [remaining, point]
      split <;> omega
  | begun point inside room =>
      simp only [remaining, point, if_pos inside,
        if_pos (Nat.lt_of_le_of_lt forward inside)]
      omega
  | turned point inside does =>
      cases does with
      | moved amount within some reaches same =>
          simp only [remaining, point, if_pos inside]
          split <;> omega
      | copied amount byte some reaches same =>
          simp only [remaining, point, if_pos inside]
          split <;> omega
  | finished point behind =>
      rw [remaining_finishArgument]
      simp only [remaining, point]
      rcases behind with noneLeft | ⟨inside, _, isWhite⟩
      · rw [if_neg (Nat.not_lt_of_le noneLeft),
          if_neg (Nat.not_lt_of_le (Nat.le_trans noneLeft forward))]
        omega
      · have skipped :
            scan.read + 1 ≤ skipWhitespace scan.line len scan.read := by
          rw [skipWhitespace, if_pos ⟨inside, isWhite⟩]
          exact le_skipWhitespace _ _ _
        rw [if_pos inside]
        split <;> omega

/-- The loops of `parse_line`, to their end -/
def runLoops (len : Nat) (scan : Scan) : Scan :=
  match _stepped : step len scan with
  | some next => runLoops len next
  | none => scan
termination_by remaining len scan
decreasing_by exact remaining_step _stepped

/-- `parse_line`, with the line that it leaves and the spans -/
def parseLine (line : Nat → UInt8) (len : Nat) : Scan :=
  runLoops len (.start line)

def Scan.arg (scan : Scan) (span : Nat × Nat) : List UInt8 :=
  window scan.line span.1 (span.2 - span.1)

/-- The arguments that `parse_line` has found. -/
def Scan.arguments (scan : Scan) : List (List UInt8) :=
  scan.spans.map scan.arg

end VibuxOS.Shell
