import Mathlib.Data.List.Basic
import Mathlib.Data.List.TakeWhile
import Mathlib.Tactic.Common

namespace VibuxOS.Shell

/-!
# The tokenizer with two buffers

A command line is split at white space outside quotes.  The tokenizer reads the
line from one list and writes each argument to another; `parse_line` of `shell.rs`
is compared with it.
-/

def isAsciiWhitespace (byte : UInt8) : Bool :=
  byte = 32 || byte = 9 || byte = 10 || byte = 12 || byte = 13

def backslash : UInt8 := 92

def space : UInt8 := 32

/-- A single or a double quote. -/
def isQuote (byte : UInt8) : Bool :=
  byte = 39 || byte = 34

/--
The bytes of an argument and the rest of the line behind it.  The quote is the one
that the argument is in, or zero.
-/
def argumentOf (quote : UInt8) : List UInt8 → List UInt8 × List UInt8
  | [] => ([], [])
  | byte :: rest =>
      if quote = 0 ∧ isAsciiWhitespace byte then
        ([], byte :: rest)
      else if byte = backslash then
        match rest with
        | [] => ([], [])
        | next :: behind =>
            let argument := argumentOf quote behind
            (next :: argument.1, argument.2)
      else if isQuote byte ∧ quote = 0 then
        argumentOf byte rest
      else if isQuote byte ∧ quote = byte then
        argumentOf 0 rest
      else
        let argument := argumentOf quote rest
        (byte :: argument.1, argument.2)

/-! ## One turn of the tokenizer -/

section Turns

variable
  {quote byte : UInt8}
  {rest : List UInt8}

@[simp] theorem argumentOf_nil :
    argumentOf quote [] = ([], []) :=
  rfl

theorem argumentOf_of_ends
    (ends : quote = 0 ∧ isAsciiWhitespace byte) :
    argumentOf quote (byte :: rest) = ([], byte :: rest) := by
  rw [argumentOf.eq_def]
  exact if_pos ends

theorem argumentOf_backslash_nil :
    argumentOf quote [backslash] = ([], []) := by
  rw [argumentOf.eq_def]
  exact (if_neg fun ends => absurd ends.2 (by decide)).trans (if_pos rfl)

theorem argumentOf_backslash
    (next : UInt8) :
    argumentOf quote (backslash :: next :: rest) =
      (next :: (argumentOf quote rest).1, (argumentOf quote rest).2) := by
  rw [argumentOf.eq_def]
  exact (if_neg fun ends => absurd ends.2 (by decide)).trans (if_pos rfl)

theorem argumentOf_of_opens
    (opens : isQuote byte) :
    argumentOf 0 (byte :: rest) = argumentOf byte rest := by
  have cases : byte = 39 ∨ byte = 34 := by
    simpa [isQuote] using opens
  rw [argumentOf.eq_def]
  rcases cases with rfl | rfl <;> rfl

theorem argumentOf_of_closes
    (isOne : isQuote byte) :
    argumentOf byte (byte :: rest) = argumentOf 0 rest := by
  have cases : byte = 39 ∨ byte = 34 := by
    simpa [isQuote] using isOne
  rw [argumentOf.eq_def]
  rcases cases with rfl | rfl <;> rfl

theorem argumentOf_of_plain
    (goesOn : ¬ (quote = 0 ∧ isAsciiWhitespace byte))
    (literal : byte ≠ backslash)
    (plain : isQuote byte → quote ≠ 0 ∧ quote ≠ byte) :
    argumentOf quote (byte :: rest) =
      (byte :: (argumentOf quote rest).1, (argumentOf quote rest).2) := by
  rw [argumentOf.eq_def]
  dsimp only
  rw [if_neg goesOn, if_neg literal,
    if_neg fun both => (plain both.1).1 both.2,
    if_neg fun both => (plain both.1).2 both.2]

end Turns

theorem argumentOf_length_le
    (quote : UInt8)
    (bytes : List UInt8) :
    (argumentOf quote bytes).2.length ≤ bytes.length := by
  fun_induction argumentOf quote bytes with
  | case1 quote => exact Nat.le_refl 0
  | case2 quote byte rest ends => exact Nat.le_refl _
  | case3 quote ends => exact Nat.zero_le _
  | case4 quote next behind argument ends inductionHypothesis =>
      exact Nat.le_succ_of_le (Nat.le_succ_of_le inductionHypothesis)
  | case5 quote byte rest ends literal opens inductionHypothesis =>
      exact Nat.le_succ_of_le inductionHypothesis
  | case6 quote byte rest ends literal opens closes inductionHypothesis =>
      exact Nat.le_succ_of_le inductionHypothesis
  | case7 quote byte rest ends literal opens closes argument inductionHypothesis =>
      exact Nat.le_succ_of_le inductionHypothesis

theorem argumentOf_length_lt
    {byte : UInt8}
    (begins : isAsciiWhitespace byte = false)
    (rest : List UInt8) :
    (argumentOf 0 (byte :: rest)).2.length < (byte :: rest).length := by
  have goesOn : ¬ ((0 : UInt8) = 0 ∧ isAsciiWhitespace byte = true) := by
    simp [begins]
  by_cases literal : byte = backslash
  · subst literal
    cases rest with
    | nil => exact Nat.zero_lt_one
    | cons next behind =>
        rw [argumentOf_backslash]
        exact
          Nat.lt_succ_of_le
            (Nat.le_succ_of_le (argumentOf_length_le 0 behind))
  · by_cases opens : isQuote byte
    · rw [argumentOf_of_opens opens]
      exact Nat.lt_succ_of_le (argumentOf_length_le byte rest)
    · rw [argumentOf_of_plain goesOn literal fun isOne => absurd isOne opens]
      exact Nat.lt_succ_of_le (argumentOf_length_le 0 rest)

/-- The arguments of a line. -/
def tokenize (line : List UInt8) : List (List UInt8) :=
  match _shown : line.dropWhile isAsciiWhitespace with
  | [] => []
  | byte :: rest =>
      let argument := argumentOf 0 (byte :: rest)
      argument.1 :: tokenize argument.2
termination_by line.length
decreasing_by
  have begins : isAsciiWhitespace byte = false := by
    have head := List.head?_dropWhile_not isAsciiWhitespace line
    rw [_shown] at head
    simpa using head
  have dropped := List.length_dropWhile_le isAsciiWhitespace line
  rw [_shown] at dropped
  exact Nat.lt_of_lt_of_le (argumentOf_length_lt begins rest) dropped

@[simp] theorem tokenize_nil :
    tokenize [] = [] := by
  rw [tokenize]
  rfl

theorem tokenize_dropWhile
    (line : List UInt8) :
    tokenize (line.dropWhile isAsciiWhitespace) = tokenize line := by
  have twice :
      (line.dropWhile isAsciiWhitespace).dropWhile isAsciiWhitespace =
        line.dropWhile isAsciiWhitespace :=
    List.dropWhile_eq_self_iff.mpr (List.dropWhile_get_zero_not _ _)
  rw [tokenize.eq_def, tokenize.eq_def line, twice]

theorem tokenize_of_begins
    {byte : UInt8}
    (begins : isAsciiWhitespace byte = false)
    (rest : List UInt8) :
    tokenize (byte :: rest) =
      (argumentOf 0 (byte :: rest)).1 ::
        tokenize (argumentOf 0 (byte :: rest)).2 := by
  have shown :
      (byte :: rest).dropWhile isAsciiWhitespace = byte :: rest := by
    rw [List.dropWhile_cons, if_neg (by simp [begins])]
  rw [tokenize.eq_def]
  split
  · rename_i nothing
    rw [shown] at nothing
    cases nothing
  · rename_i first others isLine
    rw [shown] at isLine
    cases isLine
    rfl

/-! ## Writing arguments down -/

/-- A backslash before every byte. -/
def escape (argument : List UInt8) : List UInt8 :=
  argument.flatMap fun byte => [backslash, byte]

/-- Escaped arguments with spaces between them. -/
def escapeLine : List (List UInt8) → List UInt8
  | [] => []
  | [argument] => escape argument
  | argument :: next :: rest =>
      escape argument ++ space :: escapeLine (next :: rest)

theorem argumentOf_escape
    (argument rest : List UInt8) :
    argumentOf 0 (escape argument ++ rest) =
      (argument ++ (argumentOf 0 rest).1, (argumentOf 0 rest).2) := by
  induction argument with
  | nil =>
      rfl
  | cons byte others inductionHypothesis =>
      have written :
          escape (byte :: others) ++ rest =
            backslash :: byte :: (escape others ++ rest) :=
        rfl
      rw [written, argumentOf_backslash, inductionHypothesis]
      rfl

theorem tokenize_escape
    {argument rest : List UInt8}
    (nonempty : argument ≠ [])
    (ends : (argumentOf 0 rest).1 = []) :
    tokenize (escape argument ++ rest) =
      argument :: tokenize (argumentOf 0 rest).2 := by
  have isRead := argumentOf_escape argument rest
  obtain ⟨byte, others, rfl⟩ := List.exists_cons_of_ne_nil nonempty
  have written :
      escape (byte :: others) ++ rest =
        backslash :: byte :: (escape others ++ rest) :=
    rfl
  rw [written] at isRead ⊢
  rw [tokenize_of_begins (by decide), isRead, ends, List.append_nil]

theorem tokenize_escapeLine
    {arguments : List (List UInt8)}
    (nonempty : ∀ argument ∈ arguments, argument ≠ []) :
    tokenize (escapeLine arguments) = arguments := by
  induction arguments with
  | nil =>
      exact tokenize_nil
  | cons argument rest inductionHypothesis =>
      have first := nonempty argument List.mem_cons_self
      have others := inductionHypothesis fun other mem =>
        nonempty other (List.mem_cons_of_mem _ mem)
      cases rest with
      | nil =>
          have alone := @tokenize_escape argument [] first rfl
          rw [List.append_nil, argumentOf_nil, tokenize_nil] at alone
          exact alone
      | cons next behind =>
          have ends :
              argumentOf 0 (space :: escapeLine (next :: behind)) =
                ([], space :: escapeLine (next :: behind)) :=
            argumentOf_of_ends ⟨rfl, by decide⟩
          have skipped :
              tokenize (space :: escapeLine (next :: behind)) =
                tokenize (escapeLine (next :: behind)) := by
            rw [← tokenize_dropWhile, ← tokenize_dropWhile (escapeLine _)]
            rfl
          rw [escapeLine, tokenize_escape first (by rw [ends]), ends, skipped,
            others]

end VibuxOS.Shell
