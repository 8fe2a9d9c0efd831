import Mathlib.Logic.Relation
import Mathlib.Tactic.Common

namespace VibuxOS.Lib

/-!
# Programs with a state, an error exit and no guarantee to return

A program takes a state and either returns a value, leaves through its error
exit, or never returns: an endless loop, an index out of bounds, a fault.  The
state is kept on both exits, so what a failing program has already changed
stays visible.

The rules below say what one program does in terms of its parts.  They are
stated per exit, because the proofs about a program ask for one exit at a
time.
-/

variable {condition : Prop}

/-- How a run of a program ends. -/
inductive Outcome (σ ε α : Type) where
  | ok (value : α) (state : σ)
  | err (error : ε) (state : σ)
  | hang

/-- The state in which a run ends, on either exit. -/
def Outcome.final?
    {σ ε α : Type} : Outcome σ ε α → Option σ
  | .ok _ state => some state
  | .err _ state => some state
  | .hang => none

/-- The value that a run returns. -/
def Outcome.value?
    {σ ε α : Type} : Outcome σ ε α → Option α
  | .ok value _ => some value
  | .err _ _ => none
  | .hang => none

/-- The error of a run that leaves through the error exit. -/
def Outcome.error?
    {σ ε α : Type} : Outcome σ ε α → Option ε
  | .ok _ _ => none
  | .err error _ => some error
  | .hang => none

theorem Outcome.error?_eq_some
    {σ ε α : Type}
    {outcome : Outcome σ ε α}
    {error : ε} :
    outcome.error? = some error ↔ ∃ final, outcome = .err error final := by
  cases outcome with
  | ok value final =>
      constructor
      · intro isError
        cases isError
      · rintro ⟨_, failed⟩
        cases failed
  | err other final =>
      constructor
      · intro isError
        cases isError
        exact ⟨final, rfl⟩
      · rintro ⟨_, failed⟩
        cases failed
        rfl
  | hang =>
      constructor
      · intro isError
        cases isError
      · rintro ⟨_, failed⟩
        cases failed

/-- A program over states `σ` with errors `ε`. -/
def Prog (σ ε α : Type) := σ → Outcome σ ε α

namespace Prog

variable {σ ε α β : Type}

/-- Return a value and leave the state alone. -/
protected def pure (value : α) : Prog σ ε α :=
  fun state => .ok value state

/-- Run the first program and, when it returns, the second one. -/
protected def bind
    (first : Prog σ ε α)
    (next : α → Prog σ ε β) :
    Prog σ ε β :=
  fun state =>
    match first state with
    | .ok value middle => next value middle
    | .err error final => .err error final
    | .hang => .hang

instance : Monad (Prog σ ε) where
  pure := Prog.pure
  bind := Prog.bind

/-- Leave through the error exit. -/
def fail (error : ε) : Prog σ ε α :=
  fun state => .err error state

/-- Never return. -/
def hang : Prog σ ε α :=
  fun _ => .hang

/-- Read a part of the state. -/
def gets (view : σ → α) : Prog σ ε α :=
  fun state => .ok (view state) state

/-- Replace the state. -/
def modify (change : σ → σ) : Prog σ ε Unit :=
  fun state => .ok () (change state)

/-- A result that was found without looking at the state. -/
def ofExcept (result : Except ε α) : Prog σ ε α :=
  match result with
  | .ok value => pure value
  | .error error => fail error

/-- Translate the errors of a program. -/
def mapError
    {δ : Type}
    (change : ε → δ)
    (program : Prog σ ε α) :
    Prog σ δ α :=
  fun state =>
    match program state with
    | .ok value final => .ok value final
    | .err error final => .err (change error) final
    | .hang => .hang

/-- Turn the error exit into a value. -/
def attempt
    {δ : Type}
    (program : Prog σ ε α) :
    Prog σ δ (Except ε α) :=
  fun state =>
    match program state with
    | .ok value final => .ok (.ok value) final
    | .err error final => .ok (.error error) final
    | .hang => .hang

/-- Run a program on a part of the state. -/
def onPart
    {τ : Type}
    (view : τ → σ)
    (put : σ → τ → τ)
    (program : Prog σ ε α) :
    Prog τ ε α :=
  fun state =>
    match program (view state) with
    | .ok value final => .ok value (put final state)
    | .err error final => .err error (put final state)
    | .hang => .hang

@[simp] theorem pure_apply
    (value : α)
    (state : σ) :
    (pure value : Prog σ ε α) state = .ok value state :=
  rfl

@[simp] theorem fail_apply
    (error : ε)
    (state : σ) :
    (fail error : Prog σ ε α) state = .err error state :=
  rfl

@[simp] theorem hang_apply
    (state : σ) :
    (hang : Prog σ ε α) state = .hang :=
  rfl

@[simp] theorem gets_apply
    (view : σ → α)
    (state : σ) :
    (gets view : Prog σ ε α) state = .ok (view state) state :=
  rfl

@[simp] theorem modify_apply
    (change : σ → σ)
    (state : σ) :
    (modify change : Prog σ ε Unit) state =
      .ok () (change state) :=
  rfl

theorem bind_of_ok
    {first : Prog σ ε α}
    {next : α → Prog σ ε β}
    {state middle : σ}
    {value : α}
    (returned : first state = .ok value middle) :
    (first >>= next) state = next value middle := by
  change Prog.bind first next state = _
  simp [Prog.bind, returned]

theorem bind_of_err
    {first : Prog σ ε α}
    {next : α → Prog σ ε β}
    {state final : σ}
    {error : ε}
    (failed : first state = .err error final) :
    (first >>= next) state = .err error final := by
  change Prog.bind first next state = _
  simp [Prog.bind, failed]

theorem bind_of_hang
    {first : Prog σ ε α}
    {next : α → Prog σ ε β}
    {state : σ}
    (stuck : first state = .hang) :
    (first >>= next) state = .hang := by
  change Prog.bind first next state = _
  simp [Prog.bind, stuck]

@[simp] theorem gets_bind_apply
    (view : σ → α)
    (next : α → Prog σ ε β)
    (state : σ) :
    ((gets view : Prog σ ε α) >>= next) state =
      next (view state) state :=
  rfl

@[simp] theorem modify_bind_apply
    (change : σ → σ)
    (next : Unit → Prog σ ε β)
    (state : σ) :
    ((modify change : Prog σ ε Unit) >>= next) state =
      next () (change state) :=
  rfl

theorem attempt_of_ok
    {δ : Type}
    {program : Prog σ ε α}
    {state final : σ}
    {value : α}
    (returned : program state = .ok value final) :
    (attempt program : Prog σ δ _) state = .ok (.ok value) final := by
  simp [attempt, returned]

theorem attempt_of_err
    {δ : Type}
    {program : Prog σ ε α}
    {state final : σ}
    {error : ε}
    (failed : program state = .err error final) :
    (attempt program : Prog σ δ _) state = .ok (.error error) final := by
  simp [attempt, failed]

theorem attempt_of_hang
    {δ : Type}
    {program : Prog σ ε α}
    {state : σ}
    (stuck : program state = .hang) :
    (attempt program : Prog σ δ _) state = .hang := by
  simp [attempt, stuck]

/-- Two continuations that agree where the first part returns are exchangeable. -/
theorem bind_congr_apply
    {first : Prog σ ε α}
    {next other : α → Prog σ ε β}
    {state : σ}
    (same :
      ∀ value middle,
        first state = .ok value middle →
        next value middle = other value middle) :
    (first >>= next) state = (first >>= other) state := by
  cases returned : first state with
  | ok value middle =>
      rw [bind_of_ok returned, bind_of_ok returned,
        same value middle returned]
  | err error middle =>
      rw [bind_of_err returned, bind_of_err returned]
  | hang =>
      rw [bind_of_hang returned, bind_of_hang returned]

/-- Sequencing is associative, state by state. -/
@[simp] theorem bind_assoc_apply
    {γ : Type}
    (first : Prog σ ε α)
    (next : α → Prog σ ε β)
    (last : β → Prog σ ε γ)
    (state : σ) :
    ((first >>= next) >>= last) state =
      (first >>= fun value => next value >>= last) state := by
  cases returned : first state with
  | ok value middle =>
      rw [bind_of_ok returned]
      cases later : next value middle with
      | ok result final =>
          have both : (first >>= next) state = .ok result final := by
            rw [bind_of_ok returned, later]
          rw [bind_of_ok both, bind_of_ok later]
      | err error final =>
          have both : (first >>= next) state = .err error final := by
            rw [bind_of_ok returned, later]
          rw [bind_of_err both, bind_of_err later]
      | hang =>
          have both : (first >>= next) state = .hang := by
            rw [bind_of_ok returned, later]
          rw [bind_of_hang both, bind_of_hang later]
  | err error final =>
      have both : (first >>= next) state = .err error final :=
        bind_of_err returned
      rw [bind_of_err both, bind_of_err returned]
  | hang =>
      have both : (first >>= next) state = .hang :=
        bind_of_hang returned
      rw [bind_of_hang both, bind_of_hang returned]

/-- Invert a returning sequence into its two returning parts. -/
theorem bind_eq_ok
    {first : Prog σ ε α}
    {next : α → Prog σ ε β}
    {state final : σ}
    {result : β} :
    (first >>= next) state = .ok result final ↔
      ∃ value middle,
        first state = .ok value middle ∧
          next value middle = .ok result final := by
  constructor
  · intro returned
    cases part : first state with
    | ok value middle =>
        rw [bind_of_ok part] at returned
        exact ⟨value, middle, rfl, returned⟩
    | err error middle =>
        rw [bind_of_err part] at returned
        cases returned
    | hang =>
        rw [bind_of_hang part] at returned
        cases returned
  · rintro ⟨value, middle, part, later⟩
    rw [bind_of_ok part, later]

/-- Invert a failing sequence: one of the two parts failed. -/
theorem bind_eq_err
    {first : Prog σ ε α}
    {next : α → Prog σ ε β}
    {state final : σ}
    {error : ε} :
    (first >>= next) state = .err error final ↔
      first state = .err error final ∨
        ∃ value middle,
          first state = .ok value middle ∧
            next value middle = .err error final := by
  constructor
  · intro failed
    cases part : first state with
    | ok value middle =>
        rw [bind_of_ok part] at failed
        exact Or.inr ⟨value, middle, rfl, failed⟩
    | err other middle =>
        rw [bind_of_err part] at failed
        cases failed
        exact Or.inl rfl
    | hang =>
        rw [bind_of_hang part] at failed
        cases failed
  · rintro (part | ⟨value, middle, part, later⟩)
    · exact bind_of_err part
    · rw [bind_of_ok part, later]

/-- Invert a sequence that never returns. -/
theorem bind_eq_hang
    {first : Prog σ ε α}
    {next : α → Prog σ ε β}
    {state : σ} :
    (first >>= next) state = .hang ↔
      first state = .hang ∨
        ∃ value middle,
          first state = .ok value middle ∧
            next value middle = .hang := by
  constructor
  · intro stuck
    cases part : first state with
    | ok value middle =>
        rw [bind_of_ok part] at stuck
        exact Or.inr ⟨value, middle, rfl, stuck⟩
    | err other middle =>
        rw [bind_of_err part] at stuck
        cases stuck
    | hang =>
        exact Or.inl rfl
  · rintro (part | ⟨value, middle, part, later⟩)
    · exact bind_of_hang part
    · rw [bind_of_ok part, later]

/-- Behind a result a returning sequence goes on with its value. -/
theorem ofExcept_bind_eq_ok
    {result : Except ε α}
    {next : α → Prog σ ε β}
    {state final : σ}
    {last : β} :
    (ofExcept result >>= next) state = .ok last final ↔
      ∃ value,
        result = .ok value ∧
          next value state = .ok last final := by
  cases result with
  | ok value =>
      constructor
      · intro returned
        exact ⟨value, rfl, returned⟩
      · rintro ⟨_, same, returned⟩
        cases same
        exact returned
  | error error =>
      constructor
      · intro returned
        cases returned
      · rintro ⟨_, same, _⟩
        cases same

theorem ofExcept_bind_eq_err
    {result : Except ε α}
    {next : α → Prog σ ε β}
    {state final : σ}
    {error : ε}
    (failed : (ofExcept result >>= next) state = .err error final) :
    result = .error error ∨
      ∃ value, result = .ok value ∧ next value state = .err error final := by
  cases result with
  | ok value =>
      exact .inr ⟨value, rfl, failed⟩
  | error failure =>
      cases failed
      exact .inl rfl

/-- Translating errors changes no result. -/
theorem mapError_eq_ok
    {δ : Type}
    {program : Prog σ ε α}
    {change : ε → δ}
    {state final : σ}
    {value : α} :
    mapError change program state = .ok value final ↔
      program state = .ok value final := by
  unfold mapError
  cases program state with
  | ok result last =>
      constructor <;> intro returned <;> cases returned <;> rfl
  | err error last =>
      constructor <;> intro returned <;> cases returned
  | hang =>
      constructor <;> intro returned <;> cases returned

/-- The errors of a program, translated. -/
theorem mapError_eq_err
    {δ : Type}
    {program : Prog σ ε α}
    {change : ε → δ}
    {state final : σ}
    {error : δ} :
    mapError change program state = .err error final ↔
      ∃ inner, program state = .err inner final ∧ change inner = error := by
  unfold mapError
  cases program state with
  | ok result last =>
      constructor
      · intro failed
        cases failed
      · rintro ⟨_, failed, _⟩
        cases failed
  | err inner last =>
      constructor
      · intro failed
        cases failed
        exact ⟨inner, rfl, rfl⟩
      · rintro ⟨_, failed, rfl⟩
        cases failed
        rfl
  | hang =>
      constructor
      · intro failed
        cases failed
      · rintro ⟨_, failed, _⟩
        cases failed

theorem eq_ok_of_value?
    {outcome : Outcome σ ε α}
    {value : α}
    (returned : outcome.value? = some value) :
    ∃ final, outcome = .ok value final := by
  cases outcome with
  | ok result final =>
      cases returned
      exact ⟨final, rfl⟩
  | err error final =>
      cases returned
  | hang =>
      cases returned

/-! ## Programs that only read -/

/-- On both exits the state is the one the program started from. -/
def ReadOnly (program : Prog σ ε α) : Prop :=
  (∀ {state value final},
      program state = .ok value final →
      final = state) ∧
    ∀ {state error final},
      program state = .err error final →
      final = state

namespace ReadOnly

theorem pure
    (value : α) :
    ReadOnly (Pure.pure value : Prog σ ε α) := by
  constructor <;> intro _ _ _ result <;> cases result
  rfl

theorem fail
    (error : ε) :
    ReadOnly (Prog.fail error : Prog σ ε α) := by
  constructor <;> intro _ _ _ result <;> cases result
  rfl

theorem hang :
    ReadOnly (Prog.hang : Prog σ ε α) := by
  constructor <;> intro _ _ _ result <;> cases result

theorem gets
    (view : σ → α) :
    ReadOnly (Prog.gets view : Prog σ ε α) := by
  constructor <;> intro _ _ _ result <;> cases result
  rfl

theorem ofExcept
    (result : Except ε α) :
    ReadOnly (Prog.ofExcept result : Prog σ ε α) := by
  cases result with
  | ok value =>
      exact .pure value
  | error error =>
      exact .fail error

theorem bind
    {first : Prog σ ε α}
    {next : α → Prog σ ε β}
    (firstReads : ReadOnly first)
    (nextReads : ∀ value, ReadOnly (next value)) :
    ReadOnly (first >>= next) := by
  constructor
  · intro state value final returned
    obtain ⟨part, middle, firstReturned, nextReturned⟩ :=
      bind_eq_ok.mp returned
    rw [(nextReads part).1 nextReturned,
      firstReads.1 firstReturned]
  · intro state error final failed
    rcases bind_eq_err.mp failed with
        firstFailed | ⟨part, middle, firstReturned, nextFailed⟩
    · exact firstReads.2 firstFailed
    · rw [(nextReads part).2 nextFailed,
        firstReads.1 firstReturned]

theorem ite
    [Decidable condition]
    {yes no : Prog σ ε α}
    (yesReads : ReadOnly yes)
    (noReads : ReadOnly no) :
    ReadOnly (if condition then yes else no) := by
  split
  · exact yesReads
  · exact noReads

theorem of_bind_ok
    {first : Prog σ ε α}
    {next : α → Prog σ ε β}
    (firstReads : ReadOnly first)
    {state final : σ}
    {result : β}
    (returned : (first >>= next) state = .ok result final) :
    ∃ value,
      first state = .ok value state ∧
        next value state = .ok result final := by
  obtain ⟨value, middle, part, later⟩ := bind_eq_ok.mp returned
  obtain rfl := firstReads.1 part
  exact ⟨value, part, later⟩

/-- A failing sequence whose first part reads fails there or goes on. -/
theorem of_bind_err
    {first : Prog σ ε α}
    {next : α → Prog σ ε β}
    (firstReads : ReadOnly first)
    {state final : σ}
    {error : ε}
    (failed : (first >>= next) state = .err error final) :
    (first state = .err error state ∧ final = state) ∨
      ∃ value,
        first state = .ok value state ∧
          next value state = .err error final := by
  rcases bind_eq_err.mp failed with
      part | ⟨value, middle, part, later⟩
  · obtain rfl := firstReads.2 part
    exact Or.inl ⟨part, rfl⟩
  · obtain rfl := firstReads.1 part
    exact Or.inr ⟨value, part, later⟩

end ReadOnly

/-! ## Programs without an error exit -/

/-- The program never leaves through its error exit. -/
def NeverFails (program : Prog σ ε α) : Prop :=
  ∀ state error final, program state ≠ .err error final

namespace NeverFails

theorem pure
    (value : α) :
    NeverFails (Pure.pure value : Prog σ ε α) := by
  intro _ _ _ failed
  cases failed

theorem hang :
    NeverFails (Prog.hang : Prog σ ε α) := by
  intro _ _ _ failed
  cases failed

theorem gets
    (view : σ → α) :
    NeverFails (Prog.gets view : Prog σ ε α) := by
  intro _ _ _ failed
  cases failed

theorem modify
    (change : σ → σ) :
    NeverFails (Prog.modify change : Prog σ ε Unit) := by
  intro _ _ _ failed
  cases failed

theorem bind
    {first : Prog σ ε α}
    {next : α → Prog σ ε β}
    (firstReturns : NeverFails first)
    (nextReturns : ∀ value, NeverFails (next value)) :
    NeverFails (first >>= next) := by
  intro state error final failed
  rcases bind_eq_err.mp failed with
      firstFailed | ⟨value, _, _, nextFailed⟩
  · exact firstReturns _ _ _ firstFailed
  · exact nextReturns value _ _ _ nextFailed

theorem ite
    [Decidable condition]
    {yes no : Prog σ ε α}
    (yesReturns : NeverFails yes)
    (noReturns : NeverFails no) :
    NeverFails (if condition then yes else no) := by
  split
  · exact yesReturns
  · exact noReturns

end NeverFails

/-! ## What programs return -/

/-- Every result of the program has a property. -/
def Yields (property : α → Prop) (program : Prog σ ε α) : Prop :=
  ∀ state value final,
    program state = .ok value final →
    property value

namespace Yields

variable {property : α → Prop}

theorem pure
    {value : α}
    (holds : property value) :
    Yields property (Pure.pure value : Prog σ ε α) := by
  intro _ _ _ returned
  cases returned
  exact holds

theorem fail
    (error : ε) :
    Yields property (Prog.fail error : Prog σ ε α) := by
  intro _ _ _ returned
  cases returned

theorem hang :
    Yields property (Prog.hang : Prog σ ε α) := by
  intro _ _ _ returned
  cases returned

theorem bind
    {first : Prog σ ε β}
    {next : β → Prog σ ε α}
    (nextYields : ∀ value, Yields property (next value)) :
    Yields property (first >>= next) := by
  intro state result final returned
  obtain ⟨value, middle, _, nextReturned⟩ := bind_eq_ok.mp returned
  exact nextYields value middle result final nextReturned

theorem ite
    [Decidable condition]
    {yes no : Prog σ ε α}
    (yesYields : condition → Yields property yes)
    (noYields : ¬ condition → Yields property no) :
    Yields property (if condition then yes else no) := by
  by_cases holds : condition
  · rw [if_pos holds]
    exact yesYields holds
  · rw [if_neg holds]
    exact noYields holds

end Yields

/-! ## Programs that end -/

/-- The program always leaves through one of its two exits. -/
def Ends (program : Prog σ ε α) : Prop :=
  ∀ state, program state ≠ .hang

namespace Ends

theorem pure
    (value : α) :
    Ends (Pure.pure value : Prog σ ε α) := by
  intro _ stuck
  cases stuck

theorem fail
    (error : ε) :
    Ends (Prog.fail error : Prog σ ε α) := by
  intro _ stuck
  cases stuck

theorem gets
    (view : σ → α) :
    Ends (Prog.gets view : Prog σ ε α) := by
  intro _ stuck
  cases stuck

theorem modify
    (change : σ → σ) :
    Ends (Prog.modify change : Prog σ ε Unit) := by
  intro _ stuck
  cases stuck

theorem bind
    {first : Prog σ ε α}
    {next : α → Prog σ ε β}
    (firstEnds : Ends first)
    (nextEnds : ∀ value, Ends (next value)) :
    Ends (first >>= next) := by
  intro state stuck
  rcases bind_eq_hang.mp stuck with
      firstStuck | ⟨value, middle, _, nextStuck⟩
  · exact firstEnds state firstStuck
  · exact nextEnds value middle nextStuck

theorem ite
    [Decidable condition]
    {yes no : Prog σ ε α}
    (yesEnds : Ends yes)
    (noEnds : Ends no) :
    Ends (if condition then yes else no) := by
  split
  · exact yesEnds
  · exact noEnds

theorem mapError
    {δ : Type}
    (change : ε → δ)
    {program : Prog σ ε α}
    (ends : Ends program) :
    Ends (Prog.mapError change program) := by
  intro state stuck
  cases result : program state with
  | ok value final => simp [Prog.mapError, result] at stuck
  | err error final => simp [Prog.mapError, result] at stuck
  | hang => exact ends state result

theorem attempt
    {δ : Type}
    {program : Prog σ δ α}
    (ends : Ends program) :
    Ends (Prog.attempt program : Prog σ ε (Except δ α)) := by
  intro state stuck
  cases result : program state with
  | ok value final => simp [Prog.attempt, result] at stuck
  | err error final => simp [Prog.attempt, result] at stuck
  | hang => exact ends state result

theorem ofExcept
    (result : Except ε α) :
    Ends (Prog.ofExcept result : Prog σ ε α) := by
  cases result with
  | ok value => exact pure value
  | error error => exact fail error

end Ends

/-! ## A program on a part of the state -/

theorem onPart_eq_ok
    {τ : Type}
    {view : τ → σ}
    {put : σ → τ → τ}
    {program : Prog σ ε α}
    {state final : τ}
    {value : α} :
    onPart view put program state = .ok value final ↔
      ∃ part,
        program (view state) = .ok value part ∧ final = put part state := by
  unfold onPart
  cases program (view state) with
  | ok found part => simp [and_assoc, eq_comm]
  | err error part => simp
  | hang => simp

theorem onPart_eq_err
    {τ : Type}
    {view : τ → σ}
    {put : σ → τ → τ}
    {program : Prog σ ε α}
    {state final : τ}
    {error : ε} :
    onPart view put program state = .err error final ↔
      ∃ part,
        program (view state) = .err error part ∧ final = put part state := by
  unfold onPart
  cases program (view state) with
  | ok found part => simp
  | err failure part => simp [and_assoc, eq_comm]
  | hang => simp

/-! ## The errors of a program -/

/-- Every error of the program has a property. -/
def Raises (property : ε → Prop) (program : Prog σ ε α) : Prop :=
  ∀ state error final, program state = .err error final → property error

namespace Raises

variable {property : ε → Prop}

theorem pure
    (value : α) :
    Raises property (Pure.pure value : Prog σ ε α) := by
  intro _ _ _ failed
  cases failed

theorem fail
    {error : ε}
    (holds : property error) :
    Raises property (Prog.fail error : Prog σ ε α) := by
  intro _ _ _ failed
  cases failed
  exact holds

theorem hang :
    Raises property (Prog.hang : Prog σ ε α) := by
  intro _ _ _ failed
  cases failed

theorem gets
    (view : σ → α) :
    Raises property (Prog.gets view : Prog σ ε α) := by
  intro _ _ _ failed
  cases failed

theorem modify
    (change : σ → σ) :
    Raises property (Prog.modify change : Prog σ ε Unit) := by
  intro _ _ _ failed
  cases failed

theorem bind
    {first : Prog σ ε α}
    {next : α → Prog σ ε β}
    (firstRaises : Raises property first)
    (nextRaises : ∀ value, Raises property (next value)) :
    Raises property (first >>= next) := by
  intro state error final failed
  rcases bind_eq_err.mp failed with
      firstFailed | ⟨value, middle, _, nextFailed⟩
  · exact firstRaises _ _ _ firstFailed
  · exact nextRaises value _ _ _ nextFailed

theorem ite
    [Decidable condition]
    {yes no : Prog σ ε α}
    (yesRaises : Raises property yes)
    (noRaises : Raises property no) :
    Raises property (if condition then yes else no) := by
  split
  · exact yesRaises
  · exact noRaises

theorem mapError
    {δ : Type}
    {change : δ → ε}
    (program : Prog σ δ α)
    (holds : ∀ error, property (change error)) :
    Raises property (Prog.mapError change program) := by
  intro state error final failed
  obtain ⟨inner, _, rfl⟩ := mapError_eq_err.mp failed
  exact holds inner

theorem attempt
    {δ : Type}
    (program : Prog σ δ α) :
    Raises property (Prog.attempt program : Prog σ ε (Except δ α)) := by
  intro state error final failed
  cases result : program state with
  | ok value middle =>
      rw [attempt_of_ok result] at failed
      cases failed
  | err code middle =>
      rw [attempt_of_err result] at failed
      cases failed
  | hang =>
      rw [attempt_of_hang result] at failed
      cases failed

theorem ofExcept
    {result : Except ε α}
    (holds : ∀ error, result = .error error → property error) :
    Raises property (Prog.ofExcept result : Prog σ ε α) := by
  cases result with
  | ok value => exact pure value
  | error error => exact fail (holds error rfl)

theorem onPart
    {τ : Type}
    {view : τ → σ}
    {put : σ → τ → τ}
    {program : Prog σ ε α}
    (raises : Raises property program) :
    Raises property (Prog.onPart view put program) := by
  intro state error final failed
  obtain ⟨part, inner, _⟩ := onPart_eq_err.mp failed
  exact raises _ _ _ inner

end Raises

/-! ## Pre- and postconditions -/

/--
From a state with the precondition, a result satisfies the postcondition and an
error leaves a state with the condition of the error exit.
-/
def Ensures
    (before : σ → Prop)
    (program : Prog σ ε α)
    (after : α → σ → Prop)
    (failed : σ → Prop) : Prop :=
  ∀ state,
    before state →
    (∀ value final,
        program state = .ok value final →
        after value final) ∧
      ∀ error final,
        program state = .err error final →
        failed final

section Ends

variable
  {program : Prog σ ε α}
  {state final : σ}
  {after : α → σ → Prop}
  {failed : σ → Prop}

theorem ends_ok
    {value : α}
    (returned : program state = .ok value final)
    (holds : after value final) :
    (∀ value final,
        program state = .ok value final →
        after value final) ∧
      ∀ error final,
        program state = .err error final →
        failed final := by
  rw [returned]
  constructor <;> intro _ _ ended <;> cases ended
  exact holds

theorem ends_err
    {error : ε}
    (left : program state = .err error final)
    (holds : failed final) :
    (∀ value final,
        program state = .ok value final →
        after value final) ∧
      ∀ error final,
        program state = .err error final →
        failed final := by
  rw [left]
  constructor <;> intro _ _ ended <;> cases ended
  exact holds

end Ends

namespace Ensures

variable
  {before weaker : σ → Prop}
  {after : α → σ → Prop}
  {failed : σ → Prop}

theorem pure
    {value : α}
    (holds : ∀ state, before state → after value state) :
    Ensures before (Pure.pure value : Prog σ ε α) after failed :=
  fun state precondition => ends_ok rfl (holds state precondition)

theorem fail
    {error : ε}
    (holds : ∀ state, before state → failed state) :
    Ensures before (Prog.fail error : Prog σ ε α) after failed :=
  fun state precondition => ends_err rfl (holds state precondition)

theorem hang :
    Ensures before (Prog.hang : Prog σ ε α) after failed := by
  intro state _
  constructor <;> intro _ _ ended <;> cases ended

theorem gets
    {view : σ → α}
    (holds : ∀ state, before state → after (view state) state) :
    Ensures before (Prog.gets view : Prog σ ε α) after failed :=
  fun state precondition => ends_ok rfl (holds state precondition)

theorem modify
    {change : σ → σ}
    {afterChange : Unit → σ → Prop}
    (holds : ∀ state, before state → afterChange () (change state)) :
    Ensures before (Prog.modify change : Prog σ ε Unit) afterChange
      failed :=
  fun state precondition => ends_ok rfl (holds state precondition)

/-- Between two parts of a sequence stands the postcondition of the first. -/
theorem bind
    {first : Prog σ ε α}
    {next : α → Prog σ ε β}
    {last : β → σ → Prop}
    (firstEnsures : Ensures before first after failed)
    (nextEnsures : ∀ value, Ensures (after value) (next value) last failed) :
    Ensures before (first >>= next) last failed := by
  intro state precondition
  constructor
  · intro result final returned
    obtain ⟨value, middle, firstReturned, nextReturned⟩ :=
      bind_eq_ok.mp returned
    have between := (firstEnsures state precondition).1 _ _ firstReturned
    exact (nextEnsures value middle between).1 _ _ nextReturned
  · intro error final left
    rcases bind_eq_err.mp left with
        firstFailed | ⟨value, middle, firstReturned, nextFailed⟩
    · exact (firstEnsures state precondition).2 _ _ firstFailed
    · have between := (firstEnsures state precondition).1 _ _ firstReturned
      exact (nextEnsures value middle between).2 _ _ nextFailed

theorem ite
    [Decidable condition]
    {yes no : Prog σ ε α}
    (yesEnsures : condition → Ensures before yes after failed)
    (noEnsures : ¬ condition → Ensures before no after failed) :
    Ensures before (if condition then yes else no) after failed := by
  by_cases holds : condition
  · rw [if_pos holds]
    exact yesEnsures holds
  · rw [if_neg holds]
    exact noEnsures holds

theorem gets_bind
    {start : σ}
    {view : σ → α}
    {next : α → Prog σ ε β}
    {last : β → σ → Prop}
    (nextEnsures :
      Ensures (fun state => state = start) (next (view start)) last failed) :
    Ensures (fun state => state = start) (Prog.gets view >>= next) last
      failed := by
  rintro state rfl
  rw [gets_bind_apply]
  exact nextEnsures state rfl

theorem weaken
    {program : Prog σ ε α}
    (ensures : Ensures weaker program after failed)
    (implied : ∀ state, before state → weaker state) :
    Ensures before program after failed :=
  fun state precondition => ensures state (implied state precondition)

theorem consequence
    {program : Prog σ ε α}
    {also : α → σ → Prop}
    (ensures : Ensures before program after failed)
    (implied : ∀ value state, after value state → also value state) :
    Ensures before program also failed := by
  intro state precondition
  constructor
  · intro value final returned
    exact implied value final
      ((ensures state precondition).1 value final returned)
  · exact (ensures state precondition).2

theorem both
    {program : Prog σ ε α}
    {also : α → σ → Prop}
    {otherFailed : σ → Prop}
    (first : Ensures before program after otherFailed)
    (second : Ensures before program also failed) :
    Ensures before program (fun value state => after value state ∧ also value state)
      failed := by
  intro state precondition
  constructor
  · intro value final returned
    exact
      ⟨(first state precondition).1 value final returned,
        (second state precondition).1 value final returned⟩
  · exact (second state precondition).2

/-- What a program does to a part, it does to that part of the state. -/
theorem onPart
    {τ : Type}
    {view : τ → σ}
    {put : σ → τ → τ}
    {program : Prog σ ε α}
    {whole whole' : τ → Prop}
    {wholeAfter : α → τ → Prop}
    (returns :
      ∀ state value final,
        whole state →
        program (view state) = .ok value final →
        wholeAfter value (put final state))
    (fails :
      ∀ state error final,
        whole state →
        program (view state) = .err error final →
        whole' (put final state)) :
    Ensures whole (Prog.onPart view put program) wholeAfter whole' := by
  intro state holds
  unfold Prog.onPart
  constructor
  · intro value final returned
    split at returned
    · cases returned
      exact returns _ _ _ holds ‹_›
    · cases returned
    · cases returned
  · intro error final failed
    split at failed
    · cases failed
    · cases failed
      exact fails _ _ _ holds ‹_›
    · cases failed

/-- What holds on both exits holds of the final state. -/
theorem final
    {program : Prog σ ε α}
    {invariant : σ → Prop}
    (ensures : Ensures before program (fun _ => invariant) invariant)
    {state after : σ}
    (precondition : before state)
    (ended : (program state).final? = some after) :
    invariant after := by
  obtain ⟨onReturn, onError⟩ := ensures state precondition
  cases result : program state with
  | ok value last =>
      rw [result] at ended
      cases ended
      exact onReturn _ _ result
  | err error last =>
      rw [result] at ended
      cases ended
      exact onError _ _ result
  | hang =>
      rw [result] at ended
      cases ended

end Ensures

/-- From a state, both exits leave a state with a property. -/
def LeadsTo
    (start : σ)
    (reached : σ → Prop)
    (program : Prog σ ε α) : Prop :=
  Ensures (fun state => state = start) program (fun _ => reached) reached

namespace LeadsTo

variable
  {start after : σ}
  {reached : σ → Prop}

theorem pure
    {value : α}
    (already : reached start) :
    LeadsTo start reached (Pure.pure value : Prog σ ε α) :=
  Ensures.pure fun _ isStart => isStart ▸ already

theorem fail
    {error : ε}
    (already : reached start) :
    LeadsTo start reached (Prog.fail error : Prog σ ε α) :=
  Ensures.fail fun _ isStart => isStart ▸ already

theorem gets_bind
    {view : σ → α}
    {next : α → Prog σ ε β}
    (leads : LeadsTo start reached (next (view start))) :
    LeadsTo start reached (Prog.gets view >>= next) :=
  Ensures.gets_bind leads

theorem ite
    [Decidable condition]
    {yes no : Prog σ ε α}
    (yesLeads : condition → LeadsTo start reached yes)
    (noLeads : ¬ condition → LeadsTo start reached no) :
    LeadsTo start reached (if condition then yes else no) :=
  Ensures.ite yesLeads noLeads

theorem final
    {program : Prog σ ε α}
    (leads : LeadsTo start reached program)
    (ended : (program start).final? = some after) :
    reached after :=
  Ensures.final leads rfl ended

end LeadsTo

/-- From a state with the invariant, both exits leave a state with it. -/
def Keeps
    (invariant : σ → Prop)
    (program : Prog σ ε α) : Prop :=
  ∀ state,
    invariant state →
    (∀ value final,
        program state = .ok value final →
        invariant final) ∧
      ∀ error final,
        program state = .err error final →
        invariant final

namespace Keeps

variable {invariant : σ → Prop}

theorem of_readOnly
    {program : Prog σ ε α}
    (reads : ReadOnly program) :
    Keeps invariant program := by
  intro state holds
  constructor
  · intro value final returned
    rwa [reads.1 returned]
  · intro error final failed
    rwa [reads.2 failed]

theorem modify
    {change : σ → σ}
    (kept : ∀ state, invariant state → invariant (change state)) :
    Keeps invariant (Prog.modify change : Prog σ ε Unit) :=
  Ensures.modify kept

theorem bind
    {first : Prog σ ε α}
    {next : α → Prog σ ε β}
    (firstKeeps : Keeps invariant first)
    (nextKeeps : ∀ value, Keeps invariant (next value)) :
    Keeps invariant (first >>= next) :=
  Ensures.bind firstKeeps nextKeeps

theorem ite
    [Decidable condition]
    {yes no : Prog σ ε α}
    (yesKeeps : Keeps invariant yes)
    (noKeeps : Keeps invariant no) :
    Keeps invariant (if condition then yes else no) :=
  Ensures.ite (fun _ => yesKeeps) fun _ => noKeeps

/-- A caught error leaves the state of the error exit. -/
theorem attempt
    {δ : Type}
    {program : Prog σ ε α}
    (kept : Keeps invariant program) :
    Keeps invariant (Prog.attempt program : Prog σ δ (Except ε α)) := by
  intro state holds
  obtain ⟨onReturn, onError⟩ := kept state holds
  unfold Prog.attempt
  constructor
  · intro value final returned
    split at returned
    · cases returned
      exact onReturn _ _ ‹_›
    · cases returned
      exact onError _ _ ‹_›
    · cases returned
  · intro error final failed
    split at failed
    · cases failed
    · cases failed
    · cases failed

end Keeps

/-- A part of the state that is the same on both exits as before. -/
def Preserves
    (view : σ → β)
    (program : Prog σ ε α) : Prop :=
  ∀ seen, Keeps (fun state => view state = seen) program

namespace Preserves

variable {view : σ → τ}

theorem of_readOnly
    {program : Prog σ ε α}
    (reads : ReadOnly program) :
    Preserves view program :=
  fun _ => .of_readOnly reads

theorem modify
    {change : σ → σ}
    (same : ∀ state, view (change state) = view state) :
    Preserves view (Prog.modify change : Prog σ ε Unit) :=
  fun _ => .modify fun state holds => (same state).trans holds

theorem bind
    {first : Prog σ ε α}
    {next : α → Prog σ ε β}
    (firstPreserves : Preserves view first)
    (nextPreserves : ∀ value, Preserves view (next value)) :
    Preserves view (first >>= next) :=
  fun seen =>
    .bind (firstPreserves seen) fun value => nextPreserves value seen

theorem ite
    [Decidable condition]
    {yes no : Prog σ ε α}
    (yesPreserves : Preserves view yes)
    (noPreserves : Preserves view no) :
    Preserves view (if condition then yes else no) :=
  fun seen => .ite (yesPreserves seen) (noPreserves seen)

theorem gets_bind
    {read : σ → β}
    {next : β → Prog σ ε α}
    (nextEnsures :
      ∀ looked,
        Ensures (fun state => state = looked) (next (read looked))
          (fun _ state => view state = view looked)
          fun state => view state = view looked) :
    Preserves view (Prog.gets read >>= next) := by
  rintro _ state rfl
  rw [gets_bind_apply]
  exact nextEnsures state state rfl

theorem change
    {looked : σ}
    {change : σ → σ}
    {next : Prog σ ε α}
    (same : view (change looked) = view looked)
    (preserves : Preserves view next) :
    Ensures (fun state => state = looked)
      (Prog.modify change >>= fun _ => next)
      (fun _ state => view state = view looked)
      fun state => view state = view looked := by
  rintro _ rfl
  exact preserves _ _ same

theorem modify_pure
    {change : σ → σ}
    (same : ∀ state, view (change state) = view state)
    (value : α) :
    Preserves view
      (Prog.modify change >>= fun _ => Pure.pure value : Prog σ ε α) :=
  .bind (.modify same) fun _ => .of_readOnly (.pure _)

theorem of_ok
    {program : Prog σ ε α}
    (preserves : Preserves view program)
    {state final : σ}
    {value : α}
    (returned : program state = .ok value final) :
    view final = view state :=
  (preserves _ state rfl).1 _ _ returned

theorem of_err
    {program : Prog σ ε α}
    (preserves : Preserves view program)
    {state final : σ}
    {error : ε}
    (failed : program state = .err error final) :
    view final = view state :=
  (preserves _ state rfl).2 _ _ failed

end Preserves

end Prog

/-! ## Runs -/

/-- What a step keeps, a finite run keeps. -/
theorem invariant_of_run
    {σ : Type}
    {step : σ → σ → Prop}
    (invariant : σ → Prop)
    (kept :
      ∀ before after,
        step before after →
        invariant before →
        invariant after)
    {initial final : σ}
    (run : Relation.ReflTransGen step initial final)
    (holds : invariant initial) :
    invariant final := by
  induction run with
  | refl =>
      exact holds
  | tail _ last inductionHypothesis =>
      exact kept _ _ last inductionHypothesis

end VibuxOS.Lib
