import VibuxOS.Lib.Prog

namespace VibuxOS.Lib

/-!
# Loops that wait between their turns

A turn of a waiting loop looks at the state and returns, or finds nothing.  Then
the loop waits, and the surroundings change the state before the next turn.  How
often the loop waits has no bound, so a reply is one that comes with some fuel.
-/

namespace Prog

variable {σ ε α : Type}

/-- Take turns until one returns, with a change of the state in between. -/
def awaits
    (between : Nat → σ → σ)
    (turn : Prog σ ε (Option α)) :
    Nat → Nat → Prog σ ε α
  | 0, _ => hang
  | fuel + 1, waits => do
      let found ← turn
      match found with
      | some value => pure value
      | none => do
          modify (between waits)
          awaits between turn fuel (waits + 1)

/-- The states in which the loop begins a turn. -/
inductive Begun
    (between : Nat → σ → σ)
    (turn : Prog σ ε (Option α))
    (start : σ) :
    Nat → σ → Prop where
  | first : Begun between turn start 0 start
  | next
      {waits : Nat}
      {state middle : σ}
      (begun : Begun between turn start waits state)
      (nothing : turn state = .ok none middle) :
      Begun between turn start (waits + 1) (between waits middle)

section Turns

variable
  {between : Nat → σ → σ}
  {turn : Prog σ ε (Option α)}
  {start state final : σ}
  {fuel waits : Nat}

theorem awaits_of_some
    {value : α}
    (returned : turn state = .ok (some value) final) :
    awaits between turn (fuel + 1) waits state = .ok value final := by
  rw [awaits, bind_of_ok returned]
  rfl

theorem awaits_of_err
    {error : ε}
    (failed : turn state = .err error final) :
    awaits between turn (fuel + 1) waits state = .err error final := by
  rw [awaits, bind_of_err failed]

theorem awaits_of_none
    {middle : σ}
    (nothing : turn state = .ok none middle) :
    awaits between turn (fuel + 1) waits state =
      awaits between turn fuel (waits + 1) (between waits middle) := by
  rw [awaits, bind_of_ok nothing]
  rfl

theorem awaits_of_begun
    (begun : Begun between turn start waits state)
    (fuel : Nat) :
    awaits between turn (waits + fuel) 0 start =
      awaits between turn fuel waits state := by
  induction begun generalizing fuel with
  | first =>
      rw [Nat.zero_add]
  | @next waits state middle _ nothing inductionHypothesis =>
      have later := inductionHypothesis (fuel + 1)
      rw [awaits_of_none nothing] at later
      rw [← later]
      congr 1
      omega

theorem exists_begun
    (begun : Begun between turn start waits state)
    (ended : awaits between turn fuel waits state ≠ .hang) :
    ∃ later last,
      Begun between turn start later last ∧
        ((∃ value final,
            turn last = .ok (some value) final ∧
              awaits between turn fuel waits state = .ok value final) ∨
          ∃ error final,
            turn last = .err error final ∧
              awaits between turn fuel waits state = .err error final) := by
  induction fuel generalizing waits state with
  | zero =>
      exact absurd rfl ended
  | succ fuel inductionHypothesis =>
      cases result : turn state with
      | ok found middle =>
          cases found with
          | some value =>
              exact
                ⟨waits, state, begun,
                  .inl ⟨value, middle, result, awaits_of_some result⟩⟩
          | none =>
              rw [awaits_of_none result] at ended ⊢
              exact inductionHypothesis (begun.next result) ended
      | err error middle =>
          exact
            ⟨waits, state, begun,
              .inr ⟨error, middle, result, awaits_of_err result⟩⟩
      | hang =>
          rw [awaits, bind_of_hang result] at ended
          exact absurd rfl ended

theorem awaits_eq_ok
    {value : α} :
    (∃ fuel, awaits between turn fuel 0 start = .ok value final) ↔
      ∃ waits state,
        Begun between turn start waits state ∧
          turn state = .ok (some value) final := by
  constructor
  · rintro ⟨fuel, returned⟩
    have ended : awaits between turn fuel 0 start ≠ .hang := by
      rw [returned]
      nofun
    obtain ⟨waits, state, begun, ⟨_, _, last, same⟩ | ⟨_, _, _, same⟩⟩ :=
      exists_begun .first ended
    · rw [returned] at same
      cases same
      exact ⟨waits, state, begun, last⟩
    · rw [returned] at same
      cases same
  · rintro ⟨waits, state, begun, returned⟩
    exact
      ⟨waits + 1,
        (awaits_of_begun begun 1).trans (awaits_of_some returned)⟩

theorem awaits_eq_err
    {error : ε} :
    (∃ fuel, awaits between turn fuel 0 start = .err error final) ↔
      ∃ waits state,
        Begun between turn start waits state ∧
          turn state = .err error final := by
  constructor
  · rintro ⟨fuel, failed⟩
    have ended : awaits between turn fuel 0 start ≠ .hang := by
      rw [failed]
      nofun
    obtain ⟨waits, state, begun, ⟨_, _, _, same⟩ | ⟨_, _, last, same⟩⟩ :=
      exists_begun .first ended
    · rw [failed] at same
      cases same
    · rw [failed] at same
      cases same
      exact ⟨waits, state, begun, last⟩
  · rintro ⟨waits, state, begun, failed⟩
    exact
      ⟨waits + 1, (awaits_of_begun begun 1).trans (awaits_of_err failed)⟩

theorem raises_awaits
    {property : ε → Prop}
    (raises : Raises property turn)
    (fuel : Nat) :
    Raises property (awaits between turn fuel 0) := by
  intro state error final failed
  obtain ⟨_, _, _, last⟩ := awaits_eq_err.mp ⟨fuel, failed⟩
  exact raises _ _ _ last

end Turns

/-- Loops with the same turns are the same. -/
theorem awaits_congr
    {between : Nat → σ → σ}
    {left right : Prog σ ε (Option α)}
    {start state : σ}
    {fuel waits : Nat}
    (same :
      ∀ waits state,
        Begun between left start waits state →
        left state = right state)
    (begun : Begun between left start waits state) :
    awaits between left fuel waits state =
      awaits between right fuel waits state := by
  induction fuel generalizing waits state with
  | zero =>
      rfl
  | succ fuel inductionHypothesis =>
      rw [awaits, awaits]
      have here := same _ _ begun
      cases result : left state with
      | ok found middle =>
          rw [bind_of_ok result, bind_of_ok (here.symm.trans result)]
          cases found with
          | some value =>
              rfl
          | none =>
              exact inductionHypothesis (begun.next result)
      | err error middle =>
          rw [bind_of_err result, bind_of_err (here.symm.trans result)]
      | hang =>
          rw [bind_of_hang result, bind_of_hang (here.symm.trans result)]

end Prog

end VibuxOS.Lib
