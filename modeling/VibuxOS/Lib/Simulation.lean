import VibuxOS.Lib.Prog

namespace VibuxOS.Lib

/-!
# Programs that follow a specification

Two programs over different states are related when they end in the same way,
with the same value or error, in related states.  A run of calls follows its
specification when every call does, each from the states the ones before left.
-/

variable {σ τ ε α β κ : Type}

/-- The same end, in related states. -/
inductive Outcome.Related
    (R : σ → τ → Prop) :
    Outcome σ ε α →
    Outcome τ ε α →
    Prop
  | ok
      (value : α)
      {state : σ}
      {other : τ}
      (related : R state other) :
      Related R (.ok value state) (.ok value other)
  | err
      (error : ε)
      {state : σ}
      {other : τ}
      (related : R state other) :
      Related R (.err error state) (.err error other)
  | hang :
      Related R .hang .hang

namespace Outcome.Related

variable {R : σ → τ → Prop}

theorem of_ok
    {value other : α}
    {state : σ}
    {otherState : τ}
    (related :
      Related R (.ok value state : Outcome σ ε α) (.ok other otherState)) :
    value = other ∧ R state otherState := by
  cases related with
  | ok _ related =>
      exact ⟨rfl, related⟩

section

variable
  {left : Outcome σ ε α}
  {right : Outcome τ ε α}
  {state : σ}
  (related : Related R left right)
  (leftEnds : left.final? = some state)

include related leftEnds

theorem final
    {other : τ}
    (rightEnds : right.final? = some other) :
    R state other := by
  cases related with
  | ok value related =>
      cases leftEnds
      cases rightEnds
      exact related
  | err error related =>
      cases leftEnds
      cases rightEnds
      exact related
  | hang =>
      cases leftEnds

theorem ends :
    ∃ other, right.final? = some other := by
  cases related with
  | ok value related =>
      exact ⟨_, rfl⟩
  | err error related =>
      exact ⟨_, rfl⟩
  | hang =>
      cases leftEnds

end

theorem bind
    {S : σ → τ → Prop}
    {first : Prog σ ε α}
    {second : Prog τ ε α}
    {firstNext : α → Prog σ ε β}
    {secondNext : α → Prog τ ε β}
    {state : σ}
    {other : τ}
    (parts : Related R (first state) (second other))
    (errors : ∀ middle otherMiddle, R middle otherMiddle → S middle otherMiddle)
    (nexts :
      ∀ value middle otherMiddle,
        R middle otherMiddle →
        Related S (firstNext value middle) (secondNext value otherMiddle)) :
    Related S ((first >>= firstNext) state) ((second >>= secondNext) other) := by
  generalize leftEnd : first state = left at parts
  generalize rightEnd : second other = right at parts
  cases parts with
  | ok value related =>
      rw [Prog.bind_of_ok leftEnd, Prog.bind_of_ok rightEnd]
      exact nexts value _ _ related
  | err error related =>
      rw [Prog.bind_of_err leftEnd, Prog.bind_of_err rightEnd]
      exact .err error (errors _ _ related)
  | hang =>
      rw [Prog.bind_of_hang leftEnd, Prog.bind_of_hang rightEnd]
      exact .hang

theorem of_map
    {first : Prog σ ε α}
    {second : Prog τ ε α}
    {change : α → β}
    (injective : Function.Injective change)
    {state : σ}
    {other : τ}
    (mapped :
      Related R ((first >>= fun value => pure (change value)) state)
        ((second >>= fun value => pure (change value)) other)) :
    Related R (first state) (second other) := by
  cases leftEnd : first state with
  | ok value middle =>
      rw [Prog.bind_of_ok leftEnd] at mapped
      cases rightEnd : second other with
      | ok otherValue otherMiddle =>
          rw [Prog.bind_of_ok rightEnd] at mapped
          obtain ⟨same, related⟩ := of_ok mapped
          rw [injective same]
          exact .ok _ related
      | err error otherMiddle =>
          rw [Prog.bind_of_err rightEnd] at mapped
          cases mapped
      | hang =>
          rw [Prog.bind_of_hang rightEnd] at mapped
          cases mapped
  | err error middle =>
      rw [Prog.bind_of_err leftEnd] at mapped
      cases rightEnd : second other with
      | ok otherValue otherMiddle =>
          rw [Prog.bind_of_ok rightEnd] at mapped
          cases mapped
      | err otherError otherMiddle =>
          rw [Prog.bind_of_err rightEnd] at mapped
          cases mapped with
          | err _ related =>
              exact .err _ related
      | hang =>
          rw [Prog.bind_of_hang rightEnd] at mapped
          cases mapped
  | hang =>
      rw [Prog.bind_of_hang leftEnd] at mapped
      cases rightEnd : second other with
      | ok otherValue otherMiddle =>
          rw [Prog.bind_of_ok rightEnd] at mapped
          cases mapped
      | err otherError otherMiddle =>
          rw [Prog.bind_of_err rightEnd] at mapped
          cases mapped
      | hang =>
          exact .hang

theorem map
    {first : Prog σ ε α}
    {second : Prog τ ε α}
    {state : σ}
    {other : τ}
    (related : Related R (first state) (second other))
    (change : α → β) :
    Related R ((first >>= fun value => pure (change value)) state)
      ((second >>= fun value => pure (change value)) other) :=
  related.bind (fun _ _ between => between) fun _ _ _ between => .ok _ between

end Outcome.Related

/-! ## Runs of calls -/

/-- A property of every call of a run, in the state it meets. -/
def Along
    (run : κ → Prog σ ε α)
    (property : κ → σ → Prop) :
    List κ → σ → Prop
  | [], _ => True
  | call :: rest, state =>
      property call state ∧
        ∀ next,
          (run call state).final? = some next →
          Along run property rest next

/-- Every call of a run ends like its specification, in related states. -/
def Follows
    (R : σ → τ → Prop)
    (run : κ → Prog σ ε α)
    (specification : κ → Prog τ ε α) :
    List κ → σ → τ → Prop
  | [], _, _ => True
  | call :: rest, state, other =>
      Outcome.Related R (run call state) (specification call other) ∧
        ∀ next otherNext,
          (run call state).final? = some next →
          (specification call other).final? = some otherNext →
          Follows R run specification rest next otherNext

theorem follows_iff_along
    {R : σ → τ → Prop}
    {run : κ → Prog σ ε α}
    {specification : κ → Prog τ ε α}
    {domain good : κ → σ → Prop}
    (step :
      ∀ call state other,
        R state other →
        domain call state →
        (Outcome.Related R (run call state) (specification call other) ↔
          good call state))
    {calls : List κ}
    {state : σ}
    {other : τ}
    (related : R state other)
    (inDomain : Along run domain calls state) :
    Follows R run specification calls state other ↔
      Along run good calls state := by
  induction calls generalizing state other with
  | nil =>
      exact Iff.rfl
  | cons call rest inductionHypothesis =>
      obtain ⟨first, later⟩ := inDomain
      constructor
      · rintro ⟨follows, restFollows⟩
        refine ⟨(step call state other related first).mp follows, ?_⟩
        intro next ended
        obtain ⟨otherNext, otherEnded⟩ := follows.ends ended
        exact
          (inductionHypothesis (follows.final ended otherEnded)
            (later next ended)).mp
            (restFollows next otherNext ended otherEnded)
      · rintro ⟨good, restGood⟩
        have follows := (step call state other related first).mpr good
        refine ⟨follows, ?_⟩
        intro next otherNext ended otherEnded
        exact
          (inductionHypothesis (follows.final ended otherEnded)
            (later next ended)).mpr
            (restGood next ended)

end VibuxOS.Lib
