import VibuxOS.Waiting.Scans

namespace VibuxOS.Waiting

open VibuxOS.Lib VibuxOS.Paging
open VibuxOS.Files (pollIn pollOut)

/-!
# The scans of `select_impl` and `pselect_impl`

Both loops ask about every descriptor of the requested sets, for reading and for
writing.  Only the first one goes on to ask about exceptions.
-/

variable
  {moment : Moment}
  {events : UInt16}
  {requested : Sets}

/-- A requested descriptor reports something for the events of its set. -/
def Moment.found
    (moment : Moment)
    (requested : FdSet)
    (events : UInt16)
    (fd : Nat) :
    Bool :=
  requested.has fd && (moment.reports fd events).any (· != 0)

/-- A look at a descriptor of a set does not panic. -/
def Looks
    (moment : Moment)
    (requested : FdSet)
    (events : UInt16)
    (fd : Nat) : Prop :=
  requested.has fd = true → (moment.reports fd events).isSome = true

/-- The result set and the count after a look at a descriptor. -/
def Moment.enter
    (moment : Moment)
    (requested : FdSet)
    (events : UInt16)
    (fd : Nat)
    (ready : FdSet × Nat) :
    FdSet × Nat :=
  if moment.found requested events fd = true then
    (ready.1.insert fd, ready.2 + 1)
  else
    ready

theorem checkSet_of_looks
    {requested : FdSet}
    {fd : Nat}
    (looks : Looks moment requested events fd)
    (ready : FdSet × Nat) :
    checkSet requested events fd ready moment =
      .ok (moment.enter requested events fd ready) moment := by
  unfold checkSet Moment.enter Moment.found
  cases has : requested.has fd with
  | false =>
      simp
  | true =>
      obtain ⟨revents, reports⟩ :=
        Option.isSome_iff_exists.mp (looks has)
      rw [if_pos rfl, Prog.bind_of_ok (pollFdRevents_of_some reports), reports]
      by_cases none : revents = 0
      · simp [none]
      · simp [none]

theorem checkSet_of_not_looks
    {requested : FdSet}
    {fd : Nat}
    (panics : ¬ Looks moment requested events fd)
    (ready : FdSet × Nat) :
    checkSet requested events fd ready moment = .hang := by
  unfold Looks at panics
  rw [Classical.not_imp, Option.not_isSome_iff_eq_none] at panics
  unfold checkSet
  rw [if_pos panics.1, Prog.bind_of_hang (pollFdRevents_of_none panics.2)]

/-! ## Whole scans -/

/-- Looks at some descriptors of a set do not panic. -/
def LooksFrom
    (moment : Moment)
    (requested : FdSet)
    (events : UInt16)
    (fd left : Nat) : Prop :=
  ∀ other, fd ≤ other → other < fd + left → Looks moment requested events other

theorem looksFrom_succ
    {requested : FdSet}
    {fd left : Nat} :
    LooksFrom moment requested events fd (left + 1) ↔
      Looks moment requested events fd ∧
        LooksFrom moment requested events (fd + 1) left := by
  constructor
  · intro looks
    refine ⟨looks fd (Nat.le_refl _) (by omega), ?_⟩
    intro other after before
    exact looks other (by omega) (by omega)
  · rintro ⟨first, others⟩ other after before
    rcases Nat.eq_or_lt_of_le after with rfl | above
    · exact first
    · exact others other above (by omega)

/-- The number of some descriptors of a set that report something. -/
def readyBits
    (moment : Moment)
    (requested : FdSet)
    (events : UInt16)
    (fd left : Nat) :
    Nat :=
  (List.range' fd left).countP (moment.found requested events)

/-- The descriptors of a set that report something enter a result set. -/
def gather
    (moment : Moment)
    (requested : FdSet)
    (events : UInt16) :
    Nat → Nat → FdSet → FdSet
  | 0, _, set => set
  | left + 1, fd, set =>
      gather moment requested events left (fd + 1)
        (moment.enter requested events fd (set, 0)).1

theorem readyBits_succ
    (moment : Moment)
    (requested : FdSet)
    (events : UInt16)
    (fd left : Nat)
    (ready : FdSet × Nat) :
    (moment.enter requested events fd ready).2 +
        readyBits moment requested events (fd + 1) left =
      ready.2 + readyBits moment requested events fd (left + 1) := by
  unfold readyBits Moment.enter
  rw [List.range'_succ, List.countP_cons]
  split
  · dsimp only
    omega
  · omega

theorem enter_fst
    (moment : Moment)
    (requested : FdSet)
    (events : UInt16)
    (fd : Nat)
    (ready : FdSet × Nat) :
    (moment.enter requested events fd ready).1 =
      (moment.enter requested events fd (ready.1, 0)).1 := by
  unfold Moment.enter
  split <;> rfl

/-- The three sets of a scan are looked at without a panic. -/
structure LooksSelect
    (moment : Moment)
    (requested : Sets)
    (fd left : Nat) : Prop where
  read : LooksFrom moment requested.read pollIn fd left
  write : LooksFrom moment requested.write pollOut fd left
  except : LooksFrom moment requested.except pollPri fd left

theorem scanSelect_of_looks
    {left fd count : Nat}
    (looks : LooksSelect moment requested fd left)
    (ready : Sets) :
    scanSelect requested left fd ready count moment =
      .ok
        (⟨gather moment requested.read pollIn left fd ready.read,
            gather moment requested.write pollOut left fd ready.write,
            gather moment requested.except pollPri left fd ready.except⟩,
          count + readyBits moment requested.read pollIn fd left +
            readyBits moment requested.write pollOut fd left +
            readyBits moment requested.except pollPri fd left)
        moment := by
  induction left generalizing fd ready count with
  | zero =>
      rfl
  | succ left inductionHypothesis =>
      obtain ⟨readFirst, readOthers⟩ := looksFrom_succ.mp looks.read
      obtain ⟨writeFirst, writeOthers⟩ := looksFrom_succ.mp looks.write
      obtain ⟨exceptFirst, exceptOthers⟩ := looksFrom_succ.mp looks.except
      rw [scanSelect, Prog.bind_of_ok (checkSet_of_looks readFirst _),
        Prog.bind_of_ok (checkSet_of_looks writeFirst _),
        Prog.bind_of_ok (checkSet_of_looks exceptFirst _),
        inductionHypothesis ⟨readOthers, writeOthers, exceptOthers⟩]
      have counted :=
        readyBits_succ moment requested.read pollIn fd left
          (ready.read, count)
      have countedThen :=
        readyBits_succ moment requested.write pollOut fd left
          (ready.write,
            (moment.enter requested.read pollIn fd (ready.read, count)).2)
      have countedLast :=
        readyBits_succ moment requested.except pollPri fd left
          (ready.except,
            (moment.enter requested.write pollOut fd
              (ready.write,
                (moment.enter requested.read pollIn fd
                  (ready.read, count)).2)).2)
      congr 2
      · rw [enter_fst moment requested.read, enter_fst moment requested.write,
          enter_fst moment requested.except]
        rfl
      · dsimp only at counted countedThen countedLast
        omega

theorem scanSelect_of_not_looks
    {left fd count : Nat}
    (panics : ¬ LooksSelect moment requested fd left)
    (ready : Sets) :
    scanSelect requested left fd ready count moment = .hang := by
  induction left generalizing fd ready count with
  | zero =>
      refine absurd ⟨?_, ?_, ?_⟩ panics <;>
        exact fun other after before => by omega
  | succ left inductionHypothesis =>
      rw [scanSelect]
      by_cases read : Looks moment requested.read pollIn fd
      · rw [Prog.bind_of_ok (checkSet_of_looks read _)]
        by_cases write : Looks moment requested.write pollOut fd
        · rw [Prog.bind_of_ok (checkSet_of_looks write _)]
          by_cases except : Looks moment requested.except pollPri fd
          · rw [Prog.bind_of_ok (checkSet_of_looks except _)]
            apply inductionHypothesis
            rintro ⟨readOthers, writeOthers, exceptOthers⟩
            exact
              panics
                ⟨looksFrom_succ.mpr ⟨read, readOthers⟩,
                  looksFrom_succ.mpr ⟨write, writeOthers⟩,
                  looksFrom_succ.mpr ⟨except, exceptOthers⟩⟩
          · exact Prog.bind_of_hang (checkSet_of_not_looks except _)
        · exact Prog.bind_of_hang (checkSet_of_not_looks write _)
      · exact Prog.bind_of_hang (checkSet_of_not_looks read _)

/-- The two sets of a scan are looked at without a panic. -/
structure LooksPselect
    (moment : Moment)
    (requested : Sets)
    (fd left : Nat) : Prop where
  read : LooksFrom moment requested.read pollIn fd left
  write : LooksFrom moment requested.write pollOut fd left

theorem scanPselect_of_looks
    {left fd count : Nat}
    (looks : LooksPselect moment requested fd left)
    (ready : Sets) :
    scanPselect requested left fd ready count moment =
      .ok
        (⟨gather moment requested.read pollIn left fd ready.read,
            gather moment requested.write pollOut left fd ready.write,
            ready.except⟩,
          count + readyBits moment requested.read pollIn fd left +
            readyBits moment requested.write pollOut fd left)
        moment := by
  induction left generalizing fd ready count with
  | zero =>
      rfl
  | succ left inductionHypothesis =>
      obtain ⟨readFirst, readOthers⟩ := looksFrom_succ.mp looks.read
      obtain ⟨writeFirst, writeOthers⟩ := looksFrom_succ.mp looks.write
      rw [scanPselect, Prog.bind_of_ok (checkSet_of_looks readFirst _),
        Prog.bind_of_ok (checkSet_of_looks writeFirst _),
        inductionHypothesis ⟨readOthers, writeOthers⟩]
      have counted :=
        readyBits_succ moment requested.read pollIn fd left
          (ready.read, count)
      have countedThen :=
        readyBits_succ moment requested.write pollOut fd left
          (ready.write,
            (moment.enter requested.read pollIn fd (ready.read, count)).2)
      congr 2
      · rw [enter_fst moment requested.read, enter_fst moment requested.write]
        rfl
      · dsimp only at counted countedThen
        omega

theorem scanPselect_of_not_looks
    {left fd count : Nat}
    (panics : ¬ LooksPselect moment requested fd left)
    (ready : Sets) :
    scanPselect requested left fd ready count moment = .hang := by
  induction left generalizing fd ready count with
  | zero =>
      refine absurd ⟨?_, ?_⟩ panics <;>
        exact fun other after before => by omega
  | succ left inductionHypothesis =>
      rw [scanPselect]
      by_cases read : Looks moment requested.read pollIn fd
      · rw [Prog.bind_of_ok (checkSet_of_looks read _)]
        by_cases write : Looks moment requested.write pollOut fd
        · rw [Prog.bind_of_ok (checkSet_of_looks write _)]
          apply inductionHypothesis
          rintro ⟨readOthers, writeOthers⟩
          exact
            panics
              ⟨looksFrom_succ.mpr ⟨read, readOthers⟩,
                looksFrom_succ.mpr ⟨write, writeOthers⟩⟩
        · exact Prog.bind_of_hang (checkSet_of_not_looks write _)
      · exact Prog.bind_of_hang (checkSet_of_not_looks read _)

end VibuxOS.Waiting
