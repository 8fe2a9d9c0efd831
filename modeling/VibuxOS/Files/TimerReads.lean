import VibuxOS.Files.EventCounters
import VibuxOS.Lib.Periods

namespace VibuxOS.Files

open VibuxOS.Lib

/-!
# Reads of a timer

A read that finds a timer expired returns how often it has expired since the
last such read, and moves the time of its expiry on by as many intervals.  What
all reads return adds up to the number of all expirations.
-/

/-- The timer of a descriptor. -/
def State.timerOf (state : State) (fdNumber : Int) : TimerFdState :=
  state.timerFds (state.fds fdNumber.toNat).id

/-- What a read of a timer delivers: the number that it returns, if any. -/
def delivered : Outcome State Errno (List UInt8) → Nat
  | .ok bytes _ => leValue (fun index => bytes.getD index 0) bytes.length
  | .err _ _ => 0
  | .hang => 0

/--
What the reads up to some time have delivered, and when the timer expires next.
A timer without an interval expires once.
-/
structure DeliveredBy
    (first interval now total : Nat)
    (timer : TimerFdState) : Prop where
  before : now < first → total = 0
  once : first ≤ now → interval = 0 → total = 1
  all :
    first ≤ now →
    0 < interval →
    (occurred first interval now).ncard = total ∧
      IsLeast (upcoming first interval now) timer.expiresNs.toNat

/--
A sequence of reads of eight bytes comes back from all of them, and after each
of them what they have delivered so far is what it has to be.
-/
def DeliversAll
    (fdNumber : Int)
    (first interval : Nat) :
    List World →
    State →
    Nat →
    Prop
  | [], _, _ => True
  | world :: rest, state, total =>
      ∃ next,
        (readFd world fdNumber 8 state).final? = some next ∧
          DeliveredBy first interval world.nowNs.toNat
            (total + delivered (readFd world fdNumber 8 state))
            (next.timerOf fdNumber) ∧
          DeliversAll fdNumber first interval rest next
            (total + delivered (readFd world fdNumber 8 state))

/-! ## The descriptor of a timer -/

/-- An open descriptor for reading, of a timer that is in use. -/
structure TimerFd (state : State) (fdNumber : Int) : Prop where
  isOpen : OpenFd state.fds fdNumber
  isTimer : (state.fds fdNumber.toNat).kind = .timerFd
  readOnly : (state.fds fdNumber.toNat).flags &&& Syscall.oAccmode = 0
  inTable : (state.fds fdNumber.toNat).id < timerfdMax
  used : (state.timerOf fdNumber).used = true

theorem timerfdAlloc_eq_ok
    {clockId flags : UInt64}
    {state created : ObjectState}
    {number : Nat}
    (made : timerfdAlloc clockId flags state = .ok number created) :
    TimerFd created.toState number ∧
      created.toState.timerOf number =
        { TimerFdState.empty with used := true } := by
  unfold timerfdAlloc at made
  split at made
  · cases made
  · rename_i allowed
    split at made
    · cases made
    · obtain ⟨id, started, found, inside, isCreated⟩ := allocObject_eq_ok made
      obtain ⟨inTable, _⟩ := firstUnused_free found
      have isFd :
          created.toState.fds (number : Int).toNat =
            objectFd .timerFd flags id := by
        rw [isCreated, Int.toNat_natCast, fds_setFd_self]
      have sameId :=
        id_objectFd .timerFd flags (Nat.lt_trans inTable (by decide))
      have isTimer :
          created.toState.timerOf number =
            { TimerFdState.empty with used := true } := by
        rw [State.timerOf, isFd, sameId, isCreated]
        exact Function.update_self _ _ _
      refine ⟨⟨⟨by omega, by omega, ?_⟩, ?_, ?_, ?_, ?_⟩, isTimer⟩
      · rw [isFd]
        rfl
      · rw [isFd]
        rfl
      · rw [isFd]
        exact accmode_of_fdFlags (not_not.mp allowed)
      · rw [isFd, sameId]
        exact inTable
      · rw [isTimer]

section Reads

variable
  {world : World}
  {state : State}
  {fdNumber : Int}

/-- The state with another timer behind a descriptor. -/
def State.withTimer
    (state : State)
    (fdNumber : Int)
    (timer : TimerFdState) :
    State :=
  state.setTimerFd (state.fds fdNumber.toNat).id timer

@[simp] theorem timerOf_withTimer (timer : TimerFdState) :
    (state.withTimer fdNumber timer).timerOf fdNumber = timer :=
  Function.update_self _ _ _

namespace TimerFd

theorem withTimer
    {timer : TimerFdState}
    (isFd : TimerFd state fdNumber)
    (used : timer.used = true) :
    TimerFd (state.withTimer fdNumber timer) fdNumber where
  isOpen := isFd.isOpen
  isTimer := isFd.isTimer
  readOnly := isFd.readOnly
  inTable := isFd.inTable
  used := by rwa [timerOf_withTimer]

theorem readable (isFd : TimerFd state fdNumber) :
    readFd world fdNumber 8 state =
      timerFdRead world (state.fds fdNumber.toNat) 8 state := by
  have isReadable : fdReadable (state.fds fdNumber.toNat) = true := by
    unfold fdReadable
    rw [isFd.readOnly]
    rfl
  rw [readFd_of_open isFd.isOpen (by decide), if_neg (by simp [isReadable])]
  unfold readKind
  rw [isFd.isTimer]

theorem read_disarmed
    (isFd : TimerFd state fdNumber)
    (disarmed : (state.timerOf fdNumber).armed = false) :
    readFd world fdNumber 8 state = .err .eagain state ∨
      readFd world fdNumber 8 state = .ok [] state := by
  have used := isFd.used
  unfold State.timerOf at used disarmed
  rw [isFd.readable, timerFdRead, if_neg (Nat.not_le.mpr isFd.inTable),
    Prog.gets_bind_apply, if_neg (by simp [used]), if_pos disarmed]
  split
  · exact .inl rfl
  · exact .inr rfl

theorem read_early
    (isFd : TimerFd state fdNumber)
    (armed : (state.timerOf fdNumber).armed = true)
    (early : world.nowNs < (state.timerOf fdNumber).expiresNs) :
    readFd world fdNumber 8 state = .err .eagain state := by
  have used := isFd.used
  unfold State.timerOf at used armed early
  rw [isFd.readable, timerFdRead, if_neg (Nat.not_le.mpr isFd.inTable),
    Prog.gets_bind_apply, if_neg (by simp [used]), if_neg (by simp [armed]),
    if_pos early]
  rfl

theorem read_expired
    (isFd : TimerFd state fdNumber)
    (maps : world.Maps 8)
    (armed : (state.timerOf fdNumber).armed = true)
    (expired : (state.timerOf fdNumber).expiresNs ≤ world.nowNs) :
    readFd world fdNumber 8 state =
      .ok (leBytes (expirations (state.timerOf fdNumber) world.nowNs) 8)
        (state.withTimer fdNumber
          ((state.timerOf fdNumber).fired world.nowNs)) := by
  have used := isFd.used
  unfold State.timerOf at used armed expired
  rw [isFd.readable, timerFdRead, if_neg (Nat.not_le.mpr isFd.inTable),
    Prog.gets_bind_apply, if_neg (by simp [used]), if_neg (by simp [armed]),
    if_neg (UInt64.not_lt.mpr expired), Prog.modify_bind_apply,
    if_neg (by decide), copyUserOut_eq, length_leBytes,
    if_pos (maps 0 8 (by decide))]
  rfl

end TimerFd

end Reads

/-! ## The numbers -/

section Numbers

variable
  {timer : TimerFdState}
  {nowNs : UInt64}
  {first interval total : Nat}

theorem delivered_leBytes (value : UInt64) (final : State) :
    delivered (.ok (leBytes value 8) final) = value.toNat :=
  leValue_leBytes value

/-- The next expiry is in 64 bits. -/
abbrev NextFits (first interval now : Nat) : Prop :=
  first ≤ now → first + ((now - first) / interval + 1) * interval < 2 ^ 64

theorem newEvents_eq
    (reached : first + total * interval ≤ nowNs.toNat)
    (positive : 0 < interval) :
    total + newEvents (first + total * interval) interval nowNs.toNat =
      (nowNs.toNat - first) / interval + 1 := by
  have whole :
      nowNs.toNat - first =
        nowNs.toNat - (first + total * interval) + total * interval := by
    omega
  rw [newEvents, if_pos reached, whole,
    Nat.add_mul_div_right _ _ positive]
  omega

theorem fired_periodic
    (isInterval : timer.intervalNs.toNat = interval)
    (positive : 0 < interval)
    (isNext : timer.expiresNs.toNat = first + total * interval)
    (expired : timer.expiresNs ≤ nowNs)
    (fits : NextFits first interval nowNs.toNat) :
    (expirations timer nowNs).toNat =
        newEvents (first + total * interval) interval nowNs.toNat ∧
      (timer.fired nowNs).expiresNs.toNat =
        first +
          (total +
              newEvents (first + total * interval) interval nowNs.toNat) *
            interval := by
  have reached := UInt64.le_iff_toNat_le.mp expired
  rw [isNext] at reached
  have behind := fits (by omega)
  rw [← newEvents_eq reached positive] at behind
  have notZero : timer.intervalNs ≠ 0 := by
    rintro isZero
    rw [isZero, UInt64.toNat_zero] at isInterval
    omega
  have quotient :
      ((nowNs - timer.expiresNs) / timer.intervalNs).toNat =
        (nowNs.toNat - (first + total * interval)) / interval := by
    rw [UInt64.toNat_div, UInt64.toNat_sub_of_le _ _ expired, isNext,
      isInterval]
  generalize isNew :
    newEvents (first + total * interval) interval nowNs.toNat = new
    at behind
  have newIs := isNew
  rw [newEvents, if_pos reached] at newIs
  have inOrder : new ≤ new * interval := Nat.le_mul_of_pos_right _ positive
  rw [Nat.add_mul] at behind
  have times : (expirations timer nowNs).toNat = new := by
    rw [expirations, if_pos notZero, UInt64.toNat_add, quotient,
      UInt64.toNat_one]
    omega
  refine ⟨times, ?_⟩
  rw [TimerFdState.fired, if_pos notZero, UInt64.toNat_add, UInt64.toNat_mul,
    times, isNext, isInterval, Nat.add_mul]
  omega

end Numbers

/-! ## Sequences of reads -/

section Runs

variable
  {state : State}
  {fdNumber : Int}
  {first interval total : Nat}
  {reads : List World}

/-- A timer with an interval, some of whose expirations were delivered. -/
structure Periodic
    (first interval total : Nat)
    (timer : TimerFdState) : Prop where
  armed : timer.armed = true
  isInterval : timer.intervalNs.toNat = interval
  positive : 0 < interval
  isNext : timer.expiresNs.toNat = first + total * interval

theorem deliversAll_of_periodic
    (isFd : TimerFd state fdNumber)
    (periodic : Periodic first interval total (state.timerOf fdNumber))
    (maps : ∀ world ∈ reads, world.Maps 8)
    (inOrder :
      reads.Pairwise fun early late => early.nowNs ≤ late.nowNs)
    (past :
      ∀ world ∈ reads,
        ∀ index < total, first + index * interval ≤ world.nowNs.toNat)
    (fits :
      ∀ world ∈ reads, NextFits first interval world.nowNs.toNat) :
    DeliversAll fdNumber first interval reads state total := by
  induction reads generalizing state total with
  | nil =>
      trivial
  | cons world rest inductionHypothesis =>
      obtain ⟨earliest, restInOrder⟩ := List.pairwise_cons.mp inOrder
      obtain ⟨armed, isInterval, positive, isNext⟩ := periodic
      have counted :=
        Counted.again positive (past world List.mem_cons_self)
      have lawful :
          ∀ timer : TimerFdState,
            timer.expiresNs.toNat =
              first +
                (total +
                    newEvents (first + total * interval) interval
                      world.nowNs.toNat) *
                  interval →
            DeliveredBy first interval world.nowNs.toNat
              (total +
                newEvents (first + total * interval) interval
                  world.nowNs.toNat)
              timer := by
        intro timer expires
        refine ⟨?_, fun _ isZero => absurd isZero positive.ne', ?_⟩
        · intro early
          by_contra someCounted
          have oneCounted := counted.occurred 0 (Nat.pos_of_ne_zero someCounted)
          omega
        · intro _ _
          rw [expires]
          exact ⟨counted.ncard_occurred, counted.isLeast_upcoming⟩
      have pastRest :
          ∀ later ∈ rest,
            ∀ index <
                total +
                  newEvents (first + total * interval) interval
                    world.nowNs.toNat,
              first + index * interval ≤ later.nowNs.toNat := by
        intro later among index inside
        have isEarly := counted.occurred index inside
        have laterThan := UInt64.le_iff_toNat_le.mp (earliest later among)
        omega
      have mapsRest : ∀ later ∈ rest, later.Maps 8 :=
        fun later among => maps later (List.mem_cons_of_mem _ among)
      have fitsRest :
          ∀ later ∈ rest, NextFits first interval later.nowNs.toNat :=
        fun later among => fits later (List.mem_cons_of_mem _ among)
      by_cases expired : (state.timerOf fdNumber).expiresNs ≤ world.nowNs
      · have reads :=
          isFd.read_expired (maps world List.mem_cons_self) armed expired
        obtain ⟨times, expires⟩ :=
          fired_periodic isInterval positive isNext expired
            (fits world List.mem_cons_self)
        have notZero : (state.timerOf fdNumber).intervalNs ≠ 0 := by
          rintro isZero
          rw [isZero, UInt64.toNat_zero] at isInterval
          omega
        refine ⟨_, by rw [reads]; rfl, ?_, ?_⟩
        · rw [reads, delivered_leBytes, times, timerOf_withTimer]
          exact lawful _ expires
        · rw [reads, delivered_leBytes, times]
          apply inductionHypothesis _ _ mapsRest restInOrder pastRest fitsRest
          · apply isFd.withTimer
            rw [TimerFdState.fired, if_pos notZero]
            exact isFd.used
          · rw [timerOf_withTimer]
            refine ⟨?_, ?_, positive, expires⟩
            · rw [TimerFdState.fired, if_pos notZero]
              exact armed
            · rw [TimerFdState.fired, if_pos notZero]
              exact isInterval
      · rw [UInt64.not_le] at expired
        have reads := isFd.read_early armed expired
        have early := UInt64.lt_iff_toNat_lt.mp expired
        rw [isNext] at early
        have nothing :
            newEvents (first + total * interval) interval
                world.nowNs.toNat =
              0 := by
          rw [newEvents, if_neg (Nat.not_le.mpr early)]
        rw [nothing, Nat.add_zero] at lawful pastRest
        refine ⟨state, by rw [reads]; rfl, ?_, ?_⟩
        · rw [reads]
          exact lawful _ isNext
        · rw [reads]
          exact
            inductionHypothesis isFd ⟨armed, isInterval, positive, isNext⟩
              mapsRest restInOrder pastRest fitsRest

/-- A timer without an interval, before or after its only expiration. -/
def SingleShot (first total : Nat) (timer : TimerFdState) : Prop :=
  timer.intervalNs = 0 ∧
    (total = 0 ∧ timer.armed = true ∧ timer.expiresNs.toNat = first ∨
      total = 1 ∧ timer.armed = false)

theorem deliversAll_of_singleShot
    (isFd : TimerFd state fdNumber)
    (single : SingleShot first total (state.timerOf fdNumber))
    (maps : ∀ world ∈ reads, world.Maps 8)
    (inOrder :
      reads.Pairwise fun early late => early.nowNs ≤ late.nowNs)
    (past : total = 1 → ∀ world ∈ reads, first ≤ world.nowNs.toNat) :
    DeliversAll fdNumber first 0 reads state total := by
  induction reads generalizing state total with
  | nil =>
      trivial
  | cons world rest inductionHypothesis =>
      obtain ⟨earliest, restInOrder⟩ := List.pairwise_cons.mp inOrder
      have mapsRest : ∀ later ∈ rest, later.Maps 8 :=
        fun later among => maps later (List.mem_cons_of_mem _ among)
      obtain ⟨noInterval, ⟨rfl, armed, isNext⟩ | ⟨rfl, disarmed⟩⟩ := single
      · by_cases expired : (state.timerOf fdNumber).expiresNs ≤ world.nowNs
        · have reads :=
            isFd.read_expired (maps world List.mem_cons_self) armed expired
          have reached := UInt64.le_iff_toNat_le.mp expired
          rw [isNext] at reached
          have once :
              expirations (state.timerOf fdNumber) world.nowNs = 1 := by
            rw [expirations, if_neg (not_not.mpr noInterval)]
          have disarms :
              (state.timerOf fdNumber).fired world.nowNs =
                { state.timerOf fdNumber with armed := false } := by
            rw [TimerFdState.fired, if_neg (not_not.mpr noInterval)]
          rw [once, disarms] at reads
          have still :
              TimerFd
                (state.withTimer fdNumber
                  { state.timerOf fdNumber with armed := false })
                fdNumber :=
            isFd.withTimer isFd.used
          refine ⟨_, by rw [reads]; rfl, ?_, ?_⟩
          · rw [reads, delivered_leBytes]
            exact
              ⟨fun early => absurd early (Nat.not_lt.mpr reached),
                fun _ _ => rfl, fun _ positive => absurd rfl positive.ne'⟩
          · rw [reads, delivered_leBytes]
            apply inductionHypothesis still _ mapsRest restInOrder
            · intro _ later among
              have laterThan := UInt64.le_iff_toNat_le.mp (earliest later among)
              omega
            · rw [timerOf_withTimer]
              exact ⟨noInterval, .inr ⟨rfl, rfl⟩⟩
        · rw [UInt64.not_le] at expired
          have reads := isFd.read_early armed expired
          have early := UInt64.lt_iff_toNat_lt.mp expired
          rw [isNext] at early
          refine ⟨state, by rw [reads]; rfl, ?_, ?_⟩
          · rw [reads]
            exact
              ⟨fun _ => rfl, fun reached => absurd early (Nat.not_lt.mpr reached),
                fun _ positive => absurd rfl positive.ne'⟩
          · rw [reads]
            exact
              inductionHypothesis isFd ⟨noInterval, .inl ⟨rfl, armed, isNext⟩⟩
                mapsRest restInOrder nofun
      · have reached := past rfl world List.mem_cons_self
        have lawful :
            DeliveredBy first 0 world.nowNs.toNat (1 + 0)
              (state.timerOf fdNumber) :=
          ⟨fun early => absurd early (Nat.not_lt.mpr reached),
            fun _ _ => rfl, fun _ positive => absurd rfl positive.ne'⟩
        have goesOn : DeliversAll fdNumber first 0 rest state (1 + 0) :=
          inductionHypothesis isFd ⟨noInterval, .inr ⟨rfl, disarmed⟩⟩ mapsRest
            restInOrder
            fun _ later among => past rfl later (List.mem_cons_of_mem _ among)
        rcases @TimerFd.read_disarmed world state fdNumber isFd disarmed with
          waits | empty
        · refine ⟨state, by rw [waits]; rfl, ?_, ?_⟩ <;> rw [waits]
          · exact lawful
          · exact goesOn
        · refine ⟨state, by rw [empty]; rfl, ?_, ?_⟩ <;> rw [empty]
          · exact lawful
          · exact goesOn

end Runs

/--
Reads of an armed timer, at times that do not go back, deliver together exactly
its expirations, and keep the time of the next one.
-/
theorem timer_delivers_every_expiration
    {state : State}
    {fdNumber : Int}
    {reads : List World}
    (isFd : TimerFd state fdNumber)
    (armed : (state.timerOf fdNumber).armed = true)
    (maps : ∀ world ∈ reads, world.Maps 8)
    (inOrder :
      reads.Pairwise fun early late => early.nowNs ≤ late.nowNs)
    (fits :
      ∀ world ∈ reads,
        NextFits (state.timerOf fdNumber).expiresNs.toNat
          (state.timerOf fdNumber).intervalNs.toNat world.nowNs.toNat) :
    DeliversAll fdNumber (state.timerOf fdNumber).expiresNs.toNat
      (state.timerOf fdNumber).intervalNs.toNat reads state 0 := by
  by_cases isZero : (state.timerOf fdNumber).intervalNs = 0
  · rw [isZero]
    exact
      deliversAll_of_singleShot isFd ⟨isZero, .inl ⟨rfl, armed, rfl⟩⟩ maps
        inOrder nofun
  · have positive : 0 < (state.timerOf fdNumber).intervalNs.toNat := by
      apply Nat.pos_of_ne_zero
      exact fun same => isZero (UInt64.toNat_inj.mp same)
    apply
      deliversAll_of_periodic isFd ⟨armed, rfl, positive, ?_⟩ maps inOrder _
        fits
    · rw [Nat.zero_mul, Nat.add_zero]
    · exact fun _ _ _ inside => absurd inside (Nat.not_lt_zero _)

/-- A fresh process with a timer that is not armed, as descriptor 3. -/
def freshTimer : ObjectState :=
  (timerfdAlloc 1 0 ObjectState.booted).final?.getD ObjectState.booted

theorem freshTimer_isFd : TimerFd freshTimer.toState (3 : Nat) := by
  have made : timerfdAlloc 1 0 ObjectState.booted = .ok 3 freshTimer := rfl
  exact (timerfdAlloc_eq_ok made).1

/-- The timer expires at 10, and then every 4 nanoseconds. -/
def everyFour : TimerFdState where
  used := true
  expiresNs := 10
  intervalNs := 4
  armed := true

theorem timer_delivers_every_fourth :
    DeliversAll (3 : Nat) 10 4
      [{ World.idle with nowNs := 5 }, { World.idle with nowNs := 18 }]
      (freshTimer.toState.withTimer (3 : Nat) everyFour) 0 := by
  have isArmed :
      (freshTimer.toState.withTimer (3 : Nat) everyFour).timerOf (3 : Nat) =
        everyFour :=
    timerOf_withTimer everyFour
  have delivers :=
    @timer_delivers_every_expiration
      (freshTimer.toState.withTimer (3 : Nat) everyFour) (3 : Nat)
      [{ World.idle with nowNs := 5 }, { World.idle with nowNs := 18 }]
  rw [isArmed] at delivers
  apply delivers (freshTimer_isFd.withTimer rfl) rfl
  · intro world among
    simp only [List.mem_cons, List.not_mem_nil, or_false] at among
    rcases among with rfl | rfl <;> exact fun _ _ _ => rfl
  · refine List.pairwise_cons.mpr ⟨?_, List.pairwise_singleton _ _⟩
    intro later among
    obtain rfl := List.mem_singleton.mp among
    decide
  · intro world among
    simp only [List.mem_cons, List.not_mem_nil, or_false] at among
    rcases among with rfl | rfl <;> decide

end VibuxOS.Files
