import VibuxOS.Lib.Bits
import VibuxOS.Waiting.ReturnValues

namespace VibuxOS.Waiting

open VibuxOS.Lib VibuxOS.Paging
open VibuxOS.Files (pollIn pollOut)

/-!
# Where `select` and `pselect` agree

Both calls take the same turns as long as no descriptor of the set for
exceptions reports anything: `pselect` does not look at them.  The ticks of a
timeout are the same for both except close to the largest word, where the
seconds are bounded in different ways.
-/

variable
  {start : Moment}
  {pointer : UInt64}
  {moment : Moment}
  {requested : Sets}
  {nfds : Nat}
  {pointers : Pointers}
  {set : FdSet}
  {ticks : Option UInt64}

/-! ## Durations -/

/-- The seconds of a timeout in memory. -/
def secondsOf (start : Moment) (pointer : UInt64) : UInt64 :=
  getU64 (fun index => start.byte (pointer + UInt64.ofNat index)) 0

/-- The part of a second of a timeout in memory. -/
def partOf (start : Moment) (pointer : UInt64) : UInt64 :=
  getU64 (fun index => start.byte (pointer + UInt64.ofNat index)) 8

/-- A `timeval` and a `timespec` in memory with the same microseconds. -/
structure SameWords (start : Moment) (timeval timespec : UInt64) : Prop where
  some : timeval ≠ 0
  someThere : timespec ≠ 0
  loads : Covered start.space.Loads timeval 16
  loadsThere : Covered start.space.Loads timespec 16
  seconds : secondsOf start timespec = secondsOf start timeval
  parts :
    signed 64 (partOf start timespec).toNat =
      1000 * signed 64 (partOf start timeval).toNat

/-- A `timeval` and a `timespec` that describe the same duration. -/
def SameDuration (start : Moment) (timeval timespec : UInt64) : Prop :=
  timeval = 0 ∧ timespec = 0 ∨ SameWords start timeval timespec

theorem readTimeout_of_covered
    (loads : Covered start.space.Loads pointer 16) :
    readTimeout pointer start =
      .ok (secondsOf start pointer, partOf start pointer) start := by
  rcases copyIn_cases start pointer (by decide : 16 ≠ 0) with
    ⟨_, raw, copied, isByte⟩ | ⟨missing, _⟩
  · have seconds : getU64 raw 0 = secondsOf start pointer :=
      getU64_congr fun index inside => isByte (0 + index) (by omega)
    have part : getU64 raw 8 = partOf start pointer :=
      getU64_congr fun index inside => isByte (8 + index) (by omega)
    unfold readTimeout
    rw [Prog.bind_of_ok copied, seconds, part]
    rfl
  · exact absurd loads missing

theorem timeoutTicks_of_covered
    {parts : Int}
    {convert : UInt64 → UInt64 → UInt64}
    (some : pointer ≠ 0)
    (loads : Covered start.space.Loads pointer 16) :
    timeoutTicks parts convert pointer start =
      if signed 64 (secondsOf start pointer).toNat < 0 ∨
          signed 64 (partOf start pointer).toNat < 0 ∨
          parts ≤ signed 64 (partOf start pointer).toNat then
        .err (negErrno einval) start
      else
        .ok (.some (convert (secondsOf start pointer) (partOf start pointer)))
          start := by
  unfold timeoutTicks
  rw [if_neg some, Prog.bind_of_ok (readTimeout_of_covered loads)]
  split <;> rfl

theorem timespecTicks_of_same
    {sec usec nsec : UInt64}
    (small : sec.toNat * 250 + 250 < 2 ^ 64)
    (below : usec.toNat < 1000000)
    (same : nsec.toNat = 1000 * usec.toNat) :
    timespecTicks sec nsec = timevalTicks sec usec := by
  have seconds :
      min (saturatingMul sec 250) (maxWord - 250) = saturatingMul sec 250 := by
    have fits : sec.toNat * 250 < 2 ^ 64 :=
      Nat.lt_of_le_of_lt (Nat.le_add_right _ _) small
    have rate : (250 : UInt64).toNat = 250 := rfl
    rw [← rate] at fits
    have product : (saturatingMul sec 250).toNat = sec.toNat * 250 := by
      unfold saturatingMul
      rw [if_pos fits, UInt64.toNat_mul, Nat.mod_eq_of_lt fits, rate]
    have limit : (maxWord - 250).toNat = 18446744073709551365 := rfl
    apply UInt64.toNat_inj.mp
    rw [toNat_min, product, limit]
    omega
  have parts : (nsec + 3999999) / 4000000 = (usec + 3999) / 4000 := by
    have microsecond : (3999 : UInt64).toNat = 3999 := rfl
    have microTick : (4000 : UInt64).toNat = 4000 := rfl
    have nanosecond : (3999999 : UInt64).toNat = 3999999 := rfl
    have nanoTick : (4000000 : UInt64).toNat = 4000000 := rfl
    have micros : (usec + 3999).toNat = usec.toNat + 3999 := by
      rw [UInt64.toNat_add, microsecond]
      omega
    have nanos : (nsec + 3999999).toNat = 1000 * usec.toNat + 3999999 := by
      rw [UInt64.toNat_add, nanosecond, same]
      omega
    apply UInt64.toNat_inj.mp
    rw [UInt64.toNat_div, UInt64.toNat_div, micros, nanos, microTick, nanoTick]
    omega
  rw [timespecTicks, timevalTicks, seconds, parts]

theorem timeouts_of_same
    {timeval timespec : UInt64}
    (same : SameDuration start timeval timespec) :
    (timeoutTicksFromTimeval timeval start = .err (negErrno einval) start ∧
        timeoutTicksFromTimespec timespec start =
          .err (negErrno einval) start) ∨
      ∃ ticks ticksThere,
        timeoutTicksFromTimeval timeval start = .ok ticks start ∧
          timeoutTicksFromTimespec timespec start = .ok ticksThere start ∧
          (timeval ≠ 0 →
            (secondsOf start timeval).toNat * 250 + 250 < 2 ^ 64 →
            ticksThere = ticks) ∧
          (timeval = 0 → ticks = none ∧ ticksThere = none) := by
  rcases same with ⟨rfl, rfl⟩ | same
  · exact
      .inr ⟨none, none, rfl, rfl, fun some => absurd rfl some, fun _ => ⟨rfl, rfl⟩⟩
  · unfold timeoutTicksFromTimeval timeoutTicksFromTimespec
    rw [timeoutTicks_of_covered same.some same.loads,
      timeoutTicks_of_covered same.someThere same.loadsThere, same.seconds,
      same.parts]
    by_cases refused :
        signed 64 (secondsOf start timeval).toNat < 0 ∨
          signed 64 (partOf start timeval).toNat < 0 ∨
          1000000 ≤ signed 64 (partOf start timeval).toNat
    · have refusedThere :
          signed 64 (secondsOf start timeval).toNat < 0 ∨
            1000 * signed 64 (partOf start timeval).toNat < 0 ∨
            1000000000 ≤ 1000 * signed 64 (partOf start timeval).toNat := by
        omega
      rw [if_pos refused, if_pos refusedThere]
      exact .inl ⟨rfl, rfl⟩
    · have acceptedThere :
          ¬ (signed 64 (secondsOf start timeval).toNat < 0 ∨
            1000 * signed 64 (partOf start timeval).toNat < 0 ∨
            1000000000 ≤ 1000 * signed 64 (partOf start timeval).toNat) := by
        omega
      rw [if_neg refused, if_neg acceptedThere]
      refine .inr ⟨_, _, rfl, rfl, ?_, fun absent => absurd absent same.some⟩
      intro _ small
      have bound := (partOf start timeval).toNat_lt
      have boundThere := (partOf start timespec).toNat_lt
      have parts := same.parts
      have words :
          (partOf start timeval).toNat < 1000000 ∧
            (partOf start timespec).toNat =
              1000 * (partOf start timeval).toNat := by
        unfold signed at refused parts
        split at parts <;> split at parts <;> split at refused <;> omega
      rw [timespecTicks_of_same small words.1 words.2]

/-! ## Turns -/

/-- No requested descriptor reports an exceptional event. -/
def Quiet (moment : Moment) (requested : FdSet) (nfds : Nat) : Prop :=
  ∀ fd < nfds,
    requested.has fd = true → moment.reports fd pollPri = some 0

section Quiet

variable
  {moment : Moment}
  {requested : FdSet}
  {fd left : Nat}

section

variable (quiet : ∀ other, fd ≤ other → other < fd + left →
      requested.has other = true → moment.reports other pollPri = some 0)

include quiet

theorem found_of_quiet
    (other : Nat)
    (after : fd ≤ other)
    (before : other < fd + left) :
    moment.found requested pollPri other = false := by
  unfold Moment.found
  cases has : requested.has other with
  | false => rfl
  | true => rw [quiet other after before has]; rfl

theorem gather_of_quiet
    (set : FdSet) :
    gather moment requested pollPri left fd set = set := by
  induction left generalizing fd with
  | zero =>
      rfl
  | succ left inductionHypothesis =>
      have none := found_of_quiet quiet fd (Nat.le_refl _) (by omega)
      have same : (moment.enter requested pollPri fd (set, 0)).1 = set := by
        unfold Moment.enter
        rw [none, if_neg Bool.false_ne_true]
      rw [gather, same]
      exact
        inductionHypothesis fun other after before =>
          quiet other (by omega) (by omega)

theorem readyBits_of_quiet :
    readyBits moment requested pollPri fd left = 0 := by
  unfold readyBits
  rw [List.countP_eq_zero]
  intro other among
  rw [List.mem_range'_1] at among
  rw [found_of_quiet quiet other among.1 among.2]
  exact Bool.false_ne_true

end

end Quiet

theorem scans_of_quiet
    (quiet : Quiet moment requested.except nfds) :
    scanSelect requested nfds 0 Sets.empty 0 moment =
      scanPselect requested nfds 0 Sets.empty 0 moment := by
  have inRange :
      ∀ other, 0 ≤ other → other < 0 + nfds →
        requested.except.has other = true →
        moment.reports other pollPri = some 0 :=
    fun other _ before => quiet other (by omega)
  have looksExcept : LooksFrom moment requested.except pollPri 0 nfds := by
    intro other after before has
    rw [inRange other after before has]
    rfl
  by_cases looks : LooksPselect moment requested 0 nfds
  · rw [scanSelect_of_looks ⟨looks.read, looks.write, looksExcept⟩,
      scanPselect_of_looks looks, gather_of_quiet inRange,
      readyBits_of_quiet inRange, Nat.add_zero]
  · rw [scanPselect_of_not_looks looks]
    exact
      scanSelect_of_not_looks
        (fun all => looks ⟨all.read, all.write⟩) Sets.empty

theorem selectTurn_congr
    {left right : Call (Sets × Nat)}
    {deadline deadlineThere : Option UInt64}
    (looks :
      ∀ found after, right moment = .ok found after → after = moment)
    (same : left moment = right moment)
    (late :
      passed deadline moment.ticks = passed deadlineThere moment.ticks) :
    selectTurn left pointers deadline moment =
      selectTurn right pointers deadlineThere moment := by
  unfold selectTurn
  cases result : right moment with
  | ok found after =>
      have unchanged := looks found after result
      subst unchanged
      rw [Prog.bind_of_ok (same.trans result), Prog.bind_of_ok result]
      by_cases none : found.2 ≠ 0
      · rw [if_pos none, if_pos none]
      · rw [if_neg none, if_neg none, Prog.gets_bind_apply,
          Prog.gets_bind_apply, late]
  | err code after =>
      rw [Prog.bind_of_err (same.trans result), Prog.bind_of_err result]
  | hang =>
      rw [Prog.bind_of_hang (same.trans result), Prog.bind_of_hang result]

theorem scanPselect_unchanged
    {moment after : Moment}
    {found : Sets × Nat}
    (scanned :
      scanPselect requested nfds 0 Sets.empty 0 moment = .ok found after) :
    after = moment := by
  rcases scanPselect_counts requested nfds moment with
    stuck | ⟨sets, counted⟩
  · rw [stuck] at scanned
    cases scanned
  · rw [counted] at scanned
    cases scanned
    rfl

/-! ## Calls -/

/-- A call of `select` and one of `pselect` with the same sets. -/
structure SelectCalls where
  schedule : Schedule
  nfds : UInt64
  pointers : Pointers
  timeval : UInt64
  timespec : UInt64

namespace SelectCalls

variable (calls : SelectCalls) (start : Moment)

/-- The deadline of `select`. -/
def deadline (ticks : Option UInt64) : Option UInt64 :=
  ticks.map (saturatingAdd start.ticks)

/-- A turn of `select`. -/
def turn (requested : Sets) (ticks : Option UInt64) : Call (Option UInt64) :=
  selectTurn
    (scanSelect requested (boundedFds calls.nfds) 0 Sets.empty 0)
    calls.pointers (deadline start ticks)

/-- A turn of `pselect`. -/
def turnThere (requested : Sets) (ticks : Option UInt64) :
    Call (Option UInt64) :=
  selectTurn
    (scanPselect requested (boundedFds calls.nfds) 0 Sets.empty 0)
    calls.pointers (deadline start ticks)

/-- `select` begins a turn in a moment. -/
def TurnBegins
    (requested : Sets)
    (ticks : Option UInt64)
    (moment : Moment) : Prop :=
  readSets calls.pointers start = .ok requested start ∧
    timeoutTicksFromTimeval calls.timeval start = .ok ticks start ∧
    ∃ waits,
      Prog.Begun calls.schedule (calls.turn start requested ticks) start waits
        moment

/-- No turn of `select` meets an exceptional event. -/
def ExceptsQuiet : Prop :=
  ∀ requested ticks moment,
    calls.TurnBegins start requested ticks moment →
    Quiet moment requested.except (boundedFds calls.nfds)

/-- In every turn of `select` the deadline has passed for both or for neither. -/
def DeadlinesAlike : Prop :=
  ∀ requested ticks ticksThere moment,
    calls.TurnBegins start requested ticks moment →
    timeoutTicksFromTimespec calls.timespec start = .ok ticksThere start →
    passed (deadline start ticks) moment.ticks =
      passed (deadline start ticksThere) moment.ticks

/-- In every turn of `select` the results can be stored, without a panic. -/
def Storable : Prop :=
  ∀ requested ticks moment,
    calls.TurnBegins start requested ticks moment →
    LooksSelect moment requested 0 (boundedFds calls.nfds) ∧
      ∀ pointer,
        pointer = calls.pointers.read ∨
            pointer = calls.pointers.write ∨
            pointer = calls.pointers.except →
          pointer = 0 ∨ Covered moment.space.Stores pointer 128

def resultSet (final : Moment) (pointer : UInt64) : List UInt8 :=
  (List.range 128).map (askedSet final pointer)

/-- The bytes of the three result sets. -/
def resultSets (final : Moment) : List (List UInt8) :=
  [resultSet final calls.pointers.read,
    resultSet final calls.pointers.write,
    resultSet final calls.pointers.except]

/-- A call returns a value with some result sets. -/
def ReturnsWith
    (call : Nat → Call UInt64)
    (value : UInt64)
    (sets : List (List UInt8)) : Prop :=
  ∃ final,
    Replies call start value final ∧ calls.resultSets final = sets

/-- Both calls return the same value and store the same result sets. -/
def Agree : Prop :=
  ∀ value sets,
    calls.ReturnsWith start
        (select calls.schedule calls.nfds calls.pointers calls.timeval)
        value sets ↔
      calls.ReturnsWith start
        (pselect calls.schedule calls.nfds calls.pointers calls.timespec)
        value sets

variable {calls start}

theorem turns_of_quiet
    {ticks ticksThere : Option UInt64}
    (quiet : Quiet moment requested.except (boundedFds calls.nfds))
    (late :
      passed (deadline start ticks) moment.ticks =
        passed (deadline start ticksThere) moment.ticks) :
    calls.turn start requested ticks moment =
      calls.turnThere start requested ticksThere moment :=
  selectTurn_congr (fun _ _ => scanPselect_unchanged) (scans_of_quiet quiet)
    late

theorem calls_of_quiet
    (same : SameDuration start calls.timeval calls.timespec)
    (quiet : calls.ExceptsQuiet start)
    (late : calls.DeadlinesAlike start)
    (fuel : Nat) :
    select calls.schedule calls.nfds calls.pointers calls.timeval fuel start =
      pselect calls.schedule calls.nfds calls.pointers calls.timespec fuel
        start := by
  unfold select pselect selectWith
  rcases readSets_cases start calls.pointers with
    ⟨_, requested, copied, _⟩ | ⟨_, failed⟩
  · rw [Prog.bind_of_ok copied, Prog.bind_of_ok copied, Prog.gets_bind_apply,
      Prog.gets_bind_apply]
    rcases timeouts_of_same same with
      ⟨refused, refusedThere⟩ | ⟨ticks, ticksThere, read, readThere, _⟩
    · rw [Prog.bind_of_err refused, Prog.bind_of_err refusedThere]
    · rw [Prog.bind_of_ok read, Prog.bind_of_ok readThere]
      refine
        @Prog.awaits_congr _ _ _ calls.schedule
          (calls.turn start requested ticks)
          (calls.turnThere start requested ticksThere) start start fuel 0
          ?_ .first
      intro waits moment begun
      have begins : calls.TurnBegins start requested ticks moment :=
        ⟨copied, read, waits, begun⟩
      exact
        turns_of_quiet (quiet _ _ _ begins)
          (late _ _ _ _ begins readThere)
  · rw [Prog.bind_of_err failed, Prog.bind_of_err failed]

end SelectCalls

/-! ## The result set for exceptions -/

theorem has_insert (set : FdSet) (fd other : Nat) :
    (set.insert fd).has other = (set.has other || decide (other = fd)) := by
  unfold FdSet.has FdSet.insert fdBit
  by_cases sameByte : other / 8 = fd / 8
  · rw [sameByte, Function.update_self,
      test_or_mask _ (Nat.mod_lt _ (by decide)) (Nat.mod_lt _ (by decide))]
    congr 1
    exact decide_eq_decide.mpr (by omega)
  · have different : other ≠ fd := by
      rintro rfl
      exact sameByte rfl
    rw [Function.update_of_ne sameByte]
    simp [different]

section Gather

variable
  {moment : Moment}
  {requested : FdSet}
  {events : UInt16}

theorem has_enter
    {fd other : Nat}
    (has : set.has other = true) :
    FdSet.has (moment.enter requested events fd (set, 0)).1 other = true := by
  unfold Moment.enter
  split
  · dsimp only
    rw [has_insert, has, Bool.true_or]
  · exact has

theorem has_gather
    {fd left other : Nat}
    (has : set.has other = true) :
    FdSet.has (gather moment requested events left fd set) other = true := by
  induction left generalizing fd set with
  | zero =>
      exact has
  | succ left inductionHypothesis =>
      exact inductionHypothesis (has_enter has)

theorem gather_of_found
    {fd left other : Nat}
    (after : fd ≤ other)
    (before : other < fd + left)
    (found : moment.found requested events other = true) :
    FdSet.has (gather moment requested events left fd set) other = true := by
  induction left generalizing fd set with
  | zero =>
      omega
  | succ left inductionHypothesis =>
      rw [gather]
      rcases Nat.eq_or_lt_of_le after with rfl | above
      · apply has_gather
        unfold Moment.enter
        rw [if_pos found]
        dsimp only
        rw [has_insert, decide_eq_true rfl, Bool.or_true]
      · exact inductionHypothesis above (by omega)

end Gather

theorem byte_of_writeSet
    {moment final : Moment}
    (some : pointer ≠ 0)
    (written : writeSet pointer set moment = .ok () final)
    {byte : Nat}
    (inside : byte < 128) :
    final.byte (pointer + UInt64.ofNat byte) = set byte := by
  have length : ((List.range 128).map set).length = 128 := by
    rw [List.length_map, List.length_range]
  unfold writeSet at written
  rw [if_pos some] at written
  have copied := Prog.mapError_eq_ok.mp written
  rcases copyOut_cases moment pointer
      (by rw [length]; decide : ((List.range 128).map set).length ≠ 0) with
    ⟨_, bytes, copiedThere, stored⟩ | ⟨_, bytes, failed⟩ | ⟨_, _, stuck⟩
  · rw [copied] at copiedThere
    cases copiedThere
    obtain ⟨physical, isTarget, isByte⟩ :=
      stored.written (by rw [length]; decide) byte (by rwa [length])
    rw [Moment.byte, AddressSpace.byteAt_of_target isTarget]
    dsimp only
    rw [isByte, List.getElem_map, List.getElem_range]
  · rw [copied] at failed
    cases failed
  · rw [copied] at stuck
    cases stuck

theorem except_of_writeSets
    {sets : Sets}
    {moment final : Moment}
    (some : pointers.except ≠ 0)
    (written : writeSets pointers sets moment = .ok () final) :
    SelectCalls.resultSet final pointers.except =
      (List.range 128).map sets.except := by
  unfold writeSets at written
  obtain ⟨_, _, _, rest⟩ := Prog.bind_eq_ok.mp written
  obtain ⟨_, _, _, last⟩ := Prog.bind_eq_ok.mp rest
  apply List.map_congr_left
  intro byte among
  rw [askedSet, if_neg some]
  exact byte_of_writeSet some last (List.mem_range.mp among)

theorem writeSet_of_stores
    (stores : pointer = 0 ∨ Covered moment.space.Stores pointer 128)
    (set : FdSet) :
    ∃ bytes,
      writeSet pointer set moment = .ok () { moment with bytes := bytes } := by
  unfold writeSet
  by_cases absent : pointer = 0
  · rw [if_neg (not_not_intro absent)]
    exact ⟨_, rfl⟩
  · have length : ((List.range 128).map set).length = 128 := by
      rw [List.length_map, List.length_range]
    have covered := stores.resolve_left absent
    rw [if_pos absent]
    rcases copyOut_cases moment pointer
        (by rw [length]; decide : ((List.range 128).map set).length ≠ 0) with
      ⟨_, bytes, copied, _⟩ | ⟨refused, _⟩ | ⟨uncovered, _⟩
    · exact ⟨bytes, Prog.mapError_eq_ok.mpr copied⟩
    · rw [length] at refused
      exact
        absurd refused
          (not_refused_of_covered (fun _ stored => stored.1) covered)
    · rw [length] at uncovered
      exact absurd covered uncovered

theorem writeSets_of_stores
    (stores :
      ∀ pointer,
        pointer = pointers.read ∨
            pointer = pointers.write ∨
            pointer = pointers.except →
          pointer = 0 ∨ Covered moment.space.Stores pointer 128)
    (sets : Sets) :
    ∃ final, writeSets pointers sets moment = .ok () final := by
  obtain ⟨first, readWritten⟩ :=
    writeSet_of_stores (stores pointers.read (.inl rfl)) sets.read
  have storesThen := stores pointers.write (.inr (.inl rfl))
  obtain ⟨second, writeWritten⟩ :=
    @writeSet_of_stores pointers.write { moment with bytes := first } storesThen
      sets.write
  have storesLast := stores pointers.except (.inr (.inr rfl))
  obtain ⟨last, exceptWritten⟩ :=
    @writeSet_of_stores pointers.except { moment with bytes := second } storesLast
      sets.except
  unfold writeSets
  rw [Prog.bind_of_ok readWritten, Prog.bind_of_ok writeWritten]
  exact ⟨_, exceptWritten⟩

theorem selectTurn_writes
    {scan : Call (Sets × Nat)}
    {deadline : Option UInt64}
    {moment final : Moment}
    {value : UInt64}
    (counts : value ≠ 0)
    (returned :
      selectTurn scan pointers deadline moment = .ok (some value) final) :
    ∃ found after,
      scan moment = .ok found after ∧
        writeSets pointers found.1 after = .ok () final := by
  unfold selectTurn at returned
  obtain ⟨found, after, scanned, rest⟩ := Prog.bind_eq_ok.mp returned
  by_cases none : found.2 ≠ 0
  · rw [if_pos none] at rest
    obtain ⟨_, last, written, ended⟩ := Prog.bind_eq_ok.mp rest
    cases ended
    exact ⟨found, after, scanned, written⟩
  · rw [if_neg none, Prog.gets_bind_apply] at rest
    split at rest
    · obtain ⟨_, last, _, ended⟩ := Prog.bind_eq_ok.mp rest
      cases ended
      exact absurd rfl counts
    · obtain ⟨interrupted, last, _, ended⟩ := Prog.bind_eq_ok.mp rest
      cases interrupted <;> cases ended

theorem exists_found_of_not_quiet
    {requested : FdSet}
    (looks : LooksFrom moment requested pollPri 0 nfds)
    (notQuiet : ¬ Quiet moment requested nfds) :
    ∃ fd < nfds,
      requested.has fd = true ∧ moment.found requested pollPri fd = true := by
  unfold Quiet at notQuiet
  push Not at notQuiet
  obtain ⟨fd, inside, has, reported⟩ := notQuiet
  refine ⟨fd, inside, has, ?_⟩
  obtain ⟨revents, reports⟩ :=
    Option.isSome_iff_exists.mp (looks fd (Nat.zero_le _) (by omega) has)
  unfold Moment.found
  rw [has, reports, Bool.true_and, Option.any_some, bne_iff_ne]
  rintro rfl
  exact reported reports

theorem pointer_of_has
    {fd : Nat}
    (copied : readSets pointers start = .ok requested start)
    (inside : fd < 1024)
    (has : requested.except.has fd = true) :
    pointers.except ≠ 0 := by
  intro absent
  rcases readSets_cases start pointers with
    ⟨_, other, copiedThere, _, _, same⟩ | ⟨_, failed⟩
  · rw [copied] at copiedThere
    cases copiedThere
    rw [same.has inside] at has
    unfold FdSet.has askedSet at has
    rw [if_pos absent, UInt8.zero_and] at has
    exact absurd has (by decide)
  · rw [copied] at failed
    cases failed

namespace SelectCalls

variable {calls : SelectCalls} {start moment : Moment}

section

variable (copied : readSets calls.pointers start = .ok requested start)

include copied

theorem select_eq_awaits
    (read : timeoutTicksFromTimeval calls.timeval start = .ok ticks start)
    (fuel : Nat) :
    select calls.schedule calls.nfds calls.pointers calls.timeval fuel start =
      Prog.awaits calls.schedule (calls.turn start requested ticks) fuel 0
        start := by
  unfold select selectWith
  rw [Prog.bind_of_ok copied, Prog.gets_bind_apply, Prog.bind_of_ok read]
  rfl

theorem pselect_eq_awaits
    (read : timeoutTicksFromTimespec calls.timespec start = .ok ticks start)
    (fuel : Nat) :
    pselect calls.schedule calls.nfds calls.pointers calls.timespec fuel
        start =
      Prog.awaits calls.schedule (calls.turnThere start requested ticks) fuel 0
        start := by
  unfold pselect selectWith
  rw [Prog.bind_of_ok copied, Prog.gets_bind_apply, Prog.bind_of_ok read]
  rfl

theorem except_of_pselect
    {value : UInt64}
    {final : Moment}
    (read : timeoutTicksFromTimespec calls.timespec start = .ok ticks start)
    (some : calls.pointers.except ≠ 0)
    (counts : value ≠ 0)
    (noErrno : ¬ IsErrno value)
    (replied :
      Replies
        (pselect calls.schedule calls.nfds calls.pointers calls.timespec)
        start value final) :
    resultSet final calls.pointers.except =
      (List.range 128).map fun _ => 0 := by
  obtain ⟨fuel, returned | failed⟩ := replied
  · rw [pselect_eq_awaits copied read] at returned
    obtain ⟨waits, later, _, last⟩ := Prog.awaits_eq_ok.mp ⟨fuel, returned⟩
    obtain ⟨found, after, scanned, written⟩ := selectTurn_writes counts last
    rw [except_of_writeSets some written]
    by_cases looks : LooksPselect later requested 0 (boundedFds calls.nfds)
    · rw [scanPselect_of_looks looks] at scanned
      cases scanned
      rfl
    · rw [scanPselect_of_not_looks looks] at scanned
      cases scanned
  · rw [pselect_eq_awaits copied read] at failed
    obtain ⟨waits, later, _, last⟩ := Prog.awaits_eq_err.mp ⟨fuel, failed⟩
    have raises :
        Prog.Raises IsErrno
          (scanPselect requested (boundedFds calls.nfds) 0 Sets.empty 0) := by
      intro state code after scanned
      rcases scanPselect_counts requested (boundedFds calls.nfds) state with
        stuck | ⟨sets, counted⟩
      · rw [stuck] at scanned
        cases scanned
      · rw [counted] at scanned
        cases scanned
    exact absurd (raises_selectTurn raises _ _ _ last) noErrno

end

theorem deadlinesAlike_of_small
    (same : SameDuration start calls.timeval calls.timespec)
    (small :
      calls.timeval = 0 ∨
        (secondsOf start calls.timeval).toNat * 250 + 250 < 2 ^ 64) :
    calls.DeadlinesAlike start := by
  rintro requested ticks ticksThere moment ⟨_, read, _⟩ readThere
  rcases timeouts_of_same same with
    ⟨refused, _⟩ | ⟨_, _, found, foundThere, sameTicks, none⟩
  · rw [read] at refused
    cases refused
  · rw [read] at found
    cases found
    rw [readThere] at foundThere
    cases foundThere
    by_cases absent : calls.timeval = 0
    · obtain ⟨rfl, rfl⟩ := none absent
      rfl
    · rw [sameTicks absent (small.resolve_left absent)]

theorem quiet_of_agree
    {ticks ticksThere : Option UInt64}
    (agree : calls.Agree start)
    (storable : calls.Storable start)
    (readThere :
      timeoutTicksFromTimespec calls.timespec start = .ok ticksThere start)
    (begins : calls.TurnBegins start requested ticks moment) :
    Quiet moment requested.except (boundedFds calls.nfds) := by
  by_contra notQuiet
  obtain ⟨looks, stores⟩ := storable requested ticks moment begins
  obtain ⟨copied, read, waits, begun⟩ := begins
  obtain ⟨fd, inside, has, found⟩ :=
    exists_found_of_not_quiet looks.except notQuiet
  have inTable : boundedFds calls.nfds ≤ 1024 := Nat.min_le_right _ _
  have some := pointer_of_has copied (by omega) has
  -- what `select` finds in this turn
  have scanned := @scanSelect_of_looks moment requested _ 0 0 looks Sets.empty
  have exceptCounted :
      0 < readyBits moment requested.except pollPri 0 (boundedFds calls.nfds) :=
    List.countP_pos_iff.mpr
      ⟨fd, List.mem_range'_1.mpr ⟨Nat.zero_le _, by omega⟩, found⟩
  have readBounded :=
    Nat.le_trans (readyBits_le moment requested.read pollIn _)
      (askedBits_le requested.read (boundedFds calls.nfds))
  have writeBounded :=
    Nat.le_trans (readyBits_le moment requested.write pollOut _)
      (askedBits_le requested.write (boundedFds calls.nfds))
  have exceptBounded :=
    Nat.le_trans (readyBits_le moment requested.except pollPri _)
      (askedBits_le requested.except (boundedFds calls.nfds))
  have hasBit :=
    @gather_of_found Sets.empty.except moment requested.except pollPri 0
      (boundedFds calls.nfds) fd (Nat.zero_le _) (by omega) found
  generalize countIs :
    0 + readyBits moment requested.read pollIn 0 (boundedFds calls.nfds) +
        readyBits moment requested.write pollOut 0 (boundedFds calls.nfds) +
        readyBits moment requested.except pollPri 0
          (boundedFds calls.nfds) = count at scanned
  have number : (UInt64.ofNat count).toNat = count := by
    rw [UInt64.toNat_ofNat']
    omega
  have counts : UInt64.ofNat count ≠ 0 := by
    intro isZero
    rw [isZero, UInt64.toNat_zero] at number
    omega
  have noErrno : ¬ IsErrno (UInt64.ofNat count) := by
    unfold IsErrno
    rw [number]
    omega
  obtain ⟨final, written⟩ := writeSets_of_stores stores _
  have returned :
      calls.turn start requested ticks moment =
        .ok (.some (UInt64.ofNat count)) final := by
    unfold turn selectTurn
    rw [Prog.bind_of_ok scanned, if_pos (by dsimp only; omega),
      Prog.bind_of_ok written]
    rfl
  obtain ⟨fuel, replied⟩ :=
    Prog.awaits_eq_ok.mpr ⟨waits, moment, begun, returned⟩
  rw [← select_eq_awaits copied read] at replied
  obtain ⟨finalThere, repliedThere, sameSets⟩ :=
    (agree _ _).mp ⟨final, ⟨fuel, .inl replied⟩, rfl⟩
  -- the sets for exceptions differ at the byte of the descriptor
  have left := except_of_writeSets some written
  have right :=
    except_of_pselect copied readThere some counts noErrno repliedThere
  unfold resultSets at sameSets
  rw [left, right] at sameSets
  have same := (List.cons.inj (List.cons.inj (List.cons.inj sameSets).2).2).1
  have atByte :=
    List.map_inj_left.mp same (fd / 8) (List.mem_range.mpr (by omega))
  dsimp only at atByte
  unfold FdSet.has at hasBit
  rw [← atByte, UInt8.zero_and] at hasBit
  exact absurd hasBit (by decide)

end SelectCalls

/-- `select` and `pselect` that ask about nothing, without a timeout. -/
def askNothing : SelectCalls where
  schedule _ moment := moment
  nfds := 0
  pointers := ⟨0, 0, 0⟩
  timeval := 0
  timespec := 0

/-- Tables with one page of the user, writable. -/
def userPageSpace : AddressSpace where
  cr3 := 0x1000
  memory slot :=
    if slot = ⟨0x1000, 0⟩ then 0x2007
    else if slot = ⟨0x2000, 0⟩ then 0x3007
    else if slot = ⟨0x3000, 0⟩ then 0x4007
    else if slot = ⟨0x4000, 5⟩ then 0x8007
    else 0

/-- A page full of ones, and no descriptor that is open. -/
def onesMoment : Moment :=
  { bareMoment with
    space := userPageSpace
    bytes := fun _ => 1 }

/-- Calls that ask about exceptions of descriptor 0, without a timeout. -/
def askExcept : SelectCalls where
  schedule _ moment := moment
  nfds := 1
  pointers := ⟨0, 0, 0x5000⟩
  timeval := 0
  timespec := 0

theorem userPage_stores : Covered userPageSpace.Stores 0x5000 128 := by
  refine ⟨by decide, ?_⟩
  intro index inside
  have same : SamePage ((0x5000 : UInt64) + UInt64.ofNat index) 0x5000 :=
    samePage_of_lt_pageLeft
      (Nat.lt_of_lt_of_le inside (by decide : 128 ≤ pageLeft 0x5000))
  constructor
  · exact (same.mapped _ _).mpr (by decide : (userPageSpace.translate 0x5000).isSome)
  · rw [same.permits]
    decide

theorem askExcept_reads :
    ∃ requested,
      readSets askExcept.pointers onesMoment = .ok requested onesMoment ∧
        requested.except.has 0 = true := by
  have covered : Covered onesMoment.space.Loads 0x5000 128 :=
    ⟨userPage_stores.1, fun index inside => (userPage_stores.2 index inside).1⟩
  rcases readSets_cases onesMoment askExcept.pointers with
    ⟨_, requested, copied, _, _, same⟩ | ⟨unread, _⟩
  · refine ⟨requested, copied, ?_⟩
    rw [same.has (by decide)]
    decide
  · exact absurd ⟨.inl rfl, .inl rfl, .inr covered⟩ unread

end VibuxOS.Waiting
