import VibuxOS.Waiting.SetScans

namespace VibuxOS.Waiting

open VibuxOS.Lib VibuxOS.Paging
open VibuxOS.Files (pollIn pollOut)

/-!
# What the waiting calls return

The copies of the kernel fail with a positive error number, and the calls return
negative ones.  The `?` operator in `poll_scan` and in the conversions of the
timeouts passes a failed copy on as it is, so a pointer that cannot be read
comes back as the number of `EFAULT`.
-/

variable
  {userFds : UInt64}
  {count : Nat}
  {schedule : Schedule}
  {start : Moment}
  {pointers : Pointers}

/-- A negative error number. -/
abbrev IsErrno (value : UInt64) : Prop :=
  2 ^ 64 - 4095 ≤ value.toNat

/-- A program returns a value, on either exit. -/
def Answers
    (program : Call UInt64)
    (start : Moment)
    (value : UInt64)
    (final : Moment) : Prop :=
  program start = .ok value final ∨ program start = .err value final

/-- A call returns a value in some moment. -/
def Replies
    (call : Nat → Call UInt64)
    (start : Moment)
    (value : UInt64)
    (final : Moment) : Prop :=
  ∃ fuel, Answers (call fuel) start value final

/-! ## `poll` and `ppoll` -/

/-- Every entry of the array can be read. -/
def EntriesReadable (moment : Moment) (userFds : UInt64) (count : Nat) : Prop :=
  ∀ index < count,
    Covered moment.space.Loads (entryBase userFds index) 8

/-- The number of entries that report something. -/
def readyEntries (moment : Moment) (userFds : UInt64) (count : Nat) : Nat :=
  (List.range count).countP (moment.entryReady userFds)

/-- A value that is the number of ready descriptors of an array. -/
structure CountsEntries
    (final : Moment)
    (userFds : UInt64)
    (count : Nat)
    (value : UInt64) : Prop where
  readable : EntriesReadable final userFds count
  number : value.toNat = readyEntries final userFds count
  bounded : value.toNat ≤ count

/-- A scan meets no entry that it cannot read. -/
def ScanReadable (userFds : UInt64) (count : Nat) (moment : Moment) : Prop :=
  count ≤ 256 →
    ∀ index < count,
      (∀ earlier < index, EntryPasses moment userFds earlier) →
      Covered moment.space.Loads (entryBase userFds index) 8

/-- How a scan of an array ends. -/
inductive PollScanEnds
    (userFds : UInt64)
    (count : Nat)
    (moment : Moment) :
    Outcome Moment UInt64 Nat → Prop where
  | counted
      {final : Moment}
      (small : count ≤ 256)
      (readable : EntriesReadable final userFds count)
      (clear : ScanReadable userFds count moment)
      (sameTicks : final.ticks = moment.ticks) :
      PollScanEnds userFds count moment
        (.ok (readyEntries final userFds count) final)
  | refused
      {code : UInt64}
      {final : Moment}
      (isErrno : IsErrno code)
      (clear : ScanReadable userFds count moment) :
      PollScanEnds userFds count moment (.err code final)
  | unreadable
      {final : Moment}
      (unread : ¬ EntriesReadable final userFds count)
      (met : ¬ ScanReadable userFds count moment) :
      PollScanEnds userFds count moment (.err efault final)
  | stuck
      (clear : ScanReadable userFds count moment) :
      PollScanEnds userFds count moment .hang

theorem pollScan_ends
    (userFds : UInt64)
    (count : Nat)
    (moment : Moment) :
    PollScanEnds userFds count moment (pollScan userFds count moment) := by
  unfold pollScan
  by_cases large : count > 256
  · rw [if_pos large]
    exact
      .refused (by decide : IsErrno (negErrno einval))
        fun small => absurd small (Nat.not_le_of_lt large)
  · rw [if_neg large]
    have ends :=
      @scanEnds_scanEntries userFds count 0 0 moment (.inl rfl)
    generalize scanEntries userFds count 0 0 moment = outcome at ends
    have small := Nat.le_of_not_lt large
    cases ends with
    | @counted final scanned passes =>
        have number :
            0 + readyFrom moment userFds 0 count =
              readyEntries final userFds count := by
          rw [Nat.zero_add, ← scanned.readyFrom, readyEntries,
            List.range_eq_range']
          rfl
        rw [number]
        refine .counted small ?_ ?_ scanned.ticks
        · intro index inside
          rw [scanned.space]
          exact (passes index (Nat.zero_le _) (by omega)).loads
        · intro _ index inside _
          exact (passes index (Nat.zero_le _) (by omega)).loads
    | @unreadable final scanned entry _ inside passes missing =>
        apply PollScanEnds.unreadable
        · intro readable
          have loads := readable entry (by omega)
          rw [scanned.space] at loads
          exact missing loads
        · intro clear
          exact
            missing
              (clear small entry (by omega)
                fun earlier before => passes earlier (Nat.zero_le _) before)
    | stuck entry _ inside loads fails =>
        apply PollScanEnds.stuck
        intro _ index _ passes
        by_cases before : index ≤ entry
        · exact loads index (Nat.zero_le _) before
        · exact absurd (passes entry (by omega)) fails

theorem readyEntries_le
    (moment : Moment)
    (userFds : UInt64)
    (count : Nat) :
    readyEntries moment userFds count ≤ count := by
  have bounded :=
    List.countP_le_length (p := moment.entryReady userFds)
      (l := List.range count)
  rwa [List.length_range] at bounded

theorem countsEntries_of_readable
    {final : Moment}
    (small : count ≤ 256)
    (readable : EntriesReadable final userFds count) :
    CountsEntries final userFds count
      (UInt64.ofNat (readyEntries final userFds count)) := by
  have bounded := readyEntries_le final userFds count
  have number :
      (UInt64.ofNat (readyEntries final userFds count)).toNat =
        readyEntries final userFds count := by
    rw [UInt64.toNat_ofNat']
    omega
  exact ⟨readable, number, by rwa [number]⟩

theorem not_counts_efault
    {final : Moment}
    (unread : ¬ EntriesReadable final userFds count) :
    ¬ (IsErrno efault ∨ CountsEntries final userFds count efault) := by
  rintro (isErrno | counts)
  · exact absurd isErrno (by decide)
  · exact unread counts.readable

/-- How a turn with a scan ends. -/
inductive ScanTurnEnds
    (userFds : UInt64)
    (count : Nat)
    (moment : Moment) :
    Outcome Moment UInt64 (Option UInt64) → Prop where
  | counted
      {value : UInt64}
      {final : Moment}
      (clear : ScanReadable userFds count moment)
      (counts : CountsEntries final userFds count value) :
      ScanTurnEnds userFds count moment (.ok (some value) final)
  | waits
      {final : Moment}
      (clear : ScanReadable userFds count moment) :
      ScanTurnEnds userFds count moment (.ok none final)
  | refused
      {code : UInt64}
      {final : Moment}
      (clear : ScanReadable userFds count moment)
      (isErrno : IsErrno code) :
      ScanTurnEnds userFds count moment (.err code final)
  | unreadable
      {final : Moment}
      (met : ¬ ScanReadable userFds count moment)
      (unread : ¬ EntriesReadable final userFds count) :
      ScanTurnEnds userFds count moment (.err efault final)
  | stuck
      (clear : ScanReadable userFds count moment) :
      ScanTurnEnds userFds count moment .hang

theorem scanTurn_ends
    (userFds : UInt64)
    (count : Nat)
    (stops : UInt64 → Bool)
    (moment : Moment) :
    ScanTurnEnds userFds count moment
      (scanTurn userFds count stops moment) := by
  have ends := pollScan_ends userFds count moment
  unfold scanTurn
  cases result : pollScan userFds count moment with
  | ok value final =>
      rw [result] at ends
      cases ends with
      | counted small readable clear =>
          have counts := countsEntries_of_readable small readable
          rw [Prog.bind_of_ok result]
          by_cases none : readyEntries final userFds count = 0
          · rw [if_neg (not_not_intro none), Prog.gets_bind_apply]
            rw [none] at counts
            cases stops final.ticks with
            | true => exact .counted clear counts
            | false => exact .waits clear
          · rw [if_pos none]
            exact .counted clear counts
  | err code final =>
      rw [result] at ends
      rw [Prog.bind_of_err result]
      cases ends with
      | refused isErrno clear => exact .refused clear isErrno
      | unreadable unread met => exact .unreadable met unread
  | hang =>
      rw [result] at ends
      rw [Prog.bind_of_hang result]
      cases ends with
      | stuck clear => exact .stuck clear

theorem awaits_scan_iff
    {stops : UInt64 → Bool} :
    (∀ value final,
        Replies
            (fun fuel =>
              Prog.awaits schedule (scanTurn userFds count stops) fuel 0)
            start value final →
          IsErrno value ∨ CountsEntries final userFds count value) ↔
      ∀ waits moment,
        Prog.Begun schedule (scanTurn userFds count stops) start waits moment →
        ScanReadable userFds count moment := by
  constructor
  · intro honest waits moment begun
    by_contra met
    have ends := scanTurn_ends userFds count stops moment
    cases result : scanTurn userFds count stops moment with
    | ok value final =>
        rw [result] at ends
        cases ends <;> exact met ‹_›
    | err code final =>
        rw [result] at ends
        cases ends with
        | refused clear => exact met clear
        | unreadable _ unread =>
            obtain ⟨fuel, ended⟩ :=
              Prog.awaits_eq_err.mpr ⟨waits, moment, begun, result⟩
            exact not_counts_efault unread (honest efault final ⟨fuel, .inr ended⟩)
    | hang =>
        rw [result] at ends
        cases ends with
        | stuck clear => exact met clear
  · rintro clear value final ⟨fuel, returned | failed⟩
    · obtain ⟨waits, moment, begun, last⟩ :=
        Prog.awaits_eq_ok.mp ⟨fuel, returned⟩
      have ends := scanTurn_ends userFds count stops moment
      rw [last] at ends
      cases ends with
      | counted _ counts => exact .inr counts
    · obtain ⟨waits, moment, begun, last⟩ :=
        Prog.awaits_eq_err.mp ⟨fuel, failed⟩
      have ends := scanTurn_ends userFds count stops moment
      rw [last] at ends
      cases ends with
      | refused _ isErrno => exact .inl isErrno
      | unreadable met => exact absurd (clear waits moment begun) met

/-! ## Timeouts -/

/-- A timeout is absent or can be read. -/
def TimeoutReadable (start : Moment) (pointer : UInt64) : Prop :=
  pointer = 0 ∨ Covered start.space.Loads pointer 16

/-- How the conversion of a timeout ends. -/
inductive TimeoutEnds
    (start : Moment)
    (pointer : UInt64) :
    Outcome Moment UInt64 (Option UInt64) → Prop where
  | converted
      (readable : TimeoutReadable start pointer)
      (ticks : Option UInt64) :
      TimeoutEnds start pointer (.ok ticks start)
  | invalid
      (readable : TimeoutReadable start pointer) :
      TimeoutEnds start pointer (.err (negErrno einval) start)
  | unreadable
      (missing : ¬ TimeoutReadable start pointer) :
      TimeoutEnds start pointer (.err efault start)

theorem timeoutTicks_ends
    (parts : Int)
    (convert : UInt64 → UInt64 → UInt64)
    (start : Moment)
    (pointer : UInt64) :
    TimeoutEnds start pointer (timeoutTicks parts convert pointer start) := by
  unfold timeoutTicks
  by_cases absent : pointer = 0
  · rw [if_pos absent]
    exact .converted (.inl absent) none
  · rw [if_neg absent]
    unfold readTimeout
    rcases copyIn_cases start pointer (by decide : 16 ≠ 0) with
      ⟨covered, raw, copied, _⟩ | ⟨missing, failed⟩
    · have read :
          (copyIn pointer 16 >>= fun raw =>
              pure (getU64 raw 0, getU64 raw 8) : Call (UInt64 × UInt64))
              start =
            .ok (getU64 raw 0, getU64 raw 8) start :=
        Prog.bind_of_ok copied
      rw [Prog.bind_of_ok read]
      dsimp only
      split
      · exact .invalid (.inr covered)
      · exact .converted (.inr covered) _
    · rw [Prog.bind_of_err (Prog.bind_of_err failed)]
      exact .unreadable fun readable => missing (readable.resolve_left absent)

theorem ppollDeadline_returns (timeout : UInt64) (start : Moment) :
    ∃ deadline, ppollDeadline timeout start = .ok deadline start := by
  unfold ppollDeadline
  rw [Prog.gets_bind_apply]
  by_cases forever : timeout = maxWord
  · rw [if_pos forever]
    exact ⟨_, rfl⟩
  · rw [if_neg forever]
    have ends :=
      timeoutTicks_ends 1000000000 timespecTicks start timeout
    cases result : timeoutTicksFromTimespec timeout start with
    | ok ticks final =>
        rw [timeoutTicksFromTimespec] at result
        rw [result] at ends
        cases ends
        exact ⟨_, Prog.bind_of_ok (Prog.attempt_of_ok result)⟩
    | err code final =>
        rw [timeoutTicksFromTimespec] at result
        rw [result] at ends
        cases ends <;>
          exact ⟨_, Prog.bind_of_ok (Prog.attempt_of_err result)⟩
    | hang =>
        rw [timeoutTicksFromTimespec] at result
        rw [result] at ends
        cases ends

/-! ## `select` and `pselect` -/

def askedSet (start : Moment) (pointer : UInt64) : FdSet := fun byte =>
  if pointer = 0 then 0 else start.byte (pointer + UInt64.ofNat byte)

/-- The sets behind three pointers. -/
def askedSets (start : Moment) (pointers : Pointers) : Sets where
  read := askedSet start pointers.read
  write := askedSet start pointers.write
  except := askedSet start pointers.except

/-- The number of descriptors that are asked about in a set. -/
def askedBits (set : FdSet) (nfds : Nat) : Nat :=
  (List.range' 0 nfds).countP set.has

/-- The number of ready descriptors in the sets that a call looks at. -/
def readyInSets
    (scansExcept : Bool)
    (moment : Moment)
    (requested : Sets)
    (nfds : Nat) :
    Nat :=
  readyBits moment requested.read pollIn 0 nfds +
    readyBits moment requested.write pollOut 0 nfds +
    if scansExcept then readyBits moment requested.except pollPri 0 nfds else 0

/-- A set is absent or can be read. -/
def SetReadable (start : Moment) (pointer : UInt64) : Prop :=
  pointer = 0 ∨ Covered start.space.Loads pointer 128

/-- The three sets are absent or can be read. -/
structure SetsReadable (start : Moment) (pointers : Pointers) : Prop where
  read : SetReadable start pointers.read
  write : SetReadable start pointers.write
  except : SetReadable start pointers.except

/-- A value that is the number of ready descriptors of some sets. -/
structure CountsSets
    (scansExcept : Bool)
    (start final : Moment)
    (nfds : UInt64)
    (pointers : Pointers)
    (timeout value : UInt64) : Prop where
  sets : SetsReadable start pointers
  timeout : TimeoutReadable start timeout
  number :
    value.toNat =
      readyInSets scansExcept final (askedSets start pointers)
        (boundedFds nfds)
  bounded :
    value.toNat ≤
      askedBits (askedSets start pointers).read (boundedFds nfds) +
        askedBits (askedSets start pointers).write (boundedFds nfds) +
        askedBits (askedSets start pointers).except (boundedFds nfds)

/-- Two sets with the same bytes. -/
def SameSet (left right : FdSet) : Prop :=
  ∀ byte < 128, left byte = right byte

theorem readSet_cases (start : Moment) (pointer : UInt64) :
    (SetReadable start pointer ∧
        ∃ set,
          readSet pointer start = .ok set start ∧
            SameSet set (askedSet start pointer)) ∨
      ¬ SetReadable start pointer ∧
        readSet pointer start = .err (negErrno efault) start := by
  unfold readSet
  by_cases absent : pointer = 0
  · rw [if_neg (not_not_intro absent)]
    refine .inl ⟨.inl absent, _, rfl, ?_⟩
    intro byte _
    rw [askedSet, if_pos absent]
  · rw [if_pos absent]
    rcases copyIn_cases start pointer (by decide : 128 ≠ 0) with
      ⟨covered, set, copied, isByte⟩ | ⟨missing, failed⟩
    · refine .inl ⟨.inr covered, set, Prog.mapError_eq_ok.mpr copied, ?_⟩
      intro byte inside
      rw [askedSet, if_neg absent]
      exact isByte byte inside
    · exact
        .inr
          ⟨fun readable => missing (readable.resolve_left absent),
            Prog.mapError_eq_err.mpr ⟨_, failed, rfl⟩⟩

theorem readSets_cases (start : Moment) (pointers : Pointers) :
    (SetsReadable start pointers ∧
        ∃ requested,
          readSets pointers start = .ok requested start ∧
            SameSet requested.read (askedSet start pointers.read) ∧
            SameSet requested.write (askedSet start pointers.write) ∧
            SameSet requested.except (askedSet start pointers.except)) ∨
      ¬ SetsReadable start pointers ∧
        readSets pointers start = .err (negErrno efault) start := by
  unfold readSets
  rcases readSet_cases start pointers.read with
    ⟨readReadable, read, readCopied, readSame⟩ | ⟨missing, failed⟩
  · rw [Prog.bind_of_ok readCopied]
    rcases readSet_cases start pointers.write with
      ⟨writeReadable, write, writeCopied, writeSame⟩ | ⟨missing, failed⟩
    · rw [Prog.bind_of_ok writeCopied]
      rcases readSet_cases start pointers.except with
        ⟨exceptReadable, except, exceptCopied, exceptSame⟩ |
          ⟨missing, failed⟩
      · rw [Prog.bind_of_ok exceptCopied]
        exact
          .inl
            ⟨⟨readReadable, writeReadable, exceptReadable⟩,
              ⟨read, write, except⟩, rfl, readSame, writeSame, exceptSame⟩
      · rw [Prog.bind_of_err failed]
        exact .inr ⟨fun readable => missing readable.except, rfl⟩
    · rw [Prog.bind_of_err failed]
      exact .inr ⟨fun readable => missing readable.write, rfl⟩
  · rw [Prog.bind_of_err failed]
    exact .inr ⟨fun readable => missing readable.read, rfl⟩

theorem SameSet.has
    {left right : FdSet}
    (same : SameSet left right)
    {fd : Nat}
    (inside : fd < 1024) :
    left.has fd = right.has fd := by
  unfold FdSet.has
  rw [same (fd / 8) (by omega)]

theorem SameSet.readyBits
    {left right : FdSet}
    (same : SameSet left right)
    (moment : Moment)
    (events : UInt16)
    {nfds : Nat}
    (inside : nfds ≤ 1024) :
    readyBits moment left events 0 nfds = readyBits moment right events 0 nfds := by
  unfold Waiting.readyBits
  apply List.countP_congr
  intro fd among
  rw [List.mem_range'_1] at among
  unfold Moment.found
  rw [same.has (by omega)]

theorem readyBits_le
    (moment : Moment)
    (set : FdSet)
    (events : UInt16)
    (nfds : Nat) :
    readyBits moment set events 0 nfds ≤ askedBits set nfds := by
  unfold readyBits askedBits
  apply List.countP_mono_left
  intro fd _ found
  unfold Moment.found at found
  exact (Bool.and_eq_true_iff.mp found).1

theorem askedBits_le (set : FdSet) (nfds : Nat) :
    askedBits set nfds ≤ nfds := by
  have bounded :=
    List.countP_le_length (p := set.has) (l := List.range' 0 nfds)
  rwa [List.length_range'] at bounded

theorem writeSet_eq_ok
    {pointer : UInt64}
    {set : FdSet}
    {moment final : Moment}
    (written : writeSet pointer set moment = .ok () final) :
    ∃ bytes, final = { moment with bytes := bytes } := by
  unfold writeSet at written
  split at written
  · have length : ((List.range 128).map set).length ≠ 0 := by
      rw [List.length_map, List.length_range]
      decide
    have copied := Prog.mapError_eq_ok.mp written
    rcases copyOut_cases moment pointer length with
      ⟨_, bytes, copiedThere, _⟩ | ⟨_, bytes, failed⟩ | ⟨_, _, stuck⟩
    · rw [copied] at copiedThere
      cases copiedThere
      exact ⟨bytes, rfl⟩
    · rw [copied] at failed
      cases failed
    · rw [copied] at stuck
      cases stuck
  · cases written
    exact ⟨_, rfl⟩

theorem writeSets_eq_ok
    {sets : Sets}
    {moment final : Moment}
    (written : writeSets pointers sets moment = .ok () final) :
    ∃ bytes, final = { moment with bytes := bytes } := by
  unfold writeSets at written
  obtain ⟨_, first, readWritten, written⟩ := Prog.bind_eq_ok.mp written
  obtain ⟨_, second, writeWritten, exceptWritten⟩ :=
    Prog.bind_eq_ok.mp written
  obtain ⟨_, rfl⟩ := writeSet_eq_ok readWritten
  obtain ⟨_, rfl⟩ := writeSet_eq_ok writeWritten
  obtain ⟨_, rfl⟩ := writeSet_eq_ok exceptWritten
  exact ⟨_, rfl⟩

theorem raises_writeSets (pointers : Pointers) (sets : Sets) :
    Prog.Raises IsErrno (writeSets pointers sets) := by
  have raises :
      ∀ pointer set, Prog.Raises IsErrno (writeSet pointer set) :=
    fun pointer set =>
      .ite (.mapError _ fun _ => (by decide : IsErrno (negErrno efault)))
        (.pure _)
  exact .bind (raises _ _) fun _ => .bind (raises _ _) fun _ => raises _ _

theorem raises_signalPendingUnblocked :
    Prog.Raises IsErrno signalPendingUnblocked :=
  .onPart
    (.mapError _ fun _ => (by decide : IsErrno (negErrno einval)))

section Select

variable
  {scan : Call (Sets × Nat)}
  {pointers : Pointers}
  {deadline : Option UInt64}
  {moment final : Moment}

theorem selectTurn_eq_ok
    {value : UInt64}
    (looks :
      ∀ found after, scan moment = .ok found after → after = moment)
    (returned :
      selectTurn scan pointers deadline moment = .ok (some value) final) :
    ∃ found bytes,
      scan moment = .ok found moment ∧
        value = UInt64.ofNat found.2 ∧
        final = { moment with bytes := bytes } := by
  unfold selectTurn at returned
  obtain ⟨found, middle, scanned, rest⟩ := Prog.bind_eq_ok.mp returned
  have same := looks found middle scanned
  subst same
  by_cases none : found.2 = 0
  · rw [if_neg (not_not_intro none), Prog.gets_bind_apply] at rest
    cases late : passed deadline middle.ticks with
    | true =>
        rw [late, if_pos rfl] at rest
        obtain ⟨_, last, written, ended⟩ := Prog.bind_eq_ok.mp rest
        cases ended
        obtain ⟨bytes, rfl⟩ := writeSets_eq_ok written
        exact ⟨found, bytes, scanned, by rw [none]; rfl, rfl⟩
    | false =>
        rw [late, if_neg Bool.false_ne_true] at rest
        obtain ⟨interrupted, last, _, ended⟩ := Prog.bind_eq_ok.mp rest
        cases interrupted <;> cases ended
  · rw [if_pos none] at rest
    obtain ⟨_, last, written, ended⟩ := Prog.bind_eq_ok.mp rest
    cases ended
    obtain ⟨bytes, rfl⟩ := writeSets_eq_ok written
    exact ⟨found, bytes, scanned, rfl, rfl⟩

theorem raises_selectTurn (raises : Prog.Raises IsErrno scan) :
    Prog.Raises IsErrno (selectTurn scan pointers deadline) :=
  .bind raises fun _ =>
    .ite (.bind (raises_writeSets _ _) fun _ => .pure _)
      (.bind (.gets _) fun _ =>
        .ite (.bind (raises_writeSets _ _) fun _ => .pure _)
          (.bind raises_signalPendingUnblocked fun _ =>
            .ite (.fail (by decide : IsErrno (negErrno eintr))) (.pure _)))

end Select

/-- A scan counts the ready descriptors of the sets that it looks at. -/
def ScanCounts
    (scan : Sets → Nat → Nat → Sets → Nat → Call (Sets × Nat))
    (scansExcept : Bool) : Prop :=
  ∀ requested nfds moment,
    scan requested nfds 0 Sets.empty 0 moment = .hang ∨
      ∃ sets,
        scan requested nfds 0 Sets.empty 0 moment =
          .ok (sets, readyInSets scansExcept moment requested nfds) moment

theorem scanSelect_counts : ScanCounts scanSelect true := by
  intro requested nfds moment
  by_cases looks : LooksSelect moment requested 0 nfds
  · have found := @scanSelect_of_looks moment requested nfds 0 0 looks Sets.empty
    rw [Nat.zero_add] at found
    exact .inr ⟨_, found⟩
  · exact .inl (scanSelect_of_not_looks looks Sets.empty)

theorem scanPselect_counts : ScanCounts scanPselect false := by
  intro requested nfds moment
  by_cases looks : LooksPselect moment requested 0 nfds
  · have found := @scanPselect_of_looks moment requested nfds 0 0 looks Sets.empty
    rw [Nat.zero_add] at found
    exact .inr ⟨_, found⟩
  · exact .inl (scanPselect_of_not_looks looks Sets.empty)

theorem countsSets_of_scan
    {scansExcept : Bool}
    {start moment : Moment}
    {nfds timeout : UInt64}
    {requested : Sets}
    (sets : SetsReadable start pointers)
    (readable : TimeoutReadable start timeout)
    (readSame : SameSet requested.read (askedSet start pointers.read))
    (writeSame : SameSet requested.write (askedSet start pointers.write))
    (exceptSame : SameSet requested.except (askedSet start pointers.except))
    (bytes : UInt64 → UInt8) :
    CountsSets scansExcept start { moment with bytes := bytes } nfds pointers
      timeout
      (UInt64.ofNat
        (readyInSets scansExcept moment requested (boundedFds nfds))) := by
  have inside : boundedFds nfds ≤ 1024 := Nat.min_le_right _ _
  have same :
      readyInSets scansExcept moment requested (boundedFds nfds) =
        readyInSets scansExcept moment (askedSets start pointers)
          (boundedFds nfds) := by
    unfold readyInSets
    rw [readSame.readyBits moment _ inside, writeSame.readyBits moment _ inside,
      exceptSame.readyBits moment _ inside]
    rfl
  have read :=
    readyBits_le moment (askedSets start pointers).read pollIn
      (boundedFds nfds)
  have write :=
    readyBits_le moment (askedSets start pointers).write pollOut
      (boundedFds nfds)
  have except :=
    readyBits_le moment (askedSets start pointers).except pollPri
      (boundedFds nfds)
  have readAsked := askedBits_le (askedSets start pointers).read (boundedFds nfds)
  have writeAsked :=
    askedBits_le (askedSets start pointers).write (boundedFds nfds)
  have exceptAsked :=
    askedBits_le (askedSets start pointers).except (boundedFds nfds)
  have bounded :
      readyInSets scansExcept moment (askedSets start pointers)
          (boundedFds nfds) ≤
        askedBits (askedSets start pointers).read (boundedFds nfds) +
          askedBits (askedSets start pointers).write (boundedFds nfds) +
          askedBits (askedSets start pointers).except (boundedFds nfds) := by
    unfold readyInSets
    split <;> omega
  have number :
      (UInt64.ofNat
          (readyInSets scansExcept moment requested
            (boundedFds nfds))).toNat =
        readyInSets scansExcept moment (askedSets start pointers)
          (boundedFds nfds) := by
    rw [same, UInt64.toNat_ofNat']
    omega
  exact ⟨sets, readable, number, by rwa [number]⟩

theorem selectWith_iff
    {scan : Sets → Nat → Nat → Sets → Nat → Call (Sets × Nat)}
    {scansExcept : Bool}
    (counts : ScanCounts scan scansExcept)
    {parts : Int}
    {convert : UInt64 → UInt64 → UInt64}
    {nfds timeout : UInt64} :
    (∀ value final,
        Replies
            (selectWith scan (timeoutTicks parts convert) schedule nfds
              pointers timeout)
            start value final →
          IsErrno value ∨
            CountsSets scansExcept start final nfds pointers timeout value) ↔
      (SetsReadable start pointers → TimeoutReadable start timeout) := by
  have ends := timeoutTicks_ends parts convert start timeout
  constructor
  · intro honest sets
    by_contra missing
    have replied :
        selectWith scan (timeoutTicks parts convert) schedule nfds pointers
            timeout 0 start =
          .err efault start := by
      obtain ⟨_, requested, copied, _⟩ | ⟨unread, _⟩ :=
        readSets_cases start pointers
      · unfold selectWith
        rw [Prog.bind_of_ok copied, Prog.gets_bind_apply]
        apply Prog.bind_of_err
        generalize timeoutTicks parts convert timeout start = outcome at ends
        cases ends with
        | converted readable => exact absurd readable missing
        | invalid readable => exact absurd readable missing
        | unreadable => rfl
      · exact absurd sets unread
    rcases honest efault start ⟨0, .inr replied⟩ with isErrno | counted
    · exact absurd isErrno (by decide)
    · exact missing counted.timeout
  · rintro clear value final ⟨fuel, replied⟩
    unfold Answers selectWith at replied
    obtain ⟨sets, requested, copied, readSame, writeSame, exceptSame⟩ |
        ⟨_, failed⟩ :=
      readSets_cases start pointers
    · rw [Prog.bind_of_ok copied, Prog.gets_bind_apply] at replied
      cases result : timeoutTicks parts convert timeout start with
      | ok ticks after =>
          rw [result] at ends
          cases ends
          rw [Prog.bind_of_ok result] at replied
          have looks :
              ∀ moment found after,
                scan requested (boundedFds nfds) 0 Sets.empty 0 moment =
                    .ok found after →
                  after = moment := by
            intro moment found after scanned
            rcases counts requested (boundedFds nfds) moment with
              stuck | ⟨sets, counted⟩
            · rw [stuck] at scanned
              cases scanned
            · rw [counted] at scanned
              cases scanned
              rfl
          have raises :
              Prog.Raises IsErrno
                (scan requested (boundedFds nfds) 0 Sets.empty 0) := by
            intro moment code after failed
            rcases counts requested (boundedFds nfds) moment with
              stuck | ⟨sets, counted⟩
            · rw [stuck] at failed
              cases failed
            · rw [counted] at failed
              cases failed
          rcases replied with returned | failed
          · obtain ⟨waits, moment, _, last⟩ :=
              Prog.awaits_eq_ok.mp ⟨fuel, returned⟩
            obtain ⟨found, bytes, scanned, rfl, rfl⟩ :=
              selectTurn_eq_ok (looks moment) last
            rcases counts requested (boundedFds nfds) moment with
              stuck | ⟨ready, counted⟩
            · rw [stuck] at scanned
              cases scanned
            · rw [counted] at scanned
              cases scanned
              exact
                .inr
                  (countsSets_of_scan sets (clear sets) readSame writeSame
                    exceptSame bytes)
          · obtain ⟨waits, moment, _, last⟩ :=
              Prog.awaits_eq_err.mp ⟨fuel, failed⟩
            exact .inl (raises_selectTurn raises _ _ _ last)
      | err code after =>
          rw [result] at ends
          rw [Prog.bind_of_err result] at replied
          cases ends with
          | invalid =>
              rcases replied with returned | failed
              · cases returned
              · cases failed
                exact .inl (by decide)
          | unreadable missing =>
              exact absurd (clear sets) missing
      | hang =>
          rw [result] at ends
          cases ends
    · rw [Prog.bind_of_err failed] at replied
      rcases replied with returned | failedThere
      · cases returned
      · cases failedThere
        exact .inl (by decide)

/-! ## The five calls -/

/-- A waiting call with its arguments. -/
inductive WaitingCall where
  | poll (userFds count timeout : UInt64)
  | ppoll (userFds count timeout : UInt64)
  | select (nfds : UInt64) (pointers : Pointers) (timeout : UInt64)
  | pselect (nfds : UInt64) (pointers : Pointers) (timeout : UInt64)
  | nanosleep (request remaining : UInt64)

namespace WaitingCall

/-- The call as the kernel makes it. -/
def run (schedule : Schedule) : WaitingCall → Nat → Call UInt64
  | poll userFds count timeout =>
      Waiting.poll schedule userFds count timeout
  | ppoll userFds count timeout =>
      Waiting.ppoll schedule userFds count timeout
  | select nfds pointers timeout =>
      Waiting.select schedule nfds pointers timeout
  | pselect nfds pointers timeout =>
      Waiting.pselect schedule nfds pointers timeout
  | nanosleep request remaining =>
      Waiting.nanosleep schedule request remaining

/-- The value is a number of ready descriptors among those asked about. -/
def Counts (start final : Moment) (value : UInt64) : WaitingCall → Prop
  | poll userFds count _ => CountsEntries final userFds count.toNat value
  | ppoll userFds count _ => CountsEntries final userFds count.toNat value
  | select nfds pointers timeout =>
      CountsSets true start final nfds pointers timeout value
  | pselect nfds pointers timeout =>
      CountsSets false start final nfds pointers timeout value
  | nanosleep _ _ => value = 0

/-- Whatever the call returns is a negative error number or a count. -/
def ReportsHonestly
    (schedule : Schedule)
    (start : Moment)
    (call : WaitingCall) : Prop :=
  ∀ value final,
    Replies (call.run schedule) start value final →
    IsErrno value ∨ call.Counts start final value

/-- The moments in which `poll` scans the array. -/
def PollScans
    (schedule : Schedule)
    (userFds count timeout : UInt64)
    (start moment : Moment) : Prop :=
  if timeout = 0 then
    moment = start
  else
    ∃ waits,
      Prog.Begun schedule
        (pollTurn userFds count.toNat (pollDeadline timeout start.ticks))
        start waits moment

/-- The moments in which `ppoll` scans the array. -/
def PpollScans
    (schedule : Schedule)
    (userFds count timeout : UInt64)
    (start moment : Moment) : Prop :=
  ∃ deadline waits,
    ppollDeadline timeout start = .ok deadline start ∧
      Prog.Begun schedule (ppollTurn userFds count.toNat deadline) start waits
        moment

/-- No copy fails whose error would be passed on as it is. -/
def Readable (schedule : Schedule) (start : Moment) : WaitingCall → Prop
  | poll userFds count timeout =>
      ∀ moment,
        PollScans schedule userFds count timeout start moment →
        ScanReadable userFds count.toNat moment
  | ppoll userFds count timeout =>
      ∀ moment,
        PpollScans schedule userFds count timeout start moment →
        ScanReadable userFds count.toNat moment
  | select _ pointers timeout =>
      SetsReadable start pointers → TimeoutReadable start timeout
  | pselect _ pointers timeout =>
      SetsReadable start pointers → TimeoutReadable start timeout
  | nanosleep request _ => TimeoutReadable start request

end WaitingCall

/-- A scan whose result is returned at once. -/
def scanOnce (userFds : UInt64) (count : Nat) : Call UInt64 := do
  let value ← pollScan userFds count
  pure (UInt64.ofNat value)

theorem scanOnce_iff :
    (∀ value final,
        Answers (scanOnce userFds count) start value final →
          IsErrno value ∨ CountsEntries final userFds count value) ↔
      ScanReadable userFds count start := by
  have ends := pollScan_ends userFds count start
  unfold Answers scanOnce
  cases result : pollScan userFds count start with
  | ok number final =>
      rw [result] at ends
      rw [Prog.bind_of_ok result]
      cases ends with
      | counted small readable clear =>
          refine iff_of_true ?_ clear
          rintro value last (returned | failed)
          · cases returned
            exact .inr (countsEntries_of_readable small readable)
          · cases failed
  | err code final =>
      rw [result] at ends
      rw [Prog.bind_of_err result]
      cases ends with
      | refused isErrno clear =>
          refine iff_of_true ?_ clear
          rintro value last (returned | failed)
          · cases returned
          · cases failed
            exact .inl isErrno
      | unreadable unread met =>
          refine iff_of_false ?_ met
          intro honest
          exact not_counts_efault unread (honest efault final (.inr rfl))
  | hang =>
      rw [result] at ends
      rw [Prog.bind_of_hang result]
      cases ends with
      | stuck clear =>
          refine iff_of_true ?_ clear
          rintro value last (returned | failed)
          · cases returned
          · cases failed

theorem poll_iff
    {userFds count timeout : UInt64} :
    (WaitingCall.poll userFds count timeout).ReportsHonestly schedule start ↔
      (WaitingCall.poll userFds count timeout).Readable schedule start := by
  unfold WaitingCall.ReportsHonestly WaitingCall.Readable WaitingCall.PollScans
  dsimp only [WaitingCall.run, WaitingCall.Counts]
  by_cases once : timeout = 0
  · have replies :
        ∀ value final,
          Replies (poll schedule userFds count timeout) start value final ↔
            Answers (scanOnce userFds count.toNat) start value final := by
      intro value final
      unfold Replies poll
      simp only [if_pos once]
      exact exists_const Nat
    simp only [replies, if_pos once, forall_eq]
    exact scanOnce_iff
  · have replies :
        ∀ value final,
          Replies (poll schedule userFds count timeout) start value final ↔
            Replies
              (fun fuel =>
                Prog.awaits schedule
                  (pollTurn userFds count.toNat
                    (pollDeadline timeout start.ticks))
                  fuel 0)
              start value final := by
      intro value final
      unfold Replies Answers poll
      simp only [if_neg once, Prog.gets_bind_apply]
    simp only [replies, if_neg once, forall_exists_index]
    unfold pollTurn
    rw [awaits_scan_iff]
    exact forall_comm

theorem ppoll_iff
    {userFds count timeout : UInt64} :
    (WaitingCall.ppoll userFds count timeout).ReportsHonestly schedule start ↔
      (WaitingCall.ppoll userFds count timeout).Readable schedule start := by
  unfold WaitingCall.ReportsHonestly WaitingCall.Readable WaitingCall.PpollScans
  dsimp only [WaitingCall.run, WaitingCall.Counts]
  obtain ⟨deadline, found⟩ := ppollDeadline_returns timeout start
  have replies :
      ∀ value final,
        Replies (ppoll schedule userFds count timeout) start value final ↔
          Replies
            (fun fuel =>
              Prog.awaits schedule (ppollTurn userFds count.toNat deadline)
                fuel 0)
            start value final := by
    intro value final
    unfold Replies Answers ppoll
    simp only [Prog.bind_of_ok found]
  simp only [replies]
  unfold ppollTurn
  rw [awaits_scan_iff]
  constructor
  · rintro clear moment ⟨other, waits, foundThere, begun⟩
    rw [found] at foundThere
    cases foundThere
    exact clear waits moment begun
  · intro clear waits moment begun
    exact clear moment ⟨deadline, waits, found, begun⟩

theorem raises_sleepFor
    (schedule : Schedule)
    (ticks remaining : UInt64)
    (fuel : Nat) :
    Prog.Raises IsErrno (sleepFor schedule ticks remaining fuel) := by
  have sleeps :
      ∀ target,
        Prog.Raises IsErrno
          (Prog.awaits schedule (sleepTurn target) fuel 0) :=
    fun target =>
      Prog.raises_awaits
        (.bind (.gets _) fun _ => .ite (.pure _) (.pure _)) fuel
  exact
    .bind (.gets _) fun _ =>
      .bind (sleeps _) fun _ =>
        .ite (.bind (.attempt _) fun _ => .pure _) (.pure _)

theorem yields_sleepFor
    (schedule : Schedule)
    (ticks remaining : UInt64)
    (fuel : Nat) :
    Prog.Yields (· = 0) (sleepFor schedule ticks remaining fuel) :=
  .bind fun _ =>
    .bind fun _ =>
      .ite (fun _ => .bind fun _ => .pure rfl) fun _ => .pure rfl

theorem nanosleep_iff
    {request remaining : UInt64} :
    (WaitingCall.nanosleep request remaining).ReportsHonestly schedule start ↔
      (WaitingCall.nanosleep request remaining).Readable schedule start := by
  unfold WaitingCall.ReportsHonestly WaitingCall.Readable
  dsimp only [WaitingCall.run, WaitingCall.Counts]
  have ends := timeoutTicks_ends 1000000000 timespecTicks start request
  constructor
  · intro honest
    by_contra missing
    have some : request ≠ 0 := fun absent => missing (.inl absent)
    have replied :
        nanosleep schedule request remaining 0 start = .err efault start := by
      unfold nanosleep timeoutTicksFromTimespec
      rw [if_neg some]
      apply Prog.bind_of_err
      generalize
        timeoutTicks 1000000000 timespecTicks request start = outcome at ends
      cases ends with
      | converted readable => exact absurd readable missing
      | invalid readable => exact absurd readable missing
      | unreadable => rfl
    rcases honest efault start ⟨0, .inr replied⟩ with isErrno | isZero
    · exact absurd isErrno (by decide)
    · cases isZero
  · rintro readable value final ⟨fuel, returned | failed⟩
    · right
      have yields :
          Prog.Yields (· = 0) (nanosleep schedule request remaining fuel) :=
        .ite (fun _ => .fail _) fun _ =>
          .bind fun _ => yields_sleepFor _ _ _ _
      exact yields _ _ _ returned
    · left
      unfold nanosleep timeoutTicksFromTimespec at failed
      split at failed
      · cases failed
        decide
      · rcases Prog.bind_eq_err.mp failed with
          refused | ⟨ticks, middle, _, later⟩
        · rw [refused] at ends
          cases ends with
          | invalid => decide
          | unreadable missing => exact absurd readable missing
        · exact raises_sleepFor schedule _ remaining fuel _ _ _ later

/-- Waiting calls report honestly exactly if what they copy can be read. -/
theorem waits_report_iff
    {schedule : Schedule}
    {start : Moment}
    {call : WaitingCall} :
    call.ReportsHonestly schedule start ↔ call.Readable schedule start := by
  cases call with
  | poll userFds count timeout => exact poll_iff
  | ppoll userFds count timeout => exact ppoll_iff
  | select nfds pointers timeout => exact selectWith_iff scanSelect_counts
  | pselect nfds pointers timeout => exact selectWith_iff scanPselect_counts
  | nanosleep request remaining => exact nanosleep_iff

/-- A process without descriptors and without user memory. -/
def bareMoment : Moment where
  files := Files.State.new
  serialReady := false
  keyboardReady := false
  ticks := 0
  space := ⟨fun _ => 0, 0x1000⟩
  bytes _ := 0

/-- `poll` of an array that is not mapped reports 14 descriptors. -/
theorem poll_reports_efault :
    Replies (poll (fun _ moment => moment) 0x400000 20 0) bareMoment 14
        bareMoment ∧
      ¬ (WaitingCall.poll 0x400000 20 0).ReportsHonestly
        (fun _ moment => moment) bareMoment := by
  refine ⟨⟨0, .inr rfl⟩, ?_⟩
  rw [poll_iff]
  intro readable
  have clear := readable bareMoment rfl (by decide) 0 (by decide) nofun
  have loads : (bareMoment.space.translate 0x400000).isSome = true :=
    clear.2 0 (by decide)
  exact absurd loads (by decide)

end VibuxOS.Waiting
