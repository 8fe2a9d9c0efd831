import VibuxOS.Files.TimerReads

namespace VibuxOS.Files

open VibuxOS.Lib

/-!
# Setting a timer and looking at it

`timerfd_settime_impl` and `timerfd_gettime_impl` of `arch/x86_64/syscall.rs`.
Both take the first half of a `struct itimerspec` for the time of the first
expiry and the second half for the interval.  By the layout of the structure
the interval comes first.
-/

/-- `1_000_000_000` -/
def nsPerSec : UInt64 := 1000000000

def tfdTimerAbstime : UInt64 := 1

def saturatingMul (left right : UInt64) : UInt64 :=
  UInt64.ofNat (min (left.toNat * right.toNat) (2 ^ 64 - 1))

def saturatingSub (left right : UInt64) : UInt64 :=
  if left ≤ right then 0 else left - right

/-- The sign of a number that is read as an `i64`. -/
def isNegative (number : UInt64) : Bool :=
  2 ^ 63 ≤ number.toNat

/-- The numbers of a structure, under the names that the code gives them. -/
structure TimerSpec where
  sec : UInt64
  nsec : UInt64
  isec : UInt64
  insec : UInt64

namespace TimerSpec

/-- The numbers at an address. -/
def ofBytes (raw : Nat → UInt8) : TimerSpec where
  sec := getU64 raw 0
  nsec := getU64 raw 8
  isec := getU64 raw 16
  insec := getU64 raw 24

/-- The check that leads to `EINVAL`. -/
def refused (spec : TimerSpec) : Bool :=
  isNegative spec.sec || isNegative spec.nsec || spec.nsec ≥ nsPerSec ||
    isNegative spec.isec || isNegative spec.insec || spec.insec ≥ nsPerSec

def expiresNs (spec : TimerSpec) : UInt64 :=
  saturatingMul spec.sec nsPerSec + spec.nsec

def intervalNs (spec : TimerSpec) : UInt64 :=
  saturatingMul spec.isec nsPerSec + spec.insec

end TimerSpec

/-- Seconds and nanoseconds, of eight bytes each. -/
def timespecBytes (ns : Nat) : List UInt8 :=
  leBytes (UInt64.ofNat (ns / 10 ^ 9)) 8 ++
    leBytes (UInt64.ofNat (ns % 10 ^ 9)) 8

/-- What is left until a timer expires. -/
def TimerFdState.remaining (timer : TimerFdState) (nowNs : UInt64) : UInt64 :=
  if timer.armed then saturatingSub timer.expiresNs nowNs else 0

/-- Whether the time of a setting is one of the clock. -/
def isAbsolute (flags : UInt64) : Bool :=
  flags &&& tfdTimerAbstime != 0

/-- A timer after it was set. -/
def TimerFdState.arm
    (timer : TimerFdState)
    (spec : TimerSpec)
    (absolute : Bool)
    (nowNs : UInt64) :
    TimerFdState :=
  { timer with
    expiresNs :=
      if absolute then spec.expiresNs else nowNs + spec.expiresNs
    intervalNs := spec.intervalNs
    armed := true }

/--
`timerfd_settime_impl`; the bytes that reach the place for the old setting.
The world is that of the new setting, and `oldCopied` says whether the old one
can be copied to its place.
-/
def timerfdSettime
    (world : World)
    (oldCopied : Bool)
    (fdNumber : Int)
    (flags newValue oldValue : UInt64) :
    Sys (List UInt8) := do
  let fd ← fdSnapshot fdNumber
  if fd.kind ≠ .timerFd then
    Prog.fail .einval
  else if newValue = 0 then
    if fd.id ≥ timerfdMax then
      Prog.hang
    else do
      let timer ← Prog.gets fun state => state.timerFds fd.id
      Prog.modify
        (State.setTimerFd fd.id
          (if timer.used then { timer with armed := false } else timer))
      pure []
  else if world.copied 0 32 = false then
    Prog.fail .efault
  else if (TimerSpec.ofBytes world.source).refused then
    Prog.fail .einval
  else if fd.id ≥ timerfdMax then
    Prog.hang
  else if oldValue ≠ 0 ∧ oldCopied = false then
    Prog.fail .efault
  else do
    let timer ← Prog.gets fun state => state.timerFds fd.id
    Prog.modify
      (State.setTimerFd fd.id
        (timer.arm (TimerSpec.ofBytes world.source) (isAbsolute flags)
          world.nowNs))
    pure
      (if oldValue ≠ 0 then
        timespecBytes timer.expiresNs.toNat ++
          timespecBytes timer.intervalNs.toNat
      else
        [])

/-- `timerfd_gettime_impl`; the bytes that reach the caller. -/
def timerfdGettime
    (world : World)
    (fdNumber : Int)
    (currValue : UInt64) :
    Sys (List UInt8) := do
  let fd ← fdSnapshot fdNumber
  if fd.kind ≠ .timerFd then
    Prog.fail .einval
  else if currValue = 0 then
    pure []
  else if fd.id ≥ timerfdMax then
    Prog.hang
  else do
    let timer ← Prog.gets fun state => state.timerFds fd.id
    if timer.used = false then
      Prog.fail .ebadf
    else do
      let raw :=
        timespecBytes (timer.remaining world.nowNs).toNat ++
          timespecBytes timer.intervalNs.toNat
      copyUserOut world 0 raw
      pure raw

/-! ## What setting a timer has to lead to -/

/-- The interval of a `struct itimerspec`, in nanoseconds. -/
def itInterval (raw : Nat → UInt8) : Nat :=
  (getU64 raw 0).toNat * 10 ^ 9 + (getU64 raw 8).toNat

/-- The time of a `struct itimerspec`, in nanoseconds. -/
def itValue (raw : Nat → UInt8) : Nat :=
  (getU64 raw 16).toNat * 10 ^ 9 + (getU64 raw 24).toNat

/-- When a timer that is set now is due. -/
def dueTime (absolute : Bool) (nowNs : UInt64) (value : Nat) : Nat :=
  if absolute then value else nowNs.toNat + value

/-- No sum of `timerfd_settime_impl` exceeds 64 bits. -/
def SumsFit (spec : TimerSpec) (absolute : Bool) (nowNs : UInt64) : Prop :=
  (saturatingMul spec.sec nsPerSec).toNat + spec.nsec.toNat < 2 ^ 64 ∧
    (saturatingMul spec.isec nsPerSec).toNat + spec.insec.toNat < 2 ^ 64 ∧
    (absolute = false → nowNs.toNat + spec.expiresNs.toNat < 2 ^ 64)

/-- How often a timer expires by some time. -/
noncomputable def expirationsBy (first interval now : Nat) : Nat :=
  if interval = 0 then
    if first ≤ now then 1 else 0
  else
    (occurred first interval now).ncard

/--
A timer that was set at some time: a value of zero disarms it.  Otherwise reads
deliver the expirations from the due time on, and the timer shows what is left
until then, and the interval.
-/
structure SetTo
    (fdNumber : Int)
    (value interval due : Nat)
    (nowNs : UInt64)
    (final : State) : Prop where
  disarms : value = 0 → (final.timerOf fdNumber).armed = false
  first :
    value ≠ 0 →
    ∀ world : World,
      world.Maps 8 →
      nowNs ≤ world.nowNs →
      delivered (readFd world fdNumber 8 final) =
        expirationsBy due interval world.nowNs.toNat
  all :
    value ≠ 0 →
    ∀ reads : List World,
      (∀ world ∈ reads,
        world.Maps 8 ∧ nowNs ≤ world.nowNs ∧
          NextFits due interval world.nowNs.toNat) →
      (reads.Pairwise fun early late => early.nowNs ≤ late.nowNs) →
      DeliversAll fdNumber due interval reads final 0
  shows :
    ∀ (world : World) (currValue : UInt64),
      world.nowNs = nowNs →
      world.copied 0 32 = true →
      currValue ≠ 0 →
      timerfdGettime world fdNumber currValue final =
        .ok (timespecBytes interval ++ timespecBytes (due - nowNs.toNat)) final

/--
The interval is the time of the first expiry, it is not zero, and the expiry is
in 64 bits.  A time of the clock is set when the clock starts.
-/
structure AsMeant
    (value interval : Nat)
    (absolute : Bool)
    (nowNs : UInt64) : Prop where
  arms : value ≠ 0
  sameTime : interval = value
  inWord : value < 2 ^ 64
  atStart : absolute = true → nowNs = 0
  sumInWord : absolute = false → nowNs.toNat + value < 2 ^ 64

/-! ## Times as bytes and as words -/

section Times

variable {sec nsec : UInt64}

theorem toNat_saturatingMul (left right : UInt64) :
    (saturatingMul left right).toNat =
      min (left.toNat * right.toNat) (2 ^ 64 - 1) := by
  rw [saturatingMul, UInt64.toNat_ofNat']
  exact
    Nat.mod_eq_of_lt (Nat.lt_of_le_of_lt (Nat.min_le_right _ _) (by decide))

theorem toNat_nsPerSec : nsPerSec.toNat = 10 ^ 9 :=
  rfl

theorem toNat_time
    (fits : sec.toNat * 10 ^ 9 + nsec.toNat < 2 ^ 64) :
    (saturatingMul sec nsPerSec).toNat + nsec.toNat < 2 ^ 64 ∧
      (saturatingMul sec nsPerSec + nsec).toNat =
        sec.toNat * 10 ^ 9 + nsec.toNat := by
  have inWord : sec.toNat * 10 ^ 9 < 2 ^ 64 :=
    Nat.lt_of_le_of_lt (Nat.le_add_right _ _) fits
  have exact : (saturatingMul sec nsPerSec).toNat = sec.toNat * 10 ^ 9 := by
    rw [toNat_saturatingMul, toNat_nsPerSec,
      Nat.min_eq_left (Nat.le_sub_one_of_lt inWord)]
  rw [UInt64.toNat_add, exact]
  exact ⟨fits, Nat.mod_eq_of_lt fits⟩

theorem toNat_time_cases
    (fits : (saturatingMul sec nsPerSec).toNat + nsec.toNat < 2 ^ 64) :
    (saturatingMul sec nsPerSec + nsec).toNat =
        sec.toNat * 10 ^ 9 + nsec.toNat ∨
      (saturatingMul sec nsPerSec + nsec).toNat = 2 ^ 64 - 1 ∧
        2 ^ 64 - 1 < sec.toNat * 10 ^ 9 + nsec.toNat := by
  rw [UInt64.toNat_add, Nat.mod_eq_of_lt fits]
  rw [toNat_saturatingMul, toNat_nsPerSec] at *
  rcases Nat.lt_or_ge (2 ^ 64 - 1) (sec.toNat * 10 ^ 9) with saturates | exact
  · rw [Nat.min_eq_right (Nat.le_of_lt saturates)] at *
    have alone : nsec.toNat = 0 := by omega
    rw [alone, Nat.add_zero, Nat.add_zero]
    exact .inr ⟨rfl, saturates⟩
  · rw [Nat.min_eq_left exact]
    exact .inl rfl

theorem leBytes_inj
    {left right : UInt64}
    (same : leBytes left 8 = leBytes right 8) :
    left = right := by
  apply UInt64.toNat_inj.mp
  rw [← leValue_leBytes left, ← leValue_leBytes right, same]

theorem timespecBytes_inj
    {left right : Nat}
    (leftFits : left < 2 ^ 64 * 10 ^ 9)
    (rightFits : right < 2 ^ 64 * 10 ^ 9)
    (same : timespecBytes left = timespecBytes right) :
    left = right := by
  obtain ⟨seconds, rest⟩ :=
    List.append_inj same (by simp only [length_leBytes])
  have seconds := congrArg UInt64.toNat (leBytes_inj seconds)
  have rest := congrArg UInt64.toNat (leBytes_inj rest)
  simp only [UInt64.toNat_ofNat'] at seconds rest
  omega

theorem length_timespecBytes (ns : Nat) : (timespecBytes ns).length = 16 := by
  simp only [timespecBytes, List.length_append, length_leBytes]

theorem time_lt
    (small : nsec < nsPerSec) :
    sec.toNat * 10 ^ 9 + nsec.toNat < 2 ^ 64 * 10 ^ 9 := by
  have small := UInt64.lt_iff_toNat_lt.mp small
  have factor : nsPerSec.toNat = 10 ^ 9 := rfl
  have inWord := sec.toNat_lt
  omega

end Times

/-! ## The calls on a timer -/

section Calls

variable
  {world : World}
  {state final : State}
  {fdNumber : Int}

theorem timerfdSettime_eq_ok
    {oldCopied : Bool}
    {flags newValue oldValue : UInt64}
    {old : List UInt8}
    (given : newValue ≠ 0)
    (accepted :
      timerfdSettime world oldCopied fdNumber flags newValue oldValue state =
        .ok old final) :
    (TimerSpec.ofBytes world.source).refused = false ∧
      final =
        state.withTimer fdNumber
          ((state.timerOf fdNumber).arm (TimerSpec.ofBytes world.source)
            (isAbsolute flags) world.nowNs) := by
  unfold timerfdSettime at accepted
  obtain ⟨fd, middle, opened, rest⟩ := Prog.bind_eq_ok.mp accepted
  by_cases isOpen : OpenFd state.fds fdNumber
  · rw [fdSnapshot_of_open isOpen] at opened
    cases opened
    rw [if_neg given] at rest
    split at rest
    · cases rest
    split at rest
    · cases rest
    split at rest
    · cases rest
    rename_i allowed
    split at rest
    · cases rest
    split at rest
    · cases rest
    cases rest
    exact ⟨Bool.eq_false_iff.mpr allowed, rfl⟩
  · rw [fdSnapshot_of_not_open isOpen] at opened
    cases opened

namespace TimerFd

theorem gettime
    {currValue : UInt64}
    (isFd : TimerFd state fdNumber)
    (given : currValue ≠ 0)
    (copied : world.copied 0 32 = true) :
    timerfdGettime world fdNumber currValue state =
      .ok
        (timespecBytes
            ((state.timerOf fdNumber).remaining world.nowNs).toNat ++
          timespecBytes (state.timerOf fdNumber).intervalNs.toNat)
        state := by
  have used := isFd.used
  unfold State.timerOf at used
  rw [timerfdGettime, Prog.bind_of_ok (fdSnapshot_of_open isFd.isOpen),
    if_neg (not_not.mpr isFd.isTimer), if_neg given,
    if_neg (Nat.not_le.mpr isFd.inTable), Prog.gets_bind_apply,
    if_neg (by simp [used]), copyUserOut_eq, List.length_append,
    length_timespecBytes, length_timespecBytes, if_pos copied]
  rfl

theorem delivered_read
    (isFd : TimerFd state fdNumber)
    (maps : world.Maps 8)
    (armed : (state.timerOf fdNumber).armed = true) :
    delivered (readFd world fdNumber 8 state) =
      if (state.timerOf fdNumber).expiresNs ≤ world.nowNs then
        (expirations (state.timerOf fdNumber) world.nowNs).toNat
      else
        0 := by
  split
  · rename_i expired
    rw [isFd.read_expired maps armed expired, delivered_leBytes]
  · rename_i early
    rw [isFd.read_early armed (UInt64.not_le.mp early)]
    rfl

end TimerFd

end Calls

/-! ## Exactly when a setting is taken as it was meant -/

section Numbers

variable {first interval now : Nat}

theorem expirationsBy_of_lt (early : now < first) :
    expirationsBy first interval now = 0 := by
  have none := (@Counted.none first interval now early).ncard_occurred
  simp [expirationsBy, none, Nat.not_le.mpr early]

theorem expirationsBy_of_le
    (reached : first ≤ now)
    (positive : 0 < interval) :
    expirationsBy first interval now = (now - first) / interval + 1 := by
  have counted :=
    (@Counted.again first interval 0 now positive nofun).ncard_occurred
  simpa [expirationsBy, newEvents, positive.ne', reached] using counted

theorem expirationsBy_pos_iff :
    0 < expirationsBy first interval now ↔ first ≤ now := by
  constructor
  · intro some
    by_contra early
    rw [expirationsBy_of_lt (Nat.lt_of_not_le early)] at some
    cases some
  · intro reached
    rcases Nat.eq_zero_or_pos interval with rfl | positive
    · simp [expirationsBy, reached]
    · rw [expirationsBy_of_le reached positive]
      exact Nat.succ_pos _

theorem toNat_saturatingSub (left right : UInt64) :
    (saturatingSub left right).toNat = left.toNat - right.toNat := by
  unfold saturatingSub
  split
  · rename_i below
    simp [Nat.sub_eq_zero_of_le (UInt64.le_iff_toNat_le.mp below)]
  · rename_i above
    exact UInt64.toNat_sub_of_le _ _ (UInt64.le_of_lt (UInt64.not_le.mp above))

end Numbers

section Settings

variable
  {final : State}
  {fdNumber : Int}
  {value interval due : Nat}
  {nowNs : UInt64}

theorem TimerFd.setTo
    (isFd : TimerFd final fdNumber)
    (armed : (final.timerOf fdNumber).armed = true)
    (arms : value ≠ 0)
    (positive : 0 < interval)
    (expires : (final.timerOf fdNumber).expiresNs.toNat = due)
    (isInterval : (final.timerOf fdNumber).intervalNs.toNat = interval)
    (left : due - nowNs.toNat = interval) :
    SetTo fdNumber value interval due nowNs final where
  disarms isZero := absurd isZero arms
  first _ world maps later := by
    have inWord := world.nowNs.toNat_lt
    rw [isFd.delivered_read maps armed]
    split
    · rename_i expired
      have reached := UInt64.le_iff_toNat_le.mp expired
      have notZero : (final.timerOf fdNumber).intervalNs ≠ 0 := by
        intro isZero
        rw [isZero, UInt64.toNat_zero] at isInterval
        omega
      rw [expires] at reached
      have below :
          (world.nowNs.toNat - due) / interval ≤ world.nowNs.toNat - due :=
        Nat.div_le_self _ _
      rw [expirationsBy_of_le reached positive, expirations, if_pos notZero,
        UInt64.toNat_add, UInt64.toNat_div,
        UInt64.toNat_sub_of_le _ _ expired, expires, isInterval,
        UInt64.toNat_one, Nat.add_comm 1]
      exact Nat.mod_eq_of_lt (by omega)
    · rename_i early
      rw [UInt64.not_le, UInt64.lt_iff_toNat_lt, expires] at early
      exact (expirationsBy_of_lt early).symm
  all _ reads valid inOrder := by
    apply
      deliversAll_of_periodic isFd ⟨armed, isInterval, positive, ?_⟩
        (fun world among => (valid world among).1) inOrder
        (fun _ _ _ inside => absurd inside (Nat.not_lt_zero _))
        fun world among => (valid world among).2.2
    rw [expires, Nat.zero_mul, Nat.add_zero]
  shows world currValue isNow copied given := by
    rw [isFd.gettime given copied, isNow, TimerFdState.remaining,
      if_pos armed, toNat_saturatingSub, expires, left, isInterval]

section

variable
  (set : SetTo fdNumber value interval due nowNs final)
  (isFd : TimerFd final fdNumber)
  (armed : (final.timerOf fdNumber).armed = true)

include set isFd armed

theorem SetTo.shown
    (small : interval < 2 ^ 64 * 10 ^ 9)
    (dueSmall : due - nowNs.toNat < 2 ^ 64 * 10 ^ 9) :
    (final.timerOf fdNumber).expiresNs.toNat - nowNs.toNat = interval ∧
      (final.timerOf fdNumber).intervalNs.toNat = due - nowNs.toNat := by
  have word : ∀ number : UInt64, number.toNat < 2 ^ 64 * 10 ^ 9 :=
    fun number =>
      Nat.lt_of_lt_of_le number.toNat_lt (Nat.le_mul_of_pos_right _ (by decide))
  have shown :=
    set.shows { World.idle with nowNs := nowNs } 1 rfl rfl (by decide)
  rw [isFd.gettime (by decide) rfl, TimerFdState.remaining, if_pos armed]
    at shown
  obtain ⟨first, second⟩ :=
    List.append_inj (Outcome.ok.inj shown).1
      (by simp only [length_timespecBytes])
  have first := timespecBytes_inj (word _) small first
  rw [toNat_saturatingSub] at first
  exact ⟨first, timespecBytes_inj (word _) dueSmall second⟩

theorem SetTo.expiry_le_iff
    (arms : value ≠ 0)
    {time : UInt64}
    (later : nowNs ≤ time)
    (counts :
      (final.timerOf fdNumber).expiresNs ≤ time →
      0 < (expirations (final.timerOf fdNumber) time).toNat) :
    (final.timerOf fdNumber).expiresNs ≤ time ↔ due ≤ time.toNat := by
  have law :=
    set.first arms { World.idle with nowNs := time } (fun _ _ _ => rfl) later
  rw [isFd.delivered_read (fun _ _ _ => rfl) armed] at law
  dsimp only at law
  rw [← @expirationsBy_pos_iff due interval, ← law]
  split
  · rename_i expired
    exact iff_of_true expired (counts expired)
  · rename_i early
    exact iff_of_false early (Nat.lt_irrefl 0)

end

theorem expirations_pos
    {timer : TimerFdState}
    {time : UInt64}
    (slow : 1 < timer.intervalNs.toNat) :
    0 < (expirations timer time).toNat := by
  have notZero : timer.intervalNs ≠ 0 := by
    intro isZero
    rw [isZero, UInt64.toNat_zero] at slow
    cases slow
  have inWord := (time - timer.expiresNs).toNat_lt
  have fewer :
      (time - timer.expiresNs).toNat / timer.intervalNs.toNat ≤
        (time - timer.expiresNs).toNat / 2 :=
    Nat.div_le_div_left slow (by decide)
  rw [expirations, if_pos notZero, UInt64.toNat_add, UInt64.toNat_div,
    UInt64.toNat_one, Nat.mod_eq_of_lt (by omega)]
  exact Nat.add_pos_left Nat.one_pos _

theorem expirations_at_expiry
    {timer : TimerFdState}
    {time : UInt64}
    (isNow : timer.expiresNs = time) :
    expirations timer time = 1 := by
  simp [expirations, isNow]

theorem SetTo.sameTime
    (set : SetTo fdNumber value interval (nowNs.toNat + value) nowNs final)
    (isFd : TimerFd final fdNumber)
    (armed : (final.timerOf fdNumber).armed = true)
    (arms : value ≠ 0)
    (expires :
      (final.timerOf fdNumber).expiresNs.toNat = nowNs.toNat + interval) :
    interval = value := by
  rcases Nat.lt_trichotomy interval value with less | same | greater
  · have tooEarly :=
      (set.expiry_le_iff isFd armed arms
        (UInt64.le_iff_toNat_le.mpr (by omega))
        (fun _ => by rw [expirations_at_expiry rfl]; decide)).mp
        (UInt64.le_refl _)
    omega
  · exact same
  · have inWord := (final.timerOf fdNumber).expiresNs.toNat_lt
    have isDue :
        (UInt64.ofNat (nowNs.toNat + value)).toNat = nowNs.toNat + value := by
      rw [UInt64.toNat_ofNat', Nat.mod_eq_of_lt (by omega)]
    have notYet :
        ¬ (final.timerOf fdNumber).expiresNs ≤
            UInt64.ofNat (nowNs.toNat + value) := by
      rw [UInt64.le_iff_toNat_le, isDue]
      omega
    have tooLate :=
      (set.expiry_le_iff isFd armed arms
        (UInt64.le_iff_toNat_le.mpr (by omega))
        (fun expired => absurd expired notYet)).mpr
        (Nat.le_of_eq isDue.symm)
    exact absurd tooLate notYet

end Settings

section Accepted

variable
  {world : World}
  {state final : State}
  {fdNumber : Int}
  {oldCopied absolute : Bool}
  {flags newValue oldValue nowNs : UInt64}
  {old : List UInt8}
  {spec : TimerSpec}
  {value interval : Nat}

/-- What a setting leaves behind. -/
structure LeftBy
    (spec : TimerSpec)
    (absolute : Bool)
    (nowNs : UInt64)
    (fdNumber : Int)
    (final : State) : Prop where
  isFd : TimerFd final fdNumber
  allowed : spec.refused = false
  isTimer :
    ∃ timer,
      final.timerOf fdNumber = TimerFdState.arm timer spec absolute nowNs

theorem timerfdSettime_leaves
    (isFd : TimerFd state fdNumber)
    (given : newValue ≠ 0)
    (accepted :
      timerfdSettime world oldCopied fdNumber flags newValue oldValue state =
        .ok old final) :
    LeftBy (TimerSpec.ofBytes world.source) (isAbsolute flags) world.nowNs
      fdNumber final := by
  obtain ⟨allowed, rfl⟩ := timerfdSettime_eq_ok given accepted
  exact
    ⟨isFd.withTimer isFd.used, allowed, _, timerOf_withTimer _⟩

namespace LeftBy

theorem armed (left : LeftBy spec absolute nowNs fdNumber final) :
    (final.timerOf fdNumber).armed = true := by
  obtain ⟨timer, isTimer⟩ := left.isTimer
  rw [isTimer, TimerFdState.arm]

theorem isInterval (left : LeftBy spec absolute nowNs fdNumber final) :
    (final.timerOf fdNumber).intervalNs = spec.intervalNs := by
  obtain ⟨timer, isTimer⟩ := left.isTimer
  rw [isTimer, TimerFdState.arm]

theorem expires
    (left : LeftBy spec absolute nowNs fdNumber final)
    (fits :
      absolute = false → nowNs.toNat + spec.expiresNs.toNat < 2 ^ 64) :
    (final.timerOf fdNumber).expiresNs.toNat =
      dueTime absolute nowNs spec.expiresNs.toNat := by
  obtain ⟨timer, isTimer⟩ := left.isTimer
  cases absolute with
  | true =>
      simp [isTimer, TimerFdState.arm, dueTime]
  | false =>
      have exact := Nat.mod_eq_of_lt (fits rfl)
      simp only [isTimer, TimerFdState.arm, dueTime, Bool.false_eq_true,
        if_false, UInt64.toNat_add, exact]

theorem small (left : LeftBy spec absolute nowNs fdNumber final) :
    spec.nsec < nsPerSec ∧ spec.insec < nsPerSec := by
  have allowed := left.allowed
  simp only [TimerSpec.refused, Bool.or_eq_false_iff, decide_eq_false_iff_not,
    UInt64.not_le] at allowed
  exact ⟨allowed.1.1.1.2, allowed.2⟩

section

variable
  (left : LeftBy spec absolute nowNs fdNumber final)
  (isValue : spec.isec.toNat * 10 ^ 9 + spec.insec.toNat = value)
  (isInterval : spec.sec.toNat * 10 ^ 9 + spec.nsec.toNat = interval)

include left isValue isInterval

theorem setTo
    (asked : AsMeant value interval absolute nowNs) :
    SumsFit spec absolute nowNs ∧
      SetTo fdNumber value interval (dueTime absolute nowNs value) nowNs
        final := by
  obtain ⟨arms, rfl, inWord, atStart, sumInWord⟩ := asked
  obtain ⟨firstFits, isFirst⟩ :=
    toNat_time (Nat.lt_of_le_of_lt (Nat.le_of_eq isInterval) inWord)
  obtain ⟨secondFits, isSecond⟩ :=
    toNat_time (Nat.lt_of_le_of_lt (Nat.le_of_eq isValue) inWord)
  rw [isInterval, ← TimerSpec.expiresNs] at isFirst
  rw [isValue, ← TimerSpec.intervalNs] at isSecond
  rw [← isFirst] at sumInWord
  refine ⟨⟨firstFits, secondFits, sumInWord⟩, ?_⟩
  apply left.isFd.setTo left.armed arms (Nat.pos_of_ne_zero arms)
  · rw [left.expires sumInWord, isFirst]
  · rw [left.isInterval, isSecond]
  · cases absolute with
    | true =>
        simp [dueTime, atStart rfl]
    | false =>
        simp [dueTime]

/-- What does as it is asked was taken as it was meant. -/
theorem asMeant
    (sums : SumsFit spec absolute nowNs)
    (set :
      SetTo fdNumber value interval (dueTime absolute nowNs value) nowNs
        final) :
    AsMeant value interval absolute nowNs := by
  obtain ⟨firstFits, secondFits, sumFits⟩ := sums
  obtain ⟨smallFirst, smallSecond⟩ := left.small
  have arms : value ≠ 0 := by
    intro isZero
    have disarmed := set.disarms isZero
    rw [left.armed] at disarmed
    cases disarmed
  have small := @time_lt spec.sec spec.nsec smallFirst
  have dueSmall := @time_lt spec.isec spec.insec smallSecond
  have expires := left.expires sumFits
  have firstCases := toNat_time_cases firstFits
  have secondCases := toNat_time_cases secondFits
  rw [isInterval, ← TimerSpec.expiresNs] at firstCases
  rw [isValue, ← TimerSpec.intervalNs] at secondCases
  rw [isInterval] at small
  rw [isValue] at dueSmall
  have notLater : dueTime absolute nowNs value - nowNs.toNat ≤ value := by
    cases absolute <;> simp [dueTime]
  obtain ⟨shownFirst, shownSecond⟩ :=
    set.shown left.isFd left.armed small
      (Nat.lt_of_le_of_lt notLater dueSmall)
  rw [expires] at shownFirst
  rw [left.isInterval] at shownSecond
  by_cases plain : absolute = true → nowNs = 0
  · have isDue :
        ∀ time, dueTime absolute nowNs time = nowNs.toNat + time := by
      intro time
      cases absolute with
      | true =>
          simp [dueTime, plain rfl]
      | false =>
          simp [dueTime]
    rw [isDue, Nat.add_sub_cancel_left] at shownFirst shownSecond
    rw [isDue] at set
    rw [isDue, shownFirst] at expires
    have sameTime := set.sameTime left.isFd left.armed arms expires
    have inWord := spec.intervalNs.toNat_lt
    rw [shownSecond] at inWord
    rw [shownFirst, sameTime] at sumFits
    exact ⟨arms, sameTime, inWord, plain, sumFits⟩
  · obtain ⟨rfl, running⟩ := Classical.not_imp.mp plain
    have late : 0 < nowNs.toNat :=
      Nat.pos_of_ne_zero fun isZero => running (UInt64.toNat_inj.mp isZero)
    simp only [dueTime, if_true] at shownFirst shownSecond expires
    have expiresAtOnce : spec.expiresNs.toNat = 0 := by omega
    have saturated : spec.intervalNs.toNat = 2 ^ 64 - 1 := by omega
    have slow : 1 < (final.timerOf fdNumber).intervalNs.toNat := by
      rw [left.isInterval, saturated]
      decide
    have tooEarly :=
      (set.expiry_le_iff left.isFd left.armed arms (UInt64.le_refl _)
        fun _ => expirations_pos slow).mp
        (UInt64.le_iff_toNat_le.mpr (by omega))
    simp only [dueTime, if_true] at tooEarly
    omega

end

end LeftBy

end Accepted

/-- A setting for the time 1 and the interval 1, in seconds. -/
def everySecond : World where
  __ := World.idle
  source := fun index => if index = 0 ∨ index = 16 then 1 else 0

/-- A setting for the time 1 s, without an interval. -/
def onceInASecond : World where
  __ := World.idle
  source := fun index => if index = 16 then 1 else 0

end VibuxOS.Files
