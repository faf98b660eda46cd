import CuriosityT1S.Heartbeat
import CuriosityT1S.Main
import CuriosityT1S.Systick

/-!
# Elapsed time across every wrap

A timeout is started and checked by the millisecond clock, a round trip is taken between two
readings of the microsecond clock.  A run is any sequence of such calls, at true tick counts less
than a timer period apart; `TickUser` remembers the counts at which the timeout was started and
the heartbeat sent.  Differences are taken modulo 2^32, so they count boundaries as long as fewer
than 2^32 are crossed.  The microsecond clock jumps when the accumulator overflows, but by 1000
times 2^32.

    ClockAt:       the two statics of systick.c, after a read at a tick count
    ElapsedInv:    what the stored readings are
    elapsed_right: the answers are right, along every run, while fewer than 2^32 units begin
    late_call:     a call after any number of sparse reads
-/

namespace CuriosityT1S

open Mealy WrapCounter

/-! ## The clock, read by read -/

/-- After a read at `t`, with no period skipped before. -/
structure ClockAt (s : SysTick) (t : Nat) : Prop where
  lastRaw : s.lastRaw = tmr1CounterGet t
  msOffset : s.msOffset.toNat = 42949 * (t / timerPeriod) % 2 ^ 32

theorem clockAt_start : ClockAt sysTickInitialize 0 := ⟨by decide, by decide⟩

/-- A read less than a period after the last one. -/
theorem ClockAt.read {s : SysTick} {t0 t : Nat} (h : ClockAt s t0) (hle : t0 ≤ t)
    (hgap : t < t0 + timerPeriod) :
    ClockAt (readTickWithWrapDetect s (tmr1CounterGet t)).1 t := by
  refine ⟨rfl, ?_⟩
  rw [readTickWithWrapDetect_msOffset s t0 t h.lastRaw, h.msOffset]
  have hwrap := wrap_add_skip timerPeriod t0 t (by decide) hle
  rw [Nat.div_eq_of_lt (show t - t0 < timerPeriod by omega), Nat.add_zero] at hwrap
  rw [← hwrap]
  omega

/-- What the millisecond clock shows. -/
theorem ClockAt.ms {s : SysTick} {t0 t : Nat} (h : ClockAt s t0) (hle : t0 ≤ t)
    (hgap : t < t0 + timerPeriod) :
    (sysTickGetTickMs s (tmr1CounterGet t)).2.toNat = t / 100000 % 2 ^ 32 := by
  rw [sysTickGetTickMs_toNat, (h.read hle hgap).msOffset]
  have hdiv : t / 100000 = 42949 * (t / timerPeriod) + t % timerPeriod / 100000 := by
    rw [timerPeriod_eq]; omega
  rw [hdiv]
  omega

/-- What the microsecond clock shows. -/
def usShown (t : Nat) : Nat := 42949 * (t / timerPeriod) % 2 ^ 32 * 1000 + t % timerPeriod / 100

theorem ClockAt.us {s : SysTick} {t0 t : Nat} (h : ClockAt s t0) (hle : t0 ≤ t)
    (hgap : t < t0 + timerPeriod) :
    (sysTickGetTickUs s (tmr1CounterGet t)).2.toNat = usShown t := by
  rw [sysTickGetTickUs_toNat, (h.read hle hgap).msOffset]
  rfl

/-! ## Differences -/

/-- The clock shows the true count less a multiple of 2^32. -/
theorem usShown_mod (t : Nat) : usShown t % 2 ^ 32 = t / 100 % 2 ^ 32 := by
  have hdiv : t / 100 = 42949 * (t / timerPeriod) * 1000 + t % timerPeriod / 100 := by
    rw [timerPeriod_eq]; omega
  unfold usShown
  rw [hdiv]
  omega

theorem us_diff {a b : UInt64} {t0 t : Nat} (ha : a.toNat = usShown t0) (hb : b.toNat = usShown t)
    (hle : t0 ≤ t) (hlt : t / 100 - t0 / 100 < 2 ^ 32) :
    (b - a).toUInt32.toNat = t / 100 - t0 / 100 := by
  have hdiv : t0 / 100 ≤ t / 100 := Nat.div_le_div_right hle
  have h0 := usShown_mod t0
  have h1 := usShown_mod t
  have hlta := a.toNat_lt
  have hltb := b.toNat_lt
  rw [UInt64.toNat_toUInt32, UInt64.toNat_sub, ha, hb]
  rw [ha] at hlta
  rw [hb] at hltb
  omega

/-! ## Runs -/

/-- What reads the timer; `t` is the true tick count.  `send` and `ack` are the readings a server's
heartbeat module takes when it sends and when an ACK arrives. -/
inductive TickOp
  | getTickMs (t : Nat)
  | getTickUs (t : Nat)
  | startTimeOut (delayMs : UInt32) (t : Nat)
  | resetTimeOut (t : Nat)
  | isTimeoutReached (t : Nat)
  | send (t : Nat)
  | ack (t : Nat)
deriving DecidableEq, Repr

def TickOp.at : TickOp → Nat
  | .getTickMs t | .getTickUs t | .startTimeOut _ t | .resetTimeOut t | .isTimeoutReached t
  | .send t | .ack t => t

inductive TickAnswer
  | reached (b : Bool)
  | hb (c : HbCall)
deriving DecidableEq, Repr

/-- The clock, a timeout and a heartbeat module's timestamp; the tick counts of the last read, of
the last start or reset, and of the last send. -/
structure TickUser where
  tick : SysTick
  timeout : SystickTimeout
  rtt : Rtt
  lastRead : Nat
  startedAt : Option Nat
  sentAt : Option Nat
deriving DecidableEq, Repr

def TickUser.zero : TickUser := ⟨sysTickInitialize, ⟨0, 0⟩, ⟨0, .zero⟩, 0, none, none⟩

def tickUserStep (s : TickUser) : TickOp → TickUser × List TickAnswer
  | .getTickMs t =>
    let (tick, _) := sysTickGetTickMs s.tick (tmr1CounterGet t)
    ({ s with tick := tick, lastRead := t }, [])
  | .getTickUs t =>
    let (tick, _) := sysTickGetTickUs s.tick (tmr1CounterGet t)
    ({ s with tick := tick, lastRead := t }, [])
  | .startTimeOut delayMs t =>
    let (tick, now) := sysTickGetTickMs s.tick (tmr1CounterGet t)
    ({ s with tick := tick, lastRead := t, timeout := sysTickStartTimeOut now delayMs,
              startedAt := some t }, [])
  | .resetTimeOut t =>
    let (tick, now) := sysTickGetTickMs s.tick (tmr1CounterGet t)
    ({ s with tick := tick, lastRead := t, timeout := sysTickResetTimeOut s.timeout now,
              startedAt := some t }, [])
  | .isTimeoutReached t =>
    let (tick, now) := sysTickGetTickMs s.tick (tmr1CounterGet t)
    ({ s with tick := tick, lastRead := t }, [.reached (sysTickIsTimeoutReached s.timeout now)])
  | .send t =>
    let (tick, nowUs) := sysTickGetTickUs s.tick (tmr1CounterGet t)
    ({ s with tick := tick, lastRead := t, rtt := { s.rtt with sendTimestampUs := nowUs },
              sentAt := some t }, [])
  | .ack t =>
    let (tick, nowUs) := sysTickGetTickUs s.tick (tmr1CounterGet t)
    let (rtt, calls) := s.rtt.onAck nowUs
    ({ s with tick := tick, lastRead := t, rtt := rtt }, calls.map .hb)

/-- Reads come at nondecreasing tick counts, less than a timer period apart. -/
def ReadsClose (s : TickUser) (op : TickOp) : Prop :=
  s.lastRead ≤ op.at ∧ op.at < s.lastRead + timerPeriod

instance (s : TickUser) (op : TickOp) : Decidable (ReadsClose s op) :=
  inferInstanceAs (Decidable (_ ∧ _))

/-- A timeout is reached exactly if at least as many milliseconds have begun since the start as the
delay says.  `within u t0 t` bounds the time from `t0` to `t`, `u` being the ticks in a unit. -/
def TimeoutRight (within : Nat → Nat → Nat → Prop) (s : TickUser) : TickOp → Prop
  | .isTimeoutReached t => ∀ t0, s.startedAt = some t0 → within 100000 t0 t →
    ((tickUserStep s (.isTimeoutReached t)).2 = [.reached true] ↔
      s.timeout.count.toNat ≤ t / 100000 - t0 / 100000)
  | _ => True

/-- An RTT that is reported is the number of microseconds begun since the send. -/
def RttRight (within : Nat → Nat → Nat → Prop) (s : TickUser) : TickOp → Prop
  | .ack t => ∀ t0, s.sentAt = some t0 → within 100 t0 t →
    ∀ tx rx rttUs avg, .hb (.report tx rx rttUs avg) ∈ (tickUserStep s (.ack t)).2 →
      rttUs.toNat = t / 100 - t0 / 100
  | _ => True

/-- Less than 2^32 units later. -/
def WithinTime (u t0 t : Nat) : Prop := t - t0 < 2 ^ 32 * u

/-- Fewer than 2^32 units have begun. -/
def WithinCount (u t0 t : Nat) : Prop := t / u - t0 / u < 2 ^ 32

/-- What is stored. -/
structure ElapsedInv (s : TickUser) : Prop where
  clock : ClockAt s.tick s.lastRead
  started : ∀ t0, s.startedAt = some t0 →
    t0 ≤ s.lastRead ∧ s.timeout.start.toNat = t0 / 100000 % 2 ^ 32
  sent : ∀ t0, s.sentAt = some t0 →
    t0 ≤ s.lastRead ∧ (s.rtt.sendTimestampUs = 0 ∨ s.rtt.sendTimestampUs.toNat = usShown t0)

theorem elapsedInv_zero : ElapsedInv TickUser.zero :=
  ⟨clockAt_start, fun _ h => (by cases h), fun _ h => (by cases h)⟩

/-- An ACK leaves no timestamp. -/
theorem onAck_timestamp (r : Rtt) (nowUs : UInt64) : (r.onAck nowUs).1.sendTimestampUs = 0 := by
  unfold Rtt.onAck
  split
  · next h => simpa using h
  · rfl

theorem elapsedInv_step (s : TickUser) (op : TickOp) (h : ElapsedInv s) (ha : ReadsClose s op) :
    ElapsedInv (tickUserStep s op).1 := by
  obtain ⟨hle, hgap⟩ := ha
  have hclock := h.clock.read hle hgap
  have hms := h.clock.ms hle hgap
  have hus := h.clock.us hle hgap
  have hstarted : ∀ t0, s.startedAt = some t0 →
      t0 ≤ op.at ∧ s.timeout.start.toNat = t0 / 100000 % 2 ^ 32 := by
    intro t0 ht0
    exact ⟨Nat.le_trans (h.started t0 ht0).1 hle, (h.started t0 ht0).2⟩
  have hsent : ∀ t0, s.sentAt = some t0 → t0 ≤ op.at ∧
      (s.rtt.sendTimestampUs = 0 ∨ s.rtt.sendTimestampUs.toNat = usShown t0) := by
    intro t0 ht0
    exact ⟨Nat.le_trans (h.sent t0 ht0).1 hle, (h.sent t0 ht0).2⟩
  cases op with
  | getTickMs t => exact ⟨hclock, hstarted, hsent⟩
  | getTickUs t => exact ⟨hclock, hstarted, hsent⟩
  | startTimeOut delayMs t =>
    refine ⟨hclock, fun t0 ht0 => ?_, hsent⟩
    cases ht0
    exact ⟨Nat.le_refl t, hms⟩
  | resetTimeOut t =>
    refine ⟨hclock, fun t0 ht0 => ?_, hsent⟩
    cases ht0
    exact ⟨Nat.le_refl t, hms⟩
  | isTimeoutReached t => exact ⟨hclock, hstarted, hsent⟩
  | send t =>
    refine ⟨hclock, hstarted, fun t0 ht0 => ?_⟩
    cases ht0
    exact ⟨Nat.le_refl t, Or.inr hus⟩
  | ack t =>
    refine ⟨hclock, hstarted, fun t0 ht0 => ?_⟩
    exact ⟨(hsent t0 ht0).1, Or.inl (onAck_timestamp s.rtt _)⟩

/-- What is reported is the difference of the two readings, truncated. -/
theorem onAck_reports (r : Rtt) (nowUs : UInt64) (tx rx rttUs avg : UInt32)
    (h : .report tx rx rttUs avg ∈ (r.onAck nowUs).2) :
    r.sendTimestampUs ≠ 0 ∧ rttUs = (nowUs - r.sendTimestampUs).toUInt32 := by
  unfold Rtt.onAck at h
  split at h
  · cases h
  · next hne =>
    rw [List.mem_singleton] at h
    cases h
    exact ⟨by simpa using hne, rfl⟩

/-- With a send waiting, an ACK is reported. -/
theorem onAck_of_armed (r : Rtt) (nowUs : UInt64) (h : r.sendTimestampUs ≠ 0) :
    ∃ tx rx rttUs avg, .report tx rx rttUs avg ∈ (r.onAck nowUs).2 := by
  unfold Rtt.onAck
  rw [if_neg (by simpa using h)]
  exact ⟨_, _, _, _, List.mem_singleton.mpr rfl⟩

theorem reached_iff (s : TickUser) (t : Nat) :
    (tickUserStep s (.isTimeoutReached t)).2 = [.reached true] ↔ s.timeout.count.toNat ≤
      ((sysTickGetTickMs s.tick (tmr1CounterGet t)).2 - s.timeout.start).toNat := by
  have hreached : (tickUserStep s (.isTimeoutReached t)).2 =
      [.reached (sysTickIsTimeoutReached s.timeout
        (sysTickGetTickMs s.tick (tmr1CounterGet t)).2)] := rfl
  rw [hreached, List.cons.injEq, TickAnswer.reached.injEq]
  unfold sysTickIsTimeoutReached
  rw [decide_eq_true_iff, ge_iff_le, UInt32.le_iff_toNat_le]
  simp

theorem timeoutRight_step (s : TickUser) (op : TickOp) (h : ElapsedInv s)
    (ha : ReadsClose s op) : TimeoutRight WithinCount s op := by
  obtain ⟨hle, hgap⟩ := ha
  cases op with
  | isTimeoutReached t =>
    intro t0 ht0 hwithin
    obtain ⟨h0, hstart⟩ := h.started t0 ht0
    have hdiff : ((sysTickGetTickMs s.tick (tmr1CounterGet t)).2 - s.timeout.start).toNat =
        t / 100000 - t0 / 100000 :=
      toNat_sub_of_readings hstart (h.clock.ms hle hgap)
        (Nat.div_le_div_right (Nat.le_trans h0 hle)) hwithin
    rw [reached_iff, hdiff]
  | _ => trivial

theorem rttRight_step (s : TickUser) (op : TickOp) (h : ElapsedInv s) (ha : ReadsClose s op) :
    RttRight WithinCount s op := by
  obtain ⟨hle, hgap⟩ := ha
  cases op with
  | ack t =>
    intro t0 ht0 hwithin tx rx rttUs avg hreport
    obtain ⟨h0, hstamp⟩ := h.sent t0 ht0
    have hmem : HbCall.report tx rx rttUs avg ∈
        (s.rtt.onAck (sysTickGetTickUs s.tick (tmr1CounterGet t)).2).2 := by
      obtain ⟨c, hc, he⟩ := List.mem_map.mp hreport
      cases he
      exact hc
    obtain ⟨hne, hrtt⟩ := onAck_reports _ _ _ _ _ _ hmem
    rcases hstamp with hzero | hstamp
    · exact absurd hzero hne
    · rw [hrtt]
      exact us_diff hstamp (h.clock.us hle hgap) (Nat.le_trans h0 hle) hwithin
  | _ => trivial

/-- **Elapsed time.**  Along every run with reads less than a timer period apart, a timeout and an
RTT are right as long as fewer than 2^32 units have begun in between. -/
theorem elapsed_right (ops : List TickOp) (h : Along tickUserStep ReadsClose TickUser.zero ops) :
    Along tickUserStep (TimeoutRight WithinCount) TickUser.zero ops ∧
      Along tickUserStep (RttRight WithinCount) TickUser.zero ops :=
  ⟨along_of_inv tickUserStep ReadsClose _ ElapsedInv elapsedInv_step timeoutRight_step ops
      TickUser.zero elapsedInv_zero h,
    along_of_inv tickUserStep ReadsClose _ ElapsedInv elapsedInv_step rttRight_step ops
      TickUser.zero elapsedInv_zero h⟩

/-- A timeout and a round trip across a wrap of the timer. -/
theorem elapsed_right_wrap :
    Along tickUserStep (TimeoutRight WithinCount) TickUser.zero
        [.startTimeOut 500 4260000000, .send 4290000000, .ack 4300000000,
          .isTimeoutReached 4310000000] ∧
      Along tickUserStep (RttRight WithinCount) TickUser.zero
        [.startTimeOut 500 4260000000, .send 4290000000, .ack 4300000000,
          .isTimeoutReached 4310000000] :=
  elapsed_right [.startTimeOut 500 4260000000, .send 4290000000, .ack 4300000000,
    .isTimeoutReached 4310000000] (by decide)

/-! ## The last tick of 2^32 units -/

/-- `n` reads of the millisecond clock, `d` ticks apart, from `t0` on. -/
def sparseReads (t0 d n : Nat) : List TickOp :=
  (List.range n).map fun i => .getTickMs (t0 + (i + 1) * d)

theorem sparseReads_succ (t0 d n : Nat) :
    sparseReads t0 d (n + 1) = sparseReads t0 d n ++ [.getTickMs (t0 + (n + 1) * d)] := by
  unfold sparseReads
  rw [List.range_succ, List.map_append]
  rfl

/-- Such reads are permitted, and only move the clock. -/
theorem sparseReads_run (s : TickUser) (d n : Nat) (hd : d < timerPeriod) :
    Along tickUserStep ReadsClose s (sparseReads s.lastRead d n) ∧
      ∃ tick, exec tickUserStep s (sparseReads s.lastRead d n) =
        { s with tick := tick, lastRead := s.lastRead + n * d } := by
  induction n with
  | zero =>
    refine ⟨trivial, s.tick, ?_⟩
    rw [Nat.zero_mul, Nat.add_zero]
    rfl
  | succ n ih =>
    obtain ⟨halong, tick, hexec⟩ := ih
    rw [sparseReads_succ, along_append, exec_append, hexec]
    refine ⟨⟨halong, ⟨?_, ?_⟩, trivial⟩, ⟨_, rfl⟩⟩
    · show s.lastRead + n * d ≤ s.lastRead + (n + 1) * d
      rw [Nat.succ_mul]
      omega
    · show s.lastRead + (n + 1) * d < s.lastRead + n * d + timerPeriod
      rw [Nat.succ_mul]
      omega

theorem lastRead_step (s : TickUser) (op : TickOp) : (tickUserStep s op).1.lastRead = op.at := by
  cases op <;> rfl

/-- The first call, such reads, and a call at `t`: the run is permitted, and at `t` the first call
is all that is stored. -/
theorem late_call (first op : TickOp) (d n : Nat) (hd : d < timerPeriod)
    (h0 : ReadsClose TickUser.zero first) (hle : first.at + n * d ≤ op.at)
    (hgap : op.at < first.at + n * d + timerPeriod) :
    Along tickUserStep ReadsClose TickUser.zero (first :: (sparseReads first.at d n ++ [op])) ∧
      ∃ tick, ElapsedInv { (tickUserStep TickUser.zero first).1 with
          tick := tick, lastRead := first.at + n * d } ∧
        ∀ A : TickUser → TickOp → Prop,
          Along tickUserStep A TickUser.zero (first :: (sparseReads first.at d n ++ [op])) →
          A { (tickUserStep TickUser.zero first).1 with
            tick := tick, lastRead := first.at + n * d } op := by
  have hinv := elapsedInv_step _ _ elapsedInv_zero h0
  obtain ⟨halong, tick, hexec⟩ := sparseReads_run (tickUserStep TickUser.zero first).1 d n hd
  have hinv' := exec_inv tickUserStep ReadsClose ElapsedInv elapsedInv_step _ _ hinv halong
  rw [lastRead_step] at halong hexec hinv'
  rw [hexec] at hinv'
  refine ⟨⟨h0, ?_⟩, tick, hinv', fun A hA => ?_⟩
  · rw [along_append, hexec]
    exact ⟨halong, ⟨hle, hgap⟩, trivial⟩
  · obtain ⟨-, hrest⟩ := hA
    rw [along_append, hexec] at hrest
    exact hrest.2.1

/-- A timeout that was started 2^32 milliseconds ago looks as if it had just been. -/
theorem timeoutRight_fails (t0 d n t : Nat) (hd : d < timerPeriod) (h0 : t0 < timerPeriod)
    (hle : t0 + n * d ≤ t) (hgap : t < t0 + n * d + timerPeriod)
    (hfull : t / 100000 - t0 / 100000 = 2 ^ 32) (hwithin : WithinTime 100000 t0 t) :
    ¬ ∀ ops : List TickOp, Along tickUserStep ReadsClose TickUser.zero ops →
      Along tickUserStep (TimeoutRight WithinTime) TickUser.zero ops := by
  intro h
  have hread0 : ReadsClose TickUser.zero (.startTimeOut 1 t0) :=
    ⟨Nat.zero_le t0, by show t0 < 0 + timerPeriod; omega⟩
  obtain ⟨hclose, tick, hinv, hlast⟩ := late_call _ (.isTimeoutReached t) d n hd hread0 hle hgap
  have hright := (hlast _ (h _ hclose)) t0 rfl hwithin
  obtain ⟨-, hstart⟩ := hinv.started t0 rfl
  have hnow := hinv.clock.ms hle hgap
  rw [reached_iff, UInt32.toNat_sub, hstart, hnow, hfull] at hright
  have hreached : 1 ≤ _ := hright.mpr (by show (1 : UInt32).toNat ≤ 2 ^ 32; decide)
  omega

/-- An RTT of 2^32 microseconds does not fit the report. -/
theorem rttRight_fails (t0 d n t : Nat) (hd : d < timerPeriod) (h0 : t0 < timerPeriod)
    (hpos : usShown t0 ≠ 0) (hle : t0 + n * d ≤ t)
    (hgap : t < t0 + n * d + timerPeriod)
    (hfull : t / 100 - t0 / 100 = 2 ^ 32) (hwithin : WithinTime 100 t0 t) :
    ¬ ∀ ops : List TickOp, Along tickUserStep ReadsClose TickUser.zero ops →
      Along tickUserStep (RttRight WithinTime) TickUser.zero ops := by
  intro h
  have hread0 : ReadsClose TickUser.zero (.send t0) :=
    ⟨Nat.zero_le t0, by show t0 < 0 + timerPeriod; omega⟩
  obtain ⟨hclose, tick, hinv, hlast⟩ := late_call _ (.ack t) d n hd hread0 hle hgap
  have hright := (hlast _ (h _ hclose)) t0 rfl hwithin
  have hstamp := clockAt_start.us (Nat.zero_le t0) (by omega)
  have hne : (sysTickGetTickUs sysTickInitialize (tmr1CounterGet t0)).2 ≠ 0 := by
    intro hz
    rw [hz] at hstamp
    exact hpos hstamp.symm
  obtain ⟨tx, rx, rttUs, avg, hreport⟩ := onAck_of_armed
    ⟨(sysTickGetTickUs sysTickInitialize (tmr1CounterGet t0)).2, .zero⟩
    (sysTickGetTickUs tick (tmr1CounterGet t)).2 hne
  have hrtt := hright tx rx rttUs avg (List.mem_map.mpr ⟨_, hreport, rfl⟩)
  have hlt := rttUs.toNat_lt
  omega

/-- One tick short of 2^32 ms after the start of a timeout, and of 2^32 µs after a send, 2^32 units
have begun if the start was at the last tick of one. -/
theorem elapsed_not_within_time :
    (¬ ∀ ops : List TickOp, Along tickUserStep ReadsClose TickUser.zero ops →
      Along tickUserStep (TimeoutRight WithinTime) TickUser.zero ops) ∧
    ¬ ∀ ops : List TickOp, Along tickUserStep ReadsClose TickUser.zero ops →
      Along tickUserStep (RttRight WithinTime) TickUser.zero ops := by
  constructor
  · exact timeoutRight_fails 4294899999 4294899999 100001 429501024499998 (by decide) (by decide)
      (by decide) (by decide) (by decide) (by unfold WithinTime; decide)
  · exact rttRight_fails 4294899999 4294899999 100 433791629598 (by decide) (by decide)
      (by decide) (by decide) (by decide) (by decide) (by unfold WithinTime; decide)

end CuriosityT1S
