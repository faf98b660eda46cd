import CuriosityT1S.Iperf
import CuriosityT1S.Lib.WrapCounter
import Mathlib.Algebra.Group.Nat.Defs

/-!
# Whether starting and stopping the client is obeyed

A start is pending as long as `startDelay` is not 0, which is also what it is when the clock read
0 at the start; and a stop leaves it alone.  A run is any sequence of calls, at true times in
milliseconds; `IperfUser` remembers the last start or stop and the time of a start that has not
come into effect.

    IperfUserInv: what the two variables are in terms of the calls
    obeyed_iff:   starts and stops are obeyed, along every run, if and only if no stop comes
                  while a start is pending and no start that is waited for was at clock value 0
-/

namespace CuriosityT1S

open Mealy WrapCounter

inductive IperfSwitch
  | start | stop
deriving DecidableEq, Repr

/-- `pending` is the time of the last start, until a stop or the first service call more than 10 ms
later; `lastRead` is the time the clock was read last. -/
structure IperfUser where
  iperf : Iperf
  lastSwitch : Option IperfSwitch
  pending : Option Nat
  lastRead : Nat
deriving DecidableEq, Repr

def IperfUser.zero : IperfUser := ⟨.zero, none, none, 0⟩

/-- The calls, with the times at which they read the clock. -/
inductive IperfOp
  | start (startMs statsMs transferMs : Nat) (a : IperfSend)
  | stop
  | service (nowMs transferMs : Nat) (a : IperfSend)
deriving DecidableEq, Repr

/-- The start is still waited for after a service call at `nowMs`. -/
def stillPending (nowMs : Nat) (t0 : Nat) : Bool := nowMs - t0 ≤ 10

def iperfUserStep (s : IperfUser) : IperfOp → IperfUser × List IperfCall
  | .start startMs statsMs transferMs a =>
    let (iperf, calls) := iperfStartApplication s.iperf (UInt32.ofNat startMs)
      (UInt32.ofNat statsMs) (UInt32.ofNat transferMs) a
    (⟨iperf, some .start, some startMs, transferMs⟩, calls)
  | .stop => ({ s with iperf := iperfStopApplication s.iperf, lastSwitch := some .stop,
                       pending := none }, [])
  | .service nowMs transferMs a =>
    let (iperf, calls) :=
      iperfService s.iperf (UInt32.ofNat nowMs) (UInt32.ofNat transferMs) a
    ({ s with iperf := iperf, pending := s.pending.filter (stillPending nowMs),
              lastRead := transferMs }, calls)

/-- The clock is read at nondecreasing times. -/
def OpInOrder (s : IperfUser) : IperfOp → Prop
  | .start startMs statsMs transferMs _ =>
    s.lastRead ≤ startMs ∧ startMs ≤ statsMs ∧ statsMs ≤ transferMs
  | .stop => True
  | .service nowMs transferMs _ => s.lastRead ≤ nowMs ∧ nowMs ≤ transferMs

/-- Only after a start a service call sends, whatever it is answered; after a stop the client is not
running; and the first service call more than 10 ms, and less than 2^32 ms, after a start leaves
the session running, or has run it and ended it with the final report. -/
def Obeyed (s : IperfUser) : IperfOp → Prop
  | .start _ _ _ _ => True
  | .stop => iperfGetRunningState (iperfUserStep s .stop).1.iperf = false
  | .service nowMs transferMs a =>
    (∀ answer id size, .udpSendto id size ∈
        (iperfUserStep s (.service nowMs transferMs answer)).2 → s.lastSwitch = some .start) ∧
    (s.lastSwitch = some .stop →
      iperfGetRunningState (iperfUserStep s (.service nowMs transferMs a)).1.iperf = false) ∧
    ∀ t0, s.pending = some t0 → 10 < nowMs - t0 → nowMs - t0 < 2 ^ 32 →
      (iperfUserStep s (.service nowMs transferMs a)).1.iperf.running = true ∨
        ∃ n, .sentDatagrams n ∈ (iperfUserStep s (.service nowMs transferMs a)).2

/-- No stop comes while a start is pending, and a start that a service call should act on was not
at clock value 0. -/
def CleanSwitch (s : IperfUser) : IperfOp → Prop
  | .start _ _ _ _ => True
  | .stop => s.iperf.startDelay = 0
  | .service nowMs _ _ => ∀ t0, s.pending = some t0 → 10 < nowMs - t0 → nowMs - t0 < 2 ^ 32 →
      t0 % 2 ^ 32 ≠ 0

/-! ## The two variables -/

/-- Before the first start and after a stop the client is off; while a start is waited for,
`startDelay` is its time. -/
structure IperfUserInv (s : IperfUser) : Prop where
  off : s.lastSwitch ≠ some .start → s.iperf.running = false ∧ s.iperf.startDelay = 0
  waiting : ∀ t0, s.pending = some t0 →
    t0 ≤ s.lastRead ∧ s.iperf.running = false ∧ s.iperf.startDelay = UInt32.ofNat t0

theorem iperfUserInv_zero : IperfUserInv IperfUser.zero :=
  ⟨fun _ => ⟨rfl, rfl⟩, fun _ h => (by cases h)⟩

/-- With nothing running and nothing pending, a service call does nothing. -/
theorem serviceRuns_off (p : Iperf) (now : UInt32) (hrun : p.running = false)
    (hdelay : p.startDelay = 0) : serviceRuns p now = false := by
  unfold serviceRuns startDue
  rw [hrun, hdelay]
  rfl

theorem iperfService_off (p : Iperf) (now transferMs : UInt32) (a : IperfSend)
    (h : serviceRuns p now = false) : iperfService p now transferMs a = (p, []) := by
  rw [iperfService_eq, h]
  rfl

/-- A session ends with its final report. -/
theorem transferData_report (p : Iperf) (now : UInt32) (a : IperfSend)
    (h : timeUp p now = true ∨ a.fatal = true) :
    ∃ n, .sentDatagrams n ∈ (transferData p now a).2.2 := by
  obtain ⟨-, -, hstart⟩ := interimReport_spec p now
  unfold transferData
  simp only [hstart]
  by_cases hup : now - p.client.startTime ≥ iperfEndTime
  · rw [if_pos hup]
    exact ⟨_, List.mem_append_right _ (List.mem_cons_of_mem _ List.mem_cons_self)⟩
  · rw [if_neg hup]
    have hfatal : a.fatal = true := h.resolve_left (by simpa [timeUp] using hup)
    rcases udpPacketSend_cases (interimReport p now).1 false a with ⟨-, hc, -⟩ | ⟨-, hc, -⟩ |
      ⟨-, hc, -⟩ | ⟨-, he⟩
    · rw [hfatal] at hc; cases hc
    · rw [hfatal] at hc; cases hc
    · rw [hfatal] at hc; cases hc
    · rw [he]
      exact ⟨_, List.mem_append_right _ (List.mem_append_left _
        (List.mem_cons_of_mem _ (List.mem_cons_of_mem _ List.mem_cons_self)))⟩

/-- With one of the two, the session runs; it may end in the same call. -/
theorem iperfService_runs (p : Iperf) (now transferMs : UInt32) (a : IperfSend)
    (h : serviceRuns p now = true) :
    (iperfService p now transferMs a).1.running = true ∨
      ∃ n, .sentDatagrams n ∈ (iperfService p now transferMs a).2 := by
  by_cases hend : timeUp p transferMs = true ∨ a.fatal = true
  · right
    rw [iperfService_eq, if_pos h]
    apply transferData_report
    split <;> exact hend
  · left
    rw [not_or, Bool.not_eq_true, Bool.not_eq_true] at hend
    rw [(iperfService_spec p now transferMs a).1, hend.1, hend.2]
    exact (Bool.and_true _).trans h

/-- A pending start is due after more than 10 ms, unless it was at clock value 0. -/
theorem startDue_waiting (p : Iperf) (t0 now : Nat) (hdelay : p.startDelay = UInt32.ofNat t0)
    (hle : t0 ≤ now) (hlt : now - t0 < 2 ^ 32) :
    startDue p (UInt32.ofNat now) = true ↔ t0 % 2 ^ 32 ≠ 0 ∧ 10 < now - t0 := by
  have hzero : UInt32.ofNat t0 = 0 ↔ t0 % 2 ^ 32 = 0 := by
    rw [← UInt32.toNat_inj, UInt32.toNat_ofNat']
    rfl
  have hdiff : (UInt32.ofNat now - UInt32.ofNat t0).toNat = now - t0 := ofNat_sub_ofNat hle hlt
  have hms : iperfStartDelay.toNat = 10 := rfl
  unfold startDue
  rw [hdelay, Bool.and_eq_true, decide_eq_true_iff, decide_eq_true_iff, gt_iff_lt,
    UInt32.lt_iff_toNat_lt, hdiff, hms, ne_eq, hzero]

theorem iperfUserInv_step (s : IperfUser) (op : IperfOp) (h : IperfUserInv s)
    (ha : OpInOrder s op) (hclean : CleanSwitch s op) : IperfUserInv (iperfUserStep s op).1 := by
  cases op with
  | start startMs statsMs transferMs a =>
    obtain ⟨hrun, hdelay⟩ := iperfStartApplication_spec s.iperf (UInt32.ofNat startMs)
      (UInt32.ofNat statsMs) (UInt32.ofNat transferMs) a
    refine ⟨fun hne => absurd rfl hne, fun t0 ht0 => ?_⟩
    cases ht0
    exact ⟨Nat.le_trans ha.2.1 ha.2.2, hrun, hdelay⟩
  | stop => exact ⟨fun _ => ⟨rfl, hclean⟩, fun t0 ht0 => (by cases ht0)⟩
  | service nowMs transferMs a =>
    obtain ⟨hread, hle⟩ := ha
    have hquiet : serviceRuns s.iperf (UInt32.ofNat nowMs) = false →
        (iperfService s.iperf (UInt32.ofNat nowMs) (UInt32.ofNat transferMs) a).1 = s.iperf :=
      fun hoff => congrArg Prod.fst (iperfService_off s.iperf _ _ a hoff)
    constructor
    · intro hne
      obtain ⟨hrun, hdelay⟩ := h.off hne
      show (iperfService s.iperf _ _ a).1.running = false ∧
        (iperfService s.iperf _ _ a).1.startDelay = 0
      rw [hquiet (serviceRuns_off s.iperf _ hrun hdelay)]
      exact ⟨hrun, hdelay⟩
    · intro t0 ht0
      -- a start that is still waited for was not due
      obtain ⟨hpend, hsoon⟩ := Option.filter_eq_some_iff.mp ht0
      obtain ⟨h0, hrun, hdelay⟩ := h.waiting t0 hpend
      have hsoon' : nowMs - t0 ≤ 10 := by simpa [stillPending] using hsoon
      have hoff : serviceRuns s.iperf (UInt32.ofNat nowMs) = false := by
        unfold serviceRuns
        rw [hrun, Bool.false_or, ← Bool.not_eq_true,
          startDue_waiting s.iperf t0 nowMs hdelay (Nat.le_trans h0 hread) (by omega)]
        omega
      show t0 ≤ transferMs ∧ (iperfService s.iperf _ _ a).1.running = false ∧
        (iperfService s.iperf _ _ a).1.startDelay = UInt32.ofNat t0
      rw [hquiet hoff]
      exact ⟨Nat.le_trans h0 (Nat.le_trans hread hle), hrun, hdelay⟩

/-! ## Obedience -/

theorem obeyed_step_iff (s : IperfUser) (op : IperfOp) (h : IperfUserInv s)
    (ha : OpInOrder s op) : Obeyed s op ↔ CleanSwitch s op := by
  cases op with
  | start startMs statsMs transferMs a => exact Iff.rfl
  | stop =>
    show iperfGetRunningState (iperfStopApplication s.iperf) = false ↔ s.iperf.startDelay = 0
    unfold iperfGetRunningState iperfStopApplication
    rw [Bool.false_or, decide_eq_false_iff_not, ne_eq, Classical.not_not]
  | service nowMs transferMs a =>
    obtain ⟨hread, hle⟩ := ha
    -- a pending start runs the session exactly if it is due
    have hruns : ∀ t0, s.pending = some t0 → 10 < nowMs - t0 → nowMs - t0 < 2 ^ 32 →
        (serviceRuns s.iperf (UInt32.ofNat nowMs) = true ↔ t0 % 2 ^ 32 ≠ 0) := by
      intro t0 ht0 hlate hlt
      obtain ⟨h0, hrun, hdelay⟩ := h.waiting t0 ht0
      unfold serviceRuns
      rw [hrun, Bool.false_or,
        startDue_waiting s.iperf t0 nowMs hdelay (Nat.le_trans h0 hread) hlt]
      exact and_iff_left hlate
    have hoff : s.lastSwitch ≠ some .start → ∀ answer,
        iperfUserStep s (.service nowMs transferMs answer) =
          ({ s with pending := s.pending.filter (stillPending nowMs),
                    lastRead := transferMs }, []) := by
      intro hne answer
      obtain ⟨hrun, hdelay⟩ := h.off hne
      simp only [iperfUserStep, iperfService_off s.iperf _ _ answer
        (serviceRuns_off s.iperf _ hrun hdelay)]
    constructor
    · rintro ⟨-, -, hstarts⟩ t0 ht0 hlate hlt
      rw [← hruns t0 ht0 hlate hlt, ← Bool.not_eq_false]
      intro hidle
      have hnone := iperfService_off s.iperf _ (UInt32.ofNat transferMs) a hidle
      rcases hstarts t0 ht0 hlate hlt with hrunning | ⟨n, hn⟩
      · simp only [iperfUserStep, hnone, (h.waiting t0 ht0).2.1] at hrunning
        cases hrunning
      · simp only [iperfUserStep, hnone] at hn
        cases hn
    · intro hclean
      refine ⟨fun answer id size hsent => ?_, fun hstop => ?_, fun t0 ht0 hlate hlt => ?_⟩
      · apply Classical.byContradiction
        intro hne
        rw [hoff hne answer] at hsent
        cases hsent
      · have hne : s.lastSwitch ≠ some .start := by rw [hstop]; decide
        obtain ⟨hrun, hdelay⟩ := h.off hne
        rw [hoff hne a]
        simp [iperfGetRunningState, hrun, hdelay]
      · exact iperfService_runs s.iperf _ _ a
          ((hruns t0 ht0 hlate hlt).mpr (hclean t0 ht0 hlate hlt))

/-- **Start and stop.**  Along every run of calls at nondecreasing times, starts and stops are
obeyed if and only if no stop comes while a start is pending, and no service call that should act
on a start finds one made at clock value 0. -/
theorem obeyed_iff (ops : List IperfOp) (h : Along iperfUserStep OpInOrder IperfUser.zero ops) :
    Along iperfUserStep Obeyed IperfUser.zero ops ↔
      Along iperfUserStep CleanSwitch IperfUser.zero ops :=
  along_iff_of iperfUserStep OpInOrder Obeyed CleanSwitch IperfUserInv obeyed_step_iff
    (fun s op hs ha hok => iperfUserInv_step s op hs ha ((obeyed_step_iff s op hs ha).mp hok))
    ops IperfUser.zero iperfUserInv_zero h

/-- A test that is started, runs and is stopped. -/
theorem obeyed_iff_stopped : Along iperfUserStep Obeyed IperfUser.zero
    [.start 5 5 5 sendTaken, .service 20 20 sendTaken, .stop, .service 30 30 sendTaken] :=
  (obeyed_iff [.start 5 5 5 sendTaken, .service 20 20 sendTaken, .stop,
      .service 30 30 sendTaken]
    ⟨⟨by decide, by decide, by decide⟩, ⟨by decide, by decide⟩, trivial,
      ⟨by decide, by decide⟩, trivial⟩).mpr
    ⟨trivial, fun t0 h _ _ => (by cases h; decide), rfl, fun t0 h => (by cases h), trivial⟩

/-- A test stopped within 10 ms of its start starts all the same, and one started when the clock
reads 0 never does. -/
theorem obeyed_not_always :
    (¬ ∀ ops : List IperfOp, Along iperfUserStep OpInOrder IperfUser.zero ops →
      Along iperfUserStep Obeyed IperfUser.zero ops) ∧
    (let s := exec iperfUserStep IperfUser.zero [.start 5 5 5 sendTaken, .stop]
     s.lastSwitch = some .stop ∧
       .udpSendto 2 1460 ∈ (iperfUserStep s (.service 20 20 sendTaken)).2) ∧
    (let s := exec iperfUserStep IperfUser.zero
       [.start (2 ^ 32) (2 ^ 32) (2 ^ 32) sendTaken, .service (2 ^ 32 + 20) (2 ^ 32 + 20) sendTaken]
     s.lastSwitch = some .start ∧ iperfGetRunningState s.iperf = false) := by
  refine ⟨?_, by decide, by decide⟩
  intro h
  obtain ⟨-, hstop, -⟩ := h [.start 5 5 5 sendTaken, .stop]
    ⟨⟨by decide, by decide, by decide⟩, trivial, trivial⟩
  exact absurd hstop (by unfold Obeyed; decide)

end CuriosityT1S
