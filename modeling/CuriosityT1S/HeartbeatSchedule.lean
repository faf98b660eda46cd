import CuriosityT1S.LedMirror
import CuriosityT1S.Lib.WrapCounter
import CuriosityT1S.PromptExchange

/-!
# The heartbeat schedule (main.c)

The mode, the LED and the distance of the SERVER's heartbeats are kept in `hb_mode`,
`hb_exchange_count`, `led_state` and `led_toggle`.  Beside the state, `Schedule` has the number of
heartbeats so far and the reading at which the timeout was last restarted.  Arming the reset
overwrites `led_state`, but then there is no further heartbeat.

    ScheduleInv:           the four variables as functions of the number of heartbeats
    mainLoop_issue:        what an iteration that sends does with them
    scheduled_always:      the k-th heartbeat, in every run
-/

namespace CuriosityT1S

open Mealy

/-! ## The schedule -/

/-- Which function sends the k-th heartbeat. -/
def scheduledMode (k : Nat) : HeartbeatMode := if k / 10 % 2 = 0 then .udp else .rawEth

/-- The LED state it carries. -/
def scheduledLed (k : Nat) : UInt8 := if k % 2 = 0 then 1 else 0

/-- `heartbeat_send` or `eth_heartbeat_send` with this LED state, and nothing else. -/
def MainHb.issue (hb : MainHb) (ledState : UInt8) (env : HbEnv) :
    HeartbeatMode → MainHb × List HbCall
  | .udp =>
    let (udp, calls) := heartbeatSend hb.udp ledState env.nowUs env.lw
    ({ hb with udp := udp }, calls)
  | .rawEth =>
    let (eth, calls) := ethHeartbeatSend hb.eth ledState env.nowUs env.tc6
    ({ hb with eth := eth }, calls)

/-- The heartbeats so far, and when `led_toggle` was last started. -/
structure Schedule where
  beats : Nat
  restartMs : Nat
deriving DecidableEq, Repr

/-- An iteration of the main loop. -/
def scheduleStep (s : Main × Schedule) (i : LoopIn) : (Main × Schedule) × List MainCall :=
  (((mainLoop s.1 i).1, if AboutToSend s.1 i then ⟨s.2.beats + 1, i.rearmMs⟩ else s.2),
    (mainLoop s.1 i).2)

def scheduleStart (boot : MainBoot) : Main × Schedule := (mainInit .server boot, ⟨0, boot.nowMs⟩)

/-- What the iteration does to the modules and calls as its last part, if it sends. -/
def IssuedAs (m : Main) (i : LoopIn) (t : HeartbeatMode) (ledState : UInt8) : Prop :=
  let (hb, calls) :=
    { (afterSwitch m i).hb with ledState := ledState }.issue ledState i.hbEnv t
  (mainLoop m i).1.hb = hb.countExchange ∧
    ∃ before, (mainLoop m i).2 = before ++ (showLed false ledState ++ calls).map .hb

/-- The timeout is checked 500 ms after it was restarted: by the readings, and in true time if
the clock has not gone back in between. -/
def Spaced (restartMs checkMs : Nat) : Prop :=
  UInt32.ofNat checkMs - UInt32.ofNat restartMs ≥ 500 ∧
    (restartMs ≤ checkMs → restartMs + 500 ≤ checkMs)

/-- The iteration sends the heartbeat that is due by the schedule, or none, and if it switches the
mode, nothing is armed after it. -/
def Scheduled (s : Main × Schedule) (i : LoopIn) : Prop :=
  (AboutToSend s.1 i →
    IssuedAs s.1 i (scheduledMode s.2.beats) (scheduledLed s.2.beats) ∧
      Spaced s.2.restartMs i.timeoutMs ∧
      ((mainLoop s.1 i).1.hb.hbMode ≠ s.1.hb.hbMode ↔ (s.2.beats + 1) % 10 = 0)) ∧
  (¬ AboutToSend s.1 i →
    ∀ c ∈ (mainLoop s.1 i).2, c.sendsHeartbeat = false) ∧
  ((mainLoop s.1 i).1.hb.hbMode ≠ s.1.hb.hbMode → ∀ t, (mainLoop s.1 i).1.hb.armed t = 0)

/-! ## What the parts of an iteration leave alone -/

/-- A received message goes to a module. -/
theorem mainRx_frame (hb : MainHb) (r : RxItem × HbEnv) :
    (mainRx hb r).1 = { hb with udp := (mainRx hb r).1.udp, eth := (mainRx hb r).1.eth } := by
  unfold mainRx
  split <;> rfl

theorem t1sExecute_main (m : Main) (i : LoopIn) :
    (t1sExecute m i).1.hb.ledState = m.hb.ledState ∧
      (t1sExecute m i).1.hb.hbMode = m.hb.hbMode ∧
      (t1sExecute m i).1.hb.hbExchangeCount = m.hb.hbExchangeCount := by
  rw [t1sExecute_hb]
  split
  · refine exec_inv_all mainRx (fun hb => hb.ledState = m.hb.ledState ∧ hb.hbMode = m.hb.hbMode ∧
      hb.hbExchangeCount = m.hb.hbExchangeCount) ?_ i.rx m.hb ⟨rfl, rfl, rfl⟩
    intro hb r h
    rw [mainRx_frame]
    exact h
  · exact ⟨rfl, rfl, rfl⟩

/-- Up to the heartbeat only `led_state` is written, when the reset is armed. -/
theorem afterSwitch_main (m : Main) (i : LoopIn) :
    (afterSwitch m i).hb.hbMode = m.hb.hbMode ∧
      (afterSwitch m i).hb.hbExchangeCount = m.hb.hbExchangeCount ∧
      (afterSwitch m i).ledToggle = m.ledToggle := by
  obtain ⟨-, hmode, hcount⟩ := t1sExecute_main m i
  obtain ⟨l, p, q, hsw⟩ := afterSwitch_hb m i
  refine ⟨?_, ?_, ?_⟩
  · rw [hsw]
    exact hmode
  · rw [hsw]
    exact hcount
  · unfold afterSwitch
    rw [resetSwitch_frame]
    unfold afterPress
    rw [shortPress_frame, afterTask_frame]

/-- In RESET_IDLE it is not. -/
theorem afterSwitch_idle (m : Main) (i : LoopIn) (h : (afterSwitch m i).resetState = .idle) :
    m.resetState = .idle ∧ (afterSwitch m i).hb.ledState = m.hb.ledState := by
  obtain ⟨hstate, -⟩ := afterPress_reset m i
  have hled : (afterPress m i).hb.ledState = m.hb.ledState := by
    obtain ⟨p, q, hpress⟩ := shortPress_hb (afterTask m i) i
    unfold afterPress
    rw [hpress, afterTask_frame]
    exact (t1sExecute_main m i).1
  rw [← hstate, ← hled]
  unfold afterSwitch resetSwitch at h ⊢
  split at h
  · next hs =>
    simp only at h ⊢
    split at h
    · cases h
    · next hl =>
      rw [if_neg hl]
      exact ⟨hs, rfl⟩
  · next hs =>
    split at h
    · cases h
    · exact absurd (hs.symm.trans h) nofun
  · next hs =>
    split at h
    · exact absurd (hs.symm.trans h) nofun
    · exact absurd (hs.symm.trans h) nofun

/-! ## A heartbeat -/

/-- The block toggles the LED state, sends it in the current mode and counts. -/
theorem mainHeartbeat_issue (hb : MainHb) (env : HbEnv) (t : HeartbeatMode) (ledState : UInt8)
    (ht : hb.hbMode = t) (hl : hb.ledState ^^^ 1 = ledState) :
    mainHeartbeat hb env.nowUs env.lw env.tc6 =
      (({ hb with ledState := ledState }.issue ledState env t).1.countExchange,
        showLed false ledState ++ ({ hb with ledState := ledState }.issue ledState env t).2) := by
  subst ht hl
  unfold mainHeartbeat MainHb.send MainHb.issue
  cases hb.hbMode <;> rfl

theorem MainHb.issue_main (hb : MainHb) (ledState : UInt8) (env : HbEnv) (t : HeartbeatMode) :
    (hb.issue ledState env t).1.ledState = hb.ledState ∧
      (hb.issue ledState env t).1.hbMode = hb.hbMode ∧
      (hb.issue ledState env t).1.hbExchangeCount = hb.hbExchangeCount := by
  cases t <;> exact ⟨rfl, rfl, rfl⟩

/-- After ten heartbeats the mode changes. -/
theorem scheduledMode_succ (k : Nat) :
    scheduledMode (k + 1) =
      if (k + 1) % 10 = 0 then (scheduledMode k).other else scheduledMode k := by
  unfold scheduledMode
  by_cases hten : (k + 1) % 10 = 0
  · have hdiv : (k + 1) / 10 = k / 10 + 1 := by omega
    rw [if_pos hten, hdiv]
    by_cases hk : k / 10 % 2 = 0
    · rw [if_pos hk, if_neg (by omega)]
      rfl
    · rw [if_neg hk, if_pos (by omega)]
      rfl
  · have hdiv : (k + 1) / 10 = k / 10 := by omega
    rw [if_neg hten, hdiv]

theorem scheduledLed_succ (k : Nat) : scheduledLed k ^^^ 1 = scheduledLed (k + 1) := by
  unfold scheduledLed
  by_cases hk : k % 2 = 0
  · rw [if_pos hk, if_neg (by omega)]
    rfl
  · rw [if_neg hk, if_pos (by omega)]
    rfl

theorem HeartbeatMode.other_ne (t : HeartbeatMode) : t.other ≠ t := by
  cases t <;> nofun

/-- The k-th heartbeat is counted; the tenth of a mode changes it and leaves nothing armed. -/
theorem MainHb.countExchange_schedule (hb : MainHb) (k : Nat)
    (hmode : hb.hbMode = scheduledMode k) (hcount : hb.hbExchangeCount = UInt32.ofNat (k % 10)) :
    hb.countExchange.ledState = hb.ledState ∧
      hb.countExchange.hbMode = scheduledMode (k + 1) ∧
      hb.countExchange.hbExchangeCount = UInt32.ofNat ((k + 1) % 10) ∧
      ((k + 1) % 10 = 0 → ∀ t, hb.countExchange.armed t = 0) := by
  obtain ⟨hge, hnext⟩ := exchangeCount_next k
  rw [scheduledMode_succ, ← hmode]
  unfold MainHb.countExchange
  simp only [hcount, hge]
  by_cases hten : (k + 1) % 10 = 0
  · rw [if_pos hten, if_pos hten]
    refine ⟨rfl, rfl, ?_, ?_⟩
    · rw [hten]
      rfl
    · rintro - (- | -) <;> rfl
  · rw [if_neg hten, if_neg hten]
    exact ⟨rfl, rfl, hnext hten, fun h => absurd h hten⟩

/-! ## Spacing -/

theorem sysTickIsTimeoutReached_spaced (restartMs checkMs : Nat)
    (h : sysTickIsTimeoutReached ⟨UInt32.ofNat restartMs, 500⟩ (UInt32.ofNat checkMs) = true) :
    Spaced restartMs checkMs := by
  have hge : UInt32.ofNat checkMs - UInt32.ofNat restartMs ≥ 500 := by
    unfold sysTickIsTimeoutReached at h
    exact of_decide_eq_true h
  refine ⟨hge, ?_⟩
  intro hle
  have hnat := UInt32.le_iff_toNat_le.mp hge
  have htrue := WrapCounter.ofNat_sub_le hle
  have h500 : (500 : UInt32).toNat = 500 := rfl
  omega

/-! ## Runs -/

/-- The schedule's variables.  `led_state` is given up when the reset is armed. -/
structure ScheduleInv (s : Main × Schedule) : Prop where
  freeze : FreezeInv .server s.1
  mode : s.1.hb.hbMode = scheduledMode s.2.beats
  count : s.1.hb.hbExchangeCount = UInt32.ofNat (s.2.beats % 10)
  led : s.1.resetState = .idle → s.1.hb.ledState ^^^ 1 = scheduledLed s.2.beats
  timeout : s.1.ledToggle = ⟨UInt32.ofNat s.2.restartMs, 500⟩

theorem scheduleInv_init (boot : MainBoot) : ScheduleInv (scheduleStart boot) := by
  have hmode : HeartbeatMode.udp = scheduledMode 0 := by decide
  have hled : (0 : UInt8) ^^^ 1 = scheduledLed 0 := by decide
  exact ⟨freezeInv_init .server boot, hmode, rfl, fun _ => hled, rfl⟩

/-- What an iteration that sends makes of the state. -/
theorem mainLoop_issue {s : Main × Schedule} (h : ScheduleInv s) (i : LoopIn)
    (hs : AboutToSend s.1 i) :
    IssuedAs s.1 i (scheduledMode s.2.beats) (scheduledLed s.2.beats) ∧
      (mainLoop s.1 i).1.hb.hbMode = scheduledMode (s.2.beats + 1) ∧
      (mainLoop s.1 i).1.hb.hbExchangeCount = UInt32.ofNat ((s.2.beats + 1) % 10) ∧
      (mainLoop s.1 i).1.hb.ledState = scheduledLed s.2.beats ∧
      (mainLoop s.1 i).1.ledToggle = ⟨UInt32.ofNat i.rearmMs, 500⟩ ∧
      ((s.2.beats + 1) % 10 = 0 → ∀ t, (mainLoop s.1 i).1.hb.armed t = 0) := by
  obtain ⟨hd, hdue⟩ := hs
  obtain ⟨hmode, hcount, htoggle⟩ := afterSwitch_main s.1 i
  obtain ⟨hidle, hled⟩ := afterSwitch_idle s.1 i hdue.1.2.1
  obtain ⟨hhb, hcalls⟩ := heartbeatTask_due hdue
  have hissue := mainHeartbeat_issue (afterSwitch s.1 i).hb i.hbEnv (scheduledMode s.2.beats)
    (scheduledLed s.2.beats) (hmode.trans h.mode) (by rw [hled]; exact h.led hidle)
  have hrestart : (heartbeatTask (afterSwitch s.1 i) i).1.ledToggle =
      ⟨UInt32.ofNat i.rearmMs, 500⟩ := by
    unfold heartbeatTask
    rw [if_pos hdue.1, if_pos hdue.2]
    show sysTickResetTimeOut (afterSwitch s.1 i).ledToggle _ = _
    rw [htoggle, h.timeout]
    rfl
  have hsent := MainHb.issue_main
    { (afterSwitch s.1 i).hb with ledState := scheduledLed s.2.beats } (scheduledLed s.2.beats)
    i.hbEnv (scheduledMode s.2.beats)
  unfold IssuedAs
  rw [mainLoop_eq hd]
  simp only
  rw [hhb, hcalls, hissue, hrestart]
  obtain ⟨hl, hm, hc⟩ := hsent
  obtain ⟨gl, gm, gc, ga⟩ := MainHb.countExchange_schedule _ s.2.beats
    (hm.trans (hmode.trans h.mode)) (hc.trans (hcount.trans h.count))
  exact ⟨⟨rfl, _, rfl⟩, gm, gc, gl.trans hl, rfl, ga⟩

/-- An iteration that sends nothing. -/
theorem mainLoop_noIssue {s : Main × Schedule} (h : ScheduleInv s) (i : LoopIn)
    (hs : ¬ AboutToSend s.1 i) :
    ScheduleInv ((mainLoop s.1 i).1, s.2) ∧
      (mainLoop s.1 i).1.hb.hbMode = s.1.hb.hbMode ∧
      ∀ c ∈ (mainLoop s.1 i).2, c.sendsHeartbeat = false := by
  by_cases hd : s.1.resetDone = true
  · rw [mainLoop_done hd]
    refine ⟨h, rfl, ?_⟩
    intro c hc
    cases hc
  · have hd' : s.1.resetDone = false := by simpa using hd
    have hnot : ¬ HeartbeatDue (afterSwitch s.1 i) i := fun hc => hs ⟨hd', hc⟩
    obtain ⟨hmode, hcount, htoggle⟩ := afterSwitch_main s.1 i
    rw [mainLoop_eq hd', heartbeatTask_notDue hnot]
    refine ⟨?_, hmode, ?_⟩
    · refine ⟨afterSwitch_freeze h.freeze i, hmode.trans h.mode, hcount.trans h.count, ?_,
        htoggle.trans h.timeout⟩
      intro hi
      obtain ⟨hidle, hled⟩ := afterSwitch_idle s.1 i hi
      show (afterSwitch s.1 i).hb.ledState ^^^ 1 = _
      rw [hled]
      exact h.led hidle
    · rw [List.append_nil]
      exact beforeHeartbeat_sends h.freeze i

theorem scheduleInv_step (s : Main × Schedule) (i : LoopIn) (h : ScheduleInv s) :
    ScheduleInv (scheduleStep s i).1 := by
  unfold scheduleStep
  by_cases hs : AboutToSend s.1 i
  · obtain ⟨-, hmode, hcount, hled, htoggle, -⟩ := mainLoop_issue h i hs
    simp only [if_pos hs]
    refine ⟨mainLoop_freeze h.freeze i, hmode, hcount, ?_, htoggle⟩
    intro _
    show (mainLoop s.1 i).1.hb.ledState ^^^ 1 = _
    rw [hled]
    exact scheduledLed_succ s.2.beats
  · simp only [if_neg hs]
    exact (mainLoop_noIssue h i hs).1

theorem scheduled_of_inv (s : Main × Schedule) (i : LoopIn) (h : ScheduleInv s) :
    Scheduled s i := by
  by_cases hs : AboutToSend s.1 i
  · obtain ⟨hissue, hmode, -, -, -, harmed⟩ := mainLoop_issue h i hs
    have hspaced : Spaced s.2.restartMs i.timeoutMs := by
      have hreached := hs.2.2
      rw [(afterSwitch_main s.1 i).2.2, h.timeout] at hreached
      exact sysTickIsTimeoutReached_spaced s.2.restartMs i.timeoutMs hreached
    have hswitch : (mainLoop s.1 i).1.hb.hbMode ≠ s.1.hb.hbMode ↔ (s.2.beats + 1) % 10 = 0 := by
      rw [hmode, h.mode, scheduledMode_succ]
      by_cases hten : (s.2.beats + 1) % 10 = 0
      · rw [if_pos hten]
        exact ⟨fun _ => hten, fun _ => HeartbeatMode.other_ne _⟩
      · rw [if_neg hten]
        exact ⟨fun hne => absurd rfl hne, fun ht => absurd ht hten⟩
    exact ⟨fun _ => ⟨hissue, hspaced, hswitch⟩, fun hn => absurd hs hn,
      fun hne => harmed (hswitch.mp hne)⟩
  · obtain ⟨-, hmode, hquiet⟩ := mainLoop_noIssue h i hs
    exact ⟨fun hc => absurd hc hs, fun _ => hquiet, fun hne => absurd hmode hne⟩

/-- **Heartbeat schedule.**  In every run of the SERVER's loop, with any clock readings, presses
and received frames, the k-th heartbeat goes over UDP if k / 10 is even and over raw Ethernet if it
is odd, carries LED state 1 for even k and 0 for odd k, and comes 500 ms after the previous one;
after each mode switch neither module is armed. -/
theorem scheduled_always (boot : MainBoot) (is : List LoopIn) :
    Along scheduleStep Scheduled (scheduleStart boot) is :=
  along_of_inv scheduleStep (fun _ _ => True) Scheduled ScheduleInv
    (fun s i h _ => scheduleInv_step s i h) (fun s i h _ => scheduled_of_inv s i h) is _
    (scheduleInv_init boot) (along_true scheduleStep _ is)

end CuriosityT1S
