import CuriosityT1S.Main

/-!
# Whether a throughput session is on

`main` remembers in `iperf_running` what it asked for, the module knows in
`running` and `startDelay` what is going on.  The module ends a session by
itself at its time limit or when a send fails, and a stop does not withdraw a
start that is still pending.

    agrees_iff:        what one iteration does to agreement
    iperf_agrees_iff:  they agree all along if and only if none of that happens
-/

namespace CuriosityT1S

open Mealy

/-- `iperf_running` is `iperf_get_running_state()`. -/
def Agrees (m : Main) : Prop := m.iperfRunning = iperfGetRunningState m.iperf

/-- A short press is waiting after the button task. -/
def shortPressed (m : Main) (i : LoopIn) : Bool :=
  (debounceButton m.btn i.raw (UInt32.ofNat i.taskMs)).wasPressed

/-- The start delay is over for the service of this iteration. -/
def Main.startDue (m : Main) (i : LoopIn) : Bool :=
  m.available && CuriosityT1S.startDue m.iperf (UInt32.ofNat i.serviceMs)

/-- The service ends a running session: its time is up, or the send fails. -/
def sessionEnds (m : Main) (i : LoopIn) : Bool :=
  m.available && (m.iperf.running || m.startDue i) &&
    (timeUp m.iperf (UInt32.ofNat i.serviceTransferMs) || i.serviceSend.fatal)

/-- Without a press the service does not end a session; a press that stops comes when no start is
pending; a press that starts does not read the clock at 0. -/
def IperfKept (m : Main) (i : LoopIn) : Prop :=
  if m.resetDone then True
  else if shortPressed m i then
    if m.iperfRunning then m.iperf.startDelay = 0 ∨ m.startDue i = true
    else UInt32.ofNat i.startMs ≠ 0
  else sessionEnds m i = false

/-- A session is pending or running, not both. -/
structure IperfInv (m : Main) : Prop where
  role : m.role = .server
  once : m.iperf.running = true → m.iperf.startDelay = 0
  agrees : Agrees m

/-! ## One iteration -/

/-- The service, from what it finds. -/
theorem service_spec (m : Main) (i : LoopIn) :
    (t1sExecute m i).1.iperf.running = ((m.iperf.running || m.startDue i) && !sessionEnds m i) ∧
      (t1sExecute m i).1.iperf.startDelay = if m.startDue i then 0 else m.iperf.startDelay := by
  rw [t1sExecute_iperf]
  unfold sessionEnds Main.startDue
  by_cases ha : m.available = true
  · rw [if_pos ha]
    obtain ⟨hr, hd⟩ := iperfService_spec m.iperf (UInt32.ofNat i.serviceMs)
      (UInt32.ofNat i.serviceTransferMs) i.serviceSend
    rw [hr, hd, ha]
    simp only [Bool.true_and]
    refine ⟨?_, trivial⟩
    cases m.iperf.running || CuriosityT1S.startDue m.iperf (UInt32.ofNat i.serviceMs) <;> simp
  · rw [if_neg ha]
    simp [ha]

/-- Nothing after the short press touches either. -/
theorem mainLoop_iperf (m : Main) (i : LoopIn) (hd : m.resetDone = false) :
    (mainLoop m i).1.iperf = (afterPress m i).iperf ∧
      (mainLoop m i).1.iperfRunning = (afterPress m i).iperfRunning ∧
      (mainLoop m i).1.role = m.role := by
  have hrole := afterSwitch_role m i
  rw [mainLoop_eq hd]
  simp only
  rw [heartbeatTask_frame]
  unfold afterSwitch at hrole ⊢
  rw [resetSwitch_frame] at hrole ⊢
  exact ⟨rfl, rfl, hrole⟩

/-- What the short press leaves on a SERVER. -/
theorem afterPress_spec (m : Main) (i : LoopIn) (hr : m.role = .server) :
    (shortPressed m i = false → (afterPress m i).iperf = (t1sExecute m i).1.iperf ∧
      (afterPress m i).iperfRunning = m.iperfRunning) ∧
    (shortPressed m i = true → m.iperfRunning = true →
      (afterPress m i).iperf = iperfStopApplication (t1sExecute m i).1.iperf ∧
        (afterPress m i).iperfRunning = false) ∧
    (shortPressed m i = true → m.iperfRunning = false →
      (afterPress m i).iperf.running = false ∧
        (afterPress m i).iperf.startDelay = UInt32.ofNat i.startMs ∧
        (afterPress m i).iperfRunning = true) := by
  have htask : (afterTask m i).btn.wasPressed = shortPressed m i ∧
      (afterTask m i).role = m.role ∧ (afterTask m i).iperfRunning = m.iperfRunning ∧
      (afterTask m i).iperf = (t1sExecute m i).1.iperf := by
    rw [afterTask_frame]
    exact ⟨rfl, rfl, rfl, rfl⟩
  obtain ⟨hwas, hrole, hrun, hiperf⟩ := htask
  rw [← hrun, ← hiperf]
  unfold afterPress shortPress
  rw [appButtonWasPressed_eq]
  simp only [hwas, hrole, hr]
  refine ⟨fun hp => ?_, fun hp hm => ?_, fun hp hm => ?_⟩
  · rw [hp]
    exact ⟨rfl, rfl⟩
  · rw [hp, hm]
    exact ⟨rfl, rfl⟩
  · rw [hp, hm]
    obtain ⟨h1, h2⟩ := iperfStartApplication_spec (afterTask m i).iperf (UInt32.ofNat i.startMs)
      (UInt32.ofNat i.statsMs) (UInt32.ofNat i.startTransferMs) i.startSend
    exact ⟨h1, h2, rfl⟩

theorem startDelay_of_startDue {m : Main} {i : LoopIn} (h : m.startDue i = true) :
    m.iperf.startDelay ≠ 0 := by
  unfold Main.startDue CuriosityT1S.startDue at h
  simp only [Bool.and_eq_true, decide_eq_true_eq] at h
  exact h.2.1

/-- What one iteration does to agreement. -/
theorem agrees_iff (m : Main) (i : LoopIn) (h : IperfInv m) :
    Agrees (mainLoop m i).1 ↔ IperfKept m i := by
  unfold IperfKept
  by_cases hd : m.resetDone = true
  · rw [mainLoop_done hd, if_pos hd]
    exact iff_of_true h.agrees trivial
  · rw [if_neg hd]
    obtain ⟨hiperf, hrunning, -⟩ := mainLoop_iperf m i (by simpa using hd)
    obtain ⟨hquiet, hstop, hstart⟩ := afterPress_spec m i h.role
    obtain ⟨hsr, hsd⟩ := service_spec m i
    have hagrees := h.agrees
    have honce := h.once
    unfold Agrees iperfGetRunningState at hagrees ⊢
    rw [hiperf, hrunning]
    by_cases hp : shortPressed m i = true
    · rw [if_pos hp]
      cases hm : m.iperfRunning with
      | true =>
        -- a stop: only the pending start is left
        obtain ⟨h1, h2⟩ := hstop hp hm
        rw [h1, h2]
        simp only [if_true, iperfStopApplication, hsd]
        cases hdue : m.startDue i with
        | true => simp
        | false => simp
      | false =>
        obtain ⟨h1, h2, h3⟩ := hstart hp hm
        rw [h1, h2, h3]
        simp
    · rw [if_neg hp]
      obtain ⟨h1, h2⟩ := hquiet (by simpa using hp)
      rw [h1, h2, hsr, hsd, hagrees]
      cases hdue : m.startDue i with
      | true =>
        have hne := startDelay_of_startDue hdue
        cases sessionEnds m i <;> simp [hne]
      | false =>
        cases hrun : m.iperf.running with
        | true =>
          have hz := honce hrun
          cases sessionEnds m i <;> simp [hz]
        | false =>
          have hends : sessionEnds m i = false := by
            unfold sessionEnds
            rw [hrun, hdue]
            simp
          simp [hends]

/-- What one iteration preserves, if it keeps agreement. -/
theorem iperfInv_step (m : Main) (i : LoopIn) (h : IperfInv m) (hk : Agrees (mainLoop m i).1) :
    IperfInv (mainLoop m i).1 := by
  by_cases hd : m.resetDone = true
  · rw [mainLoop_done hd]
    exact h
  · obtain ⟨hiperf, -, hrole⟩ := mainLoop_iperf m i (by simpa using hd)
    obtain ⟨hquiet, hstop, hstart⟩ := afterPress_spec m i h.role
    obtain ⟨hsr, hsd⟩ := service_spec m i
    refine ⟨hrole.trans h.role, ?_, hk⟩
    rw [hiperf]
    cases hp : shortPressed m i with
    | false =>
      rw [(hquiet hp).1, hsr, hsd]
      cases hdue : m.startDue i with
      | true => exact fun _ => rfl
      | false =>
        intro hr
        apply h.once
        simp only [Bool.or_false, Bool.and_eq_true] at hr
        exact hr.1
    | true =>
      cases hm : m.iperfRunning with
      | true =>
        rw [(hstop hp hm).1]
        exact nofun
      | false =>
        rw [(hstart hp hm).1]
        exact nofun

/-! ## Whole runs -/

theorem iperfInv_init (boot : MainBoot) : IperfInv (mainInit .server boot) :=
  ⟨rfl, nofun, rfl⟩

/-- **Agreement.**  In every run of a SERVER, whatever the presses, the clock and the sends, `main`
and the module agree at the end of every iteration if and only if the service never ends a session
without a press, no press stops a session whose start is pending, and none starts one at clock
0. -/
theorem iperf_agrees_iff (boot : MainBoot) (is : List LoopIn) :
    Along mainLoop (fun m i => Agrees (mainLoop m i).1) (mainInit .server boot) is ↔
      Along mainLoop IperfKept (mainInit .server boot) is :=
  along_iff mainLoop _ IperfKept IperfInv agrees_iff iperfInv_step is _ (iperfInv_init boot)

/-- A send of the service that finds no route. -/
def noRoute : IperfSend := ⟨false, ⟨true, .errOk, .errRte⟩, 200⟩

/-- A short press starts a session; its first send fails. -/
def sessionFailsRun : List LoopIn :=
  [.quiet true 100, .quiet true 130, .quiet false 140, .quiet false 170,
    { LoopIn.quiet false 200 with serviceSend := noRoute }]

theorem iperf_disagrees :
    ¬ ∀ (boot : MainBoot) (is : List LoopIn),
      Along mainLoop (fun m i => Agrees (mainLoop m i).1) (mainInit .server boot) is := by
  intro h
  have hlast := (h ⟨true, true, .errOk, none, 0⟩ sessionFailsRun).2.2.2.2.1
  exact absurd hlast (by unfold Agrees; decide)

end CuriosityT1S
