import CuriosityT1S.ResetGesture

/-!
# An armed reset freezes the LED

LED0 is written by the two receive functions (CLIENT, unless paused), by the
heartbeat (SERVER, only in RESET_IDLE) and when the reset is armed.  On the
CLIENT both modules stay paused from then on, since only the SERVER reacts to
a short press; on the SERVER `set_paused(false)` does no harm, since its
receive functions leave the LED alone.

    mainRx_quiet:      a received message, outside RESET_IDLE
    mainLoop_quiet:    an iteration, outside RESET_IDLE
    reset_freezes_led: every run
-/

namespace CuriosityT1S

open Mealy

/-- What a call does to LED0, if anything: on or off. -/
def HbCall.led0 : HbCall → Option Bool
  | .led0SetLow => some true
  | .led0SetHigh => some false
  | _ => none

/-- Whether a call hands a message to lwIP or TC6. -/
def HbCall.sends : HbCall → Bool
  | .udpSendto _ | .tc6SendRawEthernetPacket _ => true
  | _ => false

def MainCall.led0 : MainCall → Option Bool
  | .hb c => c.led0
  | _ => none

def MainCall.sendsHeartbeat : MainCall → Bool
  | .hb c => c.sends
  | _ => false

/-- A call that leaves LED0 alone and, on the SERVER, sends no heartbeat. -/
def MainCall.Quiet (role : BoardRole) (c : MainCall) : Prop :=
  c.led0 = none ∧ (role = .server → c.sendsHeartbeat = false)

/-! ## Received messages -/

/-- Both modules have the board's role, and are paused if `p` says so. -/
structure HbModules (role : BoardRole) (p : Prop) (hb : MainHb) : Prop where
  udpRole : hb.udp.role = role
  ethRole : hb.eth.role = role
  paused : p → hb.udp.paused = true ∧ hb.eth.paused = true

theorem mainRx_modules {role : BoardRole} {p : Prop} {hb : MainHb} (h : HbModules role p hb)
    (r : RxItem × HbEnv) : HbModules role p (mainRx hb r).1 := by
  obtain ⟨hu, he, hp⟩ := h
  unfold mainRx
  split
  · simp only
    rw [heartbeatRecvCb_frame]
    exact ⟨hu, he, hp⟩
  · simp only
    rw [ethHeartbeatRxHandler_frame]
    exact ⟨hu, he, hp⟩

theorem exec_mainRx_modules {role : BoardRole} {p : Prop} {hb : MainHb} (h : HbModules role p hb)
    (rx : List (RxItem × HbEnv)) : HbModules role p (exec mainRx hb rx) :=
  exec_inv_all mainRx (HbModules role p) (fun _ r hm => mainRx_modules hm r) rx hb h

theorem onAck_quiet (role : BoardRole) (rtt : Rtt) (nowUs : UInt64) :
    ∀ c ∈ (rtt.onAck nowUs).2, MainCall.Quiet role (.hb c) := by
  unfold Rtt.onAck
  split
  · nofun
  · intro c hc
    obtain rfl := List.mem_singleton.mp hc
    exact ⟨rfl, fun _ => rfl⟩

/-- What a client does besides showing the LED state. -/
theorem quiet_client {c : HbCall} (h : c.led0 = none) : MainCall.Quiet .client (.hb c) :=
  ⟨h, nofun⟩

theorem heartbeatRecvCb_quiet (h : UdpHb) (hp : h.role = .client → h.paused = true)
    (p : Option (List UInt8)) (nowUs : UInt64) (lw : LwipAnswer) :
    ∀ c ∈ (heartbeatRecvCb h p nowUs lw).2, MainCall.Quiet h.role (.hb c) := by
  have hfree : MainCall.Quiet h.role (.hb .pbufFreeRx) := ⟨rfl, fun _ => rfl⟩
  cases p with
  | none => nofun
  | some p =>
    cases hr : h.role with
    | client =>
      have hled : showLed h.paused (p.getD 0 0) = [] := by rw [hp hr]; rfl
      rw [heartbeatRecvCb_client h hr, hled]
      intro c hc
      apply quiet_client
      revert c
      simp only [List.nil_append]
      repeat' split
      all_goals simp [HbCall.led0]
    | server =>
      rw [heartbeatRecvCb_server h hr, ← hr]
      split
      · intro c hc
        rcases List.mem_append.mp hc with hc | hc
        · exact onAck_quiet h.role h.rtt nowUs c hc
        · obtain rfl := List.mem_singleton.mp hc
          exact hfree
      · intro c hc
        obtain rfl := List.mem_singleton.mp hc
        exact hfree

theorem ethHeartbeatRxHandler_quiet (h : EthHb) (hp : h.role = .client → h.paused = true)
    (pFrame : List UInt8) (len : UInt16) (nowUs : UInt64) (tc6 : Bool) :
    ∀ c ∈ (ethHeartbeatRxHandler h pFrame len nowUs tc6).2, MainCall.Quiet h.role (.hb c) := by
  by_cases hi : h.initialized = true
  · cases hr : h.role with
    | client =>
      have hled : showLed h.paused (pFrame.getD ethHbHdrSize 0) = [] := by rw [hp hr]; rfl
      rw [ethHeartbeatRxHandler_client h hr hi, hled]
      split
      · nofun
      · intro c hc
        apply quiet_client
        revert c
        unfold ethHbSendFrame
        simp only [List.nil_append]
        repeat' split
        all_goals simp [HbCall.led0]
    | server =>
      rw [ethHeartbeatRxHandler_server h hr hi, ← hr]
      split
      · nofun
      · exact onAck_quiet h.role h.rtt nowUs
  · unfold ethHeartbeatRxHandler
    rw [if_pos (by simpa using hi)]
    nofun

/-- A received message changes neither LED0 on a paused CLIENT nor what the SERVER has sent. -/
theorem mainRx_quiet {role : BoardRole} {hb : MainHb} (h : HbModules role (role = .client) hb)
    (r : RxItem × HbEnv) : ∀ c ∈ (mainRx hb r).2, MainCall.Quiet role (.hb c) := by
  obtain ⟨hu, he, hp⟩ := h
  unfold mainRx
  split
  · have hq := heartbeatRecvCb_quiet hb.udp (fun hr => (hp (hu.symm.trans hr)).1)
    rw [hu] at hq
    exact hq _ _ _
  · have hq := ethHeartbeatRxHandler_quiet hb.eth (fun hr => (hp (he.symm.trans hr)).2)
    rw [he] at hq
    exact hq _ _ _ _

/-! ## One iteration -/

/-- What holds in every state of a board's main loop: once armed, the CLIENT is paused. -/
structure FreezeInv (role : BoardRole) (m : Main) : Prop where
  sameRole : m.role = role
  modules : HbModules role (role = .client ∧ m.resetState ≠ .idle) m.hb

theorem t1sExecute_freeze {role : BoardRole} {m : Main} (h : FreezeInv role m) (i : LoopIn) :
    FreezeInv role (t1sExecute m i).1 := by
  rw [t1sExecute_frame]
  refine ⟨h.sameRole, ?_⟩
  show HbModules role (role = .client ∧ m.resetState ≠ .idle) (t1sExecute m i).1.hb
  rw [t1sExecute_hb]
  split
  · exact exec_mainRx_modules h.modules i.rx
  · exact h.modules

theorem afterTask_freeze {role : BoardRole} {m : Main} (h : FreezeInv role m) (i : LoopIn) :
    FreezeInv role (afterTask m i) := by
  obtain ⟨-, hm⟩ := t1sExecute_freeze h i
  rw [t1sExecute_frame] at hm
  rw [afterTask_frame]
  exact ⟨h.sameRole, hm⟩

/-- On the CLIENT a short press does nothing. -/
theorem shortPress_client {m : Main} (h : m.role = .client) (i : LoopIn) :
    (shortPress m i).1.hb = m.hb ∧ (shortPress m i).2 = [] := by
  unfold shortPress
  rw [appButtonWasPressed_eq]
  simp only [h]
  rw [if_neg (by simp)]
  exact ⟨rfl, rfl⟩

theorem setPaused_modules {role : BoardRole} {p : Prop} {hb : MainHb} (h : HbModules role p hb)
    (paused : Bool) (q : Prop) (hq : q → paused = true) : HbModules role q (hb.setPaused paused) :=
  ⟨h.udpRole, h.ethRole, fun hq' => ⟨hq hq', hq hq'⟩⟩

theorem afterPress_freeze {role : BoardRole} {m : Main} (h : FreezeInv role m) (i : LoopIn) :
    FreezeInv role (afterPress m i) := by
  obtain ⟨hr, hm⟩ := afterTask_freeze h i
  cases role with
  | client =>
    unfold afterPress
    rw [shortPress_frame]
    refine ⟨hr, ?_⟩
    rw [(shortPress_client hr i).1]
    exact hm
  | server =>
    unfold afterPress shortPress
    rw [appButtonWasPressed_eq]
    simp only
    split
    · split
      · exact ⟨hr, setPaused_modules hm false _ nofun⟩
      · exact ⟨hr, setPaused_modules hm true _ nofun⟩
    · exact ⟨hr, hm⟩

/-- The switch pauses both modules when it leaves RESET_IDLE. -/
theorem afterSwitch_freeze {role : BoardRole} {m : Main} (h : FreezeInv role m) (i : LoopIn) :
    FreezeInv role (afterSwitch m i) := by
  obtain ⟨hr, hm⟩ := afterPress_freeze h i
  unfold afterSwitch resetSwitch
  split
  · next hs =>
    simp only
    split
    · obtain ⟨hu, he, -⟩ := setPaused_modules hm true True (fun _ => rfl)
      exact ⟨hr, hu, he, fun _ => ⟨rfl, rfl⟩⟩
    · exact ⟨hr, hm⟩
  · next hs =>
    split
    · exact ⟨hr, hm.udpRole, hm.ethRole, fun hq => hm.paused ⟨hq.1, by rw [hs]; nofun⟩⟩
    · exact ⟨hr, hm⟩
  · split
    · exact ⟨hr, hm⟩
    · exact ⟨hr, hm⟩

theorem heartbeatTask_armed {m : Main} (h : m.resetState ≠ .idle) (i : LoopIn) :
    heartbeatTask m i = (m, []) := by
  unfold heartbeatTask
  rw [if_neg (by simp [h])]

theorem heartbeatTask_client {m : Main} (h : m.role = .client) (i : LoopIn) :
    heartbeatTask m i = (m, []) := by
  unfold heartbeatTask
  rw [if_neg (by simp [h])]

/-- Only the SERVER's heartbeat changes the modules, and no role or flag in them. -/
theorem heartbeatTask_freeze {role : BoardRole} {m : Main} (h : FreezeInv role m) (i : LoopIn) :
    FreezeInv role (heartbeatTask m i).1 := by
  obtain ⟨rttU, rttE, txFrame, hu, he⟩ :=
    mainHeartbeat_frame m.hb i.hbEnv.nowUs i.hbEnv.lw i.hbEnv.tc6
  unfold heartbeatTask
  split
  · split
    · refine ⟨h.sameRole, ?_, ?_, ?_⟩
      · rw [hu]
        exact h.modules.udpRole
      · rw [he]
        exact h.modules.ethRole
      · rw [hu, he]
        exact h.modules.paused
    · exact h
  · exact h

theorem mainLoop_freeze {role : BoardRole} {m : Main} (h : FreezeInv role m) (i : LoopIn) :
    FreezeInv role (mainLoop m i).1 := by
  by_cases hd : m.resetDone = true
  · rw [mainLoop_done hd]
    exact h
  · rw [mainLoop_eq (by simpa using hd)]
    exact heartbeatTask_freeze (afterSwitch_freeze h i) i

/-! ## What an iteration does once armed -/

theorem t1sExecute_quiet {role : BoardRole} {m : Main} (h : HbModules role (role = .client) m.hb)
    (i : LoopIn) : ∀ c ∈ (t1sExecute m i).2, c.Quiet role := by
  unfold t1sExecute
  split
  · intro c hc
    rcases List.mem_append.mp hc with hc | hc
    · obtain ⟨x, -, rfl⟩ := List.mem_map.mp hc
      exact ⟨rfl, fun _ => rfl⟩
    · obtain ⟨x, hx, rfl⟩ := List.mem_map.mp hc
      exact emits_forall mainRx (fun _ _ => True) (HbModules role (role = .client))
        (fun c => MainCall.Quiet role (.hb c)) (fun _ r hm _ => mainRx_modules hm r)
        (fun _ r hm _ => mainRx_quiet hm r) i.rx m.hb h (along_true mainRx m.hb i.rx) x hx
  · nofun

theorem shortPress_quiet (role : BoardRole) (m : Main) (i : LoopIn) :
    ∀ c ∈ (shortPress m i).2, c.Quiet role := by
  unfold shortPress
  rw [appButtonWasPressed_eq]
  simp only
  split
  · split
    · nofun
    · intro c hc
      obtain ⟨x, -, rfl⟩ := List.mem_map.mp hc
      exact ⟨rfl, fun _ => rfl⟩
  · nofun

/-- Outside RESET_IDLE the switch stays outside and does no more than reset. -/
theorem resetSwitch_armed (role : BoardRole) {m : Main} (h : m.resetState ≠ .idle) (i : LoopIn) :
    (resetSwitch m i).1.resetState ≠ .idle ∧ ∀ c ∈ (resetSwitch m i).2, c.Quiet role := by
  unfold resetSwitch
  split
  · next hs => exact absurd hs h
  · split
    · exact ⟨nofun, nofun⟩
    · exact ⟨h, nofun⟩
  · split
    · refine ⟨h, ?_⟩
      intro c hc
      obtain rfl := List.mem_singleton.mp hc
      exact ⟨rfl, fun _ => rfl⟩
    · exact ⟨h, nofun⟩

/-- An iteration outside RESET_IDLE stays outside, leaves LED0 alone and sends no heartbeat. -/
theorem mainLoop_quiet {role : BoardRole} {m : Main} (h : FreezeInv role m)
    (hs : m.resetState ≠ .idle) (i : LoopIn) :
    (mainLoop m i).1.resetState ≠ .idle ∧ ∀ c ∈ (mainLoop m i).2, c.Quiet role := by
  by_cases hd : m.resetDone = true
  · rw [mainLoop_done hd]
    exact ⟨hs, nofun⟩
  · have hp : (afterPress m i).resetState ≠ .idle := by rw [(afterPress_reset m i).1]; exact hs
    have hmod : HbModules role (role = .client) m.hb :=
      ⟨h.modules.udpRole, h.modules.ethRole, fun hc => h.modules.paused ⟨hc, hs⟩⟩
    obtain ⟨hsw, hq⟩ := resetSwitch_armed role hp i
    have hafter : (afterSwitch m i).resetState ≠ .idle := hsw
    rw [mainLoop_eq (by simpa using hd), heartbeatTask_armed hafter]
    refine ⟨hafter, ?_⟩
    intro c hc
    rw [List.append_nil] at hc
    rcases List.mem_append.mp hc with hc | hc
    · rcases List.mem_append.mp hc with hc | hc
      · exact t1sExecute_quiet hmod i c hc
      · exact shortPress_quiet role (afterTask m i) i c hc
    · exact hq c hc

/-- The iteration that arms the reset ends with LED0 on. -/
theorem mainLoop_arms {m : Main} (i : LoopIn) (hs : m.resetState = .idle)
    (ha : (mainLoop m i).1.resetState ≠ .idle) :
    ∃ cs, (mainLoop m i).2 = cs ++ [.hb .led0SetLow] := by
  by_cases hd : m.resetDone = true
  · rw [mainLoop_done hd] at ha
    exact absurd hs ha
  · rw [mainLoop_eq (by simpa using hd)] at ha ⊢
    have hafter : (afterSwitch m i).resetState ≠ .idle := by
      rw [heartbeatTask_frame] at ha
      exact ha
    rw [heartbeatTask_armed hafter, List.append_nil]
    refine ⟨(t1sExecute m i).2 ++ (shortPress (afterTask m i) i).2, ?_⟩
    unfold afterSwitch at hafter
    have hp : (afterPress m i).resetState = .idle := (afterPress_reset m i).1.trans hs
    unfold resetSwitch at hafter ⊢
    rw [hp] at hafter ⊢
    simp only at hafter ⊢
    split at hafter
    · next hl => rw [if_pos hl]
    · exact absurd rfl hafter

/-! ## Whole runs -/

theorem freezeInv_init (role : BoardRole) (boot : MainBoot) :
    FreezeInv role (mainInit role boot) :=
  ⟨rfl, rfl, rfl, fun h => absurd rfl h.2⟩

/-- **Armed reset freezes the LED.**  In every run of the main loop, on either board: the iteration
in which the reset state leaves RESET_IDLE has LED0 set on as its last call, and from then on no
call sets it, and the SERVER sends no heartbeat. -/
theorem reset_freezes_led (role : BoardRole) (boot : MainBoot) (pre : List LoopIn) (x : LoopIn)
    (post : List LoopIn) (hs : (exec mainLoop (mainInit role boot) pre).resetState = .idle)
    (ha : (exec mainLoop (mainInit role boot) (pre ++ [x])).resetState ≠ .idle) :
    (∃ cs, (mainLoop (exec mainLoop (mainInit role boot) pre) x).2 = cs ++ [.hb .led0SetLow]) ∧
    ∀ c ∈ emits mainLoop (exec mainLoop (mainInit role boot) (pre ++ [x])) post,
      c.led0 = none ∧ (role = .server → c.sendsHeartbeat = false) := by
  have hinv : FreezeInv role (exec mainLoop (mainInit role boot) (pre ++ [x])) :=
    exec_inv_all mainLoop (FreezeInv role) (fun _ i h => mainLoop_freeze h i) _ _
      (freezeInv_init role boot)
  constructor
  · rw [exec_append] at ha
    exact mainLoop_arms x hs ha
  · exact emits_forall mainLoop (fun _ _ => True) (fun m => FreezeInv role m ∧ m.resetState ≠ .idle)
      (MainCall.Quiet role) (fun _ i h _ => ⟨mainLoop_freeze h.1 i, (mainLoop_quiet h.1 h.2 i).1⟩)
      (fun _ i h _ => (mainLoop_quiet h.1 h.2 i).2) post _ ⟨hinv, ha⟩ (along_true mainLoop _ post)

/-- A heartbeat with LED state 0 over UDP, and one over raw Ethernet. -/
def darkFrames : List (RxItem × HbEnv) :=
  let env : HbEnv := ⟨3200000, ⟨true, .errOk, .errOk⟩, true⟩
  [(.udp (some [0]), env), (.raw (List.replicate 15 0) 15, env)]

/-- After the gesture's press, heartbeats come in on a CLIENT; none of them turns LED0 off. -/
theorem reset_freezes_led_client :
    (∃ cs, (mainLoop (exec mainLoop (mainInit .client serverBoot) (gestureRun.take 2))
      (.quiet true 3130)).2 = cs ++ [.hb .led0SetLow]) ∧
    ∀ c ∈ emits mainLoop (exec mainLoop (mainInit .client serverBoot) (gestureRun.take 3))
      [{ LoopIn.quiet false 3200 with rx := darkFrames }],
      c.led0 = none ∧ (BoardRole.client = .server → c.sendsHeartbeat = false) :=
  reset_freezes_led .client serverBoot (gestureRun.take 2) (.quiet true 3130)
    [{ LoopIn.quiet false 3200 with rx := darkFrames }] (by decide +kernel) (by decide +kernel)

end CuriosityT1S
