import CuriosityT1S.App
import CuriosityT1S.Iperf
import CuriosityT1S.Lib.Mealy
import CuriosityT1S.MainLoop

/-!
# The main loop (main.c)

One iteration: `T1S_execute` with the iperf service and the frames received in
it, the button task, the short press, the reset switch, the heartbeat.  Each is
a function of its own on the state of `main` and the modules it drives
(`Main`); `mainLoop` is their sequence.  `LoopIn` has what an iteration is
answered; times in it are true milliseconds, the code sees them modulo 2^32.
-/

namespace CuriosityT1S

open Mealy

def longPressResetMs : UInt32 := 3000

def resetDelayMs : UInt32 := 1000

/-- `SYSTICK_TIMEOUT`. -/
structure SystickTimeout where
  start : UInt32
  count : UInt32
deriving DecidableEq, Repr

def sysTickStartTimeOut (now delayMs : UInt32) : SystickTimeout := ⟨now, delayMs⟩

def sysTickResetTimeOut (t : SystickTimeout) (now : UInt32) : SystickTimeout :=
  { t with start := now }

def sysTickIsTimeoutReached (t : SystickTimeout) (now : UInt32) : Bool := now - t.start ≥ t.count

/-- `reset_state_t`. -/
inductive ResetState
  | idle | waitingRelease | countdown
deriving DecidableEq, Repr

/-- `available` is `T1S_available`, decided by `T1S_init`; `resetDone` is whether the reset
instruction has been executed, after which nothing is. -/
structure Main where
  role : BoardRole
  available : Bool
  btn : AppBtn
  iperf : Iperf
  iperfRunning : Bool
  resetState : ResetState
  resetReleaseTime : UInt32
  ledToggle : SystickTimeout
  hb : MainHb
  resetDone : Bool
deriving DecidableEq, Repr

inductive MainCall
  | hb (c : HbCall)
  | iperf (c : IperfCall)
  | softwareReset
deriving DecidableEq, Repr

/-- A received message that a heartbeat module is handed. -/
inductive RxItem
  | udp (p : Option (List UInt8))
  | raw (pFrame : List UInt8) (len : UInt16)
deriving DecidableEq, Repr

/-- An ACK on a transport, as the CLIENT sends it. -/
def RxItem.isAck : HeartbeatMode → RxItem → Bool
  | .udp, .udp (some p) => p == [heartbeatAckByte]
  | .rawEth, .raw pFrame len =>
    !(len < ethHbFrameSize) && pFrame.getD ethHbHdrSize 0 == ethHbAckByte
  | _, _ => false

/-- What a heartbeat module is answered in one call. -/
structure HbEnv where
  nowUs : UInt64
  lw : LwipAnswer
  tc6 : Bool
deriving DecidableEq, Repr

structure LoopIn where
  serviceMs : Nat
  serviceTransferMs : Nat
  serviceSend : IperfSend
  rx : List (RxItem × HbEnv)
  raw : Bool
  taskMs : Nat
  startMs : Nat
  statsMs : Nat
  startTransferMs : Nat
  startSend : IperfSend
  longMs : Nat
  resetMs : Nat
  timeoutMs : Nat
  hbEnv : HbEnv
  rearmMs : Nat
deriving DecidableEq, Repr

/-! ## The parts of an iteration -/

/-- A received message goes to the module it is for. -/
def mainRx (hb : MainHb) (r : RxItem × HbEnv) : MainHb × List HbCall :=
  match r.1 with
  | .udp p =>
    let (udp, calls) := heartbeatRecvCb hb.udp p r.2.nowUs r.2.lw
    ({ hb with udp := udp }, calls)
  | .raw pFrame len =>
    let (eth, calls) := ethHeartbeatRxHandler hb.eth pFrame len r.2.nowUs r.2.tc6
    ({ hb with eth := eth }, calls)

/-- The messages an iteration handles. -/
def handled (m : Main) (i : LoopIn) : List (RxItem × HbEnv) :=
  if m.resetDone = false ∧ m.available = true then i.rx else []

/-- `T1S_execute`: the iperf service, then the received messages. -/
def t1sExecute (m : Main) (i : LoopIn) : Main × List MainCall :=
  if m.available then
    let (iperf, c1) := iperfService m.iperf (UInt32.ofNat i.serviceMs)
      (UInt32.ofNat i.serviceTransferMs) i.serviceSend
    ({ m with iperf := iperf, hb := exec mainRx m.hb i.rx },
      c1.map .iperf ++ (emits mainRx m.hb i.rx).map .hb)
  else (m, [])

def appButtonsTask (m : Main) (i : LoopIn) : Main :=
  { m with btn := debounceButton m.btn i.raw (UInt32.ofNat i.taskMs) }

/-- `heartbeat_set_paused` and `eth_heartbeat_set_paused`. -/
def MainHb.setPaused (hb : MainHb) (paused : Bool) : MainHb :=
  { hb with udp := heartbeatSetPaused hb.udp paused, eth := ethHeartbeatSetPaused hb.eth paused }

/-- Short press: toggle iperf.  The press is consumed in either role. -/
def shortPress (m : Main) (i : LoopIn) : Main × List MainCall :=
  let (btn, was) := appButtonWasPressed m.btn
  let m := { m with btn := btn }
  if was && m.role = .server then
    if m.iperfRunning then
      ({ m with iperf := iperfStopApplication m.iperf, hb := m.hb.setPaused false,
                iperfRunning := false }, [])
    else
      let (iperf, calls) := iperfStartApplication m.iperf (UInt32.ofNat i.startMs)
        (UInt32.ofNat i.statsMs) (UInt32.ofNat i.startTransferMs) i.startSend
      ({ m with iperf := iperf, hb := m.hb.setPaused true, iperfRunning := true },
        calls.map .iperf)
  else (m, [])

/-- The reset state machine. -/
def resetSwitch (m : Main) (i : LoopIn) : Main × List MainCall :=
  match m.resetState with
  | .idle =>
    let (btn, long) := appButtonLongPress m.btn longPressResetMs (UInt32.ofNat i.longMs)
    let m := { m with btn := btn }
    if long then
      ({ m with resetState := .waitingRelease,
                hb := { m.hb.setPaused true with ledState := 1 } }, [.hb .led0SetLow])
    else (m, [])
  | .waitingRelease =>
    if !appButtonIsPressed m.btn then
      ({ m with resetState := .countdown, resetReleaseTime := UInt32.ofNat i.resetMs }, [])
    else (m, [])
  | .countdown =>
    if UInt32.ofNat i.resetMs - m.resetReleaseTime ≥ resetDelayMs then
      ({ m with resetDone := true }, [.softwareReset])
    else (m, [])

/-- The server's heartbeat, suspended during iperf and the reset sequence. -/
def heartbeatTask (m : Main) (i : LoopIn) : Main × List MainCall :=
  if m.role = .server ∧ m.resetState = .idle ∧ !m.iperfRunning then
    if sysTickIsTimeoutReached m.ledToggle (UInt32.ofNat i.timeoutMs) then
      let (hb, calls) := mainHeartbeat m.hb i.hbEnv.nowUs i.hbEnv.lw i.hbEnv.tc6
      ({ m with hb := hb,
                ledToggle := sysTickResetTimeOut m.ledToggle (UInt32.ofNat i.rearmMs) },
        calls.map .hb)
    else (m, [])
  else (m, [])

/-- The state after the button task. -/
def afterTask (m : Main) (i : LoopIn) : Main := appButtonsTask (t1sExecute m i).1 i

def afterPress (m : Main) (i : LoopIn) : Main := (shortPress (afterTask m i) i).1

def afterSwitch (m : Main) (i : LoopIn) : Main := (resetSwitch (afterPress m i) i).1

def mainLoop (m : Main) (i : LoopIn) : Main × List MainCall :=
  if m.resetDone then (m, [])
  else
    ((heartbeatTask (afterSwitch m i) i).1,
      (t1sExecute m i).2 ++ (shortPress (afterTask m i) i).2 ++ (resetSwitch (afterPress m i) i).2 ++
        (heartbeatTask (afterSwitch m i) i).2)

/-- What the initialisation of a board meets. -/
structure MainBoot where
  available : Bool
  udpNew : Bool
  udpBind : ErrT
  mac : Option (Vector UInt8 6)
  nowMs : Nat
deriving DecidableEq, Repr

/-- Everything is there, at time 0. -/
def serverBoot : MainBoot := ⟨true, true, .errOk, none, 0⟩

/-- At the start of the loop.  The timeout is started on the SERVER. -/
def mainInit (role : BoardRole) (boot : MainBoot) : Main where
  role := role
  available := boot.available
  btn := appButtonsInit
  iperf := .zero
  iperfRunning := false
  resetState := .idle
  resetReleaseTime := 0
  ledToggle := match role with
    | .server => sysTickStartTimeOut (UInt32.ofNat boot.nowMs) 500
    | .client => ⟨0, 0⟩
  hb := mainHbInit (heartbeatInit .zero role boot.udpNew boot.udpBind)
    (ethHeartbeatInit .zero role boot.mac)
  resetDone := false

/-- An iteration at one moment in which nothing is received and nothing can be sent. -/
def LoopIn.quiet (raw : Bool) (ms : Nat) : LoopIn :=
  let answer : LwipAnswer := ⟨false, .errOk, .errOk⟩
  let send : IperfSend := ⟨true, answer, UInt32.ofNat ms⟩
  ⟨ms, ms, send, [], raw, ms, ms, ms, ms, send, ms, ms, ms,
    ⟨UInt64.ofNat (1000 * ms), answer, false⟩, ms⟩

theorem mainLoop_done {m : Main} (h : m.resetDone = true) (i : LoopIn) :
    mainLoop m i = (m, []) := by
  unfold mainLoop
  rw [if_pos h]

theorem mainLoop_eq {m : Main} (h : m.resetDone = false) (i : LoopIn) :
    mainLoop m i = ((heartbeatTask (afterSwitch m i) i).1,
      (t1sExecute m i).2 ++ (shortPress (afterTask m i) i).2 ++ (resetSwitch (afterPress m i) i).2 ++
        (heartbeatTask (afterSwitch m i) i).2) := by
  unfold mainLoop
  rw [if_neg (by simp [h])]

/-! ## What the parts leave alone -/

theorem t1sExecute_frame (m : Main) (i : LoopIn) :
    (t1sExecute m i).1 =
      { m with iperf := (t1sExecute m i).1.iperf, hb := (t1sExecute m i).1.hb } := by
  unfold t1sExecute
  split <;> rfl

theorem t1sExecute_iperf (m : Main) (i : LoopIn) :
    (t1sExecute m i).1.iperf =
      if m.available then
        (iperfService m.iperf (UInt32.ofNat i.serviceMs) (UInt32.ofNat i.serviceTransferMs)
          i.serviceSend).1
      else m.iperf := by
  unfold t1sExecute
  split <;> rfl

/-- The messages are handled if the interface is there. -/
theorem t1sExecute_hb (m : Main) (i : LoopIn) :
    (t1sExecute m i).1.hb = if m.available then exec mainRx m.hb i.rx else m.hb := by
  unfold t1sExecute
  split <;> rfl

theorem t1sExecute_handled {m : Main} (h : m.resetDone = false) (i : LoopIn) :
    (t1sExecute m i).1.hb = exec mainRx m.hb (handled m i) ∧
      ∃ cs : List IperfCall,
        (t1sExecute m i).2 = cs.map .iperf ++ (emits mainRx m.hb (handled m i)).map .hb := by
  unfold t1sExecute handled
  by_cases ha : m.available = true
  · rw [if_pos ha, if_pos ⟨h, ha⟩]
    exact ⟨rfl, _, rfl⟩
  · rw [if_neg ha, if_neg fun hc => ha hc.2]
    exact ⟨rfl, [], rfl⟩

theorem appButtonWasPressed_eq (btn : AppBtn) :
    appButtonWasPressed btn = ({ btn with wasPressed := false }, btn.wasPressed) :=
  Prod.ext (appButtonWasPressed_fst btn) (appButtonWasPressed_snd btn)

theorem shortPress_frame (m : Main) (i : LoopIn) :
    (shortPress m i).1 =
      { m with btn := { m.btn with wasPressed := false }, iperf := (shortPress m i).1.iperf,
               iperfRunning := (shortPress m i).1.iperfRunning, hb := (shortPress m i).1.hb } := by
  unfold shortPress
  rw [appButtonWasPressed_eq]
  simp only
  split
  · split <;> rfl
  · rfl

theorem resetSwitch_frame (m : Main) (i : LoopIn) :
    (resetSwitch m i).1 =
      { m with btn := (resetSwitch m i).1.btn, resetState := (resetSwitch m i).1.resetState,
               resetReleaseTime := (resetSwitch m i).1.resetReleaseTime,
               hb := (resetSwitch m i).1.hb, resetDone := (resetSwitch m i).1.resetDone } := by
  unfold resetSwitch
  split
  · simp only
    split <;> rfl
  · split <;> rfl
  · split <;> rfl

theorem heartbeatTask_frame (m : Main) (i : LoopIn) :
    (heartbeatTask m i).1 =
      { m with hb := (heartbeatTask m i).1.hb, ledToggle := (heartbeatTask m i).1.ledToggle } := by
  unfold heartbeatTask
  split
  · split <;> rfl
  · rfl

theorem afterTask_frame (m : Main) (i : LoopIn) :
    afterTask m i = { m with btn := debounceButton m.btn i.raw (UInt32.ofNat i.taskMs),
                             iperf := (t1sExecute m i).1.iperf, hb := (t1sExecute m i).1.hb } := by
  unfold afterTask appButtonsTask
  rw [t1sExecute_frame]

theorem afterSwitch_role (m : Main) (i : LoopIn) : (afterSwitch m i).role = m.role := by
  unfold afterSwitch
  rw [resetSwitch_frame]
  unfold afterPress
  rw [shortPress_frame, afterTask_frame]

/-! ## What the button code does to the heartbeat -/

/-- Other values in all that the button code writes. -/
def MainHb.withFlags (hb : MainHb) (ledState : UInt8) (udpPaused ethPaused : Bool) : MainHb :=
  { hb with ledState := ledState, udp := { hb.udp with paused := udpPaused },
            eth := { hb.eth with paused := ethPaused } }

theorem shortPress_hb (m : Main) (i : LoopIn) :
    ∃ p q, (shortPress m i).1.hb = m.hb.withFlags m.hb.ledState p q := by
  unfold shortPress
  rw [appButtonWasPressed_eq]
  simp only
  split
  · split <;> exact ⟨_, _, rfl⟩
  · exact ⟨m.hb.udp.paused, m.hb.eth.paused, rfl⟩

theorem resetSwitch_hb (m : Main) (i : LoopIn) :
    ∃ l p q, (resetSwitch m i).1.hb = m.hb.withFlags l p q := by
  have hsame : ∃ l p q, m.hb = m.hb.withFlags l p q :=
    ⟨m.hb.ledState, m.hb.udp.paused, m.hb.eth.paused, rfl⟩
  unfold resetSwitch
  split
  · simp only
    split
    · exact ⟨_, _, _, rfl⟩
    · exact hsame
  · split <;> exact hsame
  · split <;> exact hsame

theorem afterSwitch_hb (m : Main) (i : LoopIn) :
    ∃ l p q, (afterSwitch m i).hb = (t1sExecute m i).1.hb.withFlags l p q := by
  obtain ⟨l, p, q, hsw⟩ := resetSwitch_hb (afterPress m i) i
  obtain ⟨p', q', hpr⟩ := shortPress_hb (afterTask m i) i
  refine ⟨l, p, q, hsw.trans ?_⟩
  unfold afterPress
  rw [hpr]
  rfl

/-! ## When a heartbeat is sent -/

/-- The test before the heartbeat. -/
def HeartbeatDue (m : Main) (i : LoopIn) : Prop :=
  (m.role = .server ∧ m.resetState = .idle ∧ !m.iperfRunning) ∧
    sysTickIsTimeoutReached m.ledToggle (UInt32.ofNat i.timeoutMs) = true

instance (m : Main) (i : LoopIn) : Decidable (HeartbeatDue m i) := by
  unfold HeartbeatDue
  infer_instance

theorem heartbeatTask_due {m : Main} {i : LoopIn} (h : HeartbeatDue m i) :
    (heartbeatTask m i).1.hb = (mainHeartbeat m.hb i.hbEnv.nowUs i.hbEnv.lw i.hbEnv.tc6).1 ∧
      (heartbeatTask m i).2 =
        (mainHeartbeat m.hb i.hbEnv.nowUs i.hbEnv.lw i.hbEnv.tc6).2.map .hb := by
  unfold heartbeatTask
  rw [if_pos h.1, if_pos h.2]
  exact ⟨rfl, rfl⟩

theorem heartbeatTask_notDue {m : Main} {i : LoopIn} (h : ¬ HeartbeatDue m i) :
    heartbeatTask m i = (m, []) := by
  unfold heartbeatTask
  split
  · next hc =>
    rw [if_neg fun ht => h ⟨hc, ht⟩]
  · rfl

/-- The iteration gets to sending a heartbeat. -/
def AboutToSend (m : Main) (i : LoopIn) : Prop :=
  m.resetDone = false ∧ HeartbeatDue (afterSwitch m i) i

instance (m : Main) (i : LoopIn) : Decidable (AboutToSend m i) := by
  unfold AboutToSend
  infer_instance

end CuriosityT1S
