import CuriosityT1S.Heartbeat

/-!
# The server's heartbeat in the main loop (main.c)

`mainHeartbeat` is what one iteration of `main` does on the SERVER when the
heartbeat timeout has been reached: toggle the LED, send in the current mode,
and after ten exchanges clear both timestamps and change the mode.
-/

namespace CuriosityT1S

/-- `heartbeat_mode_t`; also which of the two transports something is on. -/
inductive HeartbeatMode
  | udp | rawEth
deriving DecidableEq, Repr

def hbExchangesPerMode : UInt32 := 10

/-- `led_state`, `hb_mode`, `hb_exchange_count` and the two modules they drive. -/
structure MainHb where
  ledState : UInt8
  hbMode : HeartbeatMode
  hbExchangeCount : UInt32
  udp : UdpHb
  eth : EthHb
deriving DecidableEq, Repr

def HeartbeatMode.other : HeartbeatMode → HeartbeatMode
  | .udp => .rawEth
  | .rawEth => .udp

/-- Send via the current mode. -/
def MainHb.send (m : MainHb) (nowUs : UInt64) (lw : LwipAnswer) (tc6 : Bool) :
    MainHb × List HbCall :=
  match m.hbMode with
  | .udp =>
    let (udp, calls) := heartbeatSend m.udp m.ledState nowUs lw
    ({ m with udp := udp }, calls)
  | .rawEth =>
    let (eth, calls) := ethHeartbeatSend m.eth m.ledState nowUs tc6
    ({ m with eth := eth }, calls)

/-- Count the exchange and switch mode after the threshold. -/
def MainHb.countExchange (m : MainHb) : MainHb :=
  let count := m.hbExchangeCount + 1
  if count ≥ hbExchangesPerMode then
    { m with hbExchangeCount := 0, udp := heartbeatResetRtt m.udp, eth := ethHeartbeatResetRtt m.eth,
             hbMode := m.hbMode.other }
  else { m with hbExchangeCount := count }

def mainHeartbeat (m : MainHb) (nowUs : UInt64) (lw : LwipAnswer) (tc6 : Bool) :
    MainHb × List HbCall :=
  let m := { m with ledState := m.ledState ^^^ 1 }
  let (m', calls) := m.send nowUs lw tc6
  (m'.countExchange, showLed false m.ledState ++ calls)

/-- The start of the main loop, after the two modules' initialisation. -/
def mainHbInit (udp : UdpHb) (eth : EthHb) : MainHb := ⟨0, .udp, 0, udp, eth⟩

/-- An iteration that sends leaves all but the counters, timestamps and frame of the modules. -/
theorem mainHeartbeat_frame (m : MainHb) (nowUs : UInt64) (lw : LwipAnswer) (tc6 : Bool) :
    ∃ rttU rttE txFrame,
      (mainHeartbeat m nowUs lw tc6).1.udp = { m.udp with rtt := rttU } ∧
      (mainHeartbeat m nowUs lw tc6).1.eth = { m.eth with rtt := rttE, txFrame := txFrame } := by
  unfold mainHeartbeat MainHb.send MainHb.countExchange
  cases m.hbMode with
  | udp =>
    simp only
    rw [heartbeatSend_frame]
    split <;> exact ⟨_, _, _, rfl, rfl⟩
  | rawEth =>
    simp only
    rw [ethHeartbeatSend_frame]
    split <;> exact ⟨_, _, _, rfl, rfl⟩

end CuriosityT1S
