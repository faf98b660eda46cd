import CuriosityT1S.Tc6Lwip

/-!
# The two heartbeat modules (udp_heartbeat.c, eth_heartbeat.c)

The server sends its LED state, the client shows it and answers with one ACK
byte, the server takes the time in between as RTT.  One module does so over
UDP, the other with raw Ethernet frames.  Each function takes the module's
state and what its environment answers (the clock, `pbuf_alloc`, `pbuf_take`,
`udp_sendto`, `TC6LwIP_GetTC6`) and gives the new state and the calls it makes
(`HbCall`).  `udpHbStep` and `ethHbStep` run one call of a module.
-/

namespace CuriosityT1S

/-! ## What the modules share -/

inductive BoardRole
  | server | client
deriving DecidableEq, Repr

/-- `eth_heartbeat_stats_t`, and `heartbeat_stats_t` without its unused field `missed`. -/
structure HbStats where
  txCount : UInt32
  rxCount : UInt32
  lastRttUs : UInt32
  avgRttUs : UInt32
deriving DecidableEq, Repr

def HbStats.zero : HbStats := ⟨0, 0, 0, 0⟩

/-- `m_send_timestamp_us` and the statistics of one module. -/
structure Rtt where
  sendTimestampUs : UInt64
  stats : HbStats
deriving DecidableEq, Repr

/-- Calls out of a heartbeat module.  `tc6SendRawEthernetPacket` passes `m_tx_frame` by
reference, with no callback. -/
inductive HbCall
  | led0SetLow
  | led0SetHigh
  | udpSendto (payload : List UInt8)
  | pbufFreeTx
  | pbufFreeRx
  | tc6SendRawEthernetPacket (len : UInt16)
  | report (txCount rxCount rttUs avgRttUs : UInt32)
deriving DecidableEq, Repr

/-- Exponential moving average, restarted at 0. -/
def nextAvg (avg rttUs : UInt32) : UInt32 :=
  if avg == 0 then rttUs else (avg * 7 + rttUs) / 8

def HbStats.record (s : HbStats) (rttUs : UInt32) : HbStats :=
  { s with lastRttUs := rttUs, avgRttUs := nextAvg s.avgRttUs rttUs, rxCount := s.rxCount + 1 }

/-- The server's half of both receive functions: stale unless a send armed the timestamp. -/
def Rtt.onAck (r : Rtt) (nowUs : UInt64) : Rtt × List HbCall :=
  if r.sendTimestampUs == 0 then (r, [])
  else
    let rttUs := (nowUs - r.sendTimestampUs).toUInt32
    let stats := r.stats.record rttUs
    (⟨0, stats⟩, [.report stats.txCount stats.rxCount rttUs stats.avgRttUs])

/-- The client's half: the LED follows the payload unless paused.  Active low. -/
def showLed (paused : Bool) (ledState : UInt8) : List HbCall :=
  if paused then [] else if ledState ≠ 0 then [.led0SetLow] else [.led0SetHigh]

def Rtt.countTx (r : Rtt) : Rtt := { r with stats := { r.stats with txCount := r.stats.txCount + 1 } }

def Rtt.countRx (r : Rtt) : Rtt := { r with stats := { r.stats with rxCount := r.stats.rxCount + 1 } }

/-! ## UDP (udp_heartbeat.c) -/

def heartbeatPktSize : Nat := 1

def heartbeatAckByte : UInt8 := 0xAC

def heartbeatAckSize : Nat := 1

/-- `pcb` is whether `m_pcb` is set. -/
structure UdpHb where
  role : BoardRole
  pcb : Bool
  paused : Bool
  rtt : Rtt
deriving DecidableEq, Repr

/-- What lwIP answers a module that sends: whether there is a pbuf, and the two results. -/
structure LwipAnswer where
  pbufAlloc : Bool
  pbufTake : ErrT
  udpSendto : ErrT
deriving DecidableEq, Repr

/-- The static data before `main`. -/
def UdpHb.zero : UdpHb := ⟨.server, false, false, 0, .zero⟩

def heartbeatInit (h : UdpHb) (role : BoardRole) (udpNew : Bool) (udpBind : ErrT) : UdpHb :=
  { h with role := role, rtt := { h.rtt with stats := .zero }, pcb := udpNew && udpBind = .errOk }

def heartbeatSend (h : UdpHb) (ledState : UInt8) (nowUs : UInt64) (lw : LwipAnswer) :
    UdpHb × List HbCall :=
  if !h.pcb then (h, [])
  else if h.role ≠ .server then (h, [])
  else
    let h := { h with rtt := { h.rtt with sendTimestampUs := nowUs } }
    if lw.pbufAlloc then
      if lw.pbufTake = .errOk then
        (if lw.udpSendto = .errOk then { h with rtt := h.rtt.countTx } else h,
          [.udpSendto [ledState], .pbufFreeTx])
      else (h, [.pbufFreeTx])
    else (h, [])

/-- `p` is the received packet's bytes, or NULL. -/
def heartbeatRecvCb (h : UdpHb) (p : Option (List UInt8)) (nowUs : UInt64) (lw : LwipAnswer) :
    UdpHb × List HbCall :=
  match p with
  | none => (h, [])
  | some p =>
    match h.role with
    | .client =>
      if p.length ≥ heartbeatPktSize then
        let led := showLed h.paused (p.getD 0 0)
        let h := { h with rtt := h.rtt.countRx }
        if lw.pbufAlloc then
          if lw.pbufTake = .errOk then
            ({ h with rtt := h.rtt.countTx },
              led ++ [.udpSendto [heartbeatAckByte], .pbufFreeTx, .pbufFreeRx])
          else (h, led ++ [.pbufFreeTx, .pbufFreeRx])
        else (h, led ++ [.pbufFreeRx])
      else (h, [.pbufFreeRx])
    | .server =>
      if p.length ≥ heartbeatAckSize then
        let (rtt, calls) := h.rtt.onAck nowUs
        ({ h with rtt := rtt }, calls ++ [.pbufFreeRx])
      else (h, [.pbufFreeRx])

def heartbeatSetPaused (h : UdpHb) (paused : Bool) : UdpHb := { h with paused := paused }

def heartbeatResetRtt (h : UdpHb) : UdpHb :=
  { h with rtt := { h.rtt with sendTimestampUs := 0 } }

/-- The calls of the UDP module. -/
inductive UdpHbEvent
  | send (ledState : UInt8) (nowUs : UInt64) (lw : LwipAnswer)
  | recv (p : Option (List UInt8)) (nowUs : UInt64) (lw : LwipAnswer)
  | setPaused (paused : Bool)
  | resetRtt
deriving DecidableEq, Repr

def udpHbStep (h : UdpHb) : UdpHbEvent → UdpHb × List HbCall
  | .send ledState nowUs lw => heartbeatSend h ledState nowUs lw
  | .recv p nowUs lw => heartbeatRecvCb h p nowUs lw
  | .setPaused paused => (heartbeatSetPaused h paused, [])
  | .resetRtt => (heartbeatResetRtt h, [])

/-! ## Raw Ethernet (eth_heartbeat.c) -/

def ethHbEthertype : UInt16 := 0x88B5

def ethHbAckByte : UInt8 := 0xAC

def ethHbHdrSize : Nat := 14

def ethHbFrameSize : UInt16 := 15

def broadcastMac : List UInt8 := List.replicate 6 0xFF

/-- `txFrame` is `m_tx_frame`, the one buffer all sends use. -/
structure EthHb where
  role : BoardRole
  initialized : Bool
  paused : Bool
  ourMac : Vector UInt8 6
  txFrame : List UInt8
  tc6Idx : Int
  rtt : Rtt
deriving DecidableEq, Repr

/-- The static data before `main`. -/
def EthHb.zero : EthHb :=
  ⟨.server, false, false, Vector.replicate 6 0, List.replicate 15 0, -1, 0, .zero⟩

/-- `mac` is what `TC6LwIP_GetMac` gives. -/
def ethHeartbeatInit (h : EthHb) (role : BoardRole) (mac : Option (Vector UInt8 6)) : EthHb :=
  { h with role := role, rtt := { h.rtt with stats := .zero }, tc6Idx := 0,
           ourMac := mac.getD h.ourMac, initialized := true }

/-- `tc6` is whether `TC6LwIP_GetTC6` gives an instance. -/
def ethHbSendFrame (h : EthHb) (payload : UInt8) (tc6 : Bool) : EthHb × List HbCall :=
  if !tc6LwipGetNetIf h.tc6Idx then (h, [])
  else
    ({ h with txFrame := broadcastMac ++ h.ourMac.toList ++
        [(ethHbEthertype >>> 8).toUInt8, (ethHbEthertype &&& 0xFF).toUInt8, payload] },
      if tc6 then [.tc6SendRawEthernetPacket ethHbFrameSize] else [])

def ethHeartbeatSend (h : EthHb) (ledState : UInt8) (nowUs : UInt64) (tc6 : Bool) :
    EthHb × List HbCall :=
  if !h.initialized then (h, [])
  else if h.role ≠ .server then (h, [])
  else
    let h := { h with rtt := { h.rtt with sendTimestampUs := nowUs } }
    let (h, calls) := ethHbSendFrame h ledState tc6
    ({ h with rtt := h.rtt.countTx }, calls)

def ethHeartbeatRxHandler (h : EthHb) (pFrame : List UInt8) (len : UInt16) (nowUs : UInt64)
    (tc6 : Bool) : EthHb × List HbCall :=
  if !h.initialized then (h, [])
  else if len < ethHbFrameSize then (h, [])
  else
    match h.role with
    | .client =>
      let led := showLed h.paused (pFrame.getD ethHbHdrSize 0)
      let h := { h with rtt := h.rtt.countRx }
      let (h, calls) := ethHbSendFrame h ethHbAckByte tc6
      ({ h with rtt := h.rtt.countTx }, led ++ calls)
    | .server =>
      let (rtt, calls) := h.rtt.onAck nowUs
      ({ h with rtt := rtt }, calls)

def ethHeartbeatSetPaused (h : EthHb) (paused : Bool) : EthHb := { h with paused := paused }

def ethHeartbeatResetRtt (h : EthHb) : EthHb :=
  { h with rtt := { h.rtt with sendTimestampUs := 0 } }

/-- The calls of the raw Ethernet module. -/
inductive EthHbEvent
  | send (ledState : UInt8) (nowUs : UInt64) (tc6 : Bool)
  | rx (pFrame : List UInt8) (len : UInt16) (nowUs : UInt64) (tc6 : Bool)
  | setPaused (paused : Bool)
  | resetRtt
deriving DecidableEq, Repr

def ethHbStep (h : EthHb) : EthHbEvent → EthHb × List HbCall
  | .send ledState nowUs tc6 => ethHeartbeatSend h ledState nowUs tc6
  | .rx pFrame len nowUs tc6 => ethHeartbeatRxHandler h pFrame len nowUs tc6
  | .setPaused paused => (ethHeartbeatSetPaused h paused, [])
  | .resetRtt => (ethHeartbeatResetRtt h, [])

/-! ## What the functions leave alone -/

theorem heartbeatSend_frame (h : UdpHb) (ledState : UInt8) (nowUs : UInt64) (lw : LwipAnswer) :
    (heartbeatSend h ledState nowUs lw).1 =
      { h with rtt := (heartbeatSend h ledState nowUs lw).1.rtt } := by
  unfold heartbeatSend
  repeat' split
  all_goals rfl

theorem heartbeatRecvCb_frame (h : UdpHb) (p : Option (List UInt8)) (nowUs : UInt64)
    (lw : LwipAnswer) :
    (heartbeatRecvCb h p nowUs lw).1 = { h with rtt := (heartbeatRecvCb h p nowUs lw).1.rtt } := by
  unfold heartbeatRecvCb
  repeat' split
  all_goals rfl

theorem ethHbSendFrame_frame (h : EthHb) (payload : UInt8) (tc6 : Bool) :
    (ethHbSendFrame h payload tc6).1 =
      { h with txFrame := (ethHbSendFrame h payload tc6).1.txFrame } := by
  unfold ethHbSendFrame
  split <;> rfl

theorem ethHeartbeatSend_frame (h : EthHb) (ledState : UInt8) (nowUs : UInt64) (tc6 : Bool) :
    (ethHeartbeatSend h ledState nowUs tc6).1 =
      { h with txFrame := (ethHeartbeatSend h ledState nowUs tc6).1.txFrame,
               rtt := (ethHeartbeatSend h ledState nowUs tc6).1.rtt } := by
  unfold ethHeartbeatSend
  split
  · rfl
  · split
    · rfl
    · simp only
      rw [ethHbSendFrame_frame]

theorem ethHeartbeatRxHandler_frame (h : EthHb) (pFrame : List UInt8) (len : UInt16)
    (nowUs : UInt64) (tc6 : Bool) :
    (ethHeartbeatRxHandler h pFrame len nowUs tc6).1 =
      { h with txFrame := (ethHeartbeatRxHandler h pFrame len nowUs tc6).1.txFrame,
               rtt := (ethHeartbeatRxHandler h pFrame len nowUs tc6).1.rtt } := by
  unfold ethHeartbeatRxHandler
  split
  · rfl
  · split
    · rfl
    · split
      · simp only
        rw [ethHbSendFrame_frame]
      · rfl

/-- A server that sends, or gets no further than to note the time. -/
theorem heartbeatSend_cases (h : UdpHb) (ledState : UInt8) (nowUs : UInt64) (lw : LwipAnswer) :
    ((h.pcb = true ∧ h.role = .server ∧ lw.pbufAlloc = true ∧ lw.pbufTake = .errOk) ∧
      heartbeatSend h ledState nowUs lw =
        ({ h with rtt := if lw.udpSendto = .errOk then Rtt.countTx ⟨nowUs, h.rtt.stats⟩
            else ⟨nowUs, h.rtt.stats⟩ }, [.udpSendto [ledState], .pbufFreeTx])) ∨
    (¬ (h.pcb = true ∧ h.role = .server ∧ lw.pbufAlloc = true ∧ lw.pbufTake = .errOk) ∧
      ∃ ts frees, (∀ c ∈ frees, c = HbCall.pbufFreeTx) ∧
        heartbeatSend h ledState nowUs lw = ({ h with rtt := ⟨ts, h.rtt.stats⟩ }, frees)) := by
  have hsame : ∀ c ∈ ([] : List HbCall), c = HbCall.pbufFreeTx := by simp
  unfold heartbeatSend
  by_cases hpcb : h.pcb = true
  · rw [if_neg (by simp [hpcb])]
    by_cases hrole : h.role = .server
    · rw [if_neg (by simp [hrole])]
      simp only
      by_cases halloc : lw.pbufAlloc = true
      · rw [if_pos halloc]
        by_cases htake : lw.pbufTake = .errOk
        · rw [if_pos htake]
          refine Or.inl ⟨⟨hpcb, hrole, halloc, htake⟩, ?_⟩
          split <;> rfl
        · rw [if_neg htake]
          exact Or.inr ⟨fun hc => htake hc.2.2.2, nowUs, [.pbufFreeTx], by simp, rfl⟩
      · rw [if_neg halloc]
        exact Or.inr ⟨fun hc => halloc hc.2.2.1, nowUs, [], hsame, rfl⟩
    · rw [if_pos hrole]
      exact Or.inr ⟨fun hc => hrole hc.2.1, h.rtt.sendTimestampUs, [], hsame, rfl⟩
  · rw [if_pos (by simpa using hpcb)]
    exact Or.inr ⟨fun hc => hpcb hc.1, h.rtt.sendTimestampUs, [], hsame, rfl⟩

/-! ## The server's receive functions -/

theorem heartbeatRecvCb_server (h : UdpHb) (hs : h.role = .server) (p : List UInt8)
    (nowUs : UInt64) (lw : LwipAnswer) :
    heartbeatRecvCb h (some p) nowUs lw =
      if p.length ≥ heartbeatAckSize then
        ({ h with rtt := (h.rtt.onAck nowUs).1 }, (h.rtt.onAck nowUs).2 ++ [.pbufFreeRx])
      else (h, [.pbufFreeRx]) := by
  unfold heartbeatRecvCb
  rw [hs]

theorem ethHeartbeatRxHandler_server (h : EthHb) (hs : h.role = .server)
    (hi : h.initialized = true) (pFrame : List UInt8) (len : UInt16) (nowUs : UInt64)
    (tc6 : Bool) :
    ethHeartbeatRxHandler h pFrame len nowUs tc6 =
      if len < ethHbFrameSize then (h, [])
      else ({ h with rtt := (h.rtt.onAck nowUs).1 }, (h.rtt.onAck nowUs).2) := by
  unfold ethHeartbeatRxHandler
  rw [hs, if_neg (by simp [hi])]

/-! ## The client's receive functions -/

theorem heartbeatRecvCb_client (h : UdpHb) (hs : h.role = .client) (p : List UInt8)
    (nowUs : UInt64) (lw : LwipAnswer) :
    heartbeatRecvCb h (some p) nowUs lw =
      if p.length ≥ heartbeatPktSize then
        if lw.pbufAlloc then
          if lw.pbufTake = .errOk then
            ({ h with rtt := h.rtt.countRx.countTx }, showLed h.paused (p.getD 0 0) ++
              [.udpSendto [heartbeatAckByte], .pbufFreeTx, .pbufFreeRx])
          else ({ h with rtt := h.rtt.countRx },
            showLed h.paused (p.getD 0 0) ++ [.pbufFreeTx, .pbufFreeRx])
        else ({ h with rtt := h.rtt.countRx }, showLed h.paused (p.getD 0 0) ++ [.pbufFreeRx])
      else (h, [.pbufFreeRx]) := by
  unfold heartbeatRecvCb
  rw [hs]

/-- A client that answers, or only shows the heartbeat and frees what it has, or drops it. -/
theorem heartbeatRecvCb_client_cases (h : UdpHb) (hs : h.role = .client) (p : List UInt8)
    (nowUs : UInt64) (lw : LwipAnswer) :
    (p.length ≥ heartbeatPktSize ∧ lw.pbufAlloc = true ∧ lw.pbufTake = .errOk ∧
      heartbeatRecvCb h (some p) nowUs lw = ({ h with rtt := h.rtt.countRx.countTx },
        showLed h.paused (p.getD 0 0) ++
          [.udpSendto [heartbeatAckByte], .pbufFreeTx, .pbufFreeRx])) ∨
    (¬ (p.length ≥ heartbeatPktSize ∧ lw.pbufAlloc = true ∧ lw.pbufTake = .errOk) ∧
      ∃ led frees rtt, (led = [] ∨ led = showLed h.paused (p.getD 0 0)) ∧
        (∀ c ∈ frees, c = HbCall.pbufFreeTx ∨ c = HbCall.pbufFreeRx) ∧
        (rtt = h.rtt ∨ rtt = h.rtt.countRx) ∧
        heartbeatRecvCb h (some p) nowUs lw = ({ h with rtt := rtt }, led ++ frees)) := by
  rw [heartbeatRecvCb_client h hs]
  by_cases hlen : p.length ≥ heartbeatPktSize
  · rw [if_pos hlen]
    by_cases halloc : lw.pbufAlloc = true
    · rw [if_pos halloc]
      by_cases htake : lw.pbufTake = .errOk
      · rw [if_pos htake]
        exact Or.inl ⟨hlen, halloc, htake, rfl⟩
      · rw [if_neg htake]
        refine Or.inr ⟨fun hc => htake hc.2.2, _, _, _, Or.inr rfl, ?_, Or.inr rfl, rfl⟩
        simp
    · rw [if_neg halloc]
      refine Or.inr ⟨fun hc => halloc hc.2.1, _, _, _, Or.inr rfl, ?_, Or.inr rfl, rfl⟩
      simp
  · rw [if_neg hlen]
    refine Or.inr ⟨fun hc => hlen hc.1, [], [.pbufFreeRx], h.rtt, Or.inl rfl, ?_, Or.inl rfl, rfl⟩
    simp

theorem ethHeartbeatRxHandler_client (h : EthHb) (hs : h.role = .client)
    (hi : h.initialized = true) (pFrame : List UInt8) (len : UInt16) (nowUs : UInt64)
    (tc6 : Bool) :
    ethHeartbeatRxHandler h pFrame len nowUs tc6 =
      if len < ethHbFrameSize then (h, [])
      else
        let r := ethHbSendFrame { h with rtt := h.rtt.countRx } ethHbAckByte tc6
        ({ r.1 with rtt := r.1.rtt.countTx },
          showLed h.paused (pFrame.getD ethHbHdrSize 0) ++ r.2) := by
  unfold ethHeartbeatRxHandler
  rw [if_neg (by simp [hi])]
  split
  · rfl
  · split
    · rfl
    · next hr => rw [hs] at hr; cases hr

end CuriosityT1S
