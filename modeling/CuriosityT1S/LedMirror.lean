import CuriosityT1S.Lib.Latest
import CuriosityT1S.RawRoles
import CuriosityT1S.ResetFreeze

/-!
# The CLIENT mirrors the SERVER's LED

Both boards run their main loops over a link that loses nothing and keeps the
order.  What a board has handed to lwIP or TC6 waits in its queue; a raw frame
waits there as a reference to `m_tx_frame`, and its bytes are read when it is
transmitted.  What was transmitted is on the wire until an iteration of the
other board handles it.

A raw frame that waits may so be overwritten by the next one.  But it is
overwritten by the newer state, and the last message in flight always carries
the last state sent.

    ClientRx:      what a CLIENT does with the heartbeats of an iteration
    ServerLoop:    what an iteration of the SERVER sends
    PairInv:       the LED will settle on the last state sent
    led_mirrored:  every run
-/

namespace CuriosityT1S

open Mealy LastValue

/-! ## The two boards -/

/-- A message handed over for sending. -/
inductive TxSlot
  | udp (payload : List UInt8)
  | raw (len : UInt16)
deriving DecidableEq, Repr

def HbCall.slot : HbCall → Option TxSlot
  | .udpSendto payload => some (.udp payload)
  | .tc6SendRawEthernetPacket len => some (.raw len)
  | _ => none

def MainCall.slot : MainCall → Option TxSlot
  | .hb c => c.slot
  | _ => none

/-- What is transmitted for it. -/
def TxSlot.item (txFrame : List UInt8) : TxSlot → RxItem
  | .udp payload => .udp (some payload)
  | .raw len => .raw txFrame len

/-- The byte a message carries: an LED state or an ACK. -/
def RxItem.payload : RxItem → UInt8
  | .udp p => (p.getD []).getD 0 0
  | .raw pFrame _ => framePayload pFrame

def RxItem.transport : RxItem → HeartbeatMode
  | .udp _ => .udp
  | .raw _ _ => .rawEth

/-- The transport of an ACK. -/
def RxItem.ackOn (r : RxItem) : Option HeartbeatMode :=
  if r.isAck r.transport then some r.transport else none

/-- One direction of the link. -/
structure Link where
  queue : List TxSlot
  wire : List RxItem
deriving DecidableEq, Repr

def Link.push (l : Link) (calls : List MainCall) : Link :=
  { l with queue := l.queue ++ calls.filterMap MainCall.slot }

def Link.take (l : Link) (n : Nat) : Link := { l with wire := l.wire.drop n }

/-- The oldest message is transmitted. -/
def Link.transmit (l : Link) (txFrame : List UInt8) : Link :=
  match l.queue with
  | [] => l
  | s :: queue => ⟨queue, l.wire ++ [s.item txFrame]⟩

/-- `clientLed` is the CLIENT's LED0 once it was set; `lastSent` the state in the last heartbeat
sent; `delivered` and `acked` the transports of the heartbeats the CLIENT has handled and of the
ACKs it has issued. -/
structure BoardPair where
  server : Main
  client : Main
  down : Link
  up : Link
  clientLed : Option Bool
  lastSent : Option UInt8
  delivered : List HeartbeatMode
  acked : List HeartbeatMode

/-- An iteration of a board handles the first messages on its wire, one for each of `envs`. -/
inductive PairEvent
  | server (envs : List HbEnv) (i : LoopIn)
  | client (envs : List HbEnv) (i : LoopIn)
  | serverTransmit
  | clientTransmit
deriving DecidableEq, Repr

/-- The messages a board hands over in an iteration. -/
def sentItems (r : Main × List MainCall) : List RxItem :=
  (r.2.filterMap MainCall.slot).map (·.item r.1.hb.eth.txFrame)

def LoopIn.receiving (i : LoopIn) (l : Link) (envs : List HbEnv) : LoopIn :=
  { i with rx := l.wire.zip envs }

def pairStep (w : BoardPair) : PairEvent → BoardPair × List MainCall
  | .server envs i =>
    let i := i.receiving w.up envs
    let r := mainLoop w.server i
    ({ w with
        server := r.1
        up := w.up.take (handled w.server i).length
        down := w.down.push r.2
        lastSent := settles w.lastSent ((sentItems r).map RxItem.payload) }, r.2)
  | .client envs i =>
    let i := i.receiving w.down envs
    let r := mainLoop w.client i
    ({ w with
        client := r.1
        down := w.down.take (handled w.client i).length
        up := w.up.push r.2
        clientLed := settles w.clientLed (r.2.filterMap MainCall.led0)
        delivered := w.delivered ++ (handled w.client i).map (·.1.transport)
        acked := w.acked ++ (sentItems r).filterMap RxItem.ackOn }, r.2)
  | .serverTransmit => ({ w with down := w.down.transmit w.server.hb.eth.txFrame }, [])
  | .clientTransmit => ({ w with up := w.up.transmit w.client.hb.eth.txFrame }, [])

def pairInit (server client : MainBoot) : BoardPair where
  server := mainInit .server server
  client := mainInit .client client
  down := ⟨[], []⟩
  up := ⟨[], []⟩
  clientLed := none
  lastSent := none
  delivered := []
  acked := []

/-- Sends and allocations succeed. -/
def HbEnv.Succeeds (env : HbEnv) : Prop := env.lw = ⟨true, .errOk, .errOk⟩ ∧ env.tc6 = true

instance (env : HbEnv) : Decidable env.Succeeds := by
  unfold HbEnv.Succeeds
  infer_instance

/-- Sends succeed, and the CLIENT does not arm a reset. -/
def Undisturbed (w : BoardPair) (e : PairEvent) : Prop :=
  match e with
  | .server envs i => (∀ env ∈ envs, env.Succeeds) ∧ i.hbEnv.Succeeds
  | .client envs _ =>
    (∀ env ∈ envs, env.Succeeds) ∧ (pairStep w e).1.client.resetState = .idle
  | _ => True

instance (w : BoardPair) (e : PairEvent) : Decidable (Undisturbed w e) := by
  unfold Undisturbed
  split <;> infer_instance

/-! ## The CLIENT -/

/-- A heartbeat as the SERVER sends it. -/
inductive IsHeartbeat : RxItem → Prop
  | udp (v : UInt8) : IsHeartbeat (.udp (some [v]))
  | raw (pFrame : List UInt8) : IsHeartbeat (.raw pFrame ethHbFrameSize)

structure ClientOk (hb : MainHb) : Prop where
  udpRole : hb.udp.role = .client
  udpPaused : hb.udp.paused = false
  eth : EthOk .client hb.eth
  ethPaused : hb.eth.paused = false

def RxItem.lit (r : RxItem) : Bool := decide (r.payload ≠ 0)

def ackSlot : HeartbeatMode → TxSlot
  | .udp => .udp [heartbeatAckByte]
  | .rawEth => .raw ethHbFrameSize

/-- What a CLIENT does with heartbeats: each is shown and answered on its transport. -/
structure ClientRx (rx : List (RxItem × HbEnv)) (hb hb' : MainHb) (calls : List HbCall) : Prop where
  ok : ClientOk hb'
  led : calls.filterMap HbCall.led0 = rx.map fun r => r.1.lit
  slots : calls.filterMap HbCall.slot = rx.map fun r => ackSlot r.1.transport
  frame : framePayload hb.eth.txFrame = ethHbAckByte ∨ (∃ r ∈ rx, r.1.transport = .rawEth) →
    framePayload hb'.eth.txFrame = ethHbAckByte

theorem showLed_led0 (v : UInt8) :
    (showLed false v).filterMap HbCall.led0 = [decide (v ≠ 0)] ∧
      (showLed false v).filterMap HbCall.slot = [] := by
  unfold showLed
  rw [if_neg (by decide)]
  by_cases h : v ≠ 0
  · rw [if_pos h, decide_eq_true h]
    exact ⟨rfl, rfl⟩
  · rw [if_neg h, decide_eq_false h]
    exact ⟨rfl, rfl⟩

theorem heartbeatRecvCb_shows (h : UdpHb) (hr : h.role = .client) (hp : h.paused = false)
    (v : UInt8) (nowUs : UInt64) :
    heartbeatRecvCb h (some [v]) nowUs ⟨true, .errOk, .errOk⟩ =
      ({ h with rtt := h.rtt.countRx.countTx },
        showLed false v ++ [.udpSendto [heartbeatAckByte], .pbufFreeTx, .pbufFreeRx]) := by
  have hled : showLed h.paused ([v].getD 0 0) = showLed false v := by
    rw [hp]
    rfl
  rw [heartbeatRecvCb_client h hr, hled]
  rfl

theorem ethHeartbeatRxHandler_shows (h : EthHb) (hok : EthOk .client h) (hp : h.paused = false)
    (pFrame : List UInt8) (nowUs : UInt64) :
    ∃ txFrame, framePayload txFrame = ethHbAckByte ∧ txFrame.length = 15 ∧
      ethHeartbeatRxHandler h pFrame ethHbFrameSize nowUs true =
        ({ h with rtt := h.rtt.countRx.countTx, txFrame := txFrame },
          showLed false (framePayload pFrame) ++ [.tc6SendRawEthernetPacket ethHbFrameSize]) := by
  have hidx : ({ h with rtt := h.rtt.countRx } : EthHb).tc6Idx = 0 := hok.idx
  have hled : showLed h.paused (pFrame.getD ethHbHdrSize 0) = showLed false (framePayload pFrame) := by
    rw [hp]
    rfl
  refine ⟨_, (ethHbSendFrame_spec _ ethHbAckByte true hidx).1,
    ethHbSendFrame_length _ ethHbAckByte true hidx, ?_⟩
  rw [ethHeartbeatRxHandler_client h hok.role hok.initialized, if_neg (by decide), hled]
  simp only
  rw [ethHbSendFrame_eq _ _ _ hidx]
  rfl

theorem mainRx_client {hb : MainHb} (h : ClientOk hb) {r : RxItem} {env : HbEnv}
    (hr : IsHeartbeat r) (he : env.Succeeds) :
    ClientRx [(r, env)] hb (mainRx hb (r, env)).1 (mainRx hb (r, env)).2 := by
  obtain ⟨hlw, htc6⟩ := he
  rcases hr with ⟨v⟩ | ⟨pFrame⟩
  · obtain ⟨hled, hslot⟩ := showLed_led0 v
    unfold mainRx
    simp only
    rw [hlw, heartbeatRecvCb_shows hb.udp h.udpRole h.udpPaused]
    refine ⟨⟨h.udpRole, h.udpPaused, h.eth, h.ethPaused⟩, ?_, ?_, ?_⟩
    · rw [List.filterMap_append, hled]
      rfl
    · rw [List.filterMap_append, hslot]
      rfl
    · rintro (hf | ⟨r, hr, ht⟩)
      · exact hf
      · obtain rfl := List.mem_singleton.mp hr
        cases ht
  · obtain ⟨hled, hslot⟩ := showLed_led0 (framePayload pFrame)
    obtain ⟨txFrame, hack, hlen, heq⟩ :=
      ethHeartbeatRxHandler_shows hb.eth h.eth h.ethPaused pFrame env.nowUs
    unfold mainRx
    simp only
    rw [htc6, heq]
    refine ⟨⟨h.udpRole, h.udpPaused, ⟨h.eth.role, h.eth.initialized, h.eth.idx, hlen⟩,
      h.ethPaused⟩, ?_, ?_, fun _ => hack⟩
    · rw [List.filterMap_append, hled]
      rfl
    · rw [List.filterMap_append, hslot]
      rfl

theorem exec_mainRx_client (rx : List (RxItem × HbEnv)) :
    ∀ hb, ClientOk hb → (∀ r ∈ rx, IsHeartbeat r.1 ∧ r.2.Succeeds) →
      ClientRx rx hb (exec mainRx hb rx) (emits mainRx hb rx) := by
  induction rx with
  | nil =>
    intro hb h _
    refine ⟨h, rfl, rfl, ?_⟩
    rintro (hf | ⟨r, hr, -⟩)
    · exact hf
    · cases hr
  | cons r rx ih =>
    intro hb h hall
    obtain ⟨hr, he⟩ := hall r List.mem_cons_self
    have h1 := mainRx_client h hr he
    have h2 := ih _ h1.ok fun r' hr' => hall r' (List.mem_cons_of_mem r hr')
    refine ⟨h2.ok, ?_, ?_, ?_⟩
    · rw [emits_cons, List.filterMap_append, h1.led, h2.led]
      rfl
    · rw [emits_cons, List.filterMap_append, h1.slots, h2.slots]
      rfl
    · intro hf
      apply h2.frame
      rcases hf with hf | ⟨r', hr', ht⟩
      · exact Or.inl (h1.frame (Or.inl hf))
      · rcases List.mem_cons.mp hr' with rfl | hr'
        · exact Or.inl (h1.frame (Or.inr ⟨r', List.mem_singleton_self r', ht⟩))
        · exact Or.inr ⟨r', hr', ht⟩

/-- A switch that ends in RESET_IDLE did nothing to the modules. -/
theorem resetSwitch_idle {m : Main} {i : LoopIn} (h : (resetSwitch m i).1.resetState = .idle) :
    (resetSwitch m i).1.hb = m.hb ∧ (resetSwitch m i).2 = [] := by
  unfold resetSwitch at h ⊢
  split at h
  · simp only at h ⊢
    split at h
    · cases h
    · next hl =>
      rw [if_neg hl]
      exact ⟨rfl, rfl⟩
  · split at h
    · cases h
    · next hp =>
      rw [if_neg hp]
      exact ⟨rfl, rfl⟩
  · next hc =>
    split at h
    · exact absurd (hc.symm.trans h) nofun
    · exact absurd (hc.symm.trans h) nofun

/-- In an iteration that stays in RESET_IDLE only the received messages make a CLIENT act. -/
theorem mainLoop_client {m : Main} (hr : m.role = .client) (i : LoopIn)
    (hs : (mainLoop m i).1.resetState = .idle) :
    (mainLoop m i).1.role = .client ∧
      (mainLoop m i).1.hb = exec mainRx m.hb (handled m i) ∧
      ∃ cs : List IperfCall,
        (mainLoop m i).2 = cs.map .iperf ++ (emits mainRx m.hb (handled m i)).map .hb := by
  by_cases hd : m.resetDone = true
  · have hnone : handled m i = [] := by
      unfold handled
      rw [if_neg (by simp [hd])]
    rw [mainLoop_done hd, hnone]
    exact ⟨hr, rfl, [], rfl⟩
  · have hd' : m.resetDone = false := by simpa using hd
    obtain ⟨hhb, cs, hcalls⟩ := t1sExecute_handled hd' i
    have htask : (afterTask m i).role = .client := by
      rw [afterTask_frame]
      exact hr
    obtain ⟨hpress, hpressCalls⟩ := shortPress_client htask i
    have hswitch : (afterSwitch m i).role = .client := (afterSwitch_role m i).trans hr
    rw [mainLoop_eq hd', heartbeatTask_client hswitch] at hs ⊢
    obtain ⟨hsw, hswCalls⟩ := resetSwitch_idle hs
    refine ⟨hswitch, ?_, cs, ?_⟩
    · exact (hsw.trans hpress).trans hhb
    · rw [hpressCalls, hswCalls, hcalls]
      simp

/-! ## The SERVER -/

/-- What an iteration of the SERVER hands over: nothing, or a heartbeat in one of the modes; only
a raw one touches `m_tx_frame`. -/
inductive ServerLoop (txFrame txFrame' : List UInt8) : List TxSlot → Prop
  | none (same : txFrame' = txFrame) : ServerLoop txFrame txFrame' []
  | udp (v : UInt8) (same : txFrame' = txFrame) : ServerLoop txFrame txFrame' [.udp [v]]
  | raw : ServerLoop txFrame txFrame' [.raw ethHbFrameSize]

theorem slot_of_sends (c : MainCall) : c.sendsHeartbeat = false → c.slot = none := by
  rcases c with (- | - | - | - | - | - | -) | - | -
  all_goals
    intro h
    first | rfl | cases h

theorem slots_of_quiet {calls : List MainCall} (h : ∀ c ∈ calls, c.sendsHeartbeat = false) :
    calls.filterMap MainCall.slot = [] := by
  rw [List.filterMap_eq_nil_iff]
  intro c hc
  exact slot_of_sends c (h c hc)

theorem showLed_slots (paused : Bool) (v : UInt8) : (showLed paused v).filterMap HbCall.slot = [] := by
  unfold showLed
  repeat' split
  all_goals rfl

theorem heartbeatSend_slots (h : UdpHb) (v : UInt8) (nowUs : UInt64) (lw : LwipAnswer) :
    (heartbeatSend h v nowUs lw).2.filterMap HbCall.slot = [] ∨
      (heartbeatSend h v nowUs lw).2.filterMap HbCall.slot = [.udp [v]] := by
  unfold heartbeatSend
  repeat' split
  all_goals first | exact Or.inl rfl | exact Or.inr rfl

theorem ethHeartbeatSend_slots {h : EthHb} (hok : EthOk .server h) (v : UInt8) (nowUs : UInt64)
    (tc6 : Bool) :
    (ethHeartbeatSend h v nowUs tc6).2 =
      if tc6 then [.tc6SendRawEthernetPacket ethHbFrameSize] else [] := by
  unfold ethHeartbeatSend
  rw [if_neg (by simp [hok.initialized]), if_neg (by simp [hok.role])]
  simp only
  rw [ethHbSendFrame_eq _ _ _ (by exact hok.idx)]

theorem MainHb.countExchange_eth (hb : MainHb) :
    hb.countExchange.eth = { hb.eth with rtt := hb.countExchange.eth.rtt } := by
  unfold MainHb.countExchange
  simp only
  split <;> rfl

/-- A heartbeat: its slot, and the frame it leaves. -/
theorem mainHeartbeat_slots {hb : MainHb} (h : EthOk .server hb.eth) (env : HbEnv)
    (he : env.Succeeds) :
    EthOk .server (mainHeartbeat hb env.nowUs env.lw env.tc6).1.eth ∧
      ServerLoop hb.eth.txFrame (mainHeartbeat hb env.nowUs env.lw env.tc6).1.eth.txFrame
        ((mainHeartbeat hb env.nowUs env.lw env.tc6).2.filterMap HbCall.slot) := by
  have hled := showLed_slots false (hb.ledState ^^^ 1)
  unfold mainHeartbeat MainHb.send
  match hb.hbMode with
  | .udp =>
    simp only
    rw [List.filterMap_append, hled, List.nil_append]
    constructor
    · rw [MainHb.countExchange_eth]
      exact ⟨h.role, h.initialized, h.idx, h.frame⟩
    · have hframe : ∀ m : MainHb, m.eth = hb.eth →
          m.countExchange.eth.txFrame = hb.eth.txFrame := by
        intro m hm
        rw [MainHb.countExchange_eth]
        show m.eth.txFrame = hb.eth.txFrame
        rw [hm]
      rcases heartbeatSend_slots hb.udp (hb.ledState ^^^ 1) env.nowUs env.lw with hs | hs
      · rw [hs]
        exact .none (hframe _ rfl)
      · rw [hs]
        exact .udp _ (hframe _ rfl)
  | .rawEth =>
    simp only
    rw [List.filterMap_append, hled, List.nil_append, ethHeartbeatSend_slots h, he.2]
    constructor
    · rw [MainHb.countExchange_eth]
      obtain ⟨hr, hi, hx, hf⟩ := (ethHeartbeatSend_ok hb.eth h (hb.ledState ^^^ 1) env.nowUs true).1
      exact ⟨hr, hi, hx, hf⟩
    · exact .raw

/-- What the SERVER receives does not touch the frame. -/
theorem mainRx_server {hb : MainHb} (h : EthOk .server hb.eth) (r : RxItem × HbEnv) :
    EthOk .server (mainRx hb r).1.eth ∧ (mainRx hb r).1.eth.txFrame = hb.eth.txFrame := by
  unfold mainRx
  split
  · exact ⟨h, rfl⟩
  · simp only
    rw [ethHeartbeatRxHandler_server hb.eth h.role h.initialized]
    split
    · exact ⟨h, rfl⟩
    · exact ⟨⟨h.role, h.initialized, h.idx, h.frame⟩, rfl⟩

theorem exec_mainRx_server {hb : MainHb} (h : EthOk .server hb.eth) (rx : List (RxItem × HbEnv)) :
    EthOk .server (exec mainRx hb rx).eth ∧ (exec mainRx hb rx).eth.txFrame = hb.eth.txFrame := by
  refine exec_inv_all mainRx
    (fun hb' => EthOk .server hb'.eth ∧ hb'.eth.txFrame = hb.eth.txFrame) ?_ rx hb ⟨h, rfl⟩
  intro hb' r hinv
  obtain ⟨hok, hframe⟩ := mainRx_server hinv.1 r
  exact ⟨hok, hframe.trans hinv.2⟩

theorem resetSwitch_sends (m : Main) (i : LoopIn) :
    ∀ c ∈ (resetSwitch m i).2, c.sendsHeartbeat = false := by
  unfold resetSwitch
  split
  · simp only
    split
    · simp [MainCall.sendsHeartbeat, HbCall.sends]
    · nofun
  · split <;> nofun
  · split
    · simp [MainCall.sendsHeartbeat]
    · nofun

/-- Before its heartbeat an iteration of the SERVER sends none. -/
theorem beforeHeartbeat_sends {m : Main} (h : FreezeInv .server m) (i : LoopIn) :
    ∀ c ∈ (t1sExecute m i).2 ++ (shortPress (afterTask m i) i).2 ++
      (resetSwitch (afterPress m i) i).2, c.sendsHeartbeat = false := by
  have hmod : HbModules .server (BoardRole.server = .client) m.hb :=
    ⟨h.modules.udpRole, h.modules.ethRole, nofun⟩
  intro c hc
  rcases List.mem_append.mp hc with hc | hc
  · rcases List.mem_append.mp hc with hc | hc
    · exact (t1sExecute_quiet hmod i c hc).2 rfl
    · exact (shortPress_quiet .server (afterTask m i) i c hc).2 rfl
  · exact resetSwitch_sends (afterPress m i) i c hc

theorem filterMap_slot_hb (calls : List HbCall) :
    (calls.map MainCall.hb).filterMap MainCall.slot = calls.filterMap HbCall.slot := by
  rw [List.filterMap_map]
  rfl

theorem filterMap_led0_hb (calls : List HbCall) :
    (calls.map MainCall.hb).filterMap MainCall.led0 = calls.filterMap HbCall.led0 := by
  rw [List.filterMap_map]
  rfl

theorem mainLoop_server {m : Main} (h : FreezeInv .server m) (hok : EthOk .server m.hb.eth)
    (i : LoopIn) (he : i.hbEnv.Succeeds) :
    EthOk .server (mainLoop m i).1.hb.eth ∧
      ServerLoop m.hb.eth.txFrame (mainLoop m i).1.hb.eth.txFrame
        ((mainLoop m i).2.filterMap MainCall.slot) := by
  by_cases hd : m.resetDone = true
  · rw [mainLoop_done hd]
    exact ⟨hok, .none rfl⟩
  · have hd' : m.resetDone = false := by simpa using hd
    obtain ⟨l, p, q, hsw⟩ := afterSwitch_hb m i
    obtain ⟨hrxOk, hrxFrame⟩ := exec_mainRx_server hok (handled m i)
    rw [← (t1sExecute_handled hd' i).1] at hrxOk hrxFrame
    have hswOk : EthOk .server (afterSwitch m i).hb.eth := by
      rw [hsw]
      exact ⟨hrxOk.role, hrxOk.initialized, hrxOk.idx, hrxOk.frame⟩
    have hswFrame : (afterSwitch m i).hb.eth.txFrame = m.hb.eth.txFrame := by
      rw [hsw]
      exact hrxFrame
    have hquiet := slots_of_quiet (beforeHeartbeat_sends h i)
    rw [mainLoop_eq hd']
    simp only
    rw [List.filterMap_append, hquiet, List.nil_append]
    by_cases hdue : HeartbeatDue (afterSwitch m i) i
    · obtain ⟨hhb, hcalls⟩ := heartbeatTask_due hdue
      obtain ⟨hok', hloop⟩ := mainHeartbeat_slots hswOk i.hbEnv he
      rw [hswFrame] at hloop
      rw [hhb, hcalls, filterMap_slot_hb]
      exact ⟨hok', hloop⟩
    · rw [heartbeatTask_notDue hdue]
      exact ⟨hswOk, .none hswFrame⟩

/-! ## Runs -/

/-- The heartbeats in flight, as they would be transmitted now. -/
def BoardPair.inFlight (w : BoardPair) : List RxItem :=
  w.down.wire ++ w.down.queue.map (·.item w.server.hb.eth.txFrame)

structure PairInv (w : BoardPair) : Prop where
  server : FreezeInv .server w.server
  serverEth : EthOk .server w.server.hb.eth
  clientRole : w.client.role = .client
  client : ClientOk w.client.hb
  wire : ∀ r ∈ w.down.wire, IsHeartbeat r
  queue : ∀ s ∈ w.down.queue, ∀ txFrame, IsHeartbeat (s.item txFrame)
  mirror : settles w.clientLed (w.inFlight.map RxItem.lit) = w.lastSent.map fun v => decide (v ≠ 0)
  shown : w.delivered ≠ [] → w.clientLed ≠ none
  acked : w.acked = w.delivered

theorem pairInv_init (server client : MainBoot) : PairInv (pairInit server client) where
  server := freezeInv_init .server server
  serverEth := ethOk_init .server server.mac
  clientRole := rfl
  client := ⟨rfl, rfl, ethOk_init .client client.mac, rfl⟩
  wire := nofun
  queue := nofun
  mirror := rfl
  shown := fun h => absurd rfl h
  acked := rfl

/-- The slot handed over last decides, whatever frame the others refer to. -/
theorem mirror_push (w : BoardPair) (s : TxSlot) (txFrame : List UInt8) :
    settles w.clientLed
        ((w.down.wire ++ (w.down.queue ++ [s]).map (·.item txFrame)).map RxItem.lit) =
      (settles w.lastSent (([s].map (·.item txFrame)).map RxItem.payload)).map
        fun v => decide (v ≠ 0) := by
  have hq : (w.down.queue ++ [s]).map (·.item txFrame) =
      w.down.queue.map (·.item txFrame) ++ [s.item txFrame] := List.map_append
  rw [hq, ← List.append_assoc, List.map_append]
  exact settles_send _ _ _

/-- The SERVER's iteration appends a heartbeat with the new state, or nothing. -/
theorem pairInv_server (w : BoardPair) (envs : List HbEnv) (i : LoopIn) (h : PairInv w)
    (he : i.hbEnv.Succeeds) : PairInv (pairStep w (.server envs i)).1 := by
  obtain ⟨hok, hloop⟩ := mainLoop_server h.server h.serverEth (i.receiving w.up envs) he
  have hserver := mainLoop_freeze h.server (i.receiving w.up envs)
  have hpush : ∀ s, (∀ txFrame, IsHeartbeat (TxSlot.item txFrame s)) →
      ∀ s' ∈ w.down.queue ++ [s], ∀ txFrame, IsHeartbeat (s'.item txFrame) := by
    intro s hs s' hs'
    rcases List.mem_append.mp hs' with hq | hq
    · exact h.queue s' hq
    · obtain rfl := List.mem_singleton.mp hq
      exact hs
  unfold pairStep sentItems Link.push
  simp only
  generalize mainLoop w.server (i.receiving w.up envs) = r at hok hloop hserver
  generalize r.2.filterMap MainCall.slot = slots at hloop
  rcases hloop with hsame | ⟨v, -⟩ | -
  · refine ⟨hserver, hok, h.clientRole, h.client, h.wire, ?_, ?_, h.shown, h.acked⟩
    · rw [List.append_nil]
      exact h.queue
    · unfold BoardPair.inFlight
      simp only [List.append_nil, List.map_nil, settles_nil, hsame]
      exact h.mirror
  · exact ⟨hserver, hok, h.clientRole, h.client, h.wire, hpush _ fun _ => .udp v,
      mirror_push w (.udp [v]) _, h.shown, h.acked⟩
  · exact ⟨hserver, hok, h.clientRole, h.client, h.wire, hpush _ fun txFrame => .raw txFrame,
      mirror_push w (.raw ethHbFrameSize) _, h.shown, h.acked⟩

theorem zip_fst_append_drop {α β : Type} (as : List α) (bs : List β) :
    (as.zip bs).map Prod.fst ++ as.drop (as.zip bs).length = as := by
  induction as generalizing bs with
  | nil => rfl
  | cons a as ih =>
    match bs with
    | [] => rfl
    | b :: bs => exact congrArg (a :: ·) (ih bs)

/-- The messages handled are the first ones on the wire. -/
theorem handled_receiving (m : Main) (i : LoopIn) (l : Link) (envs : List HbEnv) :
    (handled m (i.receiving l envs)).map Prod.fst ++
        l.wire.drop (handled m (i.receiving l envs)).length = l.wire ∧
      ∀ r ∈ handled m (i.receiving l envs), r.1 ∈ l.wire ∧ r.2 ∈ envs := by
  unfold handled LoopIn.receiving
  split
  · constructor
    · exact zip_fst_append_drop l.wire envs
    · intro r hr
      exact List.of_mem_zip hr
  · refine ⟨rfl, ?_⟩
    intro r hr
    exact absurd hr List.not_mem_nil

theorem ackOn_ackSlot (t : HeartbeatMode) (txFrame : List UInt8)
    (h : t = .rawEth → framePayload txFrame = ethHbAckByte) :
    ((ackSlot t).item txFrame).ackOn = some t := by
  match t with
  | .udp => rfl
  | .rawEth =>
    have hack : ((ackSlot .rawEth).item txFrame).isAck .rawEth = true := by
      show (!decide (ethHbFrameSize < ethHbFrameSize) && framePayload txFrame == ethHbAckByte) = true
      rw [h rfl]
      decide
    show (if ((ackSlot .rawEth).item txFrame).isAck .rawEth then some HeartbeatMode.rawEth else none) = _
    rw [if_pos hack]

/-- The ACKs handed over are on the transports of the heartbeats handled. -/
theorem acks_filterMap (rx : List (RxItem × HbEnv)) (txFrame : List UInt8)
    (h : ∀ x ∈ rx, x.1.transport = .rawEth → framePayload txFrame = ethHbAckByte) :
    (rx.map ((·.item txFrame) ∘ fun x => ackSlot x.1.transport)).filterMap RxItem.ackOn =
      rx.map (·.1.transport) := by
  rw [List.filterMap_map, ← List.filterMap_eq_map]
  apply List.filterMap_congr
  intro x hx
  exact ackOn_ackSlot x.1.transport txFrame (h x hx)

/-- The CLIENT shows and answers what it handles, in order. -/
theorem pairInv_client (w : BoardPair) (envs : List HbEnv) (i : LoopIn) (h : PairInv w)
    (he : ∀ env ∈ envs, env.Succeeds)
    (hs : (pairStep w (.client envs i)).1.client.resetState = .idle) :
    PairInv (pairStep w (.client envs i)).1 := by
  obtain ⟨hwire, hmem⟩ := handled_receiving w.client i w.down envs
  have hall : ∀ r ∈ handled w.client (i.receiving w.down envs),
      IsHeartbeat r.1 ∧ r.2.Succeeds := by
    intro r hr
    obtain ⟨hr1, hr2⟩ := hmem r hr
    exact ⟨h.wire r.1 hr1, he r.2 hr2⟩
  obtain ⟨hrole, hhb, cs, hcalls⟩ := mainLoop_client h.clientRole (i.receiving w.down envs) hs
  have hrx := exec_mainRx_client _ w.client.hb h.client hall
  rw [← hhb] at hrx
  unfold pairStep sentItems
  simp only
  generalize mainLoop w.client (i.receiving w.down envs) = r at hrole hcalls hrx
  generalize handled w.client (i.receiving w.down envs) = rx at hwire hcalls hrx
  have hled : r.2.filterMap MainCall.led0 = rx.map fun x => x.1.lit := by
    rw [hcalls, List.filterMap_append, filterMap_led0_hb, hrx.led, List.filterMap_map]
    simp [MainCall.led0]
  have hslots : r.2.filterMap MainCall.slot = rx.map fun x => ackSlot x.1.transport := by
    rw [hcalls, List.filterMap_append, filterMap_slot_hb, hrx.slots, List.filterMap_map]
    simp [MainCall.slot]
  refine ⟨h.server, h.serverEth, hrole, hrx.ok, ?_, h.queue, ?_, ?_, ?_⟩
  · intro x hx
    exact h.wire x (List.mem_of_mem_drop hx)
  · have hm := h.mirror
    unfold BoardPair.inFlight at hm ⊢
    rw [← hwire] at hm
    rw [hled, settles_deliver]
    rw [List.append_assoc, List.map_append, List.map_map] at hm
    exact hm
  · intro hne hnone
    rw [hled] at hnone
    obtain ⟨hnil, hled0⟩ := settles_eq_none.mp hnone
    rw [List.map_eq_nil_iff] at hnil
    rw [hnil] at hne
    exact h.shown (by simpa using hne) hled0
  · rw [hslots, h.acked, List.map_map, acks_filterMap rx r.1.hb.eth.txFrame]
    intro x hx ht
    exact hrx.frame (Or.inr ⟨x, hx, ht⟩)

/-- A transmitted message goes on the wire as it was counted in flight. -/
theorem pairInv_transmit (w : BoardPair) (h : PairInv w) :
    PairInv (pairStep w .serverTransmit).1 := by
  unfold pairStep Link.transmit
  simp only
  split
  · exact h
  · next s queue hq =>
    refine ⟨h.server, h.serverEth, h.clientRole, h.client, ?_, ?_, ?_, h.shown, h.acked⟩
    · intro r hr
      rcases List.mem_append.mp hr with hr | hr
      · exact h.wire r hr
      · obtain rfl := List.mem_singleton.mp hr
        exact h.queue s (by rw [hq]; exact List.mem_cons_self) _
    · intro s' hs'
      exact h.queue s' (by rw [hq]; exact List.mem_cons_of_mem s hs')
    · have hm := h.mirror
      unfold BoardPair.inFlight at hm ⊢
      rw [hq, List.map_cons, List.append_cons] at hm
      exact hm

theorem pairInv_step (w : BoardPair) (e : PairEvent) (h : PairInv w) (he : Undisturbed w e) :
    PairInv (pairStep w e).1 := by
  match e with
  | .server envs i => exact pairInv_server w envs i h he.2
  | .client envs i => exact pairInv_client w envs i h he.1 he.2
  | .serverTransmit => exact pairInv_transmit w h
  | .clientTransmit =>
    exact ⟨h.server, h.serverEth, h.clientRole, h.client, h.wire, h.queue, h.mirror, h.shown,
      h.acked⟩

/-- **LED mirroring.**  In every run of the two boards in which sends succeed and the CLIENT has
not armed a reset: once a heartbeat has been delivered, whenever none is in flight the CLIENT's LED
shows the state in the last heartbeat sent; and the CLIENT has issued one ACK for each heartbeat
delivered, in that order and each on the transport of its heartbeat. -/
theorem led_mirrored (server client : MainBoot) (es : List PairEvent)
    (h : Along pairStep Undisturbed (pairInit server client) es) :
    let w := exec pairStep (pairInit server client) es
    (w.delivered ≠ [] → w.down = ⟨[], []⟩ →
      ∃ v, w.lastSent = some v ∧ w.clientLed = some (decide (v ≠ 0))) ∧
    w.acked = w.delivered := by
  intro w
  have hinv : PairInv w :=
    exec_inv pairStep Undisturbed PairInv pairInv_step es _ (pairInv_init server client) h
  refine ⟨?_, hinv.acked⟩
  intro hne hdown
  have hmirror : w.clientLed = w.lastSent.map fun v => decide (v ≠ 0) := by
    have hm := hinv.mirror
    unfold BoardPair.inFlight at hm
    rw [hdown] at hm
    exact hm
  cases hv : w.lastSent with
  | none =>
    rw [hv] at hmirror
    exact absurd hmirror (hinv.shown hne)
  | some v =>
    rw [hv] at hmirror
    exact ⟨v, rfl, hmirror⟩

/-- A heartbeat is sent, transmitted and handled. -/
def firstBeat : List PairEvent :=
  let env : HbEnv := ⟨500000, ⟨true, .errOk, .errOk⟩, true⟩
  [.server [] { LoopIn.quiet false 500 with hbEnv := env }, .serverTransmit,
    .client [env] (.quiet false 501)]

theorem led_mirrored_first :
    let w := exec pairStep (pairInit serverBoot serverBoot) firstBeat
    (∃ v, w.lastSent = some v ∧ w.clientLed = some (decide (v ≠ 0))) ∧ w.acked = w.delivered :=
  have h := led_mirrored serverBoot serverBoot firstBeat (by decide +kernel)
  ⟨h.1 (by decide +kernel) (by decide +kernel), h.2⟩

end CuriosityT1S
