import CuriosityT1S.Lib.Latest
import CuriosityT1S.TwoBoards

/-!
# What an RTT sample is measured against

The ACK carries no number, so the server can only take the last send of the
transport.  `rtt_of_last_send`: a sample is always measured against that one,
its ACK answers a send of the same transport not later than it, and this very
one if nothing of the transport was in flight at any send.

    ServerOk:  the server's modules as `main` leaves them
    NetInv:    messages come from sends of their transport, an armed timestamp is
               that of the transport's last send
    QuietInv:  messages in flight come from the transport's last send
-/

namespace CuriosityT1S

open Mealy KeyedLog

/-! ## The server's timestamps -/

/-- The armed timestamp of a transport, 0 if there is none. -/
def MainHb.armed (m : MainHb) : HeartbeatMode → UInt64
  | .udp => m.udp.rtt.sendTimestampUs
  | .rawEth => m.eth.rtt.sendTimestampUs

/-- Both modules are a SERVER's, and without a PCB nothing is armed over UDP. -/
structure ServerOk (m : MainHb) : Prop where
  udpRole : m.udp.role = .server
  ethRole : m.eth.role = .server
  noPcb : m.udp.pcb = false → m.udp.rtt.sendTimestampUs = 0
  ethInit : m.eth.initialized = true

/-- `heartbeat_send` on a server: the timestamp is the time of the call, or there is no PCB. -/
theorem heartbeatSend_server (h : UdpHb) (hs : h.role = .server) (ledState : UInt8)
    (nowUs : UInt64) (lw : LwipAnswer) :
    (heartbeatSend h ledState nowUs lw).1.role = .server ∧
      (heartbeatSend h ledState nowUs lw).1.pcb = h.pcb ∧
      (h.pcb = true → (heartbeatSend h ledState nowUs lw).1.rtt.sendTimestampUs = nowUs) ∧
      (h.pcb = false → (heartbeatSend h ledState nowUs lw).1 = h) := by
  unfold heartbeatSend
  cases hp : h.pcb with
  | false => exact ⟨hs, hp, nofun, fun _ => rfl⟩
  | true =>
    rw [if_neg (by decide), if_neg (by simp [hs])]
    simp only
    repeat' split
    all_goals exact ⟨hs, rfl, fun _ => rfl, nofun⟩

/-- `eth_heartbeat_send` on a server: the timestamp is the time of the call. -/
theorem ethHeartbeatSend_server (h : EthHb) (hs : h.role = .server) (hi : h.initialized = true)
    (ledState : UInt8) (nowUs : UInt64) (tc6 : Bool) :
    (ethHeartbeatSend h ledState nowUs tc6).1.role = .server ∧
      (ethHeartbeatSend h ledState nowUs tc6).1.initialized = true ∧
      (ethHeartbeatSend h ledState nowUs tc6).1.rtt.sendTimestampUs = nowUs := by
  unfold ethHeartbeatSend ethHbSendFrame
  rw [if_neg (by simp [hi]), if_neg (by simp [hs])]
  simp only
  split <;> exact ⟨hs, hi, rfl⟩

/-- A send arms its own transport with the time, if anything, and leaves the other alone. -/
theorem MainHb.send_armed (m : MainHb) (h : ServerOk m) (nowUs : UInt64) (lw : LwipAnswer)
    (tc6 : Bool) :
    ServerOk (m.send nowUs lw tc6).1 ∧ (m.send nowUs lw tc6).1.hbMode = m.hbMode ∧
      ((m.send nowUs lw tc6).1.armed m.hbMode = 0 ∨
        (m.send nowUs lw tc6).1.armed m.hbMode = nowUs) ∧
      ∀ t, t ≠ m.hbMode → (m.send nowUs lw tc6).1.armed t = m.armed t := by
  unfold MainHb.send
  cases hm : m.hbMode with
  | udp =>
    obtain ⟨h1, h2, h3, h4⟩ := heartbeatSend_server m.udp h.udpRole m.ledState nowUs lw
    refine ⟨⟨h1, h.ethRole, ?_, h.ethInit⟩, rfl, ?_, ?_⟩
    · intro hp
      have hp' : m.udp.pcb = false := h2.symm.trans hp
      show (heartbeatSend m.udp m.ledState nowUs lw).1.rtt.sendTimestampUs = 0
      rw [h4 hp']
      exact h.noPcb hp'
    · show (heartbeatSend m.udp m.ledState nowUs lw).1.rtt.sendTimestampUs = 0 ∨ _ = nowUs
      cases hp : m.udp.pcb with
      | false => exact Or.inl (by rw [h4 hp]; exact h.noPcb hp)
      | true => exact Or.inr (h3 hp)
    · intro t ht
      cases t with
      | udp => exact absurd rfl ht
      | rawEth => rfl
  | rawEth =>
    obtain ⟨h1, h2, h3⟩ := ethHeartbeatSend_server m.eth h.ethRole h.ethInit m.ledState nowUs tc6
    refine ⟨⟨h.udpRole, h1, h.noPcb, h2⟩, rfl, Or.inr h3, ?_⟩
    intro t ht
    cases t with
    | udp => rfl
    | rawEth => exact absurd rfl ht

/-- A mode switch clears both timestamps, otherwise they stay. -/
theorem MainHb.countExchange_armed (m : MainHb) (h : ServerOk m) :
    ServerOk m.countExchange ∧
      ∀ t, m.countExchange.armed t = 0 ∨ m.countExchange.armed t = m.armed t := by
  unfold MainHb.countExchange
  simp only
  split
  · refine ⟨⟨h.udpRole, h.ethRole, fun _ => rfl, h.ethInit⟩, fun t => Or.inl ?_⟩
    cases t <;> rfl
  · refine ⟨⟨h.udpRole, h.ethRole, h.noPcb, h.ethInit⟩, fun t => Or.inr ?_⟩
    cases t <;> rfl

/-- One iteration that sends. -/
theorem mainHeartbeat_armed (m : MainHb) (h : ServerOk m) (nowUs : UInt64) (lw : LwipAnswer)
    (tc6 : Bool) :
    ServerOk (mainHeartbeat m nowUs lw tc6).1 ∧
      ((mainHeartbeat m nowUs lw tc6).1.armed m.hbMode = 0 ∨
        (mainHeartbeat m nowUs lw tc6).1.armed m.hbMode = nowUs) ∧
      ∀ t, t ≠ m.hbMode → (mainHeartbeat m nowUs lw tc6).1.armed t = 0 ∨
        (mainHeartbeat m nowUs lw tc6).1.armed t = m.armed t := by
  have h0 : ServerOk { m with ledState := m.ledState ^^^ 1 } :=
    ⟨h.udpRole, h.ethRole, h.noPcb, h.ethInit⟩
  obtain ⟨h1, -, h2, h3⟩ := MainHb.send_armed _ h0 nowUs lw tc6
  obtain ⟨g1, g2⟩ := MainHb.countExchange_armed _ h1
  refine ⟨g1, ?_, fun t ht => ?_⟩
  · rcases g2 m.hbMode with hz | he
    · exact Or.inl hz
    · rcases h2 with hz | hn
      · exact Or.inl (he.trans hz)
      · exact Or.inr (he.trans hn)
  · rcases g2 t with hz | he
    · exact Or.inl hz
    · exact Or.inr (he.trans (h3 t ht))

/-! ## The server's samples -/

/-- An ACK records a sample against the armed timestamp, or nothing. -/
theorem Rtt.onAck_cases (r : Rtt) (nowUs : UInt64) :
    ((r.onAck nowUs).1 = r ∧ (r.onAck nowUs).2 = []) ∨
      (r.sendTimestampUs ≠ 0 ∧ (r.onAck nowUs).1.sendTimestampUs = 0 ∧
        ∃ tx rx avg, (r.onAck nowUs).2 =
          [.report tx rx (nowUs - r.sendTimestampUs).toUInt32 avg]) := by
  unfold Rtt.onAck
  by_cases h : r.sendTimestampUs = 0
  · rw [if_pos (by simpa using h)]
    exact Or.inl ⟨rfl, rfl⟩
  · rw [if_neg (by simpa using h)]
    exact Or.inr ⟨h, rfl, _, _, _, rfl⟩

/-- What the server may do with a message: a timestamp stays or is taken, and a sample is
measured against the armed one of the message's transport. -/
structure ServerRecv (s : MainHb) (m : Msg) (nowUs : UInt64) (s' : MainHb)
    (samples : List Sample) : Prop where
  ok : ServerOk s'
  armed : ∀ t, s'.armed t = 0 ∨ s'.armed t = s.armed t
  sample : ∀ o ∈ samples, s.armed m.transport ≠ 0 ∧
    o = ⟨m.transport, m.id, nowUs, (nowUs - s.armed m.transport).toUInt32⟩

/-- A module that took its timestamp, and what it reported. -/
theorem ServerRecv.report {s s' : MainHb} {m : Msg} {nowUs : UInt64} (h : ServerOk s')
    (h0 : s.armed m.transport ≠ 0) (ht : s'.armed m.transport = 0)
    (hother : ∀ t, t ≠ m.transport → s'.armed t = s.armed t) :
    ServerRecv s m nowUs s'
      [⟨m.transport, m.id, nowUs, (nowUs - s.armed m.transport).toUInt32⟩] := by
  refine ⟨h, fun t => ?_, fun o ho => ⟨h0, List.mem_singleton.mp ho⟩⟩
  by_cases hm : t = m.transport
  · exact Or.inl (hm ▸ ht)
  · exact Or.inr (hother t hm)

theorem serverRecv_spec (s : MainHb) (h : ServerOk s) (m : Msg) (env : Env) :
    ServerRecv s m env.nowUs (serverRecv s m env).1
      ((serverRecv s m env).2.filterMap (sampleOf m env.nowUs)) := by
  have hsame : ServerRecv s m env.nowUs s [] := ⟨h, fun _ => Or.inr rfl, nofun⟩
  obtain ⟨transport, id, bytes⟩ := m
  cases transport with
  | udp =>
    simp only [serverRecv]
    rw [heartbeatRecvCb_server s.udp h.udpRole]
    split
    · rcases Rtt.onAck_cases s.udp.rtt env.nowUs with ⟨h1, h2⟩ | ⟨h0, h1, tx, rx, avg, h2⟩
      · rw [h1, h2]
        exact hsame
      · simp only [h2, List.filterMap_append, List.filterMap_cons, List.filterMap_nil, sampleOf,
          List.append_nil]
        refine ServerRecv.report ⟨h.udpRole, h.ethRole, fun _ => h1, h.ethInit⟩ h0 h1 ?_
        intro t ht
        cases t with
        | udp => exact absurd rfl ht
        | rawEth => rfl
    · exact hsame
  | rawEth =>
    simp only [serverRecv]
    rw [ethHeartbeatRxHandler_server s.eth h.ethRole h.ethInit]
    split
    · exact hsame
    · rcases Rtt.onAck_cases s.eth.rtt env.nowUs with ⟨h1, h2⟩ | ⟨h0, h1, tx, rx, avg, h2⟩
      · rw [h1, h2]
        exact hsame
      · simp only [h2, List.filterMap_cons, List.filterMap_nil, sampleOf]
        refine ServerRecv.report ⟨h.udpRole, h.ethRole, h.noPcb, h.ethInit⟩ h0 h1 ?_
        intro t ht
        cases t with
        | udp => rfl
        | rawEth => exact absurd rfl ht

/-! ## Messages -/

/-- A module puts frames of one transport on the bus. -/
def OnTransport (t : HeartbeatMode) (calls : List HbCall) : Prop :=
  ∀ (env : Env) (txFrame : List UInt8) (id : Nat), ∀ m ∈ messages env txFrame id calls,
    m.transport = t ∧ m.id = id

theorem onTransport_of_forall {t : HeartbeatMode} {calls : List HbCall}
    (h : ∀ c ∈ calls, ∀ env txFrame f, busFrame env txFrame c = some f → f.1 = t) :
    OnTransport t calls := by
  intro env txFrame id m hm
  obtain ⟨f, hf, rfl⟩ := List.mem_map.mp hm
  obtain ⟨c, hc, hcf⟩ := List.mem_filterMap.mp hf
  exact ⟨h c hc env txFrame f hcf, rfl⟩

/-- The calls that put nothing on the bus, or a UDP packet. -/
def HbCall.overUdp : HbCall → Bool
  | .tc6SendRawEthernetPacket _ => false
  | _ => true

/-- The calls that put nothing on the bus, or a raw frame. -/
def HbCall.overEth : HbCall → Bool
  | .udpSendto _ => false
  | _ => true

theorem onTransport_udp {calls : List HbCall} (h : ∀ c ∈ calls, c.overUdp = true) :
    OnTransport .udp calls := by
  apply onTransport_of_forall
  intro c hc env txFrame f hf
  have hu := h c hc
  cases c with
  | udpSendto payload =>
    simp only [busFrame] at hf
    split at hf
    · cases hf; rfl
    · cases hf
  | tc6SendRawEthernetPacket len => cases hu
  | _ => cases hf

theorem onTransport_eth {calls : List HbCall} (h : ∀ c ∈ calls, c.overEth = true) :
    OnTransport .rawEth calls := by
  apply onTransport_of_forall
  intro c hc env txFrame f hf
  have hu := h c hc
  cases c with
  | tc6SendRawEthernetPacket len =>
    simp only [busFrame] at hf
    split at hf
    · cases hf; rfl
    · cases hf
  | udpSendto payload => cases hu
  | _ => cases hf

theorem showLed_all {p : HbCall → Bool} (hlow : p .led0SetLow = true) (hhigh : p .led0SetHigh = true)
    (paused : Bool) (ledState : UInt8) : (showLed paused ledState).all p = true := by
  unfold showLed
  repeat' split
  all_goals simp [hlow, hhigh]

theorem onAck_all {p : HbCall → Bool} (hp : ∀ tx rx rtt avg, p (.report tx rx rtt avg) = true)
    (r : Rtt) (nowUs : UInt64) : (r.onAck nowUs).2.all p = true := by
  rcases Rtt.onAck_cases r nowUs with ⟨-, h⟩ | ⟨-, -, tx, rx, avg, h⟩
  · rw [h]; rfl
  · rw [h]; simp [hp]

theorem heartbeatSend_overUdp (h : UdpHb) (ledState : UInt8) (nowUs : UInt64) (lw : LwipAnswer) :
    (heartbeatSend h ledState nowUs lw).2.all HbCall.overUdp = true := by
  unfold heartbeatSend
  simp only
  repeat' split
  all_goals rfl

theorem heartbeatRecvCb_overUdp (h : UdpHb) (p : Option (List UInt8)) (nowUs : UInt64)
    (lw : LwipAnswer) : (heartbeatRecvCb h p nowUs lw).2.all HbCall.overUdp = true := by
  have hled := showLed_all (p := HbCall.overUdp) rfl rfl
  have hack := onAck_all (p := HbCall.overUdp) fun _ _ _ _ => rfl
  unfold heartbeatRecvCb
  simp only
  repeat' split
  all_goals simp [List.all_append, hled, hack, HbCall.overUdp]

theorem ethHbSendFrame_overEth (h : EthHb) (payload : UInt8) (tc6 : Bool) :
    (ethHbSendFrame h payload tc6).2.all HbCall.overEth = true := by
  unfold ethHbSendFrame
  repeat' split
  all_goals rfl

theorem ethHeartbeatSend_overEth (h : EthHb) (ledState : UInt8) (nowUs : UInt64) (tc6 : Bool) :
    (ethHeartbeatSend h ledState nowUs tc6).2.all HbCall.overEth = true := by
  unfold ethHeartbeatSend
  repeat' split
  · rfl
  · rfl
  · exact ethHbSendFrame_overEth _ ledState tc6

theorem ethHeartbeatRxHandler_overEth (h : EthHb) (pFrame : List UInt8) (len : UInt16)
    (nowUs : UInt64) (tc6 : Bool) :
    (ethHeartbeatRxHandler h pFrame len nowUs tc6).2.all HbCall.overEth = true := by
  have hled := showLed_all (p := HbCall.overEth) rfl rfl
  unfold ethHeartbeatRxHandler
  split
  · rfl
  · split
    · rfl
    · cases h.role with
      | client => simp [List.all_append, hled, ethHbSendFrame_overEth]
      | server => exact onAck_all (p := HbCall.overEth) (fun _ _ _ _ => rfl) h.rtt nowUs

/-- An iteration that sends puts messages of its mode's transport on the bus. -/
theorem mainHeartbeat_onTransport (m : MainHb) (nowUs : UInt64) (lw : LwipAnswer) (tc6 : Bool) :
    OnTransport m.hbMode (mainHeartbeat m nowUs lw tc6).2 := by
  have hudp := showLed_all (p := HbCall.overUdp) rfl rfl
  have heth := showLed_all (p := HbCall.overEth) rfl rfl
  unfold mainHeartbeat MainHb.send
  cases hm : m.hbMode with
  | udp =>
    apply onTransport_udp
    rw [← List.all_eq_true]
    simp [List.all_append, hudp, heartbeatSend_overUdp]
  | rawEth =>
    apply onTransport_eth
    rw [← List.all_eq_true]
    simp [List.all_append, heth, ethHeartbeatSend_overEth]

/-- The client answers on the transport of the message. -/
theorem clientRecv_onTransport (n : Net) (m : Msg) (env : Env) :
    OnTransport m.transport (clientRecv n m env).2 := by
  unfold clientRecv
  cases m.transport with
  | udp =>
    apply onTransport_udp
    rw [← List.all_eq_true]
    exact heartbeatRecvCb_overUdp _ _ _ _
  | rawEth =>
    apply onTransport_eth
    rw [← List.all_eq_true]
    exact ethHeartbeatRxHandler_overEth _ _ _ _ _

/-! ## The invariant -/

def Net.inFlight (n : Net) : List Msg := n.toClient ++ n.toServer

structure NetInv (n : Net) : Prop where
  server : ServerOk n.server
  /-- A message comes from a send of its transport. -/
  msgs : ∀ m ∈ n.inFlight, At n.sends m.transport m.id
  /-- An armed timestamp is the time of the transport's last send. -/
  armed : ∀ t, n.server.armed t ≠ 0 → ∃ g, Latest n.sends t g (n.server.armed t)

theorem netInv_init (server client : Boot) : NetInv (netInit server client) :=
  ⟨⟨rfl, rfl, fun _ => rfl, rfl⟩, nofun, fun t h => absurd (by cases t <;> rfl) h⟩

/-- Every message after a step was in flight before it, or is the tick's own, or answers one that
was. -/
theorem mem_inFlight_step (n : Net) (e : NetEvent) (m : Msg)
    (h : m ∈ (netStep n e).1.inFlight) :
    m ∈ n.inFlight ∨
      (∃ env, e = .tick env ∧ m.transport = n.server.hbMode ∧ m.id = n.sends.length) ∨
      ∃ q ∈ n.inFlight, m.transport = q.transport ∧ m.id = q.id := by
  cases e with
  | tick env =>
    simp only [netStep, Net.inFlight, List.append_assoc, List.mem_append] at h
    rcases h with h | h | h
    · exact Or.inl (List.mem_append_left _ h)
    · exact Or.inr (Or.inl ⟨env, rfl, mainHeartbeat_onTransport _ _ _ _ env _ _ m h⟩)
    · exact Or.inl (List.mem_append_right _ h)
  | toClient i env =>
    simp only [netStep] at h
    cases hq : n.toClient[i]? with
    | none => simp only [hq] at h; exact Or.inl h
    | some q =>
      simp only [hq, Net.inFlight, List.mem_append] at h
      rcases h with h | h | h
      · exact Or.inl (List.mem_append_left _ (List.mem_of_mem_eraseIdx h))
      · exact Or.inl (List.mem_append_right _ h)
      · exact Or.inr (Or.inr ⟨q, List.mem_append_left _ (List.mem_of_getElem? hq),
          clientRecv_onTransport n q env env _ _ m h⟩)
  | toServer i env =>
    simp only [netStep] at h
    cases hq : n.toServer[i]? with
    | none => simp only [hq] at h; exact Or.inl h
    | some q =>
      simp only [hq, Net.inFlight, List.mem_append] at h
      rcases h with h | h
      · exact Or.inl (List.mem_append_left _ h)
      · exact Or.inl (List.mem_append_right _ (List.mem_of_mem_eraseIdx h))
  | loseToClient i =>
    simp only [netStep, Net.inFlight, List.mem_append] at h
    rcases h with h | h
    · exact Or.inl (List.mem_append_left _ (List.mem_of_mem_eraseIdx h))
    · exact Or.inl (List.mem_append_right _ h)
  | loseToServer i =>
    simp only [netStep, Net.inFlight, List.mem_append] at h
    rcases h with h | h
    · exact Or.inl (List.mem_append_left _ h)
    · exact Or.inl (List.mem_append_right _ (List.mem_of_mem_eraseIdx h))

/-- What a step does to the log. -/
theorem sends_step (n : Net) (e : NetEvent) :
    (∃ env, e = .tick env ∧ (netStep n e).1.sends = n.sends ++ [(n.server.hbMode, env.nowUs)]) ∨
      (∀ env, e ≠ .tick env) ∧ (netStep n e).1.sends = n.sends := by
  cases e with
  | tick env => exact Or.inl ⟨env, rfl, rfl⟩
  | toClient i env =>
    refine Or.inr ⟨fun _ h => NetEvent.noConfusion h, ?_⟩
    simp only [netStep]
    split <;> rfl
  | toServer i env =>
    refine Or.inr ⟨fun _ h => NetEvent.noConfusion h, ?_⟩
    simp only [netStep]
    split <;> rfl
  | loseToClient i => exact Or.inr ⟨fun _ h => NetEvent.noConfusion h, rfl⟩
  | loseToServer i => exact Or.inr ⟨fun _ h => NetEvent.noConfusion h, rfl⟩

theorem msgs_step (n : Net) (e : NetEvent) (h : NetInv n) :
    ∀ m ∈ (netStep n e).1.inFlight, At (netStep n e).1.sends m.transport m.id := by
  have hkeep : ∀ t i, At n.sends t i → At (netStep n e).1.sends t i := by
    intro t i hat
    rcases sends_step n e with ⟨env, -, hs⟩ | ⟨-, hs⟩
    · rw [hs]; exact hat.append _
    · rw [hs]; exact hat
  intro m hm
  rcases mem_inFlight_step n e m hm with hm | ⟨env, rfl, ht, hid⟩ | ⟨q, hq, ht, hid⟩
  · exact hkeep _ _ (h.msgs m hm)
  · rw [ht, hid]
    exact at_append_last n.sends n.server.hbMode env.nowUs
  · rw [ht, hid]
    exact hkeep _ _ (h.msgs q hq)

/-- What one event preserves. -/
theorem netInv_step (n : Net) (e : NetEvent) (h : NetInv n) : NetInv (netStep n e).1 := by
  have hmsgs := msgs_step n e h
  cases e with
  | tick env =>
    obtain ⟨hok, hown, hother⟩ :=
      mainHeartbeat_armed n.server h.server env.nowUs env.lw env.tc6
    refine ⟨hok, hmsgs, fun t ht => ?_⟩
    by_cases hm : t = n.server.hbMode
    · subst hm
      rcases hown with hz | hn
      · exact absurd hz ht
      · refine ⟨n.sends.length, ?_⟩
        show Latest (n.sends ++ [(n.server.hbMode, env.nowUs)]) _ _ _
        rw [show (netStep n (.tick env)).1.server.armed n.server.hbMode = env.nowUs from hn]
        exact latest_append_self _ _ _
    · rcases hother t hm with hz | he
      · exact absurd hz ht
      · have ht' : n.server.armed t ≠ 0 := fun hz => ht (he.trans hz)
        obtain ⟨g, hg⟩ := h.armed t ht'
        refine ⟨g, ?_⟩
        rw [show (netStep n (.tick env)).1.server.armed t = n.server.armed t from he]
        exact hg.append_other (Ne.symm hm) env.nowUs
  | toClient i env =>
    simp only [netStep] at hmsgs ⊢
    cases hq : n.toClient[i]? with
    | none => exact h
    | some q =>
      simp only [hq] at hmsgs ⊢
      exact ⟨h.server, hmsgs, h.armed⟩
  | toServer i env =>
    simp only [netStep] at hmsgs ⊢
    cases hq : n.toServer[i]? with
    | none => exact h
    | some q =>
      simp only [hq] at hmsgs ⊢
      have hr := serverRecv_spec n.server h.server q env
      refine ⟨hr.ok, hmsgs, fun t ht => ?_⟩
      rcases hr.armed t with hz | he
      · exact absurd hz ht
      · show ∃ g, Latest n.sends t g ((serverRecv n.server q env).1.armed t)
        rw [he]
        exact h.armed t fun hz => ht (he.trans hz)
  | loseToClient i => exact ⟨h.server, hmsgs, h.armed⟩
  | loseToServer i => exact ⟨h.server, hmsgs, h.armed⟩

/-! ## Runs in which nothing old is in flight -/

/-- When a heartbeat is sent, nothing of its transport is in flight. -/
def Quiet (n : Net) : NetEvent → Prop
  | .tick _ => ∀ m ∈ n.inFlight, m.transport ≠ n.server.hbMode
  | _ => True

/-- Messages in flight come from the last send of their transport. -/
def QuietInv (n : Net) : Prop :=
  ∀ m ∈ n.inFlight, ∀ j, At n.sends m.transport j → j ≤ m.id

theorem quietInv_step (n : Net) (e : NetEvent) (h : QuietInv n) (hq : Quiet n e) :
    QuietInv (netStep n e).1 := by
  intro m hm j hj
  rcases sends_step n e with ⟨env, rfl, hs⟩ | ⟨hne, hs⟩
  · rw [hs] at hj
    by_cases hmode : m.transport = n.server.hbMode
    · rcases mem_inFlight_step n _ m hm with hm | ⟨env', -, -, hid⟩ | ⟨q, hq', ht, -⟩
      · exact absurd hmode (hq m hm)
      · have := hj.lt
        rw [List.length_append, List.length_singleton] at this
        omega
      · exact absurd (ht.symm.trans hmode) (hq q hq')
    · have hj' := hj.of_append_other (Ne.symm hmode)
      rcases mem_inFlight_step n _ m hm with hm | ⟨env', -, ht, -⟩ | ⟨q, hq', ht, hid⟩
      · exact h m hm j hj'
      · exact absurd ht hmode
      · rw [hid]; exact h q hq' j (ht ▸ hj')
  · rw [hs] at hj
    rcases mem_inFlight_step n e m hm with hm | ⟨env, he, -, -⟩ | ⟨q, hq', ht, hid⟩
    · exact h m hm j hj
    · exact absurd he (hne env)
    · rw [hid]; exact h q hq' j (ht ▸ hj)

/-! ## Samples -/

/-- Where a sample comes from: an ACK in flight to the server. -/
theorem sample_of_step (n : Net) (e : NetEvent) (h : NetInv n) (o : Sample)
    (ho : o ∈ (netStep n e).2) :
    ∃ m ∈ n.inFlight, o.transport = m.transport ∧ o.ackFor = m.id ∧
      n.server.armed m.transport ≠ 0 ∧
      o.rttUs = (o.nowUs - n.server.armed m.transport).toUInt32 := by
  cases e with
  | toServer i env =>
    simp only [netStep] at ho
    cases hq : n.toServer[i]? with
    | none => simp [hq] at ho
    | some q =>
      simp only [hq] at ho
      obtain ⟨h0, rfl⟩ := (serverRecv_spec n.server h.server q env).sample o ho
      exact ⟨q, List.mem_append_right _ (List.mem_of_getElem? hq), rfl, rfl, h0, rfl⟩
  | toClient i env =>
    simp only [netStep] at ho
    cases hq : n.toClient[i]? with
    | none => simp [hq] at ho
    | some q => simp [hq] at ho
  | tick env => cases ho
  | loseToClient i => cases ho
  | loseToServer i => cases ho

/-- **What a sample is measured against.**  In every run, the time subtracted is that of the last
send of the transport, and the ACK answers a send of that transport not later than it: this very
send exactly if none was made since the one it answers, so always if nothing of a transport was in
flight whenever a heartbeat was sent on it. -/
theorem rtt_of_last_send (server client : Boot) (es : List NetEvent) (e : NetEvent) :
    let n := exec netStep (netInit server client) es
    ∀ o ∈ (netStep n e).2, ∃ g t, Latest n.sends o.transport g t ∧
      o.rttUs = (o.nowUs - t).toUInt32 ∧ At n.sends o.transport o.ackFor ∧ o.ackFor ≤ g ∧
      (o.ackFor = g ↔ ∀ j, At n.sends o.transport j → j ≤ o.ackFor) ∧
      (Along netStep Quiet (netInit server client) es → o.ackFor = g) := by
  intro n o ho
  have hinv : NetInv n :=
    exec_inv_all netStep NetInv netInv_step es _ (netInv_init server client)
  obtain ⟨m, hm, ht, hid, h0, hrtt⟩ := sample_of_step n e hinv o ho
  obtain ⟨g, hg⟩ := hinv.armed m.transport h0
  have hat := hinv.msgs m hm
  rw [ht, hid]
  have hle := hg.2 m.id hat
  have hlast : (∀ j, At n.sends m.transport j → j ≤ m.id) → m.id = g :=
    fun hall => Nat.le_antisymm hle (hall g ⟨_, hg.1⟩)
  refine ⟨g, _, hg, hrtt, hat, hle, ⟨fun he => he ▸ hg.2, hlast⟩, fun hquiet => ?_⟩
  have hq : QuietInv n :=
    exec_inv netStep Quiet QuietInv quietInv_step es _ (fun m h => by cases h) hquiet
  exact hlast (hq m hm)

/-- Everything works at time `nowUs`. -/
def envAt (nowUs : UInt64) : Env := ⟨nowUs, ⟨true, .errOk, .errOk⟩, true, true⟩

def bootOk : Boot := ⟨true, .errOk, none⟩

/-- A heartbeat sent and delivered; its ACK is in flight. -/
def firstExchange : List NetEvent := [.tick (envAt 1000), .toClient 0 (envAt 1200)]

/-- Its ACK gives 500 us against its own time. -/
theorem rtt_of_last_send_prompt :
    ∃ t, Latest (exec netStep (netInit bootOk bootOk) firstExchange).sends .udp 0 t ∧
      (500 : UInt32) = (1500 - t).toUInt32 := by
  obtain ⟨g, t, hg, hrtt, -, -, -, hquiet⟩ := rtt_of_last_send bootOk bootOk firstExchange
    (.toServer 0 (envAt 1500)) ⟨.udp, 0, 1500, 500⟩ (by decide +kernel)
  obtain rfl : 0 = g := hquiet ⟨nofun, trivial, trivial⟩
  exact ⟨t, hg, hrtt⟩

/-- The first ACK comes after the second heartbeat was sent. -/
def lateAck : List NetEvent := firstExchange ++ [.tick (envAt 501000)]

/-- It is taken for an answer to the second: 500 us instead of 500500. -/
theorem rtt_of_other_send :
    ¬ ∀ (server client : Boot) (es : List NetEvent) (e : NetEvent),
      let n := exec netStep (netInit server client) es
      ∀ o ∈ (netStep n e).2, ∃ t, n.sends[o.ackFor]? = some (o.transport, t) ∧
        o.rttUs = (o.nowUs - t).toUInt32 := by
  intro h
  obtain ⟨t, ht, hr⟩ := h bootOk bootOk lateAck (.toServer 0 (envAt 501500))
    ⟨.udp, 0, 501500, 500⟩ (by decide +kernel)
  have hs : (exec netStep (netInit bootOk bootOk) lateAck).sends[0]? = some (.udp, 1000) := by
    decide +kernel
  obtain rfl : (1000 : UInt64) = t := by
    have h1 := hs.symm.trans ht
    simpa using h1
  exact absurd hr (by decide)

end CuriosityT1S
