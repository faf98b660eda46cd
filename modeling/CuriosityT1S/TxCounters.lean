import CuriosityT1S.Heartbeat
import Mathlib.Algebra.Group.Nat.Defs

/-!
# What the transmit counters count

`tx_count` is meant as the number of heartbeats or ACKs sent.  Only the UDP server looks at
the answer of the layer below before it counts; the UDP client counts whatever
`udp_sendto` returns, and the raw module even when no frame was handed to TC6.

    TxStep:            a call counts what is accepted, and what is lost
    txCount_right_iff: `tx_count` is the number accepted, along every run, if and only if
                       nothing is lost (and the count fits 32 bits)
-/

namespace CuriosityT1S

open Mealy

/-! ## Transmissions -/

/-- A frame or datagram handed to the layer below. -/
def HbCall.isTx : HbCall → Bool
  | .udpSendto _ | .tc6SendRawEthernetPacket _ => true
  | _ => false

/-- A heartbeat module as its transmissions are seen: what the layer below answers in a call, and
whether the module counts a transmission that is not accepted (`lost`). -/
structure TxModule (σ ι : Type) where
  step : σ → ι → σ × List HbCall
  accepts : ι → Bool
  lost : σ → ι → Bool
  rtt : σ → Rtt

/-- The answer of `udp_sendto`. -/
def UdpHbEvent.accepts : UdpHbEvent → Bool
  | .send _ _ lw | .recv _ _ lw => lw.udpSendto = .errOk
  | _ => false

/-- An ACK that `udp_sendto` does not take. -/
def udpHbLost (h : UdpHb) : UdpHbEvent → Bool
  | .recv (some p) _ lw =>
    h.role = .client && decide (p.length ≥ heartbeatPktSize) && lw.pbufAlloc &&
      decide (lw.pbufTake = .errOk) && decide (lw.udpSendto ≠ .errOk)
  | _ => false

/-- The Boolean is the answer of `TC6_SendRawEthernetPacket`.  A frame is lost if there is no
interface, no TC6 instance or no room in the queue. -/
def ethHbLost (h : EthHb) (e : EthHbEvent × Bool) : Bool :=
  match e.1 with
  | .send _ _ tc6 =>
    h.initialized && decide (h.role = .server) && !(tc6LwipGetNetIf h.tc6Idx && tc6 && e.2)
  | .rx _ len _ tc6 =>
    h.initialized && !decide (len < ethHbFrameSize) && decide (h.role = .client) &&
      !(tc6LwipGetNetIf h.tc6Idx && tc6 && e.2)
  | _ => false

def udpTxModule : TxModule UdpHb UdpHbEvent :=
  ⟨udpHbStep, UdpHbEvent.accepts, udpHbLost, UdpHb.rtt⟩

def ethTxModule : TxModule EthHb (EthHbEvent × Bool) :=
  ⟨fun h e => ethHbStep h e.1, Prod.snd, ethHbLost, EthHb.rtt⟩

section
variable {σ ι : Type} (m : TxModule σ ι)

def TxModule.txCount (s : σ) : UInt32 := (m.rtt s).stats.txCount

/-- The transmissions of one call that are accepted. -/
def TxModule.accepted (s : σ) (e : ι) : Nat :=
  if m.accepts e then (m.step s e).2.countP HbCall.isTx else 0

/-- A module next to the number of transmissions accepted so far. -/
structure Counted (σ : Type) where
  hb : σ
  accepted : Nat
deriving DecidableEq, Repr

def TxModule.countedStep (s : Counted σ) (e : ι) : Counted σ × List HbCall :=
  (⟨(m.step s.hb e).1, s.accepted + m.accepted s.hb e⟩, (m.step s.hb e).2)

/-- After the call the counter is the number accepted. -/
def TxModule.CountRight (s : Counted σ) (e : ι) : Prop :=
  (m.txCount (m.countedStep s e).1.hb).toNat = (m.countedStep s e).1.accepted

/-- Nothing is lost, and the number accepted fits the counter. -/
def TxModule.NothingLost (s : Counted σ) (e : ι) : Prop :=
  m.lost s.hb e = false ∧ s.accepted + m.accepted s.hb e < 2 ^ 32

/-- A call counts at most one transmission, accepted or lost. -/
structure TxStep (s : σ) (e : ι) : Prop where
  atMostOne : m.accepted s e + (m.lost s e).toNat ≤ 1
  count : m.txCount (m.step s e).1 =
    m.txCount s + UInt32.ofNat (m.accepted s e + (m.lost s e).toNat)

variable {m}

/-- A call that transmits and counts nothing. -/
theorem TxStep.quiet {s : σ} {e : ι} (htx : (m.step s e).2.countP HbCall.isTx = 0)
    (hlost : m.lost s e = false) (hcount : m.txCount (m.step s e).1 = m.txCount s) :
    TxStep m s e := by
  have hacc : m.accepted s e = 0 := by
    unfold TxModule.accepted
    rw [htx, ite_self]
  exact ⟨by rw [hacc, hlost]; decide, by rw [hacc, hlost, hcount]; simp⟩

/-- A call that counts one transmission: it is accepted or it is lost. -/
theorem TxStep.one {s : σ} {e : ι} (hone : m.accepted s e + (m.lost s e).toNat = 1)
    (hcount : m.txCount (m.step s e).1 = m.txCount s + 1) : TxStep m s e :=
  ⟨Nat.le_of_eq hone, by rw [hone, hcount]; rfl⟩

theorem countRight_step_iff (h : ∀ s e, TxStep m s e) (s : Counted σ) (e : ι)
    (hs : (m.txCount s.hb).toNat = s.accepted) : m.CountRight s e ↔ m.NothingLost s e := by
  obtain ⟨hle, hcount⟩ := h s.hb e
  have hlt := (m.txCount s.hb).toNat_lt
  unfold TxModule.CountRight TxModule.NothingLost TxModule.countedStep
  simp only [hcount, UInt32.toNat_add, UInt32.toNat_ofNat']
  rw [hs] at hlt ⊢
  cases hl : m.lost s.hb e with
  | true =>
    rw [hl] at hle
    simp only [Bool.toNat_true] at hle ⊢
    have hacc : m.accepted s.hb e = 0 := by omega
    rw [hacc]
    constructor
    · intro h1; omega
    · rintro ⟨h1, -⟩; cases h1
  | false =>
    rw [hl] at hle
    simp only [Bool.toNat_false, Nat.add_zero, true_and] at hle ⊢
    omega

/-- A module that counts at most one transmission a call, started with a cleared counter. -/
theorem countRight_iff (h : ∀ s e, TxStep m s e) (s0 : σ) (h0 : m.txCount s0 = 0) (es : List ι) :
    Along m.countedStep m.CountRight ⟨s0, 0⟩ es ↔ Along m.countedStep m.NothingLost ⟨s0, 0⟩ es :=
  along_iff m.countedStep m.CountRight m.NothingLost
    (fun s => (m.txCount s.hb).toNat = s.accepted) (countRight_step_iff h)
    (fun _ _ _ hright => hright) es ⟨s0, 0⟩ (by rw [h0]; rfl)

end

/-! ## The calls of the two modules -/

theorem countP_isTx_showLed (paused : Bool) (ledState : UInt8) :
    (showLed paused ledState).countP HbCall.isTx = 0 := by
  unfold showLed
  split
  · rfl
  · split <;> rfl

/-- Reports are no transmissions, and recording an ACK does not count one. -/
theorem onAck_tx (r : Rtt) (nowUs : UInt64) :
    (r.onAck nowUs).2.countP HbCall.isTx = 0 ∧
      (r.onAck nowUs).1.stats.txCount = r.stats.txCount := by
  unfold Rtt.onAck
  split <;> exact ⟨rfl, rfl⟩

/-- The server counts what `udp_sendto` has taken. -/
theorem udpHb_send_txStep (h : UdpHb) (ledState : UInt8) (nowUs : UInt64) (lw : LwipAnswer) :
    TxStep udpTxModule h (.send ledState nowUs lw) := by
  rcases heartbeatSend_cases h ledState nowUs lw with ⟨-, hstep⟩ | ⟨-, ts, frees, hfrees, hstep⟩
  · by_cases hok : lw.udpSendto = .errOk
    · rw [if_pos hok] at hstep
      apply TxStep.one
      · simp [TxModule.accepted, udpTxModule, UdpHbEvent.accepts, hok, udpHbStep, hstep, udpHbLost]
        rfl
      · simp [TxModule.txCount, udpTxModule, udpHbStep, hstep, Rtt.countTx]
    · rw [if_neg hok] at hstep
      have hacc : udpTxModule.accepted h (.send ledState nowUs lw) = 0 := by
        simp [TxModule.accepted, udpTxModule, UdpHbEvent.accepts, hok]
      have hlost : udpTxModule.lost h (.send ledState nowUs lw) = false := rfl
      refine ⟨by rw [hacc, hlost]; decide, ?_⟩
      rw [hacc, hlost]
      simp [TxModule.txCount, udpTxModule, udpHbStep, hstep]
  · refine TxStep.quiet ?_ rfl ?_
    · show (heartbeatSend h ledState nowUs lw).2.countP HbCall.isTx = 0
      rw [hstep, List.countP_eq_zero]
      intro c hc
      rw [hfrees c hc]
      simp [HbCall.isTx]
    · show (heartbeatSend h ledState nowUs lw).1.rtt.stats.txCount = _
      rw [hstep]
      rfl

/-- The client counts its ACK whatever `udp_sendto` answers. -/
theorem udpHb_recv_txStep (h : UdpHb) (p : Option (List UInt8)) (nowUs : UInt64)
    (lw : LwipAnswer) : TxStep udpTxModule h (.recv p nowUs lw) := by
  cases p with
  | none => exact TxStep.quiet rfl rfl rfl
  | some p =>
    cases hrole : h.role with
    | server =>
      obtain ⟨htx, hcount⟩ := onAck_tx h.rtt nowUs
      have hlost : udpHbLost h (.recv (some p) nowUs lw) = false := by simp [udpHbLost, hrole]
      have hquiet : (heartbeatRecvCb h (some p) nowUs lw).2.countP HbCall.isTx = 0 ∧
          (heartbeatRecvCb h (some p) nowUs lw).1.rtt.stats.txCount = h.rtt.stats.txCount := by
        rw [heartbeatRecvCb_server h hrole]
        split
        · exact ⟨by rw [List.countP_append, htx]; rfl, hcount⟩
        · exact ⟨rfl, rfl⟩
      exact TxStep.quiet hquiet.1 hlost hquiet.2
    | client =>
      have hled := countP_isTx_showLed h.paused (p.getD 0 0)
      rcases heartbeatRecvCb_client_cases h hrole p nowUs lw with
        ⟨hlen, halloc, htake, hstep⟩ | ⟨hack, led, frees, rtt, hshown, hfrees, hrtt, hstep⟩
      · apply TxStep.one
        · have hcalls : (heartbeatRecvCb h (some p) nowUs lw).2.countP HbCall.isTx = 1 := by
            rw [hstep, List.countP_append, hled]
            rfl
          by_cases hok : lw.udpSendto = .errOk
          · simp [TxModule.accepted, udpTxModule, udpHbStep, UdpHbEvent.accepts, hok, hcalls,
              udpHbLost]
          · simp [TxModule.accepted, udpTxModule, UdpHbEvent.accepts, hok, udpHbLost, hrole, hlen,
              halloc, htake]
        · show (heartbeatRecvCb h (some p) nowUs lw).1.rtt.stats.txCount = _
          rw [hstep]
          rfl
      · have hlost : udpHbLost h (.recv (some p) nowUs lw) = false := by
          simp only [udpHbLost, hrole]
          grind
        have hnone : led.countP HbCall.isTx = 0 ∧ frees.countP HbCall.isTx = 0 := by
          constructor
          · rcases hshown with rfl | rfl
            · rfl
            · exact hled
          · rw [List.countP_eq_zero]
            intro c hc
            rcases hfrees c hc with rfl | rfl <;> simp [HbCall.isTx]
        refine TxStep.quiet ?_ hlost ?_
        · show (heartbeatRecvCb h (some p) nowUs lw).2.countP HbCall.isTx = 0
          rw [hstep, List.countP_append, hnone.1, hnone.2]
        · show (heartbeatRecvCb h (some p) nowUs lw).1.rtt.stats.txCount = _
          rw [hstep]
          rcases hrtt with rfl | rfl <;> rfl

theorem udpHb_txStep (h : UdpHb) (e : UdpHbEvent) : TxStep udpTxModule h e := by
  cases e with
  | send ledState nowUs lw => exact udpHb_send_txStep h ledState nowUs lw
  | recv p nowUs lw => exact udpHb_recv_txStep h p nowUs lw
  | setPaused paused => exact TxStep.quiet rfl rfl rfl
  | resetRtt => exact TxStep.quiet rfl rfl rfl

/-- A frame is handed to TC6 if there are an interface and an instance. -/
theorem ethHbSendFrame_tx (h : EthHb) (payload : UInt8) (tc6 : Bool) :
    (ethHbSendFrame h payload tc6).2.countP HbCall.isTx =
      (tc6LwipGetNetIf h.tc6Idx && tc6).toNat := by
  unfold ethHbSendFrame
  cases tc6LwipGetNetIf h.tc6Idx with
  | false => rfl
  | true => cases tc6 <;> rfl

theorem ethHbSendFrame_countTx (h : EthHb) (payload : UInt8) (tc6 : Bool) :
    (ethHbSendFrame h payload tc6).1.rtt.countTx.stats.txCount = h.rtt.stats.txCount + 1 := by
  rw [ethHbSendFrame_frame]
  rfl

/-- Accepted or lost, a frame is one or the other. -/
theorem accepted_add_lost (handed queued : Bool) :
    (if queued then handed.toNat else 0) + (!(handed && queued)).toNat = 1 := by
  cases handed <;> cases queued <;> rfl

theorem ethHeartbeatSend_eq (h : EthHb) (hi : h.initialized = true) (hs : h.role = .server)
    (ledState : UInt8) (nowUs : UInt64) (tc6 : Bool) :
    ethHeartbeatSend h ledState nowUs tc6 =
      let r := ethHbSendFrame { h with rtt := { h.rtt with sendTimestampUs := nowUs } } ledState tc6
      ({ r.1 with rtt := r.1.rtt.countTx }, r.2) := by
  unfold ethHeartbeatSend
  rw [if_neg (by simp [hi]), if_neg (by simp [hs])]

/-- The server counts whatever becomes of the frame. -/
theorem ethHb_send_txStep (h : EthHb) (ledState : UInt8) (nowUs : UInt64) (tc6 queued : Bool) :
    TxStep ethTxModule h (.send ledState nowUs tc6, queued) := by
  by_cases hsend : h.initialized = true ∧ h.role = .server
  · obtain ⟨hinit, hrole⟩ := hsend
    have hstep := ethHeartbeatSend_eq h hinit hrole ledState nowUs tc6
    apply TxStep.one
    · show (if queued then (ethHeartbeatSend h ledState nowUs tc6).2.countP HbCall.isTx else 0) +
        (ethHbLost h (.send ledState nowUs tc6, queued)).toNat = 1
      have hlost : ethHbLost h (.send ledState nowUs tc6, queued) =
          !((tc6LwipGetNetIf h.tc6Idx && tc6) && queued) := by simp [ethHbLost, hinit, hrole]
      rw [hstep, hlost, ethHbSendFrame_tx]
      exact accepted_add_lost _ queued
    · show (ethHeartbeatSend h ledState nowUs tc6).1.rtt.stats.txCount = h.rtt.stats.txCount + 1
      rw [hstep]
      exact ethHbSendFrame_countTx _ ledState tc6
  · have hlost : ethHbLost h (.send ledState nowUs tc6, queued) = false := by
      simp only [ethHbLost]
      grind
    have hstep : ethHeartbeatSend h ledState nowUs tc6 = (h, []) := by
      unfold ethHeartbeatSend
      split
      · rfl
      · next hinit =>
        rw [if_pos fun hrole => hsend ⟨by simpa using hinit, hrole⟩]
    exact TxStep.quiet (by simp [ethTxModule, ethHbStep, hstep]) hlost
      (by simp [TxModule.txCount, ethTxModule, ethHbStep, hstep])

/-- The client counts its ACK whatever becomes of it. -/
theorem ethHb_rx_txStep (h : EthHb) (pFrame : List UInt8) (len : UInt16) (nowUs : UInt64)
    (tc6 queued : Bool) : TxStep ethTxModule h (.rx pFrame len nowUs tc6, queued) := by
  by_cases hok : h.initialized = true ∧ ¬ len < ethHbFrameSize
  · obtain ⟨hinit, hlen⟩ := hok
    cases hrole : h.role with
    | server =>
      obtain ⟨htx, hcount⟩ := onAck_tx h.rtt nowUs
      have hstep := ethHeartbeatRxHandler_server h hrole hinit pFrame len nowUs tc6
      rw [if_neg hlen] at hstep
      exact TxStep.quiet (by simp only [ethTxModule, ethHbStep, hstep]; exact htx)
        (by simp [ethTxModule, ethHbLost, hrole])
        (by simp only [TxModule.txCount, ethTxModule, ethHbStep, hstep]; exact hcount)
    | client =>
      have hled := countP_isTx_showLed h.paused (pFrame.getD ethHbHdrSize 0)
      have hstep := ethHeartbeatRxHandler_client h hrole hinit pFrame len nowUs tc6
      rw [if_neg hlen] at hstep
      apply TxStep.one
      · show (if queued then
            (ethHeartbeatRxHandler h pFrame len nowUs tc6).2.countP HbCall.isTx else 0) +
          (ethHbLost h (.rx pFrame len nowUs tc6, queued)).toNat = 1
        have hlost : ethHbLost h (.rx pFrame len nowUs tc6, queued) =
            !((tc6LwipGetNetIf h.tc6Idx && tc6) && queued) := by
          simp [ethHbLost, hinit, hrole, hlen]
        rw [hstep, hlost, List.countP_append, hled, Nat.zero_add, ethHbSendFrame_tx]
        exact accepted_add_lost _ queued
      · show (ethHeartbeatRxHandler h pFrame len nowUs tc6).1.rtt.stats.txCount =
          h.rtt.stats.txCount + 1
        rw [hstep]
        exact ethHbSendFrame_countTx _ ethHbAckByte tc6
  · have hlost : ethHbLost h (.rx pFrame len nowUs tc6, queued) = false := by
      simp only [ethHbLost]
      grind
    have hstep : ethHeartbeatRxHandler h pFrame len nowUs tc6 = (h, []) := by
      unfold ethHeartbeatRxHandler
      split
      · rfl
      · next hinit =>
        rw [if_pos (by
          by_cases hlen : len < ethHbFrameSize
          · exact hlen
          · exact absurd ⟨by simpa using hinit, hlen⟩ hok)]
    exact TxStep.quiet (by simp [ethTxModule, ethHbStep, hstep]) hlost
      (by simp [TxModule.txCount, ethTxModule, ethHbStep, hstep])

theorem ethHb_txStep (h : EthHb) (e : EthHbEvent × Bool) : TxStep ethTxModule h e := by
  obtain ⟨e, queued⟩ := e
  cases e with
  | send ledState nowUs tc6 => exact ethHb_send_txStep h ledState nowUs tc6 queued
  | rx pFrame len nowUs tc6 => exact ethHb_rx_txStep h pFrame len nowUs tc6 queued
  | setPaused paused => exact TxStep.quiet rfl rfl rfl
  | resetRtt => exact TxStep.quiet rfl rfl rfl

/-! ## Runs -/

/-- **The transmit counters.**  In both modules and both roles, along every run after the
initialisation, `tx_count` is the number of transmissions accepted, if and only if nothing that
is counted is lost and the number fits 32 bits. -/
theorem txCount_right_iff (udp : UdpHb) (eth : EthHb) (role : BoardRole) (udpNew : Bool)
    (udpBind : ErrT) (mac : Option (Vector UInt8 6)) (udpEvents : List UdpHbEvent)
    (ethEvents : List (EthHbEvent × Bool)) :
    (Along udpTxModule.countedStep udpTxModule.CountRight
        ⟨heartbeatInit udp role udpNew udpBind, 0⟩ udpEvents ↔
      Along udpTxModule.countedStep udpTxModule.NothingLost
        ⟨heartbeatInit udp role udpNew udpBind, 0⟩ udpEvents) ∧
    (Along ethTxModule.countedStep ethTxModule.CountRight
        ⟨ethHeartbeatInit eth role mac, 0⟩ ethEvents ↔
      Along ethTxModule.countedStep ethTxModule.NothingLost
        ⟨ethHeartbeatInit eth role mac, 0⟩ ethEvents) :=
  ⟨countRight_iff udpHb_txStep (heartbeatInit udp role udpNew udpBind) rfl udpEvents,
    countRight_iff ethHb_txStep (ethHeartbeatInit eth role mac) rfl ethEvents⟩

/-- An ACK that lwIP has no route for, and a raw heartbeat that finds the queue of TC6 full, are
counted all the same. -/
theorem txCount_not_always_right :
    (¬ ∀ es : List UdpHbEvent, Along udpTxModule.countedStep udpTxModule.CountRight
      ⟨heartbeatInit .zero .client true .errOk, 0⟩ es) ∧
    ¬ ∀ es : List (EthHbEvent × Bool), Along ethTxModule.countedStep ethTxModule.CountRight
      ⟨ethHeartbeatInit .zero .server none, 0⟩ es := by
  constructor
  · intro h
    obtain ⟨hright, -⟩ := h [.recv (some [1]) 1000 ⟨true, .errOk, .errRte⟩]
    exact absurd hright (by unfold TxModule.CountRight; decide)
  · intro h
    obtain ⟨hright, -⟩ := h [(.send 1 1000 true, false)]
    exact absurd hright (by unfold TxModule.CountRight; decide)

end CuriosityT1S
