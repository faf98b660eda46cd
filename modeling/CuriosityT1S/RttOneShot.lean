import CuriosityT1S.Heartbeat

/-!
# A send pays for at most one RTT sample

On the server both modules arm a timestamp when they send, and a sample is
recorded only by taking it away.  The armed timestamp is a credit of one
(`Rtt.credit`): a send gives it, a sample or a reset takes it, nothing else
does.

    RttStep:      what one call of either module can do to `Rtt`
    RttOneShot:   the consequences over a run
    rtt_oneShot:  both modules on the server have them
-/

namespace CuriosityT1S

open Mealy

/-! ## The credit -/

/-- One if a send is waiting for its ACK. -/
def Rtt.credit (r : Rtt) : Nat := if r.sendTimestampUs = 0 then 0 else 1

/-- A call that records a sample reports it. -/
def HbCall.isReport : HbCall → Bool
  | .report _ _ _ _ => true
  | _ => false

/-- The samples recorded by some calls. -/
def samples (calls : List HbCall) : Nat := calls.countP HbCall.isReport

theorem Rtt.credit_le (r : Rtt) : r.credit ≤ 1 := by
  unfold Rtt.credit
  split <;> omega

theorem Rtt.credit_zero (stats : HbStats) : Rtt.credit ⟨0, stats⟩ = 0 := rfl

/-- The figures a packet without a sample must leave alone. -/
def HbStats.figures (s : HbStats) : UInt32 × UInt32 × UInt32 :=
  (s.lastRttUs, s.avgRttUs, s.rxCount)

/-- `n` samples are recorded between `r` and `r'`: one takes the credit and is counted; with none
the figures stay, and a call that gives no credit leaves at most what was there. -/
structure RttStep (gives : Bool) (r r' : Rtt) (n : Nat) : Prop where
  credit : n + r'.credit ≤ (if gives then 1 else 0) + r.credit
  rxCount : r'.stats.rxCount.toNat ≤ r.stats.rxCount.toNat + n
  figures : n = 0 → r'.stats.figures = r.stats.figures

theorem RttStep.refl (gives : Bool) (r : Rtt) : RttStep gives r r 0 :=
  ⟨by omega, by omega, fun _ => rfl⟩

/-- A call that records nothing and gives no credit. -/
theorem RttStep.quiet {gives : Bool} {r r' : Rtt}
    (hc : r'.credit ≤ (if gives then 1 else 0) + r.credit)
    (hf : r'.stats.figures = r.stats.figures) : RttStep gives r r' 0 := by
  refine ⟨by omega, ?_, fun _ => hf⟩
  have h : r'.stats.rxCount = r.stats.rxCount := congrArg (fun f => f.2.2) hf
  rw [h]
  omega

/-- A send arms the timestamp, unless the clock reads 0. -/
theorem RttStep.arm (r : Rtt) (nowUs : UInt64) (stats : HbStats)
    (hf : stats.figures = r.stats.figures) : RttStep true r ⟨nowUs, stats⟩ 0 := by
  apply RttStep.quiet _ hf
  have := Rtt.credit_le ⟨nowUs, stats⟩
  simp only [if_true]
  omega

theorem RttStep.reset (r : Rtt) : RttStep false r ⟨0, r.stats⟩ 0 :=
  RttStep.quiet (by rw [Rtt.credit_zero]; omega) rfl

/-- An ACK takes the credit, if there is one, for one sample. -/
theorem RttStep.onAck (r : Rtt) (nowUs : UInt64) :
    RttStep false r (r.onAck nowUs).1 (samples (r.onAck nowUs).2) := by
  unfold Rtt.onAck
  by_cases h : r.sendTimestampUs = 0
  · rw [if_pos (by simpa using h)]
    exact RttStep.refl false r
  · rw [if_neg (by simpa using h)]
    refine ⟨?_, ?_, fun h0 => by simp [samples, HbCall.isReport] at h0⟩
    · have hr : r.credit = 1 := if_neg h
      show 1 + Rtt.credit ⟨0, _⟩ ≤ 0 + r.credit
      rw [Rtt.credit_zero]
      omega
    · show (r.stats.rxCount + 1).toNat ≤ r.stats.rxCount.toNat + 1
      rw [UInt32.toNat_add]
      exact Nat.mod_le _ _

/-! ## One call of each module -/

def UdpHbEvent.isSend : UdpHbEvent → Bool
  | .send _ _ _ => true
  | _ => false

def UdpHbEvent.isPacket : UdpHbEvent → Bool
  | .recv _ _ _ => true
  | _ => false

def EthHbEvent.isSend : EthHbEvent → Bool
  | .send _ _ _ => true
  | _ => false

def EthHbEvent.isPacket : EthHbEvent → Bool
  | .rx _ _ _ _ => true
  | _ => false

theorem heartbeatSend_rttStep (h : UdpHb) (ledState : UInt8) (nowUs : UInt64) (lw : LwipAnswer) :
    RttStep true h.rtt (heartbeatSend h ledState nowUs lw).1.rtt
      (samples (heartbeatSend h ledState nowUs lw).2) := by
  unfold heartbeatSend
  split
  · exact RttStep.refl true h.rtt
  · split
    · exact RttStep.refl true h.rtt
    · simp only
      split
      · split
        · split <;> exact RttStep.arm h.rtt nowUs _ rfl
        · exact RttStep.arm h.rtt nowUs _ rfl
      · exact RttStep.arm h.rtt nowUs _ rfl

/-- What the server's receive callback does. -/
theorem heartbeatRecvCb_rttStep (h : UdpHb) (hs : h.role = .server) (p : Option (List UInt8))
    (nowUs : UInt64) (lw : LwipAnswer) :
    RttStep false h.rtt (heartbeatRecvCb h p nowUs lw).1.rtt
      (samples (heartbeatRecvCb h p nowUs lw).2) := by
  cases p with
  | none => exact RttStep.refl false h.rtt
  | some p =>
    rw [heartbeatRecvCb_server h hs]
    split
    · have hack := RttStep.onAck h.rtt nowUs
      have hn : samples ((h.rtt.onAck nowUs).2 ++ [.pbufFreeRx]) = samples (h.rtt.onAck nowUs).2 := by
        unfold samples
        rw [List.countP_append]
        rfl
      rw [hn]
      exact hack
    · exact RttStep.refl false h.rtt

theorem udpHbStep_rttStep (h : UdpHb) (hs : h.role = .server) (e : UdpHbEvent) :
    RttStep e.isSend h.rtt (udpHbStep h e).1.rtt (samples (udpHbStep h e).2) := by
  cases e with
  | send ledState nowUs lw => exact heartbeatSend_rttStep h ledState nowUs lw
  | recv p nowUs lw => exact heartbeatRecvCb_rttStep h hs p nowUs lw
  | setPaused paused => exact RttStep.refl false h.rtt
  | resetRtt => exact RttStep.reset h.rtt

theorem udpHbStep_role (h : UdpHb) (e : UdpHbEvent) : (udpHbStep h e).1.role = h.role := by
  cases e with
  | send ledState nowUs lw =>
    unfold udpHbStep
    simp only
    rw [heartbeatSend_frame]
  | recv p nowUs lw =>
    unfold udpHbStep
    simp only
    rw [heartbeatRecvCb_frame]
  | setPaused paused => rfl
  | resetRtt => rfl

@[simp] theorem ethHbSendFrame_rtt (h : EthHb) (payload : UInt8) (tc6 : Bool) :
    (ethHbSendFrame h payload tc6).1.rtt = h.rtt := by
  unfold ethHbSendFrame
  split <;> rfl

@[simp] theorem samples_ethHbSendFrame (h : EthHb) (payload : UInt8) (tc6 : Bool) :
    samples (ethHbSendFrame h payload tc6).2 = 0 := by
  unfold ethHbSendFrame
  split
  · rfl
  · cases tc6 <;> rfl

theorem ethHeartbeatSend_rttStep (h : EthHb) (ledState : UInt8) (nowUs : UInt64) (tc6 : Bool) :
    RttStep true h.rtt (ethHeartbeatSend h ledState nowUs tc6).1.rtt
      (samples (ethHeartbeatSend h ledState nowUs tc6).2) := by
  unfold ethHeartbeatSend
  split
  · exact RttStep.refl true h.rtt
  · split
    · exact RttStep.refl true h.rtt
    · simp only [ethHbSendFrame_rtt, samples_ethHbSendFrame]
      exact RttStep.arm h.rtt nowUs _ rfl

/-- What the server's receive handler does. -/
theorem ethHeartbeatRxHandler_rttStep (h : EthHb) (hs : h.role = .server) (pFrame : List UInt8)
    (len : UInt16) (nowUs : UInt64) (tc6 : Bool) :
    RttStep false h.rtt (ethHeartbeatRxHandler h pFrame len nowUs tc6).1.rtt
      (samples (ethHeartbeatRxHandler h pFrame len nowUs tc6).2) := by
  by_cases hi : h.initialized = true
  · rw [ethHeartbeatRxHandler_server h hs hi]
    split
    · exact RttStep.refl false h.rtt
    · exact RttStep.onAck h.rtt nowUs
  · unfold ethHeartbeatRxHandler
    rw [if_pos (by simp [hi])]
    exact RttStep.refl false h.rtt

theorem ethHbStep_rttStep (h : EthHb) (hs : h.role = .server) (e : EthHbEvent) :
    RttStep e.isSend h.rtt (ethHbStep h e).1.rtt (samples (ethHbStep h e).2) := by
  cases e with
  | send ledState nowUs tc6 => exact ethHeartbeatSend_rttStep h ledState nowUs tc6
  | rx pFrame len nowUs tc6 => exact ethHeartbeatRxHandler_rttStep h hs pFrame len nowUs tc6
  | setPaused paused => exact RttStep.refl false h.rtt
  | resetRtt => exact RttStep.reset h.rtt

theorem ethHbStep_role (h : EthHb) (e : EthHbEvent) : (ethHbStep h e).1.role = h.role := by
  cases e with
  | send ledState nowUs tc6 =>
    unfold ethHbStep
    simp only
    rw [ethHeartbeatSend_frame]
  | rx pFrame len nowUs tc6 =>
    unfold ethHbStep
    simp only
    rw [ethHeartbeatRxHandler_frame]
  | setPaused paused => rfl
  | resetRtt => rfl

/-! ## Runs -/

/-- A heartbeat module as seen from outside: its calls, which of them send, reset or bring a
packet, and where its timestamp and statistics are. -/
structure HbModule (σ ι : Type) where
  step : σ → ι → σ × List HbCall
  isSend : ι → Bool
  isPacket : ι → Bool
  resetRtt : ι
  rtt : σ → Rtt

def udpHbModule : HbModule UdpHb UdpHbEvent :=
  ⟨udpHbStep, UdpHbEvent.isSend, UdpHbEvent.isPacket, .resetRtt, UdpHb.rtt⟩

def ethHbModule : HbModule EthHb EthHbEvent :=
  ⟨ethHbStep, EthHbEvent.isSend, EthHbEvent.isPacket, .resetRtt, EthHb.rtt⟩

/-- No sample without a send of its own, in every run from `s0`. -/
structure RttOneShot {σ ι : Type} (m : HbModule σ ι) (s0 : σ) : Prop where
  /-- Wherever in a run, at most one sample until the next send. -/
  atMostOne : ∀ pre mid : List ι, (∀ e ∈ mid, m.isSend e = false) →
    samples (emits m.step (exec m.step s0 pre) mid) ≤ 1
  /-- After a reset, none until the next send. -/
  noneAfterReset : ∀ pre mid : List ι, (∀ e ∈ mid, m.isSend e = false) →
    samples (emits m.step (exec m.step s0 (pre ++ [m.resetRtt])) mid) = 0
  /-- Never more counted than sent. -/
  rxCount_le : ∀ es : List ι,
    (m.rtt (exec m.step s0 es)).stats.rxCount.toNat ≤ es.countP m.isSend
  /-- A packet without a sample leaves the figures alone. -/
  unchanged : ∀ (pre : List ι) (e : ι), m.isPacket e = true →
    samples (m.step (exec m.step s0 pre) e).2 = 0 →
    (m.rtt (m.step (exec m.step s0 pre) e).1).stats.figures =
      (m.rtt (exec m.step s0 pre)).stats.figures

/-- A module whose calls are `RttStep`s, started with no count and no credit, is one-shot. -/
theorem rttOneShot_of_step {σ ι : Type} (m : HbModule σ ι) (I : σ → Prop) (s0 : σ)
    (h0 : I s0) (hzero : m.rtt s0 = ⟨0, .zero⟩)
    (hinv : ∀ s e, I s → I (m.step s e).1)
    (hstep : ∀ s e, I s → RttStep (m.isSend e) (m.rtt s) (m.rtt (m.step s e).1)
      (samples (m.step s e).2))
    (hreset : ∀ s, (m.rtt (m.step s m.resetRtt).1).credit = 0) : RttOneShot m s0 := by
  have hI : ∀ es, I (exec m.step s0 es) := fun es => exec_inv_all m.step I hinv es s0 h0
  have hgive : ∀ e, [e].countP m.isSend = if m.isSend e then 1 else 0 := fun e => by
    rw [List.countP_singleton]
  have hcredit := emits_credit m.step I (fun s => (m.rtt s).credit) m.isSend HbCall.isReport hinv
    (fun s e h => by rw [hgive]; exact (hstep s e h).credit)
  have hnone : ∀ mid : List ι, (∀ e ∈ mid, m.isSend e = false) → mid.countP m.isSend = 0 :=
    fun mid h => List.countP_eq_zero.mpr fun e he => by rw [h e he]; decide
  refine ⟨fun pre mid hmid => ?_, fun pre mid hmid => ?_, fun es => ?_, fun pre e _ h => ?_⟩
  · have h1 := hcredit mid _ (hI pre)
    have h2 := (m.rtt (exec m.step s0 pre)).credit_le
    rw [hnone mid hmid] at h1
    show (emits m.step _ mid).countP _ ≤ 1
    omega
  · have h1 := hcredit mid _ (hI (pre ++ [m.resetRtt]))
    have h2 : (m.rtt (exec m.step s0 (pre ++ [m.resetRtt]))).credit = 0 := by
      rw [exec_append]
      exact hreset _
    rw [hnone mid hmid, h2] at h1
    show (emits m.step _ mid).countP _ = 0
    omega
  · -- what was counted and the credit left come from the sends
    have h := emits_credit m.step I
      (fun s => (m.rtt s).stats.rxCount.toNat + (m.rtt s).credit) m.isSend (fun _ => false) hinv
      (fun s e h => by
        have h1 := (hstep s e h).credit
        have h2 := (hstep s e h).rxCount
        rw [hgive, List.countP_false]
        show 0 + _ ≤ _
        omega) es s0 h0
    rw [hzero] at h
    have hz : (HbStats.zero.rxCount.toNat + Rtt.credit ⟨0, .zero⟩) = 0 := rfl
    simp only [hz] at h
    omega
  · exact (hstep _ e (hI pre)).figures h

/-- **One sample a send.**  Both modules, initialised as SERVER, whatever the outcome of
`udp_new`, `udp_bind` and `TC6LwIP_GetMac`. -/
theorem rtt_oneShot (udpNew : Bool) (udpBind : ErrT) (mac : Option (Vector UInt8 6)) :
    RttOneShot udpHbModule (heartbeatInit .zero .server udpNew udpBind) ∧
      RttOneShot ethHbModule (ethHeartbeatInit .zero .server mac) := by
  constructor
  · exact rttOneShot_of_step udpHbModule (fun h => h.role = .server) _ rfl rfl
      (fun h e hs => (udpHbStep_role h e).trans hs) (fun h e hs => udpHbStep_rttStep h hs e)
      (fun h => Rtt.credit_zero h.rtt.stats)
  · exact rttOneShot_of_step ethHbModule (fun h => h.role = .server) _ rfl rfl
      (fun h e hs => (ethHbStep_role h e).trans hs) (fun h e hs => ethHbStep_rttStep h hs e)
      (fun h => Rtt.credit_zero h.rtt.stats)

end CuriosityT1S
