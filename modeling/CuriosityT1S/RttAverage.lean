import CuriosityT1S.Heartbeat
import Mathlib.Algebra.Group.Nat.Defs

/-!
# The average round trip

`avg_rtt_us` is a moving average of the samples, computed in 32 bits: the product with 7 is reduced
before the division, so that after round trips of about ten minutes the average can fall below
every sample.

    nextAvg_within:      one sample whose sum does not wrap
    rttAverage_within:   along every run of a module in which no sum wraps the average is between
                         the samples; where one wraps it is so only next to a sample below 2^29 us
-/

namespace CuriosityT1S

open Mealy

/-! ## One update -/

/-- Between the smallest and the largest sample. -/
def Within (samples : List UInt32) (avg : UInt32) : Prop :=
  (∃ x ∈ samples, x ≤ avg) ∧ ∃ y ∈ samples, avg ≤ y

instance (samples : List UInt32) (avg : UInt32) : Decidable (Within samples avg) := by
  unfold Within
  infer_instance

/-- There is no sum, or it fits 32 bits. -/
def SumFits (avg rttUs : UInt32) : Prop := avg = 0 ∨ 7 * avg.toNat + rttUs.toNat < 2 ^ 32

instance (avg rttUs : UInt32) : Decidable (SumFits avg rttUs) := by
  unfold SumFits
  infer_instance

theorem nextAvg_toNat (avg rttUs : UInt32) (h : avg ≠ 0) :
    (nextAvg avg rttUs).toNat = (7 * avg.toNat + rttUs.toNat) % 2 ^ 32 / 8 := by
  have h7 : (7 : UInt32).toNat = 7 := rfl
  have h8 : (8 : UInt32).toNat = 8 := rfl
  unfold nextAvg
  rw [if_neg (by simpa using h), UInt32.toNat_div, UInt32.toNat_add, UInt32.toNat_mul, h7, h8]
  omega

/-- The average never exceeds the larger of the two it is made from. -/
theorem nextAvg_le (avg rttUs : UInt32) (h : avg ≠ 0) :
    nextAvg avg rttUs ≤ avg ∨ nextAvg avg rttUs ≤ rttUs := by
  rw [UInt32.le_iff_toNat_le, UInt32.le_iff_toNat_le, nextAvg_toNat avg rttUs h]
  have hmod := Nat.mod_le (7 * avg.toNat + rttUs.toNat) (2 ^ 32)
  omega

/-- Without a wrap it stays above the smaller of the two. -/
theorem le_nextAvg (avg rttUs : UInt32) (h : avg ≠ 0)
    (hsmall : 7 * avg.toNat + rttUs.toNat < 2 ^ 32) :
    avg ≤ nextAvg avg rttUs ∨ rttUs ≤ nextAvg avg rttUs := by
  rw [UInt32.le_iff_toNat_le, UInt32.le_iff_toNat_le, nextAvg_toNat avg rttUs h,
    Nat.mod_eq_of_lt hsmall]
  omega

/-- It is an eighth of a 32-bit word. -/
theorem nextAvg_lt (avg rttUs : UInt32) (h : avg ≠ 0) : (nextAvg avg rttUs).toNat < 2 ^ 29 := by
  rw [nextAvg_toNat avg rttUs h]
  omega

/-- **One sample.**  An average that was between the samples stays so if the sum fits. -/
theorem nextAvg_within (samples : List UInt32) (avg rttUs : UInt32)
    (h : avg ≠ 0 → Within samples avg) (hfits : SumFits avg rttUs) :
    Within (samples ++ [rttUs]) (nextAvg avg rttUs) := by
  have hlast : rttUs ∈ samples ++ [rttUs] := by simp
  by_cases h0 : avg = 0
  · have hnext : nextAvg avg rttUs = rttUs := by rw [h0]; rfl
    have hle : rttUs ≤ rttUs := UInt32.le_refl _
    rw [hnext]
    exact ⟨⟨rttUs, hlast, hle⟩, ⟨rttUs, hlast, hle⟩⟩
  · obtain ⟨⟨lo, hlo, hlole⟩, ⟨hi, hhi, hhile⟩⟩ := h h0
    have hsmall := hfits.resolve_left h0
    constructor
    · rcases le_nextAvg avg rttUs h0 hsmall with hle | hle
      · exact ⟨lo, List.mem_append_left _ hlo, UInt32.le_trans hlole hle⟩
      · exact ⟨rttUs, hlast, hle⟩
    · rcases nextAvg_le avg rttUs h0 with hle | hle
      · exact ⟨hi, List.mem_append_left _ hhi, UInt32.le_trans hle hhile⟩
      · exact ⟨rttUs, hlast, hle⟩

/-- What is left of a sum that wraps can cover a sample by accident, but only a small one. -/
theorem sumFits_or_small (samples : List UInt32) (avg rttUs : UInt32)
    (h : Within (samples ++ [rttUs]) (nextAvg avg rttUs)) :
    SumFits avg rttUs ∨ ∃ x ∈ samples ++ [rttUs], x.toNat < 2 ^ 29 := by
  by_cases h0 : avg = 0
  · exact Or.inl (Or.inl h0)
  · obtain ⟨⟨x, hx, hle⟩, -⟩ := h
    rw [UInt32.le_iff_toNat_le] at hle
    exact Or.inr ⟨x, hx, Nat.lt_of_le_of_lt hle (nextAvg_lt avg rttUs h0)⟩

/-! ## A module and its samples -/

/-- The round trip of a report. -/
def HbCall.rttUs : HbCall → Option UInt32
  | .report _ _ rttUs _ => some rttUs
  | _ => none

/-- The sample that an ACK makes. -/
def Rtt.sample (r : Rtt) (nowUs : UInt64) : Option UInt32 :=
  if r.sendTimestampUs = 0 then none else some (nowUs - r.sendTimestampUs).toUInt32

/-- A heartbeat module as its samples are seen: `sample` is what a call records. -/
structure RttModule (σ ι : Type) where
  step : σ → ι → σ × List HbCall
  sample : σ → ι → Option UInt32
  rtt : σ → Rtt

def udpSample (h : UdpHb) : UdpHbEvent → Option UInt32
  | .recv (some p) nowUs _ =>
    if h.role = .server ∧ p.length ≥ heartbeatAckSize then h.rtt.sample nowUs else none
  | _ => none

def ethSample (h : EthHb) : EthHbEvent → Option UInt32
  | .rx _ len nowUs _ =>
    if h.initialized = true ∧ h.role = .server ∧ ¬ len < ethHbFrameSize then h.rtt.sample nowUs
    else none
  | _ => none

def udpRttModule : RttModule UdpHb UdpHbEvent := ⟨udpHbStep, udpSample, UdpHb.rtt⟩

def ethRttModule : RttModule EthHb EthHbEvent := ⟨ethHbStep, ethSample, EthHb.rtt⟩

/-- A module next to the samples it has reported. -/
structure Sampled (σ : Type) where
  hb : σ
  samples : List UInt32
deriving DecidableEq, Repr

section
variable {σ ι : Type} (m : RttModule σ ι)

def RttModule.avg (s : σ) : UInt32 := (m.rtt s).stats.avgRttUs

def RttModule.sampledStep (s : Sampled σ) (e : ι) : Sampled σ × List HbCall :=
  (⟨(m.step s.hb e).1, s.samples ++ (m.step s.hb e).2.filterMap HbCall.rttUs⟩, (m.step s.hb e).2)

/-- After the call the average is between the samples, if there are any. -/
def RttModule.AverageWithin (s : Sampled σ) (e : ι) : Prop :=
  (m.sampledStep s e).1.samples ≠ [] →
    Within (m.sampledStep s e).1.samples (m.avg (m.sampledStep s e).1.hb)

/-- The sample of the call, if it makes one, leaves the sum of the average in 32 bits. -/
def RttModule.SampleFits (s : Sampled σ) (e : ι) : Prop :=
  ∀ rttUs ∈ m.sample s.hb e, SumFits (m.avg s.hb) rttUs

-- Named: another instance would try all words.
instance (s : Sampled σ) (e : ι) : Decidable (m.SampleFits s e) := by
  unfold RttModule.SampleFits
  exact Option.decidableForallMem (m.sample s.hb e)

/-- After the call there is a sample of less than nine minutes. -/
def RttModule.SmallSample (s : Sampled σ) (e : ι) : Prop :=
  ∃ x ∈ (m.sampledStep s e).1.samples, x.toNat < 2 ^ 29

/-- A call records its sample or leaves the average alone. -/
structure SampleStep (s : σ) (e : ι) : Prop where
  reports : (m.step s e).2.filterMap HbCall.rttUs = (m.sample s e).toList
  avg : m.avg (m.step s e).1 =
    match m.sample s e with
    | none => m.avg s
    | some rttUs => nextAvg (m.avg s) rttUs

/-- There is no average before the first sample, and then it is between them. -/
structure AverageInv (s : Sampled σ) : Prop where
  none : s.samples = [] → m.avg s.hb = 0
  within : s.samples ≠ [] → Within s.samples (m.avg s.hb)

variable {m}

theorem averageWithin_step (h : ∀ s e, SampleStep m s e) (s : Sampled σ) (e : ι)
    (hs : AverageInv m s) (hfits : m.SampleFits s e) : m.AverageWithin s e := by
  obtain ⟨hreports, havg⟩ := h s.hb e
  unfold RttModule.AverageWithin RttModule.sampledStep
  simp only [hreports, havg]
  cases hsample : m.sample s.hb e with
  | none =>
    simp only [Option.toList_none, List.append_nil]
    exact hs.within
  | some rttUs =>
    intro _
    apply nextAvg_within s.samples (m.avg s.hb) rttUs
    · exact fun h0 => hs.within fun hnil => h0 (hs.none hnil)
    · exact hfits rttUs hsample

theorem sampleFits_or_small (h : ∀ s e, SampleStep m s e) (s : Sampled σ) (e : ι)
    (hw : m.AverageWithin s e) : m.SampleFits s e ∨ m.SmallSample s e := by
  obtain ⟨hreports, havg⟩ := h s.hb e
  unfold RttModule.SampleFits RttModule.SmallSample
  unfold RttModule.AverageWithin at hw
  unfold RttModule.sampledStep at hw ⊢
  simp only [hreports, havg] at hw ⊢
  cases hsample : m.sample s.hb e with
  | none => exact Or.inl (by simp)
  | some rttUs =>
    rw [hsample] at hw
    rcases sumFits_or_small s.samples (m.avg s.hb) rttUs (hw (by simp)) with hfits | hsmall
    · left
      rintro _ ⟨⟩
      exact hfits
    · exact Or.inr hsmall

theorem averageInv_step (h : ∀ s e, SampleStep m s e) (s : Sampled σ) (e : ι)
    (hs : AverageInv m s) (hw : m.AverageWithin s e) : AverageInv m (m.sampledStep s e).1 := by
  refine ⟨?_, hw⟩
  intro hnil
  obtain ⟨hreports, havg⟩ := h s.hb e
  unfold RttModule.sampledStep at hnil ⊢
  simp only [hreports] at hnil
  obtain ⟨hsamples, hnone⟩ := List.append_eq_nil_iff.mp hnil
  have hno : m.sample s.hb e = none := by simpa using hnone
  rw [havg, hno]
  exact hs.none hsamples

theorem averageInv_init (s0 : σ) (h0 : m.avg s0 = 0) : AverageInv m ⟨s0, []⟩ :=
  ⟨fun _ => h0, fun hne => absurd rfl hne⟩

/-- A module that has just been initialised. -/
theorem averageWithin_of_fits (h : ∀ s e, SampleStep m s e) (s0 : σ) (h0 : m.avg s0 = 0)
    (es : List ι) (hfits : Along m.sampledStep m.SampleFits ⟨s0, []⟩ es) :
    Along m.sampledStep m.AverageWithin ⟨s0, []⟩ es := by
  apply along_of_inv m.sampledStep m.SampleFits m.AverageWithin (AverageInv m) ?_ ?_ es _
    (averageInv_init s0 h0) hfits
  · exact fun s e hs hf => averageInv_step h s e hs (averageWithin_step h s e hs hf)
  · exact fun s e hs hf => averageWithin_step h s e hs hf

theorem fits_or_small_of_averageWithin (h : ∀ s e, SampleStep m s e) (s0 : σ) (es : List ι)
    (hw : Along m.sampledStep m.AverageWithin ⟨s0, []⟩ es) :
    Along m.sampledStep (fun s e => m.SampleFits s e ∨ m.SmallSample s e) ⟨s0, []⟩ es :=
  along_of_inv m.sampledStep m.AverageWithin _ (fun _ => True) (fun _ _ _ _ => trivial)
    (fun s e _ hw => sampleFits_or_small h s e hw) es _ trivial hw

end

/-! ## The calls of the two modules -/

theorem onAck_sample (r : Rtt) (nowUs : UInt64) :
    (r.onAck nowUs).2.filterMap HbCall.rttUs = (r.sample nowUs).toList ∧
      (r.onAck nowUs).1.stats.avgRttUs =
        match r.sample nowUs with
        | none => r.stats.avgRttUs
        | some rttUs => nextAvg r.stats.avgRttUs rttUs := by
  unfold Rtt.onAck Rtt.sample
  by_cases h : r.sendTimestampUs = 0
  · rw [if_pos (by simpa using h), if_pos h]
    exact ⟨rfl, rfl⟩
  · rw [if_neg (by simpa using h), if_neg h]
    exact ⟨rfl, rfl⟩

theorem showLed_noReport (paused : Bool) (ledState : UInt8) :
    (showLed paused ledState).filterMap HbCall.rttUs = [] := by
  unfold showLed
  split
  · rfl
  · split <;> rfl

section
variable {σ ι : Type} {m : RttModule σ ι}

/-- A call that makes no sample. -/
theorem SampleStep.quiet {s : σ} {e : ι} (hsample : m.sample s e = none)
    (hreports : (m.step s e).2.filterMap HbCall.rttUs = [])
    (havg : m.avg (m.step s e).1 = m.avg s) : SampleStep m s e := by
  refine ⟨?_, ?_⟩
  · rw [hreports, hsample]
    rfl
  · rw [havg, hsample]

/-- A call that handles an ACK. -/
theorem SampleStep.ack {s : σ} {e : ι} {nowUs : UInt64}
    (hsample : m.sample s e = (m.rtt s).sample nowUs)
    (hreports : (m.step s e).2.filterMap HbCall.rttUs =
      ((m.rtt s).onAck nowUs).2.filterMap HbCall.rttUs)
    (hrtt : m.rtt (m.step s e).1 = ((m.rtt s).onAck nowUs).1) : SampleStep m s e := by
  obtain ⟨hout, havg⟩ := onAck_sample (m.rtt s) nowUs
  refine ⟨?_, ?_⟩
  · rw [hreports, hout, hsample]
  · unfold RttModule.avg
    rw [hrtt, hsample]
    exact havg

end

/-- A client measures nothing. -/
theorem heartbeatRecvCb_noSample (h : UdpHb) (hs : h.role = .client) (p : List UInt8)
    (nowUs : UInt64) (lw : LwipAnswer) :
    (heartbeatRecvCb h (some p) nowUs lw).2.filterMap HbCall.rttUs = [] ∧
      (heartbeatRecvCb h (some p) nowUs lw).1.rtt.stats.avgRttUs = h.rtt.stats.avgRttUs := by
  have hled := showLed_noReport h.paused (p.getD 0 0)
  rcases heartbeatRecvCb_client_cases h hs p nowUs lw with
    ⟨-, -, -, hstep⟩ | ⟨-, led, frees, rtt, hshown, hfrees, hrtt, hstep⟩
  · rw [hstep, List.filterMap_append, hled]
    exact ⟨rfl, rfl⟩
  · rw [hstep]
    constructor
    · have hfreed : frees.filterMap HbCall.rttUs = [] := by
        rw [List.filterMap_eq_nil_iff]
        intro c hc
        rcases hfrees c hc with rfl | rfl <;> rfl
      rw [List.filterMap_append, hfreed, List.append_nil]
      rcases hshown with rfl | rfl
      · rfl
      · exact hled
    · rcases hrtt with rfl | rfl <;> rfl

/-- The server measures each ACK it is waiting for. -/
theorem udpHb_recv_sampleStep (h : UdpHb) (p : Option (List UInt8)) (nowUs : UInt64)
    (lw : LwipAnswer) : SampleStep udpRttModule h (.recv p nowUs lw) := by
  cases p with
  | none => exact SampleStep.quiet rfl rfl rfl
  | some p =>
    cases hrole : h.role with
    | server =>
      have hstep := heartbeatRecvCb_server h hrole p nowUs lw
      by_cases hlen : p.length ≥ heartbeatAckSize
      · rw [if_pos hlen] at hstep
        have hcalls : (heartbeatRecvCb h (some p) nowUs lw).2.filterMap HbCall.rttUs =
            (h.rtt.onAck nowUs).2.filterMap HbCall.rttUs := by
          rw [hstep, List.filterMap_append]
          exact List.append_nil _
        have hrtt : (heartbeatRecvCb h (some p) nowUs lw).1.rtt = (h.rtt.onAck nowUs).1 := by
          rw [hstep]
        exact SampleStep.ack (if_pos ⟨hrole, hlen⟩) hcalls hrtt
      · rw [if_neg hlen] at hstep
        apply SampleStep.quiet (if_neg fun hc => hlen hc.2)
        · show (heartbeatRecvCb h (some p) nowUs lw).2.filterMap _ = []
          rw [hstep]
          rfl
        · show (heartbeatRecvCb h (some p) nowUs lw).1.rtt.stats.avgRttUs = _
          rw [hstep]
          rfl
    | client =>
      obtain ⟨hreports, havg⟩ := heartbeatRecvCb_noSample h hrole p nowUs lw
      have hsample : udpSample h (.recv (some p) nowUs lw) = none := by
        apply if_neg
        rintro ⟨hserver, -⟩
        rw [hrole] at hserver
        cases hserver
      exact SampleStep.quiet hsample hreports havg

theorem heartbeatSend_noSample (h : UdpHb) (ledState : UInt8) (nowUs : UInt64) (lw : LwipAnswer) :
    (heartbeatSend h ledState nowUs lw).2.filterMap HbCall.rttUs = [] ∧
      (heartbeatSend h ledState nowUs lw).1.rtt.stats.avgRttUs = h.rtt.stats.avgRttUs := by
  rcases heartbeatSend_cases h ledState nowUs lw with ⟨-, hstep⟩ | ⟨-, ts, frees, hfrees, hstep⟩
  · rw [hstep]
    refine ⟨rfl, ?_⟩
    show (ite _ _ _ : Rtt).stats.avgRttUs = _
    split <;> rfl
  · rw [hstep]
    refine ⟨?_, rfl⟩
    rw [List.filterMap_eq_nil_iff]
    intro c hc
    rw [hfrees c hc]
    rfl

theorem udpHb_sampleStep (h : UdpHb) (e : UdpHbEvent) : SampleStep udpRttModule h e := by
  cases e with
  | send ledState nowUs lw =>
    obtain ⟨hreports, havg⟩ := heartbeatSend_noSample h ledState nowUs lw
    exact SampleStep.quiet rfl hreports havg
  | recv p nowUs lw => exact udpHb_recv_sampleStep h p nowUs lw
  | setPaused paused => exact SampleStep.quiet rfl rfl rfl
  | resetRtt => exact SampleStep.quiet rfl rfl rfl

theorem ethHbSendFrame_noReport (h : EthHb) (payload : UInt8) (tc6 : Bool) :
    (ethHbSendFrame h payload tc6).2.filterMap HbCall.rttUs = [] ∧
      (ethHbSendFrame h payload tc6).1.rtt = h.rtt := by
  unfold ethHbSendFrame
  split
  · exact ⟨rfl, rfl⟩
  · refine ⟨?_, rfl⟩
    split <;> rfl

theorem ethHeartbeatSend_noSample (h : EthHb) (ledState : UInt8) (nowUs : UInt64) (tc6 : Bool) :
    (ethHeartbeatSend h ledState nowUs tc6).2.filterMap HbCall.rttUs = [] ∧
      (ethHeartbeatSend h ledState nowUs tc6).1.rtt.stats.avgRttUs = h.rtt.stats.avgRttUs := by
  unfold ethHeartbeatSend
  split
  · exact ⟨rfl, rfl⟩
  · split
    · exact ⟨rfl, rfl⟩
    · obtain ⟨hreports, hrtt⟩ := ethHbSendFrame_noReport
        { h with rtt := { h.rtt with sendTimestampUs := nowUs } } ledState tc6
      refine ⟨hreports, ?_⟩
      simp only
      rw [hrtt]
      rfl

/-- Only an initialised server measures, and only a frame that is long enough. -/
theorem ethHeartbeatRxHandler_noSample (h : EthHb) (pFrame : List UInt8) (len : UInt16)
    (nowUs : UInt64) (tc6 : Bool)
    (hno : ¬ (h.initialized = true ∧ h.role = .server ∧ ¬ len < ethHbFrameSize)) :
    (ethHeartbeatRxHandler h pFrame len nowUs tc6).2.filterMap HbCall.rttUs = [] ∧
      (ethHeartbeatRxHandler h pFrame len nowUs tc6).1.rtt.stats.avgRttUs =
        h.rtt.stats.avgRttUs := by
  unfold ethHeartbeatRxHandler
  split
  · exact ⟨rfl, rfl⟩
  · next hinit =>
    split
    · exact ⟨rfl, rfl⟩
    · next hlen =>
      split
      · obtain ⟨hreports, hrtt⟩ := ethHbSendFrame_noReport
          { h with rtt := h.rtt.countRx } ethHbAckByte tc6
        constructor
        · simp only
          rw [List.filterMap_append, showLed_noReport, hreports]
          rfl
        · simp only
          rw [hrtt]
          rfl
      · next hrole => exact absurd ⟨by simpa using hinit, hrole, hlen⟩ hno

theorem ethHb_rx_sampleStep (h : EthHb) (pFrame : List UInt8) (len : UInt16) (nowUs : UInt64)
    (tc6 : Bool) : SampleStep ethRttModule h (.rx pFrame len nowUs tc6) := by
  by_cases hok : h.initialized = true ∧ h.role = .server ∧ ¬ len < ethHbFrameSize
  · obtain ⟨hinit, hrole, hlen⟩ := hok
    have hstep := ethHeartbeatRxHandler_server h hrole hinit pFrame len nowUs tc6
    rw [if_neg hlen] at hstep
    have hcalls : (ethHeartbeatRxHandler h pFrame len nowUs tc6).2.filterMap HbCall.rttUs =
        (h.rtt.onAck nowUs).2.filterMap HbCall.rttUs := by
      rw [hstep]
    have hrtt : (ethHeartbeatRxHandler h pFrame len nowUs tc6).1.rtt = (h.rtt.onAck nowUs).1 := by
      rw [hstep]
    exact SampleStep.ack (if_pos ⟨hinit, hrole, hlen⟩) hcalls hrtt
  · obtain ⟨hreports, havg⟩ := ethHeartbeatRxHandler_noSample h pFrame len nowUs tc6 hok
    exact SampleStep.quiet (if_neg hok) hreports havg

theorem ethHb_sampleStep (h : EthHb) (e : EthHbEvent) : SampleStep ethRttModule h e := by
  cases e with
  | send ledState nowUs tc6 =>
    obtain ⟨hreports, havg⟩ := ethHeartbeatSend_noSample h ledState nowUs tc6
    exact SampleStep.quiet rfl hreports havg
  | rx pFrame len nowUs tc6 => exact ethHb_rx_sampleStep h pFrame len nowUs tc6
  | setPaused paused => exact SampleStep.quiet rfl rfl rfl
  | resetRtt => exact SampleStep.quiet rfl rfl rfl

/-! ## Runs -/

/-- **The average.**  In both modules, along every run after the initialisation: if each sum fits,
the average is between the smallest and the largest sample after each one.  If it is between them
all along, each sum fits, or there is a sample below 2^29 us by then. -/
theorem rttAverage_within (udp : UdpHb) (eth : EthHb) (role : BoardRole) (udpNew : Bool)
    (udpBind : ErrT) (mac : Option (Vector UInt8 6)) (udpEvents : List UdpHbEvent)
    (ethEvents : List EthHbEvent) :
    let udp0 : Sampled UdpHb := ⟨heartbeatInit udp role udpNew udpBind, []⟩
    let eth0 : Sampled EthHb := ⟨ethHeartbeatInit eth role mac, []⟩
    ((Along udpRttModule.sampledStep udpRttModule.SampleFits udp0 udpEvents →
        Along udpRttModule.sampledStep udpRttModule.AverageWithin udp0 udpEvents) ∧
      (Along ethRttModule.sampledStep ethRttModule.SampleFits eth0 ethEvents →
        Along ethRttModule.sampledStep ethRttModule.AverageWithin eth0 ethEvents)) ∧
    (Along udpRttModule.sampledStep udpRttModule.AverageWithin udp0 udpEvents →
      Along udpRttModule.sampledStep
        (fun s e => udpRttModule.SampleFits s e ∨ udpRttModule.SmallSample s e) udp0 udpEvents) ∧
    (Along ethRttModule.sampledStep ethRttModule.AverageWithin eth0 ethEvents →
      Along ethRttModule.sampledStep
        (fun s e => ethRttModule.SampleFits s e ∨ ethRttModule.SmallSample s e) eth0 ethEvents) :=
  ⟨⟨averageWithin_of_fits udpHb_sampleStep _ rfl udpEvents,
      averageWithin_of_fits ethHb_sampleStep _ rfl ethEvents⟩,
    fits_or_small_of_averageWithin udpHb_sampleStep _ udpEvents,
    fits_or_small_of_averageWithin ethHb_sampleStep _ ethEvents⟩

/-- Round trips of 1 ms, 9 ms and 80 s. -/
def steadyUdp : List UdpHbEvent :=
  let lw : LwipAnswer := ⟨true, .errOk, .errOk⟩
  [.send 1 1 lw, .recv (some [heartbeatAckByte]) 1001 lw,
    .send 0 500001 lw, .recv (some [heartbeatAckByte]) 509001 lw,
    .send 1 1000001 lw, .recv (some [heartbeatAckByte]) 81000001 lw]

def steadyEth : List EthHbEvent :=
  let ack := List.replicate 14 0 ++ [ethHbAckByte]
  [.send 1 1 true, .rx ack 15 1001 true, .send 0 500001 true, .rx ack 15 509001 true,
    .send 1 1000001 true, .rx ack 15 81000001 true]

theorem rttAverage_within_steady :
    Along udpRttModule.sampledStep udpRttModule.AverageWithin
      ⟨heartbeatInit .zero .server true .errOk, []⟩ steadyUdp ∧
    Along ethRttModule.sampledStep ethRttModule.AverageWithin
      ⟨ethHeartbeatInit .zero .server none, []⟩ steadyEth := by
  obtain ⟨⟨hudp, heth⟩, -⟩ := rttAverage_within .zero .zero .server true .errOk none steadyUdp
    steadyEth
  exact ⟨hudp (by decide), heth (by decide)⟩

/-- Two round trips of 700 s. -/
def slowUdp : List UdpHbEvent :=
  let lw : LwipAnswer := ⟨true, .errOk, .errOk⟩
  [.send 1 1 lw, .recv (some [heartbeatAckByte]) 700000001 lw,
    .send 0 800000000 lw, .recv (some [heartbeatAckByte]) 1500000000 lw]

def slowEth : List EthHbEvent :=
  let ack := List.replicate 14 0 ++ [ethHbAckByte]
  [.send 1 1 true, .rx ack 15 700000001 true, .send 0 800000000 true, .rx ack 15 1500000000 true]

/-- Their average is 163 s. -/
theorem rttAverage_not_always :
    (¬ ∀ es : List UdpHbEvent, Along udpRttModule.sampledStep udpRttModule.AverageWithin
      ⟨heartbeatInit .zero .server true .errOk, []⟩ es) ∧
    ¬ ∀ es : List EthHbEvent, Along ethRttModule.sampledStep ethRttModule.AverageWithin
      ⟨ethHeartbeatInit .zero .server none, []⟩ es := by
  constructor
  · intro h
    obtain ⟨-, -, -, hlast, -⟩ := h slowUdp
    have hwithin := hlast (by decide)
    revert hwithin
    decide
  · intro h
    obtain ⟨-, -, -, hlast, -⟩ := h slowEth
    have hwithin := hlast (by decide)
    revert hwithin
    decide

end CuriosityT1S
