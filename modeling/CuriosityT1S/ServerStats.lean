import CuriosityT1S.Iperf
import CuriosityT1S.Lib.Mealy
import CuriosityT1S.Lib.WrapCounter
import Mathlib.Algebra.Group.Nat.Defs

/-!
# The receive throughput (udp_perf_client.c)

`OnReceive` counts what arrives.  `PrintServerStats` reports it when 1000 ms or more have passed
since the last report, as if it were exactly 1000 ms: the elapsed time is tested but not divided
by, and the time in which nothing arrives is part of the next interval.

    StatsInv:            the statistics are the true counts, modulo 2^32
    figureRight_of_fits: one report
    figures_right:       along every run whose reports come after exactly 1000 ms the figures are
                         right; in one that comes later they are so by rounding only
-/

namespace CuriosityT1S

open Mealy

inductive ServerCall
  | bandwidth (kbits packets : UInt32)
deriving DecidableEq, Repr

/-- `memset(&server, 0, sizeof(server))`. -/
def PerfStats.zero : PerfStats := ⟨0, 0, 0, 0, ⟨0, 0, 0⟩⟩

def onReceive (server : PerfStats) (totLen : UInt16) : PerfStats :=
  { server with
    cntDatagrams := server.cntDatagrams + 1
    totalBytes := server.totalBytes + totLen.toUInt32 }

def printServerStats (server : PerfStats) (now : UInt32) : PerfStats × List ServerCall :=
  if server.cntDatagrams = 0 then (server, [])
  else if now - server.startTime ≥ 1000 then
    ({ server with startTime := now, totalBytes := 0, cntDatagrams := 0 },
      [.bandwidth (server.totalBytes * 8 / 1000) server.cntDatagrams])
  else (server, [])

/-! ## What is to be reported -/

/-- `poll` comes `afterMs` after the poll before it. -/
inductive ServerOp
  | onReceive (totLen : UInt16)
  | poll (afterMs : Nat)
deriving DecidableEq, Repr

/-- The statistics; the true time of the last poll and of the last report (0 before the first), and
what has been received since that report. -/
structure Throughput where
  server : PerfStats
  nowMs : Nat
  reportMs : Nat
  bytes : Nat
  datagrams : Nat
deriving DecidableEq, Repr

def throughputStep (s : Throughput) : ServerOp → Throughput × List ServerCall
  | .onReceive totLen =>
    ({ s with server := onReceive s.server totLen, bytes := s.bytes + totLen.toNat,
              datagrams := s.datagrams + 1 }, [])
  | .poll afterMs =>
    let now := s.nowMs + afterMs
    let (server, printed) := printServerStats s.server (UInt32.ofNat now)
    (if printed = [] then { s with server := server, nowMs := now }
      else ⟨server, now, now, 0, 0⟩, printed)

def Throughput.start : Throughput := ⟨.zero, 0, 0, 0, 0⟩

/-- The milliseconds since the last report at a poll. -/
def Throughput.elapsed (s : Throughput) (afterMs : Nat) : Nat := s.nowMs + afterMs - s.reportMs

/-- A line that is printed has the bits per millisecond and the number of datagrams since the
previous one. -/
def FigureRight (s : Throughput) (op : ServerOp) : Prop :=
  match op with
  | .onReceive _ => True
  | .poll afterMs => ∀ kbits packets, .bandwidth kbits packets ∈ (throughputStep s op).2 →
      kbits.toNat = 8 * s.bytes / s.elapsed afterMs ∧ packets.toNat = s.datagrams

/-- A poll reports: the clock is 1000 ms or more past the last report, and the counter is not 0. -/
def ReportDue (s : Throughput) (afterMs : Nat) : Prop :=
  s.datagrams % 2 ^ 32 ≠ 0 ∧ 1000 ≤ s.elapsed afterMs % 2 ^ 32

instance (s : Throughput) (afterMs : Nat) : Decidable (ReportDue s afterMs) := by
  unfold ReportDue
  infer_instance

/-- The bits fit 32 bits, and they are measured over 1000 ms or too few to matter. -/
def RateFits (bits elapsed : Nat) : Prop := bits < 2 ^ 32 ∧ (elapsed = 1000 ∨ bits < 1000)

instance (bits elapsed : Nat) : Decidable (RateFits bits elapsed) := by
  unfold RateFits
  infer_instance

/-- At a poll that reports. -/
def FigureFits (s : Throughput) (op : ServerOp) : Prop :=
  match op with
  | .onReceive _ => True
  | .poll afterMs => ReportDue s afterMs →
      s.datagrams < 2 ^ 32 ∧ RateFits (8 * s.bytes) (s.elapsed afterMs)

instance (s : Throughput) (op : ServerOp) : Decidable (FigureFits s op) := by
  unfold FigureFits
  split <;> infer_instance

/-- The bits do not fit 32 bits, or what they make in `elapsed` ms is less than one kbit/s away
from what they make in 1000 ms. -/
def RateNear (bits elapsed : Nat) : Prop :=
  2 ^ 32 ≤ bits ∨ bits * (elapsed - 1000) < 1000 * elapsed

def FigureNear (s : Throughput) (op : ServerOp) : Prop :=
  match op with
  | .onReceive _ => True
  | .poll afterMs => ReportDue s afterMs →
      s.datagrams < 2 ^ 32 ∧ RateNear (8 * s.bytes) (s.elapsed afterMs)

/-! ## The figure -/

theorem rate_of_fits {bits elapsed : Nat} (h : 1000 ≤ elapsed) (hfits : RateFits bits elapsed) :
    bits % 2 ^ 32 / 1000 = bits / elapsed := by
  obtain ⟨hword, rfl | hfew⟩ := hfits
  · rw [Nat.mod_eq_of_lt hword]
  · have hlate : bits < elapsed := Nat.lt_of_lt_of_le hfew h
    rw [Nat.mod_eq_of_lt hword, Nat.div_eq_of_lt hfew, Nat.div_eq_of_lt hlate]

/-- Two quotients that round to the same figure are less than one apart. -/
theorem near_of_rate {bits elapsed : Nat} (h : 1000 ≤ elapsed)
    (hrate : bits % 2 ^ 32 / 1000 = bits / elapsed) : RateNear bits elapsed := by
  unfold RateNear
  by_cases hword : 2 ^ 32 ≤ bits
  · exact Or.inl hword
  · right
    rw [Nat.mod_eq_of_lt (Nat.lt_of_not_le hword)] at hrate
    obtain ⟨beyond, rfl⟩ := Nat.exists_eq_add_of_le h
    have hlow : bits / 1000 * (1000 + beyond) ≤ bits := by
      rw [hrate]
      exact Nat.div_mul_le_self bits (1000 + beyond)
    rw [Nat.mul_add] at hlow
    rw [Nat.add_sub_cancel_left]
    calc bits * beyond
      _ ≤ (1000 * (bits / 1000) + 999) * beyond := Nat.mul_le_mul_right beyond (by omega)
      _ = 1000 * (bits / 1000 * beyond) + 999 * beyond := by rw [Nat.add_mul, Nat.mul_assoc]
      _ < 1000 * (1000 + beyond) := by omega

/-! ## Runs -/

/-- The statistics are the true counts, modulo 2^32. -/
structure StatsInv (s : Throughput) : Prop where
  startTime : s.server.startTime = UInt32.ofNat s.reportMs
  totalBytes : s.server.totalBytes = UInt32.ofNat s.bytes
  cntDatagrams : s.server.cntDatagrams = UInt32.ofNat s.datagrams
  order : s.reportMs ≤ s.nowMs

theorem statsInv_start : StatsInv Throughput.start := ⟨rfl, rfl, rfl, Nat.le_refl _⟩

theorem totLen_ofNat (totLen : UInt16) : UInt32.ofNat totLen.toNat = totLen.toUInt32 := by
  have hlt := totLen.toNat_lt
  apply UInt32.toNat_inj.mp
  rw [UInt32.toNat_ofNat', UInt16.toNat_toUInt32]
  omega

/-- What a poll does. -/
theorem printServerStats_cases {s : Throughput} (h : StatsInv s) (afterMs : Nat) :
    let now := UInt32.ofNat (s.nowMs + afterMs)
    (ReportDue s afterMs ∧ printServerStats s.server now =
      ({ s.server with startTime := now, totalBytes := 0, cntDatagrams := 0 },
        [.bandwidth (s.server.totalBytes * 8 / 1000) s.server.cntDatagrams])) ∨
    (¬ ReportDue s afterMs ∧ printServerStats s.server now = (s.server, [])) := by
  have horder := h.order
  have helapsed : s.server.startTime = UInt32.ofNat s.reportMs := h.startTime
  have hcount : s.server.cntDatagrams = 0 ↔ s.datagrams % 2 ^ 32 = 0 := by
    rw [h.cntDatagrams, ← UInt32.toNat_inj, UInt32.toNat_ofNat']
    rfl
  have hwait : UInt32.ofNat (s.nowMs + afterMs) - s.server.startTime ≥ 1000 ↔
      1000 ≤ s.elapsed afterMs % 2 ^ 32 := by
    rw [helapsed, ge_iff_le, UInt32.le_iff_toNat_le, WrapCounter.toNat_ofNat_sub (by omega)]
    rfl
  intro now
  unfold printServerStats ReportDue
  by_cases h0 : s.server.cntDatagrams = 0
  · right
    rw [if_pos h0]
    exact ⟨fun hc => hc.1 (hcount.mp h0), rfl⟩
  · rw [if_neg h0]
    by_cases hw : now - s.server.startTime ≥ 1000
    · left
      rw [if_pos hw]
      exact ⟨⟨fun hc => h0 (hcount.mpr hc), hwait.mp hw⟩, rfl⟩
    · right
      rw [if_neg hw]
      exact ⟨fun hc => hw (hwait.mpr hc.2), rfl⟩

theorem statsInv_step (s : Throughput) (op : ServerOp) (h : StatsInv s) :
    StatsInv (throughputStep s op).1 := by
  match op with
  | .onReceive totLen =>
    refine ⟨h.startTime, ?_, ?_, h.order⟩
    · show s.server.totalBytes + totLen.toUInt32 = UInt32.ofNat (s.bytes + totLen.toNat)
      rw [h.totalBytes, UInt32.ofNat_add, totLen_ofNat]
    · show s.server.cntDatagrams + 1 = UInt32.ofNat (s.datagrams + 1)
      rw [h.cntDatagrams, UInt32.ofNat_add]
      rfl
  | .poll afterMs =>
    have horder := h.order
    unfold throughputStep
    rcases printServerStats_cases h afterMs with ⟨-, heq⟩ | ⟨-, heq⟩
    · simp only [heq]
      exact ⟨rfl, rfl, rfl, Nat.le_refl _⟩
    · simp only [heq]
      have hlater : s.reportMs ≤ s.nowMs + afterMs := by omega
      exact ⟨h.startTime, h.totalBytes, h.cntDatagrams, hlater⟩

/-- The bits that are printed. -/
theorem bandwidth_toNat (bytes : Nat) :
    (UInt32.ofNat bytes * 8 / 1000).toNat = 8 * bytes % 2 ^ 32 / 1000 := by
  have h8 : (8 : UInt32).toNat = 8 := rfl
  have h1000 : (1000 : UInt32).toNat = 1000 := rfl
  rw [UInt32.toNat_div, UInt32.toNat_mul, UInt32.toNat_ofNat', h8, h1000]
  omega

/-- What is printed at a poll that reports. -/
theorem figureRight_poll_iff {s : Throughput} (h : StatsInv s) (afterMs : Nat) :
    FigureRight s (.poll afterMs) ↔ (ReportDue s afterMs →
      s.datagrams < 2 ^ 32 ∧ 8 * s.bytes % 2 ^ 32 / 1000 = 8 * s.bytes / s.elapsed afterMs) := by
  unfold FigureRight throughputStep
  rcases printServerStats_cases h afterMs with ⟨hdue, heq⟩ | ⟨hdue, heq⟩
  · have hpackets : s.server.cntDatagrams.toNat = s.datagrams ↔ s.datagrams < 2 ^ 32 := by
      rw [h.cntDatagrams, UInt32.toNat_ofNat']
      omega
    simp only [heq, List.mem_singleton, ServerCall.bandwidth.injEq]
    rw [h.totalBytes]
    constructor
    · intro hright _
      obtain ⟨hrate, hcount⟩ := hright _ _ ⟨rfl, rfl⟩
      rw [bandwidth_toNat] at hrate
      exact ⟨hpackets.mp hcount, hrate⟩
    · rintro hexact kbits packets ⟨rfl, rfl⟩
      obtain ⟨hcount, hrate⟩ := hexact hdue
      rw [bandwidth_toNat]
      exact ⟨hrate, hpackets.mpr hcount⟩
  · simp only [heq]
    constructor
    · intro _ hc
      exact absurd hc hdue
    · intro _ kbits packets hmem
      cases hmem

theorem elapsed_of_due {s : Throughput} {afterMs : Nat} (h : ReportDue s afterMs) :
    1000 ≤ s.elapsed afterMs :=
  Nat.le_trans h.2 (Nat.mod_le _ _)

/-- **One report.**  Its figures are right if the counters have not wrapped and it comes 1000 ms
after the one before it, or has no kbit to report. -/
theorem figureRight_of_fits (s : Throughput) (op : ServerOp) (h : StatsInv s)
    (hfits : FigureFits s op) : FigureRight s op := by
  match op with
  | .onReceive totLen => trivial
  | .poll afterMs =>
    rw [figureRight_poll_iff h]
    intro hdue
    obtain ⟨hcount, hrate⟩ := hfits hdue
    exact ⟨hcount, rate_of_fits (elapsed_of_due hdue) hrate⟩

theorem figureNear_of_right (s : Throughput) (op : ServerOp) (h : StatsInv s)
    (hright : FigureRight s op) : FigureNear s op := by
  match op with
  | .onReceive totLen => trivial
  | .poll afterMs =>
    intro hdue
    obtain ⟨hcount, hrate⟩ := (figureRight_poll_iff h afterMs).mp hright hdue
    exact ⟨hcount, near_of_rate (elapsed_of_due hdue) hrate⟩

/-- **Receive throughput.**  For every sequence of datagrams and every schedule of polls: if each
report is made of fewer than 2^32 datagrams and fewer than 2^32 bits, 1000 ms after the one before
it or for less than a kbit, each line has the true rate and the number of datagrams since the
previous line.  If every line has these, then at each report the rate over 1000 ms and the rate
over the time that has passed differ by less than one kbit/s, or the bits do not fit 32 bits. -/
theorem figures_right (ops : List ServerOp) :
    (Along throughputStep FigureFits Throughput.start ops →
      Along throughputStep FigureRight Throughput.start ops) ∧
    (Along throughputStep FigureRight Throughput.start ops →
      Along throughputStep FigureNear Throughput.start ops) := by
  constructor
  · exact along_of_inv throughputStep FigureFits FigureRight StatsInv
      (fun s op h _ => statsInv_step s op h) figureRight_of_fits ops _ statsInv_start
  · exact along_of_inv throughputStep FigureRight FigureNear StatsInv
      (fun s op h _ => statsInv_step s op h) figureNear_of_right ops _ statsInv_start

/-- Traffic that is polled on the second. -/
theorem figures_right_second : Along throughputStep FigureRight Throughput.start
    [.onReceive 1250, .poll 400, .onReceive 1250, .poll 600, .onReceive 700, .poll 1000] := by
  obtain ⟨hright, -⟩ := figures_right
    [.onReceive 1250, .poll 400, .onReceive 1250, .poll 600, .onReceive 700, .poll 1000]
  exact hright (by decide)

/-- 1250 bytes, and a poll after two seconds: 10 kbit/s is printed, not 5. -/
theorem figures_not_always_right :
    ¬ ∀ ops : List ServerOp, Along throughputStep FigureRight Throughput.start ops := by
  intro h
  obtain ⟨-, hpoll, -⟩ := h [.onReceive 1250, .poll 2000]
  obtain ⟨hrate, -⟩ := hpoll 10 1 (by decide)
  revert hrate
  decide

end CuriosityT1S
