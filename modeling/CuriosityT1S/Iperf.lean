import CuriosityT1S.Heartbeat

/-!
# The throughput client (udp_perf_client.c)

A session is pending from `iperf_start_application` until the start delay is
over, then it runs until it is stopped, its time is up or a send fails.  There
is one parallel client, so the sending loop runs at most once.

    udpPacketSend_cases:  what sending can do
    transferData_spec, iperfService_spec:  what becomes of `running` and `startDelay`
    iperfService_eq:  a service call transfers data or does nothing
-/

namespace CuriosityT1S

def iperfStartDelay : UInt32 := 10

def reportIntervalTime : UInt32 := 5000

def iperfEndTime : UInt32 := 300000

def udpSendBufsize : UInt16 := 1460

/-- `struct interim_report`. -/
structure InterimReport where
  startTime : UInt32
  lastReportTime : UInt32
  totalBytes : UInt32
deriving DecidableEq, Repr

/-- `struct perf_stats`. -/
structure PerfStats where
  clientId : UInt8
  startTime : UInt32
  totalBytes : UInt32
  cntDatagrams : UInt32
  iReport : InterimReport
deriving DecidableEq, Repr

structure Iperf where
  startDelay : UInt32
  running : Bool
  client : PerfStats
  packetId : UInt32
  iPayloadSize : UInt16
deriving DecidableEq, Repr

/-- The static data before `main`. -/
def Iperf.zero : Iperf := ⟨0, false, ⟨0, 0, 0, 0, ⟨0, 0, 0⟩⟩, 0, udpSendBufsize⟩

inductive ReportType
  | interReport | udpDoneClient
deriving DecidableEq, Repr

/-- Calls out of the module; the reports are printed. -/
inductive IperfCall
  | connStats (clientId : UInt8)
  | connReport (fromS toS totalLen bandwidth : UInt32)
  | sentDatagrams (n : UInt32)
  | udpSendto (packetId : UInt32) (size : UInt16)
  | pbufFree
deriving DecidableEq, Repr

/-- What `udp_packet_send` is answered; `nowMs` is the clock if it has to give up. -/
structure IperfSend where
  wouldBlock : Bool
  lw : LwipAnswer
  nowMs : UInt32
deriving DecidableEq, Repr

/-- A datagram that is accepted. -/
def sendTaken : IperfSend := ⟨false, ⟨true, .errOk, .errOk⟩, 0⟩

def udpConnReport (p : Iperf) (diff : UInt32) (reportType : ReportType) : Iperf × List IperfCall :=
  let duration := diff / 1000
  let bandwidth := fun totalLen : UInt32 => if duration ≠ 0 then totalLen / duration * 8 else 0
  match reportType with
  | .interReport =>
    let r := p.client.iReport
    ({ p with client := { p.client with
        iReport := { r with lastReportTime := r.lastReportTime + duration } } },
      [.connReport r.lastReportTime (r.lastReportTime + duration) r.totalBytes
        (bandwidth r.totalBytes)])
  | .udpDoneClient =>
    ({ p with client := { p.client with iReport := { p.client.iReport with lastReportTime := 0 } } },
      [.connReport 0 duration p.client.totalBytes (bandwidth p.client.totalBytes),
        .sentDatagrams p.client.cntDatagrams])

def resetStats (p : Iperf) (nowMs : UInt32) : Iperf × List IperfCall :=
  let clientId := p.client.clientId + 1
  ({ p with client := ⟨clientId, nowMs, 0, 0, ⟨0, 0, 0⟩⟩ }, [.connStats clientId])

/-- A datagram of `iPayloadSize` bytes has been sent. -/
def Iperf.countSent (p : Iperf) : Iperf :=
  let size := p.iPayloadSize.toUInt32
  { p with client := { p.client with
      totalBytes := p.client.totalBytes + size
      cntDatagrams := p.client.cntDatagrams + 1
      iReport := { p.client.iReport with totalBytes := p.client.iReport.totalBytes + size } } }

/-- The middle component is the result. -/
def udpPacketSend (p : Iperf) (finished : Bool) (a : IperfSend) : Iperf × Int × List IperfCall :=
  if a.wouldBlock then (p, 0, [])
  else if !a.lw.pbufAlloc then (p, 0, [])
  else if a.lw.pbufTake ≠ .errOk then (p, 0, [.pbufFree])
  else
    let p := { p with packetId := if finished then 0xFFFFFFFF else p.packetId + 1 }
    let send := IperfCall.udpSendto p.packetId p.iPayloadSize
    if a.lw.udpSendto = .errOk then (p.countSent, 0, [send, .pbufFree])
    else if a.lw.udpSendto = .errWouldblock ∨ a.lw.udpSendto = .errMem then
      ({ p with packetId := if finished then p.packetId else p.packetId - 1 }, 0,
        [send, .pbufFree])
    else
      let (p, report) := udpConnReport p (a.nowMs - p.client.startTime) .udpDoneClient
      ({ p with running := false }, -1, send :: report ++ [.pbufFree])

/-- The interim report, when one is due. -/
def interimReport (p : Iperf) (now : UInt32) : Iperf × List IperfCall :=
  if p.client.iReport.startTime ≠ 0 then
    let diffMs := now - p.client.iReport.startTime
    if diffMs ≥ reportIntervalTime then
      let (p, report) := udpConnReport p diffMs .interReport
      ({ p with client := { p.client with
          iReport := { p.client.iReport with startTime := 0, totalBytes := 0 } } }, report)
    else (p, [])
  else
    ({ p with client := { p.client with iReport := { p.client.iReport with startTime := now } } }, [])

def transferData (p : Iperf) (now : UInt32) (a : IperfSend) : Iperf × Int × List IperfCall :=
  let (p, interim) := interimReport p now
  let diffMs := now - p.client.startTime
  if diffMs ≥ iperfEndTime then
    let (p, _, send) := udpPacketSend p true a
    let (p, report) := udpConnReport p diffMs .udpDoneClient
    ({ p with running := false }, 1, interim ++ send ++ report)
  else
    let (p, result, send) := udpPacketSend p false a
    (p, if result < 0 then 1 else 0, interim ++ send)

/-- The three clock readings, in order. -/
def iperfStartApplication (p : Iperf) (startMs statsMs transferMs : UInt32) (a : IperfSend) :
    Iperf × List IperfCall :=
  let (p, stats) := resetStats { p with running := false, startDelay := startMs } statsMs
  let (p, _, transfer) := transferData p transferMs a
  (p, stats ++ transfer)

def iperfStopApplication (p : Iperf) : Iperf := { p with running := false }

def iperfGetRunningState (p : Iperf) : Bool := p.running || p.startDelay ≠ 0

/-- The start delay is over. -/
def startDue (p : Iperf) (nowMs : UInt32) : Bool :=
  p.startDelay ≠ 0 && nowMs - p.startDelay > iperfStartDelay

def iperfService (p : Iperf) (nowMs transferMs : UInt32) (a : IperfSend) :
    Iperf × List IperfCall :=
  let p := if startDue p nowMs then { p with startDelay := 0, running := true } else p
  if p.running then
    let (p, _, calls) := transferData p transferMs a
    (p, calls)
  else (p, [])

def iperfSetPacketSize (p : Iperf) (packetLength : UInt16) : Iperf :=
  { p with iPayloadSize :=
      if packetLength < udpSendBufsize then packetLength else udpSendBufsize }

/-! ## One datagram -/

/-- The id of the final marker, -1. -/
def markerId : UInt32 := 0xFFFFFFFF

/-- The id of the next datagram. -/
def nextId (p : Iperf) (finished : Bool) : UInt32 :=
  if finished then markerId else p.packetId + 1

/-- `udp_sendto` is called. -/
def IperfSend.offered (a : IperfSend) : Bool :=
  !a.wouldBlock && a.lw.pbufAlloc && a.lw.pbufTake = .errOk

/-- A send that ends the session. -/
def IperfSend.fatal (a : IperfSend) : Bool :=
  !a.wouldBlock && a.lw.pbufAlloc && a.lw.pbufTake = .errOk && a.lw.udpSendto ≠ .errOk &&
    a.lw.udpSendto ≠ .errWouldblock && a.lw.udpSendto ≠ .errMem

theorem IperfSend.fatal_iff (a : IperfSend) : a.fatal = true ↔ a.offered = true ∧
    a.lw.udpSendto ≠ .errOk ∧
      ¬ (a.lw.udpSendto = .errWouldblock ∨ a.lw.udpSendto = .errMem) := by
  unfold IperfSend.fatal IperfSend.offered
  simp [and_assoc]

/-- What sending can do: nothing is sent, or a datagram is accepted, refused or fatal. -/
theorem udpPacketSend_cases (p : Iperf) (finished : Bool) (a : IperfSend) :
    (a.offered = false ∧ a.fatal = false ∧ (udpPacketSend p finished a = (p, 0, []) ∨
      udpPacketSend p finished a = (p, 0, [.pbufFree]))) ∨
    (a.offered = true ∧ a.fatal = false ∧ a.lw.udpSendto = .errOk ∧ udpPacketSend p finished a =
      ({ p with packetId := nextId p finished }.countSent, 0,
        [.udpSendto (nextId p finished) p.iPayloadSize, .pbufFree])) ∨
    (a.offered = true ∧ a.fatal = false ∧
      (a.lw.udpSendto = .errWouldblock ∨ a.lw.udpSendto = .errMem) ∧
      udpPacketSend p finished a =
        ({ p with packetId := if finished then markerId else p.packetId }, 0,
          [.udpSendto (nextId p finished) p.iPayloadSize, .pbufFree])) ∨
    (a.fatal = true ∧ udpPacketSend p finished a =
      let r := udpConnReport { p with packetId := nextId p finished }
        (a.nowMs - p.client.startTime) .udpDoneClient
      ({ r.1 with running := false }, -1,
        .udpSendto (nextId p finished) p.iPayloadSize :: r.2 ++ [.pbufFree])) := by
  by_cases hoff : a.offered = true
  · have hoff' := hoff
    simp only [IperfSend.offered, Bool.and_eq_true, Bool.not_eq_true', decide_eq_true_iff] at hoff'
    obtain ⟨⟨hw, halloc⟩, htake⟩ := hoff'
    by_cases hok : a.lw.udpSendto = .errOk
    · have hfatal : a.fatal = false := by
        rw [← Bool.not_eq_true, a.fatal_iff]
        exact fun h => h.2.1 hok
      refine .inr (.inl ⟨hoff, hfatal, hok, ?_⟩)
      simp [udpPacketSend, hw, halloc, htake, hok, nextId, markerId]
    · by_cases hsoft : a.lw.udpSendto = .errWouldblock ∨ a.lw.udpSendto = .errMem
      · have hfatal : a.fatal = false := by
          rw [← Bool.not_eq_true, a.fatal_iff]
          exact fun h => h.2.2 hsoft
        refine .inr (.inr (.inl ⟨hoff, hfatal, hsoft, ?_⟩))
        cases finished <;>
          simp [udpPacketSend, hw, halloc, htake, hok, hsoft, nextId, markerId]
      · refine .inr (.inr (.inr ⟨a.fatal_iff.mpr ⟨hoff, hok, hsoft⟩, ?_⟩))
        simp [udpPacketSend, hw, halloc, htake, hok, hsoft, nextId, markerId]
  · have hfatal : a.fatal = false := by
      rw [← Bool.not_eq_true, a.fatal_iff]
      exact fun h => hoff h.1
    refine .inl ⟨by simpa using hoff, hfatal, ?_⟩
    unfold udpPacketSend
    split
    · exact .inl rfl
    · split
      · exact .inl rfl
      · split
        · exact .inr rfl
        · next hw halloc htake =>
          have halloc' : a.lw.pbufAlloc = true := by simpa using halloc
          exact absurd (by simpa [IperfSend.offered, hw, halloc'] using htake) hoff

/-! ## Pending and running -/

/-- The time of the session is up. -/
def timeUp (p : Iperf) (now : UInt32) : Bool := now - p.client.startTime ≥ iperfEndTime

/-- Whether `iperf_service` gets to `transfer_data`, the session running. -/
def serviceRuns (p : Iperf) (now : UInt32) : Bool := p.running || startDue p now

/-- `iperf_service` gets to `transfer_data` as `serviceRuns` says. -/
theorem iperfService_eq (p : Iperf) (nowMs transferMs : UInt32) (a : IperfSend) :
    iperfService p nowMs transferMs a =
      if serviceRuns p nowMs then
        let p := if startDue p nowMs then { p with startDelay := 0, running := true } else p
        ((transferData p transferMs a).1, (transferData p transferMs a).2.2)
      else (p, []) := by
  unfold iperfService serviceRuns
  cases hdue : startDue p nowMs with
  | true => simp
  | false =>
    simp only [Bool.false_eq_true, if_false, Bool.or_false]

/-- Reports change neither. -/
theorem udpConnReport_spec (p : Iperf) (diff : UInt32) (reportType : ReportType) :
    (udpConnReport p diff reportType).1.running = p.running ∧
      (udpConnReport p diff reportType).1.startDelay = p.startDelay ∧
      (udpConnReport p diff reportType).1.client.startTime = p.client.startTime := by
  cases reportType <;> exact ⟨rfl, rfl, rfl⟩

theorem udpPacketSend_spec (p : Iperf) (finished : Bool) (a : IperfSend) :
    (udpPacketSend p finished a).1.running = (p.running && !a.fatal) ∧
      (udpPacketSend p finished a).1.startDelay = p.startDelay := by
  rcases udpPacketSend_cases p finished a with ⟨-, hfatal, he | he⟩ | ⟨-, hfatal, -, he⟩ |
    ⟨-, hfatal, -, he⟩ | ⟨hfatal, he⟩
  · simp [he, hfatal]
  · simp [he, hfatal]
  · simp [he, hfatal, Iperf.countSent]
  · simp [he, hfatal]
  · simp [he, hfatal, udpConnReport]

theorem interimReport_spec (p : Iperf) (now : UInt32) :
    (interimReport p now).1.running = p.running ∧
      (interimReport p now).1.startDelay = p.startDelay ∧
      (interimReport p now).1.client.startTime = p.client.startTime := by
  unfold interimReport
  split
  · simp only
    split
    · exact udpConnReport_spec p (now - p.client.iReport.startTime) .interReport
    · exact ⟨rfl, rfl, rfl⟩
  · exact ⟨rfl, rfl, rfl⟩

theorem transferData_spec (p : Iperf) (now : UInt32) (a : IperfSend) :
    (transferData p now a).1.running = (p.running && !(timeUp p now || a.fatal)) ∧
      (transferData p now a).1.startDelay = p.startDelay := by
  obtain ⟨hrun, hdelay, hstart⟩ := interimReport_spec p now
  unfold transferData timeUp
  simp only [hstart]
  by_cases hup : now - p.client.startTime ≥ iperfEndTime
  · rw [if_pos hup]
    obtain ⟨-, hd⟩ := udpPacketSend_spec (interimReport p now).1 true a
    obtain ⟨-, hd', -⟩ := udpConnReport_spec (udpPacketSend (interimReport p now).1 true a).1
      (now - p.client.startTime) .udpDoneClient
    refine ⟨?_, hd'.trans (hd.trans hdelay)⟩
    simp [hup]
  · rw [if_neg hup]
    obtain ⟨hr, hd⟩ := udpPacketSend_spec (interimReport p now).1 false a
    refine ⟨?_, hd.trans hdelay⟩
    simp only [hr, hrun]
    simp [hup]

/-- A start replaces whatever session there was by a pending one. -/
theorem iperfStartApplication_spec (p : Iperf) (startMs statsMs transferMs : UInt32)
    (a : IperfSend) :
    (iperfStartApplication p startMs statsMs transferMs a).1.running = false ∧
      (iperfStartApplication p startMs statsMs transferMs a).1.startDelay = startMs := by
  unfold iperfStartApplication
  obtain ⟨hr, hd⟩ := transferData_spec
    (resetStats { p with running := false, startDelay := startMs } statsMs).1 transferMs a
  exact ⟨hr, hd⟩

theorem iperfService_spec (p : Iperf) (nowMs transferMs : UInt32) (a : IperfSend) :
    (iperfService p nowMs transferMs a).1.running =
        ((p.running || startDue p nowMs) && !(timeUp p transferMs || a.fatal)) ∧
      (iperfService p nowMs transferMs a).1.startDelay =
        if startDue p nowMs then 0 else p.startDelay := by
  unfold iperfService
  by_cases hdue : startDue p nowMs = true
  · simp only [if_pos hdue]
    obtain ⟨hr, hd⟩ := transferData_spec { p with startDelay := 0, running := true } transferMs a
    refine ⟨hr.trans ?_, hd⟩
    rw [hdue]
    simp [timeUp]
  · simp only [if_neg hdue]
    by_cases hrun : p.running = true
    · rw [if_pos hrun]
      obtain ⟨hr, hd⟩ := transferData_spec p transferMs a
      refine ⟨hr.trans ?_, hd⟩
      simp [hrun]
    · rw [if_neg hrun]
      simp [hrun, hdue]

end CuriosityT1S
