import CuriosityT1S.Iperf

/-!
# Asking whether a send would block

`udp_packet_send` asks `TC6LwIP_SendWouldBlock` before it sends, and takes every answer of
`udp_sendto` but would-block and out-of-memory as fatal.  The query looks at the queue of
TC6 only, the driver's output function at the reset flag first.  `Sender` is the driver
with the throughput client on top; lwIP passes on what the driver answers.

    udpPacketSend_result: the client gives up exactly on a fatal answer
    queryAgrees_iff:      along every run, a query that says no is followed by a send that
                          works, if and only if the PHY is ready whenever there are segments
-/

namespace CuriosityT1S

open Mealy

variable {κ : Type}

/-- `segCount` is the answer of `TC6_GetRawSegments`. -/
def tc6LwipSendWouldBlock (idx : Int) (segCount : UInt8) : Bool := idxValid idx && segCount == 0

/-- What `udp_packet_send` is answered for the datagram `p`, with nothing happening between the
query and the send, and with `TC6_SendRawEthernetSegments` accepting what it is given. -/
def driverAnswer (tc : Tc6Lib) (segCount : UInt8) (p : TxPbuf) (pbufAlloc : Bool)
    (pbufTake : ErrT) (nowMs : UInt32) : IperfSend :=
  ⟨tc6LwipSendWouldBlock 0 segCount,
    ⟨pbufAlloc, pbufTake, (lwIpOut (κ := Unit) tc p segCount true).1⟩, nowMs⟩

structure Sender (κ : Type) where
  driver : Driver κ
  iperf : Iperf
deriving DecidableEq, Repr

def Sender.zero : Sender κ := ⟨.zero, .zero⟩

inductive SenderEvent (κ : Type)
  | driver (e : DriverEvent κ)
  | udpPacketSend (finished : Bool) (segCount : UInt8) (p : TxPbuf) (pbufAlloc : Bool)
      (pbufTake : ErrT) (nowMs : UInt32)
deriving DecidableEq, Repr

def senderStep [PbufRealloc] (s : Sender κ) : SenderEvent κ → Sender κ × List IperfCall
  | .driver e => ({ s with driver := (driverStep s.driver e).1 }, [])
  | .udpPacketSend finished segCount p pbufAlloc pbufTake nowMs =>
    let (iperf, _, calls) := udpPacketSend s.iperf finished
      (driverAnswer s.driver.tc segCount p pbufAlloc pbufTake nowMs)
    ({ s with iperf := iperf }, calls)

/-- If the query says that a send would not block, it works, and the client does not give up. -/
def QueryAgrees (s : Sender κ) : SenderEvent κ → Prop
  | .driver _ => True
  | .udpPacketSend finished segCount p pbufAlloc pbufTake nowMs =>
    (tc6LwipSendWouldBlock 0 segCount = false →
      (lwIpOut (κ := κ) s.driver.tc p segCount true).1 = .errOk) ∧
    (udpPacketSend s.iperf finished
      (driverAnswer s.driver.tc segCount p pbufAlloc pbufTake nowMs)).2.1 = 0

/-- The PHY is ready whenever segments are offered. -/
def QueryReady (s : Sender κ) : SenderEvent κ → Prop
  | .driver _ => True
  | .udpPacketSend _ segCount _ _ _ _ => segCount ≠ 0 → s.driver.tc.resetComplete = true

/-- The client gives up exactly on a fatal answer. -/
theorem udpPacketSend_result (p : Iperf) (finished : Bool) (a : IperfSend) :
    (udpPacketSend p finished a).2.1 = if a.fatal then -1 else 0 := by
  rcases udpPacketSend_cases p finished a with ⟨-, hfatal, he | he⟩ | ⟨-, hfatal, -, he⟩ |
    ⟨-, hfatal, -, he⟩ | ⟨hfatal, he⟩
  · simp [he, hfatal]
  · simp [he, hfatal]
  · simp [he, hfatal]
  · simp [he, hfatal]
  · simp [he, hfatal]

/-- The query sees only whether there are segments. -/
theorem sendWouldBlock_iff (segCount : UInt8) :
    tc6LwipSendWouldBlock 0 segCount = true ↔ segCount = 0 := by
  have hidx : idxValid 0 = true := rfl
  simp [tc6LwipSendWouldBlock, hidx]

/-- The output function works exactly if the PHY is ready and there are segments. -/
theorem lwIpOut_errOk_iff (tc : Tc6Lib) (p : TxPbuf) (segCount : UInt8) :
    (lwIpOut (κ := κ) tc p segCount true).1 = .errOk ↔
      tc.resetComplete = true ∧ segCount ≠ 0 := by
  unfold lwIpOut tc6CbResetComplete
  cases tc.resetComplete with
  | false => simp
  | true =>
    by_cases hseg : segCount = 0
    · simp [hseg]
    · simp [hseg]

/-- With the query in front, the answers of a driver that is ready or full are never fatal. -/
theorem driverAnswer_not_fatal (tc : Tc6Lib) (segCount : UInt8) (p : TxPbuf) (pbufAlloc : Bool)
    (pbufTake : ErrT) (nowMs : UInt32) (h : segCount ≠ 0 → tc.resetComplete = true) :
    (driverAnswer tc segCount p pbufAlloc pbufTake nowMs).fatal = false := by
  by_cases hseg : segCount = 0
  · have hblock := (sendWouldBlock_iff segCount).mpr hseg
    simp [driverAnswer, IperfSend.fatal, hblock]
  · have hok := (lwIpOut_errOk_iff (κ := Unit) tc p segCount).mpr ⟨h hseg, hseg⟩
    simp [driverAnswer, IperfSend.fatal, hok]

theorem queryAgrees_step_iff (s : Sender κ) (e : SenderEvent κ) :
    QueryAgrees s e ↔ QueryReady s e := by
  cases e with
  | driver e => exact Iff.rfl
  | udpPacketSend finished segCount p pbufAlloc pbufTake nowMs =>
    constructor
    · rintro ⟨hout, -⟩ hseg
      have hfree : tc6LwipSendWouldBlock 0 segCount = false := by
        rw [← Bool.not_eq_true, sendWouldBlock_iff]; exact hseg
      exact ((lwIpOut_errOk_iff s.driver.tc p segCount).mp (hout hfree)).1
    · intro hready
      constructor
      · intro hfree
        have hseg : segCount ≠ 0 := by
          intro h0
          rw [(sendWouldBlock_iff segCount).mpr h0] at hfree
          cases hfree
        exact (lwIpOut_errOk_iff s.driver.tc p segCount).mpr ⟨hready hseg, hseg⟩
      · rw [udpPacketSend_result, driverAnswer_not_fatal _ _ _ _ _ _ hready]
        rfl

/-- **Back pressure.**  Along every run, whenever the query says that a send would not block it
works and the client goes on, if and only if no datagram is sent with segments offered while the
PHY is not ready. -/
theorem queryAgrees_iff [PbufRealloc] (es : List (SenderEvent κ)) (s : Sender κ) :
    Along senderStep QueryAgrees s es ↔ Along senderStep QueryReady s es :=
  along_iff senderStep QueryAgrees QueryReady (fun _ => True)
    (fun s e _ => queryAgrees_step_iff s e) (fun _ _ _ _ => trivial) es s trivial

/-- A datagram with its headers. -/
def datagram : TxPbuf := ⟨0x3000, List.replicate 42 0, [List.replicate 1460 0x30], 1502⟩

section
attribute [local instance] singlePbuf

/-- After an SPI error the query still says that a send would not block, and the datagram that
follows ends the session. -/
theorem queryAgrees_not_always :
    ¬ ∀ es : List (SenderEvent Unit), Along senderStep QueryAgrees Sender.zero es := by
  intro h
  have hrun := h [.driver (.event .resetComplete), .driver (.error .spiError),
    .udpPacketSend false 8 datagram true .errOk 1000]
  obtain ⟨-, -, ⟨hout, -⟩, -⟩ := hrun
  exact absurd (hout rfl) (by decide)

end

end CuriosityT1S
