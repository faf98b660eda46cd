import CuriosityT1S.SpiDevice
import CuriosityT1S.SpiSetup

/-!
# The SPI transaction in flight (dmaspi.c)

    RxIsr:       what the interrupt of channel 1 can know
    Exchanging:  how far both channels are, by what has been on the wire
    Sim:         the code's state and the device's
-/

namespace CuriosityT1S

open ByteMemory

/-! ## The transaction in flight -/

structure SpiPort.Quiet (p : SpiPort) : Prop where
  txBuf : p.txBuf = none
  shifter : p.shifter = none
  rxBuf : p.rxBuf = none

/-- DONE and the place in the interrupts, when the bytes of the transaction in flight are `all`
stored or not.  After the callback DONE is still that of the transaction before. -/
structure RxIsr (done : Bool) (isr : Option (DmaChannel × DmaIsrPc)) (nested : List RegWrite)
    (all : Prop) : Prop where
  done : done = true → all ∨ isr = some (.rx, .inHandler) ∨ isr = some (.rx, .clearDone)
  call : isr = some (.rx, .callDone) → all
  nested : nested ≠ [] → isr = some (.rx, .inHandler)

structure Idle (s : SpiDma) (d : SpiDevice) : Prop where
  inFlight : d.inFlight = none
  lent : s.lent = none
  regs : IdleRegs s.regs
  quiet : s.port.Quiet
  ahead : ∀ w ∈ s.ahead, w ∈ completionEnable
  mem : s.mem = d.mem
  isr : RxIsr s.rx.done s.isr s.nested False

/-- `sent` cells have been fetched from the transmit buffer, and `stored` is what the receiving
channel has written.  Of the statements to come, `setup` is left before the first cell; they are the
handler's as long as it has not returned. -/
structure Exchanging (s : SpiDma) (d : SpiDevice) (x : SpiExchange) (setup rest : List RegWrite)
    (dummy : UInt8) (sent : Nat) (stored : List UInt8) : Prop where
  inFlight : d.inFlight = some x
  lent : s.lent = some ⟨some x.pTx, some x.pRx, x.length⟩
  sound : SpiRequest.Sound ⟨some x.pTx, some x.pRx, x.length⟩
  ahead : s.ahead = setup ++ rest
  rest : ∀ w ∈ rest, w ∈ completionEnable
  guarded : Guarded s.regs setup
  regs : applyAll s.regs setup = armedRegs dummy x.pTx x.pRx x.length.toNat sent stored.length
  fresh : setup ≠ [] → s.port.Quiet ∧ stored = []
  sent_le : sent ≤ x.length.toNat
  toSend : x.toSend = s.port.pipe ++ bytesAt d.mem (x.pTx + sent) (x.length.toNat - sent)
  received : x.received = stored ++ s.port.rxBuf.toList
  room : x.toSend.length + x.received.length ≤ x.length.toNat
  mem : s.mem = storeBytes d.mem x.pRx stored
  isr : RxIsr s.rx.done s.isr s.nested (stored.length = x.length.toNat)
  handler : s.isr = some (.rx, .inHandler) → setup.length ≤ s.nested.length

/-- The code's state and the device's. -/
def Sim (s : SpiDma) (d : SpiDevice) : Prop :=
  Idle s d ∨ ∃ x setup rest dummy sent stored, Exchanging s d x setup rest dummy sent stored

/-- What a step shows is what the device does. -/
def SpiDevice.Does (d : SpiDevice) (r : SpiDma × List SpiDmaOut) : Prop :=
  ∃ d', r.2.foldlM SpiDevice.after d = some d' ∧ Sim r.1 d'

theorem SpiDevice.Does.trans {d d' : SpiDevice} {s : SpiDma} {outs outs' : List SpiDmaOut}
    (h : outs.foldlM after d = some d') (h' : d'.Does (s, outs')) : d.Does (s, outs ++ outs') := by
  obtain ⟨e, houts, hsim⟩ := h'
  refine ⟨e, ?_, hsim⟩
  rw [List.foldlM_append, h]
  exact houts

theorem Sim.does {s : SpiDma} {d : SpiDevice} (h : Sim s d) : d.Does (s, []) := ⟨d, rfl, h⟩

namespace Exchanging

variable {s : SpiDma} {d : SpiDevice} {x : SpiExchange} {setup rest : List RegWrite} {dummy : UInt8}
  {sent : Nat} {stored : List UInt8}

/-- When everything is set up. -/
theorem armed (h : Exchanging s d x [] rest dummy sent stored) :
    s.regs = armedRegs dummy x.pTx x.pRx x.length.toNat sent stored.length := h.regs

theorem length_pos (h : Exchanging s d x setup rest dummy sent stored) : 0 < x.length.toNat :=
  h.sound.1

theorem apart (h : Exchanging s d x setup rest dummy sent stored) :
    x.pTx + x.length.toNat ≤ x.pRx ∨ x.pRx + x.length.toNat ≤ x.pTx := h.sound.2

/-- `dmaControl` while the setting up goes on and afterwards. -/
theorem control (h : Exchanging s d x setup rest dummy sent stored) :
    s.regs.control.completionHandler = true ∧ s.regs.control.txonly = 0 := by
  cases setup with
  | nil =>
    have hregs := h.armed
    rw [hregs]
    exact ⟨rfl, rfl⟩
  | cons w ws => exact h.guarded.1

/-- All is set up if something has gone through the port. -/
theorem setup_nil (h : Exchanging s d x setup rest dummy sent stored)
    (hport : ¬ s.port.Quiet ∨ stored ≠ []) : setup = [] := by
  by_contra hne
  obtain ⟨hquiet, hnil⟩ := h.fresh hne
  rcases hport with hp | hp
  · exact hp hquiet
  · exact hp hnil

theorem setup_nil_of_rxBuf (h : Exchanging s d x setup rest dummy sent stored) {b : UInt8}
    (hb : s.port.rxBuf = some b) : setup = [] := by
  refine h.setup_nil (.inl fun hquiet => ?_)
  rw [hquiet.rxBuf] at hb
  cases hb

theorem setup_nil_of_shifter (h : Exchanging s d x setup rest dummy sent stored) {t : UInt8}
    (ht : s.port.shifter = some t) : setup = [] := by
  refine h.setup_nil (.inl fun hquiet => ?_)
  rw [hquiet.shifter] at ht
  cases ht

/-- The requests of the SPI are masked, or the channel is not enabled yet, until all is set up. -/
theorem setup_nil_of_tx (h : Exchanging s d x setup rest dummy sent stored)
    (hchen : s.regs.tx.chen = true) (hmask : s.regs.spitben = true) : setup = [] := by
  cases setup with
  | nil => rfl
  | cons w ws =>
    have hguard := h.guarded.2.1
    rw [hchen, hmask] at hguard
    cases hguard

theorem stored_le (h : Exchanging s d x setup rest dummy sent stored) :
    stored.length ≤ x.length.toNat := by
  have hroom := h.room
  rw [h.received, List.length_append] at hroom
  omega

/-- Everything has been sent when there is nothing left to send. -/
theorem all_sent (h : Exchanging s d x setup rest dummy sent stored) (hsend : x.toSend = []) :
    sent = x.length.toNat := by
  have hbytes := (List.append_eq_nil_iff.mp (h.toSend.symm.trans hsend)).2
  have hzero : x.length.toNat - sent = 0 := by
    rw [← bytesAt_length d.mem (x.pTx + sent) (x.length.toNat - sent), hbytes]
    rfl
  have hle := h.sent_le
  omega

/-- Everything has been received: nothing is in the port any more. -/
theorem all_received (h : Exchanging s d x setup rest dummy sent stored)
    (hall : stored.length = x.length.toNat) :
    setup = [] ∧ s.port.Quiet ∧ x.toSend = [] ∧ x.received = stored := by
  have hsetup : setup = [] := by
    refine h.setup_nil (.inr fun hnil => ?_)
    have hpos := h.length_pos
    rw [hnil, List.length_nil] at hall
    omega
  have hroom := h.room
  rw [h.received, List.length_append, hall] at hroom
  have hsend : x.toSend = [] := List.length_eq_zero_iff.mp (by omega)
  have hrx : s.port.rxBuf = none := by
    rw [← Option.toList_eq_nil_iff, ← List.length_eq_zero_iff]
    omega
  have hpipe : s.port.pipe = [] := (List.append_eq_nil_iff.mp (h.toSend.symm.trans hsend)).1
  obtain ⟨hshifter, htx⟩ := List.append_eq_nil_iff.mp hpipe
  refine ⟨hsetup, ⟨?_, ?_, hrx⟩, hsend, ?_⟩
  · exact Option.toList_eq_nil_iff.mp htx
  · exact Option.toList_eq_nil_iff.mp hshifter
  · rw [h.received, hrx]
    exact List.append_nil stored

end Exchanging

theorem Sim.txonly {s : SpiDma} {d : SpiDevice} (h : Sim s d) : s.regs.control.txonly = 0 := by
  rcases h with h | ⟨x, setup, rest, dummy, sent, stored, h⟩
  · rw [h.regs.control]
  · exact h.control.2

theorem Sim.handler {s : SpiDma} {d : SpiDevice} (h : Sim s d) :
    s.regs.control.completionHandler = true := by
  rcases h with h | ⟨x, setup, rest, dummy, sent, stored, h⟩
  · rw [h.regs.control]
  · exact h.control.1

/-- Only the completion handler calls inside an interrupt. -/
theorem Sim.nested {s : SpiDma} {d : SpiDevice} (h : Sim s d) :
    s.nested ≠ [] → s.isr = some (.rx, .inHandler) := by
  rcases h with h | ⟨x, setup, rest, dummy, sent, stored, h⟩
  · exact h.isr.nested
  · exact h.isr.nested

theorem Sim.nested_nil {s : SpiDma} {d : SpiDevice} (h : Sim s d)
    (hisr : s.isr ≠ some (.rx, .inHandler)) : s.nested = [] := by
  by_contra hne
  exact hisr (h.nested hne)

end CuriosityT1S
