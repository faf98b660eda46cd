import CuriosityT1S.DmaSpi
import CuriosityT1S.Lib.Mealy
import Mathlib.Data.List.Chain

/-!
# The interrupts of the two DMA channels (dma.c)

Both interrupts have the same priority, so that one runs to its end before the other, statement by
statement; the callbacks of dmaspi.c are taken as wholes.  A transaction with both buffers is
started from the main loop or by the completion handler, inside the interrupt of channel 1.  The
flags of the hardware are set at any moment, and cleared by the interrupt at its end.

    Early:                 the end of a transfer that the interrupt then clears unseen
    RxPhase:               what the flags, the DMA's status and the interrupt have to do with
                           each other
    completions_seen_iff:  the end of every transfer is seen if and only if none is early; after
                           one that is not, the driver is stuck
-/

namespace CuriosityT1S

open Mealy

/-! ## The interrupts -/

/-- Channel 0 transmits, channel 1 receives. -/
inductive DmaChannel
  | tx | rx
deriving DecidableEq, Repr

/-- `DMAxSTATbits.OVERRUN`, `DMAxSTATbits.DONE` and `DMAxIF`. -/
structure ChannelFlags where
  overrun : Bool
  done : Bool
  iflag : Bool
deriving DecidableEq, Repr

/-- The next statement of `_DMA0Interrupt` or `_DMA1Interrupt`; in `inHandler` the callback has
called the completion handler, and it has not returned. -/
inductive DmaIsrPc
  | testOverrun | callOverrun | clearOverrun | testDone | callDone | inHandler | clearDone | clearIf
deriving DecidableEq, Repr

/-- `txLeft` and `rxLeft` are whether the channels have not done their part of the transfer. -/
structure DmaIsr where
  control : DmaControl
  tx : ChannelFlags
  rx : ChannelFlags
  spirov : Bool
  txLeft : Bool
  rxLeft : Bool
  isr : Option (DmaChannel × DmaIsrPc)
deriving DecidableEq, Repr

def DmaIsr.start : DmaIsr :=
  ⟨dmaSpiInit, ⟨false, false, false⟩, ⟨false, false, false⟩, false, false, false, none⟩

namespace DmaIsr

def flags (s : DmaIsr) : DmaChannel → ChannelFlags
  | .tx => s.tx
  | .rx => s.rx

def setFlags (s : DmaIsr) (f : ChannelFlags) : DmaChannel → DmaIsr
  | .tx => { s with tx := f }
  | .rx => { s with rx := f }

/-- The handler that is registered for the channel, and whether it calls the completion handler. -/
def callback (s : DmaIsr) (event : DmaEvent) : DmaChannel → DmaIsr × Bool
  | .tx => ({ s with control := dma0Callback s.control event }, false)
  | .rx =>
    let (c, regs, called) := dma1Callback s.control ⟨s.rx.overrun, s.spirov⟩ event
    ({ s with control := c, rx := { s.rx with overrun := regs.overrun }, spirov := regs.spirov },
      called)

def goto (s : DmaIsr) (ch : DmaChannel) (pc : DmaIsrPc) : DmaIsr := { s with isr := some (ch, pc) }

end DmaIsr

/-- A transaction is started, or the completion handler is called. -/
inductive DmaIsrOut
  | started
  | completionHandler
deriving DecidableEq, Repr

/-- One statement of the interrupt. -/
def isrStatement (s : DmaIsr) (ch : DmaChannel) : DmaIsrPc → DmaIsr × List DmaIsrOut
  | .testOverrun => (s.goto ch (if (s.flags ch).overrun then .callOverrun else .testDone), [])
  | .callOverrun => ((s.callback .overrun ch).1.goto ch .clearOverrun, [])
  | .clearOverrun =>
    ((s.setFlags { s.flags ch with overrun := false } ch).goto ch .testDone, [])
  | .testDone => (s.goto ch (if (s.flags ch).done then .callDone else .clearIf), [])
  | .callDone =>
    let (s', called) := s.callback .transferDone ch
    (s'.goto ch .inHandler, if called then [.completionHandler] else [])
  | .inHandler => (s.goto ch .clearDone, [])
  | .clearDone => ((s.setFlags { s.flags ch with done := false } ch).goto ch .clearIf, [])
  | .clearIf => ({ s.setFlags { s.flags ch with iflag := false } ch with isr := none }, [])

/-- `request`: `dmaSpiStartTransaction` with both buffers.  `txDone`, `rxDone`, `overrun` and
`spirov` come from the hardware, which receives last. -/
inductive DmaIsrEvent
  | request
  | txDone
  | rxDone
  | overrun (ch : DmaChannel)
  | spirov
  | enter (ch : DmaChannel)
  | statement
deriving DecidableEq, Repr

/-- A request comes from the main loop or from the completion handler. -/
def DmaIsr.mayRequest (s : DmaIsr) : Bool :=
  match s.isr with
  | none => true
  | some (ch, pc) => ch = .rx && pc = .inHandler

def DmaIsr.request (s : DmaIsr) : DmaIsr × List DmaIsrOut :=
  match dmaSpiStartTransaction s.control true true with
  | (c, _, none) => ({ s with control := c }, [])
  | (c, _, some _) =>
    ({ s with control := c, tx := { s.tx with iflag := false }, rx := { s.rx with iflag := false },
              txLeft := true, rxLeft := true }, [.started])

def dmaIsrStep (s : DmaIsr) : DmaIsrEvent → DmaIsr × List DmaIsrOut
  | .request => if s.mayRequest then s.request else (s, [])
  | .txDone =>
    if s.txLeft then
      ({ s with txLeft := false, tx := { s.tx with done := true, iflag := true } }, [])
    else (s, [])
  | .rxDone =>
    if s.rxLeft && !s.txLeft then
      ({ s with rxLeft := false, rx := { s.rx with done := true, iflag := true } }, [])
    else (s, [])
  | .overrun ch =>
    if s.rxLeft then (s.setFlags { s.flags ch with overrun := true, iflag := true } ch, [])
    else (s, [])
  | .spirov => if s.rxLeft then ({ s with spirov := true }, []) else (s, [])
  | .enter ch =>
    if s.isr.isNone && (s.flags ch).iflag then (s.goto ch .testOverrun, []) else (s, [])
  | .statement =>
    match s.isr with
    | none => (s, [])
    | some (ch, pc) => isrStatement s ch pc

/-! ## What can go wrong -/

/-- The interrupt has looked at DONE. -/
def DmaIsrPc.late : DmaIsrPc → Bool
  | .inHandler | .clearDone | .clearIf => true
  | _ => false

/-- Where the interrupt of channel 1 is. -/
def DmaIsr.rxPc (s : DmaIsr) : Option DmaIsrPc :=
  match s.isr with
  | some (.rx, pc) => some pc
  | _ => none

/-- The transfer that has ended will be seen: the interrupt is to come, or has not looked yet. -/
def DmaIsr.Pending (s : DmaIsr) : Prop :=
  s.rx.done = true ∧
    match s.rxPc with
    | some pc => pc.late = false
    | none => s.rx.iflag = true

/-- The DMA is busy only as long as there is somebody to release it. -/
def DmaIsr.Seen (s : DmaIsr) : Prop :=
  s.control.busy = dmaBusy → s.rxLeft = true ∨ s.Pending

/-- The receiving channel is done after the interrupt has looked and before it has cleared the
flags. -/
def Early (s : DmaIsr) (e : DmaIsrEvent) : Prop :=
  e = .rxDone ∧ s.rxLeft = true ∧ s.txLeft = false ∧ ∃ pc, s.rxPc = some pc ∧ pc.late = true

/-! ## Flags and status -/

/-- Busy is what the status says of the transfer. -/
def DmaIsr.status (s : DmaIsr) : UInt8 := if s.rxLeft then dmaBusy else dmaAvailable

/-- `owed`: the transfer has ended and the completion handler has not been called. -/
inductive RxPhase (s : DmaIsr) : Prop
  | quiet (done : s.rx.done = false) (busy : s.control.busy = s.status)
      (pc : ∀ pc, s.rxPc = some pc → pc ≠ .callDone ∧ pc ≠ .inHandler ∧ pc ≠ .clearDone)
  | owed (left : s.rxLeft = false) (busy : s.control.busy = dmaBusy) (pending : s.Pending)
  | called (busy : s.control.busy = s.status)
      (pc : s.rxPc = some .inHandler ∨ s.rxPc = some .clearDone)

structure IsrInv (s : DmaIsr) : Prop where
  handler : s.control.completionHandler = true
  txonly : s.control.txonly = 0
  left : s.txLeft = true → s.rxLeft = true
  phase : RxPhase s

/-- The DMA is busy, and nobody is to come. -/
structure Stuck (s : DmaIsr) : Prop where
  txonly : s.control.txonly = 0
  busy : s.control.busy = dmaBusy
  rxLeft : s.rxLeft = false
  txLeft : s.txLeft = false
  missed : match s.rxPc with
    | some pc => pc.late = true
    | none => s.rx.iflag = false

theorem isrInv_start : IsrInv .start := ⟨rfl, rfl, nofun, .quiet rfl rfl nofun⟩

theorem IsrInv.busy_of_left {s : DmaIsr} (h : IsrInv s) (hleft : s.rxLeft = true) :
    s.control.busy = dmaBusy := by
  have hstatus : s.status = dmaBusy := if_pos hleft
  cases h.phase with
  | quiet done busy pc => exact busy.trans hstatus
  | owed left busy pending => exact busy
  | called busy pc => exact busy.trans hstatus

theorem IsrInv.seen {s : DmaIsr} (h : IsrInv s) : s.Seen := by
  intro hbusy
  have hleft : s.control.busy = s.status → s.rxLeft = true := by
    intro hst
    rw [hst] at hbusy
    unfold DmaIsr.status at hbusy
    split at hbusy
    · assumption
    · cases hbusy
  cases h.phase with
  | quiet done busy pc => exact .inl (hleft busy)
  | owed left busy pending => exact .inr pending
  | called busy pc => exact .inl (hleft busy)

theorem Stuck.not_seen {s : DmaIsr} (h : Stuck s) : ¬ s.Seen := by
  intro hseen
  rcases hseen h.busy with hleft | ⟨-, hpending⟩
  · rw [h.rxLeft] at hleft
    cases hleft
  · have hmissed := h.missed
    cases hpc : s.rxPc with
    | none =>
      rw [hpc] at hmissed hpending
      exact absurd (hmissed.symm.trans hpending) (by decide)
    | some pc =>
      rw [hpc] at hmissed hpending
      exact absurd (hpending.symm.trans hmissed) (by decide)

/-! ## One step -/

/-- What a step shows, and the status before and after. -/
inductive Shown (b b' : UInt8) : List DmaIsrOut → Prop
  | nothing (same : b' = b) : Shown b b' []
  | started (before : b = dmaAvailable) (after : b' = dmaBusy) : Shown b b' [.started]
  | completion (before : b = dmaBusy) (after : b' = dmaAvailable) :
      Shown b b' [.completionHandler]

theorem dma0Callback_idle {c : DmaControl} (h : c.txonly = 0) (event : DmaEvent) :
    dma0Callback c event = c := by
  unfold dma0Callback
  have hne : c.txonly ≠ 1 := by
    rw [h]
    decide
  rw [if_neg hne, ite_self]

/-- A request starts a transaction if the DMA is available. -/
theorem request_busy {s : DmaIsr} (h : s.control.busy = dmaBusy) : s.request = (s, []) := by
  unfold DmaIsr.request dmaSpiStartTransaction
  rw [if_neg (by rw [h]; decide)]

theorem request_available {s : DmaIsr} (h : s.control.busy = dmaAvailable) :
    s.request = ({ s with
      control := { s.control with busy := dmaBusy, txonly := 0 }
      tx := { s.tx with iflag := false }
      rx := { s.rx with iflag := false }
      txLeft := true
      rxLeft := true }, [.started]) := by
  unfold DmaIsr.request dmaSpiStartTransaction
  rw [if_pos (by rw [h]; decide)]
  rfl

theorem isrInv_request {s : DmaIsr} (h : IsrInv s) :
    IsrInv s.request.1 ∧ Shown s.control.busy s.request.1.control.busy s.request.2 := by
  obtain ⟨hhandler, htxonly, hleft, hphase⟩ := h
  have hstatus : s.control.busy = s.status → s.control.busy = dmaBusy ∨
      s.control.busy = dmaAvailable := by
    intro hst
    rw [hst]
    unfold DmaIsr.status
    split
    · exact .inl rfl
    · exact .inr rfl
  have hcases : s.control.busy = dmaBusy ∨ s.control.busy = dmaAvailable := by
    cases hphase with
    | quiet done busy pc => exact hstatus busy
    | owed left busy pending => exact .inl busy
    | called busy pc => exact hstatus busy
  rcases hcases with hbusy | hfree
  · rw [request_busy hbusy]
    exact ⟨⟨hhandler, htxonly, hleft, hphase⟩, .nothing rfl⟩
  · rw [request_available hfree]
    refine ⟨⟨hhandler, rfl, fun _ => rfl, ?_⟩, .started hfree rfl⟩
    cases hphase with
    | quiet done busy pc => exact .quiet done rfl pc
    | owed left busy pending =>
      rw [hfree] at busy
      cases busy
    | called busy pc => exact .called rfl pc

/-- A statement of the transmit interrupt changes nothing that matters here. -/
theorem isrStatement_tx {s : DmaIsr} (htxonly : s.control.txonly = 0) (pc : DmaIsrPc) :
    (isrStatement s .tx pc).2 = [] ∧
      ∃ tx isr, (isr = none ∨ ∃ pc', isr = some (DmaChannel.tx, pc')) ∧
        (isrStatement s .tx pc).1 = { s with tx := tx, isr := isr } := by
  cases pc with
  | callOverrun =>
    refine ⟨rfl, s.tx, some (.tx, .clearOverrun), .inr ⟨_, rfl⟩, ?_⟩
    show ({ s with control := dma0Callback s.control .overrun } : DmaIsr).goto _ _ = _
    rw [dma0Callback_idle htxonly]
    rfl
  | callDone =>
    refine ⟨rfl, s.tx, some (.tx, .inHandler), .inr ⟨_, rfl⟩, ?_⟩
    show ({ s with control := dma0Callback s.control .transferDone } : DmaIsr).goto _ _ = _
    rw [dma0Callback_idle htxonly]
    rfl
  | testOverrun => exact ⟨rfl, s.tx, _, .inr ⟨_, rfl⟩, rfl⟩
  | clearOverrun => exact ⟨rfl, _, _, .inr ⟨_, rfl⟩, rfl⟩
  | testDone => exact ⟨rfl, s.tx, _, .inr ⟨_, rfl⟩, rfl⟩
  | inHandler => exact ⟨rfl, s.tx, _, .inr ⟨_, rfl⟩, rfl⟩
  | clearDone => exact ⟨rfl, _, _, .inr ⟨_, rfl⟩, rfl⟩
  | clearIf => exact ⟨rfl, _, none, .inl rfl, rfl⟩

/-- The phase speaks of some of the state. -/
theorem RxPhase.congr {s s' : DmaIsr} (h : RxPhase s) (hcontrol : s'.control.busy = s.control.busy)
    (hdone : s'.rx.done = s.rx.done) (hleft : s'.rxLeft = s.rxLeft) (hpc : s'.rxPc = s.rxPc)
    (hif : s.rx.iflag = true → s'.rx.iflag = true) : RxPhase s' := by
  have hstatus : s'.status = s.status := by
    unfold DmaIsr.status
    rw [hleft]
  cases h with
  | quiet done busy pc =>
    exact .quiet (hdone.trans done) (by rw [hcontrol, busy, hstatus]) (by rwa [hpc])
  | owed left busy pending =>
    refine .owed (hleft.trans left) (hcontrol.trans busy) ⟨hdone.trans pending.1, ?_⟩
    have hpending := pending.2
    rw [hpc]
    cases hp : s.rxPc with
    | none =>
      rw [hp] at hpending
      exact hif hpending
    | some pc =>
      rw [hp] at hpending
      exact hpending
  | called busy pc => exact .called (by rw [hcontrol, busy, hstatus]) (by rwa [hpc])

/-- The interrupt of channel 1 goes on to `pc` with the flags as they are. -/
theorem RxPhase.goto {s : DmaIsr} (h : RxPhase s) {pc pc' : DmaIsrPc} (hpc : s.rxPc = some pc)
    (hearly : pc.late = false) (hearly' : pc'.late = false) (hnot : pc' ≠ .callDone) :
    RxPhase (s.goto .rx pc') := by
  cases h with
  | quiet done busy hq =>
    refine .quiet done busy fun p hp => ?_
    obtain rfl : pc' = p := Option.some.inj hp
    refine ⟨hnot, ?_, ?_⟩ <;>
    · rintro rfl
      cases hearly'
  | owed left busy pending => exact .owed left busy ⟨pending.1, hearly'⟩
  | called busy hcalled =>
    rcases hcalled with hc | hc <;>
    · rw [hpc] at hc
      cases hc
      cases hearly

/-- A statement of the receive interrupt. -/
theorem isrInv_rx {s : DmaIsr} (h : IsrInv s) (pc : DmaIsrPc) (hisr : s.isr = some (.rx, pc)) :
    IsrInv (isrStatement s .rx pc).1 ∧
      Shown s.control.busy (isrStatement s .rx pc).1.control.busy (isrStatement s .rx pc).2 := by
  obtain ⟨hhandler, htxonly, hleft, hphase⟩ := h
  have hpc : s.rxPc = some pc := by
    unfold DmaIsr.rxPc
    rw [hisr]
  cases pc with
  | testOverrun =>
    refine ⟨⟨hhandler, htxonly, hleft, ?_⟩, .nothing rfl⟩
    show RxPhase (s.goto .rx _)
    split
    · exact hphase.goto hpc rfl rfl nofun
    · exact hphase.goto hpc rfl rfl nofun
  | callOverrun =>
    have hcalled : RxPhase (s.goto .rx .clearOverrun) := hphase.goto hpc rfl rfl nofun
    exact ⟨⟨hhandler, htxonly, hleft, hcalled.congr rfl rfl rfl rfl id⟩, .nothing rfl⟩
  | clearOverrun =>
    have hcleared : RxPhase (s.goto .rx .testDone) := hphase.goto hpc rfl rfl nofun
    exact ⟨⟨hhandler, htxonly, hleft, hcleared.congr rfl rfl rfl rfl id⟩, .nothing rfl⟩
  | testDone =>
    refine ⟨⟨hhandler, htxonly, hleft, ?_⟩, .nothing rfl⟩
    show RxPhase (s.goto .rx (if s.rx.done then .callDone else .clearIf))
    cases hphase with
    | quiet done busy hq =>
      rw [done]
      exact .quiet done busy fun p hp => by
        obtain rfl : DmaIsrPc.clearIf = p := Option.some.inj hp
        exact ⟨nofun, nofun, nofun⟩
    | owed left busy pending =>
      rw [if_pos pending.1]
      exact .owed left busy ⟨pending.1, rfl⟩
    | called busy hcalled => rw [hpc] at hcalled; rcases hcalled with hc | hc <;> cases hc
  | callDone =>
    cases hphase with
    | quiet done busy hq => exact absurd rfl (hq _ hpc).1
    | owed left busy pending =>
      have hout : (isrStatement s .rx .callDone).2 = [.completionHandler] := if_pos hhandler
      rw [hout]
      refine ⟨⟨hhandler, htxonly, hleft, .called ?_ (.inl rfl)⟩, .completion busy rfl⟩
      show dmaAvailable = if s.rxLeft then dmaBusy else dmaAvailable
      rw [left]
      rfl
    | called busy hcalled => rw [hpc] at hcalled; rcases hcalled with hc | hc <;> cases hc
  | inHandler =>
    refine ⟨⟨hhandler, htxonly, hleft, ?_⟩, .nothing rfl⟩
    cases hphase with
    | quiet done busy hq => exact absurd rfl (hq _ hpc).2.1
    | owed left busy pending =>
      have hlate := pending.2
      rw [hpc] at hlate
      cases hlate
    | called busy hcalled => exact .called busy (.inr rfl)
  | clearDone =>
    refine ⟨⟨hhandler, htxonly, hleft, ?_⟩, .nothing rfl⟩
    cases hphase with
    | quiet done busy hq => exact absurd rfl (hq _ hpc).2.2
    | owed left busy pending =>
      have hlate := pending.2
      rw [hpc] at hlate
      cases hlate
    | called busy hcalled =>
      exact .quiet rfl busy fun p hp => by
        obtain rfl : DmaIsrPc.clearIf = p := Option.some.inj hp
        exact ⟨nofun, nofun, nofun⟩
  | clearIf =>
    refine ⟨⟨hhandler, htxonly, hleft, ?_⟩, .nothing rfl⟩
    cases hphase with
    | quiet done busy hq => exact .quiet done busy nofun
    | owed left busy pending =>
      have hlate := pending.2
      rw [hpc] at hlate
      cases hlate
    | called busy hcalled => rw [hpc] at hcalled; rcases hcalled with hc | hc <;> cases hc

/-- **One step.**  If it is not an early end, what belongs together stays together. -/
theorem isrInv_step {s : DmaIsr} (h : IsrInv s) (e : DmaIsrEvent) (hearly : ¬ Early s e) :
    IsrInv (dmaIsrStep s e).1 ∧
      Shown s.control.busy (dmaIsrStep s e).1.control.busy (dmaIsrStep s e).2 := by
  have hsame : IsrInv s ∧ Shown s.control.busy s.control.busy [] := ⟨h, .nothing rfl⟩
  unfold dmaIsrStep
  cases e with
  | request =>
    dsimp only
    split
    · exact isrInv_request h
    · exact hsame
  | txDone =>
    dsimp only
    split
    · exact ⟨⟨h.handler, h.txonly, nofun, h.phase.congr rfl rfl rfl rfl id⟩, .nothing rfl⟩
    · exact hsame
  | rxDone =>
    dsimp only
    split
    · next hends =>
      -- somebody is going to look
      obtain ⟨hleft, htx⟩ : s.rxLeft = true ∧ s.txLeft = false := by simpa using hends
      have hlate : ∀ pc, s.rxPc = some pc → pc.late = false := by
        intro pc hpc
        rw [← Bool.not_eq_true]
        exact fun hlate => hearly ⟨rfl, hleft, htx, pc, hpc, hlate⟩
      have hbusy := h.busy_of_left hleft
      refine ⟨⟨h.handler, h.txonly, fun ht => ?_, .owed rfl hbusy ⟨rfl, ?_⟩⟩, .nothing rfl⟩
      · exact absurd (ht.symm.trans htx) (by decide)
      · show match s.rxPc with
          | some pc => pc.late = false
          | none => true = true
        cases hpc : s.rxPc with
        | none => rfl
        | some pc => exact hlate pc hpc
    · exact hsame
  | overrun ch =>
    dsimp only
    split
    · next hleft =>
      cases ch with
      | tx => exact ⟨⟨h.handler, h.txonly, h.left, h.phase.congr rfl rfl rfl rfl id⟩, .nothing rfl⟩
      | rx =>
        exact ⟨⟨h.handler, h.txonly, h.left, h.phase.congr rfl rfl rfl rfl fun _ => rfl⟩,
          .nothing rfl⟩
    · exact hsame
  | spirov =>
    dsimp only
    split
    · exact ⟨⟨h.handler, h.txonly, h.left, h.phase.congr rfl rfl rfl rfl id⟩, .nothing rfl⟩
    · exact hsame
  | enter ch =>
    dsimp only
    split
    · next henter =>
      obtain ⟨hisr, hif⟩ : s.isr = none ∧ (s.flags ch).iflag = true := by simpa using henter
      have hpc : s.rxPc = none := by
        unfold DmaIsr.rxPc
        rw [hisr]
      cases ch with
      | tx =>
        exact ⟨⟨h.handler, h.txonly, h.left, h.phase.congr rfl rfl rfl hpc.symm id⟩, .nothing rfl⟩
      | rx =>
        refine ⟨⟨h.handler, h.txonly, h.left, ?_⟩, .nothing rfl⟩
        cases h.phase with
        | quiet done busy hq =>
          exact .quiet done busy fun p hp => by
            obtain rfl : DmaIsrPc.testOverrun = p := Option.some.inj hp
            exact ⟨nofun, nofun, nofun⟩
        | owed left busy pending => exact .owed left busy ⟨pending.1, rfl⟩
        | called busy hcalled => rw [hpc] at hcalled; rcases hcalled with hc | hc <;> cases hc
    · exact hsame
  | statement =>
    dsimp only
    split
    · exact hsame
    · next ch pc hisr =>
      cases ch with
      | tx =>
        obtain ⟨hout, tx, isr, hnext, heq⟩ := isrStatement_tx h.txonly pc
        rw [hout, heq]
        refine ⟨⟨h.handler, h.txonly, h.left, h.phase.congr rfl rfl rfl ?_ id⟩, .nothing rfl⟩
        unfold DmaIsr.rxPc
        rw [hisr]
        rcases hnext with rfl | ⟨pc', rfl⟩ <;> rfl
      | rx => exact isrInv_rx h pc hisr

/-! ## Too early -/

/-- An early end is not seen. -/
theorem stuck_of_early {s : DmaIsr} (h : IsrInv s) (e : DmaIsrEvent) (hearly : Early s e) :
    Stuck (dmaIsrStep s e).1 ∧ (dmaIsrStep s e).2 = [] := by
  obtain ⟨rfl, hleft, htx, pc, hpc, hlate⟩ := hearly
  have hends : (s.rxLeft && !s.txLeft) = true := by rw [hleft, htx]; rfl
  have hbusy := h.busy_of_left hleft
  unfold dmaIsrStep
  simp only [if_pos hends]
  refine ⟨⟨h.txonly, hbusy, rfl, htx, ?_⟩, trivial⟩
  show match s.rxPc with
    | some pc => pc.late = true
    | none => true = false
  rw [hpc]
  exact hlate

/-- Then nothing is started or reported any more. -/
theorem stuck_step {s : DmaIsr} (h : Stuck s) (e : DmaIsrEvent) :
    Stuck (dmaIsrStep s e).1 ∧ (dmaIsrStep s e).2 = [] := by
  have hsame : Stuck s ∧ ([] : List DmaIsrOut) = [] := ⟨h, rfl⟩
  obtain ⟨htxonly, hbusy, hrx, htx, hmissed⟩ := h
  unfold dmaIsrStep
  cases e with
  | request =>
    dsimp only
    rw [request_busy hbusy]
    split <;> exact hsame
  | txDone => simp only [htx]; exact hsame
  | rxDone => simp only [hrx]; exact hsame
  | overrun ch => simp only [hrx]; exact hsame
  | spirov => simp only [hrx]; exact hsame
  | enter ch =>
    dsimp only
    split
    · next henter =>
      obtain ⟨hisr, hif⟩ : s.isr = none ∧ (s.flags ch).iflag = true := by simpa using henter
      have hpc : s.rxPc = none := by
        unfold DmaIsr.rxPc
        rw [hisr]
      rw [hpc] at hmissed
      cases ch with
      | tx => exact ⟨⟨htxonly, hbusy, hrx, htx, hmissed⟩, rfl⟩
      | rx => exact absurd (hmissed.symm.trans hif) (by decide)
    · exact hsame
  | statement =>
    dsimp only
    split
    · exact hsame
    · next ch pc hisr =>
      have hpc : s.rxPc = if ch = .rx then some pc else none := by
        unfold DmaIsr.rxPc
        rw [hisr]
        cases ch <;> rfl
      rw [hpc] at hmissed
      cases ch with
      | tx =>
        obtain ⟨hout, tx, isr, hnext, heq⟩ := isrStatement_tx htxonly pc
        rw [hout, heq]
        refine ⟨⟨htxonly, hbusy, hrx, htx, ?_⟩, rfl⟩
        rcases hnext with rfl | ⟨pc', rfl⟩ <;> exact hmissed
      | rx =>
        have hlate : pc.late = true := hmissed
        cases pc with
        | inHandler | clearDone | clearIf => exact ⟨⟨htxonly, hbusy, hrx, htx, rfl⟩, rfl⟩
        | testOverrun | callOverrun | clearOverrun | testDone | callDone => cases hlate

/-! ## Runs -/

/-- Every state is in order, or stuck after an early end. -/
theorem isrInv_or_stuck (s : DmaIsr) (e : DmaIsrEvent) (h : IsrInv s ∨ Stuck s) :
    (IsrInv (dmaIsrStep s e).1 ∨ Stuck (dmaIsrStep s e).1) ∧
      Shown s.control.busy (dmaIsrStep s e).1.control.busy (dmaIsrStep s e).2 := by
  rcases h with h | h
  · by_cases hearly : Early s e
    · obtain ⟨hstuck, hout⟩ := stuck_of_early h e hearly
      have hbusy := h.busy_of_left hearly.2.1
      rw [hout]
      exact ⟨.inr hstuck, .nothing (hstuck.busy.trans hbusy.symm)⟩
    · obtain ⟨hinv, hshown⟩ := isrInv_step h e hearly
      exact ⟨.inl hinv, hshown⟩
  · obtain ⟨hstuck, hout⟩ := stuck_step h e
    rw [hout]
    exact ⟨.inr hstuck, .nothing (hstuck.busy.trans h.busy.symm)⟩

/-- What has been shown alternates, and tells the status. -/
structure Alternates (s : DmaIsr) (l : List DmaIsrOut) : Prop where
  chain : (.completionHandler :: l).IsChain (· ≠ ·)
  last : s.control.busy =
    match l.getLastD .completionHandler with
    | .started => dmaBusy
    | .completionHandler => dmaAvailable

theorem Alternates.concat {l : List DmaIsrOut} {o : DmaIsrOut}
    (h : (.completionHandler :: l).IsChain (· ≠ ·)) (hne : l.getLastD .completionHandler ≠ o) :
    (.completionHandler :: (l ++ [o])).IsChain (· ≠ ·) := by
  rw [← List.cons_append, List.isChain_append]
  refine ⟨h, List.isChain_singleton o, fun x hx y hy => ?_⟩
  rw [List.getLast?_cons, Option.mem_some_iff] at hx
  obtain rfl : o = y := by simpa using hy
  rw [← hx, ← List.getLastD_eq_getLast?]
  exact hne

theorem Alternates.step {s s' : DmaIsr} {l out : List DmaIsrOut} (h : Alternates s l)
    (hshown : Shown s.control.busy s'.control.busy out) : Alternates s' (l ++ out) := by
  obtain ⟨hchain, hlast⟩ := h
  cases hshown with
  | nothing same =>
    rw [List.append_nil]
    exact ⟨hchain, same.trans hlast⟩
  | started before after =>
    refine ⟨Alternates.concat hchain fun heq => ?_, by rw [List.getLastD_concat]; exact after⟩
    rw [heq, before] at hlast
    cases hlast
  | completion before after =>
    refine ⟨Alternates.concat hchain fun heq => ?_, by rw [List.getLastD_concat]; exact after⟩
    rw [heq, before] at hlast
    cases hlast

/-- **Completions.**  Whenever the channels are done and whoever asks: transactions are started and
reported in turn, and the end of every transfer is seen by the interrupt if and only if none comes
after it has looked and before it has cleared the flags.  After one that does, nothing is started or
reported any more. -/
theorem completions_seen_iff (es : List DmaIsrEvent) :
    (.completionHandler :: emits dmaIsrStep .start es).IsChain (· ≠ ·) ∧
      (Along dmaIsrStep (fun s e => ¬ Early s e) .start es ↔
        Along dmaIsrStep (fun s e => (dmaIsrStep s e).1.Seen) .start es) ∧
      ∀ pre e post, es = pre ++ e :: post → Early (exec dmaIsrStep .start pre) e →
        emits dmaIsrStep (exec dmaIsrStep .start (pre ++ [e])) post = [] := by
  refine ⟨?_, ?_, ?_⟩
  · have hrun := exec_emits_inv dmaIsrStep
      (fun s l => (IsrInv s ∨ Stuck s) ∧ Alternates s l)
      (fun s l e ⟨hs, hl⟩ => by
        obtain ⟨hs', hshown⟩ := isrInv_or_stuck s e hs
        exact ⟨hs', hl.step hshown⟩)
      es DmaIsr.start [] ⟨.inl isrInv_start, List.isChain_singleton _, rfl⟩
    exact hrun.2.chain
  · apply along_iff dmaIsrStep _ _ IsrInv ?_ ?_ es _ isrInv_start
    · intro s e h
      constructor
      · intro hearly
        exact (isrInv_step h e hearly).1.seen
      · intro hseen hearly
        exact (stuck_of_early h e hearly).1.not_seen hseen
    · intro s e h hearly
      exact (isrInv_step h e hearly).1
  · rintro pre e post - hearly
    have hreach := exec_inv_all dmaIsrStep (fun s => IsrInv s ∨ Stuck s)
      (fun s e h => (isrInv_or_stuck s e h).1) pre _ (.inl isrInv_start)
    have hstuck : Stuck (dmaIsrStep (exec dmaIsrStep .start pre) e).1 := by
      rcases hreach with h | h
      · exact (stuck_of_early h e hearly).1
      · exact (stuck_step h e).1
    rw [exec_append]
    have hnone := emits_forall dmaIsrStep (fun _ _ => True) Stuck (fun _ => False)
      (fun s e h _ => (stuck_step h e).1)
      (fun s e h _ o ho => by rw [(stuck_step h e).2] at ho; cases ho)
      post _ hstuck (along_true dmaIsrStep _ post)
    exact List.eq_nil_iff_forall_not_mem.mpr hnone

/-- The completion handler starts a second transfer, which is over before the interrupt is. -/
example : emits dmaIsrStep .start
    ([.request, .txDone, .rxDone, .enter .rx, .statement, .statement, .statement, .request, .txDone,
      .rxDone, .statement, .statement, .statement, .enter .rx, .statement, .request]) =
    [.started, .completionHandler, .started] := by decide

end CuriosityT1S
