import CuriosityT1S.DmaSpi
import CuriosityT1S.Lib.Mealy

/-!
# Completion of a DMA transaction (dmaspi.c)

A transaction that receives ends with the event of channel 1, one that only transmits with the
event of channel 0.  Both callbacks release the DMA, but only that of channel 1 calls the
completion handler.

    DmaInv:            busy and txonly as functions of the transaction in flight
    dmaStep_right_iff: one call or event
    dmaRight_iff:      along every run each transaction is completed if and only if none that
                       only transmits gets to its end
-/

namespace CuriosityT1S

open Mealy

inductive DmaOp
  | startTransaction (pTx pRx : Bool)
  | dma0 (event : DmaEvent)
  | dma1 (event : DmaEvent) (regs : SpiRegs)
deriving DecidableEq, Repr

/-- The completion handler, with what `dmaSpiGetStatus` would tell it. -/
inductive DmaCall
  | completionHandler (status : UInt8)
deriving DecidableEq, Repr

/-- `dmaControl` and the transaction that the hardware was given last and has not ended. -/
structure DmaSpi where
  control : DmaControl
  inFlight : Option Channels
deriving DecidableEq, Repr

/-- The event that a transaction ends with: receive completes after transmit. -/
def DmaOp.ends : DmaOp → Channels → Bool
  | .dma0 .transferDone, .txOnly => true
  | .dma1 .transferDone _, .txRx => true
  | .dma1 .transferDone _, .rxOnly => true
  | _, _ => false

def DmaSpi.remaining (s : DmaSpi) (op : DmaOp) : Option Channels :=
  s.inFlight.filter fun ch => !op.ends ch

def dmaStep (s : DmaSpi) (op : DmaOp) : DmaSpi × List DmaCall :=
  match op with
  | .startTransaction pTx pRx =>
    let (c, _, started) := dmaSpiStartTransaction s.control pTx pRx
    (⟨c, started <|> s.inFlight⟩, [])
  | .dma0 event => (⟨dma0Callback s.control event, s.remaining op⟩, [])
  | .dma1 event regs =>
    let (c, _, called) := dma1Callback s.control regs event
    (⟨c, s.remaining op⟩, if called then [.completionHandler (dmaSpiGetStatus c)] else [])

def DmaSpi.start : DmaSpi := ⟨dmaSpiInit, none⟩

/-- Events are those of the channels the transaction in flight uses. -/
def ForInFlight (s : DmaSpi) : DmaOp → Prop
  | .startTransaction _ _ => True
  | .dma0 _ => s.inFlight ≠ none
  | .dma1 _ _ => s.inFlight = some .txRx ∨ s.inFlight = some .rxOnly

instance (s : DmaSpi) (op : DmaOp) : Decidable (ForInFlight s op) := by
  unfold ForInFlight
  split <;> infer_instance

/-- A call is accepted if and only if nothing is in flight and there is a buffer; the event that
ends a transaction releases the DMA and calls the handler once, which finds it available; nothing
else changes the status or calls the handler. -/
def DmaRight (s : DmaSpi) (op : DmaOp) : Prop :=
  let s' := (dmaStep s op).1
  match op with
  | .startTransaction pTx pRx =>
    ((dmaSpiStartTransaction s.control pTx pRx).2.1 = dmaBusy ↔
        s.inFlight = none ∧ (pTx = true ∨ pRx = true)) ∧
      dmaSpiGetStatus s'.control =
        (if s.inFlight = none ∧ (pTx = true ∨ pRx = true) then dmaBusy
        else dmaSpiGetStatus s.control) ∧
      (dmaStep s op).2 = []
  | _ =>
    if s.inFlight.any op.ends then
      dmaSpiGetStatus s.control = dmaBusy ∧ dmaSpiGetStatus s'.control = dmaAvailable ∧
        (dmaStep s op).2 = [.completionHandler dmaAvailable]
    else dmaSpiGetStatus s'.control = dmaSpiGetStatus s.control ∧ (dmaStep s op).2 = []

instance (s : DmaSpi) (op : DmaOp) : Decidable (DmaRight s op) := by
  unfold DmaRight
  split <;> infer_instance

/-- Channel 0 is done with a transaction that only transmits. -/
def TxOnlyDone (s : DmaSpi) (op : DmaOp) : Prop :=
  s.inFlight = some .txOnly ∧ op = .dma0 .transferDone

instance (s : DmaSpi) (op : DmaOp) : Decidable (TxOnlyDone s op) := by
  unfold TxOnlyDone
  infer_instance

/-! ## The transaction in flight -/

/-- `txonly` counts only as long as a transaction is in flight. -/
structure DmaInv (s : DmaSpi) : Prop where
  handler : s.control.completionHandler = true
  idle : s.inFlight = none → s.control.busy = dmaAvailable
  busy : s.inFlight ≠ none → s.control.busy = dmaBusy
  txonly : s.inFlight ≠ none → (s.control.txonly = 1 ↔ s.inFlight = some .txOnly)

theorem dmaInv_start : DmaInv DmaSpi.start :=
  ⟨rfl, fun _ => rfl, fun h => absurd rfl h, fun h => absurd rfl h⟩

/-- What a call to start a transaction does. -/
theorem dmaSpiStartTransaction_cases (c : DmaControl) (pTx pRx : Bool) :
    (¬ (c.busy = 0 ∧ (pTx = true ∨ pRx = true)) ∧
      dmaSpiStartTransaction c pTx pRx = (c, dmaAvailable, none)) ∨
    (c.busy = 0 ∧ (pTx = true ∨ pRx = true)) ∧ ∃ ch txonly,
      dmaSpiStartTransaction c pTx pRx =
        ({ c with busy := dmaBusy, txonly := txonly }, dmaBusy, some ch) ∧
      (txonly = 1 ↔ some ch = some Channels.txOnly) := by
  unfold dmaSpiStartTransaction
  by_cases h : c.busy = 0 ∧ (pTx = true ∨ pRx = true)
  · right
    rw [if_pos h]
    refine ⟨h, ?_⟩
    simp only
    split
    · exact ⟨.txRx, 0, rfl, by decide⟩
    · split
      · exact ⟨.rxOnly, 0, rfl, by decide⟩
      · exact ⟨.txOnly, 1, rfl, by decide⟩
  · left
    rw [if_neg h]
    exact ⟨h, rfl⟩

/-! ## One call or event -/

theorem dmaBusy_ne : dmaBusy ≠ dmaAvailable := by decide

/-- A call to start a transaction is always right. -/
theorem start_right (s : DmaSpi) (pTx pRx : Bool) (h : DmaInv s) :
    DmaRight s (.startTransaction pTx pRx) ∧
      DmaInv (dmaStep s (.startTransaction pTx pRx)).1 := by
  obtain ⟨hhandler, hidle, hbusy, htxonly⟩ := h
  unfold DmaRight dmaStep
  rcases dmaSpiStartTransaction_cases s.control pTx pRx with
    ⟨hnot, heq⟩ | ⟨⟨hfree, hptr⟩, ch, txonly, heq, htx⟩
  · have hrefused : ¬ (s.inFlight = none ∧ (pTx = true ∨ pRx = true)) :=
      fun hc => hnot ⟨hidle hc.1, hc.2⟩
    simp only [heq, if_neg hrefused]
    have hresult : dmaAvailable = dmaBusy ↔ s.inFlight = none ∧ (pTx = true ∨ pRx = true) :=
      ⟨fun hc => absurd hc.symm dmaBusy_ne, fun hc => absurd hc hrefused⟩
    refine ⟨⟨hresult, trivial, trivial⟩, ?_⟩
    exact ⟨hhandler, hidle, hbusy, htxonly⟩
  · have hnone : s.inFlight = none := by
      by_contra hc
      rw [hbusy hc] at hfree
      exact absurd hfree (by decide)
    have haccepted : s.inFlight = none ∧ (pTx = true ∨ pRx = true) := ⟨hnone, hptr⟩
    simp only [heq, if_pos haccepted]
    refine ⟨⟨⟨fun _ => haccepted, fun _ => trivial⟩, rfl, trivial⟩, ?_⟩
    exact ⟨hhandler, fun hc => (by cases hc), fun _ => rfl, fun _ => htx⟩

theorem DmaSpi.remaining_ended (s : DmaSpi) (op : DmaOp) (h : s.inFlight.any op.ends = true) :
    s.remaining op = none := by
  unfold DmaSpi.remaining
  rw [Option.filter_eq_none_iff]
  intro ch hch
  rw [hch] at h
  simpa using h

theorem DmaSpi.remaining_kept (s : DmaSpi) (op : DmaOp) (h : s.inFlight.any op.ends = false) :
    s.remaining op = s.inFlight := by
  unfold DmaSpi.remaining
  cases hf : s.inFlight with
  | none => rfl
  | some ch =>
    rw [hf] at h
    have hends : op.ends ch = false := by simpa using h
    rw [Option.filter_some, hends]
    rfl

/-- An event that ends nothing and changes nothing. -/
theorem dmaInv_kept (s : DmaSpi) (op : DmaOp) (h : DmaInv s)
    (hends : s.inFlight.any op.ends = false) : DmaInv ⟨s.control, s.remaining op⟩ := by
  rw [DmaSpi.remaining_kept s op hends]
  exact h

/-- The sending channel leaves a transaction alone that it does not end. -/
theorem dma0Callback_same (c : DmaControl) (event : DmaEvent)
    (h : ¬ (c.txonly = 1 ∧ event = .transferDone)) : dma0Callback c event = c := by
  unfold dma0Callback
  split
  · next hevent => rw [if_neg fun hc => h ⟨hc, hevent⟩]
  · rfl

/-- It ends those that only transmit. -/
theorem dma0_ends_iff (s : DmaSpi) (event : DmaEvent) :
    s.inFlight.any (DmaOp.ends (.dma0 event)) = true ↔ TxOnlyDone s (.dma0 event) := by
  unfold TxOnlyDone
  cases s.inFlight with
  | none => simp
  | some ch => cases ch <;> cases event <;> simp [DmaOp.ends]

/-- An event of the sending channel is right unless it ends a transaction. -/
theorem dma0_right_iff (s : DmaSpi) (event : DmaEvent) (h : DmaInv s)
    (hf : ForInFlight s (.dma0 event)) :
    (DmaRight s (.dma0 event) ↔ ¬ TxOnlyDone s (.dma0 event)) ∧
      (DmaRight s (.dma0 event) → DmaInv (dmaStep s (.dma0 event)).1) := by
  by_cases hdone : TxOnlyDone s (.dma0 event)
  · have hwrong : ¬ DmaRight s (.dma0 event) := by
      unfold DmaRight
      simp only [if_pos ((dma0_ends_iff s event).mpr hdone)]
      rintro ⟨-, -, hcall⟩
      cases hcall
    exact ⟨⟨fun hr => absurd hr hwrong, fun hn => absurd hdone hn⟩, fun hr => absurd hr hwrong⟩
  · have hends : s.inFlight.any (DmaOp.ends (.dma0 event)) = false := by
      rw [← Bool.not_eq_true, dma0_ends_iff]
      exact hdone
    have hsame : dma0Callback s.control event = s.control := by
      apply dma0Callback_same
      rintro ⟨hflag, rfl⟩
      exact hdone ⟨(h.txonly hf).mp hflag, rfl⟩
    have hinv := dmaInv_kept s (.dma0 event) h hends
    have hright : DmaRight s (.dma0 event) := by
      unfold DmaRight dmaStep
      simp only [hends, hsame]
      exact ⟨trivial, trivial⟩
    refine ⟨⟨fun _ => hdone, fun _ => hright⟩, fun _ => ?_⟩
    unfold dmaStep
    simp only [hsame]
    exact hinv

/-- An event of the receiving channel is always right. -/
theorem dma1_right (s : DmaSpi) (event : DmaEvent) (regs : SpiRegs) (h : DmaInv s)
    (hf : ForInFlight s (.dma1 event regs)) :
    DmaRight s (.dma1 event regs) ∧ DmaInv (dmaStep s (.dma1 event regs)).1 := by
  have hsome : s.inFlight ≠ none := by
    rcases hf with hf | hf <;> rw [hf] <;> nofun
  cases event with
  | overrun =>
    have hends : s.inFlight.any (DmaOp.ends (.dma1 .overrun regs)) = false := by
      rcases hf with hf | hf <;> rw [hf] <;> rfl
    refine ⟨?_, dmaInv_kept s _ h hends⟩
    unfold DmaRight
    simp only [hends]
    exact ⟨rfl, rfl⟩
  | transferDone =>
    have hends : s.inFlight.any (DmaOp.ends (.dma1 .transferDone regs)) = true := by
      rcases hf with hf | hf <;> rw [hf] <;> rfl
    have hcalled : (dmaStep s (.dma1 .transferDone regs)).2 =
        [.completionHandler dmaAvailable] := by
      unfold dmaStep dma1Callback
      simp only [h.handler]
      rfl
    constructor
    · unfold DmaRight
      simp only [if_pos hends]
      exact ⟨h.busy hsome, rfl, hcalled⟩
    · have hnone := DmaSpi.remaining_ended s _ hends
      refine ⟨h.handler, fun _ => rfl, ?_, ?_⟩
      · intro hc
        exact absurd hnone hc
      · intro hc
        exact absurd hnone hc

theorem dmaStep_right_iff (s : DmaSpi) (op : DmaOp) (h : DmaInv s) (hf : ForInFlight s op) :
    (DmaRight s op ↔ ¬ TxOnlyDone s op) ∧ (DmaRight s op → DmaInv (dmaStep s op).1) := by
  match op with
  | .startTransaction pTx pRx =>
    obtain ⟨hright, hinv⟩ := start_right s pTx pRx h
    exact ⟨⟨fun _ hc => (by cases hc.2), fun _ => hright⟩, fun _ => hinv⟩
  | .dma0 event => exact dma0_right_iff s event h hf
  | .dma1 event regs =>
    obtain ⟨hright, hinv⟩ := dma1_right s event regs h hf
    exact ⟨⟨fun _ hc => (by cases hc.2), fun _ => hright⟩, fun _ => hinv⟩

/-! ## Runs -/

/-- **Completion.**  Along every run of calls, with any buffers, and events for the transaction in
flight, each accepted transaction is completed with its handler called if and only if no
transaction that only transmits gets to its end. -/
theorem dmaRight_iff (ops : List DmaOp) (h : Along dmaStep ForInFlight DmaSpi.start ops) :
    Along dmaStep DmaRight DmaSpi.start ops ↔
      Along dmaStep (fun s op => ¬ TxOnlyDone s op) DmaSpi.start ops :=
  along_iff_of dmaStep ForInFlight DmaRight (fun s op => ¬ TxOnlyDone s op) DmaInv
    (fun s op hs hf => (dmaStep_right_iff s op hs hf).1)
    (fun s op hs hf => (dmaStep_right_iff s op hs hf).2) ops DmaSpi.start dmaInv_start h

/-- A transaction in both directions, whose end lets the next one start. -/
def txRxRun : List DmaOp :=
  [.startTransaction true true, .dma0 .transferDone, .startTransaction true false,
    .dma1 .transferDone ⟨false, false⟩, .startTransaction false true]

theorem dmaRight_iff_txRx : Along dmaStep DmaRight DmaSpi.start txRxRun :=
  (dmaRight_iff txRxRun (by decide)).mpr (by decide)

/-- Transmit only: the DMA is released, and nobody is told. -/
theorem dmaRight_not_always :
    ¬ ∀ ops : List DmaOp, Along dmaStep ForInFlight DmaSpi.start ops →
      Along dmaStep DmaRight DmaSpi.start ops := by
  intro h
  have hrun := h [.startTransaction true false, .dma0 .transferDone] (by decide)
  revert hrun
  decide

end CuriosityT1S
