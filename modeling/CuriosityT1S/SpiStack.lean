import CuriosityT1S.Lib.Mealy
import CuriosityT1S.DmaSpi

/-!
# Requests and interrupts, statement by statement

One processor runs the active calls as a stack, the innermost first: requests
(`TC6_CB_OnSpiTransaction`, both buffers given) and channel callbacks.  A
request comes from the main loop when nothing is active, or from inside
`TC6_SpiBufferDone`.  A callback can come on top of anything, but only for a
transaction the hardware is working on, and channel 1 is done after channel 0.
`step` executes the next statement of the innermost call.

Requests are numbered, which the code does not see.
-/

namespace CuriosityT1S

/-- A transaction the hardware is working on; `txDone` once channel 0 is done. -/
structure Transfer where
  id : Nat
  txDone : Bool
deriving DecidableEq, Repr

/-- Where a request is in `TC6Stub_SpiTransaction` and `dmaSpiStartTransaction`. -/
inductive RequestPc
  | check | setBusy | dmaCheck | setDmaBusy | clearTxonly | start | undo
  | ret (success : Bool)
deriving DecidableEq, Repr

/-- Where `DMA0_Callback` is. -/
inductive Dma0Pc
  | testEvent | testTxonly | clearTxonly | setAvailable | ret
deriving DecidableEq, Repr

/-- Where `DMA1_Callback` and `vidTransactionDone` are. -/
inductive Dma1Pc
  | clearOverrun | testEvent | setAvailable | callHandler
  | clearFirst | status | callDone | inDone | ret
deriving DecidableEq, Repr

/-- An active call.  `id` is the transaction the event was raised for. -/
inductive Frame
  | request (id : Nat) (pc : RequestPc)
  | dma0 (event : DmaEvent) (pc : Dma0Pc)
  | dma1 (id : Nat) (event : DmaEvent) (pc : Dma1Pc)
deriving DecidableEq, Repr

structure Spi where
  stub : Stub
  dma : DmaControl
  regs : SpiRegs
  hw : List Transfer
  stack : List Frame
  nextId : Nat
deriving DecidableEq, Repr

/-- `dma0` and `dma1` raise an event for the `i`-th transaction in flight. -/
inductive SpiEvent
  | request
  | dma0 (i : Nat) (event : DmaEvent)
  | dma1 (i : Nat) (event : DmaEvent) (regs : SpiRegs)
  | step
deriving DecidableEq, Repr

/-- `returned`: a request is over, with its result. -/
inductive SpiOut
  | started (id : Nat)
  | dma1Done (id : Nat)
  | bufferDone (id : Nat) (success : Bool)
  | returned (id : Nat) (success : Bool)
deriving DecidableEq, Repr

def spiInit : Spi := ⟨tc6StubInit .zero, dmaSpiInit, ⟨false, false⟩, [], [], 0⟩

/-- Continue with `f` innermost. -/
def Spi.goto (s : Spi) (rest : List Frame) (f : Frame) : Spi := { s with stack := f :: rest }

def stepRequest (s : Spi) (rest : List Frame) (id : Nat) : RequestPc → Spi × List SpiOut
  | .check =>
    if s.stub.opened ∧ s.stub.busy = 0 then (s.goto rest (.request id .setBusy), [])
    else (s.goto rest (.request id (.ret false)), [])
  | .setBusy =>
    (Spi.goto { s with stub := { s.stub with busy := 1 } } rest (.request id .dmaCheck), [])
  | .dmaCheck =>
    if s.dma.busy = 0 then (s.goto rest (.request id .setDmaBusy), [])
    else (s.goto rest (.request id .undo), [])
  | .setDmaBusy =>
    (Spi.goto { s with dma := { s.dma with busy := dmaBusy } } rest (.request id .clearTxonly), [])
  | .clearTxonly =>
    (Spi.goto { s with dma := { s.dma with txonly := 0 } } rest (.request id .start), [])
  | .start =>
    (Spi.goto { s with hw := s.hw ++ [⟨id, false⟩] } rest (.request id (.ret true)),
      [.started id])
  | .undo =>
    (Spi.goto { s with stub := { s.stub with busy := 0 } } rest (.request id (.ret false)), [])
  | .ret success => ({ s with stack := rest }, [.returned id success])

def stepDma0 (s : Spi) (rest : List Frame) (event : DmaEvent) : Dma0Pc → Spi × List SpiOut
  | .testEvent =>
    (s.goto rest (.dma0 event (if event = .transferDone then .testTxonly else .ret)), [])
  | .testTxonly => (s.goto rest (.dma0 event (if s.dma.txonly = 1 then .clearTxonly else .ret)), [])
  | .clearTxonly =>
    (Spi.goto { s with dma := { s.dma with txonly := 0 } } rest (.dma0 event .setAvailable), [])
  | .setAvailable =>
    (Spi.goto { s with dma := { s.dma with busy := dmaAvailable } } rest (.dma0 event .ret), [])
  | .ret => ({ s with stack := rest }, [])

def stepDma1 (s : Spi) (rest : List Frame) (id : Nat) (event : DmaEvent) :
    Dma1Pc → Spi × List SpiOut
  | .clearOverrun =>
    (Spi.goto { s with regs := clearOverrun s.regs } rest (.dma1 id event .testEvent), [])
  | .testEvent =>
    (s.goto rest (.dma1 id event (if event = .transferDone then .setAvailable else .ret)), [])
  | .setAvailable =>
    (Spi.goto { s with dma := { s.dma with busy := dmaAvailable } } rest
      (.dma1 id event .callHandler), [])
  | .callHandler =>
    (s.goto rest (.dma1 id event (if s.dma.completionHandler then .clearFirst else .ret)), [])
  | .clearFirst =>
    (Spi.goto { s with stub := { s.stub with firstTransaction := false } } rest
      (.dma1 id event .status), [])
  | .status =>
    (Spi.goto { s with stub := { s.stub with busy := dmaSpiGetStatus s.dma } } rest
      (.dma1 id event .callDone), [])
  | .callDone => (s.goto rest (.dma1 id event .inDone), [.bufferDone id true])
  | .inDone => (s.goto rest (.dma1 id event .ret), [])
  | .ret => ({ s with stack := rest }, [])

/-- Whether a request can be made: nothing is active, or `TC6_SpiBufferDone` is innermost. -/
def mayRequest : List Frame → Bool
  | [] => true
  | .dma1 _ _ .inDone :: _ => true
  | _ => false

/-- An event that cannot come does nothing. -/
def spiStep (s : Spi) : SpiEvent → Spi × List SpiOut
  | .request =>
    if mayRequest s.stack then
      ({ s with stack := .request s.nextId .check :: s.stack, nextId := s.nextId + 1 }, [])
    else (s, [])
  | .dma0 i event =>
    match s.hw[i]? with
    | none => (s, [])
    | some t =>
      if event = .transferDone then
        if t.txDone then (s, [])
        else (Spi.goto { s with hw := s.hw.set i { t with txDone := true } } s.stack
          (.dma0 event .testEvent), [])
      else (s.goto s.stack (.dma0 event .testEvent), [])
  | .dma1 i event regs =>
    match s.hw[i]? with
    | none => (s, [])
    | some t =>
      if event = .transferDone then
        if t.txDone then
          (Spi.goto { s with hw := s.hw.eraseIdx i, regs := regs } s.stack
            (.dma1 t.id event .clearOverrun), [.dma1Done t.id])
        else (s, [])
      else (Spi.goto { s with regs := regs } s.stack (.dma1 t.id event .clearOverrun), [])
  | .step =>
    match s.stack with
    | [] => (s, [])
    | .request id pc :: rest => stepRequest s rest id pc
    | .dma0 event pc :: rest => stepDma0 s rest event pc
    | .dma1 id event pc :: rest => stepDma1 s rest id event pc

/-! ## The steps make up the functions

Executed without interruption, the statements of a call do what the function as a whole does. -/

open Mealy

theorem exec_request (s : Spi) (hm : mayRequest s.stack = true) :
    ∃ n, exec spiStep s (.request :: List.replicate n .step) =
      let r := tc6StubSpiTransaction s.stub s.dma true true
      { s with stub := r.1, dma := r.2.1, nextId := s.nextId + 1,
               hw := if r.2.2.1 then s.hw ++ [⟨s.nextId, false⟩] else s.hw } := by
  obtain ⟨stub, dma, regs, hw, stack, nextId⟩ := s
  have hm' : mayRequest stack = true := hm
  by_cases hfree : stub.opened = true ∧ stub.busy = 0
  · by_cases hdma : dma.busy = 0
    · refine ⟨7, ?_⟩
      simp [spiStep, hm', stepRequest, Spi.goto, hfree, hdma, tc6StubSpiTransaction,
        dmaSpiStartTransaction, dmaBusy, dmaAvailable]
    · refine ⟨5, ?_⟩
      simp [spiStep, hm', stepRequest, Spi.goto, hfree, hdma, tc6StubSpiTransaction,
        dmaSpiStartTransaction]
  · refine ⟨2, ?_⟩
    simp [spiStep, hm', stepRequest, Spi.goto, hfree, tc6StubSpiTransaction]

theorem exec_dma0 (s : Spi) (rest : List Frame) (event : DmaEvent)
    (hs : s.stack = .dma0 event .testEvent :: rest) :
    ∃ n, exec spiStep s (List.replicate n .step) =
      { s with dma := dma0Callback s.dma event, stack := rest } := by
  obtain ⟨stub, dma, regs, hw, stack, nextId⟩ := s
  obtain rfl : stack = _ := hs
  cases event with
  | overrun => exact ⟨2, rfl⟩
  | transferDone =>
    by_cases htx : dma.txonly = 1
    · refine ⟨5, ?_⟩
      simp [spiStep, stepDma0, Spi.goto, htx, dma0Callback]
    · refine ⟨3, ?_⟩
      simp [spiStep, stepDma0, Spi.goto, htx, dma0Callback]

theorem exec_dma1 (s : Spi) (rest : List Frame) (id : Nat) (event : DmaEvent)
    (hs : s.stack = .dma1 id event .clearOverrun :: rest) :
    ∃ n, exec spiStep s (List.replicate n .step) =
      let r := dma1Callback s.dma s.regs event
      { s with dma := r.1, regs := r.2.1, stack := rest,
               stub := if r.2.2 then vidTransactionDone s.stub r.1 else s.stub } := by
  obtain ⟨stub, dma, regs, hw, stack, nextId⟩ := s
  obtain rfl : stack = _ := hs
  cases event with
  | overrun => exact ⟨3, rfl⟩
  | transferDone =>
    cases hh : dma.completionHandler with
    | true =>
      refine ⟨9, ?_⟩
      simp [spiStep, stepDma1, Spi.goto, hh, dma1Callback, vidTransactionDone]
    | false =>
      refine ⟨5, ?_⟩
      simp [spiStep, stepDma1, Spi.goto, hh, dma1Callback]

end CuriosityT1S
