import Mathlib.Data.List.Basic

/-!
# The MCU stub of TC6 (tc6-stub.c), one instance, and its SPI over two DMA channels (dmaspi.c)

The INT-pin counters and the flags of the SPI transaction.  The functions are given as wholes.
Channel 0 sends, channel 1 receives.
-/

namespace CuriosityT1S

/-! ## The stub and its INT pin -/

/-- `Stub_Local_t`, without the MAC address read at start. -/
structure Stub where
  intIn : UInt8
  intOut : UInt8
  intReported : UInt8
  opened : Bool
  firstTransaction : Bool
  busy : UInt8
deriving DecidableEq, Repr

/-- The static data before `main`. -/
def Stub.zero : Stub := ⟨0, 0, 0, false, false, 0⟩

def tc6StubInit (s : Stub) : Stub := { s with firstTransaction := true, opened := true }

/-- The INT-pin interrupt. -/
def intHandler (s : Stub) : Stub := { s with intIn := s.intIn + 1 }

def tc6StubIntActive (s : Stub) : Stub × Bool :=
  let s := { s with intReported := s.intIn }
  (s, s.intReported != s.intOut)

/-- `pin` is what `T1S_INT_GetValue` reads. -/
def tc6StubReleaseInt (s : Stub) (pin : Bool) : Stub :=
  if pin then { s with intOut := s.intReported } else s

/-! ## The DMA layer -/

def dmaAvailable : UInt8 := 0

def dmaBusy : UInt8 := 0x55

/-- dma_types.h. -/
inductive DmaEvent
  | overrun | transferDone
deriving DecidableEq, Repr

/-- `completionHandler` is whether one is registered; `dummy` is 0 throughout. -/
structure DmaControl where
  completionHandler : Bool
  busy : UInt8
  txonly : UInt8
deriving DecidableEq, Repr

/-- `DMA1STATbits.OVERRUN` and `SPI1STATbits.SPIROV`. -/
structure SpiRegs where
  overrun : Bool
  spirov : Bool
deriving DecidableEq, Repr

/-- How a transaction was set up. -/
inductive Channels
  | txRx | rxOnly | txOnly
deriving DecidableEq, Repr

def dmaSpiInit : DmaControl := ⟨true, 0, 0⟩

def dma0Callback (c : DmaControl) (event : DmaEvent) : DmaControl :=
  if event = .transferDone then
    if c.txonly = 1 then { c with txonly := 0, busy := dmaAvailable } else c
  else c

/-- The dummy read of `SPI1BUF` is made if one of the two bits is set. -/
def clearOverrun (r : SpiRegs) : SpiRegs := if r.overrun || r.spirov then ⟨false, false⟩ else r

/-- The last component is whether the completion handler is called. -/
def dma1Callback (c : DmaControl) (r : SpiRegs) (event : DmaEvent) :
    DmaControl × SpiRegs × Bool :=
  if event = .transferDone then
    ({ c with busy := dmaAvailable }, clearOverrun r, c.completionHandler)
  else (c, clearOverrun r, false)

/-- `pTx` and `pRx` are whether the pointers are not NULL. -/
def dmaSpiStartTransaction (c : DmaControl) (pTx pRx : Bool) :
    DmaControl × UInt8 × Option Channels :=
  if c.busy = 0 ∧ (pTx ∨ pRx) then
    let c := { c with busy := dmaBusy, txonly := 0 }
    if pTx ∧ pRx then (c, dmaBusy, some .txRx)
    else if !pTx then (c, dmaBusy, some .rxOnly)
    else ({ c with txonly := 1 }, dmaBusy, some .txOnly)
  else (c, dmaAvailable, none)

def dmaSpiGetStatus (c : DmaControl) : UInt8 := c.busy

/-- `TC6_CB_OnSpiTransaction`; the last component is what the hardware was given. -/
def tc6StubSpiTransaction (s : Stub) (c : DmaControl) (pTx pRx : Bool) :
    Stub × DmaControl × Bool × Option Channels :=
  if s.opened ∧ s.busy = 0 then
    let (c, result, started) := dmaSpiStartTransaction c pTx pRx
    if result = dmaAvailable then ({ s with busy := 0 }, c, false, started)
    else ({ s with busy := 1 }, c, true, started)
  else (s, c, false, none)

/-- What `vidTransactionDone` does before it calls `TC6_SpiBufferDone(0, true)`. -/
def vidTransactionDone (s : Stub) (c : DmaControl) : Stub :=
  { s with firstTransaction := false, busy := dmaSpiGetStatus c }

end CuriosityT1S
