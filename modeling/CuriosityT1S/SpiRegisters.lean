import CuriosityT1S.DmaInterrupt
import CuriosityT1S.Lib.Memory

/-!
# dmaSpiStartTransaction register by register (dmaspi.c)

The statements of the three branches, and what the registers make the hardware do.  Between any two
statements the hardware may move a byte, and an interrupt may come.  The two interrupts of dma.c run
statement by statement too, one to its end before the other, with the callbacks as wholes; in the
callback of channel 1 the completion handler may start the next transaction.

A channel is set up in dma.c and here for cells of one byte, one for each request: it reads from
DMAxSRC, writes to DMAxDST, and at the last cell it is disabled and sets DONE.  The requests are
those of the SPI, as far as its mask register lets them through.  The SPI has one byte to send, one
in its shift register and one received (`ENHBUF` is 0).

    SpiRequest.statements:           what the function does after its check
    SpiDma.cell:                     one cell
    spiDmaStep:                      program, interrupts and hardware
    dmaSpiStartTransaction_control:  the statements do to `dmaControl` what the function does
-/

namespace CuriosityT1S

/-! ## Registers -/

inductive BusRegion
  | memory | spi1Buf | dummy
deriving DecidableEq, Repr

/-- Where a channel points: into memory, or so many bytes behind `SPI1BUF` or `dmaControl.dummy`. -/
structure BusAddr where
  region : BusRegion
  offset : Nat
deriving DecidableEq, Repr

def BusAddr.ram (a : Nat) : BusAddr := ⟨.memory, a⟩

def BusAddr.buf : BusAddr := ⟨.spi1Buf, 0⟩

/-- `SAMODE` and `DAMODE`, 0 and 1. -/
inductive AddrMode
  | unchanged | increment
deriving DecidableEq, Repr

def AddrMode.next : AddrMode → BusAddr → BusAddr
  | .unchanged, a => a
  | .increment, a => { a with offset := a.offset + 1 }

/-- `DMAxCH`, `DMAxSRC`, `DMAxDST`, `DMAxCNT` and `DMAxIE`. -/
structure ChannelRegs where
  chen : Bool
  trmode : Nat
  samode : AddrMode
  damode : AddrMode
  src : BusAddr
  dst : BusAddr
  cnt : Nat
  doneen : Bool
  ie : Bool
deriving DecidableEq, Repr

/-- `dmaControl` with its dummy byte, the mask register of the SPI and the two channels. -/
structure SpiDmaRegs where
  control : DmaControl
  dummy : UInt8
  spirbfen : Bool
  spitben : Bool
  tx : ChannelRegs
  rx : ChannelRegs
deriving DecidableEq, Repr

def SpiDmaRegs.chan (r : SpiDmaRegs) : DmaChannel → ChannelRegs
  | .tx => r.tx
  | .rx => r.rx

def SpiDmaRegs.setChan (r : SpiDmaRegs) (c : ChannelRegs) : DmaChannel → SpiDmaRegs
  | .tx => { r with tx := c }
  | .rx => { r with rx := c }

/-- `DMA_PATTERN_DUMMY`. -/
def dmaPatternDummy : UInt8 := 0

/-! ## The statements -/

/-- The statements that `dmaSpiStartTransaction` is made of; `DONEEN` and `DMAxIE` are only set. -/
inductive RegWrite
  | busy
  | txonly (v : UInt8)
  | dummy
  | spirbfen (v : Bool)
  | spitben (v : Bool)
  | clearIf (ch : DmaChannel)
  | trmode (ch : DmaChannel) (v : Nat)
  | samode (ch : DmaChannel) (v : AddrMode)
  | damode (ch : DmaChannel) (v : AddrMode)
  | channelEnable (ch : DmaChannel)
  | sourceAddressSet (ch : DmaChannel) (a : BusAddr)
  | destinationAddressSet (ch : DmaChannel) (a : BusAddr)
  | transferCountSet (ch : DmaChannel) (n : Nat)
  | doneen (ch : DmaChannel)
  | ie (ch : DmaChannel)
deriving DecidableEq, Repr

def RegWrite.apply (r : SpiDmaRegs) : RegWrite → SpiDmaRegs
  | .busy => { r with control := { r.control with busy := dmaBusy } }
  | .txonly v => { r with control := { r.control with txonly := v } }
  | .dummy => { r with dummy := dmaPatternDummy }
  | .spirbfen v => { r with spirbfen := v }
  | .spitben v => { r with spitben := v }
  | .clearIf _ => r
  | .trmode ch v => r.setChan { r.chan ch with trmode := v } ch
  | .samode ch v => r.setChan { r.chan ch with samode := v } ch
  | .damode ch v => r.setChan { r.chan ch with damode := v } ch
  | .channelEnable ch => r.setChan { r.chan ch with chen := true } ch
  | .sourceAddressSet ch a => r.setChan { r.chan ch with src := a } ch
  | .destinationAddressSet ch a => r.setChan { r.chan ch with dst := a } ch
  | .transferCountSet ch n => r.setChan { r.chan ch with cnt := n } ch
  | .doneen ch => r.setChan { r.chan ch with doneen := true } ch
  | .ie ch => r.setChan { r.chan ch with ie := true } ch

/-- The arguments of a call; a NULL pointer is `none`. -/
structure SpiRequest where
  pTx : Option Nat
  pRx : Option Nat
  length : UInt16
deriving DecidableEq, Repr

/-- The branch that sends and receives, up to the statement that lets the first byte go. -/
def transmitReceiveSetup (pTx pRx length : Nat) : List RegWrite :=
  [.spirbfen false, .spitben false,
    .clearIf .tx, .clearIf .rx,
    .trmode .tx 0, .samode .tx .increment, .damode .tx .unchanged,
    .channelEnable .tx,
    .sourceAddressSet .tx (.ram pTx), .destinationAddressSet .tx .buf,
    .transferCountSet .tx length,
    .trmode .rx 0, .samode .rx .unchanged, .damode .rx .increment,
    .channelEnable .rx,
    .sourceAddressSet .rx .buf, .destinationAddressSet .rx (.ram pRx),
    .transferCountSet .rx length,
    .spirbfen true, .spitben true]

/-- Interrupt on completion. -/
def completionEnable : List RegWrite := [.doneen .tx, .doneen .rx, .ie .tx, .ie .rx]

/-- The branch that only receives: the requests of the transmit side stay masked. -/
def receiveOnly (pRx length : Nat) : List RegWrite :=
  [.dummy,
    .spirbfen false, .spitben false,
    .clearIf .tx, .clearIf .rx,
    .trmode .tx 0, .samode .tx .unchanged, .damode .tx .unchanged,
    .channelEnable .tx,
    .sourceAddressSet .tx ⟨.dummy, 0⟩, .destinationAddressSet .tx .buf,
    .transferCountSet .tx length,
    .trmode .rx 0, .samode .rx .unchanged, .damode .rx .increment,
    .channelEnable .rx,
    .sourceAddressSet .rx .buf, .destinationAddressSet .rx (.ram pRx),
    .transferCountSet .rx length,
    .spirbfen true,
    .doneen .tx, .doneen .rx, .ie .tx, .ie .rx]

/-- The branch that only transmits. -/
def transmitOnly (pTx length : Nat) : List RegWrite :=
  [.txonly 1,
    .clearIf .tx,
    .spirbfen false, .spitben false,
    .trmode .tx 0, .samode .tx .increment, .damode .tx .unchanged,
    .channelEnable .tx,
    .sourceAddressSet .tx (.ram pTx), .destinationAddressSet .tx .buf,
    .transferCountSet .tx length,
    .spitben true,
    .doneen .tx, .ie .tx]

/-- What `dmaSpiStartTransaction` does after its check. -/
def SpiRequest.statements (q : SpiRequest) : List RegWrite :=
  .busy :: .txonly 0 ::
    match q.pTx, q.pRx with
    | some pTx, some pRx =>
      transmitReceiveSetup pTx pRx q.length.toNat ++ completionEnable
    | none, pRx => receiveOnly (pRx.getD 0) q.length.toNat
    | some pTx, none => transmitOnly pTx q.length.toNat

/-- One after the other, with nothing between them. -/
def applyAll (r : SpiDmaRegs) (ws : List RegWrite) : SpiDmaRegs := ws.foldl RegWrite.apply r

/-- The statements do to `dmaControl` what the function as a whole does. -/
theorem dmaSpiStartTransaction_control (r : SpiDmaRegs) (q : SpiRequest)
    (hfree : r.control.busy = 0) (hptr : q.pTx.isSome = true ∨ q.pRx.isSome = true) :
    (applyAll r q.statements).control =
      (dmaSpiStartTransaction r.control q.pTx.isSome q.pRx.isSome).1 := by
  obtain ⟨pTx, pRx, length⟩ := q
  unfold dmaSpiStartTransaction
  rw [if_pos ⟨hfree, hptr⟩]
  cases pTx with
  | none =>
    cases pRx with
    | none => rcases hptr with h | h <;> cases h
    | some pRx => rfl
  | some pTx => cases pRx <;> rfl

/-! ## The hardware -/

/-- The byte to send, the one in the shift register, the one received, and `SPIROV`. -/
structure SpiPort where
  txBuf : Option UInt8
  shifter : Option UInt8
  rxBuf : Option UInt8
  spirov : Bool
deriving DecidableEq, Repr

/-- What is on its way out. -/
def SpiPort.pipe (p : SpiPort) : List UInt8 := p.shifter.toList ++ p.txBuf.toList

/-- `todo` are the statements that the main loop has still to come to, `nested` those of a call by
the completion handler.  `lent` are the arguments of the transaction in flight: its buffers are not
the caller's for the time being. -/
structure SpiDma where
  regs : SpiDmaRegs
  tx : ChannelFlags
  rx : ChannelFlags
  port : SpiPort
  mem : Nat → UInt8
  todo : List RegWrite
  nested : List RegWrite
  isr : Option (DmaChannel × DmaIsrPc)
  lent : Option SpiRequest

inductive SpiDmaOut
  | accepted (q : SpiRequest)
  | wire (sent received : UInt8)
  | lost
  | stored (a : Nat) (v : UInt8)
  | completionHandler
deriving DecidableEq, Repr

namespace SpiDma

/-- `DMAxCH` is 0x8 after `DMA_Initialize`, and the interrupts are enabled. -/
def start (mem : Nat → UInt8) : SpiDma :=
  let chan : ChannelRegs := ⟨false, 0, .unchanged, .unchanged, .ram 0, .ram 0, 0, true, true⟩
  let flags : ChannelFlags := ⟨false, false, false⟩
  let port : SpiPort := ⟨none, none, none, false⟩
  ⟨⟨dmaSpiInit, 0, false, false, chan, chan⟩, flags, flags, port, mem, [], [], none, none⟩

def flags (s : SpiDma) : DmaChannel → ChannelFlags
  | .tx => s.tx
  | .rx => s.rx

def setFlags (s : SpiDma) (f : ChannelFlags) : DmaChannel → SpiDma
  | .tx => { s with tx := f }
  | .rx => { s with rx := f }

/-- A statement of the program. -/
def write (s : SpiDma) (w : RegWrite) : SpiDma :=
  let s := { s with regs := w.apply s.regs }
  match w with
  | .clearIf ch => s.setFlags { s.flags ch with iflag := false } ch
  | _ => s

/-- A read of `SPI1BUF` takes the byte away.  Nobody reads from other registers. -/
def fetch (s : SpiDma) : BusAddr → UInt8 × SpiPort
  | ⟨.memory, a⟩ => (s.mem a, s.port)
  | ⟨.spi1Buf, 0⟩ => (s.port.rxBuf.getD 0, { s.port with rxBuf := none })
  | ⟨.dummy, 0⟩ => (s.regs.dummy, s.port)
  | _ => (0, s.port)

def deliver (s : SpiDma) (v : UInt8) : BusAddr → SpiDma
  | ⟨.memory, a⟩ => { s with mem := Function.update s.mem a v }
  | ⟨.spi1Buf, 0⟩ => { s with port := { s.port with txBuf := some v } }
  | _ => s

/-- The SPI asks the channel for a cell. -/
def asks (s : SpiDma) : DmaChannel → Bool
  | .tx => s.regs.spitben && s.port.txBuf.isNone
  | .rx => s.regs.spirbfen && s.port.rxBuf.isSome

/-- One cell. -/
def cell (s : SpiDma) (ch : DmaChannel) : SpiDma :=
  let c := s.regs.chan ch
  let (v, port) := s.fetch c.src
  let s := { s with port := port }.deliver v c.dst
  let last := c.cnt - 1 = 0
  let s := { s with
    regs := s.regs.setChan
      { c with
        src := c.samode.next c.src
        dst := c.damode.next c.dst
        cnt := c.cnt - 1
        chen := !last } ch }
  let f := s.flags ch
  if last then s.setFlags { f with done := true, iflag := f.iflag || c.doneen } ch else s

/-- A byte goes out and `b` comes in, for which there may be no room. -/
def shift (s : SpiDma) (b : UInt8) : SpiDma × List SpiDmaOut :=
  match s.port.shifter with
  | none => (s, [])
  | some t =>
    if s.port.rxBuf.isSome then
      ({ s with port := { s.port with shifter := none, spirov := true } }, [.wire t b, .lost])
    else ({ s with port := { s.port with shifter := none, rxBuf := some b } }, [.wire t b])

/-- The call of `dmaSpiStartTransaction` with its check, in an interrupt or not. -/
def request (s : SpiDma) (q : SpiRequest) : SpiDma × List SpiDmaOut :=
  if s.regs.control.busy = 0 ∧ (q.pTx.isSome ∨ q.pRx.isSome) then
    ({ s with
        todo := if s.isr.isSome then s.todo else q.statements
        nested := if s.isr.isSome then q.statements else s.nested
        lent := some q },
      [.accepted q])
  else (s, [])

/-- The main loop calls when no interrupt runs, the completion handler inside the interrupt of
channel 1, and neither before the call before has returned. -/
def mayRequest (s : SpiDma) : Bool :=
  match s.isr with
  | none => s.todo.isEmpty
  | some (ch, pc) => ch = .rx && pc = .inHandler && s.nested.isEmpty

/-- `DMA1_Callback`, whose dummy read takes a byte away that has not been stored. -/
def dma1 (s : SpiDma) (event : DmaEvent) : SpiDma × List SpiDmaOut :=
  let (c, regs, called) := dma1Callback s.regs.control ⟨s.rx.overrun, s.port.spirov⟩ event
  let dummyRead := s.rx.overrun || s.port.spirov
  ({ s with
      regs := { s.regs with control := c }
      rx := { s.rx with overrun := regs.overrun }
      port := { s.port with
        rxBuf := if dummyRead then none else s.port.rxBuf
        spirov := regs.spirov }
      lent := if called then none else s.lent },
    (if dummyRead && s.port.rxBuf.isSome then [.lost] else []) ++
      if called then [.completionHandler] else [])

/-- The handler that is registered for the channel. -/
def callback (s : SpiDma) (event : DmaEvent) : DmaChannel → SpiDma × List SpiDmaOut
  | .tx => ({ s with regs := { s.regs with control := dma0Callback s.regs.control event } }, [])
  | .rx => s.dma1 event

def goto (s : SpiDma) (ch : DmaChannel) (pc : DmaIsrPc) : SpiDma := { s with isr := some (ch, pc) }

/-- One statement of `_DMA0Interrupt` or `_DMA1Interrupt`. -/
def interruptStatement (s : SpiDma) (ch : DmaChannel) : DmaIsrPc → SpiDma × List SpiDmaOut
  | .testOverrun => (s.goto ch (if (s.flags ch).overrun then .callOverrun else .testDone), [])
  | .callOverrun =>
    let (s, outs) := s.callback .overrun ch
    (s.goto ch .clearOverrun, outs)
  | .clearOverrun => ((s.setFlags { s.flags ch with overrun := false } ch).goto ch .testDone, [])
  | .testDone => (s.goto ch (if (s.flags ch).done then .callDone else .clearIf), [])
  | .callDone =>
    let (s, outs) := s.callback .transferDone ch
    (s.goto ch .inHandler, outs)
  | .inHandler => (s.goto ch .clearDone, [])
  | .clearDone => ((s.setFlags { s.flags ch with done := false } ch).goto ch .clearIf, [])
  | .clearIf => ({ s.setFlags { s.flags ch with iflag := false } ch with isr := none }, [])

/-- The next statement: of the main loop, of a call by the completion handler, or of the
interrupt. -/
def statement (s : SpiDma) : SpiDma × List SpiDmaOut :=
  match s.isr, s.nested, s.todo with
  | none, _, [] => (s, [])
  | none, _, w :: ws => ({ s.write w with todo := ws }, [])
  | some (_, .inHandler), w :: ws, _ => ({ s.write w with nested := ws }, [])
  | some (ch, pc), _, _ => s.interruptStatement ch pc

end SpiDma

/-- `request` comes from the main loop or the completion handler.  `cell`, `load`, `shift` and
`overrun` are the hardware's; `store` is any other code that writes to memory. -/
inductive SpiDmaEvent
  | request (q : SpiRequest)
  | statement
  | enter (ch : DmaChannel)
  | cell (ch : DmaChannel)
  | load
  | shift (b : UInt8)
  | overrun (ch : DmaChannel)
  | store (a : Nat) (v : UInt8)
deriving DecidableEq, Repr

def spiDmaStep (s : SpiDma) : SpiDmaEvent → SpiDma × List SpiDmaOut
  | .request q => if s.mayRequest then s.request q else (s, [])
  | .statement => s.statement
  | .enter ch =>
    if s.isr.isNone && (s.flags ch).iflag && (s.regs.chan ch).ie then (s.goto ch .testOverrun, [])
    else (s, [])
  | .cell ch =>
    if (s.regs.chan ch).chen && (s.regs.chan ch).trmode = 0 && s.asks ch then (s.cell ch, [])
    else (s, [])
  | .load =>
    match s.port.shifter with
    | none => ({ s with port := { s.port with shifter := s.port.txBuf, txBuf := none } }, [])
    | some _ => (s, [])
  | .shift b => s.shift b
  | .overrun ch =>
    if (s.regs.chan ch).chen then
      (s.setFlags { s.flags ch with overrun := true, iflag := true } ch, [])
    else (s, [])
  | .store a v => ({ s with mem := Function.update s.mem a v }, [.stored a v])

end CuriosityT1S
