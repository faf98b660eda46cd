import CuriosityT1S.Lib.I2cBus
import Mathlib.Logic.Function.Basic

/-!
# The I2C host driver (i2c1.c)

A request fills `i2cObj` and raises the interrupt.  From then on each interrupt looks at the
status registers and starts the next operation on the bus.  Both take the registers as they are
when they run (`I2cRegs`) and give what they do to the hardware and to memory, in order (`I2cOut`).
-/

namespace CuriosityT1S

/-- `enum I2C_HOST_ERROR`. -/
inductive I2cHostError
  | none | nack | busCollision
deriving DecidableEq, Repr

/-- `enum I2C_HOST_STATES`. -/
inductive I2cHostState
  | idle | start | send7BitAddress | send10BitLowerAddress | send10BitHigherAddress
  | checkAddressAckNackStatus | sendDataToClient | receiveDataFromClient
  | receiveWaitAckNackComplete | stop
deriving DecidableEq, Repr

/-- `struct I2C_OBJECT`.  A pointer is an address, or `none` for NULL. -/
structure I2cObject where
  error : I2cHostError
  state : I2cHostState
  writeDataCount : UInt32
  readDataCount : UInt32
  clientAddressHigh : UInt8
  clientAddressLow : UInt8
  writeData : Option Nat
  readData : Option Nat
  is10BitAddressMode : Bool
  isWriteMode : Bool
deriving DecidableEq, Repr

/-- `i2cObj`, whether `I2C1_HostHandler` is set, and the memory the pointers point into. -/
structure I2c where
  obj : I2cObject
  hostHandler : Bool
  mem : Nat → UInt8

/-- The bits of `I2C1STAT1` that the driver looks at, and `I2C1RCV`. -/
structure I2cRegs where
  bcl : Bool
  iwcol : Bool
  i2cov : Bool
  tbf : Bool
  ackstat : Bool
  rbf : Bool
  p : Bool
  rcv : UInt8
deriving DecidableEq, Repr

inductive I2cOut
  | clearBcl
  | clearIwcol
  | clearI2cov
  | requestInterrupt
  | bus (op : I2cBus.Op)
  | load (addr : Nat)
  | store (addr : Nat) (b : UInt8)
  | hostHandler
deriving DecidableEq, Repr

def i2cReadMode : UInt8 := 1

def i2cWriteMode : UInt8 := 0

/-- The static data before `I2C1_Initialize`. -/
def I2cObject.zero : I2cObject := ⟨.none, .idle, 0, 0, 0, 0, .none, .none, false, false⟩

/-- `I2C1_Callback` is registered. -/
def i2c1Initialize (s : I2c) : I2c :=
  { s with obj := { s.obj with state := .idle, error := .none }, hostHandler := true }

/-! ## Requests -/

def i2c1AddressConfiguration (o : I2cObject) (address : UInt16) (writeMode : Bool) : I2cObject :=
  let writeModeStatus := if writeMode then i2cWriteMode else i2cReadMode
  if address ≤ 0x7F then
    { o with
      clientAddressLow := (address <<< 1 &&& 0xFE).toUInt8 ||| writeModeStatus
      isWriteMode := writeMode
      is10BitAddressMode := false }
  else
    { o with
      clientAddressHigh := (address >>> 7 &&& 0x6 &&& 0xFE ||| 0xF0).toUInt8 ||| writeModeStatus
      clientAddressLow := (address &&& 0xFF).toUInt8
      is10BitAddressMode := true
      isWriteMode := writeMode }

def i2c1WriteCollisionStatusClear (r : I2cRegs) : List I2cOut := if r.iwcol then [.clearIwcol] else []

def i2c1RecevieOverFlowStatusClear (r : I2cRegs) : List I2cOut := if r.i2cov then [.clearI2cov] else []

def i2c1BusCollisionStatusClear (r : I2cRegs) : List I2cOut := if r.bcl then [.clearBcl] else []

/-- A buffer that can be used: not NULL and not empty. -/
def bufferOk (data : Option Nat) (dataLength : UInt32) : Bool := data.isSome && dataLength > 0

/-- The driver is free and the address has at most ten bits. -/
def I2cObject.accepts (o : I2cObject) (address : UInt16) : Bool :=
  o.state = .idle && address ≤ 0x3FF

/-- The last two components are the result and what is done. -/
def i2c1Write (s : I2c) (r : I2cRegs) (address : UInt16) (data : Option Nat) (dataLength : UInt32) :
    I2c × Bool × List I2cOut :=
  if s.obj.accepts address && bufferOk data dataLength then
    ({ s with obj := { i2c1AddressConfiguration s.obj address true with
        writeData := data, writeDataCount := dataLength, readData := .none, readDataCount := 0 } },
      true, i2c1WriteCollisionStatusClear r ++ i2c1BusCollisionStatusClear r ++ [.requestInterrupt])
  else (s, false, [])

def i2c1Read (s : I2c) (r : I2cRegs) (address : UInt16) (data : Option Nat) (dataLength : UInt32) :
    I2c × Bool × List I2cOut :=
  if s.obj.accepts address && bufferOk data dataLength then
    ({ s with obj := { i2c1AddressConfiguration s.obj address false with
        readData := data, readDataCount := dataLength, writeData := .none, writeDataCount := 0 } },
      true, i2c1WriteCollisionStatusClear r ++ i2c1RecevieOverFlowStatusClear r ++
        i2c1BusCollisionStatusClear r ++ [.requestInterrupt])
  else (s, false, [])

def i2c1WriteRead (s : I2c) (r : I2cRegs) (address : UInt16) (writeData : Option Nat)
    (writeLength : UInt32) (readData : Option Nat) (readLength : UInt32) :
    I2c × Bool × List I2cOut :=
  if s.obj.accepts address && bufferOk writeData writeLength && bufferOk readData readLength then
    ({ s with obj := { i2c1AddressConfiguration s.obj address true with
        writeData := writeData, writeDataCount := writeLength,
        readData := readData, readDataCount := readLength } },
      true, i2c1WriteCollisionStatusClear r ++ [.requestInterrupt])
  else (s, false, [])

/-- Reading the error clears it. -/
def i2c1ErrorGet (s : I2c) : I2c × I2cHostError :=
  ({ s with obj := { s.obj with error := .none } }, s.obj.error)

/-- `enabled` is whether a bit of `I2C1CON1 & I2C_MASK_ALL_ENABLE` is set. -/
def i2c1IsBusy (s : I2c) (enabled startBit trstat : Bool) : Bool :=
  if enabled then true
  else if s.obj.state ≠ .idle ∨ startBit = true ∨ trstat = true then true
  else false

/-! ## The interrupt -/

def I2c.setState (s : I2c) (state : I2cHostState) : I2c := { s with obj := { s.obj with state := state } }

def I2c.callHandler (s : I2c) : List I2cOut := if s.hostHandler then [.hostHandler] else []

/-- A byte the client has refused. -/
def i2cNack (s : I2c) : I2c × List I2cOut :=
  ({ s with obj := { s.obj with error := .nack, state := .stop } }, [.bus .stop])

/-- `I2C_HOST_IDLE` and `I2C_HOST_START`. -/
def i2cBegin (s : I2c) : I2c × List I2cOut :=
  if s.obj.writeDataCount > 0 ∨ s.obj.readDataCount > 0 ∧ s.obj.error = .none then
    (s.setState (if s.obj.is10BitAddressMode then .send10BitHigherAddress else .send7BitAddress),
      [.bus .start])
  else (s, [])

/-- Where the address is sent: what comes next. -/
def I2cObject.afterAddress (o : I2cObject) : I2cHostState :=
  if o.isWriteMode then .sendDataToClient else .checkAddressAckNackStatus

/-- The end of the data to send: a repeated start if there is something to read. -/
def i2cWriteEnd (s : I2c) : I2c × List I2cOut :=
  if s.obj.readDataCount > 0 then
    if s.obj.is10BitAddressMode then
      ({ s with obj := { s.obj with
          clientAddressHigh := s.obj.clientAddressHigh ||| i2cReadMode
          isWriteMode := false
          state := .send10BitHigherAddress } }, [.bus .restart])
    else
      ({ s with obj := { s.obj with
          clientAddressLow := s.obj.clientAddressLow ||| i2cReadMode
          isWriteMode := false
          state := .send7BitAddress } }, [.bus .restart])
  else ({ s with obj := { s.obj with state := .stop, error := .none } }, [.bus .stop])

/-- One byte of data, or the end. -/
def i2cSendData (s : I2c) (r : I2cRegs) : I2c × List I2cOut :=
  if s.obj.writeDataCount > 0 then
    if r.tbf then (s, [])
    else
      let count := s.obj.writeDataCount - 1
      match s.obj.writeData with
      | some a =>
        ({ s with obj := { s.obj with writeData := some (a + 1), writeDataCount := count } },
          [.load a, .bus (.tx (s.mem a))])
      | none => ({ s with obj := { s.obj with writeDataCount := count } }, [])
  else i2cWriteEnd s

/-- One byte received. -/
def i2cReceive (s : I2c) (r : I2cRegs) : I2c × List I2cOut :=
  if r.rbf then
    let count := s.obj.readDataCount - 1
    let next : I2cHostState := if count > 0 then .receiveWaitAckNackComplete else .stop
    let ack : I2cOut := .bus (.ack (decide (count > 0)))
    match s.obj.readData with
    | some a =>
      ({ s with
          obj := { s.obj with readData := some (a + 1), readDataCount := count, state := next }
          mem := Function.update s.mem a r.rcv }, [.store a r.rcv, ack])
    | none => ({ s with obj := { s.obj with readDataCount := count, state := next } }, [ack])
  else (s, [])

def i2c1HostDataProcess (s : I2c) (r : I2cRegs) : I2c × List I2cOut :=
  match s.obj.state with
  | .idle | .start => i2cBegin s
  | .send10BitHigherAddress =>
    if r.tbf then (s, [])
    else (s.setState (if s.obj.isWriteMode then .send10BitLowerAddress
        else .checkAddressAckNackStatus), [.bus (.tx s.obj.clientAddressHigh)])
  | .send10BitLowerAddress =>
    if r.ackstat then i2cNack s
    else (s.setState s.obj.afterAddress, [.bus (.tx s.obj.clientAddressLow)])
  | .send7BitAddress => (s.setState s.obj.afterAddress, [.bus (.tx s.obj.clientAddressLow)])
  | .sendDataToClient => if r.ackstat then i2cNack s else i2cSendData s r
  | .checkAddressAckNackStatus =>
    if r.ackstat then i2cNack s else (s.setState .receiveDataFromClient, [.bus .rx])
  | .receiveDataFromClient => i2cReceive s r
  | .receiveWaitAckNackComplete => (s.setState .receiveDataFromClient, [.bus .rx])
  -- the handler is called before the state changes
  | .stop => (s.setState .idle, (if r.p then [] else [.bus .stop]) ++ s.callHandler)

/-- The buffers are given up. -/
def I2cObject.reset (o : I2cObject) : I2cObject :=
  { o with writeData := .none, readData := .none, writeDataCount := 0, readDataCount := 0, state := .idle }

def i2c1Interrupt (s : I2c) (r : I2cRegs) : I2c × List I2cOut :=
  if r.bcl then
    ({ s with obj := { s.obj.reset with error := .busCollision } }, .clearBcl :: s.callHandler)
  else if r.iwcol then ({ s with obj := s.obj.reset }, [.clearIwcol])
  else i2c1HostDataProcess s r

end CuriosityT1S
