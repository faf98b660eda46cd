import CuriosityT1S.I2cHost
import CuriosityT1S.Lib.Memory
import Mathlib.Data.List.Count

/-!
# The I2C driver in its loop (i2c1.c)

The driver in a loop with its hardware: an operation that it starts is done some time later, or
collides, and raises the next interrupt.  What the client answers is left free.  The loop does what
a host that works through a script does, and each state of the driver is a place in the script.

    I2cRequest.script:   what a request is to put on the bus
    I2c.plan:            what is left of it, by the state of the driver
    i2cLoopStep_plays:   one operation after another, or the stop, or nothing after a collision
-/

namespace CuriosityT1S

open Mealy I2cBus ByteMemory

/-! ## The loop -/

/-- The bits `BCL` and `IWCOL`. -/
inductive I2cCollision
  | bus | write
deriving DecidableEq, Repr

/-- The driver, and the operation its hardware is working on. -/
structure I2cLoop where
  dev : I2c
  pending : Option Op

inductive I2cLoopOut
  | sym (s : Sym I2cCollision)
  | out (o : I2cOut)
deriving DecidableEq, Repr

/-- The registers at the interrupt that the end of an operation raises. -/
def completionRegs (op : Op) : Reply I2cCollision → I2cRegs
  | .done ack b => ⟨false, false, false, false, !ack, op = .rx, op = .stop, b⟩
  | .abort .bus => ⟨true, false, false, false, false, false, false, 0⟩
  | .abort .write => ⟨false, true, false, false, false, false, false, 0⟩

def completionSym (op : Op) : Reply I2cCollision → Sym I2cCollision
  | .done ack b => op.sym ack b
  | .abort cause => .abort cause

/-- What of the output is on the bus. -/
def I2cLoopOut.sym? : I2cLoopOut → Option (Sym I2cCollision)
  | .sym s => some s
  | .out _ => none

def I2cOut.op : I2cOut → Option Op
  | .bus op => some op
  | _ => none

/-- After an interrupt the hardware works on what it was told to. -/
def I2cLoop.after (r : I2c × List I2cOut) : I2cLoop := ⟨r.1, (r.2.filterMap I2cOut.op).getLast?⟩

def i2cLoopStep (s : I2cLoop) (reply : Reply I2cCollision) : I2cLoop × List I2cLoopOut :=
  match s.pending with
  | none => (s, [])
  | some op =>
    let r := i2c1Interrupt s.dev (completionRegs op reply)
    (.after r, .sym (completionSym op reply) :: r.2.map .out)

def busLog (l : List I2cLoopOut) : List (Sym I2cCollision) := l.filterMap I2cLoopOut.sym?

/-- How often `I2C1_HostHandler` is called. -/
def handlerCalls (l : List I2cLoopOut) : Nat := l.count (.out .hostHandler)

/-- The trouble that the driver takes note of: a write collision is none. -/
def symError : Sym I2cCollision → Option I2cHostError
  | .tx _ false => some .nack
  | .abort .bus => some .busCollision
  | _ => none

/-- What `I2C1_ErrorGet` is to report of a transfer. -/
def errorOf (log : List (Sym I2cCollision)) : I2cHostError :=
  log.foldl (fun e s => (symError s).getD e) .none

/-! ## Requests and their scripts -/

inductive I2cRequest
  | write (address : UInt16) (data : Option Nat) (dataLength : UInt32)
  | read (address : UInt16) (data : Option Nat) (dataLength : UInt32)
  | writeRead (address : UInt16) (writeData : Option Nat) (writeLength : UInt32)
      (readData : Option Nat) (readLength : UInt32)
deriving DecidableEq, Repr

def i2cRequest (s : I2c) (r : I2cRegs) : I2cRequest → I2c × Bool × List I2cOut
  | .write address data dataLength => i2c1Write s r address data dataLength
  | .read address data dataLength => i2c1Read s r address data dataLength
  | .writeRead address writeData writeLength readData readLength =>
    i2c1WriteRead s r address writeData writeLength readData readLength

/-- The bytes that address a client, 7 or 10 bits. -/
def addressForWrite (address : UInt16) : List UInt8 :=
  let a := address.toNat
  if a < 128 then [UInt8.ofNat (2 * a)] else [UInt8.ofNat (0xF0 + 2 * (a / 256)), UInt8.ofNat a]

/-- Ten bits: only the first byte is sent. -/
def addressForRead (address : UInt16) : List UInt8 :=
  let a := address.toNat
  if a < 128 then [UInt8.ofNat (2 * a + 1)] else [UInt8.ofNat (0xF1 + 2 * (a / 256))]

/-- Every byte but the last is acknowledged. -/
def readScript : Nat → List Op
  | 0 => []
  | n + 1 => .rx :: if n = 0 then [.ack false, .stop] else .ack true :: readScript n

def I2cRequest.script (mem : Nat → UInt8) : I2cRequest → List Op
  | .write address data dataLength =>
    .start :: (addressForWrite address ++ bytesAt mem (data.getD 0) dataLength.toNat).map .tx ++ [.stop]
  | .read address _ dataLength =>
    .start :: (addressForRead address).map .tx ++ readScript dataLength.toNat
  | .writeRead address writeData writeLength _ readLength =>
    .start :: (addressForWrite address ++ bytesAt mem (writeData.getD 0) writeLength.toNat).map .tx ++
      .restart :: (addressForRead address).map .tx ++ readScript readLength.toNat

/-! ## What the driver is about to do -/

def I2cObject.writeAddress (o : I2cObject) : List UInt8 :=
  if o.is10BitAddressMode then [o.clientAddressHigh, o.clientAddressLow] else [o.clientAddressLow]

def I2cObject.readAddress (o : I2cObject) : List UInt8 :=
  [(if o.is10BitAddressMode then o.clientAddressHigh else o.clientAddressLow) ||| i2cReadMode]

/-- What is left of the data, and what comes after it. -/
def I2c.dataScript (s : I2c) : List Op :=
  (bytesAt s.mem (s.obj.writeData.getD 0) s.obj.writeDataCount.toNat).map .tx ++
    if s.obj.readDataCount = 0 then [.stop]
    else .restart :: s.obj.readAddress.map .tx ++ readScript s.obj.readDataCount.toNat

/-- What follows the address. -/
def I2c.addressedScript (s : I2c) : List Op :=
  if s.obj.isWriteMode then s.dataScript else readScript s.obj.readDataCount.toNat

/-- What the driver will do once `op` is done. -/
def I2c.plan (s : I2c) (op : Op) : List Op :=
  match s.obj.state with
  | .idle | .start => []
  | .send7BitAddress => .tx s.obj.clientAddressLow :: s.addressedScript
  | .send10BitHigherAddress => .tx s.obj.clientAddressHigh ::
      if s.obj.isWriteMode then .tx s.obj.clientAddressLow :: s.dataScript
      else readScript s.obj.readDataCount.toNat
  | .send10BitLowerAddress => .tx s.obj.clientAddressLow :: s.dataScript
  | .sendDataToClient => s.dataScript
  | .checkAddressAckNackStatus | .receiveWaitAckNackComplete =>
    readScript s.obj.readDataCount.toNat
  | .receiveDataFromClient => (readScript s.obj.readDataCount.toNat).tail
  | .stop => if op = .stop then [] else [.stop]

/-- Which operation a state waits for. -/
def I2cHostState.awaits : I2cHostState → Op → Bool
  | .idle, .stop => true
  | .send7BitAddress, .start | .send7BitAddress, .restart => true
  | .send10BitHigherAddress, .start | .send10BitHigherAddress, .restart => true
  | .send10BitLowerAddress, .tx _ => true
  | .sendDataToClient, .tx _ => true
  | .checkAddressAckNackStatus, .tx _ => true
  | .receiveDataFromClient, .rx => true
  | .receiveWaitAckNackComplete, .ack _ => true
  | .stop, .stop | .stop, .ack _ => true
  | _, _ => false

/-- The states in which the read phase has begun. -/
def I2cObject.reading (o : I2cObject) : Bool :=
  match o.state with
  | .send7BitAddress | .send10BitHigherAddress => !o.isWriteMode
  | .checkAddressAckNackStatus | .receiveDataFromClient | .receiveWaitAckNackComplete => true
  | _ => false

/-- The driver in the middle of a request, its hardware working on `op`. -/
structure I2c.Working (s : I2c) (op : Op) : Prop where
  awaits : s.obj.state.awaits op = true
  lower : s.obj.state = .send10BitLowerAddress → s.obj.isWriteMode = true
  reads : s.obj.reading = true → s.obj.writeDataCount = 0 ∧ 0 < s.obj.readDataCount
  done : s.obj.state = .idle ∨ s.obj.state = .stop ∧ op ≠ .stop →
    s.obj.writeDataCount = 0 ∧ s.obj.readDataCount = 0
  writePtr : 0 < s.obj.writeDataCount → s.obj.writeData.isSome = true
  readPtr : 0 < s.obj.readDataCount → s.obj.readData.isSome = true

/-- The loop corresponds to a host with this script. -/
def I2cLoop.Plays (s : I2cLoop) (todo : List Op) : Prop :=
  match s.pending with
  | none => todo = [] ∧ s.dev.obj.state = .idle
  | some op => todo = op :: s.dev.plan op ∧ s.dev.Working op

theorem plays_nil (s : I2cLoop) : s.Plays [] ↔ s.pending = none ∧ s.dev.obj.state = .idle := by
  unfold I2cLoop.Plays
  cases s.pending with
  | none => exact and_congr_left' (iff_of_true rfl rfl)
  | some op =>
    constructor
    · rintro ⟨h, -⟩
      cases h
    · rintro ⟨h, -⟩
      cases h

/-! ## One interrupt -/

theorem toNat_pred (c : UInt32) (h : 0 < c) : c.toNat = (c - 1).toNat + 1 := by
  have hpos : 0 < c.toNat := UInt32.lt_iff_toNat_lt.mp h
  have hlt := c.toNat_lt
  rw [UInt32.toNat_sub]
  have hone : (1 : UInt32).toNat = 1 := rfl
  omega

theorem not_pos (c : UInt32) : ¬ 0 < c ↔ c = 0 := by
  rw [UInt32.lt_iff_toNat_lt, ← UInt32.toNat_inj]
  have hzero : (0 : UInt32).toNat = 0 := rfl
  omega

theorem after_plays {s : I2c} {outs : List I2cOut} {op : Op} {todo : List Op}
    (hop : (outs.filterMap I2cOut.op).getLast? = some op) (htodo : todo = op :: s.plan op)
    (h : s.Working op) : (I2cLoop.after (s, outs)).Plays todo := by
  unfold I2cLoop.Plays I2cLoop.after
  simp only [hop]
  exact ⟨htodo, h⟩

theorem nack_plays {s : I2c} {op : Op} (h : s.Working op) :
    (I2cLoop.after (i2cNack s)).Plays [.stop] := by
  refine after_plays rfl rfl ⟨rfl, nofun, nofun, ?_, h.writePtr, h.readPtr⟩
  rintro (hc | ⟨-, hc⟩)
  · cases hc
  · exact absurd rfl hc

/-- The next byte, or what comes after the last one. -/
theorem sendData_plays {s : I2c} {op : Op} (h : s.Working op)
    (hstate : s.obj.state = .sendDataToClient) (r : I2cRegs) (htbf : r.tbf = false) :
    (I2cLoop.after (i2cSendData s r)).Plays s.dataScript := by
  unfold i2cSendData I2c.dataScript
  by_cases hcount : 0 < s.obj.writeDataCount
  · obtain ⟨a, ha⟩ := Option.isSome_iff_exists.mp (h.writePtr hcount)
    rw [if_pos hcount, if_neg (by simp [htbf]), ha, toNat_pred _ hcount, Option.getD_some,
      bytesAt_succ]
    refine after_plays rfl ?_ ⟨?_, ?_, ?_, ?_, fun _ => rfl, h.readPtr⟩
    · simp only [I2c.plan, hstate]
      rfl
    · simp only [hstate]
      rfl
    · exact fun hc => absurd (hstate.symm.trans hc) (by decide)
    · simp [hstate, I2cObject.reading]
    · simp [hstate]
  · have hzero : s.obj.writeDataCount = 0 := (not_pos _).mp hcount
    rw [if_neg hcount, hzero]
    unfold i2cWriteEnd
    by_cases hread : 0 < s.obj.readDataCount
    · have hne : s.obj.readDataCount ≠ 0 := fun hc => (not_pos _).mpr hc hread
      rw [if_pos hread, if_neg hne]
      unfold I2cObject.readAddress
      cases s.obj.is10BitAddressMode with
      | true =>
        refine after_plays rfl rfl ⟨rfl, nofun, fun _ => ⟨hzero, hread⟩, ?_, h.writePtr, h.readPtr⟩
        rintro (hc | ⟨hc, -⟩) <;> cases hc
      | false =>
        refine after_plays rfl rfl ⟨rfl, nofun, fun _ => ⟨hzero, hread⟩, ?_, h.writePtr, h.readPtr⟩
        rintro (hc | ⟨hc, -⟩) <;> cases hc
    · have hnone : s.obj.readDataCount = 0 := (not_pos _).mp hread
      rw [if_neg hread, if_pos hnone]
      exact after_plays rfl rfl
        ⟨rfl, nofun, nofun, fun _ => ⟨hzero, hnone⟩, h.writePtr, h.readPtr⟩

/-- A byte received, and how it is acknowledged. -/
theorem receive_plays {s : I2c} {op : Op} (h : s.Working op)
    (hstate : s.obj.state = .receiveDataFromClient) (r : I2cRegs) (hrbf : r.rbf = true) :
    (I2cLoop.after (i2cReceive s r)).Plays (readScript s.obj.readDataCount.toNat).tail := by
  obtain ⟨hzero, hcount⟩ := h.reads (by simp [I2cObject.reading, hstate])
  obtain ⟨a, ha⟩ := Option.isSome_iff_exists.mp (h.readPtr hcount)
  unfold i2cReceive
  rw [if_pos hrbf, ha, toNat_pred _ hcount]
  by_cases hmore : 0 < s.obj.readDataCount - 1
  · have hpos : (s.obj.readDataCount - 1).toNat ≠ 0 := by
      have := UInt32.lt_iff_toNat_lt.mp hmore
      exact Nat.ne_of_gt this
    simp only [gt_iff_lt, if_pos hmore, decide_eq_true hmore, readScript, if_neg hpos,
      List.tail_cons]
    refine after_plays rfl rfl ⟨rfl, nofun, fun _ => ⟨hzero, hmore⟩, ?_, h.writePtr, fun _ => rfl⟩
    rintro (hc | ⟨hc, -⟩) <;> cases hc
  · have hlast : s.obj.readDataCount - 1 = 0 := (not_pos _).mp hmore
    have hnat : (s.obj.readDataCount - 1).toNat = 0 := by rw [hlast]; rfl
    simp only [gt_iff_lt, if_neg hmore, decide_eq_false hmore, readScript, if_pos hnat,
      List.tail_cons]
    exact after_plays rfl rfl
      ⟨rfl, nofun, nofun, fun _ => ⟨hzero, hlast⟩, h.writePtr, fun _ => rfl⟩

/-- A byte is all these states wait for. -/
theorem tx_of_awaits {state : I2cHostState} {op : Op} (h : state.awaits op = true)
    (hstate : state = .send10BitLowerAddress ∨ state = .sendDataToClient ∨
      state = .checkAddressAckNackStatus) : ∃ c, op = .tx c := by
  rcases hstate with rfl | rfl | rfl <;> cases op <;> first | exact ⟨_, rfl⟩ | cases h

theorem rx_of_awaits {op : Op} (h : I2cHostState.receiveDataFromClient.awaits op = true) :
    op = .rx := by
  cases op <;> first | rfl | cases h

@[simp] theorem callHandler_ops (s : I2c) : s.callHandler.filterMap I2cOut.op = [] := by
  unfold I2c.callHandler
  split <;> rfl

/-- Another state that is neither at an end nor sends the lower address, in the same phase. -/
theorem setState_plays {s : I2c} {op : Op} (h : s.Working op) (state : I2cHostState) (next : Op)
    (todo : List Op) (hnext : state.awaits next = true) (hidle : state ≠ .idle)
    (hstop : state ≠ .stop)
    (hlower : state = .send10BitLowerAddress → s.obj.isWriteMode = true)
    (hreads : (s.setState state).obj.reading = true →
      s.obj.writeDataCount = 0 ∧ 0 < s.obj.readDataCount)
    (htodo : todo = next :: (s.setState state).plan next) :
    (I2cLoop.after (s.setState state, [.bus next])).Plays todo := by
  refine after_plays rfl htodo ⟨hnext, hlower, hreads, ?_, h.writePtr, h.readPtr⟩
  rintro (hc | ⟨hc, -⟩)
  · exact absurd hc hidle
  · exact absurd hc hstop

/-- An operation that is done and not refused. -/
theorem done_plays {s : I2c} {op : Op} (h : s.Working op) (ack : Bool) (b : UInt8)
    (hop : op.refused ack = false) :
    (I2cLoop.after (i2c1Interrupt s (completionRegs op (.done ack b)))).Plays (s.plan op) := by
  show (I2cLoop.after (i2c1HostDataProcess s (completionRegs op (.done ack b)))).Plays (s.plan op)
  have hawaits := h.awaits
  -- a byte sent is accepted
  have hack : ∀ c, op = .tx c → (completionRegs op (.done ack b)).ackstat = false := by
    rintro c rfl
    exact hop
  unfold i2c1HostDataProcess I2c.plan
  cases hstate : s.obj.state with
  | idle =>
    obtain ⟨hw, hr⟩ := h.done (.inl hstate)
    have hbegin : i2cBegin s = (s, []) := by
      unfold i2cBegin
      rw [if_neg (by simp [hw, hr])]
    simp only [hbegin]
    exact ⟨rfl, hstate⟩
  | start =>
    rw [hstate] at hawaits
    cases hawaits
  | send7BitAddress =>
    unfold I2cObject.afterAddress I2c.addressedScript
    cases hmode : s.obj.isWriteMode with
    | true =>
      exact setState_plays h .sendDataToClient _ _ rfl (by decide) (by decide) nofun nofun rfl
    | false =>
      have hreads := h.reads (by simp [I2cObject.reading, hstate, hmode])
      exact setState_plays h .checkAddressAckNackStatus _ _ rfl (by decide) (by decide) nofun
        (fun _ => hreads) rfl
  | send10BitHigherAddress =>
    simp only
    rw [if_neg (by simp [completionRegs])]
    cases hmode : s.obj.isWriteMode with
    | true =>
      exact setState_plays h .send10BitLowerAddress _ _ rfl (by decide) (by decide) (fun _ => hmode)
        nofun rfl
    | false =>
      have hreads := h.reads (by simp [I2cObject.reading, hstate, hmode])
      exact setState_plays h .checkAddressAckNackStatus _ _ rfl (by decide) (by decide) nofun
        (fun _ => hreads) rfl
  | send10BitLowerAddress =>
    have hmode := h.lower hstate
    obtain ⟨c, rfl⟩ := tx_of_awaits hawaits (by simp [hstate])
    simp only
    rw [hack c rfl, if_neg Bool.false_ne_true]
    unfold I2cObject.afterAddress
    rw [hmode, if_pos rfl]
    exact setState_plays h .sendDataToClient _ _ rfl (by decide) (by decide) nofun nofun rfl
  | sendDataToClient =>
    obtain ⟨c, rfl⟩ := tx_of_awaits hawaits (by simp [hstate])
    simp only
    rw [hack c rfl, if_neg Bool.false_ne_true]
    exact sendData_plays h hstate _ rfl
  | checkAddressAckNackStatus =>
    obtain ⟨c, rfl⟩ := tx_of_awaits hawaits (by simp [hstate])
    have hreads := h.reads (by simp [I2cObject.reading, hstate])
    simp only
    rw [hack c rfl, if_neg Bool.false_ne_true]
    refine setState_plays h .receiveDataFromClient _ _ rfl (by decide) (by decide) nofun
      (fun _ => hreads) ?_
    show readScript s.obj.readDataCount.toNat = .rx :: (readScript s.obj.readDataCount.toNat).tail
    rw [toNat_pred _ hreads.2]
    rfl
  | receiveDataFromClient =>
    obtain rfl : op = .rx := rx_of_awaits (hstate ▸ hawaits)
    exact receive_plays h hstate _ rfl
  | receiveWaitAckNackComplete =>
    have hreads := h.reads (by simp [I2cObject.reading, hstate])
    refine setState_plays h .receiveDataFromClient _ _ rfl (by decide) (by decide) nofun
      (fun _ => hreads) ?_
    show readScript s.obj.readDataCount.toNat = .rx :: (readScript s.obj.readDataCount.toNat).tail
    rw [toNat_pred _ hreads.2]
    rfl
  | stop =>
    rw [hstate] at hawaits
    by_cases hop : op = .stop
    · subst hop
      have hnone : (I2cLoop.after (s.setState .idle, [] ++ s.callHandler)).pending = none := by
        simp [I2cLoop.after]
      unfold I2cLoop.Plays
      simp only [completionRegs, decide_true, if_true, hnone]
      exact ⟨trivial, rfl⟩
    · have hdone := h.done (.inr ⟨hstate, hop⟩)
      simp only [completionRegs, decide_eq_false hop, if_neg hop]
      refine after_plays (by simp [I2cOut.op]) rfl ⟨rfl, nofun, nofun, fun _ => hdone, h.writePtr, h.readPtr⟩

/-- A byte that is refused: only the error and the state change. -/
theorem refused_eq {s : I2c} {op : Op} (h : s.Working op) (ack : Bool) (b : UInt8)
    (hop : op.refused ack = true) :
    i2c1Interrupt s (completionRegs op (.done ack b)) = i2cNack s ∧ s.obj.state ≠ .stop ∧
      s.obj.state ≠ .idle ∧ ∃ c, op = .tx c ∧ ack = false := by
  have hawaits := h.awaits
  obtain ⟨c, rfl⟩ : ∃ c, op = .tx c := by
    cases op <;> first | exact ⟨_, rfl⟩ | cases hop
  have hack : ack = false := by simpa [Op.refused] using hop
  subst hack
  refine ⟨?_, ?_, ?_, c, rfl, rfl⟩
  · show i2c1HostDataProcess s _ = i2cNack s
    unfold i2c1HostDataProcess
    cases hstate : s.obj.state <;> rw [hstate] at hawaits <;> first | rfl | cases hawaits
  · intro hc
    rw [hc] at hawaits
    cases hawaits
  · intro hc
    rw [hc] at hawaits
    cases hawaits

theorem refused_plays {s : I2c} {op : Op} (h : s.Working op) (ack : Bool) (b : UInt8)
    (hop : op.refused ack = true) :
    (I2cLoop.after (i2c1Interrupt s (completionRegs op (.done ack b)))).Plays [.stop] := by
  rw [(refused_eq h ack b hop).1]
  exact nack_plays h

/-- A collision ends the transfer. -/
theorem abort_plays (s : I2c) (op : Op) (cause : I2cCollision) :
    (I2cLoop.after (i2c1Interrupt s (completionRegs op (.abort cause)))).Plays [] := by
  cases cause with
  | bus =>
    have hnone : (I2cLoop.after (i2c1Interrupt s (completionRegs op (.abort .bus)))).pending = none := by
      show ((I2cOut.clearBcl :: s.callHandler).filterMap I2cOut.op).getLast? = none
      rw [List.filterMap_cons_none rfl, callHandler_ops]
      rfl
    unfold I2cLoop.Plays
    rw [hnone]
    exact ⟨rfl, rfl⟩
  | write => exact ⟨rfl, rfl⟩

theorem filterMap_out (outs : List I2cOut) :
    (outs.map I2cLoopOut.out).filterMap I2cLoopOut.sym? = [] := by
  rw [List.filterMap_map, List.filterMap_eq_nil_iff]
  exact fun _ _ => rfl

/-- **One interrupt.**  The loop does what a host with its script does. -/
theorem i2cLoopStep_plays (s : I2cLoop) (todo : List Op) (reply : Reply I2cCollision)
    (h : s.Plays todo) :
    (i2cLoopStep s reply).1.Plays (play todo reply).1 ∧
      (i2cLoopStep s reply).2.filterMap I2cLoopOut.sym? = (play todo reply).2 := by
  obtain ⟨dev, pending⟩ := s
  cases pending with
  | none =>
    obtain ⟨rfl, hidle⟩ := h
    exact ⟨⟨rfl, hidle⟩, rfl⟩
  | some op =>
    obtain ⟨rfl, hw⟩ := h
    have hsym : (i2cLoopStep ⟨dev, some op⟩ reply).2.filterMap I2cLoopOut.sym? =
        [completionSym op reply] :=
      congrArg (List.cons (completionSym op reply)) (filterMap_out _)
    rw [hsym]
    cases reply with
    | abort cause => exact ⟨abort_plays dev op cause, rfl⟩
    | done ack b =>
      refine ⟨?_, rfl⟩
      show (I2cLoop.after (i2c1Interrupt dev (completionRegs op (.done ack b)))).Plays
        (if op.refused ack then [.stop] else dev.plan op)
      cases hop : op.refused ack with
      | true => exact refused_plays hw ack b hop
      | false => exact done_plays hw ack b hop

end CuriosityT1S
