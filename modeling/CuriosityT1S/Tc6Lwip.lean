import CuriosityT1S.Lib.Mealy
import CuriosityT1S.Lib.Memory

/-!
# The lwIP interface driver (tc6-lwip.c), one instance

Each callback takes the driver's state and what its environment answers
(`pbuf_alloc`, `netif.input`, `TC6_GetRawSegments`, `TC6_SendRawEthernetSegments`)
and gives the new state and the calls it makes, in order (`Call`).  What
`pbuf_realloc` does is a parameter (`PbufRealloc`).  `driverStep` runs one
callback; a run of the driver is a list of `DriverEvent`s.
-/

namespace CuriosityT1S

open Splice

/-! ## What lwIP and TC6 give -/

/-- err.h. -/
inductive ErrT
  | errOk | errMem | errBuf | errTimeout | errRte | errInprogress | errVal | errWouldblock
  | errUse | errAlready | errIsconn | errConn | errIf | errAbrt | errRst | errClsd | errArg
deriving DecidableEq, Repr

/-- tc6.h, `TC6_Error_t`. -/
inductive Tc6Error
  | succeeded | noHardware | unexpectedSv | unexpectedDvEv | badChecksum | unexpectedCtrl
  | badTxData | syncLost | spiError | controlTxFail | unknown | plcaStatusFail
deriving DecidableEq, Repr

/-- tc6-regs.h, `TC6Regs_Event_t`. -/
inductive Tc6RegsEvent
  | unknownError | transmitProtocolError | transmitBufferOverflowError
  | transmitBufferUnderflowError | receiveBufferOverflowError | lossOfFramingError | headerError
  | resetComplete | phyInterrupt | transmitTimestampCaptureAvailableA
  | transmitTimestampCaptureAvailableB | transmitTimestampCaptureAvailableC
  | transmitFrameCheckSequenceError | controlDataProtectionError | rxNonRecoverableError
  | txNonRecoverableError | fsmStateError | sramEccError | undervoltage | internalBusError
  | txTimestampCaptureOverflowA | txTimestampCaptureOverflowB | txTimestampCaptureOverflowC
  | txTimestampCaptureMissedA | txTimestampCaptureMissedB | txTimestampCaptureMissedC
  | mclkGenStatus | gPtpPaTsEgStatus | extendedBlockStatus | spiErrInt | macBmgrInt | macInt
  | hmxInt | gintMask | chipError | unsupportedHardware
deriving DecidableEq, Repr

/-- A receive pbuf.  `payload` is the memory from the payload pointer on. -/
structure Pbuf where
  addr : Nat
  payload : List UInt8
  totLen : UInt16
  len : UInt16
  ref : UInt8
  chained : Bool
deriving DecidableEq, Repr

/-- A pbuf chain to send: the head's payload and those of `next`. -/
structure TxPbuf where
  addr : Nat
  payload : List UInt8
  next : List (List UInt8)
  totLen : UInt16
deriving DecidableEq, Repr

/-- `pbuf_realloc` is lwIP's: it shrinks a pbuf where it is, and never lets it grow. -/
class PbufRealloc where
  realloc : Pbuf → UInt16 → Pbuf
  addr : ∀ p newLen, (realloc p newLen).addr = p.addr
  payload : ∀ p newLen, (realloc p newLen).payload = p.payload
  ref : ∀ p newLen, (realloc p newLen).ref = p.ref
  shrinks : ∀ p newLen, newLen < p.totLen → p.len = p.totLen → (realloc p newLen).len = newLen
  keeps : ∀ p newLen, p.totLen ≤ newLen → realloc p newLen = p

def pbufRealloc [PbufRealloc] (p : Pbuf) (newLen : UInt16) : Pbuf := PbufRealloc.realloc p newLen

/-- What it does to a single pbuf. -/
@[reducible] def singlePbuf : PbufRealloc where
  realloc p newLen := if p.totLen ≤ newLen then p else { p with totLen := newLen, len := newLen }
  addr p newLen := by split <;> rfl
  payload p newLen := by split <;> rfl
  ref p newLen := by split <;> rfl
  shrinks p newLen h _ := by rw [if_neg (UInt16.not_le.mpr h)]
  keeps p newLen h := if_pos h

def htons (x : UInt16) : UInt16 := x <<< 8 ||| x >>> 8

/-- The field `type` of `struct eth_hdr`, loaded on a little-endian machine. -/
def ethHdrType (payload : List UInt8) : UInt16 :=
  (payload.getD 12 0).toUInt16 ||| (payload.getD 13 0).toUInt16 <<< 8

/-! ## Constants -/

def tc6LwipMtu : Nat := 1518

def etharpFcsLen : Nat := 4

def minHeaderLen : UInt16 := 42

def ethtypeIp : UInt16 := 0x0800

def ethtypeArp : UInt16 := 0x0806

def lwipTc6Magic : UInt32 := 0x47392741

def tc6MaxInstances : Int := 1

def rawRxCbMax : Nat := 1

/-! ## State -/

/-- `TC6Lib_t`. -/
structure Tc6Lib where
  pbuf : Option Pbuf
  rxLen : UInt16
  rxInvalid : Bool
  tc6NeedService : Bool
  resetComplete : Bool
deriving DecidableEq, Repr

/-- `RawRxEntry_t`; `κ` stands for the functions that can be registered. -/
structure RawRxEntry (κ : Type) where
  etherType : UInt16
  callback : Option κ
deriving DecidableEq, Repr

/-- `mlw[0]` and the table of raw receive callbacks. -/
structure Driver (κ : Type) where
  tc : Tc6Lib
  magic : UInt32
  rawRxCallbacks : List (RawRxEntry κ)
deriving DecidableEq, Repr

/-- The state `TC6LwIP_Init` starts from (`memset`). -/
def Tc6Lib.zero : Tc6Lib := ⟨none, 0, false, false, false⟩

def Driver.zero {κ : Type} : Driver κ := ⟨.zero, 0, []⟩

/-- Calls out of the driver. -/
inductive Call (κ : Type)
  | pbufAlloc (p : Option Pbuf)
  | pbufFree (p : Pbuf)
  | rawRxCallback (cb : κ) (pFrame : List UInt8) (len : UInt16)
  | netifInput (p : Pbuf)
  | tc6RegsReinit
  | pbufRef (addr : Nat)
  | sendRawEthernetSegments (segs : List (List UInt8)) (totalLen : UInt16) (tag : Nat)
deriving DecidableEq, Repr

/-! ## Lookups -/

def tc6CbResetComplete (tc : Tc6Lib) : Bool := tc.resetComplete

/-- `idx < TC6_MAX_INSTANCES`, where the right side is unsigned: a negative index fails it. -/
def idxValid (idx : Int) : Bool := 0 ≤ idx && idx < tc6MaxInstances

/-- Whether `TC6LwIP_GetNetIf` gives an interface. -/
def tc6LwipGetNetIf (idx : Int) : Bool := idxValid idx

/-- Whether `TC6LwIP_GetTC6` gives an instance. -/
def tc6LwipGetTC6 {κ : Type} (d : Driver κ) (idx : Int) : Bool :=
  idxValid idx && d.magic == lwipTc6Magic

def tc6LwipRegisterRawRxCallback {κ : Type} (d : Driver κ) (etherType : UInt16)
    (callback : Option κ) : Driver κ :=
  if d.rawRxCallbacks.length < rawRxCbMax then
    { d with rawRxCallbacks := d.rawRxCallbacks ++ [⟨etherType, callback⟩] }
  else d

def filterRxEthernetPacket (ethType : UInt16) : Bool :=
  ethType == ethtypeIp || ethType == ethtypeArp

/-- The loop over the table: the first entry of that type with a callback. -/
def findRawRx {κ : Type} : List (RawRxEntry κ) → UInt16 → Option κ
  | [], _ => none
  | e :: es, ethType =>
    if e.etherType == ethType then
      match e.callback with
      | some cb => some cb
      | none => findRawRx es ethType
    else findRawRx es ethType

/-! ## Receive -/

/-- The `memcpy` and the count at the end of `TC6_CB_OnRxEthernetSlice`. -/
def storeSlice (tc : Tc6Lib) (p : Pbuf) (pRx : List UInt8) (offset len : UInt16) : Tc6Lib :=
  { tc with
    pbuf := some { p with payload := splice p.payload (pRx.take len.toNat) offset.toNat }
    rxLen := tc.rxLen + len }

/-- `alloc` is what `pbuf_alloc` returns if it is called.  `offset + len` is computed in `int`. -/
def tc6CbOnRxEthernetSlice {κ : Type} (tc : Tc6Lib) (pRx : List UInt8) (offset len : UInt16)
    (alloc : Option Pbuf) : Tc6Lib × List (Call κ) :=
  if tc.rxInvalid then (tc, [])
  else if offset.toNat + len.toNat > tc6LwipMtu + etharpFcsLen then
    ({ tc with rxInvalid := true }, [])
  else
    match tc.pbuf with
    | some p => (storeSlice tc p pRx offset len, [])
    | none =>
      match alloc with
      | none => ({ tc with rxInvalid := true }, [.pbufAlloc none])
      | some p =>
        if p.chained then
          ({ tc with rxInvalid := true, pbuf := none }, [.pbufAlloc (some p), .pbufFree p])
        else (storeSlice tc p pRx offset len, [.pbufAlloc (some p)])

/-- Hand the frame in `p` to its consumer.  `lwresult` is what `netif.input` returns if it is
called.  Gives the pbuf the driver still holds. -/
def deliver {κ : Type} [PbufRealloc] (cbs : List (RawRxEntry κ)) (p : Pbuf) (len : UInt16)
    (lwresult : ErrT) : Option Pbuf × List (Call κ) :=
  let p := pbufRealloc p len
  let ethType := htons (ethHdrType p.payload)
  match findRawRx cbs ethType with
  | some cb => (some p, [.rawRxCallback cb p.payload len])
  | none =>
    if filterRxEthernetPacket ethType then
      (if lwresult = .errOk then none else some p, [.netifInput p])
    else (some p, [])

/-- The checks of `TC6_CB_OnRxEthernetPacket` before a frame is delivered. -/
def packetOk (tc : Tc6Lib) (success : Bool) (len : UInt16) : Bool :=
  success && !tc.rxInvalid && tc.rxLen != 0 && tc.rxLen == len && !decide (len < minHeaderLen)

/-- The buffer left at the end is freed. -/
def freeLeft {κ : Type} : Option Pbuf → List (Call κ)
  | some p => if p.ref > 0 then [.pbufFree p] else []
  | none => []

def tc6CbOnRxEthernetPacket {κ : Type} [PbufRealloc] (cbs : List (RawRxEntry κ)) (tc : Tc6Lib)
    (success : Bool) (len : UInt16) (lwresult : ErrT) : Tc6Lib × List (Call κ) :=
  if tc6CbResetComplete tc then
    let (left, calls) := match tc.pbuf with
      | some p => if packetOk tc success len then deliver cbs p len lwresult else (some p, [])
      | none => (none, [])
    ({ tc with pbuf := none, rxLen := 0, rxInvalid := false }, calls ++ freeLeft left)
  else (tc, [])

/-! ## Service request, errors, events -/

def tc6CbOnNeedService (tc : Tc6Lib) : Tc6Lib := { tc with tc6NeedService := true }

/-- The errors on which `TC6_CB_OnError` starts over. -/
def Tc6Error.reinit : Tc6Error → Bool
  | .noHardware | .unexpectedSv | .unexpectedDvEv | .badChecksum | .unexpectedCtrl | .badTxData
  | .syncLost | .spiError => true
  | _ => false

/-- The events on which `TC6Regs_CB_OnEvent` starts over. -/
def Tc6RegsEvent.reinit : Tc6RegsEvent → Bool
  | .unknownError | .transmitProtocolError | .lossOfFramingError | .headerError => true
  | _ => false

def tc6CbOnError {κ : Type} (tc : Tc6Lib) (err : Tc6Error) : Tc6Lib × List (Call κ) :=
  if err.reinit then ({ tc with resetComplete := false }, [.tc6RegsReinit]) else (tc, [])

def tc6RegsCbOnEvent {κ : Type} (tc : Tc6Lib) (event : Tc6RegsEvent) : Tc6Lib × List (Call κ) :=
  let tc := if event = .resetComplete then { tc with resetComplete := true, rxLen := 0 } else tc
  if event.reinit then ({ tc with resetComplete := false }, [.tc6RegsReinit]) else (tc, [])

/-! ## Transmit -/

/-- The `while` loop of `lwIpOut`: one segment a pbuf, as long as there are segments. -/
def fillSegments : Nat → List UInt8 → List (List UInt8) → List (List UInt8)
  | 0, _, _ => []
  | _ + 1, payload, [] => [payload]
  | seg + 1, payload, pC :: next => payload :: fillSegments seg pC next

/-- `maxSeg` is the answer of `TC6_GetRawSegments`, `success` that of
`TC6_SendRawEthernetSegments`. -/
def lwIpOut {κ : Type} (tc : Tc6Lib) (p : TxPbuf) (maxSeg : UInt8) (success : Bool) :
    ErrT × List (Call κ) :=
  if !tc6CbResetComplete tc then (.errIf, [])
  else if maxSeg ≠ 0 then
    (if success then .errOk else .errIf,
      [.pbufRef p.addr,
        .sendRawEthernetSegments (fillSegments maxSeg.toNat p.payload p.next) p.totLen p.addr])
  else (.errWouldblock, [])

/-! ## Runs -/

/-- What the driver is called with.  `initDone` is the end of `TC6LwIP_Init`, reached when
the reset is complete. -/
inductive DriverEvent (κ : Type)
  | slice (pRx : List UInt8) (offset len : UInt16) (alloc : Option Pbuf)
  | packet (success : Bool) (len : UInt16) (lwresult : ErrT)
  | needService
  | error (err : Tc6Error)
  | event (event : Tc6RegsEvent)
  | initDone
  | registerRawRx (etherType : UInt16) (callback : Option κ)
deriving DecidableEq, Repr

def driverStep {κ : Type} [PbufRealloc] (d : Driver κ) : DriverEvent κ → Driver κ × List (Call κ)
  | .slice pRx offset len alloc =>
    let (tc, calls) := tc6CbOnRxEthernetSlice d.tc pRx offset len alloc
    ({ d with tc := tc }, calls)
  | .packet success len lwresult =>
    let (tc, calls) := tc6CbOnRxEthernetPacket d.rawRxCallbacks d.tc success len lwresult
    ({ d with tc := tc }, calls)
  | .needService => ({ d with tc := tc6CbOnNeedService d.tc }, [])
  | .error err =>
    let (tc, calls) := tc6CbOnError d.tc err
    ({ d with tc := tc }, calls)
  | .event ev =>
    let (tc, calls) := tc6RegsCbOnEvent d.tc ev
    ({ d with tc := tc }, calls)
  | .initDone =>
    (if tc6CbResetComplete d.tc then { d with magic := lwipTc6Magic } else d, [])
  | .registerRawRx etherType callback => (tc6LwipRegisterRawRxCallback d etherType callback, [])

/-- Setting the magic and registering a callback leave the rest of the driver alone. -/
@[simp] theorem driverStep_initDone_tc {κ : Type} [PbufRealloc] (d : Driver κ) :
    (driverStep d .initDone).1.tc = d.tc := by
  simp only [driverStep]
  split <;> rfl

@[simp] theorem driverStep_registerRawRx_tc {κ : Type} [PbufRealloc] (d : Driver κ)
    (etherType : UInt16) (callback : Option κ) :
    (driverStep d (.registerRawRx etherType callback)).1.tc = d.tc := by
  simp only [driverStep, tc6LwipRegisterRawRxCallback]
  split <;> rfl

/-! ## Frames and their consumers -/

/-- The EtherType of a frame, in network order. -/
def etherType (frame : List UInt8) : UInt16 :=
  (frame.getD 12 0).toUInt16 <<< 8 ||| (frame.getD 13 0).toUInt16

/-- Who can be handed a received frame. -/
inductive Consumer (κ : Type)
  | raw (cb : κ)
  | lwip
deriving DecidableEq, Repr

/-- A frame handed over: to whom, the memory it starts at, and its length. -/
structure Handoff (κ : Type) where
  consumer : Consumer κ
  mem : List UInt8
  len : UInt16
deriving DecidableEq, Repr

def Call.handoff {κ : Type} : Call κ → Option (Handoff κ)
  | .rawRxCallback cb pFrame len => some ⟨.raw cb, pFrame, len⟩
  | .netifInput p => some ⟨.lwip, p.payload, p.len⟩
  | _ => none

/-- The frames handed over by some calls. -/
def handoffs {κ : Type} (calls : List (Call κ)) : List (Handoff κ) := calls.filterMap Call.handoff

/-- Whom a frame is for: the first callback registered for its EtherType, else lwIP if it is
IPv4 or ARP, else nobody. -/
def consumerOf {κ : Type} (cbs : List (RawRxEntry κ)) (frame : List UInt8) : Option (Consumer κ) :=
  match (cbs.filter (·.etherType = etherType frame)).findSome? RawRxEntry.callback with
  | some cb => some (.raw cb)
  | none => if etherType frame = 0x0800 ∨ etherType frame = 0x0806 then some .lwip else none

/-! ## Lemmas -/

theorem htons_ethHdrType (frame : List UInt8) : htons (ethHdrType frame) = etherType frame := by
  unfold htons ethHdrType etherType
  generalize frame.getD 12 0 = lo
  generalize frame.getD 13 0 = hi
  rw [← UInt16.toBitVec_inj]
  ext i hi'
  simp
  grind

theorem filterRxEthernetPacket_iff (ethType : UInt16) :
    filterRxEthernetPacket ethType = true ↔ ethType = 0x0800 ∨ ethType = 0x0806 := by
  unfold filterRxEthernetPacket ethtypeIp ethtypeArp
  rw [Bool.or_eq_true, beq_iff_eq, beq_iff_eq]

/-- The loop finds the first callback among the entries of that type. -/
theorem findRawRx_eq {κ : Type} (cbs : List (RawRxEntry κ)) (ethType : UInt16) :
    findRawRx cbs ethType =
      (cbs.filter (·.etherType = ethType)).findSome? RawRxEntry.callback := by
  induction cbs with
  | nil => rfl
  | cons e es ih =>
    unfold findRawRx
    rw [List.filter_cons]
    by_cases ht : e.etherType = ethType
    · rw [if_pos (beq_iff_eq.mpr ht), if_pos (decide_eq_true ht), List.findSome?_cons]
      cases e.callback with
      | some cb => rfl
      | none => exact ih
    · rw [if_neg (mt beq_iff_eq.mp ht), if_neg (mt of_decide_eq_true ht)]
      exact ih

/-- The two tests of `deliver` find the frame's consumer. -/
theorem consumerOf_eq {κ : Type} (cbs : List (RawRxEntry κ)) (frame : List UInt8) :
    consumerOf cbs frame =
      match findRawRx cbs (etherType frame) with
      | some cb => some (.raw cb)
      | none => if filterRxEthernetPacket (etherType frame) then some .lwip else none := by
  rw [findRawRx_eq]
  simp only [consumerOf, filterRxEthernetPacket_iff]

@[simp] theorem pbufRealloc_payload [PbufRealloc] (p : Pbuf) (n : UInt16) :
    (pbufRealloc p n).payload = p.payload := PbufRealloc.payload p n

@[simp] theorem pbufRealloc_ref [PbufRealloc] (p : Pbuf) (n : UInt16) :
    (pbufRealloc p n).ref = p.ref := PbufRealloc.ref p n

@[simp] theorem handoffs_nil {κ : Type} : handoffs ([] : List (Call κ)) = [] := rfl

@[simp] theorem handoffs_append {κ : Type} (a b : List (Call κ)) :
    handoffs (a ++ b) = handoffs a ++ handoffs b := List.filterMap_append

@[simp] theorem handoffs_freeLeft {κ : Type} (left : Option Pbuf) :
    handoffs (freeLeft left : List (Call κ)) = [] := by
  cases left with
  | none => rfl
  | some p =>
    show handoffs (if p.ref > 0 then [Call.pbufFree p] else []) = []
    split <;> rfl

end CuriosityT1S
