import CuriosityT1S.I2cRequests

/-!
# The buffers of the I2C driver (i2c1.c)

The interrupt decrements `readDataCount` without looking at it, and follows pointers that an
earlier transfer may have left behind.  Here its registers may be anything at any time: collisions,
interrupts that nothing has asked for, bits that contradict each other.

    i2c_buffers:  what is loaded and stored lies in the buffers of the last accepted request,
                  one byte after the other from their beginnings
-/

namespace CuriosityT1S

open Mealy

inductive I2cEvent
  | init
  | request (r : I2cRegs) (req : I2cRequest)
  | errorGet
  | interrupt (r : I2cRegs)
deriving DecidableEq, Repr

inductive I2cEventOut
  | accepted (req : I2cRequest)
  | out (o : I2cOut)
deriving DecidableEq, Repr

def i2cStep (s : I2c) : I2cEvent → I2c × List I2cEventOut
  | .init => (i2c1Initialize s, [])
  | .request r req =>
    let res := i2cRequest s r req
    (res.1, (if res.2.1 then [.accepted req] else []) ++ res.2.2.map .out)
  | .errorGet => ((i2c1ErrorGet s).1, [])
  | .interrupt r =>
    let res := i2c1Interrupt s r
    (res.1, res.2.map .out)

/-! ## Cursors -/

/-- What is left of a buffer. -/
structure I2cCursor where
  pos : Nat
  left : Nat
deriving DecidableEq, Repr

/-- The next byte of the buffer, and no other. -/
def I2cCursor.advance (c : I2cCursor) (a : Nat) : Option I2cCursor :=
  if 0 < c.left ∧ a = c.pos then some ⟨c.pos + 1, c.left - 1⟩ else none

structure I2cCursors where
  write : I2cCursor
  read : I2cCursor
deriving DecidableEq, Repr

def I2cCursors.none : I2cCursors := ⟨⟨0, 0⟩, ⟨0, 0⟩⟩

def I2cRequest.cursors : I2cRequest → I2cCursors
  | .write _ data n => ⟨⟨data.getD 0, n.toNat⟩, ⟨0, 0⟩⟩
  | .read _ data n => ⟨⟨0, 0⟩, ⟨data.getD 0, n.toNat⟩⟩
  | .writeRead _ writeData m readData n => ⟨⟨writeData.getD 0, m.toNat⟩, ⟨readData.getD 0, n.toNat⟩⟩

/-- `none` if a byte is touched that is not the next one. -/
def I2cCursors.use (c : I2cCursors) : I2cEventOut → Option I2cCursors
  | .accepted req => some req.cursors
  | .out (.load a) => (c.write.advance a).map fun w => { c with write := w }
  | .out (.store a _) => (c.read.advance a).map fun r => { c with read := r }
  | .out _ => some c

/-- A count that is not 0 goes with its pointer. -/
def I2cCursor.Covers (c : I2cCursor) (data : Option Nat) (count : UInt32) : Prop :=
  count = 0 ∨ data = some c.pos ∧ count.toNat = c.left

structure I2cBounded (c : I2cCursors) (s : I2c) : Prop where
  write : c.write.Covers s.obj.writeData s.obj.writeDataCount
  read : c.read.Covers s.obj.readData s.obj.readDataCount
  mode : s.obj.isWriteMode = false → s.obj.writeDataCount = 0
  lower : s.obj.state = .send10BitLowerAddress → s.obj.isWriteMode = true
  reading : s.obj.reading = true → 0 < s.obj.readDataCount

/-! ## One event -/

theorem I2cCursor.Covers.advance {c : I2cCursor} {data : Option Nat} {count : UInt32}
    (h : c.Covers data count) (hpos : 0 < count) :
    ∃ c', data = some c.pos ∧ c.advance c.pos = some c' ∧
      c'.Covers (some (c.pos + 1)) (count - 1) := by
  rcases h with hzero | ⟨hdata, hleft⟩
  · exact absurd hzero fun hc => (not_pos count).mpr hc hpos
  · have hpred := toNat_pred count hpos
    refine ⟨⟨c.pos + 1, c.left - 1⟩, hdata, if_pos ⟨by omega, rfl⟩, .inr ⟨rfl, ?_⟩⟩
    show (count - 1).toNat = c.left - 1
    omega

/-- Neither a load nor a store. -/
def I2cOut.quiet : I2cOut → Bool
  | .load _ | .store _ _ => false
  | _ => true

theorem use_quiet (c : I2cCursors) (outs : List I2cOut) (h : outs.all I2cOut.quiet = true) :
    (outs.map I2cEventOut.out).foldlM I2cCursors.use c = some c := by
  induction outs with
  | nil => rfl
  | cons o outs ih =>
    obtain ⟨ho, hrest⟩ := Bool.and_eq_true_iff.mp ((List.all_cons (f := I2cOut.quiet)) ▸ h)
    rw [List.map_cons, List.foldlM_cons]
    cases o <;> first | exact ih hrest | cases ho

theorem bounded_quiet {c : I2cCursors} {s : I2c} {outs : List I2cOut}
    (hs : I2cBounded c s) (h : outs.all I2cOut.quiet = true) :
    ∃ c', (outs.map I2cEventOut.out).foldlM I2cCursors.use c = some c' ∧ I2cBounded c' s :=
  ⟨c, use_quiet c outs h, hs⟩

theorem callHandler_quiet (s : I2c) : s.callHandler.all I2cOut.quiet = true := by
  unfold I2c.callHandler
  split <;> rfl

/-- What a step of the interrupt has to show. -/
def I2cBounded.Keeps (c : I2cCursors) (res : I2c × List I2cOut) : Prop :=
  ∃ c', (res.2.map I2cEventOut.out).foldlM I2cCursors.use c = some c' ∧ I2cBounded c' res.1

theorem begin_bounded {c : I2cCursors} {s : I2c} (h : I2cBounded c s) :
    I2cBounded.Keeps c (i2cBegin s) := by
  unfold i2cBegin
  split
  · next hc =>
    have hreads : s.obj.isWriteMode = false → 0 < s.obj.readDataCount := by
      intro hmode
      rcases hc with hw | ⟨hr, -⟩
      · exact absurd (h.mode hmode) fun h0 => (not_pos _).mpr h0 hw
      · exact hr
    refine bounded_quiet ⟨h.write, h.read, h.mode, ?_, ?_⟩ rfl
    · unfold I2c.setState
      split <;> exact nofun
    · unfold I2c.setState
      cases hmode : s.obj.isWriteMode with
      | true => cases s.obj.is10BitAddressMode <;> simp [I2cObject.reading, hmode]
      | false => exact fun _ => hreads hmode
  · exact bounded_quiet h rfl

theorem nack_bounded {c : I2cCursors} {s : I2c} (h : I2cBounded c s) :
    I2cBounded.Keeps c (i2cNack s) :=
  bounded_quiet ⟨h.write, h.read, h.mode, nofun, nofun⟩ rfl

theorem sendData_bounded {c : I2cCursors} {s : I2c} (h : I2cBounded c s) (r : I2cRegs)
    (hstate : s.obj.state = .sendDataToClient) : I2cBounded.Keeps c (i2cSendData s r) := by
  unfold i2cSendData
  split
  · next hcount =>
    split
    · exact bounded_quiet h rfl
    · obtain ⟨w, hdata, hadv, hcovers⟩ := h.write.advance hcount
      have hmode : s.obj.isWriteMode ≠ false := fun hc => (not_pos _).mpr (h.mode hc) hcount
      rw [hdata]
      refine ⟨{ c with write := w }, ?_, hcovers, h.read, fun hc => absurd hc hmode, ?_, ?_⟩
      · simp [I2cCursors.use, hadv]
      · exact fun hc => absurd (hstate.symm.trans hc) (by decide)
      · simp [hstate, I2cObject.reading]
  · next hcount =>
    have hzero : s.obj.writeDataCount = 0 := (not_pos _).mp hcount
    unfold i2cWriteEnd
    split
    · next hread =>
      split
      · exact bounded_quiet ⟨h.write, h.read, fun _ => hzero,
          fun hc => I2cHostState.noConfusion hc, fun _ => hread⟩ rfl
      · exact bounded_quiet ⟨h.write, h.read, fun _ => hzero,
          fun hc => I2cHostState.noConfusion hc, fun _ => hread⟩ rfl
    · exact bounded_quiet ⟨h.write, h.read, h.mode, fun hc => I2cHostState.noConfusion hc,
        fun hc => Bool.noConfusion hc⟩ rfl

theorem receive_bounded {c : I2cCursors} {s : I2c} (h : I2cBounded c s) (r : I2cRegs)
    (hstate : s.obj.state = .receiveDataFromClient) : I2cBounded.Keeps c (i2cReceive s r) := by
  unfold i2cReceive
  split
  · have hcount := h.reading (by simp [I2cObject.reading, hstate])
    obtain ⟨rd, hdata, hadv, hcovers⟩ := h.read.advance hcount
    rw [hdata]
    refine ⟨{ c with read := rd }, ?_, h.write, hcovers, h.mode, ?_, ?_⟩
    · simp [I2cCursors.use, hadv]
    · simp only
      split <;> exact fun hc => I2cHostState.noConfusion hc
    · -- there is more to come exactly where the driver goes on reading
      by_cases hmore : s.obj.readDataCount - 1 > 0
      · exact fun _ => hmore
      · simp only [if_neg hmore]
        exact fun hc => Bool.noConfusion hc
  · exact bounded_quiet h rfl

theorem process_bounded {c : I2cCursors} {s : I2c} (h : I2cBounded c s) (r : I2cRegs) :
    I2cBounded.Keeps c (i2c1HostDataProcess s r) := by
  unfold i2c1HostDataProcess
  cases hstate : s.obj.state with
  | idle => exact begin_bounded h
  | start => exact begin_bounded h
  | send7BitAddress =>
    refine bounded_quiet ⟨h.write, h.read, h.mode, ?_, ?_⟩ rfl
    · unfold I2c.setState I2cObject.afterAddress
      cases s.obj.isWriteMode <;> simp
    · unfold I2c.setState I2cObject.afterAddress
      cases hmode : s.obj.isWriteMode with
      | true => simp [I2cObject.reading]
      | false => exact fun _ => h.reading (by simp [I2cObject.reading, hstate, hmode])
  | send10BitHigherAddress =>
    simp only
    split
    · exact bounded_quiet h rfl
    · refine bounded_quiet ⟨h.write, h.read, h.mode, ?_, ?_⟩ rfl
      · unfold I2c.setState
        cases s.obj.isWriteMode <;> simp
      · unfold I2c.setState
        cases hmode : s.obj.isWriteMode with
        | true => simp [I2cObject.reading]
        | false => exact fun _ => h.reading (by simp [I2cObject.reading, hstate, hmode])
  | send10BitLowerAddress =>
    simp only
    split
    · exact nack_bounded h
    · unfold I2cObject.afterAddress
      rw [h.lower hstate]
      exact bounded_quiet ⟨h.write, h.read, h.mode, fun hc => I2cHostState.noConfusion hc,
        fun hc => Bool.noConfusion hc⟩ rfl
  | sendDataToClient =>
    simp only
    split
    · exact nack_bounded h
    · exact sendData_bounded h r hstate
  | checkAddressAckNackStatus =>
    simp only
    split
    · exact nack_bounded h
    · have hcount := h.reading (by simp [I2cObject.reading, hstate])
      exact bounded_quiet ⟨h.write, h.read, h.mode, fun hc => I2cHostState.noConfusion hc,
        fun _ => hcount⟩ rfl
  | receiveDataFromClient => exact receive_bounded h r hstate
  | receiveWaitAckNackComplete =>
    have hcount := h.reading (by simp [I2cObject.reading, hstate])
    exact bounded_quiet ⟨h.write, h.read, h.mode, fun hc => I2cHostState.noConfusion hc,
      fun _ => hcount⟩ rfl
  | stop =>
    refine bounded_quiet ⟨h.write, h.read, h.mode, fun hc => I2cHostState.noConfusion hc,
      fun hc => Bool.noConfusion hc⟩ ?_
    rw [List.all_append, callHandler_quiet]
    split <;> rfl

theorem interrupt_bounded {c : I2cCursors} {s : I2c} (h : I2cBounded c s) (r : I2cRegs) :
    I2cBounded.Keeps c (i2c1Interrupt s r) := by
  unfold i2c1Interrupt
  split
  · exact bounded_quiet ⟨.inl rfl, .inl rfl, fun _ => rfl, nofun, nofun⟩
      ((Bool.true_and _).trans (callHandler_quiet s))
  · split
    · exact bounded_quiet ⟨.inl rfl, .inl rfl, fun _ => rfl, nofun, nofun⟩ rfl
    · exact process_bounded h r

/-- What a request does besides, it does to registers. -/
theorem request_quiet (s : I2c) (r : I2cRegs) (req : I2cRequest) :
    (i2cRequest s r req).2.2.all I2cOut.quiet = true := by
  have h1 : (i2c1WriteCollisionStatusClear r).all I2cOut.quiet = true := by
    unfold i2c1WriteCollisionStatusClear
    split <;> rfl
  have h2 : (i2c1RecevieOverFlowStatusClear r).all I2cOut.quiet = true := by
    unfold i2c1RecevieOverFlowStatusClear
    split <;> rfl
  have h3 : (i2c1BusCollisionStatusClear r).all I2cOut.quiet = true := by
    unfold i2c1BusCollisionStatusClear
    split <;> rfl
  cases req with
  | write address data n =>
    simp only [i2cRequest, i2c1Write]
    split
    · rw [List.all_append, List.all_append, h1, h3]
      rfl
    · rfl
  | read address data n =>
    simp only [i2cRequest, i2c1Read]
    split
    · rw [List.all_append, List.all_append, List.all_append, h1, h2, h3]
      rfl
    · rfl
  | writeRead address writeData m readData n =>
    simp only [i2cRequest, i2c1WriteRead]
    split
    · rw [List.all_append, h1]
      rfl
    · rfl

theorem covers_of_bufferOk {data : Option Nat} {n : UInt32} (h : bufferOk data n = true) :
    I2cCursor.Covers ⟨data.getD 0, n.toNat⟩ data n := by
  obtain ⟨a, rfl⟩ := Option.isSome_iff_exists.mp ((bufferOk_iff data n).mp h).1
  exact .inr ⟨rfl, rfl⟩

theorem fillIn_bounded (s : I2c) (req : I2cRequest) (hidle : s.obj.state = .idle)
    (hbuf : req.buffersOk = true) :
    I2cBounded req.cursors { s with obj := req.fillIn s.obj } := by
  have hstate : (req.fillIn s.obj).state = .idle := (fillIn_frame s.obj req).1.trans hidle
  have hlower : (req.fillIn s.obj).state = .send10BitLowerAddress →
      (req.fillIn s.obj).isWriteMode = true := fun hc => I2cHostState.noConfusion (hstate.symm.trans hc)
  have hreading : (req.fillIn s.obj).reading = true → 0 < (req.fillIn s.obj).readDataCount := by
    simp [I2cObject.reading, hstate]
  cases req with
  | write address data n =>
    have hmode := (addressConfiguration_frame s.obj address true).2.2
    exact ⟨covers_of_bufferOk hbuf, .inl rfl, fun hc => Bool.noConfusion (hmode.symm.trans hc),
      hlower, hreading⟩
  | read address data n =>
    exact ⟨.inl rfl, covers_of_bufferOk hbuf, fun _ => rfl, hlower, hreading⟩
  | writeRead address writeData m readData n =>
    obtain ⟨hw, hr⟩ := Bool.and_eq_true_iff.mp hbuf
    have hmode := (addressConfiguration_frame s.obj address true).2.2
    exact ⟨covers_of_bufferOk hw, covers_of_bufferOk hr,
      fun hc => Bool.noConfusion (hmode.symm.trans hc), hlower, hreading⟩

/-- **One event.** -/
theorem i2cStep_bounded (c : I2cCursors) (s : I2c) (e : I2cEvent) (h : I2cBounded c s) :
    ∃ c', (i2cStep s e).2.foldlM I2cCursors.use c = some c' ∧ I2cBounded c' (i2cStep s e).1 := by
  cases e with
  | init => exact ⟨c, rfl, h.write, h.read, h.mode, nofun, nofun⟩
  | errorGet => exact ⟨c, rfl, h.write, h.read, h.mode, h.lower, h.reading⟩
  | interrupt r => exact interrupt_bounded h r
  | request r req =>
    have hquiet := request_quiet s r req
    rcases i2cRequest_cases s r req with ⟨hok, ⟨hidle, -⟩, hbuf, hnew⟩ | ⟨hno, hsame⟩
    · refine ⟨req.cursors, ?_, ?_⟩
      · simp only [i2cStep, hok, if_true, List.singleton_append, List.foldlM_cons]
        exact use_quiet req.cursors _ hquiet
      · simp only [i2cStep, hnew]
        exact fillIn_bounded s req hidle hbuf
    · refine ⟨c, ?_, ?_⟩
      · simp only [i2cStep, hno, Bool.false_eq_true, if_false, List.nil_append]
        exact use_quiet c _ hquiet
      · simp only [i2cStep, hsame]
        exact h

/-! ## Runs -/

/-- The driver as `SYSTEM_Initialize` leaves it. -/
def I2c.start (mem : Nat → UInt8) : I2c := i2c1Initialize ⟨I2cObject.zero, false, mem⟩

/-- **Buffers.**  In every run, whatever the registers say at each interrupt, the driver loads the
bytes of the last accepted write buffer and stores into the last accepted read buffer, in their
order and never beyond their ends. -/
theorem i2c_buffers (mem : Nat → UInt8) (es : List I2cEvent) :
    ((emits i2cStep (I2c.start mem) es).foldlM I2cCursors.use I2cCursors.none).isSome = true := by
  obtain ⟨c, hc, -⟩ := exec_emits_inv i2cStep
    (fun s l => ∃ c, l.foldlM I2cCursors.use I2cCursors.none = some c ∧ I2cBounded c s)
    (fun s l e ⟨c, hc, hs⟩ => by
      obtain ⟨c', hc', hs'⟩ := i2cStep_bounded c s e hs
      refine ⟨c', ?_, hs'⟩
      rw [List.foldlM_append, hc]
      exact hc')
    es (I2c.start mem) [] ⟨.none, rfl, .inl rfl, .inl rfl, fun _ => rfl, nofun, nofun⟩
  exact Option.isSome_iff_exists.mpr ⟨c, hc⟩

end CuriosityT1S
