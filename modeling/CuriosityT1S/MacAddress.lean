import CuriosityT1S.I2cTransfer
import CuriosityT1S.Instances

/-!
# The MAC address of the board (tc6-stub.c)

`GetMacAddress` reads six bytes from an EEPROM and waits until the I2C driver is free again.  If
the driver has noted an error, the board takes `FALLBACK_MAC`.

    getMacAddress_mac:  the wait ends, and which address the board takes, by how the transfer ended
-/

namespace CuriosityT1S

open Mealy I2cBus ByteMemory

def macEepromI2cSlaveAddr : UInt16 := 0x58

def macEepromEuiRegAddr : UInt8 := 0x9A

/-- What happens on the bus before a call of `T1S_I2C_IsBusy`, and the bit `S` that it reads. -/
structure I2cPoll where
  replies : List (Reply I2cCollision)
  startBit : Bool

/-- The hardware keeps the enable bit of the operation it works on set; for a byte it is `TRSTAT`. -/
def I2cLoop.isBusy (l : I2cLoop) (startBit : Bool) : Bool :=
  i2c1IsBusy l.dev (l.pending.any fun op => !op.isTx) startBit (l.pending.any Op.isTx)

/-- The `do`-`while` loop.  `none` if it has not ended. -/
def waitWhileBusy : I2cLoop → List I2cPoll → Option (I2cLoop × List I2cLoopOut)
  | _, [] => none
  | l, poll :: polls =>
    let l' := exec i2cLoopStep l poll.replies
    let outs := emits i2cLoopStep l poll.replies
    if l'.isBusy poll.startBit then
      match waitWhileBusy l' polls with
      | none => none
      | some (l'', outs') => some (l'', outs ++ outs')
    else some (l', outs)

/-- `regAt` is where the local `MAC_EEPROM_EUI_REG_ADDR` is. -/
def macRequest (regAt macAt : Nat) : I2cRequest :=
  .writeRead macEepromI2cSlaveAddr (some regAt) 1 (some macAt) 6

/-- `macAt` is where `ps->mac` is, `r'` the registers at the interrupt that the request raises. -/
def getMacAddress (s : I2c) (regAt macAt : Nat) (r r' : I2cRegs) (polls : List I2cPoll) :
    Option (I2c × Bool × List I2cLoopOut) :=
  let s := { s with mem := Function.update s.mem regAt macEepromEuiRegAddr }
  if (i2cRequest s r (macRequest regAt macAt)).2.1 then
    match waitWhileBusy (i2cStarted s r r' (macRequest regAt macAt)) polls with
    | none => none
    | some (l, outs) =>
      let (dev, err) := i2c1ErrorGet l.dev
      some (dev, err = .none, outs)
  else some (s, false, [])

/-- `ps->mac`. -/
def macBytes (mem : Nat → UInt8) (macAt : Nat) : Vector UInt8 6 :=
  ⟨(bytesAt mem macAt 6).toArray, rfl⟩

/-- What is to be seen on the bus. -/
def macScript : List Op :=
  [.start, .tx 0xB0, .tx 0x9A, .restart, .tx 0xB1, .rx, .ack true, .rx, .ack true, .rx, .ack true,
    .rx, .ack true, .rx, .ack true, .rx, .ack false, .stop]

/-! ## The wait -/

theorem idle_exec (l : I2cLoop) (h : l.pending = none) (rs : List (Reply I2cCollision)) :
    exec i2cLoopStep l rs = l ∧ emits i2cLoopStep l rs = [] := by
  have hstep : ∀ r, i2cLoopStep l r = (l, []) := by
    intro r
    unfold i2cLoopStep
    rw [h]
  induction rs with
  | nil => exact ⟨rfl, rfl⟩
  | cons r rs ih =>
    rw [exec_cons, emits_cons, hstep]
    exact ih

/-- The driver is free: nothing is under way any more. -/
theorem isBusy_false {l : I2cLoop} {startBit : Bool} (h : l.isBusy startBit = false) :
    l.pending = none := by
  unfold I2cLoop.isBusy i2c1IsBusy at h
  cases hp : l.pending with
  | none => rfl
  | some op =>
    rw [hp] at h
    cases hop : op.isTx <;> simp [hop] at h

theorem isBusy_idle {l : I2cLoop} (hp : l.pending = none) (hs : l.dev.obj.state = .idle) :
    l.isBusy false = false := by
  unfold I2cLoop.isBusy i2c1IsBusy
  rw [hp, hs]
  rfl

/-- The wait is a run of the loop, and ends when nothing is under way. -/
theorem waitWhileBusy_run {l l' : I2cLoop} {polls : List I2cPoll} {outs : List I2cLoopOut}
    (h : waitWhileBusy l polls = some (l', outs)) :
    ∃ replies, l' = exec i2cLoopStep l replies ∧ outs = emits i2cLoopStep l replies ∧
      l'.pending = none := by
  induction polls generalizing l l' outs with
  | nil => cases h
  | cons poll polls ih =>
    simp only [waitWhileBusy] at h
    split at h
    · split at h
      · cases h
      · next l2 outs2 hrest =>
        obtain ⟨replies, hl, houts, hp⟩ := ih hrest
        cases h
        refine ⟨poll.replies ++ replies, ?_, ?_, hp⟩
        · rw [exec_append]
          exact hl
        · rw [emits_append, ← houts]
    · next hfree =>
      cases h
      exact ⟨poll.replies, rfl, rfl, isBusy_false (by simpa using hfree)⟩

/-- It ends at a poll at which the transfer is over and the bus stopped, if not before. -/
theorem waitWhileBusy_ends (polls : List I2cPoll) : ∀ l : I2cLoop,
    (∃ pre poll post, polls = pre ++ poll :: post ∧ poll.startBit = false ∧
      (exec i2cLoopStep l ((pre ++ [poll]).flatMap I2cPoll.replies)).pending = none ∧
      (exec i2cLoopStep l ((pre ++ [poll]).flatMap I2cPoll.replies)).dev.obj.state = .idle) →
    (waitWhileBusy l polls).isSome = true := by
  induction polls with
  | nil =>
    rintro l ⟨pre, poll, post, hnil, -⟩
    simp at hnil
  | cons p polls ih =>
    rintro l ⟨pre, poll, post, hsplit, hstart, hp, hs⟩
    simp only [waitWhileBusy]
    cases hbusy : (exec i2cLoopStep l p.replies).isBusy p.startBit with
    | false => rfl
    | true =>
      cases pre with
      | nil =>
        obtain ⟨rfl, rfl⟩ := List.cons.inj hsplit
        simp only [List.nil_append, List.flatMap_cons, List.flatMap_nil, List.append_nil] at hp hs
        rw [hstart, isBusy_idle hp hs] at hbusy
        cases hbusy
      | cons q pre =>
        obtain ⟨rfl, rfl⟩ := List.cons.inj hsplit
        rw [List.cons_append, List.flatMap_cons, exec_append] at hp hs
        have hrest := ih _ ⟨pre, poll, post, rfl, hstart, hp, hs⟩
        obtain ⟨⟨l2, outs2⟩, hl2⟩ := Option.isSome_iff_exists.mp hrest
        simp only [if_true, hl2]
        rfl

/-! ## The address -/

theorem macRequest_accepted (s : I2c) (r : I2cRegs) (regAt macAt : Nat)
    (hidle : s.obj.state = .idle) : (i2cRequest s r (macRequest regAt macAt)).2.1 = true := by
  have hacc : s.obj.accepts macEepromI2cSlaveAddr = true :=
    (accepts_iff _ _).mpr ⟨hidle, by decide⟩
  show (i2c1WriteRead s r macEepromI2cSlaveAddr (some regAt) 1 (some macAt) 6).2.1 = true
  unfold i2c1WriteRead
  rw [hacc]
  rfl

theorem macRequest_script (mem : Nat → UInt8) (regAt macAt : Nat) :
    (macRequest regAt macAt).script (Function.update mem regAt macEepromEuiRegAddr) = macScript := by
  have hbyte : bytesAt (Function.update mem regAt macEepromEuiRegAddr) regAt 1 = [0x9A] :=
    congrArg (· :: []) (Function.update_self ..)
  show Op.start :: (addressForWrite macEepromI2cSlaveAddr ++ bytesAt _ regAt 1).map .tx ++ _ = _
  rw [hbyte]
  rfl

/-- The address that the board takes after the transfer `log`: `old` is what was in `ps->mac`. -/
def macTaken (log : List (Sym I2cCollision)) (old : List UInt8) : List UInt8 :=
  match ending log with
  | .complete => received log
  | .refused | .aborted .bus => fallbackMac.toList
  -- a write collision is not noted as an error
  | .aborted .write =>
    if log.any (fun x => (symError x).isSome) then fallbackMac.toList
    else received log ++ old.drop (received log).length

/-- The whole run of the wait, filled up with answers that nothing asks for. -/
theorem wait_transfer (s : I2c) (r r' : I2cRegs) (req : I2cRequest) (polls : List I2cPoll)
    (hclean : s.obj.error = .none) (hacc : (i2cRequest s r req).2.1 = true) (hbcl : r'.bcl = false)
    (hiwcol : r'.iwcol = false) {l : I2cLoop} {outs : List I2cLoopOut}
    (h : waitWhileBusy (i2cStarted s r r' req) polls = some (l, outs)) :
    l.dev.obj.state = .idle ∧ Performs (req.script s.mem) (busLog outs) (ending (busLog outs)) ∧
      I2cBooks s.mem req.target s.hostHandler l outs := by
  obtain ⟨replies, rfl, rfl, hp⟩ := waitWhileBusy_run h
  have hbooks := transfer_books s r r' req replies hclean hacc hbcl hiwcol
  obtain ⟨hexec, hemits⟩ := idle_exec _ hp
    (List.replicate ((req.script s.mem).length + 1) (.abort .bus))
  obtain ⟨-, hstate, hperforms⟩ := transfer_log s r r' req
    (replies ++ List.replicate ((req.script s.mem).length + 1) (.abort .bus)) hclean hacc hbcl hiwcol
    (by simp)
  rw [exec_append, hexec] at hstate
  rw [emits_append, hemits, List.append_nil] at hperforms
  exact ⟨hstate, hperforms, hbooks⟩

/-- The address taken, by the log: the driver's error decides, the bytes received are in place. -/
theorem macTaken_eq {ops : List Op} {log : List (Sym I2cCollision)} (mem : Nat → UInt8)
    (macAt : Nat) (hops : ops.count .rx = 6) (h : Performs ops log (ending log)) :
    ((if errorOf log = .none then some (macBytes (storeBytes mem macAt (received log)) macAt)
      else none).getD fallbackMac).toList = macTaken log (bytesAt mem macAt 6) := by
  obtain ⟨hle, hfull⟩ := h.received_length
  rw [hops] at hle hfull
  have hbytes : (macBytes (storeBytes mem macAt (received log)) macAt).toList =
      received log ++ (bytesAt mem macAt 6).drop (received log).length :=
    bytesAt_storeBytes (received log) mem macAt 6 hle
  rw [performs_error h]
  unfold errorAt macTaken
  cases hend : ending log with
  | complete =>
    rw [if_pos rfl, Option.getD_some, hbytes, hfull hend, List.drop_of_length_le (by simp [bytesAt]),
      List.append_nil]
  | refused => rfl
  | aborted cause =>
    cases cause with
    | bus => rfl
    | write =>
      simp only
      split
      · rfl
      · rw [if_pos rfl, Option.getD_some, hbytes]

/-- **The board's address.**  Whatever the bus does, the wait ends once the transfer is over and the
bus stopped; the driver is free again, what was on the bus is the script of the EEPROM as far as it
went, and the address is the one that was read, the fallback after a refused byte or a bus
collision, and a mixture of the two buffers after a write collision. -/
theorem getMacAddress_mac (n : Nat) (idx : UInt8) (hidx : idx.toNat < n) (s : I2c)
    (regAt macAt : Nat) (hsep : regAt < macAt ∨ macAt + 6 ≤ regAt) (r r' : I2cRegs)
    (polls : List I2cPoll) (hidle : s.obj.state = .idle) (hclean : s.obj.error = .none)
    (hbcl : r'.bcl = false) (hiwcol : r'.iwcol = false) :
    (∀ s' ok outs, getMacAddress s regAt macAt r r' polls = some (s', ok, outs) →
      s'.obj.state = .idle ∧ s'.obj.error = .none ∧
        Performs macScript (busLog outs) (ending (busLog outs)) ∧
        ∃ mac, tc6StubInitMac n idx (if ok then some (macBytes s'.mem macAt) else none) = some mac ∧
          mac.toList = macTaken (busLog outs) (bytesAt s.mem macAt 6)) ∧
      ((∃ pre poll post, polls = pre ++ poll :: post ∧ poll.startBit = false ∧
          19 ≤ ((pre ++ [poll]).flatMap I2cPoll.replies).length) →
        (getMacAddress s regAt macAt r r' polls).isSome = true) := by
  have hclean' : ({ s with mem := Function.update s.mem regAt macEepromEuiRegAddr } : I2c).obj.error =
      .none := hclean
  have hacc := macRequest_accepted { s with mem := Function.update s.mem regAt macEepromEuiRegAddr }
    r regAt macAt hidle
  have hscript := macRequest_script s.mem regAt macAt
  constructor
  · intro s' ok outs h
    unfold getMacAddress at h
    simp only [hacc, if_true] at h
    split at h
    · cases h
    · next l outs' hwait =>
      cases h
      obtain ⟨hstate, hperforms, hbooks⟩ := wait_transfer _ r r' _ polls hclean' hacc hbcl hiwcol hwait
      rw [hscript] at hperforms
      refine ⟨hstate, rfl, hperforms, _, if_neg (Nat.not_le.mpr hidx), ?_⟩
      have herr : (i2c1ErrorGet l.dev).2 = errorOf (busLog outs) := hbooks.error
      have hmem : (i2c1ErrorGet l.dev).1.mem = storeBytes _ macAt (received (busLog outs)) :=
        hbooks.stored
      rw [herr, hmem, ← bytesAt_update s.mem macAt 6 regAt macEepromEuiRegAddr hsep,
        ← macTaken_eq _ macAt rfl hperforms]
      simp only [decide_eq_true_eq]
  · rintro ⟨pre, poll, post, hsplit, hstart, hlen⟩
    obtain ⟨hp, hs, -⟩ := transfer_log _ r r' _ ((pre ++ [poll]).flatMap I2cPoll.replies) hclean' hacc
      hbcl hiwcol (by rw [hscript]; exact hlen)
    have hends := waitWhileBusy_ends polls _ ⟨pre, poll, post, hsplit, hstart, hp, hs⟩
    obtain ⟨⟨l, outs⟩, hl⟩ := Option.isSome_iff_exists.mp hends
    unfold getMacAddress
    simp only [hacc, if_true, hl]
    rfl

/-- An EEPROM that answers with 7s, polled before the answers and after them. -/
theorem getMacAddress_mac_sevens :
    let s : I2c := ⟨I2cObject.zero, true, fun _ => 0⟩
    let r : I2cRegs := ⟨false, false, false, false, false, false, false, 0⟩
    let polls : List I2cPoll := [⟨[], false⟩, ⟨List.replicate 19 (.done true 7), false⟩]
    ∃ s' ok outs, getMacAddress s 100 200 r r polls = some (s', ok, outs) ∧
      s'.obj.state = .idle ∧ s'.obj.error = .none ∧
      Performs macScript (busLog outs) (ending (busLog outs)) ∧
      ∃ mac, tc6StubInitMac 1 0 (if ok then some (macBytes s'.mem 200) else none) = some mac ∧
        mac.toList = macTaken (busLog outs) (bytesAt s.mem 200 6) := by
  intro s r polls
  obtain ⟨hresult, hends⟩ := getMacAddress_mac 1 0 (by decide) s 100 200 (by decide) r r polls rfl rfl
    rfl rfl
  obtain ⟨⟨s', ok, outs⟩, h⟩ := Option.isSome_iff_exists.mp
    (hends ⟨[⟨[], false⟩], _, [], rfl, rfl, by decide⟩)
  exact ⟨s', ok, outs, h, hresult s' ok outs h⟩

end CuriosityT1S
