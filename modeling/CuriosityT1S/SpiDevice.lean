import CuriosityT1S.SpiRegisters

/-!
# What an SPI transaction with two buffers is for

The bytes of the transmit buffer go out in order.  When as many have come in, they are stored in the
receive buffer, and the completion handler is called.

    SpiDevice.after:       what may happen, and what is so then
    after_inFlight:        bytes to send and bytes received, together
    Short.none_completed:  after a byte is lost nothing is completed
-/

namespace CuriosityT1S

open ByteMemory

/-- A transaction in flight: what is left to send and what has been received. -/
structure SpiExchange where
  pTx : Nat
  pRx : Nat
  length : UInt16
  toSend : List UInt8
  received : List UInt8
deriving DecidableEq, Repr

/-- Memory as it was when the transaction in flight began, but for what others have written. -/
structure SpiDevice where
  mem : Nat → UInt8
  inFlight : Option SpiExchange

namespace SpiDevice

/-- `none` if this must not happen. -/
def after (d : SpiDevice) : SpiDmaOut → Option SpiDevice
  | .accepted q =>
    match d.inFlight, q.pTx, q.pRx with
    | none, some pTx, some pRx =>
      some { d with inFlight := some ⟨pTx, pRx, q.length, bytesAt d.mem pTx q.length.toNat, []⟩ }
    | _, _, _ => none
  | .wire sent received => do
    let x ← d.inFlight
    let x' := { x with toSend := x.toSend.tail, received := x.received ++ [received] }
    if x.toSend.head? = some sent then some { d with inFlight := some x' } else none
  | .lost => do
    let x ← d.inFlight
    if x.received = [] then none
    else some { d with inFlight := some { x with received := x.received.dropLast } }
  | .stored a v => some { d with mem := Function.update d.mem a v }
  | .completionHandler => do
    let x ← d.inFlight
    if x.toSend = [] ∧ x.received.length = x.length.toNat then
      some ⟨storeBytes d.mem x.pRx x.received, none⟩
    else none

theorem after_wire {d : SpiDevice} {x : SpiExchange} {t : UInt8} {ts : List UInt8}
    (hd : d.inFlight = some x) (hsend : x.toSend = t :: ts) (b : UInt8) :
    d.after (.wire t b) =
      some { d with inFlight := some { x with toSend := ts, received := x.received ++ [b] } } := by
  unfold after
  rw [hd]
  show (if x.toSend.head? = some t then _ else none) = _
  rw [hsend]
  exact if_pos rfl

theorem after_lost {d : SpiDevice} {x : SpiExchange} {bs : List UInt8} {b : UInt8}
    (hd : d.inFlight = some x) (hreceived : x.received = bs ++ [b]) :
    d.after .lost = some { d with inFlight := some { x with received := bs } } := by
  unfold after
  rw [hd]
  show (if x.received = [] then none
    else some { d with inFlight := some { x with received := x.received.dropLast } }) = _
  rw [hreceived, if_neg (List.append_ne_nil_of_right_ne_nil bs (List.cons_ne_nil b [])),
    List.dropLast_concat]

theorem after_completionHandler {d : SpiDevice} {x : SpiExchange} (hd : d.inFlight = some x)
    (hsend : x.toSend = []) (hall : x.received.length = x.length.toNat) :
    d.after .completionHandler = some ⟨storeBytes d.mem x.pRx x.received, none⟩ := by
  unfold after
  rw [hd]
  exact if_pos ⟨hsend, hall⟩

end SpiDevice

/-! ## Lost bytes -/

/-- Bytes that are still to be sent, or have been received. -/
def SpiExchange.accounted (x : SpiExchange) : Nat := x.toSend.length + x.received.length

namespace SpiDevice

/-- What the device can do with a transaction in flight. -/
theorem after_inFlight {d d' : SpiDevice} {x : SpiExchange} {o : SpiDmaOut}
    (hd : d.inFlight = some x) (h : d.after o = some d') :
    o = .completionHandler ∧ x.accounted = x.length.toNat ∧ d'.inFlight = none ∨
      o ≠ .completionHandler ∧ ∃ x', d'.inFlight = some x' ∧ x'.length = x.length ∧
        if o = .lost then x'.accounted + 1 = x.accounted else x'.accounted = x.accounted := by
  unfold after at h
  rw [hd] at h
  cases o with
  | accepted q => cases h
  | wire sent received =>
    replace h : (if x.toSend.head? = some sent then some (⟨d.mem, some
      { x with toSend := x.toSend.tail, received := x.received ++ [received] }⟩ : SpiDevice)
      else none) = some d' := h
    split at h
    · next hhead =>
      obtain ⟨ts, hts⟩ := List.head?_eq_some_iff.mp hhead
      obtain rfl := Option.some.inj h
      refine .inr ⟨SpiDmaOut.noConfusion, _, rfl, rfl, ?_⟩
      unfold SpiExchange.accounted
      simp [hts]
      omega
    · cases h
  | lost =>
    replace h : (if x.received = [] then none else some (⟨d.mem, some
      { x with received := x.received.dropLast }⟩ : SpiDevice)) = some d' := h
    split at h
    · cases h
    · next hne =>
      obtain rfl := Option.some.inj h
      refine .inr ⟨SpiDmaOut.noConfusion, _, rfl, rfl, ?_⟩
      have hpos := List.length_pos_iff.mpr hne
      unfold SpiExchange.accounted
      simp
      omega
  | stored a v =>
    obtain rfl := Option.some.inj h
    exact .inr ⟨SpiDmaOut.noConfusion, x, rfl, rfl, rfl⟩
  | completionHandler =>
    replace h : (if x.toSend = [] ∧ x.received.length = x.length.toNat then
      some (⟨storeBytes d.mem x.pRx x.received, none⟩ : SpiDevice) else none) = some d' := h
    split at h
    · next hall =>
      obtain rfl := Option.some.inj h
      refine .inl ⟨rfl, ?_, rfl⟩
      unfold SpiExchange.accounted
      rw [hall.1, hall.2]
      exact Nat.zero_add _
    · cases h

def Room (d : SpiDevice) : Prop := ∀ x, d.inFlight = some x → x.accounted ≤ x.length.toNat

theorem room_after {d d' : SpiDevice} {o : SpiDmaOut} (hd : d.Room) (h : d.after o = some d') :
    d'.Room := by
  intro x' hx'
  cases hx : d.inFlight with
  | some x =>
    have hle := hd x hx
    rcases after_inFlight hx h with ⟨-, -, hnone⟩ | ⟨-, y, hy, hlen, hif⟩
    · rw [hnone] at hx'
      cases hx'
    · obtain rfl : y = x' := Option.some.inj (hy.symm.trans hx')
      rw [hlen]
      split at hif <;> omega
  | none =>
    unfold after at h
    rw [hx] at h
    cases o with
    | accepted q =>
      obtain ⟨pTx, pRx, length⟩ := q
      cases pTx with
      | none => cases h
      | some pTx =>
        cases pRx with
        | none => cases h
        | some pRx =>
          obtain rfl := Option.some.inj h
          obtain rfl := Option.some.inj hx'
          unfold SpiExchange.accounted
          rw [bytesAt_length]
          exact Nat.le_refl _
    | stored a v =>
      obtain rfl := Option.some.inj h
      cases hx'
    | wire sent received => cases h
    | lost => cases h
    | completionHandler => cases h

theorem room_run {outs : List SpiDmaOut} : ∀ {d d' : SpiDevice}, d.Room →
    outs.foldlM after d = some d' → d'.Room := by
  induction outs with
  | nil =>
    rintro d d' hd h
    obtain rfl := Option.some.inj h
    exact hd
  | cons o outs ih =>
    rintro d d' hd h
    rw [List.foldlM_cons] at h
    obtain ⟨e, ho, h⟩ := Option.bind_eq_some_iff.mp h
    exact ih (room_after hd ho) h

/-- A byte of the transaction in flight is lost. -/
def Short (d : SpiDevice) : Prop := ∃ x, d.inFlight = some x ∧ x.accounted < x.length.toNat

theorem short_of_lost {d d' : SpiDevice} (hd : d.Room) (h : d.after .lost = some d') :
    d'.Short := by
  cases hx : d.inFlight with
  | none =>
    unfold after at h
    rw [hx] at h
    cases h
  | some x =>
    have hle := hd x hx
    rcases after_inFlight hx h with ⟨heq, -⟩ | ⟨-, x', hx', hlen, hif⟩
    · cases heq
    · rw [if_pos rfl] at hif
      exact ⟨x', hx', by rw [hlen]; omega⟩

/-- Then nothing is completed any more. -/
theorem Short.none_completed {outs : List SpiDmaOut} : ∀ {d d' : SpiDevice}, d.Short →
    outs.foldlM after d = some d' → d'.Short ∧ .completionHandler ∉ outs := by
  induction outs with
  | nil =>
    rintro d d' hd h
    obtain rfl := Option.some.inj h
    exact ⟨hd, List.not_mem_nil⟩
  | cons o outs ih =>
    rintro d d' ⟨x, hx, hlt⟩ h
    rw [List.foldlM_cons] at h
    obtain ⟨e, ho, h⟩ := Option.bind_eq_some_iff.mp h
    rcases after_inFlight hx ho with ⟨-, hall, -⟩ | ⟨hne, x', hx', hlen, hif⟩
    · exact absurd hall (Nat.ne_of_lt hlt)
    · have hshort : e.Short := by
        refine ⟨x', hx', ?_⟩
        rw [hlen]
        split at hif <;> omega
      obtain ⟨hd', hnot⟩ := ih hshort h
      exact ⟨hd', fun hc => (List.mem_cons.mp hc).elim (fun heq => hne heq.symm) hnot⟩

end SpiDevice

end CuriosityT1S
