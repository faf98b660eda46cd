import CuriosityT1S.Tc6Lwip

/-!
# What the driver hands over is the frame that just ended

`rxStep` runs the driver next to the bytes TC6 has delivered of the current
frame.  `Tc6Allowed` is what tc6.h says of TC6: slices come in order, each frame
from offset 0 (which also abandons an unfinished one), and the end of a frame
names the number of bytes delivered.  Between the callbacks anything else may
happen.

    RxInv:    unless the frame is marked invalid, the buffer starts with the bytes so far
    rx_sound: a frame handed over is the frame that just ended, to its one consumer
-/

namespace CuriosityT1S

open Mealy Splice

variable {κ : Type}

/-! ## What one callback does -/

/-- A slice either marks the frame invalid or is stored. -/
theorem slice_cases (tc : Tc6Lib) (pRx : List UInt8) (offset len : UInt16) (alloc : Option Pbuf) :
    (tc6CbOnRxEthernetSlice (κ := κ) tc pRx offset len alloc).1 = { tc with rxInvalid := true } ∨
    ∃ p, tc.rxInvalid = false ∧
      (tc.pbuf = some p ∨ tc.pbuf = none ∧ alloc = some p ∧ p.chained = false) ∧
      (tc6CbOnRxEthernetSlice (κ := κ) tc pRx offset len alloc).1 =
        storeSlice tc p pRx offset len := by
  obtain ⟨pbuf, rxLen, rxInvalid, ns, rc⟩ := tc
  unfold tc6CbOnRxEthernetSlice
  cases rxInvalid with
  | true => exact Or.inl rfl
  | false =>
    simp only [Bool.false_eq_true, if_false]
    split
    · exact Or.inl rfl
    · cases pbuf with
      | some p => exact Or.inr ⟨p, trivial, Or.inl rfl, rfl⟩
      | none =>
        cases alloc with
        | none => exact Or.inl rfl
        | some p =>
          simp only
          by_cases hc : p.chained = true
          · rw [if_pos hc]; exact Or.inl rfl
          · rw [if_neg hc]
            exact Or.inr ⟨p, trivial, Or.inr ⟨trivial, rfl, by simpa using hc⟩, rfl⟩

/-- A slice that fits, with a buffer at hand, is stored. -/
theorem slice_stores (tc : Tc6Lib) (pRx : List UInt8) (offset len : UInt16) (p : Pbuf)
    (hinv : tc.rxInvalid = false) (hfit : offset.toNat + len.toNat ≤ 1518)
    (hc : p.chained = false) :
    (tc6CbOnRxEthernetSlice (κ := κ) tc pRx offset len (some p)).1 =
      storeSlice tc (tc.pbuf.getD p) pRx offset len := by
  unfold tc6CbOnRxEthernetSlice
  rw [if_neg (by simp [hinv]), if_neg (by unfold tc6LwipMtu etharpFcsLen; omega)]
  cases tc.pbuf with
  | some p' => rfl
  | none => simp [hc]

/-- A slice hands nothing over. -/
@[simp] theorem handoffs_slice (tc : Tc6Lib) (pRx : List UInt8) (offset len : UInt16)
    (alloc : Option Pbuf) :
    handoffs (tc6CbOnRxEthernetSlice (κ := κ) tc pRx offset len alloc).2 = [] := by
  unfold tc6CbOnRxEthernetSlice
  split
  · rfl
  · split
    · rfl
    · cases tc.pbuf with
      | some p => rfl
      | none =>
        cases alloc with
        | none => rfl
        | some p =>
          simp only
          split <;> rfl

@[simp] theorem handoffs_error (tc : Tc6Lib) (err : Tc6Error) :
    handoffs (tc6CbOnError (κ := κ) tc err).2 = [] := by
  unfold tc6CbOnError
  split <;> rfl

@[simp] theorem handoffs_event (tc : Tc6Lib) (ev : Tc6RegsEvent) :
    handoffs (tc6RegsCbOnEvent (κ := κ) tc ev).2 = [] := by
  unfold tc6RegsCbOnEvent
  simp only
  split <;> rfl

/-- A pbuf as `pbuf_alloc(PBUF_RAW, TC6LwIP_MTU, PBUF_RAM)` makes it. -/
def Pbuf.Whole (p : Pbuf) : Prop := p.totLen = 1518 ∧ p.len = 1518

theorem Pbuf.Whole.realloc_len [PbufRealloc] {p : Pbuf} (h : p.Whole) (len : UInt16)
    (hlen : len.toNat ≤ 1518) : (pbufRealloc p len).len = len := by
  by_cases hfull : len = 1518
  · have hle : p.totLen ≤ len := UInt16.le_of_eq (h.1.trans hfull.symm)
    have hsame : pbufRealloc p len = p := PbufRealloc.keeps p len hle
    rw [hsame, h.2, hfull]
  · have hlt : len < p.totLen := by
      rw [h.1, UInt16.lt_iff_toNat_lt]
      have hne : len.toNat ≠ 1518 := fun hc => hfull (UInt16.toNat_inj.mp hc)
      show len.toNat < 1518
      omega
    exact PbufRealloc.shrinks p len hlt (h.2.trans h.1.symm)

/-- `deliver` hands the frame to the consumer of the buffer's first bytes, if there is one. -/
theorem handoffs_deliver [PbufRealloc] (cbs : List (RawRxEntry κ)) (p : Pbuf) (len : UInt16)
    (r : ErrT) (hp : p.Whole) (hlen : len.toNat ≤ 1518) :
    handoffs (deliver cbs p len r).2 =
      (consumerOf cbs p.payload).toList.map fun c => ⟨c, p.payload, len⟩ := by
  rw [consumerOf_eq]
  unfold deliver
  simp only [pbufRealloc_payload, htons_ethHdrType]
  cases findRawRx cbs (etherType p.payload) with
  | some cb => simp [handoffs, Call.handoff]
  | none =>
    cases filterRxEthernetPacket (etherType p.payload) with
    | true => simp [handoffs, Call.handoff, hp.realloc_len len hlen]
    | false => rfl

/-- The end of a frame: delivered if the PHY is ready and the checks pass. -/
theorem handoffs_packet [PbufRealloc] (cbs : List (RawRxEntry κ)) (tc : Tc6Lib) (success : Bool)
    (len : UInt16) (r : ErrT) :
    handoffs (tc6CbOnRxEthernetPacket cbs tc success len r).2 =
      match tc.pbuf with
      | some p => if tc.resetComplete && packetOk tc success len then
          handoffs (deliver cbs p len r).2 else []
      | none => [] := by
  unfold tc6CbOnRxEthernetPacket tc6CbResetComplete
  cases hr : tc.resetComplete with
  | false =>
    cases tc.pbuf <;> rfl
  | true =>
    cases tc.pbuf with
    | none => rfl
    | some p =>
      cases packetOk tc success len with
      | true => simp
      | false => simp

theorem packetOk_iff (tc : Tc6Lib) (success : Bool) (len : UInt16) :
    packetOk tc success len = true ↔
      success = true ∧ tc.rxInvalid = false ∧ tc.rxLen ≠ 0 ∧ tc.rxLen = len ∧ 42 ≤ len.toNat := by
  unfold packetOk minHeaderLen
  simp [UInt16.lt_iff_toNat_lt, and_assoc]

/-! ## The discipline of TC6 -/

/-- `pbuf_alloc` gives a whole buffer or a chain, or nothing. -/
def PbufAllocOk (alloc : Option Pbuf) : Prop := ∀ p, alloc = some p → p.chained = false → p.Whole

/-- Every buffer the heap gives is in order. -/
def HeapAllowed (_ : Driver κ) : DriverEvent κ → Prop
  | .slice _ _ _ alloc => PbufAllocOk alloc
  | _ => True

/-- The driver holds no buffer or a whole one. -/
def Driver.Whole (d : Driver κ) : Prop := ∀ p, d.tc.pbuf = some p → p.Whole

theorem whole_slice (tc : Tc6Lib) (pRx : List UInt8) (offset len : UInt16) (alloc : Option Pbuf)
    (h : ∀ p, tc.pbuf = some p → p.Whole) (ha : PbufAllocOk alloc) :
    ∀ p, (tc6CbOnRxEthernetSlice (κ := κ) tc pRx offset len alloc).1.pbuf = some p → p.Whole := by
  intro p hp
  rcases slice_cases (κ := κ) tc pRx offset len alloc with hs | ⟨q, -, hq, hs⟩
  · exact h p (by simpa [hs] using hp)
  · have hwhole : q.Whole := by
      rcases hq with hq | ⟨-, hq, hc⟩
      · exact h q hq
      · exact ha q hq hc
    simp only [hs, storeSlice, Option.some.injEq] at hp
    rw [← hp]
    exact hwhole

theorem whole_step [PbufRealloc] (d : Driver κ) (e : DriverEvent κ) (h : d.Whole)
    (ha : HeapAllowed d e) :
    (driverStep d e).1.Whole := by
  cases e with
  | slice pRx offset len alloc => exact whole_slice d.tc pRx offset len alloc h ha
  | packet success len r =>
    intro p hp
    simp only [driverStep, tc6CbOnRxEthernetPacket] at hp
    split at hp
    · cases hp
    · exact h p hp
  | needService => exact h
  | error err =>
    simp only [driverStep, tc6CbOnError]
    split <;> exact h
  | event ev =>
    simp only [driverStep, tc6RegsCbOnEvent]
    split <;> split <;> exact h
  | initDone =>
    unfold Driver.Whole
    rw [driverStep_initDone_tc]
    exact h
  | registerRawRx etherType callback =>
    unfold Driver.Whole
    rw [driverStep_registerRawRx_tc]
    exact h

/-- What TC6 may call, `s.2` being the bytes delivered of the current frame. -/
def Tc6Allowed (s : Driver κ × List UInt8) : DriverEvent κ → Prop
  | .slice pRx offset len alloc =>
    len.toNat = pRx.length ∧ (offset.toNat = 0 ∨ offset.toNat = s.2.length) ∧
      offset.toNat + pRx.length ≤ 1518 ∧ PbufAllocOk alloc
  | .packet _ len _ => len.toNat = s.2.length
  | _ => True

theorem Tc6Allowed.heap {s : Driver κ × List UInt8} {e : DriverEvent κ} (h : Tc6Allowed s e) :
    HeapAllowed s.1 e := by
  cases e with
  | slice pRx offset len alloc => exact h.2.2.2
  | _ => trivial

/-- The bytes of the current frame after a callback. -/
def frameStep (cur : List UInt8) : DriverEvent κ → List UInt8
  | .slice pRx offset _ _ => cur.take offset.toNat ++ pRx
  | .packet _ _ _ => []
  | _ => cur

def rxStep [PbufRealloc] (s : Driver κ × List UInt8) (e : DriverEvent κ) :
    (Driver κ × List UInt8) × List (Call κ) :=
  (((driverStep s.1 e).1, frameStep s.2 e), (driverStep s.1 e).2)

/-! ## The invariant -/

/-- The buffer starts with `cur`. -/
def Tc6Lib.Buffered (tc : Tc6Lib) (cur : List UInt8) : Prop :=
  cur = [] ∨ ∃ p, tc.pbuf = some p ∧ Filled p.payload cur

/-- The held buffer is whole, and starts with the bytes of the current frame unless the frame
is marked invalid. -/
structure RxInv (s : Driver κ × List UInt8) : Prop where
  whole : s.1.Whole
  filled : s.1.tc.rxInvalid = true ∨ s.1.tc.Buffered s.2
  short : s.2.length ≤ 1518

theorem rxInv_zero : RxInv ((Driver.zero, []) : Driver κ × List UInt8) :=
  ⟨fun _ h => (by cases h), Or.inr (Or.inl rfl), Nat.zero_le _⟩

/-- Storing a slice behind the bytes so far, or at 0, fills the buffer with both.  A new buffer
holds nothing yet, but then neither has the frame any bytes. -/
theorem buffered_storeSlice (tc : Tc6Lib) (p : Pbuf) (cur pRx : List UInt8) (offset len : UInt16)
    (hp : tc.pbuf = some p ∨ tc.pbuf = none) (hlen : len.toNat = pRx.length)
    (hoff : offset.toNat ≤ cur.length) (h : tc.Buffered cur) :
    (storeSlice tc p pRx offset len).Buffered (cur.take offset.toNat ++ pRx) := by
  have hf : Filled p.payload cur := by
    rcases h with rfl | ⟨q, hq, hf⟩
    · exact filled_nil _
    · rcases hp with hp | hp
      · obtain rfl : q = p := Option.some.inj (hq.symm.trans hp)
        exact hf
      · rw [hp] at hq; cases hq
  refine Or.inr ⟨_, rfl, ?_⟩
  rw [hlen, List.take_length]
  exact hf.splice pRx offset.toNat hoff

theorem rxInv_slice [PbufRealloc] (d : Driver κ) (cur pRx : List UInt8) (offset len : UInt16)
    (alloc : Option Pbuf) (h : RxInv (d, cur))
    (ha : Tc6Allowed (d, cur) (.slice pRx offset len alloc)) :
    RxInv (rxStep (d, cur) (.slice pRx offset len alloc)).1 := by
  have hw := whole_step d (.slice pRx offset len alloc) h.whole ha.heap
  obtain ⟨hlen, hoff, hfit, -⟩ := ha
  have hshort : (cur.take offset.toNat ++ pRx).length ≤ 1518 := by
    rw [List.length_append, List.length_take]; omega
  refine ⟨hw, ?_, hshort⟩
  simp only [rxStep, driverStep, frameStep]
  rcases slice_cases (κ := κ) d.tc pRx offset len alloc with hs | ⟨p, hinv, hp, hs⟩
  · rw [hs]; exact Or.inl rfl
  · rw [hs]
    right
    rcases h.filled with hi | hb
    · simp only [hinv] at hi; cases hi
    · have hle : offset.toNat ≤ cur.length := by
        rcases hoff with ho | ho
        · omega
        · exact Nat.le_of_eq ho
      exact buffered_storeSlice d.tc p cur pRx offset len (hp.imp_right And.left) hlen hle hb

/-- What one permitted callback preserves. -/
theorem rxInv_step [PbufRealloc] (s : Driver κ × List UInt8) (e : DriverEvent κ) (h : RxInv s)
    (ha : Tc6Allowed s e) : RxInv (rxStep s e).1 := by
  obtain ⟨d, cur⟩ := s
  have hw := whole_step d e h.whole ha.heap
  cases e with
  | slice pRx offset len alloc => exact rxInv_slice d cur pRx offset len alloc h ha
  | packet success len r => exact ⟨hw, Or.inr (Or.inl rfl), Nat.zero_le _⟩
  | needService => exact ⟨hw, h.filled, h.short⟩
  | error err =>
    refine ⟨hw, ?_, h.short⟩
    simp only [rxStep, driverStep, tc6CbOnError, frameStep]
    split <;> exact h.filled
  | event ev =>
    refine ⟨hw, ?_, h.short⟩
    simp only [rxStep, driverStep, tc6RegsCbOnEvent, frameStep]
    split <;> split <;> exact h.filled
  | initDone =>
    refine ⟨hw, ?_, h.short⟩
    simp only [rxStep, driverStep, frameStep]
    split <;> exact h.filled
  | registerRawRx etherType callback =>
    refine ⟨hw, ?_, h.short⟩
    simp only [rxStep, driverStep, tc6LwipRegisterRawRxCallback, frameStep]
    split <;> exact h.filled

/-! ## Soundness -/

/-- Bytes 12 and 13 decide the consumer. -/
theorem consumerOf_filled (cbs : List (RawRxEntry κ)) (mem frame : List UInt8)
    (h : Filled mem frame) (hlen : 14 ≤ frame.length) :
    consumerOf cbs mem = consumerOf cbs frame := by
  have he : etherType mem = etherType frame := by
    unfold etherType
    rw [h.getD 12 (by omega), h.getD 13 (by omega)]
  unfold consumerOf
  rw [he]

/-- Only the end of a frame hands anything over. -/
theorem handoffs_driverStep [PbufRealloc] (d : Driver κ) (e : DriverEvent κ)
    (h : handoffs (driverStep d e).2 ≠ []) : ∃ success len r, e = .packet success len r := by
  cases e with
  | packet success len r => exact ⟨success, len, r, rfl⟩
  | slice pRx offset len alloc => exact absurd (handoffs_slice _ _ _ _ _) h
  | error err => exact absurd (handoffs_error _ _) h
  | event ev => exact absurd (handoffs_event _ _) h
  | needService => exact absurd rfl h
  | initDone => exact absurd rfl h
  | registerRawRx etherType callback => exact absurd rfl h

/-- A frame handed over in a state with the invariant. -/
theorem RxInv.handoffs_packet [PbufRealloc] {d : Driver κ} {cur : List UInt8} (h : RxInv (d, cur))
    (success : Bool) (len : UInt16) (r : ErrT) (hlen : len.toNat = cur.length) :
    handoffs (driverStep d (.packet success len r)).2 = [] ∨
      ∃ c mem, consumerOf d.rawRxCallbacks cur = some c ∧ mem.take cur.length = cur ∧
        handoffs (driverStep d (.packet success len r)).2 = [⟨c, mem, len⟩] := by
  have hstep : handoffs (driverStep d (.packet success len r)).2 =
      handoffs (tc6CbOnRxEthernetPacket d.rawRxCallbacks d.tc success len r).2 := rfl
  rw [hstep, CuriosityT1S.handoffs_packet]
  cases hp : d.tc.pbuf with
  | none => exact Or.inl rfl
  | some p =>
    simp only
    split
    · next hok =>
      rw [Bool.and_eq_true, packetOk_iff] at hok
      obtain ⟨-, -, hinv, -, -, h42⟩ := hok
      have hf : Filled p.payload cur := by
        rcases h.filled with hi | rfl | ⟨q, hq, hf⟩
        · simp only [hinv] at hi; cases hi
        · simp at hlen; omega
        · obtain rfl : q = p := Option.some.inj (hq.symm.trans hp)
          exact hf
      rw [handoffs_deliver _ p len r (h.whole p hp) (by have := h.short; simp only at this; omega),
        consumerOf_filled _ _ cur hf (by omega)]
      cases hc : consumerOf d.rawRxCallbacks cur with
      | none => exact Or.inl rfl
      | some c => exact Or.inr ⟨c, p.payload, rfl, hf, rfl⟩
    · exact Or.inl rfl

/-- **Receive soundness.**  In every permitted run from power-on, a callback that hands anything
over is the end of a frame, and it hands over one thing: the bytes of that frame, to the frame's
consumer. -/
theorem rx_sound [PbufRealloc] (es : List (DriverEvent κ)) (e : DriverEvent κ)
    (h : Along rxStep Tc6Allowed (Driver.zero, []) (es ++ [e])) :
    let s := exec rxStep ((Driver.zero, []) : Driver κ × List UInt8) es
    handoffs (driverStep s.1 e).2 = [] ∨
      ∃ success len r c mem, e = .packet success len r ∧ len.toNat = s.2.length ∧
        consumerOf s.1.rawRxCallbacks s.2 = some c ∧ mem.take s.2.length = s.2 ∧
        handoffs (driverStep s.1 e).2 = [⟨c, mem, len⟩] := by
  intro s
  obtain ⟨hes, he⟩ := (along_append _ _ _ _ _).mp h
  have hinv : RxInv s := exec_inv rxStep Tc6Allowed RxInv rxInv_step es _ rxInv_zero hes
  by_cases hn : handoffs (driverStep s.1 e).2 = []
  · exact Or.inl hn
  · obtain ⟨success, len, r, rfl⟩ := handoffs_driverStep s.1 e hn
    have hlen : len.toNat = s.2.length := he.1
    rcases hinv.handoffs_packet success len r hlen with h0 | ⟨c, mem, hc, hm, ho⟩
    · exact absurd h0 hn
    · exact Or.inr ⟨success, len, r, c, mem, rfl, hlen, hc, hm, ho⟩

/-- A buffer as it comes from the heap, with whatever was in it. -/
def heapPbuf : Pbuf := ⟨0x2000, List.replicate 1518 0xA5, 1518, 1518, 1, false⟩

/-- A raw frame of 60 bytes: broadcast, EtherType 0x88B5. -/
def rawFrame : List UInt8 := List.replicate 12 0xFF ++ [0x88, 0xB5] ++ List.replicate 46 1

/-- Reset, then a frame abandoned after 20 bytes, then a slice of it again and the rest. -/
def abandonedRun : List (DriverEvent Unit) :=
  [.event .resetComplete, .registerRawRx 0x88B5 (some ()),
    .slice (rawFrame.take 20) 0 20 (some heapPbuf), .event .resetComplete,
    .slice (rawFrame.take 32) 0 32 none, .slice (rawFrame.drop 32) 32 28 none]

section
attribute [local instance] singlePbuf

/-- The whole frame is handed over, although part of it came before. -/
theorem rx_sound_abandonedRun :
    ∃ c mem, mem.take 60 = rawFrame ∧
      handoffs (driverStep (exec rxStep (Driver.zero, []) abandonedRun).1
        (.packet true 60 .errOk)).2 = [⟨c, mem, 60⟩] := by
  have hframe : (exec rxStep (Driver.zero, []) abandonedRun).2 = rawFrame := by decide +kernel
  have hsome : handoffs (driverStep (exec rxStep (Driver.zero, []) abandonedRun).1
      (.packet true 60 .errOk)).2 ≠ [] := by decide +kernel
  rcases rx_sound abandonedRun (.packet true 60 .errOk) ⟨trivial, trivial,
    ⟨rfl, Or.inl rfl, by decide, fun p h _ => by cases h; exact ⟨rfl, rfl⟩⟩, trivial,
    ⟨rfl, Or.inl rfl, by decide, fun p h => by cases h⟩,
    ⟨rfl, Or.inr rfl, by decide, fun p h => by cases h⟩, rfl, trivial⟩ with
    h | ⟨success, len, r, c, mem, he, hl, -, hm, ho⟩
  · exact absurd h hsome
  · cases he
    rw [hframe] at hm
    exact ⟨c, mem, hm, ho⟩

end

end CuriosityT1S
