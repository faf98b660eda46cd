import CuriosityT1S.RxSoundness

/-!
# Stored slices against the length of the receive buffer

The buffer is allocated with TC6LwIP_MTU = 1518 bytes, its FCS included, but a slice is
refused only beyond TC6LwIP_MTU + ETHARP_FCS_LEN = 1522.  And the length given to a raw
callback is the count of the bytes received, which overlapping slices drive past any
buffer; what lwIP is given has gone through `pbuf_realloc`, which never grows a pbuf.

    RxWithin:     what is stored lies in the buffer, what is handed over is no longer
    RxFits:       no slice is accepted in the four bytes above, no raw frame is longer
    rxWithin_iff: along every run, the first if and only if the second
-/

namespace CuriosityT1S

open Mealy

variable {κ : Type}

/-- A slice that is accepted ends inside the buffer, and a frame handed over is no longer than
the buffer.  `len` of the pbuf held is the length it was allocated with. -/
def RxWithin [PbufRealloc] (d : Driver κ) : DriverEvent κ → Prop
  | .slice pRx offset len alloc =>
    let tc' := (tc6CbOnRxEthernetSlice (κ := κ) d.tc pRx offset len alloc).1
    tc'.rxInvalid = false → ∃ p, tc'.pbuf = some p ∧ offset.toNat + len.toNat ≤ p.len.toNat
  | .packet success len r =>
    ∀ h ∈ handoffs (tc6CbOnRxEthernetPacket d.rawRxCallbacks d.tc success len r).2,
      ∃ p, d.tc.pbuf = some p ∧ h.len.toNat ≤ p.len.toNat
  | _ => True

/-- A slice is stored if it is short enough for the check: there is a buffer, or one that is not
a chain is allocated. -/
def hasBuffer (tc : Tc6Lib) (alloc : Option Pbuf) : Bool :=
  tc.pbuf.isSome || alloc.any fun p => !p.chained

/-- No slice of a valid frame ends in the bytes between the buffer's length and the limit
of the check, and no frame beyond the buffer's length goes to a raw callback. -/
def RxFits (d : Driver κ) : DriverEvent κ → Prop
  | .slice _ offset len alloc =>
    d.tc.rxInvalid = false → hasBuffer d.tc alloc = true →
      ¬ (1518 < offset.toNat + len.toNat ∧ offset.toNat + len.toNat ≤ 1522)
  | .packet success len _ =>
    d.tc.resetComplete = true → packetOk d.tc success len = true → ∀ p, d.tc.pbuf = some p →
      (findRawRx d.rawRxCallbacks (etherType p.payload)).isSome = true → len.toNat ≤ 1518
  | _ => True

/-! ## One callback -/

/-- A slice is stored exactly if the frame is valid, it passes the check and there is a buffer. -/
theorem slice_valid_iff (tc : Tc6Lib) (pRx : List UInt8) (offset len : UInt16)
    (alloc : Option Pbuf) :
    (tc6CbOnRxEthernetSlice (κ := κ) tc pRx offset len alloc).1.rxInvalid = false ↔
      tc.rxInvalid = false ∧ offset.toNat + len.toNat ≤ 1522 ∧ hasBuffer tc alloc = true := by
  obtain ⟨pbuf, rxLen, rxInvalid, ns, rc⟩ := tc
  unfold tc6CbOnRxEthernetSlice hasBuffer
  cases rxInvalid with
  | true => simp
  | false =>
    by_cases hfit : offset.toNat + len.toNat ≤ 1522
    · have hcheck : ¬ offset.toNat + len.toNat > tc6LwipMtu + etharpFcsLen := by
        unfold tc6LwipMtu etharpFcsLen; omega
      rw [if_neg (by simp), if_neg hcheck]
      cases pbuf with
      | some p => simp [storeSlice, hfit]
      | none =>
        cases alloc with
        | none => simp
        | some p => cases hc : p.chained <;> simp [storeSlice, hfit, hc]
    · have hcheck : offset.toNat + len.toNat > tc6LwipMtu + etharpFcsLen := by
        unfold tc6LwipMtu etharpFcsLen; omega
      rw [if_neg (by simp), if_pos hcheck]
      simp [hfit]

/-- The buffer of a stored slice has the length it was allocated with. -/
theorem slice_stored_len (tc : Tc6Lib) (pRx : List UInt8) (offset len : UInt16)
    (alloc : Option Pbuf) (hw : ∀ p, tc.pbuf = some p → p.Whole) (ha : PbufAllocOk alloc)
    (hv : (tc6CbOnRxEthernetSlice (κ := κ) tc pRx offset len alloc).1.rxInvalid = false) :
    ∃ p, (tc6CbOnRxEthernetSlice (κ := κ) tc pRx offset len alloc).1.pbuf = some p ∧
      p.len.toNat = 1518 := by
  have hwhole := whole_slice (κ := κ) tc pRx offset len alloc hw ha
  rcases slice_cases (κ := κ) tc pRx offset len alloc with hs | ⟨p, -, -, hs⟩
  · rw [hs] at hv; cases hv
  · rw [hs] at hwhole ⊢
    refine ⟨_, rfl, ?_⟩
    rw [(hwhole _ rfl).2]
    rfl

/-- `pbuf_realloc` does not grow a whole buffer. -/
theorem Pbuf.Whole.realloc_len_le [PbufRealloc] {p : Pbuf} (h : p.Whole) (len : UInt16) :
    (pbufRealloc p len).len.toNat ≤ 1518 := by
  by_cases hlen : len.toNat ≤ 1518
  · rw [h.realloc_len len hlen]; exact hlen
  · have hle : p.totLen ≤ len := by
      rw [h.1, UInt16.le_iff_toNat_le]
      show 1518 ≤ len.toNat
      omega
    have hsame : pbufRealloc p len = p := PbufRealloc.keeps p len hle
    rw [hsame, h.2]
    decide

/-- Whatever the length, only a raw callback can be given more than the buffer. -/
theorem deliver_within_iff [PbufRealloc] (cbs : List (RawRxEntry κ)) (p : Pbuf) (len : UInt16)
    (r : ErrT) (hp : p.Whole) :
    (∀ h ∈ handoffs (deliver cbs p len r).2, h.len.toNat ≤ 1518) ↔
      ((findRawRx cbs (etherType p.payload)).isSome = true → len.toNat ≤ 1518) := by
  unfold deliver
  simp only [pbufRealloc_payload, htons_ethHdrType]
  cases findRawRx cbs (etherType p.payload) with
  | some cb => simp [handoffs, Call.handoff]
  | none =>
    cases filterRxEthernetPacket (etherType p.payload) with
    | true => simp [handoffs, Call.handoff, hp.realloc_len_le len]
    | false => simp [handoffs]

theorem packet_within_iff [PbufRealloc] (d : Driver κ) (success : Bool) (len : UInt16) (r : ErrT)
    (hw : d.Whole) : RxWithin d (.packet success len r) ↔ RxFits d (.packet success len r) := by
  unfold RxWithin RxFits
  simp only [handoffs_packet]
  cases hp : d.tc.pbuf with
  | none => simp
  | some p =>
    have hwhole : p.Whole := hw p hp
    have hlen : p.len.toNat = 1518 := by rw [hwhole.2]; rfl
    simp only [Option.some.injEq, exists_eq_left', forall_eq', hlen]
    by_cases hok : (d.tc.resetComplete && packetOk d.tc success len) = true
    · rw [if_pos hok, deliver_within_iff _ p len r hwhole]
      rw [Bool.and_eq_true] at hok
      simp only [hok.1, hok.2, forall_const]
    · rw [if_neg hok]
      rw [Bool.and_eq_true] at hok
      constructor
      · intro _ hr hpk
        exact absurd ⟨hr, hpk⟩ hok
      · intro _ h hh
        cases hh

/-- What one callback does, from a driver whose buffer is whole. -/
theorem rxWithin_step_iff [PbufRealloc] (d : Driver κ) (e : DriverEvent κ) (hw : d.Whole)
    (ha : HeapAllowed d e) : RxWithin d e ↔ RxFits d e := by
  cases e with
  | slice pRx offset len alloc =>
    have hiff := slice_valid_iff (κ := κ) d.tc pRx offset len alloc
    constructor
    · intro h hinv hbuf hgap
      have hv := hiff.mpr ⟨hinv, hgap.2, hbuf⟩
      obtain ⟨p, hp, hle⟩ := h hv
      obtain ⟨q, hq, hlen⟩ := slice_stored_len d.tc pRx offset len alloc hw ha hv
      obtain rfl : p = q := Option.some.inj (hp.symm.trans hq)
      omega
    · intro h hv
      obtain ⟨hinv, hfit, hbuf⟩ := hiff.mp hv
      obtain ⟨p, hp, hlen⟩ := slice_stored_len d.tc pRx offset len alloc hw ha hv
      have hgap := h hinv hbuf
      exact ⟨p, hp, by omega⟩
  | packet success len r => exact packet_within_iff d success len r hw
  | _ => exact Iff.rfl

/-! ## Runs -/

theorem whole_zero : (Driver.zero : Driver κ).Whole := fun _ h => by cases h

/-- **Receive bound.**  Along every run, whatever the offsets and lengths, all that is stored
lies in the buffer and all that is handed over is no longer, if and only if no slice ends in the
four bytes above the buffer and no longer frame goes to a raw callback. -/
theorem rxWithin_iff [PbufRealloc] (es : List (DriverEvent κ))
    (h : Along driverStep HeapAllowed Driver.zero es) :
    Along driverStep RxWithin Driver.zero es ↔ Along driverStep RxFits Driver.zero es :=
  along_congr driverStep HeapAllowed RxWithin RxFits Driver.Whole whole_step rxWithin_step_iff es
    Driver.zero whole_zero h

/-- After a reset, one slice of `n` bytes. -/
def oneSliceRun (n : UInt16) : List (DriverEvent Unit) :=
  [.event .resetComplete, .slice (List.replicate 1522 0) 0 n (some heapPbuf)]

theorem heapAllowed_oneSliceRun [PbufRealloc] (n : UInt16) :
    Along driverStep HeapAllowed Driver.zero (oneSliceRun n) :=
  ⟨trivial, fun p hp _ => by cases hp; exact ⟨rfl, rfl⟩, trivial⟩

section
attribute [local instance] singlePbuf

/-- A slice that fills the buffer is inside. -/
theorem rxWithin_iff_full : Along driverStep RxWithin Driver.zero (oneSliceRun 1518) :=
  (rxWithin_iff (oneSliceRun 1518) (heapAllowed_oneSliceRun 1518)).mpr
    ⟨trivial, fun _ _ h => absurd h.1 (by decide), trivial⟩

end

section
attribute [local instance] singlePbuf

/-- A slice that also has a frame check sequence is accepted, and stored past the end. -/
theorem rxWithin_not_always :
    ¬ ∀ es : List (DriverEvent Unit), Along driverStep HeapAllowed Driver.zero es →
      Along driverStep RxWithin Driver.zero es := by
  intro h
  have hrun := h (oneSliceRun 1522) (heapAllowed_oneSliceRun 1522)
  obtain ⟨-, hslice, -⟩ := hrun
  obtain ⟨p, hp, hle⟩ := hslice rfl
  cases hp
  revert hle
  decide

end

end CuriosityT1S
