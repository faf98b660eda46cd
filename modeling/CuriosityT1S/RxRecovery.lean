import CuriosityT1S.RxSoundness

/-!
# When the driver takes the next whole frame

`wholeFrame` is one frame as TC6 delivers it, cut into slices from offset 0,
and its end.  In any state the driver can be in with the PHY ready, such a
frame reaches its consumer if and only if `rxLen` is 0 and `rxInvalid` is clear
when its first slice arrives (`rx_recovers_iff`).  Neither is always so: an
abandoned frame leaves its bytes in `rxLen`, and a frame marked invalid before
a reset stays so after it.
-/

namespace CuriosityT1S

open Mealy Splice

variable {κ : Type}

/-- The slices of a frame cut into `cuts`, the first at `off`; `p` is the buffer `pbuf_alloc`
gives if it is asked. -/
def sliceEvents (p : Pbuf) : Nat → List (List UInt8) → List (DriverEvent κ)
  | _, [] => []
  | off, c :: cs =>
    .slice c (UInt16.ofNat off) (UInt16.ofNat c.length) (some p) :: sliceEvents p (off + c.length) cs

/-- A whole frame and its end. -/
def wholeFrame (p : Pbuf) (cuts : List (List UInt8)) (r : ErrT) : List (DriverEvent κ) :=
  sliceEvents p 0 cuts ++ [.packet true (UInt16.ofNat cuts.flatten.length) r]

theorem ofNat_toNat_of_le {n : Nat} (h : n ≤ 1518) : (UInt16.ofNat n).toNat = n := by
  rw [UInt16.toNat_ofNat']
  omega

/-- Slices hand nothing over. -/
theorem handoffs_sliceEvents [PbufRealloc] (p : Pbuf) (cuts : List (List UInt8)) :
    ∀ (off : Nat) (d : Driver κ), handoffs (emits driverStep d (sliceEvents p off cuts)) = [] := by
  induction cuts with
  | nil => intro off d; rfl
  | cons c cs ih =>
    intro off d
    rw [sliceEvents, emits_cons, handoffs_append, ih, List.append_nil]
    exact handoffs_slice d.tc c (UInt16.ofNat off) (UInt16.ofNat c.length) (some p)

/-- While the frame is marked invalid, its slices change nothing. -/
theorem exec_sliceEvents_invalid [PbufRealloc] (p : Pbuf) (cuts : List (List UInt8)) :
    ∀ (off : Nat) (d : Driver κ), d.tc.rxInvalid = true →
      exec driverStep d (sliceEvents p off cuts) = d := by
  induction cuts with
  | nil => intro off d _; rfl
  | cons c cs ih =>
    intro off d h
    have hstep :
        (driverStep d (.slice c (UInt16.ofNat off) (UInt16.ofNat c.length) (some p))).1 = d := by
      simp only [driverStep, tc6CbOnRxEthernetSlice, h, if_true]
    rw [sliceEvents, exec_cons, hstep]
    exact ih _ d h

/-- One slice behind the bytes so far. -/
theorem driverStep_slice [PbufRealloc] (d : Driver κ) (p : Pbuf) (cur c : List UInt8)
    (hinv : d.tc.rxInvalid = false) (hc : p.chained = false)
    (hfit : cur.length + c.length ≤ 1518) (hb : d.tc.Buffered cur) :
    let d' := (driverStep d (.slice c (UInt16.ofNat cur.length) (UInt16.ofNat c.length) (some p))).1
    d'.tc.rxInvalid = false ∧ d'.tc.resetComplete = d.tc.resetComplete ∧
      d'.rawRxCallbacks = d.rawRxCallbacks ∧ d'.tc.rxLen = d.tc.rxLen + UInt16.ofNat c.length ∧
      d'.tc.Buffered (cur ++ c) := by
  have ho := ofNat_toNat_of_le (show cur.length ≤ 1518 by omega)
  have hl := ofNat_toNat_of_le (show c.length ≤ 1518 by omega)
  simp only [driverStep]
  rw [slice_stores d.tc c _ _ p hinv (by omega) hc]
  refine ⟨hinv, rfl, trivial, rfl, ?_⟩
  have hp : d.tc.pbuf = some (d.tc.pbuf.getD p) ∨ d.tc.pbuf = none := by
    cases d.tc.pbuf with
    | some q => exact Or.inl rfl
    | none => exact Or.inr rfl
  have h := buffered_storeSlice d.tc _ cur c _ _ hp hl (Nat.le_of_eq ho) hb
  rwa [ho, List.take_length] at h

/-- The slices of a frame, one behind the other. -/
theorem exec_sliceEvents [PbufRealloc] (p : Pbuf) (hc : p.chained = false)
    (cuts : List (List UInt8)) :
    ∀ (cur : List UInt8) (d : Driver κ), d.tc.rxInvalid = false → d.tc.Buffered cur →
      cur.length + cuts.flatten.length ≤ 1518 →
      let d' := exec driverStep d (sliceEvents p cur.length cuts)
      d'.tc.rxInvalid = false ∧ d'.tc.resetComplete = d.tc.resetComplete ∧
        d'.rawRxCallbacks = d.rawRxCallbacks ∧
        d'.tc.rxLen = d.tc.rxLen + UInt16.ofNat cuts.flatten.length ∧
        d'.tc.Buffered (cur ++ cuts.flatten) := by
  induction cuts with
  | nil =>
    intro cur d hinv hb _
    exact ⟨hinv, rfl, rfl, by simp [sliceEvents], by simpa [sliceEvents] using hb⟩
  | cons c cs ih =>
    intro cur d hinv hb hfit
    rw [List.flatten_cons, List.length_append] at hfit
    obtain ⟨h1, h2, h3, h4, h5⟩ := driverStep_slice d p cur c hinv hc (by omega) hb
    obtain ⟨g1, g2, g3, g4, g5⟩ := ih (cur ++ c) _ h1 h5 (by rw [List.length_append]; omega)
    rw [List.length_append] at g1 g2 g3 g4 g5
    rw [sliceEvents, exec_cons]
    refine ⟨g1, g2.trans h2, g3.trans h3, ?_, ?_⟩
    · rw [g4, h4, List.flatten_cons, List.length_append, UInt16.add_assoc, ← UInt16.ofNat_add]
    · rw [List.flatten_cons, ← List.append_assoc]
      exact g5

theorem along_sliceEvents [PbufRealloc] (p : Pbuf) (hp : p.Whole) (cuts : List (List UInt8)) :
    ∀ (off : Nat) (d : Driver κ), Along driverStep HeapAllowed d (sliceEvents p off cuts) := by
  induction cuts with
  | nil => intro off d; trivial
  | cons c cs ih =>
    intro off d
    refine ⟨?_, ih _ _⟩
    intro q hq _
    cases hq
    exact hp

/-- With every byte of the frame stored behind what was counted before, the count is the frame's
length exactly if nothing was counted before. -/
theorem packetOk_counted (tc : Tc6Lib) (rxLen : UInt16) (n : Nat) (hinv : tc.rxInvalid = false)
    (hlen : tc.rxLen = rxLen + UInt16.ofNat n) (h42 : 42 ≤ n) (h1518 : n ≤ 1518) :
    packetOk tc true (UInt16.ofNat n) = true ↔ rxLen = 0 := by
  have hn := ofNat_toNat_of_le h1518
  rw [packetOk_iff, hlen]
  constructor
  · rintro ⟨-, -, -, h, -⟩
    apply UInt16.toNat_inj.mp
    have h' := congrArg UInt16.toNat h
    rw [UInt16.toNat_add, hn] at h'
    have := rxLen.toNat_lt
    rw [UInt16.toNat_zero]
    omega
  · rintro rfl
    rw [UInt16.zero_add]
    refine ⟨rfl, hinv, ?_, rfl, by omega⟩
    intro h
    rw [h] at hn
    simp at hn
    omega

/-- **When a whole frame is taken.**  In a state reached by any callbacks with the PHY ready, a
frame of 42 to 1518 bytes with a consumer reaches it if and only if no count and no invalid mark
were left when it began. -/
theorem rx_recovers_iff [PbufRealloc] (d : Driver κ)
    (hd : Reachable driverStep HeapAllowed Driver.zero d) (hready : d.tc.resetComplete = true)
    (p : Pbuf) (hp : p.Whole) (hc : p.chained = false) (cuts : List (List UInt8))
    (h42 : 42 ≤ cuts.flatten.length) (h1518 : cuts.flatten.length ≤ 1518) (r : ErrT)
    (c : Consumer κ) (hcons : consumerOf d.rawRxCallbacks cuts.flatten = some c) :
    (∃ mem, mem.take cuts.flatten.length = cuts.flatten ∧
      handoffs (emits driverStep d (wholeFrame p cuts r)) =
        [⟨c, mem, UInt16.ofNat cuts.flatten.length⟩]) ↔
      d.tc.rxLen = 0 ∧ d.tc.rxInvalid = false := by
  have hl := ofNat_toNat_of_le h1518
  have hemit : handoffs (emits driverStep d (wholeFrame p cuts r)) =
      handoffs (driverStep (exec driverStep d (sliceEvents p 0 cuts))
        (.packet true (UInt16.ofNat cuts.flatten.length) r)).2 := by
    rw [wholeFrame, emits_append, handoffs_append, handoffs_sliceEvents, List.nil_append,
      emits_cons, emits_nil, List.append_nil]
  have hstep : ∀ d' : Driver κ, handoffs (driverStep d'
      (.packet true (UInt16.ofNat cuts.flatten.length) r)).2 = handoffs
        (tc6CbOnRxEthernetPacket d'.rawRxCallbacks d'.tc true
          (UInt16.ofNat cuts.flatten.length) r).2 := fun _ => rfl
  rw [hemit, hstep, handoffs_packet]
  cases hinv : d.tc.rxInvalid with
  | true =>
    rw [exec_sliceEvents_invalid p cuts 0 d hinv]
    have hno : packetOk d.tc true (UInt16.ofNat cuts.flatten.length) = false := by
      unfold packetOk
      simp [hinv]
    rw [hno, Bool.and_false]
    refine ⟨?_, fun h => absurd h.2 (by decide)⟩
    rintro ⟨mem, -, h⟩
    cases hb : d.tc.pbuf with
    | none => simp [hb] at h
    | some q => simp [hb] at h
  | false =>
    obtain ⟨g1, g2, g3, g4, g5⟩ :=
      exec_sliceEvents p hc cuts [] d hinv (Or.inl rfl) (by simpa using h1518)
    simp only [List.length_nil, List.nil_append] at g1 g2 g3 g4 g5
    generalize hd' : exec driverStep d (sliceEvents p 0 cuts) = d' at *
    rcases g5 with h0 | ⟨q, hq, hf⟩
    · rw [h0] at h42; simp at h42
    · have hwhole : d'.Whole := by
        rw [← hd']
        exact exec_inv driverStep HeapAllowed Driver.Whole whole_step _ d
          (hd.inv Driver.Whole (fun _ h => by cases h) whole_step) (along_sliceEvents p hp cuts 0 d)
      have hok := packetOk_counted d'.tc d.tc.rxLen _ g1 g4 h42 h1518
      rw [hq, g2, hready, Bool.true_and]
      simp only [hok, and_true]
      split
      · next h0 =>
        rw [handoffs_deliver _ q _ r (hwhole q hq) (by omega), g3,
          consumerOf_filled _ _ _ hf (by omega), hcons]
        exact iff_of_true ⟨q.payload, hf, rfl⟩ h0
      · next h0 => exact iff_of_false (fun ⟨_, _, h⟩ => by cases h) h0

/-- A raw frame of 60 bytes in three slices. -/
def rawCuts : List (List UInt8) :=
  [rawFrame.take 30, (rawFrame.drop 30).take 20, rawFrame.drop 50]

/-- Reset complete, and a callback registered for 0x88B5. -/
def readyRun : List (DriverEvent Unit) := [.event .resetComplete, .registerRawRx 0x88B5 (some ())]

section
attribute [local instance] singlePbuf

/-- The first frame after power-on is taken. -/
theorem rx_recovers_ready :
    ∃ mem, mem.take 60 = rawFrame ∧
      handoffs (emits driverStep (exec driverStep Driver.zero readyRun)
        (wholeFrame heapPbuf rawCuts .errOk)) = [⟨.raw (), mem, 60⟩] := by
  exact (rx_recovers_iff (exec driverStep Driver.zero readyRun)
    ⟨readyRun, ⟨trivial, trivial, trivial⟩, rfl⟩ rfl heapPbuf ⟨rfl, rfl⟩ rfl rawCuts
    (by decide) (by decide) .errOk (.raw ()) (by decide)).mpr (by decide)

end

/-- A slice for which there is no buffer, then a reset. -/
def resetRun : List (DriverEvent Unit) :=
  [.event .resetComplete, .registerRawRx 0x88B5 (some ()), .slice (rawFrame.take 20) 0 20 none,
    .error .syncLost, .event .resetComplete]

section
attribute [local instance] singlePbuf

/-- The first frame after the reset is dropped: `Reset_Complete` clears `rxLen` only. -/
theorem rx_drops_after_reset :
    ¬ ∀ (d : Driver Unit), Reachable driverStep HeapAllowed Driver.zero d →
      d.tc.resetComplete = true → ∀ (p : Pbuf), p.Whole → p.chained = false →
      ∀ (cuts : List (List UInt8)), 42 ≤ cuts.flatten.length → cuts.flatten.length ≤ 1518 →
      ∀ (r : ErrT) (c : Consumer Unit), consumerOf d.rawRxCallbacks cuts.flatten = some c →
      ∃ mem, mem.take cuts.flatten.length = cuts.flatten ∧
        handoffs (emits driverStep d (wholeFrame p cuts r)) =
          [⟨c, mem, UInt16.ofNat cuts.flatten.length⟩] := by
  intro h
  have hdrop : handoffs (emits driverStep (exec driverStep Driver.zero resetRun)
      (wholeFrame heapPbuf rawCuts .errOk)) = [] := by decide +kernel
  obtain ⟨mem, -, hm⟩ := h (exec driverStep Driver.zero resetRun)
    ⟨resetRun, ⟨trivial, trivial, nofun, trivial, trivial, trivial⟩, rfl⟩ rfl
    heapPbuf ⟨rfl, rfl⟩ rfl rawCuts (by decide) (by decide) .errOk (.raw ()) (by decide)
  rw [hdrop] at hm
  cases hm

end

end CuriosityT1S
