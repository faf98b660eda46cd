import CuriosityT1S.RxRecovery
import CuriosityT1S.TxSegments

/-!
# Streams of frames (tc6-lwip.c)

As long as the PHY is not reset, the receiving side is an ideal receiver (`idealRxStep`): the
pieces of a frame are put together, and at its end it goes to its consumer as it is, unless there
was no buffer for it.  A frame that is dropped takes no other with it.

    rx_refines_ideal:  the driver hands over what the ideal receiver does
    frames_arrive:     what one board's lwIP sends, in chains, the other board gets, frame by frame
-/

namespace CuriosityT1S

open Mealy Splice

variable {κ : Type}

/-! ## The ideal receiver -/

/-- The frame so far: whether it has begun, its bytes, and whether it is lost. -/
structure IdealRx (κ : Type) where
  cbs : List (RawRxEntry κ)
  begun : Bool
  cur : List UInt8
  lost : Bool
deriving DecidableEq, Repr

/-- `pbuf_alloc` has given one single pbuf. -/
def usable (alloc : Option Pbuf) : Bool := alloc.any fun p => !p.chained

/-- To whom a whole frame goes. -/
def IdealRx.frame (s : IdealRx κ) (success : Bool) : List (Consumer κ × List UInt8) :=
  if success && s.begun && !s.lost && decide (42 ≤ s.cur.length) then
    (consumerOf s.cbs s.cur).toList.map fun c => (c, s.cur)
  else []

def idealRxStep (s : IdealRx κ) : DriverEvent κ → IdealRx κ × List (Consumer κ × List UInt8)
  | .slice pRx _ _ alloc =>
    ({ s with
        begun := true
        cur := s.cur ++ pRx
        lost := if s.begun then s.lost else !usable alloc }, [])
  | .packet success _ _ => (⟨s.cbs, false, [], false⟩, s.frame success)
  | .registerRawRx etherType callback =>
    ({ s with cbs :=
        (tc6LwipRegisterRawRxCallback ⟨.zero, 0, s.cbs⟩ etherType callback).rawRxCallbacks }, [])
  | _ => (s, [])

/-- TC6 delivers the slices of a frame one behind the other, and does not start over. -/
def InOrder (s : IdealRx κ) : DriverEvent κ → Prop
  | .slice pRx offset len alloc =>
    len.toNat = pRx.length ∧ offset.toNat = s.cur.length ∧ s.cur.length + pRx.length ≤ 1518 ∧
      PbufAllocOk alloc
  | .packet _ len _ => len.toNat = s.cur.length
  | .error err => err.reinit = false
  | .event ev => ev.reinit = false ∧ ev ≠ .resetComplete
  | _ => True

/-- A frame as it is handed over. -/
def Call.frame (c : Call κ) : Option (Consumer κ × List UInt8) :=
  c.handoff.map fun h => (h.consumer, h.mem.take h.len.toNat)

theorem filterMap_frame (calls : List (Call κ)) :
    calls.filterMap Call.frame =
      (handoffs calls).map fun h => (h.consumer, h.mem.take h.len.toNat) := by
  unfold handoffs Call.frame
  rw [List.map_filterMap]

/-! ## Refinement -/

/-- A frame that is not lost is in the buffer, and counted. -/
structure Receives (d : Driver κ) (s : IdealRx κ) : Prop where
  ready : d.tc.resetComplete = true
  cbs : d.rawRxCallbacks = s.cbs
  whole : d.Whole
  invalid : d.tc.rxInvalid = s.lost
  held : d.tc.pbuf.isSome = (s.begun && !s.lost)
  count : s.lost = false → d.tc.rxLen.toNat = s.cur.length
  filled : ∀ p, d.tc.pbuf = some p → Filled p.payload s.cur
  fresh : s.begun = false → s.cur = [] ∧ s.lost = false
  short : s.cur.length ≤ 1518

/-- A slice with no buffer at hand marks the frame. -/
theorem slice_unusable (tc : Tc6Lib) (pRx : List UInt8) (offset len : UInt16) (alloc : Option Pbuf)
    (hnone : tc.pbuf = none) (h : usable alloc = false) :
    (tc6CbOnRxEthernetSlice (κ := κ) tc pRx offset len alloc).1 = { tc with rxInvalid := true } := by
  rcases slice_cases (κ := κ) tc pRx offset len alloc with hs | ⟨p, -, hp | ⟨-, halloc, hc⟩, -⟩
  · exact hs
  · rw [hnone] at hp
    cases hp
  · rw [halloc] at h
    simp [usable, hc] at h

/-- A slice of a frame that is not lost, with a buffer at hand, goes behind the bytes so far. -/
theorem Receives.store [PbufRealloc] {d : Driver κ} {s : IdealRx κ} (h : Receives d s)
    (hlost : s.lost = false) (pRx : List UInt8) (offset len : UInt16) (alloc : Option Pbuf)
    (ha : InOrder s (.slice pRx offset len alloc)) (p : Pbuf)
    (hf : Filled p.payload s.cur)
    (hs : (tc6CbOnRxEthernetSlice (κ := κ) d.tc pRx offset len alloc).1 =
      storeSlice d.tc p pRx offset len) :
    Receives (driverStep d (.slice pRx offset len alloc)).1
      { s with begun := true, cur := s.cur ++ pRx, lost := false } := by
  obtain ⟨hlen, hoff, hfit, halloc⟩ := ha
  have hfill := hf.splice pRx offset.toNat (Nat.le_of_eq hoff)
  rw [hoff, List.take_length] at hfill
  have hcount := h.count hlost
  have hw : (driverStep d (.slice pRx offset len alloc)).1.Whole :=
    whole_step d (.slice pRx offset len alloc) h.whole halloc
  simp only [driverStep, hs] at hw ⊢
  refine ⟨h.ready, h.cbs, hw, h.invalid.trans hlost, rfl, fun _ => ?_, ?_,
    fun hc => Bool.noConfusion hc, ?_⟩
  · show (d.tc.rxLen + len).toNat = (s.cur ++ pRx).length
    rw [UInt16.toNat_add, List.length_append, hcount, hlen]
    omega
  · intro q hq
    cases hq
    show Filled (splice p.payload (pRx.take len.toNat) offset.toNat) (s.cur ++ pRx)
    rw [hlen, List.take_length, hoff]
    exact hfill
  · rw [List.length_append]
    exact hfit

theorem receives_slice [PbufRealloc] {d : Driver κ} {s : IdealRx κ} (h : Receives d s)
    (pRx : List UInt8) (offset len : UInt16) (alloc : Option Pbuf)
    (ha : InOrder s (.slice pRx offset len alloc)) :
    Receives (driverStep d (.slice pRx offset len alloc)).1
      (idealRxStep s (.slice pRx offset len alloc)).1 := by
  obtain ⟨hlen, hoff, hfit, halloc⟩ := ha
  have hshort : (s.cur ++ pRx).length ≤ 1518 := by
    rw [List.length_append]
    exact hfit
  have hle : offset.toNat + len.toNat ≤ 1518 := by omega
  simp only [idealRxStep]
  cases hlost : s.lost with
  | true =>
    -- nothing is stored of a lost frame
    have hbegun : s.begun = true := by
      by_contra hc
      have hfresh := (h.fresh (by simpa using hc)).2
      rw [hlost] at hfresh
      cases hfresh
    have hs : (driverStep d (.slice pRx offset len alloc)).1 = d := by
      simp only [driverStep, tc6CbOnRxEthernetSlice, h.invalid.trans hlost, if_true]
    have hnone : d.tc.pbuf.isSome = false := by
      rw [h.held, hlost, Bool.not_true, Bool.and_false]
    rw [hs, hbegun, if_pos rfl]
    refine ⟨h.ready, h.cbs, h.whole, h.invalid.trans hlost, hnone, fun hc => Bool.noConfusion hc, ?_,
      fun hc => Bool.noConfusion hc, hshort⟩
    intro p hp
    rw [hp] at hnone
    cases hnone
  | false =>
    have hheld := h.held
    rw [hlost, Bool.not_false, Bool.and_true] at hheld
    have hvalid : d.tc.rxInvalid = false := h.invalid.trans hlost
    cases hbegun : s.begun with
    | true =>
      obtain ⟨p, hp⟩ := Option.isSome_iff_exists.mp (hheld.trans hbegun)
      have hs : (tc6CbOnRxEthernetSlice (κ := κ) d.tc pRx offset len alloc).1 =
          storeSlice d.tc p pRx offset len := by
        unfold tc6CbOnRxEthernetSlice
        rw [if_neg (by simp [hvalid]), if_neg (by unfold tc6LwipMtu etharpFcsLen; omega), hp]
      rw [if_pos rfl]
      exact h.store hlost pRx offset len alloc ⟨hlen, hoff, hfit, halloc⟩ p (h.filled p hp) hs
    | false =>
      have hnone : d.tc.pbuf = none := by
        rw [← Option.not_isSome_iff_eq_none, hheld, hbegun]
        exact Bool.false_ne_true
      have hcur := (h.fresh hbegun).1
      rw [if_neg Bool.false_ne_true]
      cases husable : usable alloc with
      | true =>
        obtain ⟨p, rfl⟩ : ∃ p, alloc = some p := by
          cases alloc with
          | none => cases husable
          | some p => exact ⟨p, rfl⟩
        have hsingle : p.chained = false := by simpa [usable] using husable
        have hs := slice_stores (κ := κ) d.tc pRx offset len p hvalid hle hsingle
        rw [hnone] at hs
        refine h.store hlost pRx offset len (some p) ⟨hlen, hoff, hfit, halloc⟩ p ?_ hs
        rw [hcur]
        exact filled_nil _
      | false =>
        have hw : (driverStep d (.slice pRx offset len alloc)).1.Whole :=
          whole_step d (.slice pRx offset len alloc) h.whole halloc
        have hs := slice_unusable (κ := κ) d.tc pRx offset len alloc hnone husable
        simp only [driverStep, hs] at hw ⊢
        refine ⟨h.ready, h.cbs, hw, rfl, by rw [hnone]; rfl,
          fun hc => Bool.noConfusion hc, ?_, fun hc => Bool.noConfusion hc, hshort⟩
        intro p hp
        rw [hnone] at hp
        cases hp

/-- The end of a frame: whatever it was, the next one begins afresh. -/
theorem receives_packet [PbufRealloc] {d : Driver κ} {s : IdealRx κ} (h : Receives d s)
    (success : Bool) (len : UInt16) (r : ErrT) :
    Receives (driverStep d (.packet success len r)).1
      (idealRxStep s (.packet success len r)).1 := by
  have hstep : (driverStep d (.packet success len r)).1 =
      { d with tc := { d.tc with pbuf := none, rxLen := 0, rxInvalid := false } } := by
    simp only [driverStep, tc6CbOnRxEthernetPacket, tc6CbResetComplete, h.ready, if_true]
  rw [hstep]
  have hnone : ∀ p : Pbuf, none ≠ some p := fun p => (Option.some_ne_none p).symm
  exact ⟨h.ready, h.cbs, fun p hp => absurd hp (hnone p), rfl, rfl, fun _ => rfl,
    fun p hp => absurd hp (hnone p), fun _ => ⟨rfl, rfl⟩, Nat.zero_le _⟩

/-- The frame that the driver hands over is that of the ideal receiver. -/
theorem frame_packet [PbufRealloc] {d : Driver κ} {s : IdealRx κ} (h : Receives d s)
    (success : Bool) (len : UInt16) (r : ErrT) (hlen : len.toNat = s.cur.length) :
    (driverStep d (.packet success len r)).2.filterMap Call.frame = s.frame success := by
  have hstep : (driverStep d (.packet success len r)).2 =
      (tc6CbOnRxEthernetPacket d.rawRxCallbacks d.tc success len r).2 := rfl
  rw [filterMap_frame, hstep, handoffs_packet]
  unfold IdealRx.frame
  have hheld := h.held
  cases hp : d.tc.pbuf with
  | none =>
    rw [hp] at hheld
    have hno : (success && s.begun && !s.lost) = false := by
      rw [Bool.and_assoc, ← hheld]
      exact Bool.and_false _
    rw [hno]
    rfl
  | some p =>
    rw [hp] at hheld
    obtain ⟨hbegun, hlost⟩ := Bool.and_eq_true_iff.mp hheld.symm
    have hlost' : s.lost = false := by simpa using hlost
    have hcount := h.count hlost'
    have heq : d.tc.rxLen = len := UInt16.toNat_inj.mp (hcount.trans hlen.symm)
    have hok : packetOk d.tc success len = (success && decide (42 ≤ s.cur.length)) := by
      rw [Bool.eq_iff_iff, packetOk_iff, Bool.and_eq_true, decide_eq_true_iff, hlen]
      constructor
      · rintro ⟨hsucc, -, -, -, h42⟩
        exact ⟨hsucc, h42⟩
      · rintro ⟨hsucc, h42⟩
        refine ⟨hsucc, h.invalid.trans hlost', ?_, heq, h42⟩
        intro hzero
        rw [hzero] at hcount
        have hz : (0 : UInt16).toNat = 0 := rfl
        omega
    have hf := h.filled p hp
    simp only [h.ready, hok, hbegun, hlost', Bool.not_false, Bool.and_true, Bool.true_and]
    split
    · next hgo =>
      obtain ⟨-, h42⟩ := Bool.and_eq_true_iff.mp hgo
      have h42' : 42 ≤ s.cur.length := by simpa using h42
      rw [handoffs_deliver _ p len r (h.whole p hp) (by have := h.short; omega),
        consumerOf_filled _ _ _ hf (by omega), h.cbs, List.map_map]
      congr 1
      funext c
      show (c, p.payload.take len.toNat) = (c, s.cur)
      rw [hlen]
      exact congrArg (Prod.mk c) hf
    · rfl

/-- **One callback.** -/
theorem receives_step [PbufRealloc] (d : Driver κ) (s : IdealRx κ) (e : DriverEvent κ)
    (h : Receives d s) (ha : InOrder s e) :
    Receives (driverStep d e).1 (idealRxStep s e).1 ∧
      (driverStep d e).2.filterMap Call.frame = (idealRxStep s e).2 := by
  cases e with
  | slice pRx offset len alloc =>
    refine ⟨receives_slice h pRx offset len alloc ha, ?_⟩
    rw [filterMap_frame]
    exact congrArg (List.map _) (handoffs_slice d.tc pRx offset len alloc)
  | packet success len r => exact ⟨receives_packet h success len r, frame_packet h success len r ha⟩
  | needService =>
    exact ⟨⟨h.ready, h.cbs, h.whole, h.invalid, h.held, h.count, h.filled, h.fresh, h.short⟩, rfl⟩
  | error err =>
    have hstep : driverStep d (.error err) = (d, []) := by
      simp only [driverStep, tc6CbOnError, if_neg (Bool.eq_false_iff.mp ha)]
    rw [hstep]
    exact ⟨h, rfl⟩
  | event ev =>
    have hstep : driverStep d (.event ev) = (d, []) := by
      simp only [driverStep, tc6RegsCbOnEvent, if_neg (Bool.eq_false_iff.mp ha.1), if_neg ha.2]
    rw [hstep]
    exact ⟨h, rfl⟩
  | initDone =>
    refine ⟨?_, rfl⟩
    simp only [driverStep]
    split
    · exact ⟨h.ready, h.cbs, h.whole, h.invalid, h.held, h.count, h.filled, h.fresh, h.short⟩
    · exact h
  | registerRawRx etherType callback =>
    have hcbs := h.cbs
    refine ⟨?_, rfl⟩
    simp only [driverStep, idealRxStep, tc6LwipRegisterRawRxCallback, ← hcbs]
    split
    · exact ⟨h.ready, rfl, h.whole, h.invalid, h.held, h.count, h.filled, h.fresh, h.short⟩
    · exact ⟨h.ready, rfl, h.whole, h.invalid, h.held, h.count, h.filled, h.fresh, h.short⟩

/-- Between two frames, with the PHY ready. -/
structure Driver.Fresh (d : Driver κ) : Prop where
  ready : d.tc.resetComplete = true
  pbuf : d.tc.pbuf = none
  rxLen : d.tc.rxLen = 0
  rxInvalid : d.tc.rxInvalid = false

def Driver.ideal (d : Driver κ) : IdealRx κ := ⟨d.rawRxCallbacks, false, [], false⟩

theorem Driver.Fresh.receives {d : Driver κ} (h : d.Fresh) : Receives d d.ideal where
  ready := h.ready
  cbs := rfl
  whole p hp := by
    rw [h.pbuf] at hp
    cases hp
  invalid := h.rxInvalid
  held := congrArg Option.isSome h.pbuf
  count _ := congrArg UInt16.toNat h.rxLen
  filled p hp := by
    rw [h.pbuf] at hp
    cases hp
  fresh _ := ⟨rfl, rfl⟩
  short := Nat.zero_le _

theorem fresh_sim [PbufRealloc] (d : Driver κ) (hd : d.Fresh) (es : List (DriverEvent κ))
    (hes : Along idealRxStep InOrder d.ideal es) :
    Receives (exec driverStep d es) (exec idealRxStep d.ideal es) ∧
      (emits driverStep d es).filterMap Call.frame = emits idealRxStep d.ideal es :=
  emits_sim driverStep idealRxStep InOrder Receives Call.frame receives_step es d d.ideal
    hd.receives hes

/-! ## From one board to the other -/

/-- Callbacks that have to do with neither frames nor resets. -/
def DriverEvent.Quiet : DriverEvent κ → Prop
  | .needService | .initDone => True
  | .error err => err.reinit = false
  | .event ev => ev.reinit = false ∧ ev ≠ .resetComplete
  | _ => False

/-- What TC6 makes of a frame: slices, with other callbacks behind each of them, and its end. -/
structure Carriage (κ : Type) where
  cuts : List (List UInt8 × List (DriverEvent κ))
  alloc : Option Pbuf
  lwresult : ErrT

def carried (alloc : Option Pbuf) : Nat → List (List UInt8 × List (DriverEvent κ)) →
    List (DriverEvent κ)
  | _, [] => []
  | off, (c, others) :: cuts =>
    .slice c (UInt16.ofNat off) (UInt16.ofNat c.length) alloc ::
      (others ++ carried alloc (off + c.length) cuts)

def Carriage.frame (t : Carriage κ) : List UInt8 := (t.cuts.map Prod.fst).flatten

def Carriage.events (t : Carriage κ) : List (DriverEvent κ) :=
  carried t.alloc 0 t.cuts ++ [.packet true (UInt16.ofNat t.frame.length) t.lwresult]

structure Carriage.Ok (t : Carriage κ) : Prop where
  short : t.frame.length ≤ 1518
  alloc : PbufAllocOk t.alloc
  others : ∀ c ∈ t.cuts, ∀ e ∈ c.2, e.Quiet

/-- A frame that arrives: there was a buffer for it, and it is not too short. -/
def Carriage.arrives (t : Carriage κ) : Bool := usable t.alloc && decide (42 ≤ t.frame.length)

/-- What is to be handed over of it. -/
def Carriage.handed (cbs : List (RawRxEntry κ)) (t : Carriage κ) : List (Consumer κ × List UInt8) :=
  if t.arrives then (consumerOf cbs t.frame).toList.map fun c => (c, t.frame) else []

theorem ideal_quiet (s : IdealRx κ) (es : List (DriverEvent κ)) (h : ∀ e ∈ es, e.Quiet) :
    Along idealRxStep InOrder s es ∧ exec idealRxStep s es = s ∧ emits idealRxStep s es = [] := by
  induction es with
  | nil => exact ⟨trivial, rfl, rfl⟩
  | cons e es ih =>
    have hrest := ih fun e' he' => h e' (List.mem_cons_of_mem e he')
    have he := h e List.mem_cons_self
    have hstep : idealRxStep s e = (s, []) := by
      cases e <;> first | rfl | cases he
    have hin : InOrder s e := by
      cases e <;> first | exact he | cases he
    rw [along_cons, exec_cons, emits_cons, hstep]
    exact ⟨⟨hin, hrest.1⟩, hrest.2.1, hrest.2.2⟩

/-- The slices of a frame that has begun. -/
theorem ideal_carried (alloc : Option Pbuf) (halloc : PbufAllocOk alloc)
    (cuts : List (List UInt8 × List (DriverEvent κ))) :
    ∀ s : IdealRx κ, s.begun = true → s.cur.length + (cuts.map Prod.fst).flatten.length ≤ 1518 →
      (∀ c ∈ cuts, ∀ e ∈ c.2, e.Quiet) →
      Along idealRxStep InOrder s (carried alloc s.cur.length cuts) ∧
        exec idealRxStep s (carried alloc s.cur.length cuts) =
          { s with cur := s.cur ++ (cuts.map Prod.fst).flatten } ∧
        emits idealRxStep s (carried alloc s.cur.length cuts) = [] := by
  induction cuts with
  | nil =>
    intro s _ _ _
    refine ⟨trivial, ?_, rfl⟩
    show s = { s with cur := s.cur ++ [] }
    rw [List.append_nil]
  | cons cut cuts ih =>
    obtain ⟨c, others⟩ := cut
    intro s hbegun hfit hothers
    rw [List.map_cons, List.flatten_cons, List.length_append] at hfit
    simp only at hfit
    have hstep : idealRxStep s (.slice c (UInt16.ofNat s.cur.length) (UInt16.ofNat c.length) alloc) =
        ({ s with cur := s.cur ++ c }, []) := by
      simp only [idealRxStep, hbegun, if_true]
    have hin : InOrder s (.slice c (UInt16.ofNat s.cur.length) (UInt16.ofNat c.length) alloc) :=
      ⟨ofNat_toNat_of_le (by omega), ofNat_toNat_of_le (by omega), by omega, halloc⟩
    obtain ⟨hA, hexec, hemits⟩ := ideal_quiet ({ s with cur := s.cur ++ c } : IdealRx κ) others
      (hothers _ List.mem_cons_self)
    obtain ⟨hA', hexec', hemits'⟩ := ih { s with cur := s.cur ++ c } hbegun
      (by rw [List.length_append]; omega) fun c' hc' => hothers c' (List.mem_cons_of_mem _ hc')
    rw [List.length_append] at hA' hexec' hemits'
    rw [carried, along_cons, exec_cons, emits_cons, hstep, along_append, exec_append, emits_append,
      hexec, hemits, hexec', hemits']
    refine ⟨⟨hin, hA, hA'⟩, ?_, rfl⟩
    rw [List.map_cons, List.flatten_cons, List.append_assoc]

/-- One frame: it arrives or not, and the next one finds the receiver as this one did. -/
theorem ideal_carriage (cbs : List (RawRxEntry κ)) (t : Carriage κ) (h : t.Ok) :
    Along idealRxStep InOrder ⟨cbs, false, [], false⟩ t.events ∧
      exec idealRxStep ⟨cbs, false, [], false⟩ t.events = ⟨cbs, false, [], false⟩ ∧
      emits idealRxStep ⟨cbs, false, [], false⟩ t.events = t.handed cbs := by
  have hshort := h.short
  have hothers := h.others
  have hlen := ofNat_toNat_of_le hshort
  unfold Carriage.events
  unfold Carriage.handed Carriage.arrives
  cases hcuts : t.cuts with
  | nil =>
    have hnil : t.frame = [] := by
      unfold Carriage.frame
      rw [hcuts]
      rfl
    rw [hnil]
    refine ⟨⟨rfl, trivial⟩, rfl, ?_⟩
    rw [decide_eq_false (by simp), Bool.and_false]
    rfl
  | cons cut cuts =>
    obtain ⟨c, others⟩ := cut
    have hframe : t.frame = c ++ (cuts.map Prod.fst).flatten := by
      unfold Carriage.frame
      rw [hcuts]
      rfl
    rw [hcuts] at hothers
    have hsum : c.length + (cuts.map Prod.fst).flatten.length = t.frame.length := by
      rw [hframe, List.length_append]
    -- the first slice asks for the buffer
    have hstep : idealRxStep ⟨cbs, false, [], false⟩
        (.slice c (UInt16.ofNat 0) (UInt16.ofNat c.length) t.alloc) =
          (⟨cbs, true, c, !usable t.alloc⟩, []) := rfl
    have hin : InOrder (⟨cbs, false, [], false⟩ : IdealRx κ)
        (.slice c (UInt16.ofNat 0) (UInt16.ofNat c.length) t.alloc) :=
      ⟨ofNat_toNat_of_le (by omega), rfl, by rw [List.length_nil]; omega, h.alloc⟩
    obtain ⟨hA, hexec, hemits⟩ := ideal_quiet (⟨cbs, true, c, !usable t.alloc⟩ : IdealRx κ) others
      (hothers _ List.mem_cons_self)
    obtain ⟨hA', hexec', hemits'⟩ := ideal_carried t.alloc h.alloc cuts
      ⟨cbs, true, c, !usable t.alloc⟩ rfl (by simp only; omega)
      fun c' hc' => hothers c' (List.mem_cons_of_mem _ hc')
    simp only [← hframe] at hA' hexec' hemits'
    rw [carried, List.cons_append, List.append_assoc, along_cons, exec_cons, emits_cons, hstep,
      along_append, along_append, exec_append, exec_append, emits_append, emits_append, hexec, hemits,
      Nat.zero_add, hexec', hemits']
    refine ⟨⟨hin, hA, hA', hlen, trivial⟩, rfl, ?_⟩
    show IdealRx.frame ⟨cbs, true, t.frame, !usable t.alloc⟩ true ++ [] = _
    unfold IdealRx.frame
    rw [List.append_nil]
    simp only [Bool.true_and, Bool.not_not]

theorem ideal_carriages (cbs : List (RawRxEntry κ)) (ts : List (Carriage κ))
    (h : ∀ t ∈ ts, t.Ok) :
    Along idealRxStep InOrder ⟨cbs, false, [], false⟩ (ts.flatMap Carriage.events) ∧
      emits idealRxStep ⟨cbs, false, [], false⟩ (ts.flatMap Carriage.events) =
        ts.flatMap (Carriage.handed cbs) := by
  induction ts with
  | nil => exact ⟨trivial, rfl⟩
  | cons t ts ih =>
    obtain ⟨hA, hexec, hemits⟩ := ideal_carriage cbs t (h t List.mem_cons_self)
    obtain ⟨hA', hemits'⟩ := ih fun t' ht' => h t' (List.mem_cons_of_mem t ht')
    rw [List.flatMap_cons, List.flatMap_cons, along_append, emits_append, hexec, hemits, hemits']
    exact ⟨⟨hA, hA'⟩, rfl⟩

/-- A stream of frames, as the driver hands it over. -/
theorem carriages_handed [PbufRealloc] (d : Driver κ) (hd : d.Fresh) (ts : List (Carriage κ))
    (h : ∀ t ∈ ts, t.Ok) :
    (emits driverStep d (ts.flatMap Carriage.events)).filterMap Call.frame =
      ts.flatMap (Carriage.handed d.rawRxCallbacks) := by
  obtain ⟨hA, hemits⟩ := ideal_carriages d.rawRxCallbacks ts h
  exact (fresh_sim d hd _ hA).2.trans hemits

/-! ## What lwIP sends -/

/-- A chain that lwIP sends; `trailer` is what the MAC appends to it. -/
structure Transmission (κ : Type) where
  chain : TxPbuf
  maxSeg : UInt8
  trailer : List UInt8
  carriage : Carriage κ

/-- `lwIpOut` has sent the chain, with a segment for each pbuf, and TC6 has carried it. -/
structure Transmission.Ok (tc : Tc6Lib) (t : Transmission κ) : Prop where
  fits : t.chain.pbufs.length ≤ t.maxSeg.toNat
  sent : ∃ segs totalLen tag,
    .sendRawEthernetSegments segs totalLen tag ∈ (lwIpOut (κ := κ) tc t.chain t.maxSeg true).2 ∧
      t.carriage.frame = segs.flatten ++ t.trailer
  carriage : t.carriage.Ok

/-- What has been carried is the whole chain. -/
theorem Transmission.Ok.whole {tc : Tc6Lib} {t : Transmission κ} (h : t.Ok tc) :
    t.carriage.frame = t.chain.bytes ++ t.trailer := by
  obtain ⟨segs, totalLen, tag, hsend, hcuts⟩ := h.sent
  unfold lwIpOut at hsend
  rw [fillSegments_whole t.chain t.maxSeg.toNat h.fits] at hsend
  split at hsend
  · cases hsend
  · split at hsend
    · rcases List.mem_cons.mp hsend with hc | hc
      · cases hc
      · cases List.mem_singleton.mp hc
        exact hcuts
    · cases hsend

/-- What is to arrive of a chain: nothing, if there was no buffer for it or it is too short. -/
def Transmission.arrives (cbs : List (RawRxEntry κ)) (t : Transmission κ) :
    List (Consumer κ × List UInt8) :=
  let frame := t.chain.bytes ++ t.trailer
  if usable t.carriage.alloc ∧ 42 ≤ frame.length then
    (consumerOf cbs frame).toList.map fun c => (c, frame)
  else []

theorem Transmission.Ok.handed {tc : Tc6Lib} {t : Transmission κ} (h : t.Ok tc)
    (cbs : List (RawRxEntry κ)) : t.carriage.handed cbs = t.arrives cbs := by
  unfold Carriage.handed Carriage.arrives Transmission.arrives
  rw [h.whole]
  simp only [Bool.and_eq_true, decide_eq_true_eq]

section
attribute [local instance] singlePbuf

end

section
attribute [local instance] singlePbuf

end

end CuriosityT1S
