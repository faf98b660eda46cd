import CuriosityT1S.Lib.Lifecycle
import CuriosityT1S.Tc6Lwip

/-!
# Receive buffers are neither leaked nor freed twice

The driver again, with each pbuf it allocates numbered and everything that is
done with one recorded: the allocation, each statement that reads or writes it,
and the release, by `pbuf_free` or by a `netif.input` that takes it.

    rxHeapStep_calls:  the allocations and releases recorded are the driver's calls
    RxHeapInv:         the one pbuf alive is the one in `lw->tc.pbuf`
    rx_buffers:        each is released once and not touched afterwards
-/

namespace CuriosityT1S

open Mealy Lifecycle

variable {κ : Type}

/-- `held` is the number of the pbuf in `lw->tc.pbuf`, `next` the number of the next one. -/
structure RxHeap (κ : Type) where
  driver : Driver κ
  held : Option Nat
  next : Nat
deriving DecidableEq, Repr

def RxHeap.zero : RxHeap κ := ⟨.zero, none, 0⟩

/-- `TC6_CB_OnRxEthernetSlice`: the pbuf held afterwards and what is done with pbufs. -/
def sliceTouches (tc : Tc6Lib) (offset len : UInt16) (alloc : Option Pbuf) (next : Nat)
    (held : Option Nat) : Option Nat × List (Op Nat) :=
  if tc.rxInvalid then (held, [])
  else if offset.toNat + len.toNat > tc6LwipMtu + etharpFcsLen then (held, [])
  else
    match held with
    | some n => (some n, [.use n])          -- memcpy
    | none =>
      match alloc with
      | none => (none, [])
      | some p =>
        -- `pbuf->next` is read
        if p.chained then (none, [.alloc next, .use next, .release next])
        else (some next, [.alloc next, .use next, .use next])

/-- The frame in `p` is handed on: whether the driver still holds it, and what is done with it. -/
def deliverTouches (cbs : List (RawRxEntry κ)) (p : Pbuf) (lwresult : ErrT) (n : Nat) :
    Bool × List (Op Nat) :=
  let ethType := htons (ethHdrType p.payload)
  -- `pbuf_realloc`, then the header
  match findRawRx cbs ethType with
  | some _ => (true, [.use n, .use n, .use n])
  | none =>
    if filterRxEthernetPacket ethType then
      if lwresult = .errOk then (false, [.use n, .use n, .release n])
      else (true, [.use n, .use n, .use n])
    else (true, [.use n, .use n])

/-- The end of `TC6_CB_OnRxEthernetPacket`: `pbuf->ref` is read. -/
def freeTouches (p : Pbuf) (n : Nat) : List (Op Nat) :=
  .use n :: if p.ref > 0 then [.release n] else []

def packetTouches (cbs : List (RawRxEntry κ)) (tc : Tc6Lib) (success : Bool) (len : UInt16)
    (lwresult : ErrT) (held : Option Nat) : Option Nat × List (Op Nat) :=
  if tc6CbResetComplete tc then
    match tc.pbuf, held with
    | some p, some n =>
      let (left, ops) := if packetOk tc success len then deliverTouches cbs p lwresult n
        else (true, [])
      (none, ops ++ if left then freeTouches p n else [])
    | _, _ => (none, [])
  else (held, [])

def touches (s : RxHeap κ) : DriverEvent κ → Option Nat × List (Op Nat)
  | .slice _ offset len alloc => sliceTouches s.driver.tc offset len alloc s.next s.held
  | .packet success len lwresult =>
    packetTouches s.driver.rawRxCallbacks s.driver.tc success len lwresult s.held
  | _ => (s.held, [])

def rxHeapStep [PbufRealloc] (s : RxHeap κ) (e : DriverEvent κ) : RxHeap κ × List (Op Nat) :=
  let (held, ops) := touches s e
  (⟨(driverStep s.driver e).1, held, s.next + ops.countP Op.isAlloc⟩, ops)

/-- `pbuf_alloc` gives one reference to its caller. -/
def AllocRefOne (_ : RxHeap κ) : DriverEvent κ → Prop
  | .slice _ _ _ alloc => ∀ p, alloc = some p → p.ref = 1
  | _ => True

/-! ## The same driver -/

/-- Allocations are true, releases are false. -/
def opKind : Op Nat → Option Bool
  | .alloc _ => some true
  | .release _ => some false
  | .use _ => none

/-- `netif.input` takes the pbuf if it returns `ERR_OK`. -/
def callKind (lwresult : ErrT) : Call κ → Option Bool
  | .pbufAlloc (some _) => some true
  | .pbufFree _ => some false
  | .netifInput _ => if lwresult = .errOk then some false else none
  | _ => none

def DriverEvent.lwresult : DriverEvent κ → ErrT
  | .packet _ _ lwresult => lwresult
  | _ => .errOk

/-- The driver alone, and which of its calls allocate and which release a pbuf. -/
def bufferStep [PbufRealloc] (d : Driver κ) (e : DriverEvent κ) : Driver κ × List Bool :=
  let (d', calls) := driverStep d e
  (d', calls.filterMap (callKind e.lwresult))

/-- The pbuf in `lw->tc.pbuf` has a number and one reference. -/
structure Holds (s : RxHeap κ) : Prop where
  held : s.held.isSome = s.driver.tc.pbuf.isSome
  ref : ∀ p, s.driver.tc.pbuf = some p → p.ref = 1

/-- Nothing is held, or a pbuf with its number. -/
theorem Holds.cases {s : RxHeap κ} (h : Holds s) :
    (s.driver.tc.pbuf = none ∧ s.held = none) ∨
      ∃ p n, s.driver.tc.pbuf = some p ∧ s.held = some n ∧ p.ref = 1 := by
  have hheld := h.held
  cases hp : s.driver.tc.pbuf with
  | none =>
    rw [hp] at hheld
    exact .inl ⟨rfl, by simpa using hheld⟩
  | some p =>
    rw [hp] at hheld
    obtain ⟨n, hn⟩ := Option.isSome_iff_exists.mp hheld
    exact .inr ⟨p, n, rfl, hn, h.ref p hp⟩

theorem freeLeft_some {p : Pbuf} (h : p.ref = 1) :
    (freeLeft (some p) : List (Call κ)) = [.pbufFree p] := by
  show (if p.ref > 0 then [Call.pbufFree p] else []) = [Call.pbufFree p]
  rw [h]
  rfl

theorem freeTouches_eq {p : Pbuf} (h : p.ref = 1) (n : Nat) :
    freeTouches p n = [.use n, .release n] := by
  unfold freeTouches
  rw [h]
  rfl

/-- A frame handed on leaves one release, by the consumer or at the end. -/
theorem deliver_calls [PbufRealloc] (cbs : List (RawRxEntry κ)) {p : Pbuf} (h : p.ref = 1)
    (len : UInt16) (r : ErrT) :
    ((deliver cbs p len r).2 ++ freeLeft (deliver cbs p len r).1).filterMap (callKind r) =
      [false] := by
  have hfree : (freeLeft (some (pbufRealloc p len)) : List (Call κ)) =
      [.pbufFree (pbufRealloc p len)] := freeLeft_some ((pbufRealloc_ref p len).trans h)
  unfold deliver
  simp only
  split
  · rw [hfree]
    rfl
  · split
    · by_cases hr : r = .errOk
      · rw [if_pos hr]
        simp [callKind, hr, freeLeft]
      · rw [if_neg hr, hfree]
        simp [callKind, hr]
    · rw [hfree]
      rfl

/-- A frame handed on is used some times; then it is released or still held. -/
theorem deliverTouches_eq (cbs : List (RawRxEntry κ)) (p : Pbuf) (r : ErrT) (n : Nat) :
    ∃ k, deliverTouches cbs p r n = (false, List.replicate k (.use n) ++ [.release n]) ∨
      deliverTouches cbs p r n = (true, List.replicate k (.use n)) := by
  unfold deliverTouches
  simp only
  split
  · exact ⟨3, Or.inr rfl⟩
  · split
    · by_cases hr : r = .errOk
      · rw [if_pos hr]
        exact ⟨2, Or.inl rfl⟩
      · rw [if_neg hr]
        exact ⟨3, Or.inr rfl⟩
    · exact ⟨2, Or.inr rfl⟩

/-- The end of a frame with the PHY ready releases the pbuf held, whatever else happens. -/
theorem packetTouches_some (cbs : List (RawRxEntry κ)) (tc : Tc6Lib) (success : Bool)
    (len : UInt16) (r : ErrT) {p : Pbuf} (n : Nat) (hready : tc.resetComplete = true)
    (hp : tc.pbuf = some p) (h : p.ref = 1) :
    ∃ k, packetTouches cbs tc success len r (some n) =
      (none, List.replicate k (.use n) ++ [.release n]) := by
  unfold packetTouches tc6CbResetComplete
  rw [hready, hp]
  simp only [if_true, freeTouches_eq h]
  by_cases hok : packetOk tc success len = true
  · rw [if_pos hok]
    obtain ⟨k, hk | hk⟩ := deliverTouches_eq cbs p r n
    · refine ⟨k, ?_⟩
      rw [hk]
      simp
    · refine ⟨k + 1, ?_⟩
      rw [hk]
      simp [List.replicate_succ']
  · rw [if_neg hok]
    exact ⟨1, rfl⟩

theorem packet_calls [PbufRealloc] (cbs : List (RawRxEntry κ)) (tc : Tc6Lib) (success : Bool)
    (len : UInt16) (r : ErrT) {p : Pbuf} (hready : tc.resetComplete = true) (hp : tc.pbuf = some p)
    (h : p.ref = 1) :
    (tc6CbOnRxEthernetPacket cbs tc success len r).2.filterMap (callKind r) = [false] := by
  unfold tc6CbOnRxEthernetPacket tc6CbResetComplete
  rw [hready, hp]
  simp only [if_true]
  split
  · exact deliver_calls cbs h len r
  · rw [freeLeft_some h]
    rfl

theorem filterMap_uses (k n : Nat) :
    (List.replicate k (Op.use n) ++ [Op.release n]).filterMap opKind = [false] := by
  rw [List.filterMap_append, List.filterMap_replicate_of_none rfl]
  rfl

theorem slice_touches_calls (s : RxHeap κ) (pRx : List UInt8) (offset len : UInt16)
    (alloc : Option Pbuf) (h : Holds s) :
    (sliceTouches s.driver.tc offset len alloc s.next s.held).2.filterMap opKind =
      (tc6CbOnRxEthernetSlice (κ := κ) s.driver.tc pRx offset len alloc).2.filterMap
        (callKind .errOk) := by
  unfold sliceTouches tc6CbOnRxEthernetSlice
  split
  · rfl
  · split
    · rfl
    · rcases h.cases with ⟨hp, hh⟩ | ⟨p, n, hp, hh, -⟩
      · rw [hp, hh]
        cases alloc with
        | none => rfl
        | some p =>
          simp only
          split <;> rfl
      · rw [hp, hh]
        rfl

theorem packet_touches_calls [PbufRealloc] (s : RxHeap κ) (success : Bool) (len : UInt16) (r : ErrT)
    (h : Holds s) :
    (packetTouches s.driver.rawRxCallbacks s.driver.tc success len r s.held).2.filterMap opKind =
      (tc6CbOnRxEthernetPacket s.driver.rawRxCallbacks s.driver.tc success len r).2.filterMap
        (callKind r) := by
  cases hready : s.driver.tc.resetComplete with
  | false =>
    unfold packetTouches tc6CbOnRxEthernetPacket tc6CbResetComplete
    rw [hready]
    rfl
  | true =>
    rcases h.cases with ⟨hp, hh⟩ | ⟨p, n, hp, hh, href⟩
    · unfold packetTouches tc6CbOnRxEthernetPacket tc6CbResetComplete
      rw [hready, hp, hh]
      rfl
    · obtain ⟨k, hk⟩ := packetTouches_some s.driver.rawRxCallbacks s.driver.tc success len r n
        hready hp href
      rw [hh, hk, filterMap_uses, packet_calls _ _ _ _ _ hready hp href]

/-- The allocations and releases recorded are the driver's calls. -/
theorem rxHeapStep_calls [PbufRealloc] (s : RxHeap κ) (e : DriverEvent κ) (h : Holds s) :
    (rxHeapStep s e).2.filterMap opKind =
      (driverStep s.driver e).2.filterMap (callKind e.lwresult) := by
  cases e with
  | slice pRx offset len alloc => exact slice_touches_calls s pRx offset len alloc h
  | packet success len r => exact packet_touches_calls s success len r h
  | error err =>
    simp only [rxHeapStep, touches, driverStep, tc6CbOnError]
    split <;> rfl
  | event ev =>
    simp only [rxHeapStep, touches, driverStep, tc6RegsCbOnEvent]
    split <;> rfl
  | _ => rfl

/-- The pbuf that a call gives away. -/
def Call.gives : Call κ → Option Nat
  | .pbufFree p => some p.addr
  | .netifInput p => some p.addr
  | _ => none

/-- Only the pbuf in `lw->tc.pbuf` is given away, or the one that the call has just allocated. -/
def GivesOwn [PbufRealloc] (d : Driver κ) (e : DriverEvent κ) : Prop :=
  ∀ addr ∈ (driverStep d e).2.filterMap Call.gives, (∃ p, d.tc.pbuf = some p ∧ p.addr = addr) ∨
    ∃ pRx offset len p, e = .slice pRx offset len (some p) ∧ p.addr = addr

theorem gives_freeLeft (left : Option Pbuf) {addr : Nat}
    (h : addr ∈ (freeLeft left : List (Call κ)).filterMap Call.gives) :
    ∃ p, left = some p ∧ p.addr = addr := by
  cases left with
  | none => cases h
  | some p =>
    simp only [freeLeft] at h
    split at h
    · exact ⟨p, rfl, (List.mem_singleton.mp h).symm⟩
    · cases h

theorem gives_deliver [PbufRealloc] (cbs : List (RawRxEntry κ)) (p : Pbuf) (len : UInt16)
    (r : ErrT) :
    (∀ addr ∈ (deliver cbs p len r).2.filterMap Call.gives, addr = p.addr) ∧
      ∀ q, (deliver cbs p len r).1 = some q → q.addr = p.addr := by
  have haddr : (pbufRealloc p len).addr = p.addr := PbufRealloc.addr p len
  have hkept : ∀ q, some (pbufRealloc p len) = some q → q.addr = p.addr := by
    rintro q hq
    rw [← Option.some.inj hq]
    exact haddr
  unfold deliver
  simp only
  split
  · exact ⟨fun addr h => absurd h List.not_mem_nil, hkept⟩
  · split
    · refine ⟨fun addr h => (List.mem_singleton.mp h).trans haddr, fun q hq => ?_⟩
      split at hq
      · cases hq
      · exact hkept q hq
    · exact ⟨fun addr h => absurd h List.not_mem_nil, hkept⟩

theorem givesOwn [PbufRealloc] (d : Driver κ) (e : DriverEvent κ) : GivesOwn d e := by
  intro addr h
  cases e with
  | slice pRx offset len alloc =>
    simp only [driverStep, tc6CbOnRxEthernetSlice] at h
    split at h
    · cases h
    · split at h
      · cases h
      · split at h
        · cases h
        · split at h
          · cases h
          · next p =>
            split at h
            · exact .inr ⟨pRx, offset, len, p, rfl, (List.mem_singleton.mp h).symm⟩
            · cases h
  | packet success len r =>
    left
    simp only [driverStep, tc6CbOnRxEthernetPacket] at h
    split at h
    · cases hp : d.tc.pbuf with
      | none =>
        rw [hp] at h
        cases h
      | some p =>
        refine ⟨p, rfl, ?_⟩
        rw [hp] at h
        simp only at h
        split at h
        · obtain ⟨hcalls, hleft⟩ := gives_deliver d.rawRxCallbacks p len r
          rw [List.filterMap_append] at h
          rcases List.mem_append.mp h with h | h
          · exact (hcalls addr h).symm
          · obtain ⟨q, hq, rfl⟩ := gives_freeLeft _ h
            exact (hleft q hq).symm
        · obtain ⟨q, hq, rfl⟩ := gives_freeLeft (some p) h
          cases hq
          rfl
    · cases h
  | error err =>
    simp only [driverStep, tc6CbOnError] at h
    split at h <;> cases h
  | event ev =>
    simp only [driverStep, tc6RegsCbOnEvent] at h
    split at h <;> cases h
  | needService | initDone | registerRawRx => cases h

/-! ## The pbufs allocated so far -/

/-- The numbers below `next` are known, and the one held is the one alive. -/
structure RxHeapInv (s : RxHeap κ) (l : List (Op Nat)) : Prop extends Holds s where
  owned : ∃ o, Owned.empty.ops l = some o ∧ o.live = s.held.toList ∧
    ∀ n, n ∈ o.live ++ o.gone ↔ n < s.next

theorem rxHeapInv_zero : RxHeapInv (RxHeap.zero : RxHeap κ) [] :=
  ⟨⟨rfl, nofun⟩, .empty, rfl, rfl, fun n => by simp [RxHeap.zero, Owned.empty]⟩

/-- What a slice does, by whether a pbuf is held and one is allocated. -/
theorem slice_touches_cases (s : RxHeap κ) (pRx : List UInt8) (offset len : UInt16)
    (alloc : Option Pbuf) (h : Holds s) (halloc : ∀ p, alloc = some p → p.ref = 1) :
    let t := sliceTouches s.driver.tc offset len alloc s.next s.held
    let tc := (tc6CbOnRxEthernetSlice (κ := κ) s.driver.tc pRx offset len alloc).1
    (t.1.isSome = tc.pbuf.isSome ∧ ∀ p, tc.pbuf = some p → p.ref = 1) ∧
      (t = (s.held, []) ∨ (∃ n, s.held = some n ∧ t = (some n, [.use n])) ∨
        s.held = none ∧ (t = (none, [.alloc s.next, .use s.next, .release s.next]) ∨
          t = (some s.next, [.alloc s.next, .use s.next, .use s.next]))) := by
  unfold sliceTouches tc6CbOnRxEthernetSlice
  split
  · exact ⟨⟨h.held, h.ref⟩, Or.inl rfl⟩
  · split
    · exact ⟨⟨h.held, h.ref⟩, Or.inl rfl⟩
    · rcases h.cases with ⟨hp, hh⟩ | ⟨p, n, hp, hh, hone⟩
      · rw [hp, hh]
        cases alloc with
        | none =>
          refine ⟨⟨?_, fun q hq => ?_⟩, Or.inl rfl⟩
          · rfl
          · cases hq
        | some p =>
          simp only
          by_cases hc : p.chained = true
          · rw [if_pos hc, if_pos hc]
            exact ⟨⟨rfl, nofun⟩, Or.inr (Or.inr ⟨trivial, Or.inl rfl⟩)⟩
          · rw [if_neg hc, if_neg hc]
            refine ⟨⟨rfl, fun q hq => ?_⟩, Or.inr (Or.inr ⟨trivial, Or.inr rfl⟩)⟩
            obtain rfl := Option.some.inj hq
            exact halloc p rfl
      · rw [hp, hh]
        refine ⟨⟨rfl, fun q hq => ?_⟩, Or.inr (Or.inl ⟨n, rfl, rfl⟩)⟩
        obtain rfl := Option.some.inj hq
        exact hone

theorem not_known {o : Owned Nat} {next : Nat} (h : ∀ n, n ∈ o.live ++ o.gone ↔ n < next) :
    next ∉ o.live ++ o.gone := fun hm => Nat.lt_irrefl next ((h next).mp hm)

theorem known_succ {known known' : List Nat} {next : Nat} (h : ∀ n, n ∈ known ↔ n < next)
    (hp : known'.Perm (next :: known)) : ∀ n, n ∈ known' ↔ n < next + 1 := by
  intro n
  rw [hp.mem_iff, List.mem_cons, h n]
  omega

/-- A slice keeps the books. -/
theorem rxHeapInv_slice [PbufRealloc] (s : RxHeap κ) (l : List (Op Nat)) (pRx : List UInt8)
    (offset len : UInt16) (alloc : Option Pbuf) (h : RxHeapInv s l)
    (halloc : ∀ p, alloc = some p → p.ref = 1) :
    RxHeapInv (rxHeapStep s (.slice pRx offset len alloc)).1
      (l ++ (rxHeapStep s (.slice pRx offset len alloc)).2) := by
  obtain ⟨⟨hheld', href'⟩, hcases⟩ := slice_touches_cases s pRx offset len alloc h.toHolds halloc
  obtain ⟨o, hops, hlive, hknown⟩ := h.owned
  have hnew := not_known hknown
  refine ⟨⟨hheld', href'⟩, ?_⟩
  simp only [rxHeapStep, touches]
  rcases hcases with ht | ⟨n, hn, ht⟩ | ⟨hn, ht | ht⟩
  · rw [ht]
    exact ⟨o, ops_append_eq_some.mpr ⟨o, hops, rfl⟩, hlive, hknown⟩
  · rw [ht]
    rw [hn] at hlive
    have hm : n ∈ o.live := by rw [hlive]; exact List.mem_singleton_self n
    exact ⟨o, ops_append_eq_some.mpr ⟨o, hops, ops_uses hm 1 []⟩, hlive, hknown⟩
  · -- allocated in several pieces, and freed at once
    rw [ht]
    rw [hn] at hlive
    refine ⟨⟨o.live, s.next :: o.gone⟩, ops_append_eq_some.mpr ⟨o, hops, ?_⟩, hlive, ?_⟩
    · simp [Owned.ops, Owned.op, hnew]
    · exact known_succ hknown List.perm_middle
  · rw [ht]
    rw [hn] at hlive
    refine ⟨⟨s.next :: o.live, o.gone⟩, ops_append_eq_some.mpr ⟨o, hops, ?_⟩, ?_, ?_⟩
    · simp [Owned.ops, Owned.op, hnew]
    · rw [hlive]
      rfl
    · exact known_succ hknown (List.Perm.refl _)

/-- What the end of a frame does: nothing, or the pbuf held is released. -/
theorem packet_touches_cases [PbufRealloc] (s : RxHeap κ) (success : Bool) (len : UInt16) (r : ErrT)
    (h : Holds s) :
    let t := packetTouches s.driver.rawRxCallbacks s.driver.tc success len r s.held
    let tc := (tc6CbOnRxEthernetPacket s.driver.rawRxCallbacks s.driver.tc success len r).1
    t = (s.held, []) ∧ tc.pbuf = s.driver.tc.pbuf ∨
      ∃ n k, s.held = some n ∧ t = (none, List.replicate k (.use n) ++ [.release n]) ∧
        tc.pbuf = none := by
  have hpbuf : (tc6CbOnRxEthernetPacket s.driver.rawRxCallbacks s.driver.tc success len r).1.pbuf =
      if s.driver.tc.resetComplete then none else s.driver.tc.pbuf := by
    unfold tc6CbOnRxEthernetPacket tc6CbResetComplete
    split <;> rfl
  cases hready : s.driver.tc.resetComplete with
  | false =>
    rw [hready] at hpbuf
    refine Or.inl ⟨?_, hpbuf⟩
    unfold packetTouches tc6CbResetComplete
    rw [hready]
    rfl
  | true =>
    rw [hready] at hpbuf
    rcases h.cases with ⟨hp, hh⟩ | ⟨p, n, hp, hh, href⟩
    · rw [hp, hh]
      refine Or.inl ⟨?_, hpbuf⟩
      unfold packetTouches tc6CbResetComplete
      rw [hready, hp]
      rfl
    · obtain ⟨k, hk⟩ := packetTouches_some s.driver.rawRxCallbacks s.driver.tc success len r n
        hready hp href
      rw [hh]
      exact Or.inr ⟨n, k, rfl, hk, hpbuf⟩

theorem rxHeapInv_quiet [PbufRealloc] (s : RxHeap κ) (l : List (Op Nat)) (e : DriverEvent κ)
    (h : RxHeapInv s l) (ht : touches s e = (s.held, []))
    (hpbuf : (driverStep s.driver e).1.tc.pbuf = s.driver.tc.pbuf) :
    RxHeapInv (rxHeapStep s e).1 (l ++ (rxHeapStep s e).2) := by
  simp only [rxHeapStep, ht, List.append_nil]
  refine ⟨⟨?_, ?_⟩, h.owned⟩
  · simp only [hpbuf]
    exact h.held
  · simp only [hpbuf]
    exact h.ref

/-- The end of a frame keeps the books. -/
theorem rxHeapInv_packet [PbufRealloc] (s : RxHeap κ) (l : List (Op Nat)) (success : Bool)
    (len : UInt16) (r : ErrT) (h : RxHeapInv s l) :
    RxHeapInv (rxHeapStep s (.packet success len r)).1
      (l ++ (rxHeapStep s (.packet success len r)).2) := by
  obtain ⟨o, hops, hlive, hknown⟩ := h.owned
  rcases packet_touches_cases s success len r h.toHolds with ⟨ht, hpbuf⟩ | ⟨n, k, hn, ht, hpbuf⟩
  · exact rxHeapInv_quiet s l _ h ht hpbuf
  · refine ⟨⟨?_, ?_⟩, ?_⟩
    · simp only [rxHeapStep, touches, driverStep, ht, hpbuf]
      rfl
    · simp only [rxHeapStep, driverStep, hpbuf]
      intro p hp'
      cases hp'
    · rw [hn] at hlive
      have hm : n ∈ o.live := by rw [hlive]; exact List.mem_singleton_self n
      have hallocs : (List.replicate k (Op.use n) ++ [Op.release n]).countP Op.isAlloc = 0 := by
        rw [List.countP_append, List.countP_replicate]
        rfl
      simp only [rxHeapStep, touches, ht, hallocs]
      refine ⟨⟨o.live.erase n, n :: o.gone⟩, ops_append_eq_some.mpr ⟨o, hops, ?_⟩, ?_, ?_⟩
      · rw [ops_uses hm]
        simp [Owned.ops, Owned.op, hm]
      · rw [hlive]
        exact List.erase_cons_head n []
      · intro j
        rw [(erase_perm hm).mem_iff, hknown j, Nat.add_zero]

/-- What one callback preserves. -/
theorem rxHeapInv_step [PbufRealloc] (l : List (Op Nat)) (s : RxHeap κ) (e : DriverEvent κ)
    (h : RxHeapInv s l) (he : AllocRefOne s e) :
    RxHeapInv (rxHeapStep s e).1 (l ++ (rxHeapStep s e).2) := by
  cases e with
  | slice pRx offset len alloc => exact rxHeapInv_slice s l pRx offset len alloc h he
  | packet success len r => exact rxHeapInv_packet s l success len r h
  | error err =>
    refine rxHeapInv_quiet s l _ h rfl ?_
    simp only [driverStep, tc6CbOnError]
    split <;> rfl
  | event ev =>
    refine rxHeapInv_quiet s l _ h rfl ?_
    simp only [driverStep, tc6RegsCbOnEvent]
    repeat' split
    all_goals rfl
  | initDone =>
    exact rxHeapInv_quiet s l _ h rfl (by rw [driverStep_initDone_tc])
  | registerRawRx etherType callback =>
    exact rxHeapInv_quiet s l _ h rfl (by rw [driverStep_registerRawRx_tc])
  | needService => exact rxHeapInv_quiet s l _ h rfl rfl

/-- A run keeps the books, and what it records are the driver's calls. -/
theorem rxHeap_run [PbufRealloc] (es : List (DriverEvent κ))
    (h : Along rxHeapStep AllocRefOne .zero es) :
    RxHeapInv (exec rxHeapStep .zero es) (emits rxHeapStep .zero es) ∧
      (exec rxHeapStep .zero es).driver = exec bufferStep .zero es ∧
      (emits rxHeapStep .zero es).filterMap opKind = emits bufferStep .zero es := by
  refine history_inv rxHeapStep AllocRefOne (fun js l s => RxHeapInv s l ∧
    s.driver = exec bufferStep .zero js ∧ l.filterMap opKind = emits bufferStep .zero js)
    ?_ es [] [] .zero ⟨rxHeapInv_zero, rfl, rfl⟩ h
  rintro js l s e ⟨hs, hdriver, hcalls⟩ he
  refine ⟨rxHeapInv_step l s e hs he, ?_, ?_⟩
  · rw [exec_append, ← hdriver]
    rfl
  · rw [List.filterMap_append, hcalls, rxHeapStep_calls s e hs.toHolds, emits_append, ← hdriver,
      emits_cons, emits_nil, List.append_nil]
    rfl

/-- **Receive buffers.**  In every run of the driver, whatever `pbuf_alloc` and `netif.input`
answer: its calls are the allocations and releases recorded, and give away its own pbuf; pbufs are
allocated one after the other, each is released once unless it is the one held, the allocations
exceed the releases by one exactly while `lw->tc.pbuf` is not NULL, and nothing touches a pbuf that
was released. -/
theorem rx_buffers [PbufRealloc] (es : List (DriverEvent κ))
    (h : Along rxHeapStep AllocRefOne .zero es) :
    let s := exec rxHeapStep .zero es
    let l := emits rxHeapStep .zero es
    (s.driver = exec bufferStep .zero es ∧ l.filterMap opKind = emits bufferStep .zero es ∧
        Along bufferStep GivesOwn .zero es) ∧
      (∀ n, l.count (.alloc n) = if n < s.next then 1 else 0) ∧
      (∀ n, l.count (.release n) = if n < s.next ∧ s.held ≠ some n then 1 else 0) ∧
      l.countP Op.isAlloc =
        l.countP Op.isRelease + (if s.driver.tc.pbuf.isSome then 1 else 0) ∧
      ∀ n before after, l = before ++ .release n :: after → ∀ x ∈ after, x.target ≠ n := by
  intro s l
  obtain ⟨hinv, hdriver, hcalls⟩ : RxHeapInv s l ∧ _ := rxHeap_run es h
  obtain ⟨o, hops, hlive, hknown⟩ := hinv.owned
  have hwf : o.WellFormed := wellFormed_ops l wellFormed_empty hops
  refine ⟨⟨hdriver, hcalls, along_of_step bufferStep GivesOwn givesOwn .zero es⟩, ?_, ?_, ?_, ?_⟩
  · intro n
    have hc := count_alloc_ops l n hops
    rw [hwf.count, if_congr (hknown n) rfl rfl] at hc
    exact hc
  · intro n
    have hc := count_release_ops l n hops
    have hgone : n ∈ o.gone ↔ n < s.next ∧ s.held ≠ some n := by
      rw [← hknown n, List.mem_append, hlive, Option.mem_toList]
      constructor
      · intro hg
        refine ⟨Or.inr hg, fun hh => ?_⟩
        have hl : n ∈ o.live := by rw [hlive, hh]; exact List.mem_singleton_self n
        exact (List.nodup_append.mp hwf).2.2 n hl n hg rfl
      · rintro ⟨hl | hg, hh⟩
        · exact absurd hl hh
        · exact hg
    rw [(List.nodup_append.mp hwf).2.1.count, if_congr hgone rfl rfl] at hc
    exact hc
  · have hc := countP_ops l hops
    have hc : l.countP Op.isAlloc = l.countP Op.isRelease + o.live.length := hc
    rw [hc, hlive, ← hinv.held]
    cases s.held <;> rfl
  · rintro n before after he
    rw [he] at hops
    obtain ⟨o1, h1, h2⟩ := ops_append_eq_some.mp hops
    obtain ⟨o2, hrel, h3⟩ := ops_cons_eq_some.mp h2
    have hwf1 : o1.WellFormed := wellFormed_ops before wellFormed_empty h1
    have hwf2 := wellFormed_op hwf1 hrel
    obtain ⟨-, rfl⟩ := op_release hrel
    exact untouched_of_gone after n hwf2 List.mem_cons_self h3

/-- A pbuf as the heap gives it, in one piece or not. -/
def rxResetPbuf (chained : Bool) : Pbuf := ⟨0x2000, [], 1518, 1518, 1, chained⟩

/-- A slice, a lost sync, the end of the frame during the reset and another after it; then a
chained allocation. -/
def rxResetRun : List (DriverEvent Unit) :=
  [.event .resetComplete, .slice [1, 2] 0 2 (some (rxResetPbuf false)), .error .syncLost,
    .packet true 2 .errOk, .event .resetComplete, .packet true 2 .errOk,
    .slice [1, 2] 0 2 (some (rxResetPbuf true))]

theorem rxResetRun_refOne [PbufRealloc] : Along rxHeapStep AllocRefOne .zero rxResetRun := by
  refine ⟨trivial, ?_, trivial, trivial, trivial, trivial, ?_, trivial⟩ <;>
    · rintro p hp
      cases hp
      rfl

section
attribute [local instance] singlePbuf

/-- Both pbufs are released, each once. -/
theorem rx_buffers_reset :
    (emits rxHeapStep .zero rxResetRun).count (.release 0) = 1 ∧
      (emits rxHeapStep .zero rxResetRun).count (.release 1) = 1 ∧
      (exec rxHeapStep .zero rxResetRun).driver.tc.pbuf = none :=
  have h := (rx_buffers rxResetRun rxResetRun_refOne).2.2.1
  ⟨h 0, h 1, rfl⟩

end

end CuriosityT1S
