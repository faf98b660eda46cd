import CuriosityT1S.Iperf
import CuriosityT1S.Lib.Mealy
import CuriosityT1S.Lib.Memory
import Mathlib.Tactic.IntervalCases

/-!
# The datagrams of the throughput client (udp_perf_client.c)

A datagram is the first `iPayloadSize` bytes of the pattern with the id stored over its first four.
`iperf_set_packet_size` has an upper limit only: with a size below four the store goes past the
end of the buffer.

    datagram_layout:    a datagram from four bytes on
    laidOut_iff:        one datagram
    layout_right_iff:   in every run each datagram is laid out as it should be if and only if none
                        is shorter than the id, and the pattern is there
-/

namespace CuriosityT1S

open Mealy Splice

/-! ## Building a datagram -/

/-- `(i % 10) + '0'` -/
def patternByte (i : Nat) : UInt8 := UInt8.ofNat (i % 10) + 0x30

/-- `iPayload` after `iperf_init`, which fills it last. -/
def iperfInit (udpNew : Bool) (udpBind : ErrT) : List UInt8 :=
  if udpNew && udpBind = .errOk then (List.range udpSendBufsize.toNat).map patternByte
  else List.replicate udpSendBufsize.toNat 0

/-- The bytes are swapped: the processor is little-endian. -/
def htonl (x : UInt32) : UInt32 :=
  ((x &&& 0x000000FF) <<< 24) ||| ((x &&& 0x0000FF00) <<< 8) ||| ((x &&& 0x00FF0000) >>> 8) |||
    ((x &&& 0xFF000000) >>> 24)

/-- What a store through an `int32_t *` writes. -/
def wordBytes (w : UInt32) : List UInt8 :=
  [w.toUInt8, (w >>> 8).toUInt8, (w >>> 16).toUInt8, (w >>> 24).toUInt8]

structure Store where
  offset : Nat
  bytes : List UInt8
deriving DecidableEq, Repr

/-- The stores into the payload of the pbuf: `pbuf_take` and the id. -/
def datagramStores (iPayload : List UInt8) (size : UInt16) (packetId : UInt32) : List Store :=
  [⟨0, iPayload.take size.toNat⟩, ⟨0, wordBytes (htonl packetId)⟩]

/-- A datagram as it is handed to `udp_sendto`: the payload of the pbuf, and all that was stored
while it was built. -/
structure Datagram where
  packetId : UInt32
  payload : List UInt8
  stores : List Store
deriving DecidableEq, Repr

/-- What is left in `size` bytes of memory, all of them stored to, by the stores; one past the end
is cut off. -/
def storeAll (size : Nat) (stores : List Store) : List UInt8 :=
  (stores.foldl (fun mem w => splice mem w.bytes w.offset) (List.replicate size 0)).take size

def buildDatagram (iPayload : List UInt8) (size : UInt16) (packetId : UInt32) : Datagram :=
  let stores := datagramStores iPayload size packetId
  ⟨packetId, storeAll size.toNat stores, stores⟩

/-- The datagram of a call. -/
def IperfCall.datagram (iPayload : List UInt8) : IperfCall → Option Datagram
  | .udpSendto packetId size => some (buildDatagram iPayload size packetId)
  | _ => none

/-! ## What it should be -/

def bigEndian (id : UInt32) : List UInt8 :=
  [(id >>> 24).toUInt8, (id >>> 16).toUInt8, (id >>> 8).toUInt8, id.toUInt8]

/-- The datagram has `size` bytes, the id in front and the pattern behind it, and nothing was stored
outside of it. -/
structure LaidOut (size : Nat) (d : Datagram) : Prop where
  length : d.payload.length = size
  limit : size ≤ 1460
  id : d.payload.take 4 = bigEndian d.packetId
  pattern : ∀ i, 4 ≤ i → i < size → d.payload[i]? = some (patternByte i)
  inside : ∀ w ∈ d.stores, w.offset + w.bytes.length ≤ size

/-! ## Runs -/

inductive LayoutOp
  | setPacketSize (packetLength : UInt16)
  | send (finished : Bool) (a : IperfSend)
deriving DecidableEq, Repr

/-- The module with its pattern, and the size it was last told to use, at most 1460. -/
structure Layout where
  iperf : Iperf
  iPayload : List UInt8
  configured : Nat
deriving DecidableEq, Repr

def layoutStep (s : Layout) : LayoutOp → Layout × List Datagram
  | .setPacketSize packetLength =>
    ({ s with iperf := iperfSetPacketSize s.iperf packetLength
              configured := min packetLength.toNat 1460 }, [])
  | .send finished a =>
    let (iperf, _, calls) := udpPacketSend s.iperf finished a
    ({ s with iperf := iperf }, calls.filterMap (IperfCall.datagram s.iPayload))

def Layout.start (udpNew : Bool) (udpBind : ErrT) : Layout :=
  ⟨.zero, iperfInit udpNew udpBind, 1460⟩

def LayoutRight (s : Layout) (op : LayoutOp) : Prop :=
  ∀ d ∈ (layoutStep s op).2, LaidOut s.configured d

/-- A datagram that is built is not shorter than the id, and has the pattern unless it is all
id. -/
def RoomForId (filled : Bool) (s : Layout) : LayoutOp → Prop
  | .setPacketSize _ => True
  | .send _ a => a.offered = true → 4 ≤ s.configured ∧ (filled = true ∨ s.configured = 4)

instance (filled : Bool) (s : Layout) (op : LayoutOp) : Decidable (RoomForId filled s op) := by
  unfold RoomForId
  split <;> infer_instance

/-! ## The id -/

theorem toUInt8_ext {a b : UInt32}
    (h : ∀ i < 8, a.toBitVec.getLsbD i = b.toBitVec.getLsbD i) : a.toUInt8 = b.toUInt8 := by
  apply UInt8.toBitVec_inj.mp
  apply BitVec.eq_of_getLsbD_eq
  intro i hi
  rw [UInt32.toBitVec_toUInt8, UInt32.toBitVec_toUInt8, BitVec.getLsbD_setWidth,
    BitVec.getLsbD_setWidth, h i hi]

/-- A word swapped and stored little-endian is stored big-endian. -/
theorem wordBytes_htonl (id : UInt32) : wordBytes (htonl id) = bigEndian id := by
  unfold wordBytes bigEndian htonl
  simp only [List.cons.injEq, and_true]
  refine ⟨?_, ?_, ?_, ?_⟩
  all_goals
    apply toUInt8_ext
    intro i hi
    interval_cases i <;> simp

/-! ## One datagram -/

theorem splice_zero (mem data : List UInt8) : splice mem data 0 = data ++ mem.drop data.length := by
  unfold splice
  rw [List.take_zero, List.nil_append, Nat.zero_add]

theorem iperfInit_length (udpNew : Bool) (udpBind : ErrT) :
    (iperfInit udpNew udpBind).length = 1460 := by
  unfold iperfInit
  split
  · rw [List.length_map, List.length_range]
    rfl
  · rw [List.length_replicate]
    rfl

/-- The id over the first four bytes of the pattern, as far as they are there. -/
theorem buildDatagram_payload (iPayload : List UInt8) (size : UInt16) (id : UInt32)
    (h : size.toNat ≤ iPayload.length) :
    (buildDatagram iPayload size id).payload =
      (bigEndian id ++ (iPayload.take size.toNat).drop 4).take size.toNat := by
  have hlen : (iPayload.take size.toNat).length = size.toNat := by
    rw [List.length_take]
    omega
  have hfull : (List.replicate size.toNat (0 : UInt8)).drop size.toNat = [] :=
    List.drop_eq_nil_of_le (by rw [List.length_replicate])
  unfold buildDatagram datagramStores storeAll
  simp only [List.foldl_cons, List.foldl_nil, splice_zero, wordBytes_htonl, hlen, hfull,
    List.append_nil]
  rfl

/-- A datagram that has room for its id. -/
theorem datagram_layout (iPayload : List UInt8) (size : UInt16) (id : UInt32)
    (h : size.toNat ≤ iPayload.length) (h4 : 4 ≤ size.toNat) :
    let d := buildDatagram iPayload size id
    d.payload.length = size.toNat ∧ d.payload.take 4 = bigEndian id ∧
      (∀ i, 4 ≤ i → i < size.toNat → d.payload[i]? = iPayload[i]?) ∧
      ∀ w ∈ d.stores, w.offset + w.bytes.length ≤ size.toNat := by
  have hid : (bigEndian id).length = 4 := rfl
  have hlen : (bigEndian id ++ (iPayload.take size.toNat).drop 4).length = size.toNat := by
    rw [List.length_append, List.length_drop, List.length_take, hid]
    omega
  have hpayload : (buildDatagram iPayload size id).payload =
      bigEndian id ++ (iPayload.take size.toNat).drop 4 := by
    rw [buildDatagram_payload iPayload size id h, List.take_of_length_le (Nat.le_of_eq hlen)]
  intro d
  refine ⟨?_, ?_, ?_, ?_⟩
  · rw [hpayload, hlen]
  · rw [hpayload]
    exact List.take_left' hid
  · intro i hi hlt
    rw [hpayload, List.getElem?_append_right (by omega), List.getElem?_drop, hid]
    have hsum : 4 + (i - 4) = i := by omega
    rw [hsum, List.getElem?_take_of_lt hlt]
  · intro w hw
    have hcases : w = ⟨0, iPayload.take size.toNat⟩ ∨ w = ⟨0, wordBytes (htonl id)⟩ := by
      simpa [buildDatagram, datagramStores, d] using hw
    rcases hcases with rfl | rfl
    · rw [Nat.zero_add, List.length_take]
      exact Nat.min_le_left _ _
    · show 0 + 4 ≤ size.toNat
      omega

/-- The bytes of the pattern, or zeros. -/
theorem iperfInit_getElem? (udpNew : Bool) (udpBind : ErrT) (i : Nat) (hi : i < 1460) :
    (iperfInit udpNew udpBind)[i]? =
      some (if udpNew && udpBind = .errOk then patternByte i else 0) := by
  have hi' : i < udpSendBufsize.toNat := hi
  unfold iperfInit
  split
  · rw [List.getElem?_map, List.getElem?_range hi']
    rfl
  · rw [List.getElem?_replicate, if_pos hi']

/-- **One datagram.**  It is laid out as it should be if and only if it has room for the id, and
the pattern is there unless it is all id. -/
theorem laidOut_iff (udpNew : Bool) (udpBind : ErrT) (size : UInt16) (id : UInt32)
    (h : size.toNat ≤ 1460) :
    LaidOut size.toNat (buildDatagram (iperfInit udpNew udpBind) size id) ↔
      4 ≤ size.toNat ∧ ((udpNew && udpBind = .errOk) = true ∨ size.toNat = 4) := by
  have hlen := iperfInit_length udpNew udpBind
  by_cases h4 : 4 ≤ size.toNat
  · obtain ⟨hlength, hid, hrest, hinside⟩ :=
      datagram_layout (iperfInit udpNew udpBind) size id (by omega) h4
    constructor
    · intro hlaid
      refine ⟨h4, ?_⟩
      by_contra hnot
      have hbyte := hlaid.pattern 4 (Nat.le_refl 4) (by omega)
      have hbad : ¬ (udpNew && udpBind = .errOk) = true := fun hc => hnot (Or.inl hc)
      rw [hrest 4 (Nat.le_refl 4) (by omega), iperfInit_getElem? _ _ 4 (by omega),
        if_neg hbad] at hbyte
      revert hbyte
      decide
    · rintro ⟨-, hfilled⟩
      refine ⟨hlength, h, hid, ?_, hinside⟩
      intro i hi hlt
      rw [hrest i hi hlt, iperfInit_getElem? _ _ i (by omega)]
      rcases hfilled with hf | hf
      · rw [if_pos hf]
      · omega
  · constructor
    · intro hlaid
      have hstore := hlaid.inside ⟨0, wordBytes (htonl id)⟩
        (by simp [buildDatagram, datagramStores])
      exact absurd hstore (by show ¬ 0 + 4 ≤ size.toNat; omega)
    · intro hc
      exact absurd hc.1 h4

/-! ## All of them -/

/-- The size in use is the one that was set, within the limit. -/
structure LayoutInv (udpNew : Bool) (udpBind : ErrT) (s : Layout) : Prop where
  payload : s.iPayload = iperfInit udpNew udpBind
  size : s.iperf.iPayloadSize.toNat = s.configured
  limit : s.configured ≤ 1460

theorem layoutInv_start (udpNew : Bool) (udpBind : ErrT) :
    LayoutInv udpNew udpBind (Layout.start udpNew udpBind) := ⟨rfl, rfl, Nat.le_refl _⟩

theorem udpSendBufsize_toNat : udpSendBufsize.toNat = 1460 := rfl

theorem iperfSetPacketSize_toNat (p : Iperf) (packetLength : UInt16) :
    (iperfSetPacketSize p packetLength).iPayloadSize.toNat = min packetLength.toNat 1460 := by
  unfold iperfSetPacketSize
  simp only
  split
  · next hlt =>
    have hnat := UInt16.lt_iff_toNat_lt.mp hlt
    rw [udpSendBufsize_toNat] at hnat
    omega
  · next hge =>
    have hnat := UInt16.lt_iff_toNat_lt.not.mp hge
    rw [udpSendBufsize_toNat] at hnat ⊢
    omega

/-- A send builds one datagram if it gets as far as `udp_sendto`, and keeps the size. -/
theorem udpPacketSend_datagrams (p : Iperf) (finished : Bool) (a : IperfSend)
    (iPayload : List UInt8) :
    (udpPacketSend p finished a).1.iPayloadSize = p.iPayloadSize ∧
      (udpPacketSend p finished a).2.2.filterMap (IperfCall.datagram iPayload) =
        if a.offered then [buildDatagram iPayload p.iPayloadSize (nextId p finished)] else [] := by
  rcases udpPacketSend_cases p finished a with ⟨hoff, -, he | he⟩ | ⟨hoff, -, -, he⟩ |
    ⟨hoff, -, -, he⟩ | ⟨hfatal, he⟩
  · rw [he, hoff]
    exact ⟨rfl, rfl⟩
  · rw [he, hoff]
    exact ⟨rfl, rfl⟩
  · rw [he, hoff]
    exact ⟨rfl, rfl⟩
  · rw [he, hoff]
    exact ⟨rfl, rfl⟩
  · rw [he, (a.fatal_iff.mp hfatal).1]
    exact ⟨rfl, rfl⟩

theorem layoutInv_step (udpNew : Bool) (udpBind : ErrT) (s : Layout) (op : LayoutOp)
    (h : LayoutInv udpNew udpBind s) : LayoutInv udpNew udpBind (layoutStep s op).1 := by
  match op with
  | .setPacketSize packetLength =>
    exact ⟨h.payload, iperfSetPacketSize_toNat s.iperf packetLength, Nat.min_le_right _ _⟩
  | .send finished a =>
    obtain ⟨hsize, -⟩ := udpPacketSend_datagrams s.iperf finished a s.iPayload
    refine ⟨h.payload, ?_, h.limit⟩
    show (udpPacketSend s.iperf finished a).1.iPayloadSize.toNat = s.configured
    rw [hsize]
    exact h.size

theorem layoutRight_step_iff (udpNew : Bool) (udpBind : ErrT) (s : Layout) (op : LayoutOp)
    (h : LayoutInv udpNew udpBind s) :
    LayoutRight s op ↔ RoomForId (udpNew && udpBind = .errOk) s op := by
  match op with
  | .setPacketSize packetLength =>
    constructor
    · intro _
      trivial
    · intro _ d hd
      cases hd
  | .send finished a =>
    have hbuilt := (udpPacketSend_datagrams s.iperf finished a s.iPayload).2
    have hout : (layoutStep s (.send finished a)).2 =
        if a.offered then [buildDatagram (iperfInit udpNew udpBind) s.iperf.iPayloadSize
          (nextId s.iperf finished)] else [] := by
      rw [← h.payload]
      exact hbuilt
    have hlaid := laidOut_iff udpNew udpBind s.iperf.iPayloadSize (nextId s.iperf finished)
      (by rw [h.size]; exact h.limit)
    rw [h.size] at hlaid
    unfold LayoutRight RoomForId
    rw [hout]
    by_cases hoff : a.offered = true
    · rw [if_pos hoff]
      simp only [List.mem_singleton, forall_eq, hoff, forall_const]
      exact hlaid
    · rw [if_neg hoff]
      constructor
      · intro _ hc
        exact absurd hc hoff
      · intro _ d hd
        cases hd

/-- **Datagram layout.**  In every run of the setter, with any argument, and of sends, each
datagram has the configured size, its id and the pattern, and nothing is stored outside of it, if
and only if no datagram is sent with a size below four, and none longer than four when the pattern
has not been filled in. -/
theorem layout_right_iff (udpNew : Bool) (udpBind : ErrT) (ops : List LayoutOp) :
    Along layoutStep LayoutRight (Layout.start udpNew udpBind) ops ↔
      Along layoutStep (RoomForId (udpNew && udpBind = .errOk)) (Layout.start udpNew udpBind) ops :=
  along_congr layoutStep (fun _ _ => True) LayoutRight (RoomForId (udpNew && udpBind = .errOk))
    (LayoutInv udpNew udpBind) (fun s op h _ => layoutInv_step udpNew udpBind s op h)
    (fun s op h _ => layoutRight_step_iff udpNew udpBind s op h) ops
    (Layout.start udpNew udpBind) (layoutInv_start udpNew udpBind)
    (along_true layoutStep (Layout.start udpNew udpBind) ops)

/-- A datagram of two bytes. -/
theorem layoutStep_two (iPayload : List UInt8) (configured : Nat) :
    let s := (layoutStep ⟨.zero, iPayload, configured⟩ (.setPacketSize 2)).1
    s.configured = 2 ∧ (layoutStep s (.send false sendTaken)).2 = [buildDatagram iPayload 2 1] :=
  ⟨rfl, rfl⟩

/-- The id is stored over four bytes. -/
theorem layout_not_always_right :
    ¬ ∀ ops : List LayoutOp, Along layoutStep LayoutRight (Layout.start true .errOk) ops := by
  intro h
  obtain ⟨-, hsend, -⟩ := h [.setPacketSize 2, .send false sendTaken]
  obtain ⟨hsize, hout⟩ := layoutStep_two (iperfInit true .errOk) 1460
  unfold LayoutRight Layout.start at hsend
  rw [hsize, hout] at hsend
  have hlaid := hsend _ (List.mem_singleton_self _)
  have hlong := ((laidOut_iff true .errOk 2 1 (by decide)).mp hlaid).1
  revert hlong
  decide

end CuriosityT1S
