import CuriosityT1S.FrameStream
import CuriosityT1S.LedMirror

/-!
# Raw heartbeats through the driver (eth_heartbeat.c, tc6-lwip.c)

A raw heartbeat is a frame of 15 bytes, and the receiving driver drops a frame of less than 42: it
depends on the MAC to append the missing 27.  Here heartbeats go from the SERVER's module through
slices and the driver of the other board to the CLIENT's.

    raw_heartbeats_shown:  the CLIENT shows and answers the heartbeats that were padded and
                           found a buffer, in their order, and no others
-/

namespace CuriosityT1S

open Mealy

/-! ## Boards -/

/-- `m_tx_frame` of a heartbeat. -/
def heartbeatFrame (mac : Vector UInt8 6) (ledState : UInt8) : List UInt8 :=
  broadcastMac ++ mac.toList ++ [0x88, 0xB5, ledState]

/-- A heartbeat, and what becomes of its frame; `trailer` is what the MAC appends. -/
structure Beat where
  ledState : UInt8
  nowUs : UInt64
  trailer : List UInt8
  carriage : Carriage Unit

def beatStep (h : EthHb) (b : Beat) : EthHb × List HbCall :=
  ethHeartbeatSend h b.ledState b.nowUs true

/-- The frame is carried as it is in `m_tx_frame` after the send. -/
def Beat.Carried (h : EthHb) (b : Beat) : Prop :=
  b.carriage.Ok ∧ b.carriage.frame = (beatStep h b).1.txFrame ++ b.trailer

/-- There is a buffer for it, and it has been padded. -/
def Beat.arrives (b : Beat) : Bool := usable b.carriage.alloc && decide (27 ≤ b.trailer.length)

/-- What the raw callback is called with. -/
def Call.raw : Call Unit → Option (List UInt8 × UInt16)
  | .rawRxCallback _ pFrame len => some (pFrame, len)
  | _ => none

/-- The callback, and the clock that it reads. -/
def rawHandlerStep (h : EthHb) (r : (List UInt8 × UInt16) × UInt64) : EthHb × List HbCall :=
  ethHeartbeatRxHandler h r.1.1 r.1.2 r.2 true

/-- What goes back: `m_tx_frame` as the callback leaves it, for each frame it sends. -/
def rawAnswerStep (h : EthHb) (r : (List UInt8 × UInt16) × UInt64) : EthHb × List (List UInt8) :=
  let (h, calls) := rawHandlerStep h r
  (h, (calls.filterMap HbCall.slot).map fun _ => h.txFrame)

/-! ## Sending -/

theorem heartbeatFrame_length (mac : Vector UInt8 6) (v : UInt8) :
    (heartbeatFrame mac v).length = 15 := by
  simp [heartbeatFrame, broadcastMac]

theorem heartbeatFrame_getD (mac : Vector UInt8 6) (v : UInt8) (trailer : List UInt8) :
    etherType (heartbeatFrame mac v ++ trailer) = ethHbEthertype ∧
      (heartbeatFrame mac v ++ trailer).getD ethHbHdrSize 0 = v := by
  have hlen : (broadcastMac ++ mac.toList).length = 12 := by simp [broadcastMac]
  have hget : ∀ i, (heartbeatFrame mac v ++ trailer).getD (12 + i) 0 =
      ([0x88, 0xB5, v] ++ trailer).getD i 0 := by
    intro i
    unfold heartbeatFrame
    rw [List.append_assoc, List.getD_eq_getElem?_getD,
      List.getElem?_append_right (by rw [hlen]; exact Nat.le_add_right _ _), hlen,
      Nat.add_sub_cancel_left, List.getD_eq_getElem?_getD]
  refine ⟨?_, hget 2⟩
  unfold etherType
  rw [hget 0, hget 1]
  show (0x88 : UInt8).toUInt16 <<< 8 ||| (0xB5 : UInt8).toUInt16 = ethHbEthertype
  decide

theorem ethHbSendFrame_txFrame {h : EthHb} (hidx : h.tc6Idx = 0) (payload : UInt8) (tc6 : Bool) :
    (ethHbSendFrame h payload tc6).1.txFrame = heartbeatFrame h.ourMac payload := by
  have hn : tc6LwipGetNetIf h.tc6Idx = true := by rw [hidx]; decide
  simp only [ethHbSendFrame, hn]
  rfl

theorem beatStep_server {h : EthHb} (hok : EthOk .server h) (b : Beat) :
    EthOk .server (beatStep h b).1 ∧ (beatStep h b).1.ourMac = h.ourMac ∧
      (beatStep h b).1.txFrame = heartbeatFrame h.ourMac b.ledState := by
  refine ⟨(ethHeartbeatSend_ok h hok b.ledState b.nowUs true).1, ?_, ?_⟩
  · show (ethHeartbeatSend h b.ledState b.nowUs true).1.ourMac = h.ourMac
    rw [ethHeartbeatSend_frame]
  · unfold beatStep ethHeartbeatSend
    rw [if_neg (by simp [hok.initialized]), if_neg (by simp [hok.role])]
    exact ethHbSendFrame_txFrame
      (h := { h with rtt := { h.rtt with sendTimestampUs := b.nowUs } }) hok.idx b.ledState true

/-- What a run of sends has put on the wire. -/
theorem beats_carried (beats : List Beat) : ∀ h : EthHb, EthOk .server h →
    Along beatStep Beat.Carried h beats →
      ∀ b ∈ beats, b.carriage.Ok ∧
        b.carriage.frame = heartbeatFrame h.ourMac b.ledState ++ b.trailer := by
  induction beats with
  | nil => exact fun _ _ _ _ hb => absurd hb List.not_mem_nil
  | cons b beats ih =>
    intro h hok hA b' hb'
    obtain ⟨hok', hmac, htx⟩ := beatStep_server hok b
    rcases List.mem_cons.mp hb' with rfl | hb'
    · rw [← htx]
      exact hA.1
    · rw [← hmac]
      exact ih _ hok' hA.2 b' hb'

/-! ## Receiving -/

/-- The bytes of a raw frame handed over. -/
def rawBytes : Consumer Unit × List UInt8 → Option (List UInt8)
  | (.raw _, bytes) => some bytes
  | (.lwip, _) => none

theorem filterMap_raw (calls : List (Call Unit)) :
    (calls.filterMap Call.raw).map (fun r => r.1.take r.2.toNat) =
      (calls.filterMap Call.frame).filterMap rawBytes := by
  rw [List.filterMap_filterMap, List.map_filterMap]
  congr 1
  funext c
  cases c <;> rfl

theorem filterMap_handed (cbs : List (RawRxEntry Unit))
    (hreg : findRawRx cbs ethHbEthertype = some ()) (mac : Vector UInt8 6) (beats : List Beat)
    (h : ∀ b ∈ beats, b.carriage.frame = heartbeatFrame mac b.ledState ++ b.trailer) :
    (beats.flatMap fun b => b.carriage.handed cbs).filterMap rawBytes =
      (beats.filter Beat.arrives).map fun b => heartbeatFrame mac b.ledState ++ b.trailer := by
  induction beats with
  | nil => rfl
  | cons b beats ih =>
    have hb := h b List.mem_cons_self
    have hcons : consumerOf cbs b.carriage.frame = some (.raw ()) := by
      rw [consumerOf_eq, hb, (heartbeatFrame_getD mac b.ledState b.trailer).1, hreg]
    have harr : b.carriage.arrives = b.arrives := by
      unfold Carriage.arrives Beat.arrives
      rw [hb, List.length_append, heartbeatFrame_length]
      congr 1
      rw [decide_eq_decide]
      omega
    rw [List.flatMap_cons, List.filterMap_append,
      ih fun b' hb' => h b' (List.mem_cons_of_mem b hb')]
    unfold Carriage.handed
    rw [harr, hcons, hb, List.filter_cons]
    cases b.arrives <;> rfl

/-- A CLIENT that shows and answers what it is sent, and its address. -/
structure Answering (mac : Vector UInt8 6) (h : EthHb) : Prop extends EthOk .client h where
  paused : h.paused = false
  mac : h.ourMac = mac

/-- One frame at the CLIENT: its byte behind the header is shown, and an ACK goes back. -/
theorem handler_client {mac : Vector UInt8 6} {h : EthHb} (hs : Answering mac h)
    (r : (List UInt8 × UInt16) × UInt64) (hlen : 15 ≤ (r.1.1.take r.1.2.toNat).length) :
    Answering mac (rawHandlerStep h r).1 ∧
      (rawHandlerStep h r).2.filterMap HbCall.led0 =
        [decide ((r.1.1.take r.1.2.toNat).getD ethHbHdrSize 0 ≠ 0)] ∧
      (rawHandlerStep h r).2.filterMap HbCall.slot = [.raw ethHbFrameSize] ∧
      (rawHandlerStep h r).1.txFrame = heartbeatFrame mac ethHbAckByte := by
  obtain ⟨⟨pFrame, len⟩, nowUs⟩ := r
  have hshort : ¬ len < ethHbFrameSize := by
    rw [UInt16.lt_iff_toNat_lt]
    have h15 : ethHbFrameSize.toNat = 15 := rfl
    rw [List.length_take] at hlen
    simp only at hlen
    omega
  have hbyte : (pFrame.take len.toNat).getD ethHbHdrSize 0 = pFrame.getD ethHbHdrSize 0 := by
    have h14 : ethHbHdrSize < len.toNat := by
      rw [List.length_take] at hlen
      simp only at hlen
      unfold ethHbHdrSize
      omega
    rw [List.getD_eq_getElem?_getD, List.getElem?_take_of_lt h14, List.getD_eq_getElem?_getD]
  refine ⟨⟨(ethHeartbeatRxHandler_ack h hs.toEthOk pFrame len nowUs true).1, ?_, ?_⟩, ?_⟩
  · show (ethHeartbeatRxHandler h pFrame len nowUs true).1.paused = false
    rw [ethHeartbeatRxHandler_frame]
    exact hs.paused
  · show (ethHeartbeatRxHandler h pFrame len nowUs true).1.ourMac = mac
    rw [ethHeartbeatRxHandler_frame]
    exact hs.mac
  · have hidx : ({ h with rtt := h.rtt.countRx } : EthHb).tc6Idx = 0 := hs.idx
    obtain ⟨hled, hslot⟩ := showLed_led0 (pFrame.getD ethHbHdrSize 0)
    unfold rawHandlerStep
    rw [ethHeartbeatRxHandler_client h hs.role hs.initialized, if_neg hshort]
    simp only
    rw [ethHbSendFrame_eq _ _ _ hidx, hs.paused, hbyte, List.filterMap_append, hled,
      List.filterMap_append, hslot, ← hs.mac]
    exact ⟨rfl, rfl, ethHbSendFrame_txFrame
      (h := { h with paused := false, rtt := h.rtt.countRx }) hs.idx ethHbAckByte true⟩

theorem handlers_client {mac : Vector UInt8 6} (rs : List ((List UInt8 × UInt16) × UInt64)) :
    ∀ h : EthHb, Answering mac h → (∀ r ∈ rs, 15 ≤ (r.1.1.take r.1.2.toNat).length) →
      (emits rawHandlerStep h rs).filterMap HbCall.led0 =
          rs.map (fun r => decide ((r.1.1.take r.1.2.toNat).getD ethHbHdrSize 0 ≠ 0)) ∧
        (emits rawHandlerStep h rs).filterMap HbCall.slot =
          List.replicate rs.length (.raw ethHbFrameSize) ∧
        emits rawAnswerStep h rs =
          List.replicate rs.length (heartbeatFrame mac ethHbAckByte) := by
  induction rs with
  | nil => exact fun _ _ _ => ⟨rfl, rfl, rfl⟩
  | cons r rs ih =>
    intro h hs hlen
    obtain ⟨hs', hled, hslot, hframe⟩ := handler_client hs r (hlen r List.mem_cons_self)
    obtain ⟨hleds, hslots, hframes⟩ := ih _ hs' fun r' hr' => hlen r' (List.mem_cons_of_mem r hr')
    have hanswer : rawAnswerStep h r =
        ((rawHandlerStep h r).1, [heartbeatFrame mac ethHbAckByte]) := by
      simp only [rawAnswerStep, hslot, hframe, List.map_cons, List.map_nil]
    rw [emits_cons, emits_cons, List.filterMap_append, List.filterMap_append, hled, hslot, hleds,
      hslots, hanswer, hframes]
    exact ⟨rfl, rfl, rfl⟩

/-- **Raw heartbeats.**  Whatever becomes of their frames on the way, the CLIENT's LED is set to the
states of those heartbeats that were padded to 42 bytes and found a buffer, one after the other, and
as many ACKs go back. -/
theorem raw_heartbeats_shown [PbufRealloc] (server client : EthHb) (hs : EthOk .server server)
    (hc : EthOk .client client) (hp : client.paused = false) (d : Driver Unit) (hd : d.Fresh)
    (hreg : findRawRx d.rawRxCallbacks ethHbEthertype = some ()) (beats : List Beat)
    (hbeats : Along beatStep Beat.Carried server beats) (nows : List UInt64) :
    let frames := (emits driverStep d (beats.flatMap fun b => b.carriage.events)).filterMap Call.raw
    nows.length = frames.length →
      (emits rawHandlerStep client (frames.zip nows)).filterMap HbCall.led0 =
          (beats.filter Beat.arrives).map (fun b => decide (b.ledState ≠ 0)) ∧
        (emits rawHandlerStep client (frames.zip nows)).filterMap HbCall.slot =
          List.replicate (beats.countP Beat.arrives) (.raw ethHbFrameSize) ∧
        emits rawAnswerStep client (frames.zip nows) =
          List.replicate (beats.countP Beat.arrives)
            (heartbeatFrame client.ourMac ethHbAckByte) := by
  intro frames hnows
  have hcarried := beats_carried beats server hs hbeats
  have hok : ∀ c ∈ beats.map Beat.carriage, c.Ok := by
    intro c hc
    obtain ⟨b, hb, rfl⟩ := List.mem_map.mp hc
    exact (hcarried b hb).1
  have hhanded := carriages_handed d hd (beats.map Beat.carriage) hok
  rw [List.flatMap_map, List.flatMap_map] at hhanded
  have hframes : frames.map (fun r => r.1.take r.2.toNat) =
      (beats.filter Beat.arrives).map fun b =>
        heartbeatFrame server.ourMac b.ledState ++ b.trailer := by
    rw [filterMap_raw, hhanded]
    exact filterMap_handed d.rawRxCallbacks hreg server.ourMac beats fun b hb => (hcarried b hb).2
  have hzip : (frames.zip nows).map Prod.fst = frames :=
    List.map_fst_zip (Nat.le_of_eq hnows.symm)
  have hlen : ∀ r ∈ frames.zip nows, 15 ≤ (r.1.1.take r.1.2.toNat).length := by
    intro r hr
    have hmem : r.1.1.take r.1.2.toNat ∈ frames.map fun r => r.1.take r.2.toNat :=
      List.mem_map_of_mem (hzip ▸ List.mem_map_of_mem hr)
    rw [hframes] at hmem
    obtain ⟨b, -, hb⟩ := List.mem_map.mp hmem
    rw [← hb, List.length_append, heartbeatFrame_length]
    exact Nat.le_add_right _ _
  obtain ⟨hleds, hslots, hanswers⟩ :=
    handlers_client (frames.zip nows) client ⟨hc, hp, rfl⟩ hlen
  have hcount : (frames.zip nows).length = beats.countP Beat.arrives := by
    have h := congrArg List.length hframes
    rw [List.length_map, List.length_map, ← List.countP_eq_length_filter] at h
    rw [List.length_zip, hnows, Nat.min_self]
    exact h
  refine ⟨?_, by rw [hslots, hcount], by rw [hanswers, hcount]⟩
  calc (emits rawHandlerStep client (frames.zip nows)).filterMap HbCall.led0
      = ((frames.zip nows).map Prod.fst).map
          (fun r => decide ((r.1.take r.2.toNat).getD ethHbHdrSize 0 ≠ 0)) := by
        rw [hleds, List.map_map]
        rfl
    _ = (frames.map fun r => r.1.take r.2.toNat).map
          (fun bytes => decide (bytes.getD ethHbHdrSize 0 ≠ 0)) := by
        rw [hzip, List.map_map]
        rfl
    _ = (beats.filter Beat.arrives).map (fun b => decide (b.ledState ≠ 0)) := by
        rw [hframes, List.map_map]
        apply List.map_congr_left
        intro b _
        exact congrArg (fun v : UInt8 => decide (v ≠ 0))
          (heartbeatFrame_getD server.ourMac b.ledState b.trailer).2

/-- A heartbeat of a SERVER without a MAC address, in one slice. -/
def plainBeat (ledState : UInt8) (trailer : List UInt8) : Beat :=
  ⟨ledState, 1000, trailer,
    ⟨[(heartbeatFrame (Vector.replicate 6 0) ledState ++ trailer, [])], some heapPbuf, .errOk⟩⟩

theorem plainBeat_carried (h : EthHb) (hok : EthOk .server h)
    (hmac : h.ourMac = Vector.replicate 6 0) (ledState : UInt8) (trailer : List UInt8)
    (hlen : trailer.length ≤ 1000) :
    (plainBeat ledState trailer).Carried h := by
  have hframe : (plainBeat ledState trailer).carriage.frame =
      heartbeatFrame (Vector.replicate 6 0) ledState ++ trailer := List.append_nil _
  refine ⟨⟨?_, ?_, ?_⟩, ?_⟩
  · rw [hframe, List.length_append, heartbeatFrame_length]
    omega
  · intro p hp _
    cases hp
    exact ⟨rfl, rfl⟩
  · intro c hc e he
    cases List.mem_singleton.mp hc
    cases he
  · rw [hframe, (beatStep_server hok _).2.2, hmac]
    rfl

def threeBeats : List Beat :=
  [plainBeat 1 (List.replicate 45 0), plainBeat 1 [], plainBeat 0 (List.replicate 45 0)]

section
attribute [local instance] singlePbuf

/-- Three heartbeats, the second not padded: the LED is lit and then dark. -/
theorem raw_heartbeats_shown_two :
    let frames := (emits driverStep (exec driverStep Driver.zero readyRun)
      (threeBeats.flatMap fun b => b.carriage.events)).filterMap Call.raw
    let client := ethHeartbeatInit .zero .client none
    let calls := emits rawHandlerStep client (frames.zip [2000, 3000])
    calls.filterMap HbCall.led0 = [true, false] ∧
      calls.filterMap HbCall.slot = [.raw ethHbFrameSize, .raw ethHbFrameSize] ∧
      emits rawAnswerStep client (frames.zip [2000, 3000]) =
        List.replicate 2 (heartbeatFrame client.ourMac ethHbAckByte) := by
  have hok := ethOk_init .server none
  have h1 := beatStep_server hok (plainBeat 1 (List.replicate 45 0))
  have h2 := beatStep_server h1.1 (plainBeat 1 [])
  exact raw_heartbeats_shown (ethHeartbeatInit .zero .server none) _ hok
    (ethOk_init .client none) rfl _ ⟨rfl, rfl, rfl, rfl⟩ rfl threeBeats
    ⟨plainBeat_carried _ hok rfl _ _ (by simp),
      plainBeat_carried _ h1.1 (h1.2.1.trans rfl) _ _ (by simp),
      plainBeat_carried _ h2.1 (h2.2.1.trans (h1.2.1.trans rfl)) _ _ (by simp), trivial⟩
    _ (by decide +kernel)

end

end CuriosityT1S
