import CuriosityT1S.Heartbeat

/-!
# Raw frames waiting in TC6

`TC6_SendRawEthernetPacket` queues the pointer it is given and reads the bytes
when it transmits; tc6.h asks for the buffer to stay valid until then.  Every
frame of eth_heartbeat.c is in `m_tx_frame`.  `RawTx` is the module with that
queue; beside each entry stands the payload byte that was passed to the call
that queued it, and `last` is the byte of the last frame built, queued or not.

    RawTxInv:    `m_tx_frame` carries `last`
    raw_tx_iff:  each frame goes out with its own byte if and only if the last frame built
                 has the byte of the oldest one queued, whenever that one is transmitted
-/

namespace CuriosityT1S

open Mealy

def tc6TxEthQsize : Nat := 4

structure RawTx where
  hb : EthHb
  queue : List UInt8
  last : Option UInt8
deriving DecidableEq, Repr

/-- A call of the module, or TC6 transmitting the oldest queued frame. -/
inductive RawTxEvent
  | hb (e : EthHbEvent)
  | transmit
deriving DecidableEq, Repr

/-- A frame on the wire, and the payload byte passed to the call that queued it. -/
structure WireFrame where
  frame : List UInt8
  passed : UInt8
deriving DecidableEq, Repr

def rawTxInit (role : BoardRole) (mac : Option (Vector UInt8 6)) : RawTx :=
  ⟨ethHeartbeatInit .zero role mac, [], none⟩

/-- The byte passed to `eth_hb_send_frame`, if the call gets that far. -/
def passedPayload (h : EthHb) : EthHbEvent → Option UInt8
  | .send ledState _ _ => if h.initialized ∧ h.role = .server then some ledState else none
  | .rx _ len _ _ =>
    if h.initialized ∧ ¬ len < ethHbFrameSize ∧ h.role = .client then some ethHbAckByte else none
  | _ => none

/-- What TC6 is asked to queue. -/
def sendCalls (calls : List HbCall) : Nat :=
  calls.countP (· == .tc6SendRawEthernetPacket ethHbFrameSize)

def rawTxStep (s : RawTx) : RawTxEvent → RawTx × List WireFrame
  | .hb e =>
    let (hb, calls) := ethHbStep s.hb e
    match passedPayload s.hb e with
    | none => ({ s with hb := hb }, [])
    | some b =>
      if sendCalls calls ≠ 0 ∧ s.queue.length < tc6TxEthQsize then
        (⟨hb, s.queue ++ [b], some b⟩, [])
      else ({ s with hb := hb, last := some b }, [])
  | .transmit =>
    match s.queue with
    | [] => (s, [])
    | b :: queue => ({ s with queue := queue }, [⟨s.hb.txFrame, b⟩])

/-! ## What the module does to its buffer -/

/-- The payload byte of a frame. -/
def framePayload (frame : List UInt8) : UInt8 := frame.getD ethHbHdrSize 0

/-- With a network interface, `eth_hb_send_frame` leaves its argument in `m_tx_frame`. -/
theorem ethHbSendFrame_spec (h : EthHb) (payload : UInt8) (tc6 : Bool) (hidx : h.tc6Idx = 0) :
    framePayload (ethHbSendFrame h payload tc6).1.txFrame = payload ∧
      (ethHbSendFrame h payload tc6).1.tc6Idx = 0 := by
  have hn : tc6LwipGetNetIf h.tc6Idx = true := by rw [hidx]; decide
  unfold ethHbSendFrame
  rw [hn]
  refine ⟨?_, hidx⟩
  simp [framePayload, ethHbHdrSize, broadcastMac, List.getD_eq_getElem?_getD]

/-- A call that passes no byte leaves the buffer alone and sends nothing. -/
theorem ethHbStep_of_none (h : EthHb) (e : EthHbEvent) (hp : passedPayload h e = none) :
    (ethHbStep h e).1.txFrame = h.txFrame ∧ (ethHbStep h e).1.tc6Idx = h.tc6Idx := by
  cases e with
  | send ledState nowUs tc6 =>
    simp only [ethHbStep, ethHeartbeatSend]
    split
    · exact ⟨rfl, rfl⟩
    · next hi =>
      split
      · exact ⟨rfl, rfl⟩
      · next hr =>
        have hs : h.initialized = true ∧ h.role = .server := ⟨by simpa using hi, by simpa using hr⟩
        simp only [passedPayload, if_pos hs] at hp
        cases hp
  | rx pFrame len nowUs tc6 =>
    simp only [ethHbStep, ethHeartbeatRxHandler]
    split
    · exact ⟨rfl, rfl⟩
    · next hi =>
      split
      · exact ⟨rfl, rfl⟩
      · next hl =>
        cases hr : h.role with
        | client =>
          have hs : h.initialized = true ∧ ¬ len < ethHbFrameSize ∧ h.role = .client :=
            ⟨by simpa using hi, hl, hr⟩
          simp only [passedPayload, if_pos hs] at hp
          cases hp
        | server => exact ⟨rfl, rfl⟩
  | setPaused paused => exact ⟨rfl, rfl⟩
  | resetRtt => exact ⟨rfl, rfl⟩

/-- A call that passes a byte leaves it in the buffer. -/
theorem ethHbStep_of_some (h : EthHb) (e : EthHbEvent) (b : UInt8) (hidx : h.tc6Idx = 0)
    (hp : passedPayload h e = some b) :
    framePayload (ethHbStep h e).1.txFrame = b ∧ (ethHbStep h e).1.tc6Idx = 0 := by
  cases e with
  | send ledState nowUs tc6 =>
    simp only [passedPayload] at hp
    split at hp
    · next hc =>
      cases hp
      simp only [ethHbStep, ethHeartbeatSend]
      rw [if_neg (by simp [hc.1]), if_neg (by simp [hc.2])]
      exact ethHbSendFrame_spec _ b tc6 hidx
    · cases hp
  | rx pFrame len nowUs tc6 =>
    simp only [passedPayload] at hp
    split at hp
    · next hc =>
      cases hp
      simp only [ethHbStep, ethHeartbeatRxHandler]
      rw [if_neg (by simp [hc.1]), if_neg hc.2.1, hc.2.2]
      exact ethHbSendFrame_spec _ ethHbAckByte tc6 hidx
    · cases hp
  | setPaused paused => cases hp
  | resetRtt => cases hp

/-! ## Runs -/

/-- `m_tx_frame` carries the byte of the last frame built, and nothing is queued before one is. -/
structure RawTxInv (s : RawTx) : Prop where
  idx : s.hb.tc6Idx = 0
  frame : ∀ b, s.last = some b → framePayload s.hb.txFrame = b
  built : s.queue ≠ [] → s.last ≠ none

theorem rawTxInv_init (role : BoardRole) (mac : Option (Vector UInt8 6)) :
    RawTxInv (rawTxInit role mac) :=
  ⟨rfl, nofun, fun h => absurd rfl h⟩

theorem rawTxInv_step (s : RawTx) (e : RawTxEvent) (h : RawTxInv s) :
    RawTxInv (rawTxStep s e).1 := by
  cases e with
  | hb e =>
    simp only [rawTxStep]
    cases hp : passedPayload s.hb e with
    | none =>
      obtain ⟨hf, hi⟩ := ethHbStep_of_none s.hb e hp
      refine ⟨hi.trans h.idx, fun b hb => ?_, h.built⟩
      show framePayload (ethHbStep s.hb e).1.txFrame = b
      rw [hf]
      exact h.frame b hb
    | some b =>
      obtain ⟨hf, hi⟩ := ethHbStep_of_some s.hb e b h.idx hp
      have hlast : ∀ c, some b = some c → framePayload (ethHbStep s.hb e).1.txFrame = c := by
        rintro c ⟨⟩
        exact hf
      simp only
      split
      · exact ⟨hi, hlast, fun _ => nofun⟩
      · exact ⟨hi, hlast, fun _ => nofun⟩
  | transmit =>
    simp only [rawTxStep]
    cases hq : s.queue with
    | nil => exact h
    | cons b queue => exact ⟨h.idx, h.frame, fun _ => h.built (by rw [hq]; nofun)⟩

/-- When a frame is transmitted, the last one built has the byte of the oldest one queued. -/
def LastIsOldest (s : RawTx) : RawTxEvent → Prop
  | .hb _ => True
  | .transmit => ∀ b ∈ s.queue.head?, s.last = some b

/-- What one transmission puts on the wire. -/
theorem rawTxStep_wire_iff (s : RawTx) (e : RawTxEvent) (h : RawTxInv s) :
    (∀ w ∈ (rawTxStep s e).2, framePayload w.frame = w.passed) ↔ LastIsOldest s e := by
  cases e with
  | hb e =>
    have hout : (rawTxStep s (.hb e)).2 = [] := by
      simp only [rawTxStep]
      split
      · rfl
      · split <;> rfl
    rw [hout]
    exact iff_of_true nofun trivial
  | transmit =>
    simp only [rawTxStep, LastIsOldest]
    cases hq : s.queue with
    | nil => exact iff_of_true nofun nofun
    | cons b queue =>
      obtain ⟨c, hc⟩ := Option.ne_none_iff_exists'.mp (h.built (by rw [hq]; nofun))
      have hf := h.frame c hc
      simp [hc, hf]

/-- **Frames in flight.**  In every run of a board, of either role, each transmitted frame carries
the payload passed for it if and only if no other payload was built last when it goes out. -/
theorem raw_tx_iff (role : BoardRole) (mac : Option (Vector UInt8 6)) (es : List RawTxEvent) :
    (∀ w ∈ emits rawTxStep (rawTxInit role mac) es, framePayload w.frame = w.passed) ↔
      Along rawTxStep LastIsOldest (rawTxInit role mac) es := by
  rw [forall_emits_iff]
  exact along_congr rawTxStep (fun _ _ => True) _ _ RawTxInv (fun s e h _ => rawTxInv_step s e h)
    (fun s e h _ => rawTxStep_wire_iff s e h) es _ (rawTxInv_init role mac) (along_true _ _ _)

/-- The server sends 1, then 0, before TC6 transmits the first: it goes out as 0. -/
theorem raw_tx_overwritten :
    ¬ ∀ (role : BoardRole) (mac : Option (Vector UInt8 6)) (es : List RawTxEvent),
      ∀ w ∈ emits rawTxStep (rawTxInit role mac) es, framePayload w.frame = w.passed := by
  intro h
  have hw := h .server none [.hb (.send 1 1000 true), .hb (.send 0 501000 true), .transmit]
    ⟨List.replicate 6 0xFF ++ List.replicate 6 0 ++ [0x88, 0xB5, 0], 1⟩ (by decide +kernel)
  exact absurd hw (by decide)

end CuriosityT1S
