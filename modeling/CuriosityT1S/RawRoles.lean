import CuriosityT1S.RawTxQueue

/-!
# Heartbeat or ACK: who is asked

On the bus a raw heartbeat and a raw ACK differ in one payload byte, and
`eth_heartbeat_rx_handler` does not look at it to tell them apart: a CLIENT
takes every frame for a heartbeat and a SERVER takes every frame for an ACK.
`Bus` is two boards of any roles; frames queued in TC6 get their bytes when they
are transmitted, and those on the line arrive in any order or not at all.

    BusInv:               the line carries heartbeats of SERVERs and ACKs of CLIENTs
    raw_frames_told_iff:  they are told apart if and only if no heartbeat meets a SERVER
                          that waits for an ACK
    raw_frames_told:      so always, unless both boards are SERVER
-/

namespace CuriosityT1S

open Mealy

inductive Side
  | left | right
deriving DecidableEq, Repr

def Side.other : Side → Side
  | .left => .right
  | .right => .left

/-- `queued` counts the frames TC6 has accepted and not transmitted yet. -/
structure RawBoard where
  hb : EthHb
  queued : Nat
deriving DecidableEq, Repr

/-- A frame on the line, and the role of the board that emitted it. -/
structure BusFrame where
  bytes : List UInt8
  emitter : BoardRole
deriving DecidableEq, Repr

/-- `line side` has the frames on their way to `side`. -/
structure Bus where
  board : Side → RawBoard
  line : Side → List BusFrame

/-- `accepted` is what TC6 does with a frame handed to it; `i` picks a frame on the line. -/
inductive BusAction
  | send (ledState : UInt8) (nowUs : UInt64) (tc6 accepted : Bool)
  | setPaused (paused : Bool)
  | resetRtt
  | transmit
  | deliver (i : Nat) (nowUs : UInt64) (tc6 accepted : Bool)
  | lose (i : Nat)
deriving DecidableEq, Repr

/-- What happens on one side; frames are delivered to it or lost on the way to it. -/
structure BusEvent where
  side : Side
  action : BusAction
deriving DecidableEq, Repr

def busInit (role : Side → BoardRole) (mac : Side → Option (Vector UInt8 6)) : Bus :=
  ⟨fun s => ⟨ethHeartbeatInit .zero (role s) (mac s), 0⟩, fun _ => []⟩

/-- The module of one side after a call. -/
def Bus.call (n : Bus) (side : Side) (r : EthHb × List HbCall) (accepted : Bool) :
    Bus × List (Side × HbCall) :=
  let queued := (n.board side).queued + (if accepted then sendCalls r.2 else 0)
  ({ n with board := Function.update n.board side ⟨r.1, queued⟩ }, r.2.map (Prod.mk side))

def Bus.take (n : Bus) (side : Side) (i : Nat) : Bus :=
  { n with line := Function.update n.line side ((n.line side).eraseIdx i) }

def busStep (n : Bus) (e : BusEvent) : Bus × List (Side × HbCall) :=
  let b := n.board e.side
  match e.action with
  | .send ledState nowUs tc6 accepted =>
    n.call e.side (ethHeartbeatSend b.hb ledState nowUs tc6) accepted
  | .setPaused paused => n.call e.side (ethHeartbeatSetPaused b.hb paused, []) false
  | .resetRtt => n.call e.side (ethHeartbeatResetRtt b.hb, []) false
  | .transmit =>
    if b.queued = 0 then (n, [])
    else
      (⟨Function.update n.board e.side { b with queued := b.queued - 1 },
        Function.update n.line e.side.other
          (n.line e.side.other ++ [⟨b.hb.txFrame, b.hb.role⟩])⟩, [])
  | .deliver i nowUs tc6 accepted =>
    match (n.line e.side)[i]? with
    | none => (n, [])
    | some f =>
      (n.take e.side i).call e.side
        (ethHeartbeatRxHandler b.hb f.bytes (UInt16.ofNat f.bytes.length) nowUs tc6) accepted
  | .lose i => (n.take e.side i, [])

/-- The frame that arrives at a side. -/
def delivered (n : Bus) (e : BusEvent) (side : Side) : Option BusFrame :=
  match e.action with
  | .deliver i _ _ _ => if e.side = side then (n.line side)[i]? else none
  | _ => none

/-- An RTT sample is recorded, or the raw `rx_count` changes. -/
def Records (n : Bus) (e : BusEvent) (side : Side) : Prop :=
  ((busStep n e).1.board side).hb.rtt.stats.rxCount ≠ (n.board side).hb.rtt.stats.rxCount ∨
    ∃ tx rx rtt avg, (side, .report tx rx rtt avg) ∈ (busStep n e).2

/-- The LED is set, or a frame is handed to TC6. -/
def Reacts (n : Bus) (e : BusEvent) (side : Side) : Prop :=
  ∃ c, (side, c) ∈ (busStep n e).2 ∧
    (c = .led0SetLow ∨ c = .led0SetHigh ∨ ∃ len, c = .tc6SendRawEthernetPacket len)

/-- In this step a SERVER records only for an ACK frame of a CLIENT, and a CLIENT reacts only to a
frame of a SERVER. -/
def ToldApart (n : Bus) (e : BusEvent) : Prop :=
  ∀ side,
    ((n.board side).hb.role = .server → Records n e side →
      ∃ f, delivered n e side = some f ∧ f.emitter = .client ∧
        framePayload f.bytes = ethHbAckByte) ∧
    ((n.board side).hb.role = .client → Reacts n e side →
      ∃ f, delivered n e side = some f ∧ f.emitter = .server)

/-- A frame of a SERVER does not arrive at a SERVER that waits for an ACK. -/
def NoHeartbeatForAck (n : Bus) (e : BusEvent) : Prop :=
  ∀ f, delivered n e e.side = some f → f.emitter = .server →
    (n.board e.side).hb.role = .server → (n.board e.side).hb.rtt.sendTimestampUs = 0

/-! ## One board -/

/-- A board after its initialisation. -/
structure EthOk (role : BoardRole) (h : EthHb) : Prop where
  role : h.role = role
  initialized : h.initialized = true
  idx : h.tc6Idx = 0
  frame : h.txFrame.length = 15

theorem ethOk_init (role : BoardRole) (mac : Option (Vector UInt8 6)) :
    EthOk role (ethHeartbeatInit .zero role mac) := ⟨rfl, rfl, rfl, rfl⟩

theorem ethHbSendFrame_eq (h : EthHb) (payload : UInt8) (tc6 : Bool) (hidx : h.tc6Idx = 0) :
    ethHbSendFrame h payload tc6 =
      ({ h with txFrame := (ethHbSendFrame h payload tc6).1.txFrame },
        if tc6 then [.tc6SendRawEthernetPacket ethHbFrameSize] else []) := by
  have hn : tc6LwipGetNetIf h.tc6Idx = true := by rw [hidx]; decide
  unfold ethHbSendFrame
  rw [hn]
  rfl

theorem ethHbSendFrame_length (h : EthHb) (payload : UInt8) (tc6 : Bool) (hidx : h.tc6Idx = 0) :
    (ethHbSendFrame h payload tc6).1.txFrame.length = 15 := by
  have hn : tc6LwipGetNetIf h.tc6Idx = true := by rw [hidx]; decide
  unfold ethHbSendFrame
  rw [hn]
  simp [broadcastMac]

/-- A SERVER's send counts and arms; all it calls is TC6. -/
theorem ethHeartbeatSend_ok (h : EthHb) (hok : EthOk .server h) (ledState : UInt8)
    (nowUs : UInt64) (tc6 : Bool) :
    EthOk .server (ethHeartbeatSend h ledState nowUs tc6).1 ∧
      (ethHeartbeatSend h ledState nowUs tc6).1.rtt.stats.rxCount = h.rtt.stats.rxCount ∧
      ∀ c ∈ (ethHeartbeatSend h ledState nowUs tc6).2,
        c = .tc6SendRawEthernetPacket ethHbFrameSize := by
  unfold ethHeartbeatSend
  rw [if_neg (by simp [hok.initialized]), if_neg (by simp [hok.role])]
  simp only
  have hlen := ethHbSendFrame_length { h with rtt := { h.rtt with sendTimestampUs := nowUs } }
    ledState tc6 hok.idx
  rw [ethHbSendFrame_eq _ _ _ (by exact hok.idx)]
  refine ⟨⟨hok.role, hok.initialized, hok.idx, hlen⟩, rfl, ?_⟩
  intro c hc
  cases tc6 with
  | true => exact List.mem_singleton.mp hc
  | false => cases hc

/-- A CLIENT's send does nothing. -/
theorem ethHeartbeatSend_client (h : EthHb) (hok : EthOk .client h) (ledState : UInt8)
    (nowUs : UInt64) (tc6 : Bool) : ethHeartbeatSend h ledState nowUs tc6 = (h, []) := by
  unfold ethHeartbeatSend
  rw [if_neg (by simp [hok.initialized]), if_pos (by simp [hok.role])]

/-- A CLIENT leaves an ACK in `m_tx_frame` when it hands something to TC6. -/
theorem ethHeartbeatRxHandler_ack (h : EthHb) (hok : EthOk .client h) (pFrame : List UInt8)
    (len : UInt16) (nowUs : UInt64) (tc6 : Bool) :
    EthOk .client (ethHeartbeatRxHandler h pFrame len nowUs tc6).1 ∧
      (ethHeartbeatRxHandler h pFrame len nowUs tc6 = (h, []) ∨
        framePayload (ethHeartbeatRxHandler h pFrame len nowUs tc6).1.txFrame = ethHbAckByte) := by
  rw [ethHeartbeatRxHandler_client h hok.role hok.initialized]
  split
  · exact ⟨hok, Or.inl rfl⟩
  · have hidx : ({ h with rtt := h.rtt.countRx } : EthHb).tc6Idx = 0 := hok.idx
    have hlen := ethHbSendFrame_length _ ethHbAckByte tc6 hidx
    have hspec := ethHbSendFrame_spec _ ethHbAckByte tc6 hidx
    rw [ethHbSendFrame_eq _ _ _ hidx] at hspec ⊢
    exact ⟨⟨hok.role, hok.initialized, hok.idx, hlen⟩, Or.inr hspec.1⟩

theorem onAck_recorded (r : Rtt) (nowUs : UInt64) (h : r.sendTimestampUs ≠ 0) :
    ∃ tx rx rtt avg, (r.onAck nowUs).2 = [.report tx rx rtt avg] := by
  unfold Rtt.onAck
  rw [if_neg (by simpa using h)]
  exact ⟨_, _, _, _, rfl⟩

theorem onAck_stale (r : Rtt) (nowUs : UInt64) (h : r.sendTimestampUs = 0) :
    r.onAck nowUs = (r, []) := by
  unfold Rtt.onAck
  rw [if_pos (by simpa using h)]

/-! ## The bus -/

@[simp] theorem Side.other_other (s : Side) : s.other.other = s := by
  cases s <;> rfl

/-- What is queued or on the line comes from the other side: heartbeats from a SERVER, ACKs from a
CLIENT.  Two CLIENTs say nothing. -/
structure BusInv (role : Side → BoardRole) (n : Bus) : Prop where
  board : ∀ s, EthOk (role s) (n.board s).hb
  queued : ∀ s, role s = .client → (n.board s).queued ≠ 0 →
    framePayload (n.board s).hb.txFrame = ethHbAckByte
  line : ∀ s, ∀ f ∈ n.line s, f.bytes.length = 15 ∧ f.emitter = role s.other ∧
    (f.emitter = .client → framePayload f.bytes = ethHbAckByte)
  silent : (∀ s, role s = .client) → ∀ s, (n.board s).queued = 0 ∧ n.line s = []

theorem busInv_init (role : Side → BoardRole) (mac : Side → Option (Vector UInt8 6)) :
    BusInv role (busInit role mac) :=
  ⟨fun s => ethOk_init (role s) (mac s), fun _ _ h => absurd rfl h, nofun, fun _ _ => ⟨rfl, rfl⟩⟩

/-- A call keeps the invariant if a CLIENT that hands something to TC6 leaves an ACK in its
buffer, and does so only for a SERVER. -/
theorem busInv_call {role : Side → BoardRole} {n : Bus} (h : BusInv role n) (side : Side)
    (r : EthHb × List HbCall) (accepted : Bool) (hok : EthOk (role side) r.1)
    (hack : role side = .client → sendCalls r.2 = 0 ∧ r.1.txFrame = (n.board side).hb.txFrame ∨
      framePayload r.1.txFrame = ethHbAckByte)
    (hsilent : (∀ s, role s = .client) → sendCalls r.2 = 0) :
    BusInv role (n.call side r accepted).1 := by
  have hboard : ∀ s, (n.call side r accepted).1.board s =
      if s = side then ⟨r.1, (n.board side).queued + (if accepted then sendCalls r.2 else 0)⟩
      else n.board s := by
    intro s
    exact Function.update_apply n.board side _ s
  refine ⟨?_, ?_, h.line, ?_⟩
  · intro s
    rw [hboard]
    by_cases hs : s = side
    · subst hs
      rw [if_pos rfl]
      exact hok
    · rw [if_neg hs]
      exact h.board s
  · intro s hc
    rw [hboard]
    by_cases hs : s = side
    · subst hs
      rw [if_pos rfl]
      intro hq
      rcases hack hc with ⟨hnone, hframe⟩ | hframe
      · rw [hnone, ite_self] at hq
        show framePayload r.1.txFrame = ethHbAckByte
        rw [hframe]
        exact h.queued s hc hq
      · exact hframe
    · rw [if_neg hs]
      exact h.queued s hc
  · intro hall s
    rw [hboard]
    refine ⟨?_, (h.silent hall s).2⟩
    by_cases hs : s = side
    · subst hs
      rw [if_pos rfl, hsilent hall, ite_self]
      exact (h.silent hall s).1
    · rw [if_neg hs]
      exact (h.silent hall s).1

/-- Frames can get lost. -/
theorem busInv_take {role : Side → BoardRole} {n : Bus} (h : BusInv role n) (side : Side)
    (i : Nat) : BusInv role (n.take side i) := by
  have hline : ∀ s, (n.take side i).line s =
      if s = side then (n.line side).eraseIdx i else n.line s := by
    intro s
    exact Function.update_apply n.line side _ s
  refine ⟨h.board, h.queued, ?_, ?_⟩
  · intro s f hf
    rw [hline] at hf
    by_cases hs : s = side
    · subst hs
      rw [if_pos rfl] at hf
      exact h.line s f (List.mem_of_mem_eraseIdx hf)
    · rw [if_neg hs] at hf
      exact h.line s f hf
  · intro hall s
    refine ⟨(h.silent hall s).1, ?_⟩
    rw [hline, (h.silent hall side).2, (h.silent hall s).2]
    exact ite_self _

theorem busInv_transmit {role : Side → BoardRole} {n : Bus} (h : BusInv role n) (side : Side) :
    BusInv role (busStep n ⟨side, .transmit⟩).1 := by
  simp only [busStep]
  by_cases hq : (n.board side).queued = 0
  · rw [if_pos hq]
    exact h
  · rw [if_neg hq]
    refine ⟨?_, ?_, ?_, ?_⟩
    · intro s
      simp only [Function.update_apply]
      by_cases hs : s = side
      · subst hs
        rw [if_pos rfl]
        exact h.board s
      · rw [if_neg hs]
        exact h.board s
    · intro s hc
      simp only [Function.update_apply]
      by_cases hs : s = side
      · subst hs
        rw [if_pos rfl]
        exact fun _ => h.queued s hc hq
      · rw [if_neg hs]
        exact h.queued s hc
    · intro s f
      simp only [Function.update_apply]
      by_cases hs : s = side.other
      · subst hs
        rw [if_pos rfl]
        intro hf
        rcases List.mem_append.mp hf with hf | hf
        · exact h.line side.other f hf
        · obtain rfl := List.mem_singleton.mp hf
          have hrole := (h.board side).role
          refine ⟨(h.board side).frame, ?_, fun hc => ?_⟩
          · rw [Side.other_other]
            exact hrole
          · exact h.queued side (hrole.symm.trans hc) hq
      · rw [if_neg hs]
        exact h.line s f
    · intro hall
      exact absurd (h.silent hall side).1 hq

theorem busInv_deliver {role : Side → BoardRole} {n : Bus} (h : BusInv role n) (side : Side)
    (i : Nat) (nowUs : UInt64) (tc6 accepted : Bool) :
    BusInv role (busStep n ⟨side, .deliver i nowUs tc6 accepted⟩).1 := by
  simp only [busStep]
  cases hf : (n.line side)[i]? with
  | none => exact h
  | some f =>
    have hok := h.board side
    refine busInv_call (busInv_take h side i) side _ accepted ?_ ?_ ?_
    · cases hr : role side with
      | server =>
        rw [hr] at hok
        rw [ethHeartbeatRxHandler_server _ hok.role hok.initialized]
        split
        · exact hok
        · exact ⟨hok.role, hok.initialized, hok.idx, hok.frame⟩
      | client =>
        rw [hr] at hok
        exact (ethHeartbeatRxHandler_ack _ hok _ _ _ _).1
    · intro hc
      rw [hc] at hok
      rcases (ethHeartbeatRxHandler_ack _ hok f.bytes (UInt16.ofNat f.bytes.length) nowUs tc6).2
        with he | he
      · rw [he]
        exact Or.inl ⟨rfl, rfl⟩
      · exact Or.inr he
    · intro hall
      rw [(h.silent hall side).2] at hf
      cases hf

theorem busInv_send {role : Side → BoardRole} {n : Bus} (h : BusInv role n) (side : Side)
    (ledState : UInt8) (nowUs : UInt64) (tc6 accepted : Bool) :
    BusInv role (busStep n ⟨side, .send ledState nowUs tc6 accepted⟩).1 := by
  have hok := h.board side
  cases hr : role side with
  | server =>
    rw [hr] at hok
    refine busInv_call h side _ accepted ?_ ?_ ?_
    · rw [hr]
      exact (ethHeartbeatSend_ok _ hok ledState nowUs tc6).1
    · intro hc
      rw [hr] at hc
      cases hc
    · intro hall
      have hc := hall side
      rw [hr] at hc
      cases hc
  | client =>
    rw [hr] at hok
    have he := ethHeartbeatSend_client _ hok ledState nowUs tc6
    simp only [busStep, he]
    refine busInv_call h side _ accepted ?_ (fun _ => Or.inl ⟨rfl, rfl⟩) fun _ => rfl
    rw [hr]
    exact hok

/-- What one event preserves. -/
theorem busInv_step {role : Side → BoardRole} (n : Bus) (e : BusEvent) (h : BusInv role n) :
    BusInv role (busStep n e).1 := by
  obtain ⟨side, action⟩ := e
  have hok := h.board side
  cases action with
  | send ledState nowUs tc6 accepted => exact busInv_send h side ledState nowUs tc6 accepted
  | setPaused paused =>
    exact busInv_call h side _ false ⟨hok.role, hok.initialized, hok.idx, hok.frame⟩
      (fun _ => Or.inl ⟨rfl, rfl⟩) fun _ => rfl
  | resetRtt =>
    exact busInv_call h side _ false ⟨hok.role, hok.initialized, hok.idx, hok.frame⟩
      (fun _ => Or.inl ⟨rfl, rfl⟩) fun _ => rfl
  | transmit => exact busInv_transmit h side
  | deliver i nowUs tc6 accepted => exact busInv_deliver h side i nowUs tc6 accepted
  | lose i => exact busInv_take h side i

/-! ## One step -/

theorem mem_call {n : Bus} {side s : Side} {r : EthHb × List HbCall} {accepted : Bool}
    {c : HbCall} : (s, c) ∈ (n.call side r accepted).2 ↔ s = side ∧ c ∈ r.2 := by
  simp only [Bus.call, List.mem_map, Prod.mk.injEq]
  constructor
  · rintro ⟨c', hc, rfl, rfl⟩
    exact ⟨rfl, hc⟩
  · rintro ⟨rfl, hc⟩
    exact ⟨c, hc, rfl, rfl⟩

theorem call_board {n : Bus} {side s : Side} {r : EthHb × List HbCall} {accepted : Bool} :
    ((n.call side r accepted).1.board s).hb = if s = side then r.1 else (n.board s).hb := by
  simp only [Bus.call, Function.update_apply]
  split <;> rfl

/-- The step is a call of a module on one side. -/
theorem toldApart_call {n n0 : Bus} {e : BusEvent} {side : Side} {r : EthHb × List HbCall}
    {accepted : Bool} (he : busStep n e = n0.call side r accepted)
    (hboard : ∀ s, n0.board s = n.board s)
    (hserver : (n.board side).hb.role = .server →
      r.1.rtt.stats.rxCount ≠ (n.board side).hb.rtt.stats.rxCount ∨
        (∃ tx rx rtt avg, HbCall.report tx rx rtt avg ∈ r.2) →
      ∃ f, delivered n e side = some f ∧ f.emitter = .client ∧
        framePayload f.bytes = ethHbAckByte)
    (hclient : (n.board side).hb.role = .client →
      (∃ c ∈ r.2, c = .led0SetLow ∨ c = .led0SetHigh ∨
        ∃ len, c = .tc6SendRawEthernetPacket len) →
      ∃ f, delivered n e side = some f ∧ f.emitter = .server) : ToldApart n e := by
  intro s
  by_cases hs : s = side
  · subst hs
    refine ⟨fun hr hrec => hserver hr ?_, fun hr hre => hclient hr ?_⟩
    · unfold Records at hrec
      rw [he, call_board, if_pos rfl] at hrec
      rcases hrec with hrx | ⟨tx, rx, rtt, avg, hm⟩
      · exact Or.inl hrx
      · exact Or.inr ⟨tx, rx, rtt, avg, (mem_call.mp hm).2⟩
    · obtain ⟨c, hm, hc⟩ := hre
      rw [he] at hm
      exact ⟨c, (mem_call.mp hm).2, hc⟩
  · refine ⟨fun _ hrec => ?_, fun _ hre => ?_⟩
    · unfold Records at hrec
      rw [he, call_board, if_neg hs, hboard] at hrec
      rcases hrec with hrx | ⟨tx, rx, rtt, avg, hm⟩
      · exact absurd rfl hrx
      · exact absurd (mem_call.mp hm).1 hs
    · obtain ⟨c, hm, -⟩ := hre
      rw [he] at hm
      exact absurd (mem_call.mp hm).1 hs

/-- A step that calls nothing and counts nothing. -/
theorem toldApart_quiet {n : Bus} {e : BusEvent} (hcalls : (busStep n e).2 = [])
    (hrx : ∀ s, ((busStep n e).1.board s).hb.rtt.stats.rxCount =
      (n.board s).hb.rtt.stats.rxCount) : ToldApart n e := by
  intro s
  refine ⟨fun _ hrec => ?_, fun _ hre => ?_⟩
  · unfold Records at hrec
    rw [hcalls, hrx] at hrec
    rcases hrec with hrx | ⟨tx, rx, rtt, avg, hm⟩
    · exact absurd rfl hrx
    · cases hm
  · obtain ⟨c, hm, -⟩ := hre
    rw [hcalls] at hm
    cases hm

/-- A function that sets a flag or a timestamp on one side. -/
theorem toldApart_set {n : Bus} {e : BusEvent} {side : Side} {h : EthHb}
    (he : busStep n e = n.call side (h, []) false)
    (hrx : h.rtt.stats.rxCount = (n.board side).hb.rtt.stats.rxCount) : ToldApart n e := by
  apply toldApart_quiet
  · rw [he]
    rfl
  · intro s
    rw [he, call_board]
    split
    · next hs =>
      rw [hs]
      exact hrx
    · rfl

theorem toldApart_send {role : Side → BoardRole} {n : Bus} (h : BusInv role n) (side : Side)
    (ledState : UInt8) (nowUs : UInt64) (tc6 accepted : Bool) :
    ToldApart n ⟨side, .send ledState nowUs tc6 accepted⟩ := by
  have hok := h.board side
  have hstep : busStep n ⟨side, .send ledState nowUs tc6 accepted⟩ =
      n.call side (ethHeartbeatSend (n.board side).hb ledState nowUs tc6) accepted := rfl
  refine toldApart_call hstep (fun _ => rfl) ?_ ?_
  · intro hr hrec
    rw [← hok.role, hr] at hok
    obtain ⟨-, hrx, hcalls⟩ := ethHeartbeatSend_ok _ hok ledState nowUs tc6
    rcases hrec with hne | ⟨tx, rx, rtt, avg, hm⟩
    · exact absurd hrx hne
    · cases hcalls _ hm
  · intro hr hre
    rw [← hok.role, hr] at hok
    obtain ⟨c, hm, -⟩ := hre
    rw [ethHeartbeatSend_client _ hok ledState nowUs tc6] at hm
    cases hm

/-- A CLIENT hears no CLIENT. -/
theorem emitter_of_client {role : Side → BoardRole} {n : Bus} (h : BusInv role n) {side : Side}
    (hr : role side = .client) {f : BusFrame} (hf : f ∈ n.line side) : f.emitter = .server := by
  obtain ⟨-, hemitter, -⟩ := h.line side f hf
  cases he : f.emitter with
  | server => rfl
  | client =>
    have hall : ∀ s, role s = .client := by
      intro s
      by_cases hs : s = side
      · rw [hs]
        exact hr
      · have ho : s = side.other := by
          cases s <;> cases side <;> first | rfl | exact absurd rfl hs
        rw [ho, ← hemitter, he]
    rw [(h.silent hall side).2] at hf
    cases hf

/-- Where a frame arrives. -/
theorem toldApart_deliver {role : Side → BoardRole} {n : Bus} (h : BusInv role n) (side : Side)
    (i : Nat) (nowUs : UInt64) (tc6 accepted : Bool) {f : BusFrame}
    (hf : (n.line side)[i]? = some f) :
    ToldApart n ⟨side, .deliver i nowUs tc6 accepted⟩ ↔
      (f.emitter = .server → (n.board side).hb.role = .server →
        (n.board side).hb.rtt.sendTimestampUs = 0) := by
  have hok := h.board side
  obtain ⟨hlen, -, hack⟩ := h.line side f (List.mem_of_getElem? hf)
  have hstep : busStep n ⟨side, .deliver i nowUs tc6 accepted⟩ =
      (n.take side i).call side (ethHeartbeatRxHandler (n.board side).hb f.bytes
        (UInt16.ofNat f.bytes.length) nowUs tc6) accepted := by
    simp only [busStep, hf]
  have hdel : delivered n ⟨side, .deliver i nowUs tc6 accepted⟩ side = some f := by
    simp only [delivered, if_true, hf]
  have hlong : ¬ UInt16.ofNat f.bytes.length < ethHbFrameSize := by
    rw [hlen]
    decide
  cases hr : (n.board side).hb.role with
  | client =>
    have hserver : f.emitter = .server :=
      emitter_of_client h (hok.role.symm.trans hr) (List.mem_of_getElem? hf)
    refine iff_of_true ?_ fun _ hs => nomatch hs
    refine toldApart_call hstep (fun _ => rfl) (fun hs => ?_) fun _ _ => ⟨f, hdel, hserver⟩
    rw [hr] at hs
    cases hs
  | server =>
    have hrun := ethHeartbeatRxHandler_server _ hr hok.initialized f.bytes
      (UInt16.ofNat f.bytes.length) nowUs tc6
    rw [if_neg hlong] at hrun
    by_cases hts : (n.board side).hb.rtt.sendTimestampUs = 0
    · -- not waiting: a frame of either kind is dropped
      refine iff_of_true ?_ fun _ _ => hts
      rw [onAck_stale _ nowUs hts] at hrun
      refine toldApart_call hstep (fun _ => rfl) (fun _ hrec => ?_) fun hc => ?_
      · rw [hrun] at hrec
        rcases hrec with hne | ⟨tx, rx, rtt, avg, hm⟩
        · exact absurd rfl hne
        · cases hm
      · rw [hr] at hc
        cases hc
    · obtain ⟨tx, rx, rtt, avg, hrep⟩ := onAck_recorded (n.board side).hb.rtt nowUs hts
      rw [hrep] at hrun
      constructor
      · intro ht he _
        have hrec : Records n ⟨side, .deliver i nowUs tc6 accepted⟩ side := by
          refine Or.inr ⟨tx, rx, rtt, avg, ?_⟩
          rw [hstep, hrun]
          exact mem_call.mpr ⟨rfl, List.mem_singleton_self _⟩
        obtain ⟨g, hg, hgc, -⟩ := (ht side).1 hr hrec
        rw [hdel] at hg
        obtain rfl := Option.some.inj hg
        rw [he] at hgc
        cases hgc
      · intro hn
        refine toldApart_call hstep (fun _ => rfl) (fun _ _ => ?_) fun hc => ?_
        · cases he : f.emitter with
          | server => exact absurd (hn he rfl) hts
          | client => exact ⟨f, hdel, he, hack he⟩
        · rw [hr] at hc
          cases hc

/-- What one step tells apart. -/
theorem toldApart_iff {role : Side → BoardRole} (n : Bus) (e : BusEvent) (h : BusInv role n) :
    ToldApart n e ↔ NoHeartbeatForAck n e := by
  obtain ⟨side, action⟩ := e
  cases action with
  | send ledState nowUs tc6 accepted =>
    exact iff_of_true (toldApart_send h side ledState nowUs tc6 accepted) nofun
  | setPaused paused => exact iff_of_true (toldApart_set rfl rfl) nofun
  | resetRtt => exact iff_of_true (toldApart_set rfl rfl) nofun
  | transmit =>
    refine iff_of_true (toldApart_quiet ?_ fun s => ?_) nofun
    · simp only [busStep]
      split <;> rfl
    · simp only [busStep]
      split
      · rfl
      · simp only [Function.update_apply]
        split
        · next hs => rw [hs]
        · rfl
  | deliver i nowUs tc6 accepted =>
    cases hf : (n.line side)[i]? with
    | none =>
      refine iff_of_true (toldApart_quiet ?_ fun s => ?_) fun f hdel => ?_
      · simp only [busStep, hf]
      · simp only [busStep, hf]
      · simp only [delivered, if_true, hf] at hdel
        cases hdel
    | some f =>
      rw [toldApart_deliver h side i nowUs tc6 accepted hf]
      constructor
      · intro hn g hg
        simp only [delivered, if_true, hf] at hg
        obtain rfl := Option.some.inj hg
        exact hn
      · intro hn
        exact hn f (by simp only [delivered, if_true, hf])
  | lose i => exact iff_of_true (toldApart_quiet rfl fun _ => rfl) nofun

/-! ## Whole runs -/

/-- **Told apart.**  For any roles and in every run, heartbeats and ACKs are never confused if and
only if no heartbeat arrives at a SERVER that waits for an ACK. -/
theorem raw_frames_told_iff (role : Side → BoardRole) (mac : Side → Option (Vector UInt8 6))
    (es : List BusEvent) :
    Along busStep ToldApart (busInit role mac) es ↔
      Along busStep NoHeartbeatForAck (busInit role mac) es :=
  along_congr busStep (fun _ _ => True) _ _ (BusInv role) (fun n e h _ => busInv_step n e h)
    (fun n e h _ => toldApart_iff n e h) es _ (busInv_init role mac) (along_true _ _ _)

/-- A heartbeat goes from a SERVER to a CLIENT when at least one board is a CLIENT. -/
theorem noHeartbeatForAck_of_client {role : Side → BoardRole} (hrole : ∃ s, role s = .client)
    (n : Bus) (e : BusEvent) (h : BusInv role n) : NoHeartbeatForAck n e := by
  intro f hf he hr
  obtain ⟨s, hs⟩ := hrole
  have hrecv : role e.side = .server := by rw [← (h.board e.side).role, hr]
  have hmem : f ∈ n.line e.side := by
    unfold delivered at hf
    split at hf
    · rw [if_pos rfl] at hf
      exact List.mem_of_getElem? hf
    · cases hf
  have hsend : role e.side.other = .server := by rw [← (h.line e.side f hmem).2.1, he]
  have hall : role s = .server := by
    by_cases hc : s = e.side
    · rw [hc, hrecv]
    · have ho : s = e.side.other := by
        cases s <;> cases hside : e.side <;> first | rfl | exact absurd hside.symm hc
      rw [ho, hsend]
  rw [hs] at hall
  cases hall

/-- So they never are when at least one board is a CLIENT. -/
theorem raw_frames_told (role : Side → BoardRole) (mac : Side → Option (Vector UInt8 6))
    (hrole : ∃ s, role s = .client) (es : List BusEvent) :
    Along busStep ToldApart (busInit role mac) es :=
  along_of_inv busStep (fun _ _ => True) ToldApart (BusInv role)
    (fun n e h _ => busInv_step n e h)
    (fun n e h _ => (toldApart_iff n e h).mpr (noHeartbeatForAck_of_client hrole n e h))
    es _ (busInv_init role mac) (along_true _ _ _)

/-- Two SERVERs send at about the same time; each takes the other's heartbeat for its ACK. -/
def twoServersRun : List BusEvent :=
  [⟨.left, .send 1 1000 true true⟩, ⟨.right, .send 1 1200 true true⟩, ⟨.left, .transmit⟩,
    ⟨.right, .deliver 0 1300 true true⟩]

theorem raw_frames_confused :
    ¬ ∀ (role : Side → BoardRole) (mac : Side → Option (Vector UInt8 6)) (es : List BusEvent),
      Along busStep ToldApart (busInit role mac) es := by
  intro h
  have hlast := (h (fun _ => .server) (fun _ => none) twoServersRun).2.2.2.1
  obtain ⟨f, hf, hemitter, -⟩ := (hlast .right).1 rfl (Or.inr ⟨1, 1, 100, 100, by decide⟩)
  obtain rfl := Option.some.inj hf
  cases hemitter

end CuriosityT1S
