import CuriosityT1S.Heartbeat

/-!
# No data while the PHY is resetting

A `Board` is the driver with the raw heartbeat module on top.  A fatal error or
event clears `resetComplete` until the next `Reset_Complete`.  `lwIpOut` and the
receive path look at the flag, `eth_hb_send_frame` does not: in that window a
board is silent if and only if its heartbeat is not sent
(`reset_window_silent_iff`).
-/

namespace CuriosityT1S

open Mealy

/-! ## A board -/

/-- The one function ever registered is `eth_heartbeat_rx_handler`. -/
structure Board where
  driver : Driver Unit
  hb : EthHb
deriving DecidableEq, Repr

def Board.zero : Board := ⟨.zero, .zero⟩

/-- One call of `lwIpOut`, with the answers of `TC6_GetRawSegments` and
`TC6_SendRawEthernetSegments`. -/
structure LwipSend where
  p : TxPbuf
  maxSeg : UInt8
  success : Bool
deriving DecidableEq, Repr

inductive BoardCall
  | driver (c : Call Unit)
  | hb (c : HbCall)
deriving DecidableEq, Repr

/-- `reply` is what lwIP sends from inside `netif.input`. -/
inductive BoardEvent
  | driver (e : DriverEvent Unit) (nowUs : UInt64) (reply : List LwipSend)
  | lwip (send : LwipSend)
  | hbInit (role : BoardRole) (mac : Option (Vector UInt8 6))
  | hbSend (ledState : UInt8) (nowUs : UInt64)
  | hbSetPaused (paused : Bool)
  | hbResetRtt
deriving DecidableEq, Repr

def lwipCalls (tc : Tc6Lib) (s : LwipSend) : List BoardCall :=
  (lwIpOut tc s.p s.maxSeg s.success).2.map .driver

/-- Calls of the driver, and what the called one does before it returns. -/
def react (d : Driver Unit) (nowUs : UInt64) (reply : List LwipSend) (hb : EthHb) :
    Call Unit → EthHb × List BoardCall
  | .rawRxCallback cb pFrame len =>
    let (hb', calls) := ethHeartbeatRxHandler hb pFrame len nowUs (tc6LwipGetTC6 d hb.tc6Idx)
    (hb', .driver (.rawRxCallback cb pFrame len) :: calls.map .hb)
  | .netifInput p => (hb, .driver (.netifInput p) :: reply.flatMap (lwipCalls d.tc))
  | c => (hb, [.driver c])

def boardStep [PbufRealloc] (b : Board) : BoardEvent → Board × List BoardCall
  | .driver e nowUs reply =>
    let (d, calls) := driverStep b.driver e
    (⟨d, exec (react b.driver nowUs reply) b.hb calls⟩,
      emits (react b.driver nowUs reply) b.hb calls)
  | .lwip s => (b, lwipCalls b.driver.tc s)
  | .hbInit role mac => ({ b with hb := ethHeartbeatInit b.hb role mac }, [])
  | .hbSend ledState nowUs =>
    let (hb, calls) :=
      ethHeartbeatSend b.hb ledState nowUs (tc6LwipGetTC6 b.driver b.hb.tc6Idx)
    ({ b with hb := hb }, calls.map .hb)
  | .hbSetPaused paused => ({ b with hb := ethHeartbeatSetPaused b.hb paused }, [])
  | .hbResetRtt => ({ b with hb := ethHeartbeatResetRtt b.hb }, [])

/-! ## Data -/

/-- A received frame handed on, or a frame handed to TC6. -/
def Call.isData : Call Unit → Bool
  | .rawRxCallback _ _ _ | .netifInput _ | .sendRawEthernetSegments _ _ _ => true
  | _ => false

def BoardCall.isData : BoardCall → Bool
  | .driver c => c.isData
  | .hb (.tc6SendRawEthernetPacket _) => true
  | .hb _ => false

/-- What starts a reinit. -/
def BoardEvent.triggers : BoardEvent → Bool
  | .driver (.error err) _ _ => err.reinit
  | .driver (.event ev) _ _ => ev.reinit
  | _ => false

def BoardEvent.isResetComplete : BoardEvent → Bool
  | .driver (.event ev) _ _ => ev = .resetComplete
  | _ => false

/-- The PHY is not ready. -/
def Board.Closed (b : Board) : Prop := b.driver.tc.resetComplete = false

/-- No heartbeat of an initialised SERVER with a registered TC6 instance. -/
def NoLiveSend (b : Board) : BoardEvent → Prop
  | .hbSend _ _ =>
    ¬ (b.hb.initialized = true ∧ b.hb.role = .server ∧ tc6LwipGetTC6 b.driver b.hb.tc6Idx = true)
  | _ => True

/-! ## The gate -/

/-- Every trigger closes the gate. -/
theorem closed_of_triggers [PbufRealloc] (b : Board) (e : BoardEvent) (h : e.triggers = true) :
    (boardStep b e).1.Closed := by
  cases e with
  | driver e nowUs reply =>
    cases e with
    | error err =>
      have hr : err.reinit = true := h
      simp [boardStep, driverStep, tc6CbOnError, hr, Board.Closed]
    | event ev =>
      have hr : ev.reinit = true := h
      simp [boardStep, driverStep, tc6RegsCbOnEvent, hr, Board.Closed]
    | _ => cases h
  | _ => cases h

/-- Only `Reset_Complete` opens it. -/
theorem driverStep_closed [PbufRealloc] (d : Driver Unit) (e : DriverEvent Unit)
    (h : d.tc.resetComplete = false) (he : e ≠ .event .resetComplete) :
    (driverStep d e).1.tc.resetComplete = false := by
  cases e with
  | slice pRx offset len alloc =>
    simp only [driverStep, tc6CbOnRxEthernetSlice]
    repeat' split
    all_goals exact h
  | packet success len r =>
    simp only [driverStep, tc6CbOnRxEthernetPacket, tc6CbResetComplete, h]
    exact h
  | needService => exact h
  | error err =>
    simp only [driverStep, tc6CbOnError]
    split
    · rfl
    · exact h
  | event ev =>
    have hne : ev ≠ .resetComplete := fun hc => he (by rw [hc])
    simp only [driverStep, tc6RegsCbOnEvent, if_neg hne]
    split
    · rfl
    · exact h
  | initDone =>
    rw [driverStep_initDone_tc]
    exact h
  | registerRawRx etherType callback =>
    rw [driverStep_registerRawRx_tc]
    exact h

theorem closed_step [PbufRealloc] (b : Board) (e : BoardEvent) (h : b.Closed)
    (he : e.isResetComplete = false) :
    (boardStep b e).1.Closed := by
  cases e with
  | driver e nowUs reply =>
    apply driverStep_closed b.driver e h
    rintro rfl
    cases he
  | _ => exact h

/-- The driver passes no data through a closed gate. -/
theorem driverStep_silent [PbufRealloc] (d : Driver Unit) (e : DriverEvent Unit)
    (h : d.tc.resetComplete = false) : ∀ c ∈ (driverStep d e).2, c.isData = false := by
  cases e with
  | slice pRx offset len alloc =>
    simp only [driverStep, tc6CbOnRxEthernetSlice]
    repeat' split
    all_goals simp [Call.isData]
  | packet success len r =>
    simp only [driverStep, tc6CbOnRxEthernetPacket, tc6CbResetComplete, h]
    intro c hc
    cases hc
  | needService =>
    intro c hc
    cases hc
  | error err =>
    simp only [driverStep, tc6CbOnError]
    split <;> simp [Call.isData]
  | event ev =>
    simp only [driverStep, tc6RegsCbOnEvent]
    split <;> simp [Call.isData]
  | initDone =>
    intro c hc
    cases hc
  | registerRawRx etherType callback =>
    intro c hc
    cases hc

/-- Calls without data cause none. -/
theorem emits_react_silent (d : Driver Unit) (nowUs : UInt64) (reply : List LwipSend)
    (calls : List (Call Unit)) (h : ∀ c ∈ calls, c.isData = false) (hb : EthHb) :
    ∀ o ∈ emits (react d nowUs reply) hb calls, o.isData = false := by
  refine emits_forall (react d nowUs reply) (fun _ c => c.isData = false) (fun _ => True) _
    (fun _ _ _ _ => trivial) (fun hb c _ hc => ?_) calls hb trivial
    (along_of_forall _ (fun c => c.isData = false) hb calls h)
  cases c with
  | rawRxCallback cb pFrame len => cases hc
  | netifInput p => cases hc
  | sendRawEthernetSegments segs totalLen tag => cases hc
  | _ => simp [react, BoardCall.isData, Call.isData]

/-- The heartbeat goes to TC6 whether the PHY is ready or not. -/
theorem ethHeartbeatSend_data_iff (h : EthHb) (ledState : UInt8) (nowUs : UInt64) (tc6 : Bool)
    (hidx : tc6 = true → tc6LwipGetNetIf h.tc6Idx = true) :
    (∀ o ∈ (ethHeartbeatSend h ledState nowUs tc6).2.map BoardCall.hb, o.isData = false) ↔
      ¬ (h.initialized = true ∧ h.role = .server ∧ tc6 = true) := by
  unfold ethHeartbeatSend ethHbSendFrame
  by_cases hi : h.initialized = true
  · by_cases hr : h.role = .server
    · cases tc6 with
      | true => simp [hi, hr, hidx rfl, BoardCall.isData]
      | false =>
        cases hn : tc6LwipGetNetIf h.tc6Idx <;> simp [hi, hr, hn]
    · simp [hi, hr]
  · simp [hi]

/-- What one event lets through a closed gate. -/
theorem boardStep_silent_iff [PbufRealloc] (b : Board) (e : BoardEvent) (h : b.Closed) :
    (∀ o ∈ (boardStep b e).2, o.isData = false) ↔ NoLiveSend b e := by
  cases e with
  | driver e nowUs reply =>
    exact iff_of_true
      (emits_react_silent b.driver nowUs reply _ (driverStep_silent b.driver e h) b.hb) trivial
  | lwip s =>
    have hout : lwipCalls b.driver.tc s = [] := by
      unfold lwipCalls lwIpOut tc6CbResetComplete
      rw [h]
      rfl
    show (∀ o ∈ lwipCalls b.driver.tc s, o.isData = false) ↔ True
    rw [hout]
    exact iff_of_true nofun trivial
  | hbInit role mac => exact iff_of_true nofun trivial
  | hbSend ledState nowUs =>
    apply ethHeartbeatSend_data_iff b.hb ledState nowUs (tc6LwipGetTC6 b.driver b.hb.tc6Idx)
    intro ht
    unfold tc6LwipGetTC6 at ht
    exact (Bool.and_eq_true_iff.mp ht).1
  | hbSetPaused paused => exact iff_of_true nofun trivial
  | hbResetRtt => exact iff_of_true nofun trivial

/-- **The reset window.**  After a trigger, as long as there is no `Reset_Complete`, a board passes
no data in either direction if and only if it does not send its heartbeat. -/
theorem reset_window_silent_iff [PbufRealloc] (pre : List BoardEvent) (t : BoardEvent)
    (ht : t.triggers = true) (mid : List BoardEvent) (hmid : ∀ e ∈ mid, e.isResetComplete = false) :
    (∀ o ∈ emits boardStep (exec boardStep .zero (pre ++ [t])) mid, o.isData = false) ↔
      Along boardStep NoLiveSend (exec boardStep .zero (pre ++ [t])) mid := by
  have hclosed : (exec boardStep .zero (pre ++ [t])).Closed := by
    rw [exec_append]
    exact closed_of_triggers _ t ht
  rw [forall_emits_iff]
  exact along_congr boardStep (fun _ e => e.isResetComplete = false) _ _ Board.Closed closed_step
    (fun b e h _ => boardStep_silent_iff b e h) mid _ hclosed
    (along_of_forall boardStep (fun e => e.isResetComplete = false) _ mid hmid)

/-- A SERVER with everything registered and the PHY ready. -/
def serverUp : List BoardEvent :=
  [.driver (.event .resetComplete) 0 [], .driver .initDone 0 [], .hbInit .server none,
    .driver (.registerRawRx ethHbEthertype (some ())) 0 []]

/-- An ARP request to send, 42 bytes in one pbuf. -/
def arpSend : LwipSend := ⟨⟨0x3000, List.replicate 42 0, [], 42⟩, 8, true⟩

section
attribute [local instance] singlePbuf

/-- lwIP sends and a frame ends after a lost sync: nothing passes. -/
theorem reset_window_silent_lwip :
    BoardEvent.triggers (.driver (.error .syncLost) 0 []) = true ∧
      ∀ o ∈ emits boardStep (exec boardStep .zero (serverUp ++ [.driver (.error .syncLost) 0 []]))
        [.lwip arpSend, .driver (.packet true 60 .errOk) 0 [arpSend]], o.isData = false :=
  ⟨rfl, (reset_window_silent_iff serverUp (.driver (.error .syncLost) 0 []) rfl
    [.lwip arpSend, .driver (.packet true 60 .errOk) 0 [arpSend]] (by decide)).mpr
    ⟨trivial, trivial, trivial⟩⟩

end

section
attribute [local instance] singlePbuf

/-- The heartbeat after an SPI error goes out. -/
theorem reset_window_heartbeat :
    ¬ ∀ (pre : List BoardEvent) (t : BoardEvent), t.triggers = true →
      ∀ mid : List BoardEvent, (∀ e ∈ mid, e.isResetComplete = false) →
      ∀ o ∈ emits boardStep (exec boardStep .zero (pre ++ [t])) mid, o.isData = false := by
  intro h
  exact absurd (h serverUp (.driver (.error .spiError) 0 []) rfl [.hbSend 1 1000] (by decide)
    (.hb (.tc6SendRawEthernetPacket ethHbFrameSize)) (by decide +kernel)) (by decide)

end

end CuriosityT1S
