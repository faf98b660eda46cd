import CuriosityT1S.I2cScript

/-!
# Memory, error and handler of the I2C driver (i2c1.c)

Beside its script the driver keeps an error, stores what it receives and calls the handler at the
end.  Each of them is told by the log of the bus.

    DoneEffect:     what an interrupt does to them
    I2cBooks:       what they are, by the log so far
    i2cBooks_step:  one reply preserves it
-/

namespace CuriosityT1S

open Mealy I2cBus ByteMemory

/-- What an interrupt at which an operation is done, and not refused, does to the rest. -/
structure DoneEffect (s : I2c) (op : Op) (b : UInt8) (r : I2c × List I2cOut) : Prop where
  handler : r.1.hostHandler = s.hostHandler
  rx : op = .rx → ∃ a, s.obj.readData = some a ∧ r.1.obj.readData = some (a + 1) ∧
    r.1.mem = Function.update s.mem a b
  other : op ≠ .rx → r.1.obj.readData = s.obj.readData ∧ r.1.mem = s.mem
  error : r.1.obj.error = s.obj.error ∨ s.obj.state = .sendDataToClient ∧ r.1.obj.error = .none
  idle : r.1.obj.state = .idle ↔ s.obj.state = .stop ∨ s.obj.state = .idle
  calls : r.2.count .hostHandler = if s.obj.state = .stop ∧ s.hostHandler = true then 1 else 0

/-- Most interrupts only start the next operation. -/
theorem DoneEffect.plain {s : I2c} {op : Op} {b : UInt8} {t : I2c} {outs : List I2cOut}
    (hrx : op ≠ .rx) (hstop : s.obj.state ≠ .stop) (hidle : s.obj.state ≠ .idle)
    (handler : t.hostHandler = s.hostHandler) (readData : t.obj.readData = s.obj.readData)
    (mem : t.mem = s.mem)
    (error : t.obj.error = s.obj.error ∨ s.obj.state = .sendDataToClient ∧ t.obj.error = .none)
    (state : t.obj.state ≠ .idle) (calls : I2cOut.hostHandler ∉ outs) :
    DoneEffect s op b (t, outs) where
  handler := handler
  rx hc := absurd hc hrx
  other _ := ⟨readData, mem⟩
  error := error
  idle := by
    constructor
    · exact fun hc => absurd hc state
    · rintro (hc | hc)
      · exact absurd hc hstop
      · exact absurd hc hidle
  calls := by
    rw [if_neg fun hc => hstop hc.1]
    exact List.count_eq_zero.mpr calls

theorem sendData_effect {s : I2c} {op : Op} (h : s.Working op) (b : UInt8)
    (hstate : s.obj.state = .sendDataToClient) (hrx : op ≠ .rx) (r : I2cRegs) (htbf : r.tbf = false) :
    DoneEffect s op b (i2cSendData s r) := by
  have hstop : s.obj.state ≠ .stop := by simp [hstate]
  have hidle : s.obj.state ≠ .idle := by simp [hstate]
  unfold i2cSendData
  by_cases hcount : 0 < s.obj.writeDataCount
  · obtain ⟨a, ha⟩ := Option.isSome_iff_exists.mp (h.writePtr hcount)
    rw [if_pos hcount, if_neg (by simp [htbf]), ha]
    exact .plain hrx hstop hidle rfl rfl rfl (.inl rfl) hidle (by simp)
  · rw [if_neg hcount]
    unfold i2cWriteEnd
    split
    · split
      · exact .plain hrx hstop hidle rfl rfl rfl (.inl rfl) nofun (by simp)
      · exact .plain hrx hstop hidle rfl rfl rfl (.inl rfl) nofun (by simp)
    · exact .plain hrx hstop hidle rfl rfl rfl (.inr ⟨hstate, rfl⟩) nofun (by simp)

theorem receive_effect {s : I2c} (h : s.Working .rx) (r : I2cRegs)
    (hstate : s.obj.state = .receiveDataFromClient) (hrbf : r.rbf = true) :
    DoneEffect s .rx r.rcv (i2cReceive s r) := by
  obtain ⟨-, hcount⟩ := h.reads (by simp [I2cObject.reading, hstate])
  obtain ⟨a, ha⟩ := Option.isSome_iff_exists.mp (h.readPtr hcount)
  unfold i2cReceive
  rw [if_pos hrbf, ha]
  refine ⟨rfl, fun _ => ⟨a, ha, rfl, rfl⟩, fun hc => absurd rfl hc, .inl rfl, ?_, ?_⟩
  · simp only [hstate]
    split <;> simp
  · simp [hstate]

theorem done_effect {s : I2c} {op : Op} (h : s.Working op) (ack : Bool) (b : UInt8)
    (hop : op.refused ack = false) :
    DoneEffect s op b (i2c1Interrupt s (completionRegs op (.done ack b))) := by
  show DoneEffect s op b (i2c1HostDataProcess s (completionRegs op (.done ack b)))
  have hawaits := h.awaits
  have hrx : s.obj.state ≠ .receiveDataFromClient → op ≠ .rx := by
    rintro hne rfl
    cases hs : s.obj.state <;> rw [hs] at hawaits <;> first | exact hne hs | cases hawaits
  have hack : ∀ c, op = .tx c → (completionRegs op (.done ack b)).ackstat = false := by
    rintro c rfl
    exact hop
  unfold i2c1HostDataProcess
  cases hstate : s.obj.state with
  | idle =>
    obtain ⟨hw, hr⟩ := h.done (.inl hstate)
    have hbegin : i2cBegin s = (s, []) := by
      unfold i2cBegin
      rw [if_neg (by simp [hw, hr])]
    simp only [hbegin]
    exact ⟨rfl, fun hc => absurd hc (hrx (by simp [hstate])), fun _ => ⟨rfl, rfl⟩, .inl rfl,
      by simp [hstate], by simp [hstate]⟩
  | start =>
    rw [hstate] at hawaits
    cases hawaits
  | send7BitAddress =>
    refine .plain (hrx (by simp [hstate])) (by simp [hstate]) (by simp [hstate]) rfl rfl rfl
      (.inl rfl) ?_ (by simp)
    unfold I2cObject.afterAddress I2c.setState
    split <;> simp
  | send10BitHigherAddress =>
    simp only
    rw [if_neg (by simp [completionRegs])]
    refine .plain (hrx (by simp [hstate])) (by simp [hstate]) (by simp [hstate]) rfl rfl rfl
      (.inl rfl) ?_ (by simp)
    unfold I2c.setState
    split <;> simp
  | send10BitLowerAddress =>
    obtain ⟨c, rfl⟩ := tx_of_awaits hawaits (by simp [hstate])
    simp only
    rw [hack c rfl, if_neg Bool.false_ne_true]
    refine .plain (by simp) (by simp [hstate]) (by simp [hstate]) rfl rfl rfl (.inl rfl) ?_ (by simp)
    unfold I2cObject.afterAddress I2c.setState
    split <;> simp
  | sendDataToClient =>
    obtain ⟨c, rfl⟩ := tx_of_awaits hawaits (by simp [hstate])
    simp only
    rw [hack c rfl, if_neg Bool.false_ne_true]
    exact sendData_effect h b hstate (by simp) _ rfl
  | checkAddressAckNackStatus =>
    obtain ⟨c, rfl⟩ := tx_of_awaits hawaits (by simp [hstate])
    simp only
    rw [hack c rfl, if_neg Bool.false_ne_true]
    exact .plain (by simp) (by simp [hstate]) (by simp [hstate]) rfl rfl rfl (.inl rfl)
      (fun hc => I2cHostState.noConfusion hc) (by simp)
  | receiveDataFromClient =>
    obtain rfl : op = .rx := rx_of_awaits (hstate ▸ hawaits)
    exact receive_effect h (completionRegs .rx (.done ack b)) hstate rfl
  | receiveWaitAckNackComplete =>
    exact .plain (hrx (by simp [hstate])) (by simp [hstate]) (by simp [hstate]) rfl rfl rfl
      (.inl rfl) (fun hc => I2cHostState.noConfusion hc) (by simp)
  | stop =>
    refine ⟨rfl, fun hc => absurd hc (hrx (by simp [hstate])), fun _ => ⟨rfl, rfl⟩, .inl rfl,
      by simp [hstate, I2c.setState], ?_⟩
    unfold I2c.callHandler
    simp only [hstate, true_and, List.count_append]
    split <;> split <;> rfl

theorem errorOf_concat (log : List (Sym I2cCollision)) (s : Sym I2cCollision) :
    errorOf (log ++ [s]) = (symError s).getD (errorOf log) := by
  unfold errorOf
  rw [List.foldl_append, List.foldl_cons, List.foldl_nil]

theorem received_concat (log : List (Sym I2cCollision)) (s : Sym I2cCollision) :
    received (log ++ [s]) = received log ++ s.received.toList := by
  rw [received_append]
  cases s <;> rfl

/-- The books on a transfer so far: `mem` and `readData` are those of its start. -/
structure I2cBooks (mem : Nat → UInt8) (readData : Option Nat) (handler : Bool) (s : I2cLoop)
    (l : List I2cLoopOut) : Prop where
  working : ∀ op, s.pending = some op → s.dev.Working op
  hostHandler : s.dev.hostHandler = handler
  stored : s.dev.mem = storeBytes mem (readData.getD 0) (received (busLog l))
  next : s.pending ≠ none →
    s.dev.obj.readData = readData.map (· + (received (busLog l)).length)
  error : s.dev.obj.error = errorOf (busLog l)
  fresh : s.dev.obj.state ≠ .stop → s.dev.obj.state ≠ .idle → s.pending ≠ none →
    s.dev.obj.error = .none
  calls : (∀ c, .abort c ∉ busLog l) →
    handlerCalls l = if s.dev.obj.state = .idle ∧ handler = true then 1 else 0

theorem busLog_step (l : List I2cLoopOut) (sym : Sym I2cCollision) (outs : List I2cOut) :
    busLog (l ++ .sym sym :: outs.map .out) = busLog l ++ [sym] := by
  unfold busLog
  rw [List.filterMap_append]
  exact congrArg _ (congrArg (List.cons sym) (filterMap_out outs))

theorem handlerCalls_step (l : List I2cLoopOut) (sym : Sym I2cCollision) (outs : List I2cOut) :
    handlerCalls (l ++ .sym sym :: outs.map .out) = handlerCalls l + outs.count .hostHandler := by
  unfold handlerCalls
  rw [List.count_append, List.count_cons_of_ne (by simp)]
  congr 1
  exact List.count_map_of_injective outs _ (fun _ _ h => by injection h) _

/-- What has been received, with the byte of this operation if it receives one. -/
theorem received_step (log : List (Sym I2cCollision)) (op : Op) (ack : Bool) (b : UInt8) :
    received (log ++ [op.sym ack b]) = if op = .rx then received log ++ [b] else received log := by
  rw [received_concat]
  cases op <;> simp [Op.sym, Sym.received]

/-- The calls of the handler so far, after one more interrupt. -/
theorem calls_step {handler : Bool} {state state' : I2cHostState} {n k : Nat}
    (hn : n = if state = .idle ∧ handler = true then 1 else 0)
    (hk : k = if state = .stop ∧ handler = true then 1 else 0)
    (hidle : state' = .idle ↔ state = .stop ∨ state = .idle) :
    n + k = if state' = .idle ∧ handler = true then 1 else 0 := by
  subst hn hk
  simp only [hidle]
  cases handler <;> cases state <;> rfl

/-- An operation that is done and not refused. -/
theorem i2cBooks_done {mem : Nat → UInt8} {readData : Option Nat} {handler : Bool} {s : I2c}
    {op : Op} {l : List I2cLoopOut} (hb : I2cBooks mem readData handler ⟨s, some op⟩ l) (ack : Bool)
    (b : UInt8) (hop : op.refused ack = false)
    (hw : ∀ op', (i2cLoopStep ⟨s, some op⟩ (.done ack b)).1.pending = some op' →
      (i2cLoopStep ⟨s, some op⟩ (.done ack b)).1.dev.Working op') :
    I2cBooks mem readData handler (i2cLoopStep ⟨s, some op⟩ (.done ack b)).1
      (l ++ (i2cLoopStep ⟨s, some op⟩ (.done ack b)).2) := by
  have heff := done_effect (hb.working op rfl) ack b hop
  have hnext := hb.next (Option.some_ne_none op)
  have hquiet : symError (op.sym ack b) = none := by
    cases op <;> first | rfl | (simp only [Op.refused, Bool.not_eq_false'] at hop; rw [hop]; rfl)
  have hlog : busLog (l ++ (i2cLoopStep ⟨s, some op⟩ (.done ack b)).2) =
      busLog l ++ [op.sym ack b] := busLog_step l (op.sym ack b) _
  refine ⟨hw, heff.handler.trans hb.hostHandler, ?_, ?_, ?_, ?_, ?_⟩
  · rw [hlog, received_step]
    by_cases hrx : op = .rx
    · obtain ⟨a, ha, -, hmem⟩ := heff.rx hrx
      -- the byte goes behind those received before
      obtain ⟨a0, ha0, hat⟩ := Option.map_eq_some_iff.mp (hnext.symm.trans ha)
      rw [if_pos hrx, storeBytes_concat, ← hb.stored, ha0, Option.getD_some, hat]
      exact hmem
    · rw [if_neg hrx]
      exact (heff.other hrx).2.trans hb.stored
  · intro _
    rw [hlog, received_step]
    by_cases hrx : op = .rx
    · obtain ⟨a, ha, ha', -⟩ := heff.rx hrx
      obtain ⟨a0, ha0, hat⟩ := Option.map_eq_some_iff.mp (hnext.symm.trans ha)
      rw [if_pos hrx, List.length_append, List.length_singleton, ha0, Option.map_some,
        ← Nat.add_assoc, hat]
      exact ha'
    · rw [if_neg hrx]
      exact (heff.other hrx).1.trans hnext
  · rw [hlog, errorOf_concat, hquiet, Option.getD_none, ← hb.error]
    rcases heff.error with he | ⟨hstate, he⟩
    · exact he
    · have hstate' : s.obj.state = .sendDataToClient := hstate
      exact he.trans (hb.fresh (by simp [hstate']) (by simp [hstate']) (Option.some_ne_none op)).symm
  · intro _ hidle _
    have hnot := fun hc => hidle (heff.idle.mpr hc)
    have hold := hb.fresh (fun hc => hnot (.inl hc)) (fun hc => hnot (.inr hc))
      (Option.some_ne_none op)
    rcases heff.error with he | ⟨-, he⟩
    · exact he.trans hold
    · exact he
  · intro hno
    have hcalls := hb.calls fun c hc => hno c (by rw [hlog]; exact List.mem_append_left _ hc)
    have heffc := heff.calls
    rw [show s.hostHandler = handler from hb.hostHandler] at heffc
    show handlerCalls (l ++ .sym (op.sym ack b) :: List.map .out _) = _
    rw [handlerCalls_step]
    exact calls_step hcalls heffc heff.idle

/-- A byte that is refused. -/
theorem i2cBooks_refused {mem : Nat → UInt8} {readData : Option Nat} {handler : Bool} {s : I2c}
    {op : Op} {l : List I2cLoopOut} (hb : I2cBooks mem readData handler ⟨s, some op⟩ l) (ack : Bool)
    (b : UInt8) (hop : op.refused ack = true)
    (hw : ∀ op', (i2cLoopStep ⟨s, some op⟩ (.done ack b)).1.pending = some op' →
      (i2cLoopStep ⟨s, some op⟩ (.done ack b)).1.dev.Working op') :
    I2cBooks mem readData handler (i2cLoopStep ⟨s, some op⟩ (.done ack b)).1
      (l ++ (i2cLoopStep ⟨s, some op⟩ (.done ack b)).2) := by
  obtain ⟨hnack, hstop, hidle, c, rfl, rfl⟩ := refused_eq (hb.working op rfl) ack b hop
  have hlog : busLog (l ++ (i2cLoopStep ⟨s, some (.tx c)⟩ (.done false b)).2) =
      busLog l ++ [.tx c false] := busLog_step l (.tx c false) _
  have hreceived : received (busLog l ++ [.tx c false]) = received (busLog l) := by
    rw [received_concat]
    exact List.append_nil _
  have hdev : (i2cLoopStep ⟨s, some (.tx c)⟩ (.done false b)).1.dev = (i2cNack s).1 :=
    congrArg Prod.fst hnack
  refine ⟨hw, ?_, ?_, ?_, ?_, ?_, ?_⟩
  · rw [hdev]
    exact hb.hostHandler
  · rw [hdev, hlog, hreceived]
    exact hb.stored
  · intro _
    rw [hdev, hlog, hreceived]
    exact hb.next (Option.some_ne_none _)
  · rw [hdev, hlog, errorOf_concat]
    rfl
  · intro hc
    rw [hdev] at hc
    exact absurd rfl hc
  · intro hno
    have hcalls := hb.calls fun c hc => hno c (by rw [hlog]; exact List.mem_append_left _ hc)
    rw [if_neg fun hc => hidle hc.1] at hcalls
    show handlerCalls (l ++ .sym (.tx c false) :: List.map .out _) = _
    rw [handlerCalls_step, hnack, hcalls, hdev, if_neg fun hc => nomatch hc.1]
    rfl

/-- A collision. -/
theorem i2cBooks_abort {mem : Nat → UInt8} {readData : Option Nat} {handler : Bool} {s : I2c}
    {op : Op} {l : List I2cLoopOut} (hb : I2cBooks mem readData handler ⟨s, some op⟩ l)
    (cause : I2cCollision) :
    I2cBooks mem readData handler (i2cLoopStep ⟨s, some op⟩ (.abort cause)).1
      (l ++ (i2cLoopStep ⟨s, some op⟩ (.abort cause)).2) := by
  have hlog : busLog (l ++ (i2cLoopStep ⟨s, some op⟩ (.abort cause)).2) =
      busLog l ++ [.abort cause] := busLog_step l (.abort cause) _
  have hreceived : received (busLog l ++ [.abort cause]) = received (busLog l) := by
    rw [received_concat]
    exact List.append_nil _
  have hnone : (i2cLoopStep ⟨s, some op⟩ (.abort cause)).1.pending = none :=
    ((plays_nil _).mp (abort_plays s op cause)).1
  refine ⟨?_, ?_, ?_, ?_, ?_, ?_, ?_⟩
  · intro op' hc
    rw [hnone] at hc
    cases hc
  · cases cause <;> exact hb.hostHandler
  · rw [hlog, hreceived]
    cases cause <;> exact hb.stored
  · intro hc
    exact absurd hnone hc
  · rw [hlog, errorOf_concat]
    cases cause with
    | bus => rfl
    | write => exact hb.error
  · intro _ _ hc
    exact absurd hnone hc
  · intro hno
    exact absurd (hlog ▸ List.mem_append_right _ (List.mem_singleton_self _)) (hno cause)

/-- **One interrupt**, and what is on the books after it. -/
theorem i2cBooks_step {mem : Nat → UInt8} {readData : Option Nat} {handler : Bool} {s : I2cLoop}
    {l : List I2cLoopOut} (reply : Reply I2cCollision) {todo : List Op} (hp : s.Plays todo)
    (hb : I2cBooks mem readData handler s l) :
    I2cBooks mem readData handler (i2cLoopStep s reply).1 (l ++ (i2cLoopStep s reply).2) := by
  obtain ⟨dev, pending⟩ := s
  cases pending with
  | none =>
    show I2cBooks mem readData handler ⟨dev, none⟩ (l ++ [])
    rw [List.append_nil]
    exact hb
  | some op =>
    have hw : ∀ op', (i2cLoopStep ⟨dev, some op⟩ reply).1.pending = some op' →
        (i2cLoopStep ⟨dev, some op⟩ reply).1.dev.Working op' := by
      intro op' hop'
      have h := (i2cLoopStep_plays _ todo reply hp).1
      unfold I2cLoop.Plays at h
      rw [hop'] at h
      exact h.2
    cases reply with
    | abort cause => exact i2cBooks_abort hb cause
    | done ack b =>
      cases hop : op.refused ack with
      | true => exact i2cBooks_refused hb ack b hop hw
      | false => exact i2cBooks_done hb ack b hop hw

end CuriosityT1S
