import CuriosityT1S.SpiEarly

/-!
# Which SPI transactions can be completed (dmaspi.c)

An interrupt and the statements come to an end, and as long as the transaction in flight has lost
nothing there is always something that brings it nearer to its end.

    Brings:             fewer statements to come, or as many and fewer steps for the bytes
    Going.goes_on:      the statement, cell or byte that does, or the interrupt that completes
    spi_completes_iff:  a transaction can be completed if and only if no byte of it is lost and none
                        has ended early
-/

namespace CuriosityT1S

open Mealy ByteMemory

/-! ## Towards the end -/

/-- The completion handler can still be called. -/
def SpiDma.CanComplete (s : SpiDma) : Prop :=
  ∃ es, Along spiDmaStep SpiDma.Permitted s es ∧ .completionHandler ∈ emits spiDmaStep s es

theorem SpiDma.CanComplete.step {s : SpiDma} {e : SpiDmaEvent} (hp : s.Permitted e)
    (h : (spiDmaStep s e).1.CanComplete) : s.CanComplete := by
  obtain ⟨es, hes, hout⟩ := h
  exact ⟨e :: es, ⟨hp, hes⟩, List.mem_append_right _ hout⟩

theorem SpiDma.CanComplete.now {s : SpiDma} {e : SpiDmaEvent} (hp : s.Permitted e)
    (h : .completionHandler ∈ (spiDmaStep s e).2) : s.CanComplete :=
  ⟨[e], ⟨hp, trivial⟩, List.mem_append_left _ h⟩

/-- Nothing of the transaction in flight is lost. -/
def SpiDevice.Whole (d : SpiDevice) : Prop :=
  ∃ x, d.inFlight = some x ∧ x.accounted = x.length.toNat

/-- A transaction that is whole, and whose end will be seen. -/
structure Going (s : SpiDma) (d : SpiDevice) : Prop where
  sim : Sim s d
  heeded : s.Heeded d
  whole : d.Whole

/-- The statements that are left of an interrupt, at most. -/
def DmaIsrPc.left : DmaIsrPc → Nat
  | .testOverrun => 8
  | .callOverrun => 7
  | .clearOverrun => 6
  | .testDone => 5
  | .callDone => 4
  | .inHandler => 3
  | .clearDone => 2
  | .clearIf => 1

def isrLeft : Option (DmaChannel × DmaIsrPc) → Nat
  | none => 0
  | some (_, pc) => pc.left

/-- Statements that are to come. -/
def SpiDma.toRun (s : SpiDma) : Nat := s.ahead.length + isrLeft s.isr

/-- Steps that a byte has still to make: fetched, loaded, shifted and stored. -/
def SpiDma.left (s : SpiDma) : Nat :=
  4 * s.regs.tx.cnt + 3 * s.port.txBuf.toList.length + 2 * s.port.shifter.toList.length +
    s.port.rxBuf.toList.length

/-- An event after which the transaction is nearer to its end. -/
def SpiDma.Brings (s : SpiDma) (e : SpiDmaEvent) : Prop :=
  s.Permitted e ∧ (∃ d, Going (spiDmaStep s e).1 d) ∧
    ((spiDmaStep s e).1.toRun < s.toRun ∨
      (spiDmaStep s e).1.toRun = s.toRun ∧ (spiDmaStep s e).1.left < s.left)

/-- A transaction that is not completed is whole until a byte is lost. -/
theorem SpiDevice.whole_or_short {outs : List SpiDmaOut} : ∀ {d d' : SpiDevice}, d.Whole →
    outs.foldlM SpiDevice.after d = some d' → .completionHandler ∉ outs →
      if .lost ∈ outs then d'.Short else d'.Whole := by
  induction outs with
  | nil =>
    intro d d' hd h _
    obtain rfl := SpiDevice.foldlM_nil h
    exact hd
  | cons o outs ih =>
    rintro d d' ⟨x, hx, hall⟩ h hopen
    rw [List.foldlM_cons] at h
    obtain ⟨e, ho, h⟩ := Option.bind_eq_some_iff.mp h
    rw [List.mem_cons, not_or] at hopen
    rcases SpiDevice.after_inFlight hx ho with ⟨hend, -⟩ | ⟨-, x', hx', hlen, hif⟩
    · exact absurd hend.symm hopen.1
    · by_cases hlost : o = .lost
      · rw [if_pos hlost] at hif
        rw [if_pos (by rw [hlost]; exact List.mem_cons_self)]
        have hshort : e.Short := ⟨x', hx', by rw [hlen]; omega⟩
        exact (hshort.none_completed h).1
      · rw [if_neg hlost] at hif
        have hrest := ih ⟨x', hx', by rw [hlen, hif, hall]⟩ h hopen.2
        have hmem : .lost ∈ o :: outs ↔ .lost ∈ outs := by
          rw [List.mem_cons, or_iff_right fun hc => hlost hc.symm]
        simpa only [hmem] using hrest

theorem Going.step {s : SpiDma} {d : SpiDevice} (h : Going s d) {e : SpiDmaEvent}
    (hp : s.Permitted e) (hearly : ¬ s.EndsEarly e) (hlost : .lost ∉ (spiDmaStep s e).2)
    (hopen : .completionHandler ∉ (spiDmaStep s e).2) : ∃ d', Going (spiDmaStep s e).1 d' := by
  obtain ⟨d', hout, hsim⟩ := sim_step h.sim e hp
  have hwhole := SpiDevice.whole_or_short h.whole hout hopen
  rw [if_neg hlost] at hwhole
  exact ⟨d', hsim, h.sim.heeded_step h.heeded e hp hearly hout hsim, hwhole⟩

/-- When nothing is shown. -/
theorem Going.step_quiet {s s' : SpiDma} {d : SpiDevice} (h : Going s d) {e : SpiDmaEvent}
    (hp : s.Permitted e) (hearly : ¬ s.EndsEarly e) (hstep : spiDmaStep s e = (s', [])) :
    ∃ d', Going (spiDmaStep s e).1 d' := by
  apply h.step hp hearly
  · rw [hstep]
    exact List.not_mem_nil
  · rw [hstep]
    exact List.not_mem_nil

/-! ### Statements -/

/-- The callback for the end of a transfer calls the completion handler. -/
theorem completionHandler_mem {s : SpiDma} (h : s.regs.control.completionHandler = true) :
    .completionHandler ∈ (s.interruptStatement .rx .callDone).2 := by
  apply List.mem_append_right
  show _ ∈ if s.regs.control.completionHandler then [SpiDmaOut.completionHandler] else []
  rw [h]
  exact List.mem_singleton_self _

theorem interruptStatement_toRun {s : SpiDma} {ch : DmaChannel} {pc : DmaIsrPc}
    (hisr : s.isr = some (ch, pc)) :
    (s.interruptStatement ch pc).1.ahead = s.ahead ∧
      isrLeft (s.interruptStatement ch pc).1.isr < isrLeft s.isr := by
  rw [hisr]
  cases pc with
  | testOverrun =>
    refine ⟨rfl, ?_⟩
    show (if (s.flags ch).overrun then DmaIsrPc.callOverrun else .testDone).left < 8
    split <;> decide
  | testDone =>
    refine ⟨rfl, ?_⟩
    show (if (s.flags ch).done then DmaIsrPc.callDone else .clearIf).left < 5
    split <;> decide
  | callOverrun | clearOverrun | callDone | inHandler | clearDone | clearIf =>
    cases ch <;> exact ⟨rfl, Nat.lt_succ_self _⟩

/-- A statement is one statement less. -/
theorem statement_toRun {s : SpiDma} {d : SpiDevice} (h : Sim s d) (hrun : 0 < s.toRun) :
    s.statement.1.toRun < s.toRun := by
  unfold SpiDma.toRun at hrun ⊢
  rcases statement_cases h.nested with ⟨hisr, hahead, -⟩ | ⟨w, todo, nested, hruns⟩ |
    ⟨ch, pc, hisr, -, heq⟩
  · rw [hisr, hahead] at hrun
    exact absurd hrun (Nat.lt_irrefl 0)
  · obtain ⟨-, -, -, -, -, hw, -, -⟩ := write_frame s w
    rw [hruns.statement, hruns.ahead]
    show (nested ++ todo).length + isrLeft (s.write w).isr < _
    rw [hw, List.length_cons]
    omega
  · obtain ⟨hahead, hless⟩ := interruptStatement_toRun hisr
    rw [heq, hahead]
    exact Nat.add_lt_add_left hless _

/-- A statement shows nothing, unless it is a dummy read or the callback at the end. -/
theorem statement_outs {s : SpiDma} {d : SpiDevice} (h : Sim s d)
    (hread : s.isr = some (.rx, .callOverrun) → s.port.rxBuf = none) :
    s.statement.2 = [] ∨ .completionHandler ∈ s.statement.2 := by
  rcases statement_cases h.nested with ⟨-, -, heq⟩ | ⟨w, todo, nested, hruns⟩ |
    ⟨ch, pc, hisr, -, heq⟩
  · rw [heq]
    exact .inl rfl
  · rw [hruns.statement]
    exact .inl rfl
  · rw [heq]
    cases ch with
    | tx =>
      obtain ⟨tx, isr, -, hstep⟩ := interruptStatement_tx h.txonly pc
      rw [hstep]
      exact .inl rfl
    | rx =>
      cases pc with
      | callOverrun =>
        left
        show (s.dma1 .overrun).2 = []
        rcases dma1_overrun s with hsame | hlost
        · rw [hsame]
        · rw [hlost, hread hisr]
          rfl
      | callDone => exact .inr (completionHandler_mem h.handler)
      | testOverrun | clearOverrun | testDone | inHandler | clearDone | clearIf => exact .inl rfl

/-- **Statements.**  One more, unless it would lose a byte. -/
theorem brings_statement {s : SpiDma} {d : SpiDevice} (h : Going s d) (hrun : 0 < s.toRun)
    (hread : s.isr = some (.rx, .callOverrun) → s.port.rxBuf = none) :
    s.CanComplete ∨ s.Brings .statement := by
  rcases statement_outs h.sim hread with hnil | hdone
  · right
    have hempty : (spiDmaStep s .statement).2 = [] := hnil
    have hearly : ¬ s.EndsEarly .statement := fun hc => by cases hc.1
    refine ⟨trivial, h.step trivial hearly ?_ ?_, .inl (statement_toRun h.sim hrun)⟩
    · rw [hempty]
      exact List.not_mem_nil
    · rw [hempty]
      exact List.not_mem_nil
  · exact .inl (.now (e := .statement) trivial hdone)

/-- The interrupt of channel 1 is at `pc`, and DONE is set. -/
structure SpiDma.SeesDone (s : SpiDma) (pc : DmaIsrPc) : Prop where
  isr : s.isr = some (.rx, pc)
  nested : s.nested = []
  done : s.rx.done = true
  handler : s.regs.control.completionHandler = true

section
variable {s : SpiDma} {pc : DmaIsrPc}

theorem SpiDma.SeesDone.statement (h : s.SeesDone pc) :
    spiDmaStep s .statement = s.interruptStatement .rx pc :=
  statement_interrupt h.isr h.nested

theorem SpiDma.SeesDone.callDone (h : s.SeesDone .callDone) : s.CanComplete := by
  apply SpiDma.CanComplete.now (e := .statement) trivial
  rw [h.statement]
  exact completionHandler_mem h.handler

theorem SpiDma.SeesDone.testDone (h : s.SeesDone .testDone) : s.CanComplete := by
  apply SpiDma.CanComplete.step (e := .statement) trivial
  rw [h.statement]
  refine SpiDma.SeesDone.callDone ⟨?_, h.nested, h.done, h.handler⟩
  show some (DmaChannel.rx, if s.rx.done then DmaIsrPc.callDone else .clearIf) = _
  rw [if_pos h.done]

theorem SpiDma.SeesDone.clearOverrun (h : s.SeesDone .clearOverrun) : s.CanComplete := by
  apply SpiDma.CanComplete.step (e := .statement) trivial
  rw [h.statement]
  exact SpiDma.SeesDone.testDone ⟨rfl, h.nested, h.done, h.handler⟩

theorem SpiDma.SeesDone.callOverrun (h : s.SeesDone .callOverrun) : s.CanComplete := by
  apply SpiDma.CanComplete.step (e := .statement) trivial
  rw [h.statement]
  exact SpiDma.SeesDone.clearOverrun ⟨rfl, h.nested, h.done, h.handler⟩

/-- It gets to the callback. -/
theorem SpiDma.SeesDone.testOverrun (h : s.SeesDone .testOverrun) : s.CanComplete := by
  apply SpiDma.CanComplete.step (e := .statement) trivial
  rw [h.statement]
  have hnext : (s.interruptStatement .rx .testOverrun).1.isr =
      some (.rx, if s.rx.overrun then .callOverrun else .testDone) := rfl
  by_cases hlook : s.rx.overrun = true
  · rw [if_pos hlook] at hnext
    exact SpiDma.SeesDone.callOverrun ⟨hnext, h.nested, h.done, h.handler⟩
  · rw [if_neg hlook] at hnext
    exact SpiDma.SeesDone.testDone ⟨hnext, h.nested, h.done, h.handler⟩

end

/-! ### Cells and bytes -/

/-- A byte that has come in can be stored, but for an interrupt that has looked at DONE. -/
theorem brings_cell_rx {s : SpiDma} {d : SpiDevice} (h : Going s d) {b : UInt8}
    (hb : s.port.rxBuf = some b) (hlate : s.late = false) : s.Brings (.cell .rx) := by
  obtain ⟨x, hx, -⟩ := h.whole
  rcases h.sim with hs | ⟨y, setup, rest, dummy, sent, stored, hs⟩
  · rw [hs.inFlight] at hx
    cases hx
  · obtain rfl := hs.setup_nil_of_rxBuf hb
    have hregs := hs.armed
    have hlt : stored.length < y.length.toNat := by
      have hroom := hs.room
      rw [hs.received, hb, List.length_append] at hroom
      have hone : (some b).toList.length = 1 := rfl
      omega
    have hchen : s.regs.rx.chen = true := by
      rw [hregs]
      exact decide_eq_true hlt
    have hasks : s.asks .rx = true := by
      unfold SpiDma.asks
      rw [hregs, hb]
      rfl
    have hstep := step_cell .rx hchen (by rw [hregs]; rfl) hasks
    have hearly : ¬ s.EndsEarly (.cell .rx) := by
      rintro ⟨-, -, -, -, hc⟩
      exact absurd (hlate.symm.trans hc) (by decide)
    refine ⟨trivial, h.step_quiet trivial hearly hstep, .inr ?_⟩
    obtain ⟨flags, hcell, -⟩ := cell_rx hregs hb
    rw [hstep, hcell]
    refine ⟨rfl, ?_⟩
    unfold SpiDma.left
    rw [hb, hregs]
    exact Nat.lt_succ_self _

section
variable {s : SpiDma} {d : SpiDevice} {x : SpiExchange} {dummy : UInt8} {sent : Nat}
  {stored : List UInt8}

/-- There is room for a byte: the one in the shift register can go out. -/
theorem brings_shift (h : Going s d) (hrx : s.port.rxBuf = none) {t : UInt8}
    (ht : s.port.shifter = some t) : s.Brings (.shift 0) := by
  have hstep : spiDmaStep s (.shift 0) =
      ({ s with port := { s.port with shifter := none, rxBuf := some 0 } }, [.wire t 0]) := by
    show s.shift 0 = _
    unfold SpiDma.shift
    rw [ht]
    show (if s.port.rxBuf.isSome then _ else _) = _
    rw [hrx]
    rfl
  have hearly : ¬ s.EndsEarly (.shift 0) := fun hc => by cases hc.1
  have hgoing := h.step (e := .shift 0) trivial hearly (by rw [hstep]; simp) (by rw [hstep]; simp)
  refine ⟨trivial, hgoing, .inr ?_⟩
  rw [hstep]
  refine ⟨rfl, ?_⟩
  unfold SpiDma.left
  rw [hrx, ht]
  exact Nat.lt_succ_self _

/-- The next byte can go into the shift register. -/
theorem brings_load (h : Going s d) (hshift : s.port.shifter = none) {t : UInt8}
    (ht : s.port.txBuf = some t) : s.Brings .load := by
  have hstep : spiDmaStep s .load =
      ({ s with port := { s.port with shifter := some t, txBuf := none } }, []) := by
    unfold spiDmaStep
    simp only [hshift, ht]
  have hearly : ¬ s.EndsEarly .load := fun hc => by cases hc.1
  refine ⟨trivial, h.step_quiet trivial hearly hstep, .inr ?_⟩
  rw [hstep]
  refine ⟨rfl, ?_⟩
  unfold SpiDma.left
  rw [hshift, ht]
  show 4 * s.regs.tx.cnt + 3 * 0 + 2 * 1 + s.port.rxBuf.toList.length <
    4 * s.regs.tx.cnt + 3 * 1 + 2 * 0 + s.port.rxBuf.toList.length
  omega

/-- The next byte can be fetched. -/
theorem brings_cell_tx (h : Going s d) (hs : Exchanging s d x [] [] dummy sent stored)
    (htx : s.port.txBuf = none) (hlt : sent < x.length.toNat) : s.Brings (.cell .tx) := by
  have hregs := hs.armed
  have hchen : s.regs.tx.chen = true := by
    rw [hregs]
    exact decide_eq_true hlt
  have hasks : s.asks .tx = true := by
    unfold SpiDma.asks
    rw [hregs, htx]
    rfl
  have hstep := step_cell .tx hchen (by rw [hregs]; rfl) hasks
  have hearly : ¬ s.EndsEarly (.cell .tx) := fun hc => by cases hc.1
  refine ⟨trivial, h.step_quiet trivial hearly hstep, .inr ?_⟩
  obtain ⟨flags, hcell⟩ := cell_tx hregs
  rw [hstep, hcell]
  refine ⟨rfl, ?_⟩
  unfold SpiDma.left
  rw [htx, hregs]
  show 4 * (x.length.toNat - (sent + 1)) + 3 * 1 + 2 * s.port.shifter.toList.length +
      s.port.rxBuf.toList.length <
    4 * (x.length.toNat - sent) + 3 * 0 + 2 * s.port.shifter.toList.length +
      s.port.rxBuf.toList.length
  omega

/-- Everything is stored: the interrupt is pending, and calls the completion handler. -/
theorem completes_stored (h : Going s d) (hs : Exchanging s d x [] [] dummy sent stored)
    (hisr : s.isr = none) (hall : stored.length = x.length.toNat) : s.CanComplete := by
  have hregs := hs.armed
  obtain ⟨-, hquiet, -, hreceived⟩ := hs.all_received hall
  have hpending := h.heeded ⟨x, hs.inFlight, by rw [hreceived, hall], hquiet.rxBuf⟩
  rw [hisr] at hpending
  obtain ⟨hdone, hif⟩ := hpending
  have hie : s.regs.rx.ie = true := by
    rw [hregs]
    rfl
  have hstep : spiDmaStep s (.enter .rx) = (s.goto .rx .testOverrun, []) := by
    apply if_pos
    show (s.isr.isNone && s.rx.iflag && s.regs.rx.ie) = true
    rw [hisr, hif, hie]
    rfl
  apply SpiDma.CanComplete.step (e := .enter .rx) trivial
  rw [hstep]
  have hnested : s.nested = [] := h.sim.nested_nil (by rw [hisr]; simp)
  exact SpiDma.SeesDone.testOverrun ⟨rfl, hnested, hdone, hs.control.1⟩

end

/-! ### Progress -/

/-- When there is nothing to run. -/
theorem Going.idle {s : SpiDma} {d : SpiDevice} (h : Going s d) (hrun : s.toRun = 0) :
    s.CanComplete ∨ ∃ e, s.Brings e := by
  obtain ⟨hahead, hleft⟩ := Nat.add_eq_zero_iff.mp hrun
  have hisr : s.isr = none := by
    cases hplace : s.isr with
    | none => rfl
    | some place =>
      obtain ⟨ch, pc⟩ := place
      rw [hplace] at hleft
      cases pc <;> cases hleft
  have hlate : s.late = false := by
    unfold SpiDma.late
    rw [hisr]
  obtain ⟨x, hx, hwhole⟩ := h.whole
  rcases h.sim with hs | ⟨y, setup, rest, dummy, sent, stored, hs⟩
  · rw [hs.inFlight] at hx
    cases hx
  · obtain rfl : y = x := Option.some.inj (hs.inFlight.symm.trans hx)
    obtain ⟨rfl, rfl⟩ :=
      List.append_eq_nil_iff.mp (hs.ahead.symm.trans (List.length_eq_zero_iff.mp hahead))
    cases hrx : s.port.rxBuf with
    | some b => exact .inr ⟨_, brings_cell_rx h hrx hlate⟩
    | none =>
      cases hshift : s.port.shifter with
      | some t => exact .inr ⟨_, brings_shift h hrx hshift⟩
      | none =>
        cases htx : s.port.txBuf with
        | some t => exact .inr ⟨_, brings_load h hshift htx⟩
        | none =>
          by_cases hlt : sent < y.length.toNat
          · exact .inr ⟨_, brings_cell_tx h hs htx hlt⟩
          · -- nothing is left to send, so what has been received is all there is
            left
            apply completes_stored h hs hisr
            have hsend : y.toSend = [] := by
              rw [hs.toSend, SpiPort.pipe, hshift, htx, Nat.sub_eq_zero_of_le (Nat.not_lt.mp hlt)]
              rfl
            have hreceived : y.received = stored := by
              rw [hs.received, hrx]
              exact List.append_nil stored
            unfold SpiExchange.accounted at hwhole
            rw [hsend, hreceived] at hwhole
            exact (Nat.zero_add _).symm.trans hwhole

/-- **Progress.**  As long as nothing is lost. -/
theorem Going.goes_on {s : SpiDma} {d : SpiDevice} (h : Going s d) :
    s.CanComplete ∨ ∃ e, s.Brings e := by
  by_cases hrun : s.toRun = 0
  · exact h.idle hrun
  · have hpos := Nat.pos_of_ne_zero hrun
    by_cases hread : s.isr = some (.rx, .callOverrun)
    · -- the dummy read would take a byte away that can still be stored
      cases hrx : s.port.rxBuf with
      | some b =>
        have hlate : s.late = false := by
          unfold SpiDma.late
          rw [hread]
          rfl
        exact .inr ⟨_, brings_cell_rx h hrx hlate⟩
      | none => exact (brings_statement h hpos fun _ => hrx).imp_right fun hb => ⟨_, hb⟩
    · exact (brings_statement h hpos fun hc => absurd hc hread).imp_right fun hb => ⟨_, hb⟩

theorem Going.completes : ∀ (m n : Nat) (s : SpiDma) (d : SpiDevice), s.toRun = m → s.left = n →
    Going s d → s.CanComplete := by
  intro m
  induction m using Nat.strong_induction_on with
  | _ m ihm =>
    intro n
    induction n using Nat.strong_induction_on with
    | _ n ihn =>
      rintro s d rfl rfl h
      rcases h.goes_on with hdone | ⟨e, hp, ⟨d', hd'⟩, hless | ⟨hsame, hless⟩⟩
      · exact hdone
      · exact .step hp (ihm _ hless _ _ d' rfl rfl hd')
      · exact .step hp (ihn _ hless _ d' hsame rfl hd')

/-! ## Runs -/

/-- A transaction begins with all its bytes. -/
theorem SpiDevice.whole_of_accepted {d d' : SpiDevice} {q : SpiRequest}
    (h : d.after (.accepted q) = some d') : d'.Whole := by
  obtain ⟨mem, inFlight⟩ := d
  obtain ⟨pTx, pRx, length⟩ := q
  cases inFlight with
  | some x => cases h
  | none =>
    cases pTx with
    | none => cases h
    | some pTx =>
      cases pRx with
      | none => cases h
      | some pRx =>
        obtain rfl := Option.some.inj h
        refine ⟨_, rfl, ?_⟩
        unfold SpiExchange.accounted
        rw [bytesAt_length]
        rfl

/-- **Completion.**  In every run, whatever has happened so far: the transaction in flight can be
completed if and only if no byte of it is lost and none has ended early. -/
theorem spi_completes_iff (mem : Nat → UInt8) (es : List SpiDmaEvent)
    (h : Along spiDmaStep SpiDma.Permitted (.start mem) es) (q : SpiRequest)
    (pre post : List SpiDmaOut)
    (hsplit : emits spiDmaStep (.start mem) es = pre ++ .accepted q :: post)
    (hopen : .completionHandler ∉ post) :
    (exec spiDmaStep (.start mem) es).CanComplete ↔
      .lost ∉ post ∧ Along spiDmaStep (fun s e => ¬ s.EndsEarly e) (.start mem) es := by
  have hheeded : (SpiDma.start mem).Heeded ⟨mem, none⟩ := by
    rintro ⟨x, hx, -⟩
    cases hx
  rcases heeded_or_stuck es _ _ (sim_start mem) hheeded h with
    ⟨hearly, d, houts, hsim, hheed⟩ | ⟨hearly, hstuck⟩
  · rw [hsplit, List.foldlM_append] at houts
    obtain ⟨d0, -, houts⟩ := Option.bind_eq_some_iff.mp houts
    rw [List.foldlM_cons] at houts
    obtain ⟨d1, haccepted, houts⟩ := Option.bind_eq_some_iff.mp houts
    have hsplits := SpiDevice.whole_or_short (SpiDevice.whole_of_accepted haccepted) houts hopen
    constructor
    · rintro ⟨es', hperm, hdone⟩
      refine ⟨fun hlost => ?_, hearly⟩
      rw [if_pos hlost] at hsplits
      obtain ⟨d', houts', -⟩ := sim_run es' _ _ hsim hperm
      exact (hsplits.none_completed houts').2 hdone
    · rintro ⟨hlost, -⟩
      rw [if_neg hlost] at hsplits
      exact Going.completes _ _ _ d rfl rfl ⟨hsim, hheed, hsplits⟩
  · constructor
    · rintro ⟨es', -, hdone⟩
      exact absurd hdone (hstuck.run es')
    · exact fun hc => absurd hc.2 hearly

/-- One of two bytes has been exchanged, and waits to be stored. -/
def halfway : List SpiDmaEvent :=
  startTransaction ⟨some 0, some 8, 2⟩ ++ [.cell .tx, .load, .cell .tx, .shift 7]

/-- A second exchange is started by the completion handler. -/
def chained : List SpiDmaEvent :=
  let first : List SpiDmaEvent :=
    [.cell .tx, .load, .shift 7, .cell .rx, .enter .rx, .statement, .statement, .statement]
  let second : List SpiDmaEvent := [.cell .tx, .load, .shift 9]
  startTransaction ⟨some 0, some 8, 1⟩ ++
    (first ++ (startTransaction ⟨some 0, some 16, 1⟩ ++ second))

/-- If the first byte still waits when the next one has come in, that one is lost.  If the second
exchange is over before the handler has returned, it is never completed. -/
theorem spi_completes_iff_two :
    (exec spiDmaStep (.start fun _ => 5) halfway).CanComplete ∧
    ¬ (exec spiDmaStep (.start fun _ => 5) (halfway ++ [.load, .shift 9])).CanComplete ∧
    (exec spiDmaStep (.start fun _ => 5) chained).CanComplete ∧
    ¬ (exec spiDmaStep (.start fun _ => 5) (chained ++ [.cell .rx])).CanComplete := by
  refine ⟨?_, ?_, ?_, ?_⟩
  · have hiff := spi_completes_iff (fun _ => 5) halfway (by decide +kernel) ⟨some 0, some 8, 2⟩ []
      [.wire 5 7] (by decide +kernel) (by decide +kernel)
    exact hiff.mpr (by decide +kernel)
  · intro hc
    have hiff := spi_completes_iff (fun _ => 5) (halfway ++ [.load, .shift 9]) (by decide +kernel)
      ⟨some 0, some 8, 2⟩ [] [.wire 5 7, .wire 5 9, .lost] (by decide +kernel) (by decide +kernel)
    have hnot := (hiff.mp hc).1
    exact hnot (by decide +kernel)
  · have hiff := spi_completes_iff (fun _ => 5) chained (by decide +kernel) ⟨some 0, some 16, 1⟩
      [.accepted ⟨some 0, some 8, 1⟩, .wire 5 7, .completionHandler] [.wire 5 9] (by decide +kernel)
      (by decide +kernel)
    exact hiff.mpr (by decide +kernel)
  · intro hc
    have hiff := spi_completes_iff (fun _ => 5) (chained ++ [.cell .rx]) (by decide +kernel)
      ⟨some 0, some 16, 1⟩ [.accepted ⟨some 0, some 8, 1⟩, .wire 5 7, .completionHandler]
      [.wire 5 9] (by decide +kernel) (by decide +kernel)
    have hnot := (hiff.mp hc).2
    revert hnot
    decide +kernel

end CuriosityT1S
