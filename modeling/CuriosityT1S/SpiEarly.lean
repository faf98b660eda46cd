import CuriosityT1S.SpiExchange

/-!
# The end of an SPI transaction, seen or not (dma.c)

The interrupt of channel 1 sees DONE at the end of a transaction, unless the transaction was started
by the completion handler and is over before the interrupt in which that ran: the flags are cleared
behind it.

    EndsEarly:        the last byte is stored after the interrupt has looked at DONE
    Sim.heeded_step:  without that, the end of a transaction is seen
    Stuck.step:       after it nothing is completed
    heeded_or_stuck:  a run
-/

namespace CuriosityT1S

open Mealy

theorem SpiDevice.foldlM_nil {d d' : SpiDevice}
    (h : ([] : List SpiDmaOut).foldlM SpiDevice.after d = some d') : d' = d :=
  (Option.some.inj h).symm

/-! ## What the interrupt sees -/

/-- The interrupt of channel 1 has looked at DONE. -/
def SpiDma.late (s : SpiDma) : Bool :=
  match s.isr with
  | some (.rx, pc) => pc.late
  | _ => false

/-- The last byte is stored then. -/
def SpiDma.EndsEarly (s : SpiDma) (e : SpiDmaEvent) : Prop :=
  e = .cell .rx ∧ s.regs.rx.chen = true ∧ s.asks .rx = true ∧ s.regs.rx.cnt = 1 ∧ s.late = true

instance (s : SpiDma) (e : SpiDmaEvent) : Decidable (s.EndsEarly e) := by
  unfold SpiDma.EndsEarly
  infer_instance

/-- The interrupt of channel 1 will see DONE: it is to come, or has not looked yet. -/
def RxPending (rx : ChannelFlags) (isr : Option (DmaChannel × DmaIsrPc)) : Prop :=
  rx.done = true ∧
    match isr with
    | some (.rx, pc) => pc.late = false
    | _ => rx.iflag = true

/-- All bytes of the transaction in flight are in the receive buffer. -/
def AllStored (port : SpiPort) (d : SpiDevice) : Prop :=
  ∃ x, d.inFlight = some x ∧ x.received.length = x.length.toNat ∧ port.rxBuf = none

/-- If so, the interrupt will see it. -/
def SpiDma.Heeded (s : SpiDma) (d : SpiDevice) : Prop := AllStored s.port d → RxPending s.rx s.isr

theorem SpiDma.Heeded.of {s s' : SpiDma} {d d' : SpiDevice} (h : s.Heeded d)
    (hall : AllStored s'.port d' → AllStored s.port d)
    (hrx : RxPending s.rx s.isr → RxPending s'.rx s'.isr) : s'.Heeded d' :=
  fun h' => hrx (h (hall h'))

theorem Exchanging.stored_of_all {s : SpiDma} {d : SpiDevice} {x : SpiExchange}
    {setup rest : List RegWrite} {dummy : UInt8} {sent : Nat} {stored : List UInt8}
    (h : Exchanging s d x setup rest dummy sent stored) (hall : AllStored s.port d) :
    stored.length = x.length.toNat := by
  obtain ⟨y, hy, hlen, hrx⟩ := hall
  obtain rfl : y = x := Option.some.inj (hy.symm.trans h.inFlight)
  rw [← hlen, h.received, hrx]
  exact congrArg List.length (List.append_nil stored).symm

/-- Nothing is stored between transactions. -/
theorem Idle.not_all {s : SpiDma} {d : SpiDevice} (h : Idle s d) (port : SpiPort) :
    ¬ AllStored port d := by
  rintro ⟨x, hx, -⟩
  rw [h.inFlight] at hx
  cases hx

theorem SpiDevice.Short.not_all {d : SpiDevice} (h : d.Short) (port : SpiPort) :
    ¬ AllStored port d := by
  rintro ⟨y, hy, hlen, -⟩
  obtain ⟨x, hx, hlt⟩ := h
  obtain rfl : x = y := Option.some.inj (hx.symm.trans hy)
  unfold SpiExchange.accounted at hlt
  omega

theorem Sim.room {s : SpiDma} {d : SpiDevice} (h : Sim s d) : d.Room := by
  intro y hy
  rcases h with h | ⟨x, setup, rest, dummy, sent, stored, h⟩
  · rw [h.inFlight] at hy
    cases hy
  · obtain rfl : x = y := Option.some.inj (h.inFlight.symm.trans hy)
    exact h.room

/-- A transaction begins with nothing stored. -/
theorem heeded_request {s : SpiDma} {d d' : SpiDevice} (h : s.Heeded d) {q : SpiRequest}
    (hq : q.Sound) (hout : (s.request q).2.foldlM SpiDevice.after d = some d') :
    (s.request q).1.Heeded d' := by
  unfold SpiDma.request at hout ⊢
  split at hout
  · next hfree =>
    rw [if_pos hfree]
    obtain ⟨pTx, pRx, length⟩ := q
    rw [List.foldlM_cons] at hout
    obtain ⟨e, hafter, hnil⟩ := Option.bind_eq_some_iff.mp hout
    obtain rfl := SpiDevice.foldlM_nil hnil
    rintro ⟨x, hx, hlen, -⟩
    obtain ⟨mem, inFlight⟩ := d
    cases inFlight with
    | some y => cases hafter
    | none =>
      cases pTx with
      | none => cases hq
      | some pTx =>
        cases pRx with
        | none => cases hq
        | some pRx =>
          obtain rfl := Option.some.inj hafter
          obtain rfl := Option.some.inj hx
          exact absurd hlen (Nat.ne_of_lt hq.1)
  · next hbusy =>
    rw [if_neg hbusy]
    obtain rfl := SpiDevice.foldlM_nil hout
    exact h

/-- When everything is stored, only statements are left that change nothing. -/
theorem heeded_write {s : SpiDma} {d : SpiDevice} (hs : Sim s d) (h : s.Heeded d) {w : RegWrite}
    {todo nested : List RegWrite} (hruns : s.Runs w todo nested) :
    ({ s.write w with todo := todo, nested := nested } : SpiDma).Heeded d := by
  obtain ⟨-, hport, -, -, -, -, -, -⟩ := write_frame s w
  intro hall
  have hall' : AllStored s.port d := by
    rw [← hport]
    exact hall
  rcases hs with hs | ⟨x, setup, rest, dummy, sent, stored, hs⟩
  · exact absurd hall' (hs.not_all s.port)
  · obtain ⟨rfl, -⟩ := hs.all_received (hs.stored_of_all hall')
    have hregs := hs.armed
    have hrest : rest = w :: (nested ++ todo) := hs.ahead.symm.trans hruns.ahead
    have hsame : s.write w = s := by
      apply write_completionEnable
      · rw [hregs]
        exact ⟨rfl, rfl⟩
      · rw [hregs]
        exact ⟨rfl, rfl⟩
      · exact hs.rest w (by rw [hrest]; exact List.mem_cons_self)
    rw [hsame]
    exact h hall'

/-- A statement of an interrupt. -/
theorem heeded_interruptStatement {s : SpiDma} {d d' : SpiDevice} (hs : Sim s d) (h : s.Heeded d)
    {ch : DmaChannel} {pc : DmaIsrPc} (hisr : s.isr = some (ch, pc))
    (hout : (s.interruptStatement ch pc).2.foldlM SpiDevice.after d = some d')
    (hsim : Sim (s.interruptStatement ch pc).1 d') : (s.interruptStatement ch pc).1.Heeded d' := by
  cases ch with
  | tx =>
    obtain ⟨tx, isr, hnext, heq⟩ := interruptStatement_tx hs.txonly pc
    rw [heq] at hout ⊢
    obtain rfl := SpiDevice.foldlM_nil hout
    refine h.of id fun hrx => ?_
    rw [hisr] at hrx
    rcases hnext with rfl | ⟨pc', rfl⟩ <;> exact hrx
  | rx =>
    -- past the callback the interrupt sees nothing any more
    have hlate : pc.late = true → ¬ RxPending s.rx s.isr := by
      rintro hlate ⟨-, hearly⟩
      rw [hisr] at hearly
      exact absurd (hearly.symm.trans hlate) (by decide)
    have hgoes : ∀ {pc' : DmaIsrPc}, pc'.late = false → RxPending s.rx s.isr →
        RxPending s.rx (some (.rx, pc')) := fun hpc hrx => ⟨hrx.1, hpc⟩
    cases pc with
    | testOverrun =>
      obtain rfl := SpiDevice.foldlM_nil hout
      refine h.of id (hgoes ?_)
      split <;> rfl
    | callOverrun =>
      rcases dma1_overrun s with hsame | hread
      · replace hout : (s.dma1 .overrun).2.foldlM SpiDevice.after d = some d' := hout
        rw [hsame] at hout
        obtain rfl := SpiDevice.foldlM_nil hout
        show SpiDma.Heeded ((s.dma1 .overrun).1.goto .rx .clearOverrun) d'
        rw [hsame]
        exact h.of id (hgoes rfl)
      · replace hout : (s.dma1 .overrun).2.foldlM SpiDevice.after d = some d' := hout
        rw [hread] at hout
        show SpiDma.Heeded ((s.dma1 .overrun).1.goto .rx .clearOverrun) d'
        rw [hread]
        cases hrx : s.port.rxBuf with
        | none =>
          rw [hrx] at hout
          obtain rfl := SpiDevice.foldlM_nil hout
          refine h.of ?_ (hgoes rfl)
          rintro ⟨x, hx, hlen, -⟩
          exact ⟨x, hx, hlen, hrx⟩
        | some b =>
          rw [hrx] at hout
          replace hout : [SpiDmaOut.lost].foldlM SpiDevice.after d = some d' := hout
          rw [List.foldlM_cons] at hout
          obtain ⟨e, hlost, hnil⟩ := Option.bind_eq_some_iff.mp hout
          obtain rfl := SpiDevice.foldlM_nil hnil
          exact fun hall => absurd hall ((SpiDevice.short_of_lost hs.room hlost).not_all _)
    | clearOverrun =>
      obtain rfl := SpiDevice.foldlM_nil hout
      exact h.of id fun hrx => ⟨hrx.1, rfl⟩
    | testDone =>
      obtain rfl := SpiDevice.foldlM_nil hout
      refine h.of id fun hrx => ⟨hrx.1, ?_⟩
      show (if s.rx.done then DmaIsrPc.callDone else .clearIf).late = false
      rw [if_pos hrx.1]
      rfl
    | callDone =>
      -- the transaction is over
      have hlent : (s.interruptStatement .rx .callDone).1.lent = none := by
        show (if s.regs.control.completionHandler then none else s.lent) = none
        rw [if_pos hs.handler]
      rcases hsim with hidle | ⟨x, setup, rest, dummy, sent, stored, hx⟩
      · exact fun hall => absurd hall (hidle.not_all _)
      · rw [hx.lent] at hlent
        cases hlent
    | inHandler =>
      obtain rfl := SpiDevice.foldlM_nil hout
      exact h.of id fun hrx => absurd hrx (hlate rfl)
    | clearDone =>
      obtain rfl := SpiDevice.foldlM_nil hout
      exact h.of id fun hrx => absurd hrx (hlate rfl)
    | clearIf =>
      obtain rfl := SpiDevice.foldlM_nil hout
      exact h.of id fun hrx => absurd hrx (hlate rfl)

theorem heeded_statement {s : SpiDma} {d d' : SpiDevice} (hs : Sim s d) (h : s.Heeded d)
    (hout : s.statement.2.foldlM SpiDevice.after d = some d') (hsim : Sim s.statement.1 d') :
    s.statement.1.Heeded d' := by
  rcases statement_cases hs.nested with ⟨-, -, heq⟩ | ⟨w, todo, nested, hruns⟩ |
    ⟨ch, pc, hisr, -, heq⟩
  · rw [heq] at hout ⊢
    obtain rfl := SpiDevice.foldlM_nil hout
    exact h
  · rw [hruns.statement] at hout ⊢
    obtain rfl := SpiDevice.foldlM_nil hout
    exact heeded_write hs h hruns
  · rw [heq] at hout hsim ⊢
    exact heeded_interruptStatement hs h hisr hout hsim

/-- The last byte is stored, and the interrupt has not looked yet. -/
theorem heeded_cell {s : SpiDma} {d : SpiDevice} (hs : Sim s d) (h : s.Heeded d) {ch : DmaChannel}
    (hchen : (s.regs.chan ch).chen = true) (hasks : s.asks ch = true)
    (hearly : ¬ s.EndsEarly (.cell ch)) : (s.cell ch).Heeded d := by
  rcases hs with hs | ⟨x, setup, rest, dummy, sent, stored, hs⟩
  · exact fun hall => absurd hall (hs.not_all _)
  · cases ch with
    | tx =>
      obtain rfl := hs.setup_nil_of_tx hchen (asks_tx hasks).1
      obtain ⟨flags, hcell⟩ := cell_tx hs.armed
      rw [hcell]
      exact h
    | rx =>
      obtain ⟨b, hb⟩ := asks_rx hasks
      obtain rfl := hs.setup_nil_of_rxBuf hb
      have hregs := hs.armed
      obtain ⟨flags, hcell, hflags⟩ := cell_rx hregs hb
      rintro ⟨y, hy, hlen, -⟩
      obtain rfl : y = x := Option.some.inj (hy.symm.trans hs.inFlight)
      rw [hs.received, hb, List.length_append] at hlen
      replace hlen : stored.length + 1 = y.length.toNat := hlen
      have hlast : y.length.toNat - stored.length - 1 = 0 := by omega
      rw [if_pos hlast] at hflags
      have hcnt : s.regs.rx.cnt = 1 := by
        rw [hregs]
        show y.length.toNat - stored.length = 1
        omega
      have hlook : s.late = false := by
        rw [← Bool.not_eq_true]
        exact fun hlate => hearly ⟨rfl, hchen, hasks, hcnt, hlate⟩
      rw [hcell]
      refine ⟨hflags.1, ?_⟩
      unfold SpiDma.late at hlook
      show match s.isr with
        | some (.rx, pc) => pc.late = false
        | _ => flags.iflag = true
      split
      · next pc hisr =>
        rw [hisr] at hlook
        exact hlook
      · exact hflags.2

theorem heeded_enter {s : SpiDma} {d : SpiDevice} (h : s.Heeded d) (hisr : s.isr = none)
    (ch : DmaChannel) : (s.goto ch .testOverrun).Heeded d := by
  refine h.of id fun hrx => ?_
  rw [hisr] at hrx
  cases ch with
  | tx => exact hrx
  | rx => exact ⟨hrx.1, rfl⟩

theorem heeded_overrun {s : SpiDma} {d : SpiDevice} (h : s.Heeded d) (ch : DmaChannel) :
    (s.setFlags { s.flags ch with overrun := true, iflag := true } ch).Heeded d := by
  cases ch with
  | tx => exact h
  | rx =>
    refine h.of id fun hrx => ⟨hrx.1, ?_⟩
    show match s.isr with
      | some (.rx, pc) => pc.late = false
      | _ => true = true
    split
    · next pc hisr =>
      have hlook := hrx.2
      rw [hisr] at hlook
      exact hlook
    · rfl

/-- A byte that comes in is not stored yet. -/
theorem heeded_shift {s : SpiDma} {d d' : SpiDevice} (h : s.Heeded d) {b : UInt8}
    (hout : (s.shift b).2.foldlM SpiDevice.after d = some d') : (s.shift b).1.Heeded d' := by
  unfold SpiDma.shift at hout ⊢
  split at hout
  · obtain rfl := SpiDevice.foldlM_nil hout
    exact h
  · split
    · next hrx =>
      rintro ⟨x, -, -, hnone⟩
      replace hnone : s.port.rxBuf = none := hnone
      rw [hnone] at hrx
      cases hrx
    · rintro ⟨x, -, -, hnone⟩
      cases hnone

/-- **One step.**  The end of a transaction will be seen, unless it comes too early. -/
theorem Sim.heeded_step {s : SpiDma} {d d' : SpiDevice} (hs : Sim s d) (h : s.Heeded d)
    (e : SpiDmaEvent) (hp : s.Permitted e) (hearly : ¬ s.EndsEarly e)
    (hout : (spiDmaStep s e).2.foldlM SpiDevice.after d = some d')
    (hsim : Sim (spiDmaStep s e).1 d') : (spiDmaStep s e).1.Heeded d' := by
  have hsame : ∀ {d' : SpiDevice}, ([] : List SpiDmaOut).foldlM SpiDevice.after d = some d' →
      s.Heeded d' := by
    intro d' hnil
    obtain rfl := SpiDevice.foldlM_nil hnil
    exact h
  cases e with
  | request q =>
    replace hout : (if s.mayRequest then s.request q else (s, [])).2.foldlM SpiDevice.after d =
      some d' := hout
    show (if s.mayRequest then s.request q else (s, [])).1.Heeded d'
    split at hout
    · next hmay =>
      rw [if_pos hmay]
      exact heeded_request h hp hout
    · next hmay =>
      rw [if_neg hmay]
      exact hsame hout
  | statement => exact heeded_statement hs h hout hsim
  | enter ch =>
    unfold spiDmaStep at hout ⊢
    dsimp only at hout ⊢
    split at hout
    · next henter =>
      rw [if_pos henter]
      obtain ⟨⟨hisr, -⟩, -⟩ := by simpa using henter
      obtain rfl := SpiDevice.foldlM_nil hout
      exact heeded_enter h hisr ch
    · next henter =>
      rw [if_neg henter]
      exact hsame hout
  | cell ch =>
    unfold spiDmaStep at hout ⊢
    dsimp only at hout ⊢
    split at hout
    · next hcell =>
      rw [if_pos hcell]
      obtain ⟨⟨hchen, -⟩, hasks⟩ := by simpa using hcell
      obtain rfl := SpiDevice.foldlM_nil hout
      exact heeded_cell hs h hchen hasks hearly
    · next hcell =>
      rw [if_neg hcell]
      exact hsame hout
  | load =>
    unfold spiDmaStep at hout ⊢
    dsimp only at hout ⊢
    split at hout
    · obtain rfl := SpiDevice.foldlM_nil hout
      exact h
    · exact hsame hout
  | shift b => exact heeded_shift h hout
  | overrun ch =>
    unfold spiDmaStep at hout ⊢
    dsimp only at hout ⊢
    split at hout
    · next hchen =>
      rw [if_pos hchen]
      obtain rfl := SpiDevice.foldlM_nil hout
      exact heeded_overrun h ch
    · next hchen =>
      rw [if_neg hchen]
      exact hsame hout
  | store a v =>
    obtain rfl := Option.some.inj hout
    exact h

/-! ## Too early -/

/-- The transaction in flight is over, and the interrupt of channel 1 is not going to see it. -/
structure SpiDma.Stuck (s : SpiDma) : Prop where
  regs : ∃ dummy pTx pRx n, s.regs = armedRegs dummy pTx pRx n n n
  ahead : ∀ w ∈ s.ahead, w ∈ completionEnable
  nested : s.nested ≠ [] → s.isr = some (.rx, .inHandler)
  missed :
    match s.isr with
    | some (.rx, pc) => pc.late = true
    | _ => s.rx.iflag = false

/-- A cell that is asked for on an enabled channel is moved. -/
theorem step_cell {s : SpiDma} (ch : DmaChannel) (hchen : (s.regs.chan ch).chen = true)
    (htrmode : (s.regs.chan ch).trmode = 0) (hasks : s.asks ch = true) :
    spiDmaStep s (.cell ch) = (s.cell ch, []) := by
  apply if_pos
  rw [hchen, htrmode, hasks]
  rfl

theorem SpiDma.Stuck.of_endsEarly {s : SpiDma} {d : SpiDevice} (h : Sim s d) {e : SpiDmaEvent}
    (hearly : s.EndsEarly e) : (spiDmaStep s e).1.Stuck := by
  obtain ⟨rfl, hchen, hasks, hcnt, hlate⟩ := hearly
  rcases h with h | ⟨x, setup, rest, dummy, sent, stored, h⟩
  · rw [h.regs.chen.2] at hchen
    cases hchen
  · obtain ⟨b, hb⟩ := asks_rx hasks
    obtain rfl := h.setup_nil_of_rxBuf hb
    have hregs := h.armed
    have hlast : stored.length + 1 = x.length.toNat := by
      rw [hregs] at hcnt
      have hleft : x.length.toNat - stored.length = 1 := hcnt
      omega
    have hroom := h.room
    have hreceived : x.received.length = stored.length + 1 := by
      rw [h.received, hb]
      exact List.length_append
    have hsent := h.all_sent (List.length_eq_zero_iff.mp (by omega))
    obtain ⟨flags, hcell, -⟩ := cell_rx hregs hb
    have hstep := step_cell .rx hchen (by rw [hregs]; rfl) hasks
    rw [hstep, hcell, hsent, hlast]
    refine ⟨⟨dummy, x.pTx, x.pRx, x.length.toNat, rfl⟩, ?_, h.isr.nested, ?_⟩
    · exact fun w hw => h.rest w (by rw [← List.nil_append rest, ← h.ahead]; exact hw)
    · unfold SpiDma.late at hlate
      show match s.isr with
        | some (.rx, pc) => pc.late = true
        | _ => flags.iflag = false
      split
      · next pc hisr =>
        rw [hisr] at hlate
        exact hlate
      · next hnot =>
        split at hlate
        · next pc hisr => exact absurd hisr (hnot pc)
        · cases hlate

section
variable {s : SpiDma}

/-- The statements to come change nothing. -/
theorem SpiDma.Stuck.write (h : s.Stuck) {w : RegWrite} (hw : w ∈ completionEnable) :
    s.write w = s := by
  obtain ⟨dummy, pTx, pRx, n, hregs⟩ := h.regs
  apply write_completionEnable _ _ hw
  · rw [hregs]
    exact ⟨rfl, rfl⟩
  · rw [hregs]
    exact ⟨rfl, rfl⟩

/-- Nobody is asked to move anything. -/
theorem SpiDma.Stuck.chen (h : s.Stuck) (ch : DmaChannel) : (s.regs.chan ch).chen = false := by
  obtain ⟨dummy, pTx, pRx, n, hregs⟩ := h.regs
  rw [hregs]
  cases ch <;> exact decide_eq_false (Nat.lt_irrefl n)

theorem SpiDma.Stuck.interruptStatement (h : s.Stuck) {ch : DmaChannel} {pc : DmaIsrPc}
    (hisr : s.isr = some (ch, pc)) (hnested : s.nested = []) :
    (s.interruptStatement ch pc).1.Stuck ∧ .completionHandler ∉ (s.interruptStatement ch pc).2 := by
  obtain ⟨hregs, hahead, -, hmissed⟩ := h
  rw [hisr] at hmissed
  have hnil : ∀ {isr : Option (DmaChannel × DmaIsrPc)}, s.nested ≠ [] →
      isr = some (.rx, .inHandler) := fun hne => absurd hnested hne
  cases ch with
  | tx =>
    have htxonly : s.regs.control.txonly = 0 := by
      obtain ⟨dummy, pTx, pRx, n, heq⟩ := hregs
      rw [heq]
      rfl
    obtain ⟨tx, isr, hnext, heq⟩ := interruptStatement_tx htxonly pc
    rw [heq]
    refine ⟨⟨hregs, hahead, hnil, ?_⟩, List.not_mem_nil⟩
    rcases hnext with rfl | ⟨pc', rfl⟩ <;> exact hmissed
  | rx =>
    cases pc with
    | inHandler | clearDone | clearIf => exact ⟨⟨hregs, hahead, hnil, rfl⟩, List.not_mem_nil⟩
    | testOverrun | callOverrun | clearOverrun | testDone | callDone => cases hmissed

theorem SpiDma.Stuck.statement (h : s.Stuck) :
    s.statement.1.Stuck ∧ .completionHandler ∉ s.statement.2 := by
  rcases statement_cases h.nested with ⟨-, -, heq⟩ | ⟨w, todo, nested, hruns⟩ |
    ⟨ch, pc, hisr, hnested, heq⟩
  · rw [heq]
    exact ⟨h, List.not_mem_nil⟩
  · have hahead := h.ahead
    rw [hruns.ahead] at hahead
    rw [hruns.statement, h.write (hahead w List.mem_cons_self)]
    exact ⟨{ h with
      ahead := fun v hv => hahead v (List.mem_cons_of_mem w hv)
      nested := hruns.inHandler }, List.not_mem_nil⟩
  · rw [heq]
    exact h.interruptStatement hisr hnested

/-- Then nothing is completed any more. -/
theorem SpiDma.Stuck.step (h : s.Stuck) (e : SpiDmaEvent) :
    (spiDmaStep s e).1.Stuck ∧ .completionHandler ∉ (spiDmaStep s e).2 := by
  have hsame : s.Stuck ∧ .completionHandler ∉ ([] : List SpiDmaOut) := ⟨h, List.not_mem_nil⟩
  cases e with
  | request q =>
    unfold spiDmaStep
    dsimp only
    obtain ⟨dummy, pTx, pRx, n, hregs⟩ := h.regs
    rw [request_refused (by rw [hregs]; rfl)]
    split <;> exact hsame
  | statement => exact h.statement
  | enter ch =>
    unfold spiDmaStep
    dsimp only
    split
    · next henter =>
      obtain ⟨⟨hisr, hif⟩, -⟩ := by simpa using henter
      have hmissed := h.missed
      rw [hisr] at hmissed
      have hnested := h.nested
      rw [hisr] at hnested
      cases ch with
      | tx =>
        refine ⟨⟨h.regs, h.ahead, fun hne => ?_, hmissed⟩, List.not_mem_nil⟩
        cases hnested hne
      | rx => exact absurd (hmissed.symm.trans hif) (by decide)
    · exact hsame
  | cell ch =>
    unfold spiDmaStep
    dsimp only
    rw [h.chen ch]
    exact hsame
  | load =>
    unfold spiDmaStep
    dsimp only
    split
    · exact ⟨{ h with }, List.not_mem_nil⟩
    · exact hsame
  | shift b =>
    show (s.shift b).1.Stuck ∧ .completionHandler ∉ (s.shift b).2
    unfold SpiDma.shift
    split
    · exact hsame
    · split
      · exact ⟨{ h with }, by simp⟩
      · exact ⟨{ h with }, by simp⟩
  | overrun ch =>
    unfold spiDmaStep
    dsimp only
    rw [h.chen ch]
    exact hsame
  | store a v => exact ⟨{ h with }, by simp [spiDmaStep]⟩

theorem SpiDma.Stuck.run (h : s.Stuck) (es : List SpiDmaEvent) :
    .completionHandler ∉ emits spiDmaStep s es := by
  intro hmem
  exact emits_forall spiDmaStep (fun _ _ => True) SpiDma.Stuck (· ≠ .completionHandler)
    (fun s e h _ => (h.step e).1)
    (fun s e h _ o ho hc => (h.step e).2 (hc ▸ ho))
    es s h (along_true spiDmaStep s es) _ hmem rfl

end

/-! ## Runs -/

/-- A run without an early end leaves nothing unseen, after one the driver is stuck. -/
theorem heeded_or_stuck : ∀ (es : List SpiDmaEvent) (s : SpiDma) (d : SpiDevice), Sim s d →
    s.Heeded d → Along spiDmaStep SpiDma.Permitted s es →
      (Along spiDmaStep (fun s e => ¬ s.EndsEarly e) s es ∧
        ∃ d', (emits spiDmaStep s es).foldlM SpiDevice.after d = some d' ∧
          Sim (exec spiDmaStep s es) d' ∧ (exec spiDmaStep s es).Heeded d') ∨
      (¬ Along spiDmaStep (fun s e => ¬ s.EndsEarly e) s es ∧ (exec spiDmaStep s es).Stuck) := by
  intro es
  induction es with
  | nil => exact fun s d hs h _ => .inl ⟨trivial, d, rfl, hs, h⟩
  | cons e es ih =>
    rintro s d hs h ⟨hp, hrest⟩
    by_cases hearly : s.EndsEarly e
    · refine .inr ⟨fun hc => hc.1 hearly, ?_⟩
      exact exec_inv_all spiDmaStep SpiDma.Stuck (fun s e h => (h.step e).1) es _
        (.of_endsEarly hs hearly)
    · obtain ⟨d', hout, hsim⟩ := sim_step hs e hp
      rcases ih _ d' hsim (hs.heeded_step h e hp hearly hout hsim) hrest with
        ⟨hlater, d'', hfold, hfinal⟩ | ⟨hlater, hstuck⟩
      · refine .inl ⟨⟨hearly, hlater⟩, d'', ?_, hfinal⟩
        rw [emits_cons, List.foldlM_append, hout]
        exact hfold
      · exact .inr ⟨fun hc => hlater hc.2, hstuck⟩

end CuriosityT1S
