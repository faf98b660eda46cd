import CuriosityT1S.SpiInFlight
import CuriosityT1S.Lib.Mealy

/-!
# An SPI transaction is one exchange of bytes (dmaspi.c)

Statements, interrupts, cells of both channels and bytes on the wire come in any order.

    sim_step:      one step does what the device does
    spi_exchange:  a run does, and after a byte is lost nothing is completed
-/

namespace CuriosityT1S

open Mealy ByteMemory

/-! ## One step -/

/-- A call between two transactions. -/
theorem does_request {s : SpiDma} {d : SpiDevice} (h : Idle s d) (hmay : s.mayRequest = true)
    {q : SpiRequest} (hq : q.Sound) : d.Does (s.request q) := by
  obtain ⟨pTx, pRx, length⟩ := q
  cases pTx with
  | none => cases hq
  | some pTx =>
    cases pRx with
    | none => cases hq
    | some pRx =>
      have hfree : s.regs.control.busy = 0 := by rw [h.regs.control]; rfl
      have hptr : (some pTx).isSome = true ∨ (some pRx).isSome = true := .inl rfl
      have hne : ([] : List UInt8).length ≠ length.toNat := Nat.ne_of_lt hq.1
      unfold SpiDma.request
      rw [if_pos ⟨hfree, hptr⟩]
      refine ⟨⟨d.mem, some ⟨pTx, pRx, length, bytesAt d.mem pTx length.toNat, []⟩⟩, ?_,
        .inr ⟨⟨pTx, pRx, length, bytesAt d.mem pTx length.toNat, []⟩,
          startSetup pTx pRx length.toNat, completionEnable ++ s.ahead, s.regs.dummy, 0, [], ?_⟩⟩
      · rw [List.foldlM_cons, SpiDevice.after, h.inFlight]
        rfl
      · have hnil : s.port.pipe = [] := by
          unfold SpiPort.pipe
          rw [h.quiet.shifter, h.quiet.txBuf]
          rfl
        have hahead := request_ahead hmay
          (fun hnested => by rw [h.isr.nested hnested]; rfl) ⟨some pTx, some pRx, length⟩
        exact
          { inFlight := rfl
            lent := rfl
            sound := hq
            ahead := hahead.trans
              (List.append_assoc (startSetup pTx pRx length.toNat) completionEnable s.ahead)
            rest := fun w hw => (List.mem_append.mp hw).elim id (h.ahead w)
            guarded := guarded_startSetup h.regs pTx pRx length.toNat
            regs := applyAll_startSetup h.regs pTx pRx length.toNat hq.1
            fresh := fun _ => ⟨h.quiet, rfl⟩
            sent_le := Nat.zero_le _
            toSend := by rw [hnil]; rfl
            received := by rw [h.quiet.rxBuf]; rfl
            room := by rw [bytesAt_length]; exact Nat.le_refl _
            mem := h.mem
            isr :=
              { done := fun hdone => .inr ((h.isr.done hdone).resolve_left id)
                call := fun hcall => absurd (h.isr.call hcall) id
                nested := by
                  intro hnested
                  unfold SpiDma.mayRequest at hmay
                  cases hisr : s.isr with
                  | none =>
                    simp only [hisr] at hnested
                    exact hisr.symm.trans (h.isr.nested hnested)
                  | some place =>
                    obtain ⟨ch, pc⟩ := place
                    simp only [hisr, Bool.and_eq_true, decide_eq_true_eq] at hmay
                    obtain ⟨⟨rfl, rfl⟩, -⟩ := hmay
                    rfl }
            handler := by
              intro hisr
              have hin : s.isr.isSome = true := by
                rw [hisr]
                rfl
              show _ ≤ (if s.isr.isSome then _ else _ : List RegWrite).length
              rw [if_pos hin]
              exact Nat.le_add_right (startSetup pTx pRx length.toNat).length 4 }

/-- A call while a transaction is in flight is refused. -/
theorem request_refused {s : SpiDma} (h : s.regs.control.busy = dmaBusy) (q : SpiRequest) :
    s.request q = (s, []) := by
  unfold SpiDma.request
  rw [if_neg fun hc => absurd (h.symm.trans hc.1) (by decide)]

/-- Everything is set up when somebody may call. -/
theorem Exchanging.setup_nil_of_mayRequest {s : SpiDma} {d : SpiDevice} {x : SpiExchange}
    {setup rest : List RegWrite} {dummy : UInt8} {sent : Nat} {stored : List UInt8}
    (h : Exchanging s d x setup rest dummy sent stored) (hmay : s.mayRequest = true) :
    setup = [] := by
  unfold SpiDma.mayRequest at hmay
  cases hisr : s.isr with
  | none =>
    have hnested : s.nested = [] := by
      by_contra hne
      have hin := h.isr.nested hne
      rw [hisr] at hin
      cases hin
    rw [hisr] at hmay
    have hahead := h.ahead
    unfold SpiDma.ahead at hahead
    rw [hnested, List.isEmpty_iff.mp hmay] at hahead
    exact (List.append_eq_nil_iff.mp hahead.symm).1
  | some place =>
    obtain ⟨ch, pc⟩ := place
    simp only [hisr, Bool.and_eq_true, decide_eq_true_eq, List.isEmpty_iff] at hmay
    obtain ⟨⟨rfl, rfl⟩, hnested⟩ := hmay
    have hle := h.handler hisr
    rw [hnested] at hle
    exact List.length_eq_zero_iff.mp (Nat.le_zero.mp hle)

/-- A statement of `dmaSpiStartTransaction`, whoever has called it. -/
theorem does_write {s : SpiDma} {d : SpiDevice} (h : Sim s d) {w : RegWrite}
    {todo nested : List RegWrite} (hruns : s.Runs w todo nested) :
    d.Does ({ s.write w with todo := todo, nested := nested }, []) := by
  obtain ⟨hahead, hnested, hhandler, -⟩ := hruns
  refine ⟨d, rfl, ?_⟩
  rcases h with h | ⟨x, setup, rest, dummy, sent, stored, h⟩
  · have hmem := h.ahead
    rw [hahead] at hmem
    rw [write_completionEnable h.regs.done h.regs.ie (hmem w List.mem_cons_self)]
    left
    exact
      { h with
        ahead := fun v hv => hmem v (List.mem_cons_of_mem w hv)
        isr := ⟨h.isr.done, h.isr.call, hnested⟩ }
  · right
    have hsplit := h.ahead
    rw [hahead] at hsplit
    cases setup with
    | nil =>
      obtain rfl : w :: (nested ++ todo) = rest := hsplit
      have hregs := h.armed
      have hsame : s.write w = s := by
        apply write_completionEnable _ _ (h.rest w List.mem_cons_self)
        · rw [hregs]
          exact ⟨rfl, rfl⟩
        · rw [hregs]
          exact ⟨rfl, rfl⟩
      rw [hsame]
      exact ⟨x, [], nested ++ todo, dummy, sent, stored,
        { h with
          ahead := rfl
          rest := fun v hv => h.rest v (List.mem_cons_of_mem w hv)
          isr := ⟨h.isr.done, h.isr.call, hnested⟩
          handler := fun _ => Nat.zero_le _ }⟩
    | cons w' setup =>
      obtain ⟨rfl, hws⟩ : w = w' ∧ nested ++ todo = setup ++ rest := List.cons.inj hsplit
      obtain ⟨hquiet, rfl⟩ := h.fresh (List.cons_ne_nil _ _)
      obtain ⟨hregs, hport, hmem, hlent, hdone, hisr, -, -⟩ := write_frame s w
      exact ⟨x, setup, rest, dummy, sent, [],
        { inFlight := h.inFlight
          lent := hlent.trans h.lent
          sound := h.sound
          ahead := hws
          rest := h.rest
          guarded := by rw [hregs]; exact h.guarded.2.2
          regs := by rw [hregs]; exact h.regs
          fresh := fun _ => ⟨by rw [hport]; exact hquiet, rfl⟩
          sent_le := h.sent_le
          toSend := by rw [hport]; exact h.toSend
          received := by rw [hport]; exact h.received
          room := h.room
          mem := hmem.trans h.mem
          isr := by rw [hdone, hisr]; exact ⟨h.isr.done, h.isr.call, hnested⟩
          handler := by
            rw [hisr]
            intro hin
            have hle := h.handler hin
            rw [hhandler hin] at hle
            exact Nat.le_of_succ_le_succ hle }⟩

/-- A transmit cell fetches the next byte. -/
theorem cell_tx {s : SpiDma} {dummy : UInt8} {pTx pRx n sent got : Nat}
    (hregs : s.regs = armedRegs dummy pTx pRx n sent got) :
    ∃ flags, s.cell .tx =
      { s with
        regs := armedRegs dummy pTx pRx n (sent + 1) got
        port := { s.port with txBuf := some (s.mem (pTx + sent)) }
        tx := flags } := by
  obtain ⟨regs, tx, rx, port, mem, todo, lent⟩ := s
  obtain rfl : regs = _ := hregs
  have hchen : decide (sent + 1 < n) = !decide (n - sent - 1 = 0) := by
    rw [Bool.eq_iff_iff]
    simp
    omega
  unfold armedRegs
  rw [hchen]
  by_cases hlast : n - sent - 1 = 0
  · exact ⟨{ tx with done := true, iflag := tx.iflag || true }, if_pos hlast⟩
  · exact ⟨tx, if_neg hlast⟩

/-- A receive cell stores the byte that has come in. -/
theorem cell_rx {s : SpiDma} {dummy b : UInt8} {pTx pRx n sent got : Nat}
    (hregs : s.regs = armedRegs dummy pTx pRx n sent got) (hrx : s.port.rxBuf = some b) :
    ∃ flags, s.cell .rx =
      { s with
        regs := armedRegs dummy pTx pRx n sent (got + 1)
        port := { s.port with rxBuf := none }
        mem := Function.update s.mem (pRx + got) b
        rx := flags } ∧
      if n - got - 1 = 0 then flags.done = true ∧ flags.iflag = true else flags = s.rx := by
  obtain ⟨regs, tx, rx, ⟨txBuf, shifter, rxBuf, spirov⟩, mem, todo, lent⟩ := s
  obtain rfl : regs = _ := hregs
  obtain rfl : rxBuf = some b := hrx
  have hchen : decide (got + 1 < n) = !decide (n - got - 1 = 0) := by
    rw [Bool.eq_iff_iff]
    simp
    omega
  unfold armedRegs
  rw [hchen]
  by_cases hlast : n - got - 1 = 0
  · refine ⟨{ rx with done := true, iflag := rx.iflag || true }, if_pos hlast, ?_⟩
    rw [if_pos hlast]
    exact ⟨rfl, Bool.or_true _⟩
  · refine ⟨rx, if_neg hlast, ?_⟩
    rw [if_neg hlast]

theorem asks_tx {s : SpiDma} (h : s.asks .tx = true) :
    s.regs.spitben = true ∧ s.port.txBuf = none := by
  simpa [SpiDma.asks] using h

theorem asks_rx {s : SpiDma} (h : s.asks .rx = true) : ∃ b, s.port.rxBuf = some b := by
  obtain ⟨-, hsome⟩ : s.regs.spirbfen = true ∧ s.port.rxBuf.isSome = true := by
    simpa [SpiDma.asks] using h
  exact Option.isSome_iff_exists.mp hsome

theorem does_cell_tx {s : SpiDma} {d : SpiDevice} (h : Sim s d) (hchen : s.regs.tx.chen = true)
    (hasks : s.asks .tx = true) : d.Does (s.cell .tx, []) := by
  obtain ⟨hmask, htx⟩ := asks_tx hasks
  rcases h with h | ⟨x, setup, rest, dummy, sent, stored, h⟩
  · rw [h.regs.chen.1] at hchen
    cases hchen
  · obtain rfl := h.setup_nil_of_tx hchen hmask
    have hregs := h.armed
    have hlt : sent < x.length.toNat := by
      rw [hregs] at hchen
      exact of_decide_eq_true hchen
    obtain ⟨flags, hcell⟩ := cell_tx hregs
    have hbyte : s.mem (x.pTx + sent) = d.mem (x.pTx + sent) := by
      rw [h.mem]
      apply storeBytes_outside
      have hle := h.stored_le
      have hsep := h.apart
      omega
    have hbytes : bytesAt d.mem (x.pTx + sent) (x.length.toNat - sent) =
        d.mem (x.pTx + sent) ::
          bytesAt d.mem (x.pTx + (sent + 1)) (x.length.toNat - (sent + 1)) := by
      have hleft : x.length.toNat - sent = x.length.toNat - (sent + 1) + 1 := by omega
      rw [hleft]
      exact bytesAt_succ d.mem (x.pTx + sent) (x.length.toNat - (sent + 1))
    have hsend : x.toSend = (s.port.shifter.toList ++ [s.mem (x.pTx + sent)]) ++
        bytesAt d.mem (x.pTx + (sent + 1)) (x.length.toNat - (sent + 1)) := by
      rw [h.toSend, hbytes, SpiPort.pipe, htx, hbyte]
      simp
    rw [hcell]
    exact ⟨d, rfl, .inr ⟨x, [], rest, dummy, sent + 1, stored,
      { h with
        guarded := trivial
        regs := rfl
        fresh := nofun
        sent_le := hlt
        toSend := hsend }⟩⟩

theorem does_cell_rx {s : SpiDma} {d : SpiDevice} (h : Sim s d) (hchen : s.regs.rx.chen = true)
    (hasks : s.asks .rx = true) : d.Does (s.cell .rx, []) := by
  obtain ⟨b, hb⟩ := asks_rx hasks
  rcases h with h | ⟨x, setup, rest, dummy, sent, stored, h⟩
  · rw [h.regs.chen.2] at hchen
    cases hchen
  · obtain rfl := h.setup_nil_of_rxBuf hb
    have hregs := h.armed
    have hlt : stored.length < x.length.toNat := by
      rw [hregs] at hchen
      exact of_decide_eq_true hchen
    obtain ⟨flags, hcell, hflags⟩ := cell_rx hregs hb
    have hlen : (stored ++ [b]).length = stored.length + 1 := List.length_append
    have hmem : Function.update s.mem (x.pRx + stored.length) b =
        storeBytes d.mem x.pRx (stored ++ [b]) := by rw [h.mem, storeBytes_concat]
    have hnot : stored.length ≠ x.length.toNat := Nat.ne_of_lt hlt
    have hdone : flags.done = true → (stored ++ [b]).length = x.length.toNat ∨
        s.isr = some (.rx, .inHandler) ∨ s.isr = some (.rx, .clearDone) := by
      rw [hlen]
      split at hflags
      · next hlast => exact fun _ => .inl (by omega)
      · rw [hflags]
        exact fun hdone => .inr ((h.isr.done hdone).resolve_left hnot)
    rw [hcell]
    exact ⟨d, rfl, .inr ⟨x, [], rest, dummy, sent, stored ++ [b],
      { h with
        guarded := trivial
        regs := by rw [hlen]; rfl
        fresh := nofun
        received := by rw [h.received, hb]; exact (List.append_nil _).symm
        mem := hmem
        isr := ⟨hdone, fun hcall => absurd (h.isr.call hcall) hnot, h.isr.nested⟩ }⟩⟩

theorem does_load {s : SpiDma} {d : SpiDevice} (h : Sim s d) : d.Does (spiDmaStep s .load) := by
  unfold spiDmaStep
  dsimp only
  split
  · next hshift =>
    refine ⟨d, rfl, ?_⟩
    rcases h with h | ⟨x, setup, rest, dummy, sent, stored, h⟩
    · exact .inl { h with quiet := ⟨rfl, h.quiet.txBuf, h.quiet.rxBuf⟩ }
    · have hpipe : s.port.pipe = s.port.txBuf.toList ++ [] := by
        unfold SpiPort.pipe
        rw [hshift, List.append_nil]
        rfl
      exact .inr ⟨x, setup, rest, dummy, sent, stored,
        { h with
          fresh := fun hne =>
            have hquiet := (h.fresh hne).1
            ⟨⟨rfl, hquiet.txBuf, hquiet.rxBuf⟩, (h.fresh hne).2⟩
          toSend := by rw [h.toSend, hpipe]; rfl }⟩
  · exact h.does

theorem does_shift {s : SpiDma} {d : SpiDevice} (h : Sim s d) (b : UInt8) :
    d.Does (s.shift b) := by
  unfold SpiDma.shift
  split
  · exact h.does
  · next t hshift =>
    rcases h with h | ⟨x, setup, rest, dummy, sent, stored, h⟩
    · rw [h.quiet.shifter] at hshift
      cases hshift
    · obtain rfl := h.setup_nil_of_shifter hshift
      obtain ⟨ts, hts⟩ : ∃ ts, ts = s.port.txBuf.toList ++
          bytesAt d.mem (x.pTx + sent) (x.length.toNat - sent) := ⟨_, rfl⟩
      have hsend : x.toSend = t :: ts := by
        rw [h.toSend, SpiPort.pipe, hshift, hts]
        rfl
      have hwire := SpiDevice.after_wire h.inFlight hsend b
      have hroom := h.room
      rw [hsend, List.length_cons] at hroom
      split
      · -- the byte finds no room: the device has received it, and loses it
        refine ⟨⟨d.mem, some { x with toSend := ts }⟩, ?_,
          .inr ⟨_, [], rest, dummy, sent, stored,
            { h with
              inFlight := rfl
              guarded := trivial
              fresh := nofun
              toSend := hts
              room := ?_ }⟩⟩
        · rw [List.foldlM_cons, hwire, Option.bind_eq_bind, Option.bind_some, List.foldlM_cons,
            SpiDevice.after_lost rfl rfl]
          rfl
        · show ts.length + x.received.length ≤ x.length.toNat
          omega
      · next hrx =>
        have hnone : s.port.rxBuf = none := by simpa using hrx
        refine ⟨⟨d.mem, some { x with toSend := ts, received := x.received ++ [b] }⟩, ?_,
          .inr ⟨_, [], rest, dummy, sent, stored,
            { h with
              inFlight := rfl
              guarded := trivial
              fresh := nofun
              toSend := hts
              received := ?_
              room := ?_ }⟩⟩
        · rw [List.foldlM_cons, hwire]
          rfl
        · rw [h.received, hnone, Option.toList_none, List.append_nil]
          rfl
        · rw [List.length_append, List.length_singleton]
          show ts.length + (x.received.length + 1) ≤ x.length.toNat
          omega

/-! ## The interrupts -/

/-- The dummy read for an overrun. -/
theorem dma1_overrun (s : SpiDma) :
    s.dma1 .overrun = (s, []) ∨
    s.dma1 .overrun =
      ({ s with
          rx := { s.rx with overrun := false }
          port := { s.port with rxBuf := none, spirov := false } },
        if s.port.rxBuf.isSome then [.lost] else []) := by
  obtain ⟨regs, tx, ⟨overrun, done, iflag⟩, ⟨txBuf, shifter, rxBuf, spirov⟩, mem, todo, nested, isr,
    lent⟩ := s
  have hread : ∀ lost : List SpiDmaOut, lost ++ [] = lost := List.append_nil
  cases overrun with
  | true => exact .inr (Prod.ext rfl (hread _))
  | false =>
    cases spirov with
    | true => exact .inr (Prod.ext rfl (hread _))
    | false => exact .inl rfl

/-- If there is nothing to take away, only the flags change. -/
theorem dma1_transferDone {s : SpiDma} (hrx : s.port.rxBuf = none)
    (hhandler : s.regs.control.completionHandler = true) :
    ∃ overrun spirov, s.dma1 .transferDone =
      ({ s with
          regs := { s.regs with control := { s.regs.control with busy := dmaAvailable } }
          rx := { s.rx with overrun := overrun }
          port := { s.port with rxBuf := none, spirov := spirov }
          lent := none },
        [.completionHandler]) := by
  obtain ⟨⟨⟨handler, busy, txonly⟩, dummy, spirbfen, spitben, tc, rc⟩, tx, ⟨overrun, done, iflag⟩,
    ⟨txBuf, shifter, rxBuf, spirov⟩, mem, todo, nested, isr, lent⟩ := s
  obtain rfl : rxBuf = none := hrx
  obtain rfl : handler = true := hhandler
  cases overrun with
  | true => exact ⟨false, false, rfl⟩
  | false => cases spirov <;> exact ⟨false, false, rfl⟩

theorem does_dma1_overrun {s : SpiDma} {d : SpiDevice} (h : Sim s d) :
    d.Does (s.dma1 .overrun) := by
  rcases dma1_overrun s with hsame | hread
  · rw [hsame]
    exact h.does
  · rw [hread]
    rcases h with h | ⟨x, setup, rest, dummy, sent, stored, h⟩
    · rw [h.quiet.rxBuf]
      exact ⟨d, rfl, .inl { h with quiet := ⟨h.quiet.txBuf, h.quiet.shifter, rfl⟩ }⟩
    · cases hrx : s.port.rxBuf with
      | none =>
        refine ⟨d, rfl, .inr ⟨x, setup, rest, dummy, sent, stored,
          { h with
            fresh := fun hne =>
              have hquiet := (h.fresh hne).1
              ⟨⟨hquiet.txBuf, hquiet.shifter, rfl⟩, (h.fresh hne).2⟩
            received := by rw [h.received, hrx] }⟩⟩
      | some b =>
        have hreceived : x.received = stored ++ [b] := by rw [h.received, hrx]; rfl
        have hroom := h.room
        rw [hreceived, List.length_append] at hroom
        obtain rfl := h.setup_nil_of_rxBuf hrx
        refine ⟨⟨d.mem, some { x with received := stored }⟩, ?_,
          .inr ⟨_, [], rest, dummy, sent, stored,
            { h with
              inFlight := rfl
              guarded := trivial
              fresh := nofun
              received := (List.append_nil stored).symm
              room := Nat.le_trans (Nat.add_le_add_left (Nat.le_add_right _ _) _) hroom }⟩⟩
        show [SpiDmaOut.lost].foldlM SpiDevice.after d = _
        rw [List.foldlM_cons, SpiDevice.after_lost h.inFlight hreceived]
        rfl

/-- An interrupt that has looked at DONE, or is not that of channel 1, goes on. -/
theorem RxIsr.goes {done done' : Bool} {isr isr' : Option (DmaChannel × DmaIsrPc)} {all : Prop}
    (h : RxIsr done isr [] all) (hdone : done' = true → done = true)
    (hpast : isr ≠ some (.rx, .inHandler) ∧ isr ≠ some (.rx, .clearDone))
    (hcall : isr' = some (.rx, .callDone) → done = true) : RxIsr done' isr' [] all := by
  have hall : done = true → all := by
    intro hd
    rcases h.done hd with hall | hin | hclear
    · exact hall
    · exact absurd hin hpast.1
    · exact absurd hclear hpast.2
  exact ⟨fun hd => .inl (hall (hdone hd)), fun hc => hall (hcall hc), fun hne => absurd rfl hne⟩

/-- What an interrupt does to its flags and where it goes is not seen. -/
theorem Sim.goes {s : SpiDma} {d : SpiDevice} (h : Sim s d) (tx rx : ChannelFlags)
    (isr : Option (DmaChannel × DmaIsrPc)) (hin : isr ≠ some (.rx, .inHandler))
    (hisr : ∀ all, RxIsr s.rx.done s.isr s.nested all → RxIsr rx.done isr s.nested all) :
    Sim { s with tx := tx, rx := rx, isr := isr } d := by
  rcases h with h | ⟨x, setup, rest, dummy, sent, stored, h⟩
  · exact .inl { h with isr := hisr _ h.isr }
  · exact .inr ⟨x, setup, rest, dummy, sent, stored,
      { h with isr := hisr _ h.isr, handler := fun hc => absurd hc hin }⟩

/-- A statement of the transmit interrupt. -/
theorem interruptStatement_tx {s : SpiDma} (htxonly : s.regs.control.txonly = 0) (pc : DmaIsrPc) :
    ∃ tx isr, (isr = none ∨ ∃ pc', isr = some (DmaChannel.tx, pc')) ∧
      s.interruptStatement .tx pc = ({ s with tx := tx, isr := isr }, []) := by
  have hsame : ∀ event, { s with regs :=
      { s.regs with control := dma0Callback s.regs.control event } } = s := by
    intro event
    rw [dma0Callback_idle htxonly]
  cases pc with
  | callOverrun =>
    refine ⟨s.tx, some (.tx, .clearOverrun), .inr ⟨_, rfl⟩, ?_⟩
    show (SpiDma.goto { s with regs :=
      { s.regs with control := dma0Callback s.regs.control .overrun } } _ _, _) = _
    rw [hsame]
    rfl
  | callDone =>
    refine ⟨s.tx, some (.tx, .inHandler), .inr ⟨_, rfl⟩, ?_⟩
    show (SpiDma.goto { s with regs :=
      { s.regs with control := dma0Callback s.regs.control .transferDone } } _ _, _) = _
    rw [hsame]
    rfl
  | testOverrun => exact ⟨s.tx, _, .inr ⟨_, rfl⟩, rfl⟩
  | clearOverrun => exact ⟨_, _, .inr ⟨_, rfl⟩, rfl⟩
  | testDone => exact ⟨s.tx, _, .inr ⟨_, rfl⟩, rfl⟩
  | inHandler => exact ⟨s.tx, _, .inr ⟨_, rfl⟩, rfl⟩
  | clearDone => exact ⟨_, _, .inr ⟨_, rfl⟩, rfl⟩
  | clearIf => exact ⟨_, none, .inl rfl, rfl⟩

/-- The end of a transaction. -/
theorem does_callDone {s : SpiDma} {d : SpiDevice} (h : Sim s d)
    (hisr : s.isr = some (.rx, .callDone)) (hnested : s.nested = []) :
    d.Does (s.interruptStatement .rx .callDone) := by
  rcases h with h | ⟨x, setup, rest, dummy, sent, stored, h⟩
  · exact absurd (h.isr.call hisr) id
  · have hall := h.isr.call hisr
    obtain ⟨rfl, hquiet, hsend, hreceived⟩ := h.all_received hall
    have hregs := h.armed
    obtain ⟨overrun, spirov, hcall⟩ := dma1_transferDone hquiet.rxBuf h.control.1
    have hsent := h.all_sent hsend
    have hafter : d.after .completionHandler = some ⟨storeBytes d.mem x.pRx stored, none⟩ := by
      rw [SpiDevice.after_completionHandler h.inFlight hsend (by rw [hreceived, hall]), hreceived]
    show d.Does ((s.dma1 .transferDone).1.goto .rx .inHandler, (s.dma1 .transferDone).2)
    rw [hcall]
    refine ⟨⟨storeBytes d.mem x.pRx stored, none⟩, ?_, .inl ?_⟩
    · rw [List.foldlM_cons, hafter]
      rfl
    · exact
        { inFlight := rfl
          lent := rfl
          regs := by
            show IdleRegs { s.regs with control := _ }
            rw [hregs, hsent, hall]
            exact ⟨rfl, ⟨decide_eq_false (Nat.lt_irrefl _), decide_eq_false (Nat.lt_irrefl _)⟩,
              ⟨rfl, rfl⟩, ⟨rfl, rfl⟩⟩
          quiet := ⟨hquiet.txBuf, hquiet.shifter, rfl⟩
          ahead := fun w hw => h.rest w (by rw [← List.nil_append rest, ← h.ahead]; exact hw)
          mem := h.mem
          isr := ⟨fun _ => .inr (.inl rfl), nofun, fun hne => absurd hnested hne⟩ }

/-- A statement of an interrupt. -/
theorem does_interruptStatement {s : SpiDma} {d : SpiDevice} (h : Sim s d) {ch : DmaChannel}
    {pc : DmaIsrPc} (hisr : s.isr = some (ch, pc)) (hnested : s.nested = []) :
    d.Does (s.interruptStatement ch pc) := by
  -- no callback, and not past the completion handler
  have hplain : ∀ (tx rx : ChannelFlags) (isr : Option (DmaChannel × DmaIsrPc)),
      (s.isr ≠ some (.rx, .inHandler) ∧ s.isr ≠ some (.rx, .clearDone)) →
      isr ≠ some (.rx, .inHandler) → (rx.done = true → s.rx.done = true) →
      (isr = some (.rx, .callDone) → s.rx.done = true) →
        d.Does ({ s with tx := tx, rx := rx, isr := isr }, []) := by
    intro tx rx isr hpast hin hdone hcall
    refine ⟨d, rfl, h.goes tx rx isr hin fun all hall => ?_⟩
    rw [hnested] at hall ⊢
    exact hall.goes hdone hpast hcall
  cases ch with
  | tx =>
    obtain ⟨tx, isr, hnext, heq⟩ := interruptStatement_tx h.txonly pc
    rw [heq]
    apply hplain tx s.rx isr
    · rw [hisr]
      exact ⟨by simp, by simp⟩
    · rcases hnext with rfl | ⟨pc', rfl⟩ <;> simp
    · exact id
    · rcases hnext with rfl | ⟨pc', rfl⟩ <;> simp
  | rx =>
    have hpast : pc ≠ .inHandler → pc ≠ .clearDone →
        s.isr ≠ some (.rx, .inHandler) ∧ s.isr ≠ some (.rx, .clearDone) := by
      intro hin hclear
      rw [hisr]
      exact ⟨by simpa using hin, by simpa using hclear⟩
    cases pc with
    | testOverrun =>
      apply hplain s.tx s.rx _ (hpast (by simp) (by simp))
      · split <;> simp
      · exact id
      · split <;> simp
    | callOverrun =>
      obtain ⟨d', houts, hsim⟩ := does_dma1_overrun h
      refine ⟨d', houts, hsim.goes _ _ _ (by simp) fun all hall => ?_⟩
      have hnil : (s.dma1 .overrun).1.nested = [] := hnested
      rw [hnil] at hall ⊢
      refine hall.goes id ?_ (by simp)
      have hsame : (s.dma1 .overrun).1.isr = some (.rx, .callOverrun) := hisr
      rw [hsame]
      exact ⟨by simp, by simp⟩
    | clearOverrun =>
      exact hplain s.tx { s.rx with overrun := false } _ (hpast (by simp) (by simp)) (by simp) id
        (by simp)
    | testDone =>
      apply hplain s.tx s.rx _ (hpast (by simp) (by simp))
      · split <;> simp
      · exact id
      · split
        · next hdone => exact fun _ => hdone
        · simp
    | callDone => exact does_callDone h hisr hnested
    | inHandler =>
      refine ⟨d, rfl, h.goes s.tx s.rx (some (.rx, .clearDone)) (by simp) fun all hall => ?_⟩
      rw [hnested]
      exact ⟨fun _ => .inr (.inr rfl), by simp, fun hne => absurd rfl hne⟩
    | clearDone =>
      refine ⟨d, rfl, h.goes s.tx { s.rx with done := false } (some (.rx, .clearIf)) (by simp)
        fun all hall => ?_⟩
      rw [hnested]
      exact ⟨by simp, by simp, fun hne => absurd rfl hne⟩
    | clearIf =>
      exact hplain s.tx { s.rx with iflag := false } none (hpast (by simp) (by simp)) (by simp) id
        (by simp)

/-- An interrupt begins. -/
theorem does_enter {s : SpiDma} {d : SpiDevice} (h : Sim s d) (hisr : s.isr = none)
    (ch : DmaChannel) : d.Does (s.goto ch .testOverrun, []) := by
  have hnested := h.nested_nil (by rw [hisr]; simp)
  refine ⟨d, rfl, h.goes s.tx s.rx (some (ch, .testOverrun)) (by simp) fun all hall => ?_⟩
  rw [hnested, hisr] at hall
  rw [hnested]
  exact hall.goes id ⟨by simp, by simp⟩ (by simp)

theorem does_statement {s : SpiDma} {d : SpiDevice} (h : Sim s d) : d.Does s.statement := by
  rcases statement_cases h.nested with ⟨-, -, heq⟩ | ⟨w, todo, nested, hruns⟩ |
    ⟨ch, pc, hisr, hnested, heq⟩
  · rw [heq]
    exact h.does
  · rw [hruns.statement]
    exact does_write h hruns
  · rw [heq]
    exact does_interruptStatement h hisr hnested

theorem does_overrun {s : SpiDma} {d : SpiDevice} (h : Sim s d) (ch : DmaChannel) :
    d.Does (s.setFlags { s.flags ch with overrun := true, iflag := true } ch, []) := by
  refine ⟨d, rfl, ?_⟩
  rcases h with h | ⟨x, setup, rest, dummy, sent, stored, h⟩
  · cases ch <;> exact .inl { h with }
  · cases ch <;> exact .inr ⟨x, setup, rest, dummy, sent, stored, { h with }⟩

/-- Somebody writes to memory that has not been lent. -/
theorem does_store {s : SpiDma} {d : SpiDevice} (h : Sim s d) {a : Nat} (v : UInt8)
    (hlent : s.lent.all (!·.lends a) = true) :
    d.Does ({ s with mem := Function.update s.mem a v }, [.stored a v]) := by
  refine ⟨{ d with mem := Function.update d.mem a v }, rfl, ?_⟩
  rcases h with h | ⟨x, setup, rest, dummy, sent, stored, h⟩
  · exact .inl { h with mem := by rw [h.mem] }
  · rw [h.lent] at hlent
    obtain ⟨htx, hrx⟩ : (a < x.pTx ∨ x.pTx + x.length.toNat ≤ a) ∧
        (a < x.pRx ∨ x.pRx + x.length.toNat ≤ a) := by
      simp only [SpiRequest.lends, Option.all_some, Option.any_some, Bool.not_or, Bool.not_and,
        Bool.and_eq_true, Bool.or_eq_true, Bool.not_eq_true', decide_eq_false_iff_not, Nat.not_le,
        Nat.not_lt] at hlent
      exact hlent
    have hle := h.stored_le
    have hsent := h.sent_le
    have hbytes : bytesAt (Function.update d.mem a v) (x.pTx + sent) (x.length.toNat - sent) =
        bytesAt d.mem (x.pTx + sent) (x.length.toNat - sent) :=
      bytesAt_update d.mem _ _ a v (by omega)
    have hmem : Function.update s.mem a v =
        storeBytes (Function.update d.mem a v) x.pRx stored := by
      rw [h.mem, storeBytes_update stored d.mem x.pRx a v (by omega)]
    exact .inr ⟨x, setup, rest, dummy, sent, stored,
      { h with
        toSend := by rw [hbytes]; exact h.toSend
        mem := hmem }⟩

/-- **One step.** -/
theorem sim_step {s : SpiDma} {d : SpiDevice} (h : Sim s d) (e : SpiDmaEvent) (hp : s.Permitted e) :
    d.Does (spiDmaStep s e) := by
  cases e with
  | request q =>
    show d.Does (if s.mayRequest then s.request q else (s, []))
    split
    · next hmay =>
      rcases h with h | ⟨x, setup, rest, dummy, sent, stored, hx⟩
      · exact does_request h hmay hp
      · obtain rfl := hx.setup_nil_of_mayRequest hmay
        have hregs := hx.armed
        rw [request_refused (by rw [hregs]; rfl)]
        exact Sim.does (.inr ⟨x, [], rest, dummy, sent, stored, hx⟩)
    · exact h.does
  | statement => exact does_statement h
  | enter ch =>
    show d.Does (if _ then (s.goto ch .testOverrun, []) else (s, []))
    split
    · next henter =>
      obtain ⟨⟨hisr, -⟩, -⟩ := by simpa using henter
      exact does_enter h hisr ch
    · exact h.does
  | cell ch =>
    show d.Does (if _ then (s.cell ch, []) else (s, []))
    split
    · next hcell =>
      obtain ⟨⟨hchen, -⟩, hasks⟩ := by simpa using hcell
      cases ch with
      | tx => exact does_cell_tx h hchen hasks
      | rx => exact does_cell_rx h hchen hasks
    · exact h.does
  | load => exact does_load h
  | shift b => exact does_shift h b
  | overrun ch =>
    show d.Does (if _ then _ else (s, []))
    split
    · exact does_overrun h ch
    · exact h.does
  | store a v => exact does_store h v hp

/-! ## Runs -/

theorem sim_start (mem : Nat → UInt8) : Sim (.start mem) ⟨mem, none⟩ :=
  .inl ⟨rfl, rfl, ⟨rfl, ⟨rfl, rfl⟩, ⟨rfl, rfl⟩, ⟨rfl, rfl⟩⟩, ⟨rfl, rfl, rfl⟩, nofun, rfl,
    ⟨nofun, nofun, fun hne => absurd rfl hne⟩⟩

theorem sim_run : ∀ (es : List SpiDmaEvent) (s : SpiDma) (d : SpiDevice), Sim s d →
    Along spiDmaStep SpiDma.Permitted s es →
      d.Does (exec spiDmaStep s es, emits spiDmaStep s es) := by
  intro es
  induction es with
  | nil => exact fun s d h _ => h.does
  | cons e es ih =>
    rintro s d h ⟨hp, hrest⟩
    obtain ⟨d', houts, hsim⟩ := sim_step h e hp
    exact .trans houts (ih _ d' hsim hrest)

/-- What memory is while the device's is `d.mem`. -/
def SpiDma.Shows (s : SpiDma) (d : SpiDevice) : Prop :=
  match d.inFlight with
  | none => s.mem = d.mem
  | some x => ∃ stored, stored <+: x.received ∧ s.mem = storeBytes d.mem x.pRx stored

theorem Sim.shows {s : SpiDma} {d : SpiDevice} (h : Sim s d) : s.Shows d := by
  unfold SpiDma.Shows
  rcases h with h | ⟨x, setup, rest, dummy, sent, stored, h⟩
  · rw [h.inFlight]
    exact h.mem
  · rw [h.inFlight]
    exact ⟨stored, ⟨_, h.received.symm⟩, h.mem⟩

/-- **Exchange.**  For every order of statements, interrupts, cells and bytes on the wire, and any
sequence of transactions with two buffers that do not overlap: what is seen is what the device does.
The bytes of the transmit buffer go out, the completion handler is called when as many have come in
and are all in the receive buffer, and no other memory is written.  Once a byte is lost, nothing is
completed any more. -/
theorem spi_exchange (mem : Nat → UInt8) (es : List SpiDmaEvent)
    (h : Along spiDmaStep SpiDma.Permitted (.start mem) es) :
    (∃ d, (emits spiDmaStep (.start mem) es).foldlM SpiDevice.after ⟨mem, none⟩ = some d ∧
      (exec spiDmaStep (.start mem) es).Shows d) ∧
    ∀ pre post, emits spiDmaStep (.start mem) es = pre ++ .lost :: post →
      .completionHandler ∉ post := by
  obtain ⟨d, houts, hsim⟩ := sim_run es _ _ (sim_start mem) h
  refine ⟨⟨d, houts, hsim.shows⟩, ?_⟩
  intro pre post hsplit
  rw [hsplit, List.foldlM_append] at houts
  obtain ⟨d', hpre, hpost⟩ := Option.bind_eq_some_iff.mp houts
  rw [List.foldlM_cons] at hpost
  obtain ⟨e, hlost, hpost⟩ := Option.bind_eq_some_iff.mp hpost
  have hroom : (⟨mem, none⟩ : SpiDevice).Room := by
    intro x hx
    cases hx
  have hshort := SpiDevice.short_of_lost (SpiDevice.room_run hroom hpre) hlost
  exact (hshort.none_completed hpost).2

/-- A call with its statements. -/
def startTransaction (q : SpiRequest) : List SpiDmaEvent :=
  .request q :: List.replicate 26 .statement

/-- One byte each way. -/
def byteExchange : List SpiDmaEvent :=
  let bytes : List SpiDmaEvent := [.cell .tx, .load, .shift 7, .cell .rx, .enter .rx]
  startTransaction ⟨some 0, some 8, 1⟩ ++ (bytes ++ List.replicate 6 .statement)

theorem spi_exchange_byte :
    (emits spiDmaStep (.start fun _ => 5) byteExchange =
        [.accepted ⟨some 0, some 8, 1⟩, .wire 5 7, .completionHandler] ∧
      (exec spiDmaStep (.start fun _ => 5) byteExchange).mem 8 = 7) ∧
    ∃ d, (emits spiDmaStep (.start fun _ => 5) byteExchange).foldlM SpiDevice.after
        ⟨fun _ => 5, none⟩ = some d ∧
      (exec spiDmaStep (.start fun _ => 5) byteExchange).Shows d :=
  ⟨by decide, (spi_exchange (fun _ => 5) byteExchange (by decide)).1⟩

end CuriosityT1S
