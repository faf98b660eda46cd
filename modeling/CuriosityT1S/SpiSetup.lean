import CuriosityT1S.SpiRegisters

/-!
# Setting up an SPI transaction (dmaspi.c)

Whatever the transaction before has left in the registers, the statements of the branch with both
buffers overwrite it.  The channels are enabled before they are set up; until the last statement no
transmit cell is asked for, as the requests of the SPI are masked.

    applyAll_startSetup:  the registers when the first byte may go
    guarded_startSetup:   no cell before
-/

namespace CuriosityT1S

/-! ## What the callers promise -/

/-- Both buffers, which do not overlap, and at least a byte. -/
def SpiRequest.Sound (q : SpiRequest) : Prop :=
  match q.pTx, q.pRx with
  | some pTx, some pRx =>
    0 < q.length.toNat ∧ (pTx + q.length.toNat ≤ pRx ∨ pRx + q.length.toNat ≤ pTx)
  | _, _ => False

instance (q : SpiRequest) : Decidable q.Sound := by
  unfold SpiRequest.Sound
  split <;> infer_instance

def SpiRequest.lends (q : SpiRequest) (a : Nat) : Bool :=
  let within (p : Option Nat) := p.any fun p => p ≤ a && a < p + q.length.toNat
  within q.pTx || within q.pRx

/-- Nobody writes to the buffers of a transaction in flight. -/
def SpiDma.Permitted (s : SpiDma) : SpiDmaEvent → Prop
  | .request q => q.Sound
  | .store a _ => s.lent.all (!·.lends a) = true
  | _ => True

instance (s : SpiDma) (e : SpiDmaEvent) : Decidable (s.Permitted e) := by
  unfold SpiDma.Permitted
  split <;> infer_instance

/-! ## Setting up -/

/-- From registers `r` on the statements keep `dmaControl` in order, and up to the last of them no
transmit cell is asked for on an enabled channel. -/
def Guarded : SpiDmaRegs → List RegWrite → Prop
  | _, [] => True
  | r, w :: ws =>
    (r.control.completionHandler = true ∧ r.control.txonly = 0) ∧ (r.tx.chen && r.spitben) = false ∧
      Guarded (w.apply r) ws

/-- The channels and masks of a transaction, after `sent` and `stored` cells. -/
def armedRegs (dummy : UInt8) (pTx pRx length sent stored : Nat) : SpiDmaRegs where
  control := ⟨true, dmaBusy, 0⟩
  dummy := dummy
  spirbfen := true
  spitben := true
  tx := ⟨sent < length, 0, .increment, .unchanged, .ram (pTx + sent), .buf, length - sent,
    true, true⟩
  rx := ⟨stored < length, 0, .unchanged, .increment, .buf, .ram (pRx + stored), length - stored,
    true, true⟩

/-- Between transactions. -/
structure IdleRegs (r : SpiDmaRegs) : Prop where
  control : r.control = ⟨true, dmaAvailable, 0⟩
  chen : r.tx.chen = false ∧ r.rx.chen = false
  done : r.tx.doneen = true ∧ r.rx.doneen = true
  ie : r.tx.ie = true ∧ r.rx.ie = true

/-- The statements up to the one that lets the first byte go. -/
def startSetup (pTx pRx length : Nat) : List RegWrite :=
  .busy :: .txonly 0 :: transmitReceiveSetup pTx pRx length

/-- Whatever the registers are from the transaction before, they are overwritten. -/
theorem applyAll_startSetup {r : SpiDmaRegs} (h : IdleRegs r) (pTx pRx length : Nat)
    (hlen : 0 < length) :
    applyAll r (startSetup pTx pRx length) = armedRegs r.dummy pTx pRx length 0 0 := by
  obtain ⟨control, dummy, spirbfen, spitben, tx, rx⟩ := r
  obtain ⟨hcontrol, -, ⟨htx, hrx⟩, hietx, hierx⟩ := h
  cases tx
  cases rx
  subst hcontrol htx hrx hietx hierx
  unfold armedRegs
  rw [decide_eq_true hlen]
  rfl

theorem guarded_startSetup {r : SpiDmaRegs} (h : IdleRegs r) (pTx pRx length : Nat) :
    Guarded r (startSetup pTx pRx length) := by
  obtain ⟨control, dummy, spirbfen, spitben, tx, rx⟩ := r
  obtain ⟨hcontrol, ⟨htx, hrx⟩, -, -⟩ := h
  cases tx
  cases rx
  subst hcontrol htx hrx
  repeat' constructor

/-- Nothing is left to do for the last statements. -/
theorem write_completionEnable {s : SpiDma}
    (hdone : s.regs.tx.doneen = true ∧ s.regs.rx.doneen = true)
    (hie : s.regs.tx.ie = true ∧ s.regs.rx.ie = true) {w : RegWrite} (hw : w ∈ completionEnable) :
    s.write w = s := by
  obtain ⟨⟨control, dummy, spirbfen, spitben, tx, rx⟩, txFlags, rxFlags, port, mem, todo, nested,
    isr, lent⟩ := s
  cases tx
  cases rx
  obtain ⟨htx, hrx⟩ := hdone
  obtain ⟨hietx, hierx⟩ := hie
  subst htx hrx hietx hierx
  unfold completionEnable at hw
  simp only [List.mem_cons, List.not_mem_nil, or_false] at hw
  rcases hw with rfl | rfl | rfl | rfl <;> rfl

/-! ## Statements -/

/-- The statements that are to come, in this order. -/
def SpiDma.ahead (s : SpiDma) : List RegWrite := s.nested ++ s.todo

/-- What a statement leaves alone. -/
theorem write_frame (s : SpiDma) (w : RegWrite) :
    (s.write w).regs = w.apply s.regs ∧ (s.write w).port = s.port ∧ (s.write w).mem = s.mem ∧
      (s.write w).lent = s.lent ∧ (s.write w).rx.done = s.rx.done ∧ (s.write w).isr = s.isr ∧
      (s.write w).todo = s.todo ∧ (s.write w).nested = s.nested := by
  cases w with
  | clearIf ch => cases ch <;> exact ⟨rfl, rfl, rfl, rfl, rfl, rfl, rfl, rfl⟩
  | _ => exact ⟨rfl, rfl, rfl, rfl, rfl, rfl, rfl, rfl⟩

/-- `w` is the next one, of the main loop or of a call by the completion handler. -/
structure SpiDma.Runs (s : SpiDma) (w : RegWrite) (todo nested : List RegWrite) : Prop where
  ahead : s.ahead = w :: (nested ++ todo)
  inHandler : nested ≠ [] → s.isr = some (.rx, .inHandler)
  handler : s.isr = some (.rx, .inHandler) → s.nested = w :: nested
  statement : s.statement = ({ s.write w with todo := todo, nested := nested }, [])

section
variable {s : SpiDma}

theorem statement_interrupt {ch : DmaChannel} {pc : DmaIsrPc} (hisr : s.isr = some (ch, pc))
    (hnested : s.nested = []) : s.statement = s.interruptStatement ch pc := by
  unfold SpiDma.statement
  rw [hisr, hnested]
  cases pc <;> rfl

/-- What the next statement is. -/
theorem statement_cases (hin : s.nested ≠ [] → s.isr = some (.rx, .inHandler)) :
    (s.isr = none ∧ s.ahead = [] ∧ s.statement = (s, [])) ∨
      (∃ w todo nested, s.Runs w todo nested) ∨
      ∃ ch pc, s.isr = some (ch, pc) ∧ s.nested = [] ∧
        s.statement = s.interruptStatement ch pc := by
  cases hnested : s.nested with
  | cons w ws =>
    -- a call by the completion handler
    have hisr : s.isr = some (.rx, .inHandler) := hin (by rw [hnested]; exact List.cons_ne_nil w ws)
    obtain ⟨-, -, -, -, -, -, htodo, -⟩ := write_frame s w
    refine .inr (.inl ⟨w, s.todo, ws, ?_, fun _ => hisr, fun _ => hnested, ?_⟩)
    · unfold SpiDma.ahead
      rw [hnested]
      rfl
    · have hstep : s.statement = ({ s.write w with nested := ws }, []) := by
        unfold SpiDma.statement
        rw [hisr, hnested]
      rw [hstep, ← htodo]
  | nil =>
    cases hisr : s.isr with
    | some place => exact .inr (.inr ⟨place.1, place.2, rfl, rfl, statement_interrupt hisr hnested⟩)
    | none =>
      have hahead : s.ahead = s.todo := by
        unfold SpiDma.ahead
        rw [hnested]
        rfl
      cases htodo : s.todo with
      | nil =>
        refine .inl ⟨rfl, hahead.trans htodo, ?_⟩
        unfold SpiDma.statement
        rw [hisr, htodo]
      | cons w ws =>
        obtain ⟨-, -, -, -, -, -, -, hframe⟩ := write_frame s w
        refine .inr (.inl ⟨w, ws, [], hahead.trans htodo, fun hne => absurd rfl hne, ?_, ?_⟩)
        · rw [hisr]
          exact fun hc => by cases hc
        · have hstep : s.statement = ({ s.write w with todo := ws }, []) := by
            unfold SpiDma.statement
            rw [hisr, htodo]
          rw [hstep, ← hframe.trans hnested]

/-- A call that is accepted comes before what is still to come. -/
theorem request_ahead (h : s.mayRequest = true) (hnested : s.nested ≠ [] → s.isr.isSome = true)
    (q : SpiRequest) :
    (if s.isr.isSome then q.statements else s.nested) ++
      (if s.isr.isSome then s.todo else q.statements) = q.statements ++ s.ahead := by
  unfold SpiDma.ahead
  unfold SpiDma.mayRequest at h
  cases hisr : s.isr with
  | none =>
    rw [hisr] at h hnested
    have hnil : s.nested = [] := by
      by_contra hne
      cases hnested hne
    have htodo : s.todo = [] := by simpa using h
    rw [hnil, htodo]
    exact (List.append_nil _).symm
  | some place =>
    rw [hisr] at h
    have hnil : s.nested = [] := by simp at h; exact h.2
    rw [hnil]
    rfl

end

end CuriosityT1S
