import CuriosityT1S.SpiExclusive

/-!
# What TC6 is told of a receive overrun

`DMA1_Callback` clears the two overrun bits and keeps nothing; the completion
handler has no argument, and `vidTransactionDone` calls `TC6_SpiBufferDone`
with true.

    overrun_started:           what counts as an overrun of a transaction
    bufferDone_true:           every completion is reported as a success
    overrun_reported_failed:   overruns are reported if and only if there are none to report
-/

namespace CuriosityT1S

open Mealy

/-- The transaction for which channel 1 raises an event with a receive overrun, as the OVERRUN
event or in one of the two status bits; with DONE it comes only when channel 0 is done. -/
def sawOverrun (s : Spi) : SpiEvent → Option Nat
  | .dma1 i event regs =>
    match s.hw[i]? with
    | none => none
    | some t =>
      if event = .transferDone ∧ !t.txDone then none
      else if event = .overrun ∨ regs.overrun ∨ regs.spirov then some t.id
      else none
  | _ => none

/-- The run as `spiStep` has it, emitting the overruns seen. -/
def overrunStep (s : Spi) (e : SpiEvent) : Spi × List Nat :=
  ((spiStep s e).1, (sawOverrun s e).toList)

/-- The transactions in which an overrun was seen between their start and their DMA1 DONE. -/
def overrunIds (es : List SpiEvent) : List Nat := emits overrunStep spiInit es

theorem exec_overrunStep (s : Spi) (es : List SpiEvent) :
    exec overrunStep s es = exec spiStep s es := by
  induction es generalizing s with
  | nil => rfl
  | cons e es ih => exact ih _

/-- An overrun is seen in a transaction in flight. -/
theorem sawOverrun_inFlight {s : Spi} {e : SpiEvent} {id : Nat} (h : sawOverrun s e = some id) :
    id ∈ s.hw.map Transfer.id := by
  cases e with
  | dma1 i event regs =>
    simp only [sawOverrun] at h
    split at h
    · cases h
    · next t ht =>
      split at h
      · cases h
      · split at h
        · obtain rfl : t.id = id := Option.some.inj h
          exact List.mem_map_of_mem (List.mem_of_getElem? ht)
        · cases h
  | _ => cases h

/-- An overrun is seen between the start of its transaction and the DMA1 DONE. -/
theorem overrun_started (es : List SpiEvent) (id : Nat) (h : id ∈ overrunIds es) :
    ∃ pre e post, es = pre ++ e :: post ∧ sawOverrun (exec spiStep spiInit pre) e = some id ∧
      id ∈ startedIds (emits spiStep spiInit pre) ∧
      id ∉ dma1DoneIds (emits spiStep spiInit pre) := by
  obtain ⟨pre, e, post, he, h⟩ := (mem_emits_iff overrunStep spiInit es id).mp h
  rw [exec_overrunStep] at h
  have hsaw := Option.mem_toList.mp h
  have hflight := sawOverrun_inFlight hsaw
  have hlog := (spi_run pre).2
  have hnodup := (List.nodup_append.mp hlog.numbers.nodup).1
  refine ⟨pre, e, post, he, hsaw, ?_⟩
  rw [hlog.started] at hnodup ⊢
  exact ⟨List.mem_append_right _ hflight,
    fun hdone => (List.nodup_append.mp hnodup).2.2 id hdone id hflight rfl⟩

theorem stepDma1_bufferDone (s : Spi) (rest : List Frame) (id : Nat) (event : DmaEvent)
    (pc : Dma1Pc) {id' : Nat} {success : Bool}
    (h : .bufferDone id' success ∈ (stepDma1 s rest id event pc).2) : success = true := by
  cases pc with
  | callDone =>
    obtain ⟨-, rfl⟩ := SpiOut.bufferDone.inj (List.mem_singleton.mp h)
    rfl
  | _ => cases h

/-- The one call of `TC6_SpiBufferDone`. -/
theorem spiStep_bufferDone (s : Spi) (e : SpiEvent) {id : Nat} {success : Bool}
    (h : .bufferDone id success ∈ (spiStep s e).2) : success = true := by
  cases e with
  | request =>
    simp only [spiStep] at h
    split at h <;> cases h
  | dma0 i event =>
    simp only [spiStep] at h
    split at h
    · cases h
    · split at h
      · split at h <;> cases h
      · cases h
  | dma1 i event regs =>
    simp only [spiStep] at h
    split at h
    · cases h
    · split at h
      · split at h
        · cases List.mem_singleton.mp h
        · cases h
      · cases h
  | step =>
    simp only [spiStep] at h
    split at h
    · cases h
    · next id' pc rest _ =>
      cases pc with
      | check | dmaCheck =>
        simp only [stepRequest] at h
        split at h <;> cases h
      | start | ret => cases List.mem_singleton.mp h
      | _ => cases h
    · next event pc rest _ => cases pc <;> cases h
    · next id' event pc rest _ => exact stepDma1_bufferDone s rest id' event pc h

/-- Whatever happened, TC6 is told that the transaction succeeded. -/
theorem bufferDone_true (es : List SpiEvent) (id : Nat) (success : Bool)
    (h : .bufferDone id success ∈ emits spiStep spiInit es) : success = true := by
  obtain ⟨pre, e, post, -, h⟩ := (mem_emits_iff spiStep spiInit es _).mp h
  exact spiStep_bufferDone _ e h

theorem mem_bufferDoneIds {l : List SpiOut} {id : Nat} :
    id ∈ bufferDoneIds l ↔ ∃ success, .bufferDone id success ∈ l := by
  constructor
  · intro h
    obtain ⟨o, ho, hid⟩ := List.mem_filterMap.mp h
    cases o with
    | bufferDone id' success =>
      obtain rfl : id' = id := Option.some.inj hid
      exact ⟨success, ho⟩
    | _ => cases hid
  · rintro ⟨success, h⟩
    exact List.mem_filterMap.mpr ⟨_, h, rfl⟩

/-- **Overruns.**  In every run, the reports of the transactions with an overrun are failures
(and successes are reported only of transactions without one) if and only if no transaction that
is reported had an overrun. -/
theorem overrun_reported_failed (es : List SpiEvent) :
    (∀ id success, .bufferDone id success ∈ emits spiStep spiInit es →
      id ∈ overrunIds es → success = false) ↔
    ∀ id ∈ bufferDoneIds (emits spiStep spiInit es), id ∉ overrunIds es := by
  constructor
  · intro h id hid hover
    obtain ⟨success, hdone⟩ := mem_bufferDoneIds.mp hid
    have htrue := bufferDone_true es id success hdone
    have hfalse := h id success hdone hover
    rw [htrue] at hfalse
    cases hfalse
  · intro h id success hdone hover
    exact absurd hover (h id (mem_bufferDoneIds.mpr ⟨success, hdone⟩))

/-- One transaction: started, an overrun, then both channels are done. -/
def overrunRun : List SpiEvent :=
  .request :: List.replicate 7 .step ++ .dma1 0 .overrun ⟨true, true⟩ :: List.replicate 3 .step ++
    .dma0 0 .transferDone :: List.replicate 3 .step ++
    .dma1 0 .transferDone ⟨false, false⟩ :: List.replicate 9 .step

theorem overrun_reported_success :
    ¬ ∀ (es : List SpiEvent) (id : Nat) (success : Bool),
      .bufferDone id success ∈ emits spiStep spiInit es → id ∈ overrunIds es →
      success = false := by
  intro h
  have hdone : .bufferDone 0 true ∈ emits spiStep spiInit overrunRun := by decide
  have hover : 0 ∈ overrunIds overrunRun := by decide
  cases h overrunRun 0 true hdone hover

end CuriosityT1S
