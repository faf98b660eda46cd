import CuriosityT1S.SpiStack

/-!
# SPI transactions are exclusive and completed once

Whenever the innermost call can be interrupted, the two busy flags and the
hardware agree (`Agree`): all free, or one transaction in flight and both flags
set.  Where they do not, the hardware is idle and no interrupt can come, so the
call in question is the innermost one (`TopOk`) and stays so until they agree
again; the calls below it all stand where they can be interrupted
(`Frame.Below`).

    SpiInv:         the flags, by the position of the innermost call
    SpiLog:         started, done and reported transactions, in order
    SpiLooks:       what the hardware was when each request tested the busy flag
    spi_exclusive:  one in flight; accepted if and only if the hardware was free;
                    one `TC6_SpiBufferDone` for each; the flags agree when nothing is active
-/

namespace CuriosityT1S

open Mealy

/-! ## The flags -/

/-- All free, or one transaction in flight and both flags set. -/
def Agree (s : Spi) : Prop :=
  s.hw = [] ∧ s.stub.busy = 0 ∧ s.dma.busy = 0 ∨
    (∃ t, s.hw = [t]) ∧ s.stub.busy ≠ 0 ∧ s.dma.busy ≠ 0

/-- What holds while the call is the innermost. -/
def TopOk (s : Spi) : Frame → Prop
  | .request _ .check => Agree s
  | .request _ .setBusy => s.hw = [] ∧ s.stub.busy = 0 ∧ s.dma.busy = 0
  | .request _ .dmaCheck => s.hw = [] ∧ s.stub.busy ≠ 0 ∧ s.dma.busy = 0
  | .request _ .setDmaBusy => s.hw = [] ∧ s.stub.busy ≠ 0 ∧ s.dma.busy = 0
  | .request _ .clearTxonly => s.hw = [] ∧ s.stub.busy ≠ 0 ∧ s.dma.busy ≠ 0
  | .request _ .start => s.hw = [] ∧ s.stub.busy ≠ 0 ∧ s.dma.busy ≠ 0
  | .request _ .undo => False
  | .request _ (.ret _) => Agree s
  | .dma0 _ .testEvent | .dma0 _ .testTxonly | .dma0 _ .ret => Agree s
  | .dma0 _ .clearTxonly | .dma0 _ .setAvailable => False
  | .dma1 _ .overrun .clearOverrun | .dma1 _ .overrun .testEvent | .dma1 _ .overrun .ret => Agree s
  | .dma1 _ .overrun _ => False
  | .dma1 _ .transferDone .clearOverrun | .dma1 _ .transferDone .testEvent
  | .dma1 _ .transferDone .setAvailable => s.hw = [] ∧ s.stub.busy ≠ 0 ∧ s.dma.busy ≠ 0
  | .dma1 _ .transferDone .callHandler | .dma1 _ .transferDone .clearFirst
  | .dma1 _ .transferDone .status => s.hw = [] ∧ s.dma.busy = 0
  | .dma1 _ .transferDone .callDone => s.hw = [] ∧ s.stub.busy = 0 ∧ s.dma.busy = 0
  | .dma1 _ .transferDone .inDone | .dma1 _ .transferDone .ret => Agree s

/-- Where a call can be interrupted. -/
def Frame.Below : Frame → Prop
  | .request _ .check | .request _ (.ret _) => True
  | .request _ _ => False
  | .dma0 _ .testEvent | .dma0 _ .testTxonly | .dma0 _ .ret => True
  | .dma0 _ _ => False
  | .dma1 _ .overrun .clearOverrun | .dma1 _ .overrun .testEvent | .dma1 _ .overrun .ret => True
  | .dma1 _ .overrun _ => False
  | .dma1 _ .transferDone .inDone | .dma1 _ .transferDone .ret => True
  | .dma1 _ .transferDone _ => False

def StackOk (s : Spi) : List Frame → Prop
  | [] => Agree s
  | f :: rest => TopOk s f ∧ ∀ g ∈ rest, g.Below

structure SpiInv (s : Spi) : Prop where
  opened : s.stub.opened = true
  handler : s.dma.completionHandler = true
  txonly : s.dma.txonly = 0
  stack : StackOk s s.stack

theorem Agree.length_le {s : Spi} (h : Agree s) : s.hw.length ≤ 1 := by
  rcases h with ⟨hw, -⟩ | ⟨⟨t, hw⟩, -⟩
  · rw [hw]; exact Nat.zero_le 1
  · rw [hw]; exact Nat.le_refl 1

/-- The innermost call of one that may be below. -/
theorem topOk_of_below {s : Spi} {f : Frame} (hf : f.Below) (h : Agree s) : TopOk s f := by
  cases f with
  | request id pc =>
    cases pc with
    | check => exact h
    | ret success => exact h
    | _ => cases hf
  | dma0 event pc =>
    cases pc with
    | testEvent | testTxonly | ret => exact h
    | _ => cases hf
  | dma1 id event pc =>
    cases event with
    | overrun =>
      cases pc with
      | clearOverrun | testEvent | ret => exact h
      | _ => cases hf
    | transferDone =>
      cases pc with
      | inDone | ret => exact h
      | _ => cases hf

/-- While a transaction is in flight, the innermost call can be interrupted. -/
theorem TopOk.below {s : Spi} {f : Frame} (h : TopOk s f) (hw : s.hw ≠ []) :
    f.Below ∧ Agree s := by
  cases f with
  | request id pc =>
    cases pc with
    | check => exact ⟨trivial, h⟩
    | ret success => exact ⟨trivial, h⟩
    | undo => cases h
    | setBusy | dmaCheck | setDmaBusy | clearTxonly | start => exact absurd h.1 hw
  | dma0 event pc =>
    cases pc with
    | testEvent | testTxonly | ret => exact ⟨trivial, h⟩
    | _ => cases h
  | dma1 id event pc =>
    cases event with
    | overrun =>
      cases pc with
      | clearOverrun | testEvent | ret => exact ⟨trivial, h⟩
      | _ => cases h
    | transferDone =>
      cases pc with
      | inDone | ret => exact ⟨trivial, h⟩
      | _ => exact absurd h.1 hw

/-- A call that ends where the flags agree leaves the next one innermost. -/
theorem stackOk_pop {s : Spi} {rest : List Frame} (hrest : ∀ g ∈ rest, g.Below) (h : Agree s) :
    StackOk s rest := by
  cases rest with
  | nil => exact h
  | cons f rest =>
    exact ⟨topOk_of_below (hrest f List.mem_cons_self) h,
      fun g hg => hrest g (List.mem_cons_of_mem f hg)⟩

/-- While a transaction is in flight, everything can be interrupted. -/
theorem StackOk.below {s : Spi} {stack : List Frame} (h : StackOk s stack) (hw : s.hw ≠ []) :
    (∀ g ∈ stack, g.Below) ∧ Agree s := by
  cases stack with
  | nil => exact ⟨nofun, h⟩
  | cons f rest =>
    obtain ⟨hf, ha⟩ := h.1.below hw
    refine ⟨fun g hg => ?_, ha⟩
    rcases List.mem_cons.mp hg with rfl | hg
    · exact hf
    · exact h.2 g hg

/-- A request comes where the flags agree. -/
theorem StackOk.mayRequest {s : Spi} {stack : List Frame} (h : StackOk s stack)
    (hm : mayRequest stack = true) : (∀ g ∈ stack, g.Below) ∧ Agree s := by
  cases stack with
  | nil => exact ⟨nofun, h⟩
  | cons f rest =>
    cases f with
    | dma1 id event pc =>
      cases pc with
      | inDone =>
        cases event with
        | overrun => cases h.1
        | transferDone =>
          refine ⟨fun g hg => ?_, h.1⟩
          rcases List.mem_cons.mp hg with rfl | hg
          · trivial
          · exact h.2 g hg
      | _ => cases hm
    | _ => cases hm

/-! ## One statement -/

theorem spiInv_stepRequest (s : Spi) (rest : List Frame) (id : Nat) (pc : RequestPc)
    (h : SpiInv s) (hs : s.stack = .request id pc :: rest) :
    SpiInv (stepRequest s rest id pc).1 := by
  have hstack := h.stack
  rw [hs] at hstack
  obtain ⟨htop, hrest⟩ := hstack
  cases pc with
  | check =>
    -- the flags agree, so the busy flag tells whether the hardware is free
    simp only [stepRequest]
    split
    · next hc =>
      rcases htop with ⟨hw, hb, hd⟩ | ⟨-, hb, -⟩
      · exact ⟨h.opened, h.handler, h.txonly, ⟨hw, hb, hd⟩, hrest⟩
      · exact absurd hc.2 hb
    · exact ⟨h.opened, h.handler, h.txonly, htop, hrest⟩
  | setBusy =>
    obtain ⟨hw, -, hd⟩ := htop
    have hb : (1 : UInt8) ≠ 0 := by decide
    exact ⟨h.opened, h.handler, h.txonly, ⟨hw, hb, hd⟩, hrest⟩
  | dmaCheck =>
    simp only [stepRequest]
    rw [if_pos htop.2.2]
    exact ⟨h.opened, h.handler, h.txonly, htop, hrest⟩
  | setDmaBusy =>
    obtain ⟨hw, hb, -⟩ := htop
    have hd : dmaBusy ≠ 0 := by decide
    exact ⟨h.opened, h.handler, h.txonly, ⟨hw, hb, hd⟩, hrest⟩
  | clearTxonly => exact ⟨h.opened, h.handler, rfl, htop, hrest⟩
  | start =>
    obtain ⟨hw, hb, hd⟩ := htop
    refine ⟨h.opened, h.handler, h.txonly, ⟨Or.inr ⟨⟨⟨id, false⟩, ?_⟩, hb, hd⟩, hrest⟩⟩
    show s.hw ++ [⟨id, false⟩] = [⟨id, false⟩]
    rw [hw]
    rfl
  | undo => cases htop
  | ret success => exact ⟨h.opened, h.handler, h.txonly, stackOk_pop hrest htop⟩

/-- Both buffers are given, so channel 0 has nothing to do. -/
theorem spiInv_stepDma0 (s : Spi) (rest : List Frame) (event : DmaEvent) (pc : Dma0Pc)
    (h : SpiInv s) (hs : s.stack = .dma0 event pc :: rest) :
    SpiInv (stepDma0 s rest event pc).1 := by
  have hstack := h.stack
  rw [hs] at hstack
  obtain ⟨htop, hrest⟩ := hstack
  cases pc with
  | testEvent =>
    simp only [stepDma0]
    split <;> exact ⟨h.opened, h.handler, h.txonly, htop, hrest⟩
  | testTxonly =>
    simp only [stepDma0]
    rw [if_neg (by rw [h.txonly]; decide)]
    exact ⟨h.opened, h.handler, h.txonly, htop, hrest⟩
  | clearTxonly => cases htop
  | setAvailable => cases htop
  | ret => exact ⟨h.opened, h.handler, h.txonly, stackOk_pop hrest htop⟩

theorem spiInv_stepDma1 (s : Spi) (rest : List Frame) (id : Nat) (event : DmaEvent)
    (pc : Dma1Pc) (h : SpiInv s) (hs : s.stack = .dma1 id event pc :: rest) :
    SpiInv (stepDma1 s rest id event pc).1 := by
  have hstack := h.stack
  rw [hs] at hstack
  obtain ⟨htop, hrest⟩ := hstack
  cases event with
  | overrun =>
    cases pc with
    | clearOverrun => exact ⟨h.opened, h.handler, h.txonly, htop, hrest⟩
    | testEvent => exact ⟨h.opened, h.handler, h.txonly, htop, hrest⟩
    | ret => exact ⟨h.opened, h.handler, h.txonly, stackOk_pop hrest htop⟩
    | _ => cases htop
  | transferDone =>
    cases pc with
    | clearOverrun => exact ⟨h.opened, h.handler, h.txonly, htop, hrest⟩
    | testEvent => exact ⟨h.opened, h.handler, h.txonly, htop, hrest⟩
    | setAvailable => exact ⟨h.opened, h.handler, h.txonly, ⟨htop.1, rfl⟩, hrest⟩
    | callHandler =>
      simp only [stepDma1]
      rw [if_pos h.handler]
      exact ⟨h.opened, h.handler, h.txonly, htop, hrest⟩
    | clearFirst => exact ⟨h.opened, h.handler, h.txonly, htop, hrest⟩
    | status =>
      -- the DMA is already available, so the stub becomes free as well
      exact ⟨h.opened, h.handler, h.txonly, ⟨htop.1, htop.2, htop.2⟩, hrest⟩
    | callDone => exact ⟨h.opened, h.handler, h.txonly, Or.inl htop, hrest⟩
    | inDone => exact ⟨h.opened, h.handler, h.txonly, htop, hrest⟩
    | ret => exact ⟨h.opened, h.handler, h.txonly, stackOk_pop hrest htop⟩

theorem spiInv_init : SpiInv spiInit := ⟨rfl, rfl, rfl, Or.inl ⟨rfl, rfl, rfl⟩⟩

/-- An interrupt comes for the one transaction in flight, where everything can be interrupted. -/
theorem SpiInv.inFlight {s : Spi} {i : Nat} {t : Transfer} (h : SpiInv s)
    (ht : s.hw[i]? = some t) :
    i = 0 ∧ s.hw = [t] ∧ (∀ g ∈ s.stack, g.Below) ∧ s.stub.busy ≠ 0 ∧ s.dma.busy ≠ 0 := by
  have hw : s.hw ≠ [] := by rintro he; simp [he] at ht
  obtain ⟨hbelow, ha⟩ := h.stack.below hw
  rcases ha with ⟨he, -⟩ | ⟨⟨u, hu⟩, hb, hd⟩
  · exact absurd he hw
  · rw [hu] at ht
    obtain ⟨hi, hut⟩ := List.getElem?_eq_some_iff.mp ht
    obtain rfl : i = 0 := by simpa using hi
    obtain rfl : u = t := hut
    exact ⟨rfl, hu, hbelow, hb, hd⟩

/-- An interrupt of channel 0. -/
theorem spiInv_dma0 (s : Spi) (i : Nat) (event : DmaEvent) (h : SpiInv s) :
    SpiInv (spiStep s (.dma0 i event)).1 := by
  simp only [spiStep]
  cases ht : s.hw[i]? with
  | none => exact h
  | some t =>
    obtain ⟨rfl, hw, hbelow, hb, hd⟩ := h.inFlight ht
    simp only
    split
    · split
      · exact h
      · refine ⟨h.opened, h.handler, h.txonly,
          Or.inr ⟨⟨{ t with txDone := true }, ?_⟩, hb, hd⟩, hbelow⟩
        show s.hw.set 0 { t with txDone := true } = [{ t with txDone := true }]
        rw [hw]
        rfl
    · exact ⟨h.opened, h.handler, h.txonly, Or.inr ⟨⟨t, hw⟩, hb, hd⟩, hbelow⟩

/-- An interrupt of channel 1.  With its DONE the hardware is idle, while the flags are still
set. -/
theorem spiInv_dma1 (s : Spi) (i : Nat) (event : DmaEvent) (regs : SpiRegs) (h : SpiInv s) :
    SpiInv (spiStep s (.dma1 i event regs)).1 := by
  simp only [spiStep]
  cases ht : s.hw[i]? with
  | none => exact h
  | some t =>
    obtain ⟨rfl, hw, hbelow, hb, hd⟩ := h.inFlight ht
    cases event with
    | transferDone =>
      simp only [if_true]
      split
      · refine ⟨h.opened, h.handler, h.txonly, ⟨?_, hb, hd⟩, hbelow⟩
        show s.hw.eraseIdx 0 = []
        rw [hw]
        rfl
      · exact h
    | overrun => exact ⟨h.opened, h.handler, h.txonly, Or.inr ⟨⟨t, hw⟩, hb, hd⟩, hbelow⟩

/-- What one event preserves. -/
theorem spiInv_step (s : Spi) (e : SpiEvent) (h : SpiInv s) : SpiInv (spiStep s e).1 := by
  cases e with
  | request =>
    simp only [spiStep]
    split
    · next hm =>
      obtain ⟨hbelow, ha⟩ := h.stack.mayRequest hm
      exact ⟨h.opened, h.handler, h.txonly, ha, hbelow⟩
    · exact h
  | dma0 i event => exact spiInv_dma0 s i event h
  | dma1 i event regs => exact spiInv_dma1 s i event regs h
  | step =>
    simp only [spiStep]
    cases hs : s.stack with
    | nil => exact h
    | cons f rest =>
      cases f with
      | request id pc => exact spiInv_stepRequest s rest id pc h hs
      | dma0 event pc => exact spiInv_stepDma0 s rest event pc h hs
      | dma1 id event pc => exact spiInv_stepDma1 s rest id event pc h hs

/-! ## What has happened so far -/

def SpiOut.started? : SpiOut → Option Nat
  | .started id => some id
  | _ => none

def SpiOut.dma1Done? : SpiOut → Option Nat
  | .dma1Done id => some id
  | _ => none

def SpiOut.bufferDone? : SpiOut → Option Nat
  | .bufferDone id _ => some id
  | _ => none

def SpiOut.accepted? : SpiOut → Option Nat
  | .returned id true => some id
  | _ => none

/-- The transactions given to the hardware. -/
def startedIds (l : List SpiOut) : List Nat := l.filterMap SpiOut.started?

/-- Those whose DMA1 DONE was raised. -/
def dma1DoneIds (l : List SpiOut) : List Nat := l.filterMap SpiOut.dma1Done?

/-- Those for which `TC6_SpiBufferDone` was called. -/
def bufferDoneIds (l : List SpiOut) : List Nat := l.filterMap SpiOut.bufferDone?

/-- The requests that returned true. -/
def acceptedIds (l : List SpiOut) : List Nat := l.filterMap SpiOut.accepted?

/-- The transaction whose `TC6_SpiBufferDone` is still to come in this call. -/
def Frame.pending : Frame → List Nat
  | .dma1 _ .transferDone .inDone | .dma1 _ .transferDone .ret => []
  | .dma1 id .transferDone _ => [id]
  | _ => []

/-- A started request that has not returned yet. -/
def Frame.unreturned : Frame → List Nat
  | .request id (.ret true) => [id]
  | _ => []

/-- A request that may still start. -/
def Frame.unstarted : Frame → List Nat
  | .request _ (.ret _) => []
  | .request id _ => [id]
  | _ => []

/-- Each number is used up or waits in one call, and none of them is new. -/
structure Numbered (used : List Nat) (waiting : Frame → List Nat) (s : Spi) : Prop where
  nodup : (used ++ s.stack.flatMap waiting).Nodup
  fresh : ∀ id ∈ used ++ s.stack.flatMap waiting, id < s.nextId

/-- On top of `rest` the calls `old` become `new`, and some of their numbers are used up. -/
theorem Numbered.replace {used more : List Nat} {waiting : Frame → List Nat} {s s' : Spi}
    {old new rest : List Frame} (h : Numbered used waiting s) (hs : s.stack = old ++ rest)
    (hs' : s'.stack = new ++ rest) (hn : s'.nextId = s.nextId)
    (hmore : (more ++ new.flatMap waiting).Sublist (old.flatMap waiting)) :
    Numbered (used ++ more) waiting s' := by
  have hsub : (used ++ more ++ s'.stack.flatMap waiting).Sublist
      (used ++ s.stack.flatMap waiting) := by
    rw [hs, hs', List.flatMap_append, List.flatMap_append, List.append_assoc,
      ← List.append_assoc more]
    exact (hmore.append_right _).append_left _
  refine ⟨h.nodup.sublist hsub, fun id hm => ?_⟩
  rw [hn]
  exact h.fresh id (hsub.subset hm)

/-- A new request waits with a new number. -/
theorem Numbered.request {used : List Nat} {waiting : Frame → List Nat} {s s' : Spi} {f : Frame}
    (h : Numbered used waiting s) (hs' : s'.stack = f :: s.stack) (hf : waiting f = [s.nextId])
    (hn : s'.nextId = s.nextId + 1) : Numbered used waiting s' := by
  have hperm : (used ++ s'.stack.flatMap waiting).Perm
      (s.nextId :: (used ++ s.stack.flatMap waiting)) := by
    rw [hs', List.flatMap_cons, hf]
    exact List.perm_middle
  have hnew : s.nextId ∉ used ++ s.stack.flatMap waiting :=
    fun hm => Nat.lt_irrefl _ (h.fresh _ hm)
  refine ⟨hperm.nodup_iff.mpr (List.nodup_cons.mpr ⟨hnew, h.nodup⟩), fun id hm => ?_⟩
  rw [hn]
  rcases List.mem_cons.mp (hperm.mem_iff.mp hm) with rfl | hm
  · exact Nat.lt_succ_self _
  · exact Nat.lt_succ_of_lt (h.fresh id hm)

structure SpiLog (s : Spi) (l : List SpiOut) : Prop where
  started : startedIds l = dma1DoneIds l ++ s.hw.map Transfer.id
  done : dma1DoneIds l = bufferDoneIds l ++ s.stack.flatMap Frame.pending
  accepted : (acceptedIds l ++ s.stack.flatMap Frame.unreturned).Perm (startedIds l)
  numbers : Numbered (startedIds l) Frame.unstarted s

theorem spiLog_init : SpiLog spiInit [] :=
  ⟨rfl, rfl, List.Perm.refl _, ⟨List.nodup_nil, nofun⟩⟩

/-- **Frame rule of the log.**  On top of `rest` the calls `old` become `new` and `outs` is
emitted; it is enough that what `outs` adds to each list makes up for what `new` takes from the
shares of `old`. -/
theorem SpiLog.replace {s s' : Spi} {l outs : List SpiOut} (old new : List Frame)
    {rest : List Frame} (h : SpiLog s l) (hs : s.stack = old ++ rest)
    (hs' : s'.stack = new ++ rest) (hn : s'.nextId = s.nextId)
    (hstarted : s.hw.map Transfer.id ++ startedIds outs =
      dma1DoneIds outs ++ s'.hw.map Transfer.id)
    (hdone : s.stack.flatMap Frame.pending ++ dma1DoneIds outs =
      bufferDoneIds outs ++ s'.stack.flatMap Frame.pending)
    (haccepted : (acceptedIds outs ++ new.flatMap Frame.unreturned).Perm
      (old.flatMap Frame.unreturned ++ startedIds outs))
    (hunstarted : (startedIds outs ++ new.flatMap Frame.unstarted).Sublist
      (old.flatMap Frame.unstarted)) : SpiLog s' (l ++ outs) := by
  have hst : startedIds (l ++ outs) = startedIds l ++ startedIds outs := List.filterMap_append
  have hdn : dma1DoneIds (l ++ outs) = dma1DoneIds l ++ dma1DoneIds outs := List.filterMap_append
  have hbd : bufferDoneIds (l ++ outs) = bufferDoneIds l ++ bufferDoneIds outs :=
    List.filterMap_append
  have hac : acceptedIds (l ++ outs) = acceptedIds l ++ acceptedIds outs := List.filterMap_append
  refine ⟨?_, ?_, ?_, hst ▸ h.numbers.replace hs hs' hn hunstarted⟩
  · rw [hst, hdn, h.started, List.append_assoc, hstarted, List.append_assoc]
  · rw [hdn, hbd, h.done, List.append_assoc, hdone, List.append_assoc]
  · have h3 := h.accepted
    rw [hs, List.flatMap_append] at h3
    rw [hst, hac, hs', List.flatMap_append]
    have hnew : (acceptedIds l ++ acceptedIds outs ++
        (new.flatMap Frame.unreturned ++ rest.flatMap Frame.unreturned)).Perm
        (acceptedIds l ++ (old.flatMap Frame.unreturned ++ startedIds outs ++
          rest.flatMap Frame.unreturned)) := by
      rw [List.append_assoc, ← List.append_assoc (acceptedIds outs)]
      exact (haccepted.append_right _).append_left _
    have hlast : (acceptedIds l ++ (old.flatMap Frame.unreturned ++ startedIds outs ++
        rest.flatMap Frame.unreturned)).Perm
        (acceptedIds l ++ (old.flatMap Frame.unreturned ++ rest.flatMap Frame.unreturned) ++
          startedIds outs) := by
      rw [List.append_assoc, List.append_assoc, List.append_assoc]
      exact (List.perm_append_comm.append_left _).append_left _
    exact hnew.trans (hlast.trans (h3.append_right _))

/-- A statement that emits nothing. -/
theorem SpiLog.quiet {s s' : Spi} {l : List SpiOut} (old new : List Frame) {rest : List Frame}
    (h : SpiLog s l) (hs : s.stack = old ++ rest) (hs' : s'.stack = new ++ rest)
    (hn : s'.nextId = s.nextId) (hw : s'.hw.map Transfer.id = s.hw.map Transfer.id)
    (hp : new.flatMap Frame.pending = old.flatMap Frame.pending)
    (hr : new.flatMap Frame.unreturned = old.flatMap Frame.unreturned)
    (hu : (new.flatMap Frame.unstarted).Sublist (old.flatMap Frame.unstarted)) :
    SpiLog s' (l ++ []) := by
  refine h.replace old new hs hs' hn ?_ ?_ ?_ hu
  · rw [hw]
    exact List.append_nil _
  · rw [hs, hs', List.flatMap_append, List.flatMap_append, hp]
    exact List.append_nil _
  · rw [hr]
    exact (List.append_nil _).symm ▸ List.Perm.refl _

/-- Calls that can be interrupted have nothing to report. -/
theorem pending_of_below {stack : List Frame} (h : ∀ g ∈ stack, g.Below) :
    stack.flatMap Frame.pending = [] := by
  rw [List.flatMap_eq_nil_iff]
  intro f hf
  have hb := h f hf
  cases f with
  | request id pc => rfl
  | dma0 event pc => rfl
  | dma1 id event pc =>
    cases event with
    | overrun => rfl
    | transferDone =>
      cases pc with
      | inDone | ret => rfl
      | _ => cases hb

theorem spiLog_stepRequest (s : Spi) (l : List SpiOut) (rest : List Frame) (id : Nat)
    (pc : RequestPc) (hi : SpiInv s) (h : SpiLog s l)
    (hs : s.stack = .request id pc :: rest) :
    SpiLog (stepRequest s rest id pc).1 (l ++ (stepRequest s rest id pc).2) := by
  have hstack := hi.stack
  rw [hs] at hstack
  have htop := hstack.1
  cases pc with
  | check =>
    simp only [stepRequest]
    split
    · exact h.quiet [_] [_] hs rfl rfl rfl rfl rfl (List.Sublist.refl _)
    · -- refused: the number is given up
      exact h.quiet [_] [_] hs rfl rfl rfl rfl rfl (List.nil_sublist _)
  | dmaCheck =>
    simp only [stepRequest]
    rw [if_pos htop.2.2]
    exact h.quiet [_] [_] hs rfl rfl rfl rfl rfl (List.Sublist.refl _)
  | setBusy | setDmaBusy | clearTxonly =>
    exact h.quiet [_] [_] hs rfl rfl rfl rfl rfl (List.Sublist.refl _)
  | start =>
    -- the number goes from those that may start to those that have not returned
    refine h.replace [_] [_] hs rfl rfl ?_ ?_ (List.Perm.refl [id]) (List.Sublist.refl [id])
    · show s.hw.map Transfer.id ++ [id] = List.map Transfer.id (s.hw ++ [⟨id, false⟩])
      rw [List.map_append]
      rfl
    · rw [hs]
      exact List.append_nil _
  | undo => cases htop
  | ret success =>
    refine h.replace [_] [] hs rfl rfl (List.append_nil _) ?_ ?_ (List.Sublist.refl [])
    · rw [hs]
      exact List.append_nil _
    · cases success <;> exact List.Perm.refl _

theorem spiLog_stepDma0 (s : Spi) (l : List SpiOut) (rest : List Frame) (event : DmaEvent)
    (pc : Dma0Pc) (h : SpiLog s l) (hs : s.stack = .dma0 event pc :: rest) :
    SpiLog (stepDma0 s rest event pc).1 (l ++ (stepDma0 s rest event pc).2) := by
  cases pc with
  | ret => exact h.quiet [_] [] hs rfl rfl rfl rfl rfl (List.Sublist.refl _)
  | _ => exact h.quiet [_] [_] hs rfl rfl rfl rfl rfl (List.Sublist.refl _)

theorem spiLog_stepDma1 (s : Spi) (l : List SpiOut) (rest : List Frame) (id : Nat)
    (event : DmaEvent) (pc : Dma1Pc) (hi : SpiInv s) (h : SpiLog s l)
    (hs : s.stack = .dma1 id event pc :: rest) :
    SpiLog (stepDma1 s rest id event pc).1 (l ++ (stepDma1 s rest id event pc).2) := by
  have hstack := hi.stack
  rw [hs] at hstack
  have htop := hstack.1
  cases event with
  | overrun =>
    cases pc with
    | clearOverrun | testEvent =>
      exact h.quiet [_] [_] hs rfl rfl rfl rfl rfl (List.Sublist.refl _)
    | ret => exact h.quiet [_] [] hs rfl rfl rfl rfl rfl (List.Sublist.refl _)
    | _ => cases htop
  | transferDone =>
    cases pc with
    | callHandler =>
      simp only [stepDma1]
      rw [if_pos hi.handler]
      exact h.quiet [_] [_] hs rfl rfl rfl rfl rfl (List.Sublist.refl _)
    | callDone =>
      refine h.replace [_] [_] hs rfl rfl (List.append_nil _) ?_ (List.Perm.refl [])
        (List.Sublist.refl [])
      rw [hs]
      exact List.append_nil _
    | ret => exact h.quiet [_] [] hs rfl rfl rfl rfl rfl (List.Sublist.refl _)
    | _ => exact h.quiet [_] [_] hs rfl rfl rfl rfl rfl (List.Sublist.refl _)

theorem spiLog_request (s : Spi) (l : List SpiOut) (h : SpiLog s l) :
    SpiLog (spiStep s .request).1 (l ++ (spiStep s .request).2) := by
  simp only [spiStep]
  rw [apply_ite Prod.fst, apply_ite Prod.snd, ite_self, List.append_nil]
  split
  · exact ⟨h.started, h.done, h.accepted, h.numbers.request rfl rfl rfl⟩
  · exact h

theorem spiLog_dma0 (s : Spi) (l : List SpiOut) (i : Nat) (event : DmaEvent) (hi : SpiInv s)
    (h : SpiLog s l) : SpiLog (spiStep s (.dma0 i event)).1 (l ++ (spiStep s (.dma0 i event)).2) := by
  simp only [spiStep]
  cases ht : s.hw[i]? with
  | none => rw [List.append_nil]; exact h
  | some t =>
    obtain ⟨rfl, hw, -⟩ := hi.inFlight ht
    simp only
    split
    · split
      · rw [List.append_nil]; exact h
      · refine h.quiet [] [_] rfl rfl rfl ?_ rfl rfl (List.Sublist.refl _)
        show (s.hw.set 0 { t with txDone := true }).map Transfer.id = s.hw.map Transfer.id
        rw [hw]
        rfl
    · exact h.quiet [] [_] rfl rfl rfl rfl rfl rfl (List.Sublist.refl _)

theorem spiLog_dma1 (s : Spi) (l : List SpiOut) (i : Nat) (event : DmaEvent) (regs : SpiRegs)
    (hi : SpiInv s) (h : SpiLog s l) :
    SpiLog (spiStep s (.dma1 i event regs)).1 (l ++ (spiStep s (.dma1 i event regs)).2) := by
  simp only [spiStep]
  cases ht : s.hw[i]? with
  | none => rw [List.append_nil]; exact h
  | some t =>
    obtain ⟨rfl, hw, hbelow, -⟩ := hi.inFlight ht
    cases event with
    | transferDone =>
      simp only [if_true]
      split
      · refine h.replace [] [_] rfl rfl rfl ?_ ?_ (List.Perm.refl []) (List.Sublist.refl [])
        · show s.hw.map Transfer.id ++ [] = [t.id] ++ (s.hw.eraseIdx 0).map Transfer.id
          rw [hw]
          rfl
        · -- nothing below has a report to make
          show s.stack.flatMap Frame.pending ++ [t.id] =
            [] ++ ([t.id] ++ s.stack.flatMap Frame.pending)
          rw [pending_of_below hbelow]
          rfl
      · rw [List.append_nil]; exact h
    | overrun => exact h.quiet [] [_] rfl rfl rfl rfl rfl rfl (List.Sublist.refl _)

/-- What one event adds to the log. -/
theorem spiLog_step (s : Spi) (l : List SpiOut) (e : SpiEvent) (hi : SpiInv s) (h : SpiLog s l) :
    SpiLog (spiStep s e).1 (l ++ (spiStep s e).2) := by
  cases e with
  | request => exact spiLog_request s l h
  | dma0 i event => exact spiLog_dma0 s l i event hi h
  | dma1 i event regs => exact spiLog_dma1 s l i event regs hi h
  | step =>
    simp only [spiStep]
    cases hs : s.stack with
    | nil => rw [List.append_nil]; exact h
    | cons f rest =>
      cases f with
      | request id pc => exact spiLog_stepRequest s l rest id pc hi h hs
      | dma0 event pc => exact spiLog_stepDma0 s l rest event pc h hs
      | dma1 id event pc => exact spiLog_stepDma1 s l rest id event pc hi h hs

theorem spi_run (es : List SpiEvent) :
    SpiInv (exec spiStep spiInit es) ∧
      SpiLog (exec spiStep spiInit es) (emits spiStep spiInit es) := by
  have h := exec_emits_inv spiStep (fun s l => SpiInv s ∧ SpiLog s l)
    (fun s l e hj => ⟨spiInv_step s e hj.1, spiLog_step s l e hj.1 hj.2⟩) es spiInit []
    ⟨spiInv_init, spiLog_init⟩
  exact h

/-! ## Acceptance -/

/-- A request tests whether it can start: its number, and whether the hardware is free then. -/
def looked (s : Spi) : SpiEvent → Option (Nat × Bool)
  | .step =>
    match s.stack with
    | .request id .check :: _ => some (id, s.hw.isEmpty)
    | _ => none
  | _ => none

/-- The run as `spiStep` has it, emitting the tests. -/
def lookStep (s : Spi) (e : SpiEvent) : Spi × List (Nat × Bool) :=
  ((spiStep s e).1, (looked s e).toList)

/-- The requests that tested, with what the hardware was. -/
def lookedIds (es : List SpiEvent) : List (Nat × Bool) := emits lookStep spiInit es

theorem exec_lookStep (s : Spi) (es : List SpiEvent) :
    exec lookStep s es = exec spiStep s es := by
  induction es generalizing s with
  | nil => rfl
  | cons e es ih => exact ih _

/-- What a request past its test will return. -/
def Frame.verdict : Frame → Option (Nat × Bool)
  | .request _ .check => none
  | .request id .undo => some (id, false)
  | .request id (.ret success) => some (id, success)
  | .request id _ => some (id, true)
  | _ => none

/-- A request that has not tested yet. -/
def Frame.untested : Frame → List Nat
  | .request id .check => [id]
  | _ => []

/-- Every request past its test returns what the hardware was, and none tests twice. -/
structure SpiLooks (s : Spi) (l : List SpiOut) (k : List (Nat × Bool)) : Prop where
  returned : ∀ id success, .returned id success ∈ l → (id, success) ∈ k
  active : ∀ f ∈ s.stack, ∀ v, f.verdict = some v → v ∈ k
  numbers : Numbered (k.map Prod.fst) Frame.untested s

theorem spiLooks_init : SpiLooks spiInit [] [] :=
  ⟨nofun, nofun, ⟨List.nodup_nil, nofun⟩⟩

theorem returned_nil (id : Nat) (success : Bool) : .returned id success ∉ ([] : List SpiOut) :=
  List.not_mem_nil

/-- On top of `rest` the calls `old` become `new`. -/
theorem SpiLooks.replace {s s' : Spi} {l outs : List SpiOut} {k tests : List (Nat × Bool)}
    (old new : List Frame) {rest : List Frame} (h : SpiLooks s l k) (hs : s.stack = old ++ rest)
    (hs' : s'.stack = new ++ rest) (hn : s'.nextId = s.nextId)
    (hreturned : ∀ id success, .returned id success ∈ outs → (id, success) ∈ k)
    (hactive : ∀ f ∈ new, ∀ v, f.verdict = some v → v ∈ k ++ tests)
    (huntested : (tests.map Prod.fst ++ new.flatMap Frame.untested).Sublist
      (old.flatMap Frame.untested)) : SpiLooks s' (l ++ outs) (k ++ tests) := by
  have hnumbers : Numbered ((k ++ tests).map Prod.fst) Frame.untested s' := by
    rw [List.map_append]
    exact h.numbers.replace hs hs' hn huntested
  refine ⟨fun id success hm => ?_, fun f hf v hv => ?_, hnumbers⟩
  · rcases List.mem_append.mp hm with hm | hm
    · exact List.mem_append_left _ (h.returned id success hm)
    · exact List.mem_append_left _ (hreturned id success hm)
  · rw [hs'] at hf
    rcases List.mem_append.mp hf with hf | hf
    · exact hactive f hf v hv
    · exact List.mem_append_left _ (h.active f (hs ▸ List.mem_append_right _ hf) v hv)

/-- One call goes on to its next statement. -/
theorem SpiLooks.next {s s' : Spi} {l outs : List SpiOut} {k tests : List (Nat × Bool)}
    {f f' : Frame} {rest : List Frame} (h : SpiLooks s l k) (hs : s.stack = f :: rest)
    (hs' : s'.stack = f' :: rest) (hn : s'.nextId = s.nextId)
    (houts : ∀ id success, .returned id success ∉ outs)
    (hverdict : ∀ v, f'.verdict = some v → v ∈ k ++ tests)
    (htests : (tests.map Prod.fst ++ f'.untested).Sublist f.untested) :
    SpiLooks s' (l ++ outs) (k ++ tests) := by
  refine h.replace [f] [f'] hs hs' hn (fun id success hm => absurd hm (houts id success))
    (fun g hg v hv => ?_) ?_
  · rw [List.mem_singleton.mp hg] at hv
    exact hverdict v hv
  · rw [List.flatMap_singleton, List.flatMap_singleton]
    exact htests

/-- A statement that tests nothing, of calls that are not requests. -/
theorem SpiLooks.quiet {s s' : Spi} {l outs : List SpiOut} {k : List (Nat × Bool)}
    (old new : List Frame) {rest : List Frame} (h : SpiLooks s l k) (hs : s.stack = old ++ rest)
    (hs' : s'.stack = new ++ rest) (hn : s'.nextId = s.nextId)
    (houts : ∀ id success, .returned id success ∉ outs)
    (hnew : ∀ f ∈ new, f.verdict = none ∧ f.untested = []) : SpiLooks s' (l ++ outs) (k ++ []) := by
  refine h.replace old new hs hs' hn (fun id success hm => absurd hm (houts id success))
    (fun f hf v hv => ?_) ?_
  · rw [(hnew f hf).1] at hv
    cases hv
  · have hnil : new.flatMap Frame.untested = [] :=
      List.flatMap_eq_nil_iff.mpr fun f hf => (hnew f hf).2
    rw [hnil]
    exact List.nil_sublist _

/-- The flags agree at the test, so the hardware is free if and only if the stub is. -/
theorem Agree.free_iff {s : Spi} (h : Agree s) : s.hw.isEmpty = true ↔ s.stub.busy = 0 := by
  rcases h with ⟨hw, hb, -⟩ | ⟨⟨t, hw⟩, hb, -⟩
  · rw [hw]
    exact iff_of_true rfl hb
  · rw [hw]
    exact iff_of_false Bool.false_ne_true hb

/-- Only a request at its first statement tests. -/
theorem looked_past {s : Spi} {f : Frame} {rest : List Frame} (hs : s.stack = f :: rest)
    (hf : f.untested = []) : (looked s .step).toList = [] := by
  simp only [looked, hs]
  split
  · next hstack =>
    cases hstack
    cases hf
  · rfl

theorem spiLooks_stepRequest (s : Spi) (l : List SpiOut) (k : List (Nat × Bool))
    (rest : List Frame) (id : Nat) (pc : RequestPc) (hi : SpiInv s) (h : SpiLooks s l k)
    (hs : s.stack = .request id pc :: rest) :
    SpiLooks (stepRequest s rest id pc).1 (l ++ (stepRequest s rest id pc).2)
      (k ++ (looked s .step).toList) := by
  have hstack := hi.stack
  rw [hs] at hstack
  have htop := hstack.1
  -- the verdict of a request past its test stands
  have hstands : ∀ v, (Frame.request id pc).verdict = some v → v ∈ k := h.active _
    (hs ▸ List.mem_cons_self)
  cases pc with
  | check =>
    have hfree : s.hw.isEmpty = true ↔ s.stub.busy = 0 := Agree.free_iff htop
    have hlook : (looked s .step).toList = [(id, s.hw.isEmpty)] := by
      simp only [looked, hs, Option.toList_some]
    rw [hlook]
    simp only [stepRequest]
    split
    · next hc =>
      rw [hfree.mpr hc.2]
      exact h.next hs rfl rfl returned_nil
        (fun v hv => List.mem_append_right _ (by cases hv; exact List.mem_cons_self))
        (List.Sublist.refl [id])
    · next hc =>
      have hbusy : s.hw.isEmpty = false :=
        Bool.eq_false_iff.mpr fun he => hc ⟨hi.opened, hfree.mp he⟩
      rw [hbusy]
      exact h.next hs rfl rfl returned_nil
        (fun v hv => List.mem_append_right _ (by cases hv; exact List.mem_cons_self))
        (List.Sublist.refl [id])
  | dmaCheck =>
    rw [looked_past hs rfl]
    simp only [stepRequest]
    rw [if_pos htop.2.2]
    exact h.next hs rfl rfl returned_nil (fun v hv => List.mem_append_left _ (hstands v hv))
      (List.Sublist.refl [])
  | setBusy | setDmaBusy | clearTxonly =>
    rw [looked_past hs rfl]
    exact h.next hs rfl rfl returned_nil (fun v hv => List.mem_append_left _ (hstands v hv))
      (List.Sublist.refl [])
  | start =>
    rw [looked_past hs rfl]
    exact h.next hs rfl rfl (by simp [stepRequest])
      (fun v hv => List.mem_append_left _ (hstands v hv)) (List.Sublist.refl [])
  | undo => cases htop
  | ret success =>
    rw [looked_past hs rfl]
    refine h.replace [_] [] hs rfl rfl (fun j success' hj => ?_)
      (fun f hf => absurd hf List.not_mem_nil) (List.Sublist.refl [])
    cases List.mem_singleton.mp hj
    exact hstands _ rfl

theorem spiLooks_stepDma0 (s : Spi) (l : List SpiOut) (k : List (Nat × Bool)) (rest : List Frame)
    (event : DmaEvent) (pc : Dma0Pc) (h : SpiLooks s l k) (hs : s.stack = .dma0 event pc :: rest) :
    SpiLooks (stepDma0 s rest event pc).1 (l ++ (stepDma0 s rest event pc).2)
      (k ++ (looked s .step).toList) := by
  rw [looked_past hs rfl]
  cases pc with
  | ret => exact h.quiet [_] [] hs rfl rfl returned_nil fun f hf => absurd hf List.not_mem_nil
  | _ => exact h.quiet [_] [_] hs rfl rfl returned_nil (by simp [Frame.verdict, Frame.untested])

theorem spiLooks_stepDma1 (s : Spi) (l : List SpiOut) (k : List (Nat × Bool)) (rest : List Frame)
    (id : Nat) (event : DmaEvent) (pc : Dma1Pc) (h : SpiLooks s l k)
    (hs : s.stack = .dma1 id event pc :: rest) :
    SpiLooks (stepDma1 s rest id event pc).1 (l ++ (stepDma1 s rest id event pc).2)
      (k ++ (looked s .step).toList) := by
  rw [looked_past hs rfl]
  cases pc with
  | ret => exact h.quiet [_] [] hs rfl rfl returned_nil fun f hf => absurd hf List.not_mem_nil
  | callDone =>
    exact h.quiet [_] [_] hs rfl rfl (by simp [stepDma1]) (by simp [Frame.verdict, Frame.untested])
  | _ => exact h.quiet [_] [_] hs rfl rfl returned_nil (by simp [Frame.verdict, Frame.untested])

theorem spiLooks_request (s : Spi) (l : List SpiOut) (k : List (Nat × Bool))
    (h : SpiLooks s l k) : SpiLooks (spiStep s .request).1 (l ++ (spiStep s .request).2) k := by
  simp only [spiStep]
  rw [apply_ite Prod.fst, apply_ite Prod.snd, ite_self, List.append_nil]
  split
  · refine ⟨h.returned, fun f hf v hv => ?_, h.numbers.request rfl rfl rfl⟩
    rcases List.mem_cons.mp hf with rfl | hf
    · cases hv
    · exact h.active f hf v hv
  · exact h

/-- An interrupt comes on top, or not at all. -/
theorem spiStep_interrupt (s : Spi) (e : SpiEvent) (he : (∃ i event, e = .dma0 i event) ∨
    ∃ i event regs, e = .dma1 i event regs) :
    spiStep s e = (s, []) ∨ ∃ f : Frame, (f.verdict = none ∧ f.untested = []) ∧
      (spiStep s e).1.stack = f :: s.stack ∧ (spiStep s e).1.nextId = s.nextId ∧
      ∀ id success, .returned id success ∉ (spiStep s e).2 := by
  rcases he with ⟨i, event, rfl⟩ | ⟨i, event, regs, rfl⟩
  · simp only [spiStep]
    cases s.hw[i]? with
    | none => exact .inl rfl
    | some t =>
      simp only
      split
      · split
        · exact .inl rfl
        · exact .inr ⟨_, ⟨rfl, rfl⟩, rfl, rfl, returned_nil⟩
      · exact .inr ⟨_, ⟨rfl, rfl⟩, rfl, rfl, returned_nil⟩
  · simp only [spiStep]
    cases s.hw[i]? with
    | none => exact .inl rfl
    | some t =>
      simp only
      split
      · split
        · exact .inr ⟨_, ⟨rfl, rfl⟩, rfl, rfl, by simp⟩
        · exact .inl rfl
      · exact .inr ⟨_, ⟨rfl, rfl⟩, rfl, rfl, returned_nil⟩

theorem spiLooks_interrupt (s : Spi) (l : List SpiOut) (k : List (Nat × Bool)) (e : SpiEvent)
    (he : (∃ i event, e = .dma0 i event) ∨ ∃ i event regs, e = .dma1 i event regs)
    (h : SpiLooks s l k) : SpiLooks (spiStep s e).1 (l ++ (spiStep s e).2) (k ++ []) := by
  rcases spiStep_interrupt s e he with hs | ⟨f, hf, hstack, hn, houts⟩
  · rw [hs, List.append_nil, List.append_nil]
    exact h
  · refine h.quiet [] [f] rfl hstack hn houts fun g hg => ?_
    cases List.mem_singleton.mp hg
    exact hf

theorem spiLooks_step (s : Spi) (l : List SpiOut) (k : List (Nat × Bool)) (e : SpiEvent)
    (hi : SpiInv s) (h : SpiLooks s l k) :
    SpiLooks (spiStep s e).1 (l ++ (spiStep s e).2) (k ++ (looked s e).toList) := by
  cases e with
  | request =>
    rw [show (looked s .request).toList = [] from rfl, List.append_nil]
    exact spiLooks_request s l k h
  | dma0 i event => exact spiLooks_interrupt s l k _ (.inl ⟨i, event, rfl⟩) h
  | dma1 i event regs => exact spiLooks_interrupt s l k _ (.inr ⟨i, event, regs, rfl⟩) h
  | step =>
    simp only [spiStep]
    cases hs : s.stack with
    | nil =>
      rw [show (looked s .step).toList = [] by simp only [looked, hs, Option.toList_none],
        List.append_nil, List.append_nil]
      exact h
    | cons f rest =>
      cases f with
      | request id pc => exact spiLooks_stepRequest s l k rest id pc hi h hs
      | dma0 event pc => exact spiLooks_stepDma0 s l k rest event pc h hs
      | dma1 id event pc => exact spiLooks_stepDma1 s l k rest id event pc h hs

theorem spiLooks_run (es : List SpiEvent) :
    SpiLooks (exec spiStep spiInit es) (emits spiStep spiInit es) (lookedIds es) := by
  have h := history_inv spiStep (fun _ _ => True)
    (fun js l s => SpiInv s ∧ s = exec spiStep spiInit js ∧ SpiLooks s l (lookedIds js))
    (fun js l s e hj _ => ?_) es [] [] spiInit ⟨spiInv_init, rfl, spiLooks_init⟩
    (along_true spiStep spiInit es)
  · exact h.2.2
  · obtain ⟨hi, hs, hl⟩ := hj
    refine ⟨spiInv_step s e hi, ?_, ?_⟩
    · rw [exec_append, ← hs]
      rfl
    · have hlook : lookedIds (js ++ [e]) = lookedIds js ++ (looked s e).toList := by
        unfold lookedIds
        rw [emits_append, exec_lookStep, ← hs, emits_cons, emits_nil, List.append_nil]
        rfl
      rw [hlook]
      exact spiLooks_step s l (lookedIds js) e hi hl

/-! ## Exclusion and completion -/

theorem StackOk.length_le {s : Spi} {stack : List Frame} (h : StackOk s stack) :
    s.hw.length ≤ 1 := by
  by_cases hw : s.hw = []
  · rw [hw]; exact Nat.zero_le 1
  · exact (h.below hw).2.length_le

/-- **Exclusion and completion.**  In every run: at most one transaction is in flight; a request
returns true if and only if none was when it tested, which it does once; no transaction is started
twice, the ones started are those done, in order, and the one in flight; each DMA1 DONE is reported
once, in order, at the latest when its callback ends; the requests that returned true are those
started.  When nothing is active the two busy flags agree. -/
theorem spi_exclusive (es : List SpiEvent) :
    let s := exec spiStep spiInit es
    let l := emits spiStep spiInit es
    s.hw.length ≤ 1 ∧
      ((lookedIds es).map Prod.fst).Nodup ∧
      (∀ id success, .returned id success ∈ l → (id, success) ∈ lookedIds es) ∧
      (startedIds l).Nodup ∧
      startedIds l = dma1DoneIds l ++ s.hw.map Transfer.id ∧
      dma1DoneIds l = bufferDoneIds l ++ s.stack.flatMap Frame.pending ∧
      (acceptedIds l ++ s.stack.flatMap Frame.unreturned).Perm (startedIds l) ∧
      (s.stack = [] → (s.stub.busy = 0 ↔ s.dma.busy = 0)) := by
  intro s l
  obtain ⟨hi, hl⟩ := spi_run es
  have hk := spiLooks_run es
  refine ⟨hi.stack.length_le, (List.nodup_append.mp hk.numbers.nodup).1, hk.returned,
    (List.nodup_append.mp hl.numbers.nodup).1, hl.started, hl.done, hl.accepted, fun hs => ?_⟩
  have hstack : StackOk s s.stack := hi.stack
  rw [hs] at hstack
  rcases hstack with ⟨-, hb, hd⟩ | ⟨-, hb, hd⟩
  · exact iff_of_true hb hd
  · exact iff_of_false hb hd

end CuriosityT1S
