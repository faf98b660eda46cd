import CuriosityT1S.WakeUp

/-!
# The interrupt of the INT pin (pins.c)

`_CNAInterrupt` runs statement by statement between the steps of the main loop.  The PHY holds the
pin low until it has been served.  The flag of the pin is cleared after the handler has been
called, so that an edge may be cleared unseen, and `TC6Stub_ReleaseInt` reads the pin before it
acknowledges the sample.

    intLine_refines_wake:  every run is one of the service, with edges for interrupts
    IntLineInv:            a low pin is about to be counted, or it has been and is not acknowledged
    Deaf:                  as many edges as the 8-bit counters cannot tell from none
    low_pin_served:        the next pass serves a low pin, except for a multiple of 256 edges; then
                           nobody does as long as the pin is low
-/

namespace CuriosityT1S

open Mealy

/-! ## The pin and its interrupt -/

/-- The next statement of `_CNAInterrupt`. -/
inductive CnaPc
  | testFlag | callHandler | clearFlag | clearIf
deriving DecidableEq, Repr

/-- `cnfa2` and `cnaif` are the flags of the hardware, `level` is what `TC6Stub_ReleaseInt` has
read of the pin. -/
structure IntLine where
  wake : Wake
  pin : Bool
  cnfa2 : Bool
  cnaif : Bool
  isr : Option CnaPc
  level : Option Bool
deriving DecidableEq, Repr

/-- The handler is registered, and the PHY is in reset. -/
def IntLine.start : IntLine := ⟨wakeInit, true, false, false, none, none⟩

/-- `main` is a step of the main loop, with what it is told there. -/
inductive LineEvent
  | fall
  | rise
  | needService
  | isr
  | main (answer : Bool)
deriving DecidableEq, Repr

def cnaInterruptStep (s : IntLine) : IntLine :=
  match s.isr with
  | none => if s.cnaif then { s with isr := some .testFlag } else s
  | some .testFlag => { s with isr := some (if s.cnfa2 then .callHandler else .clearIf) }
  | some .callHandler => { s with wake := (wakeStep s.wake .edge).1, isr := some .clearFlag }
  | some .clearFlag => { s with cnfa2 := false, isr := some .clearIf }
  | some .clearIf => { s with cnaif := false, isr := none }

/-- A step of the main loop; `TC6Stub_ReleaseInt` takes two. -/
def mainLineStep (s : IntLine) (answer : Bool) : IntLine × List WakeOut :=
  if s.wake.pc = .release then
    match s.level with
    | none => ({ s with level := some s.pin }, [])
    | some level =>
      let (wake, outs) := wakeStep s.wake (.step level)
      ({ s with wake := wake, level := none }, outs)
  else
    let (wake, outs) := wakeStep s.wake (.step answer)
    ({ s with wake := wake }, outs)

/-- A falling edge sets both flags, also while the interrupt runs. -/
def intLineStep (s : IntLine) : LineEvent → IntLine × List WakeOut
  | .fall =>
    if s.pin then ({ s with pin := false, cnfa2 := true, cnaif := true }, []) else (s, [])
  | .rise => ({ s with pin := true }, [])
  | .needService => ({ s with wake := (wakeStep s.wake .needService).1 }, [])
  | .isr => (cnaInterruptStep s, [])
  | .main answer => if s.isr = none then mainLineStep s answer else (s, [])

/-! ## As steps of the service -/

/-- Where the handler is called there is an edge; otherwise the interrupt does nothing that the
service sees. -/
def IntLine.wakeEvents (s : IntLine) : LineEvent → List WakeEvent
  | .fall | .rise => []
  | .needService => [.needService]
  | .isr => if s.isr = some .callHandler then [.edge] else []
  | .main answer =>
    if s.isr = none then
      if s.wake.pc = .release then s.level.toList.map .step else [.step answer]
    else []

theorem intLineStep_wake (s : IntLine) (e : LineEvent) :
    exec wakeStep s.wake (s.wakeEvents e) = (intLineStep s e).1.wake ∧
      emits wakeStep s.wake (s.wakeEvents e) = (intLineStep s e).2 := by
  cases e with
  | fall =>
    simp only [IntLine.wakeEvents, intLineStep]
    split <;> exact ⟨rfl, rfl⟩
  | rise | needService => exact ⟨rfl, rfl⟩
  | isr =>
    simp only [IntLine.wakeEvents, intLineStep, cnaInterruptStep]
    cases s.isr with
    | none =>
      simp only [reduceCtorEq, if_false]
      split <;> exact ⟨rfl, rfl⟩
    | some pc => cases pc <;> exact ⟨rfl, rfl⟩
  | main answer =>
    simp only [IntLine.wakeEvents, intLineStep]
    by_cases hisr : s.isr = none
    · simp only [if_pos hisr, mainLineStep]
      by_cases hpc : s.wake.pc = .release
      · simp only [if_pos hpc]
        cases s.level with
        | none => exact ⟨rfl, rfl⟩
        | some level => exact ⟨rfl, List.append_nil _⟩
      · simp only [if_neg hpc]
        exact ⟨rfl, List.append_nil _⟩
    · simp only [if_neg hisr]
      exact ⟨rfl, rfl⟩

/-- What the service does with the interrupt in statements, it does with one that is an edge. -/
theorem intLine_refines_wake (es : List LineEvent) :
    ∀ s : IntLine, ∃ ws, exec wakeStep s.wake ws = (exec intLineStep s es).wake ∧
      emits wakeStep s.wake ws = emits intLineStep s es := by
  induction es with
  | nil => exact fun _ => ⟨[], rfl, rfl⟩
  | cons e es ih =>
    intro s
    obtain ⟨hexec, hemits⟩ := intLineStep_wake s e
    obtain ⟨ws, hexecs, hemitss⟩ := ih (intLineStep s e).1
    refine ⟨s.wakeEvents e ++ ws, ?_, ?_⟩
    · rw [exec_append, hexec, hexecs]
      rfl
    · rw [emits_append, hexec, hemits, hemitss]
      rfl

/-! ## What a step of the main loop does to the counters -/

/-- The 8-bit counters are the true ones, however many edges there are. -/
structure WakeCounts (w : Wake) : Prop where
  intIn : w.stub.intIn = UInt8.ofNat w.edges
  intReported : w.stub.intReported = UInt8.ofNat w.sampled
  intOut : w.stub.intOut = UInt8.ofNat w.acked
  acked_le : w.acked ≤ w.sampled
  sampled_le : w.sampled ≤ w.edges

theorem wakeCounts_edge (w : Wake) (h : WakeCounts w) : WakeCounts (wakeStep w .edge).1 := by
  obtain ⟨h1, h2, h3, h4, h5⟩ := h
  refine ⟨?_, h2, h3, h4, Nat.le_succ_of_le h5⟩
  show w.stub.intIn + 1 = UInt8.ofNat (w.edges + 1)
  rw [h1, UInt8.ofNat_add]
  rfl

/-- A step of the main loop takes a sample, acknowledges one, or leaves the counters alone. -/
theorem wakeStep_step_cases (w : Wake) (answer : Bool) :
    (w.pc = .idle ∧ (wakeStep w (.step answer)).1.stub = (tc6StubIntActive w.stub).1 ∧
        (wakeStep w (.step answer)).1.sampled = w.edges ∧
        (wakeStep w (.step answer)).1.acked = w.acked) ∨
      (w.pc = .release ∧ answer = true ∧
        (wakeStep w (.step answer)).1.stub = tc6StubReleaseInt w.stub true ∧
        (wakeStep w (.step answer)).1.sampled = w.sampled ∧
        (wakeStep w (.step answer)).1.acked = w.sampled) ∨
      ((wakeStep w (.step answer)).1.stub = w.stub ∧
        (wakeStep w (.step answer)).1.sampled = w.sampled ∧
        (wakeStep w (.step answer)).1.acked = w.acked) := by
  simp only [wakeStep]
  cases hpc : w.pc with
  | idle => exact .inl ⟨rfl, rfl, rfl, rfl⟩
  | release =>
    cases answer with
    | true => exact .inr (.inl ⟨rfl, rfl, rfl, rfl, rfl⟩)
    | false => exact .inr (.inr ⟨rfl, rfl, rfl⟩)
  | initLoop | inActive | checkNeed => right; right; simp only; split <;> exact ⟨rfl, rfl, rfl⟩
  | inInitService | callActive | clearNeed | callNeed | inNeed => exact .inr (.inr ⟨rfl, rfl, rfl⟩)

/-- The main loop does not count. -/
theorem wakeStep_step_edges (w : Wake) (answer : Bool) :
    (wakeStep w (.step answer)).1.edges = w.edges := by
  simp only [wakeStep]
  cases w.pc with
  | initLoop | inActive | checkNeed => simp only; split <;> rfl
  | _ => rfl

theorem wakeCounts_step (w : Wake) (answer : Bool) (h : WakeCounts w) :
    WakeCounts (wakeStep w (.step answer)).1 := by
  obtain ⟨h1, h2, h3, h4, h5⟩ := h
  have hedges := wakeStep_step_edges w answer
  rcases wakeStep_step_cases w answer with ⟨-, hstub, hsampled, hacked⟩ |
    ⟨-, -, hstub, hsampled, hacked⟩ | ⟨hstub, hsampled, hacked⟩
  · refine ⟨?_, ?_, ?_, ?_, ?_⟩
    · rw [hstub, hedges]; exact h1
    · rw [hstub, hsampled]; exact h1
    · rw [hstub, hacked]; exact h3
    · rw [hacked, hsampled]; exact Nat.le_trans h4 h5
    · exact Nat.le_of_eq (hsampled.trans hedges.symm)
  · refine ⟨?_, ?_, ?_, ?_, ?_⟩
    · rw [hstub, hedges]; exact h1
    · rw [hstub, hsampled]; exact h2
    · rw [hstub, hacked]; exact h2
    · exact Nat.le_of_eq (hacked.trans hsampled.symm)
    · rw [hsampled, hedges]; exact h5
  · refine ⟨?_, ?_, ?_, ?_, ?_⟩
    · rw [hstub, hedges]; exact h1
    · rw [hstub, hsampled]; exact h2
    · rw [hstub, hacked]; exact h3
    · rw [hacked, hsampled]; exact h4
    · rw [hsampled, hedges]; exact h5

/-- `TC6Stub_IntActive` is false exactly if the edges since the last acknowledged sample are a
multiple of 256. -/
theorem intActive_iff_dvd (w : Wake) (h : WakeCounts w) :
    (tc6StubIntActive w.stub).2 = false ↔ 256 ∣ w.edges - w.acked := by
  have hle : w.acked ≤ w.edges := Nat.le_trans h.acked_le h.sampled_le
  unfold tc6StubIntActive
  rw [bne_eq_false_iff_eq]
  show w.stub.intIn = w.stub.intOut ↔ 256 ∣ w.edges - w.acked
  rw [h.intIn, h.intOut, ← UInt8.toNat_inj, UInt8.toNat_ofNat', UInt8.toNat_ofNat']
  omega

/-! ## A low pin -/

/-- An interrupt that has still to call the handler. -/
def IntLine.Raised (s : IntLine) : Prop :=
  match s.isr with
  | none => s.cnaif = true
  | some .testFlag | some .callHandler => True
  | some .clearFlag | some .clearIf => False

structure IntLineInv (s : IntLine) : Prop where
  counts : WakeCounts s.wake
  flag : s.isr = none ∧ s.cnaif = true ∨ s.isr = some .testFlag → s.cnfa2 = true
  -- the main loop does not run meanwhile, so that the edge just counted is in no sample
  fresh : s.isr = some .clearFlag ∨ s.isr = some .clearIf → s.wake.sampled < s.wake.edges
  low : s.pin = false → s.Raised ∨ s.wake.acked < s.wake.edges
  level : s.level ≠ none → s.wake.pc = .release
  -- the pin was high when it was read
  read : s.level = some true → s.pin = false → s.Raised ∨ s.wake.sampled < s.wake.edges

theorem intLineInv_start : IntLineInv .start :=
  ⟨⟨rfl, rfl, rfl, Nat.le_refl 0, Nat.le_refl 0⟩, nofun, nofun, nofun, nofun, nofun⟩

theorem intLineInv_cna (s : IntLine) (h : IntLineInv s) : IntLineInv (cnaInterruptStep s) := by
  have hacked := h.counts.acked_le
  have hsampled := h.counts.sampled_le
  unfold cnaInterruptStep
  cases hisr : s.isr with
  | none =>
    simp only
    split
    · rename_i hif
      exact ⟨h.counts, fun _ => h.flag (.inl ⟨hisr, hif⟩), nofun, fun _ => .inl trivial, h.level,
        fun _ _ => .inl trivial⟩
    · exact h
  | some pc =>
    cases pc with
    | testFlag =>
      simp only
      rw [if_pos (h.flag (.inr hisr))]
      exact ⟨h.counts, nofun, nofun, fun _ => .inl trivial, h.level, fun _ _ => .inl trivial⟩
    | callHandler =>
      have hfresh : s.wake.sampled < s.wake.edges + 1 := Nat.lt_succ_of_le hsampled
      exact ⟨wakeCounts_edge s.wake h.counts, nofun, fun _ => hfresh,
        fun _ => .inr (Nat.lt_of_le_of_lt hacked hfresh), h.level, fun _ _ => .inr hfresh⟩
    | clearFlag =>
      have hfresh := h.fresh (.inl hisr)
      exact ⟨h.counts, nofun, fun _ => hfresh, fun _ => .inr (Nat.lt_of_le_of_lt hacked hfresh),
        h.level, fun _ _ => .inr hfresh⟩
    | clearIf =>
      -- an edge that the flag is cleared of here came after the one just counted
      have hfresh := h.fresh (.inr hisr)
      exact ⟨h.counts, nofun, nofun, fun _ => .inr (Nat.lt_of_le_of_lt hacked hfresh),
        h.level, fun _ _ => .inr hfresh⟩

theorem intLineInv_main (s : IntLine) (answer : Bool) (hisr : s.isr = none) (h : IntLineInv s) :
    IntLineInv (mainLineStep s answer).1 := by
  have hlate : ¬ (s.isr = some .clearFlag ∨ s.isr = some .clearIf) := by
    rw [hisr]
    exact nofun
  unfold mainLineStep
  split
  · rename_i hpc
    cases hlevel : s.level with
    | none =>
      exact ⟨h.counts, h.flag, h.fresh, h.low, fun _ => hpc,
        fun hhigh hlow => absurd (hlow.symm.trans (Option.some.inj hhigh)) nofun⟩
    | some level =>
      refine ⟨wakeCounts_step s.wake level h.counts, h.flag, fun hl => absurd hl hlate, ?_, nofun,
        nofun⟩
      intro hlow
      show s.Raised ∨ (wakeStep s.wake (.step level)).1.acked <
        (wakeStep s.wake (.step level)).1.edges
      rw [wakeStep_step_edges]
      rcases wakeStep_step_cases s.wake level with ⟨hidle, -⟩ | ⟨-, rfl, -, -, hacked⟩ |
        ⟨-, -, hacked⟩
      · rw [hpc] at hidle
        cases hidle
      · rw [hacked]
        exact h.read hlevel hlow
      · rw [hacked]
        exact h.low hlow
  · rename_i hpc
    have hnone : s.level = none := not_ne_iff.mp (mt h.level hpc)
    refine ⟨wakeCounts_step s.wake answer h.counts, h.flag, fun hl => absurd hl hlate, ?_,
      fun hl => absurd hnone hl, fun hl => absurd (hnone.symm.trans hl) nofun⟩
    intro hlow
    show s.Raised ∨ (wakeStep s.wake (.step answer)).1.acked <
      (wakeStep s.wake (.step answer)).1.edges
    rw [wakeStep_step_edges]
    rcases wakeStep_step_cases s.wake answer with ⟨-, -, -, hacked⟩ | ⟨hrelease, -⟩ | ⟨-, -, hacked⟩
    · rw [hacked]
      exact h.low hlow
    · exact absurd hrelease hpc
    · rw [hacked]
      exact h.low hlow

/-- What one step preserves. -/
theorem intLineInv_step (s : IntLine) (e : LineEvent) (h : IntLineInv s) :
    IntLineInv (intLineStep s e).1 := by
  cases e with
  | fall =>
    simp only [intLineStep]
    split
    · have hacked := h.counts.acked_le
      -- an interrupt past its handler may clear the edge, and has counted one itself
      have hlow : ({ s with pin := false, cnfa2 := true, cnaif := true } : IntLine).Raised ∨
          s.wake.sampled < s.wake.edges := by
        cases hisr : s.isr with
        | none => exact .inl (by simp only [IntLine.Raised])
        | some pc =>
          cases pc with
          | testFlag | callHandler => exact .inl trivial
          | clearFlag => exact .inr (h.fresh (.inl hisr))
          | clearIf => exact .inr (h.fresh (.inr hisr))
      exact ⟨h.counts, fun _ => rfl, h.fresh,
        fun _ => hlow.imp_right (Nat.lt_of_le_of_lt hacked), h.level, fun _ _ => hlow⟩
    · exact h
  | rise => exact ⟨h.counts, h.flag, h.fresh, nofun, h.level, fun _ => nofun⟩
  | needService =>
    obtain ⟨h1, h2, h3, h4, h5⟩ := h.counts
    exact ⟨⟨h1, h2, h3, h4, h5⟩, h.flag, h.fresh, h.low, h.level, h.read⟩
  | isr => exact intLineInv_cna s h
  | main answer =>
    simp only [intLineStep]
    split
    · exact intLineInv_main s answer ‹_› h
    · exact h

/-! ## Who serves it -/

/-- The pass has seen an edge. -/
def ServicePc.active : ServicePc → Bool
  | .callActive | .inActive | .release => true
  | _ => false

/-- The next pass does not see that the pin is low. -/
structure Deaf (s : IntLine) : Prop where
  low : s.pin = false
  isr : s.isr = none
  served : s.cnaif = false
  blind : (tc6StubIntActive s.wake.stub).2 = false
  inactive : s.wake.pc.active = false

/-- Only another edge helps. -/
theorem deaf_step (s : IntLine) (e : LineEvent) (h : Deaf s) (he : e ≠ .rise) :
    Deaf (intLineStep s e).1 ∧ .serviceCall false ∉ (intLineStep s e).2 := by
  obtain ⟨hlow, hisr, hserved, hblind, hinactive⟩ := h
  cases e with
  | fall =>
    simp only [intLineStep, hlow, Bool.false_eq_true, if_false]
    exact ⟨⟨hlow, hisr, hserved, hblind, hinactive⟩, List.not_mem_nil⟩
  | rise => exact absurd rfl he
  | needService => exact ⟨⟨hlow, hisr, hserved, hblind, hinactive⟩, List.not_mem_nil⟩
  | isr =>
    simp only [intLineStep, cnaInterruptStep, hisr, hserved, Bool.false_eq_true, if_false]
    exact ⟨⟨hlow, hisr, hserved, hblind, hinactive⟩, List.not_mem_nil⟩
  | main answer =>
    have hrelease : s.wake.pc ≠ .release := by
      intro hpc
      rw [hpc] at hinactive
      cases hinactive
    simp only [intLineStep, if_pos hisr, mainLineStep, if_neg hrelease, wakeStep]
    cases hpc : s.wake.pc with
    | idle =>
      simp only [hblind]
      exact ⟨⟨hlow, hisr, hserved, hblind, rfl⟩, by simp⟩
    | initLoop | checkNeed =>
      simp only
      split <;> exact ⟨⟨hlow, hisr, hserved, hblind, rfl⟩, by simp⟩
    | inInitService | clearNeed | callNeed | inNeed =>
      exact ⟨⟨hlow, hisr, hserved, hblind, rfl⟩, by simp⟩
    | callActive | inActive | release =>
      rw [hpc] at hinactive
      cases hinactive

/-- What a deaf line does until the pin rises. -/
theorem deaf_run (s : IntLine) (h : Deaf s) (es : List LineEvent) (hes : .rise ∉ es) :
    .serviceCall false ∉ emits intLineStep s es := by
  intro hcall
  have hrun := emits_forall intLineStep (fun _ e => e ≠ .rise) Deaf (· ≠ .serviceCall false)
    (fun s e h he => (deaf_step s e h he).1)
    (fun s e h he o ho heq => (deaf_step s e h he).2 (heq ▸ ho))
    es s h (along_of_forall intLineStep (· ≠ .rise) s es fun e he heq => hes (heq ▸ he))
  exact hrun _ hcall rfl

/-- The sample that sees an edge. -/
theorem intLineStep_sample (s : IntLine) (answer : Bool) (hisr : s.isr = none)
    (hpc : s.wake.pc = .idle) (htrue : (tc6StubIntActive s.wake.stub).2 = true) :
    intLineStep s (.main answer) =
      ({ s with wake := { s.wake with
          stub := (tc6StubIntActive s.wake.stub).1
          sampled := s.wake.edges
          pc := .callActive } }, [.intActive true]) := by
  simp only [intLineStep, if_pos hisr, mainLineStep, hpc, reduceCtorEq, if_false, wakeStep, htrue,
    if_true]

/-- Nothing comes between the sample and the call. -/
theorem callActive_run (es : List LineEvent) :
    ∀ s : IntLine, s.wake.pc = .callActive → .passEnd ∈ emits intLineStep s es →
      ∃ after, emits intLineStep s es = .serviceCall false :: after := by
  induction es with
  | nil => exact fun _ _ hend => absurd hend nofun
  | cons e es ih =>
    intro s hpc hend
    -- an event that is not the call changes neither the place nor what is emitted
    have hquiet : (intLineStep s e).1.wake.pc = .callActive → (intLineStep s e).2 = [] →
        ∃ after, emits intLineStep s (e :: es) = .serviceCall false :: after := by
      intro hpc' hnone
      rw [emits_cons, hnone] at hend ⊢
      exact ih _ hpc' hend
    cases e with
    | fall =>
      apply hquiet
      · simp only [intLineStep]
        split <;> exact hpc
      · simp only [intLineStep]
        split <;> rfl
    | rise => exact hquiet hpc rfl
    | needService => exact hquiet hpc rfl
    | isr =>
      refine hquiet ?_ rfl
      simp only [intLineStep, cnaInterruptStep]
      split
      · split <;> exact hpc
      all_goals exact hpc
    | main answer =>
      by_cases hisr : s.isr = none
      · refine ⟨emits intLineStep (intLineStep s (.main answer)).1 es, ?_⟩
        rw [emits_cons]
        simp only [intLineStep, if_pos hisr, mainLineStep, hpc, reduceCtorEq, if_false, wakeStep,
          List.singleton_append]
      · refine hquiet ?_ ?_
        · simp only [intLineStep, if_neg hisr]
          exact hpc
        · simp only [intLineStep, if_neg hisr]

/-! ## All the way around -/

/-- The pin falls for the first time, and the interrupt runs. -/
def firstEdge : List LineEvent := [.main true, .fall, .isr, .isr, .isr, .isr, .isr]

/-- A pass at whose end the pin is low again. -/
def lowPass : List LineEvent :=
  [.main true, .main true, .rise, .fall, .isr, .isr, .isr, .isr, .isr, .main true, .main true,
    .main true]

/-- What `k` such passes lead to. -/
def afterLowPasses (k : Nat) : IntLine :=
  { wake :=
      { stub := ⟨UInt8.ofNat (k + 1), 0, UInt8.ofNat k, true, true, 0⟩
        tc := .zero
        pc := .idle
        edges := k + 1
        sampled := k
        acked := 0 }
    pin := false
    cnfa2 := false
    cnaif := false
    isr := none
    level := none }

theorem exec_lowPass (k : Nat) (hk : k < 255) :
    exec intLineStep (afterLowPasses k) lowPass = afterLowPasses (k + 1) := by
  have hactive : (UInt8.ofNat (k + 1) != 0) = true := by
    rw [bne_iff_ne, ne_eq, ← UInt8.toNat_inj, UInt8.toNat_ofNat']
    simp only [UInt8.toNat_zero]
    omega
  have hcount : UInt8.ofNat (k + 1 + 1) = UInt8.ofNat (k + 1) + 1 := UInt8.ofNat_add (k + 1) 1
  rw [lowPass, exec_cons, intLineStep_sample (afterLowPasses k) true rfl rfl hactive,
    afterLowPasses, afterLowPasses, hcount]
  simp only [exec_cons, exec_nil, intLineStep, cnaInterruptStep, mainLineStep, wakeStep, intHandler,
    tc6StubReleaseInt, tc6StubIntActive, reduceCtorEq, Bool.false_eq_true, if_true, if_false]

theorem exec_lowPasses (k : Nat) (hk : k ≤ 255) :
    exec intLineStep .start (firstEdge ++ (List.replicate k lowPass).flatten) =
      afterLowPasses k := by
  induction k with
  | zero => decide
  | succ k ih =>
    rw [List.replicate_succ', List.flatten_append, ← List.append_assoc, exec_append,
      ih (Nat.le_of_succ_le hk)]
    simp only [List.flatten_cons, List.flatten_nil, List.append_nil]
    exact exec_lowPass k hk

/-! ## The pin -/

/-- **A low pin.**  After any run, whatever the edges and the interrupts came between, if the pin is
low and its interrupt has returned before a pass begins, an edge is not acknowledged.  The pass
then calls `TC6_Service` for the interrupt first of all.  Only when the edges not acknowledged are
a multiple of 256 it does not, nor does any pass until the pin rises. -/
theorem low_pin_served (es : List LineEvent) :
    let s := exec intLineStep .start es
    let edges := s.wake.edges - s.wake.acked
    s.pin = false → s.isr = none → s.cnaif = false → s.wake.pc = .idle →
      0 < edges ∧
      (¬ 256 ∣ edges → ∀ answer pass, .passEnd ∈ emits intLineStep s (.main answer :: pass) →
        ∃ after, emits intLineStep s (.main answer :: pass) =
          .intActive true :: .serviceCall false :: after) ∧
      (256 ∣ edges → ∀ later, .rise ∉ later → .serviceCall false ∉ emits intLineStep s later) := by
  intro s edges hlow hisr hserved hpc
  have hinv : IntLineInv s :=
    exec_inv_all intLineStep IntLineInv intLineInv_step es .start intLineInv_start
  have hactive := intActive_iff_dvd s.wake hinv.counts
  refine ⟨?_, ?_, ?_⟩
  · have hnot : ¬ s.Raised := by
      simp only [IntLine.Raised, hisr, hserved, Bool.false_eq_true, not_false_eq_true]
    exact Nat.sub_pos_of_lt ((hinv.low hlow).resolve_left hnot)
  · intro hdvd answer pass hend
    have htrue : (tc6StubIntActive s.wake.stub).2 = true :=
      eq_true_of_ne_false (mt hactive.mp hdvd)
    rw [emits_cons, intLineStep_sample s answer hisr hpc htrue] at hend ⊢
    obtain ⟨after, hafter⟩ := callActive_run pass _ rfl
      ((List.mem_append.mp hend).resolve_left (by simp))
    exact ⟨after, by rw [hafter]; rfl⟩
  · intro hdvd
    have hdeaf : Deaf s :=
      ⟨hlow, hisr, hserved, hactive.mpr hdvd, by rw [hpc]; rfl⟩
    exact deaf_run s hdeaf

/-- After 255 passes at whose end the pin was low the counters have gone around. -/
theorem low_pin_served_around :
    ∀ later, .rise ∉ later → .serviceCall false ∉ emits intLineStep
      (exec intLineStep .start (firstEdge ++ (List.replicate 255 lowPass).flatten)) later := by
  have hs := exec_lowPasses 255 (Nat.le_refl 255)
  have hlow := low_pin_served (firstEdge ++ (List.replicate 255 lowPass).flatten)
  simp only [hs] at hlow ⊢
  exact (hlow rfl rfl rfl rfl).2.2 (by decide)

end CuriosityT1S
