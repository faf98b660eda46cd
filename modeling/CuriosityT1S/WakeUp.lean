import CuriosityT1S.Lib.Mealy
import CuriosityT1S.DmaSpi
import CuriosityT1S.Tc6Lwip

/-!
# No wake-up is lost

`TC6LwIP_Service` in single steps, with INT-pin edges and `TC6_CB_OnNeedService`
arriving between any two of them.  `TC6LwIP_Init` comes first: its loop calls
`TC6_Service` until the PHY is up.  Beside the 8-bit counters stand the true
ones: `edges` so far, how many of them the last sample saw, and how many the
last sample that `ReleaseInt` acknowledged.

    WakeInv:         the 8-bit counters are the true ones
    Pending:         a request has come since the last call of `TC6_Service`
    Coming:          the pass calls `TC6_Service` before it ends
    no_lost_wakeup:  a request leads to a call in the next pass
-/

namespace CuriosityT1S

open Mealy

/-! ## The service in steps -/

/-- Where the main loop is. -/
inductive ServicePc
  | initLoop | inInitService
  | idle
  | callActive | inActive | release
  | checkNeed | clearNeed | callNeed | inNeed
deriving DecidableEq, Repr

structure Wake where
  stub : Stub
  tc : Tc6Lib
  pc : ServicePc
  edges : Nat
  sampled : Nat
  acked : Nat
deriving DecidableEq, Repr

/-- `step` moves the main loop on; `answer` is what it is told there, if anything: whether the
PHY is up, the result of `TC6_Service`, the level of the pin. -/
inductive WakeEvent
  | edge
  | needService
  | step (answer : Bool)
deriving DecidableEq, Repr

inductive WakeOut
  | serviceCall (interruptLevel : Bool)
  | intActive (active : Bool)
  | passEnd
deriving DecidableEq, Repr

def wakeInit : Wake := ⟨tc6StubInit .zero, .zero, .initLoop, 0, 0, 0⟩

def wakeStep (s : Wake) : WakeEvent → Wake × List WakeOut
  | .edge => ({ s with stub := intHandler s.stub, edges := s.edges + 1 }, [])
  | .needService => ({ s with tc := tc6CbOnNeedService s.tc }, [])
  | .step answer =>
    match s.pc with
    | .initLoop =>
      if answer then ({ s with pc := .idle }, [])
      else ({ s with pc := .inInitService }, [.serviceCall true])
    | .inInitService => ({ s with pc := .initLoop }, [])
    | .idle =>
      let (stub, active) := tc6StubIntActive s.stub
      ({ s with stub := stub, sampled := s.edges, pc := if active then .callActive else .checkNeed },
        [.intActive active])
    | .callActive => ({ s with pc := .inActive }, [.serviceCall false])
    | .inActive =>
      if answer then ({ s with pc := .release }, []) else ({ s with pc := .idle }, [.passEnd])
    | .release =>
      ({ s with stub := tc6StubReleaseInt s.stub answer,
                acked := if answer then s.sampled else s.acked, pc := .idle }, [.passEnd])
    | .checkNeed =>
      if s.tc.tc6NeedService then ({ s with pc := .clearNeed }, [])
      else ({ s with pc := .idle }, [.passEnd])
    | .clearNeed => ({ s with tc := { s.tc with tc6NeedService := false }, pc := .callNeed }, [])
    | .callNeed => ({ s with pc := .inNeed }, [.serviceCall true])
    | .inNeed => ({ s with pc := .idle }, [.passEnd])

/-- Fewer than 256 edges since the last sample acknowledged. -/
def FewEdges (s : Wake) : WakeEvent → Prop
  | .edge => s.edges + 1 < s.acked + 256
  | _ => True

instance (s : Wake) (e : WakeEvent) : Decidable (FewEdges s e) := by
  cases e <;> unfold FewEdges <;> infer_instance

/-! ## The counters -/

structure WakeInv (s : Wake) : Prop where
  intIn : s.stub.intIn = UInt8.ofNat s.edges
  intReported : s.stub.intReported = UInt8.ofNat s.sampled
  intOut : s.stub.intOut = UInt8.ofNat s.acked
  acked_le : s.acked ≤ s.sampled
  sampled_le : s.sampled ≤ s.edges
  few : s.edges < s.acked + 256

theorem wakeInv_init : WakeInv wakeInit :=
  ⟨rfl, rfl, rfl, Nat.le_refl 0, Nat.le_refl 0, by decide⟩

/-- What one step preserves. -/
theorem wakeInv_step (s : Wake) (e : WakeEvent) (h : WakeInv s) (hf : FewEdges s e) :
    WakeInv (wakeStep s e).1 := by
  obtain ⟨h1, h2, h3, h4, h5, h6⟩ := h
  cases e with
  | edge =>
    refine ⟨?_, h2, h3, h4, by show s.sampled ≤ s.edges + 1; omega, hf⟩
    show s.stub.intIn + 1 = UInt8.ofNat (s.edges + 1)
    rw [h1, UInt8.ofNat_add]
    rfl
  | needService => exact ⟨h1, h2, h3, h4, h5, h6⟩
  | step answer =>
    simp only [wakeStep]
    cases s.pc with
    | idle => exact ⟨h1, h1, h3, by show s.acked ≤ s.edges; omega, Nat.le_refl _, h6⟩
    | release =>
      cases answer with
      | true => exact ⟨h1, h2, h2, Nat.le_refl _, h5, by show s.edges < s.sampled + 256; omega⟩
      | false => exact ⟨h1, h2, h3, h4, h5, h6⟩
    -- the other steps leave the counters alone
    | initLoop | inActive | checkNeed => simp only; split <;> exact ⟨h1, h2, h3, h4, h5, h6⟩
    | inInitService | callActive | clearNeed | callNeed | inNeed =>
      exact ⟨h1, h2, h3, h4, h5, h6⟩

/-- Fewer than 256 apart, two counters are equal if their low bytes are. -/
theorem ofNat_inj_of_lt {a b : Nat} (hle : a ≤ b) (hlt : b < a + 256)
    (h : UInt8.ofNat b = UInt8.ofNat a) : b = a := by
  have h' := congrArg UInt8.toNat h
  rw [UInt8.toNat_ofNat', UInt8.toNat_ofNat'] at h'
  omega

/-- `TC6Stub_IntActive` is false exactly if every edge has been acknowledged. -/
theorem intActive_iff (s : Wake) (h : WakeInv s) :
    (tc6StubIntActive s.stub).2 = false ↔ s.edges = s.acked := by
  have hle : s.acked ≤ s.edges := Nat.le_trans h.acked_le h.sampled_le
  unfold tc6StubIntActive
  rw [bne_eq_false_iff_eq]
  show s.stub.intIn = s.stub.intOut ↔ s.edges = s.acked
  rw [h.intIn, h.intOut]
  constructor
  · exact ofNat_inj_of_lt hle h.few
  · intro he
    rw [he]

/-! ## Requests -/

/-- An edge or a notification that no call of `TC6_Service` has begun after: still to be seen, or
a call is on its way. -/
def Pending (s : Wake) : Prop :=
  match s.pc with
  | .inActive | .release => s.tc.tc6NeedService = true ∨ s.sampled < s.edges
  | .clearNeed | .callNeed | .callActive => True
  | _ => s.tc.tc6NeedService = true ∨ s.acked < s.edges

def WakeEvent.requests : WakeEvent → Bool
  | .edge | .needService => true
  | .step _ => false

def WakeOut.isCall : WakeOut → Bool
  | .serviceCall _ => true
  | _ => false

theorem pending_of_request (s : Wake) (e : WakeEvent) (h : WakeInv s) (he : e.requests = true) :
    Pending (wakeStep s e).1 := by
  have h4 := h.acked_le
  have h5 := h.sampled_le
  cases e with
  | edge =>
    unfold Pending
    show match s.pc with
      | .inActive | .release => s.tc.tc6NeedService = true ∨ s.sampled < s.edges + 1
      | .clearNeed | .callNeed | .callActive => True
      | _ => s.tc.tc6NeedService = true ∨ s.acked < s.edges + 1
    split
    · exact Or.inr (by omega)
    · exact Or.inr (by omega)
    · trivial
    · trivial
    · trivial
    · exact Or.inr (by omega)
  | needService =>
    unfold Pending
    show match s.pc with
      | .inActive | .release => true = true ∨ s.sampled < s.edges
      | .clearNeed | .callNeed | .callActive => True
      | _ => true = true ∨ s.acked < s.edges
    split <;> first | trivial | exact Or.inl rfl
  | step answer => cases he

/-- The sample of a pass sees a pending edge; without one, the notification is still there. -/
theorem sample_pending (s : Wake) (answer : Bool) (h : WakeInv s) (hpc : s.pc = .idle)
    (hp : Pending s) :
    (wakeStep s (.step answer)).1.pc = .callActive ∨
      (wakeStep s (.step answer)).1.pc = .checkNeed ∧
        (wakeStep s (.step answer)).1.tc.tc6NeedService = true := by
  simp only [Pending, hpc] at hp
  simp only [wakeStep, hpc]
  cases ha : (tc6StubIntActive s.stub).2 with
  | true => exact Or.inl rfl
  | false =>
    have he := (intActive_iff s h).mp ha
    exact Or.inr ⟨rfl, hp.resolve_right (by omega)⟩

/-- A request stays pending until `TC6_Service` is called. -/
theorem pending_step (s : Wake) (e : WakeEvent) (h : WakeInv s) (hp : Pending s)
    (hno : ∀ o ∈ (wakeStep s e).2, o.isCall = false) : Pending (wakeStep s e).1 := by
  have h4 := h.acked_le
  have h5 := h.sampled_le
  cases e with
  | edge => exact pending_of_request s .edge h rfl
  | needService => exact pending_of_request s .needService h rfl
  | step answer =>
    cases hpc : s.pc with
    | idle =>
      rcases sample_pending s answer h hpc hp with hcall | ⟨hcheck, hneed⟩
      · simp only [Pending, hcall]
      · simp only [Pending, hcheck]
        exact Or.inl hneed
    | initLoop =>
      simp only [Pending, hpc] at hp
      simp only [wakeStep, hpc] at hno ⊢
      cases answer with
      | true => exact hp
      | false => simp [WakeOut.isCall] at hno
    | inActive =>
      simp only [Pending, hpc] at hp
      simp only [wakeStep, hpc]
      cases answer with
      | true => exact hp
      | false => exact hp.imp_right fun hlt => by show s.acked < s.edges; omega
    | release =>
      simp only [Pending, hpc] at hp
      simp only [wakeStep, hpc]
      refine hp.imp_right fun hlt => ?_
      show (if answer then s.sampled else s.acked) < s.edges
      split <;> omega
    | checkNeed =>
      simp only [Pending, hpc] at hp
      simp only [wakeStep, hpc]
      split
      · trivial
      · exact hp
    | inInitService => simpa only [Pending, wakeStep, hpc] using hp
    | inNeed => simpa only [Pending, wakeStep, hpc] using hp
    | clearNeed => simp only [Pending, wakeStep, hpc]
    | callActive => simp [wakeStep, hpc, WakeOut.isCall] at hno
    | callNeed => simp [wakeStep, hpc, WakeOut.isCall] at hno

/-- The pass under way, or the one about to start, calls `TC6_Service`. -/
def Coming (s : Wake) : Prop :=
  match s.pc with
  | .idle => Pending s
  | .checkNeed => s.tc.tc6NeedService = true
  | .callActive | .clearNeed | .callNeed => True
  | _ => False

theorem coming_of_request (s : Wake) (e : WakeEvent) (h : WakeInv s) (he : e.requests = true)
    (hc : Coming s) : Coming (wakeStep s e).1 := by
  have hp := pending_of_request s e h he
  have hpc' : (wakeStep s e).1.pc = s.pc := by
    cases e with
    | step answer => cases he
    | _ => rfl
  have hneed : s.tc.tc6NeedService = true → (wakeStep s e).1.tc.tc6NeedService = true := by
    intro hn
    cases e with
    | edge => exact hn
    | needService => rfl
    | step answer => cases he
  unfold Coming at hc ⊢
  rw [hpc']
  cases hpc : s.pc with
  | idle => exact hp
  | checkNeed =>
    simp only [hpc] at hc
    exact hneed hc
  | callActive | clearNeed | callNeed => trivial
  | _ => simp only [hpc] at hc

/-- A step of such a pass calls `TC6_Service`, or does not end it. -/
theorem coming_step (s : Wake) (e : WakeEvent) (h : WakeInv s) (hc : Coming s) :
    (∃ lvl, (wakeStep s e).2 = [.serviceCall lvl]) ∨
      WakeOut.passEnd ∉ (wakeStep s e).2 ∧ Coming (wakeStep s e).1 := by
  cases e with
  | edge => exact Or.inr ⟨nofun, coming_of_request s .edge h rfl hc⟩
  | needService => exact Or.inr ⟨nofun, coming_of_request s .needService h rfl hc⟩
  | step answer =>
    cases hpc : s.pc with
    | idle =>
      simp only [Coming, hpc] at hc
      refine Or.inr ⟨by simp [wakeStep, hpc], ?_⟩
      rcases sample_pending s answer h hpc hc with hcall | ⟨hcheck, hneed⟩
      · simp only [Coming, hcall]
      · simp only [Coming, hcheck]
        exact hneed
    | checkNeed =>
      simp only [Coming, hpc] at hc
      refine Or.inr ⟨by simp [wakeStep, hpc, hc], ?_⟩
      simp only [wakeStep, hpc, hc, if_true, Coming]
    | clearNeed =>
      refine Or.inr ⟨by simp [wakeStep, hpc], ?_⟩
      simp only [wakeStep, hpc, Coming]
    | callActive => exact Or.inl ⟨false, by simp only [wakeStep, hpc]⟩
    | callNeed => exact Or.inl ⟨true, by simp only [wakeStep, hpc]⟩
    | _ => simp only [Coming, hpc] at hc

/-! ## Runs -/

/-- `TC6_Service` is called before the pass ends. -/
def CallsFirst (outs : List WakeOut) : Prop :=
  ∃ before lvl after, outs = before ++ .serviceCall lvl :: after ∧ WakeOut.passEnd ∉ before

theorem callsFirst_of_coming (pass : List WakeEvent) :
    ∀ s, WakeInv s → Coming s → Along wakeStep FewEdges s pass →
      WakeOut.passEnd ∈ emits wakeStep s pass → CallsFirst (emits wakeStep s pass) := by
  induction pass with
  | nil => intro s _ _ _ hend; cases hend
  | cons e es ih =>
    intro s h hc hA hend
    rw [emits_cons] at hend ⊢
    rcases coming_step s e h hc with ⟨lvl, hcall⟩ | ⟨hno, hc'⟩
    · exact ⟨[], lvl, emits wakeStep (wakeStep s e).1 es, by rw [hcall]; rfl, nofun⟩
    · have hend' := (List.mem_append.mp hend).resolve_left hno
      obtain ⟨before, lvl, after, heq, hb⟩ :=
        ih _ (wakeInv_step s e h hA.1) hc' hA.2 hend'
      refine ⟨(wakeStep s e).2 ++ before, lvl, after, by rw [heq, List.append_assoc], ?_⟩
      rw [List.mem_append]
      exact not_or.mpr ⟨hno, hb⟩

theorem pending_run (mid : List WakeEvent) :
    ∀ s, WakeInv s → Pending s → Along wakeStep FewEdges s mid →
      (∀ o ∈ emits wakeStep s mid, o.isCall = false) → Pending (exec wakeStep s mid) := by
  induction mid with
  | nil => intro s _ hp _ _; exact hp
  | cons e es ih =>
    intro s h hp hA hno
    rw [emits_cons, List.forall_mem_append] at hno
    exact ih _ (wakeInv_step s e h hA.1) (pending_step s e h hp hno.1) hA.2 hno.2

theorem wakeInv_run (es : List WakeEvent) (h : Along wakeStep FewEdges wakeInit es) :
    WakeInv (exec wakeStep wakeInit es) :=
  exec_inv wakeStep FewEdges WakeInv wakeInv_step es wakeInit wakeInv_init h

/-- `TC6Stub_IntActive` is asked at the start of a pass. -/
theorem intActive_of_step (s : Wake) (e : WakeEvent) (h : WakeInv s)
    (hout : .intActive false ∈ (wakeStep s e).2) : s.edges = s.acked := by
  cases e with
  | edge => cases hout
  | needService => cases hout
  | step answer =>
    cases hpc : s.pc with
    | idle =>
      simp only [wakeStep, hpc, List.mem_singleton, WakeOut.intActive.injEq] at hout
      exact (intActive_iff s h).mp hout.symm
    | initLoop | inActive => cases answer <;> simp [wakeStep, hpc] at hout
    | checkNeed => cases hn : s.tc.tc6NeedService <;> simp [wakeStep, hpc, hn] at hout
    | _ => simp [wakeStep, hpc] at hout

/-- **No lost wake-up.**  In every run with fewer than 256 edges since the last acknowledged
sample: if a request has come and no call of `TC6_Service` has begun since, the next pass makes
one; and `TC6Stub_IntActive` is false only if every edge was in the last acknowledged sample. -/
theorem no_lost_wakeup (es : List WakeEvent) (h : Along wakeStep FewEdges wakeInit es) :
    (∀ pre e mid pass, es = pre ++ e :: mid ++ pass → e.requests = true →
      (∀ o ∈ emits wakeStep (exec wakeStep wakeInit (pre ++ [e])) mid, o.isCall = false) →
      (exec wakeStep wakeInit (pre ++ e :: mid)).pc = .idle →
      .passEnd ∈ emits wakeStep (exec wakeStep wakeInit (pre ++ e :: mid)) pass →
      CallsFirst (emits wakeStep (exec wakeStep wakeInit (pre ++ e :: mid)) pass)) ∧
    ∀ pre e post, es = pre ++ e :: post →
      .intActive false ∈ (wakeStep (exec wakeStep wakeInit pre) e).2 →
      (exec wakeStep wakeInit pre).edges = (exec wakeStep wakeInit pre).acked := by
  constructor
  · rintro pre e mid pass rfl he hno hidle hend
    obtain ⟨hA, hpass⟩ := (along_append _ _ _ _ _).mp h
    have hsplit : pre ++ e :: mid = (pre ++ [e]) ++ mid := by simp
    rw [hsplit] at hA hpass hidle hend ⊢
    obtain ⟨hA1, hmid⟩ := (along_append _ _ _ _ _).mp hA
    obtain ⟨hpre, -⟩ := (along_append _ _ _ _ _).mp hA1
    have hpend : Pending (exec wakeStep wakeInit (pre ++ [e])) := by
      rw [exec_append]
      exact pending_of_request _ e (wakeInv_run pre hpre) he
    have hp := pending_run mid _ (wakeInv_run _ hA1) hpend hmid hno
    rw [← exec_append] at hp
    have hc : Coming (exec wakeStep wakeInit (pre ++ [e] ++ mid)) := by
      simp only [Coming, hidle]
      exact hp
    exact callsFirst_of_coming pass _ (wakeInv_run _ hA) hc hpass hend
  · rintro pre e post rfl hout
    obtain ⟨hpre, -⟩ := (along_append _ _ _ _ _).mp h
    exact intActive_of_step _ e (wakeInv_run pre hpre) hout

/-- The PHY is up; a pass samples no edge; one comes, and the pass ends.  The pass after it calls
`TC6_Service`. -/
theorem no_lost_wakeup_lateEdge :
    CallsFirst (emits wakeStep
      (exec wakeStep wakeInit [.step true, .step true, .edge, .step true])
      [.step true, .step true, .step true, .step true]) :=
  (no_lost_wakeup
    [.step true, .step true, .edge, .step true, .step true, .step true, .step true, .step true]
    ⟨trivial, trivial, by decide, trivial, trivial, trivial, trivial, trivial, trivial⟩).1
    [.step true, .step true] .edge [.step true] [.step true, .step true, .step true, .step true]
    rfl rfl (by decide) (by decide) (by decide)

end CuriosityT1S
