import CuriosityT1S.App
import CuriosityT1S.Lib.StableRun
import CuriosityT1S.Lib.WrapCounter
import Mathlib.Algebra.Group.Nat.Defs

/-!
# What the debounced state says about the raw samples

A history is a list of raw samples, each with the true time in milliseconds of its poll; the code
sees the times modulo 2^32.  The stored time is that of the last change of the raw sample, or
the samples have been false from the start and the state is false too.

    DebounceInv:            the stored time, after any history
    debounce_characterised: the state changes only to a value held for more than 20 ms, and
                            follows a value that is
-/

namespace CuriosityT1S

open StableRun WrapCounter

/-- One poll. -/
def appButtonsPoll (btn : AppBtn) (s : Bool × Nat) : AppBtn :=
  debounceButton btn s.1 (UInt32.ofNat s.2)

/-- The button after some polls from `APP_Buttons_Init` on. -/
def buttonAfter (hs : List (Bool × Nat)) : AppBtn := hs.foldl appButtonsPoll appButtonsInit

/-- What the other functions of the module read: the state, and what an edge leaves behind. -/
def AppBtn.outputs (btn : AppBtn) : Bool × Bool × UInt32 × Bool :=
  (btn.debouncedState, btn.wasPressed, btn.pressStartTime, btn.longPressDetected)

/-- Over some polls no value is held for more than 20 ms, whatever came before them. -/
def Bouncing (pre burst : List (Bool × Nat)) : Prop :=
  ∀ b s b', burst = b ++ s :: b' → ∀ v, ¬ HeldFor (pre ++ b ++ [s]) v 20

/-- The filter does what debouncing is for, at every poll of a history. -/
structure DebounceOk (hs : List (Bool × Nat)) : Prop where
  /-- A change is to a value held for more than 20 ms. -/
  changes : ∀ pre s post, hs = pre ++ s :: post →
    (buttonAfter (pre ++ [s])).debouncedState ≠ (buttonAfter pre).debouncedState →
      HeldFor (pre ++ [s]) (buttonAfter (pre ++ [s])).debouncedState 20
  /-- A burst leaves the state as it is and raises no event. -/
  bursts : ∀ pre burst post, hs = pre ++ burst ++ post → Bouncing pre burst →
    (buttonAfter (pre ++ burst)).outputs = (buttonAfter pre).outputs
  /-- More than 20 ms, and less than 2^32 ms, after the last change, the state is the sample. -/
  follows : ∀ pre s post t0, hs = pre ++ s :: post → lastChange (pre ++ [s]) = some (s.1, t0) →
    20 < s.2 - t0 → s.2 - t0 < 2 ^ 32 → (buttonAfter (pre ++ [s])).debouncedState = s.1

/-! ## One poll -/

theorem buttonAfter_concat (hs : List (Bool × Nat)) (s : Bool × Nat) :
    buttonAfter (hs ++ [s]) = appButtonsPoll (buttonAfter hs) s := by
  unfold buttonAfter
  rw [List.foldl_append, List.foldl_cons, List.foldl_nil]

/-- A poll that leaves the state leaves everything an edge would change. -/
theorem outputs_of_same_state (btn : AppBtn) (raw : Bool) (now : UInt32)
    (h : (debounceButton btn raw now).debouncedState = btn.debouncedState) :
    (debounceButton btn raw now).outputs = btn.outputs := by
  unfold AppBtn.outputs
  rcases debounceButton_spec btn raw now with ⟨hd, hw, hs, hl⟩ | ⟨ho, hd, -⟩ | ⟨ho, hd, -⟩
  · rw [hd, hw, hs, hl]
  · rw [ho, hd] at h; cases h
  · rw [ho, hd] at h; cases h

@[simp] theorem AppBtn.risingEdge_time (btn : AppBtn) (raw : Bool) (now : UInt32) :
    (btn.risingEdge raw now).lastDebounceTime = btn.lastDebounceTime := by
  unfold AppBtn.risingEdge
  split <;> rfl

@[simp] theorem AppBtn.fallingEdge_time (btn : AppBtn) (raw : Bool) :
    (btn.fallingEdge raw).lastDebounceTime = btn.lastDebounceTime := by
  unfold AppBtn.fallingEdge
  split
  · split <;> rfl
  · rfl

/-- The stored time moves when the sample changes. -/
theorem debounceButton_time (btn : AppBtn) (raw : Bool) (now : UInt32) :
    (debounceButton btn raw now).lastDebounceTime =
      if raw ≠ btn.lastState then now else btn.lastDebounceTime := by
  unfold debounceButton
  by_cases hraw : raw = btn.lastState
  · rw [if_neg (not_not_intro hraw), if_neg (not_not_intro hraw)]
    simp only
    split
    · rw [AppBtn.fallingEdge_time, AppBtn.risingEdge_time]
    · rfl
  · rw [if_pos hraw, if_pos hraw]
    simp [appButtonDebounceMs]

/-- The state follows the sample if the stored time is more than 20 ms ago. -/
theorem debounceButton_state (btn : AppBtn) (raw : Bool) (now : UInt32) :
    (debounceButton btn raw now).debouncedState =
      if raw = btn.lastState ∧ 20 < (now - btn.lastDebounceTime).toNat then raw
      else btn.debouncedState := by
  have hms : appButtonDebounceMs.toNat = 20 := rfl
  unfold debounceButton
  by_cases hraw : raw = btn.lastState
  · rw [if_neg (not_not_intro hraw)]
    by_cases hlong : now - btn.lastDebounceTime > appButtonDebounceMs
    · have hlt : 20 < (now - btn.lastDebounceTime).toNat := UInt32.lt_iff_toNat_lt.mp hlong
      rw [if_pos ⟨hraw, hlt⟩]
      simp only [if_pos hlong]
    · have hnot : ¬ 20 < (now - btn.lastDebounceTime).toNat := fun h =>
        hlong (UInt32.lt_iff_toNat_lt.mpr h)
      rw [if_neg fun h => hnot h.2]
      simp only [if_neg hlong]
  · rw [if_pos hraw, if_neg fun h => hraw h.1]
    simp [appButtonDebounceMs]

/-! ## The stored time -/

/-- The last sample and the time of its last change are stored, unless there has been no change
and the state is false. -/
structure DebounceInv (hs : List (Bool × Nat)) (btn : AppBtn) : Prop where
  last : btn.lastState = ((lastChange hs).map Prod.fst).getD false
  time : (∃ v t0, lastChange hs = some (v, t0) ∧ btn.lastDebounceTime = UInt32.ofNat t0) ∨
    btn.lastState = false ∧ btn.debouncedState = false

theorem debounceInv_step (hs : List (Bool × Nat)) (btn : AppBtn) (s : Bool × Nat)
    (h : DebounceInv hs btn) : DebounceInv (hs ++ [s]) (appButtonsPoll btn s) := by
  obtain ⟨raw, t⟩ := s
  have hlast := h.last
  have htime := debounceButton_time btn raw (UInt32.ofNat t)
  have hstate := debounceButton_state btn raw (UInt32.ofNat t)
  unfold appButtonsPoll
  simp only
  by_cases hraw : raw = btn.lastState
  · rw [if_neg (not_not_intro hraw)] at htime
    have hkeep : btn.lastState = false → btn.debouncedState = false →
        (debounceButton btn raw (UInt32.ofNat t)).debouncedState = false := by
      intro hl hd
      rw [hstate, hraw, hl, hd, ite_self]
    cases hrun : lastChange hs with
    | none =>
      rw [hrun] at hlast
      have hfalse : raw = false := hraw.trans hlast
      have hnew : lastChange (hs ++ [(raw, t)]) = some (raw, t) := by
        rw [lastChange_concat, hrun]
        rfl
      rcases h.time with ⟨v, t0, hv, -⟩ | ⟨hl, hd⟩
      · rw [hrun] at hv; cases hv
      · exact ⟨by rw [hnew]; rfl, Or.inr ⟨hfalse, hkeep hl hd⟩⟩
    | some run =>
      obtain ⟨v, t0⟩ := run
      rw [hrun] at hlast
      have hv : raw = v := hraw.trans hlast
      have hnew : lastChange (hs ++ [(raw, t)]) = some (v, t0) := by
        rw [lastChange_concat, hrun]
        exact if_pos hv
      refine ⟨by rw [hnew]; exact hv, ?_⟩
      rcases h.time with ⟨v', t0', hv', ht0⟩ | ⟨hl, hd⟩
      · rw [hrun] at hv'
        cases hv'
        exact Or.inl ⟨v, t0, hnew, htime.trans ht0⟩
      · exact Or.inr ⟨hraw.trans hl, hkeep hl hd⟩
  · -- the sample has changed
    rw [if_pos hraw] at htime
    have hnew : lastChange (hs ++ [(raw, t)]) = some (raw, t) := by
      rw [lastChange_concat]
      cases hrun : lastChange hs with
      | none => rfl
      | some run =>
        rw [hrun] at hlast
        exact if_neg fun hv => hraw (hv.trans hlast.symm)
    exact ⟨by rw [hnew]; rfl, Or.inl ⟨raw, t, hnew, htime⟩⟩

theorem debounceInv_buttonAfter (hs : List (Bool × Nat)) : DebounceInv hs (buttonAfter hs) := by
  induction hs using List.reverseRecOn with
  | nil => exact ⟨rfl, Or.inr ⟨rfl, rfl⟩⟩
  | append_singleton hs s ih =>
    rw [buttonAfter_concat]
    exact debounceInv_step hs _ s ih

/-! ## The characterisation -/

/-- The times do not decrease. -/
def PollsSorted (hs : List (Bool × Nat)) : Prop := hs.Pairwise fun a b => a.2 ≤ b.2

/-- A change of the state ends a run of more than 20 ms. -/
theorem change_held (hs : List (Bool × Nat)) (raw : Bool) (t : Nat)
    (hsort : PollsSorted (hs ++ [(raw, t)]))
    (h : (buttonAfter (hs ++ [(raw, t)])).debouncedState ≠ (buttonAfter hs).debouncedState) :
    HeldFor (hs ++ [(raw, t)]) (buttonAfter (hs ++ [(raw, t)])).debouncedState 20 := by
  obtain ⟨hlast, htime⟩ := debounceInv_buttonAfter hs
  have hstate := debounceButton_state (buttonAfter hs) raw (UInt32.ofNat t)
  rw [buttonAfter_concat] at h ⊢
  unfold appButtonsPoll at h ⊢
  simp only at h ⊢
  rw [hstate] at h ⊢
  by_cases hc : raw = (buttonAfter hs).lastState ∧
      20 < (UInt32.ofNat t - (buttonAfter hs).lastDebounceTime).toNat
  · rw [if_pos hc] at h ⊢
    obtain ⟨hraw, hlong⟩ := hc
    rcases htime with ⟨v, t0, hrun, ht0⟩ | ⟨hl, hd⟩
    · rw [hrun] at hlast
      have hv : raw = v := hraw.trans hlast
      have hnew : lastChange (hs ++ [(raw, t)]) = some (raw, t0) := by
        rw [lastChange_concat, hrun, hv]
        exact if_pos rfl
      have hle : t0 ≤ t :=
        (List.pairwise_append.mp hsort).2.2 _ (lastChange_mem hs v t0 hrun) _
          (List.mem_singleton.mpr rfl)
      have hmod : (UInt32.ofNat t - UInt32.ofNat t0).toNat ≤ t - t0 := ofNat_sub_le hle
      rw [ht0] at hlong
      exact heldFor_of_lastChange hs raw t0 t 20 hnew (by omega)
    · rw [hraw, hl, hd] at h
      exact absurd rfl h
  · rw [if_neg hc] at h
    exact absurd rfl h

/-- More than 20 ms after the last change the state is the sample. -/
theorem state_follows (hs : List (Bool × Nat)) (raw : Bool) (t t0 : Nat)
    (hrun : lastChange (hs ++ [(raw, t)]) = some (raw, t0)) (hlong : 20 < t - t0)
    (hlt : t - t0 < 2 ^ 32) : (buttonAfter (hs ++ [(raw, t)])).debouncedState = raw := by
  obtain ⟨hlast, htime⟩ := debounceInv_buttonAfter (hs ++ [(raw, t)])
  rw [hrun] at hlast
  rcases htime with ⟨v, t0', hrun', ht0⟩ | ⟨hl, hd⟩
  · rw [hrun] at hrun'
    cases hrun'
    have hstate := debounceButton_state (buttonAfter hs) raw (UInt32.ofNat t)
    have htime := debounceButton_time (buttonAfter hs) raw (UInt32.ofNat t)
    rw [buttonAfter_concat] at ht0 ⊢
    unfold appButtonsPoll at ht0 ⊢
    simp only at ht0 ⊢
    have hdiff : (UInt32.ofNat t - UInt32.ofNat t0).toNat = t - t0 :=
      ofNat_sub_ofNat (by omega) hlt
    by_cases hraw : raw = (buttonAfter hs).lastState
    · rw [if_neg (not_not_intro hraw), ht0] at htime
      rw [hstate, if_pos ⟨hraw, by rw [← htime, hdiff]; exact hlong⟩]
    · -- a sample that has just changed is not 20 ms old
      rw [if_pos hraw, ht0] at htime
      have hzero : (UInt32.ofNat t - UInt32.ofNat t0).toNat = 0 := by
        rw [htime, UInt32.sub_self]
        rfl
      omega
  · rw [hd, ← hl, hlast]
    rfl

/-- Polls in which no value is held change nothing that is read. -/
theorem burst_quiet (pre burst : List (Bool × Nat)) (hsort : PollsSorted (pre ++ burst))
    (h : Bouncing pre burst) : (buttonAfter (pre ++ burst)).outputs = (buttonAfter pre).outputs := by
  induction burst using List.reverseRecOn with
  | nil => rw [List.append_nil]
  | append_singleton burst s ih =>
    obtain ⟨raw, t⟩ := s
    rw [← List.append_assoc] at hsort ⊢
    have hb : Bouncing pre burst := by
      rintro b s b' rfl
      exact h b s (b' ++ [(raw, t)]) (by simp)
    have hsame : (buttonAfter (pre ++ burst ++ [(raw, t)])).debouncedState =
        (buttonAfter (pre ++ burst)).debouncedState := by
      apply Classical.byContradiction
      intro hne
      exact h burst (raw, t) [] rfl _ (change_held (pre ++ burst) raw t hsort hne)
    rw [← ih (List.pairwise_append.mp hsort).1 hb]
    rw [buttonAfter_concat] at hsame ⊢
    exact outputs_of_same_state _ _ _ hsame

/-- **Debouncing.**  At every poll of every history with nondecreasing times: the state changes
only to a value held for more than 20 ms, a burst changes nothing, and more than 20 ms after the
last change of the sample, and less than 2^32 ms, the state is the sample. -/
theorem debounce_characterised (hs : List (Bool × Nat)) (hsort : PollsSorted hs) :
    DebounceOk hs := by
  have hsorted : ∀ pre s post, hs = pre ++ s :: post → PollsSorted (pre ++ [s]) := by
    intro pre s post he
    rw [he, ← List.singleton_append, ← List.append_assoc] at hsort
    exact (List.pairwise_append.mp hsort).1
  constructor
  · intro pre s post he hne
    exact change_held pre s.1 s.2 (hsorted pre s post he) hne
  · intro pre burst post he hb
    rw [he] at hsort
    exact burst_quiet pre burst (List.pairwise_append.mp hsort).1 hb
  · intro pre s post t0 _ hrun hlong hlt
    exact state_follows pre s.1 s.2 t0 hrun hlong hlt

/-- A press that bounces across the wrap of the clock. -/
theorem debounce_characterised_wrap :
    DebounceOk [(false, 2 ^ 32 - 40), (true, 2 ^ 32 - 15), (false, 2 ^ 32 - 10),
      (true, 2 ^ 32 - 8), (true, 2 ^ 32 + 5), (true, 2 ^ 32 + 14)] :=
  debounce_characterised _ (by unfold PollsSorted; decide)

end CuriosityT1S
