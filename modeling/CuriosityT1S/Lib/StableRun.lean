import Mathlib.Data.List.Basic
import Mathlib.Data.List.Induction

/-!
# Values over time

A history is a list of values, each with its time.  `lastChange hs` is the first entry of the
last values that are all equal, `HeldFor hs v d` says that the history ends with a span of
values `v` that lasts more than `d`.

    lastChange_concat: how one more value moves it
    lastChange_spec:   all values from there on are equal, the one before is not
-/

namespace StableRun

variable {α : Type} [DecidableEq α]

/-- One more value: the run goes on, or a new one starts. -/
def runStep (run : Option (α × Nat)) (s : α × Nat) : Option (α × Nat) :=
  match run with
  | some (v, t0) => if s.1 = v then some (v, t0) else some s
  | none => some s

def lastChange (hs : List (α × Nat)) : Option (α × Nat) := hs.foldl runStep none

omit [DecidableEq α] in
/-- The history ends with a span of values `v` that lasts more than `d`. -/
def HeldFor (hs : List (α × Nat)) (v : α) (d : Nat) : Prop :=
  ∃ pre t0 span t, hs = pre ++ (v, t0) :: span ∧ (∀ s ∈ span, s.1 = v) ∧
    hs.getLast? = some (v, t) ∧ d < t - t0

@[simp] theorem lastChange_nil : lastChange ([] : List (α × Nat)) = none := rfl

theorem lastChange_concat (hs : List (α × Nat)) (s : α × Nat) :
    lastChange (hs ++ [s]) = runStep (lastChange hs) s := by
  unfold lastChange
  rw [List.foldl_append, List.foldl_cons, List.foldl_nil]

/-- From the last change on all values are equal, and the one before it is another. -/
theorem lastChange_spec (hs : List (α × Nat)) :
    ∀ (v : α) (t0 : Nat), lastChange hs = some (v, t0) →
      ∃ pre span, hs = pre ++ (v, t0) :: span ∧ (∀ s ∈ span, s.1 = v) ∧
        ∀ s, pre.getLast? = some s → s.1 ≠ v := by
  induction hs using List.reverseRecOn with
  | nil => intro v t0 h; cases h
  | append_singleton hs s ih =>
    intro v t0 h
    rw [lastChange_concat] at h
    unfold runStep at h
    split at h
    · next v' t' hrun =>
      obtain ⟨pre, span, rfl, hall, hpre⟩ := ih v' t' hrun
      split at h
      · next hs =>
        cases h
        refine ⟨pre, span ++ [s], by simp, ?_, hpre⟩
        intro x hx
        rcases List.mem_append.mp hx with hx | hx
        · exact hall x hx
        · rw [List.mem_singleton.mp hx]; exact hs
      · next hs =>
        cases h
        refine ⟨pre ++ (v', t') :: span, [], rfl, fun x hx => absurd hx List.not_mem_nil, ?_⟩
        -- the last value before is one of the old run
        intro x hx
        rw [List.getLast?_append_cons] at hx
        have hv : x.1 = v' := by
          rcases List.mem_cons.mp (List.mem_of_getLast? hx) with rfl | hx
          · rfl
          · exact hall x hx
        intro hxs
        exact hs (hxs.symm.trans hv)
    · next hrun =>
      cases h
      have hnil : hs = [] := by
        cases hs using List.reverseRecOn with
        | nil => rfl
        | append_singleton hs x =>
          rw [lastChange_concat] at hrun
          unfold runStep at hrun
          split at hrun
          · split at hrun <;> cases hrun
          · cases hrun
      rw [hnil]
      exact ⟨[], [], rfl, fun x hx => absurd hx List.not_mem_nil, fun x hx => by cases hx⟩

/-- A run is held for the time since it began. -/
theorem heldFor_of_lastChange (hs : List (α × Nat)) (v : α) (t0 t d : Nat)
    (h : lastChange (hs ++ [(v, t)]) = some (v, t0)) (hd : d < t - t0) :
    HeldFor (hs ++ [(v, t)]) v d := by
  obtain ⟨pre, span, he, hall, -⟩ := lastChange_spec _ v t0 h
  exact ⟨pre, t0, span, t, he, hall, by simp, hd⟩

theorem lastChange_mem (hs : List (α × Nat)) (v : α) (t0 : Nat)
    (h : lastChange hs = some (v, t0)) : (v, t0) ∈ hs := by
  obtain ⟨pre, span, he, -, -⟩ := lastChange_spec hs v t0 h
  rw [he]
  exact List.mem_append_right _ List.mem_cons_self

end StableRun
