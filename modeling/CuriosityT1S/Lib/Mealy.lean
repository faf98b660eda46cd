import Mathlib.Data.List.Basic

/-!
# Machines that react to a list of inputs

A machine is a function `step : σ → ι → σ × List ω`: the state and one input
give the next state and what is emitted.  `exec` and `emits` run it over a list
of inputs.  `Along step A s is` says that every input of the run satisfies `A`
in the state where it arrives (an assumption on the environment, or a condition
on the run).

    invariant:   exec_inv        what one permitted step preserves, a permitted run preserves
                 exec_inv_all    what every step preserves, every run preserves
                 history_inv     the same, with all inputs and outputs so far
                 exec_emits_inv  the same, with everything emitted so far
    conditions:  along_of_inv    one that follows from another under an invariant
                 along_congr     two that are equivalent under an invariant
                 along_iff_of    two that are equivalent as long as they have held
    outputs:     emits_forall    what one step emits under the invariant, a run emits
    accounting:  emits_credit    what one step pays for out of a stored credit, a run does
    lookup:      mem_emits_iff   where in the run an output comes from
    refinement:  emits_sim       steps that correspond make runs that correspond
-/

namespace Mealy

variable {σ ι ω : Type}

/-- The state after the inputs. -/
def exec (step : σ → ι → σ × List ω) : σ → List ι → σ
  | s, [] => s
  | s, i :: is => exec step (step s i).1 is

/-- Everything emitted on the way, in order. -/
def emits (step : σ → ι → σ × List ω) : σ → List ι → List ω
  | _, [] => []
  | s, i :: is => (step s i).2 ++ emits step (step s i).1 is

/-- Every input satisfies `A` in the state where it arrives. -/
def Along (step : σ → ι → σ × List ω) (A : σ → ι → Prop) : σ → List ι → Prop
  | _, [] => True
  | s, i :: is => A s i ∧ Along step A (step s i).1 is

/-- `s` is the state of some run from `s0` whose inputs satisfy `A`. -/
def Reachable (step : σ → ι → σ × List ω) (A : σ → ι → Prop) (s0 s : σ) : Prop :=
  ∃ is, Along step A s0 is ∧ exec step s0 is = s

section
variable (step : σ → ι → σ × List ω)

@[simp] theorem exec_nil (s : σ) : exec step s [] = s := rfl

@[simp] theorem exec_cons (s : σ) (i : ι) (is : List ι) :
    exec step s (i :: is) = exec step (step s i).1 is := rfl

@[simp] theorem emits_nil (s : σ) : emits step s [] = [] := rfl

@[simp] theorem emits_cons (s : σ) (i : ι) (is : List ι) :
    emits step s (i :: is) = (step s i).2 ++ emits step (step s i).1 is := rfl

@[simp] theorem along_nil (A : σ → ι → Prop) (s : σ) : Along step A s [] := trivial

@[simp] theorem along_cons (A : σ → ι → Prop) (s : σ) (i : ι) (is : List ι) :
    Along step A s (i :: is) ↔ A s i ∧ Along step A (step s i).1 is := Iff.rfl

theorem exec_append (s : σ) (is js : List ι) :
    exec step s (is ++ js) = exec step (exec step s is) js := by
  induction is generalizing s with
  | nil => rfl
  | cons i is ih => exact ih _

theorem emits_append (s : σ) (is js : List ι) :
    emits step s (is ++ js) = emits step s is ++ emits step (exec step s is) js := by
  induction is generalizing s with
  | nil => rfl
  | cons i is ih => simp only [List.cons_append, emits_cons, exec_cons, ih, List.append_assoc]

theorem along_append (A : σ → ι → Prop) (s : σ) (is js : List ι) :
    Along step A s (is ++ js) ↔ Along step A s is ∧ Along step A (exec step s is) js := by
  induction is generalizing s with
  | nil => simp
  | cons i is ih => simp only [List.cons_append, along_cons, exec_cons, ih, and_assoc]

instance decidableAlong (A : σ → ι → Prop) [∀ s i, Decidable (A s i)] :
    ∀ s is, Decidable (Along step A s is)
  | _, [] => isTrue trivial
  | s, i :: is =>
    have := decidableAlong A (step s i).1 is
    inferInstanceAs (Decidable (A s i ∧ Along step A (step s i).1 is))

/-- A condition on the inputs alone. -/
theorem along_of_forall (P : ι → Prop) (s : σ) (is : List ι) (h : ∀ i ∈ is, P i) :
    Along step (fun _ i => P i) s is := by
  induction is generalizing s with
  | nil => trivial
  | cons i is ih =>
    exact ⟨h i List.mem_cons_self, ih _ fun j hj => h j (List.mem_cons_of_mem i hj)⟩

/-- A condition that every step meets. -/
theorem along_of_step (A : σ → ι → Prop) (h : ∀ s i, A s i) (s : σ) (is : List ι) :
    Along step A s is := by
  induction is generalizing s with
  | nil => trivial
  | cons i is ih => exact ⟨h s i, ih _⟩

theorem along_true (s : σ) (is : List ι) : Along step (fun _ _ => True) s is :=
  along_of_step step _ (fun _ _ => trivial) s is

/-- **Invariant rule.**  What one permitted step preserves, a permitted run preserves. -/
theorem exec_inv (A : σ → ι → Prop) (I : σ → Prop)
    (hstep : ∀ s i, I s → A s i → I (step s i).1) :
    ∀ (is : List ι) (s : σ), I s → Along step A s is → I (exec step s is) := by
  intro is
  induction is with
  | nil => intro s h _; exact h
  | cons i is ih => intro s h hA; exact ih _ (hstep s i h hA.1) hA.2

theorem exec_inv_all (I : σ → Prop) (hstep : ∀ s i, I s → I (step s i).1) (is : List ι) (s : σ)
    (h : I s) : I (exec step s is) :=
  exec_inv step (fun _ _ => True) I (fun s i h _ => hstep s i h) is s h (along_true step s is)

/-- **History rule.**  The invariant may speak of all inputs and outputs so far. -/
theorem history_inv (A : σ → ι → Prop) (J : List ι → List ω → σ → Prop)
    (hstep : ∀ js l s i, J js l s → A s i → J (js ++ [i]) (l ++ (step s i).2) (step s i).1) :
    ∀ (is js : List ι) (l : List ω) (s : σ), J js l s → Along step A s is →
      J (js ++ is) (l ++ emits step s is) (exec step s is) := by
  intro is
  induction is with
  | nil =>
    intro js l s h _
    rw [List.append_nil, emits_nil, List.append_nil]
    exact h
  | cons i is ih =>
    intro js l s h hA
    have hrest := ih (js ++ [i]) _ _ (hstep js l s i h hA.1) hA.2
    rw [List.append_assoc, List.append_assoc] at hrest
    exact hrest

/-- The invariant may speak of everything emitted so far. -/
theorem exec_emits_inv (J : σ → List ω → Prop)
    (hstep : ∀ s l i, J s l → J (step s i).1 (l ++ (step s i).2)) :
    ∀ (is : List ι) (s : σ) (l : List ω), J s l → J (exec step s is) (l ++ emits step s is) :=
  fun is s l h => history_inv step (fun _ _ => True) (fun _ l s => J s l)
    (fun _ l s i hj _ => hstep s l i hj) is [] l s h (along_true step s is)

variable {step} in
theorem Reachable.inv {A : σ → ι → Prop} {s0 s : σ} (h : Reachable step A s0 s) (I : σ → Prop)
    (h0 : I s0) (hstep : ∀ s i, I s → A s i → I (step s i).1) : I s := by
  obtain ⟨is, hA, rfl⟩ := h
  exact exec_inv step A I hstep is s0 h0 hA

/-- **Output rule.**  What a permitted step emits under the invariant, a permitted run emits. -/
theorem emits_forall (A : σ → ι → Prop) (I : σ → Prop) (P : ω → Prop)
    (hstep : ∀ s i, I s → A s i → I (step s i).1)
    (hout : ∀ s i, I s → A s i → ∀ o ∈ (step s i).2, P o) :
    ∀ (is : List ι) (s : σ), I s → Along step A s is → ∀ o ∈ emits step s is, P o := by
  intro is
  induction is with
  | nil => intro s _ _ o ho; cases ho
  | cons i is ih =>
    intro s h hA o ho
    rcases List.mem_append.mp ho with ho | ho
    · exact hout s i h hA.1 o ho
    · exact ih _ (hstep s i h hA.1) hA.2 o ho

/-- All outputs of a run have a property if and only if those of each of its steps have it. -/
theorem forall_emits_iff (P : ω → Prop) (is : List ι) (s : σ) :
    (∀ o ∈ emits step s is, P o) ↔ Along step (fun s i => ∀ o ∈ (step s i).2, P o) s is := by
  induction is generalizing s with
  | nil => simp
  | cons i is ih => rw [emits_cons, along_cons, ← ih, List.forall_mem_append]

/-- What every permitted step meets under the invariant, holds along every permitted run. -/
theorem along_of_inv (A B : σ → ι → Prop) (I : σ → Prop)
    (hstep : ∀ s i, I s → A s i → I (step s i).1) (h : ∀ s i, I s → A s i → B s i) :
    ∀ (is : List ι) (s : σ), I s → Along step A s is → Along step B s is := by
  intro is
  induction is with
  | nil => intro s _ _; trivial
  | cons i is ih =>
    intro s hs hA
    exact ⟨h s i hs hA.1, ih _ (hstep s i hs hA.1) hA.2⟩

/-- **First failure.**  A condition on a permitted run may be exchanged for one that it is
equivalent to as long as it has held, if it keeps the invariant going. -/
theorem along_iff_of (G A B : σ → ι → Prop) (I : σ → Prop)
    (h : ∀ s i, I s → G s i → (A s i ↔ B s i))
    (hinv : ∀ s i, I s → G s i → A s i → I (step s i).1) :
    ∀ (is : List ι) (s : σ), I s → Along step G s is → (Along step A s is ↔ Along step B s is) := by
  intro is
  induction is with
  | nil => intro s _ _; exact Iff.rfl
  | cons i is ih =>
    intro s hs hG
    rw [along_cons, along_cons, h s i hs hG.1]
    apply and_congr_right
    intro hB
    exact ih _ (hinv s i hs hG.1 ((h s i hs hG.1).mpr hB)) hG.2

/-- Under an invariant of the runs permitted by `G`, two conditions on a run may be exchanged. -/
theorem along_congr (G A B : σ → ι → Prop) (I : σ → Prop)
    (hinv : ∀ s i, I s → G s i → I (step s i).1) (h : ∀ s i, I s → G s i → (A s i ↔ B s i)) :
    ∀ (is : List ι) (s : σ), I s → Along step G s is → (Along step A s is ↔ Along step B s is) :=
  along_iff_of step G A B I h fun s i hs hG _ => hinv s i hs hG

/-- The first-failure rule for a run on which nothing is assumed. -/
theorem along_iff (A B : σ → ι → Prop) (I : σ → Prop) (h : ∀ s i, I s → (A s i ↔ B s i))
    (hinv : ∀ s i, I s → A s i → I (step s i).1) (is : List ι) (s : σ) (hs : I s) :
    Along step A s is ↔ Along step B s is :=
  along_iff_of step (fun _ _ => True) A B I (fun s i hs _ => h s i hs)
    (fun s i hs _ => hinv s i hs) is s hs (along_true step s is)

/-- **Accounting rule.**  `φ` is a stored credit.  If in one step the outputs that count and the
credit left are covered by the credit before and the inputs that give some, so they are in a run. -/
theorem emits_credit (I : σ → Prop) (φ : σ → Nat) (gives : ι → Bool) (counts : ω → Bool)
    (hinv : ∀ s i, I s → I (step s i).1)
    (hstep : ∀ s i, I s →
      (step s i).2.countP counts + φ (step s i).1 ≤ [i].countP gives + φ s) :
    ∀ (is : List ι) (s : σ), I s →
      (emits step s is).countP counts + φ (exec step s is) ≤ is.countP gives + φ s := by
  intro is
  induction is with
  | nil => intro s _; simp
  | cons i is ih =>
    intro s h
    have h1 := hstep s i h
    have h2 := ih _ (hinv s i h)
    rw [emits_cons, exec_cons, List.countP_append]
    rw [← List.singleton_append, List.countP_append]
    omega

/-- An output of a run is the output of one of its steps. -/
theorem mem_emits_iff (s : σ) (is : List ι) (o : ω) :
    o ∈ emits step s is ↔
      ∃ pre i post, is = pre ++ i :: post ∧ o ∈ (step (exec step s pre) i).2 := by
  constructor
  · intro ho
    induction is generalizing s with
    | nil => cases ho
    | cons i is ih =>
      rcases List.mem_append.mp ho with ho | ho
      · exact ⟨[], i, is, rfl, ho⟩
      · obtain ⟨pre, j, post, he, h⟩ := ih _ ho
        exact ⟨i :: pre, j, post, by rw [he]; rfl, h⟩
  · rintro ⟨pre, i, post, rfl, h⟩
    rw [emits_append, emits_cons]
    exact List.mem_append_right _ (List.mem_append_left _ h)

/-- **Simulation rule.**  Two machines with the same inputs, the outputs of the first one seen
through `f`: if corresponding states step to corresponding states and show the same on every input
that the second machine permits, so they do on permitted runs. -/
theorem emits_sim {τ ω' : Type} (step' : τ → ι → τ × List ω') (A : τ → ι → Prop)
    (R : σ → τ → Prop) (f : ω → Option ω')
    (hstep : ∀ s t i, R s t → A t i →
      R (step s i).1 (step' t i).1 ∧ (step s i).2.filterMap f = (step' t i).2) :
    ∀ (is : List ι) (s : σ) (t : τ), R s t → Along step' A t is →
      R (exec step s is) (exec step' t is) ∧ (emits step s is).filterMap f = emits step' t is := by
  intro is
  induction is with
  | nil => intro s t h _; exact ⟨h, rfl⟩
  | cons i is ih =>
    intro s t h hA
    obtain ⟨hR, hout⟩ := hstep s t i h hA.1
    obtain ⟨hR', hout'⟩ := ih _ _ hR hA.2
    refine ⟨hR', ?_⟩
    rw [emits_cons, emits_cons, List.filterMap_append, hout, hout']

end

end Mealy
