import CuriosityT1S.Lib.WrapCounter
import CuriosityT1S.Main
import Mathlib.Algebra.Group.Nat.Defs
import Mathlib.Data.List.Induction

/-!
# Reset only after the full gesture

The record of a run has, for each iteration, the clock readings of the button
and reset code and the debounced state after the button task.  `GestureInv`
says what the flags and times stored now mean about it.

    debounced pressed:  since an iteration whose task read the stored press time
    not RESET_IDLE:     a press that lasted 3 s is in the record
    RESET_COUNTDOWN:    and after it a release, where the stored release time was read

    reset_after_gesture: so the reset comes after all of this and one more second
-/

namespace CuriosityT1S

open Mealy

structure LoopRecord where
  taskMs : Nat
  longMs : Nat
  resetMs : Nat
  pressed : Bool
deriving DecidableEq, Repr

def loopRecord (m : Main) (i : LoopIn) : LoopRecord :=
  ⟨i.taskMs, i.longMs, i.resetMs, (afterTask m i).btn.debouncedState⟩

def recordStep (m : Main) (i : LoopIn) : Main × List LoopRecord :=
  ((mainLoop m i).1, [loopRecord m i])

/-- The record of a run. -/
def record (m : Main) (is : List LoopIn) : List LoopRecord := emits recordStep m is

/-- The clock readings of a run, in order. -/
def loopReads (is : List LoopIn) : List Nat := is.flatMap fun i => [i.taskMs, i.longMs, i.resetMs]

/-- The debounced state is pressed from iteration `p` up to, not including, `n`. -/
def PressedFrom (l : List LoopRecord) (p n : Nat) : Prop :=
  ∀ x, p ≤ x → x < n → ∃ r, l[x]? = some r ∧ r.pressed = true

/-- At iteration `i` the button has been pressed since `p`, 3 s ago or more. -/
def LongPressed (l : List LoopRecord) (p i : Nat) : Prop :=
  p ≤ i ∧ PressedFrom l p (i + 1) ∧
    ∃ rp ri, l[p]? = some rp ∧ l[i]? = some ri ∧ rp.taskMs + 3000 ≤ ri.longMs

/-- The moves of the reset state machine. -/
def ResetMoves (a b : ResetState) : Prop :=
  a = b ∨ a = .idle ∧ b = .waitingRelease ∨ a = .waitingRelease ∧ b = .countdown

structure GestureInv (l : List LoopRecord) (m : Main) : Prop where
  press : m.btn.debouncedState = true → ∃ p r, l[p]? = some r ∧ PressedFrom l p l.length ∧
    m.btn.pressStartTime = UInt32.ofNat r.taskMs
  armed : m.resetState ≠ .idle → ∃ p i, LongPressed l p i
  counting : m.resetState = .countdown → ∃ p i j r, LongPressed l p i ∧ i < j ∧
    l[j]? = some r ∧ r.pressed = false ∧ m.resetReleaseTime = UInt32.ofNat r.resetMs

/-! ## The record -/

theorem getElem?_append_some {α : Type} {l : List α} {x : Nat} {a : α} (h : l[x]? = some a)
    (l' : List α) : (l ++ l')[x]? = some a := by
  obtain ⟨hx, -⟩ := List.getElem?_eq_some_iff.mp h
  rw [List.getElem?_append_left hx]
  exact h

theorem PressedFrom.append {l : List LoopRecord} {p n : Nat} (h : PressedFrom l p n)
    (l' : List LoopRecord) : PressedFrom (l ++ l') p n := by
  intro x hp hn
  obtain ⟨r, hr, hpr⟩ := h x hp hn
  exact ⟨r, getElem?_append_some hr l', hpr⟩

theorem PressedFrom.append_last {l : List LoopRecord} {p : Nat} (h : PressedFrom l p l.length)
    {r : LoopRecord} (hr : r.pressed = true) : PressedFrom (l ++ [r]) p (l ++ [r]).length := by
  intro x hp hn
  rw [List.length_append, List.length_singleton] at hn
  by_cases hx : x < l.length
  · exact h.append [r] x hp hx
  · have he : x = l.length := by omega
    subst he
    exact ⟨r, by simp, hr⟩

theorem LongPressed.append {l : List LoopRecord} {p i : Nat} (h : LongPressed l p i)
    (l' : List LoopRecord) : LongPressed (l ++ l') p i := by
  obtain ⟨hle, hp, rp, ri, h1, h2, h3⟩ := h
  exact ⟨hle, hp.append l', rp, ri, getElem?_append_some h1 l', getElem?_append_some h2 l', h3⟩

theorem LongPressed.lt {l : List LoopRecord} {p i : Nat} (h : LongPressed l p i) :
    i < l.length := by
  obtain ⟨-, -, -, ri, -, h2, -⟩ := h
  obtain ⟨hi, -⟩ := List.getElem?_eq_some_iff.mp h2
  exact hi

/-- The modular difference of two readings is at most the true one. -/
theorem add_le_of_ofNat_sub {a b : Nat} {d : UInt32} (hle : a ≤ b)
    (h : UInt32.ofNat b - UInt32.ofNat a ≥ d) : a + d.toNat ≤ b := by
  have h1 : d.toNat ≤ (UInt32.ofNat b - UInt32.ofNat a).toNat := UInt32.le_iff_toNat_le.mp h
  have h2 := WrapCounter.ofNat_sub_le hle
  omega

theorem exec_recordStep (m : Main) (is : List LoopIn) :
    exec recordStep m is = exec mainLoop m is := by
  induction is generalizing m with
  | nil => rfl
  | cons i is ih => exact ih _

/-- Entry `x` of the record is that of iteration `x`. -/
theorem record_getElem? (m : Main) (is : List LoopIn) (x : Nat) :
    (record m is)[x]? = is[x]?.map (loopRecord (exec mainLoop m (is.take x))) := by
  induction is generalizing m x with
  | nil => rfl
  | cons i is ih =>
    cases x with
    | zero => rfl
    | succ x => exact ih _ x

/-! ## One iteration -/

/-- The debounced state and the press time are those after the button task. -/
theorem mainLoop_btn (m : Main) (i : LoopIn) (hd : m.resetDone = false) :
    (mainLoop m i).1.btn.debouncedState = (afterTask m i).btn.debouncedState ∧
      (mainLoop m i).1.btn.pressStartTime = (afterTask m i).btn.pressStartTime := by
  have hpress : (afterPress m i).btn = { (afterTask m i).btn with wasPressed := false } := by
    unfold afterPress
    rw [shortPress_frame]
  have hswitch : (afterSwitch m i).btn.debouncedState = (afterPress m i).btn.debouncedState ∧
      (afterSwitch m i).btn.pressStartTime = (afterPress m i).btn.pressStartTime := by
    unfold afterSwitch resetSwitch
    split
    · simp only [appButtonLongPress_fst]
      split <;> exact ⟨rfl, rfl⟩
    · split <;> exact ⟨rfl, rfl⟩
    · split <;> exact ⟨rfl, rfl⟩
  rw [mainLoop_eq hd]
  simp only
  rw [heartbeatTask_frame]
  rw [hpress] at hswitch
  exact hswitch

theorem afterTask_btn (m : Main) (i : LoopIn) :
    (afterTask m i).btn = debounceButton m.btn i.raw (UInt32.ofNat i.taskMs) := by
  rw [afterTask_frame]

/-- The part of the state the reset switch looks at. -/
theorem afterPress_reset (m : Main) (i : LoopIn) :
    (afterPress m i).resetState = m.resetState ∧
      (afterPress m i).resetReleaseTime = m.resetReleaseTime ∧
      (afterPress m i).btn = { (afterTask m i).btn with wasPressed := false } := by
  unfold afterPress
  rw [shortPress_frame, afterTask_frame]
  exact ⟨rfl, rfl, rfl⟩

/-- What one iteration does to the reset state. -/
theorem mainLoop_reset (m : Main) (i : LoopIn) (hd : m.resetDone = false) :
    let m' := (mainLoop m i).1
    m'.resetState = m.resetState ∧ m'.resetReleaseTime = m.resetReleaseTime ∨
      m.resetState = .idle ∧ m'.resetState = .waitingRelease ∧
        (afterTask m i).btn.debouncedState = true ∧
        UInt32.ofNat i.longMs - (afterTask m i).btn.pressStartTime ≥ longPressResetMs ∨
      m.resetState = .waitingRelease ∧ m'.resetState = .countdown ∧
        (afterTask m i).btn.debouncedState = false ∧
        m'.resetReleaseTime = UInt32.ofNat i.resetMs := by
  obtain ⟨hs, ht, hb⟩ := afterPress_reset m i
  rw [mainLoop_eq hd]
  simp only
  rw [heartbeatTask_frame]
  simp only
  unfold afterSwitch resetSwitch
  rw [hs]
  cases hm : m.resetState with
  | idle =>
    simp only
    by_cases hl : (appButtonLongPress (afterPress m i).btn longPressResetMs
        (UInt32.ofNat i.longMs)).2 = true
    · rw [if_pos hl]
      obtain ⟨h1, -, h3⟩ := (appButtonLongPress_snd _ _ _).mp hl
      rw [hb] at h1 h3
      exact Or.inr (Or.inl ⟨trivial, rfl, h1, h3⟩)
    · rw [if_neg hl]
      exact Or.inl ⟨rfl, ht⟩
  | waitingRelease =>
    simp only
    by_cases hp : (!appButtonIsPressed (afterPress m i).btn) = true
    · rw [if_pos hp]
      have hf : (afterTask m i).btn.debouncedState = false := by
        rw [hb] at hp
        simpa [appButtonIsPressed] using hp
      exact Or.inr (Or.inr ⟨trivial, rfl, hf, rfl⟩)
    · rw [if_neg hp]
      exact Or.inl ⟨hs.trans hm, ht⟩
  | countdown =>
    simp only
    split
    · exact Or.inl ⟨rfl, ht⟩
    · exact Or.inl ⟨hs.trans hm, ht⟩

/-- The reset instruction stands in one place. -/
theorem softwareReset_switch (m : Main) (i : LoopIn) (h : .softwareReset ∈ (mainLoop m i).2) :
    m.resetDone = false ∧ .softwareReset ∈ (resetSwitch (afterPress m i) i).2 := by
  by_cases hd : m.resetDone = true
  · rw [mainLoop_done hd] at h
    cases h
  · have hexec : .softwareReset ∉ (t1sExecute m i).2 := by
      unfold t1sExecute
      split <;> simp
    have hpress : .softwareReset ∉ (shortPress (afterTask m i) i).2 := by
      unfold shortPress
      rw [appButtonWasPressed_eq]
      simp only
      split
      · split <;> simp
      · simp
    have hbeat : .softwareReset ∉ (heartbeatTask (afterSwitch m i) i).2 := by
      unfold heartbeatTask
      split
      · split <;> simp
      · simp
    rw [mainLoop_eq (by simpa using hd)] at h
    refine ⟨by simpa using hd, ?_⟩
    simp only [List.mem_append] at h
    rcases h with ((h | h) | h) | h
    · exact absurd h hexec
    · exact absurd h hpress
    · exact h
    · exact absurd h hbeat

theorem resetSwitch_softwareReset (m : Main) (i : LoopIn)
    (h : .softwareReset ∈ (resetSwitch m i).2) :
    m.resetState = .countdown ∧ UInt32.ofNat i.resetMs - m.resetReleaseTime ≥ resetDelayMs := by
  unfold resetSwitch at h
  split at h
  · simp only at h
    split at h
    · cases List.mem_singleton.mp h
    · cases h
  · split at h <;> cases h
  · next hc =>
    split at h
    · next hle => exact ⟨hc, hle⟩
    · cases h

theorem mainLoop_softwareReset (m : Main) (i : LoopIn)
    (h : .softwareReset ∈ (mainLoop m i).2) :
    m.resetDone = false ∧ m.resetState = .countdown ∧
      UInt32.ofNat i.resetMs - m.resetReleaseTime ≥ resetDelayMs := by
  obtain ⟨hs, ht, -⟩ := afterPress_reset m i
  obtain ⟨hd, hswitch⟩ := softwareReset_switch m i h
  have hreset := resetSwitch_softwareReset _ i hswitch
  rw [hs, ht] at hreset
  exact ⟨hd, hreset⟩

/-- A press going on is in the record, with the present iteration. -/
theorem GestureInv.pressing {l : List LoopRecord} {m : Main} (h : GestureInv l m) (i : LoopIn)
    (hclock : ∀ r ∈ l, r.taskMs ≤ i.longMs) (hnow : i.taskMs ≤ i.longMs)
    (hp : (afterTask m i).btn.debouncedState = true) :
    ∃ p r, (l ++ [loopRecord m i])[p]? = some r ∧
      PressedFrom (l ++ [loopRecord m i]) p (l ++ [loopRecord m i]).length ∧
      (afterTask m i).btn.pressStartTime = UInt32.ofNat r.taskMs ∧ r.taskMs ≤ i.longMs := by
  have hspec := debounceButton_spec m.btn i.raw (UInt32.ofNat i.taskMs)
  rw [← afterTask_btn m i] at hspec
  cases hspec with
  | same deb was start long =>
    obtain ⟨p, r, hr, hfrom, ht⟩ := h.press (deb.symm.trans hp)
    exact ⟨p, r, getElem?_append_some hr _, hfrom.append_last hp, start.trans ht,
      hclock r (List.mem_of_getElem? hr)⟩
  | rise old deb was start long =>
    refine ⟨l.length, loopRecord m i, by simp, ?_, start, hnow⟩
    exact PressedFrom.append_last (fun x h1 h2 => absurd h1 (by omega)) hp
  | fall old deb was start long =>
    rw [deb] at hp
    cases hp

/-- An iteration keeps the invariant if its clock readings are not before those in the record. -/
theorem gestureInv_step (l : List LoopRecord) (m : Main) (i : LoopIn) (hd : m.resetDone = false)
    (h : GestureInv l m) (hclock : ∀ r ∈ l, r.taskMs ≤ i.longMs) (hnow : i.taskMs ≤ i.longMs) :
    GestureInv (l ++ [loopRecord m i]) (mainLoop m i).1 := by
  obtain ⟨hdeb, hstart⟩ := mainLoop_btn m i hd
  have hpress := h.pressing i hclock hnow
  have hlast : (l ++ [loopRecord m i])[l.length]? = some (loopRecord m i) := by simp
  refine ⟨?_, ?_, ?_⟩
  · intro hp
    rw [hdeb] at hp
    obtain ⟨p, r, hr, hfrom, ht, -⟩ := hpress hp
    exact ⟨p, r, hr, hfrom, hstart.trans ht⟩
  · intro hne
    rcases mainLoop_reset m i hd with ⟨hs, -⟩ | ⟨-, -, hp, hlong⟩ | ⟨hw, -⟩
    · rw [hs] at hne
      obtain ⟨p, j, hlp⟩ := h.armed hne
      exact ⟨p, j, hlp.append _⟩
    · -- the long press is noticed here
      obtain ⟨p, r, hr, hfrom, ht, hle⟩ := hpress hp
      rw [ht] at hlong
      have h3000 := add_le_of_ofNat_sub hle hlong
      have hplt := (List.getElem?_eq_some_iff.mp hr).1
      rw [List.length_append, List.length_singleton] at hplt hfrom
      exact ⟨p, l.length, by omega, hfrom, r, loopRecord m i, hr, hlast, h3000⟩
    · obtain ⟨p, j, hlp⟩ := h.armed (by rw [hw]; nofun)
      exact ⟨p, j, hlp.append _⟩
  · intro hc
    rcases mainLoop_reset m i hd with ⟨hs, ht⟩ | ⟨-, hw, -⟩ | ⟨hw, -, hup, ht⟩
    · rw [hs] at hc
      obtain ⟨p, j, k, r, hlp, hjk, hr, hup, hrel⟩ := h.counting hc
      exact ⟨p, j, k, r, hlp.append _, hjk, getElem?_append_some hr _, hup, ht.trans hrel⟩
    · rw [hw] at hc
      cases hc
    · -- the release is noticed here
      obtain ⟨p, j, hlp⟩ := h.armed (by rw [hw]; nofun)
      exact ⟨p, j, l.length, loopRecord m i, hlp.append _, hlp.lt, hlast, hup, ht⟩

theorem resetDone_mono (m : Main) (i : LoopIn) (h : (mainLoop m i).1.resetDone = false) :
    m.resetDone = false := by
  cases hd : m.resetDone with
  | false => rfl
  | true =>
    rw [mainLoop_done hd, hd] at h
    exact h

/-! ## Whole runs -/

theorem gestureInv_init (role : BoardRole) (boot : MainBoot) :
    GestureInv [] (mainInit role boot) := ⟨nofun, fun h => absurd rfl h, nofun⟩

/-- The readings in the record are those of the run. -/
theorem record_reads (m : Main) (is : List LoopIn) (r : LoopRecord) (h : r ∈ record m is) :
    r.taskMs ∈ loopReads is ∧ r.resetMs ∈ loopReads is := by
  obtain ⟨pre, i, post, rfl, hi⟩ := (mem_emits_iff recordStep m is r).mp h
  obtain rfl := List.mem_singleton.mp hi
  have hmem : ∀ t ∈ [i.taskMs, i.longMs, i.resetMs], t ∈ loopReads (pre ++ i :: post) := by
    intro t ht
    unfold loopReads
    rw [List.flatMap_append, List.flatMap_cons]
    exact List.mem_append_right _ (List.mem_append_left _ ht)
  exact ⟨hmem _ (by simp [loopRecord]), hmem _ (by simp [loopRecord])⟩

/-- A new iteration reads the clock after those before it. -/
theorem reads_le {js : List LoopIn} {i : LoopIn}
    (h : (loopReads (js ++ [i])).Pairwise (· ≤ ·)) :
    (loopReads js).Pairwise (· ≤ ·) ∧ (∀ t ∈ loopReads js, t ≤ i.longMs ∧ t ≤ i.resetMs) ∧
      i.taskMs ≤ i.longMs := by
  unfold loopReads at h
  rw [List.flatMap_append, List.flatMap_cons, List.flatMap_nil, List.append_nil] at h
  obtain ⟨h1, h2, h3⟩ := List.pairwise_append.mp h
  refine ⟨h1, fun t ht => ⟨h3 t ht _ (by simp), h3 t ht _ (by simp)⟩, ?_⟩
  exact List.rel_of_pairwise_cons h2 (by simp)

/-- As long as the board has not been reset, what is stored means what it should. -/
theorem gesture_run (role : BoardRole) (boot : MainBoot) (is : List LoopIn)
    (hclock : (loopReads is).Pairwise (· ≤ ·))
    (hd : (exec mainLoop (mainInit role boot) is).resetDone = false) :
    GestureInv (record (mainInit role boot) is) (exec mainLoop (mainInit role boot) is) := by
  induction is using List.reverseRecOn with
  | nil => exact gestureInv_init role boot
  | append_singleton js i ih =>
    have hrec : record (mainInit role boot) (js ++ [i]) =
        record (mainInit role boot) js ++
          [loopRecord (exec mainLoop (mainInit role boot) js) i] := by
      unfold record
      rw [emits_append, exec_recordStep]
      rfl
    rw [exec_append] at hd
    rw [hrec, exec_append]
    obtain ⟨hjs, hle, hnow⟩ := reads_le hclock
    have hbefore := resetDone_mono _ i hd
    exact gestureInv_step _ _ i hbefore (ih hjs hbefore)
      (fun r hr => (hle _ (record_reads _ _ r hr).1).1) hnow

theorem resetMoves_step (m : Main) (i : LoopIn) :
    ResetMoves m.resetState (mainLoop m i).1.resetState := by
  by_cases hd : m.resetDone = true
  · rw [mainLoop_done hd]
    exact Or.inl rfl
  · rcases mainLoop_reset m i (by simpa using hd) with ⟨hs, -⟩ | ⟨ha, hb, -⟩ | ⟨ha, hb, -⟩
    · exact Or.inl hs.symm
    · exact Or.inr (Or.inl ⟨ha, hb⟩)
    · exact Or.inr (Or.inr ⟨ha, hb⟩)

/-- **The full gesture.**  In every run of the main loop with a clock that does not go back, on
either board: the software reset is executed in an iteration only if before it the button was
pressed for 3 s up to an iteration `i`, was released at a later one `j`, and 1 s has passed since;
and the reset state moves only forward. -/
theorem reset_after_gesture (role : BoardRole) (boot : MainBoot) (is : List LoopIn)
    (hclock : (loopReads is).Pairwise (· ≤ ·)) :
    (∀ pre x post, is = pre ++ x :: post →
      .softwareReset ∈ (mainLoop (exec mainLoop (mainInit role boot) pre) x).2 →
      ∃ p i j r, LongPressed (record (mainInit role boot) pre) p i ∧ i < j ∧
        (record (mainInit role boot) pre)[j]? = some r ∧ r.pressed = false ∧
        r.resetMs + 1000 ≤ x.resetMs) ∧
    Along mainLoop (fun m x => ResetMoves m.resetState (mainLoop m x).1.resetState)
      (mainInit role boot) is := by
  constructor
  · rintro pre x post rfl hreset
    obtain ⟨hd, hcount, hdelay⟩ := mainLoop_softwareReset _ x hreset
    have hpre : (loopReads (pre ++ [x])).Pairwise (· ≤ ·) := by
      rw [List.append_cons] at hclock
      unfold loopReads at hclock ⊢
      rw [List.flatMap_append] at hclock
      exact (List.pairwise_append.mp hclock).1
    obtain ⟨hjs, hle, -⟩ := reads_le hpre
    obtain ⟨p, i, j, r, hlp, hij, hr, hup, ht⟩ :=
      (gesture_run role boot pre hjs hd).counting hcount
    rw [ht] at hdelay
    have hread := (record_reads _ _ r (List.mem_of_getElem? hr)).2
    have h1000 := add_le_of_ofNat_sub (hle _ hread).2 hdelay
    exact ⟨p, i, j, r, hlp, hij, hr, hup, h1000⟩
  · exact along_of_step mainLoop _ resetMoves_step _ is

/-- Held for 3 s, released, and reset 1 s later. -/
def gestureRun : List LoopIn :=
  [.quiet true 100, .quiet true 130, .quiet true 3130, .quiet false 3140, .quiet false 3170]

theorem reset_after_gesture_held :
    (∃ p i j r, LongPressed (record (mainInit .server serverBoot) gestureRun) p i ∧ i < j ∧
      (record (mainInit .server serverBoot) gestureRun)[j]? = some r ∧ r.pressed = false ∧
      r.resetMs + 1000 ≤ 4170) ∧
    .softwareReset ∈
      (mainLoop (exec mainLoop (mainInit .server serverBoot) gestureRun) (.quiet false 4170)).2 :=
  have hreset : .softwareReset ∈
      (mainLoop (exec mainLoop (mainInit .server serverBoot) gestureRun) (.quiet false 4170)).2 := by
    decide +kernel
  ⟨(reset_after_gesture .server serverBoot (gestureRun ++ [.quiet false 4170]) (by decide)).1
    gestureRun (.quiet false 4170) [] rfl hreset, hreset⟩

end CuriosityT1S
