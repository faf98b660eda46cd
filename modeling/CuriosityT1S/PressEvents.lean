import CuriosityT1S.Lib.Mealy
import CuriosityT1S.App
import CuriosityT1S.Lib.WrapCounter
import Mathlib.Algebra.Group.Nat.Defs
import Mathlib.Data.List.Chain

/-!
# Each press is one event

A poll is `APP_Buttons_Task`, `APP_Button_WasPressed` and `APP_Button_LongPress`
for one hold time, in this order.  Times are true milliseconds; the code sees
them modulo 2^32, and so the time for which a press has lasted.

    pollStep_rise, pollStep_held, pollStep_up:  what one poll does in a press and outside
    press_oneEvent:  a press is one `longPress` while it lasts or one `wasPressed` when it ends
-/

namespace CuriosityT1S

open Mealy WrapCounter

/-- The raw sample, and the clock when the task and `APP_Button_LongPress` read it. -/
structure Poll where
  raw : Bool
  taskMs : Nat
  longMs : Nat
deriving DecidableEq, Repr

inductive ButtonEvent
  | wasPressed | longPress
deriving DecidableEq, Repr

def pollStep (holdMs : UInt32) (btn : AppBtn) (p : Poll) : AppBtn × List ButtonEvent :=
  let btn := debounceButton btn p.raw (UInt32.ofNat p.taskMs)
  let (btn, was) := appButtonWasPressed btn
  let (btn, long) := appButtonLongPress btn holdMs (UInt32.ofNat p.longMs)
  (btn, (if was then [.wasPressed] else []) ++ (if long then [.longPress] else []))

/-- The clock readings of some polls, in order. -/
def pollReads (ps : List Poll) : List Nat := ps.flatMap fun p => [p.taskMs, p.longMs]

/-- The press that began at `t0` has lasted the hold time when `p` looks. -/
def Poll.lasted (holdMs : UInt32) (t0 : Nat) (p : Poll) : Bool := holdMs.toNat ≤ p.longMs - t0

/-- So it has by the 32-bit clock. -/
def Poll.long (holdMs : UInt32) (t0 : Nat) (p : Poll) : Bool :=
  holdMs.toNat ≤ (p.longMs - t0) % 2 ^ 32

theorem Poll.long_eq_lasted (holdMs : UInt32) (t0 : Nat) (p : Poll) (h : p.longMs - t0 < 2 ^ 32) :
    p.long holdMs t0 = p.lasted holdMs t0 := by
  unfold Poll.long Poll.lasted
  rw [Nat.mod_eq_of_lt h]

/-! ## One poll -/

/-- A press that began at `t0` is going on, reported or not; no event is waiting. -/
structure PressedSince (btn : AppBtn) (t0 : Nat) (reported : Bool) : Prop where
  debounced : btn.debouncedState = true
  start : btn.pressStartTime = UInt32.ofNat t0
  long : btn.longPressDetected = reported
  was : btn.wasPressed = false

/-- What `APP_Button_LongPress` does at the end of a poll in a press. -/
theorem longPress_pressed {btn : AppBtn} {t0 : Nat} {reported : Bool}
    (h : PressedSince btn t0 reported) (holdMs : UInt32) (p : Poll) (hle : t0 ≤ p.longMs) :
    (appButtonLongPress btn holdMs (UInt32.ofNat p.longMs)).2 = (!reported && p.long holdMs t0) ∧
      PressedSince (appButtonLongPress btn holdMs (UInt32.ofNat p.longMs)).1 t0
        (reported || p.long holdMs t0) := by
  have hb : (appButtonLongPress btn holdMs (UInt32.ofNat p.longMs)).2 =
      (!reported && p.long holdMs t0) := by
    rw [Bool.eq_iff_iff, appButtonLongPress_snd, h.debounced, h.long, h.start, ge_iff_le,
      UInt32.le_iff_toNat_le, toNat_ofNat_sub hle]
    simp [Poll.long]
  refine ⟨hb, ?_⟩
  rw [appButtonLongPress_fst, hb]
  refine ⟨h.debounced, h.start, ?_, h.was⟩
  show (btn.longPressDetected || (!reported && p.long holdMs t0)) = _
  rw [h.long]
  cases reported <;> rfl

/-- The events of a poll do not touch the state. -/
theorem pollStep_debounced (holdMs : UInt32) (btn : AppBtn) (p : Poll) :
    (pollStep holdMs btn p).1.debouncedState =
      (debounceButton btn p.raw (UInt32.ofNat p.taskMs)).debouncedState := by
  simp only [pollStep, appButtonWasPressed_fst]
  rw [appButtonLongPress_fst]

/-- A poll at which a press starts. -/
theorem pollStep_rise (holdMs : UInt32) (btn : AppBtn) (p : Poll) (hwas : btn.wasPressed = false)
    (h0 : btn.debouncedState = false) (h1 : (pollStep holdMs btn p).1.debouncedState = true)
    (hle : p.taskMs ≤ p.longMs) :
    (pollStep holdMs btn p).2 = (if p.long holdMs p.taskMs then [.longPress] else []) ∧
      PressedSince (pollStep holdMs btn p).1 p.taskMs (p.long holdMs p.taskMs) := by
  have hdeb : (debounceButton btn p.raw (UInt32.ofNat p.taskMs)).debouncedState = true :=
    (pollStep_debounced holdMs btn p).symm.trans h1
  simp only [pollStep, appButtonWasPressed_fst, appButtonWasPressed_snd]
  cases debounceButton_spec btn p.raw (UInt32.ofNat p.taskMs) with
  | same deb was start long => rw [deb, h0] at hdeb; cases hdeb
  | fall old deb was start long => rw [deb] at hdeb; cases hdeb
  | rise old deb was start long =>
    have hp : PressedSince { debounceButton btn p.raw (UInt32.ofNat p.taskMs) with
        wasPressed := false } p.taskMs false := ⟨deb, start, long, rfl⟩
    obtain ⟨hl, hn⟩ := longPress_pressed hp holdMs p hle
    rw [hl, was, hwas]
    exact ⟨rfl, hn⟩

/-- A poll in the course of a press. -/
theorem pollStep_held (holdMs : UInt32) (btn : AppBtn) (t0 : Nat) (reported : Bool) (p : Poll)
    (h : PressedSince btn t0 reported) (h1 : (pollStep holdMs btn p).1.debouncedState = true)
    (hle : t0 ≤ p.longMs) :
    (pollStep holdMs btn p).2 = (if !reported && p.long holdMs t0 then [.longPress] else []) ∧
      PressedSince (pollStep holdMs btn p).1 t0 (reported || p.long holdMs t0) := by
  have hdeb : (debounceButton btn p.raw (UInt32.ofNat p.taskMs)).debouncedState = true :=
    (pollStep_debounced holdMs btn p).symm.trans h1
  simp only [pollStep, appButtonWasPressed_fst, appButtonWasPressed_snd]
  cases debounceButton_spec btn p.raw (UInt32.ofNat p.taskMs) with
  | rise old => rw [h.debounced] at old; cases old
  | fall old deb => rw [deb] at hdeb; cases hdeb
  | same deb was start long =>
    have hp : PressedSince { debounceButton btn p.raw (UInt32.ofNat p.taskMs) with
        wasPressed := false } t0 reported := ⟨hdeb, start.trans h.start, long.trans h.long, rfl⟩
    obtain ⟨hl, hn⟩ := longPress_pressed hp holdMs p hle
    rw [hl, was, h.was]
    exact ⟨rfl, hn⟩

/-- A poll after which the button is not pressed: the end of a press, or none. -/
theorem pollStep_up (holdMs : UInt32) (btn : AppBtn) (p : Poll) (hwas : btn.wasPressed = false)
    (h1 : (pollStep holdMs btn p).1.debouncedState = false) :
    (pollStep holdMs btn p).2 =
      if btn.debouncedState && !btn.longPressDetected then [.wasPressed] else [] := by
  have hdeb : (debounceButton btn p.raw (UInt32.ofNat p.taskMs)).debouncedState = false :=
    (pollStep_debounced holdMs btn p).symm.trans h1
  simp only [pollStep, appButtonWasPressed_fst, appButtonWasPressed_snd]
  have hlong : (appButtonLongPress { debounceButton btn p.raw (UInt32.ofNat p.taskMs) with
      wasPressed := false } holdMs (UInt32.ofNat p.longMs)).2 = false := by
    rw [Bool.eq_false_iff, ne_eq, appButtonLongPress_snd]
    rintro ⟨hd, -⟩
    exact absurd hd (by simp [hdeb])
  rw [hlong]
  cases debounceButton_spec btn p.raw (UInt32.ofNat p.taskMs) with
  | rise old deb => rw [deb] at hdeb; cases hdeb
  | same deb was => rw [was, hwas, ← deb, hdeb]; rfl
  | fall old deb was => rw [was, hwas, old]; cases btn.longPressDetected <;> rfl

/-- No event waits from one poll to the next. -/
theorem pollStep_was (holdMs : UInt32) (btn : AppBtn) (p : Poll) :
    (pollStep holdMs btn p).1.wasPressed = false := by
  simp only [pollStep, appButtonWasPressed_fst]
  rw [appButtonLongPress_fst]

/-! ## Presses -/

/-- After every poll the button is pressed. -/
def StaysPressed (holdMs : UInt32) : AppBtn → List Poll → Prop :=
  Along (pollStep holdMs) fun btn p => (pollStep holdMs btn p).1.debouncedState = true

/-- A press up to now: one `longPress` at the first poll that saw it last the hold time. -/
theorem held_run (holdMs : UInt32) (t0 : Nat) (ps : List Poll) :
    ∀ (btn : AppBtn) (reported : Bool), PressedSince btn t0 reported →
      StaysPressed holdMs btn ps → (∀ p ∈ ps, t0 ≤ p.longMs) →
      emits (pollStep holdMs) btn ps =
          (if !reported && ps.any (Poll.long holdMs t0) then [.longPress] else []) ∧
        PressedSince (exec (pollStep holdMs) btn ps) t0
          (reported || ps.any (Poll.long holdMs t0)) := by
  induction ps with
  | nil =>
    intro btn reported h _ _
    cases reported <;> exact ⟨rfl, h⟩
  | cons p ps ih =>
    intro btn reported h hs ht
    obtain ⟨hout, hp⟩ := pollStep_held holdMs btn t0 reported p h hs.1 (ht p List.mem_cons_self)
    obtain ⟨houts, hps⟩ := ih _ _ hp hs.2 fun q hq => ht q (List.mem_cons_of_mem p hq)
    rw [emits_cons, exec_cons, hout, houts, List.any_cons]
    rw [Bool.or_assoc] at hps
    refine ⟨?_, hps⟩
    cases reported <;> cases p.long holdMs t0 <;> cases ps.any (Poll.long holdMs t0) <;> rfl

theorem poll_run_was (holdMs : UInt32) (ps : List Poll) :
    (exec (pollStep holdMs) appButtonsInit ps).wasPressed = false :=
  exec_inv_all (pollStep holdMs) (fun btn => btn.wasPressed = false)
    (fun btn p _ => pollStep_was holdMs btn p) ps appButtonsInit rfl

/-- The clock never goes back, so every later reading is at or after the start of the press. -/
theorem le_of_reads {ps : List Poll} (h : (pollReads ps).Pairwise (· ≤ ·)) {pre mid post : List Poll}
    {p : Poll} (he : ps = pre ++ p :: mid ++ post) : ∀ r ∈ p :: mid, p.taskMs ≤ r.longMs := by
  subst he
  simp only [pollReads, List.append_assoc, List.cons_append, List.nil_append,
    List.flatMap_append, List.flatMap_cons] at h
  obtain ⟨-, h, -⟩ := List.pairwise_append.mp h
  intro r hr
  apply List.rel_of_pairwise_cons h
  rcases List.mem_cons.mp hr with rfl | hr
  · exact List.mem_cons_self
  · apply List.mem_cons_of_mem
    apply List.mem_append_left
    show r.longMs ∈ mid.flatMap fun p => [p.taskMs, p.longMs]
    exact List.mem_flatMap.mpr ⟨r, hr, List.mem_cons_of_mem r.taskMs List.mem_cons_self⟩

/-- From the poll `p` at which the debounced state rises to the poll `q` at which it falls, there
is one `longPress` before `q` if some poll before `q` finds the press long, else one `wasPressed` at
`q`, and nothing else; a poll with the button up before and after has no event. -/
def OneEvent (long : UInt32 → Nat → Poll → Bool) (holdMs : UInt32) (ps : List Poll) : Prop :=
  (∀ pre p mid q post, ps = pre ++ p :: mid ++ q :: post →
    let before := exec (pollStep holdMs) appButtonsInit pre
    let last := exec (pollStep holdMs) before (p :: mid)
    before.debouncedState = false → StaysPressed holdMs before (p :: mid) →
    (pollStep holdMs last q).1.debouncedState = false →
    emits (pollStep holdMs) before (p :: mid) =
        (if (p :: mid).any (long holdMs p.taskMs) then [.longPress] else []) ∧
      (pollStep holdMs last q).2 =
        if (p :: mid).any (long holdMs p.taskMs) then [] else [.wasPressed]) ∧
  ∀ pre q post, ps = pre ++ q :: post →
    let before := exec (pollStep holdMs) appButtonsInit pre
    before.debouncedState = false → (pollStep holdMs before q).1.debouncedState = false →
    (pollStep holdMs before q).2 = []

/-- **Each press is one event.**  In every run with a clock that does not go back: one `longPress`
if some poll finds that the press has lasted the hold time by the 32-bit clock, else one
`wasPressed`.  In the first 2^32 ms of a press this is the time it has lasted. -/
theorem press_oneEvent (holdMs : UInt32) (ps : List Poll)
    (hclock : (pollReads ps).Pairwise (· ≤ ·)) :
    OneEvent Poll.long holdMs ps ∧
      ∀ t0, ∀ p ∈ ps, p.longMs - t0 < 2 ^ 32 → p.long holdMs t0 = p.lasted holdMs t0 := by
  refine ⟨⟨?_, ?_⟩, fun t0 p _ => p.long_eq_lasted holdMs t0⟩
  · intro pre p mid q post he before last hup hpressed hfall
    have hle := le_of_reads hclock he
    obtain ⟨hout, hp⟩ := pollStep_rise holdMs before p (poll_run_was holdMs pre) hup hpressed.1
      (hle p List.mem_cons_self)
    obtain ⟨houts, hlast⟩ := held_run holdMs p.taskMs mid _ _ hp hpressed.2 fun r hr =>
      hle r (List.mem_cons_of_mem p hr)
    constructor
    · rw [emits_cons, hout, houts, List.any_cons]
      cases p.long holdMs p.taskMs <;> cases mid.any (Poll.long holdMs p.taskMs) <;> rfl
    · have hl : PressedSince last p.taskMs ((p :: mid).any (Poll.long holdMs p.taskMs)) := hlast
      rw [pollStep_up holdMs last q hl.was hfall, hl.debounced, hl.long]
      cases (p :: mid).any (Poll.long holdMs p.taskMs) <;> rfl
  · intro pre q post _ before hup hstay
    rw [pollStep_up holdMs before q (poll_run_was holdMs pre) hstay, hup]
    rfl

/-- Pressed for 900 ms: a short press. -/
theorem press_oneEvent_short :
    emits (pollStep 3000) (exec (pollStep 3000) appButtonsInit [⟨true, 100, 100⟩])
        [⟨true, 130, 130⟩, ⟨true, 1000, 1000⟩, ⟨false, 1010, 1010⟩] = [] ∧
      (pollStep 3000 (exec (pollStep 3000) (exec (pollStep 3000) appButtonsInit [⟨true, 100, 100⟩])
        [⟨true, 130, 130⟩, ⟨true, 1000, 1000⟩, ⟨false, 1010, 1010⟩]) ⟨false, 1040, 1040⟩).2 =
        [.wasPressed] :=
  (press_oneEvent 3000 [⟨true, 100, 100⟩, ⟨true, 130, 130⟩, ⟨true, 1000, 1000⟩, ⟨false, 1010, 1010⟩,
    ⟨false, 1040, 1040⟩] (by decide)).1.1 [⟨true, 100, 100⟩] ⟨true, 130, 130⟩
    [⟨true, 1000, 1000⟩, ⟨false, 1010, 1010⟩] ⟨false, 1040, 1040⟩ [] rfl (by decide)
    ⟨by decide, by decide, by decide, trivial⟩ (by decide)

/-- Held for 2^32 ms and looked at 870 ms after the press began and then 2 ms after the wrap. -/
def wrappedPress : List Poll :=
  [⟨true, 100, 100⟩, ⟨true, 130, 130⟩, ⟨true, 1000, 1000⟩, ⟨true, 4294967428, 4294967428⟩,
    ⟨false, 4294967436, 4294967436⟩, ⟨false, 4294967466, 4294967466⟩]

/-- By the true time some press is long that is reported as a short one. -/
theorem press_oneEvent_not_lasted :
    ¬ ∀ (holdMs : UInt32) (ps : List Poll), (pollReads ps).Pairwise (· ≤ ·) →
      (pollReads ps).IsChain (fun a b => b - a < 2 ^ 32) → OneEvent Poll.lasted holdMs ps := by
  intro h
  have hone := (h 3000 wrappedPress (by decide) (by decide)).1 [⟨true, 100, 100⟩] ⟨true, 130, 130⟩
    [⟨true, 1000, 1000⟩, ⟨true, 4294967428, 4294967428⟩, ⟨false, 4294967436, 4294967436⟩]
    ⟨false, 4294967466, 4294967466⟩ [] rfl (by decide)
    ⟨by decide, by decide, by decide, by decide, trivial⟩ (by decide)
  exact absurd hone.2 (by decide)

end CuriosityT1S
