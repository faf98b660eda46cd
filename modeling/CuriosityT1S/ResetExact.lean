import CuriosityT1S.Debounce
import CuriosityT1S.ResetGesture

/-!
# The reset comes exactly when the gesture says (main.c, app.c)

The gesture is recognised by a machine of its own, which sees only the button and the clock and
counts in milliseconds that never wrap.  As long as no two iterations are 2^32 - 3000 ms apart the
main loop resets the board in the same iteration as this machine, whatever else it is doing.

    sample:   the debounced press, from the raw samples
    phase:    idle → armed → released → reset

    GestureSim:     what the stored state says about the machine
    Gesture.Timed:  how far back its times can be, so that no difference wraps
    reset_exactly:  the two agree, iteration by iteration
-/

namespace CuriosityT1S

open Mealy WrapCounter

/-! ## The gesture -/

inductive GesturePhase
  | idle
  | armed
  | released (ms : Nat)
  | reset
deriving DecidableEq, Repr

structure Gesture where
  last : Bool
  since : Nat
  pressedAt : Option Nat
  phase : GesturePhase
deriving DecidableEq, Repr

def Gesture.start : Gesture := ⟨false, 0, none, .idle⟩

/-- A sample that has been the same for more than 20 ms counts. -/
def Gesture.sample (g : Gesture) (raw : Bool) (now : Nat) : Gesture :=
  { g with
    last := raw
    since := if raw = g.last then g.since else now
    pressedAt :=
      if raw = g.last ∧ g.since + 20 < now then
        if raw then some (g.pressedAt.getD now) else none
      else g.pressedAt }

/-- What the press leads to, and whether the board is reset now. -/
def Gesture.switch (g : Gesture) (i : LoopIn) : Gesture × Bool :=
  match g.phase with
  | .idle =>
    ({ g with phase := if g.pressedAt.any (· + 3000 ≤ i.longMs) then .armed else .idle }, false)
  | .armed =>
    ({ g with phase := if g.pressedAt.isNone then .released i.resetMs else .armed }, false)
  | .released t =>
    if t + 1000 ≤ i.resetMs then ({ g with phase := .reset }, true) else (g, false)
  | .reset => (g, false)

def gestureStep (g : Gesture) (i : LoopIn) : Gesture × List Bool :=
  let s := (g.sample i.raw i.taskMs).switch i
  (s.1, [s.2])

/-- One iteration of the main loop, and whether the board is reset in it. -/
def resetStep (m : Main) (i : LoopIn) : Main × List Bool :=
  ((mainLoop m i).1, [decide (.softwareReset ∈ (mainLoop m i).2)])

/-! ## The debounced press -/

/-- The stored button is the machine's, its times modulo 2^32. -/
structure ButtonSim (btn : AppBtn) (g : Gesture) : Prop where
  last : btn.lastState = g.last
  since : btn.lastDebounceTime = UInt32.ofNat g.since
  pressed : btn.debouncedState = g.pressedAt.isSome
  start : ∀ t, g.pressedAt = some t → btn.pressStartTime = UInt32.ofNat t

/-- Far enough in the past, a change of the sample has been taken over. -/
def Gesture.Settled (g : Gesture) (now : Nat) : Prop :=
  g.since ≤ now ∧ (g.pressedAt.isSome = g.last ∨ now < g.since + 2 ^ 32)

@[simp] theorem sample_phase (g : Gesture) (raw : Bool) (now : Nat) :
    (g.sample raw now).phase = g.phase := rfl

theorem sample_pressedAt {g : Gesture} {raw : Bool} {now t : Nat}
    (h : (g.sample raw now).pressedAt = some t) :
    g.pressedAt = some t ∨ g.pressedAt = none ∧ t = now := by
  unfold Gesture.sample at h
  simp only at h
  split at h
  · split at h
    · obtain rfl := Option.some.inj h
      cases hp : g.pressedAt with
      | none => exact .inr ⟨rfl, rfl⟩
      | some t => exact .inl rfl
    · cases h
  · exact .inl h

theorem ButtonSim.sample {btn : AppBtn} {g : Gesture} (h : ButtonSim btn g) (raw : Bool)
    {now : Nat} (hset : g.Settled now) :
    ButtonSim (debounceButton btn raw (UInt32.ofNat now)) (g.sample raw now) := by
  have hpressed : (debounceButton btn raw (UInt32.ofNat now)).debouncedState =
      (g.sample raw now).pressedAt.isSome := by
    rw [debounceButton_state, h.last, h.since, h.pressed]
    unfold Gesture.sample
    simp only
    obtain ⟨hle, hset⟩ := hset
    by_cases hr : raw = g.last
    · rcases hset with hset | hset
      · -- the state is the sample already
        rw [hr, ← hset]
        split_ifs <;> simp_all
      · rw [ofNat_sub_ofNat hle (by omega)]
        by_cases h20 : g.since + 20 < now
        · rw [if_pos ⟨hr, by omega⟩, if_pos ⟨hr, h20⟩]
          cases raw <;> rfl
        · rw [if_neg fun hc => h20 (by omega), if_neg fun hc => h20 hc.2]
    · rw [if_neg fun hc => hr hc.1, if_neg fun hc => hr hc.1]
  refine ⟨rfl, ?_, hpressed, fun t ht => ?_⟩
  · rw [debounceButton_time, h.last, h.since]
    unfold Gesture.sample
    by_cases hr : raw = g.last
    · rw [if_neg (not_not_intro hr)]
      simp only [if_pos hr]
    · rw [if_pos hr]
      simp only [if_neg hr]
  · rw [ht] at hpressed
    cases debounceButton_spec btn raw (UInt32.ofNat now) with
    | same deb was start long =>
      rw [start]
      rcases sample_pressedAt ht with hold | ⟨hnone, -⟩
      · exact h.start t hold
      · rw [deb, h.pressed, hnone] at hpressed
        cases hpressed
    | rise old deb was start long =>
      rw [start]
      rcases sample_pressedAt ht with hold | ⟨-, rfl⟩
      · rw [h.pressed, hold] at old
        cases old
      · rfl
    | fall old deb was start long =>
      rw [deb] at hpressed
      cases hpressed

theorem ButtonSim.congr {btn btn' : AppBtn} {g g' : Gesture} (h : ButtonSim btn g)
    (hbtn : btn' = { btn with wasPressed := btn'.wasPressed,
                              longPressDetected := btn'.longPressDetected })
    (hg : g' = { g with phase := g'.phase }) : ButtonSim btn' g' := by
  rw [hbtn, hg]
  exact ⟨h.last, h.since, h.pressed, h.start⟩

/-! ## The reset switch -/

/-- The stored reset state is the phase. -/
def PhaseSim (m : Main) : GesturePhase → Prop
  | .idle => m.resetState = .idle ∧ (m.btn.debouncedState = true → m.btn.longPressDetected = false)
  | .armed => m.resetState = .waitingRelease
  | .released t => m.resetState = .countdown ∧ m.resetReleaseTime = UInt32.ofNat t
  | .reset => False

structure GestureRunning (m : Main) (g : Gesture) : Prop where
  done : m.resetDone = false
  button : ButtonSim m.btn g
  phase : PhaseSim m g.phase

def GestureSim (m : Main) (g : Gesture) : Prop :=
  m.resetDone = true ∧ g.phase = .reset ∨ GestureRunning m g

/-- The differences that the switch takes do not wrap. -/
structure Gesture.Near (g : Gesture) (i : LoopIn) : Prop where
  long : g.phase = .idle → ∀ t, g.pressedAt = some t → t ≤ i.longMs ∧ i.longMs < t + 2 ^ 32
  reset : ∀ t, g.phase = .released t → t ≤ i.resetMs ∧ i.resetMs < t + 2 ^ 32

/-- A difference that does not wrap is compared rightly. -/
theorem ofNat_sub_ge_iff {t0 t : Nat} (hnear : t0 ≤ t ∧ t < t0 + 2 ^ 32) (d : UInt32) :
    UInt32.ofNat t - UInt32.ofNat t0 ≥ d ↔ t0 + d.toNat ≤ t := by
  rw [ge_iff_le, UInt32.le_iff_toNat_le, ofNat_sub_ofNat hnear.1 (by omega)]
  omega

/-- The long press is reported after 3 s. -/
theorem longPress_iff {btn : AppBtn} {g : Gesture} {i : LoopIn} (h : ButtonSim btn g)
    (hlong : btn.debouncedState = true → btn.longPressDetected = false)
    (hnear : ∀ t, g.pressedAt = some t → t ≤ i.longMs ∧ i.longMs < t + 2 ^ 32) :
    (appButtonLongPress btn longPressResetMs (UInt32.ofNat i.longMs)).2 =
      g.pressedAt.any (· + 3000 ≤ i.longMs) := by
  rw [Bool.eq_iff_iff, appButtonLongPress_snd, h.pressed]
  cases hp : g.pressedAt with
  | none => simp
  | some t =>
    have hd : btn.debouncedState = true := h.pressed.trans (by rw [hp]; rfl)
    rw [h.start t hp, ofNat_sub_ge_iff (hnear t hp)]
    simp [hlong hd, longPressResetMs]

theorem resetSwitch_gesture (m : Main) (g : Gesture) (i : LoopIn) (h : GestureRunning m g)
    (hnear : g.Near i) :
    GestureSim (resetSwitch m i).1 (g.switch i).1 ∧
      (.softwareReset ∈ (resetSwitch m i).2 ↔ (g.switch i).2 = true) := by
  obtain ⟨hdone, hbutton, hphase⟩ := h
  unfold resetSwitch Gesture.switch
  cases hp : g.phase with
  | idle =>
    rw [hp] at hphase
    obtain ⟨hs, hlong⟩ := hphase
    rw [hs]
    have hiff := longPress_iff hbutton hlong (hnear.long hp)
    simp only [appButtonLongPress_fst]
    rw [hiff]
    cases hl : g.pressedAt.any (· + 3000 ≤ i.longMs) with
    | true =>
      refine ⟨.inr ⟨hdone, hbutton.congr rfl rfl, rfl⟩, ?_⟩
      simp
    | false =>
      refine ⟨.inr ⟨hdone, hbutton.congr rfl rfl, ?_⟩, ?_⟩
      · exact ⟨rfl, fun hd => (Bool.or_false _).trans (hlong hd)⟩
      · simp
  | armed =>
    rw [hp] at hphase
    have hs : m.resetState = .waitingRelease := hphase
    rw [hs]
    unfold appButtonIsPressed
    simp only [hbutton.pressed, Option.not_isSome]
    cases hpr : g.pressedAt.isNone with
    | true => exact ⟨.inr ⟨hdone, hbutton.congr rfl rfl, rfl, rfl⟩, by simp⟩
    | false => exact ⟨.inr ⟨hdone, hbutton.congr rfl rfl, hs⟩, by simp⟩
  | released t =>
    rw [hp] at hphase
    obtain ⟨hs, ht⟩ := hphase
    rw [hs, ht]
    simp only [ofNat_sub_ge_iff (hnear.reset t hp)]
    have h1000 : resetDelayMs.toNat = 1000 := rfl
    rw [h1000]
    by_cases hle : t + 1000 ≤ i.resetMs
    · rw [if_pos hle, if_pos hle]
      exact ⟨.inl ⟨rfl, rfl⟩, by simp⟩
    · rw [if_neg hle, if_neg hle]
      exact ⟨.inr ⟨hdone, hbutton, by rw [hp]; exact ⟨hs, ht⟩⟩, by simp⟩
  | reset =>
    rw [hp] at hphase
    exact hphase.elim

/-! ## One iteration -/

/-- What is left of an iteration after the reset switch. -/
theorem mainLoop_switch (m : Main) (i : LoopIn) (hd : m.resetDone = false) :
    let s := resetSwitch (afterPress m i) i
    (mainLoop m i).1.btn = s.1.btn ∧ (mainLoop m i).1.resetState = s.1.resetState ∧
      (mainLoop m i).1.resetReleaseTime = s.1.resetReleaseTime ∧
      (mainLoop m i).1.resetDone = s.1.resetDone ∧
      (.softwareReset ∈ (mainLoop m i).2 ↔ .softwareReset ∈ s.2) := by
  intro s
  have hmem : .softwareReset ∈ (mainLoop m i).2 ↔ .softwareReset ∈ s.2 := by
    refine ⟨fun h => (softwareReset_switch m i h).2, fun h => ?_⟩
    rw [mainLoop_eq hd]
    exact List.mem_append_left _ (List.mem_append_right _ h)
  refine ⟨?_, ?_, ?_, ?_, hmem⟩ <;>
  · rw [mainLoop_eq hd]
    simp only
    rw [heartbeatTask_frame]
    rfl

theorem afterPress_done (m : Main) (i : LoopIn) :
    (afterPress m i).resetDone = m.resetDone := by
  unfold afterPress
  rw [shortPress_frame, afterTask_frame]

/-- The relation speaks of four fields. -/
theorem GestureSim.congr {m m' : Main} {g : Gesture} (h : GestureSim m g)
    (hd : m'.resetDone = m.resetDone) (hb : m'.btn = m.btn) (hs : m'.resetState = m.resetState)
    (ht : m'.resetReleaseTime = m.resetReleaseTime) : GestureSim m' g := by
  rcases h with ⟨hdone, hphase⟩ | ⟨hdone, hbutton, hphase⟩
  · exact .inl ⟨hd.trans hdone, hphase⟩
  · refine .inr ⟨hd.trans hdone, hb ▸ hbutton, ?_⟩
    cases hp : g.phase <;> rw [hp] at hphase
    · exact ⟨hs.trans hphase.1, hb ▸ hphase.2⟩
    · exact hs.trans hphase
    · exact ⟨hs.trans hphase.1, ht.trans hphase.2⟩
    · exact hphase

/-- A press that begins has not been reported. -/
theorem PhaseSim.afterPress {m : Main} {p : GesturePhase} (h : PhaseSim m p) (i : LoopIn) :
    PhaseSim (afterPress m i) p := by
  obtain ⟨hstate, hrel, hbtn⟩ := afterPress_reset m i
  cases p with
  | idle =>
    obtain ⟨hs, hlong⟩ := h
    refine ⟨hstate.trans hs, ?_⟩
    rw [hbtn, afterTask_btn]
    intro hd
    cases debounceButton_spec m.btn i.raw (UInt32.ofNat i.taskMs) with
    | same deb was start long => exact long.trans (hlong (deb.symm.trans hd))
    | rise old deb was start long => exact long
    | fall old deb was start long =>
      have hup : (debounceButton m.btn i.raw (UInt32.ofNat i.taskMs)).debouncedState = true := hd
      rw [deb] at hup
      cases hup
  | armed => exact hstate.trans h
  | released t => exact ⟨hstate.trans h.1, hrel.trans h.2⟩
  | reset => exact h

/-- **One iteration.**  Whatever else the main loop does in it. -/
theorem gestureSim_step (m : Main) (g : Gesture) (i : LoopIn) (h : GestureSim m g)
    (hset : g.Settled i.taskMs) (hnear : (g.sample i.raw i.taskMs).Near i) :
    GestureSim (mainLoop m i).1 (gestureStep g i).1 ∧
      (resetStep m i).2 = (gestureStep g i).2 := by
  unfold resetStep gestureStep
  rcases h with ⟨hdone, hphase⟩ | ⟨hdone, hbutton, hphase⟩
  · rw [mainLoop_done hdone]
    unfold Gesture.switch
    have hsame : (g.sample i.raw i.taskMs).phase = .reset := hphase
    rw [hsame]
    exact ⟨.inl ⟨hdone, hsame⟩, rfl⟩
  · obtain ⟨-, -, hbtn⟩ := afterPress_reset m i
    have hsim := hbutton.sample i.raw hset
    rw [← afterTask_btn m i] at hsim
    have hrun : GestureRunning (afterPress m i) (g.sample i.raw i.taskMs) :=
      ⟨(afterPress_done m i).trans hdone, hsim.congr (by rw [hbtn]) rfl, hphase.afterPress i⟩
    obtain ⟨hb, hs, ht, hd, hmem⟩ := mainLoop_switch m i hdone
    obtain ⟨hafter, hout⟩ := resetSwitch_gesture _ _ i hrun hnear
    refine ⟨hafter.congr hd hb hs ht, ?_⟩
    simp only [hmem, hout, Bool.decide_eq_true]

/-! ## Runs -/

/-- How far back the machine's times are, when the button and the reset code have last read the
clock at `t` and `u`. -/
structure Gesture.Timed (t u : Nat) (g : Gesture) : Prop where
  reads : t ≤ u
  since : g.since ≤ t
  settled : g.pressedAt.isSome = g.last ∨ t ≤ g.since + 20
  pressed : ∀ p, g.pressedAt = some p → p ≤ t ∧ (g.phase = .idle → t < p + 3000)
  released : ∀ r, g.phase = .released r → r ≤ u ∧ u < r + 1000

theorem Gesture.Timed.near {t u : Nat} {g : Gesture} {i : LoopIn} (h : g.Timed t u)
    (hu : u ≤ i.taskMs) (hlong : i.taskMs ≤ i.longMs) (hreset : i.longMs ≤ i.resetMs)
    (hsoon : i.resetMs < t + (2 ^ 32 - 3000)) :
    g.Settled i.taskMs ∧ (g.sample i.raw i.taskMs).Near i := by
  obtain ⟨htu, hsince, hsettled, hpressed, hreleased⟩ := h
  refine ⟨⟨by omega, hsettled.imp id fun h => by omega⟩, ?_, ?_⟩
  · intro hp p hpr
    rcases sample_pressedAt hpr with hold | ⟨-, rfl⟩
    · obtain ⟨hle, hlt⟩ := hpressed p hold
      have h3000 := hlt hp
      omega
    · omega
  · intro r hr
    obtain ⟨hle, hlt⟩ := hreleased r hr
    omega

theorem Gesture.Timed.sample {t u : Nat} {g : Gesture} (h : g.Timed t u) (raw : Bool) {now : Nat}
    (hu : u ≤ now) :
    (g.sample raw now).since ≤ now ∧
      ((g.sample raw now).pressedAt.isSome = raw ∨ now ≤ (g.sample raw now).since + 20) ∧
      ∀ p, (g.sample raw now).pressedAt = some p → p ≤ now := by
  obtain ⟨htu, hsince, -, hpressed, -⟩ := h
  refine ⟨?_, ?_, fun p hp => ?_⟩
  · unfold Gesture.sample
    dsimp only
    split <;> omega
  · unfold Gesture.sample
    dsimp only
    by_cases hr : raw = g.last
    · by_cases h20 : g.since + 20 < now
      · rw [if_pos ⟨hr, h20⟩]
        cases raw <;> exact .inl rfl
      · rw [if_pos hr]
        exact .inr (by omega)
    · rw [if_neg hr]
      exact .inr (by omega)
  · rcases sample_pressedAt hp with hold | ⟨-, rfl⟩
    · have hle := (hpressed p hold).1
      omega
    · omega

/-- An iteration leaves times that are as near as before. -/
theorem Gesture.Timed.step {t u : Nat} {g : Gesture} {i : LoopIn} (h : g.Timed t u)
    (hu : u ≤ i.taskMs) (hlong : i.taskMs ≤ i.longMs) (hreset : i.longMs ≤ i.resetMs) :
    (gestureStep g i).1.Timed i.taskMs i.resetMs := by
  obtain ⟨hsince, hsettled, hpressed⟩ := h.sample i.raw hu
  have hreads : i.taskMs ≤ i.resetMs := Nat.le_trans hlong hreset
  have hold := h.released
  unfold gestureStep Gesture.switch
  rw [sample_phase]
  cases hp : g.phase with
  | idle =>
    refine ⟨hreads, hsince, hsettled, fun p hpr => ⟨hpressed p hpr, fun hidle => ?_⟩, ?_⟩
    · -- still idle: 3 s have not passed
      have hpr' : (g.sample i.raw i.taskMs).pressedAt = some p := hpr
      simp only [hpr', Option.any_some, decide_eq_true_eq] at hidle
      split at hidle
      · cases hidle
      · omega
    · intro r hr
      dsimp only at hr
      split at hr <;> cases hr
  | armed =>
    refine ⟨hreads, hsince, hsettled, fun p hpr => ⟨hpressed p hpr, fun hidle => ?_⟩, ?_⟩
    · dsimp only at hidle
      split at hidle <;> cases hidle
    · intro r hr
      dsimp only at hr
      split at hr
      · cases hr
        omega
      · cases hr
  | released t' =>
    obtain ⟨hr', -⟩ := hold t' hp
    dsimp only
    by_cases hle : t' + 1000 ≤ i.resetMs
    · rw [if_pos hle]
      exact ⟨hreads, hsince, hsettled, fun p hpr => ⟨hpressed p hpr, nofun⟩, nofun⟩
    · rw [if_neg hle]
      refine ⟨hreads, hsince, hsettled, fun p hpr => ⟨hpressed p hpr, fun hidle => ?_⟩, ?_⟩
      · simp [hp] at hidle
      · intro r hr
        obtain rfl : t' = r := by simpa [hp] using hr
        omega
  | reset =>
    refine ⟨hreads, hsince, hsettled, fun p hpr => ⟨hpressed p hpr, fun hidle => ?_⟩, ?_⟩
    · simp [hp] at hidle
    · intro r hr
      simp [hp] at hr

/-- In this iteration no difference wraps. -/
def Gesture.InTime (g : Gesture) (i : LoopIn) : Prop :=
  g.Settled i.taskMs ∧ (g.sample i.raw i.taskMs).Near i

theorem loopReads_cons {i : LoopIn} {is : List LoopIn}
    (h : (loopReads (i :: is)).Pairwise (· ≤ ·)) :
    i.taskMs ≤ i.longMs ∧ i.longMs ≤ i.resetMs ∧ (∀ t ∈ loopReads is, i.resetMs ≤ t) ∧
      (loopReads is).Pairwise (· ≤ ·) := by
  have hcons : loopReads (i :: is) = i.taskMs :: i.longMs :: i.resetMs :: loopReads is := rfl
  rw [hcons, List.pairwise_cons, List.pairwise_cons, List.pairwise_cons] at h
  obtain ⟨htask, hlong, hreset, htail⟩ := h
  exact ⟨htask _ List.mem_cons_self, hlong _ List.mem_cons_self, hreset, htail⟩

theorem inTime_along (is : List LoopIn) (i : LoopIn) (g : Gesture)
    (htimed : g.Timed i.taskMs i.resetMs) (hclock : (loopReads (i :: is)).Pairwise (· ≤ ·))
    (hpace : (i :: is).IsChain fun i j => j.resetMs < i.taskMs + (2 ^ 32 - 3000)) :
    Along gestureStep Gesture.InTime g is := by
  induction is generalizing i g with
  | nil => trivial
  | cons j is ih =>
    obtain ⟨hsoon, hpace⟩ := List.isChain_cons_cons.mp hpace
    obtain ⟨-, -, hafter, hclock⟩ := loopReads_cons hclock
    obtain ⟨hlong, hreset, -, -⟩ := loopReads_cons hclock
    have hu : i.resetMs ≤ j.taskMs := hafter _ List.mem_cons_self
    exact ⟨htimed.near hu hlong hreset hsoon, ih j _ (htimed.step hu hlong hreset) hclock hpace⟩

/-- In the first iteration nothing can be due. -/
theorem inTime_first (i : LoopIn) : Gesture.start.InTime i := by
  have hnone : (Gesture.start.sample i.raw i.taskMs).pressedAt = none := by
    unfold Gesture.sample Gesture.start
    cases i.raw <;> simp
  refine ⟨⟨Nat.zero_le _, .inl rfl⟩, fun _ p hp => ?_, nofun⟩
  rw [hnone] at hp
  cases hp

theorem gestureSim_init (role : BoardRole) (boot : MainBoot) :
    GestureSim (mainInit role boot) Gesture.start :=
  .inr ⟨rfl, ⟨rfl, rfl, rfl, nofun⟩, rfl, nofun⟩

theorem gesture_start_timed (t : Nat) : Gesture.start.Timed t t :=
  ⟨Nat.le_refl t, Nat.zero_le t, .inl rfl, nofun, nofun⟩

/-- **The reset.**  On either board, whatever is received, sent and measured meanwhile, the board is
reset in the iteration in which the gesture is complete, and in no other. -/
theorem reset_exactly (role : BoardRole) (boot : MainBoot) (is : List LoopIn)
    (hclock : (loopReads is).Pairwise (· ≤ ·))
    (hpace : is.IsChain fun i j => j.resetMs < i.taskMs + (2 ^ 32 - 3000)) :
    emits resetStep (mainInit role boot) is = emits gestureStep Gesture.start is := by
  have halong : Along gestureStep Gesture.InTime Gesture.start is := by
    cases is with
    | nil => trivial
    | cons i is =>
      obtain ⟨hlong, hreset, -, -⟩ := loopReads_cons hclock
      have htimed := (gesture_start_timed i.taskMs).step (Nat.le_refl _) hlong hreset
      exact ⟨inTime_first i, inTime_along is i _ htimed hclock hpace⟩
  have hsim := emits_sim resetStep gestureStep Gesture.InTime GestureSim some
    (fun m g i h hi => by
      rw [List.filterMap_some]
      exact gestureSim_step m g i h hi.1 hi.2)
    is _ _ (gestureSim_init role boot) halong
  rw [List.filterMap_some] at hsim
  exact hsim.2

/-- A press across the wrap of the clock, and another one during the countdown. -/
def wrapGesture : List LoopIn :=
  [.quiet false 3000, .quiet true 4294966000, .quiet true 4294966030, .quiet true 4294969030,
    .quiet false 4294969040, .quiet false 4294969070, .quiet true 4294970069, .quiet true 4294970070]

theorem reset_exactly_wrap :
    emits resetStep (mainInit .client serverBoot) wrapGesture =
      [false, false, false, false, false, false, false, true] :=
  (reset_exactly .client serverBoot wrapGesture (by decide) (by decide)).trans (by decide)

end CuriosityT1S
