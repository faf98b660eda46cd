import Mathlib.Data.List.Basic

/-!
# The button (app.c)

`now` is what `SysTick_GetTickMs` gives when the function reads it.
-/

namespace CuriosityT1S

/-- `app_btn_t`. -/
structure AppBtn where
  lastState : Bool
  debouncedState : Bool
  lastDebounceTime : UInt32
  wasPressed : Bool
  pressStartTime : UInt32
  longPressDetected : Bool
deriving DecidableEq, Repr

/-- `APP_Buttons_Init`. -/
def appButtonsInit : AppBtn := ⟨false, false, 0, false, 0, false⟩

def appButtonDebounceMs : UInt32 := 20

/-- A press starts: its time is recorded. -/
def AppBtn.risingEdge (btn : AppBtn) (rawState : Bool) (now : UInt32) : AppBtn :=
  if btn.debouncedState = false ∧ rawState = true then
    { btn with pressStartTime := now, longPressDetected := false }
  else btn

/-- A press ends: a short one is confirmed here. -/
def AppBtn.fallingEdge (btn : AppBtn) (rawState : Bool) : AppBtn :=
  if btn.debouncedState = true ∧ rawState = false then
    if !btn.longPressDetected then { btn with wasPressed := true } else btn
  else btn

def debounceButton (btn : AppBtn) (rawState : Bool) (now : UInt32) : AppBtn :=
  let btn := if rawState ≠ btn.lastState then { btn with lastDebounceTime := now } else btn
  let btn :=
    if now - btn.lastDebounceTime > appButtonDebounceMs then
      { (btn.risingEdge rawState now).fallingEdge rawState with debouncedState := rawState }
    else btn
  { btn with lastState := rawState }

def appButtonIsPressed (btn : AppBtn) : Bool := btn.debouncedState

def appButtonWasPressed (btn : AppBtn) : AppBtn × Bool :=
  if btn.wasPressed then ({ btn with wasPressed := false }, true) else (btn, false)

def appButtonLongPress (btn : AppBtn) (holdMs now : UInt32) : AppBtn × Bool :=
  if btn.debouncedState && !btn.longPressDetected then
    if now - btn.pressStartTime ≥ holdMs then ({ btn with longPressDetected := true }, true)
    else (btn, false)
  else (btn, false)

/-! ## What each function does -/

/-- What `debounceButton` can do to the fields the other functions read. -/
inductive Debounced (btn btn' : AppBtn) (now : UInt32) : Prop
  | same (deb : btn'.debouncedState = btn.debouncedState) (was : btn'.wasPressed = btn.wasPressed)
      (start : btn'.pressStartTime = btn.pressStartTime)
      (long : btn'.longPressDetected = btn.longPressDetected)
  | rise (old : btn.debouncedState = false) (deb : btn'.debouncedState = true)
      (was : btn'.wasPressed = btn.wasPressed) (start : btn'.pressStartTime = now)
      (long : btn'.longPressDetected = false)
  | fall (old : btn.debouncedState = true) (deb : btn'.debouncedState = false)
      (was : btn'.wasPressed = (btn.wasPressed || !btn.longPressDetected))
      (start : btn'.pressStartTime = btn.pressStartTime)
      (long : btn'.longPressDetected = btn.longPressDetected)

theorem debounceButton_spec (btn : AppBtn) (raw : Bool) (now : UInt32) :
    Debounced btn (debounceButton btn raw now) now := by
  obtain ⟨lastState, deb, ldt, was, start, long⟩ := btn
  unfold debounceButton
  by_cases hs : raw ≠ lastState
  · rw [if_pos hs]
    simp only [UInt32.sub_self]
    exact .same rfl rfl rfl rfl
  · rw [if_neg hs]
    by_cases hq : now - ldt > appButtonDebounceMs
    · simp only [if_pos hq, AppBtn.risingEdge, AppBtn.fallingEdge]
      cases deb with
      | false =>
        cases raw with
        | false => exact .same rfl rfl rfl rfl
        | true => exact .rise rfl rfl rfl rfl rfl
      | true =>
        cases raw with
        | false => cases long with
          | false => exact .fall rfl rfl (by simp) rfl rfl
          | true => exact .fall rfl rfl (by simp) rfl rfl
        | true => exact .same rfl rfl rfl rfl
    · simp only [if_neg hq]
      exact .same rfl rfl rfl rfl

@[simp] theorem appButtonWasPressed_snd (btn : AppBtn) :
    (appButtonWasPressed btn).2 = btn.wasPressed := by
  unfold appButtonWasPressed
  cases hw : btn.wasPressed <;> simp

@[simp] theorem appButtonWasPressed_fst (btn : AppBtn) :
    (appButtonWasPressed btn).1 = { btn with wasPressed := false } := by
  obtain ⟨lastState, deb, ldt, was, start, long⟩ := btn
  cases was <;> rfl

/-- `APP_Button_LongPress` answers true if the press is unreported and long enough, and then marks
it as reported. -/
theorem appButtonLongPress_snd (btn : AppBtn) (holdMs now : UInt32) :
    (appButtonLongPress btn holdMs now).2 = true ↔
      btn.debouncedState = true ∧ btn.longPressDetected = false ∧
        now - btn.pressStartTime ≥ holdMs := by
  unfold appButtonLongPress
  cases btn.debouncedState with
  | false => simp
  | true =>
    cases btn.longPressDetected with
    | true => simp
    | false => by_cases h : now - btn.pressStartTime ≥ holdMs <;> simp [h]

theorem appButtonLongPress_fst (btn : AppBtn) (holdMs now : UInt32) :
    (appButtonLongPress btn holdMs now).1 =
      { btn with longPressDetected :=
          btn.longPressDetected || (appButtonLongPress btn holdMs now).2 } := by
  unfold appButtonLongPress
  obtain ⟨lastState, deb, ldt, was, start, long⟩ := btn
  cases deb with
  | false => simp
  | true =>
    cases long with
    | true => simp
    | false => by_cases h : now - start ≥ holdMs <;> simp [h]

end CuriosityT1S
