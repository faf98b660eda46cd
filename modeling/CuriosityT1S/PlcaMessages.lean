import CuriosityT1S.PlcaPolling
import Mathlib.Data.List.Destutter

/-!
# What is announced of the PLCA status (t1s_lwip.c)

`T1S_OnPlcaStatus` compares each status it is told with the last one, and takes none for a read
that has failed.

    plca_announced:  the messages are the statuses with repetitions left out, CSMA/CD first
-/

namespace CuriosityT1S

open Mealy

def plcaModeActive : String := escGreen ++ "PLCA Mode active" ++ escResetColor ++ "\r\n"

def csmaCdFallback : String := escRed ++ "CSMA/CD fallback" ++ escResetColor ++ "\r\n"

/-- The status that a message tells. -/
def T1sCall.announces : T1sCall → Option Bool
  | .tc6ReadRegister _ => none
  | .printMessage message =>
    if message = plcaModeActive then some true
    else if message = csmaCdFallback then some false
    else none

/-- The status that TC6 has read, bit 15. -/
def PlcaEvent.status : PlcaEvent → Option Bool
  | .plcaStatus true value => some (value &&& 0x8000 != 0)
  | _ => none

theorem announces_check (s : PlcaPoll) (t : Nat) (enqueued : Bool) :
    (plcaStep s (.check t enqueued)).1.m.lastBeaconState = s.m.lastBeaconState ∧
      (plcaStep s (.check t enqueued)).2.filterMap T1sCall.announces = [] := by
  have hfailed : T1sCall.announces
      (.printMessage (escRed ++ "GetPlcaStatus failed" ++ escResetColor ++ "\r\n")) = none := by
    decide
  simp only [plcaStep, t1sCheckPlcaStatus, tc6LwipGetPlcaStatus]
  split
  · split
    · cases enqueued
      · exact ⟨rfl, (List.filterMap_cons_none (f := T1sCall.announces) rfl).trans
          (List.filterMap_cons_none hfailed)⟩
      · exact ⟨rfl, rfl⟩
    · exact ⟨rfl, List.filterMap_cons_none hfailed⟩
  · exact ⟨rfl, rfl⟩

/-- A status is announced if it is not the last one. -/
theorem announces_status (s : PlcaPoll) (success : Bool) (value : UInt32) :
    (plcaStep s (.plcaStatus success value)).1.m.lastBeaconState =
        (PlcaEvent.plcaStatus success value).status.getD s.m.lastBeaconState ∧
      (plcaStep s (.plcaStatus success value)).2.filterMap T1sCall.announces =
        (PlcaEvent.plcaStatus success value).status.toList.filter (s.m.lastBeaconState ≠ ·) := by
  have hfailed : T1sCall.announces (.printMessage
      (escRed ++ "PLCA status register read failed" ++ escResetColor ++ "\r\n")) = none := by decide
  have hfallback : T1sCall.announces (.printMessage csmaCdFallback) = some false := by decide
  simp only [plcaStep, t1sOnPlcaStatus, onPlcaStatus]
  cases success with
  | false => exact ⟨rfl, List.filterMap_cons_none hfailed⟩
  | true =>
    refine ⟨rfl, ?_⟩
    simp only [Bool.true_and, PlcaEvent.status, Option.toList_some, if_true]
    cases hlast : s.m.lastBeaconState <;> cases hbit : (value &&& 0x8000 != 0)
    · rfl
    · rfl
    · exact List.filterMap_cons_some hfallback
    · rfl

/-- From any state on. -/
theorem announced_from (es : List PlcaEvent) : ∀ s : PlcaPoll,
    s.m.lastBeaconState :: (emits plcaStep s es).filterMap T1sCall.announces =
      (es.filterMap PlcaEvent.status).destutter' (· ≠ ·) s.m.lastBeaconState := by
  induction es with
  | nil => exact fun _ => rfl
  | cons e es ih =>
    intro s
    have hrest := ih (plcaStep s e).1
    rw [emits_cons, List.filterMap_append]
    cases e with
    | check t enqueued =>
      obtain ⟨hlast, hnone⟩ := announces_check s t enqueued
      rw [hlast] at hrest
      rw [hnone, List.filterMap_cons_none rfl]
      exact hrest
    | plcaStatus success value =>
      obtain ⟨hlast, hsome⟩ := announces_status s success value
      rw [hlast] at hrest
      rw [hsome, List.filterMap_cons]
      cases hstatus : (PlcaEvent.plcaStatus success value).status with
      | none =>
        rw [hstatus] at hrest
        exact hrest
      | some b =>
        rw [hstatus, Option.getD_some] at hrest
        by_cases hb : s.m.lastBeaconState = b
        · subst hb
          simp only
          rw [List.destutter'_cons_neg _ (by simp), ← hrest]
          simp
        · simp only
          rw [List.destutter'_cons_pos _ hb, ← hrest]
          simp [hb]

theorem getLastD_destutter' (l : List Bool) :
    ∀ a x : Bool, (l.destutter' (· ≠ ·) a).getLastD x = l.getLastD a := by
  induction l with
  | nil => exact fun _ _ => rfl
  | cons b l ih =>
    intro a x
    by_cases hab : a = b
    · rw [List.destutter'_cons_neg _ (by simp [hab]), ih, hab, List.getLastD_cons]
    · rw [List.destutter'_cons_pos _ hab, List.getLastD_cons, ih, List.getLastD_cons]

/-- **Announcements.**  In every run, whatever is asked for and answered in between, the messages
tell the statuses that were read, without repetitions and beginning with the first that is not the
fallback; they alternate, and the last one told is the last one read. -/
theorem plca_announced (t0 : Nat) (es : List PlcaEvent) :
    let shown := (emits plcaStep (PlcaPoll.start t0) es).filterMap T1sCall.announces
    let statuses := es.filterMap PlcaEvent.status
    false :: shown = statuses.destutter' (· ≠ ·) false ∧ (false :: shown).IsChain (· ≠ ·) ∧
      shown.getLastD false = statuses.getLastD false := by
  intro shown statuses
  have hshown : false :: shown = statuses.destutter' (· ≠ ·) false :=
    announced_from es (PlcaPoll.start t0)
  refine ⟨hshown, hshown ▸ List.isChain_destutter' _ statuses false, ?_⟩
  calc shown.getLastD false
      = (false :: shown).getLastD false := List.getLastD_cons.symm
    _ = statuses.getLastD false := by rw [hshown, getLastD_destutter']

end CuriosityT1S
