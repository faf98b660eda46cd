import CuriosityT1S.Tc6Lwip
import CuriosityT1S.Lib.WrapCounter
import Mathlib.Algebra.Group.Nat.Defs

/-!
# Asking for the PLCA status (t1s_lwip.c)

`T1S_CheckPlcaStatus` keeps the time of its next request as an absolute 32-bit value and
compares it with the clock by `>`, where the rest of the program takes differences.  A run
is a list of calls, each at a true time in milliseconds, with the answers of TC6 between
them; `PlcaPoll` remembers the time of the last call and of the last request.

    PollInv:         the stored deadline is 1000 ms after the last request
    pollsOnTime_iff: requests are made on time, along every run, if and only if no call comes
                     in another round of the clock than the deadline it is compared with
-/

namespace CuriosityT1S

open Mealy WrapCounter

/-! ## t1s_lwip.c -/

def delayBeaconCheck : UInt32 := 1000

def escRed : String := "\x1b[0;31m"

def escGreen : String := "\x1b[0;32m"

def escResetColor : String := "\x1b[0m"

/-- `MainLocal_t`, without the fields that nothing reads. -/
structure MainLocal where
  nextBeaconCheck : UInt32
  idxLwIp : Int
  lastBeaconState : Bool
deriving DecidableEq, Repr

inductive T1sCall
  | tc6ReadRegister (addr : UInt32)
  | printMessage (message : String)
deriving DecidableEq, Repr

/-- `T1S_init`, after `TC6LwIP_Init` has returned `idx`. -/
def t1sInit (idx : Int) : MainLocal :=
  if idx < 0 then ⟨0, idx, false⟩ else ⟨delayBeaconCheck, idx, false⟩

/-- `enqueued` is the answer of `TC6_ReadRegister`. -/
def tc6LwipGetPlcaStatus (idx : Int) (enqueued : Bool) : Bool × List T1sCall :=
  if idxValid idx then (enqueued, [.tc6ReadRegister 0x0004CA03]) else (false, [])

def t1sCheckPlcaStatus (m : MainLocal) (now : UInt32) (enqueued : Bool) :
    MainLocal × List T1sCall :=
  if now > m.nextBeaconCheck then
    let (success, calls) := tc6LwipGetPlcaStatus m.idxLwIp enqueued
    ({ m with nextBeaconCheck := now + delayBeaconCheck },
      if success then calls
      else calls ++ [.printMessage (escRed ++ "GetPlcaStatus failed" ++ escResetColor ++ "\r\n")])
  else (m, [])

/-- tc6-lwip.c: the status that `T1S_OnPlcaStatus` is given, bit 15 of the register. -/
def onPlcaStatus (success : Bool) (value : UInt32) : Bool := success && value &&& 0x8000 != 0

def t1sOnPlcaStatus (m : MainLocal) (success plcaStatus : Bool) : MainLocal × List T1sCall :=
  if success then
    ({ m with lastBeaconState := plcaStatus },
      if plcaStatus ≠ m.lastBeaconState then
        [.printMessage (if plcaStatus then escGreen ++ "PLCA Mode active" ++ escResetColor ++ "\r\n"
          else escRed ++ "CSMA/CD fallback" ++ escResetColor ++ "\r\n")]
      else [])
  else
    (m, [.printMessage (escRed ++ "PLCA status register read failed" ++ escResetColor ++ "\r\n")])

/-! ## Runs -/

def T1sCall.isRequest : T1sCall → Bool
  | .tc6ReadRegister _ => true
  | .printMessage _ => false

/-- The times are in true milliseconds. -/
structure PlcaPoll where
  m : MainLocal
  lastCall : Nat
  lastRequest : Option Nat
deriving DecidableEq, Repr

/-- The first call comes less than 2^32 ms after `t0`, no request has been made. -/
def PlcaPoll.start (t0 : Nat) : PlcaPoll := ⟨t1sInit 0, t0, none⟩

inductive PlcaEvent
  | check (t : Nat) (enqueued : Bool)
  | plcaStatus (success : Bool) (value : UInt32)
deriving DecidableEq, Repr

def plcaStep (s : PlcaPoll) : PlcaEvent → PlcaPoll × List T1sCall
  | .check t enqueued =>
    let (m, calls) := t1sCheckPlcaStatus s.m (UInt32.ofNat t) enqueued
    (⟨m, t, if calls.any T1sCall.isRequest then some t else s.lastRequest⟩, calls)
  | .plcaStatus success value =>
    let (m, calls) := t1sOnPlcaStatus s.m success (onPlcaStatus success value)
    ({ s with m := m }, calls)

/-- Calls come at nondecreasing times, less than 2^32 ms apart. -/
def CallsInOrder (s : PlcaPoll) : PlcaEvent → Prop
  | .check t _ => s.lastCall ≤ t ∧ t < s.lastCall + 2 ^ 32
  | .plcaStatus _ _ => True

/-- After the first request, a call makes a request exactly if the last one is more than 1000 ms
ago. -/
def PollsOnTime (s : PlcaPoll) : PlcaEvent → Prop
  | .check t enqueued => ∀ t0, s.lastRequest = some t0 →
    ((plcaStep s (.check t enqueued)).2.any T1sCall.isRequest = true ↔ 1000 < t - t0)
  | .plcaStatus _ _ => True

/-- The 32-bit clock has not started over between the deadline and the call. -/
def SameRound (s : PlcaPoll) : PlcaEvent → Prop
  | .check t _ => ∀ t0, s.lastRequest = some t0 → t / 2 ^ 32 = (t0 + 1000) / 2 ^ 32
  | .plcaStatus _ _ => True

/-! ## What one call does -/

/-- The stored deadline is 1000 ms after the last request, and the last call was not after it. -/
structure PollInv (s : PlcaPoll) : Prop where
  idx : s.m.idxLwIp = 0
  deadline : ∀ t0, s.lastRequest = some t0 → s.m.nextBeaconCheck.toNat = (t0 + 1000) % 2 ^ 32
  recent : ∀ t0, s.lastRequest = some t0 → t0 ≤ s.lastCall ∧ s.lastCall ≤ t0 + 1000

theorem pollInv_start (t0 : Nat) : PollInv (PlcaPoll.start t0) :=
  ⟨rfl, fun _ h => (by cases h), fun _ h => (by cases h)⟩

/-- A call makes a request exactly if the clock shows more than the deadline. -/
theorem check_requests_iff (m : MainLocal) (now : UInt32) (enqueued : Bool)
    (hidx : m.idxLwIp = 0) :
    (t1sCheckPlcaStatus m now enqueued).2.any T1sCall.isRequest = true ↔
      m.nextBeaconCheck.toNat < now.toNat := by
  have hvalid : idxValid 0 = true := rfl
  unfold t1sCheckPlcaStatus tc6LwipGetPlcaStatus
  by_cases hdue : now > m.nextBeaconCheck
  · rw [if_pos hdue]
    have hlt : m.nextBeaconCheck.toNat < now.toNat := UInt32.lt_iff_toNat_lt.mp hdue
    cases enqueued <;> simp [hidx, hvalid, hlt, T1sCall.isRequest]
  · rw [if_neg hdue]
    have hlt : ¬ m.nextBeaconCheck.toNat < now.toNat := fun h =>
      hdue (UInt32.lt_iff_toNat_lt.mpr h)
    simp [hlt]

/-- A request moves the deadline, other calls leave everything as it is. -/
theorem check_spec (m : MainLocal) (now : UInt32) (enqueued : Bool) (hidx : m.idxLwIp = 0) :
    (t1sCheckPlcaStatus m now enqueued).1 =
      if (t1sCheckPlcaStatus m now enqueued).2.any T1sCall.isRequest then
        { m with nextBeaconCheck := now + delayBeaconCheck }
      else m := by
  have hiff := check_requests_iff m now enqueued hidx
  by_cases hdue : now > m.nextBeaconCheck
  · rw [if_pos (hiff.mpr (UInt32.lt_iff_toNat_lt.mp hdue))]
    unfold t1sCheckPlcaStatus
    rw [if_pos hdue]
  · rw [if_neg (fun h => hdue (UInt32.lt_iff_toNat_lt.mpr (hiff.mp h)))]
    unfold t1sCheckPlcaStatus
    rw [if_neg hdue]

theorem onPlcaStatus_keeps (m : MainLocal) (success plcaStatus : Bool) :
    (t1sOnPlcaStatus m success plcaStatus).1.nextBeaconCheck = m.nextBeaconCheck ∧
      (t1sOnPlcaStatus m success plcaStatus).1.idxLwIp = m.idxLwIp := by
  unfold t1sOnPlcaStatus
  split <;> exact ⟨rfl, rfl⟩

theorem pollsOnTime_step_iff (s : PlcaPoll) (e : PlcaEvent) (h : PollInv s)
    (ha : CallsInOrder s e) : PollsOnTime s e ↔ SameRound s e := by
  cases e with
  | plcaStatus success value => exact Iff.rfl
  | check t enqueued =>
    obtain ⟨hle, hgap⟩ := ha
    apply forall_congr'
    intro t0
    apply imp_congr_right
    intro ht0
    obtain ⟨h0, h1⟩ := h.recent t0 ht0
    have hreq : (plcaStep s (.check t enqueued)).2.any T1sCall.isRequest = true ↔
        (t0 + 1000) % 2 ^ 32 < t % 2 ^ 32 := by
      rw [← h.deadline t0 ht0]
      exact check_requests_iff s.m (UInt32.ofNat t) enqueued h.idx
    have hlate : 1000 < t - t0 ↔ t0 + 1000 < t := by omega
    rw [hreq, hlate]
    exact mod_lt_iff (2 ^ 32) (t0 + 1000) t (by omega) (by omega)

theorem pollInv_step (s : PlcaPoll) (e : PlcaEvent) (h : PollInv s) (ha : CallsInOrder s e)
    (hok : PollsOnTime s e) : PollInv (plcaStep s e).1 := by
  cases e with
  | plcaStatus success value =>
    obtain ⟨hnext, hidx⟩ := onPlcaStatus_keeps s.m success (onPlcaStatus success value)
    exact ⟨hidx.trans h.idx, fun t0 ht0 => (congrArg UInt32.toNat hnext).trans (h.deadline t0 ht0),
      h.recent⟩
  | check t enqueued =>
    have hspec := check_spec s.m (UInt32.ofNat t) enqueued h.idx
    by_cases hreq : (t1sCheckPlcaStatus s.m (UInt32.ofNat t) enqueued).2.any T1sCall.isRequest
    · rw [if_pos hreq] at hspec
      have hstep : (plcaStep s (.check t enqueued)).1 =
          ⟨{ s.m with nextBeaconCheck := UInt32.ofNat t + delayBeaconCheck }, t, some t⟩ := by
        simp only [plcaStep, hspec, hreq, if_true]
      rw [hstep]
      refine ⟨h.idx, ?_, ?_⟩
      · rintro t0 ht0
        cases ht0
        simp [delayBeaconCheck]
      · rintro t0 ht0
        cases ht0
        exact ⟨Nat.le_refl _, Nat.le_add_right _ _⟩
    · rw [if_neg hreq] at hspec
      have hstep : (plcaStep s (.check t enqueued)).1 = ⟨s.m, t, s.lastRequest⟩ := by
        simp only [plcaStep, hspec, hreq, if_false, Bool.false_eq_true]
      rw [hstep]
      refine ⟨h.idx, h.deadline, ?_⟩
      intro t0 ht0
      -- no request was made, so none was due
      have hnot := mt (hok t0 ht0).mpr hreq
      obtain ⟨h0, -⟩ := h.recent t0 ht0
      obtain ⟨hle, -⟩ := ha
      show t0 ≤ t ∧ t ≤ t0 + 1000
      omega

/-! ## Runs -/

/-- **The polling rate.**  Along every run of calls less than 2^32 ms apart, a call after the
first request makes a new one exactly if more than 1000 ms have passed, if and only if no call
comes in another round of the 32-bit clock than 1000 ms after the last request. -/
theorem pollsOnTime_iff (t0 : Nat) (es : List PlcaEvent)
    (h : Along plcaStep CallsInOrder (PlcaPoll.start t0) es) :
    Along plcaStep PollsOnTime (PlcaPoll.start t0) es ↔
      Along plcaStep SameRound (PlcaPoll.start t0) es :=
  along_iff_of plcaStep CallsInOrder PollsOnTime SameRound PollInv pollsOnTime_step_iff
    pollInv_step es _ (pollInv_start t0) h

/-- Two requests and a call between them, after the clock has started over. -/
theorem pollsOnTime_iff_afterWrap :
    Along plcaStep PollsOnTime (PlcaPoll.start (2 ^ 32))
      [.check (2 ^ 32 + 2000) true, .check (2 ^ 32 + 2500) true, .check (2 ^ 32 + 3001) true] :=
  (pollsOnTime_iff (2 ^ 32)
    [.check (2 ^ 32 + 2000) true, .check (2 ^ 32 + 2500) true, .check (2 ^ 32 + 3001) true]
    ⟨⟨by decide, by decide⟩, ⟨by decide, by decide⟩, ⟨by decide, by decide⟩, trivial⟩).mpr
    ⟨fun _ h => (by cases h), fun _ h => (by cases h; decide), fun _ h => (by cases h; decide),
      trivial⟩

/-- 500 ms before the clock starts over, the deadline has already done so: there is a request at
each call. -/
theorem pollsOnTime_not_always :
    ¬ ∀ (t0 : Nat) (es : List PlcaEvent), Along plcaStep CallsInOrder (PlcaPoll.start t0) es →
      Along plcaStep PollsOnTime (PlcaPoll.start t0) es := by
  intro h
  have hrun := h (2 ^ 32 - 500) [.check (2 ^ 32 - 500) true, .check (2 ^ 32 - 499) true]
    ⟨⟨by decide, by decide⟩, ⟨by decide, by decide⟩, trivial⟩
  obtain ⟨-, hsecond, -⟩ := hrun
  exact absurd ((hsecond (2 ^ 32 - 500) rfl).mp (by decide)) (by decide)

end CuriosityT1S
