import CuriosityT1S.Lib.Mealy
import CuriosityT1S.Lib.WrapCounter
import Mathlib.Algebra.Group.Nat.Defs
import Mathlib.Data.List.Range

/-!
# The system tick (systick.c over tmr1.c)

Timer 1 counts 10 ns ticks from 0 to `PR1` and starts over.  Both clock
functions read it through `readTickWithWrapDetect`, which adds one period to
`ms_offset` when the raw value went down.  A run is a list of reads, each at a
true tick count; `tickStep` is one read.
-/

namespace CuriosityT1S

open Mealy WrapCounter

/-! ## systick.h, tmr1.c -/

def systickTimerScalerMs : UInt32 := 100000

def systickTimerScalerUs : UInt32 := 100

def systickPeriodMs : UInt32 := 42949

/-- `PR1` as `TMR1_Initialize` sets it. -/
def pr1 : UInt32 := 0xFFFEF91F

/-- Ticks in one round of the timer. -/
def timerPeriod : Nat := pr1.toNat + 1

/-- `TMR1` at true tick count `t`. -/
def tmr1CounterGet (t : Nat) : UInt32 := UInt32.ofNat (t % timerPeriod)

/-! ## systick.c -/

/-- The statics of systick.c. -/
structure SysTick where
  lastRaw : UInt32
  msOffset : UInt32
deriving DecidableEq, Repr

def sysTickInitialize : SysTick := ⟨0, 0⟩

/-- `raw` is what the timer shows inside the critical section. -/
def readTickWithWrapDetect (s : SysTick) (raw : UInt32) : SysTick × UInt32 :=
  let msOffset := if raw < s.lastRaw then s.msOffset + systickPeriodMs else s.msOffset
  (⟨raw, msOffset⟩, raw)

def sysTickGetTickMs (s : SysTick) (raw : UInt32) : SysTick × UInt32 :=
  let (s, raw) := readTickWithWrapDetect s raw
  (s, s.msOffset + raw / systickTimerScalerMs)

def sysTickGetTickUs (s : SysTick) (raw : UInt32) : SysTick × UInt64 :=
  let (s, raw) := readTickWithWrapDetect s raw
  (s, s.msOffset.toUInt64 * 1000 + (raw / systickTimerScalerUs).toUInt64)

/-! ## Runs of reads -/

/-- Which of the two functions reads the timer. -/
inductive TickRead
  | ms
  | us
deriving DecidableEq, Repr

inductive TickValue
  | ms (v : UInt32)
  | us (v : UInt64)
deriving DecidableEq, Repr

/-- One read, at tick count `r.2`. -/
def tickStep (s : SysTick) (r : TickRead × Nat) : SysTick × List (Nat × TickValue) :=
  match r with
  | (.ms, t) =>
    let (s, v) := sysTickGetTickMs s (tmr1CounterGet t)
    (s, [(t, .ms v)])
  | (.us, t) =>
    let (s, v) := sysTickGetTickUs s (tmr1CounterGet t)
    (s, [(t, .us v)])

/-- The microsecond readings of a run, each with its tick count. -/
def usReadings (os : List (Nat × TickValue)) : List (Nat × UInt64) :=
  os.filterMap fun o => match o.2 with
    | .us v => some (o.1, v)
    | .ms _ => none

/-! ## What one read does -/

theorem timerPeriod_eq : timerPeriod = 4294900000 := by decide

theorem tmr1CounterGet_toNat (t : Nat) : (tmr1CounterGet t).toNat = t % timerPeriod := by
  unfold tmr1CounterGet
  rw [timerPeriod_eq]
  simp
  omega

theorem tmr1CounterGet_lt (t t0 : Nat) :
    tmr1CounterGet t < tmr1CounterGet t0 ↔ t % timerPeriod < t0 % timerPeriod := by
  rw [UInt32.lt_iff_toNat_lt, tmr1CounterGet_toNat, tmr1CounterGet_toNat]

/-- The accumulator gains one period exactly when a wrap is noticed. -/
theorem readTickWithWrapDetect_msOffset (s : SysTick) (t0 t : Nat)
    (h : s.lastRaw = tmr1CounterGet t0) :
    (readTickWithWrapDetect s (tmr1CounterGet t)).1.msOffset.toNat =
      (s.msOffset.toNat + 42949 * (if t % timerPeriod < t0 % timerPeriod then 1 else 0)) % 2 ^ 32 := by
  simp only [readTickWithWrapDetect, h, tmr1CounterGet_lt]
  split
  · simp [systickPeriodMs]
  · simp

/-- Both functions move the state alike. -/
theorem tickStep_fst (s : SysTick) (r : TickRead × Nat) :
    (tickStep s r).1 = (readTickWithWrapDetect s (tmr1CounterGet r.2)).1 := by
  obtain ⟨k, t⟩ := r
  cases k <;> rfl

theorem sysTickGetTickMs_toNat (s : SysTick) (t : Nat) :
    (sysTickGetTickMs s (tmr1CounterGet t)).2.toNat =
      ((readTickWithWrapDetect s (tmr1CounterGet t)).1.msOffset.toNat +
        t % timerPeriod / 100000) % 2 ^ 32 := by
  simp [sysTickGetTickMs, readTickWithWrapDetect, systickTimerScalerMs, tmr1CounterGet_toNat]

theorem sysTickGetTickUs_toNat (s : SysTick) (t : Nat) :
    (sysTickGetTickUs s (tmr1CounterGet t)).2.toNat =
      (readTickWithWrapDetect s (tmr1CounterGet t)).1.msOffset.toNat * 1000 +
        t % timerPeriod / 100 := by
  have h1 := (readTickWithWrapDetect s (tmr1CounterGet t)).1.msOffset.toNat_lt
  have h2 : t % timerPeriod < timerPeriod := Nat.mod_lt t (by decide)
  rw [timerPeriod_eq] at h2 ⊢
  simp only [readTickWithWrapDetect] at h1
  simp [sysTickGetTickUs, readTickWithWrapDetect, systickTimerScalerUs, tmr1CounterGet_toNat,
    timerPeriod_eq]
  omega

/-! ## What a run does -/

/-- After the reads, `last_raw` is the last raw value and `ms_offset` counts the wraps noticed. -/
theorem exec_tickStep (rs : List (TickRead × Nat)) :
    ∀ (s : SysTick) (t0 : Nat), s.lastRaw = tmr1CounterGet t0 →
      (exec tickStep s rs).lastRaw = tmr1CounterGet ((rs.map Prod.snd).getLastD t0) ∧
      (exec tickStep s rs).msOffset.toNat =
        (s.msOffset.toNat + 42949 * detected timerPeriod t0 (rs.map Prod.snd)) % 2 ^ 32 := by
  induction rs with
  | nil =>
    intro s t0 h
    have := s.msOffset.toNat_lt
    simp [h, detected]
  | cons r rs ih =>
    intro s t0 h
    have hoff := readTickWithWrapDetect_msOffset s t0 r.2 h
    rw [← tickStep_fst] at hoff
    obtain ⟨h1, h2⟩ := ih (tickStep s r).1 r.2 (by rw [tickStep_fst]; rfl)
    refine ⟨by simpa only [exec_cons, List.map_cons, List.getLastD_cons] using h1, ?_⟩
    simp only [exec_cons, List.map_cons, detected]
    rw [h2, hoff]
    omega

/-- The accumulator a read at `t` works with, after the reads `rs` from power-on. -/
theorem msOffset_after (rs : List (TickRead × Nat)) (t : Nat) :
    (readTickWithWrapDetect (exec tickStep sysTickInitialize rs) (tmr1CounterGet t)).1.msOffset.toNat =
      42949 * detected timerPeriod 0 (rs.map Prod.snd ++ [t]) % 2 ^ 32 := by
  have h := exec_tickStep (rs ++ [(.ms, t)]) sysTickInitialize 0 (by decide)
  rw [exec_append, List.map_append, exec_cons, exec_nil, tickStep_fst] at h
  simpa [sysTickInitialize] using h.2

/-! ## Milliseconds -/

/-- **The millisecond clock.**  A read at `t` after any reads at nondecreasing times is
`t / 100000` less one period for every whole period skipped, as a 32-bit value; it never
runs ahead, and is exact when the reads are less than a period apart. -/
theorem sysTickGetTickMs_run (rs : List (TickRead × Nat)) (t : Nat)
    (h : (0 :: (rs.map Prod.snd ++ [t])).IsChain (· ≤ ·)) :
    let v := (sysTickGetTickMs (exec tickStep sysTickInitialize rs) (tmr1CounterGet t)).2.toNat
    let lost := 42949 * skipped timerPeriod 0 (rs.map Prod.snd ++ [t])
    lost ≤ t / 100000 ∧ v = (t / 100000 - lost) % 2 ^ 32 ∧
      ((0 :: (rs.map Prod.snd ++ [t])).IsChain (fun a b => b - a < timerPeriod) →
        v = t / 100000 % 2 ^ 32) := by
  intro v lost
  have hsum := detected_add_skipped timerPeriod (by decide) _ 0 h
  have hlast : (rs.map Prod.snd ++ [t]).getLastD 0 = t := by simp
  have hv : v = (42949 * detected timerPeriod 0 (rs.map Prod.snd ++ [t]) % 2 ^ 32 +
      t % timerPeriod / 100000) % 2 ^ 32 := by
    rw [← msOffset_after]
    exact sysTickGetTickMs_toNat _ t
  -- a period is a whole number of milliseconds
  have hdiv : t / 100000 = 42949 * (t / timerPeriod) + t % timerPeriod / 100000 := by
    rw [timerPeriod_eq]; omega
  rw [hlast, Nat.zero_div, Nat.zero_add] at hsum
  have hexact : v = (t / 100000 - lost) % 2 ^ 32 := by
    rw [hv, hdiv, ← hsum]
    simp only [lost]
    omega
  refine ⟨by rw [hdiv, ← hsum]; simp only [lost]; omega, hexact, fun hgap => ?_⟩
  rw [hexact]
  simp only [lost, skipped_eq_zero timerPeriod _ 0 hgap, Nat.mul_zero, Nat.sub_zero]

/-- Reads at 0.5 s, 43 s and 90 s: one wrap noticed, one period skipped. -/
theorem sysTickGetTickMs_run_skip :
    (sysTickGetTickMs (exec tickStep sysTickInitialize
      [(.us, 50000000), (.ms, 4300000000)]) (tmr1CounterGet 9000000000)).2.toNat =
      (90000 - 42949) % 2 ^ 32 := by
  have h := (sysTickGetTickMs_run [(.us, 50000000), (.ms, 4300000000)] 9000000000
    (by simp)).2.1
  rw [h]
  decide

/-! ## Microseconds -/

/-- A microsecond reading of a run is what `SysTick_GetTickUs` returns at its tick count. -/
theorem mem_usReadings (rs : List (TickRead × Nat)) (t : Nat) (v : UInt64) :
    (t, v) ∈ usReadings (emits tickStep sysTickInitialize rs) ↔
      ∃ pre post, rs = pre ++ (.us, t) :: post ∧
        v = (sysTickGetTickUs (exec tickStep sysTickInitialize pre) (tmr1CounterGet t)).2 := by
  unfold usReadings
  rw [List.mem_filterMap]
  constructor
  · rintro ⟨⟨t', w⟩, hm, hw⟩
    obtain ⟨pre, ⟨k, u⟩, post, rfl, ho⟩ := (mem_emits_iff _ _ _ _).mp hm
    cases k with
    | ms =>
      simp only [tickStep, List.mem_singleton, Prod.mk.injEq] at ho
      obtain ⟨rfl, rfl⟩ := ho
      cases hw
    | us =>
      simp only [tickStep, List.mem_singleton, Prod.mk.injEq] at ho
      obtain ⟨rfl, rfl⟩ := ho
      simp only [Option.some.injEq, Prod.mk.injEq] at hw
      obtain ⟨rfl, rfl⟩ := hw
      exact ⟨pre, post, rfl, rfl⟩
  · rintro ⟨pre, post, rfl, rfl⟩
    exact ⟨(t, .us _), (mem_emits_iff _ _ _ _).mpr ⟨pre, (.us, t), post, rfl, by
      simp only [tickStep, List.mem_singleton]⟩, rfl⟩

/-- A microsecond reading, with reads less than a period apart: the accumulator has lost
every full turn of its 32 bits. -/
theorem usReading_toNat (rs : List (TickRead × Nat))
    (hle : (0 :: rs.map Prod.snd).IsChain (· ≤ ·))
    (hgap : (0 :: rs.map Prod.snd).IsChain (fun a b => b - a < timerPeriod))
    (t : Nat) (v : UInt64) (hm : (t, v) ∈ usReadings (emits tickStep sysTickInitialize rs)) :
    v.toNat = 42949 * (t / timerPeriod) % 2 ^ 32 * 1000 + t % timerPeriod / 100 := by
  obtain ⟨pre, post, rfl, rfl⟩ := (mem_usReadings _ _ _).mp hm
  have hsplit : 0 :: (pre ++ (TickRead.us, t) :: post).map Prod.snd =
      (0 :: (pre.map Prod.snd ++ [t])) ++ post.map Prod.snd := by simp
  rw [hsplit] at hle hgap
  have h := detected_add_skipped timerPeriod (by decide) _ 0 hle.left_of_append
  rw [skipped_eq_zero timerPeriod _ 0 hgap.left_of_append, Nat.zero_div, Nat.zero_add,
    Nat.add_zero, List.getLastD_concat] at h
  rw [sysTickGetTickUs_toNat, msOffset_after, h]

/-- The reading is exact just as long as the millisecond count of the whole periods fits 32 bits. -/
theorem usReading_exact_iff (t v : Nat)
    (hv : v = 42949 * (t / timerPeriod) % 2 ^ 32 * 1000 + t % timerPeriod / 100) :
    v = t / 100 ↔ 42949 * (t / timerPeriod) < 2 ^ 32 := by
  have hdiv : t / 100 = 42949 * (t / timerPeriod) * 1000 + t % timerPeriod / 100 := by
    rw [timerPeriod_eq]; omega
  rw [hv, hdiv]
  omega

/-- An exact reading was taken before the accumulator overflows. -/
theorem lt_of_usReadings_exact (rs : List (TickRead × Nat))
    (hle : (0 :: rs.map Prod.snd).IsChain (· ≤ ·))
    (hgap : (0 :: rs.map Prod.snd).IsChain (fun a b => b - a < timerPeriod))
    (hex : ∀ r ∈ usReadings (emits tickStep sysTickInitialize rs), r.2.toNat = r.1 / 100)
    (t : Nat) (ht : (TickRead.us, t) ∈ rs) : 42949 * (t / timerPeriod) < 2 ^ 32 := by
  obtain ⟨pre, post, rfl⟩ := List.append_of_mem ht
  have hm := (mem_usReadings _ t _).mpr ⟨pre, post, rfl, rfl⟩
  exact (usReading_exact_iff t _ (usReading_toNat _ hle hgap t _ hm)).mp (hex _ hm)

/-- The readings come at the run's own times, in its order. -/
theorem usReadings_times (rs : List (TickRead × Nat)) :
    ∀ s, (usReadings (emits tickStep s rs)).map Prod.fst =
      (rs.filter (fun r => r.1 = .us)).map Prod.snd := by
  induction rs with
  | nil => intro s; rfl
  | cons r rs ih =>
    intro s
    obtain ⟨k, t⟩ := r
    have hrest := ih (tickStep s (k, t)).1
    unfold usReadings at hrest ⊢
    cases k with
    | ms => simpa [tickStep] using hrest
    | us => simpa [tickStep] using hrest

theorem usReadings_sorted (rs : List (TickRead × Nat))
    (hle : (0 :: rs.map Prod.snd).IsChain (· ≤ ·)) :
    (usReadings (emits tickStep sysTickInitialize rs)).Pairwise (fun r r' => r.1 ≤ r'.1) := by
  have h : (rs.map Prod.snd).Pairwise (· ≤ ·) :=
    (List.pairwise_cons.mp (List.isChain_iff_pairwise.mp hle)).2
  have hsub : ((rs.filter (fun r => r.1 = .us)).map Prod.snd).Sublist (rs.map Prod.snd) :=
    List.filter_sublist.map _
  have h' := h.sublist hsub
  rw [← usReadings_times rs sysTickInitialize, List.pairwise_map] at h'
  exact h'

/-- **The microsecond clock.**  Over reads less than a period apart, every reading is `t / 100`
and the readings never decrease if and only if each is taken before the 32-bit millisecond
accumulator overflows. -/
theorem sysTickGetTickUs_exact_iff (rs : List (TickRead × Nat))
    (hle : (0 :: rs.map Prod.snd).IsChain (· ≤ ·))
    (hgap : (0 :: rs.map Prod.snd).IsChain (fun a b => b - a < timerPeriod)) :
    ((∀ r ∈ usReadings (emits tickStep sysTickInitialize rs), r.2.toNat = r.1 / 100) ∧
      (usReadings (emits tickStep sysTickInitialize rs)).Pairwise (fun r r' => r.2 ≤ r'.2)) ↔
    ∀ r ∈ rs, r.1 = .us → 42949 * (r.2 / timerPeriod) < 2 ^ 32 := by
  constructor
  · rintro ⟨hex, -⟩ ⟨k, t⟩ hr rfl
    exact lt_of_usReadings_exact rs hle hgap hex t hr
  · intro hlow
    have hex : ∀ r ∈ usReadings (emits tickStep sysTickInitialize rs), r.2.toNat = r.1 / 100 := by
      rintro ⟨t, v⟩ hm
      have hv := usReading_toNat rs hle hgap t v hm
      obtain ⟨pre, post, rfl, -⟩ := (mem_usReadings _ _ _).mp hm
      exact (usReading_exact_iff t v.toNat hv).mpr (hlow (.us, t) (by simp) rfl)
    refine ⟨hex, (usReadings_sorted rs hle).imp_of_mem fun {r r'} hr hr' h => ?_⟩
    rw [UInt64.le_iff_toNat_le, hex r hr, hex r' hr']
    exact Nat.div_le_div_right h

/-- Reads at 0.5 s, 43 s and 44 s, across one wrap of the timer. -/
theorem sysTickGetTickUs_exact_wrap :
    ((∀ r ∈ usReadings (emits tickStep sysTickInitialize
        [(.us, 50000000), (.ms, 4290000000), (.us, 4300000000)]), r.2.toNat = r.1 / 100) ∧
      (usReadings (emits tickStep sysTickInitialize
        [(.us, 50000000), (.ms, 4290000000), (.us, 4300000000)])).Pairwise
        (fun r r' => r.2 ≤ r'.2)) ↔
    ∀ r ∈ [(TickRead.us, 50000000), (.ms, 4290000000), (.us, 4300000000)],
      r.1 = .us → 42949 * (r.2 / timerPeriod) < 2 ^ 32 :=
  sysTickGetTickUs_exact_iff _ (by simp) (by simp [timerPeriod_eq])

/-- `n` reads of the microsecond clock, `timerPeriod - 1` ticks apart. -/
def steadyReads (n : Nat) : List (TickRead × Nat) :=
  (List.range n).map fun i => (.us, (i + 1) * (timerPeriod - 1))

theorem steadyReads_isChain (n : Nat) (R : Nat → Nat → Prop)
    (hR : ∀ i, R (i * (timerPeriod - 1)) ((i + 1) * (timerPeriod - 1))) :
    (0 :: (steadyReads n).map Prod.snd).IsChain R := by
  have hm : 0 :: (steadyReads n).map Prod.snd =
      (List.range (n + 1)).map fun i => i * (timerPeriod - 1) := by
    unfold steadyReads
    rw [List.range_succ_eq_map, List.map_cons, List.map_map, List.map_map, Nat.zero_mul]
    rfl
  rw [hm, List.isChain_map]
  exact (List.isChain_range_succ _ n).mpr fun m _ => hR m

/-- After about 49.7 days of such reads the microsecond clock is wrong: it starts over. -/
theorem sysTickGetTickUs_wraps :
    ¬ ∀ rs : List (TickRead × Nat), (0 :: rs.map Prod.snd).IsChain (· ≤ ·) →
      (0 :: rs.map Prod.snd).IsChain (fun a b => b - a < timerPeriod) →
      (∀ r ∈ usReadings (emits tickStep sysTickInitialize rs), r.2.toNat = r.1 / 100) ∧
        (usReadings (emits tickStep sysTickInitialize rs)).Pairwise (fun r r' => r.2 ≤ r'.2) := by
  intro h
  have hle : (0 :: (steadyReads 100003).map Prod.snd).IsChain (· ≤ ·) :=
    steadyReads_isChain _ _ fun i => Nat.mul_le_mul_right _ (Nat.le_succ i)
  have hgap : (0 :: (steadyReads 100003).map Prod.snd).IsChain (fun a b => b - a < timerPeriod) :=
    steadyReads_isChain _ _ fun i => by rw [timerPeriod_eq]; omega
  have hlast : (TickRead.us, (100002 + 1) * (timerPeriod - 1)) ∈ steadyReads 100003 :=
    List.mem_map.mpr ⟨100002, List.mem_range.mpr (by omega), rfl⟩
  have hlt := lt_of_usReadings_exact _ hle hgap (h _ hle hgap).1 _ hlast
  rw [timerPeriod_eq] at hlt
  omega

end CuriosityT1S
