import Mathlib.Algebra.Group.Nat.Defs
import Mathlib.Data.List.Chain
import Mathlib.Data.Nat.Basic

/-!
# Reading a counter that starts over

A free-running counter shows `t % P` at time `t`.  A reader that compares each
raw value with the previous one notices a wrap when the value went down
(`detected`).  Between two reads whole periods can pass unseen (`skipped`).

    t0 / P + detected P t0 ts + skipped P t0 ts = (last read) / P        (detected_add_skipped)

so a reader never counts too many periods, and counts all of them when its
reads are less than a period apart (`skipped_eq_zero`).  A time and a deadline
less than a period apart can be compared by what the counter shows just as long
as it has not started over between them (`mod_lt_iff`).  A difference of two 32-bit readings is
never more than the true one (`ofNat_sub_le`), and it is the true one if that fits 32 bits
(`toNat_sub_of_readings`, `ofNat_sub_ofNat`); modulo 2^32 it always is (`toNat_ofNat_sub`).
-/

namespace WrapCounter

/-- Wraps noticed over the reads `ts`, the previous read being at `t0`. -/
def detected (P : Nat) : Nat → List Nat → Nat
  | _, [] => 0
  | t0, t :: ts => (if t % P < t0 % P then 1 else 0) + detected P t ts

/-- Whole periods that pass between consecutive reads. -/
def skipped (P : Nat) : Nat → List Nat → Nat
  | _, [] => 0
  | t0, t :: ts => (t - t0) / P + skipped P t ts

/-- One read: the wrap noticed, if any, and the periods skipped make up the periods passed. -/
theorem wrap_add_skip (P t0 t : Nat) (hP : 0 < P) (h : t0 ≤ t) :
    t0 / P + (if t % P < t0 % P then 1 else 0) + (t - t0) / P = t / P := by
  obtain ⟨d, rfl⟩ := Nat.exists_eq_add_of_le h
  rw [Nat.add_sub_cancel_left, Nat.add_div hP, Nat.add_mod]
  have h1 := Nat.mod_lt t0 hP
  have h2 := Nat.mod_lt d hP
  -- the low parts carry exactly when the raw value goes down
  by_cases hc : P ≤ t0 % P + d % P
  · have : (t0 % P + d % P) % P = t0 % P + d % P - P := by
      rw [Nat.mod_eq_sub_mod hc, Nat.mod_eq_of_lt (by omega)]
    rw [this, if_pos hc, if_pos (by omega)]
    omega
  · rw [Nat.mod_eq_of_lt (by omega), if_neg hc, if_neg (by omega)]
    omega

theorem detected_add_skipped (P : Nat) (hP : 0 < P) :
    ∀ (ts : List Nat) (t0 : Nat), (t0 :: ts).IsChain (· ≤ ·) →
      t0 / P + detected P t0 ts + skipped P t0 ts = (ts.getLastD t0) / P := by
  intro ts
  induction ts with
  | nil => intro t0 _; simp [detected, skipped]
  | cons t ts ih =>
    intro t0 h
    rw [List.isChain_cons_cons] at h
    have h1 := wrap_add_skip P t0 t hP h.1
    have h2 := ih t h.2
    simp only [detected, skipped, List.getLastD_cons]
    omega

/-- Reads less than a period apart skip nothing. -/
theorem skipped_eq_zero (P : Nat) :
    ∀ (ts : List Nat) (t0 : Nat), (t0 :: ts).IsChain (fun a b => b - a < P) →
      skipped P t0 ts = 0 := by
  intro ts
  induction ts with
  | nil => intro t0 _; rfl
  | cons t ts ih =>
    intro t0 h
    rw [List.isChain_cons_cons] at h
    rw [skipped, ih t h.2, Nat.div_eq_of_lt h.1]

/-- The comparison of what the counter shows at `D` and at `t` is right exactly if both are in
the same round. -/
theorem mod_lt_iff (P D t : Nat) (hle : t < D + P) (hge : D < t + P) :
    ((D % P < t % P ↔ D < t) ↔ t / P = D / P) := by
  have ht := Nat.div_add_mod t P
  have hD := Nat.div_add_mod D P
  have hP : 0 < P := by omega
  have htP := Nat.mod_lt t hP
  have hDP := Nat.mod_lt D hP
  rcases Nat.lt_trichotomy (t / P) (D / P) with hlt | heq | hgt
  · -- a deadline in the next round shows less
    have hstep := Nat.mul_le_mul_left P (Nat.succ_le_of_lt hlt)
    rw [Nat.mul_succ] at hstep
    refine ⟨fun h => ?_, fun h => absurd h (Nat.ne_of_lt hlt)⟩
    have := h.mp (by omega)
    omega
  · rw [heq] at ht
    exact ⟨fun _ => heq, fun _ => by omega⟩
  · -- a deadline in the round before shows more
    have hstep := Nat.mul_le_mul_left P (Nat.succ_le_of_lt hgt)
    rw [Nat.mul_succ] at hstep
    refine ⟨fun h => ?_, fun h => absurd h (Nat.ne_of_gt hgt)⟩
    have := h.mpr (by omega)
    omega

/-! ## 32-bit readings -/

theorem toNat_sub_of_readings {a b : UInt32} {t0 t : Nat} (ha : a.toNat = t0 % 2 ^ 32)
    (hb : b.toNat = t % 2 ^ 32) (hle : t0 ≤ t) (hlt : t - t0 < 2 ^ 32) :
    (b - a).toNat = t - t0 := by
  rw [UInt32.toNat_sub, ha, hb]
  omega

theorem ofNat_sub_ofNat {t0 t : Nat} (hle : t0 ≤ t) (hlt : t - t0 < 2 ^ 32) :
    (UInt32.ofNat t - UInt32.ofNat t0).toNat = t - t0 :=
  toNat_sub_of_readings UInt32.toNat_ofNat' UInt32.toNat_ofNat' hle hlt

/-- A difference of two readings is the true one modulo 2^32. -/
theorem toNat_ofNat_sub {t0 t : Nat} (hle : t0 ≤ t) :
    (UInt32.ofNat t - UInt32.ofNat t0).toNat = (t - t0) % 2 ^ 32 := by
  rw [UInt32.toNat_sub, UInt32.toNat_ofNat', UInt32.toNat_ofNat']
  omega

theorem ofNat_sub_le {t0 t : Nat} (hle : t0 ≤ t) :
    (UInt32.ofNat t - UInt32.ofNat t0).toNat ≤ t - t0 := by
  rw [toNat_ofNat_sub hle]
  exact Nat.mod_le _ _

end WrapCounter
