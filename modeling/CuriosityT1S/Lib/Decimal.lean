import Mathlib.Algebra.Order.Field.Basic
import Mathlib.Algebra.Order.Field.Rat

/-!
# Decimal fractions, printed and read

`glue a b` prints two numbers with a point between them, neither of them padded.  `read` takes a
numeral as what it is: digits, and how many of them are behind the point.

    read_glue:    what is read from it again
    glue_div_mod: quotient and remainder by `10 ^ k`, glued, denote the fraction if and only if
                  the remainder is 0 or has `k` digits
-/

namespace Decimal

/-- `digits` without the point, `places` of them behind it. -/
structure Numeral where
  digits : Nat
  places : Nat
deriving DecidableEq, Repr

def Numeral.value (d : Numeral) : ℚ := (d.digits : ℚ) / 10 ^ d.places

/-- "%ld.%ld" -/
def glue (a b : Nat) : List Char := Nat.toDigits 10 a ++ '.' :: Nat.toDigits 10 b

/-- Digits, a point and digits, at least one on either side. -/
def read (s : List Char) : Option Numeral :=
  let whole := s.takeWhile Char.isDigit
  match s.dropWhile Char.isDigit with
  | '.' :: places =>
    if whole ≠ [] ∧ places ≠ [] ∧ places.all Char.isDigit then
      some ⟨Nat.ofDigitChars 10 (whole ++ places) 0, places.length⟩
    else none
  | _ => none

theorem toDigits_isDigit (n : Nat) : ∀ c ∈ Nat.toDigits 10 n, c.isDigit = true :=
  fun _ hc => Nat.isDigit_of_mem_toDigits (by omega) (by omega) hc

/-- The number of digits of the second part decides what its digits are worth. -/
theorem read_glue (a b : Nat) :
    read (glue a b) =
      some ⟨a * 10 ^ (Nat.toDigits 10 b).length + b, (Nat.toDigits 10 b).length⟩ := by
  have ha := toDigits_isDigit a
  have hb : (Nat.toDigits 10 b).all Char.isDigit = true := by
    rw [List.all_eq_true]
    exact toDigits_isDigit b
  have hpoint : Char.isDigit '.' = false := by decide
  have htake : (glue a b).takeWhile Char.isDigit = Nat.toDigits 10 a := by
    unfold glue
    rw [List.takeWhile_append_of_pos ha, List.takeWhile_cons, hpoint]
    simp
  have hdrop : (glue a b).dropWhile Char.isDigit = '.' :: Nat.toDigits 10 b := by
    unfold glue
    rw [List.dropWhile_append_of_pos ha, List.dropWhile_cons, hpoint]
    simp
  have hdigits : Nat.ofDigitChars 10 (Nat.toDigits 10 a ++ Nat.toDigits 10 b) 0 =
      a * 10 ^ (Nat.toDigits 10 b).length + b := by
    rw [Nat.ofDigitChars_append, Nat.ofDigitChars_ten_toDigits,
      Nat.ofDigitChars_eq_ofDigitChars_zero, Nat.ofDigitChars_ten_toDigits, Nat.mul_comm]
  unfold read
  simp only [htake, hdrop]
  rw [if_pos ⟨Nat.toDigits_ne_nil, Nat.toDigits_ne_nil, hb⟩, hdigits]

/-- The value of a glued numeral. -/
theorem value_glue (a b places : Nat) :
    (Numeral.mk (a * 10 ^ places + b) places).value = a + (b : ℚ) / 10 ^ places := by
  have hne : (10 : ℚ) ^ places ≠ 0 := pow_ne_zero places (by decide)
  unfold Numeral.value
  push_cast
  rw [add_div, mul_div_cancel_right₀ _ hne]

/-- Two numbers of places give a part behind the point the same value only if it is 0. -/
theorem div_pow_eq_iff (b m n : Nat) :
    (b : ℚ) / 10 ^ m = (b : ℚ) / 10 ^ n ↔ b = 0 ∨ m = n := by
  have hm : (10 : ℚ) ^ m ≠ 0 := pow_ne_zero m (by decide)
  have hn : (10 : ℚ) ^ n ≠ 0 := pow_ne_zero n (by decide)
  rw [div_eq_div_iff hm hn]
  norm_cast
  by_cases h0 : b = 0
  · simp [h0]
  · rw [Nat.mul_left_cancel_iff (Nat.pos_of_ne_zero h0), Nat.pow_right_inj (by omega)]
    simp [h0, eq_comm]

/-- **Quotient and remainder.**  Glued, they denote the fraction if and only if the remainder is 0
or has all its digits. -/
theorem glue_div_mod (v k : Nat) (hk : 0 < k) :
    (∃ d, read (glue (v / 10 ^ k) (v % 10 ^ k)) = some d ∧ d.value = (v : ℚ) / 10 ^ k) ↔
      v % 10 ^ k = 0 ∨ 10 ^ (k - 1) ≤ v % 10 ^ k := by
  have hlt : v % 10 ^ k < 10 ^ k := Nat.mod_lt v (Nat.pow_pos (by omega))
  have hv : v = v / 10 ^ k * 10 ^ k + v % 10 ^ k := (Nat.div_add_mod' v (10 ^ k)).symm
  generalize v / 10 ^ k = q at hv ⊢
  generalize v % 10 ^ k = r at hv hlt ⊢
  have hfraction : (v : ℚ) / 10 ^ k = q + (r : ℚ) / 10 ^ k := by
    rw [← value_glue q r k, ← hv]
    rfl
  have hle : (Nat.toDigits 10 r).length ≤ k :=
    (Nat.length_toDigits_le_iff (by omega) hk).mpr hlt
  rw [read_glue, hfraction]
  have hlength : (Nat.toDigits 10 r).length = k ↔ r = 0 ∧ k = 1 ∨ 10 ^ (k - 1) ≤ r := by
    have hpos := Nat.length_toDigits_pos (b := 10) (n := r)
    by_cases h1 : k = 1
    · have hone : 10 ^ (k - 1) = 1 := by rw [h1]; rfl
      omega
    · have hless := Nat.length_toDigits_le_iff (n := r) (k := k - 1) (b := 10) (by omega) (by omega)
      omega
  constructor
  · rintro ⟨d, hd, hval⟩
    cases hd
    rw [value_glue, add_right_inj, div_pow_eq_iff, hlength] at hval
    omega
  · intro h
    refine ⟨_, rfl, ?_⟩
    rw [value_glue, add_right_inj, div_pow_eq_iff, hlength]
    omega

end Decimal
