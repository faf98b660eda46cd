import Mathlib.Algebra.Group.Nat.Defs
import Mathlib.Data.List.Basic

/-!
# Ring buffers

Items are numbered in the order in which they come.  Item `n` lies in cell `n % cells.length`, as
long as it is in the ring.  `Holds cells base items`: the ring holds `items`, the first of which
has number `base`.

    Holds.get:   an item is read from its cell
    Holds.set:   one is replaced
    Holds.write: one is written behind the last
    Holds.tail:  the first one leaves
    Holds.left:  the last ones are forgotten
    mask_clash:  with a mask for the remainder, a size that is no power of two uses a cell twice
-/

namespace Ring

variable {α : Type}

def Holds (cells : List α) (base : Nat) (items : List α) : Prop :=
  items.length ≤ cells.length ∧
    ∀ j < items.length, cells[(base + j) % cells.length]? = items[j]?

/-- Two items in the ring are not in the same cell. -/
theorem slot_inj {n a b : Nat} (hab : a ≤ b) (hlt : b < a + n) (h : a % n = b % n) : a = b := by
  have hdvd : n ∣ b - a := Nat.dvd_of_mod_eq_zero (Nat.sub_mod_eq_zero_of_mod_eq h.symm)
  have hzero := Nat.eq_zero_of_dvd_of_lt hdvd (by omega)
  omega

theorem holds_nil (cells : List α) (base : Nat) : Holds cells base [] :=
  ⟨Nat.zero_le _, fun _ h => absurd h (Nat.not_lt_zero _)⟩

theorem Holds.get {cells items : List α} {base : Nat} (h : Holds cells base items) {j : Nat}
    (hj : j < items.length) : cells[(base + j) % cells.length]? = items[j]? := h.2 j hj

theorem slot_lt {cells items : List α} (hle : items.length ≤ cells.length) {j : Nat}
    (hj : j < items.length) (base : Nat) : (base + j) % cells.length < cells.length :=
  Nat.mod_lt _ (by omega)

theorem Holds.set {cells items : List α} {base : Nat} (h : Holds cells base items) {j : Nat}
    (hj : j < items.length) (a : α) :
    Holds (cells.set ((base + j) % cells.length) a) base (items.set j a) := by
  obtain ⟨hle, hget⟩ := h
  refine ⟨by simpa using hle, fun i hi => ?_⟩
  rw [List.length_set] at hi
  rw [List.length_set]
  by_cases hij : i = j
  · rw [hij, List.getElem?_set_self (slot_lt hle hj base), List.getElem?_set_self hj]
  · have hne : (base + j) % cells.length ≠ (base + i) % cells.length := by
      intro heq
      rcases Nat.lt_or_ge i j with hlt | hge
      · have := slot_inj (by omega) (by omega) heq.symm
        omega
      · have := slot_inj (by omega) (by omega) heq
        omega
    rw [List.getElem?_set_ne hne, List.getElem?_set_ne (Ne.symm hij), hget i hi]

theorem Holds.left {cells : List α} {base : Nat} {items rest : List α}
    (h : Holds cells base (items ++ rest)) : Holds cells base items := by
  obtain ⟨hle, hget⟩ := h
  rw [List.length_append] at hle hget
  refine ⟨by omega, fun j hj => ?_⟩
  rw [hget j (by omega), List.getElem?_append_left hj]

theorem Holds.tail {cells : List α} {base : Nat} {a : α} {items : List α}
    (h : Holds cells base (a :: items)) : Holds cells (base + 1) items := by
  obtain ⟨hle, hget⟩ := h
  rw [List.length_cons] at hle hget
  refine ⟨by omega, fun j hj => ?_⟩
  have hnext := hget (j + 1) (by omega)
  rw [List.getElem?_cons_succ] at hnext
  rw [← hnext, Nat.add_right_comm, Nat.add_assoc]

/-- The cell behind the last item is free. -/
theorem Holds.write {cells items : List α} {base : Nat} (h : Holds cells base items)
    (hroom : items.length < cells.length) (a : α) :
    Holds (cells.set ((base + items.length) % cells.length) a) base (items ++ [a]) := by
  obtain ⟨hle, hget⟩ := h
  refine ⟨by simpa using Nat.succ_le_of_lt hroom, fun j hj => ?_⟩
  rw [List.length_append, List.length_singleton] at hj
  rw [List.length_set]
  by_cases hlast : j = items.length
  · rw [hlast, List.getElem?_set_self (Nat.mod_lt _ (by omega)), List.getElem?_concat_length]
  · have hne : (base + items.length) % cells.length ≠ (base + j) % cells.length := by
      intro heq
      have := slot_inj (by omega) (by omega) heq.symm
      omega
    rw [List.getElem?_set_ne hne, hget j (by omega), List.getElem?_append_left (by omega)]

/-- The induction takes the lowest bit off: a size with a mask that ends in 0 uses cell 0 for item 1
too. -/
theorem mask_clash_succ (t : Nat) : (∃ m, t + 1 = 2 ^ m) ∨ ∃ j ≤ t, 0 < j ∧ j &&& t = 0 := by
  induction t using Nat.strongRecOn with
  | ind t ih =>
    obtain ⟨u, rfl | rfl⟩ : ∃ u, t = 2 * u ∨ t = 2 * u + 1 := ⟨t / 2, by omega⟩
    · rcases Nat.eq_zero_or_pos u with rfl | hu
      · exact .inl ⟨0, rfl⟩
      · exact .inr ⟨1, by omega, Nat.one_pos, by simp [Nat.one_and_eq_mod_two]⟩
    · rcases ih u (by omega) with ⟨m, hm⟩ | ⟨j, hle, hj, hand⟩
      · exact .inl ⟨m + 1, by rw [Nat.pow_succ, ← hm]; omega⟩
      · refine .inr ⟨2 * j, by omega, by omega, ?_⟩
        have hhalf : (2 * j &&& (2 * u + 1)) / 2 = 0 := by
          have hdiv : (2 * u + 1) / 2 = u := by omega
          rw [Nat.and_div_two, Nat.mul_div_cancel_left j Nat.two_pos, hdiv, hand]
        have heven : (2 * j &&& (2 * u + 1)) % 2 = 0 := by
          have hmod := Nat.and_mod_two_pow (a := 2 * j) (b := 2 * u + 1) (n := 1)
          rw [Nat.pow_one] at hmod
          rw [hmod, Nat.mul_mod_right, Nat.zero_and]
        omega

/-- A size is a power of two, or an item before the ring is full is in the cell of item 0. -/
theorem mask_clash {n : Nat} (hn : 0 < n) :
    (∃ m, n = 2 ^ m) ∨ ∃ j < n, 0 < j ∧ j &&& (n - 1) = 0 := by
  obtain ⟨t, rfl⟩ := Nat.exists_eq_add_of_lt hn
  rw [Nat.zero_add]
  exact (mask_clash_succ t).imp_right fun ⟨j, hle, h⟩ => ⟨j, Nat.lt_succ_of_le hle, h⟩

end Ring
