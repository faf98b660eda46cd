import Mathlib.Data.List.Basic
import Mathlib.Logic.Function.Basic

/-!
# Memory written in pieces

A buffer is a list.  `splice mem data off` is `mem` with the elements from `off` on replaced by
`data` (a `memcpy`).  `Filled mem xs`: `mem` starts with `xs`.  Pieces written one behind the other
from offset 0 fill `mem` with their concatenation, whatever was there before (`Filled.splice`).

All of memory is a function on addresses.

    bytesAt:             the bytes that lie from an address on
    storeBytes:          bytes stored one behind the other from an address on
    bytesAt_storeBytes:  what is read where they were stored
-/

namespace Splice

variable {α : Type}

def splice (mem data : List α) (off : Nat) : List α :=
  mem.take off ++ data ++ mem.drop (off + data.length)

/-- `mem` starts with `xs`. -/
def Filled (mem xs : List α) : Prop := mem.take xs.length = xs

theorem filled_nil (mem : List α) : Filled mem [] := rfl

theorem Filled.length_le {mem xs : List α} (h : Filled mem xs) : xs.length ≤ mem.length := by
  have := congrArg List.length h
  rw [List.length_take] at this
  omega

/-- Elements inside the filled part can be read from either list. -/
theorem Filled.getD {mem xs : List α} (h : Filled mem xs) (i : Nat) (hi : i < xs.length) (a : α) :
    mem.getD i a = xs.getD i a := by
  unfold Filled at h
  rw [← h, List.getD_eq_getElem?_getD, List.getD_eq_getElem?_getD, List.getElem?_take_of_lt hi]

/-- Writing `data` at an offset inside the filled part keeps what is before it. -/
theorem Filled.splice {mem xs : List α} (h : Filled mem xs) (data : List α) (off : Nat)
    (hoff : off ≤ xs.length) : Filled (splice mem data off) (xs.take off ++ data) := by
  have hlen := h.length_le
  have htake : mem.take off = xs.take off := by
    unfold Filled at h
    rw [← h, List.take_take, Nat.min_eq_left hoff]
  have hl : (xs.take off ++ data).length = off + data.length := by
    rw [List.length_append, List.length_take, Nat.min_eq_left hoff]
  unfold Filled Splice.splice
  rw [htake]
  exact List.take_left

end Splice

namespace ByteMemory

/-- Bytes stored one behind the other. -/
def storeBytes (mem : Nat → UInt8) : Nat → List UInt8 → Nat → UInt8
  | _, [] => mem
  | a, b :: bs => storeBytes (Function.update mem a b) (a + 1) bs

/-- `n` bytes of memory. -/
def bytesAt (mem : Nat → UInt8) (a n : Nat) : List UInt8 := (List.range n).map fun i => mem (a + i)

@[simp] theorem bytesAt_length (mem : Nat → UInt8) (a n : Nat) : (bytesAt mem a n).length = n := by
  unfold bytesAt
  rw [List.length_map, List.length_range]

theorem bytesAt_succ (mem : Nat → UInt8) (a n : Nat) :
    bytesAt mem a (n + 1) = mem a :: bytesAt mem (a + 1) n := by
  unfold bytesAt
  rw [List.range_succ_eq_map, List.map_cons, List.map_map, Nat.add_zero]
  congr 1
  apply List.map_congr_left
  intro i _
  show mem (a + (i + 1)) = mem (a + 1 + i)
  rw [Nat.add_assoc, Nat.add_comm 1 i]

theorem bytesAt_update (mem : Nat → UInt8) (a n x : Nat) (b : UInt8) (hx : x < a ∨ a + n ≤ x) :
    bytesAt (Function.update mem x b) a n = bytesAt mem a n := by
  unfold bytesAt
  apply List.map_congr_left
  intro i hi
  have hlt := List.mem_range.mp hi
  exact Function.update_of_ne (show a + i ≠ x by omega) b mem

theorem storeBytes_concat (mem : Nat → UInt8) (a : Nat) (bs : List UInt8) (b : UInt8) :
    storeBytes mem a (bs ++ [b]) = Function.update (storeBytes mem a bs) (a + bs.length) b := by
  induction bs generalizing mem a with
  | nil => rfl
  | cons c bs ih =>
    rw [List.cons_append, storeBytes, ih, storeBytes, List.length_cons]
    congr 1
    omega

/-- Nothing else is written. -/
theorem storeBytes_outside (bs : List UInt8) :
    ∀ (mem : Nat → UInt8) (a x : Nat), x < a ∨ a + bs.length ≤ x →
      storeBytes mem a bs x = mem x := by
  induction bs with
  | nil => exact fun _ _ _ _ => rfl
  | cons b bs ih =>
    intro mem a x hx
    rw [List.length_cons] at hx
    rw [storeBytes, ih _ _ _ (by omega), Function.update_of_ne (by omega)]

/-- Somebody else writes somewhere else. -/
theorem storeBytes_update (bs : List UInt8) :
    ∀ (mem : Nat → UInt8) (a x : Nat) (v : UInt8), x < a ∨ a + bs.length ≤ x →
      storeBytes (Function.update mem x v) a bs = Function.update (storeBytes mem a bs) x v := by
  induction bs with
  | nil => exact fun _ _ _ _ _ => rfl
  | cons b bs ih =>
    intro mem a x v hx
    rw [List.length_cons] at hx
    rw [storeBytes, storeBytes, Function.update_comm (by omega), ih _ _ _ _ (by omega)]

/-- The bytes stored, and what was behind them. -/
theorem bytesAt_storeBytes (bs : List UInt8) :
    ∀ (mem : Nat → UInt8) (a n : Nat), bs.length ≤ n →
      bytesAt (storeBytes mem a bs) a n = bs ++ (bytesAt mem a n).drop bs.length := by
  induction bs with
  | nil => exact fun _ _ _ _ => rfl
  | cons b bs ih =>
    intro mem a n hn
    match n, hn with
    | n + 1, hn =>
      have hhead : storeBytes (Function.update mem a b) (a + 1) bs a = b := by
        rw [storeBytes_outside bs _ _ _ (.inl (Nat.lt_succ_self a)), Function.update_self]
      rw [storeBytes, bytesAt_succ, hhead, ih _ _ n (Nat.le_of_succ_le_succ hn),
        bytesAt_update mem (a + 1) n a b (.inl (Nat.lt_succ_self a)), bytesAt_succ mem a n]
      rfl

end ByteMemory
