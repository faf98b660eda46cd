import Mathlib.Data.List.Basic

/-!
# The last of many values

A log of entries with a key, only ever appended to.  `At log k i`: entry `i` has
key `k`.  `Latest log k i v`: it is the last one that has, and its value is `v`.

    append, own key:    latest_append_self
    append, other key:  Latest.append_other

A register shows the last value that came out of a FIFO channel.  `settles` is
what it will show once the channel is empty.  Sending decides it, delivering
does not change it; so at rest the register shows the last value sent, whatever
happened to the values before it.
-/

namespace KeyedLog

variable {κ ν : Type}

def At (log : List (κ × ν)) (k : κ) (i : Nat) : Prop := ∃ v, log[i]? = some (k, v)

def Latest (log : List (κ × ν)) (k : κ) (i : Nat) (v : ν) : Prop :=
  log[i]? = some (k, v) ∧ ∀ j, At log k j → j ≤ i

theorem At.lt {log : List (κ × ν)} {k : κ} {i : Nat} (h : At log k i) : i < log.length := by
  obtain ⟨v, hv⟩ := h
  obtain ⟨hi, -⟩ := List.getElem?_eq_some_iff.mp hv
  exact hi

theorem At.append {log : List (κ × ν)} {k : κ} {i : Nat} (h : At log k i) (e : κ × ν) :
    At (log ++ [e]) k i := by
  have hi := h.lt
  obtain ⟨v, hv⟩ := h
  exact ⟨v, by rw [List.getElem?_append_left hi]; exact hv⟩

theorem at_append_last (log : List (κ × ν)) (k : κ) (v : ν) :
    At (log ++ [(k, v)]) k log.length :=
  ⟨v, by simp⟩

/-- An entry with another key than the new one was there before. -/
theorem At.of_append_other {log : List (κ × ν)} {k k' : κ} {v' : ν} {i : Nat}
    (h : At (log ++ [(k', v')]) k i) (hne : k' ≠ k) : At log k i := by
  have hi := h.lt
  rw [List.length_append, List.length_singleton] at hi
  obtain ⟨v, hv⟩ := h
  by_cases hlt : i < log.length
  · rw [List.getElem?_append_left hlt] at hv
    exact ⟨v, hv⟩
  · have he : i = log.length := by omega
    subst he
    simp at hv
    exact absurd hv.1 hne

theorem latest_append_self (log : List (κ × ν)) (k : κ) (v : ν) :
    Latest (log ++ [(k, v)]) k log.length v := by
  refine ⟨by simp, fun j hj => ?_⟩
  have h := hj.lt
  rw [List.length_append, List.length_singleton] at h
  omega

theorem Latest.append_other {log : List (κ × ν)} {k k' : κ} {i : Nat} {v : ν}
    (h : Latest log k i v) (hne : k' ≠ k) (v' : ν) : Latest (log ++ [(k', v')]) k i v := by
  refine ⟨?_, fun j hj => h.2 j (hj.of_append_other hne)⟩
  have hi : i < log.length := At.lt ⟨v, h.1⟩
  rw [List.getElem?_append_left hi]
  exact h.1

end KeyedLog

namespace LastValue

variable {α : Type}

/-- What the register will show after the values in flight. -/
def settles (shown : Option α) (inFlight : List α) : Option α := inFlight.getLast?.or shown

@[simp] theorem settles_nil (shown : Option α) : settles shown [] = shown := rfl

/-- The last value sent decides. -/
theorem settles_send (shown : Option α) (inFlight : List α) (a : α) :
    settles shown (inFlight ++ [a]) = some a := by
  unfold settles
  rw [List.getLast?_append]
  rfl

/-- Delivering the oldest values changes nothing. -/
theorem settles_deliver (shown : Option α) (xs ys : List α) :
    settles (settles shown xs) ys = settles shown (xs ++ ys) := by
  unfold settles
  rw [List.getLast?_append, Option.or_assoc]

theorem settles_eq_none {shown : Option α} {inFlight : List α} :
    settles shown inFlight = none ↔ inFlight = [] ∧ shown = none := by
  unfold settles
  rw [Option.or_eq_none_iff, List.getLast?_eq_none_iff]

end LastValue
