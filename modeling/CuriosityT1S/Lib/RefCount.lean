import Mathlib.Data.List.Basic
import Mathlib.Logic.Function.Basic

/-!
# Reference counts of eight bits

`ref` gives the count of each object, `held` lists the references somebody
holds, one entry for each.  The counts are right (`Balanced`) if each is the
number of references held to the object.

    balanced_retain_iff:  a reference taken, which needs room for one more
    balanced_release:     a reference given back
    not_balanced_retain:  a count taken for nobody is wrong at once
-/

namespace RefCount

variable {α : Type} [DecidableEq α]

def Balanced (ref : α → UInt8) (held : List α) : Prop := ∀ a, (ref a).toNat = held.count a

def retain (ref : α → UInt8) (a : α) : α → UInt8 := Function.update ref a (ref a + 1)

def release (ref : α → UInt8) (a : α) : α → UInt8 := Function.update ref a (ref a - 1)

theorem balanced_nil : Balanced (fun _ : α => 0) [] := fun _ => rfl

theorem Balanced.perm {ref : α → UInt8} {held held' : List α} (h : Balanced ref held)
    (hp : held.Perm held') : Balanced ref held' := by
  intro a
  rw [h a, hp.count_eq]

theorem retain_toNat (ref : α → UInt8) (a : α) :
    (retain ref a a).toNat = ((ref a).toNat + 1) % 256 := by
  unfold retain
  rw [Function.update_self, UInt8.toNat_add]
  rfl

theorem release_toNat (ref : α → UInt8) (a : α) (h : 0 < (ref a).toNat) :
    (release ref a a).toNat = (ref a).toNat - 1 := by
  have hle : (1 : UInt8) ≤ ref a := UInt8.le_iff_toNat_le.mpr h
  unfold release
  rw [Function.update_self, UInt8.toNat_sub_of_le (ref a) 1 hle]
  rfl

/-- The 256th reference brings the count back to 0. -/
theorem balanced_retain_iff {ref : α → UInt8} {held : List α} (h : Balanced ref held) (a : α) :
    Balanced (retain ref a) (a :: held) ↔ held.count a < 255 := by
  have ha := h a
  constructor
  · intro hr
    have hra := hr a
    rw [retain_toNat, ha, List.count_cons_self] at hra
    omega
  · intro hroom b
    by_cases hb : b = a
    · subst hb
      rw [retain_toNat, ha, List.count_cons_self]
      omega
    · rw [List.count_cons_of_ne (Ne.symm hb), ← h b]
      unfold retain
      rw [Function.update_of_ne hb]

theorem balanced_release {ref : α → UInt8} {held : List α} {a : α}
    (h : Balanced ref (a :: held)) : Balanced (release ref a) held := by
  intro b
  have hcount := h b
  by_cases hb : b = a
  · subst hb
    rw [List.count_cons_self] at hcount
    rw [release_toNat ref b (by omega), hcount]
    omega
  · rw [List.count_cons_of_ne (Ne.symm hb)] at hcount
    unfold release
    rw [Function.update_of_ne hb, hcount]

/-- A count taken for nobody. -/
theorem not_balanced_retain {ref : α → UInt8} {held : List α} (h : Balanced ref held) (a : α) :
    ¬ Balanced (retain ref a) held := by
  intro hr
  have hra := hr a
  rw [retain_toNat, ← h a] at hra
  have hlt := (ref a).toNat_lt
  omega

end RefCount
