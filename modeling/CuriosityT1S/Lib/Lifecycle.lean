import Mathlib.Data.List.Basic
import Mathlib.Data.List.Nodup

/-!
# Resources: allocated, used, released

`Owned.ops` replays what is done with named resources and stops at the first
mistake: a name allocated twice, a use before the allocation or after the
release, a second release.  Names are never used again.

    wellFormed_ops:      no name is live and gone, or either of them twice
    count_alloc_ops,
    count_release_ops:   each resource is allocated once, and released once when it is gone
    countP_ops:          allocations = releases + resources live
    untouched_of_gone:   nothing touches a resource that is gone
-/

namespace Lifecycle

variable {α : Type}

inductive Op (α : Type)
  | alloc (a : α)
  | use (a : α)
  | release (a : α)
deriving DecidableEq, Repr

def Op.target : Op α → α
  | .alloc a | .use a | .release a => a

def Op.isAlloc : Op α → Bool
  | .alloc _ => true
  | _ => false

def Op.isRelease : Op α → Bool
  | .release _ => true
  | _ => false

structure Owned (α : Type) where
  live : List α
  gone : List α
deriving DecidableEq, Repr

/-- Before anything is allocated. -/
def Owned.empty : Owned α := ⟨[], []⟩

def Owned.WellFormed (o : Owned α) : Prop := (o.live ++ o.gone).Nodup

theorem wellFormed_empty : (Owned.empty : Owned α).WellFormed := List.nodup_nil

variable [DecidableEq α]

/-- One operation; none is a mistake. -/
def Owned.op (o : Owned α) : Op α → Option (Owned α)
  | .alloc a => if a ∈ o.live ++ o.gone then none else some { o with live := a :: o.live }
  | .use a => if a ∈ o.live then some o else none
  | .release a => if a ∈ o.live then some ⟨o.live.erase a, a :: o.gone⟩ else none

def Owned.ops : Owned α → List (Op α) → Option (Owned α)
  | o, [] => some o
  | o, x :: xs => (o.op x).bind fun o => o.ops xs

@[simp] theorem ops_nil (o : Owned α) : o.ops [] = some o := rfl

theorem ops_cons_eq_some {o o' : Owned α} {x : Op α} {xs : List (Op α)} :
    o.ops (x :: xs) = some o' ↔ ∃ o1, o.op x = some o1 ∧ o1.ops xs = some o' := by
  rw [Owned.ops, Option.bind_eq_some_iff]

theorem ops_append_eq_some {o o' : Owned α} {xs ys : List (Op α)} :
    o.ops (xs ++ ys) = some o' ↔ ∃ o1, o.ops xs = some o1 ∧ o1.ops ys = some o' := by
  induction xs generalizing o with
  | nil => simp
  | cons x xs ih =>
    rw [List.cons_append, ops_cons_eq_some]
    constructor
    · rintro ⟨o1, hx, h⟩
      obtain ⟨o2, h1, h2⟩ := ih.mp h
      exact ⟨o2, ops_cons_eq_some.mpr ⟨o1, hx, h1⟩, h2⟩
    · rintro ⟨o2, h, h2⟩
      obtain ⟨o1, hx, h1⟩ := ops_cons_eq_some.mp h
      exact ⟨o1, hx, ih.mpr ⟨o2, h1, h2⟩⟩

/-- Uses change nothing. -/
theorem ops_uses {o : Owned α} {a : α} (h : a ∈ o.live) (k : Nat) (xs : List (Op α)) :
    o.ops (List.replicate k (.use a) ++ xs) = o.ops xs := by
  induction k with
  | zero => rfl
  | succ k ih =>
    rw [List.replicate_succ, List.cons_append, Owned.ops, Owned.op, if_pos h]
    exact ih

/-! ## One operation -/

theorem op_alloc {o o' : Owned α} {a : α} (h : o.op (.alloc a) = some o') :
    a ∉ o.live ++ o.gone ∧ o' = { o with live := a :: o.live } := by
  simp only [Owned.op] at h
  split at h
  · cases h
  · next hn => exact ⟨hn, (Option.some.inj h).symm⟩

theorem op_use {o o' : Owned α} {a : α} (h : o.op (.use a) = some o') : a ∈ o.live ∧ o' = o := by
  simp only [Owned.op] at h
  split at h
  · next hm => exact ⟨hm, (Option.some.inj h).symm⟩
  · cases h

theorem op_release {o o' : Owned α} {a : α} (h : o.op (.release a) = some o') :
    a ∈ o.live ∧ o' = ⟨o.live.erase a, a :: o.gone⟩ := by
  simp only [Owned.op] at h
  split at h
  · next hm => exact ⟨hm, (Option.some.inj h).symm⟩
  · cases h

/-- A release moves a name from the live ones to those that are gone. -/
theorem erase_perm {live gone : List α} {a : α} (h : a ∈ live) :
    (live.erase a ++ a :: gone).Perm (live ++ gone) :=
  List.perm_middle.trans ((List.perm_cons_erase h).symm.append_right gone)

theorem wellFormed_op {o o' : Owned α} {x : Op α} (ho : o.WellFormed) (h : o.op x = some o') :
    o'.WellFormed := by
  cases x with
  | alloc a =>
    obtain ⟨hn, rfl⟩ := op_alloc h
    exact List.nodup_cons.mpr ⟨hn, ho⟩
  | use a =>
    obtain ⟨-, rfl⟩ := op_use h
    exact ho
  | release a =>
    obtain ⟨hm, rfl⟩ := op_release h
    exact (erase_perm hm).nodup_iff.mpr ho

/-! ## Whole histories -/

theorem wellFormed_ops (xs : List (Op α)) :
    ∀ {o o' : Owned α}, o.WellFormed → o.ops xs = some o' → o'.WellFormed := by
  induction xs with
  | nil =>
    intro o o' ho h
    cases h
    exact ho
  | cons x xs ih =>
    intro o o' ho h
    obtain ⟨o1, hx, h⟩ := ops_cons_eq_some.mp h
    exact ih (wellFormed_op ho hx) h

/-- Each allocation makes its name known. -/
theorem count_alloc_ops (xs : List (Op α)) (a : α) :
    ∀ {o o' : Owned α}, o.ops xs = some o' →
      xs.count (.alloc a) + (o.live ++ o.gone).count a = (o'.live ++ o'.gone).count a := by
  induction xs with
  | nil =>
    intro o o' h
    cases h
    simp
  | cons x xs ih =>
    intro o o' h
    obtain ⟨o1, hx, h⟩ := ops_cons_eq_some.mp h
    rw [← ih h]
    cases x with
    | alloc b =>
      obtain ⟨-, rfl⟩ := op_alloc hx
      rw [List.count_cons, List.cons_append, List.count_cons]
      simp only [beq_iff_eq, Op.alloc.injEq]
      omega
    | use b =>
      obtain ⟨-, rfl⟩ := op_use hx
      rw [List.count_cons_of_ne (by simp)]
    | release b =>
      obtain ⟨hm, rfl⟩ := op_release hx
      rw [List.count_cons_of_ne (by simp), (erase_perm hm).count_eq]

/-- Each release is of one that is gone since. -/
theorem count_release_ops (xs : List (Op α)) (a : α) :
    ∀ {o o' : Owned α}, o.ops xs = some o' →
      xs.count (.release a) + o.gone.count a = o'.gone.count a := by
  induction xs with
  | nil =>
    intro o o' h
    cases h
    simp
  | cons x xs ih =>
    intro o o' h
    obtain ⟨o1, hx, h⟩ := ops_cons_eq_some.mp h
    rw [← ih h]
    cases x with
    | alloc b =>
      obtain ⟨-, rfl⟩ := op_alloc hx
      rw [List.count_cons_of_ne (by simp)]
    | use b =>
      obtain ⟨-, rfl⟩ := op_use hx
      rw [List.count_cons_of_ne (by simp)]
    | release b =>
      obtain ⟨-, rfl⟩ := op_release hx
      rw [List.count_cons, List.count_cons]
      simp only [beq_iff_eq, Op.release.injEq]
      omega

theorem countP_ops (xs : List (Op α)) :
    ∀ {o o' : Owned α}, o.ops xs = some o' →
      xs.countP Op.isAlloc + o.live.length = xs.countP Op.isRelease + o'.live.length := by
  induction xs with
  | nil =>
    intro o o' h
    cases h
    rfl
  | cons x xs ih =>
    intro o o' h
    obtain ⟨o1, hx, h⟩ := ops_cons_eq_some.mp h
    have ih := ih h
    rw [List.countP_cons, List.countP_cons]
    cases x with
    | alloc b =>
      obtain ⟨-, rfl⟩ := op_alloc hx
      simp only [Op.isAlloc, Op.isRelease, List.length_cons] at ih ⊢
      simp only [if_true, Bool.false_eq_true, if_false]
      omega
    | use b =>
      obtain ⟨-, rfl⟩ := op_use hx
      simp only [Op.isAlloc, Op.isRelease]
      exact ih
    | release b =>
      obtain ⟨hm, rfl⟩ := op_release hx
      have hlen := List.length_erase_add_one hm
      simp only [Op.isAlloc, Op.isRelease] at ih ⊢
      simp only [if_true, Bool.false_eq_true, if_false]
      omega

/-- What is gone stays gone. -/
theorem untouched_of_gone (xs : List (Op α)) (a : α) :
    ∀ {o o' : Owned α}, o.WellFormed → a ∈ o.gone → o.ops xs = some o' →
      ∀ x ∈ xs, x.target ≠ a := by
  induction xs with
  | nil => intro o o' _ _ _ x hx; cases hx
  | cons x xs ih =>
    intro o o' ho ha h
    obtain ⟨o1, hx, h⟩ := ops_cons_eq_some.mp h
    have hlive : a ∉ o.live := fun hm => (List.nodup_append.mp ho).2.2 a hm a ha rfl
    have hstep : x.target ≠ a ∧ a ∈ o1.gone := by
      cases x with
      | alloc b =>
        obtain ⟨hn, rfl⟩ := op_alloc hx
        refine ⟨?_, ha⟩
        rintro (rfl : b = a)
        exact hn (List.mem_append_right _ ha)
      | use b =>
        obtain ⟨hm, rfl⟩ := op_use hx
        refine ⟨?_, ha⟩
        rintro (rfl : b = a)
        exact hlive hm
      | release b =>
        obtain ⟨hm, rfl⟩ := op_release hx
        refine ⟨?_, List.mem_cons_of_mem b ha⟩
        rintro (rfl : b = a)
        exact hlive hm
    intro y hy
    rcases List.mem_cons.mp hy with rfl | hy
    · exact hstep.1
    · exact ih (wellFormed_op ho hx) hstep.2 h y hy

end Lifecycle
