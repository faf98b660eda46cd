import CuriosityT1S.Lib.Mealy
import CuriosityT1S.Lib.Ring
import Mathlib.Algebra.Group.Nat.Defs
import Mathlib.Logic.Function.Basic
import Mathlib.Order.Fin.Basic

/-!
# The queues of the TC6 driver (tc6-queue.h)

The three queues come from one template, whose parameters are the type of the jobs and the stages
they go through.  Each stage has a counter of 8 bits that is never reset; it counts the jobs that
have passed.

    qtxeth_queue:   stage1_enqueue stage2_convert
    qspibuf_queue:  stage1_transfer stage2_int stage3_process
    regop_queue:    stage1_enqueue stage2_send stage3_int stage4_modify stage5_send stage6_int
                    stage7_event

`Pipeline` is what they are for: jobs in a line, oldest first, and how far each stage has come in
it.  With a power of two as its size a queue is this line in every run that asks before it acts.
-/

namespace CuriosityT1S

open Mealy Ring

variable {α : Type} {k : Nat}

/-! ## The queues -/

/-- With `k + 2` stages. -/
structure StageQueue (α : Type) (k : Nat) where
  buffer : List α
  size : UInt8
  stage : Fin (k + 2) → UInt8

namespace StageQueue

def init (buffer : List α) (size : UInt8) : StageQueue α k := ⟨buffer, size, fun _ => 0⟩

/-- The first stage waits for the last one, each other stage for the one before it. -/
def ready (q : StageQueue α k) : Fin (k + 2) → Bool :=
  Fin.cases (decide (q.stage 0 - q.stage (Fin.last (k + 1)) < q.size))
    fun i => decide (q.stage i.castSucc - q.stage i.succ - 1 < q.size)

/-- The cell that `ptr` points to. -/
def slot (q : StageQueue α k) (i : Fin (k + 2)) : Nat := (q.stage i &&& (q.size - 1)).toNat

def done (q : StageQueue α k) (i : Fin (k + 2)) : StageQueue α k :=
  { q with stage := Function.update q.stage i (q.stage i + 1) }

def undo (q : StageQueue α k) (i : Fin (k + 2)) : StageQueue α k :=
  { q with stage := Function.update q.stage i (q.stage i - 1) }

def cap (q : StageQueue α k) : Fin (k + 2) → UInt8 :=
  Fin.cases (q.stage (Fin.last (k + 1)) + q.size - q.stage 0)
    fun i => q.stage i.castSucc - q.stage i.succ

/-- `*ptr`. -/
def get (q : StageQueue α k) (i : Fin (k + 2)) : Option α := q.buffer[q.slot i]?

/-- `*ptr = a`. -/
def put (q : StageQueue α k) (i : Fin (k + 2)) (a : α) : StageQueue α k :=
  { q with buffer := q.buffer.set (q.slot i) a }

end StageQueue

abbrev QtxethQueue (α : Type) := StageQueue α 0

abbrev QspibufQueue (α : Type) := StageQueue α 1

abbrev RegopQueue (α : Type) := StageQueue α 5

/-- What is done with a queue at some stage. -/
inductive StageOp (α : Type) (k : Nat)
  | ready (i : Fin (k + 2))
  | cap (i : Fin (k + 2))
  | get (i : Fin (k + 2))
  | put (i : Fin (k + 2)) (a : α)
  | done (i : Fin (k + 2))
  | undo (i : Fin (k + 2))
deriving DecidableEq, Repr

inductive StageOut (α : Type)
  | ready (b : Bool)
  | cap (n : UInt8)
  | got (a : Option α)
deriving DecidableEq, Repr

def queueStep (q : StageQueue α k) : StageOp α k → StageQueue α k × List (StageOut α)
  | .ready i => (q, [.ready (q.ready i)])
  | .cap i => (q, [.cap (q.cap i)])
  | .get i => (q, [.got (q.get i)])
  | .put i a => (q.put i a, [])
  | .done i => (q.done i, [])
  | .undo i => (q.undo i, [])

/-! ## The line -/

/-- `staged` has been written at the first stage and not been handed on yet. -/
structure Pipeline (α : Type) (k : Nat) where
  jobs : List α
  staged : Option α
  passed : Fin (k + 2) → Nat

namespace Pipeline

def empty : Pipeline α k := ⟨[], none, fun _ => 0⟩

/-- The job a stage is at. -/
def job (p : Pipeline α k) : Fin (k + 2) → Option α :=
  Fin.cases p.staged
    fun i => if p.passed i.succ < p.passed i.castSucc then p.jobs[p.passed i.succ]? else none

/-- How many jobs a stage can take on before it has to wait. -/
def room (size : Nat) (p : Pipeline α k) : Fin (k + 2) → Nat :=
  Fin.cases (size - p.jobs.length) fun i => p.passed i.castSucc - p.passed i.succ

def put (p : Pipeline α k) (i : Fin (k + 2)) (a : α) : Pipeline α k :=
  if i = 0 then { p with staged := some a } else { p with jobs := p.jobs.set (p.passed i) a }

/-- The first stage adds its job to the line, the last one takes the oldest off. -/
def done (p : Pipeline α k) (i : Fin (k + 2)) : Pipeline α k :=
  if i = 0 then
    ⟨p.jobs ++ p.staged.toList, none, Function.update p.passed 0 (p.passed 0 + 1)⟩
  else if i = Fin.last (k + 1) then
    { p with jobs := p.jobs.tail, passed := fun j => p.passed j - 1 }
  else { p with passed := Function.update p.passed i (p.passed i + 1) }

def undo (p : Pipeline α k) (i : Fin (k + 2)) : Pipeline α k :=
  if i = 0 then
    ⟨p.jobs.dropLast, p.jobs.getLast?, Function.update p.passed 0 (p.passed 0 - 1)⟩
  else { p with passed := Function.update p.passed i (p.passed i - 1) }

end Pipeline

def lineStep (size : Nat) (p : Pipeline α k) : StageOp α k → Pipeline α k × List (StageOut α)
  | .ready i => (p, [.ready (decide (0 < p.room size i))])
  | .cap i => (p, [.cap (UInt8.ofNat (p.room size i))])
  | .get i => (p, [.got (p.job i)])
  | .put i a => (p.put i a, [])
  | .done i => (p.done i, [])
  | .undo i => (p.undo i, [])

/-- A job is read where there is one, written where there is room, and handed on once it has been
written.  What the next stage has not passed can be taken back. -/
def Asked (size : Nat) (p : Pipeline α k) : StageOp α k → Prop
  | .ready _ | .cap _ => True
  | .get i => (p.job i).isSome = true
  | .put i _ => 0 < p.room size i
  | .done i => (p.job i).isSome = true
  | .undo i => ∃ j : Fin (k + 1), i = j.castSucc ∧ p.passed j.succ < p.passed j.castSucc

/-! ## Counters -/

theorem ofNat_sub_counter {b x y : Nat} (hle : y ≤ x) (hlt : x < y + 256) :
    (UInt8.ofNat (b + x) - UInt8.ofNat (b + y)).toNat = x - y := by
  rw [UInt8.toNat_sub, UInt8.toNat_ofNat', UInt8.toNat_ofNat']
  omega

/-- The mask takes the counter modulo the size. -/
theorem slot_eq {m n : Nat} (hm : m ≤ 7) :
    (UInt8.ofNat n &&& (UInt8.ofNat (2 ^ m) - 1)).toNat = n % 2 ^ m := by
  have hpos : 0 < 2 ^ m := Nat.two_pow_pos m
  have hle : 2 ^ m ≤ 2 ^ 7 := Nat.pow_le_pow_right (by decide) hm
  have hmask : (UInt8.ofNat (2 ^ m) - 1).toNat = 2 ^ m - 1 := by
    rw [UInt8.toNat_sub, UInt8.toNat_ofNat']
    have hone : (1 : UInt8).toNat = 1 := rfl
    omega
  rw [UInt8.toNat_and, hmask, UInt8.toNat_ofNat', Nat.and_two_pow_sub_one_eq_mod]
  exact Nat.mod_mod_of_dvd n (Nat.pow_dvd_pow 2 (by omega))

/-! ## A queue and its line -/

structure Pipeline.Ok (p : Pipeline α k) : Prop where
  first : p.passed 0 = p.jobs.length
  last : p.passed (Fin.last (k + 1)) = 0
  order : Antitone p.passed

/-- `base` jobs have left the queue. -/
structure LineSim (m base : Nat) (q : StageQueue α k) (p : Pipeline α k) : Prop where
  size : q.size = UInt8.ofNat (2 ^ m)
  cells : q.buffer.length = 2 ^ m
  counter : ∀ i, q.stage i = UInt8.ofNat (base + p.passed i)
  holds : Holds q.buffer base (p.jobs ++ p.staged.toList)
  ok : p.Ok

theorem Pipeline.Ok.passed_le {p : Pipeline α k} (h : p.Ok) (i : Fin (k + 2)) :
    p.passed i ≤ p.jobs.length := h.first ▸ h.order (Fin.zero_le i)

theorem LineSim.jobs_le {m base : Nat} {q : StageQueue α k} {p : Pipeline α k}
    (h : LineSim m base q p) : p.jobs.length ≤ 2 ^ m := by
  have hle := h.holds.1
  rw [h.cells, List.length_append] at hle
  omega

theorem two_pow_le {m : Nat} (hm : m ≤ 7) : 2 ^ m ≤ 128 :=
  Nat.pow_le_pow_right (by decide) hm

/-- The difference of two stored counters is the true one. -/
theorem LineSim.sub_stage {m base : Nat} {q : StageQueue α k} {p : Pipeline α k}
    (h : LineSim m base q p) (hm : m ≤ 7) {i j : Fin (k + 2)} (hij : p.passed j ≤ p.passed i) :
    (q.stage i - q.stage j).toNat = p.passed i - p.passed j := by
  have h1 := two_pow_le hm
  have h2 := h.jobs_le
  have h3 := h.ok.passed_le i
  rw [h.counter i, h.counter j]
  exact ofNat_sub_counter hij (by omega)

theorem LineSim.size_toNat {m base : Nat} {q : StageQueue α k} {p : Pipeline α k}
    (h : LineSim m base q p) (hm : m ≤ 7) : q.size.toNat = 2 ^ m := by
  have hle := two_pow_le hm
  rw [h.size, UInt8.toNat_ofNat', Nat.mod_eq_of_lt (by omega)]

theorem LineSim.slot {m base : Nat} {q : StageQueue α k} {p : Pipeline α k}
    (h : LineSim m base q p) (hm : m ≤ 7) (i : Fin (k + 2)) :
    q.slot i = (base + p.passed i) % q.buffer.length := by
  unfold StageQueue.slot
  rw [h.counter i, h.size, h.cells, slot_eq hm]

/-- Whether a stage is ready, and how many it can take. -/
theorem LineSim.cap {m base : Nat} {q : StageQueue α k} {p : Pipeline α k}
    (h : LineSim m base q p) (hm : m ≤ 7) (i : Fin (k + 2)) :
    q.cap i = UInt8.ofNat (p.room (2 ^ m) i) ∧
      q.ready i = decide (0 < p.room (2 ^ m) i) := by
  have h1 := two_pow_le hm
  have h2 := h.jobs_le
  have hsize := h.size_toNat hm
  induction i using Fin.cases with
  | zero =>
    have hsub := h.sub_stage hm (i := 0) (j := Fin.last (k + 1)) (by rw [h.ok.last]; omega)
    rw [h.ok.last, h.ok.first] at hsub
    have hroom : p.room (2 ^ m) 0 = 2 ^ m - p.jobs.length := rfl
    rw [hroom]
    constructor
    · show q.stage (Fin.last (k + 1)) + q.size - q.stage 0 = _
      have hcap : q.stage (Fin.last (k + 1)) + q.size - q.stage 0 =
          q.size - (q.stage 0 - q.stage (Fin.last (k + 1))) := by grind
      rw [hcap, ← UInt8.toNat_inj, UInt8.toNat_sub_of_le _ _ (by rw [UInt8.le_iff_toNat_le]; omega),
        hsub, hsize, UInt8.toNat_ofNat', Nat.mod_eq_of_lt (by omega)]
      rfl
    · show decide (q.stage 0 - q.stage (Fin.last (k + 1)) < q.size) = _
      rw [decide_eq_decide, UInt8.lt_iff_toNat_lt, hsub, hsize]
      omega
  | succ i =>
    have hle : p.passed i.succ ≤ p.passed i.castSucc := h.ok.order Fin.castSucc_lt_succ.le
    have hsub := h.sub_stage hm hle
    have hroom : p.room (2 ^ m) i.succ = p.passed i.castSucc - p.passed i.succ := rfl
    have h3 := h.ok.passed_le i.castSucc
    rw [hroom, ← hsub]
    constructor
    · exact UInt8.ofNat_toNat.symm
    · show decide (q.stage i.castSucc - q.stage i.succ - 1 < q.size) = _
      rw [decide_eq_decide, UInt8.lt_iff_toNat_lt, UInt8.toNat_sub, hsize]
      have hone : (1 : UInt8).toNat = 1 := rfl
      omega

/-! ## Steps -/

/-- A job that a stage is at is in the ring. -/
theorem LineSim.get {m base : Nat} {q : StageQueue α k} {p : Pipeline α k}
    (h : LineSim m base q p) (hm : m ≤ 7) (i : Fin (k + 2)) (hjob : (p.job i).isSome = true) :
    q.get i = p.job i := by
  unfold StageQueue.get
  rw [h.slot hm]
  induction i using Fin.cases with
  | zero =>
    have hstaged : p.job 0 = p.staged := rfl
    rw [hstaged] at hjob ⊢
    obtain ⟨a, ha⟩ := Option.isSome_iff_exists.mp hjob
    have hget := h.holds.get (j := p.jobs.length) (by simp [ha])
    rw [h.ok.first, hget, ha]
    exact List.getElem?_concat_length
  | succ i =>
    have hle := h.ok.passed_le i.castSucc
    have hdef : p.job i.succ =
      if p.passed i.succ < p.passed i.castSucc then p.jobs[p.passed i.succ]? else none := rfl
    rw [hdef] at hjob ⊢
    by_cases hlt : p.passed i.succ < p.passed i.castSucc
    · rw [if_pos hlt, h.holds.get (by rw [List.length_append]; omega)]
      exact List.getElem?_append_left (by omega)
    · rw [if_neg hlt] at hjob
      cases hjob

theorem LineSim.put {m base : Nat} {q : StageQueue α k} {p : Pipeline α k}
    (h : LineSim m base q p) (hm : m ≤ 7) (i : Fin (k + 2)) (a : α)
    (hroom : 0 < p.room (2 ^ m) i) : LineSim m base (q.put i a) (p.put i a) := by
  have hslot := h.slot hm i
  unfold StageQueue.put Pipeline.put
  rw [hslot]
  induction i using Fin.cases with
  | zero =>
    rw [if_pos rfl]
    have hlt : p.jobs.length < q.buffer.length := by
      have hdef : p.room (2 ^ m) 0 = 2 ^ m - p.jobs.length := rfl
      rw [hdef] at hroom
      rw [h.cells]
      omega
    refine ⟨h.size, by simpa using h.cells, h.counter, ?_, ⟨h.ok.first, h.ok.last, h.ok.order⟩⟩
    rw [h.ok.first]
    exact h.holds.left.write hlt a
  | succ i =>
    rw [if_neg (Fin.succ_ne_zero i)]
    have hle := h.ok.passed_le i.castSucc
    have hdef : p.room (2 ^ m) i.succ = p.passed i.castSucc - p.passed i.succ := rfl
    rw [hdef] at hroom
    have hset := h.holds.set (j := p.passed i.succ) (by rw [List.length_append]; omega) a
    rw [List.set_append_left _ _ (by omega)] at hset
    exact ⟨h.size, by simpa using h.cells, h.counter, hset,
      ⟨by simpa using h.ok.first, h.ok.last, h.ok.order⟩⟩

/-- Another counter stays as it is. -/
theorem update_other {f : Fin (k + 2) → Nat} {i j : Fin (k + 2)} {n : Nat} (v : Nat) (hne : j ≠ i)
    (hj : f j = n) : Function.update f i v j = n := (Function.update_of_ne hne v f).trans hj

theorem antitone_inc {f : Fin (k + 2) → Nat} (h : Antitone f) {i : Fin (k + 2)}
    (hi : ∀ j : Fin (k + 1), i = j.succ → f i < f j.castSucc) :
    Antitone (Function.update f i (f i + 1)) := by
  rw [Fin.antitone_iff_succ_le]
  intro j
  have hj : f j.succ ≤ f j.castSucc := h Fin.castSucc_lt_succ.le
  rcases eq_or_ne j.succ i with rfl | hsucc
  · rw [Function.update_self, Function.update_of_ne Fin.castSucc_lt_succ.ne]
    exact hi j rfl
  · rw [Function.update_of_ne hsucc]
    rcases eq_or_ne j.castSucc i with rfl | hcast
    · rw [Function.update_self]
      omega
    · rw [Function.update_of_ne hcast]
      exact hj

theorem antitone_dec {f : Fin (k + 2) → Nat} (h : Antitone f) {i : Fin (k + 2)}
    (hi : ∀ j : Fin (k + 1), i = j.castSucc → f j.succ < f i) :
    Antitone (Function.update f i (f i - 1)) := by
  rw [Fin.antitone_iff_succ_le]
  intro j
  have hj : f j.succ ≤ f j.castSucc := h Fin.castSucc_lt_succ.le
  rcases eq_or_ne j.castSucc i with rfl | hcast
  · rw [Function.update_self, Function.update_of_ne Fin.castSucc_lt_succ.ne']
    exact Nat.le_sub_one_of_lt (hi j rfl)
  · rw [Function.update_of_ne hcast]
    rcases eq_or_ne j.succ i with rfl | hsucc
    · rw [Function.update_self]
      omega
    · rw [Function.update_of_ne hsucc]
      exact hj

/-- A counter that goes one up still counts. -/
theorem LineSim.counter_inc {m base : Nat} {q : StageQueue α k} {p : Pipeline α k}
    (h : LineSim m base q p) (i j : Fin (k + 2)) :
    Function.update q.stage i (q.stage i + 1) j =
      UInt8.ofNat (base + Function.update p.passed i (p.passed i + 1) j) := by
  rcases eq_or_ne j i with rfl | hne
  · rw [Function.update_self, Function.update_self, h.counter j, ← Nat.add_assoc]
    exact (UInt8.ofNat_add _ 1).symm
  · rw [Function.update_of_ne hne, Function.update_of_ne hne, h.counter j]

theorem LineSim.counter_dec {m base : Nat} {q : StageQueue α k} {p : Pipeline α k}
    (h : LineSim m base q p) {i : Fin (k + 2)} (hpos : 0 < p.passed i) (j : Fin (k + 2)) :
    Function.update q.stage i (q.stage i - 1) j =
      UInt8.ofNat (base + Function.update p.passed i (p.passed i - 1) j) := by
  rcases eq_or_ne j i with rfl | hne
  · rw [Function.update_self, Function.update_self, h.counter j]
    obtain ⟨n, hn⟩ := Nat.exists_eq_succ_of_ne_zero (Nat.ne_of_gt hpos)
    rw [hn, Nat.succ_eq_add_one, Nat.add_sub_cancel, ← Nat.add_assoc, UInt8.ofNat_add]
    exact UInt8.add_sub_cancel _ _
  · rw [Function.update_of_ne hne, Function.update_of_ne hne, h.counter j]

/-- The staged job joins the line. -/
theorem LineSim.done_first {m base : Nat} {q : StageQueue α k} {p : Pipeline α k}
    (h : LineSim m base q p) (hjob : p.staged.isSome = true) :
    LineSim m base (q.done 0) (p.done 0) := by
  obtain ⟨a, ha⟩ := Option.isSome_iff_exists.mp hjob
  unfold StageQueue.done Pipeline.done
  rw [if_pos rfl]
  refine ⟨h.size, h.cells, h.counter_inc 0, by simpa using h.holds, ?_, ?_, ?_⟩
  · simp [ha, h.ok.first]
  · exact update_other (p.passed 0 + 1) Fin.last_pos.ne' h.ok.last
  · exact antitone_inc h.ok.order fun j hj => absurd hj.symm (Fin.succ_ne_zero j)

/-- The oldest job leaves. -/
theorem LineSim.done_last {m base : Nat} {q : StageQueue α k} {p : Pipeline α k}
    (h : LineSim m base q p) (hjob : 0 < p.passed (Fin.last k).castSucc) :
    LineSim m (base + 1) (q.done (Fin.last (k + 1))) (p.done (Fin.last (k + 1))) := by
  have hpos : ∀ j, j ≠ Fin.last (k + 1) → 0 < p.passed j := fun j hj =>
    Nat.lt_of_lt_of_le hjob (h.ok.order (Fin.le_castSucc_iff.mpr (Fin.lt_last_iff_ne_last.mpr hj)))
  have hlen := h.ok.passed_le (Fin.last k).castSucc
  unfold StageQueue.done Pipeline.done
  rw [if_neg Fin.last_pos.ne', if_pos rfl]
  refine ⟨h.size, h.cells, fun j => ?_, ?_, ?_, ?_, ?_⟩
  · refine (h.counter_inc _ j).trans ?_
    rcases eq_or_ne j (Fin.last (k + 1)) with rfl | hne
    · simp [h.ok.last]
    · have := hpos j hne
      rw [Function.update_of_ne hne]
      congr 1
      show base + p.passed j = base + 1 + (p.passed j - 1)
      omega
  · have hholds := h.holds
    cases hj : p.jobs with
    | nil => rw [hj] at hlen; simp at hlen; omega
    | cons a jobs =>
      rw [hj] at hholds
      exact hholds.tail
  · simp [h.ok.first]
  · simp [h.ok.last]
  · intro i j hij
    exact Nat.sub_le_sub_right (h.ok.order hij) 1

/-- A stage in between hands its job on. -/
theorem LineSim.done_inner {m base : Nat} {q : StageQueue α k} {p : Pipeline α k}
    (h : LineSim m base q p) (i : Fin (k + 1)) (hlast : i.succ ≠ Fin.last (k + 1))
    (hjob : p.passed i.succ < p.passed i.castSucc) :
    LineSim m base (q.done i.succ) (p.done i.succ) := by
  unfold StageQueue.done Pipeline.done
  rw [if_neg (Fin.succ_ne_zero i), if_neg hlast]
  refine ⟨h.size, h.cells, h.counter_inc i.succ, h.holds, ?_, ?_, ?_⟩
  · exact update_other (p.passed i.succ + 1) (Fin.succ_ne_zero i).symm h.ok.first
  · exact update_other (p.passed i.succ + 1) hlast.symm h.ok.last
  · exact antitone_inc h.ok.order fun j hj => Fin.succ_inj.mp hj ▸ hjob

theorem LineSim.done {m base : Nat} {q : StageQueue α k} {p : Pipeline α k}
    (h : LineSim m base q p) (i : Fin (k + 2)) (hjob : (p.job i).isSome = true) :
    ∃ base', LineSim m base' (q.done i) (p.done i) := by
  induction i using Fin.cases with
  | zero => exact ⟨base, h.done_first hjob⟩
  | succ i =>
    have hlt : p.passed i.succ < p.passed i.castSucc := by
      have hdef : p.job i.succ =
        if p.passed i.succ < p.passed i.castSucc then p.jobs[p.passed i.succ]? else none := rfl
      rw [hdef] at hjob
      by_contra hle
      rw [if_neg hle] at hjob
      cases hjob
    by_cases hlast : i = Fin.last k
    · subst hlast
      exact ⟨base + 1, h.done_last (by omega)⟩
    · exact ⟨base, h.done_inner i (fun hc => hlast (Fin.succ_inj.mp hc)) hlt⟩

/-- The last job in the line goes back to the first stage. -/
theorem LineSim.undo_first {m base : Nat} {q : StageQueue α k} {p : Pipeline α k}
    (h : LineSim m base q p) (hlt : p.passed (Fin.succ 0) < p.passed 0) :
    LineSim m base (q.undo 0) (p.undo 0) := by
  have hlen := h.ok.first
  unfold StageQueue.undo Pipeline.undo
  rw [if_pos rfl]
  refine ⟨h.size, h.cells, h.counter_dec (by omega), ?_, ?_, ?_, ?_⟩
  · have hholds := h.holds.left
    have hsplit : p.jobs.dropLast ++ p.jobs.getLast?.toList = p.jobs := by
      rcases List.eq_nil_or_concat p.jobs with hj | ⟨js, a, hj⟩ <;> simp [hj]
    rw [← hsplit] at hholds
    exact hholds
  · simp [hlen]
  · exact update_other (p.passed 0 - 1) Fin.last_pos.ne' h.ok.last
  · refine antitone_dec h.ok.order fun j hj => ?_
    rw [Fin.castSucc_eq_zero_iff.mp hj.symm]
    exact hlt

theorem LineSim.undo_inner {m base : Nat} {q : StageQueue α k} {p : Pipeline α k}
    (h : LineSim m base q p) (j : Fin (k + 1)) (hfirst : j.castSucc ≠ 0)
    (hlt : p.passed j.succ < p.passed j.castSucc) :
    LineSim m base (q.undo j.castSucc) (p.undo j.castSucc) := by
  unfold StageQueue.undo Pipeline.undo
  rw [if_neg hfirst]
  refine ⟨h.size, h.cells, h.counter_dec (by omega), h.holds, ?_, ?_, ?_⟩
  · exact update_other (p.passed j.castSucc - 1) hfirst.symm h.ok.first
  · exact update_other (p.passed j.castSucc - 1) (Fin.castSucc_lt_last j).ne' h.ok.last
  · exact antitone_dec h.ok.order fun l hl => Fin.castSucc_inj.mp hl ▸ hlt

/-- **One operation.**  The queue answers as the line does, and goes on as its ring. -/
theorem lineSim_step {m base : Nat} (hm : m ≤ 7) {q : StageQueue α k} {p : Pipeline α k}
    (h : LineSim m base q p) (op : StageOp α k) (hop : Asked (2 ^ m) p op) :
    (∃ base', LineSim m base' (queueStep q op).1 (lineStep (2 ^ m) p op).1) ∧
      (queueStep q op).2 = (lineStep (2 ^ m) p op).2 := by
  cases op with
  | ready i => exact ⟨⟨base, h⟩, by simp only [queueStep, lineStep, (h.cap hm i).2]⟩
  | cap i => exact ⟨⟨base, h⟩, by simp only [queueStep, lineStep, (h.cap hm i).1]⟩
  | get i => exact ⟨⟨base, h⟩, by simp only [queueStep, lineStep, h.get hm i hop]⟩
  | put i a => exact ⟨⟨base, h.put hm i a hop⟩, rfl⟩
  | done i => exact ⟨h.done i hop, rfl⟩
  | undo i =>
    obtain ⟨j, rfl, hlt⟩ := hop
    by_cases hfirst : j = 0
    · subst hfirst
      exact ⟨⟨base, h.undo_first hlt⟩, rfl⟩
    · exact ⟨⟨base, h.undo_inner j (fun hc => hfirst (Fin.castSucc_eq_zero_iff.mp hc)) hlt⟩, rfl⟩

theorem lineSim_init (m : Nat) (buffer : List α) (hlen : buffer.length = 2 ^ m) :
    LineSim m 0 (StageQueue.init buffer (UInt8.ofNat (2 ^ m)) : StageQueue α k) .empty :=
  ⟨rfl, hlen, fun _ => rfl, holds_nil _ _, rfl, rfl, fun _ _ _ => Nat.le_refl _⟩

/-- **Queues.**  In every run that asks before it acts, whatever is left in the buffer and however
often the counters wrap, a queue whose size is a power of two is the line. -/
theorem queue_is_line (m : Nat) (hm : m ≤ 7) (buffer : List α) (hlen : buffer.length = 2 ^ m)
    (ops : List (StageOp α k)) (hops : Along (lineStep (2 ^ m)) (Asked (2 ^ m)) .empty ops) :
    emits queueStep (StageQueue.init buffer (UInt8.ofNat (2 ^ m))) ops =
      emits (lineStep (2 ^ m)) .empty ops := by
  have hsim := emits_sim queueStep (lineStep (2 ^ m)) (Asked (2 ^ m))
    (fun q p => ∃ base, LineSim m base q p) some
    (fun q p op ⟨base, h⟩ hop => by
      rw [List.filterMap_some]
      exact lineSim_step hm h op hop)
    ops _ _ ⟨0, lineSim_init m buffer hlen⟩ hops
  rw [List.filterMap_some] at hsim
  exact hsim.2

/-! ## Other sizes -/

/-- Some jobs are entered, one after the other. -/
def enter (jobs : List α) : List (StageOp α k) := jobs.flatMap fun a => [.put 0 a, .done 0]

/-- The line after `n` jobs have been entered. -/
def entered (k : Nat) (jobs : List α) : Pipeline α k :=
  ⟨jobs, none, Function.update (fun _ => 0) 0 jobs.length⟩

theorem entered_step (size : Nat) (jobs : List α) (a : α) (hroom : jobs.length < size) :
    Along (lineStep size) (Asked size) (entered k jobs) [.put 0 a, .done 0] ∧
      exec (lineStep size) (entered k jobs) [.put 0 a, .done 0] = entered k (jobs ++ [a]) ∧
      emits (lineStep size) (entered k jobs) [.put 0 a, .done 0] = [] := by
  have hput : (entered k jobs).put 0 a = { entered k jobs with staged := some a } := if_pos rfl
  have hdone : ({ entered k jobs with staged := some a } : Pipeline α k).done 0 =
      entered k (jobs ++ [a]) := by
    unfold Pipeline.done entered
    rw [if_pos rfl]
    simp
  refine ⟨⟨Nat.sub_pos_of_lt hroom, ?_, trivial⟩, ?_, rfl⟩
  · show (Pipeline.job ((entered k jobs).put 0 a) 0).isSome = true
    rw [hput]
    rfl
  · show ((entered k jobs).put 0 a).done 0 = _
    rw [hput, hdone]

theorem entered_run (size : Nat) (more : List α) :
    ∀ jobs : List α, jobs.length + more.length ≤ size →
      Along (lineStep size) (Asked size) (entered k jobs) (enter more) ∧
        exec (lineStep size) (entered k jobs) (enter more) = entered k (jobs ++ more) ∧
        emits (lineStep size) (entered k jobs) (enter more) = [] := by
  induction more with
  | nil => intro jobs _; exact ⟨trivial, by simp [enter], rfl⟩
  | cons a more ih =>
    intro jobs hlen
    rw [List.length_cons] at hlen
    obtain ⟨halong, hexec, hout⟩ := entered_step (k := k) size jobs a (by omega)
    obtain ⟨halong', hexec', hout'⟩ := ih (jobs ++ [a]) (by simp; omega)
    have hcons : (enter (a :: more) : List (StageOp α k)) = [.put 0 a, .done 0] ++ enter more := rfl
    rw [hcons, along_append, exec_append, emits_append, hexec, hout]
    refine ⟨⟨halong, halong'⟩, ?_, hout'⟩
    rw [hexec', List.append_assoc]
    rfl

/-- The queue after some jobs have been entered. -/
theorem queue_entered (jobs : List α) : ∀ (q : StageQueue α k),
    let q' := exec queueStep q (enter jobs)
    q'.size = q.size ∧ q'.buffer.length = q.buffer.length ∧
      q'.stage 0 = q.stage 0 + UInt8.ofNat jobs.length ∧
      (∀ i, i ≠ 0 → q'.stage i = q.stage i) ∧ emits queueStep q (enter jobs) = [] := by
  induction jobs with
  | nil => intro q; exact ⟨rfl, rfl, by simp [enter], fun _ _ => rfl, rfl⟩
  | cons a jobs ih =>
    intro q
    have hcons : (enter (a :: jobs) : List (StageOp α k)) = [.put 0 a, .done 0] ++ enter jobs := rfl
    obtain ⟨h1, h2, h3, h4, h5⟩ := ih ((q.put 0 a).done 0)
    intro q'
    have hq' : q' = exec queueStep ((q.put 0 a).done 0) (enter jobs) := rfl
    rw [hq', h1, h2, h3]
    refine ⟨rfl, List.length_set, ?_, fun i hi => ?_, h5⟩
    · show Function.update q.stage 0 (q.stage 0 + 1) 0 + UInt8.ofNat jobs.length = _
      rw [Function.update_self, List.length_cons, UInt8.ofNat_add, UInt8.add_assoc,
        UInt8.add_comm (UInt8.ofNat jobs.length)]
      rfl
    · rw [h4 i hi]
      exact Function.update_of_ne hi _ _

theorem entered_nil : (Pipeline.empty : Pipeline α k) = entered k [] := by
  unfold Pipeline.empty entered
  rw [List.length_nil, Function.update_eq_self]

/-- The second stage is at the oldest job. -/
theorem entered_get (size : Nat) (a : α) (jobs : List α) :
    Asked size (entered k (a :: jobs)) (.get (Fin.succ 0)) ∧
      emits (lineStep size) (entered k (a :: jobs)) [.get (Fin.succ 0)] = [.got (some a)] := by
  have hjob : (entered k (a :: jobs)).job (Fin.succ 0) = some a := by
    show (if 0 < jobs.length + 1 then some a else none) = some a
    rw [if_pos (Nat.succ_pos _)]
  refine ⟨?_, ?_⟩
  · show ((entered k (a :: jobs)).job (Fin.succ 0)).isSome = true
    rw [hjob]
    rfl
  · show [StageOut.got ((entered k (a :: jobs)).job (Fin.succ 0))] = _
    rw [hjob]

/-- If job `j` is written to cell 0, it is read from there. -/
theorem queue_clash (q : StageQueue α k) (j : Nat) (b : α) (hstage : q.stage 0 = UInt8.ofNat j)
    (hother : q.stage (Fin.succ 0) = 0) (hlt : j < q.size.toNat) (hpos : 0 < q.buffer.length)
    (hclash : j &&& (q.size.toNat - 1) = 0) :
    emits queueStep q [.put 0 b, .done 0, .get (Fin.succ 0)] = [.got (some b)] := by
  have h256 := q.size.toNat_lt
  have hslot : q.slot 0 = 0 := by
    unfold StageQueue.slot
    rw [hstage, UInt8.toNat_and, UInt8.toNat_ofNat', Nat.mod_eq_of_lt (by omega),
      UInt8.toNat_sub_of_le _ _ (by rw [UInt8.le_iff_toNat_le]; exact Nat.one_le_of_lt hlt)]
    exact hclash
  have hget : ((q.put 0 b).done 0).get (Fin.succ 0) = some b := by
    unfold StageQueue.get StageQueue.slot StageQueue.put StageQueue.done
    dsimp only
    rw [Function.update_of_ne (Fin.succ_ne_zero 0), hother, hslot, UInt8.zero_and]
    exact List.getElem?_set_self hpos
  show [StageOut.got (((q.put 0 b).done 0).get (Fin.succ 0))] = _
  rw [hget]

/-- If cell 0 is used for job `j` too, the oldest job is overwritten by it. -/
theorem clash_run (size : UInt8) (buffer : List α) (hlen : buffer.length = size.toNat) (j : Nat)
    (hj : 0 < j) (hlt : j < size.toNat) (hclash : j &&& (size.toNat - 1) = 0) (a b : α) :
    let ops : List (StageOp α k) :=
      enter (a :: List.replicate (j - 1) b) ++ ([.put 0 b, .done 0] ++ [.get (Fin.succ 0)])
    Along (lineStep size.toNat) (Asked size.toNat) .empty ops ∧
      emits (lineStep size.toNat) .empty ops = [.got (some a)] ∧
      emits queueStep (StageQueue.init buffer size) ops = [.got (some b)] := by
  intro ops
  have hcount : (a :: List.replicate (j - 1) b).length = j := by simp; omega
  obtain ⟨h1, h2, h3⟩ := entered_run (k := k) size.toNat (a :: List.replicate (j - 1) b) []
    (by rw [hcount, List.length_nil]; omega)
  obtain ⟨h4, h5, h6⟩ := entered_step (k := k) size.toNat (a :: List.replicate (j - 1) b) b
    (by omega)
  obtain ⟨h7, h8⟩ := entered_get (k := k) size.toNat a (List.replicate (j - 1) b ++ [b])
  obtain ⟨q1, q2, q3, q4, q5⟩ := queue_entered (a :: List.replicate (j - 1) b)
    (StageQueue.init buffer size : StageQueue α k)
  rw [List.nil_append] at h2
  refine ⟨?_, ?_, ?_⟩
  · rw [entered_nil, along_append, along_append, h2, h5]
    exact ⟨h1, h4, h7, trivial⟩
  · rw [entered_nil, emits_append, emits_append, h2, h3, h5, h6]
    exact h8
  · rw [emits_append, q5]
    refine queue_clash _ j b ?_ (q4 _ (Fin.succ_ne_zero 0)) ?_ ?_ ?_
    · rw [q3, hcount]
      exact UInt8.zero_add _
    · rw [q1]; exact hlt
    · rw [q2]
      show 0 < buffer.length
      omega
    · rw [q1]; exact hclash

/-- **Sizes.**  A queue is the line in every run that asks before it acts if and only if its size is
a power of two. -/
theorem queue_is_line_iff [Nontrivial α] (size : UInt8) (hpos : 0 < size) (buffer : List α)
    (hlen : buffer.length = size.toNat) :
    (∀ ops : List (StageOp α k), Along (lineStep size.toNat) (Asked size.toNat) .empty ops →
      emits queueStep (StageQueue.init buffer size) ops = emits (lineStep size.toNat) .empty ops) ↔
    ∃ m, size.toNat = 2 ^ m := by
  have hpos' : 0 < size.toNat := UInt8.lt_iff_toNat_lt.mp hpos
  constructor
  · intro h
    rcases mask_clash hpos' with ⟨m, hm⟩ | ⟨j, hlt, hj, hclash⟩
    · exact ⟨m, hm⟩
    · obtain ⟨a, b, hne⟩ := exists_pair_ne α
      obtain ⟨halong, hline, hqueue⟩ := clash_run (k := k) size buffer hlen j hj hlt hclash a b
      have heq := h _ halong
      rw [hline, hqueue] at heq
      cases heq
      exact absurd rfl hne
  · rintro ⟨m, hm⟩ ops hops
    have hm7 : m ≤ 7 := by
      have h256 : 2 ^ m < 2 ^ 8 := hm ▸ size.toNat_lt
      have := (Nat.pow_lt_pow_iff_right (by decide)).mp h256
      omega
    have hsize : size = UInt8.ofNat (2 ^ m) := by rw [← hm, UInt8.ofNat_toNat]
    rw [hm] at hops hlen
    rw [hm, hsize]
    exact queue_is_line m hm7 buffer hlen ops hops

/-- The queue of frames to send has 4 places; 3 would not do. -/
theorem queue_is_line_iff_sizes :
    (∀ ops : List (StageOp Bool 0), Along (lineStep 4) (Asked 4) .empty ops →
      emits queueStep (StageQueue.init (List.replicate 4 false) 4) ops =
        emits (lineStep 4) .empty ops) ∧
    ¬ ∀ ops : List (StageOp Bool 0), Along (lineStep 3) (Asked 3) .empty ops →
      emits queueStep (StageQueue.init (List.replicate 3 false) 3) ops =
        emits (lineStep 3) .empty ops :=
  ⟨(queue_is_line_iff 4 (by decide) (List.replicate 4 false) rfl).mpr ⟨2, rfl⟩, fun h => by
    obtain ⟨m, hm⟩ := (queue_is_line_iff 3 (by decide) (List.replicate 3 false) rfl).mp h
    have hodd : (3 : UInt8).toNat = 3 := rfl
    rcases m with _ | _ | m
    · cases hm
    · cases hm
    · rw [hodd, Nat.pow_add] at hm
      omega⟩

end CuriosityT1S
