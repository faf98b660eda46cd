import CuriosityT1S.Lib.RefCount
import CuriosityT1S.Tc6Lwip
import Mathlib.Data.List.Perm.Basic

/-!
# References to the pbufs being sent

`lwIpOut` takes a reference for the transmission before it hands the segments to
TC6, `OnRawTx` gives it back when TC6 is done with them.  If TC6 refuses the
segments it never calls back, and `lwIpOut` returns `ERR_IF` without giving the
reference back.  The count is a byte.

    keepsBalance_iff:  what one step does to the counts
    tx_refs_balance:   the counts are right all along if and only if TC6 never refuses and no
                       pbuf gets a 256th reference
-/

namespace CuriosityT1S

open Mealy RefCount

/-- `ref` is the field of each pbuf, by its address.  `callers` and `outstanding` list the
references held, by the callers and by the transmissions that TC6 accepted and has not finished;
the code sees neither. -/
structure TxHeap where
  driver : Driver Unit
  ref : Nat → UInt8
  callers : List Nat
  outstanding : List Nat

def TxHeap.zero : TxHeap := ⟨.zero, fun _ => 0, [], []⟩

/-- `maxSeg` and `success` are TC6's answers.  `onRawTx` is the completion of the `i`-th
transmission outstanding; a caller can take a reference to what it holds one of, and give one
back. -/
inductive TxEvent
  | lwIpOut (p : TxPbuf) (maxSeg : UInt8) (success : Bool)
  | onRawTx (i : Nat)
  | pbufAlloc (addr : Nat)
  | callerRef (i : Nat)
  | callerFree (i : Nat)
  | driver (e : DriverEvent Unit)
deriving DecidableEq, Repr

/-- Every reference held. -/
def TxHeap.held (s : TxHeap) : List Nat := s.callers ++ s.outstanding

def TxHeap.Balanced (s : TxHeap) : Prop := RefCount.Balanced s.ref s.held

/-- What a call of `lwIpOut` does; TC6 keeps the tag of what it accepts. -/
def TxHeap.call (success : Bool) (s : TxHeap) : Call Unit → TxHeap
  | .pbufRef addr => { s with ref := retain s.ref addr }
  | .sendRawEthernetSegments _ _ tag =>
    if success then { s with outstanding := s.outstanding ++ [tag] } else s
  | _ => s

/-- Emits what `lwIpOut` returns.  An event that cannot come does nothing. -/
def txStep [PbufRealloc] (s : TxHeap) : TxEvent → TxHeap × List ErrT
  | .lwIpOut p maxSeg success =>
    let (result, calls) := lwIpOut s.driver.tc p maxSeg success
    (calls.foldl (TxHeap.call success) s, [result])
  | .onRawTx i =>
    match s.outstanding[i]? with
    | none => (s, [])
    | some tag =>
      ({ s with ref := release s.ref tag, outstanding := s.outstanding.eraseIdx i }, [])
  | .pbufAlloc addr =>
    if s.ref addr = 0 ∧ addr ∉ s.held then
      ({ s with ref := Function.update s.ref addr 1, callers := addr :: s.callers }, [])
    else (s, [])
  | .callerRef i =>
    match s.callers[i]? with
    | none => (s, [])
    | some addr => ({ s with ref := retain s.ref addr, callers := addr :: s.callers }, [])
  | .callerFree i =>
    match s.callers[i]? with
    | none => (s, [])
    | some addr =>
      ({ s with ref := release s.ref addr, callers := s.callers.eraseIdx i }, [])
  | .driver e => ({ s with driver := (driverStep s.driver e).1 }, [])

/-- The counts are right after the step, and as before if `lwIpOut` returns anything but
`ERR_OK`. -/
def KeepsBalance [PbufRealloc] (s : TxHeap) (e : TxEvent) : Prop :=
  (txStep s e).1.Balanced ∧
    ∀ p maxSeg success, e = .lwIpOut p maxSeg success →
      (txStep s e).2 ≠ [.errOk] → (txStep s e).1.ref = s.ref

/-- With the PHY ready and segments granted, TC6 takes them. -/
def NotRefused (s : TxHeap) : TxEvent → Prop
  | .lwIpOut _ maxSeg success => s.driver.tc.resetComplete = true → maxSeg ≠ 0 → success = true
  | _ => True

/-- A reference is taken to a pbuf that has fewer than 255. -/
def RoomForRef (s : TxHeap) : TxEvent → Prop
  | .lwIpOut p maxSeg _ =>
    s.driver.tc.resetComplete = true → maxSeg ≠ 0 → s.held.count p.addr < 255
  | .callerRef i => ∀ addr ∈ s.callers[i]?, s.held.count addr < 255
  | _ => True

/-! ## One step -/

/-- The three ways through `lwIpOut`. -/
theorem txStep_lwIpOut [PbufRealloc] (s : TxHeap) (p : TxPbuf) (maxSeg : UInt8) (success : Bool) :
    txStep s (.lwIpOut p maxSeg success) =
      if s.driver.tc.resetComplete = false then (s, [.errIf])
      else if maxSeg = 0 then (s, [.errWouldblock])
      else if success then
        ({ s with ref := retain s.ref p.addr, outstanding := s.outstanding ++ [p.addr] }, [.errOk])
      else ({ s with ref := retain s.ref p.addr }, [.errIf]) := by
  cases hr : s.driver.tc.resetComplete with
  | false => simp [txStep, lwIpOut, tc6CbResetComplete, hr]
  | true =>
    by_cases hm : maxSeg = 0
    · simp [txStep, lwIpOut, tc6CbResetComplete, hr, hm]
    · cases success <;> simp [txStep, lwIpOut, tc6CbResetComplete, hr, hm, TxHeap.call]

theorem perm_cons_eraseIdx {l : List Nat} {i a : Nat} (h : l[i]? = some a) :
    l.Perm (a :: l.eraseIdx i) := by
  obtain ⟨hi, rfl⟩ := List.getElem?_eq_some_iff.mp h
  exact (List.getElem_cons_eraseIdx_perm hi).symm

/-- A refused send takes a reference for nobody, an accepted one needs room for one more. -/
theorem lwIpOut_keeps_iff [PbufRealloc] (s : TxHeap) (p : TxPbuf) (maxSeg : UInt8) (success : Bool)
    (h : s.Balanced) :
    KeepsBalance s (.lwIpOut p maxSeg success) ↔
      NotRefused s (.lwIpOut p maxSeg success) ∧ RoomForRef s (.lwIpOut p maxSeg success) := by
  unfold KeepsBalance NotRefused RoomForRef
  rw [txStep_lwIpOut]
  by_cases hr : s.driver.tc.resetComplete = false
  · rw [if_pos hr]
    have hnot : s.driver.tc.resetComplete ≠ true := by
      rw [hr]
      exact Bool.false_ne_true
    exact iff_of_true ⟨h, fun _ _ _ _ _ => rfl⟩
      ⟨fun hc => absurd hc hnot, fun hc => absurd hc hnot⟩
  · rw [if_neg hr]
    have hready := eq_true_of_ne_false hr
    by_cases hm : maxSeg = 0
    · rw [if_pos hm]
      exact iff_of_true ⟨h, fun _ _ _ _ _ => rfl⟩
        ⟨fun _ hc => absurd hm hc, fun _ hc => absurd hm hc⟩
    · rw [if_neg hm]
      cases success with
      | true =>
        have hperm : (p.addr :: s.held).Perm (s.callers ++ (s.outstanding ++ [p.addr])) := by
          rw [← List.append_assoc]
          exact List.perm_append_singleton p.addr s.held |>.symm
        constructor
        · rintro ⟨hk, -⟩
          refine ⟨fun _ _ => rfl, fun _ _ => ?_⟩
          exact (balanced_retain_iff h p.addr).mp (Balanced.perm hk hperm.symm)
        · rintro ⟨-, hroom⟩
          refine ⟨?_, fun _ _ _ _ hc => absurd rfl hc⟩
          exact ((balanced_retain_iff h p.addr).mpr (hroom hready hm)).perm hperm
      | false =>
        refine iff_of_false (fun hk => not_balanced_retain h p.addr hk.1) fun hk => ?_
        cases hk.1 hready hm

theorem balanced_onRawTx [PbufRealloc] (s : TxHeap) (i : Nat) (h : s.Balanced) :
    (txStep s (.onRawTx i)).1.Balanced := by
  simp only [txStep]
  split
  · exact h
  · next tag ht =>
    apply balanced_release
    apply Balanced.perm h
    exact ((perm_cons_eraseIdx ht).append_left s.callers).trans List.perm_middle

theorem balanced_pbufAlloc [PbufRealloc] (s : TxHeap) (addr : Nat) (h : s.Balanced) :
    (txStep s (.pbufAlloc addr)).1.Balanced := by
  simp only [txStep]
  split
  · next hfree =>
    have hnone : s.held.count addr < 255 := by
      rw [List.count_eq_zero.mpr hfree.2]
      decide
    have h1 := (balanced_retain_iff h addr).mpr hnone
    unfold retain at h1
    rw [hfree.1] at h1
    exact h1
  · exact h

theorem callerRef_keeps_iff [PbufRealloc] (s : TxHeap) (i : Nat) (h : s.Balanced) :
    KeepsBalance s (.callerRef i) ↔ RoomForRef s (.callerRef i) := by
  unfold KeepsBalance RoomForRef
  simp only [txStep]
  cases haddr : s.callers[i]? with
  | none => exact iff_of_true ⟨h, nofun⟩ nofun
  | some addr =>
    have hiff := balanced_retain_iff h addr
    constructor
    · rintro ⟨hk, -⟩ b hb
      cases hb
      exact hiff.mp hk
    · intro hroom
      exact ⟨hiff.mpr (hroom addr rfl), nofun⟩

theorem balanced_callerFree [PbufRealloc] (s : TxHeap) (i : Nat) (h : s.Balanced) :
    (txStep s (.callerFree i)).1.Balanced := by
  simp only [txStep]
  split
  · exact h
  · next addr ht =>
    apply balanced_release
    apply Balanced.perm h
    exact (perm_cons_eraseIdx ht).append_right s.outstanding

/-- What one step does to right counts. -/
theorem keepsBalance_iff [PbufRealloc] (s : TxHeap) (e : TxEvent) (h : s.Balanced) :
    KeepsBalance s e ↔ NotRefused s e ∧ RoomForRef s e := by
  cases e with
  | lwIpOut p maxSeg success => exact lwIpOut_keeps_iff s p maxSeg success h
  | onRawTx i => exact iff_of_true ⟨balanced_onRawTx s i h, nofun⟩ ⟨trivial, trivial⟩
  | pbufAlloc addr => exact iff_of_true ⟨balanced_pbufAlloc s addr h, nofun⟩ ⟨trivial, trivial⟩
  | callerRef i => exact (callerRef_keeps_iff s i h).trans (iff_of_eq (true_and _)).symm
  | callerFree i => exact iff_of_true ⟨balanced_callerFree s i h, nofun⟩ ⟨trivial, trivial⟩
  | driver e => exact iff_of_true ⟨h, nofun⟩ ⟨trivial, trivial⟩

/-! ## Whole runs -/

theorem balanced_zero : TxHeap.zero.Balanced := balanced_nil

/-- **Transmit references.**  In every run, every step keeps the counts right (and `lwIpOut`
leaves them alone when it does not return `ERR_OK`) if and only if TC6 takes all segments that it
granted and no reference is taken to a pbuf that has 255. -/
theorem tx_refs_balance [PbufRealloc] (es : List TxEvent) :
    Along txStep KeepsBalance .zero es ↔
      Along txStep (fun s e => NotRefused s e ∧ RoomForRef s e) .zero es :=
  along_iff txStep KeepsBalance (fun s e => NotRefused s e ∧ RoomForRef s e) TxHeap.Balanced
    (fun s e h => keepsBalance_iff s e h) (fun _ _ _ hk => hk.1) es .zero balanced_zero

/-- The PHY is ready, a pbuf is allocated and sent, and TC6 refuses it. -/
def refusedRun : List TxEvent :=
  [.driver (.event .resetComplete), .pbufAlloc 0x3000,
    .lwIpOut ⟨0x3000, List.replicate 42 0, [], 42⟩ 8 false]

section
attribute [local instance] singlePbuf

theorem tx_refs_leak : ¬ ∀ es : List TxEvent, Along txStep KeepsBalance .zero es := by
  intro h
  have hk := (h refusedRun).2.2.1.2 _ _ _ rfl (by decide)
  have hone : (0 : UInt8) + 1 + 1 = 0 + 1 := congrFun hk 0x3000
  exact absurd hone (by decide)

end

end CuriosityT1S
