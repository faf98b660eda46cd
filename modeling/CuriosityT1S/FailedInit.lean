import CuriosityT1S.Instances

/-!
# Initialisation that fails (tc6-lwip.c)

`TC6LwIP_Init` marks the entry before it adds the interface, and does not take the mark back when
`netif_add` fails: the call returns -1 and the entry is registered.

    tc6LwipInit_failed:     what a call that returns -1 leaves of the entries
    failedInitClean_iff:    in a run a failed call leaves no instance behind if and only if
                            `netif_add` never is what fails
-/

namespace CuriosityT1S

open Mealy

/-- `none` is NULL.  TC6_MAX_INSTANCES is unsigned: an index below 0 fails the test. -/
def tc6LwipGetTc6 (mlw : List Tc6Lwip) (idx : Int8) : Option Nat :=
  if 0 ≤ idx.toInt ∧ idx.toInt < mlw.length then
    let lw := mlw.getD idx.toInt.toNat .zero
    if lw.registered then lw.tc6 else none
  else none

/-- The entry that the call goes on with. -/
def SlotTried (mlw : List Tc6Lwip) (a : InitArgs) (i : Nat) : Prop :=
  a.ip ≠ none ∧ searchEmpty mlw = some i

/-- Nothing knows of an instance in entry `i`, and the next call takes it. -/
def SlotFree (mlw : List Tc6Lwip) (i : Nat) : Prop :=
  (∀ idx : Int8, idx.toInt = i → tc6LwipGetTc6 mlw idx = none) ∧
    (∀ lw, mlw[i]? = some lw → ∀ active done : UInt8 → Bool,
      serviceEntry active done lw = (lw, [])) ∧
    searchEmpty mlw = some i

/-- If the call returns -1, the registered entries are those of before and the entry that was
tried is free. -/
def FailedInitClean (s : Instances) (e : InitArgs × InitEnv) : Prop :=
  ∀ mlw calls, tc6LwipInit s.mlw e.1 e.2 = some (mlw, -1, calls) →
    mlw.map Tc6Lwip.registered = s.mlw.map Tc6Lwip.registered ∧
      ∀ i, SlotTried s.mlw e.1 i → SlotFree mlw i

/-- The entry as it is when the wait for the registers and the reset begins. -/
def waitEntry (tc6 : Nat) (mac : Vector UInt8 6) : Tc6Lwip :=
  { Tc6Lwip.zero with tc6 := some tc6, mac := mac }

/-- An entry is free, TC6 and its registers are initialised, the wait for them ends, and then
`netif_add` fails. -/
def NetifAddFails (s : Instances) (e : InitArgs × InitEnv) : Prop :=
  ∃ i tc6, SlotTried s.mlw e.1 i ∧ e.2.tc6Init = some tc6 ∧ e.2.tc6RegsInit = true ∧
    (initWait s.mlw i (waitEntry tc6 (e.2.mac.getD fallbackMac)) e.2.polls).isSome = true ∧
    e.2.netifAdd = false

/-! ## The search looks at the marks only -/

theorem searchEmpty_eq_findIdx (mlw : List Tc6Lwip) :
    searchEmpty mlw = ((mlw.map Tc6Lwip.registered).take 256).findIdx? not := by
  unfold searchEmpty
  rw [← List.map_take, List.findIdx?_map]
  rfl

theorem searchEmpty_congr (mlw mlw' : List Tc6Lwip)
    (h : mlw'.map Tc6Lwip.registered = mlw.map Tc6Lwip.registered) :
    searchEmpty mlw' = searchEmpty mlw := by
  rw [searchEmpty_eq_findIdx, searchEmpty_eq_findIdx, h]

/-- The entry that is found is there and not registered. -/
theorem searchEmpty_some (mlw : List Tc6Lwip) (i : Nat) (h : searchEmpty mlw = some i) :
    ∃ lw, mlw[i]? = some lw ∧ lw.registered = false := by
  unfold searchEmpty at h
  rw [List.findIdx?_eq_some_iff_getElem] at h
  obtain ⟨hi, hreg, -⟩ := h
  have hlen : i < mlw.length := by
    rw [List.length_take] at hi
    omega
  refine ⟨mlw[i], List.getElem?_eq_getElem hlen, ?_⟩
  rw [List.getElem_take] at hreg
  simpa using hreg

/-- Writing an entry that is not registered where none was. -/
theorem map_registered_set (mlw : List Tc6Lwip) (i : Nat) (lw : Tc6Lwip)
    (hi : searchEmpty mlw = some i) (hlw : lw.registered = false) :
    (mlw.set i lw).map Tc6Lwip.registered = mlw.map Tc6Lwip.registered := by
  obtain ⟨old, hold, hreg⟩ := searchEmpty_some mlw i hi
  have hflag : (mlw.map Tc6Lwip.registered)[i]? = some false := by
    rw [List.getElem?_map, hold, ← hreg]
    rfl
  obtain ⟨hlt, hval⟩ := List.getElem?_eq_some_iff.mp hflag
  rw [List.map_set, hlw, ← hval, List.set_getElem_self]

/-- An entry that was free is free if no mark has changed. -/
theorem slotFree_of_registered (mlw mlw' : List Tc6Lwip) (i : Nat)
    (h : mlw'.map Tc6Lwip.registered = mlw.map Tc6Lwip.registered)
    (hi : searchEmpty mlw = some i) : SlotFree mlw' i := by
  have hsearch : searchEmpty mlw' = some i := by rw [searchEmpty_congr mlw mlw' h, hi]
  obtain ⟨lw, hlw, hreg⟩ := searchEmpty_some mlw' i hsearch
  refine ⟨?_, ?_, hsearch⟩
  · intro idx hidx
    unfold tc6LwipGetTc6
    have hnat : idx.toInt.toNat = i := by omega
    simp only [hnat, List.getD_eq_getElem?_getD, hlw, Option.getD_some, hreg]
    split <;> rfl
  · intro lw' hlw' active done
    rw [hlw] at hlw'
    cases hlw'
    unfold serviceEntry
    rw [hreg]
    rfl

/-! ## What a failed call leaves -/

/-- The tried entry is the only one, and so is the instance of TC6. -/
theorem netifAddFails_iff (s : Instances) (e : InitArgs × InitEnv) (i : Nat)
    (hi : SlotTried s.mlw e.1 i) :
    NetifAddFails s e ↔ ∃ tc6, e.2.tc6Init = some tc6 ∧ e.2.tc6RegsInit = true ∧
      (initWait s.mlw i (waitEntry tc6 (e.2.mac.getD fallbackMac)) e.2.polls).isSome = true ∧
      e.2.netifAdd = false := by
  constructor
  · rintro ⟨j, tc6, ⟨-, hj⟩, h⟩
    have hji : j = i := Option.some.inj (hj.symm.trans hi.2)
    subst hji
    exact ⟨tc6, h⟩
  · rintro ⟨tc6, h⟩
    exact ⟨i, tc6, hi, h⟩

/-- The stub is there: its number is 0. -/
theorem tc6StubInitMac_zero (mlw : List Tc6Lwip) (i : Nat) (mac : Option (Vector UInt8 6))
    (hi : searchEmpty mlw = some i) :
    tc6StubInitMac mlw.length Tc6Lwip.zero.idx.toUInt8 mac = some (mac.getD fallbackMac) := by
  obtain ⟨lw, hlw, -⟩ := searchEmpty_some mlw i hi
  have hlt : i < mlw.length := (List.getElem?_eq_some_iff.mp hlw).1
  unfold tc6StubInitMac
  rw [if_neg]
  show ¬ (0 ≥ mlw.length)
  omega

/-- From the search on, a call that fails has written the entry, and it is registered if and only
if `netif_add` is what failed. -/
theorem initEntry_failed (s : Instances) (e : InitArgs × InitEnv) (i : Nat) (ip : Vector UInt8 4)
    (htried : SlotTried s.mlw e.1 i) (mlw : List Tc6Lwip) (calls : List InitCall)
    (h : initEntry s.mlw i ip e.1.regs e.2 = some (mlw, -1, calls)) :
    ∃ lw, mlw = s.mlw.set i lw ∧ (lw.registered = true ↔ NetifAddFails s e) := by
  rw [netifAddFails_iff s e i htried]
  unfold initEntry at h
  simp only [memsetZero, tc6StubInitMac_zero s.mlw i e.2.mac htried.2] at h
  split at h
  · next htc6 =>
    cases h
    refine ⟨_, rfl, ?_⟩
    constructor
    · intro hreg; cases hreg
    · rintro ⟨tc6, hsome, -⟩
      rw [htc6] at hsome
      cases hsome
  · next tc6 htc6 =>
    split at h
    · next hregs =>
      split at h
      · cases h
      · next lw services hwait =>
        have hidx : lw.idx = 0 := by rw [initWait_frame _ _ _ _ _ _ hwait]; rfl
        split at h
        · simp only [Option.some.injEq, Prod.mk.injEq, hidx] at h
          exact absurd h.2.1 (by decide)
        · next hadd =>
          cases h
          refine ⟨_, rfl, ?_⟩
          constructor
          · intro _
            have hsome := congrArg Option.isSome hwait
            exact ⟨tc6, htc6, hregs, hsome, by simpa using hadd⟩
          · intro _
            exact beq_self_eq_true _
    · next hregs =>
      cases h
      refine ⟨_, rfl, ?_⟩
      constructor
      · intro hreg; cases hreg
      · rintro ⟨tc6', -, htrue, -⟩
        exact absurd htrue hregs

/-- **A failed call.**  The entries are as they were, or the entry that was tried has been written,
and it is registered if and only if `netif_add` is what failed. -/
theorem tc6LwipInit_failed (s : Instances) (e : InitArgs × InitEnv) (mlw : List Tc6Lwip)
    (calls : List InitCall) (h : tc6LwipInit s.mlw e.1 e.2 = some (mlw, -1, calls)) :
    (mlw = s.mlw ∧ ∀ i, ¬ SlotTried s.mlw e.1 i) ∨
      ∃ i lw, SlotTried s.mlw e.1 i ∧ mlw = s.mlw.set i lw ∧
        (lw.registered = true ↔ NetifAddFails s e) := by
  unfold tc6LwipInit at h
  split at h
  · next hip =>
    cases h
    exact Or.inl ⟨rfl, fun i hi => hi.1 hip⟩
  · next ip hip =>
    split at h
    · next hnone =>
      cases h
      refine Or.inl ⟨rfl, fun i hi => ?_⟩
      have hsome := hi.2
      rw [hnone] at hsome
      cases hsome
    · next i hi =>
      have htried : SlotTried s.mlw e.1 i := ⟨by rw [hip]; simp, hi⟩
      obtain ⟨lw, hset, hreg⟩ := initEntry_failed s e i ip htried mlw calls h
      exact Or.inr ⟨i, lw, htried, hset, hreg⟩

/-- A call on which `netif_add` fails returns -1 and leaves the entry registered. -/
theorem tc6LwipInit_netifAddFails (s : Instances) (e : InitArgs × InitEnv)
    (h : NetifAddFails s e) :
    ∃ i lw calls, SlotTried s.mlw e.1 i ∧ lw.registered = true ∧
      tc6LwipInit s.mlw e.1 e.2 = some (s.mlw.set i lw, -1, calls) := by
  obtain ⟨i, tc6, htried, htc6, hregs, hwait, hadd⟩ := h
  obtain ⟨ip, hip⟩ := Option.ne_none_iff_exists'.mp htried.1
  obtain ⟨⟨lw, services⟩, hlw⟩ := Option.isSome_iff_exists.mp hwait
  have hlw' : initWait s.mlw i
      { Tc6Lwip.zero with
        mac := e.2.mac.getD fallbackMac
        tc6 := some tc6
        tc := { Tc6Lwip.zero.tc with resetComplete := false } } e.2.polls =
      some (lw, services) := hlw
  refine ⟨i, { lw with magic := lwipTc6Magic, ipAddr := ipString ip }, ?_⟩
  suffices hcall : ∃ calls, tc6LwipInit s.mlw e.1 e.2 =
      some (s.mlw.set i { lw with magic := lwipTc6Magic, ipAddr := ipString ip }, -1, calls) by
    obtain ⟨calls, hcall⟩ := hcall
    exact ⟨calls, htried, beq_self_eq_true _, hcall⟩
  unfold tc6LwipInit
  simp only [hip, htried.2]
  unfold initEntry
  simp only [memsetZero, tc6StubInitMac_zero s.mlw i e.2.mac htried.2, htc6, if_pos hregs, hlw',
    hadd]
  exact ⟨_, rfl⟩

/-! ## Runs -/

/-- One call. -/
theorem failedInitClean_step (s : Instances) (e : InitArgs × InitEnv) :
    FailedInitClean s e ↔ ¬ NetifAddFails s e := by
  constructor
  · intro hclean hfail
    obtain ⟨i, lw, calls, htried, hreg, he⟩ := tc6LwipInit_netifAddFails s e hfail
    obtain ⟨hmap, -⟩ := hclean _ calls he
    obtain ⟨old, hold, hnot⟩ := searchEmpty_some s.mlw i htried.2
    have hlt : i < s.mlw.length := (List.getElem?_eq_some_iff.mp hold).1
    have hi := congrArg (fun l => l[i]?) hmap
    simp only [List.getElem?_map, List.getElem?_set_self hlt, hold, Option.map_some, hreg,
      hnot] at hi
    cases hi
  · intro hfail mlw calls he
    have hmap : mlw.map Tc6Lwip.registered = s.mlw.map Tc6Lwip.registered := by
      rcases tc6LwipInit_failed s e mlw calls he with ⟨rfl, -⟩ | ⟨i, lw, htried, rfl, hreg⟩
      · rfl
      · apply map_registered_set s.mlw i lw htried.2
        by_contra hne
        exact hfail (hreg.mp (by simpa using hne))
    refine ⟨hmap, ?_⟩
    intro i htried
    exact slotFree_of_registered s.mlw mlw i hmap htried.2

/-- **Failed initialisation.**  For every number of instances and every history of calls, the
failed ones leave no instance registered if and only if none of them got as far as `netif_add`. -/
theorem failedInitClean_iff (n : Nat) (es : List (InitArgs × InitEnv)) :
    Along initStep FailedInitClean (Instances.start n) es ↔
      Along initStep (fun s e => ¬ NetifAddFails s e) (Instances.start n) es := by
  apply along_iff initStep _ _ (fun _ => True)
  · intro s e _
    exact failedInitClean_step s e
  · intro s e _ _
    trivial
  · trivial

/-- A call on which `netif_add` fails. -/
def lateFailure : InitArgs × InitEnv :=
  ((goodInit 0).1, { (goodInit 0).2 with netifAdd := false })

/-- The default configuration: the call returns -1, and the instance is registered. -/
theorem failedInitClean_not_always :
    ¬ ∀ (n : Nat) (es : List (InitArgs × InitEnv)),
      Along initStep FailedInitClean (Instances.start n) es := by
  intro h
  obtain ⟨hclean, -⟩ := h 1 [lateFailure]
  obtain ⟨hmap, -⟩ := hclean _ _ rfl
  revert hmap
  decide

end CuriosityT1S
