import CuriosityT1S.Instances

/-!
# What one instance does to another (tc6-lwip.c)

A callback finds its instance by the handle of TC6 or by the network interface.  But whether the
PHY is ready, `lwIpOut` and `TC6_CB_OnRxEthernetPacket` ask of instance 0, whichever theirs is.

    Isolated:       the callback does to its instance what it would do to the only one, and
                    nothing to any other
    SameGate:       instance 0 and this one are ready, or not, at the same time, or there is
                    nothing to decide
    isolated_iff:   along every run the one is the other
-/

namespace CuriosityT1S

open Mealy

variable {κ : Type}

/-! ## Callbacks of several instances -/

/-- What TC6 calls back with. -/
inductive Tc6Callback
  | slice (pRx : List UInt8) (offset len : UInt16) (alloc : Option Pbuf)
  | packet (success : Bool) (len : UInt16) (lwresult : ErrT)
  | needService
  | error (err : Tc6Error)
  | event (event : Tc6RegsEvent)
deriving DecidableEq, Repr

/-- TC6 calls back for instance `k`, or lwIP sends on its interface. -/
inductive InstanceEvent
  | tc6 (k : Nat) (cb : Tc6Callback)
  | out (k : Nat) (p : TxPbuf) (maxSeg : UInt8) (success : Bool)
deriving DecidableEq, Repr

inductive InstanceOut (κ : Type)
  | call (c : Call κ)
  | ret (err : ErrT)
deriving DecidableEq, Repr

/-- `mlw` and the table of raw receive callbacks, which all instances share. -/
structure Drivers (κ : Type) where
  mlw : List Tc6Lwip
  rawRxCallbacks : List (RawRxEntry κ)
deriving DecidableEq, Repr

/-- The loop of `GetContextTC6`, whose counter is a `uint8_t`. -/
def getContextTC6 (mlw : List Tc6Lwip) (pTC6 : Nat) : Option Nat :=
  (mlw.take 256).findIdx? fun lw => lw.tc6 == some pTC6

/-- `TC6_CB_OnRxEthernetPacket` for an instance, where `ready` is what `TC6_CB_ResetComplete` says:
the rest of it neither reads nor writes `resetComplete`. -/
def onRxEthernetPacket [PbufRealloc] (ready : Bool) (cbs : List (RawRxEntry κ)) (tc : Tc6Lib)
    (success : Bool) (len : UInt16) (lwresult : ErrT) : Tc6Lib × List (Call κ) :=
  let (tc', calls) :=
    tc6CbOnRxEthernetPacket cbs { tc with resetComplete := ready } success len lwresult
  ({ tc' with resetComplete := tc.resetComplete }, calls)

def onTc6 [PbufRealloc] (ready : Bool) (cbs : List (RawRxEntry κ)) (tc : Tc6Lib) :
    Tc6Callback → Tc6Lib × List (Call κ)
  | .slice pRx offset len alloc => tc6CbOnRxEthernetSlice tc pRx offset len alloc
  | .packet success len lwresult => onRxEthernetPacket ready cbs tc success len lwresult
  | .needService => (tc6CbOnNeedService tc, [])
  | .error err => tc6CbOnError tc err
  | .event ev => tc6RegsCbOnEvent tc ev

/-- `lwIpOut` for an instance. -/
def onOut (ready : Bool) (tc : Tc6Lib) (p : TxPbuf) (maxSeg : UInt8) (success : Bool) :
    ErrT × List (Call κ) := lwIpOut { tc with resetComplete := ready } p maxSeg success

/-- An instance that has no TC6 is not called back. -/
def driversStep [PbufRealloc] (s : Drivers κ) : InstanceEvent → Drivers κ × List (InstanceOut κ)
  | .tc6 k cb =>
    match (s.mlw[k]?.bind Tc6Lwip.tc6).bind (getContextTC6 s.mlw) with
    | none => (s, [])
    | some i =>
      let lw := s.mlw.getD i .zero
      let (tc, calls) := onTc6 (resetCompleteOf s.mlw 0) s.rawRxCallbacks lw.tc cb
      ({ s with mlw := s.mlw.set i { lw with tc := tc } }, calls.map .call)
  | .out k p maxSeg success =>
    match s.mlw[k]? with
    | none => (s, [])
    | some lw =>
      let (err, calls) := onOut (resetCompleteOf s.mlw 0) lw.tc p maxSeg success
      (s, calls.map .call ++ [.ret err])

/-! ## Isolation -/

/-- The callback, to the only instance there is. -/
def Tc6Callback.only : Tc6Callback → DriverEvent κ
  | .slice pRx offset len alloc => .slice pRx offset len alloc
  | .packet success len lwresult => .packet success len lwresult
  | .needService => .needService
  | .error err => .error err
  | .event ev => .event ev

/-- The instance does what the driver with one instance does, and the others are as they were. -/
def Isolated [PbufRealloc] (s : Drivers κ) : InstanceEvent → Prop
  | .tc6 k cb => ∀ lw, s.mlw[k]? = some lw → lw.tc6 ≠ none →
    let d := driverStep ⟨lw.tc, lw.magic, s.rawRxCallbacks⟩ cb.only
    driversStep s (.tc6 k cb) =
      ({ s with mlw := s.mlw.set k { lw with tc := d.1.tc } }, d.2.map .call)
  | .out k p maxSeg success => ∀ lw, s.mlw[k]? = some lw →
    let (err, calls) := lwIpOut (κ := κ) lw.tc p maxSeg success
    driversStep s (.out k p maxSeg success) = (s, calls.map .call ++ [.ret err])

/-- Nothing has been received. -/
def Tc6Lib.Blank (tc : Tc6Lib) : Prop := tc.pbuf = none ∧ tc.rxLen = 0 ∧ tc.rxInvalid = false

def SameGate (s : Drivers κ) : InstanceEvent → Prop
  | .tc6 k (.packet _ _ _) => ∀ lw, s.mlw[k]? = some lw → lw.tc6 ≠ none →
    lw.tc.resetComplete = resetCompleteOf s.mlw 0 ∨ lw.tc.Blank
  | .tc6 _ _ => True
  | .out k _ _ _ => ∀ lw, s.mlw[k]? = some lw → lw.tc.resetComplete = resetCompleteOf s.mlw 0

/-- No two instances have the same TC6. -/
def OwnTc6 (mlw : List Tc6Lwip) : Prop :=
  ∀ i j h : Nat, (mlw.map Tc6Lwip.tc6)[i]? = some (some h) →
    (mlw.map Tc6Lwip.tc6)[j]? = some (some h) → i = j

/-! ## The gates -/

/-- The handle finds its instance. -/
theorem getContextTC6_own {mlw : List Tc6Lwip} (hown : OwnTc6 mlw) (hlen : mlw.length ≤ 256)
    {k h : Nat} {lw : Tc6Lwip} (hk : mlw[k]? = some lw) (hh : lw.tc6 = some h) :
    getContextTC6 mlw h = some k := by
  unfold getContextTC6
  rw [List.take_of_length_le hlen, List.findIdx?_eq_some_iff_getElem]
  obtain ⟨hlt, hget⟩ := List.getElem?_eq_some_iff.mp hk
  refine ⟨hlt, by rw [hget, hh]; exact beq_self_eq_true _, fun j hj => ?_⟩
  intro hbeq
  have htc6 : mlw[j].tc6 = some h := by simpa using hbeq
  have heq := hown j k h
    (by rw [List.getElem?_map, List.getElem?_eq_getElem (by omega), Option.map_some, htc6])
    (by rw [List.getElem?_map, hk, Option.map_some, hh])
  omega

/-- The end of a frame clears the receive state, if it gets past the gate. -/
theorem onRxEthernetPacket_open [PbufRealloc] (cbs : List (RawRxEntry κ)) (tc : Tc6Lib)
    (success : Bool) (len : UInt16) (lwresult : ErrT) :
    (onRxEthernetPacket true cbs tc success len lwresult).1 =
      { tc with pbuf := none, rxLen := 0, rxInvalid := false } ∧
    (tc.pbuf = none → (onRxEthernetPacket true cbs tc success len lwresult).2 = []) := by
  unfold onRxEthernetPacket tc6CbOnRxEthernetPacket
  refine ⟨rfl, fun hp => ?_⟩
  simp only [tc6CbResetComplete, if_pos, hp]
  rfl

theorem onRxEthernetPacket_closed [PbufRealloc] (cbs : List (RawRxEntry κ)) (tc : Tc6Lib)
    (success : Bool) (len : UInt16) (lwresult : ErrT) :
    onRxEthernetPacket false cbs tc success len lwresult = (tc, []) := rfl

theorem open_eq_closed_iff [PbufRealloc] (cbs : List (RawRxEntry κ)) (tc : Tc6Lib) (success : Bool)
    (len : UInt16) (lwresult : ErrT) :
    onRxEthernetPacket true cbs tc success len lwresult =
      onRxEthernetPacket false cbs tc success len lwresult ↔ tc.Blank := by
  obtain ⟨hstate, hcalls⟩ := onRxEthernetPacket_open cbs tc success len lwresult
  rw [onRxEthernetPacket_closed]
  constructor
  · intro h
    rw [h] at hstate
    obtain ⟨pbuf, rxLen, rxInvalid, need, reset⟩ := tc
    simp only [Tc6Lib.mk.injEq] at hstate
    exact ⟨hstate.1, hstate.2.1, hstate.2.2.1⟩
  · rintro ⟨hp, hl, hi⟩
    refine Prod.ext ?_ (hcalls hp)
    rw [hstate]
    obtain ⟨pbuf, rxLen, rxInvalid, need, reset⟩ := tc
    simp only at hp hl hi
    rw [hp, hl, hi]

/-- Two gates make no difference if they are the same or nothing has been received. -/
theorem packet_gate [PbufRealloc] (a b : Bool) (cbs : List (RawRxEntry κ)) (tc : Tc6Lib)
    (success : Bool) (len : UInt16) (lwresult : ErrT) :
    onRxEthernetPacket a cbs tc success len lwresult =
      onRxEthernetPacket b cbs tc success len lwresult ↔ b = a ∨ tc.Blank := by
  have hiff := open_eq_closed_iff cbs tc success len lwresult
  cases a with
  | true => cases b with
    | true => exact ⟨fun _ => .inl rfl, fun _ => rfl⟩
    | false => exact hiff.trans ⟨.inr, fun h => h.resolve_left nofun⟩
  | false => cases b with
    | true => exact (eq_comm.trans hiff).trans ⟨.inr, fun h => h.resolve_left nofun⟩
    | false => exact ⟨fun _ => .inl rfl, fun _ => rfl⟩

/-- Behind an open gate a frame is sent or has to wait. -/
theorem onOut_open (tc : Tc6Lib) (p : TxPbuf) (maxSeg : UInt8) (success : Bool) :
    onOut (κ := κ) true tc p maxSeg success ≠ onOut false tc p maxSeg success := by
  have hclosed : onOut (κ := κ) false tc p maxSeg success = (.errIf, []) := rfl
  rw [hclosed]
  unfold onOut lwIpOut
  simp only [tc6CbResetComplete]
  by_cases hseg : maxSeg ≠ 0
  · simp [hseg]
  · simp [hseg]

theorem out_gate (a b : Bool) (tc : Tc6Lib) (p : TxPbuf) (maxSeg : UInt8) (success : Bool) :
    onOut (κ := κ) a tc p maxSeg success = onOut b tc p maxSeg success ↔ b = a := by
  have hne := onOut_open (κ := κ) tc p maxSeg success
  cases a with
  | true => cases b with
    | true => exact ⟨fun _ => rfl, fun _ => rfl⟩
    | false => exact ⟨fun h => absurd h hne, nofun⟩
  | false => cases b with
    | true => exact ⟨fun h => absurd h.symm hne, nofun⟩
    | false => exact ⟨fun _ => rfl, fun _ => rfl⟩

/-! ## Runs -/

/-- A callback for an instance that has a TC6. -/
theorem driversStep_tc6 [PbufRealloc] {s : Drivers κ} (hown : OwnTc6 s.mlw)
    (hlen : s.mlw.length ≤ 256) {k : Nat} {lw : Tc6Lwip} (hk : s.mlw[k]? = some lw)
    (hh : lw.tc6 ≠ none) (cb : Tc6Callback) :
    driversStep s (.tc6 k cb) =
      let (tc, calls) := onTc6 (resetCompleteOf s.mlw 0) s.rawRxCallbacks lw.tc cb
      ({ s with mlw := s.mlw.set k { lw with tc := tc } }, calls.map .call) := by
  obtain ⟨h, hh⟩ := Option.ne_none_iff_exists'.mp hh
  have hfind : (s.mlw[k]?.bind Tc6Lwip.tc6).bind (getContextTC6 s.mlw) = some k := by
    rw [hk, Option.bind_some, hh, Option.bind_some, getContextTC6_own hown hlen hk hh]
  have hget : s.mlw.getD k .zero = lw := by
    rw [List.getD_eq_getElem?_getD, hk, Option.getD_some]
  unfold driversStep
  simp only [hfind, hget]

/-- What the only instance would do. -/
theorem driverStep_only [PbufRealloc] (lw : Tc6Lwip) (cbs : List (RawRxEntry κ))
    (cb : Tc6Callback) :
    let d := driverStep ⟨lw.tc, lw.magic, cbs⟩ cb.only
    (d.1.tc, d.2) = onTc6 lw.tc.resetComplete cbs lw.tc cb := by
  cases cb with
  | packet success len lwresult =>
    show tc6CbOnRxEthernetPacket cbs lw.tc success len lwresult =
      onRxEthernetPacket lw.tc.resetComplete cbs lw.tc success len lwresult
    obtain ⟨⟨pbuf, rxLen, rxInvalid, need, reset⟩, -⟩ := lw
    cases reset <;> rfl
  | slice pRx offset len alloc => rfl
  | needService => rfl
  | error err => rfl
  | event ev => rfl

/-- Two outcomes for an instance are told apart in the whole. -/
theorem outcome_inj {s : Drivers κ} {k : Nat} {lw : Tc6Lwip} (hk : s.mlw[k]? = some lw)
    (x y : Tc6Lib × List (Call κ)) :
    (({ s with mlw := s.mlw.set k { lw with tc := x.1 } }, x.2.map InstanceOut.call) :
        Drivers κ × List (InstanceOut κ)) =
      ({ s with mlw := s.mlw.set k { lw with tc := y.1 } }, y.2.map InstanceOut.call) ↔ x = y := by
  constructor
  · intro h
    obtain ⟨hs, hcalls⟩ := Prod.mk.inj h
    have hmlw := congrArg (fun d : Drivers κ => d.mlw[k]?) hs
    have hlt := (List.getElem?_eq_some_iff.mp hk).1
    simp only [List.getElem?_set_self hlt, Option.some.injEq, Tc6Lwip.mk.injEq] at hmlw
    exact Prod.ext hmlw.1 (List.map_injective_iff.mpr (fun a b h => InstanceOut.call.inj h) hcalls)
  · rintro rfl
    rfl

/-- A callback is isolated if its own flag would decide as that of instance 0 does. -/
theorem isolated_tc6 [PbufRealloc] {s : Drivers κ} (hown : OwnTc6 s.mlw) (hlen : s.mlw.length ≤ 256)
    (k : Nat) (cb : Tc6Callback) :
    Isolated s (.tc6 k cb) ↔ ∀ lw, s.mlw[k]? = some lw → lw.tc6 ≠ none →
      onTc6 (resetCompleteOf s.mlw 0) s.rawRxCallbacks lw.tc cb =
        onTc6 lw.tc.resetComplete s.rawRxCallbacks lw.tc cb := by
  refine forall_congr' fun lw => forall_congr' fun hk => forall_congr' fun hh => ?_
  rw [driversStep_tc6 hown hlen hk hh, ← driverStep_only lw s.rawRxCallbacks cb]
  exact outcome_inj hk (onTc6 (resetCompleteOf s.mlw 0) s.rawRxCallbacks lw.tc cb)
    ((driverStep ⟨lw.tc, lw.magic, s.rawRxCallbacks⟩ cb.only).1.tc,
      (driverStep ⟨lw.tc, lw.magic, s.rawRxCallbacks⟩ cb.only).2)

/-- **One callback.** -/
theorem isolated_step [PbufRealloc] (s : Drivers κ) (hown : OwnTc6 s.mlw)
    (hlen : s.mlw.length ≤ 256) (e : InstanceEvent) : Isolated s e ↔ SameGate s e := by
  cases e with
  | tc6 k cb =>
    rw [isolated_tc6 hown hlen]
    cases cb with
    | packet success len lwresult =>
      refine forall_congr' fun lw => forall_congr' fun hk => forall_congr' fun hh => ?_
      exact packet_gate _ _ _ _ _ _ _
    | slice pRx offset len alloc => exact ⟨fun _ => trivial, fun _ _ _ _ => rfl⟩
    | needService => exact ⟨fun _ => trivial, fun _ _ _ _ => rfl⟩
    | error err => exact ⟨fun _ => trivial, fun _ _ _ _ => rfl⟩
    | event ev => exact ⟨fun _ => trivial, fun _ _ _ _ => rfl⟩
  | out k p maxSeg success =>
    refine forall_congr' fun lw => forall_congr' fun hk => ?_
    rw [← out_gate (κ := κ) (resetCompleteOf s.mlw 0) lw.tc.resetComplete lw.tc p maxSeg success]
    have hstep : driversStep s (.out k p maxSeg success) =
        let (err, calls) := onOut (κ := κ) (resetCompleteOf s.mlw 0) lw.tc p maxSeg success
        (s, calls.map .call ++ [.ret err]) := by
      unfold driversStep
      simp only [hk]
    rw [hstep]
    constructor
    · intro h
      have hout := congrArg Prod.snd h
      obtain ⟨hcalls, hret⟩ := List.append_inj' hout rfl
      refine Prod.ext ?_ (List.map_injective_iff.mpr (fun a b h => InstanceOut.call.inj h) hcalls)
      exact InstanceOut.ret.inj (List.singleton_inj.mp hret)
    · intro h
      rw [h]
      rfl

/-- Callbacks leave every instance its TC6. -/
theorem driversStep_tc6s [PbufRealloc] (s : Drivers κ) (e : InstanceEvent) :
    (driversStep s e).1.mlw.map Tc6Lwip.tc6 = s.mlw.map Tc6Lwip.tc6 := by
  unfold driversStep
  cases e with
  | tc6 k cb =>
    dsimp only
    split
    · rfl
    · next i hi =>
      dsimp only
      rw [List.map_set]
      apply List.ext_getElem?
      intro j
      by_cases hj : i = j
      · subst hj
        by_cases hlt : i < s.mlw.length
        · rw [List.getElem?_set_self (by simpa using hlt), List.getElem?_map,
            List.getElem?_eq_getElem hlt, List.getD_eq_getElem?_getD, List.getElem?_eq_getElem hlt]
          rfl
        · simp [hlt]
      · rw [List.getElem?_set_ne hj]
  | out k p maxSeg success =>
    dsimp only
    split <;> rfl

/-- **Several instances.**  As long as every instance has a TC6 of its own, in every run, however
the callbacks of the instances alternate, each is isolated from the others if and only if instance
0 is ready, or not, together with those whose frames are sent and received. -/
theorem isolated_iff [PbufRealloc] (s : Drivers κ) (hown : OwnTc6 s.mlw) (hlen : s.mlw.length ≤ 256)
    (es : List InstanceEvent) :
    Along driversStep Isolated s es ↔ Along driversStep SameGate s es := by
  refine along_iff driversStep _ _ (fun s => OwnTc6 s.mlw ∧ s.mlw.length ≤ 256)
    (fun s e h => isolated_step s h.1 h.2 e) (fun s e h _ => ?_) es s ⟨hown, hlen⟩
  have htc6s := driversStep_tc6s s e
  have hlength := congrArg List.length htc6s
  rw [List.length_map, List.length_map] at hlength
  refine ⟨?_, hlength ▸ h.2⟩
  unfold OwnTc6
  rw [htc6s]
  exact h.1

/-- Two instances, of which the second alone is ready. -/
def twoDrivers : Drivers Unit :=
  ⟨[{ Tc6Lwip.zero with tc6 := some 0 },
    { Tc6Lwip.zero with tc6 := some 1, tc := { Tc6Lib.zero with resetComplete := true } }], []⟩

section
attribute [local instance] singlePbuf

/-- It receives, but it cannot send. -/
theorem isolated_iff_two :
    Along driversStep Isolated twoDrivers [.tc6 1 .needService, .tc6 0 (.event .resetComplete),
        .out 1 ⟨0, [], [], 0⟩ 8 true] ∧
      ¬ Along driversStep Isolated twoDrivers [.out 1 ⟨0, [], [], 0⟩ 8 true] := by
  have hown : OwnTc6 twoDrivers.mlw := by
    intro i j h hi hj
    rcases i with _ | _ | i <;> rcases j with _ | _ | j <;>
      first | rfl | (cases hi <;> cases hj)
  refine ⟨(isolated_iff twoDrivers hown (by decide) _).mpr ⟨trivial, trivial, ?_, trivial⟩, ?_⟩
  · rintro lw h
    cases h
    rfl
  · intro h
    have hgate := ((isolated_iff twoDrivers hown (by decide) _).mp h).1 _ rfl
    exact absurd hgate (by decide)

end

end CuriosityT1S
