import CuriosityT1S.Tc6Lwip

/-!
# Several instances of the driver (tc6-lwip.c)

`TC6LwIP_Init` takes the first entry of `mlw` that is not registered, writes its index into it
and then clears it, so that the index it goes on with is 0 for every instance.  The length of the
list `mlw` is TC6_MAX_INSTANCES.  `InitArgs` is what a call is given, `InitEnv` what it is
answered on the way.

    tc6LwipInit_success: what a successful call does
    initOwn_iff:         in a run of successful calls every instance has its own index if and
                         only if there is one of them
-/

namespace CuriosityT1S

open Mealy

/-! ## Data -/

/-- `TC6LwIP_t`, with `TC6Lib_t::tc6` as a handle. -/
structure Tc6Lwip where
  tc : Tc6Lib
  tc6 : Option Nat
  ipAddr : String
  mac : Vector UInt8 6
  magic : UInt32
  idx : Int8
deriving DecidableEq, Repr

def Tc6Lwip.zero : Tc6Lwip := ⟨.zero, none, "", Vector.replicate 6 0, 0, 0⟩

def Tc6Lwip.registered (lw : Tc6Lwip) : Bool := lw.magic == lwipTc6Magic

/-- The arguments that `TC6Regs_Init` is passed on. -/
structure RegsArgs where
  enablePlca : Bool
  nodeId : UInt8
  nodeCount : UInt8
  burstCount : UInt8
  burstTimer : UInt8
  promiscuous : Bool
  txCutThrough : Bool
  rxCutThrough : Bool
deriving DecidableEq, Repr

structure InitArgs where
  ip : Option (Vector UInt8 4)
  regs : RegsArgs
deriving DecidableEq, Repr

/-- What TC6 can call back with while the registers are set up. -/
inductive InitCallback
  | needService
  | error (err : Tc6Error)
  | event (event : Tc6RegsEvent)
deriving DecidableEq, Repr

/-- One turn of the loop: what `TC6Regs_GetInitDone` says, and else what comes out of
`TC6_Service`. -/
structure InitPoll where
  initDone : Bool
  callbacks : List InitCallback
deriving DecidableEq, Repr

/-- `mac` is the address read from the EEPROM, if it could be read. -/
structure InitEnv where
  mac : Option (Vector UInt8 6)
  tc6Init : Option Nat
  tc6RegsInit : Bool
  polls : List InitPoll
  netifAdd : Bool
deriving DecidableEq, Repr

inductive InitCall
  | lwipInit
  | tc6StubInit (idx : UInt8)
  | tc6Init
  | tc6RegsInit (mac : Vector UInt8 6) (args : RegsArgs)
  | tc6Service
  | netifAdd (ipAddr : String)
  | netifSetLinkUp
deriving DecidableEq, Repr

/-! ## Initialisation -/

def fallbackMac : Vector UInt8 6 := #v[0x00, 0x80, 0xC2, 0x00, 0x01, 0xCC]

/-- The entry that is not registered.  The counter is a `uint8_t`: with more than 256 entries, the
first 256 of them registered, the loop does not end. -/
def searchEmpty (mlw : List Tc6Lwip) : Option Nat :=
  (mlw.take 256).findIdx? fun lw => !lw.registered

/-- `memset(lw, 0, sizeof(TC6LwIP_t))`. -/
def memsetZero (_ : Tc6Lwip) : Tc6Lwip := .zero

/-- tc6-stub.c, `TC6Stub_Init`: the address, unless there is no such stub. -/
def tc6StubInitMac (maxInstances : Nat) (idx : UInt8) (mac : Option (Vector UInt8 6)) :
    Option (Vector UInt8 6) :=
  if idx.toNat ≥ maxInstances then none else some (mac.getD fallbackMac)

/-- `TC6_CB_ResetComplete`. -/
def resetCompleteOf (mlw : List Tc6Lwip) (tc6Instance : UInt8) : Bool :=
  (mlw.getD tc6Instance.toNat .zero).tc.resetComplete

def initCallback (tc : Tc6Lib) : InitCallback → Tc6Lib
  | .needService => tc6CbOnNeedService tc
  | .error err => (tc6CbOnError (κ := Unit) tc err).1
  | .event ev => (tc6RegsCbOnEvent (κ := Unit) tc ev).1

/-- The `while` loop, `lw` being entry `i`.  `none` if it has not ended. -/
def initWait (mlw : List Tc6Lwip) (i : Nat) :
    Tc6Lwip → List InitPoll → Option (Tc6Lwip × List InitCall)
  | _, [] => none
  | lw, poll :: polls =>
    if poll.initDone && resetCompleteOf (mlw.set i lw) lw.idx.toUInt8 then some (lw, [])
    else
      match initWait mlw i { lw with tc := poll.callbacks.foldl initCallback lw.tc } polls with
      | none => none
      | some (lw, calls) => some (lw, .tc6Service :: calls)

/-- `snprintf` with "%d.%d.%d.%d". -/
def ipString (ip : Vector UInt8 4) : String :=
  String.intercalate "." (ip.toList.map fun b => toString b.toNat)

/-- The call for entry `i`, from the search on. -/
def initEntry (mlw : List Tc6Lwip) (i : Nat) (ip : Vector UInt8 4) (regs : RegsArgs)
    (env : InitEnv) : Option (List Tc6Lwip × Int8 × List InitCall) :=
  let lw := { mlw.getD i .zero with idx := Int8.ofNat i }
  let lw := memsetZero lw
  let calls := (if i = 0 then [.lwipInit] else []) ++ [.tc6StubInit lw.idx.toUInt8]
  match tc6StubInitMac mlw.length lw.idx.toUInt8 env.mac with
  | none => some (mlw.set i lw, -1, calls)
  | some mac =>
    let lw := { lw with mac := mac }
    let calls := calls ++ [.tc6Init]
    match env.tc6Init with
    | none => some (mlw.set i lw, -1, calls)
    | some tc6 =>
      let lw := { lw with tc6 := some tc6, tc := { lw.tc with resetComplete := false } }
      let calls := calls ++ [.tc6RegsInit mac regs]
      if env.tc6RegsInit then
        match initWait mlw i lw env.polls with
        | none => none
        | some (lw, services) =>
          let lw := { lw with magic := lwipTc6Magic, ipAddr := ipString ip }
          let calls := calls ++ services ++ [.netifAdd lw.ipAddr]
          if env.netifAdd then some (mlw.set i lw, lw.idx, calls ++ [.netifSetLinkUp])
          else some (mlw.set i lw, -1, calls)
      else some (mlw.set i lw, -1, calls)

/-- `none` if the call does not return. -/
def tc6LwipInit (mlw : List Tc6Lwip) (a : InitArgs) (env : InitEnv) :
    Option (List Tc6Lwip × Int8 × List InitCall) :=
  match a.ip with
  | none => some (mlw, -1, [])
  | some ip =>
    match searchEmpty mlw with
    | none => some (mlw, -1, [])
    | some i => initEntry mlw i ip a.regs env

/-! ## Service -/

inductive ServiceCall
  | tc6RegsCheckTimers
  | sysCheckTimeouts
  | tc6StubIntActive (idx : UInt8)
  | tc6Service (tc6 : Option Nat) (interruptLevel : Bool)
  | tc6StubReleaseInt (idx : UInt8)
deriving DecidableEq, Repr

/-- One entry in the loop of `TC6LwIP_Service`.  `active` and `done` are the answers of
`TC6Stub_IntActive` and `TC6_Service`. -/
def serviceEntry (active : UInt8 → Bool) (done : UInt8 → Bool) (lw : Tc6Lwip) :
    Tc6Lwip × List ServiceCall :=
  if lw.registered then
    let idx := lw.idx.toUInt8
    if active idx then
      (lw, [.tc6StubIntActive idx, .tc6Service lw.tc6 false] ++
        if done idx then [.tc6StubReleaseInt idx] else [])
    else if lw.tc.tc6NeedService then
      ({ lw with tc := { lw.tc with tc6NeedService := false } },
        [.tc6StubIntActive idx, .tc6Service lw.tc6 true])
    else (lw, [.tc6StubIntActive idx])
  else (lw, [])

def tc6LwipService (active : UInt8 → Bool) (done : UInt8 → Bool) (mlw : List Tc6Lwip) :
    List Tc6Lwip × List ServiceCall :=
  (mlw.map fun lw => (serviceEntry active done lw).1,
    [.tc6RegsCheckTimers, .sysCheckTimeouts] ++
      mlw.flatMap fun lw => (serviceEntry active done lw).2)

def ServiceCall.polled : ServiceCall → Option UInt8
  | .tc6StubIntActive idx => some idx
  | _ => none

/-- The positions of the registered entries. -/
def registeredIdx (mlw : List Tc6Lwip) : List UInt8 :=
  (mlw.zipIdx.filter fun p => p.1.registered).map fun p => UInt8.ofNat p.2

/-- A pass of the service polls the interrupt of each registered instance, by its position. -/
def PollsOwn (mlw : List Tc6Lwip) : Prop :=
  ∀ active done : UInt8 → Bool,
    (tc6LwipService active done mlw).2.filterMap ServiceCall.polled = registeredIdx mlw

/-! ## Runs -/

/-- The driver and the number of calls that have been successful. -/
structure Instances where
  mlw : List Tc6Lwip
  successes : Nat
deriving DecidableEq, Repr

/-- `n` is TC6_MAX_INSTANCES. -/
def Instances.start (n : Nat) : Instances := ⟨List.replicate n .zero, 0⟩

/-- A call that does not return leaves everything as it was. -/
def initStep (s : Instances) (e : InitArgs × InitEnv) : Instances × List InitCall :=
  match tc6LwipInit s.mlw e.1 e.2 with
  | none => (s, [])
  | some (mlw, ret, calls) => (⟨mlw, if ret = -1 then s.successes else s.successes + 1⟩, calls)

/-- The call returns an index. -/
def InitSucceeds (s : Instances) (e : InitArgs × InitEnv) : Prop :=
  ∃ mlw ret calls, tc6LwipInit s.mlw e.1 e.2 = some (mlw, ret, calls) ∧ ret ≠ -1

/-- The call, the k-th that is successful, returns k - 1, initialises that stub and leaves that
index in entry k - 1, the entries before are as they were, and each is polled under its own. -/
def InitOwn (s : Instances) (e : InitArgs × InitEnv) : Prop :=
  ∃ mlw ret calls, tc6LwipInit s.mlw e.1 e.2 = some (mlw, ret, calls) ∧
    ret.toInt = s.successes ∧
    .tc6StubInit (UInt8.ofNat s.successes) ∈ calls ∧
    (∃ lw, mlw[s.successes]? = some lw ∧ lw.idx.toInt = s.successes ∧ lw.registered = true) ∧
    (∀ j < s.successes, mlw[j]? = s.mlw[j]?) ∧
    PollsOwn mlw

/-! ## What a successful call does -/

/-- The loop changes nothing of the entry but what the callbacks do. -/
theorem initWait_frame (mlw : List Tc6Lwip) (i : Nat) (polls : List InitPoll) :
    ∀ (lw lw' : Tc6Lwip) (calls : List InitCall), initWait mlw i lw polls = some (lw', calls) →
      lw' = { lw with tc := lw'.tc } := by
  induction polls with
  | nil => intro lw lw' calls h; cases h
  | cons poll polls ih =>
    intro lw lw' calls h
    rw [initWait] at h
    split at h
    · cases h; rfl
    · split at h
      · cases h
      · next lw2 calls2 hw =>
        cases h
        exact ih { lw with tc := poll.callbacks.foldl initCallback lw.tc } lw' calls2 hw

/-- **A successful call.**  It takes the first entry that is not registered, registers it with
index 0, initialises stub 0 and returns 0. -/
theorem tc6LwipInit_success (mlw mlw' : List Tc6Lwip) (a : InitArgs) (env : InitEnv) (ret : Int8)
    (calls : List InitCall) (h : tc6LwipInit mlw a env = some (mlw', ret, calls))
    (hret : ret ≠ -1) :
    ret = 0 ∧ .tc6StubInit 0 ∈ calls ∧
      ∃ i lw, searchEmpty mlw = some i ∧ mlw' = mlw.set i lw ∧ lw.registered = true ∧
        lw.idx = 0 := by
  unfold tc6LwipInit at h
  split at h
  · cases h; exact absurd rfl hret
  · split at h
    · cases h; exact absurd rfl hret
    · next i hi =>
      unfold initEntry at h
      simp only [memsetZero] at h
      split at h
      · cases h; exact absurd rfl hret
      · split at h
        · cases h; exact absurd rfl hret
        · split at h
          · split at h
            · cases h
            · next lw services hw =>
              have hframe := initWait_frame _ _ _ _ _ _ hw
              have hidx : lw.idx = 0 := by rw [hframe]; rfl
              split at h
              · cases h
                refine ⟨hidx, ?_, i, _, hi, rfl, ?_, hidx⟩
                · simp only [List.mem_append]
                  left; left; left; left; left; right
                  exact List.mem_singleton.mpr rfl
                · exact beq_self_eq_true _
              · cases h; exact absurd rfl hret
          · cases h; exact absurd rfl hret

/-- An entry polls the index that is written in it, if it is registered. -/
theorem serviceEntry_polled (active done : UInt8 → Bool) (lw : Tc6Lwip) :
    (serviceEntry active done lw).2.filterMap ServiceCall.polled =
      if lw.registered then [lw.idx.toUInt8] else [] := by
  unfold serviceEntry
  split
  · simp only
    split
    · split <;> rfl
    · split <;> rfl
  · rfl

/-- A pass polls the indices written in the registered entries. -/
theorem tc6LwipService_polled (active done : UInt8 → Bool) (mlw : List Tc6Lwip) :
    (tc6LwipService active done mlw).2.filterMap ServiceCall.polled =
      (mlw.filter Tc6Lwip.registered).map fun lw => lw.idx.toUInt8 := by
  show (mlw.flatMap fun lw => (serviceEntry active done lw).2).filterMap ServiceCall.polled = _
  induction mlw with
  | nil => rfl
  | cons lw mlw ih =>
    rw [List.flatMap_cons, List.filterMap_append, ih, serviceEntry_polled, List.filter_cons]
    split <;> rfl

theorem zero_not_registered : Tc6Lwip.zero.registered = false := rfl

/-- With no entry registered, the first is taken. -/
theorem searchEmpty_start (n i : Nat) (h : searchEmpty (List.replicate n .zero) = some i) :
    ∃ m, n = m + 1 ∧ i = 0 := by
  cases n with
  | zero => cases h
  | succ m =>
    unfold searchEmpty at h
    rw [List.replicate_succ, List.take_succ_cons, List.findIdx?_cons, zero_not_registered] at h
    cases h
    exact ⟨m, rfl, rfl⟩

/-- One instance, registered first under index 0. -/
theorem pollsOwn_first (lw : Tc6Lwip) (m : Nat) (hreg : lw.registered = true)
    (hidx : lw.idx = 0) : PollsOwn (lw :: List.replicate m .zero) := by
  intro active done
  have hrest : (List.replicate m Tc6Lwip.zero).filter Tc6Lwip.registered = [] := by
    rw [List.filter_replicate, zero_not_registered]
    rfl
  have hpos : ((List.replicate m Tc6Lwip.zero).zipIdx 1).filter (fun p => p.1.registered) = [] := by
    rw [List.filter_eq_nil_iff]
    intro p hp
    rw [List.eq_of_mem_replicate (List.fst_mem_of_mem_zipIdx hp), zero_not_registered]
    decide
  rw [tc6LwipService_polled, List.filter_cons_of_pos hreg, hrest]
  unfold registeredIdx
  rw [List.zipIdx_cons, List.filter_cons, hpos, if_pos hreg]
  show [lw.idx.toUInt8] = [UInt8.ofNat 0]
  rw [hidx]
  rfl

/-- The first call is right. -/
theorem initOwn_first (n : Nat) (e : InitArgs × InitEnv)
    (h : InitSucceeds (Instances.start n) e) : InitOwn (Instances.start n) e := by
  obtain ⟨mlw, ret, calls, he, hret⟩ := h
  obtain ⟨h0, hstub, i, lw, hi, hmlw, hreg, hidx⟩ := tc6LwipInit_success _ _ _ _ _ _ he hret
  obtain ⟨m, rfl, rfl⟩ := searchEmpty_start n i hi
  have hcons : mlw = lw :: List.replicate m .zero := hmlw
  refine ⟨mlw, ret, calls, he, ?_, hstub, ⟨lw, ?_, ?_, hreg⟩, fun j hj => (by cases hj), ?_⟩
  · rw [h0]; rfl
  · rw [hcons]; rfl
  · rw [hidx]; rfl
  · rw [hcons]
    exact pollsOwn_first lw m hreg hidx

/-- A later call is not: it returns 0. -/
theorem not_initOwn_later (s : Instances) (e : InitArgs × InitEnv) (h : InitSucceeds s e)
    (hs : 0 < s.successes) : ¬ InitOwn s e := by
  rintro ⟨mlw, ret, calls, he, hret, -⟩
  obtain ⟨mlw', ret', calls', he', hne⟩ := h
  obtain ⟨rfl, rfl, rfl⟩ : mlw' = mlw ∧ ret' = ret ∧ calls' = calls := by
    have := he'.symm.trans he
    simpa using this
  obtain ⟨h0, -⟩ := tc6LwipInit_success _ _ _ _ _ _ he' hne
  rw [h0] at hret
  have hzero : (0 : Int8).toInt = 0 := rfl
  omega

/-- **Instance numbers.**  In a run of successful calls, for every number of instances, each call
gives its instance its own index if and only if there is at most one. -/
theorem initOwn_iff (n : Nat) (es : List (InitArgs × InitEnv))
    (h : Along initStep InitSucceeds (Instances.start n) es) :
    Along initStep InitOwn (Instances.start n) es ↔ es.length ≤ 1 := by
  cases es with
  | nil => simp
  | cons e es =>
    obtain ⟨hfirst, hrest⟩ := h
    have hcount : (initStep (Instances.start n) e).1.successes = 1 := by
      obtain ⟨mlw, ret, calls, he, hret⟩ := hfirst
      simp only [initStep, he, if_neg hret]
      rfl
    cases es with
    | nil =>
      constructor
      · intro _; exact Nat.le_refl 1
      · intro _; exact ⟨initOwn_first n e hfirst, trivial⟩
    | cons e2 es =>
      constructor
      · rintro ⟨-, hsecond, -⟩
        exact absurd hsecond (not_initOwn_later _ e2 hrest.1 (by omega))
      · intro hlen
        simp at hlen

/-- A call on which nothing fails. -/
def goodInit (tc6 : Nat) : InitArgs × InitEnv :=
  (⟨some #v[192, 168, 0, 101], ⟨true, 1, 2, 0, 0x80, false, false, false⟩⟩,
    ⟨none, some tc6, true, [⟨false, [.event .resetComplete]⟩, ⟨true, []⟩], true⟩)

/-- The default configuration. -/
theorem initOwn_iff_one : Along initStep InitOwn (Instances.start 1) [goodInit 0] :=
  (initOwn_iff 1 [goodInit 0] ⟨⟨_, _, _, rfl, by decide⟩, trivial⟩).mpr (by decide)

/-- With two instances, the second is given the index of the first. -/
theorem initOwn_not_always :
    ¬ ∀ (n : Nat) (es : List (InitArgs × InitEnv)), 1 ≤ n →
      Along initStep InitSucceeds (Instances.start n) es →
      Along initStep InitOwn (Instances.start n) es := by
  intro h
  have hrun := h 2 [goodInit 0, goodInit 1] (by decide)
    ⟨⟨_, _, _, rfl, by decide⟩, ⟨_, _, _, rfl, by decide⟩, trivial⟩
  obtain ⟨-, ⟨mlw, ret, calls, he, hret, -⟩, -⟩ := hrun
  cases he
  revert hret
  decide

end CuriosityT1S
