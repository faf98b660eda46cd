import CuriosityT1S.Lib.Mealy

/-!
# What a host does on an I2C bus

A host works through a script of bus operations (`Op`), one at a time.  Each is answered
(`Reply`): it is done, with the acknowledge bit and the byte on the bus, or it comes to nothing
for some cause `κ`.  A byte that the client refuses is followed by a STOP and nothing else, and an
operation that comes to nothing ends the transfer (`play`).

    play_performs:  the log of a transfer is the whole script, or its beginning up to a refused
                   byte and the STOP, or its beginning up to the operation that came to nothing
    received_length:  how many bytes such a log has received
-/

namespace I2cBus

open Mealy

inductive Op
  | start
  | restart
  | tx (b : UInt8)
  | rx
  | ack (ok : Bool)
  | stop
deriving DecidableEq, Repr

inductive Reply (κ : Type)
  | done (ack : Bool) (b : UInt8)
  | abort (cause : κ)
deriving DecidableEq, Repr

/-- What is seen on the bus. -/
inductive Sym (κ : Type)
  | start
  | restart
  | tx (b : UInt8) (ack : Bool)
  | rx (b : UInt8)
  | ack (ok : Bool)
  | stop
  | abort (cause : κ)
deriving DecidableEq, Repr

variable {κ : Type}

/-- An operation that is done, with what is on the bus meanwhile. -/
def Op.sym (ack : Bool) (b : UInt8) : Op → Sym κ
  | .start => .start
  | .restart => .restart
  | .tx c => .tx c ack
  | .rx => .rx b
  | .ack ok => .ack ok
  | .stop => .stop

def Op.isTx : Op → Bool
  | .tx _ => true
  | _ => false

/-- A byte that is refused. -/
def Op.refused (ack : Bool) : Op → Bool
  | .tx _ => !ack
  | _ => false

/-- One operation of the script. -/
def play : List Op → Reply κ → List Op × List (Sym κ)
  | [], _ => ([], [])
  | op :: rest, .done ack b => (if op.refused ack then [.stop] else rest, [op.sym ack b])
  | _ :: _, .abort cause => ([], [.abort cause])

/-! ## Logs -/

/-- The bytes received. -/
def Sym.received : Sym κ → Option UInt8
  | .rx b => some b
  | _ => none

def received (log : List (Sym κ)) : List UInt8 := log.filterMap Sym.received

/-- The script as a log: every byte accepted, the bytes received filled in. -/
def fill : List Op → List UInt8 → List (Sym κ)
  | [], _ => []
  | .rx :: ops, bs => .rx (bs.headD 0) :: fill ops bs.tail
  | op :: ops, bs => op.sym true 0 :: fill ops bs

inductive Ending (κ : Type)
  | complete
  | refused
  | aborted (cause : κ)
deriving DecidableEq, Repr

/-- What a log of the script looks like, by how it ends. -/
def Performs (ops : List Op) (log : List (Sym κ)) : Ending κ → Prop
  | .complete => ∃ bs, bs.length = ops.count .rx ∧ log = fill ops bs
  | .refused => ∃ pre b post bs, ops = pre ++ .tx b :: post ∧ bs.length = pre.count .rx ∧
      log = fill pre bs ++ [.tx b false, .stop]
  | .aborted cause => ∃ pre op post bs, ops = pre ++ op :: post ∧ bs.length = pre.count .rx ∧
      (log = fill pre bs ++ [.abort cause] ∨
        ∃ b, op = .tx b ∧ log = fill pre bs ++ [.tx b false, .abort cause])

/-- How a log ends: a refusal or an abort shows. -/
def Sym.ending : Sym κ → Option (Ending κ)
  | .tx _ false => some .refused
  | .abort cause => some (.aborted cause)
  | _ => none

/-- The last sign of trouble, if there is one. -/
def ending (log : List (Sym κ)) : Ending κ := (log.filterMap Sym.ending).getLast?.getD .complete

/-! ## Playing a script -/

theorem play_nil (rs : List (Reply κ)) :
    exec (play (κ := κ)) [] rs = [] ∧ emits (play (κ := κ)) [] rs = [] := by
  induction rs with
  | nil => exact ⟨rfl, rfl⟩
  | cons r rs ih => exact ih

/-- The bytes received, with that of `op` in front if it receives one. -/
def Op.feed (op : Op) (b : UInt8) (bs : List UInt8) : List UInt8 := if op = .rx then b :: bs else bs

theorem Op.feed_length (op : Op) (b : UInt8) (bs : List UInt8) (ops : List Op)
    (h : bs.length = ops.count .rx) : (op.feed b bs).length = (op :: ops).count .rx := by
  unfold Op.feed
  by_cases hop : op = .rx
  · rw [if_pos hop, hop, List.count_cons_self, List.length_cons, h]
  · rw [if_neg hop, List.count_cons_of_ne hop, h]

theorem fill_cons (op : Op) (ack : Bool) (b : UInt8) (bs : List UInt8) (ops : List Op)
    (h : op.refused ack = false) :
    (fill (op :: ops) (op.feed b bs) : List (Sym κ)) = op.sym ack b :: fill ops bs := by
  cases op with
  | tx c =>
    have hack : ack = true := by simpa [Op.refused] using h
    rw [hack]
    rfl
  | start | restart | rx | ack | stop => rfl

theorem ending_sym_cons (op : Op) (ack : Bool) (b : UInt8) (log : List (Sym κ))
    (h : op.refused ack = false) : ending (op.sym ack b :: log) = ending log := by
  cases op with
  | tx c =>
    have hack : ack = true := by simpa [Op.refused] using h
    rw [hack]
    rfl
  | start | restart | rx | ack | stop => rfl

theorem Performs.cons {ops : List Op} {log : List (Sym κ)} {e : Ending κ} (h : Performs ops log e)
    (op : Op) (ack : Bool) (b : UInt8) (hop : op.refused ack = false) :
    Performs (op :: ops) (op.sym ack b :: log) e := by
  cases e with
  | complete =>
    obtain ⟨bs, hlen, rfl⟩ := h
    exact ⟨op.feed b bs, op.feed_length b bs ops hlen, (fill_cons op ack b bs ops hop).symm⟩
  | refused =>
    obtain ⟨pre, c, post, bs, rfl, hlen, rfl⟩ := h
    refine ⟨op :: pre, c, post, op.feed b bs, rfl, op.feed_length b bs pre hlen, ?_⟩
    rw [fill_cons op ack b bs pre hop, List.cons_append]
  | aborted cause =>
    obtain ⟨pre, op', post, bs, rfl, hlen, hlog⟩ := h
    refine ⟨op :: pre, op', post, op.feed b bs, rfl, op.feed_length b bs pre hlen, ?_⟩
    rw [fill_cons op ack b bs pre hop]
    rcases hlog with rfl | ⟨c, hc, rfl⟩
    · exact .inl rfl
    · exact .inr ⟨c, hc, rfl⟩

/-- After a refused byte only the STOP is left. -/
theorem play_stop (c : UInt8) (ops : List Op) (r : Reply κ) (rs : List (Reply κ)) :
    exec play [.stop] (r :: rs) = [] ∧
      Performs (.tx c :: ops) (.tx c false :: emits play [.stop] (r :: rs))
        (ending (.tx c false :: emits play [.stop] (r :: rs))) := by
  rw [exec_cons, emits_cons]
  cases r with
  | done ack b =>
    have hstep : play (κ := κ) [.stop] (.done ack b) = ([], [.stop]) := rfl
    obtain ⟨hexec, hemits⟩ := play_nil rs
    rw [hstep, hexec, hemits]
    exact ⟨rfl, [], c, ops, [], rfl, rfl, rfl⟩
  | abort cause =>
    have hstep : play (κ := κ) [.stop] (.abort cause) = ([], [.abort cause]) := rfl
    obtain ⟨hexec, hemits⟩ := play_nil rs
    rw [hstep, hexec, hemits]
    exact ⟨rfl, [], .tx c, ops, [], rfl, rfl, .inr ⟨c, rfl, rfl⟩⟩

/-- **Transfers.**  With one reply more than there are operations the transfer is over, and its log
is the script, cut where it was refused or came to nothing. -/
theorem play_performs (ops : List Op) :
    ∀ rs : List (Reply κ), ops.length + 1 ≤ rs.length →
      exec play ops rs = [] ∧ Performs ops (emits play ops rs) (ending (emits play ops rs)) := by
  induction ops with
  | nil =>
    intro rs _
    obtain ⟨hexec, hemits⟩ := play_nil rs
    rw [hexec, hemits]
    exact ⟨rfl, [], rfl, rfl⟩
  | cons op ops ih =>
    intro rs hlen
    match rs with
    | [] => simp at hlen
    | .abort cause :: rs =>
      have hstep : play (op :: ops) (.abort cause) = ([], [.abort cause]) := rfl
      obtain ⟨hexec, hemits⟩ := play_nil rs
      rw [exec_cons, emits_cons, hstep, hexec, hemits]
      exact ⟨rfl, [], op, ops, [], rfl, rfl, .inl rfl⟩
    | .done ack b :: rs =>
      have hstep : play (κ := κ) (op :: ops) (.done ack b) =
        (if op.refused ack then [.stop] else ops, [op.sym ack b]) := rfl
      rw [exec_cons, emits_cons, hstep]
      simp only [List.length_cons] at hlen
      cases hop : op.refused ack with
      | false =>
        obtain ⟨hexec, hperforms⟩ := ih rs (by omega)
        refine ⟨hexec, ?_⟩
        show Performs (op :: ops) (op.sym ack b :: emits play ops rs)
          (ending (op.sym ack b :: emits play ops rs))
        rw [ending_sym_cons op ack b _ hop]
        exact hperforms.cons op ack b hop
      | true =>
        match op, hop, rs with
        | .tx c, hop, r :: rs =>
          have hack : ack = false := by simpa [Op.refused] using hop
          rw [hack]
          exact play_stop c ops r rs
        | .tx _, _, [] => simp at hlen

/-! ## What is received -/

theorem received_append (log log' : List (Sym κ)) :
    received (log ++ log') = received log ++ received log' := List.filterMap_append

theorem received_fill (ops : List Op) :
    ∀ bs : List UInt8, bs.length = ops.count .rx → received (fill ops bs : List (Sym κ)) = bs := by
  induction ops with
  | nil =>
    intro bs h
    rw [List.length_eq_zero_iff.mp h]
    rfl
  | cons op ops ih =>
    intro bs h
    cases op with
    | rx =>
      rw [List.count_cons_self] at h
      cases bs with
      | nil => simp at h
      | cons b bs => exact congrArg (List.cons b) (ih bs (Nat.succ.inj h))
    | start | restart | tx | ack | stop =>
      rw [List.count_cons_of_ne (by simp)] at h
      exact ih bs h

/-- A transfer receives no more than its script says, and all of it if it is complete. -/
theorem Performs.received_length {ops : List Op} {log : List (Sym κ)} {e : Ending κ}
    (h : Performs ops log e) :
    (received log).length ≤ ops.count .rx ∧
      (e = .complete → (received log).length = ops.count .rx) := by
  have hfront : ∀ (pre rest : List Op) (bs : List UInt8) (tail : List (Sym κ)),
      bs.length = pre.count .rx → received tail = [] →
        (received (fill pre bs ++ tail)).length ≤ (pre ++ rest).count .rx := by
    intro pre rest bs tail hbs htail
    rw [received_append, htail, List.append_nil, received_fill pre bs hbs, hbs, List.count_append]
    exact Nat.le_add_right _ _
  cases e with
  | complete =>
    obtain ⟨bs, hbs, rfl⟩ := h
    rw [received_fill ops bs hbs]
    exact ⟨Nat.le_of_eq hbs, fun _ => hbs⟩
  | refused =>
    obtain ⟨pre, b, post, bs, rfl, hbs, rfl⟩ := h
    exact ⟨hfront pre _ bs _ hbs rfl, nofun⟩
  | aborted cause =>
    obtain ⟨pre, op, post, bs, rfl, hbs, rfl | ⟨b, -, rfl⟩⟩ := h
    · exact ⟨hfront pre _ bs _ hbs rfl, nofun⟩
    · exact ⟨hfront pre _ bs _ hbs rfl, nofun⟩

end I2cBus
