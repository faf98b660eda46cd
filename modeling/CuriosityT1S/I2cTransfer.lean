import CuriosityT1S.I2cBooks
import CuriosityT1S.I2cRequests

/-!
# Transfers on the I2C bus (i2c1.c)

From the interrupt that a request raises to the end of its transfer, whatever the client and the
bus do.

    i2c_transfer:  a request that is accepted ends, and its log performs its script
-/

namespace CuriosityT1S

open Mealy I2cBus ByteMemory

/-- The loop after the interrupt that a request raises. -/
def i2cStarted (s : I2c) (r r' : I2cRegs) (req : I2cRequest) : I2cLoop :=
  .after (i2c1Interrupt (i2cRequest s r req).1 r')

/-- The interrupt that starts a transfer only sends the START. -/
theorem i2cBegin_started (s : I2c) :
    (i2cBegin s).1.mem = s.mem ∧ (i2cBegin s).1.hostHandler = s.hostHandler ∧
      (i2cBegin s).1.obj.readData = s.obj.readData ∧ (i2cBegin s).1.obj.error = s.obj.error ∧
      ((i2cBegin s).2 ≠ [] → (i2cBegin s).1.obj.state ≠ .idle) := by
  unfold i2cBegin I2c.setState
  split
  · refine ⟨rfl, rfl, rfl, rfl, fun _ => ?_⟩
    simp only
    split <;> exact nofun
  · exact ⟨rfl, rfl, rfl, rfl, fun h => absurd rfl h⟩

theorem started_books (s : I2c) (r r' : I2cRegs) (req : I2cRequest) (hclean : s.obj.error = .none)
    (hacc : (i2cRequest s r req).2.1 = true) (hbcl : r'.bcl = false) (hiwcol : r'.iwcol = false) :
    I2cBooks s.mem req.target s.hostHandler (i2cStarted s r r' req) [] := by
  have hplays := request_plays s r r' req hclean hacc hbcl hiwcol
  rcases i2cRequest_cases s r req with ⟨-, ⟨hidle, -⟩, -, hnew⟩ | ⟨hfalse, -⟩
  · obtain ⟨hstate, herror, htarget⟩ := fillIn_frame s.obj req
    have hint : i2c1Interrupt (i2cRequest s r req).1 r' =
        i2cBegin { s with obj := req.fillIn s.obj } := by
      rw [hnew]
      exact interrupt_idle _ r' (hstate.trans hidle) hbcl hiwcol
    obtain ⟨hmem, hhandler, hdata, herr, hleft⟩ := i2cBegin_started { s with obj := req.fillIn s.obj }
    have hnone : (i2cStarted s r r' req).dev.obj.error = .none := by
      unfold i2cStarted I2cLoop.after
      rw [hint]
      exact herr.trans (herror.trans hclean)
    have hbusy : (i2cStarted s r r' req).dev.obj.state ≠ .idle := by
      unfold i2cStarted I2cLoop.after
      rw [hint]
      refine hleft fun hc => ?_
      unfold I2cLoop.Plays I2cLoop.after at hplays
      rw [hint, hc] at hplays
      cases req <;> exact nomatch hplays.1
    refine ⟨?_, ?_, ?_, ?_, hnone, fun _ _ _ => hnone, ?_⟩
    · intro op hop
      unfold I2cLoop.Plays at hplays
      unfold i2cStarted at hop ⊢
      rw [hop] at hplays
      exact hplays.2
    · unfold i2cStarted I2cLoop.after
      rw [hint]
      exact hhandler
    · unfold i2cStarted I2cLoop.after
      rw [hint]
      exact hmem
    · intro _
      unfold i2cStarted I2cLoop.after
      rw [hint]
      refine (hdata.trans htarget).trans ?_
      cases req.target <;> rfl
    · intro _
      rw [if_neg fun hc => hbusy hc.1]
      rfl
  · rw [hfalse] at hacc
    cases hacc

/-- What has been on the bus is the script as far as it went. -/
theorem transfer_log (s : I2c) (r r' : I2cRegs) (req : I2cRequest)
    (replies : List (Reply I2cCollision)) (hclean : s.obj.error = .none)
    (hacc : (i2cRequest s r req).2.1 = true) (hbcl : r'.bcl = false) (hiwcol : r'.iwcol = false)
    (hlen : (req.script s.mem).length + 1 ≤ replies.length) :
    let t := exec i2cLoopStep (i2cStarted s r r' req) replies
    let log := busLog (emits i2cLoopStep (i2cStarted s r r' req) replies)
    t.pending = none ∧ t.dev.obj.state = .idle ∧ Performs (req.script s.mem) log (ending log) := by
  intro t log
  obtain ⟨hend, hlog⟩ := emits_sim i2cLoopStep play (fun _ _ => True) I2cLoop.Plays
    I2cLoopOut.sym? (fun s todo reply h _ => i2cLoopStep_plays s todo reply h) replies _ _
    (request_plays s r r' req hclean hacc hbcl hiwcol) (along_true _ _ _)
  obtain ⟨hnil, hperforms⟩ := play_performs (req.script s.mem) replies hlen
  change I2cLoop.Plays t _ at hend
  rw [hnil] at hend
  obtain ⟨hpending, hstate⟩ := (plays_nil t).mp hend
  refine ⟨hpending, hstate, ?_⟩
  rw [show log = emits play (req.script s.mem) replies from hlog]
  exact hperforms

/-- The books at any time during the transfer. -/
theorem transfer_books (s : I2c) (r r' : I2cRegs) (req : I2cRequest)
    (replies : List (Reply I2cCollision)) (hclean : s.obj.error = .none)
    (hacc : (i2cRequest s r req).2.1 = true) (hbcl : r'.bcl = false) (hiwcol : r'.iwcol = false) :
    I2cBooks s.mem req.target s.hostHandler (exec i2cLoopStep (i2cStarted s r r' req) replies)
      (emits i2cLoopStep (i2cStarted s r r' req) replies) := by
  have hplays := request_plays s r r' req hclean hacc hbcl hiwcol
  have hbooks := started_books s r r' req hclean hacc hbcl hiwcol
  exact (exec_emits_inv i2cLoopStep
    (fun s' l => (∃ todo, s'.Plays todo) ∧ I2cBooks s.mem req.target s.hostHandler s' l)
    (fun s' l reply ⟨⟨todo, hp⟩, hb⟩ =>
      ⟨⟨_, (i2cLoopStep_plays s' todo reply hp).1⟩, i2cBooks_step reply hp hb⟩)
    replies _ [] ⟨⟨_, hplays⟩, hbooks⟩).2

theorem fill_quiet (ops : List Op) :
    ∀ bs : List UInt8, ∀ x ∈ (fill ops bs : List (Sym I2cCollision)), symError x = none := by
  induction ops with
  | nil =>
    intro bs x hx
    cases hx
  | cons op ops ih =>
    intro bs x hx
    cases op <;> rcases List.mem_cons.mp hx with rfl | hx <;> first | rfl | exact ih _ x hx

theorem errorOf_quiet (log : List (Sym I2cCollision)) (h : ∀ x ∈ log, symError x = none) :
    errorOf log = .none := by
  unfold errorOf
  induction log with
  | nil => rfl
  | cons x log ih =>
    rw [List.foldl_cons, h x List.mem_cons_self]
    exact ih fun y hy => h y (List.mem_cons_of_mem x hy)

/-- Only a STOP that collides comes after a refused byte. -/
def errorAt : Ending I2cCollision → List (Sym I2cCollision) → I2cHostError
  | .complete, _ => .none
  | .refused, _ => .nack
  | .aborted .bus, _ => .busCollision
  | .aborted .write, log => if log.any (fun x => (symError x).isSome) then .nack else .none

/-- The error by the ending of the transfer. -/
theorem performs_error {ops : List Op} {log : List (Sym I2cCollision)} {e : Ending I2cCollision}
    (h : Performs ops log e) : errorOf log = errorAt e log := by
  cases e with
  | complete =>
    obtain ⟨bs, -, rfl⟩ := h
    exact errorOf_quiet _ (fill_quiet ops bs)
  | refused =>
    obtain ⟨pre, b, post, bs, -, -, rfl⟩ := h
    rw [← List.singleton_append, ← List.append_assoc, errorOf_concat, errorOf_concat]
    rfl
  | aborted cause =>
    obtain ⟨pre, op, post, bs, -, -, rfl | ⟨b, -, rfl⟩⟩ := h
    · have hquiet := fill_quiet pre bs
      rw [errorOf_concat, errorOf_quiet _ hquiet]
      cases cause with
      | bus => rfl
      | write =>
        have hany : (fill pre bs ++ [Sym.abort I2cCollision.write]).any
            (fun x => (symError x).isSome) = false := by
          rw [List.any_append, List.any_eq_false.mpr fun x hx => by simp [hquiet x hx]]
          rfl
        exact (if_neg (Bool.not_eq_true _ ▸ hany)).symm
    · rw [← List.singleton_append, ← List.append_assoc, errorOf_concat, errorOf_concat]
      cases cause with
      | bus => rfl
      | write =>
        have hrefused : Sym.tx b false ∈ fill pre bs ++ [.tx b false] ++ [.abort I2cCollision.write] :=
          List.mem_append_left _ (List.mem_append_right _ List.mem_cons_self)
        exact (if_pos (List.any_eq_true.mpr ⟨_, hrefused, rfl⟩)).symm

end CuriosityT1S
