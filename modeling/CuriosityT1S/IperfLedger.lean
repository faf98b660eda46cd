import CuriosityT1S.Iperf
import Mathlib.Data.List.Chain
import Mathlib.Data.UInt

/-!
# The books of a throughput session

The client keeps a datagram id, a count and two byte totals.  An `IperfSession` is the client
next to what it has really done since the last `iperf_start_application`: the datagrams handed to
`udp_sendto` and the interim reports printed.

    SendBooks:        what one call of `transfer_data` does to the books
    LedgerRight:      the books agree with what was sent
    ledgerRight_iff:  they do, along every session, if and only if no datagram is accepted
                      after one that carried -1, nor when the count is 2^32 - 1
-/

namespace CuriosityT1S

open Mealy

/-! ## What is sent and printed -/

/-- A datagram handed to `udp_sendto`, and the answer. -/
structure Offer where
  id : UInt32
  size : UInt16
  result : ErrT
deriving DecidableEq, Repr

/-- Refused datagrams are sent again later. -/
def Offer.refused (o : Offer) : Bool := o.result = .errWouldblock ∨ o.result = .errMem

/-- The datagrams among the calls. -/
def offersOf (result : ErrT) : List IperfCall → List Offer :=
  List.filterMap fun
    | .udpSendto packetId size => some ⟨packetId, size, result⟩
    | _ => none

/-- The totals of the interim reports among the calls; a final report goes on with the number of
datagrams. -/
def interimTotals : List IperfCall → List UInt32
  | [] => []
  | .connReport _ _ _ _ :: .sentDatagrams _ :: calls => interimTotals calls
  | .connReport _ _ totalLen _ :: calls => totalLen :: interimTotals calls
  | _ :: calls => interimTotals calls

/-- Both lists are newest first; a call sends and prints at most one. -/
structure IperfSession where
  iperf : Iperf
  offers : List Offer
  interims : List UInt32
deriving DecidableEq, Repr

def IperfSession.accepted (s : IperfSession) : List Offer :=
  s.offers.filter (·.result = .errOk)

/-- The session after a call whose datagram is answered by `result`. -/
def IperfSession.record (s : IperfSession) (result : ErrT) (r : Iperf × List IperfCall) :
    IperfSession :=
  ⟨r.1, offersOf result r.2 ++ s.offers, interimTotals r.2 ++ s.interims⟩

/-- A session begins in whatever state the client is in. -/
def sessionStart (p : Iperf) (startMs statsMs transferMs : UInt32) (a : IperfSend) :
    IperfSession :=
  IperfSession.record ⟨p, [], []⟩ a.lw.udpSendto
    (iperfStartApplication p startMs statsMs transferMs a)

/-- The calls until the next start. -/
inductive SessionOp
  | service (nowMs transferMs : UInt32) (a : IperfSend)
  | setPacketSize (packetLength : UInt16)
  | stop
deriving DecidableEq, Repr

def sessionStep (s : IperfSession) : SessionOp → IperfSession × List IperfCall
  | .service nowMs transferMs a =>
    let r := iperfService s.iperf nowMs transferMs a
    (s.record a.lw.udpSendto r, r.2)
  | .setPacketSize packetLength =>
    ({ s with iperf := iperfSetPacketSize s.iperf packetLength }, [])
  | .stop => ({ s with iperf := iperfStopApplication s.iperf }, [])

/-- Ids of datagrams accepted one after the other: nothing follows -1, and the later is the earlier
plus one unless it is the marker. -/
def Follows (later earlier : UInt32) : Prop :=
  earlier ≠ markerId ∧ (later = earlier + 1 ∨ later = markerId)

/-- The id of a refused datagram is used again by the next one, unless that is the marker. -/
def Retries (later earlier : Offer) : Prop :=
  earlier.refused = true → earlier.id ≠ markerId → later.id = earlier.id ∨ later.id = markerId

/-- The books agree with what was sent and printed.  Sums of `UInt32` are modulo 2^32. -/
structure LedgerRight (s : IperfSession) : Prop where
  ids : (s.accepted.map Offer.id).IsChain Follows
  retried : s.offers.IsChain Retries
  count : s.iperf.client.cntDatagrams.toNat = s.accepted.length
  bytes : s.iperf.client.totalBytes = (s.accepted.map fun o => o.size.toUInt32).sum
  interims : s.interims.sum + s.iperf.client.iReport.totalBytes = s.iperf.client.totalBytes

/-- `udp_sendto` is called and accepts the datagram. -/
def IperfSend.taken (a : IperfSend) : Bool := a.offered && a.lw.udpSendto = .errOk

/-- A datagram is not accepted when -1 has gone out already, nor when the count is at its end. -/
def RoomToSend (s : IperfSession) : SessionOp → Prop
  | .service nowMs _ a => serviceRuns s.iperf nowMs = true → a.taken = true →
      s.iperf.client.cntDatagrams ≠ 0xFFFFFFFF ∧
        (s.iperf.packetId = markerId → s.iperf.client.cntDatagrams = 0)
  | _ => True

/-! ## One transfer -/

/-- `packet_id` afterwards: a datagram that is sent leaves its id, unless it is no marker and is
refused. -/
def idAfter (p : Iperf) (finished : Bool) (a : IperfSend) : UInt32 :=
  if a.offered then
    if finished = false ∧ (a.lw.udpSendto = .errWouldblock ∨ a.lw.udpSendto = .errMem) then
      p.packetId
    else nextId p finished
  else p.packetId

/-- What sending at most one datagram does to the books. -/
structure SendBooks (p : Iperf) (finished : Bool) (a : IperfSend) (p' : Iperf)
    (calls : List IperfCall) : Prop where
  packetId : p'.packetId = idAfter p finished a
  count : p'.client.cntDatagrams = if a.taken then p.client.cntDatagrams + 1
    else p.client.cntDatagrams
  bytes : p'.client.totalBytes = if a.taken then p.client.totalBytes + p.iPayloadSize.toUInt32
    else p.client.totalBytes
  interims : (interimTotals calls).sum + p'.client.iReport.totalBytes =
    if a.taken then p.client.iReport.totalBytes + p.iPayloadSize.toUInt32
    else p.client.iReport.totalBytes
  offers : offersOf a.lw.udpSendto calls =
    if a.offered then [⟨nextId p finished, p.iPayloadSize, a.lw.udpSendto⟩] else []

@[simp] theorem offersOf_append (result : ErrT) (l m : List IperfCall) :
    offersOf result (l ++ m) = offersOf result l ++ offersOf result m :=
  List.filterMap_append

/-- Calls that do not begin inside a final report. -/
theorem interimTotals_append (l m : List IperfCall)
    (hm : ∀ n, m.head? ≠ some (.sentDatagrams n)) :
    interimTotals (l ++ m) = interimTotals l ++ interimTotals m := by
  fun_induction interimTotals l with
  | case1 => rfl
  | case2 _ _ _ _ _ calls ih =>
    simp only [List.cons_append, interimTotals]
    exact ih
  | case3 _ _ _ _ calls hnot ih =>
    have hnot' : ∀ n rest, calls ++ m = .sentDatagrams n :: rest → False := by
      intro n rest heq
      cases calls with
      | nil => exact hm n (by rw [List.nil_append] at heq; rw [heq]; rfl)
      | cons c calls =>
        rw [List.cons_append] at heq
        injection heq with hc
        exact hnot n calls (by rw [hc])
    simp only [List.cons_append, interimTotals]
    rw [ih]
  | case4 c calls h1 h2 ih =>
    cases c <;> simp_all [interimTotals]

/-- A report that the session is over is no interim report, and leaves the books alone. -/
theorem SendBooks.report {p p' : Iperf} {finished : Bool} {a : IperfSend}
    {calls : List IperfCall} (h : SendBooks p finished a p' calls) (diff : UInt32) :
    SendBooks p finished a { (udpConnReport p' diff .udpDoneClient).1 with running := false }
      (calls ++ (udpConnReport p' diff .udpDoneClient).2) := by
  obtain ⟨hid, hcount, hbytes, hinterims, hoffers⟩ := h
  refine ⟨hid, hcount, hbytes, ?_, ?_⟩
  · rw [interimTotals_append _ _ (fun n h => by cases h)]
    show (interimTotals calls ++ []).sum + _ = _
    rw [List.append_nil]
    exact hinterims
  · rw [offersOf_append, hoffers]
    exact List.append_nil _

/-- Sending begins with no report. -/
theorem udpPacketSend_head (p : Iperf) (finished : Bool) (a : IperfSend) (n : UInt32) :
    (udpPacketSend p finished a).2.2.head? ≠ some (.sentDatagrams n) := by
  rcases udpPacketSend_cases p finished a with ⟨-, -, he | he⟩ | ⟨-, -, -, he⟩ | ⟨-, -, -, he⟩ |
    ⟨-, he⟩
  · rw [he]; intro h; cases h
  · rw [he]; intro h; cases h
  · rw [he]; intro h; cases h
  · rw [he]; intro h; cases h
  · rw [he]; intro h; cases h

/-- The books after sending. -/
theorem udpPacketSend_books (p : Iperf) (finished : Bool) (a : IperfSend) :
    SendBooks p finished a (udpPacketSend p finished a).1 (udpPacketSend p finished a).2.2 := by
  have hnone : a.offered = false → ∀ calls, interimTotals calls = [] →
      offersOf a.lw.udpSendto calls = [] → SendBooks p finished a p calls := by
    intro hoff calls hinterims hoffers
    have htaken : a.taken = false := by simp [IperfSend.taken, hoff]
    constructor <;> simp [hoff, htaken, hinterims, hoffers, idAfter]
  rcases udpPacketSend_cases p finished a with ⟨hoff, -, he | he⟩ | ⟨hoff, -, hok, he⟩ |
    ⟨hoff, -, hsoft, he⟩ | ⟨hfatal, he⟩
  · rw [he]
    exact hnone hoff [] rfl rfl
  · rw [he]
    exact hnone hoff [.pbufFree] rfl rfl
  · have htaken : a.taken = true := by simp [IperfSend.taken, hoff, hok]
    rw [he]
    constructor <;> simp [hoff, hok, htaken, Iperf.countSent, idAfter, interimTotals, offersOf]
  · have hok : a.lw.udpSendto ≠ .errOk := by
      rintro hok
      rw [hok] at hsoft
      simp at hsoft
    have htaken : a.taken = false := by simp [IperfSend.taken, hok]
    rw [he]
    constructor <;> cases finished <;>
      simp [hoff, hsoft, htaken, idAfter, nextId, interimTotals, offersOf]
  · obtain ⟨hoff, hok, hsoft⟩ := a.fatal_iff.mp hfatal
    have htaken : a.taken = false := by simp [IperfSend.taken, hok]
    rw [he]
    constructor <;>
      simp [hoff, hsoft, htaken, idAfter, interimTotals, offersOf, udpConnReport]

/-- What an interim report clears is what it has printed. -/
theorem interimReport_books (p : Iperf) (now : UInt32) (result : ErrT) :
    (interimReport p now).1.packetId = p.packetId ∧
      (interimReport p now).1.iPayloadSize = p.iPayloadSize ∧
      (interimReport p now).1.client.cntDatagrams = p.client.cntDatagrams ∧
      (interimReport p now).1.client.totalBytes = p.client.totalBytes ∧
      (interimTotals (interimReport p now).2).sum +
        (interimReport p now).1.client.iReport.totalBytes = p.client.iReport.totalBytes ∧
      offersOf result (interimReport p now).2 = [] := by
  unfold interimReport
  split
  · simp only
    split
    · refine ⟨rfl, rfl, rfl, rfl, ?_, rfl⟩
      show (p.client.iReport.totalBytes + 0) + 0 = _
      rw [UInt32.add_zero, UInt32.add_zero]
    · exact ⟨rfl, rfl, rfl, rfl, UInt32.zero_add _, rfl⟩
  · exact ⟨rfl, rfl, rfl, rfl, UInt32.zero_add _, rfl⟩

theorem SendBooks.afterInterim {p p' : Iperf} {finished : Bool} {a : IperfSend}
    {calls : List IperfCall} (now : UInt32)
    (h : SendBooks (interimReport p now).1 finished a p' calls)
    (hhead : ∀ n, calls.head? ≠ some (.sentDatagrams n)) :
    SendBooks p finished a p' ((interimReport p now).2 ++ calls) := by
  obtain ⟨hid, hcount, hbytes, hinterims, hoffers⟩ := h
  obtain ⟨hid', hsize, hcount', hbytes', hinterims', hoffers'⟩ :=
    interimReport_books p now a.lw.udpSendto
  have hnext : nextId (interimReport p now).1 finished = nextId p finished := by
    unfold nextId
    rw [hid']
  refine ⟨?_, ?_, ?_, ?_, ?_⟩
  · rw [hid, idAfter, idAfter, hnext, hid']
  · rw [hcount, hcount']
  · rw [hbytes, hbytes', hsize]
  · rw [interimTotals_append _ _ hhead, List.sum_append, UInt32.add_assoc, hinterims, hsize]
    split
    · rw [← UInt32.add_assoc, hinterims']
    · exact hinterims'
  · rw [offersOf_append, hoffers', hoffers, hnext, hsize]
    rfl

/-- A transfer sends the marker if the time is up, else the next datagram. -/
theorem transferData_books (p : Iperf) (now : UInt32) (a : IperfSend) :
    SendBooks p (timeUp p now) a (transferData p now a).1 (transferData p now a).2.2 := by
  obtain ⟨-, -, hstart⟩ := interimReport_spec p now
  have hsend := fun finished => udpPacketSend_books (interimReport p now).1 finished a
  have hhead := udpPacketSend_head (interimReport p now).1
  unfold transferData timeUp
  simp only [hstart]
  by_cases hup : now - p.client.startTime ≥ iperfEndTime
  · rw [if_pos hup, decide_eq_true hup]
    exact ((hsend true).afterInterim now (hhead true a)).report (now - p.client.startTime)
  · rw [if_neg hup, decide_eq_false hup]
    exact (hsend false).afterInterim now (hhead false a)

/-! ## The books and the session -/

/-- As long as the session goes on, the id is that of the datagram accepted last, and the next one
is that of a datagram refused last. -/
structure IdsTied (s : IperfSession) : Prop where
  last : ∀ o ∈ s.accepted.head?, s.iperf.packetId = o.id
  retry : ∀ o ∈ s.offers.head?, o.refused = true → o.id ≠ markerId → s.iperf.packetId + 1 = o.id

structure LedgerInv (s : IperfSession) : Prop where
  right : LedgerRight s
  once : s.iperf.running = true → s.iperf.startDelay = 0
  tied : iperfGetRunningState s.iperf = true → IdsTied s

/-- The next id continues the list unless it ends in -1. -/
theorem follows_next_iff (s : IperfSession) (finished : Bool) (h : LedgerRight s)
    (ht : IdsTied s) :
    (nextId s.iperf finished :: s.accepted.map Offer.id).IsChain Follows ↔
      (s.iperf.packetId = markerId → s.iperf.client.cntDatagrams = 0) := by
  have hcount : s.iperf.client.cntDatagrams = 0 ↔ s.accepted = [] := by
    rw [← UInt32.toNat_inj, h.count]
    exact List.length_eq_zero_iff
  rw [List.isChain_cons, hcount]
  constructor
  · rintro ⟨hfollows, -⟩ hmarker
    cases hacc : s.accepted with
    | nil => rfl
    | cons o rest =>
      have hlast : s.iperf.packetId = o.id := ht.last o (by rw [hacc]; rfl)
      obtain ⟨hne, -⟩ := hfollows o.id (by rw [hacc]; rfl)
      exact absurd (hlast.symm.trans hmarker) hne
  · intro hroom
    refine ⟨fun id hid => ?_, h.ids⟩
    rw [List.head?_map] at hid
    obtain ⟨o, ho, rfl⟩ := Option.map_eq_some_iff.mp hid
    have hlast : s.iperf.packetId = o.id := ht.last o ho
    refine ⟨fun hmarker => ?_, ?_⟩
    · rw [hroom (hlast.trans hmarker)] at ho
      cases ho
    · unfold nextId
      split
      · exact .inr rfl
      · exact .inl (by rw [hlast])

/-- The count goes on unless it is at its end. -/
theorem count_next_iff (n : UInt32) : (n + 1).toNat = n.toNat + 1 ↔ n ≠ 0xFFFFFFFF := by
  have hend : n = 0xFFFFFFFF ↔ n.toNat = 4294967295 := by
    rw [← UInt32.toNat_inj]
    rfl
  have hone : (1 : UInt32).toNat = 1 := rfl
  have hlt := n.toNat_lt
  rw [ne_eq, hend, UInt32.toNat_add, hone]
  omega

/-- A datagram that is neither accepted nor fatal does not use up its id. -/
theorem idAfter_kept (p : Iperf) (a : IperfSend) (htaken : a.taken = false)
    (hfatal : a.fatal = false) : idAfter p false a = p.packetId := by
  unfold idAfter
  by_cases hoff : a.offered = true
  · have hok : a.lw.udpSendto ≠ .errOk := by simpa [IperfSend.taken, hoff] using htaken
    have hsoft : a.lw.udpSendto = .errWouldblock ∨ a.lw.udpSendto = .errMem := by
      apply Classical.byContradiction
      intro hsoft
      rw [a.fatal_iff.mpr ⟨hoff, hok, hsoft⟩] at hfatal
      cases hfatal
    rw [if_pos hoff, if_pos ⟨rfl, hsoft⟩]
  · rw [if_neg hoff]

section
variable (s : IperfSession) {finished : Bool} {a : IperfSend} {p' : Iperf}
  {calls : List IperfCall} (hb : SendBooks s.iperf finished a p' calls) (ht : IdsTied s)
  (h : LedgerRight s)

include hb

/-- A datagram that is accepted joins the list. -/
theorem accepted_record :
    (s.record a.lw.udpSendto (p', calls)).accepted =
      if a.taken then ⟨nextId s.iperf finished, s.iperf.iPayloadSize, .errOk⟩ :: s.accepted
      else s.accepted := by
  unfold IperfSession.accepted IperfSession.record IperfSend.taken
  simp only [hb.offers]
  by_cases hoff : a.offered = true
  · by_cases hok : a.lw.udpSendto = .errOk
    · simp [hoff, hok]
    · simp [hoff, hok]
  · simp [hoff]

include ht

/-- The ids stay tied unless a session with datagrams sends its marker or fails. -/
theorem idsTied_record (hgo : (finished = false ∧ a.fatal = false) ∨ s.accepted = []) :
    IdsTied (s.record a.lw.udpSendto (p', calls)) := by
  have hacc := accepted_record s hb
  constructor
  · intro o ho
    rw [hacc] at ho
    show p'.packetId = o.id
    rw [hb.packetId]
    by_cases htaken : a.taken = true
    · rw [if_pos htaken] at ho
      cases ho
      obtain ⟨hoff, hok⟩ : a.offered = true ∧ a.lw.udpSendto = .errOk := by
        simpa [IperfSend.taken] using htaken
      rw [idAfter, if_pos hoff, if_neg (by rw [hok]; simp)]
    · rw [if_neg htaken] at ho
      rcases hgo with ⟨rfl, hfatal⟩ | hnil
      · rw [← ht.last o ho]
        exact idAfter_kept s.iperf a (by simpa using htaken) hfatal
      · rw [hnil] at ho
        cases ho
  · intro o ho href hid
    have hoffers : (s.record a.lw.udpSendto (p', calls)).offers =
      offersOf a.lw.udpSendto calls ++ s.offers := rfl
    rw [hoffers, hb.offers] at ho
    show p'.packetId + 1 = o.id
    rw [hb.packetId, idAfter]
    by_cases hoff : a.offered = true
    · rw [if_pos hoff] at ho ⊢
      cases ho
      have hrefused : a.lw.udpSendto = .errWouldblock ∨ a.lw.udpSendto = .errMem := by
        simpa [Offer.refused] using href
      cases finished with
      | true => exact absurd rfl hid
      | false =>
        rw [if_pos ⟨rfl, hrefused⟩]
        rfl
    · rw [if_neg hoff] at ho ⊢
      exact ht.retry o ho href hid

include h

/-- A refused datagram is retried under its id. -/
theorem retried_record : (s.record a.lw.udpSendto (p', calls)).offers.IsChain Retries := by
  show (offersOf a.lw.udpSendto calls ++ s.offers).IsChain Retries
  rw [hb.offers]
  split
  · refine List.isChain_cons.mpr ⟨fun o ho href hid => ?_, h.retried⟩
    unfold nextId
    split
    · exact .inr rfl
    · exact .inl (ht.retry o ho href hid)
  · exact h.retried

omit ht in
/-- What leaves the interim total has been printed. -/
theorem interims_record :
    (s.record a.lw.udpSendto (p', calls)).interims.sum + p'.client.iReport.totalBytes =
      p'.client.totalBytes := by
  show (interimTotals calls ++ s.interims).sum + _ = _
  rw [List.sum_append, UInt32.add_comm _ s.interims.sum, UInt32.add_assoc, hb.interims, hb.bytes]
  split
  · rw [← UInt32.add_assoc, h.interims]
  · exact h.interims

/-- Sending leaves the books right unless it goes on after -1 or the count is at its end. -/
theorem ledgerRight_record_iff :
    LedgerRight (s.record a.lw.udpSendto (p', calls)) ↔ (a.taken = true →
      s.iperf.client.cntDatagrams ≠ 0xFFFFFFFF ∧
        (s.iperf.packetId = markerId → s.iperf.client.cntDatagrams = 0)) := by
  have hacc := accepted_record s hb
  have hretried := retried_record s hb ht h
  have hinterims := interims_record s hb h
  by_cases htaken : a.taken = true
  · rw [if_pos htaken] at hacc
    have hcount : p'.client.cntDatagrams = s.iperf.client.cntDatagrams + 1 := by
      rw [hb.count, if_pos htaken]
    have hbytes : p'.client.totalBytes =
        s.iperf.client.totalBytes + s.iperf.iPayloadSize.toUInt32 := by
      rw [hb.bytes, if_pos htaken]
    constructor
    · intro hright _
      have hids := hright.ids
      have hn : p'.client.cntDatagrams.toNat = _ := hright.count
      rw [hacc] at hids hn
      rw [hcount, List.length_cons, ← h.count] at hn
      exact ⟨(count_next_iff _).mp hn, (follows_next_iff s finished h ht).mp hids⟩
    · intro hroom
      obtain ⟨hend, hmarker⟩ := hroom htaken
      refine ⟨?_, hretried, ?_, ?_, hinterims⟩
      · rw [hacc]
        exact (follows_next_iff s finished h ht).mpr hmarker
      · show p'.client.cntDatagrams.toNat = _
        rw [hacc, hcount, List.length_cons, ← h.count]
        exact (count_next_iff _).mpr hend
      · show p'.client.totalBytes = _
        rw [hacc, hbytes, List.map_cons, List.sum_cons, ← h.bytes]
        exact UInt32.add_comm _ _
  · rw [if_neg htaken] at hacc
    refine ⟨fun _ ht' => absurd ht' htaken, fun _ => ⟨?_, hretried, ?_, ?_, hinterims⟩⟩
    · rw [hacc]
      exact h.ids
    · show p'.client.cntDatagrams.toNat = _
      rw [hacc, hb.count, if_neg htaken]
      exact h.count
    · show p'.client.totalBytes = _
      rw [hacc, hb.bytes, if_neg htaken]
      exact h.bytes

end

/-- The start call sends from empty books. -/
theorem sessionStart_inv (p : Iperf) (startMs statsMs transferMs : UInt32) (a : IperfSend) :
    LedgerInv (sessionStart p startMs statsMs transferMs a) := by
  let p1 := (resetStats { p with running := false, startDelay := startMs } statsMs).1
  let s1 : IperfSession := ⟨p1, [], []⟩
  have hbooks : SendBooks s1.iperf (timeUp p1 transferMs) a
      (iperfStartApplication p startMs statsMs transferMs a).1
      (iperfStartApplication p startMs statsMs transferMs a).2 := by
    obtain ⟨hid, hcount, hbytes, hinterims, hoffers⟩ := transferData_books p1 transferMs a
    exact ⟨hid, hcount, hbytes, hinterims, hoffers⟩
  have hright : LedgerRight s1 := ⟨.nil, .nil, rfl, rfl, rfl⟩
  have htied : IdsTied s1 := ⟨fun o ho => (by cases ho), fun o ho => (by cases ho)⟩
  obtain ⟨hrun, -⟩ := iperfStartApplication_spec p startMs statsMs transferMs a
  constructor
  · exact (ledgerRight_record_iff s1 hbooks htied hright).mpr
      fun _ => ⟨show (0 : UInt32) ≠ 0xFFFFFFFF by decide, fun _ => rfl⟩
  · intro hrun'
    rw [show (sessionStart p startMs statsMs transferMs a).iperf.running = false from hrun] at hrun'
    cases hrun'
  · exact fun _ => idsTied_record s1 hbooks htied (.inr rfl)

theorem iperfService_books (p : Iperf) (nowMs transferMs : UInt32) (a : IperfSend)
    (hruns : serviceRuns p nowMs = true) :
    SendBooks p (timeUp p transferMs) a (iperfService p nowMs transferMs a).1
      (iperfService p nowMs transferMs a).2 := by
  rw [iperfService_eq, if_pos hruns]
  simp only
  split
  · obtain ⟨hid, hcount, hbytes, hinterims, hoffers⟩ :=
      transferData_books { p with startDelay := 0, running := true } transferMs a
    exact ⟨hid, hcount, hbytes, hinterims, hoffers⟩
  · exact transferData_books p transferMs a

/-- A service call that transfers finds the session running or pending. -/
theorem active_of_serviceRuns (p : Iperf) (nowMs : UInt32) (h : serviceRuns p nowMs = true) :
    iperfGetRunningState p = true := by
  unfold serviceRuns startDue at h
  unfold iperfGetRunningState
  rw [Bool.or_eq_true, Bool.and_eq_true] at h
  rw [Bool.or_eq_true]
  exact h.imp_right And.left

/-- A service call that does not transfer leaves the session as it is. -/
theorem sessionStep_quiet (s : IperfSession) (nowMs transferMs : UInt32) (a : IperfSend)
    (h : serviceRuns s.iperf nowMs = false) :
    (sessionStep s (.service nowMs transferMs a)).1 = s := by
  show s.record a.lw.udpSendto (iperfService s.iperf nowMs transferMs a) = s
  rw [iperfService_eq, h]
  rfl

theorem ledgerRight_step_iff (s : IperfSession) (op : SessionOp) (h : LedgerInv s) :
    LedgerRight (sessionStep s op).1 ↔ RoomToSend s op := by
  obtain ⟨hright, -, htied⟩ := h
  cases op with
  | service nowMs transferMs a =>
    by_cases hruns : serviceRuns s.iperf nowMs = true
    · have hactive := active_of_serviceRuns s.iperf nowMs hruns
      refine Iff.trans ?_ (imp_iff_right hruns).symm
      exact ledgerRight_record_iff s (iperfService_books s.iperf nowMs transferMs a hruns)
        (htied hactive) hright
    · rw [sessionStep_quiet s nowMs transferMs a (by simpa using hruns)]
      exact iff_of_true hright fun hruns' => absurd hruns' hruns
  | setPacketSize packetLength =>
    exact iff_of_true ⟨hright.ids, hright.retried, hright.count, hright.bytes, hright.interims⟩
      trivial
  | stop =>
    exact iff_of_true ⟨hright.ids, hright.retried, hright.count, hright.bytes, hright.interims⟩
      trivial

/-- A session that transfers is no longer pending. -/
theorem startDelay_iperfService (p : Iperf) (nowMs transferMs : UInt32) (a : IperfSend)
    (honce : p.running = true → p.startDelay = 0) (hruns : serviceRuns p nowMs = true) :
    (iperfService p nowMs transferMs a).1.startDelay = 0 := by
  obtain ⟨-, hdelay⟩ := iperfService_spec p nowMs transferMs a
  rw [hdelay]
  by_cases hdue : startDue p nowMs = true
  · rw [if_pos hdue]
  · rw [if_neg hdue]
    unfold serviceRuns at hruns
    rw [Bool.or_eq_true] at hruns
    exact honce (hruns.resolve_right hdue)

/-- A session that goes on after a transfer has neither sent its marker nor failed. -/
theorem active_of_iperfService (p : Iperf) (nowMs transferMs : UInt32) (a : IperfSend)
    (honce : p.running = true → p.startDelay = 0) (hruns : serviceRuns p nowMs = true)
    (h : iperfGetRunningState (iperfService p nowMs transferMs a).1 = true) :
    timeUp p transferMs = false ∧ a.fatal = false := by
  obtain ⟨hrun, -⟩ := iperfService_spec p nowMs transferMs a
  unfold iperfGetRunningState at h
  rw [startDelay_iperfService p nowMs transferMs a honce hruns, hrun] at h
  have hgo : (!(timeUp p transferMs || a.fatal)) = true := by
    simp only [ne_eq, not_true_eq_false, decide_false, Bool.or_false, Bool.and_eq_true] at h
    exact h.2
  simpa using hgo

theorem ledgerInv_step (s : IperfSession) (op : SessionOp) (h : LedgerInv s)
    (hright : LedgerRight (sessionStep s op).1) : LedgerInv (sessionStep s op).1 := by
  obtain ⟨-, honce, htied⟩ := h
  cases op with
  | service nowMs transferMs a =>
    by_cases hruns : serviceRuns s.iperf nowMs = true
    · refine ⟨hright, fun _ => ?_, fun hactive => ?_⟩
      · exact startDelay_iperfService s.iperf nowMs transferMs a honce hruns
      · have hgo := active_of_iperfService s.iperf nowMs transferMs a honce hruns hactive
        exact idsTied_record s (iperfService_books s.iperf nowMs transferMs a hruns)
          (htied (active_of_serviceRuns s.iperf nowMs hruns)) (.inl hgo)
    · rw [sessionStep_quiet s nowMs transferMs a (by simpa using hruns)] at hright ⊢
      exact ⟨hright, honce, htied⟩
  | setPacketSize packetLength =>
    refine ⟨hright, honce, fun hactive => ?_⟩
    obtain ⟨hlast, hretry⟩ := htied hactive
    exact ⟨hlast, hretry⟩
  | stop =>
    refine ⟨hright, fun hrun => (by cases hrun), fun hpending => ?_⟩
    have hactive : iperfGetRunningState s.iperf = true := by
      unfold iperfGetRunningState
      rw [Bool.or_eq_true]
      exact .inr hpending
    obtain ⟨hlast, hretry⟩ := htied hactive
    exact ⟨hlast, hretry⟩

/-- **The ledger.**  In every session the books agree with what was sent and printed, after the
start and after each call, if and only if no datagram is accepted after one that carried -1, nor
when the count is 2^32 - 1. -/
theorem ledgerRight_iff (p : Iperf) (startMs statsMs transferMs : UInt32) (a : IperfSend)
    (ops : List SessionOp) :
    (LedgerRight (sessionStart p startMs statsMs transferMs a) ∧
      Along sessionStep (fun s op => LedgerRight (sessionStep s op).1)
        (sessionStart p startMs statsMs transferMs a) ops) ↔
      Along sessionStep RoomToSend (sessionStart p startMs statsMs transferMs a) ops := by
  have hstart := sessionStart_inv p startMs statsMs transferMs a
  rw [and_iff_right hstart.right]
  exact along_iff sessionStep _ RoomToSend LedgerInv (fun s op hs => ledgerRight_step_iff s op hs)
    (fun s op hs hright => ledgerInv_step s op hs hright) ops _ hstart

/-- A session whose time is up in the start call itself sends a second marker when its delay is
over, and ids that reach -1 go on with 0. -/
theorem ledgerRight_not_always :
    (¬ ∀ ops : List SessionOp, Along sessionStep (fun s op => LedgerRight (sessionStep s op).1)
      (sessionStart .zero 5 5 300005 sendTaken) ops) ∧
    ¬ ∀ ops : List SessionOp, Along sessionStep (fun s op => LedgerRight (sessionStep s op).1)
      (sessionStart { Iperf.zero with packetId := 0xFFFFFFFE } 5 5 5 sendTaken) ops := by
  constructor
  · intro h
    obtain ⟨hright, -⟩ := h [.service 300006 300006 sendTaken]
    have hids := hright.ids
    obtain ⟨hfollows, -⟩ := List.isChain_cons_cons.mp
      (show [markerId, markerId].IsChain Follows from hids)
    exact hfollows.1 rfl
  · intro h
    obtain ⟨hright, -⟩ := h [.service 20 20 sendTaken]
    have hids := hright.ids
    obtain ⟨hfollows, -⟩ := List.isChain_cons_cons.mp
      (show [0, markerId].IsChain Follows from hids)
    exact hfollows.1 rfl

end CuriosityT1S
