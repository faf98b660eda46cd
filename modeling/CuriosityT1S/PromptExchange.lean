import CuriosityT1S.Main
import CuriosityT1S.RttExchange
import Mathlib.Data.List.Induction

/-!
# Prompt exchanges

A run of the SERVER's loop is prompt if each heartbeat is accepted for sending
and its ACK has been received when the next one is sent.  Beside the state,
`Exchange` keeps the ACK still owed and the clock reading of each send.

The tenth send of a mode is followed by the mode switch, which clears its
timestamp; and a send at reading 0 leaves nothing to measure from.  These two
are not counted (`counted`), all others are.

    Rtt.account:      samples recorded or armed, of one module
    Received:         what received messages do to both modules
    mainHeartbeat_account: what a send does
    rxCounts_sent:    at every send, the samples are those of the sends counted
    prompt_exchanges_counted: with no reading of 0, all sends but each tenth one
-/

namespace CuriosityT1S

open Mealy

/-- The ACK owed for the last heartbeat sent, and the readings of the sends so far. -/
structure Exchange where
  owed : Option HeartbeatMode
  sends : List UInt64
deriving DecidableEq, Repr

/-- What is owed after the messages of an iteration. -/
def owedAfterRx (m : Main) (owed : Option HeartbeatMode) (i : LoopIn) : Option HeartbeatMode :=
  owed.filter fun t => !(handled m i).any fun r => r.1.isAck t

/-- An iteration of the main loop, and what is known after it. -/
def promptStep (s : Main × Exchange) (i : LoopIn) : (Main × Exchange) × List MainCall :=
  (((mainLoop s.1 i).1,
    if AboutToSend s.1 i then
      ⟨some (afterSwitch s.1 i).hb.hbMode, s.2.sends ++ [i.hbEnv.nowUs]⟩
    else { s.2 with owed := owedAfterRx s.1 s.2.owed i }), (mainLoop s.1 i).2)

def promptStart (boot : MainBoot) : Main × Exchange := (mainInit .server boot, ⟨none, []⟩)

/-- The heartbeat in the current mode is accepted for sending. -/
def Accepted (hb : MainHb) (env : HbEnv) : Prop :=
  match hb.hbMode with
  | .udp => hb.udp.pcb = true ∧ env.lw = ⟨true, .errOk, .errOk⟩
  | .rawEth => hb.eth.initialized = true ∧ env.tc6 = true

instance (hb : MainHb) (env : HbEnv) : Decidable (Accepted hb env) := by
  unfold Accepted
  split <;> infer_instance

/-- No ACK is owed when a heartbeat is sent, and it is accepted. -/
def Prompt (s : Main × Exchange) (i : LoopIn) : Prop :=
  AboutToSend s.1 i →
    owedAfterRx s.1 s.2.owed i = none ∧ Accepted (afterSwitch s.1 i).hb i.hbEnv

instance (s : Main × Exchange) (i : LoopIn) : Decidable (Prompt s i) := by
  unfold Prompt
  infer_instance

/-- `rx_count` of both modules. -/
def MainHb.rxCounts (hb : MainHb) : UInt32 := hb.udp.rtt.stats.rxCount + hb.eth.rtt.stats.rxCount

/-- When a heartbeat is about to be sent, all those before it are counted. -/
def AllCounted (s : Main × Exchange) (i : LoopIn) : Prop :=
  AboutToSend s.1 i → (afterSwitch s.1 i).hb.rxCounts = UInt32.ofNat s.2.sends.length

instance (s : Main × Exchange) (i : LoopIn) : Decidable (AllCounted s i) := by
  unfold AllCounted
  infer_instance

/-- The sends other than each tenth one and those at reading 0. -/
def counted (sends : List UInt64) : Nat :=
  sends.zipIdx.countP fun x => x.1 ≠ 0 ∧ (x.2 + 1) % 10 ≠ 0

theorem counted_append (sends : List UInt64) (nowUs : UInt64) :
    counted (sends ++ [nowUs]) =
      counted sends + if nowUs ≠ 0 ∧ (sends.length + 1) % 10 ≠ 0 then 1 else 0 := by
  unfold counted
  rw [List.zipIdx_append, List.countP_append, List.zipIdx_singleton, List.countP_singleton]
  simp

/-- The clock does not read 0 when a heartbeat is sent. -/
def Timed (s : Main × Exchange) (i : LoopIn) : Prop := AboutToSend s.1 i → i.hbEnv.nowUs ≠ 0

instance (s : Main × Exchange) (i : LoopIn) : Decidable (Timed s i) := by
  unfold Timed
  infer_instance

/-- When a heartbeat is about to be sent, those before it are counted, less each tenth one. -/
def CountedButTenth (s : Main × Exchange) (i : LoopIn) : Prop :=
  AboutToSend s.1 i →
    (afterSwitch s.1 i).hb.rxCounts =
      UInt32.ofNat (s.2.sends.length - s.2.sends.length / 10)

/-- If no reading is 0, only each tenth send is missing. -/
theorem counted_eq (sends : List UInt64) (h : ∀ t ∈ sends, t ≠ 0) :
    counted sends = sends.length - sends.length / 10 := by
  induction sends using List.reverseRecOn with
  | nil => rfl
  | append_singleton l t ih =>
    have ht : t ≠ 0 := h t (by simp)
    have hl := ih fun x hx => h x (List.mem_append_left _ hx)
    rw [counted_append, hl, List.length_append, List.length_singleton]
    by_cases hm : (l.length + 1) % 10 = 0
    · rw [if_neg (by simp [hm])]
      omega
    · rw [if_pos ⟨ht, hm⟩]
      omega

/-! ## One module -/

/-- The samples recorded, and the one that is armed. -/
def Rtt.account (r : Rtt) : UInt32 :=
  r.stats.rxCount + if r.sendTimestampUs = 0 then 0 else 1

theorem Rtt.account_settled {r : Rtt} (h : r.sendTimestampUs = 0) : r.account = r.stats.rxCount := by
  unfold Rtt.account
  rw [if_pos h]
  simp

theorem Rtt.onAck_account (r : Rtt) (nowUs : UInt64) :
    (r.onAck nowUs).1.account = r.account ∧ (r.onAck nowUs).1.sendTimestampUs = 0 := by
  unfold Rtt.onAck
  by_cases h : r.sendTimestampUs = 0
  · rw [if_pos (by simpa using h)]
    exact ⟨rfl, h⟩
  · rw [if_neg (by simpa using h)]
    refine ⟨?_, rfl⟩
    unfold Rtt.account
    rw [if_neg h, if_pos rfl]
    simp [HbStats.record]

def MainHb.account (hb : MainHb) : UInt32 := hb.udp.rtt.account + hb.eth.rtt.account

/-- At most one module is armed. -/
theorem MainHb.account_one {hb : MainHb} (m : HeartbeatMode) (h : ∀ t, t ≠ m → hb.armed t = 0) :
    hb.account = hb.rxCounts + if hb.armed m = 0 then 0 else 1 := by
  unfold MainHb.account MainHb.rxCounts
  match m with
  | .udp =>
    rw [Rtt.account_settled (h .rawEth nofun)]
    unfold Rtt.account
    show _ + (if hb.armed .udp = 0 then 0 else 1) + _ = _
    ac_rfl
  | .rawEth =>
    rw [Rtt.account_settled (h .udp nofun)]
    unfold Rtt.account
    show _ + (_ + if hb.armed .rawEth = 0 then 0 else 1) = _
    ac_rfl

theorem MainHb.account_settled {hb : MainHb} (h : ∀ t, hb.armed t = 0) :
    hb.account = hb.rxCounts := by
  unfold MainHb.account MainHb.rxCounts
  rw [Rtt.account_settled (h .udp), Rtt.account_settled (h .rawEth)]

/-! ## Received messages -/

/-- What received messages do on the SERVER: a timestamp that is taken is a sample recorded, and
an ACK leaves its transport with none. -/
structure Received (rx : List (RxItem × HbEnv)) (hb hb' : MainHb) : Prop where
  ok : ServerOk hb'
  mode : hb'.hbMode = hb.hbMode
  count : hb'.hbExchangeCount = hb.hbExchangeCount
  account : hb'.account = hb.account
  acked : ∀ t, hb.armed t = 0 ∨ (∃ r ∈ rx, r.1.isAck t = true) → hb'.armed t = 0

theorem Received.refl {hb : MainHb} (h : ServerOk hb) (rx : List (RxItem × HbEnv))
    (hno : ∀ t, ∀ r ∈ rx, r.1.isAck t = false) : Received rx hb hb := by
  refine ⟨h, rfl, rfl, rfl, ?_⟩
  rintro t (h0 | ⟨r, hr, ha⟩)
  · exact h0
  · rw [hno t r hr] at ha
    cases ha

theorem Received.trans {rx ry : List (RxItem × HbEnv)} {a b c : MainHb} (h : Received rx a b)
    (g : Received ry b c) : Received (rx ++ ry) a c := by
  refine ⟨g.ok, g.mode.trans h.mode, g.count.trans h.count, g.account.trans h.account, ?_⟩
  rintro t (h0 | ⟨r, hr, ha⟩)
  · exact g.acked t (Or.inl (h.acked t (Or.inl h0)))
  · rcases List.mem_append.mp hr with hr | hr
    · exact g.acked t (Or.inl (h.acked t (Or.inr ⟨r, hr, ha⟩)))
    · exact g.acked t (Or.inr ⟨r, hr, ha⟩)

/-- A module that took its timestamp; the message was no ACK of the other one. -/
theorem Received.taken {hb hb' : MainHb} {r : RxItem × HbEnv} (t : HeartbeatMode)
    (hok : ServerOk hb') (hmode : hb'.hbMode = hb.hbMode)
    (hcount : hb'.hbExchangeCount = hb.hbExchangeCount) (hacc : hb'.account = hb.account)
    (htaken : hb'.armed t = 0)
    (hother : ∀ t', t' ≠ t → hb'.armed t' = hb.armed t' ∧ r.1.isAck t' = false) :
    Received [r] hb hb' := by
  refine ⟨hok, hmode, hcount, hacc, ?_⟩
  intro t' ht'
  by_cases he : t' = t
  · rw [he]
    exact htaken
  · obtain ⟨hsame, hno⟩ := hother t' he
    rcases ht' with h0 | ⟨r', hr', ha⟩
    · exact hsame.trans h0
    · obtain rfl := List.mem_singleton.mp hr'
      rw [hno] at ha
      cases ha

theorem mainRx_received {hb : MainHb} (h : ServerOk hb) (r : RxItem × HbEnv) :
    Received [r] hb (mainRx hb r).1 := by
  obtain ⟨item, env⟩ := r
  have hno : (∀ t, item.isAck t = false) → Received [(item, env)] hb hb := by
    intro hi
    apply Received.refl h
    intro t r hr
    obtain rfl := List.mem_singleton.mp hr
    exact hi t
  match item with
  | .udp none => exact hno fun t => by cases t <;> rfl
  | .udp (some p) =>
    show Received _ hb { hb with udp := (heartbeatRecvCb hb.udp (some p) env.nowUs env.lw).1 }
    rw [heartbeatRecvCb_server hb.udp h.udpRole]
    split
    · obtain ⟨hacc, hts⟩ := hb.udp.rtt.onAck_account env.nowUs
      refine Received.taken .udp ⟨h.udpRole, h.ethRole, fun _ => hts, h.ethInit⟩ rfl rfl ?_ hts ?_
      · unfold MainHb.account
        rw [hacc]
      · rintro (- | -) ht
        · exact absurd rfl ht
        · exact ⟨rfl, rfl⟩
    · next hlen =>
      apply hno
      rintro (- | -)
      · have hne : p ≠ [heartbeatAckByte] := by
          rintro rfl
          exact hlen (by decide)
        simpa [RxItem.isAck] using hne
      · rfl
  | .raw pFrame len =>
    show Received _ hb
      { hb with eth := (ethHeartbeatRxHandler hb.eth pFrame len env.nowUs env.tc6).1 }
    rw [ethHeartbeatRxHandler_server hb.eth h.ethRole h.ethInit]
    split
    · next hlen =>
      apply hno
      rintro (- | -)
      · rfl
      · simp [RxItem.isAck, hlen]
    · obtain ⟨hacc, hts⟩ := hb.eth.rtt.onAck_account env.nowUs
      refine Received.taken .rawEth ⟨h.udpRole, h.ethRole, h.noPcb, h.ethInit⟩ rfl rfl ?_ hts ?_
      · unfold MainHb.account
        rw [hacc]
      · rintro (- | -) ht
        · exact ⟨rfl, rfl⟩
        · exact absurd rfl ht

theorem exec_mainRx_received (rx : List (RxItem × HbEnv)) :
    ∀ hb : MainHb, ServerOk hb → Received rx hb (exec mainRx hb rx) := by
  induction rx with
  | nil => intro hb h; exact Received.refl h [] (by simp)
  | cons r rx ih =>
    intro hb h
    have hone := mainRx_received h r
    exact hone.trans (ih _ hone.ok)

/-! ## A send -/

theorem MainHb.withFlags_ok {hb : MainHb} (h : ServerOk hb) (l : UInt8) (p q : Bool) :
    ServerOk (hb.withFlags l p q) := ⟨h.udpRole, h.ethRole, h.noPcb, h.ethInit⟩

@[simp] theorem MainHb.withFlags_armed (hb : MainHb) (l : UInt8) (p q : Bool) (t : HeartbeatMode) :
    (hb.withFlags l p q).armed t = hb.armed t := by
  cases t <;> rfl

/-- A send in the current mode leaves its reading as that mode's timestamp. -/
theorem MainHb.send_accepted {hb : MainHb} (h : ServerOk hb) (env : HbEnv) (ha : Accepted hb env) :
    let hb' := (hb.send env.nowUs env.lw env.tc6).1
    hb'.armed hb.hbMode = env.nowUs ∧ (∀ t, t ≠ hb.hbMode → hb'.armed t = hb.armed t) ∧
      hb'.rxCounts = hb.rxCounts ∧ hb'.hbExchangeCount = hb.hbExchangeCount := by
  unfold Accepted at ha
  unfold MainHb.send
  match hm : hb.hbMode with
  | .udp =>
    rw [hm] at ha
    simp only at ha ⊢
    obtain ⟨hp, hl⟩ := ha
    unfold heartbeatSend
    rw [if_neg (by simp [hp]), if_neg (by simp [h.udpRole]), hl]
    refine ⟨rfl, ?_, rfl, trivial⟩
    rintro (- | -) ht
    · exact absurd rfl ht
    · rfl
  | .rawEth =>
    simp only
    unfold ethHeartbeatSend
    rw [if_neg (by simp [h.ethInit]), if_neg (by simp [h.ethRole])]
    simp only
    rw [ethHbSendFrame_frame]
    refine ⟨rfl, ?_, rfl, trivial⟩
    rintro (- | -) ht
    · rfl
    · exact absurd rfl ht

/-- The tenth send of a mode leaves nothing armed. -/
theorem MainHb.countExchange_eq (hb : MainHb) :
    if hb.hbExchangeCount + 1 ≥ hbExchangesPerMode then
      (∀ t, hb.countExchange.armed t = 0) ∧ hb.countExchange.rxCounts = hb.rxCounts ∧
        hb.countExchange.hbExchangeCount = 0
    else
      hb.countExchange = { hb with hbExchangeCount := hb.hbExchangeCount + 1 } := by
  unfold MainHb.countExchange
  simp only
  split
  · refine ⟨?_, rfl, rfl⟩
    rintro (- | -) <;> rfl
  · rfl

theorem exchangeCount_next (n : Nat) :
    (UInt32.ofNat (n % 10) + 1 ≥ hbExchangesPerMode ↔ (n + 1) % 10 = 0) ∧
      ((n + 1) % 10 ≠ 0 → UInt32.ofNat (n % 10) + 1 = UInt32.ofNat ((n + 1) % 10)) := by
  have hlt : n % 10 < 10 := Nat.mod_lt n (by omega)
  have hnext : (UInt32.ofNat (n % 10) + 1).toNat = n % 10 + 1 := by
    rw [UInt32.toNat_add, UInt32.toNat_ofNat', UInt32.toNat_one]
    omega
  constructor
  · show hbExchangesPerMode ≤ _ ↔ _
    rw [UInt32.le_iff_toNat_le, hnext]
    show 10 ≤ _ ↔ _
    omega
  · intro h
    apply UInt32.toNat_inj.mp
    rw [hnext, UInt32.toNat_ofNat']
    omega

/-- What is armed is one more in the account, unless the send was a tenth one. -/
theorem MainHb.countExchange_account {hb : MainHb} (m : HeartbeatMode)
    (h0 : ∀ t, t ≠ m → hb.armed t = 0) (n : Nat)
    (hn : hb.hbExchangeCount = UInt32.ofNat (n % 10)) :
    hb.countExchange.account =
        hb.rxCounts + (if hb.armed m ≠ 0 ∧ (n + 1) % 10 ≠ 0 then 1 else 0) ∧
      hb.countExchange.hbExchangeCount = UInt32.ofNat ((n + 1) % 10) ∧
      ∀ t, t ≠ m → hb.countExchange.armed t = 0 := by
  have hex := hb.countExchange_eq
  obtain ⟨hge, hnext⟩ := exchangeCount_next n
  rw [hn] at hex
  simp only [hge] at hex
  by_cases hten : (n + 1) % 10 = 0
  · rw [if_pos hten] at hex
    obtain ⟨hzero, hrx, hcnt⟩ := hex
    refine ⟨?_, ?_, fun t _ => hzero t⟩
    · rw [MainHb.account_settled hzero, hrx, if_neg (fun hc => hc.2 hten), UInt32.add_zero]
    · rw [hten]
      exact hcnt
  · rw [if_neg hten] at hex
    rw [hex]
    refine ⟨?_, hnext hten, h0⟩
    show hb.account = _
    rw [MainHb.account_one m h0]
    by_cases hz : hb.armed m = 0
    · rw [if_pos hz, if_neg (fun hc => hc.1 hz)]
    · rw [if_neg hz, if_pos ⟨hz, hten⟩]

/-- What a send does to the account: one more, unless it is a tenth one or its reading is 0. -/
theorem mainHeartbeat_account {hb : MainHb} (h : ServerOk hb) (env : HbEnv) (ha : Accepted hb env)
    (h0 : ∀ t, hb.armed t = 0) (n : Nat) (hn : hb.hbExchangeCount = UInt32.ofNat (n % 10)) :
    let hb' := (mainHeartbeat hb env.nowUs env.lw env.tc6).1
    hb'.account = hb.account + (if env.nowUs ≠ 0 ∧ (n + 1) % 10 ≠ 0 then 1 else 0) ∧
      hb'.hbExchangeCount = UInt32.ofNat ((n + 1) % 10) ∧
      ∀ t, t ≠ hb.hbMode → hb'.armed t = 0 := by
  have hok : ServerOk { hb with ledState := hb.ledState ^^^ 1 } :=
    ⟨h.udpRole, h.ethRole, h.noPcb, h.ethInit⟩
  obtain ⟨harm, hother, hrx, hcnt⟩ := MainHb.send_accepted hok env ha
  have hex := MainHb.countExchange_account hb.hbMode
    (fun t ht => (hother t ht).trans (h0 t)) n (hcnt.trans hn)
  rw [harm, hrx] at hex
  rw [MainHb.account_settled h0]
  exact hex

/-! ## Runs -/

/-- The account is that of the sends counted so far, and what is not owed is not armed. -/
structure ExchangeInv (s : Main × Exchange) : Prop where
  ok : ServerOk s.1.hb
  count : s.1.hb.hbExchangeCount = UInt32.ofNat (s.2.sends.length % 10)
  account : s.1.hb.account = UInt32.ofNat (counted s.2.sends)
  settled : ∀ t, s.2.owed ≠ some t → s.1.hb.armed t = 0

theorem exchangeInv_init (boot : MainBoot) : ExchangeInv (promptStart boot) := by
  refine ⟨⟨rfl, rfl, fun _ => rfl, rfl⟩, rfl, rfl, ?_⟩
  rintro (- | -) - <;> rfl

theorem t1sExecute_received {m : Main} (h : ServerOk m.hb) (hd : m.resetDone = false) (i : LoopIn) :
    Received (handled m i) m.hb (t1sExecute m i).1.hb := by
  rw [(t1sExecute_handled hd i).1]
  exact exec_mainRx_received (handled m i) m.hb h

/-- Before the heartbeat the account is as before, and settled as far as ACKs have come. -/
theorem afterSwitch_inv {s : Main × Exchange} (h : ExchangeInv s) (hd : s.1.resetDone = false)
    (i : LoopIn) :
    ExchangeInv (afterSwitch s.1 i, { s.2 with owed := owedAfterRx s.1 s.2.owed i }) := by
  obtain ⟨hok, hmode, hcount, hacc, hacked⟩ := t1sExecute_received h.ok hd i
  obtain ⟨l, p, q, hsw⟩ := afterSwitch_hb s.1 i
  refine ⟨?_, ?_, ?_, ?_⟩
  · rw [hsw]
    exact MainHb.withFlags_ok hok l p q
  · rw [hsw]
    exact hcount.trans h.count
  · rw [hsw]
    exact hacc.trans h.account
  · intro t ht
    rw [hsw, MainHb.withFlags_armed]
    apply hacked
    by_cases ho : s.2.owed = some t
    · right
      simp only [owedAfterRx, ho, Option.filter_some] at ht
      split at ht
      · exact absurd rfl ht
      · next ha => simpa using ha
    · exact Or.inl (h.settled t ho)

theorem rxCounts_sent {s : Main × Exchange} (h : ExchangeInv s) (i : LoopIn) (hp : Prompt s i)
    (hs : AboutToSend s.1 i) :
    (∀ t, (afterSwitch s.1 i).hb.armed t = 0) ∧
      (afterSwitch s.1 i).hb.rxCounts = UInt32.ofNat (counted s.2.sends) := by
  have hinv := afterSwitch_inv h hs.1 i
  have hzero : ∀ t, (afterSwitch s.1 i).hb.armed t = 0 := by
    intro t
    apply hinv.settled t
    rw [(hp hs).1]
    nofun
  exact ⟨hzero, (MainHb.account_settled hzero).symm.trans hinv.account⟩

theorem exchangeInv_step (s : Main × Exchange) (i : LoopIn) (h : ExchangeInv s) (hp : Prompt s i) :
    ExchangeInv (promptStep s i).1 := by
  by_cases hd : s.1.resetDone = true
  · have hnot : ¬ AboutToSend s.1 i := fun hc => absurd (hc.1.symm.trans hd) nofun
    have howed : owedAfterRx s.1 s.2.owed i = s.2.owed := by
      unfold owedAfterRx handled
      rw [if_neg (by simp [hd])]
      cases s.2.owed <;> rfl
    unfold promptStep
    rw [mainLoop_done hd, if_neg hnot, howed]
    exact h
  · have hd' : s.1.resetDone = false := by simpa using hd
    have hinv := afterSwitch_inv h hd' i
    unfold promptStep
    rw [mainLoop_eq hd']
    by_cases hs : AboutToSend s.1 i
    · obtain ⟨hdue, -⟩ := heartbeatTask_due hs.2
      obtain ⟨hzero, -⟩ := rxCounts_sent h i hp hs
      obtain ⟨hacc, hcnt, hset⟩ :=
        mainHeartbeat_account hinv.ok i.hbEnv (hp hs).2 hzero s.2.sends.length hinv.count
      simp only [if_pos hs]
      refine ⟨?_, ?_, ?_, ?_⟩
      · rw [hdue]
        exact (mainHeartbeat_armed _ hinv.ok _ _ _).1
      · rw [hdue, hcnt, List.length_append, List.length_singleton]
      · rw [hdue, hacc, hinv.account, counted_append]
        split
        · exact (UInt32.ofNat_add _ 1).symm
        · exact UInt32.add_zero _
      · intro t ht
        rw [hdue]
        exact hset t fun he => ht (congrArg some he.symm)
    · have hnot : ¬ HeartbeatDue (afterSwitch s.1 i) i := fun hc => hs ⟨hd', hc⟩
      rw [heartbeatTask_notDue hnot]
      simp only [if_neg hs]
      exact hinv

theorem sends_timed {s : Main × Exchange} {i : LoopIn} (h : ∀ t ∈ s.2.sends, t ≠ 0)
    (ht : Timed s i) : ∀ t ∈ (promptStep s i).1.2.sends, t ≠ 0 := by
  unfold promptStep
  simp only
  split
  · next hs =>
    intro t hm
    rcases List.mem_append.mp hm with hm | hm
    · exact h t hm
    · rw [List.mem_singleton.mp hm]
      exact ht hs
  · exact h

/-- **Prompt exchanges are counted.**  In every prompt run of the SERVER in which the clock does
not read 0 at a send, at every moment a heartbeat is about to be sent, the two `rx_count`s add up
to the number of heartbeats sent before, less each tenth one. -/
theorem prompt_exchanges_counted (boot : MainBoot) (is : List LoopIn)
    (h : Along promptStep (fun s i => Prompt s i ∧ Timed s i) (promptStart boot) is) :
    Along promptStep CountedButTenth (promptStart boot) is := by
  refine along_of_inv promptStep _ CountedButTenth
    (fun s => ExchangeInv s ∧ ∀ t ∈ s.2.sends, t ≠ 0) ?_ ?_ is _ ⟨exchangeInv_init boot, nofun⟩ h
  · rintro s i ⟨hinv, hsends⟩ ⟨hp, ht⟩
    exact ⟨exchangeInv_step s i hinv hp, sends_timed hsends ht⟩
  · rintro s i ⟨hinv, hsends⟩ ⟨hp, -⟩ hs
    rw [(rxCounts_sent hinv i hp hs).2, counted_eq s.2.sends hsends]

/-- An iteration at `ms` that sends at the reading `nowUs`, after some messages. -/
def beatAt (ms : Nat) (nowUs : UInt64) (rx : List RxItem) : LoopIn :=
  let env : HbEnv := ⟨nowUs, ⟨true, .errOk, .errOk⟩, true⟩
  { LoopIn.quiet false ms with rx := rx.map fun r => (r, env), hbEnv := env }

/-- Ten heartbeats each 500 ms, each answered in time, and an eleventh. -/
def tenExchanges : List LoopIn :=
  beatAt 500 500000 [] ::
    (List.range 10).map fun k =>
      beatAt (500 * (k + 2)) (500000 * UInt64.ofNat (k + 2)) [.udp (some [heartbeatAckByte])]

/-- One heartbeat sent when the microsecond clock reads 0, and a second one. -/
def zeroExchange : List LoopIn :=
  [beatAt 500 0 [], beatAt 1000 500000 [.udp (some [heartbeatAckByte])]]

/-- After ten exchanges the mode is switched, and nine are counted. -/
theorem prompt_exchanges_counted_switch :
    let s := exec promptStep (promptStart serverBoot) (tenExchanges.take 10)
    s.1.hb.hbMode = .rawEth ∧
      (afterSwitch s.1 (beatAt 5500 5500000 [.udp (some [heartbeatAckByte])])).hb.rxCounts = 9 := by
  have h := prompt_exchanges_counted serverBoot (tenExchanges.take 10 ++
    [beatAt 5500 5500000 [.udp (some [heartbeatAckByte])]]) (by decide +kernel)
  obtain ⟨-, hlast, -⟩ := (along_append _ _ _ _ _).mp h
  exact ⟨by decide +kernel, (hlast (by decide +kernel)).trans (by decide +kernel)⟩

/-- The tenth exchange is not counted, and neither is one from reading 0. -/
theorem prompt_exchange_uncounted :
    (¬ ∀ boot is, (∀ i ∈ is, i.hbEnv.nowUs ≠ 0) →
      Along promptStep Prompt (promptStart boot) is →
        Along promptStep AllCounted (promptStart boot) is) ∧
    ¬ ∀ boot is, is.length < 10 → Along promptStep Prompt (promptStart boot) is →
        Along promptStep AllCounted (promptStart boot) is := by
  constructor
  · intro h
    have hall := h serverBoot tenExchanges (by decide +kernel) (by decide +kernel)
    exact absurd hall (by decide +kernel)
  · intro h
    have hall := h serverBoot zeroExchange (by decide) (by decide +kernel)
    exact absurd hall (by decide +kernel)

end CuriosityT1S
