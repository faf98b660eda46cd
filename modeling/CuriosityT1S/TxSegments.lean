import CuriosityT1S.Tc6Lwip
import Mathlib.Algebra.GroupWithZero.Nat

/-!
# What `lwIpOut` sends of a chain

The loop of `lwIpOut` ends at the last pbuf or at the last segment, and then sends what
it has filled with the total length of the chain.  Only an assertion, empty in a release
build, tells the two ends apart.

    fillSegments_eq_take: the segments are the first `maxSeg` pbufs
    lwIpOut_whole_iff:    what is sent is the chain and a chain too long is refused, if
                          and only if the chain is not longer than the segments offered
-/

namespace CuriosityT1S

/-- The payloads of a chain. -/
def TxPbuf.pbufs (p : TxPbuf) : List (List UInt8) := p.payload :: p.next

/-- The bytes of a chain. -/
def TxPbuf.bytes (p : TxPbuf) : List UInt8 := p.pbufs.flatten

/-- `tot_len` is the sum of the `len` fields. -/
def TxPbuf.WellFormed (p : TxPbuf) : Prop := p.totLen.toNat = (p.pbufs.map List.length).sum

instance (p : TxPbuf) : Decidable p.WellFormed := inferInstanceAs (Decidable (_ = _))

/-- The segments of a call to TC6 are the whole frame, and their lengths sum to its length. -/
def Call.SendsWhole {κ : Type} (p : TxPbuf) : Call κ → Prop
  | .sendRawEthernetSegments segs totalLen _ =>
    segs.flatten = p.bytes ∧ (segs.map List.length).sum = totalLen.toNat
  | _ => True

/-- A call to TC6 to send something. -/
def Call.isSend {κ : Type} : Call κ → Bool
  | .sendRawEthernetSegments _ _ _ => true
  | _ => false

/-- `lwIpOut` sends whole chains only, and refuses one with more pbufs than segments. -/
def SendsWholeOrRefuses (κ : Type) (tc : Tc6Lib) (p : TxPbuf) (maxSeg : UInt8) (success : Bool) :
    Prop :=
  (∀ c ∈ (lwIpOut (κ := κ) tc p maxSeg success).2, c.SendsWhole p) ∧
    (maxSeg.toNat < p.pbufs.length →
      (lwIpOut (κ := κ) tc p maxSeg success).1 ≠ .errOk ∧
        ∀ c ∈ (lwIpOut (κ := κ) tc p maxSeg success).2, c.isSend = false)

/-- One segment a pbuf, up to the number of segments. -/
theorem fillSegments_eq_take (n : Nat) (payload : List UInt8) (next : List (List UInt8)) :
    fillSegments n payload next = (payload :: next).take n := by
  induction n generalizing payload next with
  | zero => rfl
  | succ n ih =>
    cases next with
    | nil => simp [fillSegments]
    | cons pC next => rw [fillSegments, ih, List.take_succ_cons]

/-- A chain that fits is filled in whole. -/
theorem fillSegments_whole (p : TxPbuf) (n : Nat) (h : p.pbufs.length ≤ n) :
    fillSegments n p.payload p.next = p.pbufs := by
  rw [fillSegments_eq_take]
  exact List.take_of_length_le h

/-- The chain is handed to TC6 in as many segments as there are, even if that is not all of it. -/
theorem lwIpOut_truncates (κ : Type) (tc : Tc6Lib) (p : TxPbuf) (maxSeg : UInt8) (success : Bool)
    (hready : tc.resetComplete = true) (hpos : 0 < maxSeg.toNat) :
    .sendRawEthernetSegments (p.pbufs.take maxSeg.toNat) p.totLen p.addr ∈
      (lwIpOut (κ := κ) tc p maxSeg success).2 := by
  have hne : maxSeg ≠ 0 := by rintro rfl; exact absurd hpos (by decide)
  unfold lwIpOut tc6CbResetComplete
  rw [if_neg (by simp [hready]), if_pos hne, fillSegments_eq_take]
  exact List.mem_cons_of_mem _ List.mem_cons_self

/-- Without a ready PHY or without segments, nothing is sent. -/
theorem lwIpOut_refuses (κ : Type) (tc : Tc6Lib) (p : TxPbuf) (maxSeg : UInt8) (success : Bool)
    (h : tc.resetComplete = false ∨ maxSeg.toNat = 0) :
    (lwIpOut (κ := κ) tc p maxSeg success).1 ≠ .errOk ∧
      (lwIpOut (κ := κ) tc p maxSeg success).2 = [] := by
  unfold lwIpOut tc6CbResetComplete
  cases hr : tc.resetComplete with
  | false => exact ⟨nofun, rfl⟩
  | true =>
    have hzero : maxSeg = 0 := by
      rcases h with h | h
      · rw [hr] at h; cases h
      · exact UInt8.toNat_inj.mp h
    rw [hzero]
    exact ⟨nofun, rfl⟩

theorem lwIpOut_sends_whole (κ : Type) (tc : Tc6Lib) (p : TxPbuf) (maxSeg : UInt8)
    (success : Bool) (hwf : p.WellFormed) (hfit : p.pbufs.length ≤ maxSeg.toNat) :
    ∀ c ∈ (lwIpOut (κ := κ) tc p maxSeg success).2, c.SendsWhole p := by
  unfold lwIpOut
  rw [fillSegments_whole p maxSeg.toNat hfit]
  intro c hc
  split at hc
  · cases hc
  · split at hc
    · rcases List.mem_cons.mp hc with rfl | hc
      · trivial
      · rw [List.mem_singleton] at hc
        rw [hc]
        exact ⟨rfl, hwf.symm⟩
    · cases hc

/-- **Segmentation.**  Whole chains only are sent and longer ones refused, if and only if it is
not the case that the PHY is ready and some segments are offered, but fewer than there are
pbufs. -/
theorem lwIpOut_whole_iff (κ : Type) (tc : Tc6Lib) (p : TxPbuf) (maxSeg : UInt8) (success : Bool)
    (hwf : p.WellFormed) :
    SendsWholeOrRefuses κ tc p maxSeg success ↔
      ¬ (tc.resetComplete = true ∧ 0 < maxSeg.toNat ∧ maxSeg.toNat < p.pbufs.length) := by
  constructor
  · rintro ⟨-, hrefuse⟩ ⟨hready, hpos, hlong⟩
    have hsend := lwIpOut_truncates κ tc p maxSeg success hready hpos
    have hnot := (hrefuse hlong).2 _ hsend
    cases hnot
  · intro hcond
    by_cases hfit : p.pbufs.length ≤ maxSeg.toNat
    · exact ⟨lwIpOut_sends_whole κ tc p maxSeg success hwf hfit, fun h => absurd h (by omega)⟩
    · have hnone : tc.resetComplete = false ∨ maxSeg.toNat = 0 := by
        by_cases hready : tc.resetComplete = true
        · right
          have hpos : ¬ 0 < maxSeg.toNat := fun hpos => hcond ⟨hready, hpos, by omega⟩
          omega
        · exact Or.inl (by simpa using hready)
      obtain ⟨hres, hcalls⟩ := lwIpOut_refuses κ tc p maxSeg success hnone
      refine ⟨?_, fun _ => ⟨hres, ?_⟩⟩
      · rw [hcalls]; exact fun c hc => absurd hc List.not_mem_nil
      · rw [hcalls]; exact fun c hc => absurd hc List.not_mem_nil

/-- A frame of `n` pbufs with 20 bytes each. -/
def evenChain (n : Nat) : TxPbuf :=
  ⟨0x4000, List.replicate 20 1, List.replicate (n - 1) (List.replicate 20 1), UInt16.ofNat (20 * n)⟩

/-- Eight pbufs and eight segments. -/
theorem lwIpOut_whole_eight :
    SendsWholeOrRefuses Unit { Tc6Lib.zero with resetComplete := true } (evenChain 8) 8 true :=
  (lwIpOut_whole_iff Unit { Tc6Lib.zero with resetComplete := true } (evenChain 8) 8 true
    (by decide)).mpr (by decide)

/-- Of nine pbufs eight are sent, with the length of all. -/
theorem lwIpOut_not_always_whole :
    ¬ ∀ (tc : Tc6Lib) (p : TxPbuf) (maxSeg : UInt8) (success : Bool), p.WellFormed →
      SendsWholeOrRefuses Unit tc p maxSeg success := by
  intro h
  obtain ⟨hwhole, -⟩ :=
    h { Tc6Lib.zero with resetComplete := true } (evenChain 9) 8 true (by decide)
  obtain ⟨-, hsum⟩ := hwhole (.sendRawEthernetSegments (List.replicate 8 (List.replicate 20 1))
    180 0x4000) (by decide)
  revert hsum
  decide

end CuriosityT1S
