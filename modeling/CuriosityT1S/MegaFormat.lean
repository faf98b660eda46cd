import CuriosityT1S.Iperf
import CuriosityT1S.Lib.Decimal
import Mathlib.Tactic.NormNum

/-!
# How the throughput client prints (udp_perf_client.c)

`stats_buffer` prints the quotient and the remainder by a million with a point between them.  The
remainder is not padded: 1000100 becomes 1.100 M.

    statsBuffer_length:      it always fits
    megaDenotes_iff:         it denotes v / 1000000 if and only if the remainder is 0 or has six
                             digits
    megaFaithful_iff:        and the printed values are ordered as the values are
-/

namespace CuriosityT1S

open Decimal

def mega : UInt32 := 1000000

def statsBuffer (data : UInt32) : List Char :=
  glue (data / mega).toNat (data % mega).toNat ++ [' ', 'M']

/-- `data[16]` and `perf[16]` of `udp_conn_report`. -/
def statsBufferSize : Nat := 16

/-- The numeral before the " M". -/
def megaNumeral (s : List Char) : Option Numeral := read (s.take (s.length - 2))

/-- The text is a numeral and " M", and the numeral has this value. -/
def MegaDenotes (s : List Char) (x : ℚ) : Prop :=
  s.drop (s.length - 2) = [' ', 'M'] ∧ ∃ d, megaNumeral s = some d ∧ d.value = x

/-- It fits the buffer with its terminating zero, and denotes `v / 1000000`. -/
def MegaFaithful (v : UInt32) : Prop :=
  (statsBuffer v).length + 1 ≤ statsBufferSize ∧
    MegaDenotes (statsBuffer v) ((v.toNat : ℚ) / 1000000)

/-- The values that a report passes to `stats_buffer`. -/
def IperfCall.statsData : IperfCall → List UInt32
  | .connReport _ _ totalLen bandwidth => [totalLen, bandwidth]
  | _ => []

def reportData (p : Iperf) (diff : UInt32) (reportType : ReportType) : List UInt32 :=
  (udpConnReport p diff reportType).2.flatMap IperfCall.statsData

/-- The remainder is 0 or has six digits. -/
def RemainderFull (v : UInt32) : Prop := v % mega = 0 ∨ 100000 ≤ v % mega

instance (v : UInt32) : Decidable (RemainderFull v) := by
  unfold RemainderFull
  infer_instance

theorem mega_toNat : mega.toNat = 1000000 := rfl

/-- At most four digits, the point, six digits and the suffix. -/
theorem statsBuffer_length (v : UInt32) : (statsBuffer v).length + 1 ≤ statsBufferSize := by
  have hlt := v.toNat_lt
  have hquot : (Nat.toDigits 10 (v / mega).toNat).length ≤ 4 := by
    rw [Nat.length_toDigits_le_iff (by omega) (by omega), UInt32.toNat_div, mega_toNat]
    omega
  have hrem : (Nat.toDigits 10 (v % mega).toNat).length ≤ 6 := by
    rw [Nat.length_toDigits_le_iff (by omega) (by omega), UInt32.toNat_mod, mega_toNat]
    omega
  unfold statsBuffer glue statsBufferSize
  simp only [List.length_append, List.length_cons, List.length_nil]
  omega

/-- **Mega formatting.**  The text denotes `v / 1000000` if and only if the remainder is 0 or has
six digits. -/
theorem megaDenotes_iff (v : UInt32) :
    MegaDenotes (statsBuffer v) ((v.toNat : ℚ) / 1000000) ↔ RemainderFull v := by
  have hnumeral : megaNumeral (statsBuffer v) =
      read (glue (v.toNat / 10 ^ 6) (v.toNat % 10 ^ 6)) := by
    unfold megaNumeral statsBuffer
    rw [List.length_append, UInt32.toNat_div, UInt32.toNat_mod, mega_toNat]
    exact congrArg read (List.take_left' rfl)
  have hsuffix : (statsBuffer v).drop ((statsBuffer v).length - 2) = [' ', 'M'] := by
    unfold statsBuffer
    rw [List.length_append]
    exact List.drop_left' rfl
  have hfull : RemainderFull v ↔ v.toNat % 10 ^ 6 = 0 ∨ 10 ^ (6 - 1) ≤ v.toNat % 10 ^ 6 := by
    unfold RemainderFull
    rw [← UInt32.toNat_inj, UInt32.le_iff_toNat_le, UInt32.toNat_mod, mega_toNat]
    exact Iff.rfl
  have hmega : (1000000 : ℚ) = 10 ^ 6 := by norm_num
  unfold MegaDenotes
  rw [hnumeral, hmega, hfull, ← glue_div_mod v.toNat 6 (by omega)]
  exact ⟨fun h => h.2, fun h => ⟨hsuffix, h⟩⟩

theorem MegaDenotes.unique {s : List Char} {x y : ℚ} (hx : MegaDenotes s x)
    (hy : MegaDenotes s y) : x = y := by
  obtain ⟨-, d, hd, rfl⟩ := hx
  obtain ⟨-, d', hd', rfl⟩ := hy
  rw [hd] at hd'
  rw [Option.some.inj hd']

/-- **Faithful reports.**  A value is printed faithfully if and only if its remainder by a million
is 0 or has six digits, and of two such values the larger one is printed as the larger one. -/
theorem megaFaithful_iff (v w : UInt32) :
    (MegaFaithful v ↔ RemainderFull v) ∧
      (RemainderFull v → RemainderFull w → v < w →
        ∀ x y, MegaDenotes (statsBuffer v) x → MegaDenotes (statsBuffer w) y → x < y) := by
  constructor
  · constructor
    · intro h
      exact (megaDenotes_iff v).mp h.2
    · intro h
      exact ⟨statsBuffer_length v, (megaDenotes_iff v).mpr h⟩
  · intro hv hw hlt x y hx hy
    have hxv := hx.unique ((megaDenotes_iff v).mpr hv)
    have hyw := hy.unique ((megaDenotes_iff w).mpr hw)
    have hnat : (v.toNat : ℚ) < w.toNat := by
      exact_mod_cast UInt32.lt_iff_toNat_lt.mp hlt
    rw [hxv, hyw]
    exact div_lt_div_of_pos_right hnat (by norm_num)

/-- Two values that are printed faithfully. -/
theorem megaFaithful_iff_sample :
    MegaFaithful 1500000 ∧ ∀ x y, MegaDenotes (statsBuffer 1500000) x →
      MegaDenotes (statsBuffer 2000000) y → x < y :=
  ⟨(megaFaithful_iff 1500000 2000000).1.mpr (by decide),
    (megaFaithful_iff 1500000 2000000).2 (by decide) (by decide) (by decide)⟩

/-- 685 datagrams of 1460 bytes in an interval: the report says 1.100 M. -/
theorem megaFaithful_not_always :
    ¬ ∀ (p : Iperf) (diff : UInt32) (reportType : ReportType),
      ∀ v ∈ reportData p diff reportType, MegaFaithful v := by
  intro h
  have hfaithful := h
    { Iperf.zero with client := ⟨1, 0, 1000100, 685, ⟨1, 0, 1000100⟩⟩ } 5000 .interReport 1000100
    (by decide)
  have hfull := (megaDenotes_iff 1000100).mp hfaithful.2
  revert hfull
  decide

end CuriosityT1S
