import CuriosityT1S.I2cScript

/-!
# Accepted requests (i2c1.c)

A request that is accepted fills in the driver's object and raises an interrupt, whose START is the
first operation of its script.

    addressConfiguration_write, addressConfiguration_read:  the bytes of the address
    i2cRequest_cases:                                       accepted, or nothing has changed
    request_plays:                                          what is left to do is the script
-/

namespace CuriosityT1S

open Mealy I2cBus ByteMemory

theorem sevenBit_all : ∀ n < 128,
    (UInt16.ofNat n <<< 1 &&& 0xFE).toUInt8 ||| i2cWriteMode = UInt8.ofNat (2 * n) ∧
      (UInt16.ofNat n <<< 1 &&& 0xFE).toUInt8 ||| i2cReadMode = UInt8.ofNat (2 * n + 1) ∧
      UInt8.ofNat (2 * n) ||| i2cReadMode = UInt8.ofNat (2 * n + 1) := by
  decide +kernel

theorem tenBit_all (n : Nat) (hn : n < 1024) :
    (UInt16.ofNat n >>> 7 &&& 0x6 &&& 0xFE ||| 0xF0).toUInt8 ||| i2cWriteMode =
        UInt8.ofNat (0xF0 + 2 * (n / 256)) ∧
      (UInt16.ofNat n >>> 7 &&& 0x6 &&& 0xFE ||| 0xF0).toUInt8 ||| i2cReadMode =
        UInt8.ofNat (0xF1 + 2 * (n / 256)) ∧
      UInt8.ofNat (0xF0 + 2 * (n / 256)) ||| i2cReadMode = UInt8.ofNat (0xF1 + 2 * (n / 256)) ∧
      (UInt16.ofNat n &&& 0xFF).toUInt8 = UInt8.ofNat n := by
  have hhigh : UInt16.ofNat n >>> 7 = UInt16.ofNat (n / 128) := by
    have hseven : UInt16.toNat 7 % 16 = 7 := rfl
    rw [← UInt16.toNat_inj, UInt16.toNat_shiftRight, UInt16.toNat_ofNat', UInt16.toNat_ofNat',
      hseven, Nat.mod_eq_of_lt (by omega), Nat.mod_eq_of_lt (by omega), Nat.shiftRight_eq_div_pow]
  have hall : ∀ m < 8,
      (UInt16.ofNat m &&& 0x6 &&& 0xFE ||| 0xF0).toUInt8 ||| i2cWriteMode =
          UInt8.ofNat (0xF0 + 2 * (m / 2)) ∧
        (UInt16.ofNat m &&& 0x6 &&& 0xFE ||| 0xF0).toUInt8 ||| i2cReadMode =
          UInt8.ofNat (0xF1 + 2 * (m / 2)) ∧
        UInt8.ofNat (0xF0 + 2 * (m / 2)) ||| i2cReadMode = UInt8.ofNat (0xF1 + 2 * (m / 2)) := by
    decide
  obtain ⟨hwrite, hread, hrestart⟩ := hall (n / 128) (by omega)
  rw [Nat.div_div_eq_div_mul] at hwrite hread hrestart
  rw [hhigh]
  refine ⟨hwrite, hread, hrestart, ?_⟩
  have hmask : (0xFF : UInt16).toNat = 2 ^ 8 - 1 := rfl
  rw [← UInt8.toNat_inj, UInt16.toNat_toUInt8, UInt16.toNat_and, UInt16.toNat_ofNat', hmask,
    Nat.and_two_pow_sub_one_eq_mod, UInt8.toNat_ofNat']
  omega

/-- The bytes that the driver will send are those of the address. -/
theorem addressConfiguration_write (o : I2cObject) (address : UInt16) (h : address ≤ 0x3FF) :
    (i2c1AddressConfiguration o address true).writeAddress = addressForWrite address ∧
      (i2c1AddressConfiguration o address true).readAddress = addressForRead address := by
  have hle : address.toNat ≤ 1023 := UInt16.le_iff_toNat_le.mp h
  unfold i2c1AddressConfiguration addressForWrite addressForRead
  by_cases h7 : address ≤ 0x7F
  · have hlt : address.toNat < 128 := Nat.lt_succ_of_le (UInt16.le_iff_toNat_le.mp h7)
    obtain ⟨hw, -, hr⟩ := sevenBit_all address.toNat hlt
    rw [UInt16.ofNat_toNat] at hw
    rw [if_pos h7]
    simp only [if_pos hlt, I2cObject.writeAddress, I2cObject.readAddress, if_true,
      Bool.false_eq_true, if_false, hw, hr]
    exact ⟨trivial, trivial⟩
  · have hge : ¬ address.toNat < 128 := fun hc =>
      h7 (UInt16.le_iff_toNat_le.mpr (Nat.le_of_lt_succ hc))
    obtain ⟨hw, -, hr, hlow⟩ := tenBit_all address.toNat (Nat.lt_succ_of_le hle)
    rw [UInt16.ofNat_toNat] at hw hlow
    rw [if_neg h7]
    simp only [if_neg hge, I2cObject.writeAddress, I2cObject.readAddress, if_true, hw, hr, hlow]
    exact ⟨trivial, trivial⟩

theorem addressConfiguration_read (o : I2cObject) (address : UInt16) (h : address ≤ 0x3FF) :
    [if (i2c1AddressConfiguration o address false).is10BitAddressMode
      then (i2c1AddressConfiguration o address false).clientAddressHigh
      else (i2c1AddressConfiguration o address false).clientAddressLow] =
        addressForRead address := by
  have hle : address.toNat ≤ 1023 := UInt16.le_iff_toNat_le.mp h
  unfold i2c1AddressConfiguration addressForRead
  by_cases h7 : address ≤ 0x7F
  · have hlt : address.toNat < 128 := Nat.lt_succ_of_le (UInt16.le_iff_toNat_le.mp h7)
    obtain ⟨-, hr, -⟩ := sevenBit_all address.toNat hlt
    rw [UInt16.ofNat_toNat] at hr
    rw [if_pos h7]
    simp only [if_pos hlt, Bool.false_eq_true, if_false, hr]
  · have hge : ¬ address.toNat < 128 := fun hc =>
      h7 (UInt16.le_iff_toNat_le.mpr (Nat.le_of_lt_succ hc))
    obtain ⟨-, hr, -⟩ := tenBit_all address.toNat (Nat.lt_succ_of_le hle)
    rw [UInt16.ofNat_toNat] at hr
    rw [if_neg h7]
    simp only [if_neg hge, if_true, Bool.false_eq_true, if_false, hr]

/-- The first interrupt of a request that writes. -/
theorem begin_write_plays (s : I2c) (hmode : s.obj.isWriteMode = true)
    (hcount : 0 < s.obj.writeDataCount) (hw : s.obj.writeData.isSome = true)
    (hr : 0 < s.obj.readDataCount → s.obj.readData.isSome = true) :
    (I2cLoop.after (i2cBegin s)).Plays (.start :: s.obj.writeAddress.map .tx ++ s.dataScript) := by
  unfold i2cBegin I2cObject.writeAddress
  rw [if_pos (.inl hcount)]
  cases s.obj.is10BitAddressMode with
  | true =>
    refine after_plays rfl ?_ ⟨rfl, fun hc => I2cHostState.noConfusion hc, ?_, ?_,
      fun _ => hw, hr⟩
    · simp only [I2c.plan, I2c.setState, hmode, if_true]
      rfl
    · simp [I2cObject.reading, I2c.setState, hmode]
    · rintro (hc | ⟨hc, -⟩) <;> cases hc
  | false =>
    refine after_plays rfl ?_ ⟨rfl, fun hc => I2cHostState.noConfusion hc, ?_, ?_,
      fun _ => hw, hr⟩
    · simp only [I2c.plan, I2c.setState, I2c.addressedScript, hmode, if_true]
      rfl
    · simp [I2cObject.reading, I2c.setState, hmode]
    · rintro (hc | ⟨hc, -⟩) <;> cases hc

/-- The first interrupt of a request that only reads. -/
theorem begin_read_plays (s : I2c) (hmode : s.obj.isWriteMode = false)
    (hzero : s.obj.writeDataCount = 0) (hcount : 0 < s.obj.readDataCount)
    (hr : s.obj.readData.isSome = true) (herror : s.obj.error = .none) :
    (I2cLoop.after (i2cBegin s)).Plays
      (.start :: .tx (if s.obj.is10BitAddressMode then s.obj.clientAddressHigh
          else s.obj.clientAddressLow) :: readScript s.obj.readDataCount.toNat) := by
  have hw : ¬ 0 < s.obj.writeDataCount := (not_pos _).mpr hzero
  unfold i2cBegin
  rw [if_pos (.inr ⟨hcount, herror⟩)]
  cases s.obj.is10BitAddressMode with
  | true =>
    refine after_plays rfl ?_ ⟨rfl, fun hc => I2cHostState.noConfusion hc,
      fun _ => ⟨hzero, hcount⟩, ?_, fun hc => absurd hc hw, fun _ => hr⟩
    · simp only [I2c.plan, I2c.setState, hmode, if_true, Bool.false_eq_true, if_false]
      rfl
    · rintro (hc | ⟨hc, -⟩) <;> cases hc
  | false =>
    refine after_plays rfl ?_ ⟨rfl, fun hc => I2cHostState.noConfusion hc,
      fun _ => ⟨hzero, hcount⟩, ?_, fun hc => absurd hc hw, fun _ => hr⟩
    · simp only [I2c.plan, I2c.setState, I2c.addressedScript, hmode, Bool.false_eq_true, if_false]
      rfl
    · rintro (hc | ⟨hc, -⟩) <;> cases hc

theorem addressConfiguration_frame (o : I2cObject) (address : UInt16) (writeMode : Bool) :
    (i2c1AddressConfiguration o address writeMode).state = o.state ∧
      (i2c1AddressConfiguration o address writeMode).error = o.error ∧
      (i2c1AddressConfiguration o address writeMode).isWriteMode = writeMode := by
  unfold i2c1AddressConfiguration
  simp only
  split <;> exact ⟨rfl, rfl, rfl⟩

/-- The interrupt that a request raises, no collision being reported. -/
theorem interrupt_idle (s : I2c) (r : I2cRegs) (hstate : s.obj.state = .idle) (hbcl : r.bcl = false)
    (hiwcol : r.iwcol = false) : i2c1Interrupt s r = i2cBegin s := by
  unfold i2c1Interrupt i2c1HostDataProcess
  rw [if_neg (by simp [hbcl]), if_neg (by simp [hiwcol]), hstate]

theorem accepts_iff (o : I2cObject) (address : UInt16) :
    o.accepts address = true ↔ o.state = .idle ∧ address ≤ 0x3FF := by
  unfold I2cObject.accepts
  rw [Bool.and_eq_true, decide_eq_true_iff, decide_eq_true_iff]

theorem bufferOk_iff (data : Option Nat) (n : UInt32) :
    bufferOk data n = true ↔ data.isSome = true ∧ 0 < n := by
  unfold bufferOk
  rw [Bool.and_eq_true, decide_eq_true_iff]

/-- What an accepted request leaves in `i2cObj`. -/
def I2cRequest.fillIn (o : I2cObject) : I2cRequest → I2cObject
  | .write address data dataLength =>
    { i2c1AddressConfiguration o address true with
      writeData := data, writeDataCount := dataLength, readData := .none, readDataCount := 0 }
  | .read address data dataLength =>
    { i2c1AddressConfiguration o address false with
      readData := data, readDataCount := dataLength, writeData := .none, writeDataCount := 0 }
  | .writeRead address writeData writeLength readData readLength =>
    { i2c1AddressConfiguration o address true with
      writeData := writeData, writeDataCount := writeLength,
      readData := readData, readDataCount := readLength }

def I2cRequest.address : I2cRequest → UInt16
  | .write address _ _ | .read address _ _ | .writeRead address _ _ _ _ => address

/-- The buffers are there. -/
def I2cRequest.buffersOk : I2cRequest → Bool
  | .write _ data dataLength | .read _ data dataLength => bufferOk data dataLength
  | .writeRead _ writeData writeLength readData readLength =>
    bufferOk writeData writeLength && bufferOk readData readLength

/-- A request is accepted if the driver is idle and it makes sense. -/
theorem i2cRequest_cases (s : I2c) (r : I2cRegs) (req : I2cRequest) :
    ((i2cRequest s r req).2.1 = true ∧ (s.obj.state = .idle ∧ req.address ≤ 0x3FF) ∧
        req.buffersOk = true ∧ (i2cRequest s r req).1 = { s with obj := req.fillIn s.obj }) ∨
      (i2cRequest s r req).2.1 = false ∧ (i2cRequest s r req).1 = s := by
  cases req with
  | write address data n =>
    simp only [i2cRequest, i2c1Write, I2cRequest.address, I2cRequest.buffersOk]
    split
    · next hc =>
      rw [Bool.and_eq_true, accepts_iff] at hc
      exact .inl ⟨rfl, hc.1, hc.2, rfl⟩
    · exact .inr ⟨rfl, rfl⟩
  | read address data n =>
    simp only [i2cRequest, i2c1Read, I2cRequest.address, I2cRequest.buffersOk]
    split
    · next hc =>
      rw [Bool.and_eq_true, accepts_iff] at hc
      exact .inl ⟨rfl, hc.1, hc.2, rfl⟩
    · exact .inr ⟨rfl, rfl⟩
  | writeRead address writeData writeLength readData readLength =>
    simp only [i2cRequest, i2c1WriteRead, I2cRequest.address, I2cRequest.buffersOk, Bool.and_assoc]
    split
    · next hc =>
      rw [Bool.and_eq_true, accepts_iff] at hc
      exact .inl ⟨rfl, hc.1, hc.2, rfl⟩
    · exact .inr ⟨rfl, rfl⟩

/-- Where the bytes received are stored. -/
def I2cRequest.target : I2cRequest → Option Nat
  | .write _ _ _ => none
  | .read _ data _ => data
  | .writeRead _ _ _ readData _ => readData

theorem fillIn_frame (o : I2cObject) (req : I2cRequest) :
    (req.fillIn o).state = o.state ∧ (req.fillIn o).error = o.error ∧
      (req.fillIn o).readData = req.target := by
  cases req with
  | write address data n =>
    obtain ⟨hstate, herror, -⟩ := addressConfiguration_frame o address true
    exact ⟨hstate, herror, rfl⟩
  | read address data n =>
    obtain ⟨hstate, herror, -⟩ := addressConfiguration_frame o address false
    exact ⟨hstate, herror, rfl⟩
  | writeRead address writeData writeLength readData readLength =>
    obtain ⟨hstate, herror, -⟩ := addressConfiguration_frame o address true
    exact ⟨hstate, herror, rfl⟩

/-- After the interrupt that it raises, a request is played as its script. -/
theorem request_plays (s : I2c) (r r' : I2cRegs) (req : I2cRequest) (hclean : s.obj.error = .none)
    (hacc : (i2cRequest s r req).2.1 = true) (hbcl : r'.bcl = false) (hiwcol : r'.iwcol = false) :
    (I2cLoop.after (i2c1Interrupt (i2cRequest s r req).1 r')).Plays (req.script s.mem) := by
  rcases i2cRequest_cases s r req with ⟨-, ⟨hidle, haddr⟩, hbuf, hnew⟩ | ⟨hfalse, -⟩
  · rw [hnew]
    cases req with
    | write address data n =>
      obtain ⟨hdata, hpos⟩ := (bufferOk_iff data n).mp hbuf
      obtain ⟨hstate, -, hmode⟩ := addressConfiguration_frame s.obj address true
      obtain ⟨hbytes, -⟩ := addressConfiguration_write s.obj address haddr
      rw [interrupt_idle _ r' (hstate.trans hidle) hbcl hiwcol]
      have h := begin_write_plays { s with obj := (I2cRequest.write address data n).fillIn s.obj }
        hmode hpos hdata nofun
      have hscript : (I2cRequest.write address data n).script s.mem =
          .start :: (i2c1AddressConfiguration s.obj address true).writeAddress.map .tx ++
            ((bytesAt s.mem (data.getD 0) n.toNat).map .tx ++ [.stop]) := by
        rw [hbytes]
        simp [I2cRequest.script]
      rw [hscript]
      exact h
    | read address data n =>
      obtain ⟨hdata, hpos⟩ := (bufferOk_iff data n).mp hbuf
      obtain ⟨hstate, herror, hmode⟩ := addressConfiguration_frame s.obj address false
      have hbytes := addressConfiguration_read s.obj address haddr
      rw [interrupt_idle _ r' (hstate.trans hidle) hbcl hiwcol]
      have h := begin_read_plays { s with obj := (I2cRequest.read address data n).fillIn s.obj }
        hmode rfl hpos hdata (herror.trans hclean)
      have hscript : (I2cRequest.read address data n).script s.mem =
          .start :: ([if (i2c1AddressConfiguration s.obj address false).is10BitAddressMode
            then (i2c1AddressConfiguration s.obj address false).clientAddressHigh
            else (i2c1AddressConfiguration s.obj address false).clientAddressLow].map .tx ++
              readScript n.toNat) := by
        rw [hbytes]
        rfl
      rw [hscript]
      exact h
    | writeRead address writeData writeLength readData readLength =>
      obtain ⟨hw, hr⟩ := Bool.and_eq_true_iff.mp hbuf
      obtain ⟨hwdata, hwpos⟩ := (bufferOk_iff writeData writeLength).mp hw
      obtain ⟨hrdata, hrpos⟩ := (bufferOk_iff readData readLength).mp hr
      obtain ⟨hstate, -, hmode⟩ := addressConfiguration_frame s.obj address true
      obtain ⟨hwbytes, hrbytes⟩ := addressConfiguration_write s.obj address haddr
      rw [interrupt_idle _ r' (hstate.trans hidle) hbcl hiwcol]
      have h := begin_write_plays { s with obj :=
        (I2cRequest.writeRead address writeData writeLength readData readLength).fillIn s.obj }
        hmode hwpos hwdata (fun _ => hrdata)
      have hne : readLength ≠ 0 := fun hc => (not_pos _).mpr hc hrpos
      have hscript :
          (I2cRequest.writeRead address writeData writeLength readData readLength).script s.mem =
            .start :: (i2c1AddressConfiguration s.obj address true).writeAddress.map .tx ++
              ((bytesAt s.mem (writeData.getD 0) writeLength.toNat).map .tx ++
                if readLength = 0 then [.stop]
                else .restart :: (i2c1AddressConfiguration s.obj address true).readAddress.map .tx ++
                  readScript readLength.toNat) := by
        rw [hwbytes, hrbytes, if_neg hne]
        simp [I2cRequest.script]
      rw [hscript]
      exact h
  · rw [hfalse] at hacc
    cases hacc

end CuriosityT1S
