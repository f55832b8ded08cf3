import Mcproxy.Numeral.Minifloat

namespace Mcproxy

open Numeral.Minifloat

section Codes

-- The floating point codes of an interval: the highest bit set gives the exponent.
def qqi_to_qqic (sec : ℕ) : UInt8 :=
  if sec < 128 then .ofNat sec
  else
    match [15, 14, 13, 12, 11, 10, 9, 8, 7].find? (sec.testBit ·) with
    | some pos =>
      let exp := pos - 5 + 1
      let mant := (sec &&& (0xF <<< exp)) >>> exp
      .ofNat ((1 <<< 7) ||| ((exp - 3) <<< 4) ||| mant)
    | none => 0

def maxrespi_to_maxrespc_igmpv3 (msec : ℕ) : UInt8 := qqi_to_qqic (msec / 100)

-- The places the search tries. `1 << 31` is negative and tests all the bits from there on.
def mldv2_bit (msec pos : ℕ) : Bool := if pos = 31 then decide (2 ^ 31 ≤ msec) else msec.testBit pos

def maxrespi_to_maxrespc_mldv2 (msec : ℕ) : UInt16 :=
  if msec < 32767 then .ofNat msec
  else
    match [31, 30, 29, 28, 27, 26, 25, 24, 23, 22, 21, 20, 19, 18, 17, 16, 15].find?
        (mldv2_bit msec) with
    | some pos =>
      let exp := pos - 12
      let mant := (msec &&& (0xFFF <<< exp)) >>> exp
      .ofNat ((1 <<< 15) ||| ((exp - 3) <<< 12) ||| mant)
    | none => 0

def qqic_to_qqi (qqic : UInt8) : ℕ :=
  if qqic.toNat &&& 0x80 ≠ 0 then
    let exp := (qqic.toNat &&& 0x70) >>> 0x4
    let mant := qqic.toNat &&& 0xF
    (mant ||| 0x10) <<< (exp + 3)
  else qqic.toNat

def maxrespc_igmpv3_to_maxrespi (max_resp_code : UInt8) : ℕ := qqic_to_qqi max_resp_code * 100

def maxrespc_mldv2_to_maxrespi (max_resp_code : UInt16) : ℕ :=
  if max_resp_code.toNat &&& 0x8000 ≠ 0 then
    let exp := (max_resp_code.toNat &&& 0x7000) >>> 12
    let mant := max_resp_code.toNat &&& 0xFFF
    (mant ||| 0x1000) <<< (exp + 3)
  else max_resp_code.toNat

end Codes

section Decoders

theorem qqic_to_qqi_eq (qqic : UInt8) : qqic_to_qqi qqic = decode 4 3 qqic.toNat :=
  decode_fields (w := 4) (e := 3) qqic.toNat_lt

theorem maxrespc_mldv2_to_maxrespi_eq (max_resp_code : UInt16) :
    maxrespc_mldv2_to_maxrespi max_resp_code = decode 12 3 max_resp_code.toNat :=
  decode_fields (w := 12) (e := 3) max_resp_code.toNat_lt

theorem mem_range_qqic_to_qqi (v : ℕ) : v ∈ Set.range qqic_to_qqi ↔ Represents 4 3 v := by
  constructor
  · rintro ⟨qqic, rfl⟩
    exact ⟨qqic.toNat, qqic.toNat_lt, (qqic_to_qqi_eq qqic).symm⟩
  · rintro ⟨c, hc, rfl⟩
    refine ⟨UInt8.ofNat c, ?_⟩
    rw [qqic_to_qqi_eq, UInt8.toNat_ofNat', Nat.mod_eq_of_lt hc]

theorem mem_range_maxrespc_mldv2_to_maxrespi (v : ℕ) :
    v ∈ Set.range maxrespc_mldv2_to_maxrespi ↔ Represents 12 3 v := by
  constructor
  · rintro ⟨code, rfl⟩
    exact ⟨code.toNat, code.toNat_lt, (maxrespc_mldv2_to_maxrespi_eq code).symm⟩
  · rintro ⟨c, hc, rfl⟩
    refine ⟨UInt16.ofNat c, ?_⟩
    rw [maxrespc_mldv2_to_maxrespi_eq, UInt16.toNat_ofNat', Nat.mod_eq_of_lt hc]

end Decoders

section Encoders

-- The search sees the lowest sixteen bits only.
theorem qqi_to_qqic_of_bit {sec pos : ℕ} (hsec : 128 ≤ sec) (hpos : 7 ≤ pos)
    (hle : 2 ^ pos ≤ sec % 2 ^ 16) (hlt : sec % 2 ^ 16 < 2 ^ (pos + 1)) :
    pos < 16 ∧
      (qqi_to_qqic sec).toNat = pack 4 3 ((pos - 7) % 8) (sec / 2 ^ (pos - 4) % 16) := by
  have hpos' : pos < 16 := highest_bit_lt hle (Nat.mod_lt _ (by decide))
  have hbit : ∀ i < 16, sec.testBit i = (sec % 2 ^ 16).testBit i := by
    intro i hi
    rw [Nat.testBit_mod_two_pow, decide_eq_true hi, Bool.true_and]
  have hfind : [15, 14, 13, 12, 11, 10, 9, 8, 7].find? (sec.testBit ·) = some pos := by
    apply find?_eq_of_first (by decide) (by simp; omega)
    · rw [hbit pos hpos']
      exact testBit_of_highest hle hlt
    · intro i hi hlater
      have hi' : i < 16 := by
        simp at hi
        omega
      rw [hbit i hi']
      exact Nat.testBit_lt_two_pow (hlt.trans_le (Nat.pow_le_pow_right (by omega) hlater))
  have hmant : (sec &&& (0xF <<< (pos - 4))) >>> (pos - 4) = sec / 2 ^ (pos - 4) % 16 :=
    field_eq sec (pos - 4) 4
  have hpack : ((1 <<< 7) ||| ((pos - 7) <<< 4) ||| sec / 2 ^ (pos - 4) % 16) % 2 ^ 8 =
      pack 4 3 ((pos - 7) % 8) (sec / 2 ^ (pos - 4) % 16) :=
    pack_or_mod (w := 4) (e := 3) (Nat.mod_lt _ (by decide))
  refine ⟨hpos', ?_⟩
  rw [qqi_to_qqic, if_neg (by omega), hfind]
  simp only [show pos - 5 + 1 = pos - 4 by omega, show pos - 4 - 3 = pos - 7 by omega, hmant,
    UInt8.toNat_ofNat']
  exact hpack

theorem qqi_to_qqic_of_no_bit {sec : ℕ} (hsec : 128 ≤ sec) (h : sec % 2 ^ 16 < 2 ^ 7) :
    qqi_to_qqic sec = 0 := by
  have hfind : [15, 14, 13, 12, 11, 10, 9, 8, 7].find? (sec.testBit ·) = none := by
    rw [List.find?_eq_none]
    intro i hi
    have hi' : i < 16 ∧ 7 ≤ i := by
      simp at hi
      omega
    have hbit : (sec % 2 ^ 16).testBit i = false :=
      Nat.testBit_lt_two_pow (h.trans_le (Nat.pow_le_pow_right (by omega) hi'.2))
    rw [Nat.testBit_mod_two_pow, decide_eq_true hi'.1, Bool.true_and] at hbit
    simp [hbit]
  rw [qqi_to_qqic, if_neg (by omega), hfind]

-- Below the bit the exponent has no room for, the code is right; above it, it is right only where
-- the lower bits happen to be those of the largest value.
theorem qqi_to_qqic_rounds_down_iff (sec : ℕ) :
    RoundsDown 4 3 sec (qqi_to_qqic sec).toNat ↔
      sec < 2 ^ 15 ∨ 31744 ≤ sec % 2 ^ 16 ∧ sec % 2 ^ 16 < 2 ^ 15 := by
  by_cases hsec : sec < 128
  · have hcode : (qqi_to_qqic sec).toNat = sec := by
      rw [qqi_to_qqic, if_pos hsec, UInt8.toNat_ofNat', Nat.mod_eq_of_lt (by omega)]
    rw [hcode]
    exact ⟨fun _ => Or.inl (by omega), fun _ => RoundsDown.self hsec⟩
  by_cases hbits : sec % 2 ^ 16 < 2 ^ 7
  · rw [qqi_to_qqic_of_no_bit (by omega) hbits]
    refine ⟨fun h => ?_, fun h => by omega⟩
    have hlt : sec < 1 := h.lt_next (by decide)
    omega
  obtain ⟨pos, hle, hlt⟩ := exists_highest_bit (n := sec % 2 ^ 16) (by omega)
  have hpos : 7 ≤ pos := le_highest_bit hlt (Nat.le_of_not_lt hbits)
  obtain ⟨hpos', hcode⟩ := qqi_to_qqic_of_bit (by omega) hpos hle hlt
  rw [hcode]
  by_cases hsmall : sec < 2 ^ 15
  · have hsame : sec % 2 ^ 16 = sec := Nat.mod_eq_of_lt (by omega)
    rw [hsame] at hle hlt
    have hpos'' : pos < 15 := highest_bit_lt hle hsmall
    have hround := RoundsDown.of_highest_bit (w := 4) (e := 3) (by omega) hpos hle hlt
    rw [Nat.sub_sub] at hround
    rw [Nat.mod_eq_of_lt (by omega)]
    exact ⟨fun _ => Or.inl hsmall, fun _ => hround⟩
  · -- every value this large is rounded to the last code
    have htop : RoundsDown 4 3 sec 255 :=
      RoundsDown.top_iff.mpr (show 31744 ≤ sec by omega)
    have hiff : RoundsDown 4 3 sec (pack 4 3 ((pos - 7) % 8) (sec / 2 ^ (pos - 4) % 16)) ↔
        pack 4 3 ((pos - 7) % 8) (sec / 2 ^ (pos - 4) % 16) = 255 :=
      ⟨fun h => h.unique htop, fun h => h ▸ htop⟩
    rw [hiff, pack]
    rcases Nat.lt_or_ge pos 14 with h | h
    · have hpow : 2 ^ (pos + 1) ≤ 2 ^ 14 := Nat.pow_le_pow_right (by omega) (by omega)
      omega
    · obtain rfl | rfl : pos = 14 ∨ pos = 15 := by omega
      · omega
      · omega

theorem maxrespi_to_maxrespc_mldv2_of_bit {msec pos : ℕ} (hmsec : 32767 ≤ msec) (hpos : 15 ≤ pos)
    (hpos' : pos < 32) (hbit : mldv2_bit msec pos = true)
    (hbefore : ∀ i < 32, pos < i → mldv2_bit msec i = false) :
    (maxrespi_to_maxrespc_mldv2 msec).toNat =
      pack 12 3 ((pos - 15) % 8) (msec / 2 ^ (pos - 12) % 4096) := by
  have hfind : [31, 30, 29, 28, 27, 26, 25, 24, 23, 22, 21, 20, 19, 18, 17, 16, 15].find?
      (mldv2_bit msec) = some pos := by
    apply find?_eq_of_first (by decide) (by simp; omega) hbit
    intro i hi
    simp at hi
    exact hbefore i (by omega)
  have hmant : (msec &&& (0xFFF <<< (pos - 12))) >>> (pos - 12) = msec / 2 ^ (pos - 12) % 4096 :=
    field_eq msec (pos - 12) 12
  have hpack : ((1 <<< 15) ||| ((pos - 15) <<< 12) ||| msec / 2 ^ (pos - 12) % 4096) % 2 ^ 16 =
      pack 12 3 ((pos - 15) % 8) (msec / 2 ^ (pos - 12) % 4096) :=
    pack_or_mod (w := 12) (e := 3) (Nat.mod_lt _ (by decide))
  rw [maxrespi_to_maxrespc_mldv2, if_neg (by omega), hfind]
  simp only [show pos - 12 - 3 = pos - 15 by omega, hmant, UInt16.toNat_ofNat']
  exact hpack

-- Below 2 ^ 31 the search finds the highest bit.
theorem maxrespi_to_maxrespc_mldv2_of_highest_bit {msec pos : ℕ} (hmsec : 32768 ≤ msec)
    (hlt : msec < 2 ^ 31) (hle : 2 ^ pos ≤ msec) (hlt' : msec < 2 ^ (pos + 1)) :
    15 ≤ pos ∧ pos < 31 ∧ (maxrespi_to_maxrespc_mldv2 msec).toNat =
      pack 12 3 ((pos - 15) % 8) (msec / 2 ^ (pos - 12) % 4096) := by
  have hpos : 15 ≤ pos := le_highest_bit hlt' hmsec
  have hpos' : pos < 31 := highest_bit_lt hle hlt
  refine ⟨hpos, hpos', maxrespi_to_maxrespc_mldv2_of_bit (by omega) hpos (by omega) ?_ ?_⟩
  · rw [mldv2_bit, if_neg (by omega)]
    exact testBit_of_highest hle hlt'
  · intro i _ hlater
    rw [mldv2_bit]
    split_ifs
    · exact decide_eq_false (by omega)
    · exact Nat.testBit_lt_two_pow (hlt'.trans_le (Nat.pow_le_pow_right (by omega) hlater))

theorem maxrespi_to_maxrespc_mldv2_rounds_down_iff (msec : ℕ) :
    RoundsDown 12 3 msec (maxrespi_to_maxrespc_mldv2 msec).toNat ↔
      msec ≠ 32767 ∧ (msec < 2 ^ 23 ∨ 2 ^ 31 - 2 ^ 18 ≤ msec ∧ msec < 2 ^ 31) := by
  by_cases hlinear : msec < 32767
  · have hcode : (maxrespi_to_maxrespc_mldv2 msec).toNat = msec := by
      rw [maxrespi_to_maxrespc_mldv2, if_pos hlinear, UInt16.toNat_ofNat',
        Nat.mod_eq_of_lt (by omega)]
    rw [hcode]
    exact ⟨fun _ => by omega, fun _ => RoundsDown.self (show msec < 32768 by omega)⟩
  rcases Nat.eq_or_lt_of_le (Nat.le_of_not_lt hlinear) with rfl | hfloat
  · -- neither below the switch point nor with a bit the search could find
    have hcode : (maxrespi_to_maxrespc_mldv2 32767).toNat = 0 := by decide +kernel
    rw [hcode]
    refine ⟨fun h => ?_, fun h => absurd rfl h.1⟩
    have hlt : 32767 < 1 := h.lt_next (by decide)
    omega
  have htop : 8387584 ≤ msec → ∀ c, RoundsDown 12 3 msec c ↔ c = 65535 := fun hle c =>
    have htop : RoundsDown 12 3 msec 65535 := RoundsDown.top_iff.mpr hle
    ⟨fun h => h.unique htop, fun h => h ▸ htop⟩
  by_cases hhuge : msec < 2 ^ 31
  · obtain ⟨pos, hle, hlt⟩ := exists_highest_bit (n := msec) (by omega)
    obtain ⟨hpos, hpos', hcode⟩ :=
      maxrespi_to_maxrespc_mldv2_of_highest_bit (by omega) hhuge hle hlt
    rw [hcode]
    by_cases hsmall : msec < 2 ^ 23
    · have hpos'' : pos < 23 := highest_bit_lt hle hsmall
      have hround := RoundsDown.of_highest_bit (w := 12) (e := 3) (by omega) hpos hle hlt
      rw [Nat.sub_sub] at hround
      rw [Nat.mod_eq_of_lt (by omega)]
      exact ⟨fun _ => by omega, fun _ => hround⟩
    · have hpos'' : 23 ≤ pos := le_highest_bit hlt (Nat.le_of_not_lt hsmall)
      rw [htop (by omega), pack]
      rcases Nat.lt_or_ge pos 30 with h | h
      · have hpow : 2 ^ (pos + 1) ≤ 2 ^ 30 := Nat.pow_le_pow_right (by omega) (by omega)
        omega
      · obtain rfl : pos = 30 := by omega
        omega
  · have hcode : (maxrespi_to_maxrespc_mldv2 msec).toNat =
        pack 12 3 ((31 - 15) % 8) (msec / 2 ^ (31 - 12) % 4096) :=
      maxrespi_to_maxrespc_mldv2_of_bit (by omega) (by omega) (by omega)
        (decide_eq_true (show 2 ^ 31 ≤ msec by omega)) (by omega)
    rw [hcode, htop (by omega), pack]
    omega

end Encoders

section Rounding

-- What an encoder with its decoder makes of a number is the largest number with a code that does
-- not exceed it.
def RoundsDownAt {C : Type*} (to_code : ℕ → C) (from_code : C → ℕ) (n : ℕ) : Prop :=
  IsGreatest {v | v ∈ Set.range from_code ∧ v ≤ n} (from_code (to_code n))

theorem qqic_roundsDownAt_iff (sec : ℕ) :
    RoundsDownAt qqi_to_qqic qqic_to_qqi sec ↔ RoundsDown 4 3 sec (qqi_to_qqic sec).toNat := by
  simp only [RoundsDownAt, mem_range_qqic_to_qqi, qqic_to_qqi_eq]
  exact ⟨RoundsDown.of_isGreatest (qqi_to_qqic sec).toNat_lt, RoundsDown.isGreatest⟩

theorem mldv2_roundsDownAt_iff (msec : ℕ) :
    RoundsDownAt maxrespi_to_maxrespc_mldv2 maxrespc_mldv2_to_maxrespi msec ↔
      RoundsDown 12 3 msec (maxrespi_to_maxrespc_mldv2 msec).toNat := by
  simp only [RoundsDownAt, mem_range_maxrespc_mldv2_to_maxrespi, maxrespc_mldv2_to_maxrespi_eq]
  exact ⟨RoundsDown.of_isGreatest (maxrespi_to_maxrespc_mldv2 msec).toNat_lt,
    RoundsDown.isGreatest⟩

-- The codes of tenths of a second are those of seconds.
theorem igmpv3_roundsDownAt_iff (msec : ℕ) :
    RoundsDownAt maxrespi_to_maxrespc_igmpv3 maxrespc_igmpv3_to_maxrespi msec ↔
      RoundsDownAt qqi_to_qqic qqic_to_qqi (msec / 100) := by
  have hle : ∀ v, v * 100 ≤ msec ↔ v ≤ msec / 100 := fun v =>
    (Nat.le_div_iff_mul_le (by decide)).symm
  simp only [RoundsDownAt, IsGreatest, upperBounds, Set.mem_ofPred_eq, Set.mem_range,
    maxrespc_igmpv3_to_maxrespi, maxrespi_to_maxrespc_igmpv3, hle]
  constructor
  · rintro ⟨⟨-, hmem⟩, hmax⟩
    refine ⟨⟨⟨_, rfl⟩, hmem⟩, ?_⟩
    rintro v ⟨⟨qqic, rfl⟩, hv⟩
    have := hmax ⟨⟨qqic, rfl⟩, (hle _).mpr hv⟩
    omega
  · rintro ⟨⟨-, hmem⟩, hmax⟩
    refine ⟨⟨⟨_, rfl⟩, hmem⟩, ?_⟩
    rintro v ⟨⟨qqic, rfl⟩, hv⟩
    exact Nat.mul_le_mul_right 100 (hmax ⟨⟨qqic, rfl⟩, (hle _).mp hv⟩)

end Rounding

section Qqic

-- The code of an interval, compared with the codes of all shorter ones.
structure QqicRoundsDown (sec : ℕ) : Prop where
  largest : RoundsDownAt qqi_to_qqic qqic_to_qqi sec
  exact_below : sec < 128 → qqic_to_qqi (qqi_to_qqic sec) = sec
  saturated : 31744 ≤ sec → qqic_to_qqi (qqi_to_qqic sec) = 31744
  mono : ∀ shorter ≤ sec, qqi_to_qqic shorter ≤ qqi_to_qqic sec

-- The range of the format, and above it the numbers whose lowest sixteen bits are those of a
-- number that is rounded to the largest value.
def qqi_in_range (sec : ℕ) : Prop :=
  sec < 2 ^ 15 ∨ 31744 ≤ sec % 2 ^ 16 ∧ sec % 2 ^ 16 < 2 ^ 15

instance (sec : ℕ) : Decidable (qqi_in_range sec) := inferInstanceAs (Decidable (_ ∨ _))

theorem qqic_saturated {sec : ℕ} (h : RoundsDown 4 3 sec (qqi_to_qqic sec).toNat)
    (hsec : 31744 ≤ sec) : (qqi_to_qqic sec).toNat = 255 :=
  h.unique (RoundsDown.top_iff.mpr hsec)

theorem qqi_to_qqic_mono {shorter sec : ℕ} (hsec : qqi_in_range sec) (hle : shorter ≤ sec) :
    qqi_to_qqic shorter ≤ qqi_to_qqic sec := by
  have hround := (qqi_to_qqic_rounds_down_iff sec).mpr hsec
  rw [UInt8.le_iff_toNat_le]
  by_cases htop : 31744 ≤ sec
  · have hlt := (qqi_to_qqic shorter).toNat_lt
    rw [qqic_saturated hround htop]
    omega
  · exact ((qqi_to_qqic_rounds_down_iff shorter).mpr (Or.inl (by omega))).mono hround hle

theorem qqic_rounds_down_iff (sec msec : ℕ) :
    (QqicRoundsDown sec ↔ qqi_in_range sec) ∧
      (RoundsDownAt maxrespi_to_maxrespc_igmpv3 maxrespc_igmpv3_to_maxrespi msec ↔
        qqi_in_range (msec / 100)) := by
  constructor
  · constructor
    · intro h
      exact (qqi_to_qqic_rounds_down_iff sec).mp ((qqic_roundsDownAt_iff sec).mp h.largest)
    · intro hrange
      have hround := (qqi_to_qqic_rounds_down_iff sec).mpr hrange
      refine ⟨(qqic_roundsDownAt_iff sec).mpr hround, ?_, ?_, ?_⟩
      · intro hsec
        rw [qqic_to_qqi_eq, hround.unique (RoundsDown.self hsec), decode_of_lt hsec]
      · intro hsec
        rw [qqic_to_qqi_eq, qqic_saturated hround hsec]
        rfl
      · intro shorter hle
        exact qqi_to_qqic_mono hrange hle
  · rw [igmpv3_roundsDownAt_iff, qqic_roundsDownAt_iff]
    exact qqi_to_qqic_rounds_down_iff (msec / 100)

-- From 2 ^ 15 seconds on the exponent overflows into the flag.
theorem long_interval_gets_short_code :
    qqic_to_qqi (qqi_to_qqic 32768) = 128 ∧ ¬ QqicRoundsDown 32768 := by
  have hvalue : qqic_to_qqi (qqi_to_qqic 32768) = 128 := by decide +kernel
  refine ⟨hvalue, fun h => ?_⟩
  have := h.saturated (by decide)
  omega

end Qqic

section Mldv2

structure Mldv2RoundsDown (msec : ℕ) : Prop where
  largest : RoundsDownAt maxrespi_to_maxrespc_mldv2 maxrespc_mldv2_to_maxrespi msec
  exact_below : msec ≤ 32767 → maxrespc_mldv2_to_maxrespi (maxrespi_to_maxrespc_mldv2 msec) = msec
  mono : ∀ shorter ≤ msec, maxrespi_to_maxrespc_mldv2 shorter ≤ maxrespi_to_maxrespc_mldv2 msec

def maxrespi_in_range (msec : ℕ) : Prop :=
  msec ≠ 32767 ∧ (msec < 2 ^ 23 ∨ 2 ^ 31 - 2 ^ 18 ≤ msec ∧ msec < 2 ^ 31)

instance (msec : ℕ) : Decidable (maxrespi_in_range msec) := inferInstanceAs (Decidable (_ ∧ _))

-- The delay that is left out has the smallest code, so that it is no exception for those above it.
theorem maxrespi_to_maxrespc_mldv2_mono {shorter msec : ℕ} (hmsec : maxrespi_in_range msec)
    (hle : shorter ≤ msec) :
    maxrespi_to_maxrespc_mldv2 shorter ≤ maxrespi_to_maxrespc_mldv2 msec := by
  have hround := (maxrespi_to_maxrespc_mldv2_rounds_down_iff msec).mpr hmsec
  rw [UInt16.le_iff_toNat_le]
  by_cases htop : 8387584 ≤ msec
  · have hlt := (maxrespi_to_maxrespc_mldv2 shorter).toNat_lt
    rw [hround.unique (RoundsDown.top_iff.mpr htop)]
    exact Nat.le_of_lt_succ hlt
  · by_cases hleft : shorter = 32767
    · rw [hleft]
      exact (by decide +kernel : (maxrespi_to_maxrespc_mldv2 32767).toNat = 0).le.trans
        (Nat.zero_le _)
    · have hshorter : maxrespi_in_range shorter := ⟨hleft, Or.inl (by omega)⟩
      exact ((maxrespi_to_maxrespc_mldv2_rounds_down_iff shorter).mpr hshorter).mono hround hle

theorem mldv2_rounds_down_iff (msec : ℕ) : Mldv2RoundsDown msec ↔ maxrespi_in_range msec := by
  constructor
  · intro h
    exact (maxrespi_to_maxrespc_mldv2_rounds_down_iff msec).mp
      ((mldv2_roundsDownAt_iff msec).mp h.largest)
  · intro hrange
    have hround := (maxrespi_to_maxrespc_mldv2_rounds_down_iff msec).mpr hrange
    refine ⟨(mldv2_roundsDownAt_iff msec).mpr hround, ?_, ?_⟩
    · intro hmsec
      have hlinear : msec < 2 ^ (12 + 3) := by omega
      rw [maxrespc_mldv2_to_maxrespi_eq, hround.unique (RoundsDown.self hlinear),
        decode_of_lt hlinear]
    · intro shorter hle
      exact maxrespi_to_maxrespc_mldv2_mono hrange hle

-- The last delay of the linear part gets the code of an immediate answer.
theorem last_linear_delay_is_lost :
    maxrespc_mldv2_to_maxrespi (maxrespi_to_maxrespc_mldv2 32767) = 0 ∧
      ¬ Mldv2RoundsDown 32767 := by
  have hvalue : maxrespc_mldv2_to_maxrespi (maxrespi_to_maxrespc_mldv2 32767) = 0 := by
    decide +kernel
  refine ⟨hvalue, fun h => ?_⟩
  have := h.exact_below (by decide)
  omega

end Mldv2

end Mcproxy
