import Mathlib.Algebra.Group.Nat.Defs
import Mathlib.Data.List.TakeWhile
import Mathlib.Tactic.Common
import Reconcile.Timestamp

/-!
# Times that are stored

A moment of the years that are written in four digits is read back as it was stored: a padded number
ends where its digits do, and the fraction of a second, cut to three, six or nine digits, is whole.
-/

namespace Reconcile

theorem Decimal.digitsValue_eq_ofDigitChars (digits : List Char) :
    digitsValue digits = Nat.ofDigitChars 10 digits 0 :=
  Nat.ofDigitChars_eq_foldl.symm

namespace Timestamp

/-- A moment of the years 0 to 9999. -/
structure IsDated (t : Timestamp) : Prop where
  year : 0 ≤ t.date.year ∧ t.date.year ≤ 9999
  date : t.date.isValid
  hour : t.hour < 24
  minute : t.minute < 60
  second : t.second ≤ 60
  nano : t.nano < 10 ^ 9

/-! ### Numbers in digits -/

variable {width n : Nat}

theorem toList_padded (width n : Nat) : (padded width n).toList =
    List.replicate (width - (Nat.toDigits 10 n).length) '0' ++ Nat.toDigits 10 n := by
  simp only [padded, Decimal.zeros, Nat.toString_eq_ofList_toDigits, String.toList_append,
    String.toList_ofList, String.length_ofList]

theorem isDigit_of_mem_padded {c : Char} (h : c ∈ (padded width n).toList) : c.isDigit := by
  rw [toList_padded, List.mem_append] at h
  obtain hzero | hdigit := h
  · rw [List.eq_of_mem_replicate hzero]
    rfl
  · exact Nat.isDigit_of_mem_toDigits (by decide) (by decide) hdigit

theorem length_padded (hwidth : 0 < width) (h : n < 10 ^ width) :
    (padded width n).toList.length = width := by
  have hlength := (Nat.length_toDigits_le_iff (by decide) hwidth).mpr h
  rw [toList_padded, List.length_append, List.length_replicate]
  omega

theorem digitsValue_padded (width n : Nat) : Decimal.digitsValue (padded width n).toList = n := by
  rw [Decimal.digitsValue_eq_ofDigitChars, toList_padded, Nat.ofDigitChars_append,
    Nat.ofDigitChars_replicate_zero, Nat.mul_zero]
  exact Nat.ofDigitChars_ten_toDigits

theorem number?_padded (hwidth : 0 < width) (h : n < 10 ^ width) (rest : List Char) :
    number? width width ((padded width n).toList ++ rest) = some (n, rest) := by
  have hlength := length_padded hwidth h
  have hdigits : ((padded width n).toList).takeWhile Char.isDigit = (padded width n).toList :=
    List.takeWhile_eq_self_iff.mpr fun c hc => isDigit_of_mem_padded hc
  rw [number?, List.take_left' hlength, hdigits, hlength, if_neg (Nat.lt_irrefl width),
    digitsValue_padded, List.drop_left' hlength]

theorem expect_cons (c : Char) (rest : List Char) : expect c (c :: rest) = some rest := if_pos rfl

/-! ### Fractions of a second -/

variable {c : Char}

theorem fraction?_padded (hwidth : 0 < width) (hnine : width ≤ 9) (h : n < 10 ^ width)
    (hend : c.isDigit = false) (rest : List Char) :
    fraction? ('.' :: ((padded width n).toList ++ c :: rest)) =
      some (n * 10 ^ (9 - width), c :: rest) := by
  have hlength := length_padded hwidth h
  have hdigits : ∀ d ∈ (padded width n).toList, d.isDigit := fun d hd => isDigit_of_mem_padded hd
  have htake : ((padded width n).toList ++ c :: rest).takeWhile Char.isDigit =
      (padded width n).toList := by
    rw [List.takeWhile_append_of_pos hdigits, List.takeWhile_cons_of_neg (by simp [hend]),
      List.append_nil]
  have hdrop : ((padded width n).toList ++ c :: rest).dropWhile Char.isDigit = c :: rest := by
    rw [List.dropWhile_append_of_pos hdigits, List.dropWhile_cons_of_neg (by simp [hend])]
  have hnonempty : (padded width n).toList.isEmpty = false :=
    List.isEmpty_eq_false_iff.mpr (List.ne_nil_of_length_pos (by omega))
  have hwhole : (padded width n).toList.take 9 = (padded width n).toList :=
    List.take_of_length_le (by omega)
  simp only [fraction?, htake, hdrop, hwhole, hnonempty, hlength, digitsValue_padded, Nat.pow_eq,
    Bool.false_eq_true, if_false]

theorem fraction?_of_ne (hpoint : c ≠ '.') (rest : List Char) :
    fraction? (c :: rest) = some (0, c :: rest) := by
  unfold fraction?
  split
  · rename_i heq
    exact absurd (List.cons.inj heq).1 hpoint
  · rfl

theorem fraction?_fraction (h : n < 10 ^ 9) (hend : c.isDigit = false) (hpoint : c ≠ '.')
    (rest : List Char) : fraction? ((fraction n).toList ++ c :: rest) = some (n, c :: rest) := by
  have hcut : ∀ width, 0 < width → width ≤ 9 → n % 10 ^ (9 - width) = 0 →
      fraction? (("." ++ padded width (n / 10 ^ (9 - width))).toList ++ c :: rest) =
        some (n, c :: rest) := by
    intro width hwidth hnine hdivides
    have hsmall : n / 10 ^ (9 - width) < 10 ^ width := by
      rwa [Nat.div_lt_iff_lt_mul (Nat.pow_pos (by decide)), ← Nat.pow_add, Nat.add_sub_cancel' hnine]
    have htext : ("." ++ padded width (n / 10 ^ (9 - width))).toList ++ c :: rest =
        '.' :: ((padded width (n / 10 ^ (9 - width))).toList ++ c :: rest) := by
      simp
    rw [htext, fraction?_padded hwidth hnine hsmall hend,
      Nat.div_mul_cancel (Nat.dvd_of_mod_eq_zero hdivides)]
  unfold fraction
  split_ifs with hzero hmillis hmicros
  · rw [hzero]
    exact fraction?_of_ne hpoint rest
  · exact hcut 3 (by decide) (by decide) hmillis
  · exact hcut 6 (by decide) (by decide) hmicros
  · have hnanos := hcut 9 (by decide) (by decide) (Nat.mod_one n)
    rwa [Nat.sub_self, Nat.pow_zero, Nat.div_one] at hnanos

/-! ### Moments -/

variable {t : Timestamp}

theorem yearText_of_isDated (h : t.IsDated) : yearText t.date.year = padded 4 t.date.year.toNat :=
  if_pos h.year

theorem ofLocal_zero (h : t.IsDated) : ofLocal t.date t.hour t.minute t.second t.nano 0 = t := by
  have hhour := h.hour
  have hminute := h.minute
  have htotal : ¬ ((t.hour : Int) * 60 + t.minute - 0 < 0) := by omega
  have hday : ¬ (1440 ≤ (t.hour : Int) * 60 + t.minute - 0) := by omega
  have hinDay : (((t.hour : Int) * 60 + t.minute - 0) % 1440).toNat = t.hour * 60 + t.minute := by omega
  simp only [ofLocal, htotal, hday, hinDay, if_false]
  have h60 : (t.hour * 60 + t.minute) / 60 = t.hour := by omega
  have hmod : (t.hour * 60 + t.minute) % 60 = t.minute := by omega
  rw [h60, hmod]

theorem ofParts?_zero (h : t.IsDated) :
    ofParts? t.date t.hour t.minute t.second t.nano 0 = some t := by
  rw [ofParts?, if_pos, ofLocal_zero h]
  simp [h.date, h.hour, h.minute, h.second]

theorem toList_stored (h : t.IsDated) : t.stored.toList =
    (padded 4 t.date.year.toNat).toList ++ '-' :: ((padded 2 t.date.month).toList ++
      '-' :: ((padded 2 t.date.day).toList ++ 'T' :: ((padded 2 t.hour).toList ++
      ':' :: ((padded 2 t.minute).toList ++ ':' :: ((padded 2 t.second).toList ++
      ((fraction t.nano).toList ++ '+' :: "00:00".toList)))))) := by
  simp [stored, text, yearText_of_isDated h]

theorem offset?_zero : offset? (expect ':') ('+' :: "00:00".toList) = some (0, []) := by decide

theorem monthLength_le (year : Int) (month : Nat) : CalendarDate.monthLength year month ≤ 31 := by
  unfold CalendarDate.monthLength
  split_ifs <;> omega

/-- The parts of a moment have as many digits as are written. -/
theorem IsDated.fits (h : t.IsDated) : t.date.year.toNat < 10 ^ 4 ∧ t.date.month < 10 ^ 2 ∧
    t.date.day < 10 ^ 2 ∧ t.hour < 10 ^ 2 ∧ t.minute < 10 ^ 2 ∧ t.second < 10 ^ 2 := by
  obtain ⟨hyear, hvalid, hhour, hminute, hsecond, -⟩ := h
  simp only [CalendarDate.isValid, Bool.and_eq_true, decide_eq_true_eq] at hvalid
  have hlength := monthLength_le t.date.year t.date.month
  omega

/-- A moment is read as it was stored, to the nanosecond. -/
theorem ofStored?_stored (h : t.IsDated) : ofStored? t.stored = some t := by
  obtain ⟨hyear, hmonth, hday, hhour, hminute, hsecond⟩ := h.fits
  have hnano := fraction?_fraction h.nano (c := '+') rfl (by decide) "00:00".toList
  have htwo : 0 < 2 := by decide
  rw [ofStored?, toList_stored h]
  refine Option.bind_eq_some_iff.mpr ⟨_, number?_padded (by decide) hyear _, ?_⟩
  refine Option.bind_eq_some_iff.mpr ⟨_, expect_cons _ _, ?_⟩
  refine Option.bind_eq_some_iff.mpr ⟨_, number?_padded htwo hmonth _, ?_⟩
  refine Option.bind_eq_some_iff.mpr ⟨_, expect_cons _ _, ?_⟩
  refine Option.bind_eq_some_iff.mpr ⟨_, number?_padded htwo hday _, ?_⟩
  change (if isDateEnd 'T' = true then _ else _) = some t
  rw [if_pos (by decide)]
  refine Option.bind_eq_some_iff.mpr ⟨_, rfl, ?_⟩
  refine Option.bind_eq_some_iff.mpr ⟨_, number?_padded htwo hhour _, ?_⟩
  refine Option.bind_eq_some_iff.mpr ⟨_, expect_cons _ _, ?_⟩
  refine Option.bind_eq_some_iff.mpr ⟨_, number?_padded htwo hminute _, ?_⟩
  refine Option.bind_eq_some_iff.mpr ⟨_, expect_cons _ _, ?_⟩
  refine Option.bind_eq_some_iff.mpr ⟨_, number?_padded htwo hsecond _, ?_⟩
  refine Option.bind_eq_some_iff.mpr ⟨_, hnano, ?_⟩
  refine Option.bind_eq_some_iff.mpr ⟨_, offset?_zero, ?_⟩
  change (if ([] : List Char).isEmpty = true then _ else _) = some t
  rw [List.isEmpty_nil, if_pos rfl, Int.toNat_of_nonneg h.year.1]
  exact ofParts?_zero h

end Timestamp

end Reconcile
