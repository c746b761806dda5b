import Mathlib
import Reconcile.Proofs.StoredTimes

/-!
# The order of stored times

The texts of two moments, compared character by character, come in the order of the moments. Up to the
seconds every part has a fixed count of digits. A fraction of a second may have fewer digits than another,
but what follows its last digit, the sign of the offset, comes before every digit, as if zeros stood there;
and where there is no fraction at all it comes before the point.
-/

namespace Reconcile

variable {c d : Char} {first second rest others : List Char}

/-! ### Digits -/

def AreDigits (digits : List Char) : Prop := ∀ c ∈ digits, c.isDigit

theorem char_lt_iff : c < d ↔ c.toNat < d.toNat := by
  rw [Char.lt_def, UInt32.lt_iff_toNat_lt]
  rfl

namespace Decimal

theorem digitsValue_cons (c : Char) (digits : List Char) : digitsValue (c :: digits) =
    10 ^ digits.length * (c.toNat - '0'.toNat) + digitsValue digits := by
  rw [digitsValue_eq_ofDigitChars, digitsValue_eq_ofDigitChars, Nat.ofDigitChars_cons,
    Nat.ofDigitChars_eq_ofDigitChars_zero, Nat.mul_zero, Nat.zero_add]

theorem digitsValue_lt {digits : List Char} (h : AreDigits digits) :
    digitsValue digits < 10 ^ digits.length := by
  induction digits with
  | nil => decide
  | cons c rest ih =>
      obtain ⟨hc, hrest⟩ := List.forall_mem_cons.mp h
      have hnine : c.toNat - '0'.toNat ≤ 9 := Nat.sub_le_of_le_add (Char.isDigit_iff_toNat.mp hc).2
      calc digitsValue (c :: rest)
          = 10 ^ rest.length * (c.toNat - '0'.toNat) + digitsValue rest := digitsValue_cons c rest
        _ < 10 ^ rest.length * 9 + 10 ^ rest.length :=
          Nat.add_lt_add_of_le_of_lt (Nat.mul_le_mul_left _ hnine) (ih hrest)
        _ = 10 ^ (c :: rest).length := by rw [List.length_cons]; ring

/-- A larger first digit outweighs all digits that follow. -/
theorem digitsValue_cons_lt_cons (hc : c.isDigit) (hfirst : AreDigits first)
    (hlength : first.length = second.length) (h : c < d) :
    digitsValue (c :: first) < digitsValue (d :: second) := by
  have hzero := (Char.isDigit_iff_toNat.mp hc).1
  have hdigit : c.toNat - '0'.toNat + 1 ≤ d.toNat - '0'.toNat := by
    have := char_lt_iff.mp h
    omega
  calc digitsValue (c :: first)
      = 10 ^ first.length * (c.toNat - '0'.toNat) + digitsValue first := digitsValue_cons c first
    _ < 10 ^ first.length * (c.toNat - '0'.toNat) + 10 ^ first.length :=
      Nat.add_lt_add_left (digitsValue_lt hfirst) _
    _ = 10 ^ second.length * (c.toNat - '0'.toNat + 1) := by rw [hlength, Nat.mul_succ]
    _ ≤ 10 ^ second.length * (d.toNat - '0'.toNat) := Nat.mul_le_mul_left _ hdigit
    _ ≤ 10 ^ second.length * (d.toNat - '0'.toNat) + digitsValue second := Nat.le_add_right _ _
    _ = digitsValue (d :: second) := (digitsValue_cons d second).symm

/-- Digits are ordered as the numbers they stand for, if there are equally many. -/
theorem lt_of_digitsValue_lt (hfirst : AreDigits first) (hsecond : AreDigits second)
    (hlength : first.length = second.length) (h : digitsValue first < digitsValue second) :
    first < second := by
  induction first generalizing second with
  | nil =>
      rw [List.eq_nil_of_length_eq_zero hlength.symm] at h
      cases h
  | cons c first ih =>
      cases second with
      | nil => cases hlength
      | cons d second =>
          obtain ⟨-, hleft⟩ := List.forall_mem_cons.mp hfirst
          obtain ⟨hd, hright⟩ := List.forall_mem_cons.mp hsecond
          have hlengths : first.length = second.length := Nat.succ.inj hlength
          rw [List.cons_lt_cons_iff]
          rcases lt_trichotomy c d with hlt | rfl | hgt
          · exact .inl hlt
          · rw [digitsValue_cons, digitsValue_cons, hlengths] at h
            exact .inr ⟨rfl, ih hleft hright hlengths (Nat.lt_of_add_lt_add_left h)⟩
          · exact absurd h (digitsValue_cons_lt_cons hd hright hlengths.symm hgt).asymm

theorem digitsValue_append_zeros (digits : List Char) (zeros : Nat) :
    digitsValue (digits ++ List.replicate zeros '0') = 10 ^ zeros * digitsValue digits := by
  rw [digitsValue_eq_ofDigitChars, Nat.ofDigitChars_append, Nat.ofDigitChars_replicate_zero,
    ← digitsValue_eq_ofDigitChars]

end Decimal

/-! ### Texts with the same beginning -/

theorem append_lt_append (hlength : first.length = second.length)
    (h : first < second ∨ first = second ∧ rest < others) : first ++ rest < second ++ others := by
  induction first generalizing second with
  | nil =>
      rw [List.eq_nil_of_length_eq_zero hlength.symm] at h ⊢
      exact (h.resolve_left (List.lt_irrefl [])).2
  | cons c first ih =>
      cases second with
      | nil => cases hlength
      | cons d second =>
          rw [List.cons_lt_cons_iff, List.cons.injEq] at h
          rw [List.cons_append, List.cons_append, List.cons_lt_cons_iff]
          have hlengths : first.length = second.length := Nat.succ.inj hlength
          obtain (hlt | ⟨heq, hlt⟩) | ⟨⟨heq, hsame⟩, hlt⟩ := h
          · exact .inl hlt
          · exact .inr ⟨heq, ih hlengths (.inl hlt)⟩
          · exact .inr ⟨heq, ih hlengths (.inr ⟨hsame, hlt⟩)⟩

theorem cons_lt_cons (c : Char) (h : first < second) : c :: first < c :: second :=
  List.cons_lt_cons_iff.mpr (.inr ⟨rfl, h⟩)

/-- Zeros are the least of all digits. -/
theorem not_lt_zeros {digits : List Char} (h : AreDigits digits) :
    ¬digits < List.replicate digits.length '0' := by
  induction digits with
  | nil => exact List.lt_irrefl []
  | cons c rest ih =>
      obtain ⟨hc, hrest⟩ := List.forall_mem_cons.mp h
      rw [List.length_cons, List.replicate_succ, List.cons_lt_cons_iff, char_lt_iff, not_or, not_and]
      exact ⟨(Char.isDigit_iff_toNat.mp hc).1.not_gt, fun _ => ih hrest⟩

theorem areDigits_append_zeros {digits : List Char} (h : AreDigits digits) (zeros : Nat) :
    AreDigits (digits ++ List.replicate zeros '0') := fun c hc =>
  (List.mem_append.mp hc).elim (h c) fun hzero => by
    rw [List.eq_of_mem_replicate hzero]
    rfl

/-- A sign that ends digits counts less than any digit, so it leaves them in the order that they have
with zeros put at their ends. -/
theorem append_plus_lt_append_plus {zeros more : Nat} (hfirst : AreDigits first)
    (hsecond : AreDigits second) (hlength : first.length + zeros = second.length + more)
    (h : first ++ List.replicate zeros '0' < second ++ List.replicate more '0')
    (rest others : List Char) : first ++ '+' :: rest < second ++ '+' :: others := by
  induction first generalizing second with
  | nil =>
      cases second with
      | nil =>
          obtain rfl : zeros = more := by simpa using hlength
          exact absurd h (List.lt_irrefl _)
      | cons d second =>
          have hd := (Char.isDigit_iff_toNat.mp (hsecond d List.mem_cons_self)).1
          exact List.cons_lt_cons_iff.mpr (.inl (char_lt_iff.mpr (lt_of_lt_of_le (by decide) hd)))
  | cons c first ih =>
      cases second with
      | nil =>
          have hmore : more = (c :: first ++ List.replicate zeros '0').length := by
            rw [List.length_append, List.length_replicate, hlength, List.length_nil, Nat.zero_add]
          rw [List.nil_append, hmore] at h
          exact absurd h (not_lt_zeros (areDigits_append_zeros hfirst zeros))
      | cons d second =>
          rw [List.cons_append, List.cons_append, List.cons_lt_cons_iff] at h ⊢
          refine h.imp_right fun ⟨heq, hlt⟩ => ⟨heq, ih ?_ ?_ ?_ hlt⟩
          · exact fun c hc => hfirst c (List.mem_cons_of_mem _ hc)
          · exact fun c hc => hsecond c (List.mem_cons_of_mem _ hc)
          · simp only [List.length_cons] at hlength
            omega

namespace Timestamp

/-! ### Moments -/

/-- The parts of a moment, from the largest to the smallest. -/
def parts (t : Timestamp) : List Int :=
  [t.date.year, t.date.month, t.date.day, t.hour, t.minute, t.second, t.nano]

/-- A moment is earlier than another if it is so by the largest part in which they differ. -/
instance : LT Timestamp := ⟨fun t u => t.parts < u.parts⟩

variable {width n m : Nat} {t u : Timestamp}

theorem eq_or_lt_of_not_lt (h : ¬t < u) : u < t ∨ u = t := by
  obtain hlt | heq := (not_lt.mp h : u.parts ≤ t.parts).lt_or_eq
  · exact .inl hlt
  · right
    obtain ⟨⟨year, month, day⟩, hour, minute, second, nano⟩ := t
    obtain ⟨⟨year', month', day'⟩, hour', minute', second', nano'⟩ := u
    simpa [parts, and_assoc] using heq

theorem areDigits_padded (width n : Nat) : AreDigits (padded width n).toList :=
  fun _ => isDigit_of_mem_padded

theorem padded_append_lt (hwidth : 0 < width) (hn : n < 10 ^ width) (hm : m < 10 ^ width)
    (h : n < m ∨ n = m ∧ rest < others) :
    (padded width n).toList ++ rest < (padded width m).toList ++ others := by
  have hlength : (padded width n).toList.length = (padded width m).toList.length := by
    rw [length_padded hwidth hn, length_padded hwidth hm]
  refine append_lt_append hlength (h.imp (fun hlt => ?_) fun ⟨heq, hlt⟩ => ⟨by rw [heq], hlt⟩)
  refine Decimal.lt_of_digitsValue_lt (areDigits_padded _ _) (areDigits_padded _ _) hlength ?_
  rwa [digitsValue_padded, digitsValue_padded]

/-- The text of a fraction of a second is none, or a point and digits; with zeros put after them the digits
are those of the nanoseconds. -/
def IsFraction (n : Nat) (text : List Char) : Prop :=
  ∃ digits zeros, AreDigits digits ∧ digits.length + zeros = 9 ∧
    Decimal.digitsValue (digits ++ List.replicate zeros '0') = n ∧
    text = if digits = [] then [] else '.' :: digits

theorem isFraction_zero : IsFraction 0 [] :=
  ⟨[], 9, fun _ hc => (List.not_mem_nil hc).elim, rfl, by decide, rfl⟩

theorem isFraction_padded (width zeros : Nat) (hwidth : 0 < width) (hnine : width + zeros = 9)
    (h : n < 10 ^ 9) (hdivides : n % 10 ^ zeros = 0) :
    IsFraction n ("." ++ padded width (n / 10 ^ zeros)).toList := by
  have hsmall : n / 10 ^ zeros < 10 ^ width := by
    rwa [Nat.div_lt_iff_lt_mul (Nat.pow_pos (by decide)), ← Nat.pow_add, hnine]
  have hlength := length_padded hwidth hsmall
  refine ⟨(padded width (n / 10 ^ zeros)).toList, zeros, areDigits_padded _ _, by rw [hlength, hnine],
    ?_, ?_⟩
  · rw [Decimal.digitsValue_append_zeros, digitsValue_padded,
      Nat.mul_div_cancel' (Nat.dvd_of_mod_eq_zero hdivides)]
  · rw [if_neg (List.ne_nil_of_length_pos (hwidth.trans_eq hlength.symm)), String.toList_append]
    rfl

theorem isFraction_fraction (h : n < 10 ^ 9) : IsFraction n (fraction n).toList := by
  unfold fraction
  split_ifs with hzero hmillis hmicros
  · rw [hzero]
    exact isFraction_zero
  · exact isFraction_padded 3 6 (by decide) rfl h hmillis
  · exact isFraction_padded 6 3 (by decide) rfl h hmicros
  · have hnanos := isFraction_padded 9 0 (by decide) rfl h (Nat.mod_one n)
    rwa [Nat.pow_zero, Nat.div_one] at hnanos

theorem fraction_append_lt (hn : n < 10 ^ 9) (hm : m < 10 ^ 9) (h : n < m) (rest others : List Char) :
    (fraction n).toList ++ '+' :: rest < (fraction m).toList ++ '+' :: others := by
  obtain ⟨first, zeros, hfirst, hlength, rfl, htext⟩ := isFraction_fraction hn
  obtain ⟨second, more, hsecond, hlength', rfl, htext'⟩ := isFraction_fraction hm
  -- The later moment has a fraction.
  have hsome : second ≠ [] := by
    rintro rfl
    exact Nat.not_lt_zero _ (h.trans_eq (Decimal.digitsValue_append_zeros [] more))
  rw [htext, htext', if_neg hsome]
  split_ifs with hnone
  · exact List.cons_lt_cons_iff.mpr (.inl (by decide))
  · have hlengths := hlength.trans hlength'.symm
    refine cons_lt_cons '.' (append_plus_lt_append_plus hfirst hsecond hlengths ?_ _ _)
    refine Decimal.lt_of_digitsValue_lt ?_ ?_ (by simpa using hlengths) h
    · exact areDigits_append_zeros hfirst zeros
    · exact areDigits_append_zeros hsecond more

/-- The text of an earlier moment comes first. -/
theorem stored_lt_stored (ht : t.IsDated) (hu : u.IsDated) (h : t < u) : t.stored < u.stored := by
  obtain ⟨hyear, hmonth, hday, hhour, hminute, hsecond⟩ := ht.fits
  obtain ⟨hyear', hmonth', hday', hhour', hminute', hsecond'⟩ := hu.fits
  have hfrom := ht.year.1
  have hfrom' := hu.year.1
  have hparts : t.parts < u.parts := h
  simp only [parts, List.cons_lt_cons_iff, List.not_lt_nil, and_false, or_false, Nat.cast_lt,
    Nat.cast_inj] at hparts
  have htwo : 0 < 2 := by decide
  rw [String.lt_iff_toList_lt, toList_stored ht, toList_stored hu]
  refine padded_append_lt (by decide) hyear hyear'
    (hparts.imp (by omega) (And.imp (by omega) fun hparts => cons_lt_cons '-' ?_))
  refine padded_append_lt htwo hmonth hmonth'
    (hparts.imp_right (And.imp_right fun hparts => cons_lt_cons '-' ?_))
  refine padded_append_lt htwo hday hday'
    (hparts.imp_right (And.imp_right fun hparts => cons_lt_cons 'T' ?_))
  refine padded_append_lt htwo hhour hhour'
    (hparts.imp_right (And.imp_right fun hparts => cons_lt_cons ':' ?_))
  refine padded_append_lt htwo hminute hminute'
    (hparts.imp_right (And.imp_right fun hparts => cons_lt_cons ':' ?_))
  exact padded_append_lt htwo hsecond hsecond'
    (hparts.imp_right (And.imp_right fun hnano => fraction_append_lt ht.nano hu.nano hnano _ _))

end Timestamp

end Reconcile
