import Triplify.Date.Pattern
import Triplify.Decimal.Read
/-!
# Dates of the schema

The lexical space of `xsd:date` is `-?YYYY-MM-DD`: a minus sign or none, a year of at least four digits,
with a zero in front only if there are no more than four, and a month and a day that the calendar has.

`Date.IsSchemaText` says that and which day the text stands for. `Date.isSchemaText_body` is the way in:
padded numbers make such a text. The two ways out of the form are a year of three digits and a plus sign.
-/

namespace Triplify

/-! ## Decimal digits -/

namespace Decimal

variable {s : List Char} {n : Nat}

theorem natural?_eq_some_iff :
    natural? s = some n ↔ s ≠ [] ∧ (∀ c ∈ s, c.isDigit) ∧ Nat.ofDigitChars 10 s 0 = n := by
  have hvalue : s.foldl (fun n c => n * 10 + (c.toNat - 48)) 0 = Nat.ofDigitChars 10 s 0 := by
    rw [Nat.ofDigitChars_eq_foldl]
    congr 1
    funext n c
    rw [Nat.mul_comm]
    rfl
  rw [natural?, hvalue]
  split
  · next hbad =>
    simp only [Bool.or_eq_true, List.isEmpty_iff, Bool.not_eq_true', List.all_eq_false] at hbad
    refine iff_of_false (by simp) ?_
    rintro ⟨hne, hdigits, -⟩
    rcases hbad with hnil | ⟨c, hc, hno⟩
    · exact hne hnil
    · exact hno (hdigits c hc)
  · next hgood =>
    simp only [Bool.or_eq_true, List.isEmpty_iff, Bool.not_eq_true', not_or, Bool.not_eq_false,
      List.all_eq_true] at hgood
    rw [Option.some.injEq]
    exact ⟨fun h => ⟨hgood.1, hgood.2, h⟩, fun h => h.2.2⟩

theorem isDigit_of_natural? (h : natural? s = some n) : ∀ c ∈ s, c.isDigit :=
  (natural?_eq_some_iff.1 h).2.1

theorem ofDigitChars_lt (h : ∀ c ∈ s, c.isDigit) (init : Nat) :
    Nat.ofDigitChars 10 s init < Nat.pow 10 s.length * (init + 1) := by
  induction s generalizing init with
  | nil => simp
  | cons c rest ih =>
    have hc : c.toNat - '0'.toNat < 10 := by
      have hnine : c.toNat ≤ 57 := (Char.isDigit_iff_toNat.1 (h c (.head _))).2
      change c.toNat - 48 < 10
      omega
    rw [Nat.ofDigitChars_cons]
    calc Nat.ofDigitChars 10 rest (10 * init + (c.toNat - '0'.toNat))
        < Nat.pow 10 rest.length * (10 * init + (c.toNat - '0'.toNat) + 1) :=
          ih (fun d hd => h d (.tail _ hd)) _
      _ ≤ Nat.pow 10 rest.length * (10 * (init + 1)) := Nat.mul_le_mul_left _ (by omega)
      _ = Nat.pow 10 (rest.length + 1) * (init + 1) := (Nat.mul_assoc _ _ _).symm

/-- A number has no more digits than a text that it is read from. -/
theorem length_toDigits_le (h : natural? s = some n) : (Nat.toDigits 10 n).length ≤ s.length := by
  obtain ⟨hne, hdigits, rfl⟩ := natural?_eq_some_iff.1 h
  have hlt := ofDigitChars_lt hdigits 0
  rw [Nat.zero_add, Nat.mul_one] at hlt
  exact (Nat.length_toDigits_le_iff (by decide) (List.length_pos_iff.2 hne)).2 hlt

theorem head?_toDigits (h : 0 < n) : (Nat.toDigits 10 n).head? ≠ some '0' := by
  induction n using Nat.strongRecOn with
  | ind n ih =>
    rcases Nat.lt_or_ge n 10 with hlt | hge
    · have hall : ∀ d : Fin 10, 0 < d.val → Nat.digitChar d ≠ '0' := by decide
      rw [Nat.toDigits_of_lt_base hlt, List.head?_cons, ne_eq, Option.some.injEq]
      exact hall ⟨n, hlt⟩ h
    · have hfront : (Nat.toDigits 10 (n / 10)).head?.isSome := by simp
      rw [Nat.toDigits_of_base_le (by decide) hge, List.head?_append, Option.or_of_isSome hfront]
      exact ih (n / 10) (by omega) (by omega)

end Decimal

namespace Date

/-! ## Padded numbers -/

section Padded

variable {width n : Nat}

theorem toList_padded (width n : Nat) : (padded width n).toList =
    List.replicate (width - (Nat.toDigits 10 n).length) '0' ++ Nat.toDigits 10 n :=
  String.toList_ofList

theorem natural?_padded (width n : Nat) : Decimal.natural? (padded width n).toList = some n := by
  rw [toList_padded]
  refine Decimal.natural?_eq_some_iff.2 ⟨?_, fun c hc => ?_, ?_⟩
  · exact List.append_ne_nil_of_right_ne_nil _ Nat.toDigits_ne_nil
  · rcases List.mem_append.1 hc with hzero | hdigit
    · rw [(List.mem_replicate.1 hzero).2]
      rfl
    · exact Nat.isDigit_of_mem_toDigits (by decide) (by decide) hdigit
  · rw [Nat.ofDigitChars_append, Nat.ofDigitChars_replicate_zero, Nat.mul_zero,
      Nat.ofDigitChars_ten_toDigits]

theorem le_length_padded (width n : Nat) : width ≤ (padded width n).toList.length := by
  rw [toList_padded, List.length_append, List.length_replicate]
  omega

theorem length_padded (h : (Nat.toDigits 10 n).length ≤ width) :
    (padded width n).toList.length = width := by
  rw [toList_padded, List.length_append, List.length_replicate]
  omega

theorem length_padded_two (h : n < 100) : (padded 2 n).toList.length = 2 :=
  length_padded ((Nat.length_toDigits_le_iff (by decide) (by decide)).2 h)

/-- A number that is too long for its width has no zero in front. -/
theorem head?_padded (h : 4 < (padded 4 n).toList.length) :
    (padded 4 n).toList.head? ≠ some '0' := by
  have hlong : 4 < (Nat.toDigits 10 n).length := by
    rw [toList_padded, List.length_append, List.length_replicate] at h
    omega
  have hpos : 0 < n := by
    refine Nat.pos_of_ne_zero ?_
    rintro rfl
    exact absurd hlong (by decide)
  rw [toList_padded, Nat.sub_eq_zero_of_le (Nat.le_of_lt hlong)]
  exact Decimal.head?_toDigits hpos

theorem padded_succ (h : (Nat.toDigits 10 n).length ≤ width) :
    (padded (width + 1) n).toList = '0' :: (padded width n).toList := by
  rw [toList_padded, toList_padded, Nat.succ_sub h, List.replicate_succ, List.cons_append]

end Padded

/-! ## Days -/

/-- The calendar has the day. -/
structure IsDay (d : Date) : Prop where
  month : 1 ≤ d.month ∧ d.month ≤ 12
  day : 1 ≤ d.day ∧ d.day ≤ daysIn d.year d.month

theorem daysIn_le (year : Int) (month : Nat) : daysIn year month ≤ 31 := by
  unfold daysIn
  split
  · split <;> decide
  · split <;> decide

/-- The fields make a date just if the calendar has the day, and the year is in range. -/
theorem isDay_of_of? {year : Int} {month day : Nat} {d : Date} (h : of? year month day = some d) :
    d.IsDay := by
  unfold of? at h
  split at h
  · next hfits =>
    simp only [Bool.and_eq_true, decide_eq_true_eq] at hfits
    obtain rfl : (⟨year, month, day⟩ : Date) = d := Option.some.inj h
    exact ⟨⟨hfits.1.1.1.2, hfits.1.1.2⟩, hfits.1.2, hfits.2⟩
  · cases h

theorem isDay_of_go {parts : List Part} {f : Fields} {s : List Char} {d : Date}
    (h : read?.go parts f s = some d) : d.IsDay := by
  fun_induction read?.go parts f s with
  | case1 f => exact isDay_of_of? h
  | case2 => cases h
  | case3 => cases h
  | case4 _ _ _ _ _ _ _ ih => exact ih h

/-- A date that is read from a text is a day of the calendar. -/
theorem isDay_of_ofText? {s : String} {d : Date} (h : ofText? s = some d) : d.IsDay := by
  obtain ⟨pattern, -, hread⟩ := List.exists_of_findSome?_eq_some h
  exact isDay_of_go hread

/-! ## The lexical space -/

/-- The digits of a year: at least four, and no zero in front of more than four. -/
structure IsYear (digits : List Char) (year : Nat) : Prop where
  value : Decimal.natural? digits = some year
  four : 4 ≤ digits.length
  plain : 4 < digits.length → digits.head? ≠ some '0'

/-- The two digits of a month or of a day. -/
structure IsPair (digits : List Char) (n : Nat) : Prop where
  value : Decimal.natural? digits = some n
  two : digits.length = 2

/-- The text is `-?YYYY-MM-DD` and stands for the day. -/
def IsSchemaText (d : Date) (s : List Char) : Prop :=
  d.IsDay ∧ ∃ sign year month day, s = sign ++ (year ++ '-' :: (month ++ '-' :: day)) ∧
    (sign = [] ∧ 0 ≤ d.year ∨ sign = ['-'] ∧ d.year ≤ 0) ∧
    IsYear year d.year.natAbs ∧ IsPair month d.month ∧ IsPair day d.day

/-- A month and a day, with the hyphens in front. -/
def monthDay (month day : Nat) : List Char :=
  '-' :: ((padded 2 month).toList ++ '-' :: (padded 2 day).toList)

/-- A date without the sign of its year. -/
def body (year month day : Nat) : List Char :=
  (padded 4 year).toList ++ monthDay month day

variable {d : Date}

theorem isSchemaText_body (h : d.IsDay) (sign : List Char)
    (hsign : sign = [] ∧ 0 ≤ d.year ∨ sign = ['-'] ∧ d.year ≤ 0) :
    IsSchemaText d (sign ++ body d.year.natAbs d.month d.day) := by
  have hmonth : d.month < 100 := by
    have := h.month.2
    omega
  have hday : d.day < 100 := by
    have := h.day.2
    have := daysIn_le d.year d.month
    omega
  exact ⟨h, sign, _, _, _, rfl, hsign,
    ⟨natural?_padded 4 _, le_length_padded 4 _, head?_padded⟩,
    ⟨natural?_padded 2 _, length_padded_two hmonth⟩,
    ⟨natural?_padded 2 _, length_padded_two hday⟩⟩

theorem isSchemaText_of_nonneg (h : d.IsDay) (hyear : 0 ≤ d.year) :
    IsSchemaText d (body d.year.natAbs d.month d.day) := by
  rw [← List.nil_append (body _ _ _)]
  exact isSchemaText_body h [] (.inl ⟨rfl, hyear⟩)

theorem isSchemaText_of_nonpos (h : d.IsDay) (hyear : d.year ≤ 0) :
    IsSchemaText d ('-' :: body d.year.natAbs d.month d.day) := by
  rw [← List.singleton_append]
  exact isSchemaText_body h ['-'] (.inr ⟨rfl, hyear⟩)

theorem ne_nil_of_isSchemaText {s : List Char} (h : IsSchemaText d s) : s ≠ [] := by
  obtain ⟨-, sign, year, month, day, rfl, -⟩ := h
  simp

namespace IsYear

variable {digits : List Char} {year : Nat}

theorem isDigit (h : IsYear digits year) : ∀ c ∈ digits, c.isDigit :=
  Decimal.isDigit_of_natural? h.value

theorem isDigit_head (h : IsYear digits year) {c : Char} {s rest : List Char}
    (hs : c :: s = digits ++ rest) : c.isDigit := by
  cases digits with
  | nil => exact absurd h.four (by decide)
  | cons d digits =>
    obtain ⟨rfl, -⟩ := List.cons.inj hs
    exact h.isDigit c (.head _)

end IsYear

/-- Dates have no plus sign. -/
theorem not_isSchemaText_plus (rest : List Char) : ¬ IsSchemaText d ('+' :: rest) := by
  rintro ⟨-, sign, year, month, day, hs, ⟨rfl, -⟩ | ⟨rfl, -⟩, hyear, -⟩
  · cases hyear.isDigit_head hs
  · cases hs

/-- The year has four digits behind the minus sign, too. -/
theorem not_isSchemaText_short {digits rest : List Char} (hdigits : ∀ c ∈ digits, c.isDigit)
    (hshort : digits.length < 4) : ¬ IsSchemaText d ('-' :: (digits ++ '-' :: rest)) := by
  rintro ⟨-, sign, year, month, day, hs, ⟨rfl, -⟩ | ⟨rfl, -⟩, hyear, -⟩
  · cases hyear.isDigit_head hs
  · -- Both years are the digits in front of the first hyphen.
    have htail : digits ++ '-' :: rest = year ++ '-' :: (month ++ '-' :: day) := (List.cons.inj hs).2
    have htake := congrArg (List.takeWhile Char.isDigit) htail
    have hstop (rest : List Char) : List.takeWhile Char.isDigit ('-' :: rest) = [] := rfl
    rw [List.takeWhile_append_of_pos hdigits, List.takeWhile_append_of_pos hyear.isDigit, hstop,
      hstop, List.append_nil, List.append_nil] at htake
    have hfour := hyear.four
    rw [← htake] at hfour
    omega

/-- A zero in front of a year is one of just four digits. -/
theorem not_isSchemaText_of_zero {d' : Date} {rest : List Char}
    (h : IsSchemaText d ('-' :: '0' :: rest)) : ¬ IsSchemaText d' ('-' :: rest) := by
  obtain ⟨-, sign, year, month, day, hs, ⟨rfl, -⟩ | ⟨rfl, -⟩, hyear, -⟩ := h
  · cases hyear.isDigit_head hs
  · cases year with
    | nil => exact absurd hyear.four (by decide)
    | cons c year =>
      obtain ⟨rfl, rfl⟩ := List.cons.inj (List.cons.inj hs).2
      refine not_isSchemaText_short (fun d hd => hyear.isDigit d (.tail _ hd)) ?_
      have hfour : ¬ 4 < year.length + 1 := fun hlong => hyear.plain hlong rfl
      omega

/-! ## Dates as they are printed -/

theorem toList_iso_of_le (d : Date) (h : 0 ≤ d.year) (hnear : d.year ≤ 9999) :
    d.iso.toList = body d.year.natAbs d.month d.day := by
  have hplain : d.year < 10000 := by omega
  have habs : d.year.toNat = d.year.natAbs := by omega
  simp [iso, h, hplain, habs, body, monthDay, toString]

theorem toList_iso_of_neg (d : Date) (h : d.year < 0) :
    d.iso.toList = '-' :: body d.year.natAbs d.month d.day := by
  have hsigned : ¬ 0 ≤ d.year := by omega
  simp [iso, hsigned, h, body, monthDay, toString]

/-- A year of more than four digits has a sign in any case. -/
theorem toList_iso_of_lt (d : Date) (h : 9999 < d.year) :
    d.iso.toList = '+' :: body d.year.natAbs d.month d.day := by
  have hsigned : ¬ d.year < 10000 := by omega
  have hsign : ¬ d.year < 0 := by omega
  simp [iso, hsigned, hsign, body, monthDay, toString]

end Date

end Triplify
