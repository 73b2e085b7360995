import Triplify.Proofs.Date.Year
import Triplify.Transform.Collections
/-!
# The dates that texts name

The transforms for dates take a text in one of three ways: as a year alone, as a number of years before
the era, or as a full date in one of the known notations. `Collections.Names` says which date that is.

`Collections.schemaDates`: what they make of a text that names a date is that date in the form of the
schema, but for two kinds of years. A negative number in four characters loses a zero, and a year after
9999 has a plus sign.
-/

namespace Triplify.Collections

open Date (IsDay IsSchemaText isSchemaText_of_nonneg isSchemaText_of_nonpos)

/-! ## The transforms -/

/-- The day of a year alone: the first one or the last one. -/
inductive Bound
  | earliest
  | latest
deriving DecidableEq, Repr

namespace Bound

/-- The name of the transform. -/
def name : Bound → String
  | earliest => "formatearliestdateasxsddate"
  | latest => "formatlatestdateasxsddate"

/-- The month. -/
def month : Bound → Nat
  | earliest => 1
  | latest => 12

/-- The day of the month. -/
def day : Bound → Nat
  | earliest => 1
  | latest => 31

/-- The text of month and day. -/
def monthDay : Bound → String
  | earliest => "01-01"
  | latest => "12-31"

theorem toList_monthDay (b : Bound) : '-' :: b.monthDay.toList = Date.monthDay b.month b.day := by
  cases b <;> rfl

/-- Every year has the two days. -/
theorem isDay (b : Bound) (year : Int) : IsDay ⟨year, b.month, b.day⟩ := by
  have hmonth : 1 ≤ b.month ∧ b.month ≤ 12 := by cases b <;> decide
  have hday : 1 ≤ b.day ∧ b.day ≤ 31 := by cases b <;> decide
  have hlast : Date.daysIn year b.month = 31 := by cases b <;> rfl
  exact ⟨hmonth, hday.1, hday.2.trans_eq hlast.symm⟩

end Bound

theorem lookup_name (b : Bound) : lookup b.name = some (xsdDate b.monthDay) := by
  cases b <;> rfl

/-! ## What a text names -/

/-- The text is taken as a year alone. -/
def IsYearText (s : String) : Prop :=
  ['B', 'C'] <:+: s.toList ∨ ['t', 'h', 'C'] <:+: s.toList ∨ s.toList.length = 4

/-- The text has the letters for a year before the era, in any case. -/
def MentionsEra (s : String) : Prop :=
  ['b', 'c'] <:+: (Text.lowercase (Text.trim s)).toList

/-- The first number in a text. -/
def HasFirstNumber (s : String) (n : Nat) : Prop :=
  ∃ before run after, s.toList = before ++ (run ++ after) ∧
    (∀ c ∈ before, Text.isDecimalDigit c = false) ∧ (∀ c ∈ run, Text.isDecimalDigit c = true) ∧
    (∀ c ∈ after.head?, Text.isDecimalDigit c = false) ∧ Decimal.natural? run = some n

/-- The date that a text names: a year alone as a number in four characters, a year before the era, or a
full date. -/
inductive Names (b : Bound) (s : String) : Date → Prop
  | year {y : Int} (hlength : s.toList.length = 4)
      (hyear : Decimal.Signed (Text.trimChars s.toList) y) : Names b s ⟨y, b.month, b.day⟩
  | era {n : Nat} (halone : IsYearText s) (hera : MentionsEra s) (hyear : HasFirstNumber s n)
      (hrange : n ≤ 2147483647) : Names b s ⟨-n, b.month, b.day⟩
  | full {d : Date} (hfull : ¬ IsYearText s) (hdate : Date.ofText? (Text.trim s) = some d) :
      Names b s d

/-- A negative number in four characters. -/
def IsMinusYear (s : String) : Prop :=
  s.toList.length = 4 ∧ ∃ y < 0, Decimal.Signed (Text.trimChars s.toList) y

variable {b : Bound} {s : String} {d : Date}

/-! ## How a text is taken -/

/-- The letters for the era are found in any case. -/
theorem mentionsEra_of_occurs (h : ['B', 'C'] <:+: s.toList) : MentionsEra s := by
  rw [MentionsEra, Text.toList_lowercase_trim]
  exact Text.infix_lowerFrom (Text.infix_trimChars (List.cons_ne_nil _ _) rfl h)

/-- A number has no letters. -/
theorem not_mem_of_signed {y : Int} (h : Decimal.Signed (Text.trimChars s.toList) y) {c : Char}
    (hc : 57 < c.toNat) : c ∉ Text.trimChars s.toList := fun hmem =>
  absurd (h.toNat_le c hmem) (by omega)

theorem not_mentionsEra_of_signed {y : Int}
    (h : Decimal.Signed (Text.trimChars s.toList) y) : ¬ MentionsEra s := by
  rw [MentionsEra, Text.toList_lowercase_trim, Text.lowerFrom_eq_self h.toNat_le]
  exact fun hletters => not_mem_of_signed h (by decide) (hletters.subset (.head _))

/-- A number that is taken as a year alone has four characters. -/
theorem length_of_signed {y : Int} (h : Decimal.Signed (Text.trimChars s.toList) y)
    (halone : IsYearText s) : s.toList.length = 4 := by
  rcases halone with hera | hcentury | hlength
  · exact absurd (mentionsEra_of_occurs hera) (not_mentionsEra_of_signed h)
  · have hletters := Text.infix_trimChars (List.cons_ne_nil _ _) rfl hcentury
    exact absurd (hletters.subset (.head _)) (not_mem_of_signed h (by decide))
  · exact hlength

theorem natAbs_lt_of_signed {y : Int} (hlength : s.toList.length = 4)
    (hyear : Decimal.Signed (Text.trimChars s.toList) y) : y.natAbs < 10000 := by
  have hdigits : (Nat.toDigits 10 y.natAbs).length ≤ 4 :=
    (hyear.length_toDigits_le.trans (Text.length_trimChars_le _)).trans_eq hlength
  exact (Nat.length_toDigits_le_iff (by decide) (by decide)).1 hdigits

theorem isYearText_iff : IsYearText s ↔ (Text.occurs "BC".toList s.toList ||
    Text.occurs "thC".toList s.toList || decide (s.toList.length = 4)) = true := by
  rw [Bool.or_eq_true, Bool.or_eq_true, Text.occurs_iff, Text.occurs_iff, decide_eq_true_eq, or_assoc]
  rfl

theorem xsdDate_of_isYearText (monthDay : String) (h : IsYearText s) :
    xsdDate monthDay s = productionDate monthDay s := by
  have hne : ¬ s.toList.isEmpty = true := by
    rw [List.isEmpty_iff]
    intro hnil
    simp [IsYearText, hnil] at h
  unfold xsdDate
  dsimp only
  rw [if_neg hne, if_pos (isYearText_iff.1 h)]

theorem acquisitionDate_eq (s : String) :
    acquisitionDate s = (Date.ofText? (Text.trim s)).elim "" Date.iso := by
  delta acquisitionDate
  cases Date.ofText? (Text.trim s) <;> rfl

theorem acquisitionDate_empty : acquisitionDate "" = "" := by
  rw [acquisitionDate_eq]
  rfl

theorem xsdDate_of_not_isYearText (monthDay : String) (h : ¬ IsYearText s) :
    xsdDate monthDay s = acquisitionDate s := by
  unfold xsdDate
  dsimp only
  split
  · next hempty =>
    obtain rfl : s = "" := by simpa using hempty
    exact acquisitionDate_empty.symm
  · rw [if_neg (mt isYearText_iff.2 h)]

/-- The first decimal digits of a text that stand together. -/
def firstDigits (s : String) : List Char :=
  (s.toList.dropWhile (!Text.isDecimalDigit ·)).takeWhile Text.isDecimalDigit

theorem hasFirstNumber_iff {n : Nat} :
    HasFirstNumber s n ↔ Decimal.natural? (firstDigits s) = some n := by
  constructor
  · rintro ⟨before, run, after, hs, hbefore, hrun, hafter, hn⟩
    have hne := (Decimal.natural?_eq_some_iff.1 hn).1
    rwa [firstDigits, (Text.firstRun_eq_iff hne).2 ⟨before, after, hs, hbefore, hrun, hafter⟩]
  · intro hn
    have hne := (Decimal.natural?_eq_some_iff.1 hn).1
    obtain ⟨before, after, hs, hbefore, hrun, hafter⟩ := (Text.firstRun_eq_iff hne).1 rfl
    exact ⟨before, firstDigits s, after, hs, hbefore, hrun, hafter, hn⟩

/-- The first number has no sign. -/
theorem int32?_firstDigits {y : Int} (h : Decimal.int32? (String.ofList (firstDigits s)) = some y) :
    ∃ n : Nat, HasFirstNumber s n ∧ n ≤ 2147483647 ∧ y = n := by
  obtain ⟨hsigned, -, hrange⟩ := Decimal.int32?_eq_some_iff.1 h
  have hdigits : ∀ c ∈ firstDigits s, Text.isDecimalDigit c :=
    List.all_eq_true.1 List.all_takeWhile
  generalize hrun : firstDigits s = run at hsigned hdigits
  cases hsigned with
  | plain hn => exact ⟨_, hasFirstNumber_iff.2 (hrun ▸ hn), by omega, rfl⟩
  | plus hn => exact absurd (hdigits '+' (.head _)) (by decide)
  | minus hn => exact absurd (hdigits '-' (.head _)) (by decide)

theorem productionDate_of_mentionsEra (monthDay : String) (h : MentionsEra s) :
    productionDate monthDay s = (Decimal.int32? (String.ofList (firstDigits s))).elim ""
      fun y => "-" ++ yearText y ++ "-" ++ monthDay := by
  have hera : Text.occurs "bc".toList (Text.lowercase (Text.trim s)).toList = true :=
    Text.occurs_iff.2 h
  unfold productionDate
  dsimp only
  rw [hera, if_pos rfl, if_pos rfl, ← firstDigits]
  cases Decimal.int32? (String.ofList (firstDigits s)) <;> rfl

theorem productionDate_of_not_mentionsEra (monthDay : String) (h : ¬ MentionsEra s) :
    productionDate monthDay s = (Decimal.int32? (String.ofList (Text.trimChars s.toList))).elim ""
      fun y => yearText y ++ "-" ++ monthDay := by
  have hera : ¬ Text.occurs "bc".toList (Text.lowercase (Text.trim s)).toList = true :=
    fun hoccurs => h (Text.occurs_iff.1 hoccurs)
  unfold productionDate
  dsimp only
  rw [if_neg hera, if_neg hera]
  cases Decimal.int32? (String.ofList (Text.trimChars s.toList)) with
  | none => rfl
  | some y => simp only [Option.elim_some, String.empty_append]

/-! ## What comes of it -/

theorem toList_yearText_of_nonneg {y : Int} (hy : 0 ≤ y) :
    (yearText y).toList = (Date.padded 4 y.natAbs).toList := by
  have hsign : ¬ y < 0 := by omega
  simp [yearText, hsign, Date.toList_padded, Nat.repr_eq_ofList_toDigits]

/-- The sign of a year takes one of its four characters. -/
theorem toList_yearText_of_neg {y : Int} (hy : y < 0) :
    (yearText y).toList = '-' :: (Date.padded 3 y.natAbs).toList := by
  simp [yearText, hy, Date.toList_padded, Nat.repr_eq_ofList_toDigits]

theorem toList_xsdDate_year {y : Int} (hlength : s.toList.length = 4)
    (hyear : Decimal.Signed (Text.trimChars s.toList) y) :
    (xsdDate b.monthDay s).toList = (yearText y).toList ++ Date.monthDay b.month b.day := by
  have hrange := natAbs_lt_of_signed hlength hyear
  have hread : Decimal.int32? (String.ofList (Text.trimChars s.toList)) = some y :=
    Decimal.int32?_eq_some_iff.2 ⟨hyear, by omega, by omega⟩
  rw [xsdDate_of_isYearText _ (.inr (.inr hlength)),
    productionDate_of_not_mentionsEra _ (not_mentionsEra_of_signed hyear), hread,
    ← b.toList_monthDay]
  simp

theorem toList_xsdDate_era {n : Nat} (halone : IsYearText s) (hera : MentionsEra s)
    (hyear : HasFirstNumber s n) (hrange : n ≤ 2147483647) :
    (xsdDate b.monthDay s).toList = '-' :: Date.body n b.month b.day := by
  have hread : Decimal.int32? (String.ofList (firstDigits s)) = some (n : Int) :=
    Decimal.int32?_eq_some_iff.2 ⟨.plain (hasFirstNumber_iff.1 hyear), by omega, by omega⟩
  have htext := toList_yearText_of_nonneg (Int.natCast_nonneg n)
  rw [xsdDate_of_isYearText _ halone, productionDate_of_mentionsEra _ hera, hread, Date.body,
    ← b.toList_monthDay]
  simp [htext]

theorem xsdDate_full (hfull : ¬ IsYearText s) (hdate : Date.ofText? (Text.trim s) = some d) :
    xsdDate b.monthDay s = d.iso := by
  rw [xsdDate_of_not_isYearText _ hfull, acquisitionDate_eq, hdate, Option.elim_some]

theorem xsdDate_eq_empty (h : ∀ d, ¬ Names b s d) : xsdDate b.monthDay s = "" := by
  by_cases halone : IsYearText s
  · rw [xsdDate_of_isYearText _ halone]
    by_cases hera : MentionsEra s
    · rw [productionDate_of_mentionsEra _ hera]
      cases hread : Decimal.int32? (String.ofList (firstDigits s)) with
      | none => rfl
      | some y =>
        obtain ⟨n, hyear, hrange, -⟩ := int32?_firstDigits hread
        exact absurd (.era halone hera hyear hrange) (h _)
    · rw [productionDate_of_not_mentionsEra _ hera]
      cases hread : Decimal.int32? (String.ofList (Text.trimChars s.toList)) with
      | none => rfl
      | some y =>
        have hyear := (Decimal.int32?_eq_some_iff.1 hread).1
        exact absurd (.year (length_of_signed hyear halone) hyear) (h _)
  · rw [xsdDate_of_not_isYearText _ halone, acquisitionDate_eq]
    cases hdate : Date.ofText? (Text.trim s) with
    | none => rfl
    | some d => exact absurd (.full halone hdate) (h d)

/-- What a text that names a date gives: the date in the form of the schema, or that form without a zero
behind its minus sign, or with a plus sign in front. -/
inductive Gives (s : String) (d : Date) : List Char → Prop
  | form {text : List Char} (hform : IsSchemaText d text) (hyear : ¬ IsMinusYear s)
      (hnear : d.year ≤ 9999) : Gives s d text
  | lostZero {rest : List Char} (hform : IsSchemaText d ('-' :: '0' :: rest))
      (hyear : IsMinusYear s) : Gives s d ('-' :: rest)
  | plusSign {text : List Char} (hform : IsSchemaText d text) (hfar : 9999 < d.year) :
      Gives s d ('+' :: text)

theorem gives_year {y : Int} (hlength : s.toList.length = 4)
    (hyear : Decimal.Signed (Text.trimChars s.toList) y) :
    Gives s ⟨y, b.month, b.day⟩ (xsdDate b.monthDay s).toList := by
  have hday := b.isDay y
  rw [toList_xsdDate_year hlength hyear]
  by_cases hneg : y < 0
  · -- The sign stands in the place of a zero.
    have hshort : (Nat.toDigits 10 y.natAbs).length ≤ 3 := by
      have hsigned := hyear.length_toDigits_lt hneg
      have htrimmed := Text.length_trimChars_le s.toList
      omega
    have hform := isSchemaText_of_nonpos hday (Int.le_of_lt hneg)
    rw [Date.body, Date.padded_succ hshort] at hform
    rw [toList_yearText_of_neg hneg]
    exact .lostZero hform ⟨hlength, y, hneg, hyear⟩
  · have hpos : 0 ≤ y := by omega
    have hrange := natAbs_lt_of_signed hlength hyear
    have hnear : y ≤ 9999 := by omega
    rw [toList_yearText_of_nonneg hpos]
    refine .form (isSchemaText_of_nonneg hday hpos) ?_ hnear
    rintro ⟨-, y', hneg', hyear'⟩
    exact hneg (hyear.unique hyear' ▸ hneg')

theorem gives_era {n : Nat} (halone : IsYearText s) (hera : MentionsEra s)
    (hyear : HasFirstNumber s n) (hrange : n ≤ 2147483647) :
    Gives s ⟨-n, b.month, b.day⟩ (xsdDate b.monthDay s).toList := by
  have hpast : -(n : Int) ≤ 0 := by omega
  have hnear : -(n : Int) ≤ 9999 := by omega
  have hform := isSchemaText_of_nonpos (b.isDay (-n)) hpast
  rw [Int.natAbs_neg, Int.natAbs_natCast] at hform
  rw [toList_xsdDate_era halone hera hyear hrange]
  refine .form hform ?_ hnear
  rintro ⟨-, y, -, hyear'⟩
  exact not_mentionsEra_of_signed hyear' hera

theorem gives_full (hfull : ¬ IsYearText s) (hdate : Date.ofText? (Text.trim s) = some d) :
    Gives s d (xsdDate b.monthDay s).toList := by
  have hday := Date.isDay_of_ofText? hdate
  have hyear : ¬ IsMinusYear s := fun h => hfull (.inr (.inr h.1))
  rw [xsdDate_full hfull hdate]
  by_cases hneg : d.year < 0
  · rw [d.toList_iso_of_neg hneg]
    exact .form (isSchemaText_of_nonpos hday (Int.le_of_lt hneg)) hyear (by omega)
  · have hform := isSchemaText_of_nonneg hday (by omega)
    by_cases hfar : 9999 < d.year
    · rw [d.toList_iso_of_lt hfar]
      exact .plusSign hform hfar
    · rw [d.toList_iso_of_le (by omega) (by omega)]
      exact .form hform hyear (by omega)

theorem gives_of_names (h : Names b s d) : Gives s d (xsdDate b.monthDay s).toList := by
  cases h with
  | year hlength hyear => exact gives_year hlength hyear
  | era halone hera hyear hrange => exact gives_era halone hera hyear hrange
  | full hfull hdate => exact gives_full hfull hdate

namespace Gives

variable {out : List Char}

theorem ne_nil (h : Gives s d out) : out ≠ [] := by
  cases h with
  | form hform => exact Date.ne_nil_of_isSchemaText hform
  | lostZero => exact List.cons_ne_nil _ _
  | plusSign => exact List.cons_ne_nil _ _

/-- Without a zero, or with a plus sign, the form is not that of any date. -/
theorem isSchemaText_iff (h : Gives s d out) :
    (∃ d', IsSchemaText d' out) ↔ ¬ IsMinusYear s ∧ d.year ≤ 9999 := by
  cases h with
  | form hform hyear hnear => exact iff_of_true ⟨d, hform⟩ ⟨hyear, hnear⟩
  | lostZero hform hyear =>
    refine iff_of_false ?_ fun hplain => hplain.1 hyear
    rintro ⟨d', hother⟩
    exact Date.not_isSchemaText_of_zero hform hother
  | plusSign hform hfar =>
    refine iff_of_false ?_ fun hplain => Int.not_le.2 hfar hplain.2
    rintro ⟨d', hother⟩
    exact Date.not_isSchemaText_plus _ hother

end Gives

/-- The transforms for dates give nothing just if the text names no date. What they give is nothing or a
date of the schema just if the text is no negative number in four characters and names no date after the
year 9999. What is given for a date is its form in the schema, or that form without a zero for such a
number, or with a plus sign for such a year. -/
theorem schemaDates (b : Bound) (s : String) : ∃ t, lookup b.name = some t ∧
    (t s = "" ↔ ∀ d, ¬ Names b s d) ∧
    ((t s = "" ∨ ∃ d, IsSchemaText d (t s).toList) ↔
      ¬ IsMinusYear s ∧ ∀ d, Names b s d → d.year ≤ 9999) ∧
    ∀ d, Names b s d → Gives s d (t s).toList := by
  have hempty : xsdDate b.monthDay s = "" ↔ ∀ d, ¬ Names b s d := by
    refine ⟨fun hnone d h => ?_, xsdDate_eq_empty⟩
    have hsome := (gives_of_names h).ne_nil
    rw [hnone] at hsome
    exact hsome rfl
  refine ⟨xsdDate b.monthDay, lookup_name b, hempty, ?_, fun d h => gives_of_names h⟩
  constructor
  · intro hplain
    have hnames (d : Date) (h : Names b s d) : ¬ IsMinusYear s ∧ d.year ≤ 9999 :=
      (gives_of_names h).isSchemaText_iff.1 (hplain.resolve_left fun hnone => hempty.1 hnone d h)
    refine ⟨fun hyear => ?_, fun d h => (hnames d h).2⟩
    have ⟨hlength, y, _, hsigned⟩ := hyear
    exact (hnames _ (.year hlength hsigned)).1 hyear
  · rintro ⟨hyear, hnear⟩
    by_cases hnames : ∃ d, Names b s d
    · obtain ⟨d, h⟩ := hnames
      exact .inr ((gives_of_names h).isSchemaText_iff.2 ⟨hyear, hnear d h⟩)
    · exact .inl (hempty.2 fun d h => hnames ⟨d, h⟩)

/-- A year before the era is padded behind its sign. -/
theorem schemaDates_era : Names .earliest "44 BC" ⟨-44, 1, 1⟩ ∧
    ∃ t, lookup Bound.earliest.name = some t ∧ t "44 BC" = "-0044-01-01" ∧
      Gives "44 BC" ⟨-44, 1, 1⟩ (t "44 BC").toList := by
  have hletters : ['B', 'C'] <:+: "44 BC".toList := ⟨['4', '4', ' '], [], rfl⟩
  have hnumber : HasFirstNumber "44 BC" 44 :=
    ⟨[], ['4', '4'], [' ', 'B', 'C'], rfl, List.forall_mem_nil _, List.all_eq_true.1 rfl,
      fun c hc => by cases hc; rfl, rfl⟩
  have hnames : Names .earliest "44 BC" ⟨-44, 1, 1⟩ :=
    .era (.inl hletters) (mentionsEra_of_occurs hletters) hnumber (by decide)
  obtain ⟨t, hname, -, -, hgives⟩ := schemaDates .earliest "44 BC"
  have ht : t "44 BC" = "-0044-01-01" := by
    rw [lookup_name, Option.some.injEq] at hname
    rw [← hname]
    rfl
  exact ⟨hnames, t, hname, ht, hgives _ hnames⟩

/-- A negative number in four characters has three digits for its year, and a year after 9999 a plus
sign. -/
theorem signed_years_are_no_schema_dates : ∃ t, lookup "formatearliestdateasxsddate" = some t ∧
    t "-984" = "-984-01-01" ∧ (¬ ∃ d, IsSchemaText d (t "-984").toList) ∧
    t "+12345-05-23" = "+12345-05-23" ∧ ¬ ∃ d, IsSchemaText d (t "+12345-05-23").toList := by
  have hminus : xsdDate "01-01" "-984" = "-984-01-01" := rfl
  have hplus : xsdDate "01-01" "+12345-05-23" = "+12345-05-23" := rfl
  refine ⟨xsdDate "01-01", rfl, hminus, ?_, hplus, ?_⟩
  · rintro ⟨d, h⟩
    rw [hminus] at h
    exact Date.not_isSchemaText_short (List.all_eq_true.1 rfl) (by decide)
      (show IsSchemaText d ('-' :: (['9', '8', '4'] ++ '-' :: ['0', '1', '-', '0', '1'])) from h)
  · rintro ⟨d, h⟩
    rw [hplus] at h
    exact Date.not_isSchemaText_plus _ h

end Triplify.Collections
