import Mathlib.Data.List.Infix
import Triplify.Proofs.Date.Schema
import Triplify.Text.Casing
/-!
# Years in texts

A year stands in a text as a number with a sign or without, or as the first number in it, with letters for
the era before or after it. What letters occur is looked up in the text as it is, or in the trimmed text in
lower case.
-/

namespace Triplify

/-! ## Occurrences -/

namespace Text

variable {pattern s : List Char}

theorem occurs_iff : occurs pattern s = true ↔ pattern <:+: s := by
  unfold occurs
  induction s with
  | nil => simp [cut?]
  | cons c rest ih =>
    rw [cut?]
    split
    · next after hfront =>
      rw [← List.isPrefixOf?_eq_some_iff_append_eq.1 hfront]
      exact iff_of_true rfl (List.prefix_append _ _).isInfix
    · next hfront =>
      have hnofront : ¬ pattern <+: c :: rest := by
        rw [← List.isPrefixOf_iff_prefix, ← List.isSome_isPrefixOf?_eq_isPrefixOf, hfront]
        simp
      rw [Option.isSome_map, ih, List.infix_cons_iff, or_iff_right hnofront]

theorem infix_dropWhile {p : Char → Bool} {c : Char} (hc : p c = false)
    (h : c :: pattern <:+: s) : c :: pattern <:+: s.dropWhile p := by
  induction s with
  | nil => exact h
  | cons d rest ih =>
    by_cases hd : p d = true
    · rw [List.dropWhile_cons_of_pos hd]
      refine ih ((List.infix_cons_iff.1 h).resolve_left fun hfront => ?_)
      rw [(List.cons_prefix_cons.1 hfront).1, hd] at hc
      cases hc
    · rwa [List.dropWhile_cons_of_neg hd]

/-- A pattern without white space still occurs in the trimmed text. -/
theorem infix_trimChars (hne : pattern ≠ []) (hblank : pattern.any isBlank = false)
    (h : pattern <:+: s) : pattern <:+: trimChars s := by
  have hdrop {pattern s : List Char} (hne : pattern ≠ []) (hblank : pattern.any isBlank = false)
      (h : pattern <:+: s) : pattern <:+: s.dropWhile isBlank := by
    cases pattern with
    | nil => exact absurd rfl hne
    | cons c pattern => exact infix_dropWhile (Bool.or_eq_false_iff.1 hblank).1 h
  rw [trimChars, trimEndChars, ← List.reverse_infix, List.reverse_reverse]
  refine hdrop (by simpa using hne) (by rwa [List.any_reverse]) ?_
  exact List.reverse_infix.2 (hdrop hne hblank h)

theorem length_trimChars_le (s : List Char) : (trimChars s).length ≤ s.length := by
  rw [trimChars, trimEndChars, List.length_reverse]
  refine (List.dropWhile_suffix _).length_le.trans ?_
  rw [List.length_reverse]
  exact (List.dropWhile_suffix _).length_le

/-! ## Lower case -/

theorem toList_lowercase_trim (s : String) :
    (lowercase (trim s)).toList = lowerFrom [] (trimChars s.toList) := by
  rw [lowercase, trim, String.toList_ofList, String.toList_ofList]

/-- The end of a text in lower case is that end in lower case, after the characters before it. -/
theorem suffix_lowerFrom (front s before : List Char) :
    lowerFrom (front.reverse ++ before) s <:+ lowerFrom before (front ++ s) := by
  induction front generalizing before with
  | nil => exact List.suffix_refl _
  | cons c front ih =>
    have htail := ih (c :: before)
    rw [List.reverse_cons, List.append_assoc, List.singleton_append, List.cons_append, lowerFrom]
    split
    · exact htail.trans (List.suffix_cons _ _)
    · exact htail.trans (List.suffix_append _ _)

theorem infix_lowerFrom (h : ['B', 'C'] <:+: s) : ['b', 'c'] <:+: lowerFrom [] s := by
  obtain ⟨front, rest, rfl⟩ := h
  have htail := suffix_lowerFrom front (['B', 'C'] ++ rest) []
  rw [← List.append_assoc] at htail
  exact (List.prefix_append ['b', 'c'] _).isInfix.trans htail.isInfix

/-- Digits and signs have no case. -/
theorem lowerFrom_eq_self (h : ∀ c ∈ s, c.toNat ≤ 57) (before : List Char) :
    lowerFrom before s = s := by
  induction s generalizing before with
  | nil => rfl
  | cons c rest ih =>
    have hc : c.toNat ≤ 57 := h c (.head _)
    have hsigma : c ≠ 'Σ' := by
      rintro rfl
      exact absurd hc (by decide)
    have hcapital : ¬ c.val ≥ 'A'.val := fun hle =>
      absurd ((UInt32.le_iff_toNat_le.1 hle).trans hc) (by decide)
    have hsame : c.toLower = c := dif_neg fun hletter => hcapital hletter.1
    have hlower : lowerChar c = [c] := by
      rw [lowerChar, if_pos (by omega), hsame]
    rw [lowerFrom, if_neg hsigma, hlower, ih (fun d hd => h d (.tail _ hd)), List.singleton_append]

/-! ## The first number -/

/-- The first characters of a kind that stand together in a text. -/
theorem firstRun_eq_iff {p : Char → Bool} {run : List Char} (hne : run ≠ []) :
    (s.dropWhile (!p ·)).takeWhile p = run ↔ ∃ before after, s = before ++ (run ++ after) ∧
      (∀ c ∈ before, p c = false) ∧ (∀ c ∈ run, p c = true) ∧ ∀ c ∈ after.head?, p c = false := by
  constructor
  · rintro rfl
    refine ⟨s.takeWhile (!p ·), (s.dropWhile (!p ·)).dropWhile p, ?_, ?_, ?_, ?_⟩
    · rw [List.takeWhile_append_dropWhile, List.takeWhile_append_dropWhile]
    · intro c hc
      simpa using List.all_eq_true.1 List.all_takeWhile c hc
    · exact List.all_eq_true.1 List.all_takeWhile
    · intro c hc
      have hstop := List.head?_dropWhile_not p (s.dropWhile (!p ·))
      rw [hc] at hstop
      exact hstop
  · rintro ⟨before, after, rfl, hbefore, hrun, hafter⟩
    have hstop : after.takeWhile p = [] := by
      cases after with
      | nil => rfl
      | cons c after => exact List.takeWhile_cons_of_neg (by simp [hafter c rfl])
    have hstart : (run ++ after).dropWhile (!p ·) = run ++ after := by
      cases run with
      | nil => exact absurd rfl hne
      | cons c run => exact List.dropWhile_cons_of_neg (by simp [hrun c (.head _)])
    rw [List.dropWhile_append_of_pos fun c hc => by simp [hbefore c hc], hstart,
      List.takeWhile_append_of_pos hrun, hstop, List.append_nil]

end Text

/-! ## Signed numbers -/

namespace Decimal

/-- Digits, with a sign or without, and the number that they write. -/
inductive Signed : List Char → Int → Prop
  | plain {s : List Char} {n : Nat} (h : natural? s = some n) : Signed s n
  | plus {s : List Char} {n : Nat} (h : natural? s = some n) : Signed ('+' :: s) n
  | minus {s : List Char} {n : Nat} (h : natural? s = some n) : Signed ('-' :: s) (-n)

variable {s : List Char} {y : Int}

theorem natural?_cons_eq_none {c : Char} (hc : c.isDigit = false) (s : List Char) :
    natural? (c :: s) = none := by
  simp [natural?, hc]

theorem int32?_eq_some_iff : int32? (String.ofList s) = some y ↔
    Signed s y ∧ -2147483648 ≤ y ∧ y ≤ 2147483647 := by
  unfold int32? integerBetween?
  rw [String.toList_ofList, Option.filter_eq_some_iff, Bool.and_eq_true, decide_eq_true_eq,
    decide_eq_true_eq]
  refine and_congr ?_ Iff.rfl
  split
  · next digits =>
    rw [Option.map_eq_some_iff]
    constructor
    · rintro ⟨n, hn, rfl⟩
      exact .plus hn
    · intro h
      cases h with
      | plain h => rw [natural?_cons_eq_none rfl] at h; cases h
      | plus h => exact ⟨_, h, rfl⟩
  · next digits =>
    rw [if_pos (by decide), Option.map_eq_some_iff]
    constructor
    · rintro ⟨n, hn, rfl⟩
      exact .minus hn
    · intro h
      cases h with
      | plain h => rw [natural?_cons_eq_none rfl] at h; cases h
      | minus h => exact ⟨_, h, rfl⟩
  · next hplus hminus =>
    rw [Option.map_eq_some_iff]
    constructor
    · rintro ⟨n, hn, rfl⟩
      exact .plain hn
    · intro h
      cases h with
      | plain h => exact ⟨_, h, rfl⟩
      | plus h => exact absurd rfl (hplus _)
      | minus h => exact absurd rfl (hminus _)

namespace Signed

theorem unique {y' : Int} (h : Signed s y) (h' : Signed s y') : y = y' := by
  have hsame {s : List Char} {n n' : Nat} (h : natural? s = some n) (h' : natural? s = some n') :
      n = n' := Option.some.inj (h.symm.trans h')
  cases h with
  | plain h =>
    cases h' with
    | plain h' => rw [hsame h h']
    | plus h' => rw [natural?_cons_eq_none rfl] at h; cases h
    | minus h' => rw [natural?_cons_eq_none rfl] at h; cases h
  | plus h =>
    cases h' with
    | plain h' => rw [natural?_cons_eq_none rfl] at h'; cases h'
    | plus h' => rw [hsame h h']
  | minus h =>
    cases h' with
    | plain h' => rw [natural?_cons_eq_none rfl] at h'; cases h'
    | minus h' => rw [hsame h h']

theorem toNat_le (h : Signed s y) : ∀ c ∈ s, c.toNat ≤ 57 := by
  have hdigits {s : List Char} {n : Nat} (h : natural? s = some n) : ∀ c ∈ s, c.toNat ≤ 57 :=
    fun c hc => (Char.isDigit_iff_toNat.1 (isDigit_of_natural? h c hc)).2
  cases h with
  | plain h => exact hdigits h
  | plus h => exact List.forall_mem_cons.2 ⟨by decide, hdigits h⟩
  | minus h => exact List.forall_mem_cons.2 ⟨by decide, hdigits h⟩

theorem length_toDigits_le (h : Signed s y) : (Nat.toDigits 10 y.natAbs).length ≤ s.length := by
  cases h with
  | plain h => exact Decimal.length_toDigits_le h
  | plus h => exact (Decimal.length_toDigits_le h).trans (Nat.le_succ _)
  | minus h =>
    rw [Int.natAbs_neg]
    exact (Decimal.length_toDigits_le h).trans (Nat.le_succ _)

/-- A negative number takes one character for its sign. -/
theorem length_toDigits_lt (h : Signed s y) (hy : y < 0) :
    (Nat.toDigits 10 y.natAbs).length < s.length := by
  cases h with
  | plain h => omega
  | plus h => omega
  | minus h =>
    rw [Int.natAbs_neg]
    exact Nat.lt_succ_of_le (Decimal.length_toDigits_le h)

end Signed

end Decimal

end Triplify
