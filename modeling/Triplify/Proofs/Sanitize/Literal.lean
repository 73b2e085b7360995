import Mathlib.Data.List.DropRight
import Triplify.Sanitize
import Triplify.Text.Blank
/-!
# Sanitized literals

A value is trimmed first, and then it loses the control characters that literals must not hold. Most of
these are no white space: trimming stops at them, and white space next to them stands at the end once they
are gone.

`Sanitize.literal_isClean_iff`: that is all that can be wrong with a literal that is not empty.
-/

namespace Triplify

/-! ## Trimming -/

namespace Text

/-- A trimmed text does not begin with white space. -/
theorem head?_trimChars (s : List Char) : ∀ c ∈ (trimChars s).head?, isBlank c = false := by
  intro c hc
  have hprefix : trimChars s <+: s.dropWhile isBlank := List.rdropWhile_prefix isBlank _
  obtain ⟨rest, hrest⟩ := hprefix
  have hhead : (s.dropWhile isBlank).head? = some c := by
    rw [← hrest, List.head?_append, hc]
    rfl
  have hfront := List.head?_dropWhile_not isBlank s
  rw [hhead] at hfront
  exact hfront

/-- A trimmed text does not end with white space. -/
theorem getLast?_trimChars (s : List Char) : ∀ c ∈ (trimChars s).getLast?, isBlank c = false := by
  intro c hc
  have hback := List.head?_dropWhile_not isBlank (s.dropWhile isBlank).reverse
  rw [trimChars, trimEndChars, List.getLast?_reverse] at hc
  rw [hc] at hback
  exact hback

end Text

/-! ## Literals -/

namespace Sanitize

/-- A text that is not blank, has no white space at its ends and none of the control characters that
literals must not hold. -/
structure IsClean (text : String) : Prop where
  notBlank : Text.isBlankText text = false
  front : ∀ c ∈ text.toList.head?, Text.isBlank c = false
  back : ∀ c ∈ text.toList.getLast?, Text.isBlank c = false
  kept : ∀ c ∈ text.toList, isStripped c = false

/-- Control characters that are dropped, with the first of them no white space, and behind them white
space that is kept. -/
def HidesBlank (s : List Char) : Prop :=
  ∃ d dropped c rest, s = d :: dropped ++ c :: rest ∧ Text.isBlank d = false ∧
    (∀ x ∈ d :: dropped, isStripped x) ∧ Text.isBlank c ∧ isStripped c = false

/-- What is left of a text begins with white space if that has been hidden. -/
theorem head?_filter_isBlank_iff {s : List Char} (hs : ∀ c ∈ s.head?, Text.isBlank c = false) :
    (∃ c ∈ (s.filter (!isStripped ·)).head?, Text.isBlank c) ↔ HidesBlank s := by
  simp only [List.head?_filter, Option.mem_def, List.find?_eq_some_iff_append]
  constructor
  · rintro ⟨c, ⟨hc, dropped, rest, rfl, hdropped⟩, hblank⟩
    cases dropped with
    | nil =>
      rw [hs c rfl] at hblank
      cases hblank
    | cons d dropped =>
      exact ⟨d, dropped, c, rest, rfl, hs d rfl, by simpa using hdropped, hblank, by simpa using hc⟩
  · rintro ⟨d, dropped, c, rest, rfl, -, hdropped, hblank, hc⟩
    exact ⟨c, ⟨by simpa using hc, d :: dropped, rest, rfl, by simpa using hdropped⟩, hblank⟩

theorem toList_literal (value : String) :
    (literal value).toList = value.toList.filter (!isStripped ·) := by
  rw [literal, String.toList_ofList]

/-- A literal holds none of the control characters. -/
theorem kept_literal (value : String) : ∀ c ∈ (literal value).toList, isStripped c = false := by
  intro c hc
  rw [toList_literal] at hc
  simpa using (List.mem_filter.1 hc).2

/-- The literal of a trimmed value, if there is anything left of it, is clean unless the value hides white
space at one of its ends. -/
theorem literal_isClean_iff (value : String) (h : literal (Text.trim value) ≠ "") :
    IsClean (literal (Text.trim value)) ↔
      ¬ HidesBlank (Text.trimChars value.toList) ∧
        ¬ HidesBlank (Text.trimChars value.toList).reverse := by
  have hchars : (literal (Text.trim value)).toList =
      (Text.trimChars value.toList).filter (!isStripped ·) := by
    rw [toList_literal, Text.trim, String.toList_ofList]
  have hfront := head?_filter_isBlank_iff (Text.head?_trimChars value.toList)
  have hback := head?_filter_isBlank_iff (s := (Text.trimChars value.toList).reverse) (by
    rw [List.head?_reverse]
    exact Text.getLast?_trimChars value.toList)
  rw [List.filter_reverse, List.head?_reverse] at hback
  rw [← hchars] at hfront hback
  rw [← hfront, ← hback]
  constructor
  · intro hclean
    constructor
    · rintro ⟨c, hc, hblank⟩
      cases (hclean.front c hc).symm.trans hblank
    · rintro ⟨c, hc, hblank⟩
      cases (hclean.back c hc).symm.trans hblank
  · rintro ⟨hnofront, hnoback⟩
    have hends : ∀ c ∈ (literal (Text.trim value)).toList.head?, Text.isBlank c = false :=
      fun c hc => by simpa using fun hblank => hnofront ⟨c, hc, hblank⟩
    refine ⟨?_, hends, fun c hc => by simpa using fun hblank => hnoback ⟨c, hc, hblank⟩,
      kept_literal _⟩
    -- A text that is not empty has a first character, and that is no white space.
    cases htext : (literal (Text.trim value)).toList with
    | nil => exact (h (by simpa using htext)).elim
    | cons c rest =>
      have hc := hends c (by rw [htext]; rfl)
      simp [Text.isBlankText, htext, hc]

end Sanitize

end Triplify
