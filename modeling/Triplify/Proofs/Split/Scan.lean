import Mathlib.Data.List.DropRight
import Triplify.Split.Event
/-!
# Where pieces end

A comment ends at the first arrow, a tag at the first bracket that stands in no quotes, a document
type at the first one without a partner. Where a piece ends depends on the piece alone: put before
another text, it ends at the same place.

`Text.cut?_append` says so for cuts, and `Scans.eq_some_iff` for tags and document types.
-/

namespace Triplify

/-! ## Cuts -/

namespace Text

theorem cut?_eq_some {pattern s before after : List Char} (h : cut? pattern s = some (before, after)) :
    s = before ++ (pattern ++ after) := by
  induction s generalizing before with
  | nil =>
    simp only [cut?] at h
    split at h
    · next hp => simp_all
    · cases h
  | cons c rest ih =>
    simp only [cut?] at h
    split at h
    · next found hprefix =>
      simp only [Option.some.injEq, Prod.mk.injEq] at h
      obtain ⟨rfl, rfl⟩ := h
      exact (List.append_eq_of_isPrefixOf?_eq_some hprefix).symm
    · obtain ⟨⟨b, a⟩, hb, heq⟩ := Option.map_eq_some_iff.1 h
      simp only [Prod.mk.injEq] at heq
      obtain ⟨rfl, rfl⟩ := heq
      rw [ih hb, List.cons_append]

/-- The first occurrence of a pattern stays the first one, whatever comes after it. -/
theorem cut?_append {pattern s before after : List Char}
    (h : cut? pattern s = some (before, after)) (rest : List Char) :
    cut? pattern (before ++ (pattern ++ rest)) = some (before, rest) := by
  have hhere : ∀ t, cut? pattern (pattern ++ t) = some ([], t) := by
    intro t
    have hprefix : pattern.isPrefixOf? (pattern ++ t) = some t :=
      List.isPrefixOf?_eq_some_iff_append_eq.2 rfl
    cases hp : pattern ++ t with
    | nil => simp_all [cut?]
    | cons c more =>
      rw [hp] at hprefix
      rw [cut?, hprefix]
  induction s generalizing before with
  | nil =>
    simp only [cut?] at h
    split at h
    · simp only [Option.some.injEq, Prod.mk.injEq] at h
      obtain ⟨rfl, -⟩ := h
      exact hhere rest
    · cases h
  | cons c s ih =>
    have hwhole := cut?_eq_some h
    simp only [cut?] at h
    split at h
    · simp only [Option.some.injEq, Prod.mk.injEq] at h
      obtain ⟨rfl, -⟩ := h
      exact hhere rest
    · next hnone =>
      obtain ⟨⟨b, a⟩, hb, heq⟩ := Option.map_eq_some_iff.1 h
      simp only [Prod.mk.injEq] at heq
      obtain ⟨rfl, rfl⟩ := heq
      -- The pattern does not begin here: an occurrence would end before what follows.
      have hlater : pattern.isPrefixOf? (c :: (b ++ (pattern ++ rest))) = none := by
        rw [Option.eq_none_iff_forall_ne_some]
        intro t ht
        have hfound : pattern <+: c :: b ++ pattern := by
          have hhead : pattern <+: c :: (b ++ (pattern ++ rest)) :=
            ⟨t, List.append_eq_of_isPrefixOf?_eq_some ht⟩
          have hbody : c :: b ++ pattern <+: c :: (b ++ (pattern ++ rest)) := ⟨rest, by simp⟩
          exact List.prefix_of_prefix_length_le hhead hbody (by simp; omega)
        obtain ⟨u, hu⟩ := hfound.trans (List.prefix_append (c :: b ++ pattern) a)
        have : pattern.isPrefixOf? (c :: s) = some u := by
          rw [List.isPrefixOf?_eq_some_iff_append_eq, hu, hwhole]
          simp
        rw [hnone] at this
        cases this
      rw [List.cons_append, cut?, hlater]
      simp only [ih hb, Option.map_some]

end Text

namespace Split.Event

/-! ## Where tags and document types end -/

/-- A reader takes characters up to a bracket, and a step on states tells which bracket it is: the one
that is read in the state `done`. -/
structure Scans {σ : Type} (reader : σ → List Char → Option (List Char × List Char))
    (step : σ → Char → Option σ) (done : σ) : Prop where
  nil : ∀ q, reader q [] = none
  ends : ∀ s, reader done ('>' :: s) = some ([], s)
  goes : ∀ {q c q'} s, step q c = some q' →
    reader q (c :: s) = (reader q' s).map fun r => (c :: r.1, r.2)
  step_none : ∀ {q c}, step q c = none ↔ q = done ∧ c = '>'

/-- What is read up to the bracket does not depend on what follows. -/
theorem Scans.eq_some_iff {σ : Type} {reader : σ → List Char → Option (List Char × List Char)}
    {step : σ → Char → Option σ} {done : σ} (h : Scans reader step done) {q : σ}
    {s body rest : List Char} :
    reader q s = some (body, rest) ↔ s = body ++ '>' :: rest ∧ body.foldlM step q = some done := by
  induction s generalizing q body with
  | nil => simp [h.nil]
  | cons c s ih =>
    cases hstep : step q c with
    | none =>
      obtain ⟨rfl, rfl⟩ := h.step_none.1 hstep
      rw [h.ends]
      cases body with
      | nil => simp
      | cons d body =>
        constructor
        · rintro ⟨⟩
        · rintro ⟨heq, hfold⟩
          obtain ⟨rfl, -⟩ := List.cons.inj heq
          simp [hstep] at hfold
    | some q' =>
      rw [h.goes s hstep]
      cases body with
      | nil =>
        have hne : ¬ (q = done ∧ c = '>') := fun hq => by
          rw [h.step_none.2 hq] at hstep
          cases hstep
        simp only [List.nil_append, List.cons.injEq, List.foldlM_nil, Option.map_eq_some_iff]
        constructor
        · rintro ⟨r, -, heq⟩
          cases heq
        · rintro ⟨⟨rfl, -⟩, hq⟩
          cases hq
          exact (hne ⟨rfl, rfl⟩).elim
      | cons d body =>
        constructor
        · intro hread
          obtain ⟨⟨b, r⟩, hb, heq⟩ := Option.map_eq_some_iff.1 hread
          simp only [Prod.mk.injEq, List.cons.injEq] at heq
          obtain ⟨⟨rfl, rfl⟩, rfl⟩ := heq
          obtain ⟨rfl, hfold⟩ := ih.1 hb
          exact ⟨rfl, by simp [hstep, hfold]⟩
        · rintro ⟨hs, hfold⟩
          simp only [List.cons_append, List.cons.injEq] at hs
          obtain ⟨rfl, rfl⟩ := hs
          have hrest : body.foldlM step q' = some done := by simpa [hstep] using hfold
          rw [ih.2 ⟨rfl, hrest⟩]
          rfl

/-- The quote that is open after one more character of a tag, unless the character ends the tag. -/
def quoteStep : Option Char → Char → Option (Option Char)
  | some q, c => some (if c == q then none else some q)
  | none, c => if c == '>' then none else some (if c == '\'' || c == '"' then some c else none)

theorem tagBody?_scans : Scans tagBody? quoteStep none where
  nil _ := by simp [tagBody?]
  ends _ := by simp [tagBody?]
  goes {q c q'} s h := by
    cases q with
    | some q =>
      cases h
      rfl
    | none =>
      simp only [quoteStep] at h
      split at h
      · cases h
      · next hc =>
        cases h
        rw [tagBody?, if_neg hc]
  step_none {q c} := by
    cases q with
    | some q => simp [quoteStep]
    | none => simp [quoteStep]

/-- The number of open pairs after one more character of a document type, unless the character ends
it. -/
def pairStep (pairs : Nat) (c : Char) : Option Nat :=
  if c = '<' then some (pairs + 1)
  else if c = '>' then (if pairs = 0 then none else some (pairs - 1))
  else some pairs

theorem doctypeBody?_scans : Scans doctypeBody? pairStep 0 where
  nil _ := by simp [doctypeBody?]
  ends _ := by simp [doctypeBody?]
  goes {q c q'} s h := by
    unfold pairStep at h
    by_cases hopen : c = '<'
    · subst hopen
      cases h
      simp [doctypeBody?]
    · rw [if_neg hopen] at h
      by_cases hclose : c = '>'
      · subst hclose
        cases q with
        | zero => cases h
        | succ q =>
          cases h
          simp [doctypeBody?]
      · rw [if_neg hclose] at h
        cases h
        simp [doctypeBody?, hclose]
  step_none {q c} := by
    unfold pairStep
    by_cases hopen : c = '<'
    · simp [hopen]
    · by_cases hclose : c = '>'
      · by_cases hq : q = 0 <;> simp [hclose, hq]
      · simp [hopen, hclose]

/-! ## Names of end tags -/

/-- A quote that is open in a tag was opened by a quotation mark. -/
theorem isSpace_of_open {body : List Char} {q : Option Char} {c : Char}
    (h : body.foldlM quoteStep q = some (some c)) (hq : ∀ d ∈ q, isSpace d = false) :
    isSpace c = false := by
  induction body generalizing q with
  | nil =>
    cases h
    exact hq c rfl
  | cons d body ih =>
    cases hstep : quoteStep q d with
    | none => simp [hstep] at h
    | some q' =>
      refine ih (q := q') (by simpa [hstep] using h) fun e he => ?_
      cases he
      cases q with
      | some q =>
        simp only [quoteStep, Option.some.injEq] at hstep
        split at hstep
        · cases hstep
        · cases hstep
          exact hq e rfl
      | none =>
        simp only [quoteStep] at hstep
        split at hstep
        · cases hstep
        · simp only [Option.some.injEq, Option.ite_none_right_eq_some] at hstep
          obtain ⟨hmark, rfl⟩ := hstep
          rcases (by simpa using hmark : d = '\'' ∨ d = '"') with rfl | rfl <;> rfl

/-- White space neither opens nor closes a quote. -/
theorem foldlM_quoteStep_space {space : List Char} {q : Option Char}
    (hspace : ∀ c ∈ space, isSpace c) (hq : ∀ d ∈ q, isSpace d = false) :
    space.foldlM quoteStep q = some q := by
  induction space with
  | nil => rfl
  | cons c space ih =>
    have hc : isSpace c := hspace c (by simp)
    have hstep : quoteStep q c = some q := by
      cases q with
      | some q =>
        have hne : c ≠ q := by
          rintro rfl
          rw [hq c rfl] at hc
          cases hc
        simp [quoteStep, hne]
      | none =>
        have hmarks : c ≠ '>' ∧ c ≠ '\'' ∧ c ≠ '"' := by
          refine ⟨?_, ?_, ?_⟩ <;> rintro rfl <;> cases hc
        simp [quoteStep, hmarks]
    rw [List.foldlM_cons, hstep]
    exact ih fun c hc => hspace c (by simp [hc])

theorem closingName_of_all {body : List Char} (h : body.all isSpace) : closingName body = body :=
  if_pos h

theorem closingName_of_not_all {body : List Char} (h : ¬ body.all isSpace) :
    closingName body = body.rdropWhile isSpace :=
  if_neg h

/-- The name of an end tag ends where a tag would end: no quote is open in it. -/
theorem foldlM_closingName {body : List Char} (h : body.foldlM quoteStep none = some none) :
    (closingName body).foldlM quoteStep none = some none := by
  by_cases hall : body.all isSpace
  · rwa [closingName_of_all hall]
  · rw [closingName_of_not_all hall]
    rw [← List.rdropWhile_append_rtakeWhile (p := isSpace) (l := body), List.foldlM_append] at h
    obtain ⟨q, hkept, hspace⟩ := Option.bind_eq_some_iff.1 h
    rw [hkept]
    have hq : ∀ d ∈ q, isSpace d = false := by
      rintro d rfl
      exact isSpace_of_open hkept (by simp)
    rw [foldlM_quoteStep_space (fun c hc => List.mem_rtakeWhile_imp hc) hq] at hspace
    exact hspace

theorem closingName_idem (body : List Char) : closingName (closingName body) = closingName body := by
  by_cases hall : body.all isSpace
  · rw [closingName_of_all hall, closingName_of_all hall]
  · rw [closingName_of_not_all hall]
    have hkept : ¬ (body.rdropWhile isSpace).all isSpace := by
      rw [List.all_eq_true] at hall ⊢
      intro hspace
      have hnil : body.rdropWhile isSpace ≠ [] := by
        rwa [ne_eq, List.rdropWhile_eq_nil_iff]
      exact List.rdropWhile_last_not _ _ hnil (hspace _ (List.getLast_mem hnil))
    rw [closingName_of_not_all hkept, List.rdropWhile_idempotent]

/-! ## Document types -/

/-- Characters that are no angle brackets open and close no pair. -/
theorem foldlM_pairStep_plain {s : List Char} (h : ∀ c ∈ s, c ≠ '<' ∧ c ≠ '>') (pairs : Nat) :
    s.foldlM pairStep pairs = some pairs := by
  induction s with
  | nil => rfl
  | cons c s ih =>
    obtain ⟨hopen, hclose⟩ := h c (by simp)
    rw [List.foldlM_cons, pairStep, if_neg hopen, if_neg hclose]
    exact ih fun d hd => h d (by simp [hd])

theorem isDoctypeWord_plain {s : List Char} (h : isDoctypeWord s) :
    ∀ c ∈ s, c ≠ '<' ∧ c ≠ '>' := by
  intro c hc
  have hupper : c.toUpper ∈ "DOCTYPE".toList := by
    rw [← eq_of_beq h]
    exact List.mem_map_of_mem hc
  constructor <;> rintro rfl <;> exact absurd hupper (by decide)

/-- What a document type says is one of its own: the word before it and the white space between them
do not count for the pairs. -/
theorem foldlM_said {body : List Char} (hword : isDoctypeWord (body.take 7))
    (h : body.foldlM pairStep 0 = some 0) :
    ((body.drop 7).dropWhile isSpace).foldlM pairStep 0 = some 0 := by
  have hspaces : ∀ c ∈ (body.drop 7).takeWhile isSpace, c ≠ '<' ∧ c ≠ '>' := by
    intro c hc
    constructor <;> rintro rfl <;> exact absurd (List.mem_takeWhile_imp hc) (by decide)
  rw [← List.take_append_drop 7 body, List.foldlM_append,
    foldlM_pairStep_plain (isDoctypeWord_plain hword)] at h
  replace h : (body.drop 7).foldlM pairStep 0 = some 0 := h
  rw [← List.takeWhile_append_dropWhile (p := isSpace) (l := body.drop 7), List.foldlM_append,
    foldlM_pairStep_plain hspaces] at h
  exact h

end Split.Event
end Triplify
