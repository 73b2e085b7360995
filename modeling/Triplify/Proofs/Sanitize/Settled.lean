import Mathlib.Data.List.Infix
import Triplify.Sanitize
/-!
# Texts that settle

The rules that make a value fit for an IRI enable each other: a hyphen that is dropped may bare a slash,
and a slash that is dropped a hyphen. All of them but one only take characters out of a text, so that they
change it just if they shorten it. That is why repeating them comes to an end.

`uri_settles`: the loops end, and they end in texts of one form, which are the texts that stay as they are.
-/

namespace Triplify.Sanitize

/-! ## Loops -/

/-- The loop `while test do step` ends, and leads from one text to another. -/
inductive Loops (test : List Char → Prop) (step : List Char → List Char) :
    List Char → List Char → Prop
  | done {s : List Char} : ¬ test s → Loops test step s s
  | again {s t : List Char} : test s → Loops test step (step s) t → Loops test step s t

theorem Loops.ended {test : List Char → Prop} {step : List Char → List Char} {s t : List Char}
    (h : Loops test step s t) : ¬ test t := by
  induction h with
  | done htest => exact htest
  | again _ _ ih => exact ih

/-! ## Rules that shorten -/

/-- A rule that only takes characters out of a text, and keeps the texts of a form as they are. -/
structure Shortens (rule : List Char → List Char) (Form : List Char → Prop) : Prop where
  sublist (s : List Char) : (rule s).Sublist s
  kept_iff (s : List Char) : rule s = s ↔ Form s

namespace Shortens

variable {f g : List Char → List Char} {P Q : List Char → Prop}

theorem kept_of_length (h : Shortens f P) {s : List Char} (hlength : s.length ≤ (f s).length) :
    f s = s :=
  (h.sublist s).eq_of_length_le hlength

theorem shorter (h : Shortens f P) {s : List Char} (hform : ¬ P s) : (f s).length < s.length :=
  Nat.lt_of_not_le fun hlength => hform ((h.kept_iff s).1 (h.kept_of_length hlength))

/-- One rule, and then another. -/
theorem comp (hf : Shortens f P) (hg : Shortens g Q) :
    Shortens (fun s => g (f s)) fun s => P s ∧ Q s where
  sublist s := (hg.sublist (f s)).trans (hf.sublist s)
  kept_iff s := by
    rw [← hf.kept_iff s, ← hg.kept_iff s]
    constructor
    · intro hkept
      have hlength := (hg.sublist (f s)).length_le
      rw [hkept] at hlength
      have hfirst := hf.kept_of_length hlength
      rw [hfirst] at hkept
      exact ⟨hfirst, hkept⟩
    · rintro ⟨hfirst, hsecond⟩
      rw [hfirst, hsecond]

end Shortens

theorem ne_cons_of_sublist {s t : List Char} (h : t.Sublist s) (c : Char) : t ≠ c :: s := by
  rintro rfl
  exact Nat.not_succ_le_self _ h.length_le

/-! ## Runs of hyphens -/

/-- A hyphen before another one goes, and any other character stays. -/
theorem collapseHyphens_eq (c : Char) (s : List Char) : collapseHyphens (c :: s) =
    if c = '-' ∧ s.head? = some '-' then collapseHyphens s else c :: collapseHyphens s := by
  split
  · next hpair =>
    obtain ⟨rfl, hhead⟩ := hpair
    obtain ⟨rest, rfl⟩ := List.head?_eq_some_iff.1 hhead
    rw [collapseHyphens]
  · next hpair =>
    rw [collapseHyphens]
    rintro rest rfl rfl
    exact hpair ⟨rfl, rfl⟩

theorem collapseHyphens_cons {c : Char} (hc : c ≠ '-') (s : List Char) :
    collapseHyphens (c :: s) = c :: collapseHyphens s := by
  rw [collapseHyphens_eq, if_neg fun hpair => hc hpair.1]

theorem head?_collapseHyphens (s : List Char) : (collapseHyphens s).head? = s.head? := by
  induction s with
  | nil => rfl
  | cons c rest ih =>
    rw [collapseHyphens_eq]
    split
    · next hpair => rw [ih, hpair.1, hpair.2, List.head?_cons]
    · rfl

/-- A hyphen in front is kept, unless there is one already. -/
theorem collapseHyphens_hyphen (s : List Char) : collapseHyphens ('-' :: s) =
    if (collapseHyphens s).head? = some '-' then collapseHyphens s else '-' :: collapseHyphens s := by
  rw [collapseHyphens_eq, head?_collapseHyphens]
  simp only [true_and]

theorem collapseHyphens_sublist (s : List Char) : (collapseHyphens s).Sublist s := by
  induction s with
  | nil => exact .slnil
  | cons c rest ih =>
    rw [collapseHyphens_eq]
    split
    · exact ih.trans (List.sublist_cons_self c rest)
    · exact ih.cons_cons c

theorem shortens_collapseHyphens : Shortens collapseHyphens fun s => ¬ ['-', '-'] <:+: s where
  sublist := collapseHyphens_sublist
  kept_iff s := by
    induction s with
    | nil => exact iff_of_true rfl (by simp)
    | cons c rest ih =>
      rw [collapseHyphens_eq]
      split
      · next hpair =>
        -- Two hyphens in front: one is taken out, so that the text is too short to be the same.
        obtain ⟨rfl, hhead⟩ := hpair
        obtain ⟨after, rfl⟩ := List.head?_eq_some_iff.1 hhead
        exact iff_of_false (ne_cons_of_sublist (collapseHyphens_sublist ('-' :: after)) '-')
          fun hnone => hnone ⟨[], after, rfl⟩
      · next hpair =>
        rw [List.cons_inj_right, ih, List.infix_cons_iff, not_or, and_iff_right]
        rintro ⟨after, hafter⟩
        obtain ⟨rfl, rfl⟩ := List.cons.inj hafter
        exact hpair ⟨rfl, rfl⟩

/-- Puts one hyphen in place of every two, from left to right. -/
def halveHyphens : List Char → List Char
  | '-' :: '-' :: rest => '-' :: halveHyphens rest
  | c :: rest => c :: halveHyphens rest
  | [] => []

theorem collapseHyphens_halveHyphens (s : List Char) :
    collapseHyphens (halveHyphens s) = collapseHyphens s := by
  fun_induction halveHyphens s with
  | case1 rest ih =>
    rw [collapseHyphens_eq '-' ('-' :: rest), if_pos ⟨rfl, rfl⟩, collapseHyphens_hyphen, ih,
      collapseHyphens_hyphen rest]
  | case2 c rest hpair ih =>
    by_cases hc : c = '-'
    · subst hc
      rw [collapseHyphens_hyphen, ih, collapseHyphens_hyphen rest]
    · rw [collapseHyphens_cons hc, collapseHyphens_cons hc, ih]
  | case3 => rfl

theorem shortens_halveHyphens : Shortens halveHyphens fun s => ¬ ['-', '-'] <:+: s := by
  have hsublist (s : List Char) : (halveHyphens s).Sublist s := by
    fun_induction halveHyphens s with
    | case1 rest ih => exact (ih.cons '-').cons_cons '-'
    | case2 c rest _ ih => exact ih.cons_cons c
    | case3 => exact .slnil
  refine ⟨hsublist, fun s => ?_⟩
  fun_induction halveHyphens s with
  | case1 rest =>
    rw [List.cons_inj_right]
    exact iff_of_false (ne_cons_of_sublist (hsublist rest) '-') fun hnone => hnone ⟨[], rest, rfl⟩
  | case2 c rest hpair ih =>
    rw [List.cons_inj_right, ih, List.infix_cons_iff, not_or, and_iff_right]
    rintro ⟨after, hafter⟩
    obtain ⟨rfl, rfl⟩ := List.cons.inj hafter
    exact hpair after rfl rfl
  | case3 => exact iff_of_true rfl (by simp)

/-- Halving runs of hyphens as long as there are any leaves one of each run. -/
theorem loops_halveHyphens (s : List Char) :
    Loops (['-', '-'] <:+: ·) halveHyphens s (collapseHyphens s) := by
  by_cases hpair : ['-', '-'] <:+: s
  · refine .again hpair ?_
    rw [← collapseHyphens_halveHyphens]
    exact loops_halveHyphens (halveHyphens s)
  · rw [(shortens_collapseHyphens.kept_iff s).2 hpair]
    exact .done hpair
termination_by s.length
decreasing_by exact shortens_halveHyphens.shorter (not_not.2 hpair)

/-! ## The other rules -/

theorem shortens_dropHyphen : Shortens dropHyphen fun s => s.head? ≠ some '-' where
  sublist s := by
    unfold dropHyphen
    split
    · exact List.sublist_cons_self '-' _
    · exact .refl s
  kept_iff s := by
    unfold dropHyphen
    split
    · next rest => exact iff_of_false (List.cons_ne_self '-' rest).symm (by simp)
    · next hne =>
      refine iff_of_true rfl fun hhead => ?_
      obtain ⟨rest, rfl⟩ := List.head?_eq_some_iff.1 hhead
      exact hne rest rfl

theorem shortens_dropLastHyphen : Shortens dropLastHyphen fun s => s.getLast? ≠ some '-' where
  sublist s := List.reverse_sublist.1 (by
    rw [dropLastHyphen, List.reverse_reverse]
    exact shortens_dropHyphen.sublist s.reverse)
  kept_iff s := by
    rw [dropLastHyphen, List.reverse_eq_iff, ← List.head?_reverse]
    exact shortens_dropHyphen.kept_iff s.reverse

theorem shortens_collapseSlashes :
    Shortens collapseSlashes fun s => ∀ c, c ≠ ':' → ¬ [c, '/', '/'] <:+: s := by
  have hsublist (s : List Char) : (collapseSlashes s).Sublist s := by
    fun_induction collapseSlashes s with
    | case1 rest ih => exact ih.cons_cons ':'
    | case2 c rest _ ih => exact ((ih.cons_cons '/').cons '/').cons_cons c
    | case3 c rest _ ih => exact ih.cons_cons c
    | case4 => exact .slnil
  refine ⟨hsublist, fun s => ?_⟩
  have hcons {d : Char} {rest : List Char}
      (hd : ∀ c, c ≠ ':' → ¬ [c, '/', '/'] <+: d :: rest) :
      (∀ c, c ≠ ':' → ¬ [c, '/', '/'] <:+: d :: rest) ↔ ∀ c, c ≠ ':' → ¬ [c, '/', '/'] <:+: rest := by
    refine forall₂_congr fun c hc => ?_
    rw [List.infix_cons_iff, not_or, and_iff_right (hd c hc)]
  fun_induction collapseSlashes s with
  | case1 rest ih =>
    rw [List.cons_inj_right]
    refine ih.trans (hcons ?_).symm
    rintro c hc ⟨after, hafter⟩
    exact hc (List.cons.inj hafter).1
  | case2 c rest hc ih =>
    rw [List.cons_inj_right, List.cons_inj_right]
    exact iff_of_false (ne_cons_of_sublist (hsublist rest) '/') fun hnone =>
      hnone c hc ⟨[], rest, rfl⟩
  | case3 c rest hpair ih =>
    rw [List.cons_inj_right]
    refine ih.trans (hcons ?_).symm
    rintro d - ⟨after, hafter⟩
    exact hpair after (List.cons.inj hafter).2.symm
  | case4 => simp

theorem shortens_dropLastSlash :
    Shortens dropLastSlash fun s => 3 < s.count '/' → s.getLast? ≠ some '/' where
  sublist s := by
    unfold dropLastSlash
    split
    · exact List.dropLast_sublist s
    · exact .refl s
  kept_iff s := by
    unfold dropLastSlash
    split
    · next hlast =>
      simp only [Bool.and_eq_true, decide_eq_true_eq] at hlast
      obtain ⟨hlast, hcount⟩ := hlast
      refine iff_of_false (fun hkept => ?_) fun hform => hform hcount hlast
      obtain ⟨before, rfl⟩ := List.getLast?_eq_some_iff.1 hlast
      simp at hkept
    · next hlast =>
      simp only [Bool.and_eq_true, decide_eq_true_eq] at hlast
      exact iff_of_true rfl fun hcount hslash => hlast ⟨hslash, hcount⟩

/-! ## A pass -/

/-- What makes a value fit for an IRI: the characters that it may hold, no hyphens side by side, none at
either end, no double slash after anything but a colon, and no slash at the end after three others. -/
structure Clean (s : List Char) : Prop where
  plain : ∀ c ∈ s, c.isAlphanum = true ∨ c ∈ ['_', '#', '-', '/', ':', '.']
  hyphens : ¬ ['-', '-'] <:+: s
  front : s.head? ≠ some '-'
  back : s.getLast? ≠ some '-'
  slashes : ∀ c, c ≠ ':' → ¬ [c, '/', '/'] <:+: s
  last : 3 < s.count '/' → s.getLast? ≠ some '/'

/-- The rules that shorten. -/
def shorten (s : List Char) : List Char :=
  dropLastSlash (collapseSlashes (dropLastHyphen (dropHyphen (collapseHyphens s))))

theorem pass_eq (s : List Char) : pass s = shorten (replaceChars s) := rfl

theorem isAllowed_iff {c : Char} :
    isAllowed c = true ↔ c.isAlphanum = true ∨ c ∈ ['_', '#', '-', '/', ':', '.'] := by
  simp [isAllowed, or_assoc]

theorem shortens_shorten : Shortens shorten fun s => ((((¬ ['-', '-'] <:+: s) ∧
    s.head? ≠ some '-') ∧ s.getLast? ≠ some '-') ∧ ∀ c, c ≠ ':' → ¬ [c, '/', '/'] <:+: s) ∧
      (3 < s.count '/' → s.getLast? ≠ some '/') :=
  (((shortens_collapseHyphens.comp shortens_dropHyphen).comp shortens_dropLastHyphen).comp
    shortens_collapseSlashes).comp shortens_dropLastSlash

theorem clean_iff {s : List Char} :
    Clean s ↔ (∀ c ∈ s, isAllowed c = true) ∧ shorten s = s := by
  simp only [isAllowed_iff, shortens_shorten.kept_iff]
  constructor
  · intro h
    exact ⟨h.plain, ⟨⟨⟨h.hyphens, h.front⟩, h.back⟩, h.slashes⟩, h.last⟩
  · rintro ⟨hplain, ⟨⟨⟨hhyphens, hfront⟩, hback⟩, hslashes⟩, hlast⟩
    exact ⟨hplain, hhyphens, hfront, hback, hslashes, hlast⟩

theorem isAllowed_replaceChars (s : List Char) : ∀ c ∈ replaceChars s, isAllowed c = true := by
  intro c hc
  obtain ⟨d, -, rfl⟩ := List.mem_map.1 hc
  split
  · assumption
  · rfl

theorem filter_brackets {s : List Char} (h : ∀ c ∈ s, isAllowed c = true) :
    s.filter (fun c => c ≠ '<' && c ≠ '>') = s := by
  refine List.filter_eq_self.2 fun c hc => ?_
  simp only [ne_eq, decide_not, Bool.and_eq_true, Bool.not_eq_true', decide_eq_false_iff_not]
  constructor <;> rintro rfl <;> cases h _ hc

theorem replaceChars_of_isAllowed {s : List Char} (h : ∀ c ∈ s, isAllowed c = true) :
    replaceChars s = s := by
  rw [replaceChars, filter_brackets h]
  exact (List.map_congr_left fun c hc => if_pos (h c hc)).trans (List.map_id' s)

theorem isAllowed_pass (s : List Char) : ∀ c ∈ pass s, isAllowed c = true := fun c hc =>
  isAllowed_replaceChars s c ((shortens_shorten.sublist (replaceChars s)).subset hc)

theorem length_replaceChars (s : List Char) : (replaceChars s).length ≤ s.length := by
  rw [replaceChars, List.length_map]
  exact List.length_filter_le _ s

/-- A pass that does not shorten a text leaves nothing to do. -/
theorem clean_pass {s : List Char} (h : s.length ≤ (pass s).length) : Clean (pass s) := by
  have hkept : shorten (replaceChars s) = replaceChars s :=
    shortens_shorten.kept_of_length ((length_replaceChars s).trans h)
  rw [pass_eq, hkept]
  exact clean_iff.2 ⟨isAllowed_replaceChars s, hkept⟩

theorem pass_eq_self_iff {s : List Char} : pass s = s ↔ Clean s := by
  constructor
  · intro hkept
    have hclean := clean_pass (s := s) (by rw [hkept])
    rwa [hkept] at hclean
  · intro h
    obtain ⟨hallowed, hkept⟩ := clean_iff.1 h
    rw [pass_eq, replaceChars_of_isAllowed hallowed, hkept]

/-! ## Repeated passes -/

theorem settle_of_clean {s : List Char} (h : Clean s) : settle s = s := by
  have hkept := pass_eq_self_iff.2 h
  rw [settle, hkept]
  exact if_neg (Nat.lt_irrefl _)

/-- Repeating passes as long as they change the text ends where repeating them as long as they shorten it
does. -/
theorem loops_settle (s : List Char) : Loops (fun t => pass t ≠ t) pass (pass s) (settle s) := by
  fun_induction settle s with
  | case1 s next h ih =>
    -- The first pass shortens the text, and may still leave nothing to do for the second.
    by_cases hkept : pass next = next
    · rw [settle_of_clean (pass_eq_self_iff.1 hkept)]
      exact .done (not_not.2 hkept)
    · exact .again hkept ih
  | case2 s next h =>
    exact .done (not_not.2 (pass_eq_self_iff.2 (clean_pass (Nat.not_lt.1 h))))

theorem clean_settle (s : List Char) : Clean (settle s) :=
  pass_eq_self_iff.1 (not_not.1 (loops_settle s).ended)

/-! ## Values -/

/-- The loop over runs of hyphens ends on every text, and so does the loop over all rules. What comes of
it is clean, and a value stays as it is just if it is clean. So what came of a value once stays so. -/
theorem uri_settles :
    (∀ s : List Char, Loops (['-', '-'] <:+: ·) halveHyphens s (collapseHyphens s)) ∧
    ∀ value : String,
      Loops (fun t => pass t ≠ t) pass (pass value.toList) (uri value).toList ∧
      Clean (uri value).toList ∧ (uri value = value ↔ Clean value.toList) ∧
      uri (uri value) = uri value := by
  have hclean (value : String) : Clean (uri value).toList := by
    rw [uri, String.toList_ofList]
    exact clean_settle value.toList
  have hkept {value : String} (h : Clean value.toList) : uri value = value := by
    rw [uri, settle_of_clean h, String.ofList_toList]
  refine ⟨loops_halveHyphens, fun value => ⟨?_, hclean value, ⟨fun h => ?_, hkept⟩, ?_⟩⟩
  · rw [uri, String.toList_ofList]
    exact loops_settle value.toList
  · rw [← h]
    exact hclean value
  · exact hkept (hclean value)

end Triplify.Sanitize
