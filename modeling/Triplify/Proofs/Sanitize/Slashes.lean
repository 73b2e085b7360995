import Triplify.Iri.Resolve
import Triplify.Proofs.Sanitize.Settled
import Triplify.Proofs.Template.Scan
/-!
# Double slashes

A double slash shrinks to one unless a colon comes before it. The rule looks at the character before the
slashes, and at the start of a text there is none: two slashes stay there, and a reference that starts so
names another host than its base.

`uri_double_slashes`: there is no other place where two slashes stay, and the values that come to start
with two slashes are known.
-/

namespace Triplify

/-! ## The start of a text -/

/-- The text starts with two slashes. -/
def Doubled (s : List Char) : Prop := ['/', '/'] <+: s

namespace Doubled

variable {s t : List Char} {c : Char}

theorem cons_iff : Doubled (c :: s) ↔ c = '/' ∧ s.head? = some '/' := by
  rw [Doubled, List.cons_prefix_cons, List.singleton_prefix_iff_head?_eq_some, eq_comm]

theorem head? (h : Doubled s) : s.head? = some '/' := by
  obtain ⟨rest, rfl⟩ := h
  rfl

/-- What comes after the first two characters does not count, nor does anything but a slash. -/
theorem append_cons_iff (h : c ≠ '/' ∨ 2 ≤ t.length) : Doubled (t ++ c :: s) ↔ Doubled t := by
  rcases t with _ | ⟨d, _ | ⟨e, t⟩⟩
  · have hc : c ≠ '/' := h.resolve_right (by simp)
    exact iff_of_false (fun h' => hc (cons_iff.1 h').1) (by simp [Doubled])
  · have hc : c ≠ '/' := h.resolve_right (by simp)
    simp [cons_iff, hc]
  · rw [List.cons_append, List.cons_append, cons_iff, cons_iff]
    rfl

end Doubled

namespace Sanitize

/-! ## Rules and the start of a text -/

/-- A rule that puts no hyphen in front of a text without one, and two slashes just if they stand there. -/
structure KeepsFront (rule : List Char → List Char) : Prop where
  front (s : List Char) : s.head? ≠ some '-' → (rule s).head? ≠ some '-'
  doubled_iff (s : List Char) : Doubled (rule s) ↔ Doubled s

namespace KeepsFront

variable {f g : List Char → List Char}

theorem comp (hf : KeepsFront f) (hg : KeepsFront g) : KeepsFront fun s => g (f s) where
  front s hs := hg.front (f s) (hf.front s hs)
  doubled_iff s := (hg.doubled_iff (f s)).trans (hf.doubled_iff s)

/-- A rule that drops the last character at most, and one of two slashes never. -/
theorem of_last (h : ∀ s, f s = s ∨ ∃ c, s = f s ++ [c] ∧ (c ≠ '/' ∨ 2 ≤ (f s).length)) :
    KeepsFront f where
  front s hs hhyphen := by
    rcases h s with hkept | ⟨c, hdropped, -⟩
    · rw [hkept] at hhyphen
      exact hs hhyphen
    · rw [hdropped, List.head?_append, hhyphen] at hs
      exact hs rfl
  doubled_iff s := by
    rcases h s with hkept | ⟨c, hdropped, hlast⟩
    · rw [hkept]
    · conv_rhs => rw [hdropped]
      exact (Doubled.append_cons_iff hlast).symm

end KeepsFront

theorem keepsFront_dropLastHyphen : KeepsFront dropLastHyphen := by
  refine .of_last fun s => ?_
  rcases List.eq_nil_or_concat s with rfl | ⟨t, c, rfl⟩
  · exact .inl rfl
  · rw [List.concat_eq_append, dropLastHyphen, List.reverse_append]
    by_cases hc : c = '-'
    · subst hc
      exact .inr ⟨'-', by simp [dropHyphen], .inl (by decide)⟩
    · left
      have hkept : dropHyphen (c :: t.reverse) = c :: t.reverse :=
        (shortens_dropHyphen.kept_iff _).2 (by simpa using hc)
      simp [hkept]

theorem keepsFront_dropLastSlash : KeepsFront dropLastSlash := by
  refine .of_last fun s => ?_
  unfold dropLastSlash
  split
  · next hlast =>
    simp only [Bool.and_eq_true, decide_eq_true_eq] at hlast
    obtain ⟨hlast, hcount⟩ := hlast
    obtain ⟨t, rfl⟩ := List.getLast?_eq_some_iff.1 hlast
    have hslashes : 3 < t.count '/' + 1 := by simpa using hcount
    have hlength : t.count '/' ≤ t.length := List.count_le_length
    rw [List.dropLast_concat]
    exact .inr ⟨'/', rfl, .inr (by omega)⟩
  · exact .inl rfl

theorem head?_collapseSlashes (s : List Char) : (collapseSlashes s).head? = s.head? := by
  fun_cases collapseSlashes s <;> rfl

theorem keepsFront_collapseSlashes : KeepsFront collapseSlashes where
  front s hs := by
    rwa [head?_collapseSlashes]
  doubled_iff s := by
    fun_cases collapseSlashes s with
    | case1 rest => rw [Doubled.cons_iff, Doubled.cons_iff, head?_collapseSlashes]
    | case2 c rest hc => rw [Doubled.cons_iff, Doubled.cons_iff]; rfl
    | case3 c rest _ => rw [Doubled.cons_iff, Doubled.cons_iff, head?_collapseSlashes]
    | case4 => rfl

theorem doubled_collapseHyphens (s : List Char) : Doubled (collapseHyphens s) ↔ Doubled s := by
  fun_cases collapseHyphens s with
  | case1 rest =>
    refine iff_of_false (fun h => ?_) fun h => ?_
    · have hhead := h.head?
      rw [head?_collapseHyphens] at hhead
      cases hhead
    · cases h.head?
  | case2 c rest _ => rw [Doubled.cons_iff, Doubled.cons_iff, head?_collapseHyphens]
  | case3 => rfl

theorem dropHyphen_collapseHyphens (s : List Char) :
    dropHyphen (collapseHyphens s) = collapseHyphens (s.dropWhile (· == '-')) := by
  have hkept {s : List Char} (hs : s.head? ≠ some '-') : dropHyphen s = s :=
    (shortens_dropHyphen.kept_iff s).2 hs
  induction s with
  | nil => rfl
  | cons c rest ih =>
    by_cases hc : c = '-'
    · subst hc
      rw [List.dropWhile_cons_of_pos rfl, ← ih, collapseHyphens_hyphen]
      split
      · rfl
      · next hhead => exact (hkept hhead).symm
    · rw [List.dropWhile_cons_of_neg (by simpa using hc), collapseHyphens_cons hc]
      exact hkept (by simpa using hc)

/-! ## The start of a value -/

/-- What a value starts with when the angle brackets are gone: the text from the first character that is
neither a hyphen nor one that becomes a hyphen. -/
def opening (value : List Char) : List Char :=
  (value.filter fun c => c ≠ '<' && c ≠ '>').dropWhile fun c => c == '-' || !isAllowed c

theorem doubled_replaceChars (s : List Char) :
    Doubled ((replaceChars s).dropWhile (· == '-')) ↔ Doubled (opening s) := by
  have hslash {c : Char} : (if isAllowed c then c else '-') = '/' ↔ c = '/' := by
    constructor
    · split
      · exact id
      · intro h
        cases h
    · rintro rfl
      rfl
  have hhyphen : ((· == '-') ∘ fun c => if isAllowed c then c else '-') =
      fun c => c == '-' || !isAllowed c := by
    funext c
    cases hc : isAllowed c <;> simp [hc]
  -- Dropping what has become a hyphen is dropping what becomes one.
  rw [replaceChars, List.dropWhile_map, hhyphen, ← opening]
  rcases opening s with _ | ⟨c, _ | ⟨d, rest⟩⟩
  · rfl
  · simp [Doubled.cons_iff]
  · simp [Doubled.cons_iff, hslash]

/-- A pass leaves two slashes in front just if the value starts with two, and no hyphen. -/
theorem front_pass (s : List Char) :
    (pass s).head? ≠ some '-' ∧ (Doubled (pass s) ↔ Doubled (opening s)) := by
  have hlast : KeepsFront fun t => dropLastSlash (collapseSlashes (dropLastHyphen t)) :=
    (keepsFront_dropLastHyphen.comp keepsFront_collapseSlashes).comp keepsFront_dropLastSlash
  rw [pass, dropHyphen_collapseHyphens]
  refine ⟨hlast.front _ ?_, ?_⟩
  · rw [head?_collapseHyphens]
    intro hhead
    have hdropped := List.head?_dropWhile_not (· == '-') (replaceChars s)
    rw [hhead] at hdropped
    cases hdropped
  · exact ((hlast.doubled_iff _).trans (doubled_collapseHyphens _)).trans (doubled_replaceChars s)

theorem opening_of_isAllowed {s : List Char} (h : ∀ c ∈ s, isAllowed c = true)
    (hfront : s.head? ≠ some '-') : opening s = s := by
  rw [opening, filter_brackets h]
  cases s with
  | nil => rfl
  | cons c rest =>
    have hc : c ≠ '-' := fun hc => hfront (congrArg some hc)
    exact List.dropWhile_cons_of_neg (by simp [hc, h c (.head _)])

/-- Two slashes stay in front just if the value starts with two. -/
theorem doubled_settle (s : List Char) : Doubled (settle s) ↔ Doubled (opening s) := by
  fun_induction settle s with
  | case1 s next h ih =>
    -- After one pass the text opens with its first character, and the next passes keep its front.
    obtain ⟨hfront, hdoubled⟩ := front_pass s
    rw [ih, opening_of_isAllowed (isAllowed_pass s) hfront, hdoubled]
  | case2 s next h => exact (front_pass s).2

end Sanitize

/-! ## References -/

namespace Iri

theorem doubled_cutOff {p : Char → Bool} (hp : p '/' = false) (s : List Char) :
    Doubled (cutOff p s).1 ↔ Doubled s := by
  rw [cutOff]
  rcases Text.cut_cases p s with hnone | ⟨before, c, after, rfl, hc, hbefore⟩
  · rw [Text.cutAt?_eq_none hnone]
  · rw [Text.cutAt?_append hbefore hc]
    refine (Doubled.append_cons_iff (.inl ?_)).symm
    rintro rfl
    rw [hp] at hc
    cases hc

/-- Without a scheme, a reference has an authority just if it starts with two slashes. -/
theorem authority_split {s : List Char} (h : (split s).scheme = none) :
    (split s).authority.isSome ↔ Doubled s := by
  cases hscheme : scheme? s with
  | some found =>
    simp only [split, hscheme] at h
    split at h <;> cases h
  | none =>
    simp only [split, hscheme]
    rw [← doubled_cutOff (p := (· == '#')) rfl s, ← doubled_cutOff (p := (· == '?')) rfl]
    split
    · next rest hstart => simp [hstart, Doubled]
    · next hstart =>
      refine iff_of_false (by simp) ?_
      rintro ⟨rest, hrest⟩
      exact hstart rest hrest.symm

/-- A reference that names no host of its own stays at that of the base. -/
theorem authority_target {ref : IriParts} (h : ref.authority = none) (base : IriParts) :
    (target base ref).authority = base.authority := by
  rw [target, if_neg (by simp [h])]
  split
  · rfl
  · split <;> rfl

end Iri

/-! ## Values -/

namespace Sanitize

theorem Clean.doubled_inside {s before after : List Char} (h : Clean s)
    (hs : s = before ++ '/' :: '/' :: after) : before = [] ∨ before.getLast? = some ':' := by
  rcases List.eq_nil_or_concat before with rfl | ⟨t, c, rfl⟩
  · exact .inl rfl
  · right
    by_contra hlast
    have hc : c ≠ ':' := by simpa using hlast
    exact h.slashes c hc ⟨t, after, by simp [hs]⟩

/-- What comes of a value has two slashes after a colon, or else at its start. It starts with them just if
the value does, apart from angle brackets and from what is dropped before the first character that is
kept. Then it is a reference to another host, and no other value without a scheme is: it is resolved at
the host of the base. -/
theorem uri_double_slashes (value : String) :
    (∀ before after, (uri value).toList = before ++ '/' :: '/' :: after →
      before = [] ∨ before.getLast? = some ':') ∧
    ((∀ before after, (uri value).toList = before ++ '/' :: '/' :: after →
      before.getLast? = some ':') ↔ ¬ Doubled (opening value.toList)) ∧
    ((Iri.split (uri value).toList).scheme = none →
      ((Iri.split (uri value).toList).authority.isSome ↔ Doubled (opening value.toList)) ∧
      (¬ Doubled (opening value.toList) →
        ∀ base, (Iri.target base (Iri.split (uri value).toList)).authority = base.authority)) := by
  have hs : (uri value).toList = settle value.toList := String.toList_ofList
  rw [hs]
  have hclean : Clean (settle value.toList) := clean_settle value.toList
  have hdoubled := doubled_settle value.toList
  generalize settle value.toList = s at hclean hdoubled ⊢
  refine ⟨fun before after => hclean.doubled_inside, ?_, fun hscheme => ?_⟩
  · rw [← hdoubled]
    constructor
    · rintro hcolon ⟨after, hstart⟩
      cases hcolon [] after hstart.symm
    · rintro hstart before after hinside
      refine (hclean.doubled_inside hinside).resolve_left ?_
      rintro rfl
      exact hstart ⟨after, hinside.symm⟩
  · have hauthority := (Iri.authority_split hscheme).trans hdoubled
    refine ⟨hauthority, fun hstart base => Iri.authority_target ?_ base⟩
    exact Option.not_isSome_iff_eq_none.1 (mt hauthority.1 hstart)

/-- A value that starts with two slashes keeps them, and names another host than the base. -/
theorem uri_names_other_host :
    let value := "//other.org/a"
    (∃ before after, (uri value).toList = before ++ '/' :: '/' :: after ∧
      before.getLast? ≠ some ':') ∧
    uri value = value ∧
    Iri.ofText? (some "http://base.org/") (uri value) = some "http://other.org/a" := by
  intro value
  have hpass : pass value.toList = value.toList := by decide +kernel
  have hkept : uri value = value := by
    rw [uri, settle_of_clean (pass_eq_self_iff.1 hpass), String.ofList_toList]
  rw [hkept]
  refine ⟨⟨[], "other.org/a".toList, by decide +kernel, by simp⟩, rfl, by decide +kernel⟩

end Sanitize

end Triplify
