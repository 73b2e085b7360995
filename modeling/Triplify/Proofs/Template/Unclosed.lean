import Triplify.Proofs.Template.Rendering
/-!
# Openers that nothing closes

Reading a template ends at the first opener that nothing closes: the opener is text, and so is all that
follows it, with the placeholders of the other kind that may stand there.

`Closed` texts end outside of placeholders, and what follows one is read as if it stood alone.
`unclosed_hides_iff`: what an opener after a closed text hides, and when that is nothing.
-/

namespace Triplify.Template

/-- The placeholders of a template, in order. -/
def placeholders (t : Template) : List Segment := t.segments.filter Segment.isPlaceholder

/-! ## The placeholders in a text -/

/-- The placeholders that are read in a text, in order. -/
def placeholdersIn (text : List Char) : List Segment :=
  (parseFrom [] text).filter Segment.isPlaceholder

variable {before body rest text : List Char} {opener : Char}

theorem filter_literal (text : List Char) : (literal text).filter Segment.isPlaceholder = [] := by
  unfold literal
  split <;> rfl

theorem filter_isPlaceholder_cons {s : Segment} (hs : s.isPlaceholder = true)
    (front back : List Char) :
    (literal front ++ s :: parseFrom [] back).filter Segment.isPlaceholder =
      s :: placeholdersIn back := by
  rw [List.filter_append, filter_literal, List.nil_append, List.filter_cons_of_pos hs, placeholdersIn]

/-- The text that comes before does not count. -/
theorem filter_parseFrom (pending text : List Char) :
    (parseFrom pending text).filter Segment.isPlaceholder = placeholdersIn text := by
  induction text using Text.scan_induction isOpener closer generalizing pending with
  | plain text htext =>
    rw [placeholdersIn, parseFrom_plain _ htext, parseFrom_plain _ htext, filter_literal, filter_literal]
  | unclosed before opener rest hbefore hopener hrest =>
    rw [placeholdersIn, parseFrom_unclosed _ hbefore hopener hrest,
      parseFrom_unclosed _ hbefore hopener hrest, filter_literal, filter_literal]
  | closed before opener body after hbefore hopener hbody ih =>
    rw [placeholdersIn]
    cases hsegment : placeholder? opener body with
    | none =>
      rw [parseFrom_rejected _ _ hbefore hopener hbody hsegment,
        parseFrom_rejected _ _ hbefore hopener hbody hsegment, ih, ih]
    | some s =>
      have hs := (sound_of_placeholder? hopener hbody hsegment).2
      rw [parseFrom_placeholder _ _ hbefore hopener hbody hsegment,
        parseFrom_placeholder _ _ hbefore hopener hbody hsegment, filter_isPlaceholder_cons hs,
        filter_isPlaceholder_cons hs]

theorem placeholdersIn_plain (h : ∀ c ∈ text, isOpener c = false) : placeholdersIn text = [] := by
  rw [placeholdersIn, parseFrom_plain [] h, filter_literal]

theorem placeholdersIn_unclosed (hbefore : ∀ c ∈ before, isOpener c = false)
    (hopener : isOpener opener = true) (hrest : closer opener ∉ rest) :
    placeholdersIn (before ++ opener :: rest) = [] := by
  rw [placeholdersIn, parseFrom_unclosed [] hbefore hopener hrest, filter_literal]

theorem placeholdersIn_closed (after : List Char) (hbefore : ∀ c ∈ before, isOpener c = false)
    (hopener : isOpener opener = true) (hbody : closer opener ∉ body) :
    placeholdersIn (before ++ opener :: (body ++ closer opener :: after)) =
      (placeholder? opener body).toList ++ placeholdersIn after := by
  rw [placeholdersIn]
  cases hsegment : placeholder? opener body with
  | none =>
    rw [parseFrom_rejected [] _ hbefore hopener hbody hsegment, filter_parseFrom]
    rfl
  | some s =>
    have hs := (sound_of_placeholder? hopener hbody hsegment).2
    rw [parseFrom_placeholder [] _ hbefore hopener hbody hsegment, filter_isPlaceholder_cons hs]
    rfl

/-- A text without openers hides nothing. -/
theorem placeholdersIn_append_plain {front : List Char} (hfront : ∀ c ∈ front, isOpener c = false)
    (text : List Char) : placeholdersIn (front ++ text) = placeholdersIn text := by
  have hboth {back : List Char} (hback : ∀ c ∈ back, isOpener c = false) :
      ∀ c ∈ front ++ back, isOpener c = false := List.forall_mem_append.2 ⟨hfront, hback⟩
  induction text using Text.scan_induction isOpener closer with
  | plain text htext => rw [placeholdersIn_plain (hboth htext), placeholdersIn_plain htext]
  | unclosed before opener rest hbefore hopener hrest =>
    rw [← List.append_assoc, placeholdersIn_unclosed (hboth hbefore) hopener hrest,
      placeholdersIn_unclosed hbefore hopener hrest]
  | closed before opener body after hbefore hopener hbody _ =>
    rw [← List.append_assoc, placeholdersIn_closed after (hboth hbefore) hopener hbody,
      placeholdersIn_closed after hbefore hopener hbody]

/-! ## Closed texts -/

/-- Each opener that is read in the text is closed there: what stands between an opener and its closer is
not searched for openers. -/
inductive Closed : List Char → Prop
  | plain {text : List Char} : (∀ c ∈ text, isOpener c = false) → Closed text
  | opened {before body after : List Char} {opener : Char} : (∀ c ∈ before, isOpener c = false) →
    isOpener opener = true → closer opener ∉ body → Closed after →
    Closed (before ++ opener :: (body ++ closer opener :: after))

theorem append_opened (before body after text : List Char) (opener : Char) :
    before ++ opener :: (body ++ closer opener :: after) ++ text =
      before ++ opener :: (body ++ closer opener :: (after ++ text)) := by
  simp

/-- What follows a closed text is read as if it stood alone. -/
theorem Closed.placeholdersIn_append {front : List Char} (h : Closed front) (text : List Char) :
    placeholdersIn (front ++ text) = placeholdersIn front ++ placeholdersIn text := by
  induction h with
  | plain hplain =>
    rw [placeholdersIn_append_plain hplain, placeholdersIn_plain hplain, List.nil_append]
  | opened hbefore hopener hbody _ ih =>
    rw [append_opened, placeholdersIn_closed _ hbefore hopener hbody, ih,
      placeholdersIn_closed _ hbefore hopener hbody, List.append_assoc]

/-- After a closed text, an opener that nothing closes is text, with all that follows it. -/
theorem Closed.parseFrom_unclosed {front : List Char} (h : Closed front)
    (hopener : isOpener opener = true) (hrest : closer opener ∉ rest) (pending : List Char) :
    ∃ segments text, parseFrom pending (front ++ opener :: rest) =
      segments ++ [.literal (text ++ opener :: rest)] := by
  induction h generalizing pending with
  | @plain front hplain =>
    refine ⟨[], pending ++ front, ?_⟩
    rw [Template.parseFrom_unclosed pending hplain hopener hrest, literal_of_ne (by simp),
      List.append_assoc, List.nil_append]
  | @opened before body after opener' hbefore hopener' hbody _ ih =>
    rw [append_opened]
    cases hsegment : placeholder? opener' body with
    | none =>
      rw [parseFrom_rejected pending _ hbefore hopener' hbody hsegment]
      exact ih _
    | some s =>
      obtain ⟨segments, text, hread⟩ := ih []
      refine ⟨literal (pending ++ before) ++ s :: segments, text, ?_⟩
      rw [parseFrom_placeholder pending _ hbefore hopener' hbody hsegment, hread]
      simp

/-- A placeholder as it is written is the first one of the text that it starts. -/
theorem placeholdersIn_written {s : Segment} (hs : s.isPlaceholder = true) (hsound : Sound s)
    (after : List Char) : placeholdersIn (s.written ++ after) = s :: placeholdersIn after := by
  have hread : parseFrom [] ([] ++ (s.written ++ after)) = literal [] ++ s :: parseFrom [] after :=
    parseFrom_written (by simp [Opens]) hsound hs
  rw [List.nil_append] at hread
  rw [placeholdersIn, hread, filter_isPlaceholder_cons hs]

/-- A text has a placeholder just if one is written after a closed text. -/
theorem placeholdersIn_eq_nil_iff (text : List Char) : placeholdersIn text = [] ↔
    ∀ before s after, s.isPlaceholder = true → Sound s → text = before ++ (s.written ++ after) →
      ¬ Closed before := by
  constructor
  · rintro hnone before s after hs hsound rfl hclosed
    rw [hclosed.placeholdersIn_append, placeholdersIn_written hs hsound] at hnone
    exact List.cons_ne_nil _ _ (List.append_eq_nil_iff.1 hnone).2
  · intro hhidden
    -- The first placeholder that is read stands after the pieces that are rejected before it.
    induction text using Text.scan_induction isOpener closer with
    | plain text htext => exact placeholdersIn_plain htext
    | unclosed before opener rest hbefore hopener hrest =>
      exact placeholdersIn_unclosed hbefore hopener hrest
    | closed before opener body after hbefore hopener hbody ih =>
      rw [placeholdersIn_closed after hbefore hopener hbody]
      cases hsegment : placeholder? opener body with
      | some s =>
        obtain ⟨hsound, hs⟩ := sound_of_placeholder? hopener hbody hsegment
        refine (hhidden before s after hs hsound ?_ (.plain hbefore)).elim
        rw [written_of_placeholder? hopener hsegment]
        simp
      | none =>
        refine ih fun before' s after' hs hsound hafter hclosed => ?_
        refine hhidden _ s after' hs hsound ?_ (.opened hbefore hopener hbody hclosed)
        rw [hafter, append_opened]

/-! ## What is hidden -/

/-- After a closed text, such as one without openers, an opener that nothing closes is text, with all that
follows it. The placeholders before it are read, and none after it. So the opener hides nothing just if
there is nothing to hide: if in what follows it no placeholder stands after a closed text. -/
theorem unclosed_hides_iff {front rest : String} {opener : Char} (hfront : Closed front.toList)
    (hopener : isOpener opener = true) (hrest : closer opener ∉ rest.toList) :
    let t := parse (front ++ String.singleton opener ++ rest)
    (∃ segments text, t.segments = segments ++ [.literal (text ++ opener :: rest.toList)]) ∧
      t.placeholders = (parse front).placeholders ∧
      (t.placeholders = (parse front).placeholders ++ (parse rest).placeholders ↔
        ∀ before s after, s.isPlaceholder = true → Sound s →
          rest.toList = before ++ (s.written ++ after) → ¬ Closed before) ∧
      (¬ Opens front.toList → (parse front).placeholders = []) := by
  intro t
  have htext : (front ++ String.singleton opener ++ rest).toList =
      front.toList ++ opener :: rest.toList := by simp
  have hread : t.placeholders = (parse front).placeholders := by
    have hnone := placeholdersIn_unclosed (List.forall_mem_nil _) hopener hrest
    rw [List.nil_append] at hnone
    show placeholdersIn _ = placeholdersIn _
    rw [htext, hfront.placeholdersIn_append, hnone, List.append_nil]
  refine ⟨?_, hread, ?_, fun hplain => placeholdersIn_plain (isOpener_of_not_opens hplain)⟩
  · show ∃ segments text, parseFrom [] _ = _
    rw [htext]
    exact hfront.parseFrom_unclosed hopener hrest []
  · rw [hread, List.self_eq_append_right]
    exact placeholdersIn_eq_nil_iff rest.toList

/-- A path before the opener is read, and one after it is not. -/
theorem second_path_is_hidden :
    let front := "\x7b@a\x7d up to "
    let rest := "3 \x7b@b\x7d"
    Closed front.toList ∧ '~' ∉ rest.toList ∧
      (parse (front ++ String.singleton '^' ++ rest)).placeholders = [.path "@a".toList] ∧
      ∃ before s after, s.isPlaceholder = true ∧ Sound s ∧
        rest.toList = before ++ (s.written ++ after) ∧ Closed before := by
  intro front rest
  have hfront : Closed front.toList := by
    have hlist : front.toList = [] ++ '{' :: (['@', 'a'] ++ closer '{' :: " up to ".toList) := by
      decide +kernel
    rw [hlist]
    refine .opened (List.forall_mem_nil _) rfl (by decide) (.plain ?_)
    exact isOpener_of_not_opens (not_or.2 ⟨by decide +kernel, by decide +kernel⟩)
  have hrest : closer '^' ∉ rest.toList := by decide +kernel
  obtain ⟨-, hread, -⟩ := unclosed_hides_iff hfront rfl hrest
  have hpath : (parse front).placeholders = [.path "@a".toList] := by decide +kernel
  refine ⟨hfront, hrest, hread.trans hpath, "3 ".toList, .path "@b".toList, [], rfl, ?_, ?_, ?_⟩
  · show '}' ∉ "@b".toList
    decide +kernel
  · decide +kernel
  · exact .plain (isOpener_of_not_opens (not_or.2 ⟨by decide +kernel, by decide +kernel⟩))

/-- A caret hides the path after it, and a brace the call. -/
theorem unclosed_hides :
    ¬ Opens "".toList ∧
      '~' ∉ "\x7b@id\x7d".toList ∧ (parse ("" ++ "^" ++ "\x7b@id\x7d")).placeholders = [] ∧
      (parse "\x7b@id\x7d").placeholders = [.path "@id".toList] ∧
      '}' ∉ "^counter_i~".toList ∧ (parse ("" ++ "\x7b" ++ "^counter_i~")).placeholders = [] ∧
      (parse "^counter_i~").placeholders = [.call (.counter "i".toList)] := by
  have hempty : ¬ Opens "".toList := by simp [Opens]
  refine ⟨hempty, ?_, ?_, ?_, ?_, ?_, ?_⟩
  all_goals decide +kernel

end Triplify.Template
