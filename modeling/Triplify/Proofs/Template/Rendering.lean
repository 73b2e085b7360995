import Mathlib.Data.List.Chain
import Triplify.Proofs.Template.Scan
/-!
# Templates as they are written

A template is written segment by segment. Reading a text loses nothing of it, and gives a normal form:
texts that are not empty and never stand side by side, and placeholders that end at their closer.

`parse_render_normal`: what is read is written back as it was, and a normal form whose texts open
nothing is read back.
-/

namespace Triplify

/-! ## Writing segments -/

/-- A segment as it is written. -/
def Segment.written : Segment → List Char
  | literal text => text
  | path expr => '{' :: (expr ++ ['}'])
  | call c => c.text

/-- Segments as they are written, one after the other. -/
def Segment.writtenAll (segments : List Segment) : List Char := segments.flatMap written

namespace Template

/-- The text of a template. -/
def render (t : Template) : String := String.ofList (Segment.writtenAll t.segments)

/-! ## Normal forms -/

/-- A segment that reading can give: a text is not empty, and a placeholder has no closer inside. -/
def Sound : Segment → Prop
  | .literal text => text ≠ []
  | .path expr => '}' ∉ expr
  | .call c => '~' ∉ c.name

/-- All segments are sound, and of two next to each other one is a placeholder. -/
structure Normal (segments : List Segment) : Prop where
  sound : ∀ s ∈ segments, Sound s
  apart : segments.IsChain fun s s' => s.isPlaceholder ∨ s'.isPlaceholder

/-- A text in which nothing opens. -/
def Opens (text : List Char) : Prop := '{' ∈ text ∨ '^' ∈ text

variable {segments : List Segment}

theorem writtenAll_cons (s : Segment) (segments : List Segment) :
    Segment.writtenAll (s :: segments) = s.written ++ Segment.writtenAll segments :=
  List.flatMap_cons

theorem writtenAll_literal (text : List Char) : Segment.writtenAll (literal text) = text := by
  unfold literal
  split
  · next hempty => exact (List.isEmpty_iff.1 hempty).symm
  · exact List.append_nil text

/-! ## Reading -/

/-- What a placeholder is written as is what it was read from. -/
theorem written_of_placeholder? {opener : Char} {body : List Char} {s : Segment}
    (hopener : isOpener opener = true) (h : placeholder? opener body = some s) :
    s.written = opener :: (body ++ [closer opener]) := by
  rcases opener_cases hopener with rfl | rfl
  · rw [placeholder?_path] at h
    cases h
    rfl
  · rw [placeholder?_call] at h
    obtain ⟨c, hc, rfl⟩ := Option.map_eq_some_iff.1 h
    rw [← Call.body_of_parse? hc]
    rfl

theorem sound_of_placeholder? {opener : Char} {body : List Char} {s : Segment}
    (hopener : isOpener opener = true) (hbody : closer opener ∉ body)
    (h : placeholder? opener body = some s) : Sound s ∧ s.isPlaceholder = true := by
  rcases opener_cases hopener with rfl | rfl
  · rw [placeholder?_path] at h
    cases h
    exact ⟨hbody, rfl⟩
  · rw [placeholder?_call] at h
    obtain ⟨c, hc, rfl⟩ := Option.map_eq_some_iff.1 h
    refine ⟨fun hmem => hbody ?_, rfl⟩
    rw [← Call.body_of_parse? hc]
    exact Call.mem_body_tilde.2 hmem

/-- Nothing is lost: the segments are written as the text that they were read from. -/
theorem writtenAll_parseFrom (pending text : List Char) :
    Segment.writtenAll (parseFrom pending text) = pending ++ text := by
  induction text using Text.scan_induction isOpener closer generalizing pending with
  | plain text htext => rw [parseFrom_plain pending htext, writtenAll_literal]
  | unclosed before opener rest hbefore hopener hrest =>
    rw [parseFrom_unclosed pending hbefore hopener hrest, writtenAll_literal]
  | closed before opener body after hbefore hopener hbody ih =>
    cases hsegment : placeholder? opener body with
    | none =>
      rw [parseFrom_rejected pending _ hbefore hopener hbody hsegment, ih]
      simp
    | some s =>
      rw [parseFrom_placeholder pending _ hbefore hopener hbody hsegment, Segment.writtenAll,
        List.flatMap_append, List.flatMap_cons, ← Segment.writtenAll, ← Segment.writtenAll,
        writtenAll_literal, ih, written_of_placeholder? hopener hsegment]
      simp

theorem normal_literal (text : List Char) : Normal (literal text) := by
  unfold literal
  split
  · exact ⟨fun s hs => (List.not_mem_nil hs).elim, .nil⟩
  · next hne =>
    refine ⟨fun s hs => ?_, .singleton _⟩
    rw [List.mem_singleton] at hs
    subst hs
    simpa [Sound] using hne

/-- A sound placeholder may stand between any two normal forms. -/
theorem Normal.append_placeholder {front back : List Segment} {s : Segment} (hfront : Normal front)
    (hsound : Sound s) (hs : s.isPlaceholder = true) (hback : Normal back) :
    Normal (front ++ s :: back) where
  sound := by
    intro s' hs'
    rcases List.mem_append.1 hs' with hs' | hs'
    · exact hfront.sound s' hs'
    · rcases List.mem_cons.1 hs' with rfl | hs'
      · exact hsound
      · exact hback.sound s' hs'
  apart := by
    refine List.isChain_append.2 ⟨hfront.apart, ?_, fun _ _ s' hs' => ?_⟩
    · exact List.isChain_cons.2 ⟨fun _ _ => .inl hs, hback.apart⟩
    · cases hs'
      exact .inr hs

theorem normal_parseFrom (pending text : List Char) : Normal (parseFrom pending text) := by
  induction text using Text.scan_induction isOpener closer generalizing pending with
  | plain text htext =>
    rw [parseFrom_plain pending htext]
    exact normal_literal _
  | unclosed before opener rest hbefore hopener hrest =>
    rw [parseFrom_unclosed pending hbefore hopener hrest]
    exact normal_literal _
  | closed before opener body after hbefore hopener hbody ih =>
    cases hsegment : placeholder? opener body with
    | none =>
      rw [parseFrom_rejected pending _ hbefore hopener hbody hsegment]
      exact ih _
    | some s =>
      rw [parseFrom_placeholder pending _ hbefore hopener hbody hsegment]
      obtain ⟨hsound, hs⟩ := sound_of_placeholder? hopener hbody hsegment
      exact (normal_literal _).append_placeholder hsound hs (ih [])

/-! ## Reading back -/

theorem isOpener_of_not_opens {text : List Char} (h : ¬ Opens text) :
    ∀ c ∈ text, isOpener c = false := by
  intro c hc
  by_contra hopener
  rcases opener_cases (by simpa using hopener) with rfl | rfl
  · exact h (.inl hc)
  · exact h (.inr hc)

/-- A placeholder is read where it is written, whatever follows. -/
theorem parseFrom_written {s : Segment} {text after : List Char} (htext : ¬ Opens text)
    (hsound : Sound s) (hs : s.isPlaceholder = true) :
    parseFrom [] (text ++ (s.written ++ after)) = literal text ++ s :: parseFrom [] after := by
  have hbefore := isOpener_of_not_opens htext
  have hread (opener : Char) (body : List Char) (hopener : isOpener opener = true)
      (hbody : closer opener ∉ body) (hbodyRead : placeholder? opener body = some s)
      (hwritten : s.written = opener :: (body ++ [closer opener])) :
      parseFrom [] (text ++ (s.written ++ after)) = literal text ++ s :: parseFrom [] after := by
    have happend : text ++ (s.written ++ after) =
        text ++ opener :: (body ++ closer opener :: after) := by
      rw [hwritten]
      simp
    rw [happend, parseFrom_placeholder [] _ hbefore hopener hbody hbodyRead, List.nil_append]
  cases s with
  | literal text => cases hs
  | path expr => exact hread '{' expr rfl hsound rfl rfl
  | call c =>
    refine hread '^' c.body rfl (fun hmem => hsound (Call.mem_body_tilde.1 hmem)) ?_ rfl
    rw [placeholder?_call, Call.parse?_body]
    rfl

/-- A normal form whose texts open nothing is read back, also after a text that does not run into one of
its own. -/
theorem parseFrom_writtenAll {text : List Char} (hnormal : Normal segments)
    (hplain : ∀ text, .literal text ∈ segments → ¬ Opens text) (htext : ¬ Opens text)
    (hhead : text = [] ∨ ∀ s ∈ segments.head?, s.isPlaceholder) :
    parseFrom [] (text ++ Segment.writtenAll segments) = literal text ++ segments := by
  induction segments generalizing text with
  | nil =>
    have hnil : Segment.writtenAll [] = [] := rfl
    rw [hnil, List.append_nil, List.append_nil, parseFrom_plain [] (isOpener_of_not_opens htext),
      List.nil_append]
  | cons s rest ih =>
    obtain ⟨hapart, hchain⟩ := List.isChain_cons.1 hnormal.apart
    have hsound : Sound s := hnormal.sound s (.head _)
    have hrest : Normal rest := ⟨fun s' hs' => hnormal.sound s' (.tail _ hs'), hchain⟩
    have hplain' : ∀ text, .literal text ∈ rest → ¬ Opens text :=
      fun text hmem => hplain text (.tail _ hmem)
    have hempty : ¬ Opens [] := by simp [Opens]
    rw [writtenAll_cons]
    by_cases hs : s.isPlaceholder = true
    · have hback := ih hrest hplain' hempty (.inl rfl)
      rw [List.nil_append, literal_nil, List.nil_append] at hback
      rw [parseFrom_written htext hsound hs, hback]
    · -- A text starts the normal form. It is read up to the placeholder after it.
      cases s with
      | path => exact (hs rfl).elim
      | call => exact (hs rfl).elim
      | literal front =>
        obtain rfl : text = [] := hhead.resolve_right fun h => hs (h _ rfl)
        have hfollows : ∀ s' ∈ rest.head?, s'.isPlaceholder :=
          fun s' hs' => (hapart s' hs').resolve_left hs
        have hback := ih hrest hplain' (hplain front (.head _)) (.inr hfollows)
        rw [literal_of_ne hsound] at hback
        exact hback

/-! ## The normal form of a text -/

/-- A template in normal form. -/
def IsNormal (t : Template) : Prop := Normal t.segments

/-- Reading a text gives a template in normal form that is written as the text. A template in normal
form whose texts open nothing is read back from what it is written as: its paths may hold openers and
calls, and the names of its calls may hold braces and carets. -/
theorem parse_render_normal :
    (∀ text : String, (parse text).render = text ∧ (parse text).IsNormal) ∧
      ∀ t : Template, t.IsNormal → (∀ text, .literal text ∈ t.segments → ¬ Opens text) →
        parse t.render = t := by
  refine ⟨fun text => ⟨?_, ?_⟩, fun t hnormal hplain => ?_⟩
  · rw [render, parse, writtenAll_parseFrom, List.nil_append, String.ofList_toList]
  · exact normal_parseFrom [] text.toList
  · have hempty : ¬ Opens [] := by simp [Opens]
    have hback := parseFrom_writtenAll hnormal hplain hempty (.inl rfl)
    rw [List.nil_append, literal_nil, List.nil_append] at hback
    rw [parse, render, String.toList_ofList, hback]

/-- A text, a path with a call and an opener in it, and calls whose names have braces and a caret. -/
def crowded : Template :=
  ⟨[.literal "a~\x7d".toList, .path "b\x7b[^counter_i~]".toList, .call (.counter "\x7bx^\x7d".toList),
    .call (.identifier []), .literal "\x7d".toList]⟩

theorem crowded_isNormal : crowded.IsNormal where
  sound := by
    intro s hs
    simp only [crowded, List.mem_cons, List.not_mem_nil, or_false] at hs
    rcases hs with rfl | rfl | rfl | rfl | rfl <;> simp [Sound, Call.name]
  apart := by simp [crowded, Segment.isPlaceholder]

theorem crowded_parse_render :
    crowded.IsNormal ∧ (∀ text, .literal text ∈ crowded.segments → ¬ Opens text) ∧
      crowded.render = "a~\x7d\x7bb\x7b[^counter_i~]\x7d^counter_\x7bx^\x7d~^uniqueidentifier_~\x7d" ∧
      parse crowded.render = crowded := by
  have hplain : ∀ text, .literal text ∈ crowded.segments → ¬ Opens text := by
    intro text htext
    simp only [crowded, List.mem_cons, Segment.literal.injEq, List.not_mem_nil, or_false,
      reduceCtorEq, false_or] at htext
    rcases htext with rfl | rfl <;> simp [Opens]
  exact ⟨crowded_isNormal, hplain, by decide +kernel,
    parse_render_normal.2 crowded crowded_isNormal hplain⟩

end Template

end Triplify
