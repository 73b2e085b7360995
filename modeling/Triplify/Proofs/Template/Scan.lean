import Mathlib.Data.List.DropRight
import Triplify.Template
/-!
# Scanning templates

Both readers of templates look for an opener and then for the character that closes it. A text has no
opener, or an opener that nothing closes, or a closed one and a text after it: `scan_induction`.

One equation for each of these cases says what `Template.parseFrom` and `answerCalls` do there.
-/

namespace Triplify

/-! ## Cutting texts -/

namespace Text

variable {p : Char → Bool}

theorem cutAt?_append {before : List Char} {c : Char} (hbefore : ∀ d ∈ before, p d = false)
    (hc : p c = true) (after : List Char) :
    cutAt? p (before ++ c :: after) = some (before, c, after) := by
  induction before with
  | nil => simp [cutAt?, hc]
  | cons d rest ih =>
    have hd := hbefore d (.head _)
    rw [List.cons_append, cutAt?, ih fun e he => hbefore e (.tail _ he)]
    simp [hd]

theorem cutAt?_eq_none {s : List Char} (h : ∀ c ∈ s, p c = false) : cutAt? p s = none := by
  induction s with
  | nil => rfl
  | cons c rest ih =>
    rw [cutAt?, ih fun d hd => h d (.tail _ hd), h c (.head _)]
    rfl

/-- A text is cut at the first character of the kind, if there is one. -/
theorem cut_cases (p : Char → Bool) (s : List Char) : (∀ c ∈ s, p c = false) ∨
    ∃ before c after, s = before ++ c :: after ∧ p c = true ∧ ∀ d ∈ before, p d = false := by
  induction s with
  | nil => exact .inl fun c hc => by cases hc
  | cons c rest ih =>
    by_cases hc : p c = true
    · exact .inr ⟨[], c, rest, rfl, hc, fun d hd => by cases hd⟩
    · have hc : p c = false := by simpa using hc
      rcases ih with hnone | ⟨before, d, after, rfl, hd, hbefore⟩
      · exact .inl (List.forall_mem_cons.2 ⟨hc, hnone⟩)
      · exact .inr ⟨c :: before, d, after, rfl, hd, List.forall_mem_cons.2 ⟨hc, hbefore⟩⟩

theorem cutAt?_closer {body : List Char} {closer : Char} (hbody : closer ∉ body)
    (after : List Char) :
    cutAt? (· == closer) (body ++ closer :: after) = some (body, closer, after) := by
  apply cutAt?_append
  · intro d hd
    rw [beq_eq_false_iff_ne]
    rintro rfl
    exact hbody hd
  · exact beq_self_eq_true closer

theorem cutAt?_unclosed {rest : List Char} {closer : Char} (hrest : closer ∉ rest) :
    cutAt? (· == closer) rest = none := by
  apply cutAt?_eq_none
  intro d hd
  rw [beq_eq_false_iff_ne]
  rintro rfl
  exact hrest hd

/-- Induction on a text from opener to opener. -/
@[elab_as_elim]
theorem scan_induction (p : Char → Bool) (closer : Char → Char) {motive : List Char → Prop}
    (plain : ∀ s, (∀ c ∈ s, p c = false) → motive s)
    (unclosed : ∀ before opener rest, (∀ c ∈ before, p c = false) → p opener = true →
      closer opener ∉ rest → motive (before ++ opener :: rest))
    (closed : ∀ before opener body after, (∀ c ∈ before, p c = false) → p opener = true →
      closer opener ∉ body → motive after →
      motive (before ++ opener :: (body ++ closer opener :: after)))
    (s : List Char) : motive s := by
  rcases cut_cases p s with hnone | ⟨before, opener, rest, hs, hopener, hbefore⟩
  · exact plain s hnone
  · rcases cut_cases (· == closer opener) rest with hrest | ⟨body, c, after, hafter, hc, hbody⟩
    · rw [hs]
      refine unclosed before opener rest hbefore hopener fun hmem => ?_
      simpa using hrest _ hmem
    · obtain rfl : c = closer opener := by simpa using hc
      have hshorter : after.length < s.length := by
        rw [hs, hafter]
        simp only [List.length_append, List.length_cons]
        omega
      rw [hs, hafter]
      refine closed before opener body after hbefore hopener (fun hmem => ?_)
        (scan_induction p closer plain unclosed closed after)
      simpa using hbody _ hmem
termination_by s.length

end Text

/-! ## Calls as they are written -/

namespace Call

/-- The name that a call asks for. -/
def name : Call → List Char
  | counter name => name
  | identifier name => name

/-- What stands between `^` and `~`. -/
def body : Call → List Char
  | counter name => counterWord ++ name
  | identifier name => identifierWord ++ name

/-- A call as it is written. -/
def text (c : Call) : List Char := '^' :: (c.body ++ ['~'])

theorem isPrefixOf?_counterWord (name : List Char) :
    counterWord.isPrefixOf? (identifierWord ++ name) = none := by
  have hcounter : counterWord = 'c' :: counterWord.tail := by decide +kernel
  have hidentifier : identifierWord = 'u' :: identifierWord.tail := by decide +kernel
  rw [hcounter, hidentifier, List.cons_append]
  rfl

theorem parse?_body (c : Call) : parse? c.body = some c := by
  cases c with
  | counter name =>
    have hname : counterWord.isPrefixOf? (counterWord ++ name) = some name :=
      List.isPrefixOf?_eq_some_iff_append_eq.2 rfl
    rw [body, parse?, hname]
  | identifier name =>
    have hname : identifierWord.isPrefixOf? (identifierWord ++ name) = some name :=
      List.isPrefixOf?_eq_some_iff_append_eq.2 rfl
    rw [body, parse?, isPrefixOf?_counterWord, hname]
    rfl

/-- Only the words of a call are read as the call. -/
theorem body_of_parse? {body : List Char} {c : Call} (h : parse? body = some c) : c.body = body := by
  unfold parse? at h
  split at h
  · next name hname =>
    cases h
    exact List.isPrefixOf?_eq_some_iff_append_eq.1 hname
  · obtain ⟨name, hname, rfl⟩ := Option.map_eq_some_iff.1 h
    exact List.isPrefixOf?_eq_some_iff_append_eq.1 hname

theorem mem_body_tilde {c : Call} : '~' ∈ c.body ↔ '~' ∈ c.name := by
  have hcounter : '~' ∉ counterWord := by decide +kernel
  have hidentifier : '~' ∉ identifierWord := by decide +kernel
  cases c with
  | counter name => simp [body, Call.name, hcounter]
  | identifier name => simp [body, Call.name, hidentifier]

end Call

/-! ## Reading segments -/

namespace Template

variable {before body rest : List Char} {opener : Char}

theorem literal_nil : literal [] = [] := rfl

theorem literal_of_ne {text : List Char} (h : text ≠ []) : literal text = [.literal text] := by
  rw [literal, if_neg (by simpa using h)]

theorem parseFrom_plain (pending : List Char) {text : List Char}
    (h : ∀ c ∈ text, isOpener c = false) : parseFrom pending text = literal (pending ++ text) := by
  rw [parseFrom]
  split
  · rfl
  · next hcut => cases (Text.cutAt?_eq_none h).symm.trans hcut

/-- An opener that nothing closes is text, and so is all that follows it. -/
theorem parseFrom_unclosed (pending : List Char) (hbefore : ∀ c ∈ before, isOpener c = false)
    (hopener : isOpener opener = true) (hrest : closer opener ∉ rest) :
    parseFrom pending (before ++ opener :: rest) = literal (pending ++ (before ++ opener :: rest)) := by
  have hcut := Text.cutAt?_append hbefore hopener rest
  rw [parseFrom]
  split
  · rfl
  · next hcut' =>
    cases hcut.symm.trans hcut'
    split
    · rfl
    · next hclosed => cases (Text.cutAt?_unclosed hrest).symm.trans hclosed

theorem parseFrom_closed (pending after : List Char) (hbefore : ∀ c ∈ before, isOpener c = false)
    (hopener : isOpener opener = true) (hbody : closer opener ∉ body) :
    parseFrom pending (before ++ opener :: (body ++ closer opener :: after)) =
      ((placeholder? opener body).map fun segment =>
        literal (pending ++ before) ++ segment :: parseFrom [] after).getD
      (parseFrom (pending ++ before ++ opener :: body ++ [closer opener]) after) := by
  have hcut := Text.cutAt?_append hbefore hopener (body ++ closer opener :: after)
  have hclosed := Text.cutAt?_closer hbody after
  rw [parseFrom]
  split
  · next hnone => cases hcut.symm.trans hnone
  · next hsome =>
    cases hcut.symm.trans hsome
    split
    · next hnone => cases hclosed.symm.trans hnone
    · next hsome' =>
      cases hclosed.symm.trans hsome'
      split
      · next segment hsegment => rw [hsegment]; rfl
      · next hnone => rw [hnone]; rfl

/-- A placeholder ends the text before it. -/
theorem parseFrom_placeholder (pending after : List Char) {segment : Segment}
    (hbefore : ∀ c ∈ before, isOpener c = false) (hopener : isOpener opener = true)
    (hbody : closer opener ∉ body) (hsegment : placeholder? opener body = some segment) :
    parseFrom pending (before ++ opener :: (body ++ closer opener :: after)) =
      literal (pending ++ before) ++ segment :: parseFrom [] after := by
  rw [parseFrom_closed pending after hbefore hopener hbody, hsegment]
  rfl

/-- What stands between an opener and its closer and is no placeholder is text. -/
theorem parseFrom_rejected (pending after : List Char) (hbefore : ∀ c ∈ before, isOpener c = false)
    (hopener : isOpener opener = true) (hbody : closer opener ∉ body)
    (hnone : placeholder? opener body = none) :
    parseFrom pending (before ++ opener :: (body ++ closer opener :: after)) =
      parseFrom (pending ++ (before ++ opener :: (body ++ [closer opener]))) after := by
  rw [parseFrom_closed pending after hbefore hopener hbody, hnone]
  simp

theorem opener_cases {c : Char} (h : isOpener c = true) : c = '{' ∨ c = '^' := by
  simpa [isOpener] using h

theorem closer_caret : closer '^' = '~' := rfl

theorem placeholder?_path (body : List Char) : placeholder? '{' body = some (.path body) := rfl

theorem placeholder?_call (body : List Char) :
    placeholder? '^' body = (Call.parse? body).map .call := rfl

end Template

/-! ## Answering calls -/

section

variable {ε : Type} (answer : Call → Except ε (List Char)) {before body rest : List Char}

theorem answerCalls_plain {expr : List Char} (h : '^' ∉ expr) : answerCalls answer expr = .ok expr := by
  rw [answerCalls]
  split
  · rfl
  · next hcut => cases (Text.cutAt?_unclosed h).symm.trans hcut

theorem answerCalls_unclosed (hbefore : '^' ∉ before) (hrest : '~' ∉ rest) :
    answerCalls answer (before ++ '^' :: rest) = .ok (before ++ '^' :: rest) := by
  have hcut := Text.cutAt?_closer hbefore rest
  rw [answerCalls]
  split
  · rfl
  · next hcut' =>
    cases hcut.symm.trans hcut'
    split
    · rfl
    · next hclosed => cases (Text.cutAt?_unclosed hrest).symm.trans hclosed

theorem answerCalls_closed (after : List Char) (hbefore : '^' ∉ before) (hbody : '~' ∉ body) :
    answerCalls answer (before ++ '^' :: (body ++ '~' :: after)) = do
      let value ← ((Call.parse? body).map answer).getD (.ok ('^' :: (body ++ ['~'])))
      let resolved ← answerCalls answer after
      return before ++ value ++ resolved := by
  have hcut := Text.cutAt?_closer hbefore (body ++ '~' :: after)
  have hclosed := Text.cutAt?_closer hbody after
  rw [answerCalls]
  split
  · next hnone => cases hcut.symm.trans hnone
  · next hsome =>
    cases hcut.symm.trans hsome
    split
    · next hnone => cases hclosed.symm.trans hnone
    · next hsome' =>
      cases hclosed.symm.trans hsome'
      cases Call.parse? body <;> rfl

/-- A call is answered before what follows it. -/
theorem answerCalls_call (after : List Char) {c : Call} (hbefore : '^' ∉ before) (hbody : '~' ∉ body)
    (hcall : Call.parse? body = some c) :
    answerCalls answer (before ++ '^' :: (body ++ '~' :: after)) = do
      let value ← answer c
      let resolved ← answerCalls answer after
      return before ++ value ++ resolved := by
  rw [answerCalls_closed answer after hbefore hbody, hcall]
  rfl

/-- What is no call stays as it is. -/
theorem answerCalls_rejected (after : List Char) (hbefore : '^' ∉ before) (hbody : '~' ∉ body)
    (hnone : Call.parse? body = none) :
    answerCalls answer (before ++ '^' :: (body ++ '~' :: after)) =
      (before ++ '^' :: (body ++ ['~']) ++ ·) <$> answerCalls answer after := by
  rw [answerCalls_closed answer after hbefore hbody, hnone, map_eq_pure_bind]
  rfl

end

end Triplify
