import Triplify.Mapping.Values
import Triplify.Proofs.Template.Rendering
/-!
# The readers of calls agree

Calls are read in three places: among the segments of a template, in an expression, and in the expression
of a test, which may stand in braces. All three find the same calls in a text and put the same answers in
their places, whoever answers.

`readers_of_calls_agree`: template, expression and test agree, and what an answer brings in is never read
again.
-/

namespace Triplify

section

variable {ε : Type} (answer : Call → Except ε (List Char))

/-! ## Answers in place of calls -/

/-- The text that a segment stands for when its calls are answered. A path stays as it is written. -/
def Segment.answered : Segment → Except ε (List Char)
  | call c => answer c
  | s => .ok s.written

/-- The text that segments stand for. The first call without an answer decides. -/
def Segment.answeredAll : List Segment → Except ε (List Char)
  | [] => .ok []
  | s :: rest => do
    let text ← s.answered answer
    let texts ← answeredAll rest
    return text ++ texts

/-- The call that a segment is. -/
def Segment.call? : Segment → Option Call
  | call c => some c
  | _ => none

/-- The calls among segments, in order. -/
def Segment.calls (segments : List Segment) : List Call := segments.filterMap call?

/-- The first of the calls that is not answered fails like this. -/
def FailsFirst (calls : List Call) (e : ε) : Prop :=
  ∃ before c after, calls = before ++ c :: after ∧ (∀ d ∈ before, ∃ text, answer d = .ok text) ∧
    answer c = .error e

theorem failsFirst_nil (e : ε) : ¬ FailsFirst answer [] e := by
  rintro ⟨before, c, after, hcalls, -⟩
  exact List.append_ne_nil_of_right_ne_nil before (List.cons_ne_nil c after) hcalls.symm

theorem failsFirst_cons {c : Call} {calls : List Call} {e : ε} : FailsFirst answer (c :: calls) e ↔
    answer c = .error e ∨ (∃ text, answer c = .ok text) ∧ FailsFirst answer calls e := by
  constructor
  · rintro ⟨before, c', after, hcalls, hbefore, hc'⟩
    cases before with
    | nil =>
      cases hcalls
      exact .inl hc'
    | cons d before =>
      cases hcalls
      have hc := hbefore c (.head _)
      exact .inr ⟨hc, before, c', after, rfl, fun d hd => hbefore d (.tail _ hd), hc'⟩
  · rintro (hc | ⟨hok, before, c', after, rfl, hbefore, hc'⟩)
    · exact ⟨[], c, calls, rfl, List.forall_mem_nil _, hc⟩
    · exact ⟨c :: before, c', after, rfl, List.forall_mem_cons.2 ⟨hok, hbefore⟩, hc'⟩

namespace Segment

variable {segments : List Segment}

theorem answeredAll_append (segments segments' : List Segment) :
    answeredAll answer (segments ++ segments') = do
      let text ← answeredAll answer segments
      let texts ← answeredAll answer segments'
      return text ++ texts := by
  induction segments with
  | nil =>
    simp only [List.nil_append, answeredAll]
    exact (bind_pure _).symm
  | cons s rest ih =>
    rw [List.cons_append, answeredAll, answeredAll, ih]
    simp only [bind_assoc, pure_bind, List.append_assoc]

theorem answeredAll_literal (text : List Char) :
    answeredAll answer (Template.literal text) = .ok text := by
  by_cases h : text = []
  · subst h
    rfl
  · rw [Template.literal_of_ne h]
    simp only [answeredAll, answered, written, bind, Except.bind, pure, Except.pure, List.append_nil]

/-- Segments fail exactly if one of their calls does, and like the first of these. -/
theorem answeredAll_error {e : ε} :
    answeredAll answer segments = .error e ↔ FailsFirst answer (calls segments) e := by
  induction segments with
  | nil => exact iff_of_false (fun h => by cases h) (failsFirst_nil answer e)
  | cons s rest ih =>
    have hquiet {text : List Char} (htext : s.answered answer = .ok text) :
        answeredAll answer (s :: rest) = .error e ↔ FailsFirst answer (calls rest) e := by
      rw [answeredAll, htext, ← ih]
      cases answeredAll answer rest with
      | error e' => exact Iff.rfl
      | ok texts => exact iff_of_false (fun h => by cases h) fun h => by cases h
    cases s with
    | literal text => exact hquiet rfl
    | path expr => exact hquiet rfl
    | call c =>
      have hcalls : calls (call c :: rest) = c :: calls rest := rfl
      rw [hcalls, failsFirst_cons]
      cases hc : answer c with
      | error e' =>
        have hfails : answeredAll answer (call c :: rest) = .error e' := by
          rw [answeredAll, answered, hc]
          rfl
        rw [hfails]
        simp
      | ok text =>
        rw [hquiet hc]
        simp

/-! ## Segments and expressions -/

theorem notMem_caret {text : List Char} (h : ∀ c ∈ text, Template.isOpener c = false) :
    '^' ∉ text :=
  fun hmem => by cases h _ hmem

/-- In a text without braces, the segments stand for what the text is as an expression. -/
theorem answeredAll_parseFrom (pending : List Char) {text : List Char} (h : '{' ∉ text) :
    answeredAll answer (Template.parseFrom pending text) =
      (pending ++ ·) <$> answerCalls answer text := by
  induction text using Text.scan_induction Template.isOpener Template.closer generalizing pending with
  | plain text htext =>
    rw [Template.parseFrom_plain pending htext, answeredAll_literal,
      answerCalls_plain answer (notMem_caret htext)]
    rfl
  | unclosed before opener rest hbefore hopener hrest =>
    obtain rfl : opener = '^' := by
      refine (Template.opener_cases hopener).resolve_left ?_
      rintro rfl
      simp at h
    rw [Template.parseFrom_unclosed pending hbefore hopener hrest, answeredAll_literal,
      answerCalls_unclosed answer (notMem_caret hbefore) hrest]
    rfl
  | closed before opener body after hbefore hopener hbody ih =>
    obtain rfl : opener = '^' := by
      refine (Template.opener_cases hopener).resolve_left ?_
      rintro rfl
      simp at h
    have hafter : '{' ∉ after := by
      simp only [List.mem_append, List.mem_cons, not_or] at h
      exact h.2.2.2.2
    rw [Template.closer_caret] at hbody ⊢
    cases hcall : Call.parse? body with
    | none =>
      have hnone : Template.placeholder? '^' body = none := by
        rw [Template.placeholder?_call, hcall]
        rfl
      have hanswers := answerCalls_rejected answer after (notMem_caret hbefore) hbody hcall
      have hsegments := Template.parseFrom_rejected pending after hbefore hopener hbody hnone
      rw [Template.closer_caret] at hsegments
      rw [hsegments, hanswers, ih _ hafter, Functor.map_map]
      simp only [List.append_assoc]
    | some c =>
      have hsome : Template.placeholder? '^' body = some (.call c) := by
        rw [Template.placeholder?_call, hcall]
        rfl
      have hanswers := answerCalls_call answer after (notMem_caret hbefore) hbody hcall
      have hsegments := Template.parseFrom_placeholder pending after hbefore hopener hbody
        hsome
      rw [Template.closer_caret] at hsegments
      rw [hsegments, hanswers, answeredAll_append, answeredAll_literal, answeredAll, ih [] hafter]
      simp only [answered, List.nil_append, map_eq_pure_bind, bind_assoc, pure_bind]
      simp only [bind, Except.bind, List.append_assoc]

end Segment

/-! ## Expressions in braces -/

/-- Text in front of an expression that opens no call stays in front. -/
theorem answerCalls_append_front {front : List Char} (hfront : '^' ∉ front) (expr : List Char) :
    answerCalls answer (front ++ expr) = (front ++ ·) <$> answerCalls answer expr := by
  have hjoin {before : List Char} (hbefore : '^' ∉ before) : '^' ∉ front ++ before := by
    simp [hfront, hbefore]
  induction expr using Text.scan_induction (· == '^') (fun _ => '~') with
  | plain expr hplain =>
    have hexpr : '^' ∉ expr := fun hmem => by cases hplain _ hmem
    rw [answerCalls_plain answer (hjoin hexpr), answerCalls_plain answer hexpr]
    rfl
  | unclosed before opener rest hbefore hopener hrest =>
    obtain rfl : opener = '^' := by simpa using hopener
    have hbefore : '^' ∉ before := fun hmem => by cases hbefore _ hmem
    rw [← List.append_assoc, answerCalls_unclosed answer (hjoin hbefore) hrest,
      answerCalls_unclosed answer hbefore hrest, List.append_assoc]
    rfl
  | closed before opener body after hbefore hopener hbody _ =>
    obtain rfl : opener = '^' := by simpa using hopener
    have hbefore : '^' ∉ before := fun hmem => by cases hbefore _ hmem
    rw [← List.append_assoc, answerCalls_closed answer _ (hjoin hbefore) hbody,
      answerCalls_closed answer _ hbefore hbody]
    simp only [map_eq_pure_bind, bind_assoc, pure_bind, List.append_assoc]

/-- Text behind an expression that neither opens nor closes a call stays behind. -/
theorem answerCalls_append_back {back : List Char} (hopen : '^' ∉ back) (hclose : '~' ∉ back)
    (expr : List Char) :
    answerCalls answer (expr ++ back) = (· ++ back) <$> answerCalls answer expr := by
  induction expr using Text.scan_induction (· == '^') (fun _ => '~') with
  | plain expr hplain =>
    have hexpr : '^' ∉ expr := fun hmem => by cases hplain _ hmem
    have hjoin : '^' ∉ expr ++ back := by simp [hexpr, hopen]
    rw [answerCalls_plain answer hjoin, answerCalls_plain answer hexpr]
    rfl
  | unclosed before opener rest hbefore hopener hrest =>
    obtain rfl : opener = '^' := by simpa using hopener
    have hbefore : '^' ∉ before := fun hmem => by cases hbefore _ hmem
    have hjoin : '~' ∉ rest ++ back := by simp [hrest, hclose]
    rw [List.append_assoc, List.cons_append, answerCalls_unclosed answer hbefore hjoin,
      answerCalls_unclosed answer hbefore hrest]
    exact congrArg Except.ok (by simp)
  | closed before opener body after hbefore hopener hbody ih =>
    obtain rfl : opener = '^' := by simpa using hopener
    have hbefore : '^' ∉ before := fun hmem => by cases hbefore _ hmem
    have hassoc : before ++ '^' :: (body ++ '~' :: after) ++ back =
        before ++ '^' :: (body ++ '~' :: (after ++ back)) := by simp
    rw [hassoc, answerCalls_closed answer _ hbefore hbody, answerCalls_closed answer _ hbefore hbody, ih]
    simp only [map_eq_pure_bind, bind_assoc, pure_bind, List.append_assoc]

/-- An expression in braces. -/
def braced (expr : String) : String := "\x7b" ++ expr ++ "\x7d"

theorem braced_toList (expr : String) : (braced expr).toList = ['{'] ++ (expr.toList ++ ['}']) := by
  simp [braced]

theorem trimChars_braced (expr : List Char) :
    Text.trimChars (['{'] ++ (expr ++ ['}'])) = ['{'] ++ (expr ++ ['}']) := by
  have hopen : Text.isBlank '{' = false := by decide
  have hclose : Text.isBlank '}' = false := by decide
  simp [Text.trimChars, Text.trimEndChars, hopen, hclose]

/-- Braces around an expression make no difference in a test. -/
theorem answerMatch_braced (expr : String) :
    answerMatch answer (braced expr) = (answerCalls answer expr.toList).map String.ofList := by
  have hopen : '^' ∉ ['{'] := by decide
  have hclose : '^' ∉ ['}'] ∧ '~' ∉ ['}'] := by decide
  rw [answerMatch, braced_toList, trimChars_braced, answerCalls_append_front answer hopen,
    answerCalls_append_back answer hclose.1 hclose.2]
  cases answerCalls answer expr.toList with
  | error e => rfl
  | ok text =>
    refine congrArg (fun s => Except.ok (String.ofList s)) ?_
    simp [dropOpenBrace, dropCloseBrace]

/-- A value that is an expression in braces is a path and nothing else. -/
theorem parse_braced {expr : String} (h : '}' ∉ expr.toList) :
    Template.parse (braced expr) = ⟨[.path expr.toList]⟩ := by
  have hnil : Template.parseFrom [] [] = [] := Template.parseFrom_plain [] (List.forall_mem_nil _)
  have hopener : Template.isOpener '{' = true := rfl
  have hread := Template.parseFrom_placeholder [] [] (List.forall_mem_nil _) hopener h
    (Template.placeholder?_path expr.toList)
  rw [hnil] at hread
  rw [Template.parse, braced_toList]
  exact congrArg Template.mk hread

/-! ## Answers are not read -/

/-- What is text and what is a call in an expression is settled before any answer is known: the answers
are only put in the places of the calls. -/
theorem answerCalls_pieces (expr : List Char) : ∃ pieces : List Segment,
    Segment.writtenAll pieces = expr ∧ (∀ path, .path path ∉ pieces) ∧
    ∀ {ε : Type} (answer : Call → Except ε (List Char)),
      answerCalls answer expr = Segment.answeredAll answer pieces := by
  have hliteral (text : List Char) (path : List Char) :
      Segment.path path ∉ [Segment.literal text] := by simp
  induction expr using Text.scan_induction (· == '^') (fun _ => '~') with
  | plain expr hplain =>
    have hexpr : '^' ∉ expr := fun hmem => by cases hplain _ hmem
    refine ⟨[.literal expr], List.append_nil expr, hliteral expr, fun answer => ?_⟩
    rw [answerCalls_plain answer hexpr]
    exact congrArg Except.ok (List.append_nil expr).symm
  | unclosed before opener rest hbefore hopener hrest =>
    obtain rfl : opener = '^' := by simpa using hopener
    have hbefore : '^' ∉ before := fun hmem => by cases hbefore _ hmem
    refine ⟨[.literal (before ++ '^' :: rest)], List.append_nil _, hliteral _, fun answer => ?_⟩
    rw [answerCalls_unclosed answer hbefore hrest]
    exact congrArg Except.ok (List.append_nil _).symm
  | closed before opener body after hbefore hopener hbody ih =>
    obtain rfl : opener = '^' := by simpa using hopener
    have hbefore : '^' ∉ before := fun hmem => by cases hbefore _ hmem
    obtain ⟨pieces, hwritten, hpaths, hanswered⟩ := ih
    cases hcall : Call.parse? body with
    | none =>
      refine ⟨.literal (before ++ '^' :: (body ++ ['~'])) :: pieces, ?_, ?_, fun answer => ?_⟩
      · rw [Template.writtenAll_cons, hwritten]
        simp [Segment.written]
      · simpa using hpaths
      · rw [answerCalls_rejected answer _ hbefore hbody hcall, hanswered, Segment.answeredAll,
          map_eq_pure_bind]
        rfl
    | some c =>
      have hbodyText : c.body = body := Call.body_of_parse? hcall
      refine ⟨.literal before :: .call c :: pieces, ?_, ?_, fun answer => ?_⟩
      · rw [Template.writtenAll_cons, Template.writtenAll_cons, hwritten, ← hbodyText]
        simp [Segment.written, Call.text]
      · simpa using hpaths
      · rw [answerCalls_call answer _ hbefore hbody hcall, hanswered, Segment.answeredAll,
          Segment.answeredAll]
        simp only [Segment.answered, Segment.written, bind_assoc, pure_bind]
        simp only [bind, Except.bind, List.append_assoc]

end

/-! ## The readers -/

open Mapping in
/-- Whoever answers calls: the segments of a text without braces stand for what the text is as an
expression, and both fail like the first call that is not answered. An expression in braces is the same
expression in a test and in a value, and a value of that form evaluates nothing else. What in an expression
is text and what is a call does not hang on the answers, so that no answer is read again. -/
theorem readers_of_calls_agree {ε : Type} (answer : Call → Except ε (List Char)) :
    (∀ text : String, '{' ∉ text.toList →
      let segments := (Template.parse text).segments
      Segment.answeredAll answer segments = answerCalls answer text.toList ∧
        ∀ e, answerCalls answer text.toList = .error e ↔
          FailsFirst answer (Segment.calls segments) e) ∧
    (∀ expr : String, '}' ∉ expr.toList →
      answerMatch answer (braced expr) = (answerCalls answer expr.toList).map String.ofList ∧
        Template.parse (braced expr) = ⟨[.path expr.toList]⟩ ∧
        ∀ env r data key t front, templateValues env r data key (braced expr) t front = do
          let query ← prepareMatch r (braced expr)
          let found ← env.evaluate query data
          return (pathValues env found).flatMap fun value => kept front (transformed t value)) ∧
    ∀ expr : List Char, ∃ pieces : List Segment,
      Segment.writtenAll pieces = expr ∧ (∀ path, .path path ∉ pieces) ∧
      ∀ {ε : Type} (answer : Call → Except ε (List Char)),
        answerCalls answer expr = Segment.answeredAll answer pieces := by
  refine ⟨fun text htext => ?_, fun expr hexpr => ⟨?_, ?_, ?_⟩, answerCalls_pieces⟩
  · have hsame : Segment.answeredAll answer (Template.parse text).segments =
        answerCalls answer text.toList := by
      have hread := Segment.answeredAll_parseFrom answer [] htext
      simp only [List.nil_append, id_map'] at hread
      exact hread
    exact ⟨hsame, fun e => by rw [← hsame, Segment.answeredAll_error]⟩
  · exact answerMatch_braced answer expr
  · exact parse_braced hexpr
  · intro env r data key t front
    have hquery : prepareMatch r (braced expr) = resolveCalls r expr :=
      answerMatch_braced (·.resolve r) expr
    have hcount : (Template.parse (braced expr)).placeholderCount ≠ 0 := by
      rw [parse_braced hexpr]
      exact Nat.one_ne_zero
    have hsole : (Template.parse (braced expr)).sole? = some (.path expr.toList) := by
      rw [parse_braced hexpr]
      rfl
    rw [templateValues, if_neg hcount, hsole, hquery]
    simp only [soleValues, String.ofList_toList, bind_assoc, pure_bind]

/-- Answers each counter with the call itself, and has no identifiers. -/
def echo : Call → Except (List Char) (List Char)
  | .counter name => .ok (Call.counter name).text
  | .identifier name => .error name

/-- A call that brings in the text of a call, after a caret that opens none. -/
def looping : String := "item[^b~^counter_i~]^"

theorem looping_agrees :
    '{' ∉ looping.toList ∧ '}' ∉ looping.toList ∧
      answerCalls echo looping.toList = .ok looping.toList ∧
      Segment.answeredAll echo (Template.parse looping).segments = .ok looping.toList ∧
      answerMatch echo (braced looping) = .ok looping := by
  have hopen : '{' ∉ looping.toList := by decide +kernel
  have hclose : '}' ∉ looping.toList := by decide +kernel
  have hpieces : (Template.parse looping).segments =
      [.literal "item[^b~".toList, .call (.counter ['i']), .literal "]^".toList] := by decide +kernel
  have hsegments : Segment.answeredAll echo (Template.parse looping).segments =
      .ok looping.toList := by
    rw [hpieces]
    rfl
  obtain ⟨htexts, hbraced, -⟩ := readers_of_calls_agree echo
  have hsame := (htexts looping hopen).1
  have hanswer := hsame.symm.trans hsegments
  refine ⟨hopen, hclose, hanswer, hsegments, ?_⟩
  rw [(hbraced looping hclose).1, hanswer]
  exact congrArg Except.ok (String.ofList_toList)

end Triplify
