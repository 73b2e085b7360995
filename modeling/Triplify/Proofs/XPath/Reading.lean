import Triplify.Proofs.Template.Scan
import Triplify.XPath.Eval
/-!
# Expressions that are known

What `true()`, `false()` and `*` are read as, and what they come to. Expressions hold numbers, so that their
equality is not decidable: a test of its own tells the expression that is meant from all others.
-/

namespace Triplify

namespace XPath

namespace Parsed

/-- The function that is called without arguments. -/
def called? : Parsed → Option Xml.TagName
  | expression (.call function []) => some function
  | _ => none

/-- The test of a path of one step, from the context node to its children. -/
def childTest? : Parsed → Option NodeTest
  | expression (.path .context [.mk .child test []]) => some test
  | _ => none

theorem eq_of_called? {p : Parsed} {function : Xml.TagName} (h : p.called? = some function) :
    p = expression (.call function []) := by
  unfold called? at h
  split at h
  · cases h
    rfl
  · cases h

theorem eq_of_childTest? {p : Parsed} {test : NodeTest} (h : p.childTest? = some test) :
    p = expression (.path .context [.mk .child test []]) := by
  unfold childTest? at h
  split at h
  · cases h
    rfl
  · cases h

/-- The reader runs on the three texts in one go: each evaluation of it takes a while. -/
theorem ofText_known : (ofText "true()").called? = some ⟨none, "true"⟩ ∧
    (ofText "false()").called? = some ⟨none, "false"⟩ ∧
    (ofText "*").childTest? = some .everyName := by
  decide +kernel

theorem ofText_true : ofText "true()" = expression (.call ⟨none, "true"⟩ []) :=
  eq_of_called? ofText_known.1

theorem ofText_false : ofText "false()" = expression (.call ⟨none, "false"⟩ []) :=
  eq_of_called? ofText_known.2.1

theorem ofText_star : ofText "*" = expression (.path .context [.mk .child .everyName []]) :=
  eq_of_childTest? ofText_known.2.2

end Parsed

namespace Environment

variable (env : Environment) (n : NodeRef)

theorem evaluate_of_ofText {text : String} {e : Expr} {v : Value}
    (hread : Parsed.ofText text = .expression e) (hvalue : e.eval env ⟨n, 1, 1⟩ = .ok v) :
    env.evaluate text n = .ok v := by
  simp only [evaluate, hread, hvalue]

theorem evaluate_true : env.evaluate "true()" n = .ok (.boolean true) :=
  env.evaluate_of_ofText n Parsed.ofText_true rfl

theorem evaluate_false : env.evaluate "false()" n = .ok (.boolean false) :=
  env.evaluate_of_ofText n Parsed.ofText_false rfl

/-- The child elements, in document order. -/
theorem evaluate_star : env.evaluate "*" n = .ok (.nodes (NodeRef.inOrder
    ((env.document.along .child n).filter
      (env.document.passes env.namespaces .child .everyName)))) := by
  refine env.evaluate_of_ofText n Parsed.ofText_star ?_
  simp [Expr.eval, walk, gather, Step.reach, keep, Value.toNodes, bind, Except.bind, pure,
    Except.pure]

theorem select_star : env.select "*" n = .ok (NodeRef.inOrder
    ((env.document.along .child n).filter
      (env.document.passes env.namespaces .child .everyName))) := by
  rw [select, evaluate_star]
  rfl

end Environment

theorem NodeRef.inOrder_pair {a b : NodeRef} (hle : a.le b) (hne : a ≠ b) :
    inOrder [a, b] = [a, b] := by
  simp [inOrder, List.mergeSort, List.MergeSort.Internal.splitInTwo, hle, dropRepeats, hne]

end XPath

/-! ## Tests without calls -/

/-- A test without calls is its text without the white space and the braces around it. -/
theorem prepareMatch_of_notMem (r : Registries) {raw text : List Char}
    (h : '^' ∉ Text.trimChars raw)
    (htext : dropCloseBrace (dropOpenBrace (Text.trimChars raw)) = text) :
    prepareMatch r (String.ofList raw) = .ok (String.ofList text) := by
  rw [prepareMatch, answerMatch, String.toList_ofList, answerCalls_plain _ h, ← htext]
  rfl

end Triplify
