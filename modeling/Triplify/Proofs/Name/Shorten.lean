import Mathlib.Data.List.Basic
import Triplify.Graph
/-!
# Shortening and expanding

A value is shortened with the first namespace that it starts with, and expanded with the namespace
that its label is bound to. Labels are bound once, so that the two namespaces are the same.

The empty label is the exception: it stands for no namespace when a value is expanded, also where a
declaration has bound it to one. `expand_shorten_iff`: a value comes back exactly unless its first
namespace is one that the empty label is bound to, which is then lost.
-/

namespace Triplify

namespace NamespaceTable

/-- The table after some declarations, in order. -/
def registerAll (t : NamespaceTable) (declarations : List (String × String)) : NamespaceTable :=
  declarations.foldl (fun t d => t.register d.1 d.2) t

/-- The first binding whose namespace the value starts with. -/
def firstNamespace? (t : NamespaceTable) (value : String) : Option (String × String) :=
  t.bindings.find? fun b => (rest? b.2 value).isSome

/-! ## Labels are bound once -/

/-- No label is bound twice. -/
def Distinct (t : NamespaceTable) : Prop := (t.bindings.map (·.1)).Nodup

theorem get?_eq_none {t : NamespaceTable} {label : String} :
    t.get? label = none ↔ label ∉ t.bindings.map (·.1) := by
  simp only [get?, Option.map_eq_none_iff, List.find?_eq_none, List.mem_map]
  constructor
  · rintro h ⟨b, hb, rfl⟩
    exact h b hb (by simp)
  · intro h b hb heq
    exact h ⟨b, hb, by simpa using heq⟩

theorem Distinct.register {t : NamespaceTable} (h : t.Distinct) (label iri : String) :
    (t.register label iri).Distinct := by
  unfold NamespaceTable.register
  split
  · exact h
  · next hnone =>
    have hfresh : label ∉ t.bindings.map (·.1) := get?_eq_none.1 (by simpa using hnone)
    rw [Distinct, List.map_append, List.nodup_append]
    refine ⟨h, by simp, ?_⟩
    rintro a ha b hb rfl
    obtain rfl : a = label := by simpa using hb
    exact hfresh ha

theorem Distinct.registerAll {t : NamespaceTable} (h : t.Distinct)
    (declarations : List (String × String)) : (t.registerAll declarations).Distinct := by
  induction declarations generalizing t with
  | nil => exact h
  | cons d rest ih => exact ih (h.register d.1 d.2)

theorem distinct_standard : standard.Distinct := by
  unfold Distinct
  decide

/-- A label stands for the namespace of each of its bindings: there is only one. -/
theorem Distinct.get?_eq {t : NamespaceTable} (h : t.Distinct) {label iri : String}
    (hmem : (label, iri) ∈ t.bindings) : t.get? label = some iri := by
  unfold Distinct at h
  unfold get?
  generalize t.bindings = bindings at h hmem
  induction bindings with
  | nil => cases hmem
  | cons b rest ih =>
    obtain ⟨hb, hrest⟩ := List.nodup_cons.1 h
    rcases List.mem_cons.1 hmem with rfl | hin
    · simp
    · have hne : b.1 ≠ label := by
        rintro rfl
        exact hb (List.mem_map.2 ⟨_, hin, rfl⟩)
      rw [List.find?_cons_of_neg (by simpa using hne)]
      exact ih hrest hin

/-! ## Shortening cuts off a namespace -/

theorem rest?_eq_some {namespaceIri value rest : String} (h : rest? namespaceIri value = some rest) :
    namespaceIri ++ rest = value := by
  obtain ⟨chars, hchars, rfl⟩ := Option.map_eq_some_iff.1 h
  have hvalue : namespaceIri.toList ++ chars = value.toList :=
    List.append_eq_of_isPrefixOf?_eq_some hchars
  rw [← String.toList_inj, String.toList_append, String.toList_ofList, hvalue]

/-- A value is shortened with its first namespace, and stays whole without one. -/
theorem shorten_cases (t : NamespaceTable) (value : String) :
    (t.firstNamespace? value = none ∧ t.shorten value = ⟨"", value⟩) ∨
      ∃ label iri rest, t.firstNamespace? value = some (label, iri) ∧
        (label, iri) ∈ t.bindings ∧ iri ++ rest = value ∧ t.shorten value = ⟨label, rest⟩ := by
  unfold firstNamespace? shorten
  induction t.bindings with
  | nil => exact .inl ⟨rfl, rfl⟩
  | cons b bindings ih =>
    obtain ⟨label, iri⟩ := b
    cases hrest : rest? iri value with
    | some rest =>
      exact .inr ⟨label, iri, rest, by simp [hrest], by simp, rest?_eq_some hrest, by simp [hrest]⟩
    | none =>
      rw [List.find?_cons_of_neg (by simp [hrest]), List.findSome?_cons_of_isNone (by simp [hrest])]
      refine ih.imp id ?_
      rintro ⟨label, iri, rest, hfirst, hmem, hvalue, hshort⟩
      exact ⟨label, iri, rest, hfirst, List.mem_cons_of_mem _ hmem, hvalue, hshort⟩

/-! ## What comes back -/

/-- The part of a value after a namespace of the empty label is what comes back of it. -/
theorem expand_shorten_of_empty {t : NamespaceTable} {value iri rest : String}
    (h : t.firstNamespace? value = some ("", iri)) (hvalue : iri ++ rest = value) :
    t.expand (t.shorten value) = .ok rest := by
  rcases shorten_cases t value with ⟨hnone, -⟩ | ⟨label, iri', rest', hfirst, -, hvalue', hshort⟩
  · rw [hnone] at h
    cases h
  · rw [hfirst] at h
    cases h
    obtain rfl : rest' = rest := (String.append_right_inj iri).1 (hvalue'.trans hvalue.symm)
    rw [hshort]
    rfl

theorem Distinct.expand_shorten {t : NamespaceTable} (h : t.Distinct) {value : String}
    (hempty : ∀ iri, t.firstNamespace? value ≠ some ("", iri)) :
    t.expand (t.shorten value) = .ok value := by
  rcases shorten_cases t value with ⟨-, hshort⟩ | ⟨label, iri, rest, hfirst, hmem, hvalue, hshort⟩
  · rw [hshort]
    rfl
  · have hlabel : label.isEmpty = false := by
      rw [Bool.eq_false_iff]
      intro he
      obtain rfl : label = "" := by simpa using he
      exact hempty iri hfirst
    rw [hshort, expand, if_neg (by simp [hlabel]), expandName, h.get?_eq hmem, ← hvalue]

/-- In every table that declarations make, a value is shortened without a loss exactly if its first
namespace is not one of the empty label, or is empty itself. Then an identifier, an object or a class
has in a graph the IRI that the value stands for. Otherwise only the part of the value after the
namespace comes back. -/
theorem expand_shorten_iff (declarations : List (String × String)) (value : String) :
    let t := standard.registerAll declarations
    (t.expand (t.shorten value) = .ok value ↔
      ∀ iri, t.firstNamespace? value = some ("", iri) → iri = "") ∧
    (∀ base, t.expand (t.shorten value) = .ok value →
      (Naming.mk t base).shortIri (t.shorten value) = (Naming.mk t base).resolve value) ∧
    ∀ iri rest, t.firstNamespace? value = some ("", iri) → iri ++ rest = value →
      t.expand (t.shorten value) = .ok rest := by
  intro t
  have hdistinct : t.Distinct := distinct_standard.registerAll declarations
  refine ⟨⟨fun hback iri hfirst => ?_, fun hempty => ?_⟩, fun base hback => ?_, fun iri rest => ?_⟩
  · rcases shorten_cases t value with ⟨hnone, -⟩ | ⟨label, iri', rest, hfirst', -, hvalue, -⟩
    · rw [hnone] at hfirst
      cases hfirst
    · rw [hfirst'] at hfirst
      cases hfirst
      rw [expand_shorten_of_empty hfirst' hvalue, Except.ok.injEq] at hback
      exact String.append_eq_right_iff.1 (hvalue.trans hback.symm)
  · by_cases hlost : ∃ iri, t.firstNamespace? value = some ("", iri)
    · obtain ⟨iri, hfirst⟩ := hlost
      obtain rfl := hempty iri hfirst
      exact expand_shorten_of_empty hfirst String.empty_append
    · exact hdistinct.expand_shorten fun iri hfirst => hlost ⟨iri, hfirst⟩
  · rw [Naming.shortIri, hback]
    rfl
  · exact expand_shorten_of_empty

/-- A namespace that the empty label is bound to is lost. -/
theorem expand_shorten_lost :
    let t := standard.registerAll [("", "http://x.org/")]
    t.expand (t.shorten "http://x.org/a") = .ok "a" ∧
      t.expand (t.shorten "http://x.org/a") ≠ .ok "http://x.org/a" := by
  intro t
  have hback : t.expand (t.shorten "http://x.org/a") = .ok "a" := rfl
  refine ⟨hback, ?_⟩
  rw [hback]
  simp

end NamespaceTable

end Triplify
