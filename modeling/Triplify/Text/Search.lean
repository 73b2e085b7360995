/-!
# Searching in texts

Cutting a list of characters at the first character of a kind or at the first occurrence of a
pattern. Each cut loses nothing: the parts, with the separator between them, are the whole.
-/

namespace Triplify.Text

/-- The text before the first character of the kind, that character, and the text after it. -/
def cutAt? (p : Char → Bool) : List Char → Option (List Char × Char × List Char)
  | [] => none
  | c :: rest =>
    if p c then some ([], c, rest)
    else (cutAt? p rest).map fun (before, at_, after) => (c :: before, at_, after)

/-- The text before and after the first occurrence of the pattern. -/
def cut? (pattern : List Char) : List Char → Option (List Char × List Char)
  | [] => if pattern.isEmpty then some ([], []) else none
  | c :: rest =>
    match pattern.isPrefixOf? (c :: rest) with
    | some after => some ([], after)
    | none => (cut? pattern rest).map fun (before, after) => (c :: before, after)

/-- The pattern occurs in the text. -/
def occurs (pattern s : List Char) : Bool :=
  (cut? pattern s).isSome

/-- The parts of a text between the separators. -/
def splitAll (sep : Char) : List Char → List (List Char)
  | [] => [[]]
  | c :: rest =>
    if c = sep then [] :: splitAll sep rest
    else match splitAll sep rest with
      | [] => [[c]]
      | part :: parts => (c :: part) :: parts

theorem cutAt?_eq_some {p : Char → Bool} {s before after : List Char} {c : Char}
    (h : cutAt? p s = some (before, c, after)) : s = before ++ c :: after ∧ p c = true := by
  induction s generalizing before with
  | nil => simp [cutAt?] at h
  | cons d rest ih =>
    simp only [cutAt?] at h
    split at h
    · simp only [Option.some.injEq, Prod.mk.injEq] at h
      obtain ⟨rfl, rfl, rfl⟩ := h
      simpa
    · obtain ⟨⟨b, e, a⟩, hb, hq⟩ := Option.map_eq_some_iff.1 h
      simp only [Prod.mk.injEq] at hq
      obtain ⟨rfl, rfl, rfl⟩ := hq
      obtain ⟨rfl, hp⟩ := ih hb
      exact ⟨rfl, hp⟩

theorem cutAt?_length {p : Char → Bool} {s before after : List Char} {c : Char}
    (h : cutAt? p s = some (before, c, after)) : after.length < s.length := by
  rw [(cutAt?_eq_some h).1]; simp; omega

end Triplify.Text
