import Triplify.Proofs.Split.Document
/-!
# Chunks partition the elements

A document is cut into documents: each has the prolog and the root of the whole one, and a run of its
content. What a chunk is read as is what went into it.

`Chunks.partition_elements`: the elements of the chunks are those of the document, in order.
-/

namespace Triplify.Split

open Mapping

/-! ## A document is read from its text -/

mutual

/-- The tags of an item match. -/
theorem Item.foldlM_events (names : List (List Char)) (item : Item) :
    item.events.foldlM Event.openNames? names = some names := by
  cases item with
  | element tag content =>
    rw [Item.events, List.foldlM_cons, Event.openNames?, Option.bind_eq_bind, Option.bind_some,
      List.foldlM_append, Item.foldlM_eventsAll (tagName tag :: names) content]
    simp [Event.openNames?]
  | empty tag => rfl
  | loose e =>
    obtain ⟨e, he⟩ := e
    cases e with
    | start _ | empty _ | close _ => cases he
    | _ => rfl

theorem Item.foldlM_eventsAll (names : List (List Char)) (items : List Item) :
    (Item.eventsAll items).foldlM Event.openNames? names = some names := by
  cases items with
  | nil => rfl
  | cons item items =>
    rw [Item.eventsAll, List.foldlM_append, Item.foldlM_events names item]
    exact Item.foldlM_eventsAll names items

end

namespace Event

/-- White space and markup: no document begins with a byte order mark of its own. -/
theorem isProlog_head {e : Event} (h : e.isProlog) (hne : e.render ≠ []) :
    e.render.head? ≠ some '\uFEFF' := by
  cases e with
  | text s =>
    cases s with
    | nil => exact (hne rfl).elim
    | cons c s =>
      rintro hc
      cases hc
      simp [isProlog, isSpace] at h
  | comment _ | instruction _ | doctype _ => rintro ⟨⟩
  | start _ | empty _ | close _ | data _ => cases h

end Event

theorem Reading.ofText_of_head? {s : List Char} (h : s.head? ≠ some '\uFEFF') :
    Reading.ofText s = Reading.read [] s.length s := by
  unfold Reading.ofText
  split
  · exact absurd rfl h
  · rfl

theorem Reading.legible_ofText (s : List Char) : Event.Legible (Reading.ofText s).events :=
  (Event.read_legible [] _ _).1

namespace Document

variable {d : Document}

/-- The tags of a document match. -/
theorem foldlM_events (d : Document) : d.events.foldlM Event.openNames? [] = some [] := by
  have hprolog : (d.prolog.map (·.1)).foldlM Event.openNames? [] = some [] := by
    induction d.prolog with
    | nil => rfl
    | cons e prolog ih =>
      obtain ⟨e, he⟩ := e
      have hsame : Event.openNames? [] e = some [] := by
        cases e with
        | start _ | empty _ | close _ | data _ => cases he
        | _ => rfl
      rw [List.map_cons, List.foldlM_cons, hsame]
      exact ih
  rw [events, header, List.foldlM_append, List.foldlM_append, hprolog]
  have hroot : [Event.start d.root].foldlM Event.openNames? [] = some [tagName d.root] := rfl
  have hclose : [Event.close (tagName d.root)].foldlM Event.openNames? [tagName d.root] = some [] := by
    simp [Event.openNames?]
  simp only [Option.bind_eq_bind, Option.bind_some, hroot, List.foldlM_append,
    Item.foldlM_eventsAll, hclose]

theorem head?_renderAll_events (h : Event.Legible d.events) :
    (Event.renderAll d.events).head? ≠ some '\uFEFF' := by
  cases hprolog : d.prolog with
  | nil =>
    rw [events, header, hprolog]
    rintro ⟨⟩
  | cons e prolog =>
    have hfirst : e.1 ∈ d.events := by simp [events, header, hprolog]
    have hne := (h.readsBack e.1 hfirst).render_ne_nil
    rw [events, header, hprolog, List.map_cons, List.cons_append, List.cons_append,
      Event.renderAll_cons, List.head?_append_of_ne_nil _ hne]
    exact Event.isProlog_head e.2 hne

/-- A document is read from its text, all of it. -/
theorem read_text (h : Event.Legible d.events) :
    Reading.ofText d.text.toList = ⟨d.events, .complete⟩ := by
  rw [text, String.toList_ofList, Reading.ofText_of_head? (head?_renderAll_events h)]
  exact Event.read_renderAll h d.foldlM_events le_rfl

/-- The part of a document that a run of its content makes. -/
def chunk (d : Document) (run : List Item) : Document := { d with content := run }

/-- What stands around the content is markup, so any run of the content can stand there. -/
theorem legible_chunk {after : List Event} (h : Event.Legible (d.events ++ after))
    {run : List Item} (hrun : run <:+: d.content) : Event.Legible (d.chunk run).events := by
  obtain ⟨first, last, hcontent⟩ := hrun
  have hheader : Event.Legible d.header :=
    h.infix ⟨[], Item.eventsAll d.content ++ [.close (tagName d.root)] ++ after, by simp [events]⟩
  have hitems : Event.Legible (Item.eventsAll run) := by
    refine h.infix ⟨d.header ++ Item.eventsAll first,
      Item.eventsAll last ++ [.close (tagName d.root)] ++ after, ?_⟩
    simp [events, ← hcontent, Item.eventsAll_append]
  have hclose : Event.Legible [.close (tagName d.root)] :=
    h.infix ⟨d.header ++ Item.eventsAll d.content, after, by simp [events]⟩
  refine hheader.append (hitems.append hclose ?_) ?_
  · rintro e - f hf ⟨-, htext⟩
    cases hf
    cases htext
  · rintro e he f - ⟨htext, -⟩
    rw [header, List.getLast?_concat] at he
    cases he
    cases htext

end Document

/-! ## The chunks of a document -/

/-- The chunks of a document are the documents that the runs of its content make. -/
theorem Chunks.ofText_document (s : SplitSettings) {text : String} {d : Document}
    {after : List Event} (h : (Reading.ofText text.toList).events = d.events ++ after) :
    (Chunks.ofText s text).texts = ((runs s [] d.content).1.map d.chunk).map Document.text ∧
      (Chunks.ofText s text).count = .ok (runs s [] d.content).1.length := by
  have hbodies := bodies_eventsAll s [] 0 d.content (tagName d.root) after
  rw [show Body.ofItems [] = {} from rfl, Nat.zero_add] at hbodies
  rw [Chunks.ofText]
  dsimp only
  rw [h, d.opening_events]
  dsimp only
  rw [hbodies]
  refine ⟨?_, rfl⟩
  rw [List.map_map, List.map_map]
  refine List.map_congr_left fun run _ => ?_
  simp [Document.text, Document.events, Document.chunk, Document.header, Body.render,
    Body.ofItems, Event.renderAll]

/-- The chunks are the texts of some documents that the elements of a document are parted into. -/
structure Chunks.Partition (c : Chunks) (d : Document) (parts : List Document) : Prop where
  texts : c.texts = parts.map Document.text
  count : c.count = .ok parts.length
  /-- The elements of the parts, one after the other, are those of the document. -/
  elements : parts.flatMap Document.elements = d.elements
  /-- A part is a document of its own and is read as that document. -/
  read : ∀ part ∈ parts, Reading.ofText part.text.toList = ⟨part.events, .complete⟩
  around : ∀ part ∈ parts, part.prolog = d.prolog ∧ part.root = d.root
  nonempty : ∀ part ∈ parts, part.elements ≠ []
  /-- The contents of the parts are the content of the document, but for an end without elements. -/
  content : ∃ left, parts.flatMap Document.content ++ left = d.content ∧
    ∀ item ∈ left, item.isElement = false

/-- A text that reads as a document, with anything after its root, is cut into chunks that part its
elements. -/
theorem Chunks.partition_elements (s : SplitSettings) (text : String) (d : Document)
    (after : List Event) (h : (Reading.ofText text.toList).events = d.events ++ after) :
    ∃ parts, (Chunks.ofText s text).Partition d parts := by
  obtain ⟨htexts, hcount⟩ := Chunks.ofText_document s h
  have hflatten : (runs s [] d.content).1.flatten ++ (runs s [] d.content).2 = d.content :=
    runs_flatten s [] d.content
  have hleft := runs_left s [] d.content
  refine ⟨(runs s [] d.content).1.map d.chunk, ⟨htexts, ?count, ?elements, ?read, ?around, ?nonempty,
    (runs s [] d.content).2, ?content, hleft⟩⟩
  case count => rw [hcount, List.length_map]
  case elements =>
    have hnone : (runs s [] d.content).2.filter Item.isElement = [] := by
      simpa [List.filter_eq_nil_iff] using hleft
    calc ((runs s [] d.content).1.map d.chunk).flatMap Document.elements
        = (runs s [] d.content).1.flatten.filter Item.isElement := by
          rw [List.flatMap_map, List.filter_flatten, List.flatMap_def]
          rfl
      _ = d.elements := by
          rw [Document.elements, ← hflatten, List.filter_append, hflatten, hnone, List.append_nil]
  case read =>
    rintro _ hpart
    obtain ⟨run, hrun, rfl⟩ := List.mem_map.1 hpart
    have hinfix : run <:+: d.content :=
      (List.infix_of_mem_flatten hrun).trans ⟨[], _, hflatten⟩
    have hlegible : Event.Legible (d.events ++ after) := h ▸ Reading.legible_ofText text.toList
    exact (d.chunk run).read_text (Document.legible_chunk hlegible hinfix)
  case around =>
    rintro _ hpart
    obtain ⟨run, -, rfl⟩ := List.mem_map.1 hpart
    exact ⟨rfl, rfl⟩
  case nonempty =>
    rintro _ hpart
    obtain ⟨run, hrun, rfl⟩ := List.mem_map.1 hpart
    have hany := runs_any s [] d.content run hrun
    simpa [Document.elements, Document.chunk, List.filter_eq_nil_iff] using hany
  case content => simpa [Document.chunk, List.flatMap_def, Function.comp_def] using hflatten

/-- A document with three elements, one of them in another, and with text around them. -/
def Document.sample : Document where
  prolog := [⟨.instruction "xml version='1.0'".toList, rfl⟩, ⟨.text ['\n'], rfl⟩]
  root := "r x='>'".toList
  content := [.element "a".toList [.empty "b ".toList], .loose ⟨.text ['t'], rfl⟩,
    .empty "c".toList, .loose ⟨.comment ['!'], rfl⟩]

theorem Chunks.partition_elements_sample :
    (Reading.ofText "<?xml version='1.0'?>\n<r x='>'><a><b /></a>t<c/><!--!--></r>\n".toList).events
        = Document.sample.events ++ [.text ['\n']] ∧
      ∃ parts, (Chunks.ofText ⟨.elementCount, 1, "in", "out"⟩
        "<?xml version='1.0'?>\n<r x='>'><a><b /></a>t<c/><!--!--></r>\n").Partition .sample parts :=
  ⟨by decide +kernel, Chunks.partition_elements _ _ _ [.text ['\n']] (by decide +kernel)⟩

example : (Chunks.ofText ⟨.elementCount, 1, "in", "out"⟩ "<r>a<b/>c<d><e/></d>f</r>").texts
    = ["<r>a<b/></r>", "<r>c<d><e/></d></r>"] := by decide

end Triplify.Split
