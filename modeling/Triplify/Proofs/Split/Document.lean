import Triplify.Proofs.Split.Reread
import Triplify.Split.Chunk
/-!
# Documents

A well-formed document as a tree: what stands before the root, and the root with its content. The
splitter sees only the events of the tree and counts how deep it is. `runs` says on the tree what it
does: it cuts the content of the root into runs of items.

`bodies_eventsAll`: the bodies that are cut out of the events are those of the runs.
-/

namespace Triplify.Split

open Mapping

/-! ## Trees -/

/-- The event is a tag. -/
def Event.isTag : Event → Bool
  | start _ | empty _ | close _ => true
  | _ => false

/-- A piece of content: an element, or what stands around elements. -/
inductive Item
  | element (tag : List Char) (content : List Item)
  | empty (tag : List Char)
  | loose (e : { e : Event // e.isTag = false })

namespace Item

def isElement : Item → Bool
  | element _ _ | empty _ => true
  | loose _ => false

mutual

/-- The events of an item, in the order in which they are read. -/
def events : Item → List Event
  | element tag content => .start tag :: (eventsAll content ++ [.close (tagName tag)])
  | empty tag => [.empty tag]
  | loose e => [e.1]

/-- The events of some content. -/
def eventsAll : List Item → List Event
  | [] => []
  | item :: items => item.events ++ eventsAll items

end

theorem eventsAll_append (items more : List Item) :
    eventsAll (items ++ more) = eventsAll items ++ eventsAll more := by
  induction items with
  | nil => rfl
  | cons item items ih => simp only [List.cons_append, eventsAll, ih, List.append_assoc]

end Item

/-- What may stand before the root: white space, comments, instructions and document types. -/
def Event.isProlog : Event → Bool
  | text s => s.all isSpace
  | comment _ | instruction _ | doctype _ => true
  | _ => false

/-- A document whose root has a start tag. -/
structure Document where
  prolog : List { e : Event // e.isProlog }
  root : List Char
  content : List Item

namespace Document

/-- The events up to the start tag of the root. -/
def header (d : Document) : List Event := d.prolog.map (·.1) ++ [.start d.root]

def events (d : Document) : List Event :=
  d.header ++ (Item.eventsAll d.content ++ [.close (tagName d.root)])

def text (d : Document) : String := String.ofList (Event.renderAll d.events)

/-- The elements right inside of the root. -/
def elements (d : Document) : List Item := d.content.filter Item.isElement

end Document

/-! ## Trees and their events -/

theorem Item.events_ne_close {item : Item} {name : List Char} {rest rest' : List Event} :
    item.events ++ rest ≠ .close name :: rest' := by
  cases item with
  | element tag content => rintro ⟨⟩
  | empty tag => rintro ⟨⟩
  | loose e =>
    obtain ⟨e, he⟩ := e
    rintro ⟨⟩
    cases he

mutual

/-- An item can be told from its events, whatever follows them. -/
theorem Item.events_inj {item item' : Item} {rest rest' : List Event}
    (h : item.events ++ rest = item'.events ++ rest') : item = item' ∧ rest = rest' := by
  cases item with
  | element tag content =>
    cases item' with
    | element tag' content' =>
      simp only [Item.events, List.cons_append, List.append_assoc, List.nil_append,
        List.cons.injEq, Event.start.injEq] at h
      obtain ⟨rfl, hinner⟩ := h
      obtain ⟨rfl, hrest⟩ := Item.eventsAll_inj hinner
      exact ⟨rfl, hrest⟩
    | empty _ => cases h
    | loose e =>
      obtain ⟨e, he⟩ := e
      cases h
      cases he
  | empty tag =>
    cases item' with
    | element _ _ => cases h
    | empty _ =>
      cases h
      exact ⟨rfl, rfl⟩
    | loose e =>
      obtain ⟨e, he⟩ := e
      cases h
      cases he
  | loose e =>
    obtain ⟨e, he⟩ := e
    cases item' with
    | element _ _ | empty _ =>
      cases h
      cases he
    | loose _ =>
      cases h
      exact ⟨rfl, rfl⟩

theorem Item.eventsAll_inj {items items' : List Item} {name name' : List Char}
    {rest rest' : List Event}
    (h : Item.eventsAll items ++ .close name :: rest
      = Item.eventsAll items' ++ .close name' :: rest') :
    items = items' ∧ rest = rest' := by
  cases items with
  | nil =>
    cases items' with
    | nil => exact ⟨rfl, (List.cons.inj h).2⟩
    | cons item' items' =>
      rw [Item.eventsAll, Item.eventsAll, List.append_assoc] at h
      exact (Item.events_ne_close h.symm).elim
  | cons item items =>
    rw [Item.eventsAll, List.append_assoc] at h
    cases items' with
    | nil => exact (Item.events_ne_close h).elim
    | cons item' items' =>
      rw [Item.eventsAll, List.append_assoc] at h
      obtain ⟨rfl, hmore⟩ := Item.events_inj h
      obtain ⟨rfl, hrest⟩ := Item.eventsAll_inj hmore
      exact ⟨rfl, hrest⟩

end

/-- What may stand before the root is put to the header. -/
theorem Opening.ofEvents_prolog (first : List Event) (prolog : List { e : Event // e.isProlog })
    (rest : List Event) :
    Opening.ofEvents first (prolog.map (·.1) ++ rest)
      = Opening.ofEvents (first ++ prolog.map (·.1)) rest := by
  induction prolog generalizing first with
  | nil => simp
  | cons e prolog ih =>
    obtain ⟨e, he⟩ := e
    have hskip : Opening.ofEvents first (e :: (prolog.map (·.1) ++ rest))
        = Opening.ofEvents (first ++ [e]) (prolog.map (·.1) ++ rest) := by
      cases e with
      | start _ | empty _ | close _ | data _ => cases he
      | _ => rfl
    rw [List.map_cons, List.cons_append, hskip, ih]
    simp

namespace Document

/-- A document begins with its header. -/
theorem opening_events (d : Document) (after : List Event) :
    Opening.ofEvents [] (d.events ++ after) = .content d.header (tagName d.root)
      (Item.eventsAll d.content ++ .close (tagName d.root) :: after) := by
  rw [events, header, List.append_assoc, List.append_assoc, Opening.ofEvents_prolog]
  simp [Opening.ofEvents]

/-- A document can be told from its events, whatever follows them. -/
theorem events_inj {d d' : Document} {after after' : List Event}
    (h : d.events ++ after = d'.events ++ after') : d = d' ∧ after = after' := by
  have hopening := d.opening_events after
  rw [h, d'.opening_events] at hopening
  obtain ⟨hheader, -, hrest⟩ := Opening.content.inj hopening
  obtain ⟨hprolog, hroot⟩ := List.append_inj' hheader rfl
  obtain ⟨hcontent, hafter⟩ := Item.eventsAll_inj hrest
  have hprolog := List.map_injective_iff.2 Subtype.val_injective hprolog
  obtain ⟨prolog, root, content⟩ := d
  cases hroot
  cases hprolog
  cases hcontent
  exact ⟨rfl, hafter.symm⟩

end Document

/-! ## The runs of a content -/

/-- The body that has some items. -/
def Body.ofItems (items : List Item) : Body :=
  ⟨(Item.eventsAll items).reverse, items.countP Item.isElement⟩

/-- The runs that a content is cut into after some pending items, and what is left. A run ends with an
element that makes it full; the last one may have less. -/
def runs (s : SplitSettings) (pending : List Item) : List Item → List (List Item) × List Item
  | [] => if pending.any Item.isElement then ([pending], []) else ([], pending)
  | item :: items =>
    let grown := pending ++ [item]
    if item.isElement && (Body.ofItems grown).isFull s then
      (grown :: (runs s [] items).1, (runs s [] items).2)
    else runs s grown items

variable (s : SplitSettings)

/-- The runs have all items in order, and what is left comes after them. -/
theorem runs_flatten (pending items : List Item) :
    (runs s pending items).1.flatten ++ (runs s pending items).2 = pending ++ items := by
  induction items generalizing pending with
  | nil => rw [runs]; split <;> simp
  | cons item items ih =>
    rw [runs]
    split
    · simp [ih]
    · simp [ih]

/-- Each run has an element. -/
theorem runs_any (pending items : List Item) :
    ∀ run ∈ (runs s pending items).1, run.any Item.isElement := by
  induction items generalizing pending with
  | nil => rw [runs]; split <;> simp_all
  | cons item items ih =>
    rw [runs]
    split
    · next hfull =>
      rw [Bool.and_eq_true] at hfull
      intro run hrun
      obtain rfl | hrun := List.mem_cons.1 hrun
      · simp [hfull.1]
      · exact ih [] run hrun
    · exact ih _

/-- What is left has no element. -/
theorem runs_left (pending items : List Item) :
    ∀ item ∈ (runs s pending items).2, item.isElement = false := by
  induction items generalizing pending with
  | nil => rw [runs]; split <;> simp_all
  | cons item items ih =>
    rw [runs]
    split
    · exact ih []
    · exact ih _

/-! ## The runs are cut out of the events -/

/-- An event that neither completes an element at the top nor ends the root is put to the body. -/
theorem bodies_cons {depth : Nat} {e : Event} (hroot : e.endsRoot depth = false)
    (htop : e.completes depth = false) (b : Body) (count : Nat) (rest : List Event) :
    bodies s depth b count (e :: rest)
      = bodies s (e.depthAfter depth) ⟨e :: b.events, b.elements⟩ count rest := by
  rw [bodies]
  simp [hroot, htop]

/-- An event that completes an element at the top adds to the body, and a full body is cut off. -/
theorem bodies_completes {depth : Nat} {e : Event} (hroot : e.endsRoot depth = false)
    (htop : e.completes depth) (b : Body) (count : Nat) (rest : List Event) :
    bodies s depth b count (e :: rest) =
      let grown : Body := ⟨e :: b.events, b.elements + 1⟩
      if grown.isFull s then
        (grown :: (bodies s (e.depthAfter depth) {} (count + 1) rest).1,
          (bodies s (e.depthAfter depth) {} (count + 1) rest).2)
      else bodies s (e.depthAfter depth) grown count rest := by
  rw [bodies]
  simp [hroot, htop]

/-- An event that is no tag is put to the body, at any depth. -/
theorem bodies_loose (depth : Nat) {e : Event} (he : e.isTag = false) (b : Body) (count : Nat)
    (rest : List Event) :
    bodies s depth b count (e :: rest)
      = bodies s depth ⟨e :: b.events, b.elements⟩ count rest := by
  cases e with
  | start _ | empty _ | close _ => cases he
  | _ => exact bodies_cons s rfl rfl b count rest

mutual

/-- Inside of an element, the events of an item are only put to the body. -/
theorem bodies_events_inner (depth : Nat) (b : Body) (count : Nat) (rest : List Event)
    (item : Item) :
    bodies s (depth + 1) b count (item.events ++ rest)
      = bodies s (depth + 1) ⟨item.events.reverse ++ b.events, b.elements⟩ count rest := by
  cases item with
  | element tag content =>
    rw [Item.events, List.cons_append, bodies_cons s rfl rfl, List.append_assoc,
      Event.depthAfter, bodies_eventsAll_inner (depth + 1), List.singleton_append,
      bodies_cons s rfl rfl]
    simp [Event.depthAfter]
  | empty tag => exact bodies_cons s rfl rfl b count rest
  | loose e => exact bodies_loose s (depth + 1) e.2 b count rest

theorem bodies_eventsAll_inner (depth : Nat) (b : Body) (count : Nat) (rest : List Event)
    (items : List Item) :
    bodies s (depth + 1) b count (Item.eventsAll items ++ rest)
      = bodies s (depth + 1) ⟨(Item.eventsAll items).reverse ++ b.events, b.elements⟩ count rest := by
  cases items with
  | nil => rfl
  | cons item items =>
    rw [Item.eventsAll, List.append_assoc, bodies_events_inner, bodies_eventsAll_inner]
    simp
end

theorem Body.ofItems_concat (pending : List Item) (item : Item) :
    Body.ofItems (pending ++ [item])
      = ⟨item.events.reverse ++ (Body.ofItems pending).events,
        (Body.ofItems pending).elements + if item.isElement then 1 else 0⟩ := by
  simp [Body.ofItems, Item.eventsAll_append, Item.eventsAll, List.countP_append,
    List.countP_singleton]

/-- One item at the top: an element may make the body full. -/
theorem bodies_item (pending : List Item) (count : Nat) (rest : List Event) (item : Item) :
    bodies s 0 (.ofItems pending) count (item.events ++ rest) =
      if item.isElement && (Body.ofItems (pending ++ [item])).isFull s then
        (.ofItems (pending ++ [item]) :: (bodies s 0 {} (count + 1) rest).1,
          (bodies s 0 {} (count + 1) rest).2)
      else bodies s 0 (.ofItems (pending ++ [item])) count rest := by
  rw [Body.ofItems_concat]
  cases item with
  | element tag content =>
    rw [Item.events, List.cons_append, bodies_cons s rfl rfl, List.append_assoc,
      Event.depthAfter, bodies_eventsAll_inner, List.singleton_append, bodies_completes s rfl rfl]
    simp [Event.depthAfter, Item.isElement]
  | empty tag =>
    rw [Item.events, List.singleton_append, bodies_completes s rfl rfl]
    simp only [Event.depthAfter, Item.isElement, if_true, Bool.true_and, List.reverse_singleton,
      List.singleton_append]
  | loose e =>
    rw [Item.events, List.singleton_append, bodies_loose s 0 e.2]
    simp [Item.isElement]

/-- The bodies that are cut out of the content of the root are those of the runs. -/
theorem bodies_eventsAll (pending : List Item) (count : Nat) (items : List Item) (name : List Char)
    (after : List Event) :
    bodies s 0 (.ofItems pending) count (Item.eventsAll items ++ .close name :: after)
      = ((runs s pending items).1.map Body.ofItems,
        some (count + (runs s pending items).1.length)) := by
  induction items generalizing pending count with
  | nil =>
    have hany : 0 < pending.countP Item.isElement ↔ pending.any Item.isElement := by
      rw [List.countP_pos_iff, List.any_eq_true]
    rw [Item.eventsAll, List.nil_append, bodies,
      if_pos (show Event.endsRoot 0 (.close name) from rfl), runs]
    simp only [Body.ofItems, hany]
    split <;> rfl
  | cons item items ih =>
    rw [Item.eventsAll, List.append_assoc, bodies_item, runs]
    split
    · have hcut := ih [] (count + 1)
      rw [show Body.ofItems [] = {} from rfl] at hcut
      rw [hcut, List.map_cons, List.length_cons, Nat.add_assoc, Nat.add_comm 1]
    · exact ih _ _

end Triplify.Split
