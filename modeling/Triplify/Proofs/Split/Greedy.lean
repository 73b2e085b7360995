import Triplify.Proofs.Split.Partition
/-!
# Chunks are filled greedily

A chunk takes items until one of its elements fills it, and no longer; only the last chunk may stay below
that. `Greedy` says so of the runs of a content, and of what is left behind them.

`Chunks.sizes`: by elements, the chunks have the elements in groups of the size, and by bytes, each ends at
the first element at which it has reached the size.
-/

namespace Triplify.Split

open Mapping

/-! ## Full runs -/

/-- The number of bytes of some content. -/
def Item.bytes (items : List Item) : Nat :=
  (String.ofList (Event.renderAll (eventsAll items))).utf8ByteSize

/-- Some content has as much as a chunk should have. -/
def Full (s : SplitSettings) (items : List Item) : Prop :=
  match s.kind with
  | .elementCount => s.size ≤ items.countP Item.isElement
  | .fileSize => 1000 * s.size ≤ Item.bytes items

theorem full_iff_count {s : SplitSettings} (h : s.kind = .elementCount) (items : List Item) :
    Full s items ↔ s.size ≤ items.countP Item.isElement := by
  simp only [Full, h]

theorem full_iff_bytes {s : SplitSettings} (h : s.kind = .fileSize) (items : List Item) :
    Full s items ↔ 1000 * s.size ≤ Item.bytes items := by
  simp only [Full, h]

theorem isFull_ofItems (s : SplitSettings) (items : List Item) :
    (Body.ofItems items).isFull s ↔ Full s items := by
  unfold Body.isFull
  split
  · next hkind => rw [full_iff_count hkind, decide_eq_true_iff, Body.ofItems]
  · next hkind =>
    have hbytes : (Body.ofItems items).byteSize = Item.bytes items := by
      simp [Body.byteSize, Body.render, Body.ofItems, Item.bytes]
    rw [full_iff_bytes hkind, decide_eq_true_iff, hbytes, Nat.mul_comm]

/-- The content satisfies the property as far as each of its elements. -/
def AtElements (P : List Item → Prop) (items : List Item) : Prop :=
  ∀ front item after, items = front ++ item :: after → item.isElement → P (front ++ [item])

/-- The content ends with an element, and that is the first one with which it satisfies the property. -/
structure EndsFirst (P : List Item → Prop) (items : List Item) : Prop where
  holds : P items
  ends : ∃ front item, items = front ++ [item] ∧ item.isElement ∧ AtElements (fun x => ¬ P x) front

theorem AtElements.nil (P : List Item → Prop) : AtElements P [] := by
  intro front item after h
  simp at h

theorem AtElements.concat {P : List Item → Prop} {items : List Item} {item : Item}
    (h : AtElements P items) (hitem : item.isElement → P (items ++ [item])) :
    AtElements P (items ++ [item]) := by
  intro front item' after heq helement
  obtain rfl | ⟨after, last, rfl⟩ := after.eq_nil_or_concat
  · obtain ⟨rfl, hlast⟩ := List.append_inj' heq rfl
    cases hlast
    exact hitem helement
  · rw [List.concat_eq_append, ← List.cons_append, ← List.append_assoc] at heq
    exact h front item' after (List.append_inj' heq rfl).1 helement

/-- Runs that are cut greedily, and what is left behind them: each run ends with the element that fills it,
except that the last one may not have come so far. -/
inductive Greedy (s : SplitSettings) : List (List Item) → List Item → Prop
  | none {left : List Item} : (∀ item ∈ left, item.isElement = false) → Greedy s [] left
  | short {run : List Item} : run.any Item.isElement → AtElements (fun x => ¬ Full s x) run →
    Greedy s [run] []
  | filled {run left : List Item} {runs : List (List Item)} : EndsFirst (Full s) run →
    Greedy s runs left → Greedy s (run :: runs) left

/-- The runs of a content are cut greedily. -/
theorem runs_greedy (s : SplitSettings) (pending items : List Item)
    (h : AtElements (fun x => ¬ Full s x) pending) :
    Greedy s (runs s pending items).1 (runs s pending items).2 := by
  induction items generalizing pending with
  | nil =>
    rw [runs]
    split
    · next hany => exact .short hany h
    · next hany => exact .none (by simpa using hany)
  | cons item items ih =>
    rw [runs]
    split
    · next hfull =>
      rw [Bool.and_eq_true, isFull_ofItems] at hfull
      exact .filled ⟨hfull.2, pending, item, rfl, hfull.1, h⟩ (ih [] (.nil _))
    · next hfull =>
      rw [Bool.and_eq_true, isFull_ofItems, not_and] at hfull
      exact ih _ (h.concat hfull)

namespace Greedy

variable {s : SplitSettings} {runs : List (List Item)} {left : List Item}

/-- Each run has an element. -/
theorem any (h : Greedy s runs left) : ∀ run ∈ runs, run.any Item.isElement := by
  induction h with
  | none _ => exact List.forall_mem_nil _
  | short hany _ => simpa using hany
  | filled hrun _ ih =>
    obtain ⟨-, front, item, rfl, hitem, -⟩ := hrun
    exact List.forall_mem_cons.2 ⟨by simp [hitem], ih⟩

end Greedy

/-! ## Groups of elements -/

/-- A run that has not been full so far has fewer elements than a full one. -/
theorem AtElements.countP_lt {s : SplitSettings} (hkind : s.kind = .elementCount)
    (hsize : 0 < s.size) {items : List Item} (h : AtElements (fun x => ¬ Full s x) items) :
    items.countP Item.isElement < s.size := by
  induction items using List.reverseRecOn with
  | nil => exact hsize
  | append_singleton items item ih =>
    by_cases hitem : item.isElement
    · have hshort : ¬ Full s (items ++ [item]) := h items item [] rfl hitem
      rw [full_iff_count hkind] at hshort
      exact Nat.lt_of_not_le hshort
    · rw [List.countP_append, List.countP_singleton, if_neg hitem]
      refine ih fun front item' after heq => h front item' (after ++ [item]) ?_
      rw [heq, List.append_assoc, List.cons_append]

/-- A run that ends with the element that fills it has as many elements as it should have. -/
theorem EndsFirst.countP_eq {s : SplitSettings} (hkind : s.kind = .elementCount)
    (hsize : 0 < s.size) {items : List Item} (h : EndsFirst (Full s) items) :
    items.countP Item.isElement = s.size := by
  obtain ⟨hfull, front, item, rfl, hitem, hfront⟩ := h
  have hbelow := hfront.countP_lt hkind hsize
  rw [full_iff_count hkind] at hfull
  rw [List.countP_append, List.countP_singleton, if_pos hitem] at hfull ⊢
  omega

/-- Runs that are cut by the number of elements have these in groups, and only the last group may be
smaller. -/
theorem Greedy.groups {s : SplitSettings} (hkind : s.kind = .elementCount) (hsize : 0 < s.size)
    {runs : List (List Item)} {left : List Item} (h : Greedy s runs left) :
    runs.length = ((runs.flatten.filter Item.isElement).length + s.size - 1) / s.size ∧
      ∀ i run, runs[i]? = some run → run.filter Item.isElement
        = ((runs.flatten.filter Item.isElement).drop (i * s.size)).take s.size := by
  induction h with
  | none _ =>
    refine ⟨?_, fun i run hi => by cases hi⟩
    simp [Nat.div_eq_of_lt (Nat.sub_lt hsize Nat.one_pos)]
  | @short run hany hrun =>
    have hbelow := hrun.countP_lt hkind hsize
    have hpos : 0 < run.countP Item.isElement := by
      simpa [List.countP_pos_iff] using hany
    rw [List.countP_eq_length_filter] at hbelow hpos
    rw [List.flatten_singleton]
    refine ⟨?_, fun i run' hi => ?_⟩
    · rw [List.length_singleton]
      refine (Nat.div_eq_of_lt_le ?_ ?_).symm <;> omega
    · cases i with
      | zero =>
        cases hi
        rw [Nat.zero_mul, List.drop_zero, List.take_of_length_le hbelow.le]
      | succ i => cases hi
  | @filled run left runs hrun _ ih =>
    obtain ⟨hlength, hgroups⟩ := ih
    have hcount := hrun.countP_eq hkind hsize
    rw [List.countP_eq_length_filter] at hcount
    rw [List.flatten_cons, List.filter_append]
    refine ⟨?_, fun i run' hi => ?_⟩
    · rw [List.length_cons, hlength, List.length_append, hcount, ← Nat.add_div_right _ hsize]
      congr 1
      omega
    · cases i with
      | zero =>
        cases hi
        rw [Nat.zero_mul, List.drop_zero, ← hcount, List.take_left]
      | succ i =>
        rw [hgroups i run' hi, Nat.succ_mul, Nat.add_comm, ← List.drop_drop, ← hcount,
          List.drop_left]

/-! ## The chunks of a document -/

/-- The chunks are the texts of some documents, each of which is read from its text. -/
structure Chunks.Holds (c : Chunks) (parts : List Document) : Prop where
  texts : c.texts = parts.map Document.text
  count : c.count = .ok parts.length
  read : ∀ part ∈ parts, Reading.ofText part.text.toList = ⟨part.events, .complete⟩

/-- The content of a document is that of its runs and what is left behind them, and all elements are in the
runs. -/
theorem Document.exists_runs (d : Document) (s : SplitSettings) :
    ∃ rs left, runs s [] d.content = (rs, left) ∧ Greedy s rs left ∧ rs.flatten ++ left = d.content ∧
      (∀ item ∈ left, item.isElement = false) ∧ rs.flatten.filter Item.isElement = d.elements := by
  have hgreedy := runs_greedy s [] d.content (.nil _)
  have hflatten : (runs s [] d.content).1.flatten ++ (runs s [] d.content).2 = d.content :=
    runs_flatten s [] d.content
  have hleft := runs_left s [] d.content
  generalize runs s [] d.content = cut at hgreedy hflatten hleft ⊢
  refine ⟨cut.1, cut.2, rfl, hgreedy, hflatten, hleft, ?_⟩
  have hnone : cut.2.filter Item.isElement = [] := by
    simpa [List.filter_eq_nil_iff] using hleft
  rw [Document.elements, ← hflatten, List.filter_append, hnone, List.append_nil]

end Triplify.Split
