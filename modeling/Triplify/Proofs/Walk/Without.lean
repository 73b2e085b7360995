import Triplify.Proofs.Walk.Relation
/-!
# A configuration without a node

`Setting.without` deletes one node of a configuration and leaves all others as they are.
`Image.without`: where the node makes statements and does not stand between an `if` and an `else`,
the configuration corresponds to the one without it, in which only that node is left out.
-/

namespace Triplify.Mapping

/-- A node without the child of an index at a place. -/
def Node.withoutChild (n : Node) (k : Nat) : Place → Node
  | [] => .mk n.tag n.name n.attributes (n.children.eraseIdx k) n.source
  | i :: rest =>
    .mk n.tag n.name n.attributes (n.children.modify i fun c => c.withoutChild k rest) n.source

/-- A setting whose configuration lacks the child of an index at a place. -/
def Setting.without (s : Setting) (p : Place) (k : Nat) : Setting :=
  { s with config := { s.config with root := s.config.root.withoutChild k p } }

/-- The child of an index at a place stands right after an `if` and right before an `else`. -/
def Node.BetweenIfAndElse (n : Node) (p : Place) (k : Nat) : Prop :=
  ∃ i before after, k = i + 1 ∧ n.at? (p ++ [i]) = some before ∧ before.tag = .condition ∧
    n.at? (p ++ [k + 1]) = some after ∧ after.tag = .otherwise

theorem Node.withoutChild_head (n : Node) (k : Nat) (p : Place) : SameHead (n.withoutChild k p) n := by
  cases p <;> exact ⟨rfl, rfl, rfl, rfl⟩

/-! ## The nodes that are left -/

namespace Located

variable (p : Place) (k : Nat)

/-- What is left of a node. -/
def without (l : Located) : Node :=
  -- Only the nodes on the way to the deleted one change.
  if l.place <+: p then l.node.withoutChild k (p.drop l.place.length) else l.node

/-- The node is not the one that is deleted. -/
def remains (l : Located) : Bool := l.place ≠ p ++ [k]

variable {p k}

theorem without_head (l : Located) : SameHead (l.without p k) l.node := by
  rw [without]
  split
  · exact l.node.withoutChild_head k _
  · exact .refl l.node

theorem remains_of_ne {l : Located} (h : l.place ≠ p ++ [k]) : l.remains p k := by
  simpa [remains] using h

theorem filter_mapIdx_eq_eraseIdx {α β : Type} {keep : β → Bool} {f : Nat → α → β} {k : Nat}
    (hkeep : ∀ i a, keep (f i a) = decide (i ≠ k)) (xs : List α) :
    (xs.mapIdx f).filter keep = (xs.mapIdx f).eraseIdx k := by
  induction xs generalizing f k with
  | nil => rfl
  | cons a xs ih =>
    rw [List.mapIdx_cons]
    cases k with
    | zero =>
      rw [List.filter_cons_of_neg (by simp [hkeep]), List.eraseIdx_cons_zero]
      refine List.filter_eq_self.2 fun b hb => ?_
      obtain ⟨i, _, rfl⟩ := List.mem_mapIdx.1 hb
      simp [hkeep]
    | succ k =>
      rw [List.filter_cons_of_pos (by simp [hkeep]), List.eraseIdx_cons_succ, ih]
      simp [hkeep]

theorem place_of_mem_children {l c : Located} (h : c ∈ l.children) : ∃ i, c.place = l.place ++ [i] := by
  obtain ⟨i, _, hplace⟩ := mem_children.1 h
  exact ⟨i, hplace⟩

/-- A child that is not on the way to the deleted node is left as it is. -/
theorem without_eq_node {c : Located} (h : ¬ c.place <+: p) : c.without p k = c.node := by
  rw [without, if_neg h]

/-- At the parent one child is deleted, and the others are left as they are. -/
theorem children_without_parent (l : Located) :
    (l.node.withoutChild k []).children =
      (l.children.filter (·.remains l.place k)).map (·.without l.place k) := by
  have hfilter : l.children.filter (·.remains l.place k) = l.children.eraseIdx k :=
    filter_mapIdx_eq_eraseIdx (fun i c => by simp [remains]) l.node.children
  have hnode : l.children.map (·.without l.place k) = l.children.map (·.node) := by
    refine List.map_congr_left fun c hc => without_eq_node ?_
    obtain ⟨i, hi⟩ := place_of_mem_children hc
    rw [hi]
    exact fun h => absurd h.length_le (by simp)
  rw [hfilter, List.eraseIdx_eq_take_drop_succ, List.map_append, List.map_take, List.map_drop,
    hnode, children_map_node, ← List.eraseIdx_eq_take_drop_succ]
  rfl

/-- Above the parent no child is deleted, and one of them is on the way. -/
theorem children_without_above (l : Located) (j : Nat) (rest : Place) :
    (l.node.withoutChild k (j :: rest)).children =
      (l.children.filter (·.remains (l.place ++ j :: rest) k)).map
        (·.without (l.place ++ j :: rest) k) := by
  have hfilter : l.children.filter (·.remains (l.place ++ j :: rest) k) = l.children := by
    refine List.filter_eq_self.2 fun c hc => remains_of_ne ?_
    obtain ⟨i, hi⟩ := place_of_mem_children hc
    simp [hi]
  rw [hfilter]
  refine List.ext_getElem? fun i => ?_
  rw [Node.withoutChild, Node.children, List.getElem?_modify, List.getElem?_map, children,
    List.getElem?_mapIdx]
  cases l.node.children[i]? with
  | none => rfl
  | some c =>
    by_cases hij : i = j
    · subst hij
      have hdrop : (l.place ++ i :: rest).drop (l.place ++ [i]).length = rest := by
        have hsplit : l.place ++ i :: rest = l.place ++ [i] ++ rest := by simp
        rw [hsplit, List.drop_left]
      have hon : l.place ++ [i] <+: l.place ++ i :: rest := by simp
      simp only [without, if_pos hon, hdrop, Option.map_some, Option.map_eq_map, if_pos]
    · have hoff : ¬ l.place ++ [i] <+: l.place ++ j :: rest := by simp [hij]
      simp [without_eq_node (c := ⟨l.place ++ [i], c⟩) hoff, Ne.symm hij]

/-- Elsewhere no child is deleted, and none is on the way. -/
theorem children_without_elsewhere {l : Located} (habove : ¬ l.place <+: p) :
    l.node.children = (l.children.filter (·.remains p k)).map (·.without p k) := by
  have hoff : ∀ c ∈ l.children, ¬ c.place <+: p := by
    intro c hc h
    obtain ⟨i, hi⟩ := place_of_mem_children hc
    exact habove ((hi ▸ List.prefix_append l.place [i]).trans h)
  have hfilter : l.children.filter (·.remains p k) = l.children := by
    refine List.filter_eq_self.2 fun c hc => remains_of_ne fun hplace => ?_
    obtain ⟨i, hi⟩ := place_of_mem_children hc
    rw [hi] at hplace
    exact habove ((List.append_inj_left' hplace rfl) ▸ List.prefix_rfl)
  have hnode : l.children.map (·.without p k) = l.children.map (·.node) :=
    List.map_congr_left fun c hc => without_eq_node (hoff c hc)
  rw [hfilter, hnode, children_map_node]

/-- What is left of the children, but for the one that is deleted, are the children of what is left
of a node. -/
theorem children_without (l : Located) :
    (l.without p k).children = (l.children.filter (·.remains p k)).map (·.without p k) := by
  by_cases habove : l.place <+: p
  · obtain ⟨rest, rfl⟩ := habove
    rw [without, if_pos (List.prefix_append ..), List.drop_left]
    cases rest with
    | nil =>
      rw [List.append_nil]
      exact l.children_without_parent
    | cons j rest => exact l.children_without_above j rest
  · rw [without_eq_node habove]
    exact children_without_elsewhere habove

end Located

/-! ## The deletion as an image -/

/-- One node that is left out makes no difference if no `else` comes right after it, or no `if` comes
right before it. -/
theorem apart_of_one {kept : Located → Bool} {before after : List Located} {c : Located}
    (hbefore : ∀ b ∈ before, kept b) (hc : kept c = false) (hafter : ∀ a ∈ after, kept a)
    (afterIf : Bool)
    (hfree : (before.getLast?.map fun b => decide (b.node.tag = .condition)).getD afterIf →
      ∀ next ∈ after.head?, next.node.tag ≠ .otherwise) :
    Apart kept afterIf (before ++ c :: after) := by
  induction before generalizing afterIf with
  | nil =>
    rw [List.nil_append, Apart, if_neg (by simp [hc]), List.filter_eq_self.2 hafter]
    exact ⟨hfree, apart_of_kept hafter afterIf⟩
  | cons b rest ih =>
    rw [List.cons_append, Apart, if_pos (hbefore b (.head _))]
    refine ih (fun b hb => hbefore b (.tail _ hb)) _ fun hlast => hfree ?_
    rw [List.getLast?_cons]
    cases hr : rest.getLast? <;> simpa [hr] using hlast

theorem Located.apart_without {root : Node} {p : Place} {k : Nat} {n : Node}
    (hn : root.at? (p ++ [k]) = some n) (hfree : ¬ root.BetweenIfAndElse p k) {l : Located}
    (hl : l.StandsIn root) : Apart (·.remains p k) false l.children := by
  by_cases hp : l.place = p
  · subst hp
    have hat := hl.getElem?_children
    have hk : l.children[k]? = some ⟨l.place ++ [k], n⟩ := by rw [hat, hn]; rfl
    obtain ⟨hlt, hget⟩ := List.getElem?_eq_some_iff.1 hk
    have hkept : ∀ i c, i ≠ k → l.children[i]? = some c → c.remains l.place k := by
      intro i c hik hc
      rw [hat] at hc
      obtain ⟨_, _, rfl⟩ := Option.map_eq_some_iff.1 hc
      exact remains_of_ne (by simpa using hik)
    have hsplit : l.children = l.children.take k ++ ⟨l.place ++ [k], n⟩ :: l.children.drop (k + 1) := by
      rw [← hget, List.getElem_cons_drop, List.take_append_drop]
    rw [hsplit]
    -- The deleted child is the only one that is left out, so only its neighbours matter.
    refine apart_of_one ?_ (by simp [remains]) ?_ false ?_
    · intro b hb
      obtain ⟨i, hi⟩ := List.mem_iff_getElem?.1 hb
      rw [List.getElem?_take] at hi
      split at hi
      · next hik => exact hkept i b (by omega) hi
      · cases hi
    · intro a ha
      obtain ⟨i, hi⟩ := List.mem_iff_getElem?.1 ha
      rw [List.getElem?_drop] at hi
      exact hkept _ a (by omega) hi
    · intro hlast next hnext helse
      rw [List.head?_drop, Option.mem_def, hat] at hnext
      obtain ⟨after, hafter, rfl⟩ := Option.map_eq_some_iff.1 hnext
      cases k with
      | zero => cases hlast
      | succ i =>
        obtain ⟨before, hbefore⟩ : ∃ before, l.children[i]? = some before :=
          ⟨_, List.getElem?_eq_getElem (by omega)⟩
        rw [List.getLast?_take, if_neg (by omega), Nat.add_sub_cancel, hbefore] at hlast
        rw [hat] at hbefore
        obtain ⟨c, hc, rfl⟩ := Option.map_eq_some_iff.1 hbefore
        exact hfree ⟨i, c, after, rfl, hc, by simpa using hlast, hafter, helse⟩
  · refine apart_of_kept (fun c hc => remains_of_ne fun hplace => hp ?_) false
    obtain ⟨i, hi⟩ := place_of_mem_children hc
    exact List.append_inj_left' (hi.symm.trans hplace) rfl

/-- A configuration corresponds to the one without a node that only makes statements. -/
def Image.without (s : Setting) {p : Place} {k : Nat} {n : Node}
    (hn : s.config.root.at? (p ++ [k]) = some n) (htag : n.tag = .triple ∨ n.tag = .type)
    (hfree : ¬ s.config.root.BetweenIfAndElse p k) : Image s (s.without p k) where
  node l := l.without p k
  kept l := l.remains p k
  namespaces := rfl
  transforms := rfl
  paths := rfl
  root := by simp [Setting.root, Located.without, Setting.without]
  root_kept := by simp [Setting.root, Located.remains]
  head l := l.without_head
  children l := l.children_without
  left_out l hl hk := by
    have hplace : l.place = p ++ [k] := by simpa [Located.remains] using hk
    have hl : s.config.root.at? l.place = some l.node := hl
    rw [hplace, hn] at hl
    cases hl
    exact htag
  apart l hl := l.apart_without hn hfree hl

end Triplify.Mapping
