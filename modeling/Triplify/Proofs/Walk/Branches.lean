import Triplify.Proofs.Walk.Handles
/-!
# Branches stand in a switch

A `<case>` or `<default>` loads only inside of a `<switch>`, and a switch carries out its branches by
itself: no run goes over the children of a switch in order. So a run never comes to a branch as a
node of its own, whatever named mappings it goes through.

`nodesOf_regular`: what loads has its branches in switches. `Script.Meets`: the children that a
script carries out.
-/

namespace Triplify.Mapping

/-! ## Loaded configurations -/

/-- The element is a branch of a switch. -/
def Tag.isBranch : Tag → Bool
  | branch => true
  | fallback => true
  | _ => false

/-- All branches inside of the node stand in a switch. -/
inductive Node.Regular : Node → Prop
  | mk {tag : Tag} {name : String} {attributes : List (String × String)} {children : List Node}
    {source : String} : (∀ c ∈ children, c.Regular) →
    (∀ c ∈ children, c.tag.isBranch → tag = .switch) →
    Regular (.mk tag name attributes children source)

namespace Config

/-- Only in a switch is a name read as that of a branch. -/
theorem tagIn?_isBranch {parent : Option Tag} {name : String} {tag : Tag}
    (h : tagIn? parent name = some tag) (hbranch : tag.isBranch) : parent = some .switch := by
  unfold tagIn? at h
  split at h
  · split at h
    · assumption
    · cases h
  · split at h
    · assumption
    · cases h
  · next hbranch' hfallback =>
    cases tag with
    | branch => exact (hbranch' h).elim
    | fallback => exact (hfallback h).elim
    | _ => cases hbranch

mutual

/-- A node that loads has its branches in switches, and is no branch unless it stands in one. -/
theorem nodeOf_regular (parent : Option Tag) : ∀ (e : Xml.Element) {n : Node},
    nodeOf parent e = .ok n → n.Regular ∧ (n.tag.isBranch → parent = some .switch)
  | .mk name attributes children source, n, h => by
    rw [nodeOf] at h
    split at h
    · cases h
    · next tag htag =>
      dsimp only at h
      obtain ⟨inner, rfl, hregular⟩ : ∃ inner, n = .mk tag name _ inner source ∧
          ∀ c ∈ inner, c.Regular ∧ (c.tag.isBranch → some tag = some .switch) := by
        split at h
        · cases h
          exact ⟨[], rfl, List.forall_mem_nil _⟩
        · obtain ⟨inner, hinner, h⟩ := of_bind_ok h
          cases h
          exact ⟨inner, rfl, nodesOf_regular (some tag) children hinner⟩
      refine ⟨.mk (fun c hc => (hregular c hc).1) fun c hc hbranch => ?_, tagIn?_isBranch htag⟩
      exact Option.some.inj ((hregular c hc).2 hbranch)

theorem nodesOf_regular (parent : Option Tag) : ∀ (es : List Xml.Element) {ns : List Node},
    nodesOf parent es = .ok ns →
      ∀ n ∈ ns, n.Regular ∧ (n.tag.isBranch → parent = some .switch)
  | [], ns, h => by
    cases h
    exact List.forall_mem_nil _
  | e :: rest, ns, h => by
    rw [nodesOf] at h
    obtain ⟨n, hn, h⟩ := of_bind_ok h
    obtain ⟨more, hmore, h⟩ := of_bind_ok h
    cases h
    exact List.forall_mem_cons.2 ⟨nodeOf_regular parent e hn, nodesOf_regular parent rest hmore⟩

end

/-- The root of a configuration that loads has its branches in switches. -/
theorem ofText_regular {text : String} {config : Config} (h : ofText text = .ok config) :
    config.root.Regular ∧ config.root.tag = .mapping := by
  unfold ofText at h
  split at h
  · cases h
  · next root _ =>
    split at h
    · cases h
    · obtain ⟨children, hchildren, h⟩ := of_bind_ok h
      cases h
      have hregular := nodesOf_regular none root.children hchildren
      refine ⟨.mk (fun c hc => (hregular c hc).1) fun c hc hbranch => ?_, rfl⟩
      cases (hregular c hc).2 hbranch

end Config

/-- A node inside of a regular one is regular. -/
theorem Node.Regular.at? {n m : Node} (h : n.Regular) {p : Place} (hp : n.at? p = some m) :
    m.Regular := by
  induction p generalizing n with
  | nil =>
    cases hp
    exact h
  | cons i p ih =>
    obtain ⟨c, hc, hm⟩ := Option.bind_eq_some_iff.1 hp
    cases h with
    | mk hchildren _ => exact ih (hchildren c (List.mem_of_getElem? hc)) hm

/-- A child of a regular node is no branch, unless the node is a switch. -/
theorem Node.Regular.child {n c : Node} (h : n.Regular) (hc : c ∈ n.children)
    (hn : n.tag ≠ .switch) : c.tag.isBranch = false := by
  cases h with
  | mk _ hbranch => exact Bool.eq_false_iff.2 fun h => hn (hbranch c hc h)

/-! ## Nodes that a script comes to -/

/-- The node that an event belongs to. -/
def Event.owner : Event → Located
  | started l => l
  | stated l _ => l
  | raised l _ => l
  | ended l _ => l
  | named l _ => l

namespace Watch

variable {α β : Type} {P : Event → Prop}

theorem forall_bind {w : Watch α} {k : α → Watch β} {st : RunState}
    (h : ∀ event ∈ (w st).events, P event)
    (hk : ∀ a, (w st).result = .ok a → ∀ event ∈ (k a (w st).state).events, P event) :
    ∀ event ∈ ((w >>= k) st).events, P event := by
  cases hr : (w st).result with
  | error e =>
    rw [bind_error hr]
    exact h
  | ok a =>
    rw [bind_ok hr]
    exact List.forall_mem_append.2 ⟨h, hk a hr⟩

theorem forall_guarded {l : Located} {mark : Except MappingError Unit → Event} {w : Watch α}
    {st : RunState} (hmark : ∀ r, P (mark r)) (h : ∀ event ∈ (w st).events, P event) :
    ∀ event ∈ (guarded l mark w st).events, P event := by
  rw [guarded_events]
  exact List.forall_mem_append.2 ⟨h, List.forall_mem_singleton.2 (hmark _)⟩

end Watch

namespace Script

/-- Carried out for a node, the script has only acts and children of such nodes. -/
def Meets (s : Setting) (P : Located → Prop) : Located → {α : Type} → Script α → Prop
  | _, _, done _ => True
  | l, _, own a data next =>
    P l ∧ ∀ st answer, ((a.run s l data).exec st).1 = .ok answer → (next answer).Meets s P l
  | l, _, inside _ _ body next => P l ∧ body.Meets s P l ∧ next.Meets s P l
  | l, _, naming _ next => P l ∧ next.Meets s P l
  | l, _, enter _ _ body next => P l ∧ body.Meets s P l ∧ next.Meets s P l
  | l, _, child c x next => P c ∧ x.Meets s P c ∧ ∀ result, (next result).Meets s P l

variable {s : Setting} {P : Located → Prop} {l : Located} {α : Type}

/-- Filled with bodies that come to such nodes only, an outline of one does so, too. -/
theorem Sited.meets {body : ScriptBody} {x : Script α} (h : x.Sited s l) (hl : P l)
    (hbody : ∀ target data, s.Leads l target → (body target data).Meets s P l) :
    (x.filled body).Meets s P l := by
  induction x with
  | done a => trivial
  | own a data next ih => exact ⟨hl, fun st answer hanswer => ih answer (h.2 st answer hanswer)⟩
  | inside o data inner next ihinner ih => exact ⟨hl, ihinner h.2.1, ih h.2.2⟩
  | naming data next ih => exact ⟨hl, ih h.2⟩
  | enter target data inner next _ ih => exact ⟨hl, hbody target data h.1, ih h.2⟩
  | child c x next _ _ => exact h.elim

theorem meets_each {body : ScriptBody} (data : XPath.NodeRef) {cs : List Located}
    (hcs : ∀ c ∈ cs, P c ∧ ∀ target data, s.Leads c target → (body target data).Meets s P c)
    (before : Option ConditionResult) : (scriptEach body data before cs).Meets s P l := by
  induction cs generalizing before with
  | nil => trivial
  | cons c rest ih =>
    obtain ⟨hc, hbody⟩ := hcs c (.head _)
    have hrest := ih fun c hc => hcs c (.tail _ hc)
    rw [scriptEach]
    split
    · next htag =>
      have hnode := (sited_condition body data htag).meets (s := s) hc hbody
      rw [filled_condition] at hnode
      exact ⟨hc, hnode, fun result => hrest _⟩
    · have hnode := (sited_node body data before).meets (s := s) hc hbody
      rw [filled_node] at hnode
      exact ⟨hc, hnode, fun result => hrest _⟩

/-- Every event is one of such a node. -/
theorem Meets.events {x : Script α} (h : x.Meets s P l) (st : RunState) :
    ∀ event ∈ (x.watch s l st).events, P event.owner := by
  have hown : ∀ {β : Type} {l : Located} (m : Run β) (st : RunState), P l →
      ∀ event ∈ (Watch.own l m st).events, P event.owner := by
    intro β l m st hl event hevent
    rcases Watch.mem_own hevent with ⟨_, rfl⟩ | ⟨_, rfl⟩ <;> exact hl
  induction x generalizing l st with
  | done a => exact List.forall_mem_nil _
  | own a data next ih =>
    exact Watch.forall_bind (hown _ st h.1) fun answer hanswer => ih answer (h.2 st answer hanswer) _
  | inside o data body next ihbody ih =>
    refine Watch.forall_bind (hown _ st h.1) fun inner _ => ?_
    exact Watch.forall_bind (w := Watch.within inner (body.watch s l)) (ihbody h.2.1 _)
      fun _ _ => ih h.2.2 _
  | naming data next ih =>
    refine Watch.forall_bind ?_ fun _ _ => ih h.2 _
    exact Watch.forall_guarded (fun _ => h.1) (hown _ st h.1)
  | enter target data body next ihbody ih =>
    exact Watch.forall_bind (ihbody h.2.1 st) fun _ _ => ih h.2.2 _
  | child c x next ihx ih =>
    refine Watch.forall_bind ?_ fun result _ => ih result (h.2.2 result) _
    rw [Watch.child_apply]
    exact List.forall_mem_cons.2 ⟨h.1, Watch.forall_guarded (fun _ => h.1) (ihx h.2.1 st)⟩

end Script

/-! ## Whole runs -/

/-- What is carried out on behalf of a node is no switch. -/
theorem Setting.Leads.ne_switch {s : Setting} {l target : Located} (h : s.Leads l target) :
    target.node.tag ≠ .switch := by
  have hwith : ∀ {t : Tag} {l c : Located}, c ∈ l.childrenWith t → c.node.tag = t := fun hc =>
    of_decide_eq_true (List.mem_filter.1 hc).2
  cases h with
  | own hl => exact hl
  | branch hc => simp [hwith hc]
  | fallback hc => simp [hwith hc]
  | used htarget =>
    obtain ⟨name, hfound⟩ := Setting.target_found htarget
    simp [hwith (List.mem_of_find?_eq_some hfound)]

/-- A node of the configuration that is no branch. -/
structure Setting.Unbranched (s : Setting) (l : Located) : Prop where
  stands : l.StandsIn s.config.root
  plain : l.node.tag.isBranch = false

section
variable {s : Setting} (hregular : s.config.root.Regular)
include hregular

/-- The children of a node that stands in a configuration, but of a switch, are no branches. -/
theorem Setting.Unbranched.child {l c : Located} (hl : l.StandsIn s.config.root)
    (htag : l.node.tag ≠ .switch) (hc : c ∈ l.children) : s.Unbranched c where
  stands := hl.child hc
  plain := by
    obtain ⟨i, hi, -⟩ := Located.mem_children.1 hc
    exact (hregular.at? hl).child (List.mem_of_getElem? hi) htag

theorem meets_children (levels : Nat) {caller l : Located} (hcaller : s.Unbranched caller)
    (hl : l.StandsIn s.config.root) (htag : l.node.tag ≠ .switch) (data : XPath.NodeRef) :
    (scriptChildren levels l data).Meets s s.Unbranched caller := by
  induction levels generalizing caller l data with
  | zero => exact ⟨hcaller, fun _ _ _ => trivial⟩
  | succ levels ih =>
    refine Script.meets_each data (fun c hc => ?_) none
    have hchild := Setting.Unbranched.child hregular hl htag hc
    exact ⟨hchild, fun target data hleads =>
      ih hchild (hleads.standsIn hchild.stands) hleads.ne_switch data⟩

/-- No run comes to a branch: neither is one carried out in order, nor does it state or fail. -/
theorem owners_unbranched (hroot : s.config.root.tag = .mapping) (g : Graph) (taken : Nat) :
    ∀ event ∈ trace s g taken, s.Unbranched event.owner := by
  have hrun : (scriptChildren maxNesting s.root .root).Meets s s.Unbranched s.root := by
    have hlevels : maxNesting = 63 + 1 := rfl
    rw [hlevels, scriptChildren]
    refine Script.meets_each .root (fun c hc => ?_) none
    have hchild := Setting.Unbranched.child hregular (Located.standsIn_root s) (l := s.root)
      (by simp [Setting.root, hroot]) hc
    exact ⟨hchild, fun target data hleads =>
      meets_children hregular 63 hchild (hleads.standsIn hchild.stands) hleads.ne_switch data⟩
  rw [trace, walkConfig, walkChildren_eq]
  exact hrun.events _

end

/-- Only a branch that is carried out as a node of its own has a tag that is not recognized. -/
theorem Act.isBranch_of_unrecognized {s : Setting} {l : Located} {a : Act} (ha : s.Admits l a)
    {data : XPath.NodeRef} {st : RunState} {name source : String}
    (h : ((a.run s l data).exec st).1 = .error (.unrecognizedTag name source)) :
    l.node.tag.isBranch := by
  obtain hfault | ⟨message, heq⟩ | ⟨handle, heq⟩ := Act.fails ha.fits h
  · cases hfault with
    | plain hplain => cases hplain
    | misplaced =>
      obtain hbranch | hfallback := ha.fits
      · rw [hbranch]; rfl
      · rw [hfallback]; rfl
  · cases heq
  · cases heq

/-- The node that fails is the one that the event belongs to. -/
theorem Event.owner_of_failure? {event : Event} {f : Located × MappingError}
    (h : event.failure? = some f) : f.1 = event.owner := by
  cases event with
  | ended l result => cases result <;> cases h; rfl
  | named l result => cases result <;> cases h; rfl
  | _ => cases h

/-- A run of a configuration that loads comes to no branch in order, and recognizes all tags. -/
theorem branches_are_not_met {text : String} {s : Setting} (h : Config.ofText text = .ok s.config)
    (g : Graph) (taken : Nat) :
    (∀ event ∈ trace s g taken, event.owner.node.tag.isBranch = false) ∧
    ∀ f ∈ (trace s g taken).filterMap Event.failure?, ∀ name source,
      f.2 ≠ .unrecognizedTag name source := by
  obtain ⟨hregular, hroot⟩ := Config.ofText_regular h
  have howners := owners_unbranched hregular hroot g taken
  refine ⟨fun event hevent => (howners event hevent).plain, ?_⟩
  rintro f hf name source heq
  obtain ⟨event, hevent, hfailure⟩ := List.mem_filterMap.1 hf
  have hbranch := failures_of_acts
    (E := fun l e => e = .unrecognizedTag name source → l.node.tag.isBranch)
    (by rintro l e he rfl; cases he)
    (by rintro l a data st e ha he rfl; exact Act.isBranch_of_unrecognized ha he) g taken hf heq
  rw [Event.owner_of_failure? hfailure, (howners event hevent).plain] at hbranch
  cases hbranch

end Triplify.Mapping
