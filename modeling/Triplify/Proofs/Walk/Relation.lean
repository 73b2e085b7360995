import Triplify.Proofs.Walk.Image
/-!
# Relations between corresponding runs

`Relation` says what a relation between watched runs and runs has to keep: one clause for each way in
which the interpreter puts a run together, and one for a node that is left out. `Relation.config`
is the induction over the interpreter, done once for all such relations.

The first use is `walkConfig_erases`: a watched run has the result of the run and leaves its state.
-/

namespace Triplify.Mapping

/-- A relation between watched runs, each on behalf of a node, and runs on the corresponding
configuration. -/
structure Relation {s s' : Setting} (i : Image s s')
    (R : Located → (α : Type) → Watch α → Run α → Prop) : Prop where
  pure (l : Located) {α : Type} (a : α) : R l α (pure a) (pure a)
  bind (l : Located) {α β : Type} {w : Watch α} {m : Run α} {k : α → Watch β} {k' : α → Run β} :
    R l α w m → (∀ a, R l β (k a) (k' a)) → R l β (w >>= k) (m >>= k')
  own {l : Located} {α : Type} {m : Run α} : i.kept l → Step AnyChange m → R l α (.own l m) m
  within (l : Located) (inner : Context) {w : Watch Unit} {m : Run Unit} :
    R l Unit w m → R l Unit (.within inner w) (Run.within inner m)
  child (caller : Located) {l : Located} {α : Type} {w : Watch α} {m : Run α} : i.kept l →
    l.node.tag ≠ .error → R l α w m →
    R caller (Except MappingError α) (.child l w) (Run.guarded (i.node l) m)
  report (caller : Located) {l : Located} : i.kept l → l.node.tag = .error →
    R caller (Except MappingError Unit) (.child l (.own l (runError l.node)))
      (Run.guarded (i.node l) (runError l.node))
  naming {l : Located} {m : Run Unit} : i.kept l → Step AnyChange m →
    R l (Except MappingError Unit) (.naming l (.own l m)) (Run.guarded (i.node l) m)
  skip (caller : Located) {l : Located} {m : Run Unit} {w : Watch Unit} {m' : Run Unit} :
    i.kept l = false → Step StatementOnly m → R caller Unit w m' →
    R caller Unit (.child l (.own l m) >>= fun _ => w) m'

namespace Relation

variable {s s' : Setting} {i : Image s s'} {R : Located → (α : Type) → Watch α → Run α → Prop}
  (h : Relation i R) {body : WalkBody} {body' : Body}

/-- The bodies are related wherever the interpreter uses them. -/
abbrev Bodies (i : Image s s') (R : Located → (α : Type) → Watch α → Run α → Prop)
    (body : WalkBody) (body' : Body) : Prop :=
  ∀ (caller l : Located) (data : XPath.NodeRef), i.kept caller → i.kept l →
    l.StandsIn s.config.root → R caller Unit (body caller l data) (body' (i.node l) data)

/-! ## The parts of the interpreter -/

section
variable (hbody : Bodies i R body body') {l : Located} (hk : i.kept l)
  (hl : l.StandsIn s.config.root) (data : XPath.NodeRef)
include h hk

theorem failed {e : MappingError} (he : e.isFatal = false) {α : Type} :
    R l α (.own l (throw e)) (throw e) :=
  h.own hk (.throw he trivial)

include hl hbody

theorem resource : R l Unit (walkResource s body l data) (runResource s' body' (i.node l) data) := by
  rw [walkResource, runResource, i.newSubject_eq hl]
  refine h.bind l (h.own hk (newSubject_step s l.node data).any) fun inner => ?_
  exact h.within l inner (hbody l l data hk hk hl)

theorem eachMatch (nodes : List XPath.NodeRef) :
    R l Unit (walkMatches s body l nodes) (runMatches s' body' (i.node l) nodes) := by
  induction nodes with
  | nil => exact h.pure l ()
  | cons data rest ih =>
    rw [walkMatches, runMatches, (i.head l).has, i.assignGraph_eq (i.head l)]
    refine h.bind l (hbody l l data hk hk hl) fun _ => ?_
    split
    · exact h.bind l (h.naming hk (assignGraph_step s l.node data).any) fun _ => ih
    · exact ih

theorem mapping : R l Unit (walkMapping s body l data) (runMapping s' body' (i.node l) data) := by
  rw [walkMapping, runMapping, i.selected_eq (i.head l)]
  exact h.bind l (h.own hk (selected_step s l.node data)) fun nodes => h.eachMatch hbody hk hl nodes

theorem blank : R l Unit (walkBlank body l data) (runBlank body' (i.node l) data) := by
  rw [walkBlank, runBlank, (i.head l).newBlank_eq]
  refine h.bind l (h.own hk (newBlank_step l.node).any) fun inner => ?_
  exact h.within l inner (hbody l l data hk hk hl)

theorem condition :
    R l Bool (walkCondition s body l data) (runCondition s' body' (i.node l) data) := by
  rw [walkCondition, runCondition, i.conditionHolds_eq (i.head l)]
  refine h.bind l (h.own hk (conditionHolds_step s l.node data)) fun holds => ?_
  cases holds with
  | true => exact h.bind l (hbody l l data hk hk hl) fun _ => h.pure l true
  | false => exact h.pure l false

theorem otherwise (before : Option ConditionResult) :
    R l Unit (walkOtherwise body l data before) (runOtherwise body' (i.node l) data before) := by
  rcases before with _ | _ | _ | _
  · rw [walkOtherwise, runOtherwise, (i.head l).name]
    exact h.failed hk rfl
  · exact h.pure l ()
  · exact hbody l l data hk hk hl
  · exact h.pure l ()

end

section
variable (hbody : Bodies i R body body') {l : Located} (hk : i.kept l)
  (hl : l.StandsIn s.config.root) (data : XPath.NodeRef)
include h

theorem repeated {w : Watch Unit} {m : Run Unit} (hw : R l Unit w m) (times : Nat) :
    R l Unit (walkRepeated w times) (Mapping.repeated m times) := by
  induction times with
  | zero => exact h.pure l ()
  | succ n ih => exact h.bind l hw fun _ => ih

include hk hbody

theorem branches (candidates : List String) {cs : List Located}
    (hcs : ∀ c ∈ cs, i.kept c ∧ c.StandsIn s.config.root) (matched : Bool) :
    R l Bool (walkBranches s body l candidates data matched cs)
      (runBranches s' body' candidates data matched (cs.map i.node)) := by
  induction cs generalizing matched with
  | nil => exact h.pure l matched
  | cons c rest ih =>
    obtain ⟨hkc, hc⟩ := hcs c (.head _)
    have hrest := ih fun c hc => hcs c (.tail _ hc)
    rw [List.map_cons, walkBranches, runBranches, i.branchHits_eq (i.head c), (i.head c).has]
    refine h.bind l (h.own hk (branchHits_step s c.node data candidates)) fun hits => ?_
    refine h.bind l (h.repeated (hbody l c data hk hkc hc) hits) fun _ => ?_
    split
    · exact hrest matched
    · split
      · exact hrest true
      · exact h.pure l true

theorem fallback {cs : List Located} (hcs : ∀ c ∈ cs, i.kept c ∧ c.StandsIn s.config.root) :
    R l Unit (walkFallback body l data cs)
      (runFallback body' (i.node l) data (cs.map i.node)) := by
  rcases cs with _ | ⟨only, _ | ⟨second, rest⟩⟩
  · exact h.pure l ()
  · obtain ⟨hko, ho⟩ := hcs only (.head _)
    exact hbody l only data hk hko ho
  · rw [List.map_cons, List.map_cons, walkFallback, runFallback, (i.head l).name]
    · exact h.failed hk rfl
    all_goals nofun

include hl

theorem switch : R l Unit (walkSwitch s body l data) (runSwitch s' body' (i.node l) data) := by
  have hin : ∀ t : Tag, t ≠ .triple → t ≠ .type → ∀ c ∈ l.childrenWith t,
      i.kept c ∧ c.StandsIn s.config.root :=
    fun t h₁ h₂ c hc => ⟨i.kept_of_childWith hl h₁ h₂ hc, hl.childWith hc⟩
  rw [walkSwitch, runSwitch, i.switchCandidates_eq (i.head l), i.childrenWith hl (t := .branch) nofun nofun,
    i.childrenWith hl (t := .fallback) nofun nofun]
  refine h.bind l (h.own hk (switchCandidates_step s l.node data)) fun candidates => ?_
  refine h.bind l (h.branches hbody hk data candidates (hin .branch nofun nofun) false)
    fun matched => ?_
  cases matched with
  | true => exact h.pure l ()
  | false => exact h.fallback hbody hk data (hin .fallback nofun nofun)

omit hl in
theorem namedMapping :
    R l Unit (walkNamedMapping s body l data) (runNamedMapping s' body' (i.node l) data) := by
  rw [walkNamedMapping, runNamedMapping, (i.head l).require]
  refine h.bind l (h.own hk (require_step l.node "name")) fun name => ?_
  rw [i.namedMapping?_eq]
  cases hfound : s.namedMapping? name with
  | none => exact h.failed hk rfl
  | some target =>
    have hmem := List.mem_of_find?_eq_some hfound
    have hkept := i.kept_of_childWith (Located.standsIn_root s) (t := .namedMapping) nofun nofun hmem
    exact hbody l target data hk hkept (Setting.namedMapping?_standsIn hfound)

end

/-! ## Nodes in order -/

section
variable (hbody : Bodies i R body body') {l : Located} (hk : i.kept l)
  (hl : l.StandsIn s.config.root) (data : XPath.NodeRef)
include h hbody hk hl

/-- A kept node is carried out alike, whatever came before it, unless it is an `else`. -/
theorem node {before before' : Option ConditionResult}
    (hbefore : before = before' ∨ l.node.tag ≠ .otherwise) (herror : l.node.tag ≠ .error) :
    R l Unit (walkNode s body before l data) (runNode s' body' before' (i.node l) data) := by
  have hhead := i.head l
  rw [walkNode, runNode, hhead.tag, hhead.name, hhead.source, hhead.runCounter_eq,
    hhead.runUniqueIdentifier_eq, i.runIdentifier_eq hhead, i.runTriple_eq hhead, i.runType_eq hhead]
  cases htag : l.node.tag with
  | condition => exact h.bind l (h.condition hbody hk hl data) fun _ => h.pure l ()
  | otherwise =>
    rcases hbefore with rfl | hne
    · exact h.otherwise hbody hk hl data before
    · exact (hne htag).elim
  | identifier => exact h.own hk (runIdentifier_step s l.node data).any
  | resource => exact h.resource hbody hk hl data
  | mapping => exact h.mapping hbody hk hl data
  | triple => exact h.own hk (runTriple_step s l.node data).any
  | type => exact h.own hk (runType_step s l.node data).any
  | bnode => exact h.blank hbody hk hl data
  | switch => exact h.switch hbody hk hl data
  | counter => exact h.own hk (runCounter_step l.node).any
  | uniqueIdentifier => exact h.own hk (runUniqueIdentifier_step l.node).any
  | error => exact (herror htag).elim
  | useNamedMapping => exact h.namedMapping hbody hk data
  | branch => exact h.failed hk rfl
  | fallback => exact h.failed hk rfl
  | partition => exact h.pure l ()
  | namespaces => exact h.pure l ()
  | split => exact h.pure l ()
  | namedMapping => exact h.pure l ()

end

section
variable (hbody : Bodies i R body body') {caller : Located} (data : XPath.NodeRef)
include h

/-- A node that is left out, and the nodes after it. -/
theorem leaveOut {l : Located} (hl : l.StandsIn s.config.root) (hk : i.kept l = false)
    (before : Option ConditionResult) {w : Watch Unit} {m : Run Unit} (hrest : R caller Unit w m) :
    R caller Unit (.child l (walkNode s body before l data) >>= fun _ => w) m := by
  rw [walkNode]
  rcases i.left_out l hl hk with htag | htag <;> rw [htag]
  · exact h.skip caller hk (runTriple_step s l.node data) hrest
  · exact h.skip caller hk (runType_step s l.node data) hrest

include hbody

/-- A kept node, whose failure is recorded. -/
theorem childNode {l : Located} (hl : l.StandsIn s.config.root) (hk : i.kept l)
    {before before' : Option ConditionResult} (hbefore : before = before' ∨ l.node.tag ≠ .otherwise) :
    R caller (Except MappingError Unit) (.child l (walkNode s body before l data))
      (Run.guarded (i.node l) (runNode s' body' before' (i.node l) data)) := by
  by_cases herror : l.node.tag = .error
  · have hwalk : walkNode s body before l data = .own l (runError l.node) := by
      rw [walkNode, herror]
    have hrun : runNode s' body' before' (i.node l) data = runError l.node := by
      rw [runNode, (i.head l).tag, herror, (i.head l).runError_eq]
    rw [hwalk, hrun]
    exact h.report caller hk herror
  · exact h.child caller hk herror (h.node hbody hk hl data hbefore herror)

variable (caller) in
/-- The walk carries out some nodes, and the run the images of those that are kept. Where the two
remember different conditions, the next kept node is no `else`. -/
theorem each {cs : List Located} (hcs : ∀ c ∈ cs, c.StandsIn s.config.root)
    {before before' : Option ConditionResult} {afterIf : Bool} (hapart : Apart i.kept afterIf cs)
    (hafter : before'.isSome → afterIf)
    (hbefore : before = before' ∨ ∀ next ∈ (cs.filter i.kept).head?, next.node.tag ≠ .otherwise) :
    R caller Unit (walkEach s body data before cs)
      (runEach s' body' data before' ((cs.filter i.kept).map i.node)) := by
  induction cs generalizing before before' afterIf with
  | nil => exact h.pure caller ()
  | cons l rest ih =>
    have hl := hcs l (.head _)
    have hrest := fun {b b' a} => @ih (fun c hc => hcs c (.tail _ hc)) b b' a
    rw [walkEach]
    by_cases hk : i.kept l
    -- A kept node: from here on both remember the same.
    · rw [Apart, if_pos hk] at hapart
      rw [List.filter_cons_of_pos hk] at hbefore ⊢
      rw [List.map_cons, runEach, (i.head l).tag]
      by_cases hcondition : l.node.tag = .condition
      · rw [if_pos hcondition, if_pos hcondition]
        have hreport : l.node.tag ≠ .error := by simp [hcondition]
        refine h.bind caller (h.child caller hk hreport (h.condition hbody hk hl data))
          fun result => ?_
        exact hrest hapart (fun _ => by simpa using hcondition) (.inl rfl)
      · rw [if_neg hcondition, if_neg hcondition]
        have hnext : before = before' ∨ l.node.tag ≠ .otherwise :=
          hbefore.imp_right fun hne => hne l rfl
        exact h.bind caller (h.childNode hbody data hl hk hnext) fun _ =>
          hrest hapart (fun hsome => (Bool.false_ne_true hsome).elim) (.inl rfl)
    -- A node that is left out: the walk forgets the condition before it, and the run does not.
    · have hk : i.kept l = false := by simpa using hk
      rw [Apart, if_neg (by simp [hk])] at hapart
      rw [List.filter_cons_of_neg (by simp [hk])]
      have hcondition : l.node.tag ≠ .condition := by
        rcases i.left_out l hl hk with htag | htag <;> simp [htag]
      rw [if_neg hcondition]
      refine h.leaveOut data hl hk before (hrest hapart.2 hafter ?_)
      cases before' with
      | none => exact .inl rfl
      | some r => exact .inr (hapart.1 (hafter rfl))

end

/-! ## The interpreter -/

include h

/-- The children of corresponding nodes are related, at every depth. -/
theorem children (levels : Nat) :
    Bodies i R (walkChildren s levels) (runChildren s' levels) := by
  induction levels with
  | zero =>
    -- Too deep: the error belongs to the node on whose behalf the children were to be carried out.
    intro caller l data hcaller _ _
    rw [walkChildren, runChildren, (i.head l).name]
    exact h.failed hcaller rfl
  | succ levels ih =>
    intro caller l data _ _ hl
    rw [walkChildren, runChildren, i.children]
    exact h.each ih _ data (fun c hc => hl.child hc) (i.apart l hl) nofun (.inl rfl)

/-- Runs on corresponding configurations are related. -/
theorem config :
    R s.root Unit (walkChildren s maxNesting s.root s.root .root)
      (runChildren s' maxNesting s'.config.root .root) :=
  i.root ▸ h.children maxNesting s.root s.root .root i.root_kept i.root_kept
    (Located.standsIn_root s)

end Relation

/-! ## What is seen is what is run -/

/-- Every configuration corresponds to itself. -/
def Image.self (s : Setting) : Image s s where
  node := Located.node
  kept _ := true
  namespaces := rfl
  transforms := rfl
  paths := rfl
  root := rfl
  root_kept := rfl
  head l := .refl l.node
  children l := by rw [List.filter_eq_self.2 fun _ _ => rfl, l.children_map_node]
  left_out := nofun
  apart _ _ := apart_of_kept (fun _ _ => rfl) false

theorem Erases.relation (s : Setting) :
    Relation (.self s) fun _ _ w m => Erases w m where
  pure _ _ _ := Erases.pure _
  bind _ _ _ _ _ _ _ h hk := h.bind hk
  own _ _ := Erases.own _ _
  within _ inner _ _ h := h.within inner
  child _ _ _ _ _ _ _ h := h.child _
  report _ _ _ _ := (Erases.own _ _).child _
  naming _ _ := (Erases.own _ _).guarded _ _
  skip _ _ _ _ _ h := nomatch h

theorem walkEach_erases (s : Setting) (levels : Nat) {cs : List Located}
    (hcs : ∀ c ∈ cs, c.StandsIn s.config.root) (data : XPath.NodeRef) :
    Erases (walkEach s (walkChildren s levels) data none cs)
      (runEach s (runChildren s levels) data none (cs.map (·.node))) := by
  have hall : cs.filter (Image.self s).kept = cs := List.filter_eq_self.2 fun _ _ => rfl
  rw [← congrArg (List.map Located.node) hall]
  exact (Erases.relation s).each ((Erases.relation s).children levels) s.root data hcs
    (apart_of_kept (fun _ _ => rfl) false) nofun (.inl rfl)

/-- A watched run has the result of the run and leaves its state. -/
theorem walkConfig_erases (s : Setting) (g : Graph) (taken : Nat) :
    (walkConfig s g taken).result = (runConfig s g taken).1 ∧
      (walkConfig s g taken).state = (runConfig s g taken).2 :=
  (Erases.relation s).config { graph := g, registries := { taken := taken } }

end Triplify.Mapping
