import Triplify.Proofs.Walk.Exit
import Triplify.Proofs.Walk.Inline
import Triplify.Proofs.Walk.Mirror
/-!
# Named mappings as if written out

A run on a configuration in which uses of named mappings are written out mirrors the run on the
configuration itself. `Echoing` says so of the bodies of one level; there is one lemma for each tag,
and `echoing` is the induction over the levels.

`runConfig_inlined`: one use written out makes no difference, but for the reports of nodes that nest
too deep.
-/

namespace Triplify.Mapping

/-- The second body echoes the first where uses are written out among the children. The first fails
only for good, or because nodes nest too deep. -/
structure Echoing (s : Setting) (body : WalkBody) (body' : Body) : Prop where
  echo : ∀ (caller l : Located) (n' : Node) (data : XPath.NodeRef),
    Inlines s.config l.node.children n'.children → Echo Eq (body caller l data) (body' n' data)
  fails : ∀ (caller l : Located) (data : XPath.NodeRef) (st : RunState) (e : MappingError),
    (body caller l data st).result = .error e → e.isFatal = false →
      NestsTooDeep (body caller l data st).events

/-! ## What corresponding nodes do on their own -/

section
variable {s : Setting} (root : Node)

theorem addObjects_withRoot (handle : Nat) (predicate : QualifiedName) (values : List String) :
    addObjects (s.withRoot root) handle predicate values = addObjects s handle predicate values := by
  induction values with
  | nil => rfl
  | cons value rest ih =>
    simp only [addObjects, ih]
    rfl

theorem addClasses_withRoot (handle : Nat) (values : List String) :
    addClasses (s.withRoot root) handle values = addClasses s handle values := by
  induction values with
  | nil => rfl
  | cons value rest ih =>
    simp only [addClasses, ih]
    rfl

variable {n n' : Node} (h : SameHead n' n) (data : XPath.NodeRef)
include h

theorem SameHead.runTriple_eq : runTriple (s.withRoot root) n' data = runTriple s n data := by
  rw [← (Image.self s).runTriple_eq h]
  unfold runTriple
  simp only [addObjects_withRoot]
  rfl

theorem SameHead.runType_eq : runType (s.withRoot root) n' data = runType s n data := by
  rw [← (Image.self s).runType_eq h]
  unfold runType
  simp only [addClasses_withRoot]
  rfl

omit h in
/-- A new subject looks at the identifiers among the children, which correspond. -/
theorem Corresponds.newSubject_eq (hn : Corresponds s.config n n') :
    newSubject (s.withRoot root) n' data = newSubject s n data := by
  have hids := hn.children.filter (t := .identifier) (by decide) (by decide)
  unfold newSubject Node.childrenWith
  generalize n.children.filter (·.tag = .identifier) = ids at hids
  generalize n'.children.filter (·.tag = .identifier) = ids' at hids
  cases hids with
  | nil => rfl
  | cons hid hrest =>
    cases hrest with
    | nil =>
      have hvalue := (Image.self s).identifierValue_eq hid.head data
      exact congrArg (· >>= _) hvalue
    | cons _ _ => rfl

end

/-- The children with a tag, and the nodes that they correspond to. -/
theorem Corresponds.childrenWith {c : Config} {l : Located} {n' : Node} {t : Tag}
    (h : Corresponds c l.node n') (huse : t ≠ .useNamedMapping) (hcondition : t ≠ .condition) :
    List.Forall₂ (fun child => Corresponds c child.node) (l.childrenWith t) (n'.childrenWith t) := by
  have hplain : (l.childrenWith t).map (·.node) = l.node.childrenWith t := by
    rw [Node.childrenWith, ← l.children_map_node, List.filter_map]
    rfl
  rw [← List.forall₂_map_left_iff, hplain]
  exact h.children.filter huse hcondition

namespace Echoing

variable {s : Setting} {root : Node} {body : WalkBody} {body' : Body} (h : Echoing s body body')

/-! ## The parts of the interpreter -/

section
variable {l : Located} {n' : Node} (hl : Corresponds s.config l.node n') (data : XPath.NodeRef)
include h hl

theorem resource :
    Echo Eq (walkResource s body l data) (runResource (s.withRoot root) body' n' data) := by
  rw [walkResource, runResource, hl.newSubject_eq]
  refine .bind (.own l (newSubject_step s l.node data).any) fun inner => ?_
  exact .within inner (h.echo l l n' data hl.children)

theorem eachMatch (nodes : List XPath.NodeRef) :
    Echo Eq (walkMatches s body l nodes) (runMatches (s.withRoot root) body' n' nodes) := by
  induction nodes with
  | nil => exact .pure rfl
  | cons data rest ih =>
    have hassign : assignGraph (s.withRoot root) n' data = assignGraph s l.node data :=
      (Image.self s).assignGraph_eq hl.head data
    rw [walkMatches, runMatches, hl.head.has, hassign]
    refine .bind (h.echo l l n' data hl.children) fun _ => ?_
    split
    · have hnaming : Echo (BothOk Eq) (Watch.naming l (.own l (assignGraph s l.node data)))
          (Run.guarded n' (assignGraph s l.node data)) :=
        (Echo.own l (assignGraph_step s l.node data).any).guarded (.named l)
          fun _ _ e _ _ _ => hl.head.report e
      exact hnaming.bind_of fun _ _ _ => ih
    · exact ih

theorem mapping :
    Echo Eq (walkMapping s body l data) (runMapping (s.withRoot root) body' n' data) := by
  have hselected : selected (s.withRoot root) n' data = selected s l.node data :=
    (Image.self s).selected_eq hl.head data
  rw [walkMapping, runMapping, hselected]
  exact .bind (.own l (selected_step s l.node data)) fun nodes => h.eachMatch hl nodes

theorem blank : Echo Eq (walkBlank body l data) (runBlank body' n' data) := by
  rw [walkBlank, runBlank, hl.head.newBlank_eq]
  refine .bind (.own l (newBlank_step l.node).any) fun inner => ?_
  exact .within inner (h.echo l l n' data hl.children)

theorem condition :
    Echo Eq (walkCondition s body l data) (runCondition (s.withRoot root) body' n' data) := by
  have hholds : conditionHolds (s.withRoot root) n' data = conditionHolds s l.node data :=
    (Image.self s).conditionHolds_eq hl.head data
  rw [walkCondition, runCondition, hholds]
  refine .bind (.own l (conditionHolds_step s l.node data)) fun holds => ?_
  cases holds with
  | true => exact .bind (h.echo l l n' data hl.children) fun _ => .pure rfl
  | false => exact .pure rfl

theorem otherwise (before : Option ConditionResult) :
    Echo Eq (walkOtherwise body l data before) (runOtherwise body' n' data before) := by
  rcases before with _ | _ | _ | _
  · rw [walkOtherwise, runOtherwise, hl.head.name]
    exact .failed l rfl
  · exact .pure rfl
  · exact h.echo l l n' data hl.children
  · exact .pure rfl

end

omit h in
theorem repeated {w : Watch Unit} {m : Run Unit} (hw : Echo Eq w m) (times : Nat) :
    Echo Eq (walkRepeated w times) (Mapping.repeated m times) := by
  induction times with
  | zero => exact .pure rfl
  | succ n ih => exact .bind hw fun _ => ih

section
variable (l : Located) {n' : Node} (data : XPath.NodeRef)
include h

theorem branches (candidates : List String) {cs : List Located} {cs' : List Node}
    (hcs : List.Forall₂ (fun c => Corresponds s.config c.node) cs cs') (matched : Bool) :
    Echo Eq (walkBranches s body l candidates data matched cs)
      (runBranches (s.withRoot root) body' candidates data matched cs') := by
  induction hcs generalizing matched with
  | nil => exact .pure rfl
  | @cons c c' _ _ hc _ ih =>
    have hhits : branchHits (s.withRoot root) candidates c' data =
        branchHits s candidates c.node data := (Image.self s).branchHits_eq hc.head data candidates
    rw [walkBranches, runBranches, hhits, hc.head.has]
    refine .bind (.own l (branchHits_step s c.node data candidates)) fun hits => ?_
    refine .bind (repeated (h.echo l c c' data hc.children) hits) fun _ => ?_
    split
    · exact ih matched
    · split
      · exact ih true
      · exact .pure rfl

theorem fallback {cs : List Located} {cs' : List Node} (hname : n'.name = l.node.name)
    (hcs : List.Forall₂ (fun c => Corresponds s.config c.node) cs cs') :
    Echo Eq (walkFallback body l data cs) (runFallback body' n' data cs') := by
  rcases hcs with _ | ⟨hc, hrest⟩
  · exact .pure rfl
  · rcases hrest with _ | ⟨_, _⟩
    · exact h.echo l _ _ data hc.children
    · unfold walkFallback runFallback
      rw [hname]
      exact .failed l rfl

theorem switch {l : Located} (hl : Corresponds s.config l.node n') :
    Echo Eq (walkSwitch s body l data) (runSwitch (s.withRoot root) body' n' data) := by
  have hcandidates : switchCandidates (s.withRoot root) n' data = switchCandidates s l.node data :=
    (Image.self s).switchCandidates_eq hl.head data
  have hbranches := hl.childrenWith (t := .branch) (by decide) (by decide)
  have hfallback := hl.childrenWith (t := .fallback) (by decide) (by decide)
  rw [walkSwitch, runSwitch, hcandidates]
  refine .bind (.own l (switchCandidates_step s l.node data)) fun candidates => ?_
  refine .bind (h.branches l data candidates hbranches false) fun matched => ?_
  cases matched with
  | true => exact .pure rfl
  | false => exact h.fallback l data hl.head.name hfallback

/-- Both runs use a named mapping, with the same uses in it written out. -/
theorem namedMapping {l : Located} (hroot : Corresponds s.config s.config.root root)
    (hl : SameHead n' l.node) :
    Echo Eq (walkNamedMapping s body l data)
      (runNamedMapping (s.withRoot root) body' n' data) := by
  rw [walkNamedMapping, runNamedMapping, hl.require]
  refine .bind (.own l (require_step l.node "name")) fun name => ?_
  have hplain : s.config.namedMapping? name = (s.namedMapping? name).map (·.node) :=
    (Image.self s).namedMapping?_eq name
  have hfound := hroot.namedMapping? name
  rw [hplain] at hfound
  cases ht : s.namedMapping? name with
  | none =>
    rw [ht] at hfound
    cases ht' : (s.withRoot root).config.namedMapping? name with
    | none => exact .failed l rfl
    | some target' =>
      rw [ht'] at hfound
      cases hfound
  | some target =>
    rw [ht] at hfound
    cases ht' : (s.withRoot root).config.namedMapping? name with
    | none =>
      rw [ht'] at hfound
      cases hfound
    | some target' =>
      rw [ht'] at hfound
      cases hfound with
      | some htarget => exact h.echo l target target' data htarget.children

end

/-! ## Nodes in order -/

section
variable (hroot : Corresponds s.config s.config.root root) {l : Located} {n' : Node}
  (data : XPath.NodeRef)
include h

include hroot in
/-- A node is carried out alike, whatever came before it, unless it is an `else`. -/
theorem node {before before' : Option ConditionResult} (hl : Corresponds s.config l.node n')
    (hbefore : before = before' ∨ l.node.tag ≠ .otherwise) :
    Echo Eq (walkNode s body before l data)
      (runNode (s.withRoot root) body' before' n' data) := by
  have hidentifier : runIdentifier (s.withRoot root) n' data = runIdentifier s l.node data :=
    (Image.self s).runIdentifier_eq hl.head data
  rw [walkNode, runNode, hl.head.tag, hl.head.name, hl.head.source, hl.head.runCounter_eq,
    hl.head.runUniqueIdentifier_eq, hl.head.runError_eq, hl.head.runTriple_eq, hl.head.runType_eq,
    hidentifier]
  cases htag : l.node.tag with
  | condition => exact .bind (h.condition hl data) fun _ => .pure rfl
  | otherwise =>
    rcases hbefore with rfl | hne
    · exact h.otherwise hl data before
    · exact (hne htag).elim
  | identifier => exact .own l (runIdentifier_step s l.node data).any
  | resource => exact h.resource hl data
  | mapping => exact h.mapping hl data
  | triple => exact .own l (runTriple_step s l.node data).any
  | type => exact .own l (runType_step s l.node data).any
  | bnode => exact h.blank hl data
  | switch => exact h.switch data hl
  | counter => exact .own l (runCounter_step l.node).any
  | uniqueIdentifier => exact .own l (runUniqueIdentifier_step l.node).any
  | error => exact .errorNode htag
  | useNamedMapping => exact h.namedMapping data hroot hl.head
  | branch => exact .failed l rfl
  | fallback => exact .failed l rfl
  | partition => exact .pure rfl
  | namespaces => exact .pure rfl
  | split => exact .pure rfl
  | namedMapping => exact .pure rfl

/-- The first run uses a named mapping, and the second carries out what has been written out. Both
fail only where nodes nest too deep. -/
theorem writtenOut {target : Node} {name : String} {children : List Node} (source : String)
    (htag : l.node.tag = .useNamedMapping) (hname : l.node.get? "name" = some name)
    (htarget : s.config.namedMapping? name = some target)
    (hchildren : Inlines s.config target.children children) (before : Option ConditionResult) :
    Echo (BothOk fun _ holds => holds = true) (.child l (walkNode s body before l data))
      (Run.guarded (.always children source)
        (runCondition (s.withRoot root) body' (.always children source) data)) := by
  have hplain : s.config.namedMapping? name = (s.namedMapping? name).map (·.node) :=
    (Image.self s).namedMapping?_eq name
  rw [htarget] at hplain
  obtain ⟨found, hfound, rfl⟩ := Option.map_eq_some_iff.1 hplain.symm
  -- Neither run changes anything before it comes to its body.
  have hwalk : walkNode s body before l data = body l found data := by
    have huse : walkNode s body before l data = walkNamedMapping s body l data := by
      rw [walkNode, htag]
    rw [huse, walkNamedMapping, Node.require_of_some hname]
    funext st
    have hown : Watch.own l (Run.ofExcept (.ok name)) st = ⟨.ok name, st, []⟩ := by
      simp [Watch.own, Run.exec_ofExcept, Watch.raisedIn]
    rw [Watch.bind_ok (by rw [hown]), hown, hfound]
    rfl
  have hrun : runCondition (s.withRoot root) body' (.always children source) data =
      (body' (.always children source) data >>= fun _ => pure true) := by
    funext st
    exact Run.exec_bind_ok (exec_conditionHolds_always (s.withRoot root) children source data st) _
  rw [hwalk, hrun]
  have hecho : Echo Eq (body l found data) (body' (.always children source) data) :=
    h.echo l found _ data hchildren
  refine (hecho.returning true).child fun seen st e he hrecovers hnot => ?_
  exact (hnot ((h.fails l found data st e he hrecovers).mono (List.subset_append_right ..))).elim

include hroot

/-- The two runs carry out nodes in order, the second with uses written out. Where they remember
different conditions, the next node is no `else`. -/
theorem each {ns ns' : List Node} (hns : Inlines s.config ns ns') {cs : List Located}
    (hcs : cs.map (·.node) = ns) {before before' : Option ConditionResult}
    (hbefore : before = before' ∨ ∀ next ∈ ns.head?, next.tag ≠ .otherwise) :
    Echo Eq (walkEach s body data before cs)
      (runEach (s.withRoot root) body' data before' ns') := by
  induction hns generalizing cs before before' with
  | nil =>
    rw [List.map_eq_nil_iff.1 hcs]
    exact .pure rfl
  | @kept n n' rest rest' hhead hchildren _ _ ih =>
    obtain ⟨l, cs, rfl, rfl, hrest⟩ := List.map_eq_cons_iff.1 hcs
    have hl : Corresponds s.config l.node n' := ⟨hhead, hchildren⟩
    have hreport : ∀ e, n'.report e = l.node.report e := hhead.report
    rw [walkEach, runEach, hhead.tag]
    by_cases hcondition : l.node.tag = .condition
    · rw [if_pos hcondition, if_pos hcondition]
      refine ((h.condition hl data).child fun _ _ e _ _ _ => hreport e).bind_of ?_
      -- The outcomes are the same, or both are errors: the next node sees no difference.
      rintro _ _ (⟨rfl⟩ | ⟨e, e'⟩)
      · exact ih hrest (.inl rfl)
      · exact ih hrest (.inl rfl)
    · rw [if_neg hcondition, if_neg hcondition]
      have hnext : before = before' ∨ l.node.tag ≠ .otherwise :=
        hbefore.imp_right fun hne => hne l.node rfl
      refine ((h.node hroot data hl hnext).child fun _ _ e _ _ _ => hreport e).bind_of ?_
      exact fun _ _ _ => ih hrest (.inl rfl)
  | @inlined u target name children rest rest' source htag hname htarget hchildren hfree _ _ ih =>
    obtain ⟨l, cs, rfl, rfl, hrest⟩ := List.map_eq_cons_iff.1 hcs
    have hcondition : l.node.tag ≠ .condition := htag ▸ by decide
    have halways : (Node.always children source).tag = .condition := rfl
    rw [walkEach, runEach, if_neg hcondition, if_pos halways]
    refine (h.writtenOut data source htag hname htarget hchildren before).bind_of ?_
    -- Only the second run remembers a condition, and no `else` asks for it.
    exact fun _ _ _ => ih hrest (.inr hfree)

end

end Echoing

/-- The children of nodes are carried out alike, at every depth, when uses are written out. -/
theorem echoing {s : Setting} {root : Node} (hroot : Corresponds s.config s.config.root root)
    (levels : Nat) : Echoing s (walkChildren s levels) (runChildren (s.withRoot root) levels) := by
  induction levels with
  | zero =>
    constructor
    · intro caller l n' data _
      exact .tooDeep caller l.node.name n'.name
    · intro caller l data st e he _
      refine ⟨caller, l.node.name, ?_⟩
      rw [walkChildren]
      exact List.mem_append_right _ (.head _)
  | succ levels ih =>
    constructor
    · intro caller l n' data hchildren
      exact ih.each hroot data hchildren l.children_map_node (.inl rfl)
    · intro caller l data st e he hrecovers
      have hfatal : e.isFatal := walkEach_error he
      rw [hfatal] at hrecovers
      cases hrecovers

/-! ## The whole run -/

/-- In the place of a use of a named mapping, an `if` that always holds with the children of the
named mapping does the same: the run ends alike and leaves the same graph, the same counters and
identifiers and the same warnings. It records as many errors, and the same ones unless nodes nest too
deep. The named mapping may use itself and others. -/
theorem runConfig_inlined (s : Setting) (g : Graph) (taken : Nat) {p : Place} {k : Nat}
    {u target : Node} {name : String} (source : String)
    (hu : s.config.root.at? (p ++ [k]) = some u) (htag : u.tag = .useNamedMapping)
    (hname : u.get? "name" = some name) (htarget : s.config.namedMapping? name = some target)
    (hfree : ∀ next ∈ s.config.root.at? (p ++ [k + 1]), next.tag ≠ .otherwise) :
    let used := runConfig s g taken
    let inlined := runConfig (s.inlined (p ++ [k]) target source) g taken
    inlined.1 = used.1 ∧
      inlined.2.graph = used.2.graph ∧
      inlined.2.registries = used.2.registries ∧
      inlined.2.diagnostics.warnings = used.2.diagnostics.warnings ∧
      inlined.2.diagnostics.errors.length = used.2.diagnostics.errors.length ∧
      (¬ NestsTooDeep (trace s g taken) → inlined.2.diagnostics = used.2.diagnostics) := by
  intro used inlined
  have hroot : Corresponds s.config s.config.root
      (s.config.root.replaceAt (.always target.children source) (p ++ [k])) :=
    Inlines.replaceAt source hu htag hname htarget hfree
  have hecho := (echoing hroot maxNesting).echo s.root s.root _ .root hroot.children []
    { graph := g, registries := { taken := taken } } _ (.refl [] _)
  obtain ⟨hresult, hstate⟩ := walkConfig_erases s g taken
  obtain ⟨hend, hmirrors⟩ := hecho
  have hmirrors : Mirrors (trace s g taken) used.2 inlined.2 := hstate ▸ hmirrors
  have hend : SameEnd (trace s g taken) Eq used.1 inlined.1 := hresult ▸ hend
  refine ⟨?_, hmirrors.graph, hmirrors.registries, hmirrors.warnings, hmirrors.count, fun hnot => ?_⟩
  -- The error of a whole run is one that ends it, so it does not come from nodes that nest too deep.
  · have hfatal : ∀ e, used.1 = .error e → e.isFatal := fun e he => walkEach_error (hresult.trans he)
    generalize used.1 = r at hend hfatal ⊢
    generalize inlined.1 = r' at hend ⊢
    cases hend with
    | ok => rfl
    | error => rfl
    | tooDeep => cases hfatal _ rfl
  · have herrors := hmirrors.errors hnot
    have hwarnings := hmirrors.warnings
    generalize inlined.2.diagnostics = d at herrors hwarnings
    generalize used.2.diagnostics = d' at herrors hwarnings
    cases d
    cases d'
    cases herrors
    cases hwarnings
    rfl

/-- A named mapping that steps a counter and uses itself until the counter is at two. -/
def counting : Node :=
  .mk .namedMapping "namedmapping" [("name", "count")] [
    .mk .counter "counter" [("name", "i"), ("iterate", "true")] [] "<counter 2/>",
    .mk .triple "triple" [("predicate", "rdf:value"), ("value", "^counter_i~")] [] "<triple/>",
    .mk .condition "if" [("match", "'^counter_i~' != '2'")] [
      .mk .useNamedMapping "usenamedmapping" [("name", "count")] [] "<use 1/>"] "<if/>"]
    "<namedmapping/>"

/-- A configuration that counts from nothing. -/
def countToTwo : Setting where
  config :=
    { root := .mk .mapping "config" [] [
        .mk .counter "counter" [("name", "i")] [] "<counter 1/>",
        counting,
        .mk .resource "resource" [] [
          .mk .useNamedMapping "usenamedmapping" [("name", "count")] [] "<use 2/>"]
          "<resource/>"] "<config/>"
      namespaces := .standard
      warnings := [] }
  transforms := {}
  paths := ⟨⟨#[]⟩, []⟩

/-- The use that is written out is the one in the named mapping itself. -/
theorem countToTwo_inlined :
    let g : Graph := ⟨⟨.standard, none⟩, .turtle, #[], #[], #[]⟩
    let used := runConfig countToTwo g 0
    let inlined := runConfig (countToTwo.inlined [1, 2, 0] counting "<copy/>") g 0
    inlined.1 = used.1 ∧ inlined.2.graph = used.2.graph ∧
      inlined.2.diagnostics = used.2.diagnostics ∧
      used.2.graph.quads.map (·.object) = [.literal ⟨"1", .plain⟩, .literal ⟨"2", .plain⟩] := by
  intro g
  have hcalm : ¬ NestsTooDeep (trace countToTwo g 0) := by
    have hraised : (trace countToTwo g 0).filterMap Event.raised? = [] :=
      List.eq_nil_of_length_eq_zero (by decide +kernel)
    rintro ⟨l, name, hmem⟩
    cases List.filterMap_eq_nil_iff.1 hraised _ hmem
  have hfound : countToTwo.config.namedMapping? "count" = some counting := rfl
  obtain ⟨hresult, hgraph, -, -, -, hdiagnostics⟩ :=
    runConfig_inlined countToTwo g 0 (p := [1, 2]) (k := 0) "<copy/>" rfl rfl rfl hfound
      (by rintro _ ⟨⟩)
  exact ⟨hresult, hgraph, hdiagnostics hcalm, by decide +kernel⟩

end Triplify.Mapping
