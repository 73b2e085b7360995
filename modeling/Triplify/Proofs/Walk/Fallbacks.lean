import Triplify.Proofs.Walk.Branches
/-!
# Fallbacks that no run takes

The code has an answer ready where something is missing that is never missing: a branch outside of a
switch, a subject or a slot that is not there, a call of a template without a value.

`assembleExactly_eq`: the calls of a template take all of the values that were found for them.
`fallbacks_are_not_taken`: a run of a configuration that loads never needs such an answer.
-/

namespace Triplify.Mapping

/-! ## Templates -/

section
variable (env : XPath.Environment) (r : Registries) (data : XPath.NodeRef) (key template : String)
  (isOnly : Bool)

/-- Puts the segments of a template together with exactly these values: there is no answer if a call
finds none left, or if one is left over at the end. -/
def assembleExactly (done : Assembled) : List (List Char) → List Segment →
    Option (Except MappingError Assembled)
  | [], [] => some (.ok done)
  | _ :: _, [] => none
  | values, .literal text :: rest =>
    assembleExactly { done with text := done.text ++ text } values rest
  | [], .call _ :: _ => none
  | value :: values, .call _ :: rest => assembleExactly ⟨done.text ++ value, true⟩ values rest
  | values, .path expr :: rest =>
    match assemble env r data key template isOnly done [] [.path expr] with
    | .ok done => assembleExactly done values rest
    | .error e => some (.error e)

/-- A path is put in before what follows. -/
theorem assemble_path (done : Assembled) (values : List (List Char)) (expr : List Char)
    (rest : List Segment) :
    assemble env r data key template isOnly done values (.path expr :: rest) =
      assemble env r data key template isOnly done [] [.path expr] >>= fun done =>
        assemble env r data key template isOnly done values rest := by
  simp only [assemble, bind_assoc]
  rfl

/-- The calls of a template take the values found for them, each its own, and leave none. -/
theorem assembleExactly_eq {segments : List Segment} {values : List (List Char)}
    (h : callValues r segments = .ok values) (done : Assembled) :
    assembleExactly env r data key template isOnly done values segments =
      some (assemble env r data key template isOnly done values segments) := by
  induction segments generalizing values done with
  | nil =>
    cases h
    rfl
  | cons segment rest ih =>
    cases segment with
    | literal text =>
      rw [assembleExactly, assemble]
      exact ih h _
    | call c =>
      obtain ⟨value, -, h⟩ := of_bind_ok h
      obtain ⟨values, hvalues, h⟩ := of_bind_ok h
      cases h
      rw [assembleExactly, assemble]
      exact ih hvalues _
    | path expr =>
      rw [assembleExactly, assemble_path env r data key template isOnly done values]
      cases assemble env r data key template isOnly done [] [.path expr] with
      | error e => rfl
      | ok done => exact ih h done

end

/-! ## Runs -/

/-- A run of a configuration that loads, over a graph after any calls, comes to no branch as a node of
its own, and no subject, slot or value is ever missing. -/
theorem fallbacks_are_not_taken {text : String} {s : Setting}
    (hloads : Config.ofText text = .ok s.config) (v : Naming) (format : OutputFormat)
    (calls : List GraphCall) (taken : Nat) :
    let g := Graph.afterAll { toNaming := v, format := format } calls
    (∀ event ∈ trace s g taken, event.owner.node.tag.isBranch = false) ∧
    (∀ f ∈ (trace s g taken).filterMap Event.failure?,
      (∀ name source, f.2 ≠ .unrecognizedTag name source) ∧
      ∀ handle, f.2 ≠ .processing (.unknownHandle handle)) ∧
    (∀ m ∈ moments s g taken, m.start.graph.IsWhole ∧
      ∀ c ∈ m.subjects, ∀ handle, c.subject = some handle → handle < m.start.graph.slots.size) ∧
    (runConfig s g taken).2.graph.IsWhole ∧
    ∀ env r data key template isOnly done segments values, callValues r segments = .ok values →
      assembleExactly env r data key template isOnly done values segments =
        some (assemble env r data key template isOnly done values segments) := by
  intro g
  obtain ⟨howners, hrecognized⟩ := branches_are_not_met hloads g taken
  obtain ⟨hsubjects, hhandles⟩ := handles_are_known s g taken
  have hstart : g.InRange := (Graph.InRange.fresh v format).afterAll calls
  obtain ⟨hmoments, hend⟩ := statements_in_range s g taken hstart
  refine ⟨howners, fun f hf => ⟨hrecognized f hf, hhandles f hf⟩, fun m hm => ?_, hend.isWhole, ?_⟩
  · exact ⟨(hmoments m hm).isWhole, hsubjects m hm⟩
  · intro env r data key template isOnly done segments values hvalues
    exact assembleExactly_eq env r data key template isOnly hvalues done

/-- A switch in a named mapping: of its branches the first holds. -/
def switchText : String :=
  "<config><resource><usenamedmapping name='kind'/></resource><namedmapping name='kind'>" ++
    "<switch><case match='/'><type value='http://www.w3.org/2002/07/owl#Thing'/></case>" ++
    "<default/></switch></namedmapping></config>"

/-- A branch is carried out, and yet not met in order. -/
theorem switchText_is_carried_out :
    let start : Graph := { namespaces := .standard, base := none, format := .nTriples }
    let g := start.afterAll []
    let typed : GraphStatement := ⟨0, Rdf.typeIri, .iri "http://www.w3.org/2002/07/owl#Thing"⟩
    ∃ s : Setting, Config.ofText switchText = .ok s.config ∧
      (runConfig s g 0).2.graph.statements = [typed] ∧ (runConfig s g 0).2.graph.IsWhole ∧
      ∀ event ∈ trace s g 0, event.owner.node.tag.isBranch = false := by
  intro start g typed
  have hmade : ((Config.ofText switchText).map fun c =>
      (runConfig ⟨c, {}, ⟨⟨#[]⟩, []⟩⟩ g 0).2.graph.statements).toOption = some [typed] := by
    decide +kernel
  cases hloads : Config.ofText switchText with
  | error e => cases hloads ▸ hmade
  | ok c =>
    rw [hloads] at hmade
    obtain ⟨howners, -, -, hwhole, -⟩ := fallbacks_are_not_taken (s := ⟨c, {}, ⟨⟨#[]⟩, []⟩⟩) hloads
      ⟨.standard, none⟩ .nTriples [] 0
    exact ⟨_, rfl, Option.some.inj hmade, hwhole, howners⟩

end Triplify.Mapping
