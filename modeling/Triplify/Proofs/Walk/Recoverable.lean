import Triplify.Mapping.Interpreter
import Triplify.Proofs.Graph.Deed
/-!
# Failures that do not end a run

Only an error that a configuration raises itself ends a run. Nothing that reads an attribute, looks
up a name, evaluates a path or calls on a graph fails with such an error, or with one that says that a
node stands where it cannot: all that comes up there is `Plain`, with one lemma for each function
that can fail.
-/

namespace Triplify

/-- A result that is no error that ends a run. -/
def Recoverable {α : Type} (r : Except MappingError α) : Prop :=
  ∀ e, r = .error e → e.isFatal = false

namespace Recoverable

variable {α β : Type}

@[simp] theorem ok (a : α) : Recoverable (.ok a) := by
  intro e h
  cases h

theorem error {e : MappingError} : Recoverable (.error e : Except MappingError α) ↔ e.isFatal = false := by
  constructor
  · intro h
    exact h e rfl
  · rintro h _ ⟨⟩
    exact h

/-- Only the errors of a configuration end a run. -/
@[simp] theorem error_iff {e : MappingError} :
    Recoverable (.error e : Except MappingError α) ↔ ∀ message, e ≠ .userDefined message := by
  rw [error]
  constructor
  · rintro h message rfl
    cases h
  · intro h
    cases e with
    | userDefined message => exact (h message rfl).elim
    | _ => rfl

theorem bind {r : Except MappingError α} {k : α → Except MappingError β} (h : Recoverable r)
    (hk : ∀ a, Recoverable (k a)) : Recoverable (r >>= k) := by
  cases r with
  | ok a => exact hk a
  | error e => exact error.2 (error.1 h)

end Recoverable

/-- An error that says what is wrong with a value, a name or a path. The others end a run, say that a
node cannot be carried out where it stands, or that a subject is not there. -/
@[simp] def MappingError.isPlain : MappingError → Bool
  | userDefined _ => false
  | missingNamedMapping _ => false
  | unrecognizedTag _ _ => false
  | config (.elseWithoutIf _) => false
  | config (.severalDefaults _) => false
  | processing (.tooDeep _ _) => false
  | processing (.unknownHandle _) => false
  | _ => true

theorem MappingError.isFatal_of_isPlain {e : MappingError} (h : e.isPlain) : e.isFatal = false := by
  cases e with
  | userDefined message => cases h
  | _ => rfl

/-- A result that is no error but a plain one. -/
def Plain {α : Type} (r : Except MappingError α) : Prop :=
  ∀ e, r = .error e → e.isPlain

namespace Plain

variable {α β : Type}

@[simp] theorem ok (a : α) : Plain (.ok a) := by
  intro e h
  cases h

@[simp] theorem error {e : MappingError} : Plain (.error e : Except MappingError α) ↔ e.isPlain := by
  constructor
  · intro h
    exact h e rfl
  · rintro h _ ⟨⟩
    exact h

@[simp] theorem pure (a : α) : Plain (Pure.pure a) := ok a

theorem bind {r : Except MappingError α} {k : α → Except MappingError β} (h : Plain r)
    (hk : ∀ a, Plain (k a)) : Plain (r >>= k) := by
  cases r with
  | ok a => exact hk a
  | error e => exact error.2 (error.1 h)

theorem map {r : Except MappingError α} {f : α → β} (h : Plain r) : Plain (r.map f) := by
  cases r with
  | ok a => exact ok _
  | error e => exact error.2 (error.1 h)

theorem recoverable {r : Except MappingError α} (h : Plain r) : Recoverable r := fun e he =>
  MappingError.isFatal_of_isPlain (h e he)

end Plain

open Plain (bind map)

/-! ## Attributes -/

theorem Attribute.boolean_plain (tag name value : String) :
    Plain (Attribute.boolean tag name value) := by
  unfold Attribute.boolean
  dsimp only
  split
  · simp
  · split <;> simp

theorem Attribute.integer_plain (tag name value : String) :
    Plain (Attribute.integer tag name value) := by
  unfold Attribute.integer
  split <;> simp

namespace Mapping

theorem Node.require_plain (n : Node) (key : String) : Plain (n.require key) := by
  unfold Node.require
  split <;> simp

theorem flag_plain (n : Node) (key : String) (fallback : Bool) :
    Plain (flag n key fallback) := by
  unfold flag
  split
  · simp
  · exact Attribute.boolean_plain _ _ _

theorem initialValue_plain (n : Node) : Plain (initialValue n) := by
  unfold initialValue
  split
  · exact Attribute.integer_plain _ _ _
  · simp

theorem Context.handle_plain (c : Context) (n : Node) : Plain (c.handle n) := by
  unfold Context.handle
  split
  · simp
  · exact Plain.error.2 rfl

theorem modifier_plain (s : Setting) (n : Node) : Plain (modifier s n) := by
  unfold modifier
  split
  · simp
  · refine map ?_
    unfold TransformRegistry.resolve
    split
    · simp
    · split <;> simp

end Mapping

/-! ## Templates and paths -/

theorem Call.resolve_plain (r : Registries) (c : Call) : Plain (c.resolve r) := by
  cases c with
  | counter name =>
    refine map ?_
    unfold Registries.counter
    split <;> simp
  | identifier name =>
    refine map ?_
    unfold Registries.identifier
    split <;> simp

theorem resolveCallsChars_plain (r : Registries) (expr : List Char) :
    Plain (resolveCallsChars r expr) := by
  unfold resolveCallsChars
  fun_induction answerCalls (·.resolve r) expr with
  | case1 => simp
  | case2 => simp
  | case3 expr before opener rest h body close after h' more call hcall ih =>
    exact bind (call.resolve_plain r) fun value => bind ih fun resolved => by simp
  | case4 expr before opener rest h body close after h' more hcall ih =>
    exact bind (by simp) fun value => bind ih fun resolved => by simp

theorem resolveCalls_plain (r : Registries) (expr : String) :
    Plain (resolveCalls r expr) :=
  map (resolveCallsChars_plain r _)

theorem prepareMatch_plain (r : Registries) (raw : String) :
    Plain (prepareMatch r raw) :=
  map (resolveCallsChars_plain r _)

theorem XPath.Environment.evaluate_plain (env : XPath.Environment) (expr : String)
    (n : XPath.NodeRef) : Plain (env.evaluate expr n) := by
  unfold XPath.Environment.evaluate
  split
  · simp
  · simp
  · split <;> simp

theorem XPath.Environment.select_plain (env : XPath.Environment) (expr : String)
    (n : XPath.NodeRef) : Plain (env.select expr n) := by
  refine bind (env.evaluate_plain expr n) fun v => ?_
  cases v <;> simp

/-! ## Values -/

namespace Mapping

theorem Bounds.check_plain (b : Bounds) (key template : String) (found : Nat) :
    Plain (b.check key template found) := by
  unfold Bounds.check
  split
  · simp
  · split
    · split <;> simp
    · simp

theorem partText_plain (env : XPath.Environment) (key template : String) (isOnly : Bool)
    (expr : String) (v : XPath.Value) : Plain (partText env key template isOnly expr v) := by
  unfold partText
  split
  · split <;> simp
  · simp
  · split <;> simp
  · simp

theorem soleValues_plain (env : XPath.Environment) (r : Registries) (data : XPath.NodeRef)
    (segment : Segment) : Plain (soleValues env r data segment) := by
  cases segment with
  | literal text => simp [soleValues]
  | call c => exact map (c.resolve_plain r)
  | path expr =>
    refine bind (resolveCalls_plain r _) fun expr => ?_
    exact bind (env.evaluate_plain expr data) fun v => by simp

theorem assemble_plain (env : XPath.Environment) (r : Registries) (data : XPath.NodeRef)
    (key template : String) (isOnly : Bool) (done : Assembled) (values : List (List Char))
    (segments : List Segment) :
    Plain (assemble env r data key template isOnly done values segments) := by
  induction segments generalizing done values with
  | nil => simp [assemble]
  | cons segment rest ih =>
    cases segment with
    | literal text => exact ih _ _
    | call c => exact ih _ _
    | path expr =>
      refine bind (resolveCalls_plain r _) fun expr => ?_
      refine bind (env.evaluate_plain expr data) fun v => ?_
      exact bind (partText_plain env key template isOnly expr v) fun part => ih _ _

theorem callValues_plain (r : Registries) (segments : List Segment) :
    Plain (callValues r segments) := by
  induction segments with
  | nil => simp [callValues]
  | cons segment rest ih =>
    cases segment with
    | literal text => exact ih
    | call c => exact bind (c.resolve_plain r) fun _ => bind ih fun _ => by simp
    | path expr => exact ih

theorem templateValues_plain (env : XPath.Environment) (r : Registries)
    (data : XPath.NodeRef) (key text : String) (t : Option Transform) (front : String) :
    Plain (templateValues env r data key text t front) := by
  unfold templateValues
  dsimp only
  split
  · simp
  · split
    · exact bind (soleValues_plain env r data _) fun values => by simp
    · refine bind (callValues_plain r _) fun values => ?_
      exact bind (assemble_plain env r data key text _ _ values _) fun a => by simp

theorem values_plain (env : XPath.Environment) (r : Registries) (data : XPath.NodeRef)
    (n : Node) (key : String) (t : Option Transform) (b : Bounds) :
    Plain (values env r data n key t b) := by
  unfold values
  split
  · split <;> simp
  · refine bind (templateValues_plain env r data key _ t _) fun vs => ?_
    exact bind (b.check_plain key _ vs.length) fun _ => by simp

end Mapping

/-! ## Graphs and registries -/

/-- A result that is no error but a plain one, or one that says of a handle that it is no slot. -/
def Known {α : Type} (slots : Nat) (handles : List Nat) (r : Except MappingError α) : Prop :=
  ∀ e, r = .error e → e.isPlain ∨
    ∃ handle ∈ handles, slots ≤ handle ∧ e = .processing (.unknownHandle handle)

namespace Known

variable {α β : Type} {slots : Nat} {handles : List Nat}

theorem of_plain {r : Except MappingError α} (h : Plain r) : Known slots handles r :=
  fun e he => .inl (h e he)

theorem bind {r : Except MappingError α} {k : α → Except MappingError β}
    (h : Known slots handles r) (hk : ∀ a, Known slots handles (k a)) :
    Known slots handles (r >>= k) := by
  cases r with
  | ok a => exact hk a
  | error e =>
    rintro _ ⟨⟩
    exact h e rfl

theorem slotOf {handle : Nat} (h : handle ∈ handles) : Known slots handles (slotOf slots handle) := by
  unfold Triplify.slotOf
  split
  · exact of_plain (.ok _)
  · next hlt =>
    rintro _ ⟨⟩
    exact .inr ⟨handle, h, Nat.not_lt.1 hlt, rfl⟩

end Known

theorem QualifiedName.parse_plain (text : String) : Plain (QualifiedName.parse text) := by
  unfold QualifiedName.parse
  split
  · split <;> simp
  · simp

theorem NamespaceTable.expandName_plain (t : NamespaceTable) (n : QualifiedName) :
    Plain (t.expandName n) := by
  unfold NamespaceTable.expandName
  split <;> simp

namespace Naming

variable (v : Naming)

theorem resolve_plain (value : String) : Plain (v.resolve value) := by
  unfold Naming.resolve
  split <;> simp

theorem nameIri_plain (n : QualifiedName) : Plain (v.nameIri n) :=
  bind (v.namespaces.expandName_plain n) fun _ => v.resolve_plain _

theorem shortIri_plain (id : ShortIri) : Plain (v.shortIri id) := by
  refine bind ?_ fun _ => v.resolve_plain _
  unfold NamespaceTable.expand
  split
  · simp
  · exact v.namespaces.expandName_plain _

theorem datatypeIri_plain (datatype : String) : Plain (v.datatypeIri datatype) := by
  unfold Naming.datatypeIri
  split
  · split
    · exact v.nameIri_plain _
    · exact v.resolve_plain _
  · exact v.resolve_plain _

theorem literal_plain (text : String) (kind : LiteralKind) :
    Plain (v.literal text kind) := by
  cases kind with
  | plain => exact Plain.ok _
  | typed datatype => exact map (v.datatypeIri_plain datatype)
  | language tag =>
    delta Naming.literal
    dsimp only
    split <;> simp

/-- A call on a graph fails with a plain error, or because one of its subjects is not there. -/
theorem deeds_known (slots : Nat) (c : GraphCall) : Known slots c.handles (v.deeds slots c) := by
  have hname : ∀ name, Known slots c.handles (v.nameIri name) := fun name =>
    .of_plain (v.nameIri_plain name)
  have hshort : ∀ id, Known slots c.handles (v.shortIri id) := fun id =>
    .of_plain (v.shortIri_plain id)
  have hok : ∀ r : Option Nat × List Deed, Known slots c.handles (.ok r) := fun r =>
    .of_plain (.ok r)
  cases c with
  | addResource => exact hok _
  | addNamed id => exact .bind (hshort id) fun _ => hok _
  | identify handle id =>
    exact .bind (.slotOf (.head _)) fun _ => .bind (hshort id) fun _ => hok _
  | addObject handle predicate object =>
    refine .bind (.slotOf (.head _)) fun _ => .bind (hname predicate) fun _ => ?_
    exact .bind (hshort object) fun _ => hok _
  | addLiteral handle predicate text kind =>
    refine .bind (.slotOf (.head _)) fun _ => .bind (hname predicate) fun _ => ?_
    exact .bind (.of_plain (v.literal_plain text kind)) fun _ => hok _
  | addBlank type => exact .bind (hname type) fun _ => hok _
  | link handle predicate target =>
    refine .bind (.slotOf (.head _)) fun _ => .bind (.slotOf (.tail _ (.head _))) fun _ => ?_
    exact .bind (hname predicate) fun _ => hok _
  | sealAs name => exact .bind (.of_plain (v.resolve_plain name)) fun _ => hok _

end Naming

theorem Registries.iterate_plain (r : Registries) (name : String) :
    Plain (r.iterate name) := by
  unfold Registries.iterate
  split <;> simp

end Triplify
