import Triplify.Proofs.Walk.Act
import Triplify.Proofs.Walk.Relation
/-!
# What nodes do, as data

What a node does is a script: acts of its own, each with an answer that says how to go on, and the
children that it carries out. A script knows nothing of the state of a run. Played in a state it is
the watched interpreter: `walkChildren_eq`.
-/

namespace Triplify.Mapping

/-! ## Scripts -/

/-- What a node does, or what is done with some children. -/
inductive Script : Type → Type 1
  | done {α : Type} (a : α) : Script α
  | own {α : Type} (a : Act) (data : XPath.NodeRef) (next : a.Answer → Script α) : Script α
  /-- The body is for the subject that the node opens. -/
  | inside {α : Type} (o : Opening) (data : XPath.NodeRef) (body : Script Unit) (next : Script α) :
    Script α
  /-- A failure to name the graph is recorded. -/
  | naming {α : Type} (data : XPath.NodeRef) (next : Script α) : Script α
  /-- The body is what is done with the children of the target. -/
  | enter {α : Type} (target : Located) (data : XPath.NodeRef) (body : Script Unit)
    (next : Script α) : Script α
  | child {α β : Type} (l : Located) (x : Script β) (next : Except MappingError β → Script α) :
    Script α

namespace Script

/-- One script, and then another that depends on its result. -/
def bind {β : Type} : {α : Type} → Script α → (α → Script β) → Script β
  | _, done a, k => k a
  | _, own a data next, k => own a data fun answer => (next answer).bind k
  | _, inside o data body next, k => inside o data body (next.bind k)
  | _, naming data next, k => naming data (next.bind k)
  | _, enter target data body next, k => enter target data body (next.bind k)
  | _, child l x next, k => child l x fun result => (next result).bind k

instance : Monad Script where
  pure := done
  bind := bind

end Script

/-- What is done with the children of a node at a data node. -/
abbrev ScriptBody := Located → XPath.NodeRef → Script Unit

section
variable (body : ScriptBody)

/-- The children of a node are carried out. -/
def ScriptBody.at (l : Located) (data : XPath.NodeRef) : Script Unit :=
  .enter l data (body l data) (.done ())

/-- The script of a node that opens a subject. -/
def scriptOpening (o : Opening) (l : Located) (data : XPath.NodeRef) : Script Unit :=
  .inside o data (body.at l data) (.done ())

/-- The script of a mapping for the data nodes that it selects. -/
def scriptMatches (l : Located) : List XPath.NodeRef → Script Unit
  | [] => return
  | data :: rest => do
    body.at l data
    if l.node.has "namedgraph" then .naming data (.done ())
    scriptMatches l rest

/-- The script of a condition, which tells whether it holds. -/
def scriptCondition (l : Located) (data : XPath.NodeRef) : Script Bool :=
  .own .test data fun holds => do
    if holds then body.at l data
    return holds

/-- The script of a node that is carried out if the condition right before did not hold. -/
def scriptOtherwise (l : Located) (data : XPath.NodeRef) : Option ConditionResult → Script Unit
  | some .notTaken => body.at l data
  | some _ => return
  | none => .own .loneElse data .done

/-- A script so many times. -/
def scriptRepeated (x : Script Unit) : Nat → Script Unit
  | 0 => return
  | n + 1 => do
    x
    scriptRepeated x n

/-- The script of the branches of a switch, which tells whether one of them held. -/
def scriptBranches (texts : List String) (data : XPath.NodeRef) (matched : Bool) :
    List Located → Script Bool
  | [] => return matched
  | c :: rest => .own (.hits texts c) data fun hits => do
    scriptRepeated (body.at c data) hits
    if hits = 0 then scriptBranches texts data matched rest
    else if c.node.has "break" then scriptBranches texts data true rest
    else return true

/-- The script of the fallback of a switch. -/
def scriptFallback (data : XPath.NodeRef) : List Located → Script Unit
  | [] => return
  | [only] => body.at only data
  | _ => .own .severalDefaults data .done

/-- The script of a switch. -/
def scriptSwitch (l : Located) (data : XPath.NodeRef) : Script Unit :=
  .own .candidates data fun texts => do
    if !(← scriptBranches body texts data false (l.childrenWith .branch)) then
      scriptFallback body data (l.childrenWith .fallback)

/-- The script of a node that is no condition. -/
def scriptNode (before : Option ConditionResult) (l : Located) (data : XPath.NodeRef) :
    Script Unit :=
  match l.node.tag with
  | .condition => do let _ ← scriptCondition body l data
  | .otherwise => scriptOtherwise body l data before
  | .identifier => .own .identifier data .done
  | .resource => scriptOpening body .resource l data
  | .mapping => .own .select data (scriptMatches body l)
  | .triple => .own .triple data .done
  | .type => .own .type data .done
  | .bnode => scriptOpening body .blank l data
  | .switch => scriptSwitch body l data
  | .counter => .own .counter data .done
  | .uniqueIdentifier => .own .uniqueIdentifier data .done
  | .error => .own .error data .done
  | .useNamedMapping => .own .target data fun target => body.at target data
  | .branch => .own .misplaced data .done
  | .fallback => .own .misplaced data .done
  | .partition => return
  | .namespaces => return
  | .split => return
  | .namedMapping => return

/-- The script of nodes in order. -/
def scriptEach (data : XPath.NodeRef) (before : Option ConditionResult) :
    List Located → Script Unit
  | [] => return
  | l :: rest =>
    if l.node.tag = .condition then
      .child l (scriptCondition body l data) fun result =>
        scriptEach data (some (conditionResult result)) rest
    else
      .child l (scriptNode body before l data) fun _ => scriptEach data none rest

end

/-- The script of the children of a node, with so many levels left. -/
def scriptChildren : Nat → ScriptBody
  | 0, l, data => .own (.tooDeep l.node.name) data .done
  | levels + 1, l, data => scriptEach (scriptChildren levels) data none l.children

/-! ## Playing a script -/

namespace Watch

variable {α β γ : Type}

theorem assoc (w : Watch α) (k : α → Watch β) (k' : β → Watch γ) :
    w >>= k >>= k' = w >>= fun a => k a >>= k' := by
  funext st
  cases h : (w st).result with
  | error e =>
    have hfirst := bind_error h k
    rw [bind_error h, bind_error (e := e) (by rw [hfirst]), hfirst]
  | ok a =>
    have hfirst := bind_ok h k
    rw [bind_ok h]
    cases h' : (k a (w st).state).result with
    | error e => rw [bind_error h', bind_error (e := e) (by rw [hfirst, h']), hfirst]
    | ok b =>
      rw [bind_ok h', bind_ok (a := b) (by rw [hfirst, h']), hfirst]
      simp only [List.append_assoc]

instance : LawfulMonad Watch := LawfulMonad.mk' Watch
  (fun w => by
    funext st
    show (w >>= pure) st = w st
    cases h : (w st).result with
    | error e =>
      rw [bind_error h, ← h]
    | ok a =>
      rw [bind_ok h, pure_apply, List.append_nil, ← h])
  (fun a k => by
    funext st
    rw [bind_ok (a := a) rfl]
    rfl)
  assoc

theorem own_ok (l : Located) (a : α) : own l (Run.ofExcept (.ok a)) = pure a := by
  funext st
  show Watched.mk _ _ ((st.graph.statements.drop _).map _ ++ []) = _
  rw [List.drop_length]
  rfl

theorem own_throw (l : Located) (e : MappingError) (st : RunState) :
    own l (throw e : Run α) st = ⟨.error e, st, [.raised l e]⟩ := by
  show Watched.mk _ _ ((st.graph.statements.drop _).map _ ++ [_]) = _
  rw [List.drop_length]
  rfl

theorem own_error_bind (l : Located) (e : MappingError) (k : α → Watch β) :
    own l (Run.ofExcept (.error e)) >>= k = own l (throw e) := by
  funext st
  exact bind_error rfl k

end Watch

namespace Script

variable (s : Setting)

/-- A script, carried out for a node. -/
def watch : {α : Type} → Located → Script α → Watch α
  | _, _, done a => pure a
  | _, l, own a data next => do (next (← .own l (a.run s l data))).watch l
  | _, l, inside o data body next => do
    let inner ← .own l ((Act.opens o).run s l data)
    Watch.within inner (body.watch l)
    next.watch l
  | _, l, naming data next => do
    let _ ← Watch.naming l (.own l (Act.sealing.run s l data))
    next.watch l
  | _, l, enter _ _ body next => do
    body.watch l
    next.watch l
  | _, l, child c x next => do (next (← .child c (x.watch c))).watch l

variable {s} {α β : Type} {l : Located}

@[simp] theorem watch_pure (a : α) : (pure a : Script α).watch s l = pure a := rfl

@[simp] theorem watch_done (a : α) : (done a).watch s l = pure a := rfl

@[simp] theorem watch_own (a : Act) (data : XPath.NodeRef) (next : a.Answer → Script α) :
    (own a data next).watch s l =
      Watch.own l (a.run s l data) >>= fun answer => (next answer).watch s l := rfl

@[simp] theorem watch_inside (o : Opening) (data : XPath.NodeRef) (body : Script Unit)
    (next : Script α) : (inside o data body next).watch s l =
      Watch.own l ((Act.opens o).run s l data) >>= fun inner =>
        Watch.within inner (body.watch s l) >>= fun _ => next.watch s l := rfl

@[simp] theorem watch_naming (data : XPath.NodeRef) (next : Script α) :
    (naming data next).watch s l =
      Watch.naming l (.own l (Act.sealing.run s l data)) >>= fun _ => next.watch s l := rfl

@[simp] theorem watch_enter (target : Located) (data : XPath.NodeRef) (body : Script Unit)
    (next : Script α) : (enter target data body next).watch s l =
      body.watch s l >>= fun _ => next.watch s l := rfl

@[simp] theorem watch_child (c : Located) (x : Script β) (next : Except MappingError β → Script α) :
    (child c x next).watch s l =
      Watch.child c (x.watch s c) >>= fun result => (next result).watch s l := rfl

@[simp] theorem watch_bind (x : Script α) (k : α → Script β) :
    (x >>= k).watch s l = x.watch s l >>= fun a => (k a).watch s l := by
  show (x.bind k).watch s l = _
  induction x with
  | done a => exact (pure_bind a fun a => (k a).watch s l).symm
  | own a data next ih => simp only [bind, watch_own, bind_assoc, ih]
  | inside o data body next _ ih => simp only [bind, watch_inside, bind_assoc, ih]
  | naming data next ih => simp only [bind, watch_naming, bind_assoc, ih]
  | enter target data body next _ ih => simp only [bind, watch_enter, bind_assoc, ih]
  | child c x next _ ih => simp only [bind, watch_child, bind_assoc, ih]

end Script

/-! ## The interpreter plays scripts -/

section
variable (s : Setting) (body : ScriptBody)

/-- The children of nodes, carried out. -/
def ScriptBody.watched : WalkBody := fun caller l data => (body l data).watch s caller

variable (l : Located) (data : XPath.NodeRef)

@[simp] theorem watch_at (caller : Located) :
    (body.at l data).watch s caller = body.watched s caller l data := by
  simp [ScriptBody.at, ScriptBody.watched]

theorem watch_resource :
    (scriptOpening body .resource l data).watch s l = walkResource s (body.watched s) l data := by
  simp only [scriptOpening, Script.watch_inside, Script.watch_done, watch_at, bind_pure_unit]
  rfl

theorem watch_blank :
    (scriptOpening body .blank l data).watch s l = walkBlank (body.watched s) l data := by
  simp only [scriptOpening, Script.watch_inside, Script.watch_done, watch_at, bind_pure_unit]
  rfl

theorem watch_matches (nodes : List XPath.NodeRef) :
    (scriptMatches body l nodes).watch s l = walkMatches s (body.watched s) l nodes := by
  induction nodes with
  | nil => rfl
  | cons data rest ih =>
    rw [scriptMatches, walkMatches]
    split
    · simp only [Script.watch_bind, watch_at, Script.watch_naming, Script.watch_done, bind_assoc,
        pure_bind, ih]
      rfl
    · simp [ih]

theorem watch_condition :
    (scriptCondition body l data).watch s l = walkCondition s (body.watched s) l data := by
  refine congrArg (Watch.own l (conditionHolds s l.node data) >>= ·) ?_
  funext holds
  cases holds <;> simp

theorem watch_otherwise (before : Option ConditionResult) :
    (scriptOtherwise body l data before).watch s l =
      walkOtherwise (body.watched s) l data before := by
  rcases before with _ | _ | _ | _
  · exact bind_pure _
  · rfl
  · exact watch_at s body l data l
  · rfl

theorem watch_repeated (x : Script Unit) (times : Nat) :
    (scriptRepeated x times).watch s l = walkRepeated (x.watch s l) times := by
  induction times with
  | zero => rfl
  | succ n ih => simp [scriptRepeated, walkRepeated, ih]

theorem watch_branches (texts : List String) (matched : Bool) (cs : List Located) :
    (scriptBranches body texts data matched cs).watch s l =
      walkBranches s (body.watched s) l texts data matched cs := by
  induction cs generalizing matched with
  | nil => rfl
  | cons c rest ih =>
    refine congrArg (Watch.own l (branchHits s texts c.node data) >>= ·) ?_
    funext hits
    simp only [Script.watch_bind, watch_repeated, watch_at]
    congr 1
    funext _
    split
    · exact ih matched
    · split
      · exact ih true
      · rfl

theorem watch_fallback (cs : List Located) :
    (scriptFallback body data cs).watch s l = walkFallback (body.watched s) l data cs := by
  rcases cs with _ | ⟨only, _ | ⟨second, rest⟩⟩
  · rfl
  · exact watch_at s body only data l
  · exact bind_pure _

theorem watch_switch :
    (scriptSwitch body l data).watch s l = walkSwitch s (body.watched s) l data := by
  refine congrArg (Watch.own l (switchCandidates s l.node data) >>= ·) ?_
  funext texts
  simp only [Script.watch_bind, watch_branches]
  congr 1
  funext matched
  cases matched
  · exact watch_fallback s body l data _
  · rfl

/-- Finding the named mapping in one act, or in two. -/
theorem watch_namedMapping :
    (Script.own .target data fun target => body.at target data).watch s l =
      walkNamedMapping s (body.watched s) l data := by
  simp only [Script.watch_own, watch_at, walkNamedMapping, Act.run, Setting.target]
  cases l.node.require "name" with
  | error e =>
    show Watch.own l (Run.ofExcept (.error e)) >>= _ = _
    rw [Watch.own_error_bind, Watch.own_error_bind]
  | ok name =>
    show Watch.own l (Run.ofExcept (s.named name)) >>= _ = _
    rw [Watch.own_ok, pure_bind, Setting.named]
    cases s.namedMapping? name with
    | none => exact Watch.own_error_bind l _ _
    | some target =>
      dsimp only
      rw [Watch.own_ok, pure_bind]

theorem watch_node (before : Option ConditionResult) :
    (scriptNode body before l data).watch s l = walkNode s (body.watched s) before l data := by
  rw [scriptNode, walkNode]
  cases l.node.tag with
  | condition => simp [watch_condition]
  | otherwise => exact watch_otherwise s body l data before
  | resource => exact watch_resource s body l data
  | mapping =>
    refine congrArg (Watch.own l (selected s l.node data) >>= ·) ?_
    funext nodes
    exact watch_matches s body l nodes
  | bnode => exact watch_blank s body l data
  | switch => exact watch_switch s body l data
  | useNamedMapping => exact watch_namedMapping s body l data
  | partition => rfl
  | namespaces => rfl
  | split => rfl
  | namedMapping => rfl
  | _ => exact bind_pure _

theorem watch_each (caller : Located) (before : Option ConditionResult) (cs : List Located) :
    (scriptEach body data before cs).watch s caller = walkEach s (body.watched s) data before cs := by
  induction cs generalizing before with
  | nil => rfl
  | cons c rest ih =>
    rw [scriptEach, walkEach]
    split
    · simp [watch_condition, ih]
    · simp [watch_node, ih]

end

theorem walkChildren_eq (s : Setting) (levels : Nat) :
    walkChildren s levels = (scriptChildren levels).watched s := by
  induction levels with
  | zero =>
    funext caller l data
    simp [walkChildren, scriptChildren, ScriptBody.watched]
    rfl
  | succ levels ih =>
    funext caller l data
    rw [walkChildren, ih]
    exact (watch_each s (scriptChildren levels) data caller none l.children).symm

end Triplify.Mapping
