import Triplify.Proofs.Walk.Script
/-!
# Scripts with their bodies left open

What the script of a node does on its own does not depend on the bodies that it enters. An outline
leaves them open, and filling it gives the script again: `scriptChildren_succ`. The outline alone
shows how a node acts and whose children it carries out: `Script.Sited`, `sited_node`.
-/

namespace Triplify.Mapping

/-! ## Outlines -/

/-- A body that is left open. -/
def openBody : ScriptBody := fun _ _ => .done ()

/-- What is done with the children of a node at a data node, with all bodies left open. -/
def outline (l : Located) (data : XPath.NodeRef) : Script Unit :=
  scriptEach openBody data none l.children

namespace Script

/-- The script with these bodies in place of those that it enters. -/
def filled (body : ScriptBody) : {α : Type} → Script α → Script α
  | _, done a => done a
  | _, own a data next => own a data fun answer => (next answer).filled body
  | _, inside o data inner next => inside o data (inner.filled body) (next.filled body)
  | _, naming data next => naming data (next.filled body)
  | _, enter target data _ next => enter target data (body target data) (next.filled body)
  | _, child l x next => child l (x.filled body) fun result => (next result).filled body

theorem filled_bind (body : ScriptBody) {α β : Type} (x : Script α) (k : α → Script β) :
    (x >>= k).filled body = x.filled body >>= fun a => (k a).filled body := by
  show (x.bind k).filled body = (x.filled body).bind _
  induction x with
  | done a => rfl
  | own a data next ih => simp only [bind, filled, ih]
  | inside o data inner next _ ih => simp only [bind, filled, ih]
  | naming data next ih => simp only [bind, filled, ih]
  | enter target data inner next _ ih => simp only [bind, filled, ih]
  | child l x next _ ih => simp only [bind, filled, ih]

end Script

section
variable (body inner : ScriptBody) (l : Located) (data : XPath.NodeRef)

@[simp] theorem filled_done {α : Type} (a : α) : (Script.done a).filled body = .done a := rfl

@[simp] theorem filled_pure {α : Type} (a : α) : (pure a : Script α).filled body = pure a := rfl

@[simp] theorem filled_at : (inner.at l data).filled body = body.at l data := rfl

theorem filled_matches (nodes : List XPath.NodeRef) :
    (scriptMatches inner l nodes).filled body = scriptMatches body l nodes := by
  induction nodes with
  | nil => rfl
  | cons data rest ih =>
    simp only [scriptMatches, Script.filled_bind, filled_at]
    split
    · simp only [Script.filled_bind, ih]
      rfl
    · simp only [ih]

theorem filled_condition :
    (scriptCondition inner l data).filled body = scriptCondition body l data := by
  refine congrArg (Script.own .test data) ?_
  funext holds
  cases holds <;> rfl

theorem filled_otherwise (before : Option ConditionResult) :
    (scriptOtherwise inner l data before).filled body = scriptOtherwise body l data before := by
  rcases before with _ | _ | _ | _ <;> rfl

theorem filled_repeated (x : Script Unit) (times : Nat) :
    (scriptRepeated x times).filled body = scriptRepeated (x.filled body) times := by
  induction times with
  | zero => rfl
  | succ n ih => simp only [scriptRepeated, Script.filled_bind, ih]

theorem filled_branches (texts : List String) (matched : Bool) (cs : List Located) :
    (scriptBranches inner texts data matched cs).filled body =
      scriptBranches body texts data matched cs := by
  induction cs generalizing matched with
  | nil => rfl
  | cons c rest ih =>
    refine congrArg (Script.own (.hits texts c) data) ?_
    funext hits
    simp only [Script.filled_bind, filled_repeated, filled_at]
    congr 1
    funext _
    split
    · exact ih matched
    · split
      · exact ih true
      · rfl

theorem filled_fallback (cs : List Located) :
    (scriptFallback inner data cs).filled body = scriptFallback body data cs := by
  rcases cs with _ | ⟨only, _ | ⟨second, rest⟩⟩ <;> rfl

theorem filled_switch : (scriptSwitch inner l data).filled body = scriptSwitch body l data := by
  refine congrArg (Script.own .candidates data) ?_
  funext texts
  simp only [Script.filled_bind, filled_branches]
  congr 1
  funext matched
  cases matched
  · exact filled_fallback body inner data _
  · rfl

theorem filled_node (before : Option ConditionResult) :
    (scriptNode inner before l data).filled body = scriptNode body before l data := by
  rw [scriptNode, scriptNode]
  cases l.node.tag with
  | condition =>
    simp only [Script.filled_bind, filled_condition]
    rfl
  | otherwise => exact filled_otherwise body inner l data before
  | mapping =>
    refine congrArg (Script.own .select data) ?_
    funext nodes
    exact filled_matches body inner l nodes
  | switch => exact filled_switch body inner l data
  | _ => rfl

theorem filled_each (before : Option ConditionResult) (cs : List Located) :
    (scriptEach inner data before cs).filled body = scriptEach body data before cs := by
  induction cs generalizing before with
  | nil => rfl
  | cons c rest ih =>
    rw [scriptEach, scriptEach]
    split
    · simp only [Script.filled, filled_condition, ih]
    · simp only [Script.filled, filled_node, ih]

/-- The script of the children is their outline, filled with the scripts of the next level. -/
theorem scriptChildren_succ (levels : Nat) :
    scriptChildren (levels + 1) l data = (outline l data).filled (scriptChildren levels) :=
  (filled_each (scriptChildren levels) openBody data none l.children).symm

end

/-! ## What an outline shows -/

/-- The children of the target are carried out on behalf of the node. -/
inductive Setting.Leads (s : Setting) (l : Located) : Located → Prop
  | own : l.node.tag ≠ .switch → Leads s l l
  | branch {c : Located} : c ∈ l.childrenWith .branch → Leads s l c
  | fallback {c : Located} : c ∈ l.childrenWith .fallback → Leads s l c
  | used {target : Located} : s.target l.node = .ok target → Leads s l target

namespace Script

/-- The script of a node has only acts that the node does by itself, and enters only bodies of nodes that
it leads to. The bodies are not looked at. -/
def Sited (s : Setting) (l : Located) : {α : Type} → Script α → Prop
  | _, done _ => True
  | _, own a data next => a.Suits l.node.tag ∧
    ∀ st answer, ((a.run s l data).exec st).1 = .ok answer → (next answer).Sited s l
  | _, inside o _ body next => (Act.opens o).Suits l.node.tag ∧ body.Sited s l ∧ next.Sited s l
  | _, naming _ next => Act.sealing.Suits l.node.tag ∧ next.Sited s l
  | _, enter target _ _ next => s.Leads l target ∧ next.Sited s l
  | _, child _ _ _ => False

theorem Sited.bind {s : Setting} {l : Located} {α β : Type} {x : Script α} {k : α → Script β}
    (h : x.Sited s l) (hk : ∀ a, (k a).Sited s l) : (x >>= k).Sited s l := by
  show (x.bind k).Sited s l
  induction x with
  | done a => exact hk a
  | own a data next ih =>
    exact ⟨h.1, fun st answer hanswer => ih answer (h.2 st answer hanswer) hk⟩
  | inside o data body next _ ih => exact ⟨h.1, h.2.1, ih h.2.2 hk⟩
  | naming data next ih => exact ⟨h.1, ih h.2 hk⟩
  | enter target data body next _ ih => exact ⟨h.1, ih h.2 hk⟩
  | child c x next _ _ => exact h.elim

end Script

section
variable {s : Setting} {l : Located} (body : ScriptBody) (data : XPath.NodeRef)

theorem sited_at {target : Located} (h : s.Leads l target) : (body.at target data).Sited s l :=
  ⟨h, trivial⟩

theorem sited_matches (htag : l.node.tag = .mapping) (nodes : List XPath.NodeRef) :
    (scriptMatches body l nodes).Sited s l := by
  have hself : s.Leads l l := .own (by simp [htag])
  induction nodes with
  | nil => trivial
  | cons data rest ih =>
    refine (sited_at body data hself).bind fun _ => ?_
    split
    · exact ⟨htag, ih⟩
    · exact ih

theorem sited_condition (htag : l.node.tag = .condition) :
    (scriptCondition body l data).Sited s l := by
  refine ⟨htag, fun st holds _ => ?_⟩
  cases holds with
  | true => exact (sited_at body data (.own (by simp [htag]))).bind fun _ => trivial
  | false => trivial

theorem sited_otherwise (htag : l.node.tag = .otherwise) (before : Option ConditionResult) :
    (scriptOtherwise body l data before).Sited s l := by
  rcases before with _ | _ | _ | _
  · exact ⟨htag, fun _ _ _ => trivial⟩
  · trivial
  · exact sited_at body data (.own (by simp [htag]))
  · trivial

theorem sited_repeated {x : Script Unit} (hx : x.Sited s l) (times : Nat) :
    (scriptRepeated x times).Sited s l := by
  induction times with
  | zero => trivial
  | succ n ih => exact hx.bind fun _ => ih

theorem sited_branches (htag : l.node.tag = .switch) (texts : List String) {cs : List Located}
    (hcs : ∀ c ∈ cs, s.Leads l c) (matched : Bool) :
    (scriptBranches body texts data matched cs).Sited s l := by
  induction cs generalizing matched with
  | nil => trivial
  | cons c rest ih =>
    have hrest := ih fun c hc => hcs c (.tail _ hc)
    refine ⟨htag, fun st hits _ => ?_⟩
    refine (sited_repeated (sited_at body data (hcs c (.head _))) hits).bind fun _ => ?_
    split
    · exact hrest matched
    · split
      · exact hrest true
      · trivial

theorem sited_fallback (htag : l.node.tag = .switch) {cs : List Located}
    (hcs : ∀ c ∈ cs, s.Leads l c) : (scriptFallback body data cs).Sited s l := by
  rcases cs with _ | ⟨only, _ | ⟨second, rest⟩⟩
  · trivial
  · exact sited_at body data (hcs only (.head _))
  · exact ⟨htag, fun _ _ _ => trivial⟩

theorem sited_switch (htag : l.node.tag = .switch) : (scriptSwitch body l data).Sited s l := by
  refine ⟨htag, fun st texts _ => ?_⟩
  refine (sited_branches body data htag texts (fun c hc => .branch hc) _).bind fun matched => ?_
  cases matched with
  | true => trivial
  | false => exact sited_fallback body data htag fun c hc => .fallback hc

theorem sited_node (before : Option ConditionResult) : (scriptNode body before l data).Sited s l := by
  have halone : ∀ {a : Act} (next : a.Answer → Script Unit), a.Suits l.node.tag →
      (∀ answer, (next answer).Sited s l) → (Script.own a data next).Sited s l :=
    fun next hfits hnext => ⟨hfits, fun _ answer _ => hnext answer⟩
  have hself : l.node.tag ≠ .switch → (body.at l data).Sited s l := fun h => sited_at body data (.own h)
  rw [scriptNode]
  cases htag : l.node.tag with
  | condition => exact (sited_condition body data htag).bind fun _ => trivial
  | otherwise => exact sited_otherwise body data htag before
  | identifier => exact halone _ htag fun _ => trivial
  | resource => exact ⟨htag, hself (by simp [htag]), trivial⟩
  | mapping => exact halone _ htag fun nodes => sited_matches body htag nodes
  | triple => exact halone _ htag fun _ => trivial
  | type => exact halone _ htag fun _ => trivial
  | bnode => exact ⟨htag, hself (by simp [htag]), trivial⟩
  | switch => exact sited_switch body data htag
  | counter => exact halone _ htag fun _ => trivial
  | uniqueIdentifier => exact halone _ htag fun _ => trivial
  | error => exact halone _ htag fun _ => trivial
  | useNamedMapping =>
    refine ⟨htag, fun st target hfound => sited_at body data (.used ?_)⟩
    rwa [Act.run, Run.exec_ofExcept] at hfound
  | branch => exact halone _ (.inl htag) fun _ => trivial
  | fallback => exact halone _ (.inr htag) fun _ => trivial
  | partition => trivial
  | namespaces => trivial
  | split => trivial
  | namedMapping => trivial

end

end Triplify.Mapping
