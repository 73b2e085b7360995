import Triplify.Proofs.Walk.Moment
import Triplify.Proofs.XPath.Reading
/-!
# An `else` and the `if` before it

Nodes are carried out in order, and how a condition turned out is remembered for the next node only.
-/

namespace Triplify.Mapping

/-! ## One list after another -/

section
variable (body : ScriptBody) (data : XPath.NodeRef)

/-- The script of nodes in order, and what is remembered for the node after them. -/
def scriptBefore : Option ConditionResult → List Located → Script (Option ConditionResult)
  | before, [] => .done before
  | before, l :: rest =>
    if l.node.tag = .condition then
      .child l (scriptCondition body l data) fun result =>
        scriptBefore (some (conditionResult result)) rest
    else
      .child l (scriptNode body before l data) fun _ => scriptBefore none rest

theorem scriptEach_append (before : Option ConditionResult) (front rest : List Located) :
    scriptEach body data before (front ++ rest) =
      scriptBefore body data before front >>= fun b => scriptEach body data b rest := by
  induction front generalizing before with
  | nil => rfl
  | cons l front ih =>
    simp only [List.cons_append, scriptEach, scriptBefore, ih]
    split <;> rfl

theorem scriptBefore_append (before : Option ConditionResult) (front rest : List Located) :
    scriptBefore body data before (front ++ rest) =
      scriptBefore body data before front >>= fun b => scriptBefore body data b rest := by
  induction front generalizing before with
  | nil => rfl
  | cons l front ih =>
    simp only [List.cons_append, scriptBefore, ih]
    split <;> rfl

end

/-! ## Who enters a body -/

/-- The children of the node are carried out, so many bodies deep. -/
def Enters (ms : List Moment) (depth : Nat) (l : Located) : Prop :=
  ∃ m ∈ ms, m.depth = depth ∧ m.caller = l ∧ ∃ target, m.act = .enter target

theorem Watched.mem_andThen {α β : Type} {w : Watched α} {k : α → RunState → List β} {b : β} :
    b ∈ w.andThen k ↔ ∃ a, w.result = .ok a ∧ b ∈ k a w.state := by
  rw [andThen]
  cases hr : w.result with
  | error e => simp
  | ok a => simp

section
variable {s : Setting}

theorem Script.depth_le {α : Type} {x : Script α} {f : Frame} {l : Located} {st : RunState}
    {m : Moment} (hm : m ∈ x.moments s f l st) : f.depth ≤ m.depth := by
  induction x generalizing f l st with
  | done a => cases hm
  | own a data next ih =>
    rcases List.mem_cons.1 hm with rfl | hm
    · exact Nat.le_refl _
    · obtain ⟨answer, -, hm⟩ := Watched.mem_andThen.1 hm
      exact ih answer hm
  | inside o data body next ihbody ih =>
    rcases List.mem_cons.1 hm with rfl | hm
    · exact Nat.le_refl _
    · obtain ⟨inner, -, hm⟩ := Watched.mem_andThen.1 hm
      rcases List.mem_append.1 hm with hm | hm
      · exact ihbody (f := f.inside _) hm
      · obtain ⟨_, -, hm⟩ := Watched.mem_andThen.1 hm
        exact ih hm
  | naming data next ih =>
    rcases List.mem_cons.1 hm with rfl | hm
    · exact Nat.le_refl _
    · obtain ⟨_, -, hm⟩ := Watched.mem_andThen.1 hm
      exact ih hm
  | enter target data body next ihbody ih =>
    rcases List.mem_cons.1 hm with rfl | hm
    · exact Nat.le_refl _
    · rcases List.mem_append.1 hm with hm | hm
      · exact Nat.le_of_succ_le (ihbody (f := f.deeper) hm)
      · obtain ⟨_, -, hm⟩ := Watched.mem_andThen.1 hm
        exact ih hm
  | child c x next ihx ih =>
    rcases List.mem_append.1 hm with hm | hm
    · exact ihx hm
    · obtain ⟨result, -, hm⟩ := Watched.mem_andThen.1 hm
      exact ih result hm

/-- Outside of the bodies, all acts of the script of a node are its own. -/
theorem Script.Placed.caller {α : Type} {x : Script α} {f : Frame} {l : Located} {st : RunState}
    (h : x.Placed s .node l) {m : Moment} (hm : m ∈ x.moments s f l st) (hdepth : m.depth = f.depth) :
    m.caller = l := by
  induction x generalizing f st with
  | done a => cases hm
  | own a data next ih =>
    rcases List.mem_cons.1 hm with rfl | hm
    · rfl
    · obtain ⟨answer, hanswer, hm⟩ := Watched.mem_andThen.1 hm
      exact ih answer (h.2 st answer hanswer) hm hdepth
  | inside o data body next ihbody ih =>
    rcases List.mem_cons.1 hm with rfl | hm
    · rfl
    · obtain ⟨inner, -, hm⟩ := Watched.mem_andThen.1 hm
      rcases List.mem_append.1 hm with hm | hm
      · exact ihbody (f := f.inside _) h.2.1 hm hdepth
      · obtain ⟨_, -, hm⟩ := Watched.mem_andThen.1 hm
        exact ih h.2.2 hm hdepth
  | naming data next ih =>
    rcases List.mem_cons.1 hm with rfl | hm
    · rfl
    · obtain ⟨_, -, hm⟩ := Watched.mem_andThen.1 hm
      exact ih h.2 hm hdepth
  | enter target data body next _ ih =>
    rcases List.mem_cons.1 hm with rfl | hm
    · rfl
    · rcases List.mem_append.1 hm with hm | hm
      · have hle : f.depth + 1 ≤ m.depth := depth_le hm
        omega
      · obtain ⟨_, -, hm⟩ := Watched.mem_andThen.1 hm
        exact ih h.2.2 hm hdepth
  | child c x next _ _ => cases h.1

theorem enters_append {ms ms' : List Moment} {depth : Nat} {l : Located} :
    Enters (ms ++ ms') depth l ↔ Enters ms depth l ∨ Enters ms' depth l := by
  simp only [Enters, List.mem_append, or_and_right, exists_or]

theorem enters_andThen {α : Type} {w : Watched α} {k : α → RunState → List Moment} {depth : Nat}
    {l : Located} : Enters (w.andThen k) depth l ↔
      ∃ a, w.result = .ok a ∧ Enters (k a w.state) depth l := by
  rw [Watched.andThen]
  cases hr : w.result with
  | error e => simp [Enters]
  | ok a => simp

variable {body : ScriptBody} (hbody : ∀ (caller l : Located) (data : XPath.NodeRef), s.Inner caller →
  l.StandsIn s.config.root → (body l data).Placed s .children caller) {data : XPath.NodeRef}
include hbody

theorem caller_of_each {cs : List Located} (hcs : ∀ c ∈ cs, s.Inner c) {before : Option ConditionResult}
    {f : Frame} {l : Located} {st : RunState} {m : Moment}
    (hm : m ∈ (scriptEach body data before cs).moments s f l st) (hdepth : m.depth = f.depth) :
    m.caller ∈ cs := by
  induction cs generalizing before st with
  | nil => cases hm
  | cons c rest ih =>
    have hc := hcs c (.head _)
    have hrest := fun {b st} => @ih (fun c hc => hcs c (.tail _ hc)) b st
    rw [scriptEach] at hm
    split at hm
    · next htag =>
      rcases List.mem_append.1 hm with hm | hm
      · rw [(placed_condition hbody hc data htag).caller hm hdepth]
        exact .head _
      · obtain ⟨result, -, hm⟩ := Watched.mem_andThen.1 hm
        exact .tail _ (hrest hm)
    · rcases List.mem_append.1 hm with hm | hm
      · rw [(placed_node hbody hc data before).caller hm hdepth]
        exact .head _
      · obtain ⟨result, -, hm⟩ := Watched.mem_andThen.1 hm
        exact .tail _ (hrest hm)

theorem not_enters_each {cs : List Located} (hcs : ∀ c ∈ cs, s.Inner c)
    {before : Option ConditionResult} {f : Frame} {l e : Located} {st : RunState} (he : e ∉ cs) :
    ¬ Enters ((scriptEach body data before cs).moments s f l st) f.depth e := by
  rintro ⟨m, hm, hdepth, rfl, -⟩
  exact he (caller_of_each hbody hcs hm hdepth)

omit hbody in
/-- The script of an `else` enters its body just if a condition before it did not hold. -/
theorem enters_otherwise {e : Located} (he : e.node.tag = .otherwise)
    {before : Option ConditionResult} {f : Frame} {st : RunState} :
    Enters ((scriptNode body before e data).moments s f e st) f.depth e ↔
      before = some .notTaken := by
  have hnone : ¬ Enters [] f.depth e := by
    rintro ⟨m, hm, -⟩
    cases hm
  rw [scriptNode, he]
  rcases before with _ | _ | _ | _
  · constructor
    · rintro ⟨m, hm, -, -, target, htarget⟩
      cases List.mem_singleton.1 hm
      cases htarget
    · intro h
      cases h
  · exact iff_of_false hnone (by simp)
  · exact iff_of_true ⟨_, .head _, rfl, rfl, e, rfl⟩ rfl
  · exact iff_of_false hnone (by simp)

end

/-! ## What is remembered -/

/-- A script, carried out for a node, comes to a result and a state. -/
def Plays (s : Setting) (l : Located) {α : Type} (x : Script α) (st : RunState) (a : α)
    (st' : RunState) : Prop :=
  (x.watch s l st).result = .ok a ∧ (x.watch s l st).state = st'

theorem plays_bind {s : Setting} {l : Located} {α β : Type} {x : Script α} {k : α → Script β}
    {st st'' : RunState} {b : β} : Plays s l (x >>= k) st b st'' ↔
      ∃ a st', Plays s l x st a st' ∧ Plays s l (k a) st' b st'' := by
  simp only [Plays, Script.watch_bind]
  cases hr : (x.watch s l st).result with
  | error e => simp [Watch.bind_error hr]
  | ok a =>
    rw [Watch.bind_ok hr]
    constructor
    · intro h
      exact ⟨a, _, ⟨rfl, rfl⟩, h⟩
    · rintro ⟨_, _, ⟨⟨⟩, rfl⟩, h⟩
      exact h

theorem plays_done {s : Setting} {l : Located} {α : Type} {a b : α} {st st' : RunState} :
    Plays s l (.done a) st b st' ↔ a = b ∧ st = st' := by
  constructor
  · rintro ⟨⟨⟩, rfl⟩
    exact ⟨rfl, rfl⟩
  · rintro ⟨rfl, rfl⟩
    exact ⟨rfl, rfl⟩

theorem Watch.child_result {α : Type} {l : Located} {w : Watch α} {st : RunState}
    {r : Except MappingError α} :
    (child l w st).result = .ok r ↔ (w st).result = r ∧ Recoverable r := by
  rw [child_apply]
  cases hr : (w st).result with
  | ok a =>
    rw [guarded_ok l _ hr]
    constructor
    · intro h
      cases h
      exact ⟨rfl, Recoverable.ok a⟩
    · rintro ⟨rfl, -⟩
      rfl
  | error e =>
    cases he : e.isFatal with
    | true =>
      rw [guarded_fatal l _ hr he]
      constructor
      · intro h
        cases h
      · rintro ⟨rfl, h⟩
        rw [Recoverable.error.1 h] at he
        cases he
    | false =>
      rw [guarded_error l _ hr he]
      constructor
      · intro h
        cases h
        exact ⟨rfl, Recoverable.error.2 he⟩
      · rintro ⟨rfl, -⟩
        rfl

/-- A child whose failure does not end the run, and then what depends on its outcome. -/
theorem plays_child {s : Setting} {caller c : Located} {α β : Type} {x : Script β}
    {next : Except MappingError β → Script α} {st st' : RunState} {a : α} :
    Plays s caller (.child c x next) st a st' ↔ Recoverable (x.watch s c st).result ∧
      Plays s caller (next (x.watch s c st).result) (Watch.child c (x.watch s c) st).state a st' := by
  rw [Plays, Script.watch]
  cases hr : (Watch.child c (x.watch s c) st).result with
  | ok r =>
    obtain ⟨hx, hrec⟩ := Watch.child_result.1 hr
    rw [Watch.bind_ok hr, hx]
    exact ⟨fun h => ⟨hrec, h⟩, fun h => h.2⟩
  | error e =>
    rw [Watch.bind_error hr]
    constructor
    · rintro ⟨⟨⟩, -⟩
    · rintro ⟨hrec, -⟩
      rw [Watch.child_result.2 ⟨rfl, hrec⟩] at hr
      cases hr

section
variable {s : Setting} {body : ScriptBody} {data : XPath.NodeRef} {caller c : Located}
  {before b : Option ConditionResult} {st st' : RunState}

theorem plays_condition (hc : c.node.tag = .condition) :
    Plays s caller (scriptBefore body data before [c]) st b st' ↔
      Recoverable (walkCondition s (body.watched s) c data st).result ∧
      b = some (conditionResult (walkCondition s (body.watched s) c data st).result) ∧
      st' = (Watch.child c (walkCondition s (body.watched s) c data) st).state := by
  rw [scriptBefore, if_pos hc, plays_child, watch_condition, scriptBefore, plays_done]
  simp only [eq_comm]

theorem plays_other (hc : c.node.tag ≠ .condition) :
    Plays s caller (scriptBefore body data before [c]) st b st' ↔
      Recoverable (walkNode s (body.watched s) before c data st).result ∧ b = none ∧
      st' = (Watch.child c (walkNode s (body.watched s) before c data) st).state := by
  rw [scriptBefore, if_neg hc, plays_child, watch_node, scriptBefore, plays_done]
  simp only [eq_comm]

end

/-! ## Runs -/

section
variable {s : Setting} (levels : Nat) {data : XPath.NodeRef}

theorem Located.children_nodup (l : Located) : l.children.Nodup := by
  refine List.pairwise_iff_getElem.2 fun i j hi hj hij heq => ?_
  have hplace := congrArg Located.place heq
  simp only [children, List.getElem_mapIdx, List.append_cancel_left_eq, List.cons.injEq] at hplace
  omega

theorem scriptEach_eq (body : ScriptBody) (before : Option ConditionResult) (cs : List Located) :
    scriptEach body data before cs = scriptBefore body data before cs >>= fun _ => .done () := by
  have happend := scriptEach_append body data before cs []
  rwa [List.append_nil] at happend

/-- Nodes in order, up to the end of the list: what the run does and what its script comes to. -/
theorem runEach_iff {cs : List Located} (hcs : ∀ c ∈ cs, c.StandsIn s.config.root)
    (caller : Located) {st st' : RunState} :
    (runEach s (runChildren s levels) data none (cs.map (·.node))).exec st = (.ok (), st') ↔
      ∃ b, Plays s caller (scriptBefore (scriptChildren levels) data none cs) st b st' := by
  obtain ⟨hresult, hstate⟩ := walkEach_erases s levels hcs data st
  have hwatch : (scriptEach (scriptChildren levels) data none cs).watch s caller =
      walkEach s (walkChildren s levels) data none cs := by
    rw [watch_each, walkChildren_eq]
  have hplays : Plays s caller (scriptEach (scriptChildren levels) data none cs) st () st' ↔
      (runEach s (runChildren s levels) data none (cs.map (·.node))).exec st = (.ok (), st') := by
    rw [Plays, hwatch, hresult, hstate, Prod.ext_iff]
  rw [← hplays, scriptEach_eq, plays_bind]
  simp only [plays_done, true_and, exists_eq_right]

end

/-! ## Which bodies are entered -/

section
variable {s : Setting} {body : ScriptBody} {data : XPath.NodeRef} {f : Frame} {caller c : Located}
  {st : RunState}

/-- The moments of one of the nodes in order. -/
def momentsOf (s : Setting) (body : ScriptBody) (data : XPath.NodeRef)
    (before : Option ConditionResult) (f : Frame) (c : Located) (st : RunState) : List Moment :=
  if c.node.tag = .condition then (scriptCondition body c data).moments s f c st
  else (scriptNode body before c data).moments s f c st

theorem moments_each_cons (before : Option ConditionResult) (rest : List Located) :
    ∃ later, (scriptEach body data before (c :: rest)).moments s f caller st =
        momentsOf s body data before f c st ++ later ∧
      ∀ m ∈ later, ∃ before' st', m ∈ (scriptEach body data before' rest).moments s f caller st' := by
  rw [scriptEach, momentsOf]
  split
  all_goals
    refine ⟨_, rfl, fun m hm => ?_⟩
    obtain ⟨result, -, hm⟩ := Watched.mem_andThen.1 hm
    exact ⟨_, _, hm⟩

/-- The body of a node is entered only while that node is carried out. -/
theorem enters_each_iff (hbody : ∀ (caller l : Located) (data : XPath.NodeRef), s.Inner caller →
      l.StandsIn s.config.root → (body l data).Placed s .children caller)
    {front rest : List Located} (hinner : ∀ l ∈ front ++ c :: rest, s.Inner l)
    (hnodup : (front ++ c :: rest).Nodup) :
    Enters ((scriptEach body data none (front ++ c :: rest)).moments s f caller st) f.depth c ↔
      ∃ b st₁, Plays s caller (scriptBefore body data none front) st b st₁ ∧
        Enters (momentsOf s body data b f c st₁) f.depth c := by
  obtain ⟨hfront, hrest, hapart⟩ := List.nodup_append.1 hnodup
  have hinnerFront : ∀ l ∈ front, s.Inner l := fun l hl => hinner l (List.mem_append_left _ hl)
  have hinnerRest : ∀ l ∈ rest, s.Inner l := fun l hl =>
    hinner l (List.mem_append_right _ (.tail _ hl))
  have hbefore : ¬ Enters ((scriptBefore body data none front).moments s f caller st) f.depth c := by
    have h : ¬ Enters ((scriptEach body data none front).moments s f caller st) f.depth c :=
      not_enters_each hbody hinnerFront fun hc => hapart c hc c (.head _) rfl
    rw [scriptEach_eq, Script.moments_bind, enters_append] at h
    exact fun hc => h (.inl hc)
  rw [scriptEach_append, Script.moments_bind, enters_append, enters_andThen, or_iff_right hbefore]
  constructor
  · rintro ⟨b, hb, h⟩
    refine ⟨b, _, ⟨hb, rfl⟩, ?_⟩
    obtain ⟨later, heq, hlater⟩ := moments_each_cons b rest
    rw [heq, enters_append] at h
    rcases h with h | ⟨m, hm, hdepth, hcaller, -⟩
    · exact h
    -- What comes later is of other nodes.
    · obtain ⟨before', st', hm⟩ := hlater m hm
      have hmem := caller_of_each hbody hinnerRest hm hdepth
      rw [hcaller] at hmem
      exact ((List.nodup_cons.1 hrest).1 hmem).elim
  · rintro ⟨b, _, ⟨hb, rfl⟩, h⟩
    obtain ⟨later, heq, -⟩ := moments_each_cons b rest
    refine ⟨b, hb, ?_⟩
    rw [heq, enters_append]
    exact .inl h

/-- A condition whose body is entered does not turn out not to hold. -/
theorem holds_of_enters (hc : c.node.tag = .condition) {before : Option ConditionResult}
    (h : Enters (momentsOf s body data before f c st) f.depth c) :
    (walkCondition s (body.watched s) c data st).result ≠ .ok false := by
  rw [momentsOf, if_pos hc] at h
  obtain ⟨m, hm, -, -, target, htarget⟩ := h
  rcases List.mem_cons.1 hm with rfl | hm
  · cases htarget
  · obtain ⟨holds, hholds, hm⟩ := Watched.mem_andThen.1 hm
    rw [← watch_condition, scriptCondition, Script.watch, Watch.bind_ok hholds]
    cases holds with
    | false => cases hm
    | true =>
      -- Whatever the body does, the condition holds.
      intro hfalse
      have hplays : Plays s c (body.at c data >>= fun _ => .done true) _ false _ := ⟨hfalse, rfl⟩
      obtain ⟨_, _, -, hdone⟩ := plays_bind.1 hplays
      cases (plays_done.1 hdone).1

end

/-! ## The decision -/

theorem Plays.unique {s : Setting} {l : Located} {α : Type} {x : Script α} {st st' st'' : RunState}
    {a b : α} (h : Plays s l x st a st') (h' : Plays s l x st b st'') : a = b ∧ st' = st'' := by
  obtain ⟨ha, rfl⟩ := h
  obtain ⟨hb, rfl⟩ := h'
  rw [ha] at hb
  exact ⟨Except.ok.inj hb, rfl⟩

theorem conditionResult_eq_notTaken {r : Except MappingError Bool} :
    conditionResult r = .notTaken ↔ r = .ok false := by
  rcases r with e | _ | _ <;> simp [conditionResult]

section
variable {s : Setting} {levels : Nat} {data : XPath.NodeRef} {caller c e : Located}
  {pre front : List Located} {st st₀ st₁ : RunState} {b before : Option ConditionResult}

theorem walkCondition_result (hc : c.StandsIn s.config.root) :
    (walkCondition s ((scriptChildren levels).watched s) c data st).result =
      ((runCondition s (runChildren s levels) c.node data).exec st).1 := by
  rw [← walkChildren_eq]
  exact ((Erases.relation s).condition ((Erases.relation s).children levels) rfl hc data st).1

/-- What is remembered after a condition is how it turned out, where the run came to it. -/
theorem remembers_condition (hfront : ∀ l ∈ pre ++ [c], l.StandsIn s.config.root)
    (hc : c.node.tag = .condition) :
    (∃ st₁, Plays s caller (scriptBefore (scriptChildren levels) data none (pre ++ [c])) st b st₁) ↔
      ∃ st₀, (runEach s (runChildren s levels) data none (pre.map (·.node))).exec st = (.ok (), st₀) ∧
        Recoverable ((runCondition s (runChildren s levels) c.node data).exec st₀).1 ∧
        b = some (conditionResult ((runCondition s (runChildren s levels) c.node data).exec st₀).1) := by
  have hpre : ∀ l ∈ pre, l.StandsIn s.config.root := fun l hl => hfront l (List.mem_append_left _ hl)
  have hstands := hfront c (List.mem_append_right _ (.head _))
  simp only [runEach_iff levels hpre caller, scriptBefore_append, plays_bind, plays_condition hc,
    walkCondition_result hstands]
  constructor
  · rintro ⟨_, b', st₀, hplays, hrec, hb, rfl⟩
    exact ⟨st₀, ⟨b', hplays⟩, hrec, hb⟩
  · rintro ⟨st₀, ⟨b', hplays⟩, hrec, hb⟩
    exact ⟨_, b', st₀, hplays, hrec, hb, rfl⟩

/-- Nothing is remembered where the last node is no condition. -/
theorem remembers_other (hlast : ∀ c, front.getLast? = some c → c.node.tag ≠ .condition)
    (h : Plays s caller (scriptBefore (scriptChildren levels) data none front) st b st₁) : b = none := by
  rcases List.eq_nil_or_concat front with rfl | ⟨pre, c, rfl⟩
  · exact (plays_done.1 h).1.symm
  · rw [List.concat_eq_append] at h hlast
    rw [scriptBefore_append, plays_bind] at h
    obtain ⟨b', st₀, -, h⟩ := h
    exact ((plays_other (hlast c (by simp))).1 h).2.1

/-- An `else` is silent after a condition that held or failed. -/
theorem plays_otherwise_silent (he : e.node.tag = .otherwise) {r : ConditionResult}
    (hr : r ≠ .notTaken) :
    Plays s caller (scriptBefore (scriptChildren levels) data (some r) [e]) st none st := by
  have hne : e.node.tag ≠ .condition := by simp [he]
  have hwalk : walkNode s ((scriptChildren levels).watched s) (some r) e data = pure () := by
    rw [walkNode, he]
    cases r with
    | notTaken => exact (hr rfl).elim
    | _ => rfl
  rw [plays_other hne, hwalk]
  exact ⟨Recoverable.ok (), rfl, rfl⟩

/-- A state in which the failure of a node is recorded. -/
def RunState.reporting (st : RunState) (n : Node) (e : MappingError) : RunState :=
  { st with diagnostics := n.reportIn e st.diagnostics }

/-- An `else` without a condition before it is reported, and does nothing. -/
theorem plays_otherwise_alone (he : e.node.tag = .otherwise) :
    Plays s caller (scriptBefore (scriptChildren levels) data none [e]) st none
      (st.reporting e.node (.config (.elseWithoutIf e.node.name))) := by
  have hne : e.node.tag ≠ .condition := by simp [he]
  have hwalk : walkNode s ((scriptChildren levels).watched s) none e data =
      .own e (throw (.config (.elseWithoutIf e.node.name))) := by
    rw [walkNode, he]
    rfl
  rw [plays_other hne, hwalk]
  refine ⟨Recoverable.error.2 rfl, rfl, ?_⟩
  rw [Watch.child_apply, Watch.guarded_error e (.ended e) rfl rfl]
  rfl

theorem run_snoc (hfront : ∀ l ∈ front ++ [e], l.StandsIn s.config.root)
    (h : Plays s caller (scriptBefore (scriptChildren levels) data none front) st before st₀)
    (he : Plays s caller (scriptBefore (scriptChildren levels) data before [e]) st₀ b st₁) :
    (runEach s (runChildren s levels) data none ((front ++ [e]).map (·.node))).exec st =
      (.ok (), st₁) := by
  rw [runEach_iff levels hfront caller, scriptBefore_append]
  exact ⟨b, plays_bind.2 ⟨before, st₀, h, he⟩⟩

end

section
variable {s : Setting} {levels : Nat} {l c e : Located} {pre front rest : List Located}
  (hl : l.StandsIn s.config.root) {data : XPath.NodeRef} {f : Frame} {caller : Located}
  {st st₀ st₁ : RunState}
include hl

/-- Whether the body of a child is entered shows while that child is carried out. -/
theorem enters_child_iff (hchildren : l.children = front ++ c :: rest) :
    Enters ((scriptChildren (levels + 1) l data).moments s f caller st) f.depth c ↔ ∃ b st₁,
      Plays s caller (scriptBefore (scriptChildren levels) data none front) st b st₁ ∧
        Enters (momentsOf s (scriptChildren levels) data b f c st₁) f.depth c := by
  have hbody : ∀ (caller l : Located) (data : XPath.NodeRef), s.Inner caller →
      l.StandsIn s.config.root → (scriptChildren levels l data).Placed s .children caller :=
    fun _ _ data hcaller hl => placed_children levels hcaller hl data
  have hinner : ∀ c ∈ l.children, s.Inner c := fun c hc => .child hl hc
  have hnodup := l.children_nodup
  rw [hchildren] at hinner hnodup
  rw [scriptChildren, hchildren]
  exact enters_each_iff hbody hinner hnodup

variable (hchildren : l.children = front ++ e :: rest)
include hchildren

theorem stands_before : ∀ c ∈ front ++ [e], c.StandsIn s.config.root := by
  intro c hc
  refine hl.child ?_
  rw [hchildren]
  rcases List.mem_append.1 hc with hc | hc
  · exact List.mem_append_left _ hc
  · rw [List.mem_singleton.1 hc]
    exact List.mem_append_right _ (.head _)

theorem stands_front : ∀ c ∈ front, c.StandsIn s.config.root := fun c hc =>
  stands_before hl hchildren c (List.mem_append_left _ hc)

variable (he : e.node.tag = .otherwise)
include he

theorem enters_otherwise_iff :
    Enters ((scriptChildren (levels + 1) l data).moments s f caller st) f.depth e ↔ ∃ st₁,
      Plays s caller (scriptBefore (scriptChildren levels) data none front) st (some .notTaken) st₁ := by
  have hne : e.node.tag ≠ .condition := by simp [he]
  rw [enters_child_iff hl hchildren]
  simp only [momentsOf, if_neg hne, enters_otherwise he]
  constructor
  · rintro ⟨b, st₁, h, rfl⟩
    exact ⟨st₁, h⟩
  · rintro ⟨st₁, h⟩
    exact ⟨_, st₁, h, rfl⟩

theorem enters_otherwise_of_condition :
    Enters ((scriptChildren (levels + 1) l data).moments s f caller st) f.depth e ↔
      ∃ pre c st₀, front = pre ++ [c] ∧ c.node.tag = .condition ∧
        (runEach s (runChildren s levels) data none (pre.map (·.node))).exec st = (.ok (), st₀) ∧
        ((runCondition s (runChildren s levels) c.node data).exec st₀).1 = .ok false := by
  have hfront := stands_front hl hchildren
  rw [enters_otherwise_iff hl hchildren he]
  constructor
  · rintro ⟨st₁, h⟩
    by_cases hlast : ∃ c, front.getLast? = some c ∧ c.node.tag = .condition
    · obtain ⟨c, hlast, hc⟩ := hlast
      obtain ⟨pre, rfl⟩ := List.getLast?_eq_some_iff.1 hlast
      obtain ⟨st₀, hrun, -, hb⟩ := (remembers_condition hfront hc).1 ⟨st₁, h⟩
      exact ⟨pre, c, st₀, rfl, hc, hrun, conditionResult_eq_notTaken.1 (Option.some.inj hb).symm⟩
    · cases remembers_other (fun c hc htag => hlast ⟨c, hc, htag⟩) h
  · rintro ⟨pre, c, st₀, rfl, hc, hrun, hfalse⟩
    refine (remembers_condition hfront hc).2 ⟨st₀, hrun, ?_, ?_⟩ <;> rw [hfalse]
    · exact Recoverable.ok false
    · rfl

/-- Where the run comes to an `else`, what it remembers decides whether the body is entered. -/
theorem otherwise_skipped {b : Option ConditionResult} {st₂ : RunState} (hb : b ≠ some .notTaken)
    (h : Plays s caller (scriptBefore (scriptChildren levels) data none front) st b st₁)
    (hown : Plays s caller (scriptBefore (scriptChildren levels) data b [e]) st₁ none st₂) :
    (runEach s (runChildren s levels) data none ((front ++ [e]).map (·.node))).exec st = (.ok (), st₂) ∧
      ¬ Enters ((scriptChildren (levels + 1) l data).moments s f caller st) f.depth e := by
  refine ⟨run_snoc (stands_before hl hchildren) h hown, fun hentered => ?_⟩
  obtain ⟨st', h'⟩ := (enters_otherwise_iff hl hchildren he).1 hentered
  exact hb (h.unique h').1

/-- Of a condition and the `else` right after it, one body is entered at most. -/
theorem not_enters_both (hlast : front.getLast? = some c) (hc : c.node.tag = .condition)
    (hif : Enters ((scriptChildren (levels + 1) l data).moments s f caller st) f.depth c) :
    ¬ Enters ((scriptChildren (levels + 1) l data).moments s f caller st) f.depth e := by
  intro helse
  obtain ⟨pre, c', st₀, rfl, -, hrun, hfalse⟩ :=
    (enters_otherwise_of_condition hl hchildren he).1 helse
  obtain rfl : c' = c := by simpa using hlast
  have hfront := stands_front hl hchildren
  have hsplit : l.children = pre ++ c' :: e :: rest := by simpa using hchildren
  obtain ⟨b, st₀', h, hif⟩ := (enters_child_iff hl hsplit).1 hif
  have hrun' := (runEach_iff levels (fun l hl => hfront l (List.mem_append_left _ hl)) caller).2 ⟨b, h⟩
  cases hrun.symm.trans hrun'
  refine holds_of_enters hc hif ?_
  rw [walkCondition_result (hfront c' (by simp)), hfalse]

end

/-- An `else` is decided by the `if` right before it, and by nothing else. Let the children of a node
be carried out in any state, so many levels deep. The body of an `else` among them is entered just if
the node right before it is an `if` that the run came to and that turned out not to hold. If that `if`
held or failed, then the `else` changes nothing. If there is another node before it, or none, then one
error is recorded and that is all. So the bodies of an `if` and of the `else` after it are never both
entered, whatever is carried out inside of them. -/
theorem else_is_decided_by_the_if_before (s : Setting) (levels : Nat) {l e : Located}
    {front rest : List Located} (hl : l.StandsIn s.config.root)
    (hchildren : l.children = front ++ e :: rest) (he : e.node.tag = .otherwise)
    (data : XPath.NodeRef) (f : Frame) (caller : Located) (st : RunState) :
    let body := runChildren s levels
    let run := fun nodes : List Located => (runEach s body data none (nodes.map (·.node))).exec st
    let ms := (scriptChildren (levels + 1) l data).moments s f caller st
    (Enters ms f.depth e ↔ ∃ pre c st₀, front = pre ++ [c] ∧ c.node.tag = .condition ∧
      run pre = (.ok (), st₀) ∧ ((runCondition s body c.node data).exec st₀).1 = .ok false) ∧
    (∀ pre c st₀ st₁, front = pre ++ [c] → c.node.tag = .condition → run pre = (.ok (), st₀) →
      ((runCondition s body c.node data).exec st₀).1 ≠ .ok false → run front = (.ok (), st₁) →
      run (front ++ [e]) = (.ok (), st₁) ∧ ¬ Enters ms f.depth e) ∧
    ((∀ c, front.getLast? = some c → c.node.tag ≠ .condition) → ∀ st₁, run front = (.ok (), st₁) →
      run (front ++ [e]) = (.ok (), st₁.reporting e.node (.config (.elseWithoutIf e.node.name))) ∧
      ¬ Enters ms f.depth e) ∧
    ∀ c, front.getLast? = some c → c.node.tag = .condition →
      ¬ (Enters ms f.depth c ∧ Enters ms f.depth e) := by
  intro body run ms
  have hfront := stands_front hl hchildren
  refine ⟨enters_otherwise_of_condition hl hchildren he, ?_, ?_, ?_⟩
  · rintro pre c st₀ st₁ rfl hc hrun hheld hreached
    obtain ⟨b, h⟩ := (runEach_iff levels hfront caller).1 hreached
    obtain ⟨st₀', hrun', -, rfl⟩ := (remembers_condition hfront hc).1 ⟨st₁, h⟩
    cases hrun.symm.trans hrun'
    have hne := fun h => hheld (conditionResult_eq_notTaken.1 h)
    exact otherwise_skipped hl hchildren he (fun h => hne (Option.some.inj h)) h
      (plays_otherwise_silent he hne)
  · intro hlast st₁ hreached
    obtain ⟨b, h⟩ := (runEach_iff levels hfront caller).1 hreached
    obtain rfl := remembers_other hlast h
    exact otherwise_skipped hl hchildren he (by simp) h (plays_otherwise_alone he)
  · rintro c hlast hc ⟨hif, helse⟩
    exact not_enters_both hl hchildren he hlast hc hif helse

/-- An `if` that does not hold. -/
def neverHolds : Node := .mk .condition "if" [("match", "false()")] [] "<if/>"

/-- An `else`. -/
def elseNode : Node := .mk .otherwise "else" [] [] "<else/>"

/-- The two, one after the other. -/
def falseThenElse : Setting where
  config := ⟨.mk .mapping "config" [] [neverHolds, elseNode] "<config/>", .standard, []⟩
  transforms := {}
  paths := ⟨⟨#[]⟩, []⟩

theorem falseThenElse_enters :
    let s := falseThenElse
    let st := initial ⟨⟨.standard, none⟩, .turtle, #[], #[], #[]⟩ 0
    let ms := (scriptChildren 1 s.root .root).moments s {} s.root st
    Enters ms 0 ⟨[1], elseNode⟩ ∧ ¬ Enters ms 0 ⟨[0], neverHolds⟩ := by
  intro s st ms
  have hholds : (conditionHolds s neverHolds .root).exec st = (.ok false, st) :=
    exec_conditionHolds (n := neverHolds) rfl
      (prepareMatch_of_notMem st.registries (by decide) rfl)
      (s.paths.evaluate_false .root)
  have hfalse : (runCondition s (runChildren s 0) neverHolds .root).exec st = (.ok false, st) := by
    rw [runCondition, Run.exec_bind_ok hholds]
    rfl
  obtain ⟨hdecided, -, -, hboth⟩ := else_is_decided_by_the_if_before s 0 (l := s.root)
    (e := ⟨[1], elseNode⟩) rfl (show s.root.children = [⟨[0], neverHolds⟩] ++ _ from rfl) rfl .root {}
    s.root st
  have helse : Enters ms 0 ⟨[1], elseNode⟩ :=
    hdecided.2 ⟨[], ⟨[0], neverHolds⟩, st, rfl, rfl, rfl, congrArg Prod.fst hfalse⟩
  exact ⟨helse, fun hif => hboth _ rfl rfl ⟨hif, helse⟩⟩

end Triplify.Mapping
