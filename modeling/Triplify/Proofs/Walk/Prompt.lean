import Triplify.Proofs.Walk.Placed
/-!
# What comes next

A node whose children nest too deep fails at once: the error passes nothing on its way to where it is
recorded. And once a node has been carried out, the next of its siblings follows at once, unless the
run ends there. So the events of a run say of some events what they are followed by: `Prompt`.

`trace_prompt`: in a trace every such event comes, and a node fails for nesting too deep only right
after that error has come up in it.
-/

namespace Triplify

/-- The name of the node whose children nest too deep, if the error says so. -/
def MappingError.tooDeep? : MappingError → Option String
  | .processing (.tooDeep _ name) => some name
  | _ => none

theorem MappingError.isFatal_of_tooDeep? {e : MappingError} (h : e.tooDeep?.isSome) :
    e.isFatal = false := by
  cases e with
  | processing fault => rfl
  | _ => cases h

namespace Mapping

/-! ## Siblings -/

/-- The node right after another one, under the same parent. -/
def Located.sibling? (root : Node) (l : Located) : Option Located :=
  l.place.getLast?.bind fun i =>
    let next := l.place.dropLast ++ [i + 1]
    (root.at? next).map (⟨next, ·⟩)

/-- Each of the nodes is the sibling right after the one before it, and the last one has none. -/
def Siblings (root : Node) : List Located → Prop
  | [] => True
  | l :: rest => l.sibling? root = rest.head? ∧ Siblings root rest

theorem Located.StandsIn.sibling? {root : Node} {l c : Located} (h : l.StandsIn root) {i : Nat}
    (hc : l.children[i]? = some c) : c.sibling? root = l.children[i + 1]? := by
  have hplace : c.place = l.place ++ [i] := by
    rw [h.getElem?_children, Option.map_eq_some_iff] at hc
    obtain ⟨n, -, rfl⟩ := hc
    rfl
  rw [h.getElem?_children, Located.sibling?, hplace]
  simp

/-- The children of a node follow on each other. -/
theorem Located.StandsIn.siblings {root : Node} {l : Located} (h : l.StandsIn root) :
    Siblings root l.children := by
  -- The induction needs a place for each of the rest, so it is over the children from an index on.
  have hfrom : ∀ cs i, l.children.drop i = cs → Siblings root cs := by
    intro cs
    induction cs with
    | nil => exact fun _ _ => trivial
    | cons c rest ih =>
      intro i hi
      have hrest : l.children.drop (i + 1) = rest := by
        rw [← List.drop_drop, hi]
        rfl
      have hc : l.children[i]? = some c := by
        rw [← List.head?_drop, hi]
        rfl
      refine ⟨?_, ih (i + 1) hrest⟩
      rw [h.sibling? hc, ← List.head?_drop, hrest]
  exact hfrom l.children 0 rfl

/-! ## Events that are waited for -/

/-- The failure that is still to come when a node has ended so. -/
def awaited {α : Type} (l : Located) : Except MappingError α → Option Event
  | .ok _ => none
  | .error e => if e.tooDeep?.isSome then some (.ended l (.error e)) else none

/-- The event that has to come right after this one. -/
def Event.next? (root : Node) : Event → Option Event
  | .raised l e => awaited l (.error e : Except MappingError Unit)
  | .ended l (.ok _) => (l.sibling? root).map .started
  | .ended l (.error e) => if e.isFatal then none else (l.sibling? root).map .started
  | _ => none

/-- After a node that does not end the run comes its sibling. -/
theorem Event.next?_ended {root : Node} {l : Located} {result : Except MappingError Unit}
    (h : Recoverable result) :
    (Event.ended l result).next? root = (l.sibling? root).map .started := by
  cases result with
  | ok _ => rfl
  | error e => exact if_neg (Bool.eq_false_iff.1 (Recoverable.error.1 h))

/-- The node that failed, and the name of the node whose children nest too deep, if that is why. -/
def overflowOf (failure : Located × MappingError) : Option (Located × String) :=
  failure.2.tooDeep?.map (failure.1, ·)

namespace Event

/-- A call that is refused, because it nests too deep. -/
def refused? (event : Event) : Option (Located × String) := event.raised?.bind overflowOf

/-- A failure that is recorded, because the children of a node nest too deep. -/
def overflow? (event : Event) : Option (Located × String) := event.recovered?.bind overflowOf

theorem overflow?_ended (l : Located) (e : MappingError) :
    (ended l (.error e)).overflow? = e.tooDeep?.map (l, ·) := by
  cases he : e.tooDeep? with
  | none => cases hfatal : e.isFatal <;> simp [overflow?, recovered?, failure?, overflowOf, he, hfatal]
  | some name =>
    have hfatal : e.isFatal = false := MappingError.isFatal_of_tooDeep? (by simp [he])
    rw [overflow?, recovered?_eq rfl hfatal, Option.bind_some, overflowOf, he]

theorem overflow?_named {l : Located} {e : MappingError} (h : e.tooDeep? = none) :
    (named l (.error e)).overflow? = none := by
  cases hfatal : e.isFatal <;> simp [overflow?, recovered?, failure?, overflowOf, h, hfatal]

end Event

/-- Each event comes that is waited for, at first and after each event, and no node fails for nesting
too deep unless that is waited for. The last argument is what is waited for in the end. -/
def Prompt (root : Node) : Option Event → List Event → Option Event → Prop
  | want, [], rest => rest = want
  | want, event :: events, rest => (∀ e ∈ want, event = e) ∧
    (event.overflow?.isSome → want = some event) ∧ Prompt root (event.next? root) events rest

namespace Prompt

variable {root : Node} {want mid rest : Option Event} {es es' : List Event}

theorem append (h : Prompt root want es mid) (h' : Prompt root mid es' rest) :
    Prompt root want (es ++ es') rest := by
  induction es generalizing want with
  | nil =>
    cases h
    exact h'
  | cons event es ih => exact ⟨h.1, h.2.1, ih h.2.2⟩

/-- An event that nothing waits for. -/
theorem single {event : Event} (h : event.overflow? = none) :
    Prompt root none [event] (event.next? root) :=
  ⟨fun e he => (by cases he), fun hover => (by simp [h] at hover), rfl⟩

/-- The start of a node need not have been waited for. -/
theorem of_started {l : Option Located} (h : Prompt root (l.map .started) es none) :
    Prompt root none es none := by
  cases es with
  | nil => rfl
  | cons event es =>
    refine ⟨fun e he => (by cases he), fun hover => ?_, h.2.2⟩
    have hevent := h.2.1 hover
    cases l with
    | none => cases hevent
    | some l =>
      cases hevent
      cases hover

/-- What comes right after an event. -/
theorem next {event wanted : Event} {before after : List Event}
    (h : Prompt root want (before ++ event :: after) none)
    (hnext : event.next? root = some wanted) : ∃ later, after = wanted :: later := by
  induction before generalizing want with
  | nil =>
    have hafter := h.2.2
    rw [hnext] at hafter
    cases after with
    | nil => cases hafter
    | cons event' later => exact ⟨later, by rw [hafter.1 wanted rfl]⟩
  | cons event' before ih => exact ih h.2.2

/-- The failure that an event waits for is that of the call that it refuses. -/
theorem refused?_next (event : Event) :
    (event.next? root).toList.filterMap Event.overflow? = event.refused?.toList := by
  have hstarted : ∀ l : Option Located,
      (l.map Event.started).toList.filterMap Event.overflow? = [] := fun l => by cases l <;> rfl
  cases event with
  | raised l e =>
    show (awaited l (.error e : Except MappingError Unit)).toList.filterMap _ =
      (e.tooDeep?.map (l, ·)).toList
    cases he : e.tooDeep? with
    | none => simp [awaited, he]
    | some name => simp [awaited, he, Event.overflow?_ended]
  | ended l result =>
    cases result with
    | ok _ => exact hstarted (l.sibling? root)
    | error e =>
      rw [Event.next?]
      split
      · rfl
      · exact hstarted (l.sibling? root)
  | _ => rfl

/-- Each call that is refused is one failure, of the node that made it. -/
theorem refused_eq (h : Prompt root want es rest) :
    want.toList.filterMap Event.overflow? ++ es.filterMap Event.refused? =
      es.filterMap Event.overflow? ++ rest.toList.filterMap Event.overflow? := by
  induction es generalizing want with
  | nil =>
    cases h
    simp
  | cons event es ih =>
    obtain ⟨hcomes, hdue, h⟩ := h
    -- The event is what was waited for, or no overflow: either way both say the same of it.
    have hwant : want.toList.filterMap Event.overflow? = event.overflow?.toList := by
      cases want with
      | none =>
        cases hover : event.overflow? with
        | none => rfl
        | some x => cases hdue (by rw [hover]; rfl)
      | some wanted =>
        rw [hcomes wanted rfl]
        cases hover : wanted.overflow? <;> simp [hover]
    have hlater := ih h
    rw [refused?_next] at hlater
    have hcons : ∀ f : Event → Option (Located × String),
        (event :: es).filterMap f = (f event).toList ++ es.filterMap f := by
      intro f
      cases hf : f event <;> simp [hf]
    rw [hwant, hcons, hcons, List.append_assoc, hlater]

end Prompt

/-! ## Runs -/

/-- What a node does by itself does not fail for nesting too deep. -/
theorem Act.tooDeep?_eq_none {s : Setting} {l : Located} {a : Act} (ha : a.Suits l.node.tag)
    {data : XPath.NodeRef} {st : RunState} {e : MappingError}
    (he : ((a.run s l data).exec st).1 = .error e) : e.tooDeep? = none := by
  obtain hfault | ⟨message, rfl⟩ | ⟨handle, rfl⟩ := Act.fails ha.fits he
  · cases hfault with
    | plain hplain =>
      cases e with
      | processing fault => cases fault <;> first | rfl | cases hplain
      | _ => rfl
    | tooDeep name => exact ha.elim
    | _ => rfl
  · rfl
  · rfl

/-- A run on behalf of a node waits for nothing in the end but the failure of that node. -/
def Settles (root : Node) {α : Type} (l : Located) (o : Watched α) : Prop :=
  Prompt root none o.events (awaited l o.result)

/-- A run that starts with what is waited for, and waits for nothing in the end. -/
structure Finishes (root : Node) (want : Option Event) {α : Type} (caller : Located)
    (o : Watched α) : Prop where
  events : Prompt root want o.events none
  result : awaited caller o.result = none

/-- A failure that is recorded or ends the run is waited for no more. -/
theorem awaited_guarded (caller l : Located) (mark : Except MappingError Unit → Event) {α : Type}
    (w : Watch α) (st : RunState) : awaited caller (Watch.guarded l mark w st).result = none := by
  cases hr : (w st).result with
  | ok a => rw [Watch.guarded_ok l mark hr]; rfl
  | error e =>
    cases he : e.isFatal with
    | true =>
      rw [Watch.guarded_fatal l mark hr he, awaited, if_neg]
      intro hdeep
      cases he.symm.trans (MappingError.isFatal_of_tooDeep? hdeep)
    | false => rw [Watch.guarded_error l mark hr he]; rfl

section
variable {root : Node} {l c : Located} {α β : Type}

namespace Settles

theorem own (m : Run α) (st : RunState) : Settles root l (Watch.own l m st) := by
  have hstated : ∀ made : List GraphStatement, Prompt root none (made.map (.stated l)) none := by
    intro made
    induction made with
    | nil => rfl
    | cons x made ih => exact (Prompt.single rfl).append ih
  refine (hstated _).append ?_
  show Prompt root none (Watch.raisedIn l (m.exec st).1) (awaited l (m.exec st).1)
  cases (m.exec st).1 with
  | ok a => rfl
  | error e => exact Prompt.single rfl

theorem bind {w : Watch α} {k : α → Watch β} {st : RunState} (h : Settles root l (w st))
    (hk : ∀ a, (w st).result = .ok a → Settles root l (k a (w st).state)) :
    Settles root l ((w >>= k) st) := by
  cases hr : (w st).result with
  | error e =>
    rw [Settles, hr] at h
    rw [Watch.bind_error hr]
    exact h
  | ok a =>
    rw [Settles, hr] at h
    rw [Watch.bind_ok hr]
    exact h.append (hk a hr)

/-- Naming a graph waits for nothing. -/
theorem naming {w : Watch α} {st : RunState} (h : Settles root l (w st))
    (hplain : ∀ e, (w st).result = .error e → e.tooDeep? = none) :
    Settles root l (Watch.naming l w st) := by
  have hfree : awaited l (w st).result = none ∧
      (Event.named l ((w st).result.map fun _ => ())).overflow? = none := by
    cases hr : (w st).result with
    | ok a => exact ⟨rfl, rfl⟩
    | error e => exact ⟨by simp [awaited, hplain e hr], Event.overflow?_named (hplain e hr)⟩
  rw [Settles, hfree.1] at h
  rw [Settles, Watch.naming, awaited_guarded, Watch.guarded_events]
  exact h.append (Prompt.single hfree.2)

/-- A child begins when it is waited for, and its own failure is what it waits for. -/
theorem child {w : Watch α} {st : RunState} (h : Settles root c (w st)) :
    Prompt root (some (.started c)) (Watch.child c w st).events
      (Event.next? root (.ended c ((w st).result.map fun _ => ()))) := by
  have hend : Prompt root (awaited c (w st).result) [.ended c ((w st).result.map fun _ => ())]
      (Event.next? root (.ended c ((w st).result.map fun _ => ()))) := by
    cases hr : (w st).result with
    | ok a => exact Prompt.single rfl
    | error e =>
      refine ⟨fun e' he' => ?_, fun hover => ?_, rfl⟩
      · rw [awaited] at he'
        split at he'
        · cases he'; rfl
        · cases he'
      · have hdeep : (Event.ended c (.error e)).overflow?.isSome := hover
        rw [Event.overflow?_ended, Option.isSome_map] at hdeep
        exact if_pos hdeep
  rw [Watch.child_apply, Watch.guarded_events]
  exact ⟨fun e he => Option.some.inj he, fun hover => (by cases hover), h.append hend⟩

/-- After a child comes its sibling, unless the run ends there. -/
theorem child_bind {caller : Located} {w : Watch α} {k : Except MappingError α → Watch β}
    {st : RunState} (h : Settles root c (w st))
    (hk : ∀ result st, Finishes root ((c.sibling? root).map .started) caller (k result st)) :
    Finishes root (some (.started c)) caller ((Watch.child c w >>= k) st) := by
  have hchild := h.child
  have hon : ∀ result, (Watch.child c w st).result = .ok result →
      Event.next? root (.ended c ((w st).result.map fun _ => ())) = (c.sibling? root).map .started →
      Finishes root (some (.started c)) caller ((Watch.child c w >>= k) st) := by
    intro result hresult hnext
    rw [hnext] at hchild
    rw [Watch.bind_ok hresult]
    have hlater := hk result (Watch.child c w st).state
    exact ⟨hchild.append hlater.events, hlater.result⟩
  cases hr : (w st).result with
  | ok a =>
    refine hon (.ok a) ?_ (Event.next?_ended ?_)
    · rw [Watch.child_apply, Watch.guarded_ok c _ hr]
    · rw [hr]
      exact .ok _
  | error e =>
    cases he : e.isFatal with
    | false =>
      refine hon (.error e) ?_ (Event.next?_ended ?_)
      · rw [Watch.child_apply, Watch.guarded_error c _ hr he]
      · rw [hr]
        exact Recoverable.error.2 he
    | true =>
      have hresult : (Watch.child c w st).result = .error e := by
        rw [Watch.child_apply, Watch.guarded_fatal c _ hr he]
      have hnext : Event.next? root (.ended c ((w st).result.map fun _ => ())) = none := by
        rw [hr]
        exact if_pos he
      have hend := awaited_guarded caller c (.ended c) w st
      rw [Watch.guarded_fatal c _ hr he] at hend
      rw [hnext] at hchild
      rw [Watch.bind_error hresult]
      exact ⟨hchild, hend⟩

end Settles

end

section
variable {s : Setting} {l : Located} {α : Type} {body : ScriptBody}

theorem Script.Sited.settles {x : Script α} (h : x.Sited s l)
    (hbody : ∀ target data, s.Leads l target → ∀ st,
      Settles s.config.root l ((body target data).watch s l st)) (st : RunState) :
    Settles s.config.root l ((x.filled body).watch s l st) := by
  induction x generalizing st with
  | done a => exact rfl
  | own a data next ih =>
    exact Settles.bind (.own _ st) fun answer hanswer => ih answer (h.2 st answer hanswer) _
  | inside o data inner next ihinner ih =>
    refine Settles.bind (.own _ st) fun context _ => ?_
    exact Settles.bind (w := Watch.within context ((inner.filled body).watch s l))
      (ihinner h.2.1 _) fun _ _ => ih h.2.2 _
  | naming data next ih =>
    refine Settles.bind (.naming (.own _ st) fun e he => ?_) fun _ _ => ih h.2 _
    exact Act.tooDeep?_eq_none h.1 he
  | enter target data inner next _ ih =>
    exact Settles.bind (hbody target data h.1 st) fun _ _ => ih h.2 _
  | child c x next _ _ => exact h.elim

/-- Siblings are carried out one right after the other. -/
theorem finishes_each (caller : Located) (data : XPath.NodeRef) {cs : List Located}
    (hcs : Siblings s.config.root cs)
    (hbody : ∀ c ∈ cs, ∀ target data, s.Leads c target → ∀ st,
      Settles s.config.root c ((body target data).watch s c st))
    (before : Option ConditionResult) (st : RunState) :
    Finishes s.config.root (cs.head?.map .started) caller
      ((scriptEach body data before cs).watch s caller st) := by
  induction cs generalizing before st with
  | nil => exact ⟨rfl, rfl⟩
  | cons c rest ih =>
    have hrest : ∀ before st, Finishes s.config.root ((c.sibling? s.config.root).map .started)
        caller ((scriptEach body data before rest).watch s caller st) := by
      rw [hcs.1]
      exact ih hcs.2 fun c hc => hbody c (.tail _ hc)
    rw [scriptEach]
    split
    · next htag =>
      have hnode := (sited_condition body data htag).settles (s := s) (hbody c (.head _)) st
      rw [filled_condition] at hnode
      exact hnode.child_bind fun result st => hrest _ st
    · have hnode := (sited_node body data before).settles (s := s) (hbody c (.head _)) st
      rw [filled_node] at hnode
      exact hnode.child_bind fun result st => hrest _ st

theorem settles_children (levels : Nat) {caller l : Located} (hl : l.StandsIn s.config.root)
    (data : XPath.NodeRef) (st : RunState) :
    Settles s.config.root caller ((scriptChildren levels l data).watch s caller st) := by
  induction levels generalizing caller l data st with
  | zero => exact Settles.bind (.own _ st) fun _ _ => rfl
  | succ levels ih =>
    have hbody : ∀ c ∈ l.children, ∀ target data, s.Leads c target → ∀ st, Settles s.config.root c
        ((scriptChildren levels target data).watch s c st) := fun c hc target data hleads st =>
      ih (hleads.standsIn (hl.child hc)) data st
    have hrun := finishes_each caller data hl.siblings hbody none st
    rw [scriptChildren, Settles, hrun.result]
    exact hrun.events.of_started

/-- In a run comes at once what has to come. -/
theorem trace_prompt (s : Setting) (g : Graph) (taken : Nat) :
    Prompt s.config.root none (trace s g taken) none := by
  have hroot := Located.standsIn_root s
  have hbody : ∀ c ∈ s.root.children, ∀ target data, s.Leads c target → ∀ st,
      Settles s.config.root c ((scriptChildren 63 target data).watch s c st) :=
    fun c hc target data hleads st => settles_children 63 (hleads.standsIn (hroot.child hc)) data st
  have hlevels : maxNesting = 63 + 1 := rfl
  rw [trace, walkConfig, walkChildren_eq, ScriptBody.watched, hlevels, scriptChildren]
  exact (finishes_each s.root .root hroot.siblings hbody none _).events.of_started

end

end Mapping

end Triplify
