import Triplify.Proofs.Walk.Moment
/-!
# A reference for switches

A big-step semantics of switches, apart from the interpreter: which cases are tried and in which
state, which of them hold, how often their bodies are carried out, and when the default is. That the
interpreter does exactly this is shown in `Triplify.Proofs.Walk.Switch`.

`Switching.exists_runs`: the reference says what a switch does in every state.
`Switching.Runs.acts`: which acts there can be.
-/

namespace Triplify.Mapping

/-! ## The reference -/

/-- A switch at a data node: what it looks at, how many levels are left for the bodies of its cases,
and where it is played. -/
structure Switching where
  setting : Setting
  levels : Nat
  switch : Located
  data : XPath.NodeRef
  frame : Frame

namespace Switching

variable (w : Switching)

/-- An act of the switch itself, and the state right before it. -/
def own (a : Act) (st : RunState) : Moment := ⟨w.frame, w.switch, a, w.data, st⟩

/-- What comes of the body of a case. -/
def bodyOf (c : Located) (st : RunState) : Except MappingError Unit × RunState :=
  (runChildren w.setting w.levels c.node w.data).exec st

/-- The nodes that a test selects, with its calls answered by these registries. -/
def selection (r : Registries) (raw : String) : Except MappingError (List XPath.NodeRef) := do
  w.setting.paths.select (← prepareMatch r raw) w.data

/-- The texts that cases compare their values with, or why there are none. -/
inductive Offers (r : Registries) : Except MappingError (List String) → Prop
  | nothing : w.switch.node.get? "match" = none → Offers r (.ok [])
  | selected {raw : String} {nodes : List XPath.NodeRef} : w.switch.node.get? "match" = some raw →
      w.selection r raw = .ok nodes → Offers r (.ok (nodes.map w.setting.paths.document.stringValue))
  | failed {raw : String} {e : MappingError} : w.switch.node.get? "match" = some raw →
      w.selection r raw = .error e → Offers r (.error e)

/-- How often a case holds, or why its test fails. A case with a test holds once, or not at all. One
with a value alone holds for each text that is equal to it. -/
inductive Verdict (texts : List String) (r : Registries) (c : Located) : Except MappingError Nat → Prop
  | selects {raw : String} {nodes : List XPath.NodeRef} : c.node.get? "match" = some raw →
      w.selection r raw = .ok nodes → nodes ≠ [] → Verdict texts r c (.ok 1)
  | selectsNothing {raw : String} : c.node.get? "match" = some raw → w.selection r raw = .ok [] →
      Verdict texts r c (.ok 0)
  | failed {raw : String} {e : MappingError} : c.node.get? "match" = some raw →
      w.selection r raw = .error e → Verdict texts r c (.error e)
  | equals {value : String} : c.node.get? "match" = none → c.node.get? "value" = some value →
      Verdict texts r c (.ok (texts.count value))
  | untested : c.node.get? "match" = none → c.node.get? "value" = none →
      Verdict texts r c (.error (.config (.caseWithoutTest c.node.name c.node.source)))

/-- The body of a case is carried out so many times, each time in the state that is left, or until it
fails. -/
inductive Repeats (c : Located) :
    Nat → RunState → List Moment → Except MappingError Unit × RunState → Prop
  | done {st : RunState} : Repeats c 0 st [] (.ok (), st)
  | again {n : Nat} {st st' : RunState} {log : List Moment} {out : Except MappingError Unit × RunState} :
      w.bodyOf c st = (.ok (), st') → Repeats c n st' log out →
      Repeats c (n + 1) st (w.own (.enter c) st :: log) out
  | failed {n : Nat} {st st' : RunState} {e : MappingError} : w.bodyOf c st = (.error e, st') →
      Repeats c (n + 1) st [w.own (.enter c) st] (.error e, st')

/-- Cases that the switch goes on after: those that do not hold, and those that hold and have an
attribute `break`. The flag tells whether one of them held. -/
inductive Passes (texts : List String) :
    List Located → RunState → Bool → List Moment → RunState → Prop
  | nil {st : RunState} : Passes texts [] st false [] st
  | skipped {c : Located} {rest : List Located} {st st' : RunState} {held : Bool} {log : List Moment} :
      w.Verdict texts st.registries c (.ok 0) → Passes texts rest st held log st' →
      Passes texts (c :: rest) st held (w.own (.hits texts c) st :: log) st'
  | held {c : Located} {rest : List Located} {n : Nat} {st st₁ st' : RunState} {held : Bool}
      {bodies log : List Moment} : w.Verdict texts st.registries c (.ok (n + 1)) →
      c.node.has "break" → w.Repeats c (n + 1) st bodies (.ok (), st₁) →
      Passes texts rest st₁ held log st' →
      Passes texts (c :: rest) st true (w.own (.hits texts c) st :: (bodies ++ log)) st'

/-- A case that the switch ends with: its test fails, its body fails, or it holds and has no attribute
`break`. -/
inductive Ends (texts : List String) (c : Located) (st : RunState) :
    List Moment → Except MappingError Unit × RunState → Prop
  | test {e : MappingError} : w.Verdict texts st.registries c (.error e) →
      Ends texts c st [w.own (.hits texts c) st] (.error e, st)
  | body {n : Nat} {st' : RunState} {e : MappingError} {bodies : List Moment} :
      w.Verdict texts st.registries c (.ok n) → w.Repeats c n st bodies (.error e, st') →
      Ends texts c st (w.own (.hits texts c) st :: bodies) (.error e, st')
  | held {n : Nat} {st' : RunState} {bodies : List Moment} :
      w.Verdict texts st.registries c (.ok (n + 1)) → c.node.has "break" = false →
      w.Repeats c (n + 1) st bodies (.ok (), st') →
      Ends texts c st (w.own (.hits texts c) st :: bodies) (.ok (), st')

/-- The cases of the switch, in document order. -/
def cases : List Located := w.switch.childrenWith .branch

/-- The defaults of the switch, in document order. -/
def defaults : List Located := w.switch.childrenWith .fallback

/-- There are candidates to compare with, and none of the cases holds in the state. -/
def NoneHolds (st : RunState) : Prop :=
  ∃ texts, w.Offers st.registries (.ok texts) ∧
    ∀ c ∈ w.cases, w.Verdict texts st.registries c (.ok 0)

/-- What the switch does on its own in a state, and what comes of it. -/
inductive Runs (st : RunState) : List Moment → Except MappingError Unit × RunState → Prop
  | noTexts {e : MappingError} : w.Offers st.registries (.error e) →
      Runs st [w.own .candidates st] (.error e, st)
  | ended {texts : List String} {tried rest : List Located} {c : Located} {held : Bool}
      {st' : RunState} {log last : List Moment} {out : Except MappingError Unit × RunState} :
      w.Offers st.registries (.ok texts) → w.cases = tried ++ c :: rest →
      w.Passes texts tried st held log st' → w.Ends texts c st' last out →
      Runs st (w.own .candidates st :: (log ++ last)) out
  | passed {texts : List String} {st' : RunState} {log : List Moment} :
      w.Offers st.registries (.ok texts) → w.Passes texts w.cases st true log st' →
      Runs st (w.own .candidates st :: log) (.ok (), st')
  | default {texts : List String} {st' : RunState} {log : List Moment} {d : Located} :
      w.Offers st.registries (.ok texts) → w.Passes texts w.cases st false log st' →
      w.defaults = [d] →
      Runs st (w.own .candidates st :: (log ++ [w.own (.enter d) st'])) (w.bodyOf d st')
  | noDefault {texts : List String} {st' : RunState} {log : List Moment} :
      w.Offers st.registries (.ok texts) → w.Passes texts w.cases st false log st' →
      w.defaults = [] → Runs st (w.own .candidates st :: log) (.ok (), st')
  | severalDefaults {texts : List String} {st' : RunState} {log : List Moment} {d d' : Located}
      {more : List Located} : w.Offers st.registries (.ok texts) →
      w.Passes texts w.cases st false log st' → w.defaults = d :: d' :: more →
      Runs st (w.own .candidates st :: (log ++ [w.own .severalDefaults st']))
        (.error (.config (.severalDefaults w.switch.node.name)), st')

end Switching

/-! ## Tests -/

namespace Switching

variable {w : Switching} {st : RunState} {texts : List String} {c : Located}

/-- The interpreter selects as the reference does, and changes nothing. -/
theorem exec_selection {raw : String} {α : Type} (k : List XPath.NodeRef → Run α) :
    (Run.expression raw >>= fun expr =>
      Run.ofExcept (w.setting.paths.select expr w.data) >>= k).exec st =
    (Run.ofExcept (w.selection st.registries raw) >>= k).exec st := by
  have hread : (Run.expression raw).exec st = (prepareMatch st.registries raw, st) :=
    Run.exec_ofExcept _ st
  rw [selection]
  cases hexpr : prepareMatch st.registries raw with
  | error e =>
    rw [hexpr] at hread
    rw [Run.exec_bind_error hread]
    rfl
  | ok expr =>
    rw [hexpr] at hread
    rw [Run.exec_bind_ok hread]
    rfl

/-- The interpreter asks for candidates as the reference does, and changes nothing. -/
theorem Offers.exec {r : Except MappingError (List String)} (h : w.Offers st.registries r) :
    (switchCandidates w.setting w.switch.node w.data).exec st = (r, st) := by
  rw [switchCandidates]
  cases h with
  | nothing hnone =>
    rw [hnone]
    rfl
  | selected hsome hselect =>
    rw [hsome]
    refine (exec_selection _).trans ?_
    rw [hselect]
    rfl
  | failed hsome hselect =>
    rw [hsome]
    refine (exec_selection _).trans ?_
    rw [hselect]
    rfl

/-- The interpreter tests a case as the reference does, and changes nothing. -/
theorem Verdict.exec {r : Except MappingError Nat} (h : w.Verdict texts st.registries c r) :
    (branchHits w.setting texts c.node w.data).exec st = (r, st) := by
  rw [branchHits]
  cases h with
  | @selects _ nodes hsome hselect hne =>
    have hempty : ¬ nodes.isEmpty = true := fun h => hne (List.isEmpty_iff.1 h)
    rw [hsome]
    refine (exec_selection _).trans ?_
    rw [hselect, Run.exec_bind_ok (Run.exec_ofExcept _ st), if_neg hempty]
    rfl
  | selectsNothing hsome hselect =>
    rw [hsome]
    refine (exec_selection _).trans ?_
    rw [hselect]
    rfl
  | failed hsome hselect =>
    rw [hsome]
    refine (exec_selection _).trans ?_
    rw [hselect]
    rfl
  | equals hnone hvalue =>
    rw [hnone, hvalue]
    rfl
  | untested hnone hvalue =>
    rw [hnone, hvalue]
    rfl

end Switching

/-! ## There is always a run -/

namespace Switching

variable (w : Switching)

theorem exists_offers (r : Registries) : ∃ result, w.Offers r result := by
  cases hmatch : w.switch.node.get? "match" with
  | none => exact ⟨_, .nothing hmatch⟩
  | some raw =>
    cases hselect : w.selection r raw with
    | error e => exact ⟨_, .failed hmatch hselect⟩
    | ok nodes => exact ⟨_, .selected hmatch hselect⟩

theorem exists_verdict (texts : List String) (r : Registries) (c : Located) :
    ∃ result, w.Verdict texts r c result := by
  cases hmatch : c.node.get? "match" with
  | none =>
    cases hvalue : c.node.get? "value" with
    | none => exact ⟨_, .untested hmatch hvalue⟩
    | some value => exact ⟨_, .equals hmatch hvalue⟩
  | some raw =>
    cases hselect : w.selection r raw with
    | error e => exact ⟨_, .failed hmatch hselect⟩
    | ok nodes =>
      by_cases hnodes : nodes = []
      · exact ⟨_, .selectsNothing hmatch (hnodes ▸ hselect)⟩
      · exact ⟨_, .selects hmatch hselect hnodes⟩

theorem exists_repeats (c : Located) (n : Nat) (st : RunState) :
    ∃ log out, w.Repeats c n st log out := by
  induction n generalizing st with
  | zero => exact ⟨_, _, .done⟩
  | succ n ih =>
    rcases hbody : w.bodyOf c st with ⟨e | _, st'⟩
    · exact ⟨_, _, .failed hbody⟩
    · obtain ⟨log, out, h⟩ := ih st'
      exact ⟨_, _, .again hbody h⟩

/-- The switch ends with one of the cases. -/
def EndsAmong (texts : List String) (cs : List Located) (st : RunState) : Prop :=
  ∃ tried c rest held log st' last out, cs = tried ++ c :: rest ∧
    w.Passes texts tried st held log st' ∧ w.Ends texts c st' last out

/-- The switch goes on after all of the cases, or it ends with one of them. -/
theorem passes_or_ends (texts : List String) (cs : List Located) (st : RunState) :
    (∃ held log st', w.Passes texts cs st held log st') ∨ w.EndsAmong texts cs st := by
  induction cs generalizing st with
  | nil => exact .inl ⟨_, _, _, .nil⟩
  | cons c rest ih =>
    have hends : ∀ {last out}, w.Ends texts c st last out → w.EndsAmong texts (c :: rest) st :=
      fun h => ⟨[], c, rest, _, _, _, _, _, rfl, .nil, h⟩
    obtain ⟨result, hverdict⟩ := exists_verdict w texts st.registries c
    -- The test fails, the case does not hold, or it holds so many times.
    rcases result with e | _ | n
    · exact .inr (hends (.test hverdict))
    · rcases ih st with ⟨_, _, _, h⟩ | ⟨tried, c', rest', _, _, _, _, _, rfl, h, h'⟩
      · exact .inl ⟨_, _, _, .skipped hverdict h⟩
      · exact .inr ⟨c :: tried, c', rest', _, _, _, _, _, rfl, .skipped hverdict h, h'⟩
    · obtain ⟨bodies, ⟨e | _, st₁⟩, hbodies⟩ := exists_repeats w c (n + 1) st
      · exact .inr (hends (.body hverdict hbodies))
      · cases hbreak : c.node.has "break" with
        | false => exact .inr (hends (.held hverdict hbreak hbodies))
        | true =>
          rcases ih st₁ with ⟨_, _, _, h⟩ | ⟨tried, c', rest', _, _, _, _, _, rfl, h, h'⟩
          · exact .inl ⟨_, _, _, .held hverdict hbreak hbodies h⟩
          · exact .inr ⟨c :: tried, c', rest', _, _, _, _, _, rfl, .held hverdict hbreak hbodies h, h'⟩

theorem exists_runs (st : RunState) : ∃ log out, w.Runs st log out := by
  obtain ⟨e | texts, hoffers⟩ := exists_offers w st.registries
  · exact ⟨_, _, .noTexts hoffers⟩
  rcases passes_or_ends w texts w.cases st with
    ⟨held, _, _, h⟩ | ⟨_, _, _, _, _, _, _, _, heq, h, h'⟩
  · cases held with
    | true => exact ⟨_, _, .passed hoffers h⟩
    | false =>
      rcases hdefaults : w.defaults with _ | ⟨d, _ | ⟨d', more⟩⟩
      · exact ⟨_, _, .noDefault hoffers h hdefaults⟩
      · exact ⟨_, _, .default hoffers h hdefaults⟩
      · exact ⟨_, _, .severalDefaults hoffers h hdefaults⟩
  · exact ⟨_, _, .ended hoffers heq h h'⟩

end Switching

/-! ## Acts of a run -/

namespace Switching

variable {w : Switching} {texts : List String} {st st' : RunState} {log : List Moment}
  {out : Except MappingError Unit × RunState} {c : Located} {cs : List Located}

/-- The body of a node is carried out. -/
def CarriesOut (log : List Moment) (c : Located) : Prop := ∃ m ∈ log, m.act = .enter c

theorem Repeats.acts {n : Nat} (h : w.Repeats c n st log out) : ∀ m ∈ log, m.act = .enter c := by
  induction h with
  | done => exact List.forall_mem_nil _
  | again _ _ ih => exact List.forall_mem_cons.2 ⟨rfl, ih⟩
  | failed _ => exact List.forall_mem_singleton.2 rfl

/-- What the switch does with a case. -/
def Concerns (texts : List String) (c : Located) (m : Moment) : Prop :=
  m.act = .hits texts c ∨ m.act = .enter c

theorem Passes.acts {held : Bool} (h : w.Passes texts cs st held log st') :
    ∀ m ∈ log, ∃ c ∈ cs, Concerns texts c m := by
  have hmore : ∀ {log : List Moment} {c : Located} {rest : List Located},
      (∀ m ∈ log, ∃ c ∈ rest, Concerns texts c m) → ∀ m ∈ log, ∃ c' ∈ c :: rest, Concerns texts c' m := by
    intro log c rest h m hm
    obtain ⟨c', hc', hact⟩ := h m hm
    exact ⟨c', .tail _ hc', hact⟩
  induction h with
  | nil => exact List.forall_mem_nil _
  | skipped _ _ ih => exact List.forall_mem_cons.2 ⟨⟨_, .head _, .inl rfl⟩, hmore ih⟩
  | held _ _ hbodies _ ih =>
    refine List.forall_mem_cons.2 ⟨⟨_, .head _, .inl rfl⟩, List.forall_mem_append.2 ⟨?_, hmore ih⟩⟩
    exact fun m hm => ⟨_, .head _, .inr (hbodies.acts m hm)⟩

theorem Ends.acts (h : w.Ends texts c st log out) : ∀ m ∈ log, Concerns texts c m := by
  cases h with
  | test _ => exact List.forall_mem_singleton.2 (.inl rfl)
  | body _ hbodies =>
    exact List.forall_mem_cons.2 ⟨.inl rfl, fun m hm => .inr (hbodies.acts m hm)⟩
  | held _ _ hbodies =>
    exact List.forall_mem_cons.2 ⟨.inl rfl, fun m hm => .inr (hbodies.acts m hm)⟩

/-- Cases of which none holds are all tested in one state. -/
theorem passes_false_iff : w.Passes texts cs st false log st' ↔
    (∀ c ∈ cs, w.Verdict texts st.registries c (.ok 0)) ∧
      log = cs.map (fun c => w.own (.hits texts c) st) ∧ st' = st := by
  constructor
  · intro h
    generalize hheld : false = held at h
    induction h with
    | nil => exact ⟨List.forall_mem_nil _, rfl, rfl⟩
    | skipped hverdict _ ih =>
      obtain ⟨hall, rfl, rfl⟩ := ih hheld
      exact ⟨List.forall_mem_cons.2 ⟨hverdict, hall⟩, rfl, rfl⟩
    | held => cases hheld
  · rintro ⟨hall, rfl, rfl⟩
    induction cs with
    | nil => exact .nil
    | cons c rest ih =>
      obtain ⟨hverdict, hrest⟩ := List.forall_mem_cons.1 hall
      exact .skipped hverdict (ih hrest)

theorem ne_of_mem {d : Located} (hc : c ∈ w.cases) (hd : d ∈ w.defaults) : c ≠ d := by
  rintro rfl
  have hbranch : c.node.tag = .branch := of_decide_eq_true (List.mem_filter.1 hc).2
  have hfallback : c.node.tag = .fallback := of_decide_eq_true (List.mem_filter.1 hd).2
  rw [hbranch] at hfallback
  cases hfallback

theorem Concerns.ne_enter {d : Located} {m : Moment} (h : Concerns texts c m) (hne : c ≠ d) :
    m.act ≠ .enter d := by
  intro hact
  rcases h with h | h
  · cases h.symm.trans hact
  · cases h.symm.trans hact
    exact hne rfl

/-- After the candidates come the cases, and then the defaults where no case holds. -/
theorem Runs.acts (h : w.Runs st log out) :
    ∃ later, log = w.own .candidates st :: later ∧ ∀ m ∈ later,
      (∃ texts, ∃ c ∈ w.cases, Concerns texts c m) ∨
      (∃ d, m.act = .enter d ∧ w.defaults = [d] ∧ w.NoneHolds st) ∨ m.act = .severalDefaults := by
  have hpasses : ∀ {texts : List String} {cs : List Located} {st' : RunState} {held : Bool}
      {log : List Moment}, w.Passes texts cs st held log st' → (∀ c ∈ cs, c ∈ w.cases) → ∀ m ∈ log,
      (∃ texts, ∃ c ∈ w.cases, Concerns texts c m) ∨
      (∃ d, m.act = .enter d ∧ w.defaults = [d] ∧ w.NoneHolds st) ∨ m.act = .severalDefaults := by
    intro texts cs st' held log h hcs m hm
    obtain ⟨c, hc, hconcerns⟩ := h.acts m hm
    exact .inl ⟨texts, c, hcs c hc, hconcerns⟩
  cases h with
  | noTexts _ => exact ⟨[], rfl, List.forall_mem_nil _⟩
  | ended _ heq h h' =>
    refine ⟨_, rfl, List.forall_mem_append.2 ⟨?_, fun m hm => .inl ⟨_, _, ?_, h'.acts m hm⟩⟩⟩
    · exact hpasses h fun c hc => heq ▸ List.mem_append_left _ hc
    · exact heq ▸ List.mem_append_right _ (.head _)
  | passed _ h => exact ⟨_, rfl, hpasses h fun _ hc => hc⟩
  | default hoffers h hdefaults =>
    refine ⟨_, rfl, List.forall_mem_append.2 ⟨hpasses h fun _ hc => hc, ?_⟩⟩
    have hnone : w.NoneHolds st := ⟨_, hoffers, (passes_false_iff.1 h).1⟩
    exact List.forall_mem_singleton.2 (.inr (.inl ⟨_, rfl, hdefaults, hnone⟩))
  | noDefault _ h _ => exact ⟨_, rfl, hpasses h fun _ hc => hc⟩
  | severalDefaults _ h _ =>
    refine ⟨_, rfl, List.forall_mem_append.2 ⟨hpasses h fun _ hc => hc, ?_⟩⟩
    exact List.forall_mem_singleton.2 (.inr (.inr rfl))

/-- The candidates come first, and once. -/
theorem Runs.candidates (h : w.Runs st log out) :
    ∃ later, log = w.own .candidates st :: later ∧ ∀ m ∈ later, m.act ≠ .candidates := by
  obtain ⟨later, rfl, hlater⟩ := h.acts
  refine ⟨later, rfl, fun m hm hact => ?_⟩
  rcases hlater m hm with ⟨texts, c, -, h | h⟩ | ⟨d, h, -⟩ | h <;> cases h.symm.trans hact

/-- A default is carried out only where it is the only one and no case holds. -/
theorem Runs.default_of_carriesOut {d : Located} (hd : d ∈ w.defaults) (h : w.Runs st log out)
    (hcarries : CarriesOut log d) : w.defaults = [d] ∧ w.NoneHolds st := by
  obtain ⟨later, rfl, hlater⟩ := h.acts
  obtain ⟨m, hm, hact⟩ := hcarries
  rcases List.mem_cons.1 hm with rfl | hm
  · cases hact
  rcases hlater m hm with ⟨texts, c, hc, hconcerns⟩ | ⟨d', h, hdefaults⟩ | h
  · exact (hconcerns.ne_enter (ne_of_mem hc hd) hact).elim
  · cases h.symm.trans hact
    exact hdefaults
  · cases h.symm.trans hact

/-- What a switch does on its own up to the defaults, where no case holds. -/
def untaken (w : Switching) (texts : List String) (st : RunState) : List Moment :=
  w.own .candidates st :: w.cases.map fun c => w.own (.hits texts c) st

theorem not_carriesOut_untaken : ¬ CarriesOut (w.untaken texts st) c := by
  rintro ⟨m, hm, hact⟩
  rcases List.mem_cons.1 hm with rfl | hm
  · cases hact
  · obtain ⟨c', -, rfl⟩ := List.mem_map.1 hm
    cases hact

theorem carriesOut_append {log' : List Moment} :
    CarriesOut (log ++ log') c ↔ CarriesOut log c ∨ CarriesOut log' c := by
  simp only [CarriesOut, List.mem_append, or_and_right, exists_or]

/-- Where no case holds, the only default is carried out. -/
theorem NoneHolds.runs_default {d : Located} (h : w.NoneHolds st) (hd : w.defaults = [d]) :
    ∃ texts, w.Runs st (w.untaken texts st ++ [w.own (.enter d) st]) (w.bodyOf d st) := by
  obtain ⟨texts, hoffers, hall⟩ := h
  exact ⟨texts, .default hoffers (passes_false_iff.2 ⟨hall, rfl, rfl⟩) hd⟩

/-- Where no case holds, several defaults are an error. -/
theorem NoneHolds.runs_severalDefaults (h : w.NoneHolds st) (hlength : 1 < w.defaults.length) :
    ∃ texts, w.Runs st (w.untaken texts st ++ [w.own .severalDefaults st])
      (.error (.config (.severalDefaults w.switch.node.name)), st) := by
  obtain ⟨texts, hoffers, hall⟩ := h
  rcases hdefaults : w.defaults with _ | ⟨d, _ | ⟨d', more⟩⟩
  · simp [hdefaults] at hlength
  · simp [hdefaults] at hlength
  · exact ⟨texts, .severalDefaults hoffers (passes_false_iff.2 ⟨hall, rfl, rfl⟩) hdefaults⟩

end Switching

end Triplify.Mapping
