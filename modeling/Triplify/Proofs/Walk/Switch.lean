import Triplify.Proofs.Walk.Cases
import Triplify.Proofs.Walk.Exit
import Triplify.Proofs.Walk.Otherwise
/-!
# What a switch does

`switch_follows_its_reference`: the interpreter carries out a switch as the reference says.
-/

namespace Triplify.Mapping

/-! ## Scripts from outside -/

/-- A script is played: what it does outside of the bodies, and what it comes to. -/
structure Shows (s : Setting) (f : Frame) (l : Located) {α : Type} (x : Script α) (st : RunState)
    (log : List Moment) (out : Except MappingError α × RunState) : Prop where
  acts : (x.moments s f l st).filter (·.depth = f.depth) = log
  result : (x.watch s l st).result = out.1
  state : (x.watch s l st).state = out.2

namespace Shows

variable {s : Setting} {f : Frame} {l : Located} {α β : Type} {x : Script α} {st st' : RunState}
  {log log' : List Moment}

theorem done (a : α) : Shows s f l (.done a) st [] (.ok a, st) := ⟨rfl, rfl, rfl⟩

theorem unique {out out' : Except MappingError α × RunState} (h : Shows s f l x st log out)
    (h' : Shows s f l x st log' out') : log = log' ∧ out = out' :=
  ⟨h.acts.symm.trans h'.acts,
    Prod.ext (h.result.symm.trans h'.result) (h.state.symm.trans h'.state)⟩

theorem bind {a : α} {k : α → Script β} {out : Except MappingError β × RunState}
    (h : Shows s f l x st log (.ok a, st')) (hk : Shows s f l (k a) st' log' out) :
    Shows s f l (x >>= k) st (log ++ log') out := by
  have hwatch : (x >>= k).watch s l st = _ :=
    (congrFun (Script.watch_bind x k) st).trans (Watch.bind_ok h.result _)
  refine ⟨?_, ?_, ?_⟩
  · rw [Script.moments_bind, Watched.andThen, h.result, List.filter_append, h.acts]
    dsimp only
    rw [h.state, hk.acts]
  · rw [hwatch, h.state]
    exact hk.result
  · rw [hwatch, h.state]
    exact hk.state

theorem bind_error {e : MappingError} (h : Shows s f l x st log (.error e, st'))
    (k : α → Script β) : Shows s f l (x >>= k) st log (.error e, st') := by
  have hwatch : (x >>= k).watch s l st = _ :=
    (congrFun (Script.watch_bind x k) st).trans (Watch.bind_error h.result _)
  refine ⟨?_, ?_, ?_⟩
  · rw [Script.moments_bind, Watched.andThen, h.result]
    exact (congrArg (List.filter _) (List.append_nil _)).trans h.acts
  · rw [hwatch]
  · rw [hwatch]
    exact h.state

variable {data : XPath.NodeRef}

theorem own {a : Act} {answer : a.Answer} {next : a.Answer → Script α}
    {out : Except MappingError α × RunState} (h : (a.run s l data).exec st = (.ok answer, st'))
    (hnext : Shows s f l (next answer) st' log out) :
    Shows s f l (.own a data next) st (⟨f, l, a, data, st⟩ :: log) out := by
  have hresult : (Watch.own l (a.run s l data) st).result = .ok answer := congrArg Prod.fst h
  have hstate : (Watch.own l (a.run s l data) st).state = st' := congrArg Prod.snd h
  have hwatch : (Script.own a data next).watch s l st = _ := Watch.bind_ok hresult _
  refine ⟨?_, ?_, ?_⟩
  · rw [Script.moments, Watched.andThen, hresult, hstate, List.filter_cons_of_pos (by simp)]
    exact congrArg _ hnext.acts
  · rw [hwatch, hstate]
    exact hnext.result
  · rw [hwatch, hstate]
    exact hnext.state

theorem own_error {a : Act} {next : a.Answer → Script α} {e : MappingError}
    (h : (a.run s l data).exec st = (.error e, st')) :
    Shows s f l (.own a data next) st [⟨f, l, a, data, st⟩] (.error e, st') := by
  have hresult : (Watch.own l (a.run s l data) st).result = .error e := congrArg Prod.fst h
  have hstate : (Watch.own l (a.run s l data) st).state = st' := congrArg Prod.snd h
  have hwatch : (Script.own a data next).watch s l st = _ := Watch.bind_error hresult _
  refine ⟨?_, ?_, ?_⟩
  · rw [Script.moments, Watched.andThen, hresult]
    exact List.filter_cons_of_pos (by simp)
  · rw [hwatch]
  · rw [hwatch]
    exact hstate

/-- A body shows as one act: what is done inside of it is deeper. -/
theorem body (levels : Nat) {c : Located} (hc : c.StandsIn s.config.root) (st : RunState) :
    Shows s f l ((scriptChildren levels).at c data) st [⟨f, l, .enter c, data, st⟩]
      ((runChildren s levels c.node data).exec st) := by
  have hwatch : ((scriptChildren levels).at c data).watch s l = walkChildren s levels l c data := by
    rw [watch_at, walkChildren_eq]
  obtain ⟨hresult, hstate⟩ :=
    (Erases.relation s).children levels l c data rfl rfl hc st
  -- The moments inside of the body are at least one deeper, so that none of them is left.
  have hinside : ∀ m ∈ (scriptChildren levels c data).moments s f.deeper l st,
      ¬ decide (m.depth = f.depth) = true := by
    intro m hm
    have hle : f.depth + 1 ≤ m.depth := Script.depth_le hm
    simp only [decide_eq_true_eq]
    omega
  refine ⟨?_, by rw [hwatch]; exact hresult, by rw [hwatch]; exact hstate⟩
  rw [ScriptBody.at, Script.moments, List.filter_cons_of_pos (by simp), List.filter_append,
    List.filter_eq_nil_iff.2 hinside, Watched.andThen]
  cases (Script.watch s l (scriptChildren levels c data) st).result <;> rfl

end Shows

/-! ## The interpreter and the reference -/

namespace Switching

/-- What a script of the switch does outside of the bodies, and what it comes to. -/
abbrev Shows (w : Switching) {α : Type} (x : Script α) (st : RunState) (log : List Moment)
    (out : Except MappingError α × RunState) : Prop :=
  Mapping.Shows w.setting w.frame w.switch x st log out

variable {w : Switching} {texts : List String} {st st' : RunState} {log : List Moment}
  {out : Except MappingError Unit × RunState} {c : Located} {cs : List Located}

theorem shows_body (hc : c.StandsIn w.setting.config.root) (h : w.bodyOf c st = out) :
    w.Shows ((scriptChildren w.levels).at c w.data) st [w.own (.enter c) st] out :=
  h ▸ .body w.levels hc st

theorem Repeats.shows {n : Nat} (hc : c.StandsIn w.setting.config.root)
    (h : w.Repeats c n st log out) :
    w.Shows (scriptRepeated ((scriptChildren w.levels).at c w.data) n) st log out := by
  induction h with
  | done => exact .done ()
  | again hbody _ ih => exact (shows_body hc hbody).bind ih
  | failed hbody => exact (shows_body hc hbody).bind_error _

/-- The interpreter goes on after the cases that the switch goes on after. -/
theorem Passes.shows {held : Bool} (hcs : ∀ c ∈ cs, c.StandsIn w.setting.config.root)
    (h : w.Passes texts cs st held log st') {matched : Bool} {more : List Located}
    {log' : List Moment} {out : Except MappingError Bool × RunState}
    (hmore : w.Shows (scriptBranches (scriptChildren w.levels) texts w.data (matched || held) more)
      st' log' out) :
    w.Shows (scriptBranches (scriptChildren w.levels) texts w.data matched (cs ++ more)) st
      (log ++ log') out := by
  induction h generalizing matched with
  | nil =>
    rw [Bool.or_false] at hmore
    exact hmore
  | skipped hverdict _ ih =>
    exact .own hverdict.exec (ih (fun c hc => hcs c (.tail _ hc)) hmore)
  | @held c rest n st st₁ st' held bodies log hverdict hbreak hbodies _ ih =>
    have hlater : w.Shows (scriptBranches (scriptChildren w.levels) texts w.data true (rest ++ more))
        st₁ (log ++ log') out :=
      ih (fun c hc => hcs c (.tail _ hc)) (by rwa [Bool.or_true] at hmore)
    rw [List.cons_append, List.cons_append, List.append_assoc]
    refine .own hverdict.exec ((hbodies.shows (hcs c (.head _))).bind ?_)
    rw [if_neg (Nat.succ_ne_zero n), if_pos hbreak]
    exact hlater

/-- The interpreter ends with the case that the switch ends with. -/
theorem Ends.shows (hc : c.StandsIn w.setting.config.root) (h : w.Ends texts c st log out)
    (matched : Bool) (rest : List Located) :
    w.Shows (scriptBranches (scriptChildren w.levels) texts w.data matched (c :: rest)) st log
      (out.1.map fun _ => true, out.2) := by
  cases h with
  | test hverdict => exact .own_error hverdict.exec
  | body hverdict hbodies =>
    exact .own hverdict.exec ((hbodies.shows hc).bind_error _)
  | @held n st' bodies hverdict hbreak hbodies =>
    rw [← List.append_nil bodies]
    refine .own hverdict.exec ((hbodies.shows hc).bind ?_)
    rw [if_neg (Nat.succ_ne_zero n), if_neg (by simp [hbreak])]
    exact .done true

/-- The interpreter does what the reference says. -/
theorem Runs.shows (hl : w.switch.StandsIn w.setting.config.root) (h : w.Runs st log out) :
    w.Shows (scriptSwitch (scriptChildren w.levels) w.switch w.data) st log out := by
  have hcases : ∀ c ∈ w.cases, c.StandsIn w.setting.config.root := fun c hc => hl.childWith hc
  have hall : ∀ {texts : List String} {held : Bool} {log : List Moment} {st' : RunState},
      w.Passes texts w.cases st held log st' →
      w.Shows (scriptBranches (scriptChildren w.levels) texts w.data false w.cases) st log
        (.ok held, st') := by
    intro texts held log st' hpasses
    have hdone : w.Shows (scriptBranches (scriptChildren w.levels) texts w.data (false || held) [])
        st' [] (.ok held, st') := by
      rw [Bool.false_or]
      exact .done held
    have h := hpasses.shows hcases hdone
    rwa [List.append_nil, List.append_nil] at h
  have hnone : ∀ {texts : List String} {log last : List Moment} {st' : RunState}
      {out : Except MappingError Unit × RunState}, w.Offers st.registries (.ok texts) →
      w.Passes texts w.cases st false log st' →
      w.Shows (scriptFallback (scriptChildren w.levels) w.data w.defaults) st' last out →
      w.Shows (scriptSwitch (scriptChildren w.levels) w.switch w.data) st
        (w.own .candidates st :: (log ++ last)) out :=
    fun hoffers hpasses hlast => .own hoffers.exec ((hall hpasses).bind hlast)
  cases h with
  | noTexts hoffers => exact .own_error hoffers.exec
  | @ended texts tried rest c held st' log last out hoffers heq hpasses hends =>
    rw [heq] at hcases
    have hbranches := hpasses.shows (fun c hc => hcases c (List.mem_append_left _ hc))
      (hends.shows (hcases c (List.mem_append_right _ (.head _))) (false || held) rest)
    rw [← heq] at hbranches
    refine .own hoffers.exec ?_
    rcases out with ⟨e | _, st''⟩
    · exact hbranches.bind_error _
    · rw [← List.append_nil (log ++ last)]
      exact hbranches.bind (.done ())
  | @passed texts st' log hoffers hpasses =>
    rw [← List.append_nil log]
    exact .own hoffers.exec ((hall hpasses).bind (.done ()))
  | @default texts st' log d hoffers hpasses hdefaults =>
    have hd : d ∈ w.defaults := by simp [hdefaults]
    refine hnone hoffers hpasses ?_
    rw [hdefaults]
    exact shows_body (hl.childWith hd) rfl
  | @noDefault texts st' log hoffers hpasses hdefaults =>
    rw [← List.append_nil log]
    refine hnone hoffers hpasses ?_
    rw [hdefaults]
    exact .done ()
  | severalDefaults hoffers hpasses hdefaults =>
    refine hnone hoffers hpasses ?_
    rw [hdefaults]
    exact .own_error rfl

/-- A body fails only with an error that ends the run, or because it nests too deep. -/
theorem bodyOf_error {e : MappingError} (hc : c.StandsIn w.setting.config.root)
    (h : (w.bodyOf c st).1 = .error e) : e.isFatal ∨
      (w.levels = 0 ∧ e = .processing (.tooDeep maxNesting c.node.name)) := by
  obtain ⟨hresult, -⟩ := (Erases.relation w.setting).children w.levels c c w.data rfl rfl hc st
  have hwalk : (walkChildren w.setting w.levels c c w.data st).result = .error e := hresult.trans h
  cases hlevels : w.levels with
  | zero =>
    rw [hlevels] at hwalk
    cases hwalk
    exact .inr ⟨rfl, rfl⟩
  | succ levels =>
    rw [hlevels] at hwalk
    exact .inl (walkEach_error hwalk)

section
variable (hl : w.switch.StandsIn w.setting.config.root) (h : w.Runs st log out)
include hl h

/-- The reference says one thing of a state. -/
theorem Runs.unique {log' : List Moment} {out' : Except MappingError Unit × RunState}
    (h' : w.Runs st log' out') : log = log' ∧ out = out' :=
  (h.shows hl).unique (h'.shows hl)

theorem Runs.log_of_default {d : Located} (hd : w.defaults = [d]) (hnone : w.NoneHolds st) :
    ∃ texts, log = w.untaken texts st ++ [w.own (.enter d) st] := by
  obtain ⟨texts, h'⟩ := hnone.runs_default hd
  exact ⟨texts, (h.unique hl h').1⟩

/-- A default is carried out just if it is the only one and no case holds. -/
theorem Runs.carriesOut_default_iff {d : Located} (hd : d ∈ w.defaults) :
    CarriesOut log d ↔ w.defaults = [d] ∧ w.NoneHolds st := by
  refine ⟨h.default_of_carriesOut hd, fun ⟨hdefaults, hnone⟩ => ?_⟩
  obtain ⟨texts, rfl⟩ := h.log_of_default hl hdefaults hnone
  exact carriesOut_append.2 (.inr ⟨_, .head _, rfl⟩)

/-- Of several defaults none is carried out, and nothing is changed. -/
theorem Runs.several_defaults (hnone : w.NoneHolds st) (hlength : 1 < w.defaults.length) :
    (∀ c, ¬ CarriesOut log c) ∧
      out = (.error (.config (.severalDefaults w.switch.node.name)), st) := by
  obtain ⟨texts, h'⟩ := hnone.runs_severalDefaults hlength
  obtain ⟨rfl, rfl⟩ := h.unique hl h'
  refine ⟨fun c hc => ?_, rfl⟩
  rcases carriesOut_append.1 hc with hc | ⟨m, hm, hact⟩
  · exact not_carriesOut_untaken hc
  · cases List.mem_singleton.1 hm
    cases hact

theorem Runs.not_both {d : Located} (hc : c ∈ w.cases) (hd : d ∈ w.defaults) :
    ¬ (CarriesOut log c ∧ CarriesOut log d) := by
  rintro ⟨hcase, hcarries⟩
  obtain ⟨hdefaults, hnone⟩ := h.default_of_carriesOut hd hcarries
  obtain ⟨texts, rfl⟩ := h.log_of_default hl hdefaults hnone
  rcases carriesOut_append.1 hcase with hcase | ⟨m, hm, hact⟩
  · exact not_carriesOut_untaken hcase
  · cases List.mem_singleton.1 hm
    exact ne_of_mem hc hd (Act.enter.inj hact).symm

end

/-- The moments and the outcome of the interpreter are those of the reference, and no others are. -/
theorem runs_iff (hl : w.switch.StandsIn w.setting.config.root) :
    w.Runs st log out ↔
      log = ((scriptSwitch (scriptChildren w.levels) w.switch w.data).moments
        w.setting w.frame w.switch st).filter (·.depth = w.frame.depth) ∧
      out = (runSwitch w.setting (runChildren w.setting w.levels) w.switch.node w.data).exec st := by
  obtain ⟨hresult, hstate⟩ :=
    (Erases.relation w.setting).switch ((Erases.relation w.setting).children w.levels) rfl hl w.data st
  rw [walkChildren_eq, ← watch_switch] at hresult hstate
  have hshows : w.Shows (scriptSwitch (scriptChildren w.levels) w.switch w.data) st _
      ((runSwitch w.setting (runChildren w.setting w.levels) w.switch.node w.data).exec st) :=
    ⟨rfl, hresult, hstate⟩
  refine ⟨fun h => (h.shows hl).unique hshows, ?_⟩
  rintro ⟨rfl, rfl⟩
  -- The reference says something of every state, and the interpreter does just that.
  obtain ⟨log, out, h⟩ := exists_runs w st
  obtain ⟨rfl, rfl⟩ := (h.shows hl).unique hshows
  exact h

end Switching

/-- A switch follows its reference. Let a `<switch>` be carried out in any state, so many levels deep.
What it does outside of the bodies of its cases, and what it comes to, is what the reference says, and
nothing else is. So the candidates are computed first, and once. A default is carried out just if it
is the only one and, in the state that the switch starts in, no case holds. Several defaults are an
error then, and no body is carried out. The bodies of a case and of a default are never both carried
out. And a body ends the switch only with an error that ends the run, or by nesting too deep. -/
theorem switch_follows_its_reference (s : Setting) (levels : Nat) {l : Located}
    (hl : l.StandsIn s.config.root) (htag : l.node.tag = .switch) (before : Option ConditionResult)
    (data : XPath.NodeRef) (f : Frame) (st : RunState) :
    let w : Switching := ⟨s, levels, l, data, f⟩
    let log := ((scriptNode (scriptChildren levels) before l data).moments s f l st).filter
      (·.depth = f.depth)
    let out := (runNode s (runChildren s levels) before l.node data).exec st
    (∀ log' out', w.Runs st log' out' ↔ log' = log ∧ out' = out) ∧
    (∃ later, log = w.own .candidates st :: later ∧ ∀ m ∈ later, m.act ≠ .candidates) ∧
    (∀ d ∈ w.defaults, Switching.CarriesOut log d ↔ w.defaults = [d] ∧ w.NoneHolds st) ∧
    (w.NoneHolds st → 1 < w.defaults.length → (∀ c, ¬ Switching.CarriesOut log c) ∧
      out = (.error (.config (.severalDefaults l.node.name)), st)) ∧
    (∀ c ∈ w.cases, ∀ d ∈ w.defaults,
      ¬ (Switching.CarriesOut log c ∧ Switching.CarriesOut log d)) ∧
    ∀ c ∈ w.cases ++ w.defaults, ∀ st e, (w.bodyOf c st).1 = .error e →
      e.isFatal ∨ (levels = 0 ∧ e = .processing (.tooDeep maxNesting c.node.name)) := by
  intro w log out
  have hiff : ∀ log' out', w.Runs st log' out' ↔ log' = log ∧ out' = out := by
    intro log' out'
    have hlog : log = ((scriptSwitch (scriptChildren levels) l data).moments s f l st).filter
        (·.depth = f.depth) := by
      simp only [log, scriptNode, htag]
    have hout : out = (runSwitch s (runChildren s levels) l.node data).exec st := by
      simp only [out, runNode, htag]
    rw [hlog, hout]
    exact Switching.runs_iff (w := w) hl
  have hruns : w.Runs st log out := (hiff log out).2 ⟨rfl, rfl⟩
  refine ⟨hiff, hruns.candidates, fun d hd => hruns.carriesOut_default_iff hl hd,
    hruns.several_defaults hl, fun c hc d hd => hruns.not_both hl hc hd, fun c hc st e he => ?_⟩
  refine Switching.bodyOf_error ?_ he
  rcases List.mem_append.1 hc with hc | hc
  · exact hl.childWith hc
  · exact hl.childWith hc

/-- A case that holds for each `A` and lets the switch go on. -/
def onEachA : Node := .mk .branch "case" [("value", "A"), ("break", "false")] [] "<case/>"

/-- A case that holds where there are child elements. -/
def onChildren : Node := .mk .branch "case" [("match", "*")] [] "<case/>"

/-- A case with neither a test nor a value. -/
def onNothing : Node := .mk .branch "case" [] [] "<case/>"

/-- A switch on the texts of the child elements. -/
def kindSwitch : Located where
  place := [0]
  node := .mk .switch "switch" [("match", "*")]
    [onEachA, onChildren, onNothing, .mk .fallback "default" [] [] "<default/>"] "<switch/>"

/-- The switch, for an element with two others in it, both with the text `A`. -/
def twoKinds : Setting where
  config := ⟨.mk .mapping "config" [] [kindSwitch.node] "<config/>", .standard, []⟩
  transforms := {}
  paths :=
    { document := ⟨#[
        ⟨.root, "", none, [1], [], 5, []⟩,
        ⟨.element ⟨none, "r", none⟩, "", some 0, [2, 4], [], 5, []⟩,
        ⟨.element ⟨none, "kind", none⟩, "", some 1, [3], [], 3, []⟩,
        ⟨.text, "A", some 2, [], [], 3, []⟩,
        ⟨.element ⟨none, "kind", none⟩, "", some 1, [5], [], 5, []⟩,
        ⟨.text, "A", some 4, [], [], 5, []⟩]⟩
      namespaces := [] }

/-- The first case is carried out twice and the second one once. The third one is not tested. -/
theorem twoKinds_switch :
    let w : Switching := ⟨twoKinds, 1, kindSwitch, .place 1, {}⟩
    let st := initial ⟨⟨.standard, none⟩, .turtle, #[], #[], #[]⟩ 0
    let first : Located := ⟨[0, 0], onEachA⟩
    let second : Located := ⟨[0, 1], onChildren⟩
    ((scriptNode (scriptChildren 1) none kindSwitch (.place 1)).moments twoKinds {} kindSwitch st).filter
        (·.depth = 0) =
      [w.own .candidates st, w.own (.hits ["A", "A"] first) st, w.own (.enter first) st,
        w.own (.enter first) st, w.own (.hits ["A", "A"] second) st, w.own (.enter second) st] ∧
    (runNode twoKinds (runChildren twoKinds 1) none kindSwitch.node (.place 1)).exec st =
      (.ok (), st) := by
  intro w st first second
  have hselection : w.selection st.registries "*" = .ok [.place 2, .place 4] := by
    have hkinds : (twoKinds.paths.document.along .child (.place 1)).filter
        (twoKinds.paths.document.passes twoKinds.paths.namespaces .child .everyName) =
          [.place 2, .place 4] := by decide +kernel
    have hselect := twoKinds.paths.select_star (.place 1)
    rw [hkinds, XPath.NodeRef.inOrder_pair rfl (by decide)] at hselect
    have htest : prepareMatch st.registries "*" = .ok "*" :=
      prepareMatch_of_notMem st.registries (by decide) rfl
    rw [Switching.selection, htest]
    exact hselect
  have htexts : ([.place 2, .place 4].map twoKinds.paths.document.stringValue) = ["A", "A"] := by
    decide +kernel
  have hoffers : w.Offers st.registries (.ok ["A", "A"]) :=
    htexts ▸ .selected rfl hselection
  have hbody : ∀ {c : Located}, c.node.children = [] → w.bodyOf c st = (.ok (), st) := by
    intro c hc
    rw [Switching.bodyOf, runChildren, hc]
    rfl
  have htwice : w.Verdict ["A", "A"] st.registries first (.ok 2) := by
    have hcount : ["A", "A"].count "A" = 2 := by decide
    exact hcount ▸ .equals rfl rfl
  have hpasses : w.Passes ["A", "A"] [first] st true
      [w.own (.hits ["A", "A"] first) st, w.own (.enter first) st, w.own (.enter first) st] st :=
    .held htwice rfl (.again (hbody rfl) (.again (hbody rfl) .done)) .nil
  have hends : w.Ends ["A", "A"] second st
      [w.own (.hits ["A", "A"] second) st, w.own (.enter second) st] (.ok (), st) :=
    .held (n := 0) (.selects rfl hselection (by simp)) rfl (.again (hbody rfl) .done)
  obtain ⟨hiff, -⟩ := switch_follows_its_reference twoKinds 1 (l := kindSwitch) rfl rfl none
    (.place 1) {} st
  obtain ⟨hlog, hout⟩ := (hiff _ _).1 (.ended hoffers rfl hpasses hends)
  exact ⟨hlog.symm, hout.symm⟩

end Triplify.Mapping
