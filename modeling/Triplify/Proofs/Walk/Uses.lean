import Triplify.Proofs.Walk.Placed
/-!
# Uses of named mappings

`Config.validate` looks at the uses of named mappings without a document. It comes to every node of
the configuration, and a run carries out no others, however it gets to them.

`validate_sound_and_complete`: where it finds nothing, no run comes to a use that it cannot follow.
Where it finds something, there is such a use.
-/

namespace Triplify.Mapping

/-! ## What the check comes to -/

/-- The check of one use: it has a name, and there is a named mapping of that name. -/
def Config.checkUse (c : Config) (n : Node) : Except MappingError Unit := do
  let used ← n.require "name"
  if (c.namedMapping? used).isNone then .error (.missingNamedMapping used)

theorem Config.checkUse_ok {c : Config} {n : Node} : c.checkUse n = .ok () ↔
    ∃ name target, n.get? "name" = some name ∧ c.namedMapping? name = some target := by
  rw [checkUse, Node.require]
  cases n.get? "name" with
  | none => simp [bind, Except.bind]
  | some name => cases h : c.namedMapping? name <;> simp [bind, Except.bind, h, pure, Except.pure]

theorem Config.checkUse_error {c : Config} {n : Node} {e : MappingError}
    (h : c.checkUse n = .error e) :
    (n.get? "name" = none ∧ e = .missingAttribute "name" n.source) ∨
      ∃ name, n.get? "name" = some name ∧ c.namedMapping? name = none ∧
        e = .missingNamedMapping name := by
  rw [checkUse] at h
  cases hname : n.get? "name" with
  | none =>
    rw [Node.require_of_none hname] at h
    cases h
    exact .inl ⟨rfl, rfl⟩
  | some name =>
    rw [Node.require_of_some hname] at h
    cases hfound : c.namedMapping? name with
    | none =>
      simp only [bind, Except.bind, hfound] at h
      cases h
      exact .inr ⟨name, rfl, hfound, rfl⟩
    | some target => simp [bind, Except.bind, hfound, pure, Except.pure] at h

theorem Config.checkUses_eq (c : Config) (n : Node) : c.checkUses n =
    (do (if n.tag = .useNamedMapping then c.checkUse n else .ok ()); c.checkAllUses n.children) := by
  obtain ⟨tag, name, attributes, children, source⟩ := n
  rw [checkUses, Node.tag, Node.children]
  by_cases htag : tag = .useNamedMapping
  · rw [if_pos htag, if_pos htag, checkUse]
    cases (Node.mk tag name attributes children source).require "name" with
    | error e => rfl
    | ok used =>
      simp only [bind, Except.bind]
      split <;> rfl
  · rw [if_neg htag, if_neg htag]
    rfl

/-- The node at a place below some nodes. -/
def atAny? (ns : List Node) : Place → Option Node
  | [] => none
  | i :: rest => ns[i]?.bind (·.at? rest)

/-- The result of a check of the nodes at some places: all uses pass, or one of them fails so. -/
structure Checked (c : Config) (nodes : Place → Option Node) (r : Except MappingError Unit) :
    Prop where
  ok : r = .ok () → ∀ p n, nodes p = some n → n.tag = .useNamedMapping → c.checkUse n = .ok ()
  error : ∀ e, r = .error e →
    ∃ p n, nodes p = some n ∧ n.tag = .useNamedMapping ∧ c.checkUse n = .error e

namespace Checked

variable {c : Config}

/-- One check after the other comes to the nodes of both. -/
theorem seq {nodes first second : Place → Option Node} {r r' : Except MappingError Unit}
    (h : Checked c first r) (h' : Checked c second r')
    (hnodes : ∀ n, (∃ p, nodes p = some n) ↔ (∃ p, first p = some n) ∨ ∃ p, second p = some n) :
    Checked c nodes (do r; r') where
  ok hr p n hn htag := by
    cases r with
    | error e => cases hr
    | ok _ =>
      rcases (hnodes n).1 ⟨p, hn⟩ with ⟨q, hq⟩ | ⟨q, hq⟩
      · exact h.ok rfl q n hq htag
      · exact h'.ok hr q n hq htag
  error e hr := by
    have hfound : ∃ n, ((∃ p, first p = some n) ∨ ∃ p, second p = some n) ∧
        n.tag = .useNamedMapping ∧ c.checkUse n = .error e := by
      cases r with
      | error e' =>
        obtain ⟨p, n, hn, hbad⟩ := h.error e hr
        exact ⟨n, .inl ⟨p, hn⟩, hbad⟩
      | ok _ =>
        obtain ⟨p, n, hn, hbad⟩ := h'.error e hr
        exact ⟨n, .inr ⟨p, hn⟩, hbad⟩
    obtain ⟨n, hn, hbad⟩ := hfound
    obtain ⟨p, hp⟩ := (hnodes n).2 hn
    exact ⟨p, n, hp, hbad⟩

theorem alone (n : Node) : Checked c (fun _ => some n)
    (if n.tag = .useNamedMapping then c.checkUse n else .ok ()) where
  ok hr p m hm htag := by
    cases hm
    rwa [if_pos htag] at hr
  error e hr := by
    split at hr
    · next htag => exact ⟨[], n, rfl, htag, hr⟩
    · cases hr

end Checked

mutual

theorem checkUses_checked (c : Config) : ∀ n : Node, Checked c n.at? (c.checkUses n)
  | .mk tag name attributes children source => by
    have hown := Checked.alone (c := c) (.mk tag name attributes children source)
    rw [Config.checkUses_eq]
    refine hown.seq (checkAllUses_checked c children) fun n => ?_
    constructor
    · rintro ⟨_ | ⟨i, p⟩, hp⟩
      · exact .inl ⟨[], hp⟩
      · exact .inr ⟨i :: p, hp⟩
    · rintro (⟨p, hp⟩ | ⟨_ | ⟨i, p⟩, hp⟩)
      · exact ⟨[], hp⟩
      · cases hp
      · exact ⟨i :: p, hp⟩

theorem checkAllUses_checked (c : Config) : ∀ ns : List Node, Checked c (atAny? ns) (c.checkAllUses ns)
  | [] => by
    rw [Config.checkAllUses]
    refine ⟨fun _ p n hn _ => ?_, nofun⟩
    cases p <;> simp [atAny?] at hn
  | n :: rest => by
    rw [Config.checkAllUses]
    refine (checkUses_checked c n).seq (checkAllUses_checked c rest) fun m => ?_
    constructor
    · rintro ⟨_ | ⟨_ | i, p⟩, hp⟩
      · cases hp
      · exact .inl ⟨p, by simpa [atAny?] using hp⟩
      · exact .inr ⟨i :: p, by simpa [atAny?] using hp⟩
    · rintro (⟨p, hp⟩ | ⟨_ | ⟨i, p⟩, hp⟩)
      · exact ⟨0 :: p, by simpa [atAny?] using hp⟩
      · cases hp
      · exact ⟨(i + 1) :: p, by simpa [atAny?] using hp⟩

end

/-! ## The check as a whole -/

theorem SplitKind.ofText_error {text : String} {e : MappingError}
    (h : SplitKind.ofText text = .error e) : ∃ f, e = .split f := by
  unfold SplitKind.ofText at h
  split at h <;> cases h
  exact ⟨_, rfl⟩

theorem SplitSettings.ofNode_error {n : Node} {e : MappingError}
    (h : SplitSettings.ofNode n = .error e) : ∃ f, e = .split f := by
  unfold SplitSettings.ofNode at h
  split at h
  · next kind size _ _ =>
    cases hkind : SplitKind.ofText kind with
    | error e' =>
      rw [hkind] at h
      cases h
      exact SplitKind.ofText_error hkind
    | ok k =>
      simp only [hkind, bind, Except.bind] at h
      unfold SplitSettings.sizeOf at h
      split at h
      · next hsize => 
        split at hsize <;> cases hsize
        cases h
        exact ⟨_, rfl⟩
      · cases h
  · cases h
    exact ⟨_, rfl⟩

namespace Config

variable {c : Config}

/-- A use of a named mapping, somewhere below the root. -/
def Uses (c : Config) (n : Node) : Prop :=
  ∃ p, p ≠ [] ∧ c.root.at? p = some n ∧ n.tag = .useNamedMapping

theorem uses_iff {n : Node} :
    c.Uses n ↔ ∃ p, atAny? c.root.children p = some n ∧ n.tag = .useNamedMapping := by
  constructor
  · rintro ⟨_ | ⟨i, p⟩, hne, hp, htag⟩
    · exact (hne rfl).elim
    · exact ⟨i :: p, hp, htag⟩
  · rintro ⟨_ | ⟨i, p⟩, hp, htag⟩
    · cases hp
    · exact ⟨i :: p, nofun, hp, htag⟩

/-- The split settings are read if there is a node for them. -/
def checkSplit (c : Config) : Except MappingError Unit :=
  if (c.root.childrenWith .split).isEmpty then .ok () else c.splitSettings.map fun _ => ()

theorem validate_eq (c : Config) :
    c.validate = (do c.checkSplit; c.checkAllUses c.root.children) := by
  rw [validate, checkSplit]
  cases (c.root.childrenWith .split).isEmpty with
  | true => rfl
  | false => cases c.splitSettings <;> rfl

theorem checkSplit_error {e : MappingError} (h : c.checkSplit = .error e) : ∃ f, e = .split f := by
  rw [checkSplit] at h
  split at h
  · cases h
  · cases hsettings : c.splitSettings with
    | ok settings =>
      rw [hsettings] at h
      cases h
    | error e' =>
      rw [hsettings] at h
      cases h
      rw [splitSettings] at hsettings
      split at hsettings
      · cases hsettings
        exact ⟨_, rfl⟩
      · exact SplitSettings.ofNode_error hsettings

theorem checkSplit_ok : c.checkSplit = .ok () ↔
    (c.root.childrenWith .split).isEmpty ∨ ∃ settings, c.splitSettings = .ok settings := by
  rw [checkSplit]
  cases (c.root.childrenWith .split).isEmpty with
  | true => simp
  | false => cases c.splitSettings <;> simp [Except.map]

theorem validate_ok_iff : c.validate = .ok () ↔
    c.checkSplit = .ok () ∧ ∀ n, c.Uses n → c.checkUse n = .ok () := by
  have hchecked := checkAllUses_checked c c.root.children
  rw [validate_eq]
  cases hsplit : c.checkSplit with
  | error e => exact ⟨nofun, fun h => nomatch h.1⟩
  | ok _ =>
    constructor
    · intro h
      refine ⟨rfl, fun n hn => ?_⟩
      obtain ⟨p, hp, htag⟩ := uses_iff.1 hn
      exact hchecked.ok h p n hp htag
    · rintro ⟨-, h⟩
      cases hr : c.checkAllUses c.root.children with
      | ok _ => rfl
      | error e =>
        obtain ⟨p, n, hp, htag, hbad⟩ := hchecked.error e hr
        rw [h n (uses_iff.2 ⟨p, hp, htag⟩)] at hbad
        cases hbad

theorem validate_error {e : MappingError} (h : c.validate = .error e) :
    (∃ f, e = .split f) ∨ ∃ n, c.Uses n ∧ c.checkUse n = .error e := by
  rw [validate_eq] at h
  cases hsplit : c.checkSplit with
  | error e' =>
    rw [hsplit] at h
    cases h
    exact .inl (checkSplit_error hsplit)
  | ok _ =>
    rw [hsplit] at h
    obtain ⟨p, n, hp, htag, hbad⟩ := (checkAllUses_checked c c.root.children).error e h
    exact .inr ⟨n, uses_iff.2 ⟨p, hp, htag⟩, hbad⟩

end Config

/-! ## What a run comes to -/

/-- Only a use of a named mapping fails for want of one. -/
theorem Setting.Admits.ne_missingNamedMapping {s : Setting} {l : Located} {a : Act}
    (hadmits : s.Admits l a) (ha : a ≠ .target) {data : XPath.NodeRef} {st : RunState}
    {e : MappingError} (h : ((a.run s l data).exec st).1 = .error e) (name : String) :
    e ≠ .missingNamedMapping name := by
  rintro rfl
  obtain hfault | ⟨message, heq⟩ | ⟨handle, heq⟩ := Act.fails hadmits.fits h
  · cases hfault with
    | plain hplain => cases hplain
    | missing => exact ha rfl
  · cases heq
  · cases heq

/-- Where every use passes the check, no use fails. -/
theorem Config.target_ne_error {s : Setting} {n : Node} (h : s.config.checkUse n = .ok ())
    (e : MappingError) : s.target n ≠ .error e := by
  obtain ⟨name, target, hname, hfound⟩ := Config.checkUse_ok.1 h
  rw [(Image.self s).namedMapping?_eq] at hfound
  obtain ⟨found, hs, -⟩ := Option.map_eq_some_iff.1 hfound
  have hnamed : s.named name = .ok found := by rw [Setting.named, hs]
  rw [Setting.target, Node.require_of_some hname]
  show s.named name ≠ .error e
  rw [hnamed]
  intro h
  cases h

/-- What a use of a named mapping fails with when it cannot be followed. -/
def Lost (l : Located) (e : MappingError) : Prop :=
  (∃ name, e = .missingNamedMapping name) ∨
    l.node.tag = .useNamedMapping ∧ ∃ key source, e = .missingAttribute key source

theorem act_not_lost {s : Setting} (hvalid : ∀ n, s.config.Uses n → s.config.checkUse n = .ok ())
    {l : Located} {a : Act} (hadmits : s.Admits l a) {data : XPath.NodeRef} {st : RunState}
    {e : MappingError} (h : ((a.run s l data).exec st).1 = .error e) : ¬ Lost l e := by
  have hne : a ≠ .target := by
    rintro rfl
    have huses : s.config.Uses l.node := ⟨l.place, hadmits.below, hadmits.stands, hadmits.fits⟩
    rw [Act.run, Run.exec_ofExcept] at h
    exact Config.target_ne_error (hvalid l.node huses) e h
  rintro (⟨name, rfl⟩ | ⟨htag, key, source, rfl⟩)
  · exact hadmits.ne_missingNamedMapping hne h name rfl
  · have hfits := hadmits.fits
    rw [htag] at hfits
    cases a with
    | target => exact hne rfl
    | enter body => cases h
    | tooDeep name => cases h
    | opens o => cases o <;> cases hfits
    | misplaced => rcases hfits with hfits | hfits <;> cases hfits
    | _ => cases hfits

/-- The check of the uses of named mappings is sound and complete. If it passes, then no run reports a
named mapping that is missing, or a use of one without a name: whatever the transforms and the input
are, no node fails so, however the run gets to it, and the recorded errors are those of the nodes that
failed. If it fails for one of these, then the configuration has such a use. It passes just if the
split settings can be read and each use has the name of a named mapping that there is. -/
theorem validate_sound_and_complete (c : Config) :
    (c.validate = .ok () → ∀ (transforms : TransformRegistry) (paths : XPath.Environment)
      (g : Graph) (taken : Nat),
        let s : Setting := ⟨c, transforms, paths⟩
        (∀ f ∈ (trace s g taken).filterMap Event.failure?, ¬ Lost f.1 f.2) ∧
        (runConfig s g taken).2.diagnostics.errors =
          ((trace s g taken).filterMap Event.recovered?).map reportOf) ∧
    (∀ name, c.validate = .error (.missingNamedMapping name) →
      ∃ n, c.Uses n ∧ n.get? "name" = some name ∧ c.namedMapping? name = none) ∧
    (∀ key source, c.validate = .error (.missingAttribute key source) →
      ∃ n, c.Uses n ∧ n.get? "name" = none ∧ key = "name" ∧ source = n.source) ∧
    (c.validate = .ok () ↔
      ((c.root.childrenWith .split).isEmpty ∨ ∃ settings, c.splitSettings = .ok settings) ∧
      ∀ n, c.Uses n →
        ∃ name target, n.get? "name" = some name ∧ c.namedMapping? name = some target) := by
  refine ⟨fun hvalid transforms paths g taken => ?_, fun name h => ?_, fun key source h => ?_, ?_⟩
  · have huses := (Config.validate_ok_iff.1 hvalid).2
    refine ⟨fun f hf => ?_, ?_⟩
    · refine failures_of_acts (E := fun l e => ¬ Lost l e) (fun l e he => ?_)
        (fun l a data st e hadmits h => act_not_lost huses hadmits h) g taken hf
      -- What ends a run is no such error.
      rintro (⟨name, rfl⟩ | ⟨-, key, source, rfl⟩) <;> cases he
    · exact (runConfig_accounts ⟨c, transforms, paths⟩ g taken).errors.trans (List.nil_append _)
  · rcases Config.validate_error h with ⟨_, hsplit⟩ | ⟨n, hn, hbad⟩
    · cases hsplit
    · rcases Config.checkUse_error hbad with ⟨-, he⟩ | ⟨used, hname, hnone, he⟩
      · cases he
      · cases he
        exact ⟨n, hn, hname, hnone⟩
  · rcases Config.validate_error h with ⟨_, hsplit⟩ | ⟨n, hn, hbad⟩
    · cases hsplit
    · rcases Config.checkUse_error hbad with ⟨hnone, he⟩ | ⟨used, -, -, he⟩
      · cases he
        exact ⟨n, hn, hnone, rfl, rfl⟩
      · cases he
  · rw [Config.validate_ok_iff, Config.checkSplit_ok]
    simp only [Config.checkUse_ok]

end Triplify.Mapping
