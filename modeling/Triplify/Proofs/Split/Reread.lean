import Mathlib.Data.List.Chain
import Triplify.Proofs.Split.Scan
/-!
# Events read back

An event that was read from a text is read again from its own text, whatever follows, except that
text goes on up to the next bracket. So the events of a reading can be put together anew: written
down, they are read back as they are, as long as no two texts meet and the tags match.

`next?_readsBack`: what is read is read back. `read_renderAll`: events in a row are.
-/

namespace Triplify.Split.Event

/-! ## One event -/

theorem render_start (tag : List Char) : (start tag).render = '<' :: (tag ++ ['>']) := rfl

theorem render_empty (tag : List Char) : (empty tag).render = '<' :: (tag ++ ['/', '>']) := rfl

theorem render_close (name : List Char) :
    (close name).render = '<' :: '/' :: (name ++ ['>']) := rfl

theorem render_doctype (s : List Char) :
    (doctype s).render = '<' :: '!' :: ("DOCTYPE ".toList ++ (s ++ ['>'])) := rfl

theorem render_text (s : List Char) : (text s).render = s := rfl

/-- The event is a run of text. -/
def isText : Event → Bool
  | text _ => true
  | _ => false

/-- There is no text before the next bracket. -/
def StartsMarkup (s : List Char) : Prop := s.takeWhile (· ≠ '<') = []

/-- The event is read from its own text, whatever follows; what follows a text must not go on with
it. -/
def ReadsBack (e : Event) : Prop :=
  ∀ rest, (e.isText → StartsMarkup rest) → next? (e.render ++ rest) = some (e, rest)

theorem startsMarkup_render {e : Event} (h : e.isText = false) (rest : List Char) :
    StartsMarkup (e.render ++ rest) := by
  have hopen : ∃ more, e.render = '<' :: more := by
    cases e with
    | text => cases h
    | _ => exact ⟨_, rfl⟩
  obtain ⟨more, hmore⟩ := hopen
  simp [hmore, StartsMarkup]

theorem ReadsBack.render_ne_nil {e : Event} (h : e.ReadsBack) : e.render ≠ [] := by
  intro hnil
  have hread := h ['<'] fun _ => by simp [StartsMarkup]
  rw [hnil] at hread
  cases hread

/-! What stands after a bracket tells the kind of the markup. -/

theorem markup?_instruction {s : List Char} (h : s.head? ≠ some '>') :
    markup? ('?' :: s) = (Text.cut? "?>".toList s).map fun r => (instruction r.1, r.2) := by
  unfold markup?
  split <;> simp_all

theorem markup?_close (s : List Char) :
    markup? ('/' :: s) = (tagBody? none s).map fun r => (close (closingName r.1), r.2) := rfl

theorem markup?_tag {c : Char} (h : c ∉ ['!', '?', '/']) (s : List Char) :
    markup? (c :: s) = tag? (c :: s) := by
  simp only [List.mem_cons, List.not_mem_nil, or_false, not_or] at h
  unfold markup?
  split <;> simp_all

theorem eq_of_map (kind : List Char → Event) {found : Option (List Char × List Char)} {e : Event}
    {rest : List Char} (h : (found.map fun r => (kind r.1, r.2)) = some (e, rest)) :
    ∃ body, found = some (body, rest) ∧ e = kind body := by
  obtain ⟨⟨body, r⟩, hfound, heq⟩ := Option.map_eq_some_iff.1 h
  cases heq
  exact ⟨body, hfound, rfl⟩

/-- What holds of each kind of markup holds of the markup that is read. -/
theorem of_markup? {P : Event → Prop}
    (hcomment : ∀ {s body rest}, Text.cut? "-->".toList s = some (body, rest) → P (comment body))
    (hdata : ∀ {s body rest}, Text.cut? "]]>".toList s = some (body, rest) → P (data body))
    (hdoctype : ∀ {s e rest}, doctype? s = some (e, rest) → P e)
    (hinstruction : ∀ {s body rest}, s.head? ≠ some '>' →
      Text.cut? "?>".toList s = some (body, rest) → P (instruction body))
    (hclose : ∀ {s body rest}, tagBody? none s = some (body, rest) → P (close (closingName body)))
    (htag : ∀ {c s e rest}, c ∉ ['!', '?', '/'] → tag? (c :: s) = some (e, rest) → P e)
    {s rest : List Char} {e : Event} (h : markup? s = some (e, rest)) : P e := by
  unfold markup? at h
  split at h
  · cases h
  · obtain ⟨body, hcut, rfl⟩ := eq_of_map comment h
    exact hcomment hcut
  · obtain ⟨body, hcut, rfl⟩ := eq_of_map data h
    exact hdata hcut
  · exact hdoctype h
  · cases h
  · next hne =>
    obtain ⟨body, hcut, rfl⟩ := eq_of_map instruction h
    refine hinstruction (fun hhead => ?_) hcut
    obtain ⟨t, ht⟩ := List.head?_eq_some_iff.1 hhead
    exact hne t ht
  · obtain ⟨body, hbody, rfl⟩ := eq_of_map (fun body => close (closingName body)) h
    exact hclose hbody
  · cases s with
    | nil => simp_all
    | cons c s => exact htag (by simp_all) h

theorem isText_of_markup? {s rest : List Char} {e : Event} (h : markup? s = some (e, rest)) :
    e.isText = false := by
  refine of_markup? (P := fun e => e.isText = false) (fun _ => rfl) (fun _ => rfl)
    (fun hdoctype => ?_) (fun _ _ => rfl) (fun _ => rfl) (fun _ htag => ?_) h
  · unfold doctype? at hdoctype
    split at hdoctype
    · cases hdoctype
    · dsimp only at hdoctype
      split at hdoctype <;> cases hdoctype
      rfl
  · obtain ⟨⟨body, r⟩, -, heq⟩ := Option.map_eq_some_iff.1 htag
    dsimp only at heq
    split at heq <;> cases heq <;> rfl

/-! Each kind is read back. -/

theorem next?_markup (s : List Char) : next? ('<' :: s) = markup? s := rfl

/-- Markup that ends where a pattern first occurs. -/
theorem cut_readsBack (kind : List Char → Event) (opening ending : List Char) {s body rest : List Char}
    (hrender : (kind body).render = '<' :: (opening ++ (body ++ ending)))
    (hmarkup : ∀ more, markup? (opening ++ (body ++ (ending ++ more)))
      = (Text.cut? ending (body ++ (ending ++ more))).map fun r => (kind r.1, r.2))
    (h : Text.cut? ending s = some (body, rest)) : ReadsBack (kind body) := by
  intro more _
  rw [hrender, List.cons_append, List.append_assoc, List.append_assoc, next?_markup, hmarkup,
    Text.cut?_append h]
  rfl

theorem comment_readsBack {s body rest : List Char}
    (h : Text.cut? "-->".toList s = some (body, rest)) : ReadsBack (comment body) :=
  cut_readsBack comment ['!', '-', '-'] "-->".toList rfl (fun _ => rfl) h

theorem data_readsBack {s body rest : List Char}
    (h : Text.cut? "]]>".toList s = some (body, rest)) : ReadsBack (data body) :=
  cut_readsBack data "![CDATA[".toList "]]>".toList rfl (fun _ => rfl) h

theorem instruction_readsBack {s body rest : List Char} (hhead : s.head? ≠ some '>')
    (h : Text.cut? "?>".toList s = some (body, rest)) : ReadsBack (instruction body) := by
  refine cut_readsBack instruction ['?'] "?>".toList rfl (fun more => markup?_instruction ?_) h
  -- What follows does not begin with the bracket: the body does, or the pattern.
  rw [Text.cut?_eq_some h] at hhead
  cases body with
  | nil => simp
  | cons c body => simpa using hhead

theorem close_readsBack {s body rest : List Char} (h : tagBody? none s = some (body, rest)) :
    ReadsBack (close (closingName body)) := by
  intro rest _
  have hname : tagBody? none (closingName body ++ '>' :: rest) = some (closingName body, rest) :=
    tagBody?_scans.eq_some_iff.2
      ⟨rfl, foldlM_closingName (tagBody?_scans.eq_some_iff.1 h).2⟩
  calc next? ((close (closingName body)).render ++ rest)
      = markup? ('/' :: (closingName body ++ '>' :: rest)) := by
        rw [← next?_markup]
        simp [render_close]
    _ = some (close (closingName body), rest) := by
        rw [markup?_close, hname, Option.map_some, closingName_idem]

theorem tag_readsBack {c : Char} {more rest : List Char} {e : Event} (hc : c ∉ ['!', '?', '/'])
    (h : tag? (c :: more) = some (e, rest)) : ReadsBack e := by
  intro rest _
  obtain ⟨⟨body, r⟩, hbody, heq⟩ := Option.map_eq_some_iff.1 h
  obtain ⟨hs, hfold⟩ := tagBody?_scans.eq_some_iff.1 hbody
  have hagain : tagBody? none (body ++ '>' :: rest) = some (body, rest) :=
    tagBody?_scans.eq_some_iff.2 ⟨rfl, hfold⟩
  have hopen : markup? (body ++ '>' :: rest) = tag? (body ++ '>' :: rest) := by
    cases body with
    | nil => exact markup?_tag (by decide) rest
    | cons d body =>
      obtain ⟨rfl, -⟩ := List.cons.inj hs
      exact markup?_tag hc _
  have htext : e.render ++ rest = '<' :: (body ++ '>' :: rest) ∧
      tag? (body ++ '>' :: rest) = some (e, rest) := by
    rw [tag?, hagain, Option.map_some]
    dsimp only at heq ⊢
    split at heq
    · next hslash =>
      cases heq
      obtain ⟨start, rfl⟩ := List.getLast?_eq_some_iff.1 hslash
      simp [render_empty]
    · next hslash =>
      cases heq
      exact ⟨by simp [render_start], rfl⟩
  rw [htext.1, next?_markup, hopen, htext.2]

/-- A document type that says something is read, however it was written before. -/
theorem doctype?_said {said : List Char} (hne : said ≠ []) (htrim : said.dropWhile isSpace = said)
    (hfold : said.foldlM pairStep 0 = some 0) (rest : List Char) :
    doctype? ("DOCTYPE ".toList ++ said ++ '>' :: rest) = some (doctype said, rest) := by
  have hplain : ∀ c ∈ "DOCTYPE ".toList, c ≠ '<' ∧ c ≠ '>' := by
    intro c hc
    constructor <;> rintro rfl <;> exact absurd hc (by decide)
  have hbody : doctypeBody? 0 ("DOCTYPE ".toList ++ said ++ '>' :: rest)
      = some ("DOCTYPE ".toList ++ said, rest) := by
    refine doctypeBody?_scans.eq_some_iff.2 ⟨rfl, ?_⟩
    rw [List.foldlM_append, foldlM_pairStep_plain hplain]
    exact hfold
  have htake : ("DOCTYPE ".toList ++ said).take 7 = "DOCTYPE".toList := rfl
  have hdrop : ("DOCTYPE ".toList ++ said).drop 7 = ' ' :: said := rfl
  have hspace : (' ' :: said).dropWhile isSpace = said := by
    rw [List.dropWhile_cons_of_pos (by decide), htrim]
  rw [doctype?, hbody]
  simp only [htake, hdrop, hspace]
  rw [if_pos]
  simpa using ⟨by decide, hne⟩

theorem doctype_readsBack {s rest : List Char} {e : Event} (h : doctype? s = some (e, rest)) :
    ReadsBack e := by
  intro rest _
  unfold doctype? at h
  split at h
  · cases h
  next body r hbody =>
  dsimp only at h
  split at h
  case isFalse => cases h
  case isTrue hword =>
  simp only [Bool.and_eq_true, Bool.not_eq_true', List.isEmpty_eq_false_iff] at hword
  cases h
  have hfold := foldlM_said hword.1 (doctypeBody?_scans.eq_some_iff.1 hbody).2
  rw [render_doctype, List.cons_append, List.cons_append, List.append_assoc, List.append_assoc,
    List.singleton_append, ← List.append_assoc]
  exact doctype?_said hword.2 (List.dropWhile_idempotent _ _) hfold rest

theorem next?_text {c : Char} (h : c ≠ '<') (s : List Char) :
    next? (c :: s)
      = some (text ((c :: s).takeWhile (· ≠ '<')), (c :: s).dropWhile (· ≠ '<')) := by
  unfold next?
  split
  · next heq => exact absurd (List.cons.inj heq).1 h
  · rfl

theorem text_readsBack {c : Char} (hc : c ≠ '<') (s : List Char) :
    ReadsBack (text ((c :: s).takeWhile (· ≠ '<'))) := by
  intro rest hrest
  have htaken : ∀ d ∈ (c :: s).takeWhile (· ≠ '<'), decide (d ≠ '<') := fun d =>
    List.mem_takeWhile_imp
  have hcons : (c :: s).takeWhile (· ≠ '<') = c :: s.takeWhile (· ≠ '<') :=
    List.takeWhile_cons_of_pos (by simpa using hc)
  have hdrop : rest.dropWhile (· ≠ '<') = rest := by
    have hwhole := List.takeWhile_append_dropWhile (p := (· ≠ '<')) (l := rest)
    rwa [hrest rfl, List.nil_append] at hwhole
  rw [render_text]
  generalize (c :: s).takeWhile (· ≠ '<') = run at *
  subst hcons
  rw [List.cons_append, next?_text hc, ← List.cons_append,
    List.takeWhile_append_of_pos htaken, List.dropWhile_append_of_pos htaken, hrest rfl, hdrop,
    List.append_nil]

/-- What is read is read back. -/
theorem next?_readsBack {s rest : List Char} {e : Event} (hne : s ≠ [])
    (h : next? s = some (e, rest)) : ReadsBack e := by
  cases s with
  | nil => exact (hne rfl).elim
  | cons c s =>
    by_cases hc : c = '<'
    · subst hc
      exact of_markup? comment_readsBack data_readsBack doctype_readsBack instruction_readsBack
        close_readsBack tag_readsBack h
    · rw [next?_text hc] at h
      cases h
      exact text_readsBack hc s

/-! ## Events in a row -/

/-- The events are read back one by one: each can be read, and no two texts meet. -/
structure Legible (es : List Event) : Prop where
  readsBack : ∀ e ∈ es, e.ReadsBack
  apart : es.IsChain fun a b => ¬(a.isText ∧ b.isText)

theorem Legible.infix {es fs : List Event} (h : Legible fs) (hes : es <:+: fs) : Legible es where
  readsBack e he := h.readsBack e (hes.subset he)
  apart := h.apart.infix hes

theorem Legible.append {es fs : List Event} (hes : Legible es) (hfs : Legible fs)
    (h : ∀ e ∈ es.getLast?, ∀ f ∈ fs.head?, ¬(e.isText ∧ f.isText)) : Legible (es ++ fs) where
  readsBack e he := (List.mem_append.1 he).elim (hes.readsBack e) (hfs.readsBack e)
  apart := List.isChain_append.2 ⟨hes.apart, hfs.apart, h⟩

/-- Where markup begins, no text is read. -/
theorem isText_of_next? {s rest : List Char} {e : Event} (hs : StartsMarkup s) (hne : s ≠ [])
    (h : next? s = some (e, rest)) : e.isText = false := by
  cases s with
  | nil => exact (hne rfl).elim
  | cons c s =>
    by_cases hc : c = '<'
    · subst hc
      exact isText_of_markup? h
    · rw [StartsMarkup, List.takeWhile_cons_of_pos (by simpa using hc)] at hs
      cases hs

/-- A text ends where markup begins. -/
theorem startsMarkup_of_next? {s rest : List Char} {e : Event} (hne : s ≠ [])
    (h : next? s = some (e, rest)) (he : e.isText) : StartsMarkup rest := by
  cases s with
  | nil => exact (hne rfl).elim
  | cons c s =>
    by_cases hc : c = '<'
    · subst hc
      rw [isText_of_markup? h] at he
      cases he
    · rw [next?_text hc] at h
      cases h
      rw [StartsMarkup, List.takeWhile_eq_nil_iff]
      intro hpos
      simpa using List.dropWhile_get_zero_not _ _ hpos

/-- The events that are read from a text are legible, and the first one is no text if the text starts
with markup. -/
theorem read_legible (names : List (List Char)) (fuel : Nat) (s : List Char) :
    Legible (Reading.read names fuel s).events ∧
      (StartsMarkup s → ∀ e ∈ (Reading.read names fuel s).events.head?, e.isText = false) := by
  have hnothing (t : List Char) :
      Legible [] ∧ (StartsMarkup t → ∀ e ∈ ([] : List Event).head?, e.isText = false) :=
    ⟨⟨by simp, .nil⟩, by simp⟩
  induction fuel generalizing names s with
  | zero => cases s <;> exact hnothing _
  | succ fuel ih =>
    cases s with
    | nil => exact hnothing _
    | cons c s =>
      simp only [Reading.read]
      split
      · exact hnothing _
      next e rest hnext =>
      split
      · exact hnothing _
      next inner _ =>
      have hne : c :: s ≠ [] := by simp
      obtain ⟨hlegible, hfirst⟩ := ih inner rest
      refine ⟨⟨?_, ?_⟩, fun hs f hf => ?_⟩
      · intro f hf
        obtain rfl | hf := List.mem_cons.1 hf
        · exact next?_readsBack hne hnext
        · exact hlegible.readsBack f hf
      · refine List.isChain_cons.2 ⟨fun f hf ⟨he, hftext⟩ => ?_, hlegible.apart⟩
        rw [hfirst (startsMarkup_of_next? hne hnext he) f hf] at hftext
        cases hftext
      · cases hf
        exact isText_of_next? hs hne hnext

theorem read_next {names inner : List (List Char)} {s rest : List Char} {e : Event} (hne : s ≠ [])
    (hnext : next? s = some (e, rest)) (hopen : openNames? names e = some inner) (fuel : Nat) :
    Reading.read names (fuel + 1) s =
      ⟨e :: (Reading.read inner fuel rest).events, (Reading.read inner fuel rest).ending⟩ := by
  cases s with
  | nil => exact (hne rfl).elim
  | cons c s => simp only [Reading.read, hnext, hopen]

theorem renderAll_cons (e : Event) (es : List Event) :
    renderAll (e :: es) = e.render ++ renderAll es := rfl

/-- Legible events whose tags match are read from their own text, all of them. -/
theorem read_renderAll {es : List Event} (hes : Legible es) {names final : List (List Char)}
    (hopen : es.foldlM openNames? names = some final) {fuel : Nat}
    (hfuel : (renderAll es).length ≤ fuel) :
    Reading.read names fuel (renderAll es) = ⟨es, .complete⟩ := by
  induction es generalizing names fuel with
  | nil => cases fuel <;> rfl
  | cons e es ih =>
    obtain ⟨hfirst, hrest⟩ := List.isChain_cons.1 hes.apart
    have hback := hes.readsBack e (by simp)
    have hnext : next? (e.render ++ renderAll es) = some (e, renderAll es) := by
      refine hback _ fun he => ?_
      cases es with
      | nil => rfl
      | cons f es =>
        refine startsMarkup_render ?_ _
        simpa [he] using hfirst f rfl
    have hne := hback.render_ne_nil
    rw [List.foldlM_cons] at hopen
    obtain ⟨inner, hinner, hopen⟩ := Option.bind_eq_some_iff.1 hopen
    rw [renderAll_cons] at hfuel ⊢
    have hlength := List.length_pos_iff.2 hne
    cases fuel with
    | zero =>
      rw [List.length_append] at hfuel
      omega
    | succ fuel =>
      have hfuel : (renderAll es).length ≤ fuel := by
        rw [List.length_append] at hfuel
        omega
      rw [read_next (by simp [hne]) hnext hinner,
        ih ⟨fun f hf => hes.readsBack f (by simp [hf]), hrest⟩ hopen hfuel]

end Triplify.Split.Event
