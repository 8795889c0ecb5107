import SolrRequest.Proofs.Fragment.Omission
import SolrRequest.Proofs.Time.Instant

/-!
# Blank texts

A raw query of a blank text is left out, but other nodes may have a blank text all the same. Here
are all of them.

* A predicate has a blank text when it is a blank expression, the empty text, or a value of the
  application whose text is blank (`Predicate.Blank`).
* A criteria has one when such a predicate is the only one that is written, and nothing stands
  around it: no sign, no field and no boost (`Criteria.Blank`).
* A node has one when it is such a criteria, or a group at the root whose only written clause is one
  (`Node.Blank`); around any other group there are parentheses.

`Node.any_isBlank_fragment_iff` says that there are no others.
-/

namespace SolrRequest

open Number Text Time

/-! ## Texts that hold something -/

theorem isBlank_of_mem {s : String} {c : Char} (h : c ∈ s.toList) (hc : isSpace c = false) :
    isBlank s = false := by
  rw [isBlank, List.all_eq_false]
  exact ⟨c, h, by simp [hc]⟩

theorem isBlank_digits {l : List Char} (h : ∃ c ∈ l, c.isDigit = true) :
    isBlank (String.ofList l) = false := by
  obtain ⟨c, hmem, hc⟩ := h
  exact isBlank_of_mem (by rwa [String.toList_ofList]) (isSpace_of_isDigit hc)

theorem exists_isDigit_natText (n : Nat) : ∃ c ∈ natText n, c.isDigit = true := by
  obtain ⟨c, hc⟩ := List.exists_mem_of_ne_nil _ (natText_ne_nil n)
  exact ⟨c, hc, isDigit_of_mem_natText hc⟩

theorem Number.Numeral.exists_isDigit_text (x : Numeral) : ∃ c ∈ x.text, c.isDigit = true := by
  obtain ⟨c, hmem, hc⟩ : ∃ c ∈ x.wholeText, c.isDigit = true := exists_isDigit_natText _
  refine ⟨c, ?_, hc⟩
  rw [Numeral.text, List.append_assoc, List.append_assoc]
  exact List.mem_append_right _ (List.mem_append_left _ hmem)

theorem exists_isDigit_intText (i : Int) : ∃ c ∈ intText i, c.isDigit = true := by
  cases i with
  | ofNat n => exact exists_isDigit_natText n
  | negSucc n =>
    obtain ⟨c, hmem, hc⟩ := exists_isDigit_natText (n + 1)
    exact ⟨c, List.mem_cons_of_mem _ hmem, hc⟩

theorem Number.Floating.isBlank_text {f : BinaryFormat} (x : Floating f) :
    isBlank x.text = false := by
  unfold Floating.text
  split
  · rfl
  · split
    · split <;> rfl
    · exact isBlank_digits (Numeral.exists_isDigit_text _)

theorem Time.Instant.isBlank_text (p : Precision) (t : Instant) : isBlank (t.text p) = false := by
  have hmark : 'Z' ∈ (t.text p).toList := by simp [Instant.text]
  exact isBlank_of_mem hmark (by decide)

/-- A text that is not empty starts with a quote, a backslash, or a character that needs no escape
in a literal, and none of them is white space. -/
theorem isBlank_textLiteral_iff {t : String} : isBlank (literal t) = true ↔ t = "" := by
  refine ⟨fun h => ?_, fun h => h ▸ rfl⟩
  by_contra hne
  have hnil : t.toList ≠ [] := hne ∘ String.toList_eq_nil_iff.mp
  obtain ⟨c, r, hcr⟩ := List.exists_cons_of_ne_nil hnil
  have hblank : isBlank (literal t) = false := by
    unfold literal quoteSpaced
    split
    · exact isBlank_of_mem (c := '"') (by simp) (by decide)
    · rw [hcr, escapeWhere_cons]
      split
      · exact isBlank_of_mem (c := '\\') (by simp) (by decide)
      · rename_i hescape
        refine isBlank_of_mem (c := c) (by simp) (Bool.eq_false_iff.mpr fun hspace => hescape ?_)
        have hstar : c ≠ '*' := by
          rintro rfl
          revert hspace
          decide
        simp [needsLiteralEscape, needsEscape, hspace, hstar]
  exact Bool.false_ne_true (hblank.symm.trans h)

namespace Conversion

/-- Of the values other than null, only the empty text and those of the application can have a
blank text. -/
theorem isBlank_literal_iff (c : Conversion) {v : Value} (h : v.isNull = false) :
    isBlank (c.literal v) = true ↔
      v = .text "" ∨ ∃ w, v = .custom w ∧ isBlank (c.customText w) = true := by
  -- the values whose text is never blank
  have never : isBlank (c.literal v) = false → (∀ t, v ≠ .text t) → (∀ w, v ≠ .custom w) →
      (isBlank (c.literal v) = true ↔
        v = .text "" ∨ ∃ w, v = .custom w ∧ isBlank (c.customText w) = true) := by
    intro hblank htext hcustom
    rw [hblank]
    refine iff_of_false Bool.false_ne_true ?_
    rintro (h | ⟨w, h, -⟩)
    · exact htext "" h
    · exact hcustom w h
  cases v with
  | null => cases h
  | text t =>
    refine isBlank_textLiteral_iff.trans ⟨fun ht => .inl (ht ▸ rfl), ?_⟩
    rintro (h | ⟨w, h, -⟩)
    · exact Value.text.inj h
    · cases h
  | custom w =>
    refine ⟨fun hw => .inr ⟨w, rfl, hw⟩, ?_⟩
    rintro (h | ⟨w', h, hw⟩)
    · cases h
    · cases h
      exact hw
  | bool b =>
    have htext : isBlank (if b then "true" else "false") = false := by cases b <;> rfl
    exact never htext nofun nofun
  | integer i => exact never (isBlank_digits (exists_isDigit_intText _)) nofun nofun
  | float x => exact never x.isBlank_text nofun nofun
  | decimal d => exact never (isBlank_digits (Numeral.exists_isDigit_text _)) nofun nofun
  | dateTime t => exact never (t.isBlank_text _) nofun nofun
  | point p => exact never (isBlank_append_left (isBlank_append_right _ rfl) _) nofun nofun
  | distance d => exact never (Floating.isBlank_text _) nofun nofun
  | box b => exact never (isBlank_append_right _ rfl) nofun nofun

end Conversion

/-! ## Predicates -/

theorem isBlank_circleFilter (parser field : String) (center : Point) (distance : Distance) :
    isBlank (circleFilter parser field center distance) = false := by
  have hstart : isBlank "\x7b!" = false := rfl
  simp only [circleFilter, isBlank_append, hstart, Bool.false_and]

theorem Scope.isBlank_geoFragment {s : Scope} {rule : Rule} {p : Predicate} {field : Option Field}
    {shape : GeoShape} {text : String} (h : s.geoFragment rule p field shape = .ok text) :
    isBlank text = false := by
  unfold Scope.geoFragment at h
  split at h
  · obtain ⟨name, -, h⟩ := bind_eq_ok_iff.mp h
    cases h
    exact isBlank_circleFilter _ _ _ _
  · obtain ⟨name, -, h⟩ := bind_eq_ok_iff.mp h
    cases h
    exact isBlank_append_left (isBlank_append_right name rfl) _
  · obtain ⟨name, -, h⟩ := bind_eq_ok_iff.mp h
    cases h
    exact isBlank_circleFilter _ _ _ _
  · cases h

/-- The values that a rule writes as a blank text. -/
inductive Scope.WritesBlank (s : Scope) : Rule → Value → Prop
  | expression {text : String} (h : isBlank text = true) : s.WritesBlank .expression (.text text)
  | empty : s.WritesBlank .literal (.text "")
  | custom {rule : Rule} {v : CustomValue} (hrule : rule = .expression ∨ rule = .literal)
      (h : isBlank (s.compiler.conversion.customText v) = true) : s.WritesBlank rule (.custom v)

/-- The predicate is written, and as a blank text. -/
def Predicate.Blank (s : Scope) (p : Predicate) : Prop :=
  ∃ v, p.payload = .single v ∧ s.WritesBlank (.ofOperation p.operation?) v

theorem Scope.WritesBlank.isNull {s : Scope} {rule : Rule} {v : Value} (h : s.WritesBlank rule v) :
    v.isNull = false := by
  cases h <;> rfl

theorem Scope.WritesBlank.rule {s : Scope} {rule : Rule} {v : Value} (h : s.WritesBlank rule v) :
    rule = .expression ∨ rule = .literal := by
  cases h with
  | expression _ => exact .inl rfl
  | empty => exact .inr rfl
  | custom hrule _ => exact hrule

theorem Predicate.Blank.isNull {s : Scope} {p : Predicate} (h : p.Blank s) :
    p.payload.isNull = false := by
  obtain ⟨v, hv, hblank⟩ := h
  rw [hv]
  exact hblank.isNull

theorem Predicate.Blank.not_namesField {s : Scope} {p : Predicate} (h : p.Blank s) :
    ¬p.NamesField := by
  obtain ⟨v, -, h⟩ := h
  have hrule := h.rule
  unfold Predicate.NamesField
  revert hrule
  cases p.operation? with
  | none => exact fun _ => Bool.false_ne_true
  | some o => cases o <;> decide

/-- Beside a value stands nothing under two rules only. -/
theorem Scope.isBlank_singleFragment_iff {s : Scope} {rule : Rule} {p : Predicate} {v : Value}
    (hv : v.isNull = false) {text : String} (h : s.singleFragment rule p v = .ok text) :
    isBlank text = true ↔ s.WritesBlank rule v := by
  have hliteral := s.compiler.conversion.isBlank_literal_iff hv
  unfold Scope.singleFragment at h
  split at h
  · split at h
    · cases h
      refine ⟨.expression, fun h => ?_⟩
      cases h
      assumption
    · rename_i htext
      cases h
      rw [Scope.literal, hliteral]
      constructor
      · rintro (rfl | ⟨w, rfl, hw⟩)
        · exact absurd rfl (htext "")
        · exact .custom (.inl rfl) hw
      · intro h
        cases h with
        | expression _ => exact absurd rfl (htext _)
        | custom _ hw => exact .inr ⟨_, rfl, hw⟩
  · cases h
    have htext : isBlank (s.literal v ++ "~") = false := isBlank_append_right _ rfl
    rw [htext]
    exact iff_of_false Bool.false_ne_true fun h => nomatch h.rule
  · have htext : isBlank text = false := by
      split at h
      · cases h
        exact isBlank_append_right _ rfl
      · cases h
        exact isBlank_append_left rfl _
      · cases h
        exact isBlank_append_right _ rfl
    rw [htext]
    exact iff_of_false Bool.false_ne_true fun h => nomatch h.rule
  · cases h
    rw [Scope.literal, hliteral]
    constructor
    · rintro (rfl | ⟨w, rfl, hw⟩)
      · exact .empty
      · exact .custom (.inr rfl) hw
    · intro h
      cases h with
      | empty => exact .inl rfl
      | custom _ hw => exact .inr ⟨_, rfl, hw⟩
  · cases h

/-- Of the payloads that are not single values, none is written as a blank text. -/
theorem Scope.isBlank_plainFragment {s : Scope} {rule : Rule} {p : Predicate}
    {field : Option Field} (hp : ∀ v, p.payload ≠ .single v) {text : String}
    (h : s.plainFragment rule p field = .ok text) : isBlank text = false := by
  unfold Scope.plainFragment at h
  split at h
  · exact absurd ‹_› (hp _)
  · exact Scope.isBlank_geoFragment h
  · split at h
    · cases h
      exact isBlank_append_left (isBlank_append_left (isBlank_append_right _ rfl) _) _
    · cases h
  · split at h
    · cases h
      exact isBlank_append_left (isBlank_append_right _ rfl) _
    · cases h
  · split at h
    · cases h
      exact isBlank_append_left (isBlank_append_right _ rfl) _
    · cases h
  · cases h
  · cases h

/-- A predicate that does not compare with null is written. -/
theorem Predicate.exists_text {s : Scope} {rule : Rule} {p : Predicate} {field : Option Field}
    (hnull : p.payload.isNull = false) {written : Option String}
    (h : p.fragment s rule field = .ok written) :
    ∃ text, written = some text ∧ (s.plainFragment rule p field = .ok text ∨
      (∃ f, p.payload = .function f) ∧ isBlank text = false) := by
  obtain ⟨key, payload⟩ := p
  cases payload with
  | function f =>
    rw [Predicate.fragment] at h
    split at h
    · obtain ⟨body, -, h⟩ := bind_eq_ok_iff.mp h
      cases h
      exact ⟨_, rfl, .inr ⟨⟨f, rfl⟩, isBlank_append_left rfl body⟩⟩
    · cases h
  | null | single | range | geo | fuzzy | sloppy =>
    simp only [Predicate.fragment, hnull, Bool.false_eq_true, if_false] at h
    obtain ⟨text, htext, rfl⟩ := map_eq_ok_iff.mp h
    exact ⟨text, rfl, .inl htext⟩

theorem Predicate.fragment_of_isNull {s : Scope} {rule : Rule} {p : Predicate}
    {field : Option Field} (hnull : p.payload.isNull = true) :
    p.fragment s rule field = .ok none := by
  obtain ⟨key, payload⟩ := p
  cases payload with
  | function f => cases hnull
  | null | single | range | geo | fuzzy | sloppy =>
    simp only [Predicate.fragment, hnull, if_true]
    rfl

theorem Predicate.fragment_eq_none_iff {s : Scope} {rule : Rule} {p : Predicate}
    {field : Option Field} {written : Option String} (h : p.fragment s rule field = .ok written) :
    written = none ↔ p.payload.isNull = true := by
  constructor
  · rintro rfl
    by_contra hnull
    obtain ⟨text, hnone, -⟩ := Predicate.exists_text (Bool.not_eq_true _ ▸ hnull) h
    cases hnone
  · intro hnull
    rw [Predicate.fragment_of_isNull hnull] at h
    exact (Except.ok.inj h).symm

/-- A predicate has a blank text exactly when it is blank. -/
theorem Predicate.any_isBlank_fragment_iff {s : Scope} {p : Predicate} {field : Option Field}
    {written : Option String}
    (h : p.fragment s (.ofOperation p.operation?) field = .ok written) :
    written.any isBlank = true ↔ p.Blank s := by
  by_cases hnull : p.payload.isNull = true
  · rw [(Predicate.fragment_eq_none_iff h).mpr hnull]
    refine iff_of_false Bool.false_ne_true fun hblank => ?_
    exact Bool.false_ne_true (hblank.isNull.symm.trans hnull)
  · obtain ⟨text, rfl, hplain | ⟨⟨f, hf⟩, htext⟩⟩ :=
      Predicate.exists_text (Bool.not_eq_true _ ▸ hnull) h
    · by_cases hsingle : ∃ v, p.payload = .single v
      · obtain ⟨v, hv⟩ := hsingle
        rw [hv] at hnull
        simp only [Scope.plainFragment, hv] at hplain
        refine (Scope.isBlank_singleFragment_iff (Bool.not_eq_true _ ▸ hnull) hplain).trans ?_
        refine ⟨fun hblank => ⟨v, hv, hblank⟩, ?_⟩
        rintro ⟨w, hw, hblank⟩
        cases hv.symm.trans hw
        exact hblank
      · have htext : isBlank text = false :=
          Scope.isBlank_plainFragment (fun v hv => hsingle ⟨v, hv⟩) hplain
        rw [Option.any_some, htext]
        exact iff_of_false Bool.false_ne_true fun ⟨v, hv, _⟩ => hsingle ⟨v, hv⟩
    · rw [Option.any_some, htext]
      exact iff_of_false Bool.false_ne_true fun ⟨v, hv, _⟩ => nomatch hf.symm.trans hv

/-! ## Criteria -/

/-- One predicate alone is written, which is blank, and nothing stands around it. -/
structure Criteria.Blank (s : Scope) (c : Criteria) : Prop where
  unsigned : c.negating = false
  unboosted : c.effectiveBoost = none
  withoutField : c.field = none ∨ ∃ p ∈ c.predicates, p.NamesField
  alone : ∃ before p after, c.predicates = before ++ p :: after ∧ p.Blank s ∧
    ∀ q ∈ before ++ after, q.payload.isNull = true

theorem isBlank_chainText_iff {texts : List String} :
    isBlank (chainText texts) = true ↔ ∃ text, texts = [text] ∧ isBlank text = true := by
  unfold chainText
  split
  · rename_i text
    refine ⟨fun h => ⟨text, rfl, h⟩, ?_⟩
    rintro ⟨other, hother, h⟩
    cases hother
    exact h
  · rename_i hsingle
    have hparentheses : isBlank ("(" ++ " ".intercalate texts ++ ")") = false :=
      isBlank_append_right _ rfl
    rw [hparentheses]
    exact iff_of_false Bool.false_ne_true fun ⟨text, htexts, _⟩ => hsingle text htexts

theorem isBlank_boostText_iff {boost : Option Single} :
    isBlank (boostText boost) = true ↔ boost = none := by
  cases boost with
  | none => exact iff_of_true rfl rfl
  | some x =>
    have hmark : isBlank (boostText (some x)) = false := isBlank_append_left rfl _
    rw [hmark]
    exact iff_of_false Bool.false_ne_true nofun

namespace Criteria

variable {s : Scope} {c : Criteria}

theorem isBlank_fieldText_iff {name : Option String} (h : s.fieldName? c.field = .ok name) :
    isBlank (c.fieldText name) = true ↔ c.field = none ∨ ∃ p ∈ c.predicates, p.NamesField := by
  by_cases hnames : ∃ p ∈ c.predicates, p.NamesField
  · rw [fieldText_of_names hnames]
    exact iff_of_true rfl (.inr hnames)
  · rw [fieldText_of_not_names fun p hp hn => hnames ⟨p, hp, hn⟩]
    cases hfield : c.field with
    | none =>
      rw [hfield] at h
      cases h
      exact iff_of_true rfl (.inl rfl)
    | some f =>
      rw [hfield] at h
      obtain ⟨text, -, rfl⟩ := map_eq_ok_iff.mp h
      have hcolon : isBlank (text ++ ":") = false := isBlank_append_right _ rfl
      show isBlank (text ++ ":") = true ↔ _
      rw [hcolon]
      exact iff_of_false Bool.false_ne_true (not_or.mpr ⟨nofun, hnames⟩)

/-- A single fragment is written, and it is blank. -/
theorem texts_eq_blank_iff {written : List (Option String)}
    (h : c.predicates.mapM (fun p => p.fragment s (.ofOperation p.operation?) c.field) =
      .ok written) :
    (∃ text, written.filterMap id = [text] ∧ isBlank text = true) ↔
      ∃ before p after, c.predicates = before ++ p :: after ∧ p.Blank s ∧
        ∀ q ∈ before ++ after, q.payload.isNull = true := by
  constructor
  · rintro ⟨text, htext, hblank⟩
    obtain ⟨before, p, after, hc, ⟨o, hp, ho⟩, hothers⟩ := (filterMap_eq_singleton_iff h).mp htext
    cases ho
    refine ⟨before, p, after, hc, (Predicate.any_isBlank_fragment_iff hp).mp hblank, ?_⟩
    intro q hq
    obtain ⟨o, hq, rfl⟩ := hothers q hq
    exact (Predicate.fragment_eq_none_iff hq).mp rfl
  · rintro ⟨before, p, after, hc, hp, hothers⟩
    obtain ⟨o, -, hfragment⟩ := exists_of_mapM_eq_ok h (a := p) (by simp [hc])
    have hblank := (Predicate.any_isBlank_fragment_iff hfragment).mpr hp
    cases o with
    | none => cases hblank
    | some text =>
      refine ⟨text, (filterMap_eq_singleton_iff h).mpr ?_, hblank⟩
      refine ⟨before, p, after, hc, ⟨some text, hfragment, rfl⟩, fun q hq => ?_⟩
      exact ⟨none, Predicate.fragment_of_isNull (hothers q hq), rfl⟩

/-- A criteria has a blank text exactly when it is blank. -/
theorem any_isBlank_fragment_iff {w : Option String} (h : c.fragment s = .ok w) :
    w.any isBlank = true ↔ c.Blank s := by
  rw [fragment_eq] at h
  obtain ⟨-, -, h⟩ := bind_eq_ok_iff.mp h
  obtain ⟨name, hname, h⟩ := bind_eq_ok_iff.mp h
  obtain ⟨written, hwritten, h⟩ := bind_eq_ok_iff.mp h
  cases h
  by_cases hnil : c.predicates = []
  · -- the field alone, if there is one
    have htext : (c.assemble name (written.filterMap id)).any isBlank = false := by
      unfold assemble
      rw [hnil]
      cases name with
      | none => rfl
      | some n => exact isBlank_append_left (isBlank_append_right _ rfl) _
    rw [htext]
    refine iff_of_false Bool.false_ne_true fun hc => ?_
    obtain ⟨before, p, after, hp, -⟩ := hc.alone
    exact List.append_ne_nil_of_right_ne_nil _ (List.cons_ne_nil p after) (hp.symm.trans hnil)
  · have hparts : c.Blank s ↔ c.negating = false ∧
        (c.field = none ∨ ∃ p ∈ c.predicates, p.NamesField) ∧
        (∃ text, written.filterMap id = [text] ∧ isBlank text = true) ∧
        c.effectiveBoost = none := by
      rw [texts_eq_blank_iff hwritten]
      exact ⟨fun hc => ⟨hc.unsigned, hc.withoutField, hc.alone, hc.unboosted⟩,
        fun ⟨hsign, hfield, halone, hboost⟩ => ⟨hsign, hboost, hfield, halone⟩⟩
    rw [assemble_of_ne_nil hnil, hparts]
    split
    · rename_i hempty
      refine iff_of_false Bool.false_ne_true ?_
      rintro ⟨-, -, ⟨text, htext, -⟩, -⟩
      rw [htext] at hempty
      cases hempty
    · have hsign : isBlank (if c.negating = true then "-" else "") = true ↔
          c.negating = false := by
        cases c.negating
        · exact iff_of_true rfl rfl
        · exact iff_of_false (by decide) nofun
      rw [Option.any_some]
      simp only [isBlank_append, Bool.and_eq_true]
      rw [hsign, isBlank_fieldText_iff hname, isBlank_chainText_iff, isBlank_boostText_iff,
        and_assoc]

end Criteria

/-! ## Groups -/

/-- A blank criteria, or a group at the root that writes nothing else. -/
inductive Node.Blank (s : Scope) : Node → Prop
  | criteria {c : Criteria} (h : c.Blank s) : Node.Blank s (.criteria c)
  | group {before after : List Clause} (junction : Junction) {c : Criteria} (chained : Bool)
      (h : c.Blank s) (hothers : ∀ clause ∈ before ++ after, clause.node.Omitted s) :
      Node.Blank s (.group ⟨before ++ ⟨junction, .criteria c⟩ :: after, false, chained⟩)

theorem isBlank_enclose (nested negating : Bool) (body : String) :
    isBlank (enclose nested negating body) = (!nested && !negating && isBlank body) := by
  unfold enclose
  cases negating
  · cases nested
    · rfl
    · exact isBlank_append_left (isBlank_append_left rfl body) _
  · rw [Bool.not_true, Bool.and_false, Bool.false_and]
    exact isBlank_append_left (isBlank_append_left rfl body) _

/-- The links between clauses are not blank. -/
theorem isBlank_foldl_clauses (start : String) (clauses : List (Junction × Option String)) :
    isBlank (clauses.foldl (fun body clause =>
      match clause with
      | (_, none) => body
      | (junction, some next) => body ++ junction.separator ++ next) start) = true ↔
    isBlank start = true ∧ clauses.filterMap Prod.snd = [] := by
  induction clauses generalizing start with
  | nil => exact (and_iff_left rfl).symm
  | cons clause clauses ih =>
    obtain ⟨junction, written⟩ := clause
    cases written with
    | none => exact ih start
    | some next =>
      have hlink : isBlank junction.separator = false := by cases junction <;> rfl
      refine (ih _).trans (iff_of_false ?_ ?_)
      · rintro ⟨hblank, -⟩
        rw [isBlank_append, isBlank_append, hlink, Bool.and_false, Bool.false_and] at hblank
        cases hblank
      · rintro ⟨-, hnil⟩
        cases hnil

theorem any_isBlank_joinClauses_iff {parts : List (Junction × Option String)} :
    (joinClauses parts).any isBlank = true ↔
      ∃ text, parts.filterMap Prod.snd = [text] ∧ isBlank text = true := by
  induction parts with
  | nil => exact iff_of_false Bool.false_ne_true fun ⟨text, h, _⟩ => nomatch h
  | cons part parts ih =>
    obtain ⟨junction, written⟩ := part
    cases written with
    | none => exact ih
    | some text =>
      refine (isBlank_foldl_clauses text parts).trans ⟨fun ⟨hblank, hnil⟩ => ?_, ?_⟩
      · exact ⟨text, by rw [List.filterMap_cons, hnil], hblank⟩
      · rintro ⟨other, h, hblank⟩
        obtain ⟨rfl, hnil⟩ := List.cons.inj h
        exact ⟨hblank, hnil⟩

/-- A raw query and a group inside of a group have no blank text. -/
theorem Node.eq_criteria_of_isBlank {s : Scope} {n : Node} {text : String}
    (h : n.fragment s true = .ok (some text)) (hblank : isBlank text = true) :
    ∃ c, n = .criteria c ∧ c.Blank s := by
  cases n with
  | criteria c =>
    rw [Node.fragment] at h
    exact ⟨c, rfl, (Criteria.any_isBlank_fragment_iff h).mp hblank⟩
  | raw query =>
    rw [Node.fragment] at h
    split at h
    · cases h
    · cases h
      exact absurd hblank ‹_›
  | group g =>
    obtain ⟨clauses, negating, chained⟩ := g
    rw [Node.fragment, ClauseGroup.fragment] at h
    obtain ⟨parts, -, h⟩ := bind_eq_ok_iff.mp h
    obtain ⟨body, -, rfl⟩ := Option.map_eq_some_iff.mp (Except.ok.inj h)
    rw [isBlank_enclose] at hblank
    cases hblank

theorem ClauseGroup.texts_eq_blank_iff {s : Scope} {clauses : List Clause}
    {parts : List (Junction × Option String)}
    (h : ClauseGroup.clauseFragments s clauses = .ok parts) :
    (∃ text, parts.filterMap Prod.snd = [text] ∧ isBlank text = true) ↔
      ∃ before junction c after, clauses = before ++ ⟨junction, .criteria c⟩ :: after ∧
        c.Blank s ∧ ∀ clause ∈ before ++ after, clause.node.Omitted s := by
  rw [ClauseGroup.clauseFragments_eq_mapM] at h
  constructor
  · rintro ⟨text, htext, hblank⟩
    obtain ⟨before, ⟨junction, n⟩, after, hclauses, ⟨part, hpart, hsome⟩, hothers⟩ :=
      (filterMap_eq_singleton_iff h).mp htext
    obtain ⟨w, hn, hpart⟩ := bind_eq_ok_iff.mp hpart
    cases hpart
    cases hsome
    obtain ⟨c, rfl, hc⟩ := Node.eq_criteria_of_isBlank hn hblank
    refine ⟨before, junction, c, after, hclauses, hc, fun clause hclause => ?_⟩
    obtain ⟨part, hpart, hnone⟩ := hothers clause hclause
    obtain ⟨w, hw, hpart⟩ := bind_eq_ok_iff.mp hpart
    cases hpart
    cases hnone
    exact (Node.fragment_eq_none_iff true false).mp hw
  · rintro ⟨before, junction, c, after, hclauses, hc, hothers⟩
    obtain ⟨part, -, hpart⟩ := exists_of_mapM_eq_ok h (a := ⟨junction, .criteria c⟩)
      (by simp [hclauses])
    obtain ⟨w, hw, hpart'⟩ := bind_eq_ok_iff.mp hpart
    cases hpart'
    rw [Node.fragment] at hw
    have hblank := (Criteria.any_isBlank_fragment_iff hw).mpr hc
    cases w with
    | none => cases hblank
    | some text =>
      refine ⟨text, (filterMap_eq_singleton_iff h).mpr ?_, hblank⟩
      refine ⟨before, _, after, hclauses, ⟨_, hpart, rfl⟩, fun clause hclause => ?_⟩
      have homitted := (Node.fragment_eq_none_iff false true).mp (hothers clause hclause)
      exact ⟨(clause.junction, none), by rw [homitted]; rfl, rfl⟩

/-- A node has a blank text at the root exactly when it is blank. -/
theorem Node.any_isBlank_fragment_iff {s : Scope} {n : Node} {w : Option String}
    (h : n.fragment s false = .ok w) : w.any isBlank = true ↔ n.Blank s := by
  cases n with
  | criteria c =>
    rw [Node.fragment] at h
    refine (Criteria.any_isBlank_fragment_iff h).trans ⟨.criteria, fun hblank => ?_⟩
    cases hblank
    assumption
  | raw query =>
    rw [Node.fragment] at h
    have hnot : ¬Node.Blank s (.raw query) := nofun
    split at h
    · cases h
      exact iff_of_false Bool.false_ne_true hnot
    · cases h
      exact iff_of_false ‹_› hnot
  | group g =>
    obtain ⟨clauses, negating, chained⟩ := g
    rw [Node.fragment, ClauseGroup.fragment] at h
    obtain ⟨parts, hparts, h⟩ := bind_eq_ok_iff.mp h
    cases h
    have hbody : ((joinClauses parts).map (enclose false negating)).any isBlank = true ↔
        negating = false ∧ (joinClauses parts).any isBlank = true := by
      cases joinClauses parts with
      | none => simp
      | some body => simp [isBlank_enclose]
    rw [hbody, any_isBlank_joinClauses_iff, ClauseGroup.texts_eq_blank_iff hparts]
    constructor
    · rintro ⟨rfl, before, junction, c, after, rfl, hc, hothers⟩
      exact .group junction chained hc hothers
    · intro hblank
      cases hblank with
      | group junction _ hc hothers => exact ⟨rfl, _, junction, _, _, rfl, hc, hothers⟩

/-- The text of a query is blank exactly when the node is, since that for everything is not. -/
theorem Node.isBlank_queryText_iff {s : Scope} {n : Node} {text : String}
    (h : n.queryText s = .ok text) : isBlank text = true ↔ n.Blank s := by
  obtain ⟨w, hw, h⟩ := bind_eq_ok_iff.mp h
  cases h
  rw [← Node.any_isBlank_fragment_iff hw]
  cases w with
  | none => exact iff_of_false (by decide) Bool.false_ne_true
  | some text => exact .rfl

end SolrRequest
