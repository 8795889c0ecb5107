import SolrRequest.Proofs.Fragment.Outline
import SolrRequest.Proofs.Text.Literal
import SolrRequest.Proofs.Text.Prefix
import SolrRequest.Query.Node

/-!
# Query texts are unambiguous

The text of an outline can be told from what follows it: a clause ends at a bare space or at a
closing parenthesis, a group at its parenthesis, and neither can stand bare in a literal. So
outlines with one text are equal (`Outlines.chars_append_inj`), and plain trees have one query text
exactly when they read the same (`Node.fragment_eq_iff_reading_eq`).
-/

namespace SolrRequest

open Number Text

/-! ## What follows a clause -/

/-- The characters that a clause cannot hold bare. -/
def isInsideClause (c : Char) : Bool :=
  c != ' ' && c != ')'

/-- The characters that a chain of clauses cannot end with a bare one of. -/
def isInsideGroup (c : Char) : Bool :=
  c != ')'

theorem startsOutside_clause_of_group {x : List Char} (hx : StartsOutside isInsideGroup x) :
    StartsOutside isInsideClause x := by
  intro c hc
  have h := hx c hc
  simp only [isInsideGroup, bne_eq_false_iff_eq] at h
  subst h
  decide

theorem toList_and_separator : Junction.and.separator.toList = [' ', 'A', 'N', 'D', ' '] := by
  simp [Junction.separator]

theorem toList_or_separator : Junction.or.separator.toList = [' ', 'O', 'R', ' '] := by
  simp [Junction.separator]

/-- Every link starts with a space. -/
theorem exists_separator (junction : Junction) :
    ∃ r, junction.separator.toList = ' ' :: r := by
  cases junction
  · exact ⟨_, toList_and_separator⟩
  · exact ⟨_, toList_or_separator⟩

theorem startsOutside_separator (junction : Junction) (x : List Char) :
    StartsOutside isInsideClause (junction.separator.toList ++ x) := by
  obtain ⟨r, hr⟩ := exists_separator junction
  rw [hr]
  exact startsOutside_cons (by decide) _

theorem endsLiteral_of_clause {x : List Char} (hx : StartsOutside isInsideClause x) :
    EndsLiteral x := by
  intro c hc
  have h := hx c hc
  simp only [isInsideClause, Bool.and_eq_false_iff, bne_eq_false_iff_eq] at h
  rcases h with rfl | rfl <;> decide

/-- A literal ends in front of a boost, and in front of what follows a clause. -/
theorem endsLiteral_boost {x : List Char} (hx : StartsOutside isInsideClause x)
    (boost : Option BoostText) : EndsLiteral (boostChars boost ++ x) := by
  cases boost with
  | none => exact endsLiteral_of_clause hx
  | some b => exact endsLiteral_cons (by decide) (by decide) (by decide) _

theorem startsOutside_parenthesis (x : List Char) :
    StartsOutside isInsideGroup (')' :: x) :=
  startsOutside_cons (by decide) x

/-- What follows a group does not go on with another clause. -/
theorem ne_separator {x : List Char} (hx : StartsOutside isInsideGroup x) (junction : Junction)
    (y : List Char) : x ≠ junction.separator.toList ++ y := by
  rintro rfl
  obtain ⟨r, hr⟩ := exists_separator junction
  rw [hr] at hx
  exact absurd (hx ' ' rfl) (by decide)

theorem separator_append_inj {i j : Junction} {x y : List Char}
    (h : i.separator.toList ++ x = j.separator.toList ++ y) : i = j ∧ x = y := by
  cases i <;> cases j
  · exact ⟨rfl, List.append_cancel_left h⟩
  · simp [toList_and_separator, toList_or_separator] at h
  · simp [toList_and_separator, toList_or_separator] at h
  · exact ⟨rfl, List.append_cancel_left h⟩

/-! ## Parts of a clause -/

theorem parenthesis_head (x : List Char) : ∀ c ∈ ('(' :: x).head?, c ≠ '-' := by
  intro c hc
  cases hc
  decide

theorem signChars_append_inj {m n : Bool} {x y : List Char} (hx : ∀ c ∈ x.head?, c ≠ '-')
    (hy : ∀ c ∈ y.head?, c ≠ '-') (h : signChars m ++ x = signChars n ++ y) : m = n ∧ x = y := by
  cases m <;> cases n
  · exact ⟨rfl, h⟩
  · have hx' : x = '-' :: y := h
    rw [hx'] at hx
    exact absurd rfl (hx '-' rfl)
  · have hy' : '-' :: x = y := h
    rw [← hy'] at hy
    exact absurd rfl (hy '-' rfl)
  · exact ⟨rfl, List.tail_eq_of_cons_eq h⟩

/-- A simple name starts neither with a sign nor with a parenthesis. -/
theorem SimpleName.head (w : SimpleName) (r : List Char) :
    ∀ c ∈ (w.text.toList ++ ':' :: r).head?, c ≠ '-' ∧ c ≠ '(' := by
  obtain ⟨text, hne, hall⟩ := w
  dsimp only
  intro c hc
  have hmem : c ∈ text.toList := by
    rw [List.head?_append, List.head?_eq_some_head hne] at hc
    exact List.mem_of_mem_head? (List.head?_eq_some_head hne ▸ hc)
  have hword := hall c hmem
  constructor <;>
  · rintro rfl
    revert hword
    decide +kernel

theorem SimpleName.append_inj {v w : SimpleName} {x y : List Char}
    (h : v.text.toList ++ ':' :: x = w.text.toList ++ ':' :: y) : v = w ∧ x = y := by
  have hcolon : isNameChar ':' = false := by decide +kernel
  obtain ⟨hname, hrest⟩ := run_append_inj v.isSimple.2 w.isSimple.2 (startsOutside_cons hcolon x)
    (startsOutside_cons hcolon y) h
  refine ⟨?_, List.tail_eq_of_cons_eq hrest⟩
  obtain ⟨v, hv⟩ := v
  obtain ⟨w, hw⟩ := w
  cases String.toList_inj.mp hname
  rfl

theorem endsLiteral_chainEnd (texts : List String) (x : List Char) :
    EndsLiteral (chainEnd texts ++ x) := by
  cases texts <;> exact endsLiteral_cons (by decide) (by decide) (by decide) _

/-- A chain of literals ends at its own parenthesis. -/
theorem chainEnd_append_inj {k l : List String} {x y : List Char}
    (h : chainEnd k ++ x = chainEnd l ++ y) : k = l ∧ x = y := by
  induction k generalizing l with
  | nil =>
    cases l with
    | nil => exact ⟨rfl, List.tail_eq_of_cons_eq h⟩
    | cons t q => exact absurd (List.head_eq_of_cons_eq h) (by decide)
  | cons s r ih =>
    cases l with
    | nil => exact absurd (List.head_eq_of_cons_eq h) (by decide)
    | cons t q =>
      rw [chainEnd, chainEnd, List.cons_append, List.cons_append, List.append_assoc,
        List.append_assoc] at h
      obtain ⟨rfl, hrest⟩ := literal_append_inj (endsLiteral_chainEnd r x)
        (endsLiteral_chainEnd q y) (List.tail_eq_of_cons_eq h)
      obtain ⟨rfl, hxy⟩ := ih hrest
      exact ⟨rfl, hxy⟩

/-- What a bare character other than a quote or a backslash starts is no literal in front of what
follows a comparison. -/
theorem ne_literal {s : String} {c : Char} {r x : List Char} (boost : Option BoostText)
    (hx : StartsOutside isInsideClause x) (hc : c = '[' ∨ c = '(') :
    (literal s).toList ++ (boostChars boost ++ x) ≠ c :: r := by
  intro h
  have hbare : needsLiteralEscape c = true ∧ c ≠ '"' ∧ c ≠ '\\' := by
    rcases hc with rfl | rfl <;> decide
  obtain ⟨-, hrest⟩ := literal_head (endsLiteral_boost hx boost) h hbare.1 hbare.2.1 hbare.2.2
  cases boost with
  | none =>
    rw [boostChars, List.nil_append] at hrest
    have := hx c (by rw [hrest]; rfl)
    rcases hc with rfl | rfl <;> revert this <;> decide
  | some b =>
    have := List.head_eq_of_cons_eq hrest
    rcases hc with rfl | rfl <;> revert this <;> decide

theorem comparedChars_nil_append (x : List Char) :
    comparedChars [] ++ x = '[' :: ['*', ' ', 'T', 'O', ' ', '*', ']'] ++ x := by
  rw [comparedChars]

theorem comparedChars_single (s : String) : comparedChars [s] = (literal s).toList := by
  rw [comparedChars]

theorem comparedChars_chain_append (s t : String) (r : List String) (x : List Char) :
    comparedChars (s :: t :: r) ++ x =
      '(' :: ((literal s).toList ++ (chainEnd (t :: r) ++ x)) := by
  rw [comparedChars, List.cons_append, List.append_assoc]

/-- What a field is compared with is told from its boost and from what follows the clause. -/
theorem comparedChars_append_inj {k l : List String} {b d : Option BoostText} {x y : List Char}
    (hx : StartsOutside isInsideClause x) (hy : StartsOutside isInsideClause y)
    (h : comparedChars k ++ (boostChars b ++ x) = comparedChars l ++ (boostChars d ++ y)) :
    k = l ∧ boostChars b ++ x = boostChars d ++ y := by
  rcases k with _ | ⟨s, _ | ⟨u, r⟩⟩ <;> rcases l with _ | ⟨t, _ | ⟨v, q⟩⟩
  · exact ⟨rfl, List.append_cancel_left h⟩
  · rw [comparedChars_nil_append, comparedChars_single] at h
    exact absurd h.symm (ne_literal d hy (Or.inl rfl))
  · rw [comparedChars_nil_append, comparedChars_chain_append] at h
    exact absurd (List.head_eq_of_cons_eq h) (by decide)
  · rw [comparedChars_nil_append, comparedChars_single] at h
    exact absurd h (ne_literal b hx (Or.inl rfl))
  · rw [comparedChars_single, comparedChars_single] at h
    obtain ⟨rfl, hrest⟩ := literal_append_inj (endsLiteral_boost hx b) (endsLiteral_boost hy d) h
    exact ⟨rfl, hrest⟩
  · rw [comparedChars_single, comparedChars_chain_append] at h
    exact absurd h (ne_literal b hx (Or.inr rfl))
  · rw [comparedChars_nil_append, comparedChars_chain_append] at h
    exact absurd (List.head_eq_of_cons_eq h) (by decide)
  · rw [comparedChars_single, comparedChars_chain_append] at h
    exact absurd h.symm (ne_literal d hy (Or.inr rfl))
  · rw [comparedChars_chain_append, comparedChars_chain_append] at h
    obtain ⟨rfl, hrest⟩ := literal_append_inj (endsLiteral_chainEnd _ _)
      (endsLiteral_chainEnd _ _) (List.tail_eq_of_cons_eq h)
    obtain ⟨htail, hxy⟩ := chainEnd_append_inj hrest
    exact ⟨by rw [htail], hxy⟩

theorem boostChars_append_inj {b d : Option BoostText} {x y : List Char}
    (hx : StartsOutside isInsideClause x) (hy : StartsOutside isInsideClause y)
    (h : boostChars b ++ x = boostChars d ++ y) : b = d ∧ x = y := by
  cases b with
  | none =>
    cases d with
    | none => exact ⟨rfl, h⟩
    | some d =>
      have := hx '^' (by rw [show x = _ from h]; rfl)
      exact absurd this (by decide)
  | some b =>
    cases d with
    | none =>
      have := hy '^' (by rw [← show _ = y from h]; rfl)
      exact absurd this (by decide)
    | some d =>
      have hinside : ∀ b : BoostText, ∀ c ∈ b.text.toList, isInsideClause c = true := by
        intro b c hc
        obtain ⟨hspace, hclose⟩ := b.closed c hc
        simp [isInsideClause, hspace, hclose]
      obtain ⟨htext, hxy⟩ :=
        run_append_inj (hinside b) (hinside d) hx hy (List.tail_eq_of_cons_eq h)
      obtain ⟨b, hb⟩ := b
      obtain ⟨d, hd⟩ := d
      cases String.toList_inj.mp htext
      exact ⟨rfl, hxy⟩

/-! ## Clauses and chains -/

mutual

/-- A clause is told from what follows it. -/
theorem Outline.chars_append_inj : ∀ {o p : Outline} {x y : List Char},
    StartsOutside isInsideClause x → StartsOutside isInsideClause y →
    o.chars ++ x = p.chars ++ y → o = p ∧ x = y
  | .leaf m v k b, .leaf n w l d, x, y, hx, hy, h => by
    simp only [Outline.chars, List.append_assoc, List.cons_append] at h
    obtain ⟨rfl, hname⟩ := signChars_append_inj (fun c hc => (v.head _ c hc).1)
      (fun c hc => (w.head _ c hc).1) h
    obtain ⟨rfl, hvalue⟩ := SimpleName.append_inj hname
    obtain ⟨rfl, hboost⟩ := comparedChars_append_inj hx hy hvalue
    obtain ⟨rfl, hrest⟩ := boostChars_append_inj hx hy hboost
    exact ⟨rfl, hrest⟩
  | .leaf m v k b, .group n q, x, y, _, _, h => by
    simp only [Outline.chars, List.append_assoc, List.cons_append] at h
    obtain ⟨-, hname⟩ := signChars_append_inj (fun c hc => (v.head _ c hc).1)
      (parenthesis_head _) h
    exact absurd rfl (v.head _ '(' (by rw [hname]; rfl)).2
  | .group m q, .leaf n w l d, x, y, _, _, h => by
    simp only [Outline.chars, List.append_assoc, List.cons_append] at h
    obtain ⟨-, hname⟩ := signChars_append_inj (parenthesis_head _)
      (fun c hc => (w.head _ c hc).1) h
    exact absurd rfl (w.head _ '(' (by rw [← hname]; rfl)).2
  | .group m q, .group n r, x, y, _, _, h => by
    simp only [Outline.chars, List.append_assoc, List.cons_append] at h
    obtain ⟨rfl, hopen⟩ := signChars_append_inj (parenthesis_head _) (parenthesis_head _) h
    obtain ⟨rfl, hclose⟩ := Outlines.chars_append_inj (startsOutside_parenthesis _)
      (startsOutside_parenthesis _) (List.tail_eq_of_cons_eq hopen)
    exact ⟨rfl, List.tail_eq_of_cons_eq hclose⟩

/-- A chain of clauses is told from what follows its group. -/
theorem Outlines.chars_append_inj : ∀ {q r : Outlines} {x y : List Char},
    StartsOutside isInsideGroup x → StartsOutside isInsideGroup y →
    q.chars ++ x = r.chars ++ y → q = r ∧ x = y
  | .last o, .last p, x, y, hx, hy, h => by
    simp only [Outlines.chars] at h
    obtain ⟨rfl, hrest⟩ := Outline.chars_append_inj (startsOutside_clause_of_group hx)
      (startsOutside_clause_of_group hy) h
    exact ⟨rfl, hrest⟩
  | .last o, .link p j r, x, y, hx, _, h => by
    simp only [Outlines.chars, List.append_assoc] at h
    obtain ⟨-, hrest⟩ := Outline.chars_append_inj (startsOutside_clause_of_group hx)
      (startsOutside_separator j _) h
    exact absurd hrest (ne_separator hx j _)
  | .link o i q, .last p, x, y, _, hy, h => by
    simp only [Outlines.chars, List.append_assoc] at h
    obtain ⟨-, hrest⟩ := Outline.chars_append_inj (startsOutside_separator i _)
      (startsOutside_clause_of_group hy) h
    exact absurd hrest.symm (ne_separator hy i _)
  | .link o i q, .link p j r, x, y, hx, hy, h => by
    simp only [Outlines.chars, List.append_assoc] at h
    obtain ⟨rfl, hlink⟩ := Outline.chars_append_inj (startsOutside_separator i _)
      (startsOutside_separator j _) h
    obtain ⟨rfl, hrest⟩ := separator_append_inj hlink
    obtain ⟨rfl, hend⟩ := Outlines.chars_append_inj hx hy hrest
    exact ⟨rfl, hend⟩

end

/-! ## Query texts -/

theorem Outlines.chars_inj {q r : Outlines} (h : q.chars = r.chars) : q = r :=
  (Outlines.chars_append_inj startsOutside_nil startsOutside_nil (congrArg (· ++ []) h)).1

theorem text_eq_iff_clauses_eq {o p : Option Outline} :
    o.map (·.text false) = p.map (·.text false) ↔
      o.map Outline.clauses = p.map Outline.clauses := by
  have htext : ∀ o : Option Outline,
      o.map (·.text false) = (o.map Outline.clauses).map fun q => String.ofList q.chars := by
    intro o
    cases o <;> rfl
  rw [htext, htext]
  constructor
  · intro h
    refine Option.map_injective (fun q r hqr => Outlines.chars_inj ?_) h
    simpa using congrArg String.toList hqr
  · exact fun h => by rw [h]

/-- **Unambiguity.** Under the default compiler every plain tree has a query text, or is left out
when nothing is left of it, and two plain trees have one text exactly when they read the same. -/
theorem Node.fragment_eq_iff_reading_eq (domain : Option String) {m n : Node} (hm : m.Plain)
    (hn : n.Plain) :
    ∃ a b, m.fragment ⟨.default, domain⟩ false = .ok a ∧
      n.fragment ⟨.default, domain⟩ false = .ok b ∧
      (a = none ↔ m.reading = none) ∧ (a = b ↔ m.reading = n.reading) := by
  refine ⟨_, _, Node.fragment_plain domain false m hm, Node.fragment_plain domain false n hn, ?_,
    text_eq_iff_clauses_eq⟩
  rw [Node.reading, Option.map_eq_none_iff, Option.map_eq_none_iff]

/-- A field that has to be there, with a boost of the criteria and one of the field. -/
def presence (own ofField : Option Single) : Node :=
  .criteria { Criteria.on ⟨"a", ofField⟩ with boost := own }

theorem isSimpleName_a : IsSimpleName "a" := by decide +kernel

theorem presence_plain {own ofField : Option Single}
    (h : ∀ b, own = some b → b.isFinite = true ∧ b.isBelowZero = false) :
    (presence own ofField).Plain :=
  Node.plain_criteria.mpr { Criteria.plain_on (f := ⟨"a", ofField⟩) isSimpleName_a with boost := h }

theorem presence_reading (own ofField : Option Single) :
    (presence own ofField).reading =
      some (.last (.leaf false ⟨"a", isSimpleName_a⟩ [] ((own.or ofField).map .of))) := by
  have houtline : (presence own ofField).outline =
      some (.leaf false ⟨"a", isSimpleName_a⟩ [] ((own.or ofField).map .of)) := by
    rw [presence, Node.outline]
    exact dif_pos ⟨isSimpleName_a, .inl rfl⟩
  rw [Node.reading, houtline]
  rfl

/-- A clause of its own in a group is not the same as the clauses it is made of. A boost is not the
same as none or another one, whether it is that of a criteria or that of its field, but the boost of
the field does not count beside that of the criteria. -/
theorem precedence_and_boosts_kept :
    let s : Scope := ⟨.default, none⟩
    let a : Node := .criteria ((Criteria.on ⟨"a", none⟩).equalTo (.text "1 OR b:2"))
    let b : Node := .criteria ((Criteria.on ⟨"b", none⟩).equalTo (.text ""))
    let c : Node := .criteria (Criteria.on ⟨"c", none⟩)
    let inner : Node := .grouped [(.and, a), (.or, .grouped [(.and, b), (.and, c)])]
    let flat : Node := .grouped [(.and, a), (.or, b), (.and, c)]
    let two : Single := Floating.ofNat 2
    let three : Single := Floating.ofNat 3
    (inner.Plain ∧ flat.Plain ∧ inner.fragment s false ≠ flat.fragment s false) ∧
      ((presence none none).Plain ∧ (presence (some two) none).Plain ∧
        (presence none none).fragment s false ≠ (presence (some two) none).fragment s false) ∧
      ((presence none (some two)).Plain ∧ (presence none (some three)).Plain ∧
        (presence none (some two)).fragment s false ≠
          (presence none (some three)).fragment s false) ∧
      ((presence (some two) (some three)).Plain ∧
        (presence (some two) (some three)).fragment s false =
          (presence (some two) none).fragment s false) := by
  intro s a b c inner flat two three
  have ha : a.Plain := Node.plain_criteria.mpr
    ((Criteria.plain_on (by decide +kernel)).equalTo (Or.inr ⟨_, rfl⟩))
  have hb : b.Plain := Node.plain_criteria.mpr
    ((Criteria.plain_on (by decide +kernel)).equalTo (Or.inr ⟨_, rfl⟩))
  have hc : c.Plain := Node.plain_criteria.mpr (Criteria.plain_on (by decide +kernel))
  have hinner : inner.Plain := by
    simp only [inner, Node.grouped, List.map_cons, List.map_nil, Node.Plain, ClauseGroup.Plain,
      ClauseGroup.ClausesPlain]
    exact ⟨ha, ⟨hb, hc, trivial⟩, trivial⟩
  have hflat : flat.Plain := by
    simp only [flat, Node.grouped, List.map_cons, List.map_nil, Node.Plain, ClauseGroup.Plain,
      ClauseGroup.ClausesPlain]
    exact ⟨ha, hb, hc, trivial⟩
  have hown : ∀ {ofField : Option Single}, (presence (some two) ofField).Plain := by
    intro ofField
    refine presence_plain ?_
    rintro _ ⟨⟩
    decide +kernel
  have hnone : ∀ {ofField : Option Single}, (presence none ofField).Plain :=
    presence_plain nofun
  have hboosts : BoostText.of two ≠ .of three := by
    intro h
    have htexts : two.text ≠ three.text := by decide +kernel
    exact htexts (congrArg BoostText.text h)
  have compared : ∀ {m n : Node}, m.Plain → n.Plain →
      (m.fragment s false = n.fragment s false ↔ m.reading = n.reading) := by
    intro m n hm hn
    obtain ⟨t, u, ht, hu, -, hiff⟩ := Node.fragment_eq_iff_reading_eq none hm hn
    rw [ht, hu, Except.ok.injEq, hiff]
  refine ⟨⟨hinner, hflat, ?_⟩, ⟨hnone, hown, ?_⟩, ⟨hnone, hnone, ?_⟩, hown, ?_⟩
  · rw [ne_eq, compared hinner hflat]
    intro hreading
    cases hreading
  · rw [ne_eq, compared hnone hown, presence_reading, presence_reading]
    intro hreading
    cases hreading
  · rw [ne_eq, compared hnone hnone, presence_reading, presence_reading]
    intro hreading
    injection hreading with hclauses
    injection hclauses with hleaf
    injection hleaf with _ _ _ hboost
    exact hboosts (Option.some.inj hboost)
  · rw [compared hown hown, presence_reading, presence_reading]
    rfl

end SolrRequest
