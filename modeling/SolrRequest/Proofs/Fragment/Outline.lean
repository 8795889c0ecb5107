import SolrRequest.Fragment.Render
import SolrRequest.Proofs.Number.Plain
import SolrRequest.Text.Alphanumeric

/-!
# Outlines of plain trees

A *plain* tree is built of groups over criteria that compare a field of a simple name with texts or
with null. Its *outline* says what is left of it in a query text: predicates that compare with null
are gone, and so are criteria and groups with nothing left in them, the keys of predicates, and the
link in front of the first clause of a group. Boosts stay: that of a criteria, or else that of its
field.

* `Node.outline` is the outline of a tree, and `Node.reading` the chain of clauses that it is at
  the root of a query, where a group that is not negated has no parentheses of its own.
* `Node.fragment_plain` says that the text of a plain tree is that of its outline.
-/

namespace SolrRequest

open Number Text

/-! ## Names and boosts -/

/-- A letter, a digit, an underscore or a point. -/
def isNameChar (c : Char) : Bool :=
  isAlphanumeric c || c == '_' || c == '.'

/-- A text of letters, digits, underscores and points. -/
def IsSimpleName (s : String) : Prop :=
  s.toList ≠ [] ∧ ∀ c ∈ s.toList, isNameChar c = true

instance (s : String) : Decidable (IsSimpleName s) :=
  decidable_of_iff (s.toList ≠ [] ∧ s.toList.all isNameChar = true) (by simp [IsSimpleName])

/-- A simple name of a field. -/
structure SimpleName where
  text : String
  isSimple : IsSimpleName text
deriving DecidableEq

/-- The text of a boost, which holds neither a space nor a closing parenthesis. -/
structure BoostText where
  text : String
  closed : ∀ c ∈ text.toList, c ≠ ' ' ∧ c ≠ ')'
deriving DecidableEq

theorem isSpace_of_isAlphanumeric {c : Char} (h : isAlphanumeric c = true) : isSpace c = false := by
  have hapart : alphanumericRanges.all (fun r => whiteSpaceRanges.all fun s =>
      decide (r.last < s.1) || decide (s.2 < r.first)) = true := by decide +kernel
  obtain ⟨r, hr, hc⟩ := List.any_eq_true.mp h
  rw [Bool.eq_false_iff]
  intro hs
  obtain ⟨s, hs, hcs⟩ := List.any_eq_true.mp hs
  have hrs := List.all_eq_true.mp (List.all_eq_true.mp hapart r hr) s hs
  simp only [CodeRange.holds, Bool.and_eq_true, decide_eq_true_eq] at hc hcs
  simp only [Bool.or_eq_true, decide_eq_true_eq] at hrs
  omega

theorem isSpace_of_isNameChar {c : Char} (h : isNameChar c = true) : isSpace c = false := by
  simp only [isNameChar, Bool.or_eq_true, beq_iff_eq] at h
  rcases h with (h | rfl) | rfl
  · exact isSpace_of_isAlphanumeric h
  · decide
  · decide

theorem IsSimpleName.not_blank {s : String} (h : IsSimpleName s) : isBlank s = false := by
  obtain ⟨hne, hall⟩ := h
  obtain ⟨c, hc⟩ := List.exists_mem_of_ne_nil _ hne
  rw [isBlank, List.all_eq_false]
  exact ⟨c, hc, by simp [isSpace_of_isNameChar (hall c hc)]⟩

/-- The text of a number has neither spaces nor parentheses. -/
theorem boostText_closed (x : Single) : ∀ c ∈ x.text.toList, c ≠ ' ' ∧ c ≠ ')' := by
  intro c hc
  have hmem := Floating.mem_text hc
  constructor
  · rintro rfl
    revert hmem
    decide
  · rintro rfl
    revert hmem
    decide

def BoostText.of (x : Single) : BoostText := ⟨x.text, boostText_closed x⟩

/-! ## Outlines -/

mutual

/-- What is left of a criteria or a group in a query text. -/
inductive Outline where
  /-- A field is compared with texts; without any, it only has to be there. -/
  | leaf (negating : Bool) (name : SimpleName) (texts : List String) (boost : Option BoostText)
  | group (negating : Bool) (clauses : Outlines)

/-- One clause or more, with the links between them. -/
inductive Outlines where
  | last (o : Outline)
  | link (o : Outline) (junction : Junction) (rest : Outlines)

end

/-- The chain of a first clause and linked ones. -/
def Outlines.ofLinks (first : Outline) : List (Junction × Outline) → Outlines
  | [] => .last first
  | (junction, o) :: r => .link first junction (ofLinks o r)

/-- The chain of linked clauses, if there are any; the link of the first one is dropped. -/
def Outlines.ofList? : List (Junction × Outline) → Option Outlines
  | [] => none
  | (_, o) :: r => some (ofLinks o r)

/-- The clauses of an outline at the root of a query. -/
def Outline.clauses : Outline → Outlines
  | .group false clauses => clauses
  | o => .last o

/-- The text that a predicate compares with, unless it is null. -/
def Predicate.comparedText? (p : Predicate) : Option String :=
  match p.payload with
  | .single (.text s) => some s
  | _ => none

/-- The outline of a criteria on a field of a simple name. Of two boosts the one of the criteria is
kept, and that of the field is only kept when there is no other one. -/
def Criteria.outline (c : Criteria) : Option Outline :=
  match c.field with
  | none => none
  | some f =>
    let texts := c.predicates.filterMap Predicate.comparedText?
    if h : IsSimpleName f.name ∧ (c.predicates = [] ∨ texts ≠ []) then
      some (.leaf c.negating ⟨f.name, h.1⟩ texts ((c.boost.or f.boost).map .of))
    else none

mutual

def Node.outline : Node → Option Outline
  | .criteria c => c.outline
  | .raw _ => none
  | .group g => g.outline

def ClauseGroup.outline : ClauseGroup → Option Outline
  | ⟨clauses, negating, _⟩ =>
    (Outlines.ofList? (ClauseGroup.links clauses)).map (.group negating)

/-- The clauses that are left, with their links. -/
def ClauseGroup.links : List Clause → List (Junction × Outline)
  | [] => []
  | ⟨junction, node⟩ :: r =>
    match node.outline with
    | none => ClauseGroup.links r
    | some o => (junction, o) :: ClauseGroup.links r

end

/-- What a tree says at the root of a query. -/
def Node.reading (n : Node) : Option Outlines :=
  n.outline.map Outline.clauses

/-! ## The texts of outlines -/

def signChars (negating : Bool) : List Char :=
  if negating then ['-'] else []

/-- Further literals of a chain, a space in front of each, and the parenthesis that closes it. -/
def chainEnd : List String → List Char
  | [] => [')']
  | s :: r => ' ' :: ((literal s).toList ++ chainEnd r)

/-- What a field is compared with. -/
def comparedChars : List String → List Char
  | [] => ['[', '*', ' ', 'T', 'O', ' ', '*', ']']
  | [s] => (literal s).toList
  | s :: t :: r => '(' :: ((literal s).toList ++ chainEnd (t :: r))

def boostChars : Option BoostText → List Char
  | none => []
  | some b => '^' :: b.text.toList

mutual

/-- The text of an outline inside of a group. -/
def Outline.chars : Outline → List Char
  | .leaf negating name texts boost =>
    signChars negating ++ (name.text.toList ++ ':' :: (comparedChars texts ++ boostChars boost))
  | .group negating clauses => signChars negating ++ '(' :: (clauses.chars ++ [')'])

def Outlines.chars : Outlines → List Char
  | .last o => o.chars
  | .link o junction rest => o.chars ++ (junction.separator.toList ++ rest.chars)

end

/-- The text of an outline, at the root or inside of a group. -/
def Outline.text (nested : Bool) (o : Outline) : String :=
  String.ofList (if nested then o.chars else o.clauses.chars)

theorem chars_ofLinks_nil (o : Outline) : (Outlines.ofLinks o []).chars = o.chars := by
  rw [Outlines.ofLinks, Outlines.chars]

theorem chars_ofLinks_cons (o next : Outline) (junction : Junction)
    (r : List (Junction × Outline)) :
    (Outlines.ofLinks o ((junction, next) :: r)).chars =
      o.chars ++ (junction.separator.toList ++ (Outlines.ofLinks next r).chars) := by
  rw [Outlines.ofLinks, Outlines.chars]

/-! ## Plain trees -/

/-- A predicate that compares with a text or with null, whatever its key says in other words. -/
structure Predicate.Plain (p : Predicate) : Prop where
  key : p.operation? = none ∨ p.operation? = some .equals
  payload : p.payload = .null ∨ ∃ s, p.payload = .single (.text s)

/-- A criteria of plain predicates on a field of a simple name. -/
structure Criteria.Plain (c : Criteria) : Prop where
  field : ∃ f, c.field = some f ∧ IsSimpleName f.name
  predicates : ∀ p ∈ c.predicates, p.Plain
  boost : ∀ b, c.boost = some b → b.isFinite = true ∧ b.isBelowZero = false

mutual

def Node.Plain : Node → Prop
  | .criteria c => c.Plain
  | .raw _ => False
  | .group g => g.Plain

def ClauseGroup.Plain : ClauseGroup → Prop
  | ⟨clauses, _, _⟩ => ClauseGroup.ClausesPlain clauses

def ClauseGroup.ClausesPlain : List Clause → Prop
  | [] => True
  | ⟨_, node⟩ :: r => node.Plain ∧ ClauseGroup.ClausesPlain r

end

theorem Node.plain_criteria {c : Criteria} : (Node.criteria c).Plain ↔ c.Plain := by
  rw [Node.Plain]

theorem Criteria.plain_on {f : Field} (h : IsSimpleName f.name) : (Criteria.on f).Plain where
  field := ⟨f, rfl, h⟩
  predicates := by
    intro p hp
    cases hp
  boost := by
    intro b hb
    cases hb

theorem Criteria.Plain.equalTo {c : Criteria} (h : c.Plain) {v : Value}
    (hv : v = .null ∨ ∃ s, v = .text s) : (c.equalTo v).Plain where
  field := h.field
  predicates := by
    intro p hp
    rcases List.mem_append.mp hp with hp | hp
    · exact h.predicates p hp
    · rw [List.mem_singleton.mp hp]
      refine ⟨Or.inr rfl, ?_⟩
      rcases hv with rfl | ⟨s, rfl⟩
      · exact Or.inl rfl
      · exact Or.inr ⟨s, rfl⟩
  boost := h.boost

/-! ## Texts of plain criteria -/

theorem check_of_plain {c : Criteria} (h : c.Plain) : c.check = .ok () := by
  have hp : ∀ l : List Predicate, (∀ p ∈ l, p.Plain) →
      (l.forM fun p => p.payload.check : Except Error Unit) = .ok () := by
    intro l
    induction l with
    | nil => exact fun _ => rfl
    | cons p r ih =>
      intro hl
      have hcheck : p.payload.check = .ok () := by
        obtain hnull | ⟨s, hs⟩ := (hl p List.mem_cons_self).payload
        · rw [hnull]; rfl
        · rw [hs]; rfl
      show (p.payload.check >>= fun _ => r.forM fun p => p.payload.check) = .ok ()
      rw [hcheck]
      exact ih fun q hq => hl q (List.mem_cons_of_mem _ hq)
  unfold Criteria.check
  cases hb : c.boost with
  | none => exact hp c.predicates h.predicates
  | some b =>
    obtain ⟨hfinite, hbelow⟩ := h.boost b hb
    simp only [checkBoost, hfinite, hbelow]
    exact hp c.predicates h.predicates

/-- A plain predicate is written as the literal of its text, and left out when it has none. -/
theorem fragment_of_plain {p : Predicate} (h : p.Plain) (s : Scope) (field : Option Field) :
    (Rule.find p >>= fun rule => p.fragment s rule field) =
      .ok (p.comparedText?.map literal) := by
  have hrule : Rule.ofOperation p.operation? = .literal := by
    rcases h.key with hk | hk <;> rw [hk] <;> rfl
  rw [Rule.find_eq, hrule]
  obtain ⟨key, payload⟩ := p
  obtain hnull | ⟨t, ht⟩ := h.payload
  · cases hnull
    rfl
  · cases ht
    rfl

theorem predicateFragments_plain {l : List Predicate} (h : ∀ p ∈ l, p.Plain) (s : Scope)
    (field : Option Field) :
    Criteria.predicateFragments s field l =
      .ok (l.map fun p => p.comparedText?.map literal) := by
  induction l with
  | nil => rfl
  | cons p r ih =>
    have hp := fragment_of_plain (h p List.mem_cons_self) s field
    rw [Rule.find_eq] at hp
    rw [Criteria.predicateFragments, Rule.find_eq, ih fun q hq => h q (List.mem_cons_of_mem _ hq)]
    simp only [bind, Except.bind] at hp ⊢
    rw [hp]
    rfl

/-- No plain predicate names the field itself. -/
theorem fieldText_plain {c : Criteria} (h : ∀ p ∈ c.predicates, p.Plain) (name : String) :
    c.fieldText (some name) = name ++ ":" := by
  have hany : (c.predicates.any fun p => (p.operation?.map (·.namesField)).getD false) = false := by
    rw [List.any_eq_false]
    intro p hp
    rcases (h p hp).key with hk | hk <;> rw [hk] <;> decide
  simp [Criteria.fieldText, hany]

theorem toList_intercalate_literals (s : String) (texts : List String) :
    (" ".intercalate ((s :: texts).map literal)).toList ++ [')'] =
      (literal s).toList ++ chainEnd texts := by
  induction texts generalizing s with
  | nil => simp [chainEnd]
  | cons t r ih =>
    rw [chainEnd, ← ih t]
    simp [String.intercalate_cons_cons]

theorem toList_chainText {texts : List String} (h : texts ≠ []) :
    (chainText (texts.map literal)).toList = comparedChars texts := by
  match texts, h with
  | [s], _ => rfl
  | s :: t :: r, _ =>
    have htext : chainText ((s :: t :: r).map literal) =
        "(" ++ " ".intercalate ((s :: t :: r).map literal) ++ ")" := by
      simp [chainText]
    rw [htext, comparedChars, ← toList_intercalate_literals]
    simp

theorem toList_boostText (boost : Option Single) :
    (boostText boost).toList = boostChars (boost.map .of) := by
  cases boost with
  | none => rfl
  | some b => simp [boostText, boostChars, BoostText.of]

/-- The boost that is written is the one that outlines keep. -/
theorem effectiveBoost_of_field {c : Criteria} {f : Field} (hf : c.field = some f) :
    c.effectiveBoost = c.boost.or f.boost := by
  rw [Criteria.effectiveBoost, hf, Option.bind_some]

/-- The default compiler leaves the names of fields as they are. -/
theorem fieldName_default {f : Field} (h : IsSimpleName f.name) (domain : Option String) :
    Scope.fieldName ⟨.default, domain⟩ f = .ok f.name := by
  have hname : FieldMappings.empty.resolve domain f = f.name := by
    cases domain <;> rfl
  simp [Scope.fieldName, Field.check, h.not_blank, Compiler.default, hname, bind, Except.bind,
    pure, Except.pure]

theorem criteriaFragment_plain {c : Criteria} (h : c.Plain) (domain : Option String) :
    c.fragment ⟨.default, domain⟩ =
      .ok (c.outline.map fun o => String.ofList o.chars) := by
  obtain ⟨f, hf, hword⟩ := h.field
  obtain ⟨field, predicates, negating, boost⟩ := c
  cases hf
  rw [Criteria.fragment, check_of_plain h, predicateFragments_plain h.predicates]
  simp only [bind, Except.bind, Scope.fieldName?, Functor.map, Except.map,
    fieldName_default hword, pure, Except.pure, Except.ok.injEq]
  have htexts : (predicates.map fun p => p.comparedText?.map literal).filterMap id =
      (predicates.filterMap Predicate.comparedText?).map literal := by
    rw [List.filterMap_map, List.map_filterMap]
    rfl
  rw [htexts, Criteria.assemble, Criteria.outline, effectiveBoost_of_field rfl]
  dsimp only
  cases predicates with
  | nil =>
    rw [dif_pos ⟨hword, Or.inl rfl⟩, if_pos List.isEmpty_nil, Option.map_some, Option.map_some]
    congr 1
    apply String.toList_inj.mp
    cases negating <;>
      simp [Outline.chars, signChars, comparedChars, toList_boostText]
  | cons p r =>
    by_cases ht : (p :: r).filterMap Predicate.comparedText? = []
    · simp [ht]
    · rw [dif_pos ⟨hword, Or.inr ht⟩, Option.map_some, if_neg (by simp), if_neg (by simpa using ht)]
      congr 1
      apply String.toList_inj.mp
      rw [fieldText_plain h.predicates]
      cases negating <;>
        simp [Outline.chars, signChars, toList_boostText, toList_chainText ht]

/-! ## Texts of plain trees -/

/-- What a clause contributes to the text of its group. -/
def Clause.part (c : Clause) : Junction × Option String :=
  (c.junction, c.node.outline.map (·.text true))

/-- Joining clauses behind the text of an outline appends the texts of the clauses that are left. -/
theorem foldl_parts (clauses : List Clause) (start : List Char) (o : Outline) (body : String)
    (hbody : body.toList = start ++ o.chars) :
    ((clauses.map Clause.part).foldl (fun body clause =>
      match clause with
      | (_, none) => body
      | (junction, some next) => body ++ junction.separator ++ next) body).toList =
      start ++ (Outlines.ofLinks o (ClauseGroup.links clauses)).chars := by
  induction clauses generalizing start o body with
  | nil => rw [ClauseGroup.links, chars_ofLinks_nil]; exact hbody
  | cons c r ih =>
    obtain ⟨junction, node⟩ := c
    rw [ClauseGroup.links]
    cases hn : node.outline with
    | none =>
      simp only [List.map_cons, List.foldl_cons, Clause.part, hn, Option.map_none]
      exact ih start o body hbody
    | some next =>
      simp only [List.map_cons, List.foldl_cons, Clause.part, hn, Option.map_some]
      rw [chars_ofLinks_cons, ih (start ++ o.chars ++ junction.separator.toList) next]
      · simp
      · simp [hbody, Outline.text]

theorem joinClauses_parts (clauses : List Clause) :
    joinClauses (clauses.map Clause.part) =
      (Outlines.ofList? (ClauseGroup.links clauses)).map fun o => String.ofList o.chars := by
  induction clauses with
  | nil => rfl
  | cons c r ih =>
    obtain ⟨junction, node⟩ := c
    rw [ClauseGroup.links]
    cases hn : node.outline with
    | none =>
      simp only [List.map_cons, Clause.part, hn, Option.map_none, joinClauses]
      exact ih
    | some o =>
      simp only [List.map_cons, Clause.part, hn, Option.map_some, joinClauses, Outlines.ofList?,
        Option.some.injEq]
      apply String.toList_inj.mp
      rw [String.toList_ofList]
      exact foldl_parts r [] o _ (by simp [Outline.text])

theorem enclose_chars (nested negating : Bool) (clauses : Outlines) :
    enclose nested negating (String.ofList clauses.chars) =
      (Outline.group negating clauses).text nested := by
  apply String.toList_inj.mp
  cases negating <;> cases nested <;>
    simp [enclose, Outline.text, Outline.chars, Outline.clauses, Outlines.chars, signChars]

mutual

/-- **Texts of plain trees.** The text of a plain tree is that of its outline; there is none when
nothing is left of the tree. -/
theorem Node.fragment_plain (domain : Option String) (nested : Bool) :
    ∀ n : Node, n.Plain →
      n.fragment ⟨.default, domain⟩ nested = .ok (n.outline.map (·.text nested))
  | .criteria c, h => by
    rw [Node.fragment, criteriaFragment_plain h]
    have htext : ∀ o, c.outline = some o → String.ofList o.chars = o.text nested := by
      intro o ho
      rw [Outline.text]
      cases nested with
      | true => rfl
      | false =>
        unfold Criteria.outline at ho
        split at ho
        · cases ho
        · dsimp only at ho
          split at ho
          · cases ho
            rfl
          · cases ho
    rw [Node.outline]
    cases ho : c.outline with
    | none => rfl
    | some o => rw [Option.map_some, Option.map_some, htext o ho]
  | .raw _, h => absurd h (by simp [Node.Plain])
  | .group ⟨clauses, negating, chained⟩, h => by
    rw [Node.fragment, ClauseGroup.fragment,
      ClauseGroup.clauseFragments_plain domain clauses
        (by simpa [Node.Plain, ClauseGroup.Plain] using h)]
    simp only [bind, Except.bind, pure, Except.pure, Except.ok.injEq]
    rw [joinClauses_parts, Node.outline, ClauseGroup.outline]
    cases Outlines.ofList? (ClauseGroup.links clauses) with
    | none => rfl
    | some o => simp only [Option.map_some, enclose_chars]

theorem ClauseGroup.clauseFragments_plain (domain : Option String) :
    ∀ l : List Clause, ClauseGroup.ClausesPlain l →
      ClauseGroup.clauseFragments ⟨.default, domain⟩ l = .ok (l.map Clause.part)
  | [], _ => rfl
  | ⟨junction, node⟩ :: r, h => by
    obtain ⟨hn, hr⟩ : node.Plain ∧ ClauseGroup.ClausesPlain r := by
      simpa [ClauseGroup.ClausesPlain] using h
    rw [ClauseGroup.clauseFragments, Node.fragment_plain domain true node hn,
      ClauseGroup.clauseFragments_plain domain r hr]
    rfl

end

end SolrRequest
