import SolrRequest.Proofs.Request.Acceptance

/-!
# Writing requests step by step

A request can be written in one pass, which adds one parameter after the other to a growing
request, and names every function and query in the moment that its text is written
(`Query.write`). This gives the same requests and the same errors as collecting the sections first
(`Query.write_eq_compile`), so what holds of the sections holds of the pass.

Each step of the pass extends the request by some entries and some named objects
(`Request.extend`), or fails; the steps of a loop add up (`foldlM_extend`).
-/

namespace SolrRequest

/-! ## The pass -/

namespace Request

def start (q : Query) : Request := ⟨.empty, .of q⟩

def add (r : Request) (name value : String) : Request :=
  { r with params := r.params.add name value }

def addOption {α : Type} (r : Request) (name : String) (text : α → String) : Option α → Request
  | none => r
  | some a => r.add name (text a)

def addSwitch (r : Request) (name : String) (on : Bool) : Request :=
  if on then r.add name "true" else r

def addPercent (r : Request) (name : String) (percent : UInt8) : Request :=
  if 0 < percent then r.add name (toString percent.toNat) else r

/-- Names an object by its text, and adds the text. -/
def addObject (r : Request) (name text : String) (o : NamedObject) : Except Error Request := do
  let named ← r.named.assign text o
  return { r with named := named }.add name text

def addSort (s : Scope) (r : Request) (name : String) (sort : Sorting) : Except Error Request :=
  if sort.isEmpty then return r
  else return r.add name (",".intercalate (← sort.mapM (SortOrder.text s)))

def addFilter (s : Scope) (r : Request) (n : Node) : Except Error Request := do
  return match ← n.fragment s false with
    | some text => r.add "fq" text
    | none => r

def addFields (s : Scope) (r : Request) (projection : List Field)
    (calculated : List CalculatedField) : Except Error Request := do
  let names ← projection.mapM s.fieldName
  let texts ← calculated.mapM fun c => c.fragment s
  return if (names ++ texts).isEmpty then r else r.add "fl" (",".intercalate (names ++ texts))

end Request

def GroupOptions.write (s : Scope) (g : GroupOptions) (r : Request) : Except Error Request := do
  if !g.hasGroups then throw .nothingToGroup
  let r := r.add "group" "true"
  let r ← g.fields.foldlM (fun r f => do return r.add "group.field" (← s.fieldName f)) r
  let r ← g.functions.foldlM
    (fun r f => do r.addObject "group.func" (← f.fragment s 0) (.function f)) r
  let r ← g.queries.foldlM
    (fun r q => do r.addObject "group.query" (← q.criteria.queryText s) (.query q)) r
  let r := r.addOption "group.limit" (fun n => toString n.toInt) g.limit
  let r := r.addOption "group.offset" (fun n => toString n.toNat) g.offset
  let r ← r.addSort s "group.sort" g.sort
  let r := r.addSwitch "group.ngroups" g.totalCount
  let r := r.addSwitch "group.main" g.main
  let r := r.addSwitch "group.facet" g.facets
  let r := r.addSwitch "group.truncate" g.truncate
  return r.addPercent "group.cache.percent" g.cachePercent

def FacetOptions.write (s : Scope) (o : FacetOptions) (r : Request) : Except Error Request := do
  if !o.hasFacets then return r
  let r := r.add "facet" "true"
  let r ← o.fields.foldlM (fun r f => do return r.add "facet.field" (← s.fieldName f)) r
  let r ← o.queries.foldlM (fun r n => do return r.add "facet.query" (← n.queryText s)) r
  let r := r.add "facet.limit" (toString o.limit.toNat)
  let r := r.add "facet.mincount" (toString o.minCount.toNat)
  let r := r.add "facet.sort" o.sort.text
  let r := r.addOption "facet.prefix" id o.shownStart
  let r := r.addOption "facet.offset" (fun n => toString n.toNat) o.offset
  return r.addSwitch "facet.missing" o.missing

def Query.writeGroups (s : Scope) (q : Query) (r : Request) : Except Error Request :=
  match q.groupOptions with
  | some g => g.write s r
  | none => pure r

def Query.writeFacets (s : Scope) (q : Query) (r : Request) : Except Error Request :=
  match q.facetOptions with
  | some o => o.write s r
  | none => pure r

/-- Writes the whole request of a query. -/
def Query.write (s : Scope) (q : Query) : Except Error Request := do
  q.check
  let r := (Request.start q).add "q" (← q.criteria.queryText s)
  let r ← q.filters.foldlM (Request.addFilter s) r
  let r ← r.addFields s q.projection q.calculated
  let r ← r.addSort s "sort" q.sort
  let r := r.addOption "start" (fun n => toString n.toNat) q.offset
  let r := r.addOption "rows" (fun n => toString n.toNat)
    (q.rows.or s.compiler.configuration.defaultRows)
  let r := r.addOption "q.op" Operator.text
    (q.operator.or s.compiler.configuration.defaultOperator)
  let r := r.addOption "defType" id q.defType
  let r := r.addOption "qt" id q.handler
  let r := r.addOption "timeAllowed" (fun n => toString n.toNat) q.timeAllowed
  q.writeFacets s (← q.writeGroups s r)

/-! ## Extensions -/

/-- The request with more entries, and more objects named one after the other. -/
def Request.extend (r : Request) (entries : Entries) (names : List (String × NamedObject)) :
    Request :=
  ⟨⟨r.params.entries ++ entries⟩,
    { r.named with names := names.foldl (fun t e => t.insert e.1 e.2) r.named.names }⟩

namespace Request

variable (r : Request)

theorem extend_nil : r.extend [] [] = r := by
  simp only [extend, List.append_nil, List.foldl_nil]

@[simp] theorem extend_extend (a b : Entries) (m n : List (String × NamedObject)) :
    (r.extend a m).extend b n = r.extend (a ++ b) (m ++ n) := by
  simp only [extend, List.append_assoc, List.foldl_append]

theorem add_eq (name value : String) : r.add name value = r.extend [(name, value)] [] := rfl

theorem addOption_eq {α : Type} (name : String) (text : α → String) (o : Option α) :
    r.addOption name text o = r.extend (optionEntry name text o) [] := by
  cases o with
  | none => exact r.extend_nil.symm
  | some a => rfl

theorem addSwitch_eq (name : String) (on : Bool) :
    r.addSwitch name on = r.extend (switchEntry name on) [] := by
  cases on with
  | false => exact r.extend_nil.symm
  | true => rfl

theorem addPercent_eq (name : String) (percent : UInt8) :
    r.addPercent name percent =
      r.extend (if percent = 0 then [] else [(name, toString percent.toNat)]) [] := by
  unfold addPercent
  by_cases hzero : percent = 0
  · subst hzero
    exact r.extend_nil.symm
  · rw [if_pos (UInt8.pos_iff_ne_zero.mpr hzero), if_neg hzero, add_eq]

theorem addObject_eq (name text : String) (o : NamedObject) :
    r.addObject name text o =
      (fun text => r.extend [(name, text)] [(text, o)]) <$> groupName text := by
  unfold addObject NamedQuery.assign groupName
  split <;> rfl

theorem addSort_eq (s : Scope) (name : String) (sort : Sorting) :
    r.addSort s name sort = (r.extend · []) <$> sortEntries s name sort := by
  unfold addSort sortEntries
  cases sort with
  | nil => exact congrArg Except.ok r.extend_nil.symm
  | cons o sort =>
    simp only [List.isEmpty_cons, Bool.false_eq_true, if_false]
    cases horders : (o :: sort).mapM (SortOrder.text s) with
    | error e => rfl
    | ok orders =>
      cases orders with
      | nil =>
        have hlength := (mapM_eq_ok_iff.mp horders).length_eq
        cases hlength
      | cons text orders => rfl

theorem addFields_eq (s : Scope) (projection : List Field) (calculated : List CalculatedField) :
    r.addFields s projection calculated =
      (r.extend · []) <$> fieldEntries s projection calculated := by
  unfold addFields fieldEntries
  cases projection.mapM s.fieldName with
  | error e => rfl
  | ok names =>
    cases calculated.mapM fun c => c.fragment s with
    | error e => rfl
    | ok texts =>
      by_cases hempty : (names ++ texts).isEmpty = true
      · show Except.ok (if (names ++ texts).isEmpty = true then r else _) =
          Except.ok (r.extend (if (names ++ texts).isEmpty = true then [] else _) [])
        rw [if_pos hempty, if_pos hempty, extend_nil]
      · show Except.ok (if (names ++ texts).isEmpty = true then r else _) =
          Except.ok (r.extend (if (names ++ texts).isEmpty = true then [] else _) [])
        rw [if_neg hempty, if_neg hempty, add_eq]

end Request

/-- What the steps of a loop add, one after the other, is what the loop adds. -/
theorem foldlM_extend {α β : Type} {step : Request → α → Except Error Request}
    {f : α → Except Error β} {entries : β → Entries} {names : α → β → List (String × NamedObject)}
    (h : ∀ r a, step r a = (fun b => r.extend (entries b) (names a b)) <$> f a) (l : List α)
    (r : Request) :
    l.foldlM step r = (fun bs => r.extend (bs.flatMap entries)
      ((l.zip bs).flatMap fun e => names e.1 e.2)) <$> l.mapM f := by
  induction l generalizing r with
  | nil => exact congrArg Except.ok r.extend_nil.symm
  | cons a l ih =>
    rw [List.foldlM_cons, List.mapM_cons, h]
    cases f a with
    | error e => rfl
    | ok b =>
      show l.foldlM step (r.extend (entries b) (names a b)) = _
      rw [ih]
      cases l.mapM f with
      | error e => rfl
      | ok bs => exact congrArg Except.ok (r.extend_extend _ _ _ _)

theorem flatMap_nil {α β : Type} (l : List α) : (l.flatMap fun _ => ([] : List β)) = [] :=
  List.flatMap_eq_nil_iff.mpr fun _ _ => rfl

/-- A loop that adds one parameter for each item. -/
theorem foldlM_add {α : Type} (name : String) (text : α → Except Error String) (l : List α)
    (r : Request) :
    l.foldlM (fun r a => do return r.add name (← text a)) r =
      (fun texts => r.extend (texts.map (name, ·)) []) <$> l.mapM text := by
  have hstep : ∀ (r : Request) (a : α), (do return r.add name (← text a) : Except Error Request) =
      (fun value => r.extend [(name, value)] []) <$> text a := by
    intro r a
    cases text a <;> rfl
  rw [foldlM_extend hstep]
  congr 1
  funext texts
  rw [flatMap_nil, ← List.map_eq_flatMap]

/-- A loop that names each item and adds its text. -/
theorem foldlM_addObject {α : Type} (name : String) (text : α → Except Error String)
    (object : α → NamedObject) (l : List α) (r : Request) :
    l.foldlM (fun r a => do r.addObject name (← text a) (object a)) r =
      (fun texts => r.extend (texts.map (name, ·)) (texts.zip (l.map object))) <$>
        l.mapM (fun a => do groupName (← text a)) := by
  have hstep : ∀ (r : Request) (a : α),
      (do r.addObject name (← text a) (object a) : Except Error Request) =
        (fun value => r.extend [(name, value)] [(value, object a)]) <$>
          (do groupName (← text a) : Except Error String) := by
    intro r a
    cases text a with
    | error e => rfl
    | ok value => exact r.addObject_eq name value (object a)
  have hzip : ∀ texts : List String,
      ((l.zip texts).flatMap fun e => [(e.2, object e.1)]) = texts.zip (l.map object) := by
    induction l with
    | nil => exact fun texts => List.zip_nil_right.symm
    | cons a l ih =>
      intro texts
      cases texts with
      | nil => rfl
      | cons text texts => exact congrArg ((text, object a) :: ·) (ih texts)
  rw [foldlM_extend hstep]
  congr 1
  funext texts
  rw [hzip, ← List.map_eq_flatMap]

theorem foldlM_addFilter (s : Scope) (filters : List Node) (r : Request) :
    filters.foldlM (Request.addFilter s) r = (r.extend · []) <$> filterEntries s filters := by
  have hstep : ∀ (r : Request) (n : Node), r.addFilter s n =
      (fun text => r.extend ((text.map ("fq", ·)).toList) []) <$> n.fragment s false := by
    intro r n
    unfold Request.addFilter
    cases n.fragment s false with
    | error e => rfl
    | ok text =>
      cases text with
      | none => exact congrArg Except.ok r.extend_nil.symm
      | some text => rfl
  have hwritten : ∀ texts : List (Option String),
      (texts.flatMap fun text => (text.map ("fq", ·)).toList) =
        (texts.filterMap id).map ("fq", ·) := by
    intro texts
    induction texts with
    | nil => rfl
    | cons text texts ih => cases text <;> simp [ih]
  rw [foldlM_extend hstep]
  unfold filterEntries
  cases filters.mapM fun n => n.fragment s false with
  | error e => rfl
  | ok texts =>
    show Except.ok (r.extend _ _) = Except.ok (r.extend _ [])
    rw [flatMap_nil, hwritten]

/-- Grouping adds its entries, and names its objects by their texts. -/
theorem GroupOptions.write_eq (s : Scope) (g : GroupOptions) (r : Request) :
    g.write s r = do
      let entries ← g.entries s
      let texts ← g.texts s
      return r.extend entries (texts.functions.zip (g.functions.map .function) ++
        texts.queries.zip (g.queries.map .query)) := by
  unfold GroupOptions.write GroupOptions.entries GroupOptions.texts
  unfold FunctionQuery.groupText Query.groupText
  cases g.hasGroups with
  | false => rfl
  | true =>
    simp only [Bool.not_true, Bool.false_eq_true, if_false, foldlM_add, foldlM_addObject]
    simp only [Request.addSort_eq, Request.add_eq, Request.addOption_eq, Request.addSwitch_eq,
      Request.addPercent_eq]
    cases g.fields.mapM s.fieldName with
    | error e => rfl
    | ok fields =>
      cases g.functions.mapM (fun f => do groupName (← f.fragment s 0)) with
      | error e => rfl
      | ok functions =>
        cases g.queries.mapM (fun q => do groupName (← q.criteria.queryText s)) with
        | error e => rfl
        | ok queries =>
          cases sortEntries s "group.sort" g.sort with
          | error e => rfl
          | ok sort =>
            refine congrArg Except.ok ?_
            simp only [Request.extend_extend, List.append_assoc, List.append_nil,
              List.cons_append, List.nil_append]

theorem FacetOptions.write_eq (s : Scope) (o : FacetOptions) (r : Request) :
    o.write s r = (r.extend · []) <$> o.entries s := by
  unfold FacetOptions.write FacetOptions.entries
  cases o.hasFacets with
  | false => exact congrArg Except.ok r.extend_nil.symm
  | true =>
    simp only [Bool.not_true, Bool.false_eq_true, if_false, foldlM_add]
    simp only [Request.add_eq, Request.addOption_eq, Request.addSwitch_eq]
    cases o.fields.mapM s.fieldName with
    | error e => rfl
    | ok fields =>
      cases o.queries.mapM (fun n => n.queryText s) with
      | error e => rfl
      | ok queries =>
        refine congrArg Except.ok ?_
        simp only [Request.extend_extend, List.append_assoc, List.append_nil, List.cons_append,
          List.nil_append]

/-- The objects to group by, each with the text that it is written as. -/
def Query.groupNames (s : Scope) (q : Query) : Except Error (List (String × NamedObject)) :=
  match q.groupOptions with
  | none => pure []
  | some g => do
    let texts ← g.texts s
    return texts.functions.zip (g.functions.map .function) ++
      texts.queries.zip (g.queries.map .query)

theorem Query.namedObjects_eq (s : Scope) (q : Query) :
    q.namedObjects s = Table.ofEntries <$> q.groupNames s := by
  unfold Query.namedObjects Query.groupNames
  cases q.groupOptions with
  | none => rfl
  | some g =>
    dsimp only [GroupOptions.named]
    cases g.texts s <;> rfl

theorem Query.exists_groupNames {s : Scope} {q : Query} {entries : Entries}
    (h : Section.group.entries s q = .ok entries) : ∃ names, q.groupNames s = .ok names := by
  obtain ⟨names, hnames⟩ := Query.exists_namedObjects h
  rw [Query.namedObjects_eq] at hnames
  obtain ⟨names, hnames, -⟩ := map_eq_ok_iff.mp hnames
  exact ⟨names, hnames⟩

theorem Query.writeGroups_eq (s : Scope) (q : Query) (r : Request) :
    q.writeGroups s r = do
      let entries ← Section.group.entries s q
      let names ← q.groupNames s
      return r.extend entries names := by
  unfold Query.writeGroups Query.groupNames Section.entries
  cases q.groupOptions with
  | none => exact congrArg Except.ok r.extend_nil.symm
  | some g =>
    simp only [g.write_eq]
    cases g.entries s with
    | error e => rfl
    | ok entries => cases g.texts s <;> rfl

theorem Query.writeFacets_eq (s : Scope) (q : Query) (r : Request) :
    q.writeFacets s r = (r.extend · []) <$> Section.facet.entries s q := by
  unfold Query.writeFacets Section.entries
  cases q.facetOptions with
  | none => exact congrArg Except.ok r.extend_nil.symm
  | some o => exact o.write_eq s r

/-- **One pass over a query** writes what its sections write. -/
theorem Query.write_eq_compile (c : Compiler) (q : Query) (domain : Option String) :
    q.write ⟨c, domain⟩ = c.compile q domain := by
  unfold Query.write Compiler.compile
  cases q.check with
  | error e => rfl
  | ok _ =>
    simp only [foldlM_addFilter, Request.addFields_eq, Request.addSort_eq, Request.add_eq,
      Request.addOption_eq, Query.writeGroups_eq, Query.writeFacets_eq, Query.namedObjects_eq,
      Section.all, List.mapM_cons, List.mapM_nil]
    generalize hgroup : Section.group.entries ⟨c, domain⟩ q = group
    generalize Section.facet.entries ⟨c, domain⟩ q = facet
    simp only [Section.entries]
    -- the steps that can fail, in the order of the pass
    cases q.criteria.queryText ⟨c, domain⟩ with
    | error e => rfl
    | ok text =>
    cases filterEntries ⟨c, domain⟩ q.filters with
    | error e => rfl
    | ok filters =>
    cases fieldEntries ⟨c, domain⟩ q.projection q.calculated with
    | error e => rfl
    | ok fields =>
    cases sortEntries ⟨c, domain⟩ "sort" q.sort with
    | error e => rfl
    | ok sort =>
    cases group with
    | error e => rfl
    | ok group =>
    obtain ⟨names, hnames⟩ := q.exists_groupNames hgroup
    rw [hnames]
    cases facet with
    | error e => rfl
    | ok facet =>
      refine congrArg Except.ok ?_
      simp only [Request.extend_extend, List.append_assoc, List.append_nil, List.nil_append,
        List.flatten_cons, List.flatten_nil]
      rfl

end SolrRequest
