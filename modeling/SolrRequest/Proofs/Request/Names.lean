import Mathlib.Data.Finset.Card
import Mathlib.Data.List.Induction
import SolrRequest.Proofs.Request.Sections

/-!
# Names of groups

The table of a request has exactly the names that results are grouped by, and under each of them
the last object with this text (`Compiler.compile_names`). What a table of entries holds is decided
by the last entry of each name (`Table.get?_ofEntries_eq_some_iff`); and the entries of this table
are the emitted texts, each with the object that it was written for
(`Compiler.named_eq_ofEntries`).
-/

namespace SolrRequest

open Text

/-! ## Tables of entries -/

/-- An element of a list with one more is that one, or stands in the list. -/
theorem concat_eq_append_cons {β : Type} {l before after : List β} {a b : β}
    (h : l ++ [a] = before ++ b :: after) :
    after = [] ∧ l = before ∧ a = b ∨ ∃ rest, after = rest ++ [a] ∧ l = before ++ b :: rest := by
  rcases List.eq_nil_or_concat after with rfl | ⟨rest, c, rfl⟩
  · obtain ⟨hl, hlast⟩ := List.append_inj' h rfl
    exact .inl ⟨rfl, hl, List.singleton_inj.mp hlast⟩
  · rw [List.concat_eq_append, ← List.cons_append, ← List.append_assoc] at h
    obtain ⟨hl, hlast⟩ := List.append_inj' h rfl
    cases hlast
    exact .inr ⟨rest, List.concat_eq_append, hl⟩

namespace Table

variable {α : Type}

theorem ofEntries_concat (l : List (String × α)) (e : String × α) :
    ofEntries (l ++ [e]) = insert (ofEntries l) e.1 e.2 := by
  simp only [ofEntries, List.foldl_append, List.foldl_cons, List.foldl_nil]

theorem mem_names_ofEntries {l : List (String × α)} {name : String} :
    name ∈ names (ofEntries l) ↔ name ∈ l.map Prod.fst := by
  -- from the right, where the last insertion is
  induction l using List.reverseRecOn with
  | nil => exact Iff.rfl
  | append_singleton l e ih =>
    rw [ofEntries_concat, names_insert, List.map_append, List.mem_append, ← ih]
    split
    · rename_i hmem
      refine ⟨Or.inl, ?_⟩
      rintro (h | h)
      · exact h
      · exact List.mem_singleton.mp h ▸ hmem
    · exact List.mem_append

theorem nodup_names_ofEntries (l : List (String × α)) : (names (ofEntries l)).Nodup := by
  induction l using List.reverseRecOn with
  | nil => exact List.nodup_nil
  | append_singleton l e ih =>
    rw [ofEntries_concat, names_insert]
    split
    · exact ih
    · rename_i hmem
      exact List.nodup_append'.mpr ⟨ih, List.nodup_singleton _, by simpa using hmem⟩

/-- The last entry of a name counts. -/
theorem get?_ofEntries_eq_some_iff {l : List (String × α)} {name : String} {value : α} :
    get? (ofEntries l) name = some value ↔
      ∃ before after, l = before ++ (name, value) :: after ∧ ∀ e ∈ after, e.1 ≠ name := by
  induction l using List.reverseRecOn with
  | nil =>
    constructor
    · intro h
      cases h
    · rintro ⟨before, after, h, -⟩
      cases before <;> cases h
  | append_singleton l e ih =>
    -- the last entry decides about its own name, and about no other
    obtain ⟨key, last⟩ := e
    rw [ofEntries_concat, get?_insert]
    by_cases hkey : key = name
    · subst hkey
      rw [if_pos rfl]
      constructor
      · intro h
        cases h
        exact ⟨l, [], rfl, List.forall_mem_nil _⟩
      · rintro ⟨before, after, h, hafter⟩
        obtain ⟨-, -, hlast⟩ | ⟨rest, rfl, -⟩ := concat_eq_append_cons h
        · cases hlast
          rfl
        · exact absurd rfl (hafter (key, last) List.mem_concat_self)
    · rw [if_neg hkey, ih]
      constructor
      · rintro ⟨before, after, rfl, hafter⟩
        exact ⟨before, after ++ [(key, last)], List.append_assoc _ _ _,
          forall_mem_concat hafter hkey⟩
      · rintro ⟨before, after, h, hafter⟩
        obtain ⟨-, -, hlast⟩ | ⟨rest, rfl, hl⟩ := concat_eq_append_cons h
        · cases hlast
          exact absurd rfl hkey
        · exact ⟨before, rest, hl, (List.forall_mem_append.mp hafter).1⟩

end Table

/-! ## Objects and their texts -/

/-- What results of a query are grouped by: functions, then queries. -/
def Query.groupObjects (q : Query) : List NamedObject :=
  match q.groupOptions with
  | none => []
  | some g => g.functions.map .function ++ g.queries.map .query

/-- The text of an object, written once more. -/
def NamedObject.text (s : Scope) : NamedObject → Except Error String
  | .function f => f.fragment s 0
  | .query q => q.criteria.queryText s

/-- The texts that a request groups by. -/
def Request.groupTexts (r : Request) : List String :=
  r.params.getAll "group.func" ++ r.params.getAll "group.query"

theorem groupName_eq_ok {text name : String} (h : groupName text = .ok name) : name = text := by
  unfold groupName at h
  split at h
  · cases h
  · exact (Except.ok.inj h).symm

theorem forall₂_of_mapM_groupName {α : Type} {text : α → Except Error String} {l : List α}
    {names : List String} (h : l.mapM (fun a => do groupName (← text a)) = .ok names) :
    List.Forall₂ (fun a name => text a = .ok name) l names := by
  refine (mapM_eq_ok_iff.mp h).imp fun a name hname => ?_
  obtain ⟨written, hwritten, hname⟩ := bind_eq_ok_iff.mp hname
  exact groupName_eq_ok hname ▸ hwritten

theorem GroupOptions.texts_spec {s : Scope} {g : GroupOptions} {texts : GroupTexts}
    (h : g.texts s = .ok texts) :
    List.Forall₂ (fun f text => f.fragment s 0 = .ok text) g.functions texts.functions ∧
      List.Forall₂ (fun q text => q.criteria.queryText s = .ok text) g.queries texts.queries := by
  unfold GroupOptions.texts at h
  split at h
  · cases h
  · obtain ⟨fields, -, h⟩ := bind_eq_ok_iff.mp h
    obtain ⟨functions, hfunctions, h⟩ := bind_eq_ok_iff.mp h
    obtain ⟨queries, hqueries, h⟩ := bind_eq_ok_iff.mp h
    cases h
    exact ⟨forall₂_of_mapM_groupName hfunctions, forall₂_of_mapM_groupName hqueries⟩

/-! ## Emitted texts -/

namespace Params

@[simp] theorem getAll_cons (name value : String) (entries : Entries) (other : String) :
    getAll ⟨(name, value) :: entries⟩ other =
      if name = other then value :: getAll ⟨entries⟩ other else getAll ⟨entries⟩ other := by
  by_cases h : name = other <;> simp [getAll, h]

@[simp] theorem getAll_append (a b : Entries) (name : String) :
    getAll ⟨a ++ b⟩ name = getAll ⟨a⟩ name ++ getAll ⟨b⟩ name := by
  simp only [getAll, List.filter_append, List.map_append]

@[simp] theorem getAll_map (values : List String) (name other : String) :
    getAll ⟨values.map (name, ·)⟩ other = if name = other then values else [] := by
  by_cases h : name = other <;> simp [getAll, List.filter_map, Function.comp_def, h]

theorem getAll_eq_nil {names : List String} {entries : Entries} (h : Entries.Under names entries)
    {name : String} (hname : name ∉ names) : getAll ⟨entries⟩ name = [] := by
  refine List.map_eq_nil_iff.mpr (List.filter_eq_nil_iff.mpr fun e he heq => hname ?_)
  exact beq_iff_eq.mp heq ▸ h e he

/-- The values under a name are in the section that writes it. -/
theorem getAll_eq_part (r : Request) (part : Section) {name : String} (h : name ∈ part.names) :
    r.params.getAll name = getAll ⟨r.part part⟩ name := by
  unfold getAll Request.part
  rw [List.filter_filter]
  congr 2
  funext e
  by_cases he : e.1 = name
  · simp [he, h]
  · simp [he]

end Params

theorem GroupOptions.getAll_entries {s : Scope} {g : GroupOptions} {entries : Entries}
    (h : g.entries s = .ok entries) : ∃ texts, g.texts s = .ok texts ∧
      Params.getAll ⟨entries⟩ "group.func" = texts.functions ∧
      Params.getAll ⟨entries⟩ "group.query" = texts.queries := by
  obtain ⟨texts, settings, htexts, hsettings, rfl⟩ := GroupOptions.entries_spec h
  have hfunc : Params.getAll ⟨settings⟩ "group.func" = [] :=
    Params.getAll_eq_nil hsettings (by decide)
  have hquery : Params.getAll ⟨settings⟩ "group.query" = [] :=
    Params.getAll_eq_nil hsettings (by decide)
  exact ⟨texts, htexts, by simp [hfunc], by simp [hquery]⟩

/-- The table is made of the emitted texts, each with the object that it was written for. -/
theorem Compiler.named_eq_ofEntries {c : Compiler} {q : Query} {domain : Option String}
    {r : Request} (h : c.compile q domain = .ok r) :
    List.Forall₂ (fun o text => o.text ⟨c, domain⟩ = .ok text) q.groupObjects r.groupTexts ∧
      r.named = ⟨q, Table.ofEntries (r.groupTexts.zip q.groupObjects)⟩ := by
  have hgroup := (Section.entries_eq_part h).1 .group
  obtain ⟨-, -, h⟩ := bind_eq_ok_iff.mp h
  obtain ⟨sections, -, h⟩ := bind_eq_ok_iff.mp h
  obtain ⟨names, hnames, h⟩ := bind_eq_ok_iff.mp h
  have hnamed : r.named = ⟨q, names⟩ := by
    cases h
    rfl
  unfold Request.groupTexts Query.groupObjects
  rw [hnamed, Params.getAll_eq_part r .group (by decide),
    Params.getAll_eq_part r .group (by decide)]
  unfold Query.namedObjects at hnames
  obtain ⟨hnone, hnil⟩ | ⟨g, hg, hentries⟩ := Section.group_cases hgroup
  · rw [hnone] at hnames ⊢
    cases hnames
    rw [hnil]
    exact ⟨.nil, rfl⟩
  · rw [hg] at hnames ⊢
    obtain ⟨texts, htexts, hfunctions, hqueries⟩ := GroupOptions.getAll_entries hentries
    -- the table is made of the texts that the section has written
    obtain ⟨texts', htexts', hnames⟩ := bind_eq_ok_iff.mp hnames
    cases htexts.symm.trans htexts'
    cases hnames
    obtain ⟨hf, hq⟩ := GroupOptions.texts_spec htexts
    rw [hfunctions, hqueries]
    refine ⟨List.rel_append ?_ ?_, ?_⟩
    · exact List.forall₂_map_left_iff.mpr hf
    · exact List.forall₂_map_left_iff.mpr hq
    · rw [List.zip_append]
      rw [List.length_map]
      exact hf.length_eq.symm

/-- The last entry of a name is that of the last object with this text. -/
theorem exists_last_iff_of_written {s : Scope} {l : List (String × NamedObject)}
    (h : ∀ e ∈ l, e.2.text s = .ok e.1) {name : String} {o : NamedObject} :
    (∃ before after, l = before ++ (name, o) :: after ∧ ∀ e ∈ after, e.1 ≠ name) ↔
      ∃ before after, l.map Prod.snd = before ++ o :: after ∧ o.text s = .ok name ∧
        ∀ later ∈ after, later.text s ≠ .ok name := by
  constructor
  · rintro ⟨before, after, rfl, hafter⟩
    obtain ⟨-, hrest⟩ := List.forall_mem_append.mp h
    obtain ⟨ho, hrest⟩ := List.forall_mem_cons.mp hrest
    refine ⟨before.map Prod.snd, after.map Prod.snd, by simp, ho, List.forall_mem_map.mpr ?_⟩
    intro e he htext
    exact hafter e he (Except.ok.inj ((hrest e he).symm.trans htext))
  · rintro ⟨before, after, hl, ho, hafter⟩
    obtain ⟨before, rest, rfl, rfl, hrest⟩ := List.map_eq_append_iff.mp hl
    obtain ⟨e, after, rfl, rfl, rfl⟩ := List.map_eq_cons_iff.mp hrest
    obtain ⟨-, hrest⟩ := List.forall_mem_append.mp h
    obtain ⟨he, hrest⟩ := List.forall_mem_cons.mp hrest
    cases he.symm.trans ho
    refine ⟨before, after, rfl, fun later hlater heq => ?_⟩
    exact hafter later.2 (List.mem_map_of_mem hlater) (heq ▸ hrest later hlater)

/-- **The names are the texts of groups.** A request names exactly what it groups by; under each
name is the last object, of the functions and then the queries, whose text it is; and no name comes
twice. -/
theorem Compiler.compile_names {c : Compiler} {q : Query} {domain : Option String} {r : Request}
    (h : c.compile q domain = .ok r) :
    (∀ name, name ∈ r.named.names.names ↔ name ∈ r.groupTexts) ∧
    (∀ name o, r.named.get? name = some o ↔
      ∃ before after, q.groupObjects = before ++ o :: after ∧ o.text ⟨c, domain⟩ = .ok name ∧
        ∀ later ∈ after, later.text ⟨c, domain⟩ ≠ .ok name) ∧
    r.named.names.names.Nodup ∧ r.named.names.names.length = r.groupTexts.toFinset.card ∧
    r.named.query = q := by
  obtain ⟨htexts, hnamed⟩ := Compiler.named_eq_ofEntries h
  have hlength : r.groupTexts.length = q.groupObjects.length := htexts.length_eq.symm
  have hwritten : ∀ e ∈ r.groupTexts.zip q.groupObjects, e.2.text ⟨c, domain⟩ = .ok e.1 := by
    rintro ⟨text, o⟩ he
    exact (List.forall₂_iff_zip.mp htexts.flip).2 he
  have hnames : ∀ name, name ∈ r.named.names.names ↔ name ∈ r.groupTexts := by
    intro name
    rw [hnamed, Table.mem_names_ofEntries, List.map_fst_zip hlength.le]
  have hnodup : r.named.names.names.Nodup := by
    rw [hnamed]
    exact Table.nodup_names_ofEntries _
  refine ⟨hnames, fun name o => ?_, hnodup, ?_, by rw [hnamed]⟩
  · rw [hnamed, NamedQuery.get?, Table.get?_ofEntries_eq_some_iff,
      exists_last_iff_of_written hwritten, List.map_snd_zip hlength.ge]
  · rw [← List.toFinset_card_of_nodup hnodup]
    congr 1
    ext name
    rw [List.mem_toFinset, List.mem_toFinset, hnames]

/-- A query that groups by a function, and by a raw query with the text of the function. -/
def groupedTwice : Query :=
  Query.default.withGroupOptions ((GroupOptions.default.byFunction ⟨"rand", none⟩).byQuery
    (.of (.raw "\x7b!func\x7drand()")))

/-- Both groups have one name, which stands for the raw query. -/
theorem groupedTwice_named :
    ∃ r, Compiler.default.compile groupedTwice none = .ok r ∧
      r.groupTexts = ["\x7b!func\x7drand()", "\x7b!func\x7drand()"] ∧
      r.named.get? "\x7b!func\x7drand()" = some (.query (.of (.raw "\x7b!func\x7drand()"))) ∧
      r.named.names.names.length = 1 := by
  obtain ⟨r, hr, htexts⟩ : ∃ r, Compiler.default.compile groupedTwice none = .ok r ∧
      r.groupTexts = ["\x7b!func\x7drand()", "\x7b!func\x7drand()"] := by
    refine ⟨_, rfl, ?_⟩
    decide
  obtain ⟨-, hget, -, hlength, -⟩ := Compiler.compile_names hr
  refine ⟨r, hr, htexts, (hget _ _).mpr ?_, ?_⟩
  · exact ⟨[.function ⟨"rand", none⟩], [], rfl, rfl, List.forall_mem_nil _⟩
  · rw [hlength, htexts]
    decide

end SolrRequest
