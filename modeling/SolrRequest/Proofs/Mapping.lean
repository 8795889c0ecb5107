import Mathlib.Data.List.Induction
import SolrRequest.Compiler
import SolrRequest.Proofs.Outcome

/-!
# Mappings of fields

Mappings are a table of tables, filled by calls that may be refused or read from a document whatever
it says. A call changes one property of one domain and nothing else (`FieldMappings.target?_apply`),
so what calls leave for a property is what the last accepted one for it has given
(`FieldMappings.target?_ofCalls`). The check passes exactly the tables without a blank index field
(`FieldMappings.check_eq_ok_iff`). Those that calls make are among them, and in none of them does a
compiler find a blank name (`FieldMappings.fieldName_named`). `FieldMappings.ofCalls_history` puts
these together.
-/

namespace SolrRequest

open Text

/-! ## Tables -/

namespace Table

variable {α : Type} {t : Table α} {name : String} {value : α}

theorem mem_of_get? (h : get? t name = some value) : (name, value) ∈ t := by
  induction t with
  | nil => cases h
  | cons e r ih =>
    obtain ⟨key, old⟩ := e
    by_cases hk : key = name
    · subst hk
      simp only [get?, if_true, Option.some.injEq] at h
      exact h ▸ List.mem_cons_self
    · simp only [get?, hk, if_false] at h
      exact List.mem_cons_of_mem _ (ih h)

/-- An insertion brings in no other value than its own. -/
theorem value_mem_insert {e : String × α} (h : e ∈ insert t name value) :
    e.2 = value ∨ e ∈ t := by
  induction t with
  | nil =>
    cases List.mem_singleton.mp h
    exact .inl rfl
  | cons d r ih =>
    obtain ⟨key, old⟩ := d
    unfold insert at h
    split at h
    · rcases List.mem_cons.mp h with rfl | h
      · exact .inl rfl
      · exact .inr (List.mem_cons_of_mem _ h)
    · rcases List.mem_cons.mp h with rfl | h
      · exact .inr List.mem_cons_self
      · exact (ih h).imp_right (List.mem_cons_of_mem _)

end Table

namespace FieldMappings

/-! ## Checked mappings -/

/-- A table passes when no index field in it is blank. -/
theorem check_eq_ok_iff {m : FieldMappings} :
    m.check = .ok () ↔ ∀ e ∈ m.domains, ∀ p ∈ e.2, isBlank p.2 = false := by
  have htarget : ∀ (domain : String) (p : String × String),
      (if isBlank p.2 then throw (.blankMapping domain p.1) else pure () : Except Error Unit) =
        .ok () ↔ isBlank p.2 = false := by
    intro domain p
    cases isBlank p.2 with
    | true => exact iff_of_false nofun nofun
    | false => exact iff_of_true rfl rfl
  have hproperties : ∀ e ∈ m.domains,
      (e.2.forM fun p => if isBlank p.2 then throw (.blankMapping e.1 p.1) else pure () :
        Except Error Unit) = .ok () ↔ ∀ p ∈ e.2, isBlank p.2 = false := by
    intro e _
    rw [forM_eq_ok_iff]
    exact forall₂_congr fun p _ => htarget e.1 p
  rw [check, forM_eq_ok_iff]
  exact forall₂_congr hproperties

theorem isBlank_target {m : FieldMappings} (h : m.check = .ok ())
    {domain property target : String} (ht : m.target? domain property = some target) :
    isBlank target = false := by
  obtain ⟨properties, hdomain, hproperty⟩ := Option.bind_eq_some_iff.mp ht
  exact check_eq_ok_iff.mp h _ (Table.mem_of_get? hdomain) _ (Table.mem_of_get? hproperty)

/-- Checked mappings give no field a blank name. -/
theorem isBlank_resolve {m : FieldMappings} (h : m.check = .ok ()) (domain : Option String)
    {f : Field} (hf : isBlank f.name = false) : isBlank (m.resolve domain f) = false := by
  unfold resolve
  cases ht : domain.bind fun d => m.target? d f.name with
  | none => exact hf
  | some target =>
    obtain ⟨d, _, htarget⟩ := Option.bind_eq_some_iff.mp ht
    exact isBlank_target h htarget

/-- A field gets the name that the mappings give it, which is not blank, or is refused for a blank
name of its own. -/
theorem fieldName_named {m : FieldMappings} (h : m.check = .ok ()) {s : Scope}
    (hs : s.compiler.fieldName = m.resolve) (f : Field) :
    (isBlank f.name = true ∧ s.fieldName f = .error .blankField) ∨
      s.fieldName f = .ok (m.resolve s.domain f) ∧ isBlank (m.resolve s.domain f) = false := by
  unfold Scope.fieldName Field.check
  rw [hs]
  cases hf : isBlank f.name with
  | true => exact .inl ⟨rfl, rfl⟩
  | false => exact .inr ⟨rfl, isBlank_resolve h s.domain hf⟩

end FieldMappings

/-! ## Calls -/

/-- A call that maps a property of a domain to an index field. -/
structure MappingCall where
  domain : String
  property : String
  target : String
deriving Repr, DecidableEq

namespace MappingCall

def run (c : MappingCall) (m : FieldMappings) : Except Error FieldMappings :=
  m.map c.domain c.property c.target

/-- The index field that a call gives a property: none when the call is about another one, or is
refused for its blank target. -/
def given? (domain property : String) (c : MappingCall) : Option String :=
  if c.domain = domain ∧ c.property = property ∧ isBlank c.target = false then some c.target
  else none

/-- What the last accepted call for exactly this property of this domain has given. -/
def lastGiven? (calls : List MappingCall) (domain property : String) : Option String :=
  (calls.filterMap (given? domain property)).getLast?

/-- Whether a call is accepted depends on its target, and on no table. -/
theorem run_eq (c : MappingCall) (m : FieldMappings) :
    c.run m =
      if isBlank c.target then .error .blankTarget
      else .ok ⟨Table.insert m.domains c.domain
        (Table.insert ((Table.get? m.domains c.domain).getD []) c.property c.target)⟩ := rfl

end MappingCall

namespace FieldMappings

/-- The table after a call; a refused call leaves it as it was. -/
def apply (m : FieldMappings) (c : MappingCall) : FieldMappings :=
  match c.run m with
  | .ok next => next
  | .error _ => m

/-- The table after calls, one after the other, on the empty one. -/
def ofCalls (calls : List MappingCall) : FieldMappings :=
  calls.foldl apply empty

theorem apply_of_isBlank {c : MappingCall} (h : isBlank c.target = true) (m : FieldMappings) :
    m.apply c = m := by
  rw [apply, MappingCall.run_eq, if_pos h]

theorem apply_of_not_isBlank {c : MappingCall} (h : isBlank c.target = false)
    (m : FieldMappings) :
    m.apply c = ⟨Table.insert m.domains c.domain
      (Table.insert ((Table.get? m.domains c.domain).getD []) c.property c.target)⟩ := by
  rw [apply, MappingCall.run_eq, if_neg (Bool.eq_false_iff.mp h)]

/-- A call changes its own property of its own domain, and no other one. -/
theorem target?_apply (m : FieldMappings) (c : MappingCall) (domain property : String) :
    (m.apply c).target? domain property =
      (c.given? domain property).or (m.target? domain property) := by
  unfold MappingCall.given?
  cases hblank : isBlank c.target with
  | true =>
    rw [apply_of_isBlank hblank, if_neg (fun h => nomatch h.2.2)]
    rfl
  | false =>
    rw [apply_of_not_isBlank hblank, target?, target?, Table.get?_insert]
    by_cases hdomain : c.domain = domain
    · subst hdomain
      rw [if_pos rfl, Option.bind_some, Table.get?_insert]
      by_cases hproperty : c.property = property
      · rw [if_pos hproperty, if_pos ⟨rfl, hproperty, rfl⟩]
        rfl
      · rw [if_neg hproperty, if_neg (fun h => hproperty h.2.1)]
        cases Table.get? m.domains c.domain <;> rfl
    · rw [if_neg hdomain, if_neg (fun h => hdomain h.1)]
      rfl

/-- What calls leave for a property: what the last accepted one for it has given. -/
theorem target?_ofCalls (calls : List MappingCall) (domain property : String) :
    (ofCalls calls).target? domain property = MappingCall.lastGiven? calls domain property := by
  -- from the right, where the last call is
  induction calls using List.reverseRecOn with
  | nil => rfl
  | append_singleton calls c ih =>
    rw [ofCalls, List.foldl_concat, ← ofCalls, target?_apply, ih, MappingCall.lastGiven?,
      MappingCall.lastGiven?, List.filterMap_append]
    cases hc : c.given? domain property with
    | none => simp [hc]
    | some target => simp [hc]

/-- A call keeps a table free of blank index fields. -/
theorem check_apply {m : FieldMappings} (h : m.check = .ok ()) (c : MappingCall) :
    (m.apply c).check = .ok () := by
  cases hblank : isBlank c.target with
  | true => rwa [apply_of_isBlank hblank]
  | false =>
    rw [check_eq_ok_iff] at h ⊢
    rw [apply_of_not_isBlank hblank]
    intro e he p hp
    rcases Table.value_mem_insert he with hproperties | he
    · rw [hproperties] at hp
      rcases Table.value_mem_insert hp with htarget | hp
      · rw [htarget, hblank]
      · cases hold : Table.get? m.domains c.domain with
        | none =>
          rw [hold] at hp
          cases hp
        | some properties =>
          rw [hold] at hp
          exact h _ (Table.mem_of_get? hold) p hp
    · exact h e he p hp

theorem check_ofCalls (calls : List MappingCall) : (ofCalls calls).check = .ok () := by
  induction calls using List.reverseRecOn with
  | nil => rfl
  | append_singleton calls c ih =>
    rw [ofCalls, List.foldl_concat, ← ofCalls]
    exact check_apply ih c

/-- **Mappings stay sound and resolve to the latest target.** After any calls the table is one that
the check passes. A field of a domain has the index field of the last accepted call for exactly this
property of this domain, or else its own name; without a domain it has its own name. A call is
accepted, by any table, exactly when its target is not blank. With any table that the check passes,
however it came about, a compiler gives a field no blank name: fields with a blank name of their own
are refused, and all others get the name that the table gives them. -/
theorem ofCalls_history (calls : List MappingCall) :
    (ofCalls calls).check = .ok () ∧
    (∀ domain f, (ofCalls calls).resolve (some domain) f =
      (MappingCall.lastGiven? calls domain f.name).getD f.name) ∧
    (∀ f, (ofCalls calls).resolve none f = f.name) ∧
    (∀ (c : MappingCall) (m : FieldMappings),
      (∃ next, c.run m = .ok next) ↔ isBlank c.target = false) ∧
    ∀ m : FieldMappings, m.check = .ok () → ∀ s : Scope, s.compiler.fieldName = m.resolve →
      ∀ f, (isBlank f.name = true ∧ s.fieldName f = .error .blankField) ∨
        s.fieldName f = .ok (m.resolve s.domain f) ∧ isBlank (m.resolve s.domain f) = false := by
  refine ⟨check_ofCalls calls, fun domain f => ?_, fun f => rfl, fun c m => ?_,
    fun m hm s hs f => fieldName_named hm hs f⟩
  · rw [resolve, Option.bind_some, target?_ofCalls]
  · rw [MappingCall.run_eq]
    cases isBlank c.target with
    | true => exact iff_of_false nofun nofun
    | false => exact iff_of_true ⟨_, rfl⟩ rfl

/-- A title that is mapped in two domains, and then to no field in one of them. -/
def titleCalls : List MappingCall :=
  [⟨"Product", "title", "title_t"⟩, ⟨"Order", "title", "order_t"⟩, ⟨"Product", "title", " "⟩]

/-- The refused call leaves the title where it was. -/
theorem titleCalls_history :
    let m := ofCalls titleCalls
    let s : Scope := ⟨{ Compiler.default with fieldName := m.resolve }, some "Product"⟩
    (m.check = .ok () ∧ s.compiler.fieldName = m.resolve) ∧
      m.resolve (some "Order") ⟨"title", none⟩ = "order_t" ∧
      s.fieldName ⟨"title", none⟩ = .ok "title_t" ∧
      s.fieldName ⟨" ", none⟩ = .error .blankField := by
  intro m s
  obtain ⟨hcheck, hresolve, -, -, hnamed⟩ := ofCalls_history titleCalls
  have htitle : m.resolve (some "Product") ⟨"title", none⟩ = "title_t" := hresolve "Product" _
  refine ⟨⟨hcheck, rfl⟩, hresolve "Order" _, ?_, ?_⟩
  · rcases hnamed m hcheck s rfl ⟨"title", none⟩ with ⟨hblank, -⟩ | ⟨hname, -⟩
    · exact absurd hblank (by decide)
    · rw [hname, htitle]
  · rcases hnamed m hcheck s rfl ⟨" ", none⟩ with ⟨-, hrefused⟩ | ⟨-, hblank⟩
    · exact hrefused
    · exact absurd hblank (by decide)

end FieldMappings

end SolrRequest
