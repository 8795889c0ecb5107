import Mathlib.Logic.Function.Basic
import SolrRequest.Proofs.Text.Percent
import SolrRequest.Request.Params

/-!
# Query strings read back

No encoded text holds an ampersand or an equals sign. So those of a query string are the ones
between its entries and inside of them: the string is split at the ampersands, each part at its
only equals sign, and decoding both sides gives the entries back (`Params.ofUrl?_url`).
-/

namespace SolrRequest

open Text

namespace Params

/-! ## Splitting -/

/-- Reads an entry, which has one equals sign. -/
def entryOf? (part : List Char) : Option (String × String) :=
  match part.splitOn '=' with
  | [name, value] => do return (← decodeText? name, ← decodeText? value)
  | _ => none

/-- Reads a query string. There are no entries in the empty one. -/
def ofUrl? (url : String) : Option Params :=
  if url.isEmpty then some empty
  else ((url.toList.splitOn '&').mapM entryOf?).map mk

theorem separator_not_mem {c : Char} (hc : c = '=' ∨ c = '&') (s : String) :
    c ∉ percentEncode s := by
  apply (encoded_percentEncode s).not_mem
  all_goals
    rcases hc with rfl | rfl <;> decide

theorem entryOf?_entryChars (e : String × String) : entryOf? (entryChars e) = some e := by
  obtain ⟨name, value⟩ := e
  have hsides : ∀ side ∈ [percentEncode name, percentEncode value], '=' ∉ side := by
    simp only [List.forall_mem_cons]
    exact ⟨separator_not_mem (.inl rfl) name, separator_not_mem (.inl rfl) value, nofun⟩
  have hentry : entryChars (name, value) =
      ['='].intercalate [percentEncode name, percentEncode value] := by
    rw [List.intercalate_cons_cons, List.intercalate_singleton, List.append_assoc]
    rfl
  rw [entryOf?, hentry, List.splitOn_intercalate '=' hsides nofun]
  simp only [decodeText?_percentEncode]
  rfl

theorem ampersand_not_mem (e : String × String) : '&' ∉ entryChars e := by
  rw [entryChars, List.mem_append, List.mem_cons]
  rintro (h | h | h)
  · exact separator_not_mem (.inr rfl) _ h
  · exact absurd h (by decide)
  · exact separator_not_mem (.inr rfl) _ h

theorem toList_url (p : Params) : p.url.toList = ['&'].intercalate (p.entries.map entryChars) :=
  String.toList_ofList

theorem url_isEmpty_iff (p : Params) : p.url.isEmpty = true ↔ p.entries = [] := by
  rw [String.isEmpty_iff, ← String.toList_inj, toList_url]
  constructor
  · intro h
    rcases p with ⟨_ | ⟨e, _ | ⟨d, r⟩⟩⟩
    · rfl
    · exact absurd h (by simp [entryChars])
    · exact absurd h (by simp [entryChars])
  · intro h
    rw [h]
    rfl

/-- **Query strings read back.** -/
theorem ofUrl?_url (p : Params) : ofUrl? p.url = some p := by
  by_cases h : p.entries = []
  · rw [ofUrl?, if_pos ((url_isEmpty_iff p).mpr h), empty, ← h]
  · have hparts : ∀ part ∈ p.entries.map entryChars, '&' ∉ part := by
      intro part hpart
      obtain ⟨e, -, rfl⟩ := List.mem_map.mp hpart
      exact ampersand_not_mem e
    have hne : p.entries.map entryChars ≠ [] := List.map_eq_nil_iff.not.mpr h
    rw [ofUrl?, if_neg ((url_isEmpty_iff p).not.mpr h), toList_url,
      List.splitOn_intercalate '&' hparts hne, List.mapM_map]
    have hread : entryOf? ∘ entryChars = fun e => pure e := by
      funext e
      exact entryOf?_entryChars e
    rw [hread, List.mapM_pure, List.map_id']
    rfl

/-! ## The alphabet -/

/-- The characters of a query string, escapes apart. -/
def IsUrlChar (c : Char) : Prop :=
  IsUnreserved c ∨ c = '=' ∨ c = '&'

theorem encoded_entryChars (e : String × String) : IsEncoded IsUrlChar (entryChars e) := by
  have hside : ∀ s, IsEncoded IsUrlChar (percentEncode s) :=
    fun s => (encoded_percentEncode s).mono fun _ => .inl
  exact (hside _).append (.cons (.inr (.inl rfl)) (hside _))

theorem encoded_url (p : Params) : IsEncoded IsUrlChar p.url.toList := by
  rw [toList_url]
  induction p.entries with
  | nil => exact .nil
  | cons e r ih =>
    cases r with
    | nil =>
      rw [List.map_singleton, List.intercalate_singleton]
      exact encoded_entryChars e
    | cons d r =>
      rw [List.map_cons, List.map_cons, List.intercalate_cons_cons]
      have hampersand : IsEncoded IsUrlChar ['&'] := .cons (.inr (.inr rfl)) .nil
      exact ((encoded_entryChars e).append hampersand).append ih

/-- **Query strings are decodable.** A query string has no characters but unreserved ones, escapes,
equals signs and ampersands. It is read back as the parameters that it was written for, so
different parameters have different query strings. -/
theorem url_decodable :
    (∀ p : Params, IsEncoded IsUrlChar p.url.toList ∧ ofUrl? p.url = some p) ∧
      Function.Injective url := by
  refine ⟨fun p => ⟨encoded_url p, ofUrl?_url p⟩, ?_⟩
  intro p q h
  have hread := congrArg ofUrl? h
  rwa [ofUrl?_url, ofUrl?_url, Option.some_inj] at hread

/-- Separators inside of values are escaped. -/
example : url ⟨[("q", "a=b&c"), ("", "")]⟩ = "q=a%3Db%26c&=" := by decide

end Params

end SolrRequest
