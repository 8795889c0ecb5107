import SolrRequest.Error
import SolrRequest.Number.Floating
import SolrRequest.Table
import SolrRequest.Text.Whitespace

/-!
# Fields and their names

A field names a property of a document and may carry a boost. The names in a query are properties
of the application's domains; `FieldMappings` gives the index field in which a property of a domain
is stored. A property without a mapping keeps its name.
-/

namespace SolrRequest

open Number Text

/-- A property of a document. -/
structure Field where
  name : String
  /-- The boost of criteria on this field that have none of their own. -/
  boost : Option Single
deriving Repr, DecidableEq

namespace Field

/-- Refuses a blank name. -/
def check (f : Field) : Except Error Unit :=
  if isBlank f.name then throw .blankField else pure ()

/-- The field of a name, which must not be blank. -/
def named (name : String) : Except Error Field := do
  let f : Field := ⟨name, none⟩
  f.check
  return f

/-- The field with a boost, which is not looked at here. -/
def withBoost (f : Field) (boost : Single) : Field :=
  { f with boost := some boost }

end Field

/-! ## Mappings -/

/-- The index fields of the properties of each domain. -/
structure FieldMappings where
  domains : Table (Table String)
deriving Repr, DecidableEq

namespace FieldMappings

def empty : FieldMappings := ⟨[]⟩

/-- No property of any domain is mapped. -/
def isEmpty (m : FieldMappings) : Bool :=
  m.domains.all fun (_, properties) => properties.isEmpty

/-- The index field of a property, if it is mapped. -/
def target? (m : FieldMappings) (domain property : String) : Option String :=
  (Table.get? m.domains domain).bind (Table.get? · property)

/-- Maps a property of a domain to an index field, whose name must not be blank. -/
def map (m : FieldMappings) (domain property target : String) : Except Error FieldMappings :=
  if isBlank target then throw .blankTarget
  else
    let properties := (Table.get? m.domains domain).getD []
    return ⟨Table.insert m.domains domain (Table.insert properties property target)⟩

/-- The name under which the index knows a field of a domain. -/
def resolve (m : FieldMappings) (domain : Option String) (f : Field) : String :=
  (domain.bind fun d => m.target? d f.name).getD f.name

/-- Refuses a table with a blank index field, naming the first one. -/
def check (m : FieldMappings) : Except Error Unit :=
  m.domains.forM fun (domain, properties) =>
    properties.forM fun (property, target) =>
      if isBlank target then throw (.blankMapping domain property) else pure ()

end FieldMappings

end SolrRequest
