import SolrRequest.Query.Criteria

/-!
# Joining and negating nodes

Joining with `and` or `or` extends a chain, the group made by joining; anything else becomes the
first clause of a new chain. Negating turns the sign of a criteria or a group, and encloses a raw
query in a negated group.
-/

namespace SolrRequest.Node

/-- A group with a precedence of its own. -/
def grouped (clauses : List (Junction × Node)) : Node :=
  .group ⟨clauses.map fun (junction, node) => ⟨junction, node⟩, false, false⟩

/-- Appends a node to a chain, or starts a chain of two. -/
def join (junction : Junction) (left right : Node) : Node :=
  match left with
  | .group ⟨clauses, false, true⟩ => .group ⟨clauses ++ [⟨junction, right⟩], false, true⟩
  | first => .group ⟨[⟨.and, first⟩, ⟨junction, right⟩], false, true⟩

def and (left right : Node) : Node :=
  join .and left right

def or (left right : Node) : Node :=
  join .or left right

def not : Node → Node
  | .criteria c => .criteria c.not
  | .group g => .group { g with negating := !g.negating }
  | .raw query => .group ⟨[⟨.and, .raw query⟩], true, false⟩

end SolrRequest.Node
