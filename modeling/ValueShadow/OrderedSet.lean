/-!
# Ascending lists without repeats

A set of comparable items as the list of its members in ascending order.
-/

namespace ValueShadow.OrderedSet

variable {α : Type} [Ord α]

/-- The set with one more member, in its place. -/
def insert (item : α) : List α → List α
  | [] => [item]
  | first :: rest =>
    match compare item first with
    | .lt => item :: first :: rest
    | .eq => first :: rest
    | .gt => first :: insert item rest

/-- The set of the items. -/
def ofList (items : List α) : List α :=
  items.foldl (fun set item => insert item set) []

end ValueShadow.OrderedSet
