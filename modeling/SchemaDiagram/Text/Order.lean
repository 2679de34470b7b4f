/-!
# Lists of names

Names are compared by code point. `sortedNames` turns a list of names into its increasing
list without repetition, `repeats` singles out the repetitions.
-/

namespace SchemaDiagram

/-- **Sorted names.** Every name of the list once, increasing by code point. -/
def sortedNames (names : List String) : List String :=
  names.eraseDups.mergeSort fun a b => decide (a ≤ b)

/-- The names that occur in `seen` or earlier in the list, one entry for each repetition. -/
def repeats (seen : List String) : List String → List String
  | [] => []
  | name :: names =>
    if name ∈ seen then name :: repeats seen names else repeats (name :: seen) names

end SchemaDiagram
