import SchemaDiagram.Catalog.Basic
import SchemaDiagram.Glob
import SchemaDiagram.Text.Blank

/-!
# Selecting tables

A **table filter** holds patterns for the tables to include and to exclude. A table is
selected if some include pattern matches its name, or there is none, and no exclude pattern
matches it. Applied to a schema, the filter drops the other tables, and with them the
relations that touch one: by their source, by their join table, or by a target in the same
schema. Patterns concern one schema only, so a relation into another schema stays.
-/

namespace SchemaDiagram

/-- **Table filter.** -/
structure TableFilter where
  includes : List Glob.Pattern
  excludes : List Glob.Pattern

namespace TableFilter

/-- A pattern that cannot be compiled, with what is wrong about it. -/
structure PatternError where
  pattern : String
  cause : Glob.Error
  deriving DecidableEq

/-- The text of a pattern error, its cause included. -/
def PatternError.message (e : PatternError) : String :=
  "invalid table pattern: " ++ e.pattern ++ ": " ++ e.cause.message

/-- The patterns that a list of texts stands for: each text is trimmed and blank ones are
passed over. -/
def compile (patterns : List String) : Except PatternError (List Glob.Pattern) :=
  ((patterns.map Text.trim).filter (· ≠ "")).mapM fun pattern =>
    match Glob.Pattern.compile pattern with
    | .ok compiled => .ok compiled
    | .error cause => .error { pattern, cause }

/-- The filter that includes and excludes by these patterns; the include patterns are compiled
first. -/
def ofPatterns (includes excludes : List String) : Except PatternError TableFilter := do
  let includes ← compile includes
  let excludes ← compile excludes
  return { includes, excludes }

/-- The filter has no pattern at all. -/
def isEmpty (f : TableFilter) : Bool := f.includes.isEmpty && f.excludes.isEmpty

/-- **Selection.** The filter selects tables of this name. -/
def selects (f : TableFilter) (name : String) : Bool :=
  (f.includes.isEmpty || f.includes.any (·.matches name)) && !f.excludes.any (·.matches name)

/-- A relation stays with its table if the tables it touches in the schema are kept. -/
def keepsRelation (kept : List String) (relation : Relation) : Bool :=
  decide (relation.sourceTable ∈ kept) &&
    (relation.targetSchema.isSome || decide (relation.targetTable ∈ kept)) &&
    relation.join.all fun join => decide (join.table ∈ kept)

/-- **Filtering a schema.** -/
def apply (f : TableFilter) (schema : Schema) : Schema :=
  -- Without any pattern the schema stays as it is, with relations that lead nowhere.
  if f.isEmpty then schema
  else
    let kept := schema.tableNames.filter f.selects
    { schema with
      tables := (schema.tables.filter fun table => decide (table.name ∈ kept)).map
        fun table => { table with relations := table.relations.filter (keepsRelation kept) } }

end TableFilter

end SchemaDiagram
