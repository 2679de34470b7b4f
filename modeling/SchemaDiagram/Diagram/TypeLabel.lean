import SchemaDiagram.Catalog.Basic
import SchemaDiagram.Text.UpperCase

/-!
# Type labels

The text that stands behind a column's name in a diagram: the display name of its type in
upper case, then ` pk` for a column of the primary key, the precision in parentheses where the
type carries one and the column has it, and ` NOT NULL` for a column that refuses nulls.
-/

namespace SchemaDiagram

/-- The precision of a column in parentheses, if its type carries one and it has one. -/
def Column.precisionLabel (column : Column) : String :=
  match column.precision with
  | some precision =>
    if column.type.hasPrecision then "(" ++ toString precision.toNat ++ ")" else ""
  | none => ""

/-- **Type label** of a column. -/
def Column.typeLabel (column : Column) : String :=
  Text.upperCase column.type.displayName ++ (if column.primaryKey then " pk" else "") ++
    column.precisionLabel ++ (if column.notNull then " NOT NULL" else "")

end SchemaDiagram
