/-!
# Warnings

What may be wrong with a catalog or a diagram without stopping the run.
-/

namespace SchemaDiagram

/-- **Warning** given while a catalog is assembled or a diagram is drawn. -/
inductive Warning where
  /-- A foreign key leads to a table that is not part of the catalog and is left out. -/
  | skippedForeignKey (foreignKey targetSchema targetTable : String)
  /-- A type that asks for a precision is written without one. -/
  | missingPrecision (table column : String)
  deriving DecidableEq

/-- The text of a warning. -/
def Warning.message : Warning → String
  | skippedForeignKey .. => "skipping foreign key to a table that was not loaded"
  | missingPrecision .. => "precision missing, rendering type without it"

/-- The named details of a warning. -/
def Warning.details : Warning → List (String × String)
  | skippedForeignKey foreignKey targetSchema targetTable =>
    [("foreign_key", foreignKey), ("target", targetSchema ++ "." ++ targetTable)]
  | missingPrecision table column => [("table", table), ("column", column)]

end SchemaDiagram
