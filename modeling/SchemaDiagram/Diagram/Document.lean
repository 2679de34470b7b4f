import SchemaDiagram.Diagram.RelationLine
import SchemaDiagram.Diagram.TypeLabel
import SchemaDiagram.Warning

/-!
# Diagram documents

A document shows one schema. Each table is a block: a header with its name, a line for each
column, a closing brace. The blocks come first, separated by blank lines, then for each table
the group of its relation lines; only many-to-one relations are drawn, so that each foreign
key is drawn at the table that holds it.

Drawing is a computation (`Draw`) that records the foreign keys drawn and gives warnings, also
where it ends in an error. A column whose type asks for a precision that it lacks is drawn
without one, with a warning, or refused when precisions are strict.

* `Table.draw`: the block and the relation lines of a table;
* `Schema.draw`: the document of a schema, `Schema.document` run from no key drawn.
-/

namespace SchemaDiagram

/-! ### The computation -/

/-- How to treat a missing precision. -/
inductive PrecisionPolicy where
  /-- Draw the type without it and warn. -/
  | lenient
  /-- Refuse the document. -/
  | strict
  deriving DecidableEq

/-- What drawing has recorded so far. -/
structure DrawState where
  keys : RenderedKeys
  warnings : List Warning

/-- Nothing is drawn yet. -/
def DrawState.initial : DrawState := ⟨.empty, []⟩

/-- **Drawing:** a computation with a record that outlives an error. -/
abbrev Draw := ExceptT DiagramError (StateM DrawState)

/-- Gives a warning. -/
def Draw.warn (warning : Warning) : Draw Unit :=
  modify fun state => { state with warnings := state.warnings ++ [warning] }

/-- Records a foreign key. -/
def Draw.record (key : String) : Draw Unit :=
  modify fun state => { state with keys := state.keys.insert key }

/-- The result of a drawing and what it has recorded. -/
def Draw.runFrom {α : Type} (draw : Draw α) (state : DrawState) :
    Except DiagramError α × DrawState :=
  (ExceptT.run draw).run state

/-! ### Tables -/

/-- Draws a relation: its key is recorded unless it cannot be drawn. -/
def Relation.draw (relation : Relation) : Draw (List String) := do
  -- A relation whose lines are refused records nothing.
  let lines ← ExceptT.mk (pure relation.lines)
  Draw.record relation.foreignKey.name
  return lines

/-- Draws some columns of a table, a line for each. -/
def drawColumns (policy : PrecisionPolicy) (table : String) : List Column → Draw (List String)
  | [] => return []
  | column :: columns => do
    if column.missesPrecision then
      match policy with
      | .strict => throw (.missingPrecision table column.name)
      | .lenient => Draw.warn (.missingPrecision table column.name)
    let lines ← drawColumns policy table columns
    return ("    " ++ column.name ++ ": " ++ column.typeLabel ++ " ") :: lines

/-- Draws some relations, line by line. -/
def drawRelations : List Relation → Draw (List String)
  | [] => return []
  | relation :: relations => do
    let lines ← relation.draw
    let more ← drawRelations relations
    return lines ++ more

/-- **A table drawn:** its block, and the lines of its relations joined by line feeds. -/
structure TableDrawing where
  block : String
  relations : String
  deriving DecidableEq

/-- The block of a table with these column lines. -/
def tableBlock (table : String) (columns : List String) : String :=
  table ++ " [] \x7b \n" ++ "\n".intercalate columns ++ "\n\x7d"

/-- **Drawing a table:** first its columns, then its many-to-one relations. -/
def Table.draw (policy : PrecisionPolicy) (table : Table) : Draw TableDrawing := do
  let columns ← drawColumns policy table.name table.columns
  -- Only many-to-one relations have lines; their inverses would repeat them.
  let lines ← drawRelations table.manyToOne
  return { block := tableBlock table.name columns, relations := "\n".intercalate lines }

/-- Draws some tables in order. -/
def drawTables (policy : PrecisionPolicy) : List Table → Draw (List TableDrawing)
  | [] => return []
  | table :: tables => do
    let drawing ← table.draw policy
    let more ← drawTables policy tables
    return drawing :: more

/-! ### Documents -/

/-- The number of lines of a text; a line feed at its very end starts no further line. -/
def lineCount : List Char → Nat
  | [] => 0
  -- A last line without line feed counts as well.
  | [_] => 1
  | c :: cs => if c = '\n' then lineCount cs + 1 else lineCount cs

/-- The number of relation lines of some tables. -/
def relationLineCount : List TableDrawing → Nat
  | [] => 0
  | drawing :: drawings => lineCount drawing.relations.toList + relationLineCount drawings

/-- The text of a document with these tables: blocks separated by blank lines, then the
relation groups, each of them ended by a line feed but the last one. -/
def documentText (drawings : List TableDrawing) : String :=
  "\n\n".intercalate (drawings.map (·.block)) ++ "\n\n" ++
    "\n".intercalate (drawings.map (·.relations))

/-- **Document.** -/
structure Document where
  text : String
  /-- The foreign keys drawn in the document. -/
  keys : RenderedKeys
  /-- The number of relation lines. -/
  relationLines : Nat

/-- **Drawing a schema:** the text of its document and the number of its relation lines. -/
def Schema.draw (policy : PrecisionPolicy) (schema : Schema) : Draw (String × Nat) := do
  let drawings ← drawTables policy schema.tables
  return (documentText drawings, relationLineCount drawings)

/-- **The document of a schema,** with no key drawn before, and the warnings given. -/
def Schema.document (policy : PrecisionPolicy) (schema : Schema) :
    Except DiagramError Document × List Warning :=
  match (schema.draw policy).runFrom .initial with
  | (.ok (text, relationLines), state) =>
    (.ok { text, keys := state.keys, relationLines }, state.warnings)
  | (.error e, state) => (.error e, state.warnings)

end SchemaDiagram
