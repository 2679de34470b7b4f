import SchemaDiagram.Diagram.Document

/-!
# Drawing sessions

Several drawings that record their foreign keys in one set. A session is a list of steps; each
step has a result of its own and leaves the set for the next one, also where it ends in an
error.
-/

namespace SchemaDiagram

/-- **Step** of a session. -/
inductive SessionStep where
  /-- Draw one relation. -/
  | relation (relation : Relation)
  /-- Draw one table. -/
  | table (policy : PrecisionPolicy) (table : Table)
  /-- Record a name; the result says whether it is new. -/
  | insert (name : String)
  /-- Ask whether a name is recorded. -/
  | contains (name : String)
  /-- Forget all names. -/
  | reset

/-- The value that a step yields. -/
inductive StepValue where
  | lines (lines : List String)
  | table (drawing : TableDrawing)
  | truth (value : Bool)
  | nothing
  deriving DecidableEq

/-- **Outcome** of a step: its value or error, the set after it, its warnings. -/
structure StepOutcome where
  result : Except DiagramError StepValue
  keys : RenderedKeys
  warnings : List Warning

/-- The outcome of a drawing that starts with these keys recorded. -/
def StepOutcome.ofDraw {α : Type} (keys : RenderedKeys) (value : α → StepValue)
    (draw : Draw α) : StepOutcome :=
  let (result, state) := draw.runFrom ⟨keys, []⟩
  { result := result.map value, keys := state.keys, warnings := state.warnings }

/-- The outcome of a step that starts with these keys recorded. -/
def SessionStep.run (keys : RenderedKeys) : SessionStep → StepOutcome
  | relation r => .ofDraw keys .lines r.draw
  | table policy t => .ofDraw keys .table (t.draw policy)
  | insert name => ⟨.ok (.truth (!keys.contains name)), keys.insert name, []⟩
  | contains name => ⟨.ok (.truth (keys.contains name)), keys, []⟩
  | reset => ⟨.ok .nothing, .empty, []⟩

/-- **Running a session** from the keys recorded before it: the outcome of every step. -/
def runSession (keys : RenderedKeys) : List SessionStep → List StepOutcome
  | [] => []
  | step :: steps =>
    let outcome := step.run keys
    outcome :: runSession outcome.keys steps

end SchemaDiagram
