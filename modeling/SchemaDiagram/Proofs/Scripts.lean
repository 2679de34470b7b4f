import SchemaDiagram.Command.Run
import SchemaDiagram.Proofs.Files

/-!
# Scripts step by step

A script takes a journal to a result and a longer journal. `Script.result` gives both, with one
equation for each way in which scripts are made. `Script.ComesTo` says of a script that it comes to
the same value or error after every journal and prints and writes nothing.

The last part is about outcomes: the effects that write or print determine, together with the
error that ends them, all of an outcome but its log (`Report.perform_agrees`).
-/

namespace SchemaDiagram

/-! ### Results of scripts -/

/-- The journal of a run that has done nothing so far. -/
def Journal.empty : Journal := ⟨[], []⟩

/-- A journal and what has been done after it. -/
def Journal.append (a b : Journal) : Journal := ⟨a.effects ++ b.effects, a.warnings ++ b.warnings⟩

/-- A run that has done nothing leaves a journal as it is. -/
theorem Journal.append_empty (journal : Journal) : journal.append .empty = journal := by
  rw [append, empty, List.append_nil, List.append_nil]

/-- Journals of three parts may be put together from either end. -/
theorem Journal.append_assoc (a b c : Journal) : (a.append b).append c = a.append (b.append c) := by
  simp only [append, List.append_assoc]

namespace Script

variable {α β ε : Type}

/-- **Result** of a script after some journal, with the journal after it. -/
def result (script : Script α) (journal : Journal) : Except CommandError α × Journal :=
  (ExceptT.run script).run journal

/-- A value is there without anything being done. -/
theorem result_pure (a : α) (journal : Journal) :
    (pure a : Script α).result journal = (.ok a, journal) := rfl

/-- A script goes on after a value and stops at an error. -/
theorem result_bind (script : Script α) (next : α → Script β) (journal : Journal) :
    (script >>= next).result journal = match script.result journal with
      | (.ok a, after) => (next a).result after
      | (.error e, after) => (.error e, after) := by
  -- The two monads are opened once here, and what follows goes by the cases of the result.
  change (match script.result journal with
    | (r, after) => ExceptT.bindCont next r after) = _
  rcases script.result journal with ⟨e | a, after⟩ <;> rfl

/-- An effect is put at the end of the journal. -/
theorem result_effect (effect : Effect) (journal : Journal) :
    (Script.effect effect).result journal = (.ok (), journal.append ⟨[effect], []⟩) := by
  rw [Journal.append, List.append_nil]
  rfl

/-- Warnings are put at the end of theirs. -/
theorem result_warn (warnings : List Warning) (journal : Journal) :
    (Script.warn warnings).result journal = (.ok (), journal.append ⟨[], warnings⟩) := by
  rw [Journal.append, List.append_nil]
  rfl

/-- A computation without effects leaves the journal as it is, and its error is one of the
command. -/
theorem result_ofExcept (error : ε → CommandError) (x : Except ε α) (journal : Journal) :
    (Script.ofExcept error x).result journal = (x.mapError error, journal) := rfl

/-- After a value, the rest of a script starts from the journal of its first part. -/
theorem result_bind_ok {script : Script α} {journal after : Journal} {a : α}
    (h : script.result journal = (.ok a, after)) (next : α → Script β) :
    (script >>= next).result journal = (next a).result after := by
  rw [result_bind, h]

/-- After an error, the rest of a script is not run. -/
theorem result_bind_error {script : Script α} {journal after : Journal} {e : CommandError}
    (h : script.result journal = (.error e, after)) (next : α → Script β) :
    (script >>= next).result journal = (.error e, after) := by
  rw [result_bind, h]

/-- The effects of a list are added one after the other. -/
theorem result_forEffects (effects : List Effect) (journal : Journal) :
    (do for effect in effects do Script.effect effect : Script Unit).result journal =
      (.ok (), journal.append ⟨effects, []⟩) := by
  -- The journal differs from one effect to the next, so the induction is over all journals.
  induction effects generalizing journal with
  | nil => rw [Journal.append, List.append_nil, List.append_nil]; rfl
  | cons effect effects ih =>
    rw [List.forIn_cons]
    simp only [bind_assoc, pure_bind] at ih ⊢
    rw [result_bind_ok (result_effect effect journal), ih, Journal.append_assoc]
    rfl

end Script

/-! ### Reports and outcomes -/

/-- The report of a result and its journal. -/
def Report.ofResult : Except CommandError Unit × Journal → Report
  | (.ok (), journal) => ⟨journal.effects, journal.warnings, none⟩
  | (.error e, journal) => ⟨journal.effects, journal.warnings, some e⟩

/-- The report of a command is that of its script, started with nothing done. -/
theorem Command.report_eq (env : Environment) (command : Command) :
    command.report env = .ofResult ((command.script env).result .empty) := rfl

/-- The effect brings something to standard output or into a file. -/
def Effect.isOutput : Effect → Bool
  | .tell _ => false
  | .print _ | .write _ _ => true

/-- **Coming to a result** without output: whatever has been done before, the script yields this
value or error, and it has printed and written nothing on the way. -/
def Script.ComesTo {α : Type} (script : Script α) (x : Except CommandError α) : Prop :=
  ∀ journal, ∃ told : Journal, told.effects.filter Effect.isOutput = [] ∧
    script.result journal = (x, journal.append told)

namespace Script.ComesTo

variable {α β ε : Type}

/-- A computation without effects comes to its own result. -/
theorem ofExcept (error : ε → CommandError) (x : Except ε α) :
    (Script.ofExcept error x).ComesTo (x.mapError error) := by
  intro journal
  refine ⟨.empty, rfl, ?_⟩
  rw [result_ofExcept, Journal.append_empty]

/-- A value comes to itself. -/
theorem pure (a : α) : (Pure.pure a : Script α).ComesTo (.ok a) := by
  intro journal
  refine ⟨.empty, rfl, ?_⟩
  rw [result_pure, Journal.append_empty]

/-- A line for the user is no output. -/
theorem tell (text : String) : (Script.effect (.tell text)).ComesTo (.ok ()) := by
  intro journal
  exact ⟨⟨[.tell text], []⟩, rfl, result_effect _ journal⟩

/-- A warning is no output either. -/
theorem warn (warnings : List Warning) : (Script.warn warnings).ComesTo (.ok ()) := by
  intro journal
  exact ⟨⟨[], warnings⟩, rfl, result_warn warnings journal⟩

/-- **Coming to results one after the other.** What the second script tells is told after the first
one, and neither prints or writes. -/
theorem bind {script : Script α} {next : α → Script β} {x : Except CommandError α}
    {y : α → Except CommandError β} (h : script.ComesTo x) (hnext : ∀ a, (next a).ComesTo (y a)) :
    (script >>= next).ComesTo (x >>= y) := by
  intro journal
  obtain ⟨told, htold, hresult⟩ := h journal
  cases x with
  -- The second script is not run, so nothing more is told.
  | error e => exact ⟨told, htold, result_bind_error hresult next⟩
  | ok a =>
    obtain ⟨more, hmore, hnext⟩ := hnext a (journal.append told)
    refine ⟨told.append more, ?_, ?_⟩
    · -- Nothing that was told in either part is output.
      rw [Journal.append, List.filter_append, htold, hmore, List.append_nil]
    · rw [result_bind_ok hresult, hnext, Journal.append_assoc]
      rfl

/-- A script whose value is not used by the next one. -/
theorem andThen {script : Script Unit} {next : Script β} {y : Except CommandError β}
    (h : script.ComesTo (.ok ())) (hnext : next.ComesTo y) :
    (script >>= fun _ => next).ComesTo y :=
  h.bind fun _ => hnext

end Script.ComesTo

/-- **Same documents:** two reports print and write the same, in the same order, and end with the
same error or both without one. -/
structure Report.SameDocuments (a b : Report) : Prop where
  error : a.error = b.error
  outputs : a.effects.filter Effect.isOutput = b.effects.filter Effect.isOutput

/-- **Agreement** of two outcomes in all but their logs. -/
structure Outcome.Agrees (a b : Outcome) : Prop where
  exitCode : a.exitCode = b.exitCode
  standardOutput : a.standardOutput = b.standardOutput
  files : a.files = b.files

namespace Outcome

/-- An outcome agrees with itself. -/
theorem Agrees.refl (a : Outcome) : a.Agrees a := ⟨rfl, rfl, rfl⟩

/-- Agreement goes both ways. -/
theorem Agrees.symm {a b : Outcome} (h : a.Agrees b) : b.Agrees a :=
  ⟨h.exitCode.symm, h.standardOutput.symm, h.files.symm⟩

/-- Agreement passes on. -/
theorem Agrees.trans {a b c : Outcome} (h : a.Agrees b) (h' : b.Agrees c) : a.Agrees c :=
  ⟨h.exitCode.trans h'.exitCode, h.standardOutput.trans h'.standardOutput,
    h.files.trans h'.files⟩

/-- A line in the log makes no difference to agreement. -/
theorem Agrees.tell {a b : Outcome} (h : a.Agrees b) (text : String) : (a.tell text).Agrees b :=
  ⟨h.exitCode, h.standardOutput, h.files⟩

/-- Both outcomes may end with an error, even if their logs tell different things. -/
theorem Agrees.fail {a b : Outcome} (h : a.Agrees b) (e : CommandError) :
    (a.fail e).Agrees (b.fail e) :=
  ⟨rfl, h.standardOutput, h.files⟩

/-- A file that the system takes is written, and the run goes on in the new tree. -/
theorem perform_write_ok {outcome : Outcome} {path content : String} {files : FileTree}
    (h : outcome.files.write path content = .ok files) (error : Option CommandError)
    (effects : List Effect) : outcome.perform error (.write path content :: effects) =
      ({ outcome with files } : Outcome).perform error effects := by
  rw [perform, apply, h]

/-- A file that the system refuses ends the run. -/
theorem perform_write_error {outcome : Outcome} {path content : String} {cause : SystemError}
    (h : outcome.files.write path content = .error cause) (error : Option CommandError)
    (effects : List Effect) : outcome.perform error (.write path content :: effects) =
      outcome.fail (.output path cause) := by
  rw [perform, apply, h]

/-- **Lines for the user** make no difference but in the log. -/
theorem perform_filter (error : Option CommandError) (effects : List Effect) :
    ∀ {a b : Outcome}, a.Agrees b →
      (a.perform error effects).Agrees (b.perform error (effects.filter Effect.isOutput)) := by
  -- Agreement is what a step preserves, so it is carried through the list of effects in both
  -- outcomes at once.
  induction effects with
  | nil =>
    intro a b h
    -- The error stands at the end of both runs.
    cases error with
    | none => exact h
    | some e => exact h.fail e
  | cons effect effects ih =>
    intro a b h
    -- A line for the user is left out on the right and touches only the log on the left.
    cases effect with
    | tell text => exact ih (h.tell text)
    | print text =>
      exact ih ⟨h.exitCode, congrArg (· ++ text) h.standardOutput, h.files⟩
    | write path content =>
      rw [List.filter_cons_of_pos rfl]
      -- The trees agree, so both runs get the same answer from the system.
      cases hwrite : b.files.write path content with
      | error cause =>
        rw [perform_write_error hwrite, perform_write_error (h.files ▸ hwrite)]
        exact h.fail _
      | ok files =>
        rw [perform_write_ok hwrite, perform_write_ok (h.files ▸ hwrite)]
        exact ih ⟨h.exitCode, h.standardOutput, rfl⟩

/-- Printed texts are joined on standard output, and no file is touched. -/
theorem perform_prints (outcome : Outcome) (texts : List String) :
    outcome.perform none (texts.map .print) =
      { outcome with standardOutput := outcome.standardOutput ++ String.join texts } := by
  -- What has been printed so far stands in front, so the induction is over all outcomes.
  induction texts generalizing outcome with
  | nil =>
    rw [String.join_nil, String.append_empty]
    rfl
  | cons text texts ih =>
    rw [List.map_cons, perform, apply]
    dsimp only
    rw [ih, String.join_cons, String.append_assoc]

/-- A run that writes files leaves behind the tree in which the last of them has been written. -/
theorem perform_writes_ok {outcome : Outcome} {writes : List (String × String)} {files : FileTree}
    (h : outcome.files.writeAll writes = .ok files) :
    outcome.perform none (writes.map fun write => .write write.1 write.2) =
      { outcome with files } := by
  induction writes generalizing outcome with
  | nil =>
    obtain rfl : outcome.files = files := Except.ok.inj h
    rfl
  | cons write writes ih =>
    rw [FileTree.writeAll, List.foldlM_cons] at h
    -- The tree after the first file is that of the outcome after its effect.
    obtain ⟨next, hnext, h⟩ := bind_eq_ok.1 h
    rw [List.map_cons, perform_write_ok hnext]
    exact ih h

/-- A file that cannot be written ends the run. -/
theorem perform_writes_error {outcome : Outcome} {writes : List (String × String)}
    {cause : SystemError} (h : outcome.files.writeAll writes = .error cause) :
    (outcome.perform none (writes.map fun write => .write write.1 write.2)).exitCode = 1 ∧
      (outcome.perform none (writes.map fun write => .write write.1 write.2)).standardOutput =
        outcome.standardOutput := by
  induction writes generalizing outcome with
  | nil => nomatch h
  | cons write writes ih =>
    rw [List.map_cons]
    cases hnext : outcome.files.write write.1 write.2 with
    | error cause' =>
      rw [perform_write_error hnext]
      exact ⟨rfl, rfl⟩
    | ok next =>
      rw [perform_write_ok hnext]
      rw [FileTree.writeAll, List.foldlM_cons, hnext] at h
      exact ih h

end Outcome

/-- A report has the outcome of what it prints and writes, but for the log. -/
theorem Report.perform_agrees (report : Report) (files : FileTree) :
    (report.perform files).Agrees ((Outcome.initial files).perform report.error
      (report.effects.filter Effect.isOutput)) :=
  Outcome.perform_filter _ _ (Outcome.Agrees.refl _)

/-- **Same documents have the same outcome** in every file tree, but for the log. -/
theorem Report.SameDocuments.perform {a b : Report} (h : a.SameDocuments b) (files : FileTree) :
    (a.perform files).Agrees (b.perform files) := by
  have ha := a.perform_agrees files
  have hb := b.perform_agrees files
  rw [h.error, h.outputs] at ha
  exact ha.trans hb.symm

end SchemaDiagram
