import Mathlib.Data.List.TakeWhile
import SchemaDiagram.Command.Arguments
import SchemaDiagram.Proofs.Pieces
import SchemaDiagram.Proofs.Results

/-!
# Repeated flags

Schemas are given in one value of their flag, with commas between them, or in several. That is one
and the same command (`parse_of_joined`), with whatever stands before and after the flags and
however each of them is spelled (`SchemaFlag`).

Two states of reading that differ in nothing but the values with which the same schemas have been
given stay so (`Arguments.Alike`). A value that is not settled yet counts as well
(`Arguments.Agree`), since settling it cannot fail.
-/

namespace SchemaDiagram

/-! ### Two computations side by side -/

section SideBySide

variable {ε α β γ : Type}

/-- **Side by side:** two computations end with related results or with the same error. -/
inductive SideBySide (R : α → β → Prop) : Except ε α → Except ε β → Prop
  | ok {a : α} {b : β} (h : R a b) : SideBySide R (.ok a) (.ok b)
  | error (e : ε) : SideBySide R (.error e) (.error e)

namespace SideBySide

variable {R : α → β → Prop} {x : Except ε α} {y : Except ε β}

/-- A weaker relation between the results will do. -/
theorem mono {R' : α → β → Prop} (h : SideBySide R x y) (hR : ∀ a b, R a b → R' a b) :
    SideBySide R' x y := by
  cases h with
  | ok h => exact .ok (hR _ _ h)
  | error e => exact .error e

/-- Two computations that go on in the same way from related results stay side by side. -/
theorem bind {α' β' : Type} {R' : α' → β' → Prop} {f : α → Except ε α'} {g : β → Except ε β'}
    (h : SideBySide R x y) (hfg : ∀ a b, R a b → SideBySide R' (f a) (g b)) :
    SideBySide R' (x >>= f) (y >>= g) := by
  cases h with
  | ok h => exact hfg _ _ h
  | error e => exact .error e

/-- Where related results cannot be told apart in the end, the two computations come to the same. -/
theorem bind_eq {f : α → Except ε γ} {g : β → Except ε γ} (h : SideBySide R x y)
    (hfg : ∀ a b, R a b → f a = g b) : (x >>= f) = (y >>= g) := by
  cases h with
  | ok h => exact hfg _ _ h
  | error e => rfl

end SideBySide

end SideBySide

/-! ### States with the same schemas -/

namespace Arguments

variable {a b : Arguments}

/-- **Alike:** two states differ at most in the values with which the same schemas are given. -/
structure Alike (a b : Arguments) : Prop where
  flags : a.flags = b.flags
  pending : a.pending = b.pending
  afterDashes : a.afterDashes = b.afterDashes
  others : ∀ option, option ≠ .schema →
    a.values.filter (·.1 = option) = b.values.filter (·.1 = option)
  schemas : (a.valuesOf .schema).flatMap (Text.splitOn ',') =
    (b.valuesOf .schema).flatMap (Text.splitOn ',')

/-- The state with these values for schemas, all of them settled. -/
def withSchemas (args : Arguments) (values : List String) : Arguments :=
  { args with values := args.values ++ values.map (.schema, ·), pending := none }

/-- The state where a value for schemas is settled as soon as it has been read. -/
def settled (args : Arguments) : Arguments :=
  match args.pending with
  | some (option, some value) => if option = .schema then args.withSchemas [value] else args
  | _ => args

/-- **Agreement** of two states, with the values for schemas settled. -/
def Agree (a b : Arguments) : Prop := Alike a.settled b.settled

/-- Every state is like itself. -/
theorem Alike.refl (a : Arguments) : Alike a a := ⟨rfl, rfl, rfl, fun _ _ => rfl, rfl⟩

/-- States that are alike have the same value for every other option. -/
theorem Alike.value?_eq (h : Alike a b) {option : ValueOption} (hoption : option ≠ .schema) :
    a.value? option = b.value? option := by
  rw [value?, value?, h.others option hoption]

/-- In states that are alike the same other options have been given. -/
theorem Alike.any_eq (h : Alike a b) {option : ValueOption} (hoption : option ≠ .schema) :
    a.values.any (·.1 = option) = b.values.any (·.1 = option) := by
  -- Whether an option is there is a matter of its own values, which are the same in both.
  have hany : ∀ values : List (ValueOption × String),
      values.any (·.1 = option) = (values.filter (·.1 = option)).any (·.1 = option) := by
    intro values
    rw [List.any_filter]
    simp only [Bool.and_self]
  rw [hany, hany b.values, h.others option hoption]

/-- Values that are added stand behind those that an option has already. -/
theorem valuesOf_append (args : Arguments) (values : List (ValueOption × String))
    (option : ValueOption) : valuesOf { args with values := args.values ++ values } option =
      args.valuesOf option ++ (values.filter (·.1 = option)).map (·.2) := by
  rw [valuesOf, List.filter_append, List.map_append, valuesOf]

/-- The same values for the same options keep states alike. -/
theorem Alike.append (h : Alike a b) (values : List (ValueOption × String)) :
    Alike { a with values := a.values ++ values } { b with values := b.values ++ values } where
  flags := h.flags
  pending := h.pending
  afterDashes := h.afterDashes
  others option hoption := by rw [List.filter_append, List.filter_append, h.others option hoption]
  -- The schemas of the new values stand behind those that are the same already.
  schemas := by rw [valuesOf_append, valuesOf_append, List.flatMap_append, List.flatMap_append,
    h.schemas]

/-- The value of an option is noted on both sides in the same way. -/
theorem Alike.withPending (h : Alike a b) (pending : Option (ValueOption × Option String)) :
    Alike { a with pending := pending } { b with pending := pending } :=
  ⟨h.flags, rfl, h.afterDashes, h.others, h.schemas⟩

/-- What a state comes to when its values for schemas are settled. -/
theorem settled_cases (args : Arguments) : args.settled = args ∨ ∃ value,
    args.pending = some (.schema, some value) ∧ args.settled = args.withSchemas [value] := by
  rw [settled]
  split
  · next option value h =>
    split
    · next hoption => exact .inr ⟨value, hoption ▸ h, rfl⟩
    · exact .inl rfl
  · exact .inl rfl

/-- Settling a value for schemas has nothing to do with dashes. -/
theorem settled_afterDashes (args : Arguments) : args.settled.afterDashes = args.afterDashes := by
  rcases args.settled_cases with h | ⟨value, -, h⟩
  · rw [h]
  · rw [h, withSchemas]

/-- A value for schemas may be settled before all that is pending is settled. -/
theorem settlePending_settled (args : Arguments) :
    args.settled.settlePending = args.settlePending := by
  rcases args.settled_cases with h | ⟨value, hpending, h⟩
  · rw [h]
  · -- Settling a value for schemas is what was going to be done with it anyway, and it is not
    -- refused.
    rw [h, settlePending, settlePending, hpending]
    rfl

/-- While an option waits for its value there is nothing to settle. -/
theorem settled_of_waiting {args : Arguments} {option : ValueOption}
    (h : args.pending = some (option, none)) : args.settled = args := by
  rw [settled, h]

/-- Settling values for schemas neither makes an option wait nor ends its waiting. -/
theorem pending_settled_waiting_iff {args : Arguments} {option : ValueOption} :
    args.settled.pending = some (option, none) ↔ args.pending = some (option, none) := by
  rcases args.settled_cases with h | ⟨value, hpending, h⟩
  · rw [h]
  · -- The pending option is that for schemas and has its value, so it does not wait.
    rw [h, hpending]
    exact iff_of_false (Option.some_ne_none _).symm fun h => Option.some_ne_none _
      (Prod.mk.inj (Option.some.inj h)).2

/-- States that are alike agree. -/
theorem Alike.agree (h : Alike a b) : Agree a b := by
  rw [Agree, settled, settled, h.pending]
  -- The same option is pending in both states, so both are settled or both are left as they are.
  split
  · split
    · exact (h.append _).withPending none
    · exact h
  · exact h

/-- States in agreement have read two dashes or have not, both of them. -/
theorem Agree.afterDashes (h : Agree a b) : a.afterDashes = b.afterDashes := by
  rw [← settled_afterDashes a, ← settled_afterDashes b]
  exact Alike.afterDashes h

/-- The same option waits for its value. -/
theorem Agree.waiting_iff (h : Agree a b) {option : ValueOption} :
    a.pending = some (option, none) ↔ b.pending = some (option, none) := by
  rw [← pending_settled_waiting_iff, Alike.pending h, pending_settled_waiting_iff]

/-- While an option waits for its value there is no value to settle, so agreement is likeness. -/
theorem Agree.alike_of_waiting (h : Agree a b) {option : ValueOption}
    (hwaiting : b.pending = some (option, none)) : Alike a b := by
  have h' : Alike a.settled b.settled := h
  rwa [settled_of_waiting hwaiting, settled_of_waiting (h.waiting_iff.2 hwaiting)] at h'

/-- Dashes may be read before the value for schemas is settled or after that. -/
theorem settled_pastDashes (args : Arguments) :
    settled { args with afterDashes := true } = { args.settled with afterDashes := true } := by
  rcases args with ⟨flags, values, _ | ⟨option, _ | value⟩, afterDashes⟩
  · rfl
  · rfl
  · rw [settled, settled]
    dsimp only
    split <;> rfl

/-- Two dashes keep states in agreement. -/
theorem Agree.pastDashes (h : Agree a b) :
    Agree { a with afterDashes := true } { b with afterDashes := true } := by
  rw [Agree, settled_pastDashes, settled_pastDashes]
  exact ⟨h.flags, h.pending, rfl, h.others, h.schemas⟩

/-! ### Steps of reading -/

/-- **Settling an option** is refused in both states or in neither. -/
theorem Alike.settle (h : Alike a b) (option : ValueOption) (value : String) :
    SideBySide Alike (a.settle option value) (b.settle option value) := by
  -- If the option is taken at all, its value is added to both states.
  have hsettled := (h.append [(option, value)]).withPending none
  by_cases hoption : option = .schema
  · -- Schemas may be given any number of times and are not checked, so nothing is refused.
    subst hoption
    exact .ok hsettled
  · -- Another option is refused if it is there already, or for its value. Both states know the
    -- same.
    rw [Arguments.settle, Arguments.settle, h.any_eq hoption]
    split
    · exact .error _
    · cases option.check value with
      | error e => exact .error e
      | ok => exact .ok hsettled

/-- Settling what is pending leads from agreement to likeness, since values for schemas are settled
then. -/
theorem Agree.settlePending (h : Agree a b) :
    SideBySide Alike a.settlePending b.settlePending := by
  rw [← settlePending_settled a, ← settlePending_settled b, Arguments.settlePending,
    Arguments.settlePending, Alike.pending h]
  split
  · -- Nothing is pending.
    exact .ok h
  · -- The option waits for a value that does not come.
    exact .error _
  · -- The option has its value.
    exact Alike.settle h _ _

/-- A flag keeps states in agreement. -/
theorem Agree.addFlag (h : Agree a b) (flag : Flag) :
    SideBySide Agree (a.addFlag flag) (b.addFlag flag) := by
  refine h.settlePending.bind fun a b h => ?_
  -- Questions for help and for the version are answered at once.
  split
  · exact .error _
  · exact .error _
  · rw [h.flags]
    split
    · exact .error _
    · refine .ok (Alike.agree ?_)
      exact ⟨rfl, h.pending, h.afterDashes, h.others, h.schemas⟩

/-- An option keeps states in agreement, with its value attached or still to come. -/
theorem Agree.addOption (h : Agree a b) (option : ValueOption) (attached : Option String) :
    SideBySide Agree (a.addOption option attached) (b.addOption option attached) := by
  refine h.settlePending.bind fun a b h => ?_
  cases attached with
  | none => exact .ok (h.withPending _).agree
  | some value => exact (h.settle option value).mono fun _ _ => Alike.agree

end Arguments

namespace Grammar

open Arguments (Alike Agree)

variable {grammar : Grammar} {a b : Arguments}

/-- **Grammar of a command with schemas:** it has switches only, the flag for schemas among them. -/
structure TakesSchemas (grammar : Grammar) : Prop where
  commands : grammar.commands = []
  hasOperand : grammar.hasOperand = false
  long : grammar.long? "schema" = some (.option .schema)
  letter : grammar.letter? 's' = some (.option .schema)

/-- The command that draws diagrams takes schemas. -/
theorem renderGrammar_takesSchemas : renderGrammar.TakesSchemas := ⟨rfl, rfl, rfl, rfl⟩

/-- The command that writes snapshots takes schemas. -/
theorem snapshotGrammar_takesSchemas : snapshotGrammar.TakesSchemas := ⟨rfl, rfl, rfl, rfl⟩

/-- A long switch keeps states in agreement. -/
theorem readLong_agree (h : Agree a b) (cs : List Char) :
    SideBySide Agree (grammar.readLong a cs) (grammar.readLong b cs) := by
  -- Which switch it is depends on its name only, so both states go the same way.
  rw [readLong, readLong]
  split
  · exact h.addOption _ _
  · exact h.addFlag _
  · exact .error _
  · exact .error _

/-- Letters keep states in agreement. -/
theorem readLetters_agree (h : Agree a b) (cs : List Char) :
    SideBySide Agree (grammar.readLetters a cs) (grammar.readLetters b cs) := by
  -- A flag is followed by more letters, so the induction is over all states in agreement.
  induction cs generalizing a b with
  | nil => exact .ok h
  | cons c cs ih =>
    unfold readLetters
    split
    · exact (h.addFlag _).bind fun _ _ h => ih h
    · exact h.addOption _ _
    · exact .error _

/-- Where only switches may stand, nothing else is read. -/
theorem TakesSchemas.readOperand (hgrammar : grammar.TakesSchemas) (args : Arguments)
    (text : String) : grammar.readOperand args text = .error .unknownArgument := by
  rw [Grammar.readOperand, hgrammar.commands, hgrammar.hasOperand]
  rfl

/-- An argument is read before the next one, as no command can end the reading. -/
theorem TakesSchemas.read_cons (hgrammar : grammar.TakesSchemas) (args : Arguments)
    (text : String) (rest : List String) : grammar.read args (text :: rest) =
      grammar.readArgument args text >>= (grammar.read · rest) := by
  rw [read, isCommand, hgrammar.commands]
  rfl

/-- **Word:** an argument that is no switch by its first characters. A single dash is a word. -/
def IsWord (cs : List Char) : Prop := ∀ c rest, cs ≠ '-' :: c :: rest

/-- **Four kinds of arguments:** a word, two dashes alone, two dashes with a name, one dash with
letters. -/
theorem argument_cases (cs : List Char) : IsWord cs ∨ cs = ['-', '-'] ∨
    (∃ c rest, cs = '-' :: '-' :: c :: rest) ∨ ∃ c rest, c ≠ '-' ∧ cs = '-' :: c :: rest := by
  by_cases hword : IsWord cs
  · exact .inl hword
  simp only [IsWord, not_forall, not_not] at hword
  obtain ⟨c, rest, rfl⟩ := hword
  by_cases hc : c = '-'
  · subst hc
    cases rest with
    | nil => exact .inr (.inl rfl)
    | cons c rest => exact .inr (.inr (.inl ⟨c, rest, rfl⟩))
  · exact .inr (.inr (.inr ⟨c, rest, hc, rfl⟩))

section Argument

variable {args : Arguments} {text : String}

/-- Two dashes with something behind them begin a long name. -/
theorem readArgument_long (hdashes : args.afterDashes = false) {c : Char} {cs : List Char}
    (htext : text.toList = '-' :: '-' :: c :: cs) :
    grammar.readArgument args text = grammar.readLong args (c :: cs) := by
  rw [readArgument, hdashes, htext]
  rfl

/-- One dash begins letters if the next character is no dash. -/
theorem readArgument_letters (hdashes : args.afterDashes = false) {c : Char} {cs : List Char}
    (hc : c ≠ '-') (htext : text.toList = '-' :: c :: cs) :
    grammar.readArgument args text = grammar.readLetters args (c :: cs) := by
  rw [readArgument, hdashes, htext, if_neg Bool.false_ne_true]
  -- The first two cases of the reading want a second dash, the last two no dash at all.
  split
  · next h => exact absurd (List.cons.inj (List.cons.inj h).2).1 hc
  · next h => exact absurd (List.cons.inj (List.cons.inj h).2).1 hc
  · next h => rw [← (List.cons.inj h).2]
  · next h => exact absurd rfl (h c cs)
  · next h _ => exact absurd rfl (h c cs)

/-- A word is the value of the option that waits for one, and refused if there is none. -/
theorem TakesSchemas.readArgument_word (hgrammar : grammar.TakesSchemas)
    (hdashes : args.afterDashes = false) (hword : IsWord text.toList) :
    grammar.readArgument args text = match args.pending with
      | some (option, none) => .ok { args with pending := some (option, some text) }
      | _ => .error .unknownArgument := by
  rw [readArgument, hdashes, if_neg Bool.false_ne_true]
  simp only [hgrammar.readOperand]
  -- The first three cases begin with a dash and something behind it, which no word does.
  split
  · next h => exact absurd h (hword _ _)
  · next h => exact absurd h (hword _ _)
  · next h => exact absurd h (hword _ _)
  · next h _ _ _ => rw [h]
  · next h =>
    split
    · next option hpending => exact absurd hpending (h option)
    · rfl

end Argument

/-- **One argument** keeps states in agreement. -/
theorem TakesSchemas.readArgument_agree (hgrammar : grammar.TakesSchemas) (h : Agree a b)
    (text : String) :
    SideBySide Agree (grammar.readArgument a text) (grammar.readArgument b text) := by
  -- Behind two dashes every argument is refused, in front of them it depends on its first
  -- characters.
  cases hdashes : b.afterDashes with
  | true =>
    rw [readArgument, readArgument, h.afterDashes, hdashes, if_pos rfl, if_pos rfl,
      hgrammar.readOperand, hgrammar.readOperand]
    exact .error _
  | false =>
    have hdashes' : a.afterDashes = false := h.afterDashes.trans hdashes
    obtain hword | htext | ⟨c, cs, htext⟩ | ⟨c, cs, hc, htext⟩ := argument_cases text.toList
    · -- A word is the value of an option that waits, and the same one waits in both states.
      rw [hgrammar.readArgument_word hdashes' hword, hgrammar.readArgument_word hdashes hword]
      split
      · next option hwaiting =>
        have hwaiting' := h.waiting_iff.1 hwaiting
        rw [hwaiting']
        exact .ok ((h.alike_of_waiting hwaiting').withPending _).agree
      · next hother =>
        split
        · next option hwaiting => exact absurd (h.waiting_iff.2 hwaiting) (hother option)
        · exact .error _
    · -- Two dashes alone.
      rw [readArgument, readArgument, hdashes, hdashes', htext]
      exact .ok h.pastDashes
    · -- A long name.
      rw [readArgument_long hdashes' htext, readArgument_long hdashes htext]
      exact readLong_agree h _
    · -- Letters.
      rw [readArgument_letters hdashes' hc htext, readArgument_letters hdashes hc htext]
      exact readLetters_agree h _

/-- **Reading the rest** from states in agreement. -/
theorem TakesSchemas.read_agree (hgrammar : grammar.TakesSchemas) (h : Agree a b)
    (texts : List String) : SideBySide (fun x y => Alike x.1 y.1)
      (grammar.read a texts) (grammar.read b texts) := by
  -- At the end a value for schemas that has been left open is settled.
  induction texts generalizing a b with
  | nil => exact h.settlePending.bind fun a b h => .ok h
  | cons text rest ih =>
    rw [hgrammar.read_cons, hgrammar.read_cons]
    exact (hgrammar.readArgument_agree h text).bind fun a b => ih

/-- The arguments are read one after the other. -/
theorem TakesSchemas.read_append (hgrammar : grammar.TakesSchemas) (args : Arguments)
    (texts rest : List String) : grammar.read args (texts ++ rest) =
      texts.foldlM grammar.readArgument args >>= (grammar.read · rest) := by
  induction texts generalizing args with
  | nil => rfl
  | cons text texts ih =>
    rw [List.cons_append, hgrammar.read_cons, List.foldlM_cons, bind_assoc]
    exact congrArg _ (funext ih)

/-- What stands behind a command is not looked at in front of it. -/
theorem read_append_of_command {args args' : Arguments} {texts behind : List String}
    {command : String} (h : grammar.read args texts = .ok (args', some (command, behind)))
    (rest : List String) :
    grammar.read args (texts ++ rest) = .ok (args', some (command, behind ++ rest)) := by
  induction texts generalizing args with
  | nil =>
    -- The arguments have ended without a command.
    obtain ⟨_, -, h⟩ := bind_eq_ok.1 h
    exact absurd (Prod.mk.inj (Except.ok.inj h)).2 (Option.some_ne_none _).symm
  | cons text texts ih =>
    rw [List.cons_append, read]
    rw [read] at h
    split at h
    · -- The command stands here, and what is behind it is not read in this part.
      next hcommand =>
      obtain ⟨rfl, hcommand'⟩ := Prod.mk.inj (Except.ok.inj h)
      obtain ⟨rfl, rfl⟩ := Prod.mk.inj (Option.some.inj hcommand')
      rw [if_pos hcommand]
      rfl
    · -- The argument is read, and the command stands further on.
      next hcommand =>
      obtain ⟨next, hnext, h⟩ := bind_eq_ok.1 h
      rw [if_neg hcommand, hnext]
      exact ih h

end Grammar

/-! ### Flags for schemas -/

/-- **Flag for schemas:** the arguments that spell it with a value. A value that stands apart must
not look like a switch. -/
inductive SchemaFlag (value : String) : List String → Prop
  | long : SchemaFlag value ["--schema=" ++ value]
  | letter : SchemaFlag value ["-s=" ++ value]
  | attached (hvalue : value ≠ "") (hequals : value.toList.head? ≠ some '=') :
    SchemaFlag value ["-s" ++ value]
  | longApart (hword : Grammar.IsWord value.toList) : SchemaFlag value ["--schema", value]
  | letterApart (hword : Grammar.IsWord value.toList) : SchemaFlag value ["-s", value]

namespace Arguments

variable {a b : Arguments}

/-- A value for schemas, settled as soon as it has been read. -/
def addSchema (args : Arguments) (value : String) : Except Usage Arguments :=
  if args.afterDashes then .error .unknownArgument else args.addOption .schema (some value)

/-- Values for schemas are added one after the other or at once. -/
theorem withSchemas_withSchemas (args : Arguments) (values values' : List String) :
    (args.withSchemas values).withSchemas values' = args.withSchemas (values ++ values') := by
  rw [withSchemas, withSchemas, withSchemas, List.map_append, List.append_assoc]

/-- The values that are added stand behind those that are there already. -/
theorem valuesOf_withSchemas (args : Arguments) (values : List String) :
    (args.withSchemas values).valuesOf .schema = args.valuesOf .schema ++ values := by
  have hall : (values.map (ValueOption.schema, ·)).filter (·.1 = .schema) =
      values.map (ValueOption.schema, ·) :=
    List.filter_eq_self.2 (List.forall_mem_map.2 fun _ _ => decide_eq_true rfl)
  have happend := valuesOf_append args (values.map (ValueOption.schema, ·)) .schema
  rw [hall, List.map_map] at happend
  exact happend.trans (congrArg _ (List.map_id _))

/-- Values that list the same schemas. -/
theorem alike_withSchemas (args : Arguments) {values values' : List String}
    (h : values.flatMap (Text.splitOn ',') = values'.flatMap (Text.splitOn ',')) :
    Alike (args.withSchemas values) (args.withSchemas values') where
  flags := rfl
  pending := rfl
  afterDashes := rfl
  others option hoption := by
    -- The added values belong to no other option.
    have hnone : ∀ values : List String,
        (values.map (ValueOption.schema, ·)).filter (·.1 = option) = [] := by
      intro values
      refine List.filter_eq_nil_iff.2 (List.forall_mem_map.2 fun value _ h => ?_)
      exact hoption (of_decide_eq_true h).symm
    rw [withSchemas, withSchemas, List.filter_append, List.filter_append, hnone, hnone]
  schemas := by
    rw [valuesOf_withSchemas, valuesOf_withSchemas, List.flatMap_append, List.flatMap_append, h]

/-- Settling an option adds its value and leaves nothing pending. -/
theorem eq_of_settle {args args' : Arguments} {option : ValueOption} {value : String}
    (h : args.settle option value = .ok args') :
    args' = { args with values := args.values ++ [(option, value)], pending := none } := by
  rw [settle] at h
  split at h
  · exact absurd h throw_ne_ok
  · obtain ⟨_, -, h⟩ := bind_eq_ok.1 h
    exact (Except.ok.inj h).symm

/-- Settling what is pending does not change whether two dashes have been read. -/
theorem afterDashes_of_settlePending {args args' : Arguments}
    (h : args.settlePending = .ok args') : args'.afterDashes = args.afterDashes := by
  rw [settlePending] at h
  split at h
  · rw [← Except.ok.inj h]
  · exact absurd h throw_ne_ok
  · rw [eq_of_settle h]

/-- In front of two dashes a value for schemas is never refused, once all that is pending is
settled. -/
theorem addSchema_eq (args : Arguments) (hdashes : args.afterDashes = false) (value : String) :
    args.addSchema value = args.settlePending >>= fun args => .ok (args.withSchemas [value]) := by
  rw [addSchema, hdashes]
  rfl

/-- **Several values** for schemas, settled one after the other. -/
theorem foldlM_addSchema {args : Arguments} (hdashes : args.afterDashes = false)
    (values values' : List String) :
    values'.foldlM addSchema (args.withSchemas values) =
      .ok (args.withSchemas (values ++ values')) := by
  -- What has been added so far is part of the state, so the induction is over all values added
  -- before.
  induction values' generalizing values with
  | nil =>
    rw [List.append_nil]
    rfl
  | cons value values' ih =>
    have hadd : (args.withSchemas values).addSchema value =
        .ok ((args.withSchemas values).withSchemas [value]) :=
      addSchema_eq (args.withSchemas values) hdashes value
    rw [List.foldlM_cons, hadd, withSchemas_withSchemas]
    refine (ih (values ++ [value])).trans ?_
    rw [List.append_assoc, List.singleton_append]

/-- **Joined values** for schemas give the same schemas. -/
theorem foldlM_addSchema_joined (args : Arguments) {values : List String} (hvalues : values ≠ []) :
    SideBySide Alike (values.foldlM addSchema args)
      (args.addSchema (",".intercalate values)) := by
  have hjoined : Text.splitOn ',' (",".intercalate values) =
      values.flatMap (Text.splitOn ',') := Text.splitOn_intercalate_of_ne_nil rfl hvalues
  obtain ⟨value, values, rfl⟩ := List.exists_cons_of_ne_nil hvalues
  rw [List.foldlM_cons]
  -- Behind two dashes both sides refuse the first thing they meet. In front of them the state is
  -- settled once, on both sides, and then takes all values.
  cases hdashes : args.afterDashes with
  | true =>
    rw [addSchema, addSchema, hdashes]
    exact .error _
  | false =>
    rw [addSchema_eq args hdashes, addSchema_eq args hdashes]
    cases hsettled : args.settlePending with
    | error e => exact .error e
    | ok args' =>
      have hdashes' := (afterDashes_of_settlePending hsettled).trans hdashes
      have hall := foldlM_addSchema hdashes' [value] values
      change SideBySide Alike (values.foldlM addSchema (args'.withSchemas [value])) (.ok _)
      rw [hall]
      exact .ok (alike_withSchemas args' (hjoined.symm.trans (List.flatMap_singleton _ _).symm))

end Arguments

namespace Grammar

open Arguments (Agree)

variable {grammar : Grammar} {args : Arguments}

section Option

variable {name : List Char} {option : ValueOption}

/-- The name of an option by itself leaves the option waiting for its value. -/
theorem readLong_option (hname : '=' ∉ name)
    (hoption : grammar.long? (String.ofList name) = some (.option option)) :
    grammar.readLong args name = args.addOption option none := by
  -- Without an equals sign the name is the whole text.
  have hne : ∀ c ∈ name, decide (c ≠ '=') = true := fun c hc =>
    decide_eq_true (ne_of_mem_of_not_mem hc hname)
  rw [readLong, List.takeWhile_eq_self_iff.2 hne, List.dropWhile_eq_nil_iff.2 hne, hoption]

/-- The name of an option with an equals sign takes the text behind the sign. -/
theorem readLong_attached (hname : '=' ∉ name)
    (hoption : grammar.long? (String.ofList name) = some (.option option)) (value : String) :
    grammar.readLong args (name ++ '=' :: value.toList) =
      args.addOption option (some value) := by
  -- The first equals sign is the one behind the name, whatever the value has in it.
  have hne : ∀ c ∈ name, decide (c ≠ '=') = true := fun c hc =>
    decide_eq_true (ne_of_mem_of_not_mem hc hname)
  rw [readLong, List.takeWhile_append_of_pos hne, List.dropWhile_append_of_pos hne,
    List.takeWhile_cons_of_neg (by decide), List.dropWhile_cons_of_neg (by decide),
    List.append_nil, hoption]
  exact congrArg (fun value => args.addOption option (some value)) String.ofList_toList

end Option

/-- What the letter of the flag reads, given the text behind it. -/
theorem TakesSchemas.readLetters_attached (hgrammar : grammar.TakesSchemas) {cs : List Char}
    (value : String) (h : cs = '=' :: value.toList ∨
      cs = value.toList ∧ value ≠ "" ∧ value.toList.head? ≠ some '=') :
    grammar.readLetters args ('s' :: cs) = args.addOption .schema (some value) := by
  unfold readLetters
  rw [hgrammar.letter]
  refine congrArg (args.addOption .schema) ?_
  rcases h with rfl | ⟨rfl, hvalue, hequals⟩
  · -- A value behind an equals sign.
    exact congrArg some String.ofList_toList
  · -- A value that is not empty and does not begin with an equals sign stands behind the letter.
    split
    · next hnil => exact absurd (String.toList_eq_nil_iff.1 hnil) hvalue
    · next hcons => exact absurd (congrArg List.head? hcons) hequals
    · exact congrArg some String.ofList_toList

section Flag

variable {a b : Arguments} {value text : String} {texts : List String}

/-- The flag with its value attached. -/
theorem foldlM_attached (hdashes : b.afterDashes = false) (h : Agree a b)
    (htext : grammar.readArgument a text = a.addOption .schema (some value)) :
    SideBySide Agree ([text].foldlM grammar.readArgument a) (b.addSchema value) := by
  rw [List.foldlM_cons, htext, Arguments.addSchema, hdashes]
  simp only [List.foldlM_nil, bind_pure]
  exact h.addOption _ _

/-- The flag with its value apart. It is settled later, which agrees with settling it at once. -/
theorem TakesSchemas.foldlM_apart (hgrammar : grammar.TakesSchemas)
    (hdashes : b.afterDashes = false) (h : Agree a b) (hword : IsWord value.toList)
    (htext : grammar.readArgument a text = a.addOption .schema none) :
    SideBySide Agree ([text, value].foldlM grammar.readArgument a) (b.addSchema value) := by
  have hsettle := h.settlePending
  rw [List.foldlM_cons, htext, Arguments.addSchema_eq b hdashes, Arguments.addOption]
  -- What was pending is refused on both sides or on none.
  cases ha : a.settlePending with
  | error e =>
    rw [ha] at hsettle
    generalize b.settlePending = y at hsettle ⊢
    cases hsettle
    exact .error e
  | ok a' =>
    -- No dashes have been read, so the value behind the flag is taken.
    have hdashes' : a'.afterDashes = false :=
      (Arguments.afterDashes_of_settlePending ha).trans (h.afterDashes.trans hdashes)
    rw [ha] at hsettle
    generalize b.settlePending = y at hsettle ⊢
    cases hsettle with
    | ok h' =>
      have hvalue : grammar.readArgument { a' with pending := some (.schema, none) } value =
          .ok { a' with pending := some (.schema, some value) } :=
        hgrammar.readArgument_word hdashes' hword
      change SideBySide Agree ([value].foldlM grammar.readArgument _) (.ok _)
      simp only [List.foldlM_cons, List.foldlM_nil, bind_pure]
      rw [hvalue]
      exact .ok ((h'.append [(.schema, value)]).withPending none)

/-- **One flag** adds its value to the schemas. -/
theorem TakesSchemas.foldlM_flag (hgrammar : grammar.TakesSchemas) (hflag : SchemaFlag value texts)
    (h : Agree a b) :
    SideBySide Agree (texts.foldlM grammar.readArgument a) (b.addSchema value) := by
  cases hdashes : b.afterDashes with
  | true =>
    -- Behind two dashes the first argument of any flag is refused.
    obtain ⟨text, rest, rfl⟩ : ∃ text rest, texts = text :: rest := by
      cases hflag <;> exact ⟨_, _, rfl⟩
    rw [List.foldlM_cons, readArgument, h.afterDashes, hdashes, if_pos rfl, hgrammar.readOperand,
      Arguments.addSchema, hdashes, if_pos rfl]
    exact .error _
  | false =>
    have hdashes' : a.afterDashes = false := h.afterDashes.trans hdashes
    have hname : '=' ∉ ['s', 'c', 'h', 'e', 'm', 'a'] := by decide
    -- In each spelling it is to be shown that the flag is recognized, and with which value.
    cases hflag with
    | long =>
      refine foldlM_attached hdashes h ?_
      rw [readArgument_long hdashes' String.toList_append]
      exact readLong_attached hname hgrammar.long value
    | letter =>
      refine foldlM_attached hdashes h ?_
      rw [readArgument_letters hdashes' (by decide) String.toList_append]
      exact hgrammar.readLetters_attached value (.inl rfl)
    | attached hvalue hequals =>
      refine foldlM_attached hdashes h ?_
      rw [readArgument_letters hdashes' (by decide) String.toList_append]
      exact hgrammar.readLetters_attached value (.inr ⟨rfl, hvalue, hequals⟩)
    | longApart hword =>
      refine hgrammar.foldlM_apart hdashes h hword ?_
      rw [readArgument_long hdashes' rfl]
      exact readLong_option hname hgrammar.long
    | letterApart hword =>
      refine hgrammar.foldlM_apart hdashes h hword ?_
      have hletters : grammar.readArgument a "-s" = grammar.readLetters a ['s'] :=
        readArgument_letters hdashes' (by decide) rfl
      rw [hletters, readLetters, hgrammar.letter]

/-- **Several flags** add their values one after the other. -/
theorem TakesSchemas.foldlM_flags (hgrammar : grammar.TakesSchemas) {values : List String}
    {flags : List (List String)} (hflags : List.Forall₂ SchemaFlag values flags)
    (h : Agree a b) :
    SideBySide Agree (flags.flatten.foldlM grammar.readArgument a)
      (values.foldlM Arguments.addSchema b) := by
  -- Each flag is one step, so the induction is on the pairs of a value and its flag.
  induction hflags generalizing a b with
  | nil => exact .ok h
  | cons hflag _ ih =>
    rw [List.flatten_cons, List.foldlM_append, List.foldlM_cons]
    exact (hgrammar.foldlM_flag hflag h).bind fun a b => ih

end Flag

section Joined

variable {α : Type} {values joined : List String} {flags : List (List String)}

/-- Whatever comes to the same from states in agreement does so behind several flags and behind the
one flag with all their values. -/
theorem TakesSchemas.foldlM_joined (hgrammar : grammar.TakesSchemas)
    {rest : Arguments → Except Usage α} (hrest : ∀ a b, Agree a b → rest a = rest b)
    (hvalues : values ≠ []) (hflags : List.Forall₂ SchemaFlag values flags)
    (hjoined : SchemaFlag (",".intercalate values) joined) (args : Arguments) :
    flags.flatten.foldlM grammar.readArgument args >>= rest =
      joined.foldlM grammar.readArgument args >>= rest := by
  have hsame : Agree args args := Arguments.Alike.refl args.settled
  -- All three steps go through the states where values for schemas are settled at once.
  calc flags.flatten.foldlM grammar.readArgument args >>= rest
    _ = values.foldlM Arguments.addSchema args >>= rest :=
      (hgrammar.foldlM_flags hflags hsame).bind_eq hrest
    _ = args.addSchema (",".intercalate values) >>= rest :=
      (Arguments.foldlM_addSchema_joined args hvalues).bind_eq fun a b h => hrest a b h.agree
    _ = joined.foldlM grammar.readArgument args >>= rest :=
      ((hgrammar.foldlM_flag hjoined hsame).bind_eq hrest).symm

/-- **Flags with joined values.** Nothing that is made of the arguments of a command tells several
flags for schemas from one flag with all their values. -/
theorem TakesSchemas.readAll_joined (hgrammar : grammar.TakesSchemas)
    (finish : Arguments → Except Usage α)
    (hfinish : ∀ a b, Arguments.Alike a b → finish a = finish b) (before after : List String)
    (hvalues : values ≠ []) (hflags : List.Forall₂ SchemaFlag values flags)
    (hjoined : SchemaFlag (",".intercalate values) joined) :
    grammar.readAll (before ++ flags.flatten ++ after) >>= finish =
      grammar.readAll (before ++ joined ++ after) >>= finish := by
  -- All the arguments in front are read first, and those behind follow in the state that they led
  -- to.
  have hread : ∀ texts, grammar.readAll (before ++ texts ++ after) >>= finish =
      before.foldlM grammar.readArgument .initial >>= fun args =>
        texts.foldlM grammar.readArgument args >>= fun args =>
          grammar.read args after >>= fun result => finish result.1 := by
    intro texts
    rw [readAll, List.append_assoc, hgrammar.read_append]
    simp only [hgrammar.read_append, bind_assoc, pure_bind]
  rw [hread, hread]
  refine congrArg _ (funext (hgrammar.foldlM_joined (fun a b h => ?_) hvalues hflags hjoined))
  exact (hgrammar.read_agree h after).bind_eq fun _ _ => hfinish _ _

end Joined

end Grammar

/-! ### Commands -/

/-- States that are alike have the same options for the source of a catalog. -/
theorem Arguments.Alike.source_eq {a b : Arguments} (h : Alike a b) : a.source = b.source := by
  rw [source, source, h.schemas, h.value?_eq (by decide), h.value?_eq (by decide),
    h.value?_eq (by decide), h.value?_eq (by decide), h.value?_eq (by decide),
    h.value?_eq (by decide)]

/-- States that are alike have the same options for diagrams. -/
theorem Arguments.Alike.render_eq {a b : Arguments} (h : Alike a b) : a.render = b.render := by
  rw [render, render, h.source_eq, h.flags, h.value?_eq (by decide), h.value?_eq (by decide),
    h.value?_eq (by decide), h.value?_eq (by decide)]

/-- **Repeated flags** for schemas are one flag whose value joins theirs by commas, for the command
that draws diagrams and the one that writes snapshots. -/
theorem parse_of_joined {front behind after values joined : List String}
    {flags : List (List String)} {args : Arguments} {command : String}
    (hfront : programGrammar.read .initial front = .ok (args, some (command, behind)))
    (hcommand : command = "render" ∨ command = "snapshot") (hvalues : values ≠ [])
    (hflags : List.Forall₂ SchemaFlag values flags)
    (hjoined : SchemaFlag (",".intercalate values) joined) :
    parseArguments (front ++ flags.flatten ++ after) =
      parseArguments (front ++ joined ++ after) := by
  -- The part in front of the command does not see the flags, so the command gets them as they are.
  have hparse : ∀ texts, parseArguments (front ++ texts ++ after) =
      commandOf command (behind ++ texts ++ after) := by
    intro texts
    rw [parseArguments, List.append_assoc, Grammar.read_append_of_command hfront,
      List.append_assoc]
    rfl
  rw [hparse, hparse]
  rcases hcommand with rfl | rfl
  · exact Grammar.renderGrammar_takesSchemas.readAll_joined
      (fun args => .ok (Command.render args.render))
      (fun a b h => by rw [h.render_eq]) behind after hvalues hflags hjoined
  · exact Grammar.snapshotGrammar_takesSchemas.readAll_joined
      (fun args => .ok (Command.snapshot args.source (args.value? .output)))
      (fun a b h => by rw [h.source_eq, h.value?_eq (by decide)]) behind after hvalues hflags
      hjoined

end SchemaDiagram
