import SchemaDiagram.Text.Blank

/-!
# Arguments of the command line

The grammar of the arguments. A command line starts with switches that concern the whole
program, names a command and goes on with the switches of that command. A switch is a flag or an
option with a value; it has a long name after two dashes, and some have a letter after one dash.
Letters of flags may stand together, and an option may follow them with its value attached.

An option is settled as soon as the next switch begins or the arguments end. So it depends on
the order of the arguments which of several errors is found.

* `Grammar`: the switches of a part of the command line;
* `Grammar.read`: reading the arguments one after the other;
* `parseArguments`: the command of a whole command line.
-/

namespace SchemaDiagram

/-! ### Switches -/

/-- **Flag:** a switch without a value. -/
inductive Flag where
  | help
  | version
  | verbose
  | progress
  | strict
  deriving DecidableEq

/-- **Option:** a switch with a value. -/
inductive ValueOption where
  | config
  | schema
  | host
  | port
  | database
  | user
  | password
  | filename
  | catalog
  | tables
  | exclude
  | output
  /-- The argument of a command that is no switch. -/
  | operand
  deriving DecidableEq

/-- **Switch.** -/
inductive Switch where
  | flag (flag : Flag)
  | option (option : ValueOption)

/-- **Grammar** of a part of the command line. -/
structure Grammar where
  /-- The switches with their long names and their letters. -/
  switches : List (Switch × String × Option Char)
  /-- The names of the commands, at one of which the part ends. -/
  commands : List String
  /-- Whether an argument that is no switch may stand there. -/
  hasOperand : Bool

/-- The switches of every part. -/
def commonSwitches : List (Switch × String × Option Char) :=
  [(.flag .verbose, "verbose", some 'v'), (.flag .help, "help", some 'h')]

/-- The switches of a command that reads a catalog. -/
def sourceSwitches : List (Switch × String × Option Char) :=
  [(.option .config, "config", some 'c'), (.option .schema, "schema", some 's'),
    (.option .host, "host", none), (.option .port, "port", none),
    (.option .database, "database", some 'd'), (.option .user, "user", some 'u'),
    (.option .password, "password", none), (.flag .progress, "progress", some 'p')]

/-- The grammar in front of the command. -/
def programGrammar : Grammar :=
  { switches := commonSwitches ++ [(.flag .version, "version", some 'V')]
    commands := ["render", "snapshot", "snapshot-schema", "completions", "help"]
    hasOperand := false }

/-- The grammar of the command that draws diagrams. -/
def renderGrammar : Grammar :=
  { switches := commonSwitches ++ sourceSwitches ++
      [(.option .filename, "filename", some 'f'), (.option .catalog, "catalog", none),
        (.flag .strict, "strict", none), (.option .tables, "tables", some 't'),
        (.option .exclude, "exclude", some 'e')]
    commands := []
    hasOperand := false }

/-- The grammar of the command that writes snapshots. -/
def snapshotGrammar : Grammar :=
  { switches := commonSwitches ++ sourceSwitches ++ [(.option .output, "output", some 'o')]
    commands := []
    hasOperand := false }

/-- The grammar of the command that writes the schema of snapshots. -/
def snapshotSchemaGrammar : Grammar := ⟨commonSwitches, [], false⟩

/-- The grammar of the command that writes completion scripts. -/
def completionsGrammar : Grammar := ⟨commonSwitches, [], true⟩

/-! ### Usage -/

/-- **Usage answer:** why a command line is no command. Questions for help and for the version
are among them. -/
inductive Usage where
  | help
  | version
  /-- There is no argument at all. -/
  | helpForNothing
  | missingCommand
  | unknownCommand
  | unknownArgument
  /-- A value is missing, empty where it must not be, or none of the possible ones. -/
  | invalidValue
  /-- A value cannot be read. -/
  | unreadableValue
  | repeatedSwitch
  /-- A flag has a value. -/
  | valueOfFlag
  | missingOperand
  deriving DecidableEq

/-- The exit code after a usage answer. -/
def Usage.exitCode : Usage → Nat
  | help | version => 0
  | _ => 2

/-- A usage answer in words. -/
def Usage.message : Usage → String
  | help | helpForNothing =>
    "usage: [-v] render [OPTIONS] | snapshot [OPTIONS] | snapshot-schema | completions SHELL"
  | version => "schema-diagram"
  | missingCommand => "a command is required"
  | unknownCommand => "unknown command"
  | unknownArgument => "unexpected argument"
  | invalidValue => "a value is missing or invalid"
  | unreadableValue => "a value cannot be read"
  | repeatedSwitch => "an argument is given more than once"
  | valueOfFlag => "a value is given to a flag"
  | missingOperand => "a required argument is missing"

/-! ### Values -/

/-- The number from 0 to 65535 that a text writes, with or without a sign. -/
def portOf? (text : String) : Option UInt16 :=
  let (negative, digits) := match text.toList with
    | '-' :: cs => (true, cs)
    | '+' :: cs => (false, cs)
    | cs => (false, cs)
  if digits.isEmpty || !digits.all Char.isDigit then none
  else
    let n := digits.foldl (fun n c => 10 * n + (c.toNat - '0'.toNat)) 0
    -- A minus may stand before zero only.
    if n < Nat.pow 2 16 ∧ (negative → n = 0) then some (UInt16.ofNat n) else none

/-- The shells for which there are completion scripts. -/
def shells : List String := ["bash", "elvish", "fish", "powershell", "zsh"]

/-- Checks the value of an option: paths must not be empty, the port must be a number, the
operand names a shell. -/
def ValueOption.check (option : ValueOption) (value : String) : Except Usage Unit :=
  match option with
  | .config | .filename | .catalog | .output =>
    if value = "" then .error .invalidValue else .ok ()
  | .port => if (portOf? value).isSome then .ok () else .error .unreadableValue
  | .operand => if shells.contains value then .ok () else .error .invalidValue
  | _ => .ok ()

/-- The option may be given several times. -/
def ValueOption.isRepeatable (option : ValueOption) : Bool := option = .schema

/-! ### Reading arguments -/

/-- **State** of reading a part of the command line. -/
structure Arguments where
  flags : List Flag
  /-- The options that are settled, with their values, in order. -/
  values : List (ValueOption × String)
  /-- The option that is not settled yet, and its value, if that has been read. -/
  pending : Option (ValueOption × Option String)
  /-- Two dashes have been read, after which no argument is a switch. -/
  afterDashes : Bool

namespace Arguments

/-- Nothing has been read. -/
def initial : Arguments := ⟨[], [], none, false⟩

/-- Settles an option. -/
def settle (args : Arguments) (option : ValueOption) (value : String) :
    Except Usage Arguments := do
  -- A second occurrence is refused whatever its value is.
  if !option.isRepeatable && args.values.any (·.1 = option) then throw .repeatedSwitch
  option.check value
  return { args with values := args.values ++ [(option, value)], pending := none }

/-- Settles the option that is not settled yet, if there is one. -/
def settlePending (args : Arguments) : Except Usage Arguments :=
  match args.pending with
  | none => .ok args
  -- No value came before the next switch.
  | some (_, none) => .error .invalidValue
  | some (option, some value) => args.settle option value

/-- Notes a flag. Help and version are answered at once. -/
def addFlag (args : Arguments) (flag : Flag) : Except Usage Arguments := do
  let args ← args.settlePending
  match flag with
  | .help => throw .help
  | .version => throw .version
  | flag =>
    if args.flags.contains flag then throw .repeatedSwitch
    return { args with flags := args.flags ++ [flag] }

/-- Notes an option with the value that is attached to it, or to be followed by its value. -/
def addOption (args : Arguments) (option : ValueOption) (attached : Option String) :
    Except Usage Arguments := do
  let args ← args.settlePending
  match attached with
  | some value => args.settle option value
  | none => return { args with pending := some (option, none) }

/-- The value of an option, the last one if there are several. -/
def value? (args : Arguments) (option : ValueOption) : Option String :=
  -- A repeated option is refused, so several values come from repeatable ones only.
  ((args.values.filter (·.1 = option)).getLast?).map (·.2)

/-- All values of an option. -/
def valuesOf (args : Arguments) (option : ValueOption) : List String :=
  (args.values.filter (·.1 = option)).map (·.2)

end Arguments

namespace Grammar

/-- The switch with a long name. -/
def long? (grammar : Grammar) (name : String) : Option Switch :=
  (grammar.switches.find? fun (_, long, _) => long = name).map (·.1)

/-- The switch with a letter. -/
def letter? (grammar : Grammar) (letter : Char) : Option Switch :=
  (grammar.switches.find? fun (_, _, short) => short = some letter).map (·.1)

/-- Reads a switch with a long name, given the text after its two dashes. -/
def readLong (grammar : Grammar) (args : Arguments) (cs : List Char) : Except Usage Arguments :=
  let name := String.ofList (cs.takeWhile (· ≠ '='))
  -- The first equals sign ends the name, and all others belong to the value.
  let attached := match cs.dropWhile (· ≠ '=') with
    | [] => none
    | _ :: value => some (String.ofList value)
  match grammar.long? name, attached with
  | some (.option option), _ => args.addOption option attached
  | some (.flag flag), none => args.addFlag flag
  | some (.flag _), some _ => .error .valueOfFlag
  | none, _ => .error .unknownArgument

/-- Reads switches by their letters; the text after the letter of an option is its value. -/
def readLetters (grammar : Grammar) (args : Arguments) : List Char → Except Usage Arguments
  | [] => .ok args
  | c :: cs =>
    match grammar.letter? c with
    | some (.flag flag) => do grammar.readLetters (← args.addFlag flag) cs
    | some (.option option) =>
      -- What is left of the argument is the value, with or without an equals sign before it.
      args.addOption option <| match cs with
        | [] => none
        | '=' :: value => some (String.ofList value)
        | value => some (String.ofList value)
    | none => .error .unknownArgument

/-- Reads an argument that is no switch. -/
def readOperand (grammar : Grammar) (args : Arguments) (text : String) :
    Except Usage Arguments :=
  let seen := args.values.any (·.1 = .operand) || args.pending.any (·.1 = .operand)
  if grammar.hasOperand && !seen then do
    return { ← args.settlePending with pending := some (.operand, some text) }
  else if grammar.commands.isEmpty || (args.afterDashes && grammar.commands.contains text) then
    .error .unknownArgument
  else .error .unknownCommand

/-- Reads one argument that is no command. -/
def readArgument (grammar : Grammar) (args : Arguments) (text : String) :
    Except Usage Arguments :=
  -- Behind two dashes even a text with a dash is no switch.
  if args.afterDashes then grammar.readOperand args text
  else match text.toList, args.pending with
    | ['-', '-'], _ => .ok { args with afterDashes := true }
    | '-' :: '-' :: cs, _ => grammar.readLong args cs
    | '-' :: c :: cs, _ => grammar.readLetters args (c :: cs)
    -- The value of a pending option is any text that does not begin like a switch.
    | _, some (option, none) => .ok { args with pending := some (option, some text) }
    | _, _ => grammar.readOperand args text

/-- An argument names a command: no option waits for it as its value. -/
def isCommand (grammar : Grammar) (args : Arguments) (text : String) : Bool :=
  grammar.commands.contains text && !args.afterDashes && args.pending.isNone

/-- **Reading arguments** up to a command. The result is the state after them, and the command
with the arguments behind it, if one was reached. -/
def read (grammar : Grammar) (args : Arguments) :
    List String → Except Usage (Arguments × Option (String × List String))
  | [] => do return (← args.settlePending, none)
  | text :: rest => do
    if grammar.isCommand args text then return (args, some (text, rest))
    else grammar.read (← grammar.readArgument args text) rest

/-- Reads the arguments of a command. -/
def readAll (grammar : Grammar) (texts : List String) : Except Usage Arguments := do
  return (← grammar.read .initial texts).1

end Grammar

/-! ### Commands -/

/-- **Options of a command that reads a catalog.** -/
structure SourceOptions where
  config : Option String
  schema : List String
  host : Option String
  port : Option UInt16
  database : Option String
  user : Option String
  password : Option String

/-- **Options of the command that draws diagrams.** -/
structure RenderOptions where
  source : SourceOptions
  filename : Option String
  /-- The snapshot to read instead of a database. -/
  catalog : Option String
  strict : Bool
  tables : Option String
  exclude : Option String

/-- **Command.** -/
inductive Command where
  /-- Draw diagrams. -/
  | render (options : RenderOptions)
  /-- Write a snapshot of a catalog. -/
  | snapshot (source : SourceOptions) (output : Option String)
  /-- Write the schema of snapshots. -/
  | snapshotFormat
  /-- Write a completion script for a shell. -/
  | completions (shell : String)

/-- The options of a command that reads a catalog. Commas separate several schemas. -/
def Arguments.source (args : Arguments) : SourceOptions :=
  { config := args.value? .config
    schema := (args.valuesOf .schema).flatMap (Text.splitOn ',')
    host := args.value? .host
    port := (args.value? .port).bind portOf?
    database := args.value? .database
    user := args.value? .user
    password := args.value? .password }

/-- The options of the command that draws diagrams. -/
def Arguments.render (args : Arguments) : RenderOptions :=
  { source := args.source
    filename := args.value? .filename
    catalog := args.value? .catalog
    strict := args.flags.contains .strict
    tables := args.value? .tables
    exclude := args.value? .exclude }

/-- The answer to a question for help about a command, which itself has no commands. -/
def helpAbout : List String → Usage
  | [] => .help
  | [command] => if programGrammar.commands.contains command then .help else .unknownCommand
  | _ => .unknownCommand

/-- The command of this name with the arguments behind it. -/
def commandOf (name : String) (texts : List String) : Except Usage Command := do
  match name with
  | "render" => return .render (← renderGrammar.readAll texts).render
  | "snapshot" =>
    let args ← snapshotGrammar.readAll texts
    return .snapshot args.source (args.value? .output)
  | "snapshot-schema" =>
    let _ ← snapshotSchemaGrammar.readAll texts
    return .snapshotFormat
  | "completions" =>
    match (← completionsGrammar.readAll texts).value? .operand with
    | some shell => return .completions shell
    | none => throw .missingOperand
  | _ => throw (helpAbout texts)

/-- **Parsing a command line.** -/
def parseArguments (texts : List String) : Except Usage Command := do
  let (args, command) ← programGrammar.read .initial texts
  match command with
  | some (name, rest) => commandOf name rest
  | none => throw (if args.flags.isEmpty then .helpForNothing else .missingCommand)

end SchemaDiagram
