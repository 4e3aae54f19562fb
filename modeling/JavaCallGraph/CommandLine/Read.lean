import JavaCallGraph.CommandLine.Spec

/-!
# Reading arguments

* `Matches` — the options and values found in a list of arguments.
* `CommandSpec.read` — the arguments of one command.
* `readArguments` — the command that a list of arguments calls for.
-/

namespace JavaCallGraph.CommandLine

inductive Stop where
  | misuse
  | print (text : String)
  deriving DecidableEq, Repr

structure Matches where
  switches : List String := []
  /-- Values of options by their long names, in order. -/
  options : List (String × String) := []
  values : List String := []
  /-- The option that the next argument is the value of. -/
  pending : Option OptionSpec := none
  trailing : Bool := false
  deriving DecidableEq, Repr

namespace Matches

def has (m : Matches) (long : String) : Bool := m.switches.contains long

def value? (m : Matches) (long : String) : Option String := m.options.lookup long

def valuesOf (m : Matches) (long : String) : List String :=
  m.options.filterMap fun (name, value) => if name == long then some value else none

def addValue (m : Matches) (specs : List ValueSpec) (text : String) : Except Stop Matches :=
  match specs[m.values.length]? with
  | some spec =>
    if spec.kind.accepts text then .ok { m with values := m.values ++ [text] } else .error .misuse
  | none => .error .misuse

def addOption (m : Matches) (option : OptionSpec) (text : String) : Except Stop Matches :=
  if (m.value? option.long).isSome && !option.repeatable then .error .misuse
  else if option.value.any (·.kind.accepts text) then
    .ok { m with options := m.options ++ [(option.long, text)], pending := none }
  else .error .misuse

/-- With a switch. `help` is the text that asking for help prints. -/
def addSwitch (m : Matches) (help : String) (option : OptionSpec) : Except Stop Matches :=
  if option == helpOption then .error (.print help)
  else if option == versionOption then .error (.print versionText)
  else if m.has option.long then .error .misuse
  else .ok { m with switches := m.switches ++ [option.long] }

end Matches

structure Level where
  options : List OptionSpec
  values : List ValueSpec
  help : String

def Level.top : Level := ⟨commonOptions ++ [helpOption, versionOption], [], overview⟩

def Level.ofCommand (c : CommandSpec) : Level :=
  ⟨c.options ++ commonOptions ++ [helpOption], c.values.map (·.1), c.help⟩

namespace Level

/-- Reads `--name` or `--name=value`, without the dashes. -/
def readLong (l : Level) (m : Matches) (body : String) : Except Stop Matches :=
  let (name, attached) := match Text.cutFirst '=' body with
    | some (name, value) => (name, some value)
    | none => (body, none)
  match l.options.find? (·.long == name) with
  | none => .error .misuse
  | some option =>
    match option.value, attached with
    | none, none => m.addSwitch l.help option
    | none, some _ => .error .misuse
    | some _, some value => m.addOption option value
    | some _, none => .ok { m with pending := some option }

/-- Reads switches of one letter each; after the letter of an option with a value, the value follows. -/
def readShort (l : Level) (m : Matches) : List Char → Except Stop Matches
  | [] => .ok m
  | c :: cs =>
    match l.options.find? (·.short == some c) with
    | none => .error .misuse
    | some option =>
      match option.value, cs with
      | none, cs => do readShort l (← m.addSwitch l.help option) cs
      | some _, [] => .ok { m with pending := some option }
      | some _, '=' :: value => m.addOption option (String.ofList value)
      | some _, value => m.addOption option (String.ofList value)

def namesOptions (arg : String) : Bool := Text.startsWith "-" arg && arg != "-"

def read (l : Level) (m : Matches) (arg : String) : Except Stop Matches :=
  if m.trailing then m.addValue l.values arg
  else
    match m.pending with
    | some option => if namesOptions arg then .error .misuse else m.addOption option arg
    | none =>
      if arg == "--" then .ok { m with trailing := true }
      else
        match Text.dropStart? "--" arg with
        | some body => l.readLong m body
        | none => if namesOptions arg then l.readShort m (arg.toList.drop 1) else m.addValue l.values arg

/-- Is everything there, and nothing that excludes another? -/
def isComplete (l : Level) (m : Matches) : Bool :=
  m.pending.isNone && m.values.length == l.values.length &&
    !(m.has verboseOption.long && m.has quietOption.long)

end Level

def CommandSpec.read (c : CommandSpec) (args : List String) : Except Stop Matches := do
  let level := Level.ofCommand c
  let m ← args.foldlM level.read {}
  if level.isComplete m then return m else throw .misuse

def helpFor : List String → Except Stop String
  | [] => .ok overview
  | ["help"] => .ok helpOnHelp
  | [name] =>
    match commands.find? (·.name == name) with
    | some c => .ok c.help
    | none => .error .misuse
  | _ => .error .misuse

def readFrom (m : Matches) : List String → Except Stop (CommandSpec × Matches)
  | [] => .error .misuse
  | arg :: args =>
    if m.trailing then .error .misuse
    else if Level.namesOptions arg then do readFrom (← Level.top.read m arg) args
    else if arg == "help" then do throw (.print (← helpFor args))
    else
      match commands.find? (·.name == arg) with
      | none => .error .misuse
      | some c => do
        let found ← c.read args
        if Level.top.isComplete m then return (c, found) else throw .misuse

def readArguments (args : List String) : Except Stop (CommandSpec × Matches) := readFrom {} args

end JavaCallGraph.CommandLine
