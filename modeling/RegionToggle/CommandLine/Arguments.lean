import RegionToggle.Text.Basic

/-!
# Arguments

The arguments of a command are options, each given at most once, and one root. A value follows its
option as the next argument, or right behind it, with an equals sign if need be; one-letter options
may share a dash. Behind `--` every argument is a root. Arguments are read from the left, and the
first one that asks for help or the version, or is wrong, decides.
-/

namespace RegionToggle

structure Arguments where
  root? : Option Text := none
  platform? : Option Text := none
  settings? : Option Text := none
  dryRun : Bool := false
  skipsTopSubfolder : Bool := false
  json : Bool := false
  debug : Bool := false
  deriving DecidableEq, Repr

inductive Switch where
  | dryRun
  | skipsTopSubfolder
  | json
  | debug
  | help
  | version
  deriving DecidableEq, Repr

/-- Options that have a value. -/
inductive Setting where
  | platform
  | settings
  deriving DecidableEq, Repr

inductive CommandOption where
  | switch (switch : Switch)
  | setting (setting : Setting)
  deriving DecidableEq, Repr

inductive Misuse where
  /-- An argument that nothing takes. -/
  | unexpected (argument : Text)
  /-- A value for an option that stands by itself. -/
  | unexpectedValue (value : Text) (switch : Switch)
  | repeated (option : CommandOption)
  | valueMissing (setting : Setting)
  | rootEmpty
  deriving DecidableEq, Repr

/-- What a command line comes to. -/
inductive Request where
  | run (arguments : Arguments)
  | help
  | version
  | misuse (cause : Misuse)
  deriving DecidableEq, Repr

namespace CommandOption

def ofLetter? : Char → Option CommandOption
  | 'p' => some (.setting .platform)
  | 'c' => some (.setting .settings)
  | 'n' => some (.switch .dryRun)
  | 'd' => some (.switch .debug)
  | 'h' => some (.switch .help)
  | 'V' => some (.switch .version)
  | _ => none

def names : List (Text × CommandOption) :=
  [("platform".toList, .setting .platform),
    ("config".toList, .setting .settings),
    ("dry-run".toList, .switch .dryRun),
    ("exclude-root-config".toList, .switch .skipsTopSubfolder),
    ("json".toList, .switch .json),
    ("debug".toList, .switch .debug),
    ("help".toList, .switch .help),
    ("version".toList, .switch .version)]

/-- The option with a long name, which is never cut short. -/
def ofName? (name : Text) : Option CommandOption := names.lookup name

/-- The long name of an option with its dashes, and with a word for its value if it has one. -/
def shown (option : CommandOption) : String :=
  let name := (names.find? fun entry => entry.2 = option).elim [] Prod.fst
  let value : String :=
    match option with
    | .setting .platform => " <PLATFORM>"
    | .setting .settings => " <CONFIG>"
    | .switch _ => ""
  "--" ++ String.ofList name ++ value

end CommandOption

def Misuse.message : Misuse → String
  | .unexpected argument =>
    let argument := String.ofList argument
    s!"error: unexpected argument '{argument}' found"
  | .unexpectedValue value switch =>
    let value := String.ofList value
    let shown := (CommandOption.switch switch).shown
    s!"error: unexpected value '{value}' for '{shown}' found; no more were expected"
  | .repeated option =>
    let shown := option.shown
    s!"error: the argument '{shown}' cannot be used multiple times"
  | .valueMissing setting =>
    let shown := (CommandOption.setting setting).shown
    s!"error: a value is required for '{shown}' but none was supplied"
  | .rootEmpty => "error: a value is required for '[ROOT]' but none was supplied"

namespace Arguments

/-- Sets a switch that is not set yet; the result is a request when the switch asks for one or is
set already. -/
def set (arguments : Arguments) : Switch → Except Request Arguments
  | .dryRun =>
    if arguments.dryRun then .error (.misuse (.repeated (.switch .dryRun)))
    else .ok { arguments with dryRun := true }
  | .skipsTopSubfolder =>
    if arguments.skipsTopSubfolder then .error (.misuse (.repeated (.switch .skipsTopSubfolder)))
    else .ok { arguments with skipsTopSubfolder := true }
  | .json =>
    if arguments.json then .error (.misuse (.repeated (.switch .json)))
    else .ok { arguments with json := true }
  | .debug =>
    if arguments.debug then .error (.misuse (.repeated (.switch .debug)))
    else .ok { arguments with debug := true }
  | .help => .error .help
  | .version => .error .version

/-- Gives a value to a setting that has none yet. The path of a settings file is never empty. -/
def give (arguments : Arguments) (value : Text) : Setting → Except Request Arguments
  | .platform =>
    if arguments.platform?.isSome then .error (.misuse (.repeated (.setting .platform)))
    else .ok { arguments with platform? := some value }
  | .settings =>
    if value.isEmpty then .error (.misuse (.valueMissing .settings))
    else if arguments.settings?.isSome then .error (.misuse (.repeated (.setting .settings)))
    else .ok { arguments with settings? := some value }

/-- Gives the root, which is not empty, if there is none yet. -/
def giveRoot (arguments : Arguments) (root : Text) : Except Request Arguments :=
  if arguments.root?.isSome then .error (.misuse (.unexpected root))
  else if root.isEmpty then .error (.misuse .rootEmpty)
  else .ok { arguments with root? := some root }

/-- Whether an argument is an option, or ends the options. A dash alone is neither. -/
def isOption (argument : Text) : Bool :=
  match argument with
  | '-' :: _ :: _ => true
  | _ => false

/-- Takes in one-letter options that share a dash. What follows the letter of a setting is its
value; if nothing does, the setting is left waiting for the next argument. -/
def takeLetters (arguments : Arguments) :
    Text → Except Request (Arguments × Option Setting)
  | [] => .ok (arguments, none)
  | letter :: rest =>
    match CommandOption.ofLetter? letter with
    | none => .error (.misuse (.unexpected ['-', letter]))
    | some (.switch switch) =>
      match arguments.set switch with
      | .error request => .error request
      | .ok arguments => arguments.takeLetters rest
    | some (.setting setting) =>
      match rest with
      | [] => .ok (arguments, some setting)
      | '=' :: value => (arguments.give value setting).map fun arguments => (arguments, none)
      | value => (arguments.give value setting).map fun arguments => (arguments, none)

/-- Takes in an option by its long name; an equals sign attaches a value. -/
def takeLong (arguments : Arguments) (option : Text) :
    Except Request (Arguments × Option Setting) :=
  let name := option.takeWhile (· != '=')
  let attached? := Text.stripFront? ['='] (option.dropWhile (· != '='))
  match CommandOption.ofName? name, attached? with
  | some (.switch switch), none => (arguments.set switch).map fun arguments => (arguments, none)
  | some (.setting setting), none => .ok (arguments, some setting)
  | some (.setting setting), some value =>
    (arguments.give value setting).map fun arguments => (arguments, none)
  | some (.switch switch), some value => .error (.misuse (.unexpectedValue value switch))
  | none, _ => .error (.misuse (.unexpected ('-' :: '-' :: name)))

/-- Reads arguments; a waiting setting takes the next one as its value. -/
def read (arguments : Arguments) (waiting? : Option Setting) : List Text → Request
  | [] => waiting?.elim (.run arguments) fun setting => .misuse (.valueMissing setting)
  | argument :: rest =>
    match waiting?, argument with
    | some setting, argument =>
      if isOption argument then .misuse (.valueMissing setting)
      else
        match arguments.give argument setting with
        | .ok arguments => arguments.read none rest
        | .error request => request
    | none, ['-', '-'] =>
      match rest.foldlM giveRoot arguments with
      | .ok arguments => .run arguments
      | .error request => request
    | none, '-' :: '-' :: option =>
      match arguments.takeLong option with
      | .ok (arguments, waiting?) => arguments.read waiting? rest
      | .error request => request
    | none, '-' :: letter :: letters =>
      match arguments.takeLetters (letter :: letters) with
      | .ok (arguments, waiting?) => arguments.read waiting? rest
      | .error request => request
    | none, root =>
      match arguments.giveRoot root with
      | .ok arguments => arguments.read none rest
      | .error request => request

def parse (commandLine : List Text) : Request := ({} : Arguments).read none commandLine

end Arguments

end RegionToggle
