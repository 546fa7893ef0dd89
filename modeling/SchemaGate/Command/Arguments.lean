import SchemaGate.Command
/-!
Arguments. A command is named first, and then come its options in any order, each at most once. An
option is written with its long name after two dashes, or with its letter after one; letters may
stand together. Its value is the next argument, unless it is attached: after an equals sign, or
right after the letter. A request for help is answered as soon as it is met; nothing after it is
looked at.
-/

set_option autoImplicit false

namespace SchemaGate.Command

inductive Effect where
  | value
  | flag
  | help
  | version
  deriving DecidableEq, Repr

structure Switch where
  name : String
  letter : Option Char
  effect : Effect
  deriving DecidableEq, Repr

def helpSwitch : Switch := ⟨"help", some 'h', .help⟩

def versionSwitch : Switch := ⟨"version", some 'V', .version⟩

/-- The options that have been given, with their values; flags have empty ones. -/
abbrev Given := List (String × String)

/-- How far arguments have been read. -/
inductive Reading where
  /-- The option that is named waits for its value. -/
  | going (given : Given) (waiting : Option String)
  /-- Two dashes alone have been met, and nothing may follow them. -/
  | ended (given : Given)
  | help
  | version
  | rejected
  deriving DecidableEq, Repr

namespace Given

def value? (given : Given) (name : String) : Option String :=
  (given.find? fun g => g.1 == name).map Prod.snd

def has (given : Given) (name : String) : Bool := (given.value? name).isSome

/-- One more option, which must not have been given before. -/
def add (given : Given) (name value : String) : Reading :=
  if given.has name then .rejected else .going (given ++ [(name, value)]) none

end Given

namespace Switch

/-- Reads an option with the value attached to it. Only options that want a value can have one. -/
def read (switch : Switch) (attached : Option String) (given : Given) : Reading :=
  match switch.effect, attached with
  | .value, some value => given.add switch.name value
  | .value, none => .going given (some switch.name)
  | .flag, none => given.add switch.name ""
  | .help, none => .help
  | .version, none => .version
  | _, some _ => .rejected

end Switch

def readLong (switches : List Switch) (given : Given) (arg : List Char) : Reading :=
  let name := String.ofList (arg.takeWhile (· != '='))
  let attached := ((arg.dropWhile (· != '=')).tail?).map String.ofList
  match switches.find? fun s => s.name == name with
  | some switch => switch.read attached given
  | none => .rejected

/-- The value that is attached to a letter. -/
def attachedValue : List Char → Option String
  | [] => none
  | '=' :: s => some (String.ofList s)
  | s => some (String.ofList s)

def readLetters (switches : List Switch) : Given → List Char → Reading
  | given, [] => .going given none
  | given, c :: s =>
    match switches.find? fun switch => switch.letter == some c with
    | none => .rejected
    | some switch =>
      if switch.effect = .value then switch.read (attachedValue s) given
      else
        match switch.read none given with
        | .going given _ => readLetters switches given s
        | reading => reading

/-- Reads one more argument. A value that is waited for must not look like an option. -/
def readArgument (switches : List Switch) : Reading → String → Reading
  | .going given waiting, arg =>
    match arg.toList, waiting with
    | '-' :: _ :: _, some _ => .rejected
    | ['-', '-'], none => .ended given
    | '-' :: '-' :: name, none => readLong switches given name
    | '-' :: c :: letters, none => readLetters switches given (c :: letters)
    | _, some name => given.add name arg
    | _, none => .rejected
  | .ended _, _ => .rejected
  | reading, _ => reading

/-- The options of a command: what was given, if help was not asked for. -/
def readOptions (switches : List Switch) (args : List String) : Reading :=
  args.foldl (readArgument (helpSwitch :: switches)) (.going [] none)

def Reading.request (reading : Reading) (command : Given → Option Command) : Option Request :=
  match reading with
  | .going given none | .ended given => (command given).map .run
  | .going _ (some _) | .rejected => none
  | .help => some .help
  | .version => some .version

def defaultConfig : String := "sqlgate.toml"

def planSwitch : Switch := ⟨"plan", some 'p', .value⟩

def configSwitch : Switch := ⟨"config", some 'c', .value⟩

def databaseSwitch : Switch := ⟨"database", some 'd', .value⟩

def noIncreaseSwitch : Switch := ⟨"no-increase-version", none, .flag⟩

def verboseSwitch : Switch := ⟨"verbose", some 'v', .flag⟩

def configGiven (given : Given) : String := (given.value? configSwitch.name).getD defaultConfig

/-- How a command is asked for: its name, its options, and the command they make up. -/
structure Form where
  name : String
  switches : List Switch
  command : Given → Option Command

def forms : List Form :=
  [⟨"render", [planSwitch], fun given => (given.value? planSwitch.name).map .render⟩,
    ⟨"apply", [planSwitch, configSwitch, noIncreaseSwitch, verboseSwitch], fun given =>
      (given.value? planSwitch.name).map fun plan =>
        .apply plan (configGiven given) (!given.has noIncreaseSwitch.name)
          (given.has verboseSwitch.name)⟩,
    ⟨"status", [databaseSwitch, configSwitch], fun given =>
      (given.value? databaseSwitch.name).map fun database => .status database (configGiven given)⟩]

/-- The word that asks for help on all commands or on the one named after it. -/
def helpWord : String := "help"

def helpTopics : List String := helpWord :: forms.map Form.name

/-- Reads what the program is asked for; none if the arguments are rejected. -/
def parse : List String → Option Request
  | [] => none
  | word :: args =>
    match forms.find? fun form => form.name == word with
    | some form => (readOptions form.switches args).request form.command
    | none =>
      if word = helpWord then
        match args with
        | [] => some .help
        | [topic] => if helpTopics.contains topic then some .help else none
        | _ => none
      else
        (readArgument [helpSwitch, versionSwitch] (.going [] none) word).request fun _ => none

end SchemaGate.Command
