import UploadHooks.CommandLine.Help
import UploadHooks.Hook

/-!
# The command line

The program takes a command with options. An option has a long name, a
short name or both. Short options can be run together; one with a value
takes what follows it in the same argument, after an equals sign or not,
or else the next argument, which must not look like an option. Nothing is
abbreviated and nothing else is taken.

Arguments are read from the left and the first thing that settles the
matter does: a mistake, or a request for help or the version. What the
verbosity options ask for shows up in nothing that is modelled here, so
they are checked and dropped.
-/

namespace UploadHooks

namespace CommandLine

/-! ## Options -/

inductive Opt where
  | verbose
  | logJson
  | help
  | version
  | metadata
  | id
  deriving DecidableEq, Repr

namespace Opt

def long : Opt → String
  | .verbose => "verbose"
  | .logJson => "log-json"
  | .help => "help"
  | .version => "version"
  | .metadata => "metadata"
  | .id => "id"

def short? : Opt → Option Char
  | .verbose => some 'v'
  | .logJson => none
  | .help => some 'h'
  | .version => some 'V'
  | .metadata => some 'm'
  | .id => some 'i'

def takesValue : Opt → Bool
  | .metadata => true
  | .id => true
  | _ => false

end Opt

/-! ## Commands -/

inductive Command where
  | preCreate
  | postCreate
  | postFinish
  deriving DecidableEq, Repr

namespace Command

def all : List Command := [.preCreate, .postCreate, .postFinish]

def name : Command → String
  | .preCreate => "pre-create"
  | .postCreate => "post-create"
  | .postFinish => "post-finish"

def help : Command → String
  | .preCreate => preCreateHelp
  | .postCreate => postCreateHelp
  | .postFinish => postFinishHelp

def options : Command → List Opt
  | .preCreate => [.metadata, .id, .verbose, .logJson, .help]
  | .postCreate => [.id, .metadata, .verbose, .logJson, .help]
  | .postFinish => [.id, .verbose, .logJson, .help]

def ofName? (text : String) : Option Command := all.find? (·.name == text)

end Command

/-- The options before the command. -/
def mainOptions : List Opt := [.verbose, .logJson, .help, .version]

/-! ## Reading one argument -/

/-- What the options read so far have set. -/
structure Settings where
  metadata : Option String
  id : Option String
  logJson : Bool

namespace Settings

def blank : Settings := ⟨none, none, false⟩

/-- Sets the value of an option that takes one, once. -/
def setValue? (s : Settings) (opt : Opt) (value : String) : Option Settings :=
  match opt, s.metadata, s.id with
  | .metadata, none, _ => some { s with metadata := some value }
  | .id, _, none => some { s with id := some value }
  | _, _, _ => none

end Settings

/-- What comes of reading an option. -/
inductive Step where
  | go (settings : Settings)
  | needsValue (opt : Opt) (settings : Settings)
  | help
  | version
  | mistake

/-- An option without a value. -/
def setFlag (s : Settings) : Opt → Step
  | .verbose => .go s
  | .logJson => if s.logJson then .mistake else .go { s with logJson := true }
  | .help => .help
  | .version => .version
  | .metadata => .mistake
  | .id => .mistake

def setValue (s : Settings) (opt : Opt) (value : String) : Step :=
  (s.setValue? opt value).elim .mistake .go

/-- The name of a long option, and the value behind its equals sign. -/
def splitLong (text : List Char) : List Char × Option (List Char) :=
  let (name, rest) := text.span (· != '=')
  (name, if rest.isEmpty then none else some (rest.drop 1))

/-- A long option, after its two dashes. -/
def readLong (options : List Opt) (s : Settings) (text : List Char) : Step :=
  let (name, value) := splitLong text
  match options.find? (·.long == String.ofList name), value with
  | none, _ => .mistake
  | some opt, none => if opt.takesValue then .needsValue opt s else setFlag s opt
  | some opt, some value =>
    if opt.takesValue then setValue s opt (String.ofList value) else .mistake

/-- Short options, after their dash. -/
def readShort (options : List Opt) (s : Settings) : List Char → Step
  | [] => .go s
  | c :: rest =>
    match options.find? (·.short? == some c) with
    | none => .mistake
    | some opt =>
      if opt.takesValue then
        match rest with
        | [] => .needsValue opt s
        | '=' :: value => setValue s opt (String.ofList value)
        | value => setValue s opt (String.ofList value)
      else
        match setFlag s opt with
        | .go s => readShort options s rest
        | step => step

/-- An argument that looks like an option: a dash, and more. -/
def looksLikeOption (argument : String) : Bool :=
  match argument.toList with
  | '-' :: _ :: _ => true
  | _ => false

/-- An argument that looks like an option. -/
def readOption (options : List Opt) (s : Settings) (argument : String) : Step :=
  match argument.toList with
  | '-' :: '-' :: text => readLong options s text
  | '-' :: text => readShort options s text
  | _ => .mistake

/-! ## Reading all arguments -/

/-- What the arguments ask for. -/
inductive Request where
  | run (invocation : Hook.Invocation)
  | print (text : String)
  | mistake

/-- The hook to run, if its options are there. -/
def Command.complete (command : Command) (s : Settings) : Request :=
  match command, s.metadata, s.id with
  | .preCreate, some metadata, id => .run (.preCreate metadata id)
  | .postCreate, some metadata, some id => .run (.postCreate id metadata)
  | .postFinish, _, some id => .run (.postFinish id)
  | _, _, _ => .mistake

/-- The arguments of a command. Two dashes end the options, and nothing
may follow them. -/
def readCommand (command : Command) (s : Settings) : List String → Request
  | [] => command.complete s
  | "--" :: rest => if rest.isEmpty then command.complete s else .mistake
  | argument :: rest =>
    if looksLikeOption argument then
      match readOption command.options s argument with
      | .go s => readCommand command s rest
      | .needsValue opt s =>
        match rest with
        | [] => .mistake
        | value :: rest =>
          if looksLikeOption value then .mistake
          else
            match s.setValue? opt value with
            | some s => readCommand command s rest
            | none => .mistake
      | .help => .print command.help
      | .version => .mistake
      | .mistake => .mistake
    else .mistake

/-- The command that help is asked for. -/
def readHelp : List String → Request
  | [] => .print mainHelp
  | ["help"] => .print helpHelp
  | [name] => (Command.ofName? name).elim .mistake fun command => .print command.help
  | _ => .mistake

/-- All arguments: options, a command, and its arguments. -/
def readMain (s : Settings) : List String → Request
  | [] => .mistake
  | "--" :: _ => .mistake
  | argument :: rest =>
    if looksLikeOption argument then
      match readOption mainOptions s argument with
      | .go s => readMain s rest
      | .needsValue _ _ => .mistake
      | .help => .print mainHelp
      | .version => .print versionLine
      | .mistake => .mistake
    else if argument = "help" then readHelp rest
    else
      match Command.ofName? argument with
      | some command => readCommand command Settings.blank rest
      | none => .mistake

def read (arguments : List String) : Request := readMain Settings.blank arguments

/-- Runs the program. -/
def run (arguments : List String) (surroundings : Hook.Surroundings) (env : Environment)
    (freshId : String) : Session Hook.Completion :=
  match read arguments with
  | .run invocation => invocation.run surroundings env freshId
  | .print text => return ⟨.done, text⟩
  | .mistake => return .misconfigured

end CommandLine

end UploadHooks
