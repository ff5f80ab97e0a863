import CodeGloss.Command.Arguments
import CodeGloss.Command.Run

/-!
# The command line

The commands with their options, how arguments are read with them, and how the use
of a command is shown. This is the frontend of the program on a terminal.
-/

namespace CodeGloss.Command

open Files Report Text

/-! ## Options -/

def longOnly (topic : Topic) (long : String) (takesValue : Bool) : Spec :=
  ⟨topic, long.toList, none, takesValue⟩

def spec (topic : Topic) (long : String) (short : Char) (takesValue : Bool) : Spec :=
  ⟨topic, long.toList, some short, takesValue⟩

def helpSpec : Spec := longOnly .help "--help" false

def inputSpecs : List Spec :=
  [spec .text "--text" 't' true, spec .input "--input" 'i' true]

def dictionarySpec : Spec := spec .dictionary "--dictionary" 'd' true

/-- The options before the command. -/
def commonSpecs : List Spec :=
  [spec .version "--version" 'V' false, spec .verbose "--verbose" 'v' false, helpSpec]

def translateSpecs : List Spec :=
  inputSpecs ++
    [spec .output "--output" 'o' true, spec .language "--language" 'l' true, dictionarySpec,
     longOnly .noDefaults "--no-defaults" false, longOnly .noDictionary "--no-dictionary" false,
     longOnly .json "--json" false, spec .segments "--segments" 's' false, helpSpec]

def detectSpecs : List Spec :=
  inputSpecs ++ [helpSpec]

def dictionarySpecs : List Spec :=
  [dictionarySpec, spec .search "--search" 's' true, helpSpec]

def validateSpecs : List Spec :=
  [dictionarySpec, helpSpec]

def infoSpecs : List Spec :=
  [helpSpec]

/-! ## Commands -/

namespace Arguments

def path? (arguments : Arguments) (topic : Topic) : Option Path :=
  (arguments.value? topic).map Path.ofText

def codeInput (arguments : Arguments) : CodeInput :=
  ⟨arguments.value? .text, arguments.path? .input⟩

end Arguments

/-- A word of the command line: its name, its options, and what it asks for with them. -/
structure Subcommand where
  name : String
  specs : List Spec
  request : Arguments → Request

def commands : List Subcommand :=
  [⟨"translate", translateSpecs, fun arguments =>
      .translate
        { input := arguments.codeInput
          output := arguments.path? .output
          language := arguments.value? .language
          dictionary := arguments.path? .dictionary
          useDefaults := !arguments.mentions .noDefaults
          useDictionary := !arguments.mentions .noDictionary
          json := arguments.mentions .json
          segments := arguments.mentions .segments }⟩,
   ⟨"detect", detectSpecs, fun arguments => .detect arguments.codeInput⟩,
   ⟨"dictionary", dictionarySpecs, fun arguments =>
      .dictionary (arguments.path? .dictionary) (arguments.value? .search)⟩,
   ⟨"validate", validateSpecs, fun arguments => .validate (arguments.path? .dictionary)⟩,
   ⟨"info", infoSpecs, fun _ => .info⟩]

/-- What a command is asked for with its arguments. Commands take options only. -/
def Subcommand.read (command : Subcommand) (arguments : List Argument) :
    Except UsageError Request :=
  match readArguments command.specs true arguments with
  | .error error => .error error
  | .ok read =>
      if read.mentions .help then .ok (.help command.name.toList)
      else
        match read.others with
        | [] => .ok (command.request read)
        | other :: _ => .error (.extraArgument other)

/-- What a command line asks for. -/
def readOpening (arguments : List Argument) : Except UsageError Opening :=
  match readArguments commonSpecs false arguments with
  | .error error => .error error
  | .ok read =>
      match read.options.find? fun given => given.topic != .verbose with
      | some given => .ok (if given.topic = .version then .version else .help)
      | none =>
          match read.others with
          | [] => .error .missingCommand
          | name :: rest =>
              match commands.find? fun command => command.name.toList == name with
              | some command => .ok (.command (read.mentions .verbose) (command.read rest))
              | none => .error (.unknownCommand name)

/-- How a command is used. -/
def helpLines (command : List Char) : List (List Char) :=
  match commands.find? fun known => known.name.toList == command with
  | some known =>
      ("Usage: devtrans ".toList ++ command ++ " [OPTIONS]".toList)
        :: known.specs.map fun option => [' ', ' '] ++ option.long
  | none =>
      "Usage: devtrans [OPTIONS] COMMAND [ARGS]...".toList
        :: commands.map fun known => [' ', ' '] ++ known.name.toList

/-- The frontend on a terminal. -/
def Frontend.terminal : Frontend where
  read := readOpening
  help := helpLines
  console := .terminal

end CodeGloss.Command
