import CodeGloss.Files.Path

/-!
# Requests

What a command line asks for. The options before the command apply to every
command, and those after it to that command alone.
-/

namespace CodeGloss.Command

open Files

/-- Where the code comes from. A file wins over a text. -/
structure CodeInput where
  text : Option (List Char)
  file : Option Path
  deriving DecidableEq, Repr

structure TranslateRequest where
  input : CodeInput
  output : Option Path
  language : Option (List Char)
  dictionary : Option Path
  useDefaults : Bool
  useDictionary : Bool
  json : Bool
  segments : Bool
  deriving DecidableEq, Repr

inductive Request where
  | translate (request : TranslateRequest)
  | detect (input : CodeInput)
  | dictionary (file : Option Path) (search : Option (List Char))
  | validate (dictionary : Option Path)
  | info
  | help (command : List Char)
  deriving DecidableEq, Repr

/-- The paths that a request names. -/
def Request.paths : Request → List Path
  | translate request =>
      request.input.file.toList ++ request.output.toList ++ request.dictionary.toList
  | detect input => input.file.toList
  | dictionary file _ => file.toList
  | validate file => file.toList
  | info | help _ => []

abbrev Argument := List Char

/-- What the options of all commands are about. -/
inductive Topic where
  | version
  | verbose
  | help
  | text
  | input
  | output
  | language
  | dictionary
  | noDefaults
  | noDictionary
  | json
  | segments
  | search
  deriving DecidableEq, Repr

/-- Why arguments cannot be understood. -/
inductive UsageError where
  | unknownOption (name : List Char)
  | missingValue (topic : Topic)
  | unexpectedValue (topic : Topic)
  | missingCommand
  | unknownCommand (name : List Char)
  | extraArgument (argument : Argument)
  deriving DecidableEq, Repr

/-- What the arguments say: only that the version or the help is wanted, or a command. What comes
before a command may be understood and what comes after it not. -/
inductive Opening where
  | version
  | help
  | command (verbose : Bool) (request : Except UsageError Request)

/-- The paths that the arguments name. -/
def Opening.paths : Opening → List Path
  | command _ (.ok request) => request.paths
  | command _ (.error _) | version | help => []

end CodeGloss.Command
