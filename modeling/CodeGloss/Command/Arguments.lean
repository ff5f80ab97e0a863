import CodeGloss.Command.Request
import CodeGloss.Text.Split

/-!
# Command arguments

Options have a long name after two hyphens and may have a short one after one
hyphen. The value of an option is the next argument, or stands behind an equals
sign after the long name or at once behind the short one. Short options without
values can be put together. Two hyphens alone end the options. Of an option that
is given twice the last value counts.
-/

namespace CodeGloss.Command

open Text

structure Spec where
  topic : Topic
  long : List Char
  short : Option Char
  takesValue : Bool
  deriving DecidableEq, Repr

/-- An option as it was given. The value of an option without values is empty. -/
structure Given where
  topic : Topic
  value : List Char
  deriving DecidableEq, Repr

/-- What an argument says: the options in it, and the option that the next
argument is the value of. -/
structure Saying where
  options : List Given
  awaiting : Option Topic
  deriving DecidableEq, Repr

/-- Read the letters of short options. -/
def readShort (specs : List Spec) : List Char → Except UsageError Saying
  | [] => .ok ⟨[], none⟩
  | letter :: rest =>
      match specs.find? fun spec => spec.short == some letter with
      | none => .error (.unknownOption ['-', letter])
      | some spec =>
          if spec.takesValue then
            if rest = [] then .ok ⟨[], some spec.topic⟩ else .ok ⟨[⟨spec.topic, rest⟩], none⟩
          else
            (readShort specs rest).map fun saying =>
              { saying with options := ⟨spec.topic, []⟩ :: saying.options }

/-- Read a long option. -/
def readLong (spec : Spec) (value : Option (List Char)) : Except UsageError Saying :=
  match spec.takesValue, value with
  | true, some value => .ok ⟨[⟨spec.topic, value⟩], none⟩
  | true, none => .ok ⟨[], some spec.topic⟩
  | false, some _ => .error (.unexpectedValue spec.topic)
  | false, none => .ok ⟨[⟨spec.topic, []⟩], none⟩

/-- The part before the first equals sign, and the part after it. -/
def splitValue (argument : Argument) : List Char × Option (List Char) :=
  let name := argument.takeWhile (· != '=')
  (name, (argument.drop name.length).tail?)

/-- Read an argument that begins with a hyphen. -/
def readOption (specs : List Spec) (argument : Argument) : Except UsageError Saying :=
  let (name, value) := splitValue argument
  match specs.find? fun spec => spec.long == name with
  | some spec => readLong spec value
  | none =>
      if ['-', '-'].isPrefixOf argument then .error (.unknownOption name)
      else readShort specs argument.tail

/-- Whether an argument is an option. A hyphen alone is none. -/
def isOption (argument : Argument) : Bool :=
  argument.head? == some '-' && argument.length != 1

/-- The options and the arguments that belong to none. -/
structure Arguments where
  options : List Given
  others : List Argument
  deriving DecidableEq, Repr

namespace Arguments

def addOptions (options : List Given) (arguments : Arguments) : Arguments :=
  { arguments with options := options ++ arguments.options }

def addOther (argument : Argument) (arguments : Arguments) : Arguments :=
  { arguments with others := argument :: arguments.others }

/-- The value given last for a topic. -/
def value? (arguments : Arguments) (topic : Topic) : Option (List Char) :=
  (arguments.options.reverse.find? fun given => given.topic == topic).map Given.value

def mentions (arguments : Arguments) (topic : Topic) : Bool :=
  arguments.options.any fun given => given.topic == topic

end Arguments

/-- Read arguments. Options may stand after other arguments only if `mixed`. -/
def readArguments (specs : List Spec) (mixed : Bool) :
    List Argument → Except UsageError Arguments
  | [] => .ok ⟨[], []⟩
  | argument :: rest =>
      if argument = ['-', '-'] then .ok ⟨[], rest⟩
      else if isOption argument then
        match readOption specs argument, rest with
        | .error error, _ => .error error
        | .ok ⟨options, none⟩, rest =>
            (readArguments specs mixed rest).map (.addOptions options)
        | .ok ⟨options, some topic⟩, value :: rest =>
            (readArguments specs mixed rest).map (.addOptions (options ++ [⟨topic, value⟩]))
        | .ok ⟨_, some topic⟩, [] => .error (.missingValue topic)
      else if mixed then (readArguments specs mixed rest).map (.addOther argument)
      else .ok ⟨[], argument :: rest⟩

end CodeGloss.Command
