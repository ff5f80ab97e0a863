import CodeGloss.Settings.LogLevel

/-!
# What is logged

While a snippet is translated, some steps are worth a line in the log: that a
dictionary was built, that a source was parsed in spite of faults, that a source
was treated as plain text because it could not be parsed, and what came out.
-/

namespace CodeGloss.Translator

inductive Event where
  | built (store : List Char) (entries : Nat)
  | recovered (faults : Nat) (language : List Char)
  | fellBack (language reason : List Char)
  | translated (language : List Char) (strings comments : Int) (usedFallback : Bool)
  deriving DecidableEq, Repr

namespace Event

/-- The name of the level of an event. -/
def level : Event → String
  | built .. => "INFO"
  | _ => "DEBUG"

/-- The name under which an event is logged. -/
def logger : Event → String
  | built .. => "devtrans.dictionary.cache"
  | recovered .. => "devtrans.rewrite.structural"
  | fellBack .. => "devtrans.pipeline"
  | translated .. => "devtrans.pipeline"

def message : Event → List Char
  | built store entries =>
      "Built dictionary from ".toList ++ store ++ s!": {entries} entries".toList
  | recovered faults language =>
      s!"Recovered from {faults} syntax error(s) in ".toList ++ language ++ " snippet".toList
  | fellBack language reason =>
      "Falling back to plain text for ".toList ++ language ++ " snippet: ".toList ++ reason
  | translated language strings comments usedFallback =>
      "Translated ".toList ++ language
        ++ s!" snippet: {strings} string(s), {comments} comment(s), fallback=".toList
        ++ (if usedFallback then "True" else "False").toList

/-- The line of an event in a log. -/
def line (event : Event) : List Char :=
  event.logger.toList ++ [':', ' '] ++ event.message

/-- Whether a log with this threshold shows the event. -/
def isShown (threshold : Nat) (event : Event) : Bool :=
  match Settings.threshold? event.level.toList with
  | some severity => threshold ≤ severity
  | none => false

end Event

end CodeGloss.Translator
