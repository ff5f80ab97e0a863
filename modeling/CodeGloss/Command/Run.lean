import CodeGloss.Command.Request
import CodeGloss.Command.Scenario
import CodeGloss.Command.Screen
import CodeGloss.Gloss.GlossRecord

/-!
# Running a command

What each command does with the files and variables around it. The parser is a
parameter, so that the commands can be understood without one. So is the frontend:
how arguments are read, and how lines are made of messages, tables and code.
-/

namespace CodeGloss.Command

open Files Glossary Translator Report Gloss Settings Stores Syntax Text

/-- The name and version of the program. -/
def programVersion : List Char :=
  "DevTrans v0.1.0".toList

/-- The text of a file, with every line break as a line feed. -/
def readText (tree : Tree) (path : Path) : Except Failure (List Char) :=
  match tree.open? path with
  | .error error => .error (.access error)
  | .ok (.database _) => .ok []
  | .ok (.bytes content) =>
      match Utf8.decode content with
      | .error error => .error (.encoding error)
      | .ok text => .ok (unifyBreaks text)

/-- The code that a command works on, or what to say if there is none. -/
def inputCode (tree : Tree) (input : CodeInput) : Except Failure (Except (List Char) (List Char)) :=
  match input.file, input.text with
  | some path, _ =>
      match tree.exists? path with
      | .error error => .error (.access error)
      | .ok true => (readText tree path).map .ok
      | .ok false => .ok (.error ("File not found: ".toList ++ path.text))
  | none, some text => .ok (.ok text)
  | none, none => .ok (.error "Provide either --text or --input".toList)

/-- The store for the term file. -/
def termStore (environment : Environment) (given : Option Path) :
    Except Failure TermStore :=
  ((termFilePath environment given).mapError .path).map .ofPath

section Commands

variable (console : Console)

/-! ## Translating -/

/-- The store that a request is for. -/
def storeOf (environment : Environment) (request : TranslateRequest) : Except Failure TermStore :=
  if request.useDictionary then termStore environment request.dictionary else .ok .empty

/-- How a result came about and what it counts. -/
def summary (result : GlossedCode) : List Char :=
  let mode := if result.usedFallback then "[yellow]plain fallback[/]" else "[green]structural[/]"
  "[dim]".toList ++ result.language ++ s!" · {mode} · ".toList
    ++ s!"{result.stringReplacements} string(s), {result.commentReplacements} comment(s)[/]".toList

def segmentCells (segment : Segment) : List (List Char) :=
  [segment.kind.tag.toList, s!"{segment.start}-{segment.stop}".toList, segment.source,
   segment.translated]

def segmentGrid (segments : List Segment) : Grid :=
  { title := s!"Segments ({segments.length})".toList
    headings := some ["Kind".toList, "Range".toList, "Original".toList, "Translated".toList]
    rows := segments.map segmentCells }

/-- The JSON layout in which results are shown. -/
def jsonLayout : Format.Json.Layout :=
  .indented [' ', ' ']

/-- The lines for the result itself. -/
def resultLines (request : TranslateRequest) (result : GlossedCode) :
    Except Failure (List (List Char)) :=
  if request.json then .ok (splitOn ['\n'] (result.toJson jsonLayout))
  else if request.output.isSome then .ok []
  else (say console (summary result)).map fun lines => console.listing result.code ++ lines

def segmentLines (request : TranslateRequest) (result : GlossedCode) : List (List Char) :=
  if request.segments && !request.json then console.grid (segmentGrid result.segments) else []

/-- What is said when the code was written. -/
def savedMessage (path : Path) : List Char :=
  "[green]Saved to:[/] ".toList ++ path.text

/-- Write the code to a file, and say so behind the lines that were shown before. -/
def saveCode (tree : Tree) (path : Path) (code : List Char) (shown : List (List Char))
    (events : List Event) : Outcome :=
  let content := Utf8.encode code
  match tree.write path content with
  | .error error => .ofResult (.error (.access error))
  | .ok _ =>
      ⟨some (path, content),
        (say console (savedMessage path)).map fun lines => .ofLines (shown ++ lines) events⟩

def showResult (tree : Tree) (request : TranslateRequest) (result : GlossedCode)
    (events : List Event) : Outcome :=
  match resultLines console request result with
  | .error failure => .ofResult (.error failure)
  | .ok lines =>
      let shown := lines ++ segmentLines console request result
      match request.output with
      | none => .ofResult (.ok (.ofLines shown events))
      | some path => saveCode console tree path result.code shown events

/-- What becomes of a translation: its result, or why there is none. -/
def showTranslation (tree : Tree) (request : TranslateRequest) :
    Except TranslateError GlossedCode × Translator × List Event → Outcome
  | (.error error, _, events) => .ofResult (showTranslateError console error events)
  | (.ok result, _, events) => showResult console tree request result events

def runTranslate (parser : Parser) (host : Host) (request : TranslateRequest) : Outcome :=
  match inputCode host.tree request.input with
  | .error failure => .ofResult (.error failure)
  | .ok (.error message) => .ofResult (showError console message [])
  | .ok (.ok code) =>
      match storeOf host.environment request with
      | .error failure => .ofResult (.error failure)
      | .ok store =>
          let translator := Translator.ofStore { useDefaults := request.useDefaults } store
          showTranslation console host.tree request
            (translator.translate parser host.tree code request.language)

/-! ## Detecting -/

def runDetect (host : Host) (input : CodeInput) : Except Failure Screen := do
  match ← inputCode host.tree input with
  | .error message => showError console message []
  | .ok code =>
      let language := if isBlankText code then .plain else Language.resolve code none
      .ok (.ofLines [language.tag.toList] [])

/-! ## Looking at the dictionary -/

def dictionaryTitle (name : List Char) (entries : List Entry) : List Char :=
  "Dictionary: ".toList ++ name ++ s!" ({entries.length} entries)".toList

def dictionaryGrid (name : List Char) (entries : List Entry) : Except Failure Grid := do
  let title ← sayCell console (dictionaryTitle name entries)
  let rows ← entries.mapM fun entry => [entry.key, entry.translation].mapM (sayCell console)
  .ok { title, headings := some ["Key".toList, "Translation".toList], rows }

/-- What is said about a term. -/
def searchMessage (entries : List Entry) (term : List Char) : List Char :=
  match entryOf? entries term with
  | some entry =>
      "[green]".toList ++ entry.key ++ "[/] → [cyan]".toList ++ entry.translation ++ "[/]".toList
  | none => "[yellow]Term not found:[/] ".toList ++ term

def runDictionary (host : Host) (file : Option Path) (search : Option (List Char)) :
    Except Failure Screen := do
  let store ← termStore host.environment file
  match (Cache.ofStore store builtInVocabulary).fetch host.tree with
  | (.error error, _, events) => showTranslateError console (.store error) events
  | (.ok entries, _, events) =>
      match search.getD [] with
      | [] =>
          (dictionaryGrid console store.name entries).map fun grid =>
            .ofLines (console.grid grid) events
      | term =>
          (say console (searchMessage entries term)).map fun lines => .ofLines lines events

/-! ## Validating -/

/-- The row of a scenario and whether it passed. -/
structure Verdict where
  row : List (List Char)
  passed : Bool
  deriving DecidableEq, Repr

def verdictOf (scenario : Scenario) (result : GlossedCode) : Verdict :=
  let passed := scenario.check result
  let mark := if passed then "[green]PASS[/]" else "[red]FAIL[/]"
  ⟨[scenario.name.toList, result.language, mark.toList], passed⟩

/-- Run scenarios one after another up to the first error. -/
def runScenarios (parser : Parser) (tree : Tree) (translator : Translator) :
    List Scenario → Except TranslateError (List Verdict) × List Event
  | [] => (.ok [], [])
  | scenario :: rest =>
      match translator.translate parser tree scenario.code.toList
          (scenario.language.map String.toList) with
      | (.error error, _, events) => (.error error, events)
      | (.ok result, next, events) =>
          let (verdicts, more) := runScenarios parser tree next rest
          (verdicts.map (verdictOf scenario result :: ·), events ++ more)

def validationGrid (verdicts : List Verdict) : Except Failure Grid := do
  let rows ← verdicts.mapM fun verdict => verdict.row.mapM (sayCell console)
  .ok
    { title := "Structural translation checks".toList
      headings := some ["Scenario".toList, "Language".toList, "Result".toList]
      rows }

/-- What is said last of a validation, and the exit code. -/
def validationEnd (failures : Nat) : List Char × Nat :=
  if failures = 0 then ("[green]All scenarios passed[/]".toList, 0)
  else (s!"[red]{failures} scenario(s) failed[/]".toList, 1)

def showVerdicts (verdicts : List Verdict) (events : List Event) : Except Failure Screen := do
  let (message, exitCode) := validationEnd (verdicts.countP fun verdict => !verdict.passed)
  let grid ← validationGrid console verdicts
  let lines ← say console message
  .ok ⟨exitCode, console.grid grid ++ lines, events⟩

def runValidate (parser : Parser) (host : Host) (dictionary : Option Path) :
    Except Failure Screen :=
  let store :=
    match dictionary with
    | some path => TermStore.ofPath path
    | none => .static validationTerms
  match runScenarios parser host.tree (.ofStore {} store) scenarios with
  | (.error error, events) => showTranslateError console error events
  | (.ok verdicts, events) => showVerdicts console verdicts events

/-! ## Information -/

def infoGrid (host : Host) (path : Path) : Except Failure Grid := do
  let languages := Language.all.map fun language => language.tag.toList
  let there ← (host.tree.exists? path).mapError Failure.access
  let missing := if there then [] else " [red](missing)[/]".toList
  let rows :=
    [["Languages".toList, joinWith [',', ' '] languages],
     ["Dictionary".toList, path.text ++ missing],
     ["Structural grammar".toList, "tree-sitter tsx".toList]]
  .ok
    { title := programVersion
      headings := none
      rows := ← rows.mapM fun row => row.mapM (sayCell console) }

def runInfo (host : Host) : Except Failure Screen := do
  let path ← (termFilePath host.environment none).mapError Failure.path
  (infoGrid console host path).map fun grid => .ofLines (console.grid grid) []

end Commands

/-! ## Command lines -/

/-- What stands between the commands and a user. -/
structure Frontend where
  read : List Argument → Except UsageError Opening
  /-- How a command is used, or the program if none is named. -/
  help : List Char → List (List Char)
  console : Console

section CommandLines

variable (frontend : Frontend)

def runRequest (parser : Parser) (host : Host) : Request → Outcome
  | .translate request => runTranslate frontend.console parser host request
  | .detect input => .ofResult (runDetect frontend.console host input)
  | .dictionary file search => .ofResult (runDictionary frontend.console host file search)
  | .validate dictionary => .ofResult (runValidate frontend.console parser host dictionary)
  | .info => .ofResult (runInfo frontend.console host)
  | .help command => .ofResult (.ok (.ofLines (frontend.help command) []))

/-- How a command line ends. -/
inductive Ending where
  | usage (error : UsageError)
  | failed (failure : Failure)
  /-- The screen, and the threshold of what is logged. -/
  | shown (screen : Screen) (threshold : Nat)

def Ending.ofResult (threshold : Nat) : Except Failure Screen → Ending
  | .error failure => failed failure
  | .ok screen => shown screen threshold

def Ending.exitCode : Ending → Nat
  | usage _ => 2
  | failed _ => 1
  | shown screen _ => screen.exitCode

/-- The lines of the log. -/
def logLines (screen : Screen) (threshold : Nat) : List (List Char) :=
  (screen.events.filter (Event.isShown threshold)).map Event.line

/-- How a command line ended, and the file that it wrote, if it wrote one. -/
structure Execution where
  ending : Ending
  written : Option Written

/-- The execution that ends before a command runs. -/
def Execution.ofEnding (ending : Ending) : Execution :=
  ⟨ending, none⟩

/-- Run a command line. The log level is looked up before the arguments of the
command. -/
def run (parser : Parser) (host : Host) (arguments : List Argument) : Execution :=
  match frontend.read arguments with
  | .error error => .ofEnding (.usage error)
  | .ok .version =>
      .ofEnding (.ofResult 0 ((say frontend.console programVersion).map fun lines =>
        .ofLines lines []))
  | .ok .help => .ofEnding (.shown (.ofLines (frontend.help []) []) 0)
  | .ok (.command verbose request) =>
      let level := logLevel host.environment verbose
      match threshold? level, request with
      | none, _ => .ofEnding (.failed (.logLevel level))
      | some _, .error error => .ofEnding (.usage error)
      | some threshold, .ok request =>
          let outcome := runRequest frontend parser host request
          ⟨.ofResult threshold outcome.result, outcome.written⟩

end CommandLines

end CodeGloss.Command
