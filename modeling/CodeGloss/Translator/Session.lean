import CodeGloss.Translator.Basic

/-!
# Sessions

A session has one translator at a time. It is created when it is first needed, or
installed by configuring the session. Every translator of a session has a serial
number, so that a new one can be told from the one before.
-/

namespace CodeGloss.Translator

open Files Gloss Settings Stores Syntax

/-- The files and variables that a session finds around it. -/
structure Host where
  tree : Tree
  environment : Environment
  deriving Inhabited

/-- A store given to a session. -/
inductive StoreChoice where
  | given (store : TermStore)
  | file (path : Path)
  /-- The store for the term file that the environment names. -/
  | standard

def StoreChoice.resolve (environment : Environment) :
    StoreChoice → Except PathError TermStore
  | given store => .ok store
  | file path => .ok (.ofPath path)
  | standard => (termFilePath environment none).map .ofPath

structure Session where
  translator : Option Translator
  /-- How many translators the session has had. -/
  serial : Nat

/-- Why a request to a session fails. -/
inductive SessionError where
  | path (error : PathError)
  | translate (error : TranslateError)
  deriving DecidableEq, Repr

namespace Session

/-- A session without a translator. -/
def start : Session :=
  ⟨none, 0⟩

def install (session : Session) (translator : Translator) : Session :=
  ⟨some translator, session.serial + 1⟩

/-- Install a new translator. -/
def configure (host : Host) (session : Session) (options : Options)
    (choice : StoreChoice) : Except PathError Session :=
  (choice.resolve host.environment).map fun store =>
    session.install (.ofStore options store)

/-- The translator, and the session that has it. -/
def current (host : Host) (session : Session) :
    Except PathError (Translator × Session) :=
  match session.translator with
  | some translator => .ok (translator, session)
  | none =>
      (StoreChoice.resolve host.environment .standard).map fun store =>
        let translator := Translator.ofStore {} store
        (translator, session.install translator)

/-- Translate a snippet with the translator of the session. -/
def translate (parser : Parser) (host : Host) (session : Session)
    (source : List Char) (hint : Option (List Char)) :
    Except SessionError GlossedCode × Session × List Event :=
  match session.current host with
  | .error error => (.error (.path error), session, [])
  | .ok (translator, session) =>
      let (result, translator, events) := translator.translate parser host.tree source hint
      (result.mapError .translate, { session with translator := some translator }, events)

/-- Forget the dictionary of the translator. Without one there is nothing to forget. -/
def reset (session : Session) : Session :=
  { session with translator := session.translator.map Translator.reset }

theorem current_of_installed (host : Host) {session : Session} {translator : Translator}
    (installed : session.translator = some translator) :
    session.current host = .ok (translator, session) := by
  simp [current, installed]

end Session

end CodeGloss.Translator
