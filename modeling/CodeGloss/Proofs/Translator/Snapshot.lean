import CodeGloss.Translator.Session

/-!
# Answers from a snapshot

A session is called again and again while the files, the variables and the stores
around it change. What it answers depends on one read alone: the latest that
succeeded since a translator was configured or the dictionary was forgotten. The
terms of that read are the snapshot, and every snippet is translated as a new
translator with these terms would. Without a snapshot the store is read, and a
read that fails leaves everything as it was.

A history lists the turns of a session, the latest first. Whether a turn has read
its store is seen from the number of requests to it.
-/

namespace CodeGloss.Translator

open Files Glossary Gloss Settings Stores Syntax Text

/-! ## Histories -/

/-- What a session is called for. -/
inductive Call where
  | configure (options : Options) (choice : StoreChoice)
  | translate (source : List Char) (hint : Option (List Char))
  | reset

inductive Answer where
  | configured (outcome : Except PathError Unit)
  | translated (outcome : Except SessionError GlossedCode)
  | wasReset

/-- A call, what was around the session then, and what came of it. -/
structure Turn where
  host : Host
  call : Call
  answer : Answer
  /-- What the store answered, if it was read. -/
  reading : Option (Except StoreError (List Term))

namespace Session

/-- The requests to the store of the translator. -/
def requests (session : Session) : Nat :=
  (session.translator.map fun translator => translator.cache.requests).getD 0

/-- What the store was asked and answered between two states of a session. -/
def reading? (host : Host) (session next : Session) : Option (Except StoreError (List Term)) :=
  if session.requests < next.requests then
    next.translator.map fun translator =>
      translator.cache.store.read host.tree session.requests
  else none

/-- The answer to a call, and the session afterwards. -/
def answer (parser : Parser) (host : Host) (session : Session) : Call → Answer × Session
  | .configure options choice =>
      match session.configure host options choice with
      | .ok next => (.configured (.ok ()), next)
      | .error error => (.configured (.error error), session)
  | .translate source hint =>
      let (outcome, next, _) := session.translate parser host source hint
      (.translated outcome, next)
  | .reset => (.wasReset, session.reset)

def turn (parser : Parser) (host : Host) (session : Session) (call : Call) : Turn × Session :=
  let (answer, next) := session.answer parser host call
  (⟨host, call, answer, session.reading? host next⟩, next)

/-- The history of some calls, the latest first, and the session after them. -/
def history (parser : Parser) : List (Host × Call) → List Turn × Session
  | [] => ([], start)
  | (host, call) :: earlier =>
      let (turns, session) := history parser earlier
      let (turn, next) := session.turn parser host call
      (turn :: turns, next)

end Session

/-- The options and the store of the translator that was configured last. Without one the first
snippet brings in the standard translator. -/
def installed : List Turn → Option (Options × TermStore)
  | [] => none
  | turn :: earlier =>
      match turn.call with
      | .configure options choice =>
          match choice.resolve turn.host.environment with
          | .ok store => some (options, store)
          | .error _ => installed earlier
      | .translate _ _ =>
          match installed earlier with
          | some found => some found
          | none =>
              match StoreChoice.standard.resolve turn.host.environment with
              | .ok store => some ({}, store)
              | .error _ => none
      | .reset => installed earlier

/-- The terms of the latest read that succeeded since a translator was configured or the
dictionary was forgotten. -/
def snapshot : List Turn → Option (List Term)
  | [] => none
  | turn :: earlier =>
      match turn.call with
      | .configure _ _ =>
          match turn.answer with
          | .configured (.error _) => snapshot earlier
          | _ => none
      | .translate _ _ =>
          match turn.reading with
          | some (.ok terms) => some terms
          | _ => snapshot earlier
      | .reset => none

/-- What a new translator with these options says to a snippet, if its terms are these. -/
def freshOutcome (parser : Parser) (tree : Tree) (options : Options) (terms : List Term)
    (source : List Char) (hint : Option (List Char)) : Except SessionError GlossedCode :=
  ((Translator.ofStore options (.static terms)).translate parser tree source hint).1.mapError
    .translate

/-- A translator that has read its store has the dictionary of the terms. -/
def remembering (translator : Translator) (terms : List Term) : Translator :=
  { translator with
    cache := { translator.cache with
      entries := some (dictionaryOf terms translator.cache.vocabulary)
      requests := translator.cache.requests + 1
      fills := translator.cache.fills + 1 } }

/-- A translator whose store has failed has made one more request. -/
def failing (translator : Translator) : Translator :=
  { translator with
    cache := { translator.cache with requests := translator.cache.requests + 1 } }

/-- A session answers its next call from the snapshot of its history. -/
structure AnswersFromSnapshot (parser : Parser) (turns : List Turn) (session : Session) :
    Prop where
  /-- The translator is the one that was installed last. -/
  isInstalled : (session.translator.map fun translator =>
    (translator.options, translator.cache.store)) = installed turns
  /-- Without a translator, and without a file for one, nothing happens. -/
  noTranslator : ∀ host source hint error, session.current host = .error error →
    session.turn parser host (.translate source hint) =
      (⟨host, .translate source hint, .translated (.error (.path error)), none⟩, session)
  /-- A blank snippet is returned without a read. -/
  blank : ∀ host source hint translator next, isBlankText source = true →
    session.current host = .ok (translator, next) →
      session.turn parser host (.translate source hint) =
        (⟨host, .translate source hint, .translated (.ok (blankResult source hint)), none⟩, next)
  /-- With a snapshot the store is not read, whatever is around the session by now. -/
  remembered : ∀ terms, snapshot turns = some terms → ∃ options store,
    installed turns = some (options, store) ∧
      ∀ host source hint, isBlankText source = false →
        session.turn parser host (.translate source hint) =
          (⟨host, .translate source hint,
            .translated (freshOutcome parser host.tree options terms source hint), none⟩, session)
  /-- Without a snapshot the store is read, and its terms are used. -/
  read : snapshot turns = none → ∀ host source hint translator next terms,
    isBlankText source = false → session.current host = .ok (translator, next) →
      translator.cache.store.read host.tree translator.cache.requests = .ok terms →
        session.turn parser host (.translate source hint) =
          (⟨host, .translate source hint,
            .translated (freshOutcome parser host.tree translator.options terms source hint),
            some (.ok terms)⟩, { next with translator := some (remembering translator terms) })
  /-- If the read fails, the error is the answer, and nothing but the number of requests is
  changed. -/
  failed : snapshot turns = none → ∀ host source hint translator next error,
    isBlankText source = false → session.current host = .ok (translator, next) →
      translator.cache.store.read host.tree translator.cache.requests = .error error →
        translator.cache.isFilled = false ∧
        session.turn parser host (.translate source hint) =
          (⟨host, .translate source hint, .translated (.error (.translate (.store error))),
            some (.error error)⟩,
            { next with translator := some (failing translator) })
  /-- Configuring reads nothing. It installs a translator that has no dictionary yet, or it
  changes nothing. -/
  configured : ∀ host options choice,
    (∀ store, choice.resolve host.environment = .ok store →
      session.turn parser host (.configure options choice) =
        (⟨host, .configure options choice, .configured (.ok ()), none⟩,
          session.install (.ofStore options store)))
    ∧ ∀ error, choice.resolve host.environment = .error error →
      session.turn parser host (.configure options choice) =
        (⟨host, .configure options choice, .configured (.error error), none⟩, session)
  /-- Forgetting the dictionary reads nothing, and creates no translator. -/
  wasReset : ∀ host, session.turn parser host .reset = (⟨host, .reset, .wasReset, none⟩, session.reset)
    ∧ (session.translator = none → session.reset = session)

/-! ## One snippet -/

section Snippets

variable {parser : Parser} {tree : Tree} {translator : Translator} {source : List Char}
  {hint : Option (List Char)}

/-- With a dictionary nothing is read. -/
theorem translate_of_filled {entries : List Entry} (content : isBlankText source = false)
    (filled : translator.cache.entries = some entries) :
    translator.translate parser tree source hint =
      ((translateWith parser translator.options entries source hint).1, translator,
        (translateWith parser translator.options entries source hint).2) := by
  rw [Translator.translate, content, if_neg Bool.false_ne_true, Cache.fetch_of_entries tree filled]
  simp only [List.nil_append]

theorem exists_translate_of_read {terms : List Term} (content : isBlankText source = false)
    (unfilled : translator.cache.entries = none)
    (reads : translator.cache.store.read tree translator.cache.requests = .ok terms) :
    ∃ events, translator.translate parser tree source hint =
      ((translateWith parser translator.options
          (dictionaryOf terms translator.cache.vocabulary) source hint).1,
        remembering translator terms, events) := by
  rw [Translator.translate, content, if_neg Bool.false_ne_true,
    Cache.fetch_of_unfilled tree unfilled, Cache.fill, reads]
  exact ⟨_, rfl⟩

/-- A read that fails ends the snippet, whatever the parser. -/
theorem translate_of_failed {error : StoreError} (content : isBlankText source = false)
    (unfilled : translator.cache.entries = none)
    (fails : translator.cache.store.read tree translator.cache.requests = .error error) :
    translator.translate parser tree source hint =
      (.error (.store error), failing translator, []) := by
  rw [Translator.translate, content, if_neg Bool.false_ne_true,
    Cache.fetch_of_unfilled tree unfilled, Cache.fill, fails]
  rfl

/-- A new translator reads its terms and translates with their dictionary. -/
theorem freshOutcome_eq {options : Options} {terms : List Term}
    (content : isBlankText source = false) :
    freshOutcome parser tree options terms source hint =
      (translateWith parser options (dictionaryOf terms options.vocabulary) source
        hint).1.mapError .translate := by
  have translated : ∃ events,
      (Translator.ofStore options (.static terms)).translate parser tree source hint =
        ((translateWith parser options (dictionaryOf terms options.vocabulary) source hint).1,
          remembering (Translator.ofStore options (.static terms)) terms, events) :=
    exists_translate_of_read content rfl rfl
  rcases translated with ⟨events, translated⟩
  rw [freshOutcome, translated]

end Snippets

/-! ## One turn -/

namespace Session

section Turns

variable {parser : Parser} {host : Host} {session next : Session} {translator : Translator}
  {source : List Char} {hint : Option (List Char)}

/-- The current translator was there, or it is created for the standard store. -/
theorem current_cases (isCurrent : session.current host = .ok (translator, next)) :
    (session.translator = some translator ∧ next = session)
      ∨ session.translator = none ∧ ∃ store,
        StoreChoice.standard.resolve host.environment = .ok store
          ∧ translator = .ofStore {} store ∧ next = session.install (.ofStore {} store) := by
  cases installed : session.translator with
  | some found =>
      rw [current_of_installed host installed] at isCurrent
      cases isCurrent
      exact .inl ⟨rfl, rfl⟩
  | none =>
      rw [current, installed] at isCurrent
      cases resolved : StoreChoice.standard.resolve host.environment with
      | error error =>
          simp only [resolved] at isCurrent
          contradiction
      | ok store =>
          simp only [resolved] at isCurrent
          cases isCurrent
          exact .inr ⟨rfl, store, rfl, rfl, rfl⟩

/-- The current translator is that of the session it comes with, and no request was made on the
way. -/
theorem of_current (isCurrent : session.current host = .ok (translator, next)) :
    next.translator = some translator ∧ session.requests = translator.cache.requests := by
  rw [requests]
  rcases current_cases isCurrent with ⟨installed, rfl⟩ | ⟨installed, store, _, rfl, rfl⟩
  · rw [installed]
    exact ⟨rfl, rfl⟩
  · rw [installed]
    exact ⟨rfl, rfl⟩

/-- There is no current translator only if there is none yet and none can be created. -/
theorem of_current_error {error : PathError} (noCurrent : session.current host = .error error) :
    session.translator = none ∧ StoreChoice.standard.resolve host.environment = .error error := by
  cases installed : session.translator with
  | some found =>
      rw [current_of_installed host installed] at noCurrent
      contradiction
  | none =>
      rw [current, installed] at noCurrent
      cases resolved : StoreChoice.standard.resolve host.environment with
      | ok store =>
          simp only [resolved] at noCurrent
          contradiction
      | error other =>
          simp only [resolved] at noCurrent
          cases noCurrent
          exact ⟨rfl, rfl⟩

/-- Putting the current translator back changes nothing. -/
theorem restore_of_current (isCurrent : session.current host = .ok (translator, next)) :
    { next with translator := some translator } = next := by
  rw [← (of_current isCurrent).1]

theorem reading?_of_le (host : Host) (order : next.requests ≤ session.requests) :
    session.reading? host next = none :=
  if_neg (Nat.not_lt.mpr order)

theorem turn_of_noTranslator {error : PathError} (source : List Char) (hint : Option (List Char))
    (noCurrent : session.current host = .error error) :
    session.turn parser host (.translate source hint) =
      (⟨host, .translate source hint, .translated (.error (.path error)), none⟩, session) := by
  have isAnswer : session.answer parser host (.translate source hint) =
      (.translated (.error (.path error)), session) := by
    rw [answer, translate, noCurrent]
  rw [turn, isAnswer]
  simp only [reading?_of_le host (Nat.le_refl _)]

/-- Without a request, the answer is that of the translator, and the session stays. -/
theorem turn_of_noRequest {outcome : Except TranslateError GlossedCode} {events : List Event}
    (isCurrent : session.current host = .ok (translator, next))
    (noRequest : translator.translate parser host.tree source hint = (outcome, translator, events)) :
    session.turn parser host (.translate source hint) =
      (⟨host, .translate source hint, .translated (outcome.mapError .translate), none⟩, next) := by
  rcases of_current isCurrent with ⟨isTranslator, requests⟩
  have isAnswer : session.answer parser host (.translate source hint) =
      (.translated (outcome.mapError .translate), next) := by
    rw [answer, translate, isCurrent]
    simp only [noRequest, restore_of_current isCurrent]
  have nextRequests : next.requests = session.requests := by
    rw [requests, Session.requests, isTranslator]
    rfl
  rw [turn, isAnswer]
  simp only [reading?_of_le host (Nat.le_of_eq nextRequests)]

/-- With one request, the answer is that of the translator, and the store was read. -/
theorem turn_of_request {outcome : Except TranslateError GlossedCode} {events : List Event}
    {after : Translator} (isCurrent : session.current host = .ok (translator, next))
    (translated : translator.translate parser host.tree source hint = (outcome, after, events))
    (sameStore : after.cache.store = translator.cache.store)
    (request : after.cache.requests = translator.cache.requests + 1) :
    session.turn parser host (.translate source hint) =
      (⟨host, .translate source hint, .translated (outcome.mapError .translate),
        some (translator.cache.store.read host.tree translator.cache.requests)⟩,
        { next with translator := some after }) := by
  have requests := (of_current isCurrent).2
  have isAnswer : session.answer parser host (.translate source hint) =
      (.translated (outcome.mapError .translate), { next with translator := some after }) := by
    rw [answer, translate, isCurrent]
    simp only [translated]
  have isReading : session.reading? host { next with translator := some after } =
      some (translator.cache.store.read host.tree translator.cache.requests) := by
    have more : session.requests < Session.requests { next with translator := some after } := by
      rw [requests]
      exact Nat.lt_of_lt_of_eq (Nat.lt_succ_self _) request.symm
    rw [reading?, if_pos more, requests, ← sameStore]
    rfl
  rw [turn, isAnswer]
  simp only [isReading]

theorem turn_configure {options : Options} {choice : StoreChoice} {store : TermStore}
    (resolved : choice.resolve host.environment = .ok store) :
    session.turn parser host (.configure options choice) =
      (⟨host, .configure options choice, .configured (.ok ()), none⟩,
        session.install (.ofStore options store)) := by
  have isAnswer : session.answer parser host (.configure options choice) =
      (.configured (.ok ()), session.install (.ofStore options store)) := by
    rw [answer, configure, resolved]
    rfl
  have noRequests : (session.install (.ofStore options store)).requests ≤ session.requests :=
    Nat.zero_le _
  rw [turn, isAnswer]
  simp only [reading?_of_le host noRequests]

theorem turn_configure_of_error {options : Options} {choice : StoreChoice} {error : PathError}
    (unresolved : choice.resolve host.environment = .error error) :
    session.turn parser host (.configure options choice) =
      (⟨host, .configure options choice, .configured (.error error), none⟩, session) := by
  have isAnswer : session.answer parser host (.configure options choice) =
      (.configured (.error error), session) := by
    rw [answer, configure, unresolved]
    rfl
  rw [turn, isAnswer]
  simp only [reading?_of_le host (Nat.le_refl _)]

theorem requests_reset (session : Session) : session.reset.requests = session.requests := by
  rw [requests, requests, reset]
  cases session.translator <;> rfl

theorem turn_reset (parser : Parser) (host : Host) (session : Session) :
    session.turn parser host .reset = (⟨host, .reset, .wasReset, none⟩, session.reset) := by
  rw [turn, answer]
  simp only [reading?_of_le host (Nat.le_of_eq session.requests_reset)]

end Turns

end Session

/-! ## Histories of a session -/

/-- What a session owes to its history: the translator that was installed, and the dictionary of
the snapshot in its cache. -/
structure Tracks (turns : List Turn) (session : Session) : Prop where
  isInstalled : (session.translator.map fun translator =>
    (translator.options, translator.cache.store)) = installed turns
  vocabulary : ∀ translator ∈ session.translator,
    translator.cache.vocabulary = translator.options.vocabulary
  entries : ∀ translator ∈ session.translator, translator.cache.entries =
    (snapshot turns).map fun terms => dictionaryOf terms translator.options.vocabulary
  noTranslator : session.translator = none → snapshot turns = none

section Histories

variable {parser : Parser} {turns : List Turn} {session : Session}

theorem tracks_start : Tracks [] .start :=
  ⟨rfl, nofun, nofun, fun _ => rfl⟩

/-- The current translator too has the vocabulary of its options, and the dictionary of the
snapshot. -/
theorem Tracks.of_current (tracks : Tracks turns session) {host : Host} {translator : Translator}
    {next : Session} (isCurrent : session.current host = .ok (translator, next)) :
    translator.cache.vocabulary = translator.options.vocabulary
      ∧ translator.cache.entries =
        (snapshot turns).map fun terms => dictionaryOf terms translator.options.vocabulary := by
  rcases Session.current_cases isCurrent with ⟨isTranslator, rfl⟩ | ⟨isTranslator, store, _, rfl, rfl⟩
  · exact ⟨tracks.vocabulary translator isTranslator, tracks.entries translator isTranslator⟩
  · rw [tracks.noTranslator isTranslator]
    exact ⟨rfl, rfl⟩

theorem installed_translate (tracks : Tracks turns session) {host : Host} {translator : Translator}
    {next : Session} (isCurrent : session.current host = .ok (translator, next))
    (source : List Char) (hint : Option (List Char)) (answer : Answer)
    (reading : Option (Except StoreError (List Term))) :
    installed (⟨host, .translate source hint, answer, reading⟩ :: turns) =
      some (translator.options, translator.cache.store) := by
  have isInstalled := tracks.isInstalled
  rcases Session.current_cases isCurrent with
    ⟨isTranslator, rfl⟩ | ⟨isTranslator, store, resolved, rfl, rfl⟩
  · rw [isTranslator, Option.map_some] at isInstalled
    simp only [installed, ← isInstalled]
  · rw [isTranslator, Option.map_none] at isInstalled
    simp only [installed, ← isInstalled, resolved]
    rfl

/-- After a snippet the session tracks its history, if the translator still does. -/
theorem Tracks.translated (tracks : Tracks turns session) {host : Host}
    {translator after : Translator} {next : Session} {source : List Char}
    {hint : Option (List Char)} {answer : Answer}
    {reading : Option (Except StoreError (List Term))}
    (isCurrent : session.current host = .ok (translator, next))
    (options : after.options = translator.options)
    (store : after.cache.store = translator.cache.store)
    (vocabulary : after.cache.vocabulary = translator.cache.vocabulary)
    (entries : after.cache.entries =
      (snapshot (⟨host, .translate source hint, answer, reading⟩ :: turns)).map fun terms =>
        dictionaryOf terms translator.options.vocabulary) :
    Tracks (⟨host, .translate source hint, answer, reading⟩ :: turns)
      { next with translator := some after } where
  isInstalled := by
    rw [installed_translate tracks isCurrent, Option.map_some, options, store]
  vocabulary translator isAfter := by
    cases isAfter
    rw [vocabulary, options, (tracks.of_current isCurrent).1]
  entries translator isAfter := by
    cases isAfter
    rw [entries, options]
  noTranslator := nofun

theorem Tracks.turn_translate (tracks : Tracks turns session) (parser : Parser) (host : Host)
    (source : List Char) (hint : Option (List Char)) :
    Tracks ((session.turn parser host (.translate source hint)).1 :: turns)
      (session.turn parser host (.translate source hint)).2 := by
  cases isCurrent : session.current host with
  | error error =>
      rcases Session.of_current_error isCurrent with ⟨noTranslator, unresolved⟩
      have notInstalled := tracks.isInstalled
      rw [noTranslator, Option.map_none] at notInstalled
      rw [Session.turn_of_noTranslator source hint isCurrent]
      refine ⟨?_, tracks.vocabulary, tracks.entries, tracks.noTranslator⟩
      simp only [installed, noTranslator, ← notInstalled, unresolved, Option.map_none]
  | ok found =>
      rcases found with ⟨translator, next⟩
      rcases tracks.of_current isCurrent with ⟨vocabulary, entries⟩
      have unread : ∀ {outcome events}, translator.translate parser host.tree source hint =
          (outcome, translator, events) →
          Tracks ((session.turn parser host (.translate source hint)).1 :: turns)
            (session.turn parser host (.translate source hint)).2 := by
        intro outcome events noRequest
        rw [Session.turn_of_noRequest isCurrent noRequest,
          ← Session.restore_of_current isCurrent]
        exact tracks.translated isCurrent rfl rfl rfl entries
      cases content : isBlankText source with
      | true => exact unread (Translator.translate_of_blank parser host.tree translator hint content)
      | false =>
          cases isSnapshot : snapshot turns with
          | some terms =>
              rw [isSnapshot] at entries
              exact unread (translate_of_filled content entries)
          | none =>
              rw [isSnapshot] at entries
              cases reads : translator.cache.store.read host.tree translator.cache.requests with
              | ok terms =>
                  rcases exists_translate_of_read content entries reads with ⟨events, translated⟩
                  rw [Session.turn_of_request isCurrent translated rfl rfl, reads]
                  refine tracks.translated isCurrent rfl rfl rfl ?_
                  rw [← vocabulary]
                  rfl
              | error error =>
                  rw [Session.turn_of_request isCurrent
                    (translate_of_failed content entries reads) rfl rfl, reads]
                  refine tracks.translated isCurrent rfl rfl rfl ?_
                  change translator.cache.entries = (snapshot turns).map _
                  rw [isSnapshot]
                  exact entries

/-- Each turn adds to the history what it does to the session. -/
theorem Tracks.turn (tracks : Tracks turns session) (parser : Parser) (host : Host) (call : Call) :
    Tracks ((session.turn parser host call).1 :: turns) (session.turn parser host call).2 := by
  cases call with
  | configure options choice =>
      cases resolved : choice.resolve host.environment with
      | ok store =>
          rw [Session.turn_configure resolved]
          refine ⟨?_, ?_, ?_, nofun⟩
          · simp only [installed, resolved]
            rfl
          · rintro _ ⟨⟩
            rfl
          · rintro _ ⟨⟩
            rfl
      | error error =>
          rw [Session.turn_configure_of_error resolved]
          refine ⟨?_, tracks.vocabulary, tracks.entries, tracks.noTranslator⟩
          simp only [installed, resolved]
          exact tracks.isInstalled
  | translate source hint => exact tracks.turn_translate parser host source hint
  | reset =>
      rw [Session.turn_reset]
      refine ⟨?_, ?_, ?_, fun _ => rfl⟩
      · change ((session.translator.map Translator.reset).map fun translator =>
          (translator.options, translator.cache.store)) = installed turns
        rw [Option.map_map, ← tracks.isInstalled]
        rfl
      · intro translator isReset
        rcases Option.map_eq_some_iff.mp isReset with ⟨before, isBefore, rfl⟩
        exact tracks.vocabulary before isBefore
      · intro translator isReset
        rcases Option.map_eq_some_iff.mp isReset with ⟨before, _, rfl⟩
        rfl

/-- After any calls the session tracks their history. -/
theorem tracks_history (parser : Parser) (calls : List (Host × Call)) :
    Tracks (Session.history parser calls).1 (Session.history parser calls).2 := by
  induction calls with
  | nil => exact tracks_start
  | cons call earlier ih => exact ih.turn parser call.1 call.2

/-- A session that tracks its history answers from its snapshot. -/
theorem Tracks.answersFromSnapshot (tracks : Tracks turns session) (parser : Parser) :
    AnswersFromSnapshot parser turns session where
  isInstalled := tracks.isInstalled
  noTranslator host source hint error noCurrent :=
    Session.turn_of_noTranslator source hint noCurrent
  blank host source hint translator next blank isCurrent := by
    rw [Session.turn_of_noRequest isCurrent
      (Translator.translate_of_blank parser host.tree translator hint blank)]
    rfl
  remembered terms isSnapshot := by
    cases isTranslator : session.translator with
    | none =>
        rw [tracks.noTranslator isTranslator] at isSnapshot
        contradiction
    | some translator =>
        have isInstalled := tracks.isInstalled
        rw [isTranslator, Option.map_some] at isInstalled
        refine ⟨translator.options, translator.cache.store, isInstalled.symm, ?_⟩
        intro host source hint content
        have entries := tracks.entries translator isTranslator
        rw [isSnapshot, Option.map_some] at entries
        rw [Session.turn_of_noRequest (Session.current_of_installed host isTranslator)
          (translate_of_filled content entries), freshOutcome_eq content]
  read noSnapshot host source hint translator next terms content isCurrent reads := by
    rcases tracks.of_current isCurrent with ⟨vocabulary, entries⟩
    rw [noSnapshot, Option.map_none] at entries
    rcases exists_translate_of_read content entries reads with ⟨events, translated⟩
    rw [Session.turn_of_request isCurrent translated rfl rfl, reads, freshOutcome_eq content,
      vocabulary]
  failed noSnapshot host source hint translator next error content isCurrent fails := by
    have entries := (tracks.of_current isCurrent).2
    rw [noSnapshot, Option.map_none] at entries
    rw [Session.turn_of_request isCurrent (translate_of_failed content entries fails) rfl rfl,
      fails, Cache.isFilled, entries]
    exact ⟨rfl, rfl⟩
  configured host options choice :=
    ⟨fun _ resolved => Session.turn_configure resolved,
      fun _ unresolved => Session.turn_configure_of_error unresolved⟩
  wasReset host := by
    refine ⟨Session.turn_reset parser host session, ?_⟩
    intro noTranslator
    rw [Session.reset, noTranslator, Option.map_none, ← noTranslator]

/-- What a turn has read, it has read from the store that is installed after it. -/
theorem Tracks.exists_installed_of_reading {turn : Turn} {next : Session} {host : Host}
    (tracks : Tracks (turn :: turns) next) (isReading : turn.reading = session.reading? host next)
    {reading : Except StoreError (List Term)} (reads : reading ∈ turn.reading) :
    ∃ options store request, installed (turn :: turns) = some (options, store)
      ∧ reading = store.read host.tree request := by
  rw [isReading, Session.reading?, Option.mem_def, Option.ite_none_right_eq_some,
    Option.map_eq_some_iff] at reads
  rcases reads.2 with ⟨translator, isTranslator, rfl⟩
  refine ⟨translator.options, translator.cache.store, session.requests, ?_, rfl⟩
  rw [← tracks.isInstalled, isTranslator, Option.map_some]

theorem exists_installed_of_history (parser : Parser) {calls : List (Host × Call)} {turn : Turn}
    {earlier later : List Turn} (parts : (Session.history parser calls).1 = later ++ turn :: earlier)
    {reading : Except StoreError (List Term)} (reads : reading ∈ turn.reading) :
    ∃ options store request, installed (turn :: earlier) = some (options, store)
      ∧ reading = store.read turn.host.tree request := by
  induction calls generalizing later with
  | nil =>
      rw [Session.history] at parts
      simp at parts
  | cons call calls ih =>
      have tracks := tracks_history parser (call :: calls)
      rw [Session.history] at parts tracks
      cases later with
      | nil =>
          rw [List.nil_append, List.cons.injEq] at parts
          rcases parts with ⟨rfl, rfl⟩
          exact tracks.exists_installed_of_reading rfl reads
      | cons last later =>
          rw [List.cons_append, List.cons.injEq] at parts
          exact ih parts.2

/-- Later calls leave the history as it is. -/
theorem suffix_history (parser : Parser) (later calls : List (Host × Call)) :
    (Session.history parser calls).1 <:+ (Session.history parser (later ++ calls)).1 := by
  induction later with
  | nil => exact List.suffix_rfl
  | cons call later ih => exact ih.trans (List.suffix_cons _ _)

end Histories

/-- Whatever a session was called for, and whatever was around it, it answers from the snapshot
of its history. All that was ever read came from the store installed then, and no answer is changed
by later calls. -/
theorem session_answersFromSnapshot (parser : Parser) (calls : List (Host × Call)) :
    AnswersFromSnapshot parser (Session.history parser calls).1 (Session.history parser calls).2
    ∧ (∀ turn earlier later, (Session.history parser calls).1 = later ++ turn :: earlier →
      ∀ reading ∈ turn.reading, ∃ options store request,
        installed (turn :: earlier) = some (options, store)
          ∧ reading = store.read turn.host.tree request)
    ∧ ∀ later, (Session.history parser calls).1 <:+ (Session.history parser (later ++ calls)).1 := by
  refine ⟨(tracks_history parser calls).answersFromSnapshot parser, ?_, ?_⟩
  · intro turn earlier later parts reading reads
    exact exists_installed_of_history parser parts reads
  · exact fun later => suffix_history parser later calls

end CodeGloss.Translator
