import CodeGloss.Translator.Cache

/-!
# Epochs of a cache

A cache is asked for its dictionary and told to forget it, in any order, while the store behind
it changes and may fail. An epoch lasts from one forgetting to the next. In it the store is read
until a read succeeds, and then no more: all who ask get the dictionary of that read, and the
same one, even if it is empty. A read that fails is reported and leaves nothing behind.

A history lists the turns of a cache, the latest first. What a turn has read is seen from the
number of requests to the store, and a dictionary is known by the number of times that the cache
had been filled when it was given.
-/

namespace CodeGloss.Translator.Cache

open Files Glossary Stores

/-! ## Histories -/

/-- What a cache is called for. -/
inductive Call where
  | fetch
  | clear
  deriving DecidableEq

/-- A call, and what came of it. -/
structure Turn where
  tree : Tree
  call : Call
  /-- What the store answered to each request that was made. -/
  readings : List (Except StoreError (List Term))
  /-- What was given to whoever asked for the dictionary. -/
  given : Option (Except StoreError (List Entry))
  /-- Whether the cache held a dictionary afterwards. -/
  isFilled : Bool
  /-- How often the cache had been filled by then. -/
  fills : Nat

/-- What the store was asked and answered between two states of a cache. -/
def readings (tree : Tree) (cache next : Cache) : List (Except StoreError (List Term)) :=
  (List.range' cache.requests (next.requests - cache.requests)).map (cache.store.read tree)

/-- What is given on a call, and the cache afterwards. -/
def answer (tree : Tree) (cache : Cache) :
    Call → Option (Except StoreError (List Entry)) × Cache
  | .fetch =>
      let (outcome, next, _) := cache.fetch tree
      (some outcome, next)
  | .clear => (none, cache.clear)

def turn (tree : Tree) (cache : Cache) (call : Call) : Turn × Cache :=
  let (given, next) := cache.answer tree call
  (⟨tree, call, cache.readings tree next, given, next.isFilled, next.fills⟩, next)

/-- The history of some calls to a new cache, the latest first, and the cache after them. -/
def history (store : TermStore) (vocabulary : Vocabulary) :
    List (Tree × Call) → List Turn × Cache
  | [] => ([], ofStore store vocabulary)
  | (tree, call) :: earlier =>
      let (turns, cache) := history store vocabulary earlier
      let (turn, next) := cache.turn tree call
      (turn :: turns, next)

/-! ## Epochs -/

/-- Whoever asked got a dictionary. -/
def Turn.Succeeded (turn : Turn) : Prop :=
  ∃ entries, turn.given = some (.ok entries)

/-- The turns since the dictionary was forgotten last. -/
def epoch (turns : List Turn) : List Turn :=
  turns.takeWhile fun turn => turn.call == .fetch

/-- The terms of the reads that succeeded. -/
def snapshots (turns : List Turn) : List (List Term) :=
  (turns.flatMap Turn.readings).filterMap Except.toOption

/-- A turn does what the turns before it ask for. -/
structure Turn.KeepsEpoch (store : TermStore) (vocabulary : Vocabulary) (earlier : List Turn)
    (turn : Turn) : Prop where
  answers : turn.given ≠ none ↔ turn.call = .fetch
  /-- The store is read exactly if the dictionary is wanted and none was given in this epoch. -/
  reads : turn.readings ≠ [] ↔ turn.call = .fetch ∧ ∀ other ∈ epoch earlier, ¬ other.Succeeded
  /-- It is read once, and answers to the next request. -/
  once : turn.readings ≠ [] →
    turn.readings = [store.read turn.tree (earlier.flatMap Turn.readings).length]
  /-- The error of a read is reported, and no dictionary is held. -/
  failed : ∀ error, .error error ∈ turn.readings →
    turn.given = some (.error error) ∧ turn.isFilled = false
  /-- A read that succeeds gives a new dictionary of its terms. -/
  filled : ∀ terms, .ok terms ∈ turn.readings →
    turn.given = some (.ok (dictionaryOf terms vocabulary))
      ∧ ∀ other ∈ earlier, other.fills < turn.fills
  /-- A dictionary is held exactly if one was given in this epoch, though it may be empty. -/
  isFilled_iff : turn.isFilled = true ↔ ∃ other ∈ epoch (turn :: earlier), other.Succeeded

/-- At most one read of an epoch succeeds, and all that is given is its dictionary. -/
structure OneDictionary (vocabulary : Vocabulary) (turns : List Turn) : Prop where
  single : (snapshots turns).length ≤ 1
  same : ∃ fills, ∀ turn ∈ turns, ∀ entries, turn.given = some (.ok entries) →
    turn.fills = fills
      ∧ ∃ terms, snapshots turns = [terms] ∧ entries = dictionaryOf terms vocabulary

/-! ## One turn -/

/-- What a turn can do. -/
inductive Step (tree : Tree) (cache : Cache) : Turn → Cache → Prop
  | forgets : Step tree cache ⟨tree, .clear, [], none, false, cache.fills⟩ cache.clear
  | remembers {entries : List Entry} (filled : cache.entries = some entries) :
      Step tree cache ⟨tree, .fetch, [], some (.ok entries), true, cache.fills⟩ cache
  | fails {error : StoreError} (unfilled : cache.entries = none)
      (read : cache.store.read tree cache.requests = .error error) :
      Step tree cache
        ⟨tree, .fetch, [.error error], some (.error error), false, cache.fills⟩
        { cache with requests := cache.requests + 1 }
  | fills {terms : List Term} (unfilled : cache.entries = none)
      (read : cache.store.read tree cache.requests = .ok terms) :
      Step tree cache
        ⟨tree, .fetch, [.ok terms], some (.ok (dictionaryOf terms cache.vocabulary)), true,
          cache.fills + 1⟩
        { cache with
          entries := some (dictionaryOf terms cache.vocabulary)
          requests := cache.requests + 1
          fills := cache.fills + 1 }

theorem readings_of_same (tree : Tree) (cache next : Cache)
    (same : next.requests = cache.requests) : cache.readings tree next = [] := by
  rw [readings, same, Nat.sub_self]
  rfl

theorem readings_of_succ (tree : Tree) {cache next : Cache}
    (succ : next.requests = cache.requests + 1) :
    cache.readings tree next = [cache.store.read tree cache.requests] := by
  rw [readings, succ, Nat.add_sub_cancel_left]
  rfl

theorem turn_of_answer {tree : Tree} {cache next : Cache} {call : Call}
    {given : Option (Except StoreError (List Entry))}
    (isAnswer : cache.answer tree call = (given, next)) :
    cache.turn tree call =
      (⟨tree, call, cache.readings tree next, given, next.isFilled, next.fills⟩, next) := by
  rw [turn, isAnswer]

theorem step_turn (tree : Tree) (cache : Cache) (call : Call) :
    Step tree cache (cache.turn tree call).1 (cache.turn tree call).2 := by
  cases call with
  | clear =>
      have isAnswer : cache.answer tree .clear = (none, cache.clear) := rfl
      rw [turn_of_answer isAnswer, readings_of_same tree cache cache.clear rfl]
      exact .forgets
  | fetch =>
      cases held : cache.entries with
      | some entries =>
          have isAnswer : cache.answer tree .fetch = (some (.ok entries), cache) := by
            rw [answer, fetch_of_entries tree held]
          rw [turn_of_answer isAnswer, readings_of_same tree cache cache rfl, isFilled, held]
          exact .remembers held
      | none =>
          cases read : cache.store.read tree cache.requests with
          | error error =>
              have isAnswer : cache.answer tree .fetch =
                  (some (.error error), { cache with requests := cache.requests + 1 }) := by
                rw [answer, fetch_of_unfilled tree held, fill, read]
              rw [turn_of_answer isAnswer, readings_of_succ tree rfl, read]
              simp only [isFilled, held, Option.isSome_none]
              rw [← held]
              exact .fails held read
          | ok terms =>
              have isAnswer : cache.answer tree .fetch =
                  (some (.ok (dictionaryOf terms cache.vocabulary)),
                    { cache with
                      entries := some (dictionaryOf terms cache.vocabulary)
                      requests := cache.requests + 1
                      fills := cache.fills + 1 }) := by
                rw [answer, fetch_of_unfilled tree held, fill, read]
              rw [turn_of_answer isAnswer, readings_of_succ tree rfl, read]
              exact .fills held read

/-! ## All turns -/

/-- What a cache holds is what was read in the turns of the epoch. -/
inductive Standing (vocabulary : Vocabulary) (turns : List Turn) (cache : Cache) : Prop
  | unfilled (unread : snapshots turns = []) (failed : ∀ turn ∈ turns, ¬ turn.Succeeded)
      (empty : cache.entries = none) : Standing vocabulary turns cache
  | filled {terms : List Term} (read : snapshots turns = [terms])
      (succeeded : ∃ turn ∈ turns, turn.Succeeded)
      (same : ∀ turn ∈ turns, ∀ entries, turn.given = some (.ok entries) →
        turn.fills = cache.fills ∧ entries = dictionaryOf terms vocabulary)
      (held : cache.entries = some (dictionaryOf terms vocabulary)) :
      Standing vocabulary turns cache

/-- What a cache has to do with its history. -/
structure Tracks (store : TermStore) (vocabulary : Vocabulary) (turns : List Turn)
    (cache : Cache) : Prop where
  isStore : cache.store = store
  isVocabulary : cache.vocabulary = vocabulary
  requests : cache.requests = (turns.flatMap Turn.readings).length
  fills : ∀ turn ∈ turns, turn.fills ≤ cache.fills
  standing : Standing vocabulary (epoch turns) cache

section Turns

variable {store : TermStore} {vocabulary : Vocabulary} {turns : List Turn} {cache next : Cache}
  {tree : Tree} {turn : Turn}

theorem epoch_cons_of_fetch (isFetch : turn.call = .fetch) (turns : List Turn) :
    epoch (turn :: turns) = turn :: epoch turns :=
  List.takeWhile_cons_of_pos (by rw [isFetch]; rfl)

theorem epoch_cons_of_clear (isClear : turn.call = .clear) (turns : List Turn) :
    epoch (turn :: turns) = [] :=
  List.takeWhile_cons_of_neg (by rw [isClear]; exact Bool.false_ne_true)

theorem snapshots_cons (turn : Turn) (turns : List Turn) :
    snapshots (turn :: turns) = turn.readings.filterMap Except.toOption ++ snapshots turns := by
  rw [snapshots, List.flatMap_cons, List.filterMap_append, ← snapshots]

theorem Standing.isFilled_iff (standing : Standing vocabulary turns cache) :
    cache.isFilled = true ↔ ∃ turn ∈ turns, turn.Succeeded := by
  rw [isFilled]
  cases standing with
  | unfilled _ failed empty =>
      rw [empty]
      constructor
      · nofun
      · rintro ⟨turn, member, succeeded⟩
        exact absurd succeeded (failed turn member)
  | filled _ succeeded _ held =>
      rw [held]
      exact ⟨fun _ => succeeded, fun _ => rfl⟩

theorem Standing.oneDictionary (standing : Standing vocabulary turns cache) :
    OneDictionary vocabulary turns := by
  cases standing with
  | unfilled unread failed _ =>
      constructor
      · rw [unread]
        exact Nat.zero_le 1
      · refine ⟨0, fun turn member entries given => ?_⟩
        exact absurd ⟨entries, given⟩ (failed turn member)
  | filled read _ same _ =>
      constructor
      · rw [read]
        exact Nat.le_refl 1
      · refine ⟨cache.fills, fun turn member entries given => ?_⟩
        rcases same turn member entries given with ⟨fills, isDictionary⟩
        exact ⟨fills, _, read, isDictionary⟩

theorem Step.isFilled_eq (step : Step tree cache turn next) : turn.isFilled = next.isFilled := by
  cases step with
  | forgets => rfl
  | remembers filled => rw [isFilled, filled, Option.isSome_some]
  | fails unfilled _ => rw [isFilled, unfilled, Option.isSome_none]
  | fills _ _ => rfl

/-- One turn leaves the cache with what was read in the epoch. -/
theorem Step.standing (step : Step tree cache turn next)
    (isVocabulary : cache.vocabulary = vocabulary)
    (standing : Standing vocabulary (epoch turns) cache) :
    Standing vocabulary (epoch (turn :: turns)) next := by
  cases step with
  | forgets =>
      rw [epoch_cons_of_clear rfl]
      exact .unfilled rfl (List.forall_mem_nil _) rfl
  | @remembers entries filled =>
      cases standing with
      | unfilled _ _ empty =>
          rw [empty] at filled
          contradiction
      | @filled terms read succeeded same held =>
          rw [held, Option.some.injEq] at filled
          subst filled
          rw [epoch_cons_of_fetch rfl]
          refine .filled (by rwa [snapshots_cons]) ?_ ?_ held
          · exact ⟨_, List.mem_cons_self, _, rfl⟩
          · rw [List.forall_mem_cons]
            refine ⟨?_, same⟩
            rintro entries ⟨⟩
            exact ⟨rfl, rfl⟩
  | @fails error unfilled read =>
      cases standing with
      | filled _ _ _ held =>
          rw [held] at unfilled
          contradiction
      | unfilled unread failed empty =>
          rw [epoch_cons_of_fetch rfl]
          refine .unfilled (by rwa [snapshots_cons]) ?_ empty
          rw [List.forall_mem_cons]
          refine ⟨?_, failed⟩
          rintro ⟨entries, ⟨⟩⟩
  | @fills terms unfilled read =>
      cases standing with
      | filled _ _ _ held =>
          rw [held] at unfilled
          contradiction
      | unfilled unread failed empty =>
          rw [epoch_cons_of_fetch rfl, isVocabulary]
          refine .filled (by rw [snapshots_cons, unread]; rfl) ?_ ?_ rfl
          · exact ⟨_, List.mem_cons_self, _, rfl⟩
          · rw [List.forall_mem_cons]
            constructor
            · rintro entries ⟨⟩
              exact ⟨rfl, rfl⟩
            · intro other member entries given
              exact absurd ⟨entries, given⟩ (failed other member)

/-- Each turn adds to the history what it does to the cache. -/
theorem Step.tracks (step : Step tree cache turn next)
    (tracks : Tracks store vocabulary turns cache) :
    Tracks store vocabulary (turn :: turns) next := by
  have standing := step.standing tracks.isVocabulary tracks.standing
  have requests := tracks.requests
  have fills := tracks.fills
  cases step with
  | forgets =>
      exact ⟨tracks.isStore, tracks.isVocabulary, requests,
        List.forall_mem_cons.mpr ⟨Nat.le_refl _, fills⟩, standing⟩
  | remembers _ =>
      exact ⟨tracks.isStore, tracks.isVocabulary, requests,
        List.forall_mem_cons.mpr ⟨Nat.le_refl _, fills⟩, standing⟩
  | fails _ _ =>
      refine ⟨tracks.isStore, tracks.isVocabulary, ?_,
        List.forall_mem_cons.mpr ⟨Nat.le_refl _, fills⟩, standing⟩
      rw [List.flatMap_cons, List.length_append, ← requests]
      exact Nat.add_comm _ _
  | fills _ _ =>
      refine ⟨tracks.isStore, tracks.isVocabulary, ?_, List.forall_mem_cons.mpr ⟨Nat.le_refl _, ?_⟩,
        standing⟩
      · rw [List.flatMap_cons, List.length_append, ← requests]
        exact Nat.add_comm _ _
      · exact fun other member => Nat.le_succ_of_le (fills other member)

/-- A cache that tracks its history keeps to the epoch in its next turn. -/
theorem Step.keepsEpoch (step : Step tree cache turn next)
    (tracks : Tracks store vocabulary turns cache) : turn.KeepsEpoch store vocabulary turns := by
  have isFilled_iff : turn.isFilled = true ↔
      ∃ other ∈ epoch (turn :: turns), other.Succeeded := by
    rw [step.isFilled_eq]
    exact (step.standing tracks.isVocabulary tracks.standing).isFilled_iff
  have held_iff := tracks.standing.isFilled_iff
  rw [isFilled] at held_iff
  cases step with
  | forgets => exact ⟨by simp, by simp, nofun, nofun, nofun, isFilled_iff⟩
  | remembers filled =>
      rw [filled] at held_iff
      exact ⟨by simp, by simpa using held_iff, nofun, nofun, nofun, isFilled_iff⟩
  | fails unfilled read =>
      rw [unfilled] at held_iff
      rw [tracks.isStore, tracks.requests] at read
      refine ⟨by simp, by simpa using held_iff, fun _ => by rw [read], ?_, by simp, isFilled_iff⟩
      intro error member
      rw [List.mem_singleton] at member
      cases member
      exact ⟨rfl, rfl⟩
  | fills unfilled read =>
      rw [unfilled] at held_iff
      rw [tracks.isStore, tracks.requests] at read
      refine ⟨by simp, by simpa using held_iff, fun _ => by rw [read], by simp, ?_, isFilled_iff⟩
      intro terms member
      rw [List.mem_singleton] at member
      cases member
      rw [tracks.isVocabulary]
      exact ⟨rfl, fun other member => Nat.lt_succ_of_le (tracks.fills other member)⟩

end Turns

section Histories

variable (store : TermStore) (vocabulary : Vocabulary)

/-- After any calls the cache tracks their history. -/
theorem tracks_history (calls : List (Tree × Call)) :
    Tracks store vocabulary (history store vocabulary calls).1
      (history store vocabulary calls).2 := by
  induction calls with
  | nil =>
      exact ⟨rfl, rfl, rfl, List.forall_mem_nil _, .unfilled rfl (List.forall_mem_nil _) rfl⟩
  | cons call earlier ih => exact (step_turn call.1 _ call.2).tracks ih

/-- What ends with a turn of a history is the history of some of the calls. -/
theorem exists_history_of_suffix {calls : List (Tree × Call)} {turns : List Turn}
    (isSuffix : turns <:+ (history store vocabulary calls).1) :
    ∃ earlier, turns = (history store vocabulary earlier).1 := by
  induction calls with
  | nil => exact ⟨[], List.suffix_nil.mp isSuffix⟩
  | cons call earlier ih =>
      rcases List.suffix_cons_iff.mp isSuffix with whole | isSuffix
      · exact ⟨call :: earlier, whole⟩
      · exact ih isSuffix

/-- Whatever a cache was called for, and whatever its store answered, each turn keeps to its
epoch, and in every epoch the store was read with success at most once and one dictionary was
given. -/
theorem history_readsOncePerEpoch (calls : List (Tree × Call)) :
    (∀ turn earlier, turn :: earlier <:+ (history store vocabulary calls).1 →
      turn.KeepsEpoch store vocabulary earlier)
    ∧ ∀ turns, turns <:+ (history store vocabulary calls).1 →
      OneDictionary vocabulary (epoch turns) := by
  constructor
  · intro turn earlier isSuffix
    rcases exists_history_of_suffix store vocabulary isSuffix with ⟨calls, isHistory⟩
    cases calls with
    | nil => contradiction
    | cons call calls =>
        rw [history, List.cons.injEq] at isHistory
        rcases isHistory with ⟨rfl, rfl⟩
        exact (step_turn call.1 _ call.2).keepsEpoch (tracks_history store vocabulary calls)
  · intro turns isSuffix
    rcases exists_history_of_suffix store vocabulary isSuffix with ⟨calls, rfl⟩
    exact (tracks_history store vocabulary calls).standing.oneDictionary

end Histories

/-- A store that fails once and then has no terms is read twice. The empty dictionary is held, and
given again without a read. -/
theorem history_readsOncePerEpoch_empty :
    let store := TermStore.outside "shelf".toList fun request =>
      if request = 0 then .error (.outside "closed".toList) else .ok []
    let tree : Tree := ⟨[]⟩
    let failed : Turn := ⟨tree, .fetch, [.error (.outside "closed".toList)],
      some (.error (.outside "closed".toList)), false, 0⟩
    let filled : Turn := ⟨tree, .fetch, [.ok []], some (.ok (dictionaryOf [] [])), true, 1⟩
    let again : Turn := ⟨tree, .fetch, [], some (.ok (dictionaryOf [] [])), true, 1⟩
    dictionaryOf [] [] = []
      ∧ (history store [] [(tree, .fetch), (tree, .fetch), (tree, .fetch)]).1 =
        [again, filled, failed]
      ∧ failed.KeepsEpoch store [] [] ∧ filled.KeepsEpoch store [] [failed]
      ∧ again.KeepsEpoch store [] [filled, failed] ∧ OneDictionary [] [again, filled, failed] := by
  intro store tree failed filled again
  have isHistory : (history store [] [(tree, .fetch), (tree, .fetch), (tree, .fetch)]).1 =
      [again, filled, failed] := rfl
  have main := history_readsOncePerEpoch store [] [(tree, .fetch), (tree, .fetch), (tree, .fetch)]
  rw [isHistory] at main
  rcases main with ⟨turns, epochs⟩
  have afterAll : [again, filled, failed] <:+ [again, filled, failed] := List.suffix_rfl
  have afterTwo : [filled, failed] <:+ [again, filled, failed] := List.suffix_cons _ _
  have afterOne : [failed] <:+ [again, filled, failed] := ⟨[again, filled], rfl⟩
  exact ⟨List.mergeSort_nil, isHistory, turns _ _ afterOne, turns _ _ afterTwo,
    turns _ _ afterAll, epochs _ afterAll⟩

end CodeGloss.Translator.Cache
