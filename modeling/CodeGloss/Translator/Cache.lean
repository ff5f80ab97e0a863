import CodeGloss.Glossary.Entry
import CodeGloss.Stores.TermStore
import CodeGloss.Translator.Event

/-!
# Dictionary cache

A cache reads its store when the dictionary is first wanted and keeps what it
built from the terms. Forgetting the dictionary makes the next request read again. A read that
fails leaves nothing behind, so the request after it tries again.

The cache counts the requests to its store, because the answer of a store
outside the library may depend on them, and how often it was filled, which tells
one dictionary from another.
-/

namespace CodeGloss.Translator

open Files Glossary Stores

structure Cache where
  store : TermStore
  vocabulary : Vocabulary
  entries : Option (List Entry)
  requests : Nat
  fills : Nat

namespace Cache

/-- A cache that holds nothing yet. -/
def ofStore (store : TermStore) (vocabulary : Vocabulary) : Cache :=
  ⟨store, vocabulary, none, 0, 0⟩

def isFilled (cache : Cache) : Bool :=
  cache.entries.isSome

def clear (cache : Cache) : Cache :=
  { cache with entries := none }

/-- Read the store and keep the dictionary. -/
def fill (tree : Tree) (cache : Cache) :
    Except StoreError (List Entry) × Cache × List Event :=
  match cache.store.read tree cache.requests with
  | .error error => (.error error, { cache with requests := cache.requests + 1 }, [])
  | .ok terms =>
      let entries := dictionaryOf terms cache.vocabulary
      (.ok entries,
        { cache with
          entries := some entries, requests := cache.requests + 1, fills := cache.fills + 1 },
        [.built cache.store.name entries.length])

/-- The dictionary, the cache afterwards, and what was logged. -/
def fetch (tree : Tree) (cache : Cache) : Except StoreError (List Entry) × Cache × List Event :=
  match cache.entries with
  | some entries => (.ok entries, cache, [])
  | none => cache.fill tree

/-- A dictionary that was built is given again without a request. -/
theorem fetch_of_entries (tree : Tree) {cache : Cache} {entries : List Entry}
    (filled : cache.entries = some entries) : cache.fetch tree = (.ok entries, cache, []) := by
  simp [fetch, filled]

theorem fetch_of_unfilled (tree : Tree) {cache : Cache} (unfilled : cache.entries = none) :
    cache.fetch tree = cache.fill tree := by
  simp [fetch, unfilled]

end Cache

end CodeGloss.Translator
