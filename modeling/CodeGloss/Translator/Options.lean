import CodeGloss.Glossary.Vocabulary

/-!
# Translation options

How snippets are translated: the grammar for parsing, whether the built-in
vocabulary is added to the dictionary, and whether the names of modules are left
alone.
-/

namespace CodeGloss.Translator

structure Options where
  grammar : List Char := "tsx".toList
  useDefaults : Bool := true
  skipModuleSpecifiers : Bool := true
  deriving DecidableEq, Repr, Inhabited

/-- The vocabulary that fills up the dictionary. -/
def Options.vocabulary (options : Options) : Glossary.Vocabulary :=
  if options.useDefaults then Glossary.builtInVocabulary else []

end CodeGloss.Translator
