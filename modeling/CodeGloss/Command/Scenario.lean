import CodeGloss.Gloss.GlossedCode
import CodeGloss.Glossary.Term
import CodeGloss.Language
import CodeGloss.Text.Split

/-!
# Validation scenarios

A few snippets with what their translation has to look like, and the terms for
it. They show whether a dictionary and a parser work together.
-/

namespace CodeGloss.Command

open Glossary Gloss Text

/-- The terms that the scenarios are made for. -/
def validationTerms : List Term :=
  [("fetch", "obtener"), ("user", "usuario"), ("welcome", "bienvenido"), ("state", "estado"),
   ("component", "componente"), ("function", "función"), ("data", "datos")].map
    fun (term, translation) => .ofText (String.toList term) (String.toList translation) []

structure Scenario where
  name : String
  code : String
  language : Option String
  check : GlossedCode → Bool

/-- Whether the code of a result has a part. -/
def codeHas (part : String) (result : GlossedCode) : Bool :=
  1 < (splitOn part.toList result.code).length

def scenarios : List Scenario :=
  [{ name := "JS string literals"
     code := "const msg = \"fetch user\";"
     language := some "js"
     check := fun result =>
      result.code == "const msg = \"obtener usuario\";".toList && result.stringReplacements == 1 },
   { name := "TS template literal keeps expressions"
     code := "const greeting = \x60welcome $\x7buser.name\x7d\x60;"
     language := some "ts"
     check := codeHas "\x60bienvenido $\x7buser.name\x7d\x60" },
   { name := "JSX text and comments keep indentation"
     code := "export const UserCard = () => \x7b\n  // fetch user data\n  return (\n"
      ++ "    <div className=\"card\">\n      <p>welcome user</p>\n    </div>\n  );\n\x7d;"
     language := some "jsx"
     check := fun result =>
      codeHas "// obtener usuario datos" result && codeHas "<p>bienvenido usuario</p>" result
        && codeHas "    <div" result },
   { name := "Python strings and comments"
     code := "def get_user():\n    # fetch user from db\n    message = \"welcome user\"\n"
      ++ "    return message"
     language := some "python"
     check := fun result =>
      codeHas "    # obtener usuario from db" result && codeHas "\"bienvenido usuario\"" result },
   { name := "Go falls back to plain text"
     code := "func FetchUser() \x7b\n    // fetch user data\n    message := \"welcome user\"\n\x7d"
     language := some "go"
     check := fun result =>
      result.usedFallback && codeHas "obtener" result && codeHas "bienvenido" result },
   { name := "JSX auto-detection"
     code := "<UserComponent>\n    <h1>welcome user</h1>\n  </UserComponent>"
     language := none
     check := fun result =>
      result.language == (Language.tag .jsx).toList && codeHas "bienvenido usuario" result },
   { name := "Independent comment counters"
     code := "// fetch user data\nconst name = \"function\";"
     language := some "js"
     check := fun result =>
      result.commentReplacements == 1 && result.stringReplacements == 1 }]

end CodeGloss.Command
