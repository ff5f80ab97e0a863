import CodeGloss.Format.Json.Encode
import CodeGloss.Glossary.Entry

/-!
# Built-in vocabulary

The words that a dictionary knows unless it is told to do without them, and the
term file that comes with the library.
-/

namespace CodeGloss.Glossary

open Format

/-- Developer words in English and Spanish. -/
def builtInWords : List (String × String) :=
  [("function", "función"), ("component", "componente"), ("hook", "hook"), ("state", "estado"),
   ("request", "solicitud"), ("response", "respuesta"), ("error", "error"), ("success", "éxito"),
   ("loading", "cargando"), ("retry", "reintentar"), ("fetch", "obtener"), ("submit", "enviar"),
   ("cancel", "cancelar"), ("save", "guardar"), ("delete", "eliminar"), ("update", "actualizar"),
   ("create", "crear"), ("user", "usuario"), ("admin", "administrador"),
   ("password", "contraseña"), ("token", "token"), ("session", "sesión"), ("value", "valor"),
   ("terms", "términos"), ("description", "descripción"), ("example", "ejemplo"),
   ("retrying", "reintentando"), ("timeout", "tiempo de espera"), ("welcome", "bienvenido")]

def builtInVocabulary : Vocabulary :=
  builtInWords.map fun (name, translation) => (name.toList, .text translation.toList)

/-- The terms that come with the library, each with its translation and aliases. -/
def bundledWords : List (String × String × List String) :=
  [("pull request", "solicitud de cambios", ["PR", "merge request"]),
   ("database", "base de datos", ["db"]),
   ("deploy", "desplegar", ["ship"]),
   ("deployment", "despliegue", []),
   ("branch", "rama", []),
   ("commit", "confirmar cambios", []),
   ("bug", "fallo", ["defect"]),
   ("feature", "funcionalidad", []),
   ("settings", "configuración", ["preferences"]),
   ("search", "buscar", []),
   ("login", "iniciar sesión", ["log in", "sign in"]),
   ("logout", "cerrar sesión", ["log out", "sign out"]),
   ("dashboard", "panel", []),
   ("data", "datos", []),
   ("message", "mensaje", []),
   ("page", "página", []),
   ("not found", "no encontrado", []),
   ("try again", "inténtalo de nuevo", [])]

/-- The record of a term, as term files hold it. -/
def recordOf (term translation : String) (aliases : List String) : Value :=
  .record
    [("term".toList, .text term.toList), ("translation".toList, .text translation.toList),
     ("aliases".toList, .list (aliases.map fun name => .text name.toList))]

/-- The text of the term file that comes with the library. -/
def bundledTermFile : List Char :=
  Json.encode .compact
    (.list (bundledWords.map fun (term, translation, aliases) => recordOf term translation aliases))

end CodeGloss.Glossary
