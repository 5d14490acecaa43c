/-
# CallSearch.Report — search results as a SARIF log

A report holds one result an excerpt, or one a hit when hits have no excerpts, and
the files that were analysed.
-/
import CallSearch.Excerpt.Render
import CallSearch.Search

namespace CallSearch

set_option autoImplicit false

/-- A file that was read. -/
structure Artifact where
  path : String
  /-- The size in bytes. -/
  size : Nat
  /-- Whether the file belongs to the program searched, and not to its class path. -/
  isTarget : Bool
deriving DecidableEq, Inhabited

namespace Report

/-- The method a result belongs to. -/
def location (method : Signature) : Json :=
  .obj [("logicalLocations", .arr [.obj [("name", .str method.name),
    ("fullyQualifiedName", .str method.text), ("kind", .str "function")]])]

/-- A result with its text. -/
def result (method : Signature) (text : String) : Json :=
  .obj [("message", .obj [("text", .str text)]), ("locations", .arr [location method])]

/-- The results of some hits. -/
def results (style : Style) (hits : List Hit) : List Json :=
  hits.flatMap fun hit =>
    if hit.excerpts.isEmpty then [result hit.callee (style.signature hit.callee)]
    else hit.excerpts.map fun excerpt => result hit.callee (style.render excerpt.1)

/-- A file as it is reported. -/
def artifact (file : Artifact) : Json :=
  .obj ([("location", .obj [("uri", .str file.path)]), ("length", .nat file.size)]
    ++ if file.isTarget then [("roles", .arr [.str "analysisTarget"])] else [])

/-- The log of one run.  Files are left out if there are none. -/
def log (artifacts : List Artifact) (results : List Json) : Json :=
  let tool : Json := .obj [("driver", .obj [("name", .str "callgoat")])]
  let files : List (String × Json) :=
    if artifacts.isEmpty then [] else [("artifacts", .ofList artifact artifacts)]
  .obj [("$schema",
      .str "https://schemastore.azurewebsites.net/schemas/json/sarif-2.1.0.json"),
    ("version", .str "2.1.0"),
    ("runs", .arr [.obj ([("tool", tool), ("results", .arr results)] ++ files)])]

end Report

end CallSearch
