/-
# CallSearch.Excerpt.Paths — the ways through an excerpt

A path through an excerpt takes one alternative wherever there are several, in
every nested call anew.  Alternatives that match no query word are not offered;
where none is left the place is skipped.  A path has the form of the excerpt, its
bodies being sequences in normal form.
-/
import CallSearch.Excerpt
import CallSearch.Query
import CallSearch.Tree.Normal

namespace CallSearch

set_option autoImplicit false

namespace ExcerptItem

/-- What a path shows. -/
def pathSummary (path : List ExcerptItem) : Summary := .ofCalls (path.flatMap calls)

/-- Whether a path is worth offering as an alternative. -/
def isOffered (query : Query) (path : List ExcerptItem) : Bool :=
  !path.isEmpty && query.isPartiallyFulfilledBy (pathSummary path)

/-- One path of each part after another, in every combination. -/
def combinations (parts : List (List (List ExcerptItem))) : List (List ExcerptItem) :=
  parts.foldl (fun paths part => paths.flatMap fun path => part.map (path ++ ·)) [[]]

/-- The bodies a node takes for the paths through its body: one in normal form a path, or
the empty one if there is no path. -/
def pathBodies (paths : List (List ExcerptItem)) : List (Tree ExcerptItem) :=
  if paths.isEmpty then [.empty] else paths.map fun path => (Tree.ofPath path).normalize

mutual

/-- The items a path may hold in the place of an item. -/
def paths (query : Query) : ExcerptItem → List ExcerptItem
  | .invoked site => [.invoked site]
  | .call site context depth body =>
      (pathBodies (pathsOfTree query body)).map (.call site context depth ·)

/-- The paths through a tree; there are none where nothing can be taken. -/
def pathsOfTree (query : Query) : Tree ExcerptItem → List (List ExcerptItem)
  | .leaf item => (item.paths query).map ([·])
  | .seq parts =>
      let taken := (pathsOfTrees query parts).filter (!·.isEmpty)
      if taken.isEmpty then [] else combinations taken
  | .alt parts => (pathsOfTrees query parts).flatten.filter (isOffered query)

/-- The paths through each of some trees. -/
def pathsOfTrees (query : Query) : List (Tree ExcerptItem) → List (List (List ExcerptItem))
  | [] => []
  | part :: rest => pathsOfTree query part :: pathsOfTrees query rest

end

end ExcerptItem

namespace Excerpt

/-- The paths through an excerpt that fulfil the whole query, each as an excerpt. -/
def paths (query : Query) (excerpt : Excerpt) : List Excerpt :=
  let bodies := ExcerptItem.pathBodies (ExcerptItem.pathsOfTree query excerpt.body)
  (bodies.map fun body => { excerpt with body }).filter fun path =>
    query.isFulfilledBy path.pathSummary

end Excerpt

end CallSearch
