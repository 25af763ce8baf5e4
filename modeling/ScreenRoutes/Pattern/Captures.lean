import ScreenRoutes.Pattern.Basic

/-!
# Matching routes

A route matches a pattern when the parts of its path agree with the segments one by one, a
placeholder taking any part that is not empty. Of the query only the pattern's keys count, wherever
they stand; the first entry of a key wins, and an entry without `=` has an empty value. What the
placeholders take is raw text, as yet percent-encoded.

| here | there |
| --- | --- |
| `Pattern.captures?` | `RoutePattern::matches` |
-/

namespace ScreenRoutes

open Text

/-- Placeholders with the raw texts they took. -/
abbrev Captures := List (String × String)

/-- What the placeholders of a path take, if the parts agree with the segments. -/
def pathCaptures? : List Segment → List (List Char) → Option Captures
  | [], [] => some []
  | .fixed text :: segments, part :: parts =>
    if text.toList = part then pathCaptures? segments parts else none
  | .placeholder name :: segments, part :: parts =>
    if part.isEmpty then none
    else (pathCaptures? segments parts).map ((name, String.ofList part) :: ·)
  | _, _ => none

/-- The entries of a query with their values; empty entries do not count. -/
def queryEntries (query : List Char) : List (String × String) :=
  ((query.splitOn '&').filter fun entry => !entry.isEmpty).map fun entry =>
    let (key, value) := cut '=' entry
    (String.ofList key, String.ofList (value.getD []))

/-- What the placeholders of a query take from the entries of a route. -/
def queryCaptures (slots : List QuerySlot) (entries : List (String × String)) : Captures :=
  slots.filterMap fun slot => (entries.lookup slot.key).map fun value => (slot.placeholder, value)

/-- What the placeholders of the pattern take from a route, if it matches. -/
def Pattern.captures? (p : Pattern) (route : String) : Option Captures :=
  let (path, query) := cut '?' route.toList
  (pathCaptures? p.segments (path.splitOn '/')).map fun taken =>
    taken ++ queryCaptures p.query (queryEntries (query.getD []))

end ScreenRoutes
