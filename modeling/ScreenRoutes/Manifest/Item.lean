import ScreenRoutes.Assoc

/-!
# Trees of a manifest

What a TOML document holds. A table remembers how it came about, since that decides who may add to
it: a table in braces is complete; one that a dotted key made takes further dotted keys; and one
that only the path of a header made may still get a header of its own.
-/

namespace ScreenRoutes.Toml

inductive TableKind where
  | inline
  | header
  | implied
  | dotted
  deriving DecidableEq, Repr

/-- A value, or tables that headers add to. Of numbers with a fraction and of dates only the kind
is kept. -/
inductive Item where
  | string (s : String)
  | integer (n : Int)
  | float
  | boolean (b : Bool)
  | date
  | array (items : List Item)
  | table (kind : TableKind) (entries : List (String × Item))
  | tables (all : List (List (String × Item)))
  deriving Repr

abbrev Entries := List (String × Item)

/-- The entries with an item under a dotted key, `path` being the key before its last part. No
table with a header may be added to from outside, and the table that gets the item is one that
dotted keys made. -/
def assign : (path : List String) → (key : String) → Item → Entries → Option Entries
  | [], key, item, es => if (es.lookup key).isSome then none else some (es ++ [(key, item)])
  | p :: path, key, item, es =>
    match es.lookup p with
    | none => (assign path key item []).map fun inner => es ++ [(p, .table .dotted inner)]
    | some (.table .dotted inner) =>
      (assign path key item inner).map fun inner => Assoc.put p (.table .dotted inner) es
    | some (.table .implied inner) =>
      if path.isEmpty then none
      else (assign path key item inner).map fun inner => Assoc.put p (.table .implied inner) es
    | some (.tables all) =>
      if path.isEmpty then none
      else
        all.getLast?.bind fun last =>
          (assign path key item last).map fun last =>
            Assoc.put p (.tables (all.dropLast ++ [last])) es
    | some _ => none

/-- Items under dotted keys, each with the key before its last part and that last part. -/
abbrev Assignments := List (List String × String × Item)

def assignAll (assignments : Assignments) (es : Entries) : Option Entries :=
  assignments.foldlM (fun es (path, key, item) => assign path key item es) es

/-- The entries with another item at the end of a header's path. Of tables under one header the
last is meant, and a table that is missing on the way is made. -/
def place (change : Option Item → Option Item) : (path : List String) → Entries → Option Entries
  | [], _ => none
  | [key], es => (change (es.lookup key)).map fun item => Assoc.put key item es
  | p :: path, es =>
    match es.lookup p with
    | none => (place change path []).map fun inner => es ++ [(p, .table .implied inner)]
    | some (.table .inline _) => none
    | some (.table kind inner) =>
      (place change path inner).map fun inner => Assoc.put p (.table kind inner) es
    | some (.tables all) =>
      all.getLast?.bind fun last =>
        (place change path last).map fun last =>
          Assoc.put p (.tables (all.dropLast ++ [last])) es
    | some _ => none

/-- A header, which names one table or one more of several. -/
inductive Header where
  | table (path : List String)
  | tables (path : List String)

/-- What the header's table becomes with the items below the header. A table has at most one
header. -/
def Header.put (header : Header) (assignments : Assignments) (es : Entries) : Option Entries :=
  match header with
  | .table path =>
    place (fun
      | none => (assignAll assignments []).map (.table .header)
      | some (.table .implied inner) => (assignAll assignments inner).map (.table .header)
      | some _ => none) path es
  | .tables path =>
    place (fun
      | none => (assignAll assignments []).map fun t => .tables [t]
      | some (.tables all) => (assignAll assignments []).map fun t => .tables (all ++ [t])
      | some _ => none) path es

/-- A document: items in front, then headers with the items below them. -/
structure Document where
  front : Assignments
  sections : List (Header × Assignments)

def Document.entries (d : Document) : Option Entries := do
  let es ← assignAll d.front []
  d.sections.foldlM (fun es (header, assignments) => header.put assignments es) es

end ScreenRoutes.Toml
