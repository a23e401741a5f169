import ImageLaunch.Toml.Number

/-!
# ImageLaunch.Toml.Node

The tree that a document stands for, with the places its parts were read from.

A table remembers how it came to be, since that decides who may still add to it:

* a table under a *header* takes what stands below the header and nothing later;
* an *implicit* table exists only because a longer header runs through it, and may
  still get a header of its own;
* a *dotted* table exists because of a dotted key, and more dotted keys may add to
  it;
* an *inline* table is complete as written.
-/

namespace ImageLaunch.Toml

/-- A value without parts. -/
inductive Scalar
  | text (value : String)
  | number (value : Number)
  | boolean (value : Bool)
  | moment
  deriving DecidableEq, Repr

/-- A name, and where it stands. -/
structure Key where
  name : String
  span : Span
  deriving DecidableEq, Repr

/-- How a table came to be. -/
inductive Origin
  | header
  | implicit
  | dotted
  | inline
  deriving DecidableEq, Repr

/-- A value of any kind.  Tables made by repeated headers form a sequence of their
own kind; it cannot be extended as an array, nor an array by headers. -/
inductive Node
  | scalar (value : Scalar) (span : Span)
  | array (elements : List Node) (span : Span)
  | tables (elements : List Node) (span : Span)
  | table (origin : Origin) (span : Option Span) (entries : List (Key × Node))

/-- What a table holds, in order. -/
abbrev Entries := List (Key × Node)

/-- A dotted path: the tables that lead to a key. -/
structure Path where
  parents : List Key
  key : Key
  deriving DecidableEq, Repr

/-- Where a value was read from; tables that nothing written stands for have no
place. -/
def Node.span? : Node → Option Span
  | .scalar _ span => some span
  | .array _ span => some span
  | .tables _ span => some span
  | .table _ span _ => span

namespace Entries

/-- The value under a name. -/
def find? (entries : Entries) (name : String) : Option Node :=
  (List.find? (fun entry => entry.1.name = name) entries).map (·.2)

/-- Puts another value under a name that is there. -/
def replace (entries : Entries) (name : String) (node : Node) : Entries :=
  entries.map fun (key, old) => if key.name = name then (key, node) else (key, old)

/-- Takes a name out. -/
def erase (entries : Entries) (name : String) : Entries :=
  entries.filter fun (key, _) => key.name ≠ name

/-- Changes the last of a sequence of tables. -/
def inLast (change : Entries → Option Entries) : List Node → Option (List Node)
  | [] => none
  | [.table origin span entries] => do return [.table origin span (← change entries)]
  | node :: rest => do return node :: (← inLast change rest)

/-- Adds a value under the key at the end of a dotted path; nothing if it may not
be added.  Parents are made as dotted tables, and the value can only go into the
table at hand or into a dotted one. -/
def assign (key : Key) (value : Node) : List Key → Entries → Option Entries
  | [], entries =>
    match find? entries key.name with
    | none => some (entries ++ [(key, value)])
    | some _ => none
  | parent :: rest, entries =>
    match find? entries parent.name with
    | none => do
      return entries ++ [(parent, .table .dotted none (← assign key value rest []))]
    | some (.table .dotted span inner) => do
      return replace entries parent.name (.table .dotted span (← assign key value rest inner))
    | some (.table .implicit span inner) =>
      if rest = [] then none
      else do
        return replace entries parent.name (.table .implicit span (← assign key value rest inner))
    | some (.tables elements span) =>
      if rest = [] then none
      else do
        return replace entries parent.name
          (.tables (← inLast (assign key value rest) elements) span)
    | some _ => none

/-- Changes the table that the parents in a header lead to, making implicit tables
on the way; nothing if they lead into a value that is complete. -/
def within (change : Entries → Option Entries) : List Key → Entries → Option Entries
  | [], entries => change entries
  | parent :: rest, entries =>
    match find? entries parent.name with
    | none => do return entries ++ [(parent, .table .implicit none (← within change rest []))]
    | some (.table origin span inner) =>
      if origin = .inline then none
      else do return replace entries parent.name (.table origin span (← within change rest inner))
    | some (.tables elements span) => do
      return replace entries parent.name (.tables (← inLast (within change rest) elements) span)
    | some _ => none

end Entries

end ImageLaunch.Toml
