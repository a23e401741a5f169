import ImageLaunch.Toml.Value

/-!
# ImageLaunch.Toml.Document

A whole document: assignments at the top, then sections, each under a header.
Reading a document first cuts it into these, and then grows the tree from them, one
section after the other.
-/

namespace ImageLaunch.Toml

open Scan

/-- What stands under one header; a header in double brackets adds one table to a
sequence. -/
structure HeaderBlock where
  path : Path
  repeated : Bool
  span : Span
  pairs : List (Path × Node) := []

/-- One line that is not blank. -/
inductive Line
  | pair (pair : Path × Node)
  | header (path : Path) (repeated : Bool) (span : Span)

/-! ## Lines -/

/-- A header in single or double brackets. -/
def Line.scanHeader : Scan Line := do
  let ((path, repeated), span) ← spanned do
    let repeated ← sees "[["
    expect (if repeated then "[[" else "[")
    let path ← Path.scan
    expect (if repeated then "]]" else "]")
    return (path, repeated)
  return .header path repeated span

/-- The next line with something on it, or nothing at the end. -/
def Line.scan : Scan (Option Line) := do
  gaps
  match ← peek with
  | none => return none
  | some '[' =>
    let line ← Line.scanHeader
    lineEnd
    return some line
  | some _ =>
    let pair ← Node.scanPair (Node.scan depthLimit)
    lineEnd
    return some (.pair pair)

/-- All lines of a document; a byte order mark in front is skipped. -/
def Line.scanAll : Scan (List Line) := do
  discard (accept "\uFEFF")
  collect Line.scan

/-- Cuts the lines at the headers: the pairs before the first one, and the
blocks. -/
def blocks : List Line → List (Path × Node) × List HeaderBlock
  | [] => ([], [])
  | .pair pair :: rest =>
    let (pairs, blocks) := blocks rest
    (pair :: pairs, blocks)
  | .header path repeated span :: rest =>
    let (pairs, blocks) := blocks rest
    ([], { path, repeated, span, pairs } :: blocks)

/-! ## The tree -/

namespace HeaderBlock

/-- The stretch from the header to the end of the last value below it. -/
def extent (block : HeaderBlock) : Span :=
  match block.pairs.getLast? with
  | some (_, value) => ⟨block.span.start, (value.span?.getD block.span).stop⟩
  | none => block.span

/-- The table that a block makes, out of what is already known of it. -/
def table (block : HeaderBlock) (known : Entries) : Except Nat Node := do
  return .table .header (some block.extent) (← block.pairs.foldlM Entries.enter known)

/-- Adds a block's table to the table it belongs to: as the next of a sequence, or
under a name that is free or whose table is implicit so far. -/
def place (block : HeaderBlock) (known : Entries → Option Node) (entries : Entries) :
    Option Entries :=
  let key := block.path.key
  match entries.find? key.name, block.repeated with
  | none, true => do return entries ++ [(key, .tables [← known []] block.extent)]
  | some (.tables elements span), true => do
    return entries.replace key.name
      (.tables (elements ++ [← known []]) ⟨span.start, block.extent.stop⟩)
  | none, false => do return entries ++ [(key, ← known [])]
  | some (.table .implicit _ inner), false => do
    return entries.erase key.name ++ [(key, ← known inner)]
  | _, _ => none

/-- Adds a block to a document. -/
def add (block : HeaderBlock) (document : Entries) : Except Nat Entries :=
  match document.within (block.place fun known => (block.table known).toOption)
    block.path.parents with
  | some document => .ok document
  | none => .error block.path.key.span.start

end HeaderBlock

/-- The document that a text spells, or the offset at which it goes wrong. -/
def parse (text : String) : Except Nat Entries := do
  let (lines, _) ← Line.scanAll { rest := text.toList }
  let (pairs, blocks) := blocks lines
  let document ← pairs.foldlM Entries.enter []
  blocks.foldlM (fun document block => block.add document) document

end ImageLaunch.Toml
