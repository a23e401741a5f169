import ImageLaunch.Toml.Node

/-!
# ImageLaunch.Toml.Value

Reading keys and values.  An array may run over lines and end in a comma; an inline
table may do neither.  Both may hold values of both kinds, to a fixed depth.
-/

namespace ImageLaunch.Toml

open Scan

/-- How deep arrays and inline tables may nest, and how many parts of a dotted key
may lead to the last. -/
def depthLimit : Nat := 79

/-! ## Keys -/

/-- A character of a key without quotes. -/
def Key.isBare (c : Char) : Bool := c.isAlphanum || c = '_' || c = '-'

/-- One part of a key. -/
def Key.scan : Scan Key := do
  let (name, span) ← spanned do
    if ← sees "\"" then Quoted.basic
    else if ← sees "'" then Quoted.literal
    else return String.ofList (← takeSome Key.isBare)
  return ⟨name, span⟩

/-- A dotted key, with the blanks around each part. -/
def Path.scan : Scan Path := do
  blanks
  let first ← Key.scan
  blanks
  let more ← collect do
    if ← accept "." then
      blanks
      let key ← Key.scan
      blanks
      return some key
    else return none
  if depthLimit < more.length + 1 then fail
  else match more.getLast? with
    | none => return ⟨[], first⟩
    | some last => return ⟨first :: more.dropLast, last⟩

/-! ## Values -/

/-- A value without parts. -/
def Scalar.scan : Scan Scalar := do
  match ← peek with
  | some '\x22' | some '\x27' => return .text (← Quoted.text)
  | some 't' => expect "true"; return .boolean true
  | some 'f' => expect "false"; return .boolean false
  | some _ =>
    if ← Moment.isNext then
      Moment.moment
      return .moment
    else return .number (← Number.number)
  | none => fail

/-- An array, given how to read an element. -/
def Node.scanArray (element : Scan Node) : Scan Node := do
  let (elements, span) ← spanned do
    expect "["
    collect do
      gaps
      if ← accept "]" then return none
      else
        let found ← element
        gaps
        unless ← sees "]" do expect ","
        return some found
  return .array elements span

/-- A key with its value, given how to read that. -/
def Node.scanPair (element : Scan Node) : Scan (Path × Node) := do
  let path ← Path.scan
  expect "="
  blanks
  let value ← element
  return (path, value)

/-- Enters a pair; a key that may not be added is a failure at its place. -/
def Entries.enter (entries : Entries) (pair : Path × Node) : Except Nat Entries :=
  match entries.assign pair.1.key pair.2 pair.1.parents with
  | some entries => .ok entries
  | none => .error pair.1.key.span.start

/-- An inline table, given how to read a value. -/
def Node.scanInline (element : Scan Node) : Scan Node := do
  let (pairs, span) ← spanned do
    expect "\x7b"
    blanks
    if ← accept "\x7d" then return []
    else
      let first ← Node.scanPair element
      blanks
      let more ← collect do
        if ← accept "," then
          let pair ← Node.scanPair element
          blanks
          return some pair
        else return none
      expect "\x7d"
      return first :: more
  let entries ← StateT.lift (pairs.foldlM Entries.enter [])
  return .table .inline (some span) entries

/-- A value with at most so many levels of arrays and inline tables. -/
def Node.scan : Nat → Scan Node
  | 0 => do
    let (value, span) ← spanned Scalar.scan
    return .scalar value span
  | depth + 1 => do
    match ← peek with
    | some '[' => Node.scanArray (Node.scan depth)
    | some '{' => Node.scanInline (Node.scan depth)
    | _ =>
      let (value, span) ← spanned Scalar.scan
      return .scalar value span

end ImageLaunch.Toml
