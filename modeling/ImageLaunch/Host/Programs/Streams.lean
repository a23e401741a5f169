import ImageLaunch.Host.Process

/-!
# ImageLaunch.Host.Programs.Streams

Programs that read bytes and write them again: whole, in part, changed, sorted out, or
only counted.
-/

namespace ImageLaunch.Host

/-- Copies its operands, or its input, to its output. -/
def cat : Program := fun process => do
  let (options, operands) := Process.splitOptions process.args
  match options.find? (· ≠ "-u") with
  | some option => process.refuse option
  | none =>
    let (bytes, status) ← process.readEach 1 operands
    process.put bytes
    if (operands.isEmpty || operands.contains "-") && process.descriptors.input = .closed then
      process.fail 1 ("closing standard input: " ++ reason badDescriptor)
    else return status

/-! ## Parts -/

/-- What is counted in an input. -/
inductive Portion
  | bytes
  | lines

/-- How much of an input is wanted. -/
structure Amount where
  unit : Portion
  count : Nat
  /-- Counted from the first on, and not back from the last. -/
  fromStart : Bool := false

/-- Reads how much is wanted: a number, with a plus sign in front if it counts from the
start. -/
def Amount.read (unit : Portion) (text : String) : Amount :=
  match text.toList with
  | '+' :: digits => ⟨unit, (String.ofList digits).toNat?.getD 0, true⟩
  | _ => ⟨unit, text.toNat?.getD 0, false⟩

/-- Reads the options that say how much is wanted; the rest are operands. -/
def amountOf : List String → Amount × List String
  | "-c" :: count :: rest => (.read .bytes count, rest)
  | "-n" :: count :: rest => (.read .lines count, rest)
  | option :: rest =>
    let attached := String.ofList (option.toList.drop 2)
    let number (skip : Nat) := (String.ofList (option.toList.drop skip)).toNat?
    if option.startsWith "-c" then (.read .bytes attached, rest)
    else if option.startsWith "-n" then (.read .lines attached, rest)
    else match number 1 with
      | some count =>
        if option.startsWith "-" then (⟨.lines, count, false⟩, rest)
        else (⟨.lines, 10, false⟩, option :: rest)
      | none => (⟨.lines, 10, false⟩, option :: rest)
  | [] => (⟨.lines, 10, false⟩, [])

/-- The length of so many first lines. -/
def linesLength : Nat → Bytes → Nat
  | 0, _ => 0
  | _, [] => 0
  | count + 1, byte :: rest =>
    1 + if byte = 0x0A then linesLength count rest else linesLength (count + 1) rest

/-- How much is read at once by a program that looks for lines. -/
def blockSize : Nat := 8192

/-- Refuses an operand that cannot be read. -/
def cannotOpen (process : Process) (operand : String) (error : IoError) : Action Nat :=
  process.fail 1 ("cannot open '" ++ operand ++ "' for reading: " ++ reason error)

/-- Copies the first part of its input. -/
def head : Program := fun process => do
  let (amount, operands) := amountOf process.args
  let input := process.descriptors.input
  match operands with
  | [] =>
    match ← pending input with
    | .error error => process.fail 1 ("error reading 'standard input': " ++ reason error)
    | .ok bytes =>
      let (shown, taken) := match amount.unit with
        | .bytes => (amount.count, amount.count)
        | .lines =>
          let shown := linesLength amount.count bytes
          (shown, (shown + blockSize - 1) / blockSize * blockSize)
      consume input taken
      process.put (bytes.take shown)
      return 0
  | operand :: _ =>
    match ← process.read operand with
    | .error error => cannotOpen process operand error
    | .ok bytes =>
      let shown := match amount.unit with
        | .bytes => amount.count
        | .lines => linesLength amount.count bytes
      process.put (bytes.take shown)
      return 0

/-- The number of lines, the last one open or not. -/
def lineCount (bytes : Bytes) : Nat :=
  bytes.countP (· = 0x0A) + if bytes.getLast?.any (· ≠ 0x0A) then 1 else 0

/-- Copies the last part of its input. -/
def tail : Program := fun process => do
  let (amount, operands) := amountOf process.args
  let operand := operands.head?.getD "-"
  match ← process.read operand with
  | .error error => cannotOpen process operand error
  | .ok bytes =>
    let dropped := match amount with
      | ⟨.bytes, count, true⟩ => count - 1
      | ⟨.bytes, count, false⟩ => bytes.length - count
      | ⟨.lines, count, true⟩ => linesLength (count - 1) bytes
      | ⟨.lines, count, false⟩ => linesLength (lineCount bytes - count) bytes
    process.put (bytes.drop dropped)
    return 0

/-! ## Counts -/

/-- Blanks between words. -/
def isSpace (byte : UInt8) : Bool := byte = 0x20 || (0x09 ≤ byte && byte ≤ 0x0D)

/-- The number of words. -/
def wordCount (bytes : Bytes) : Nat :=
  (bytes.foldl (fun (count, inside) byte =>
    if isSpace byte then (count, false)
    else if inside then (count, true) else (count + 1, true)) (0, false)).1

/-- A number, padded on the left. -/
def padded (width number : Nat) : String :=
  let digits := Numeral.decimal number
  String.ofList (List.replicate (width - digits.length) ' ') ++ digits

/-- Counts lines, words and bytes. -/
def wc : Program := fun process => do
  let (options, operands) := Process.splitOptions process.args
  let letters := Process.letters options
  let operand := operands.head?
  match ← process.read (operand.getD "-") with
  | .error error => process.fail 1 (operand.getD "-" ++ ": " ++ reason error)
  | .ok bytes =>
    let wanted (letter : Char) := letters.isEmpty || letters.contains letter
    let counts :=
      (if wanted 'l' then [bytes.countP (· = 0x0A)] else []) ++
      (if wanted 'w' then [wordCount bytes] else []) ++
      (if wanted 'c' then [bytes.length] else [])
    let width := if counts.length = 1 then 1 else 7
    let name := match operand with
      | some operand => " " ++ operand
      | none => ""
    process.print (" ".intercalate (counts.map (padded width)) ++ name ++ "\n")
    return 0

/-! ## Changes -/

/-- The bytes of a set: escapes, ranges, and themselves. -/
def byteSet (text : String) : Bytes :=
  let rec ranges : List Char → List Char
    | low :: '-' :: high :: rest =>
      (List.range (high.toNat + 1 - low.toNat)).map (fun n => Char.ofNat (low.toNat + n)) ++
        ranges rest
    | c :: rest => c :: ranges rest
    | [] => []
  bytesOf (String.ofList (ranges (unescaped false text).1))

/-- Leaves one of several equal neighbours that are in a set. -/
def squeeze (set : Bytes) : Bytes → Bytes
  | first :: second :: rest =>
    if first = second ∧ set.contains first then squeeze set (second :: rest)
    else first :: squeeze set (second :: rest)
  | short => short

/-- Deletes, replaces or squeezes bytes. -/
def tr : Program := fun process => do
  let (options, operands) := Process.splitOptions process.args
  let letters := Process.letters options
  match ← readAll process.descriptors.input with
  | .error error => process.fail 1 ("read error: " ++ reason error)
  | .ok bytes =>
    let given := byteSet (operands.head?.getD "")
    let source := if letters.contains 'c' ∨ letters.contains 'C' then
        ((List.range 256).map UInt8.ofNat).filter fun byte => !given.contains byte
      else given
    let last := byteSet (operands.getLast?.getD "")
    if letters.contains 'd' then
      process.put (bytes.filter fun byte => !source.contains byte)
      return 0
    else match operands with
      | [_] =>
        process.put (squeeze source bytes)
        return 0
      | [_, _] =>
        let changed := bytes.map fun byte =>
          match source.idxOf? byte with
          | some place => (last[place]?.or last.getLast?).getD byte
          | none => byte
        process.put (if letters.contains 's' then squeeze last changed else changed)
        return 0
      | _ => process.fail 1 "missing operand\nTry 'tr --help' for more information."

/-- The lines of some bytes, each without its end. -/
def linesOf (bytes : Bytes) : List Bytes :=
  let lines := Bytes.splitOn 0x0A bytes
  if lines.getLast? = some [] then lines.dropLast else lines

/-- Lines, each with its end. -/
def joined (lines : List Bytes) : Bytes := lines.flatMap fun line => line ++ [0x0A]

/-- Puts lines in order. -/
def sort : Program := fun process => do
  let (options, operands) := Process.splitOptions process.args
  let letters := Process.letters options
  let (bytes, status) ← process.readEach 2 operands
  let sorted := (linesOf bytes).mergeSort fun a b => a ≤ b
  let sorted := if letters.contains 'u' then sorted.eraseReps else sorted
  process.put (joined (if letters.contains 'r' then sorted.reverse else sorted))
  return status

/-! ## Looking for something -/

/-- The line holds the text; a caret or a dollar sign ties it to the front or the end. -/
def holds (wanted line : List Char) : Bool :=
  match wanted with
  | '^' :: wanted => holdsAtFront wanted line
  | wanted => (List.range (line.length + 1)).any fun skip => holdsAtFront wanted (line.drop skip)
where
  /-- The line starts with the text. -/
  holdsAtFront (wanted line : List Char) : Bool :=
    if wanted.getLast? = some '$' then wanted.dropLast = line else wanted.isPrefixOf line

/-- Copies or counts the lines that hold a text. -/
def grep : Program := fun process => do
  let (options, operands) := Process.splitOptions process.args
  let letters := Process.letters options
  match operands with
  | [] => process.fail 2 "no pattern"
  | wanted :: operands =>
    let (bytes, status) ← process.readEach 2 operands
    let fits (line : Bytes) : Bool :=
      holds wanted.toList (wordOf line).toList != letters.contains 'v'
    let found := (linesOf bytes).filter fits
    if letters.contains 'c' then
      process.print (Numeral.decimal found.length ++ "\n")
    else if !letters.contains 'q' then
      if bytes.contains 0 && !letters.contains 'a' && !found.isEmpty then
        process.print (process.name ++ ": " ++ operands.head?.getD "(standard input)" ++
          ": binary file matches\n")
      else process.put (joined found)
    return if status ≠ 0 then status else if found.isEmpty then 1 else 0

/-- The first place where two inputs differ. -/
def firstDifference : Nat → Bytes → Bytes → Option Nat
  | _, [], [] => none
  | place, a :: as, b :: bs => if a = b then firstDifference (place + 1) as bs else some place
  | place, _, _ => some place

/-- Compares two inputs. -/
def cmp : Program := fun process => do
  let (options, operands) := Process.splitOptions process.args
  let silent := (Process.letters options).contains 's'
  let first := operands.head?.getD "-"
  let second := operands[1]?.getD "-"
  match ← process.read first, ← process.read second with
  | .ok a, .ok b =>
    match firstDifference 0 a b with
    | none => return 0
    | some place =>
      let line := Numeral.decimal ((a.take place).countP (· = 0x0A) + 1)
      if silent then return 1
      else if place < a.length ∧ place < b.length then
        process.print (first ++ " " ++ second ++ " differ: byte " ++
          Numeral.decimal (place + 1) ++ ", line " ++ line ++ "\n")
        return 1
      else
        let short := if place < a.length then second else first
        process.fail 1 ("EOF on " ++ short ++ " after byte " ++ Numeral.decimal place ++
          ", in line " ++ line)
  | .error error, _ => if silent then return 2 else process.fail 2 (first ++ ": " ++ reason error)
  | _, .error error => if silent then return 2 else process.fail 2 (second ++ ": " ++ reason error)

/-- Shows bytes by their numbers, sixteen on a line. -/
def od : Program := fun process => do
  let (options, operands) := Process.splitOptions process.args
  let (bytes, status) ← process.readEach 1 operands
  let digit (n : Nat) := Nat.digitChar n
  let shown (byte : UInt8) : List Char :=
    if options.contains "-tx1" then [' ', digit (byte.toNat / 16), digit (byte.toNat % 16)]
    else ' ' :: (padded 3 byte.toNat).toList
  let lines := (List.range ((bytes.length + 15) / 16)).map fun (n : Nat) =>
    String.ofList (((bytes.drop (16 * n)).take 16).flatMap shown) ++ "\n"
  process.print (String.join lines)
  return status

/-! ## Files -/

/-- Replaces a file. -/
def replace (process : Process) (path : String) (bytes : Bytes) : Action Nat := do
  match (← get).files.write (bytesOf path) bytes with
  | .ok files =>
    modify fun machine => { machine with files := files }
    return 0
  | .error error => process.fail 1 (path ++ ": " ++ reason error)

/-- Copies its input to its output and to files. -/
def tee : Program := fun process => do
  match ← readAll process.descriptors.input with
  | .error error => process.fail 1 ("read error: " ++ reason error)
  | .ok bytes =>
    process.put bytes
    process.args.foldlM (fun status path => return max status (← replace process path bytes)) 0

/-- Removes files. -/
def rm : Program := fun process => do
  let (options, operands) := Process.splitOptions process.args
  let forced := (Process.letters options).contains 'f'
  operands.foldlM (fun status path => do
    match (← get).files.remove (bytesOf path) with
    | .ok files =>
      modify fun machine => { machine with files := files }
      return status
    | .error error =>
      if forced && error = .notFound then return status
      else process.fail 1 ("cannot remove '" ++ path ++ "': " ++ reason error)) 0

/-- Copies one file to another. -/
def cp : Program := fun process => do
  let (_, operands) := Process.splitOptions process.args
  match operands with
  | [first, second] =>
    match ← process.read first with
    | .ok bytes => replace process second bytes
    | .error error => process.fail 1 ("cannot stat '" ++ first ++ "': " ++ reason error)
  | _ => process.fail 1 "missing file operand\nTry 'cp --help' for more information."

end ImageLaunch.Host
