import ImageLaunch.Host.Arithmetic
import ImageLaunch.Host.Process

/-!
# ImageLaunch.Host.Programs.Printing

Programs that print what they are given: words, formats, numbers in turn, and
variables.
-/

namespace ImageLaunch.Host

/-- Prints words with blanks between them, with or without a line feed at the end. -/
def printWords (escapes newline : Bool) (words : List String) : Program := fun process => do
  let text := " ".intercalate words
  let (chars, ended) := if escapes then unescaped true text else (text.toList, false)
  process.print (String.ofList chars ++ if newline && !ended then "\n" else "")
  return 0

/-- The shell's own way to print words: escapes are replaced. -/
def shellEcho : Program := fun process =>
  match process.args with
  | "-n" :: words => printWords true false words process
  | words => printWords true true words process

/-- The letters of an option that only has some of the letters `n`, `e` and `E`. -/
def echoLetters? (word : String) : Option (List Char) :=
  match word.toList with
  | '-' :: c :: letters =>
    if (c :: letters).all "neE".toList.contains then some (c :: letters) else none
  | _ => none

/-- Prints words; options in front ask for escapes to be replaced or not, and for no line
feed at the end. -/
def echo : Program := fun process =>
  let options := process.args.takeWhile fun word => (echoLetters? word).isSome
  let letters := options.flatMap fun word => (echoLetters? word).getD []
  let escapes := (letters.filter (· ≠ 'n')).getLast? = some 'e'
  printWords escapes (!letters.contains 'n') (process.args.drop options.length) process

/-! ## Formats -/

/-- A place in a format. -/
structure Directive where
  flags : List Char
  width : Nat
  precision : Option Nat
  kind : Char

/-- Reads a place after its percent sign. -/
def Directive.read (text : List Char) : Option (Directive × List Char) :=
  let flags := text.takeWhile "-+ 0#".toList.contains
  let text := text.drop flags.length
  let width := text.takeWhile Char.isDigit
  let text := text.drop width.length
  let (precision, text) := match text with
    | '.' :: rest =>
      let digits := rest.takeWhile Char.isDigit
      (some ((String.ofList digits).toNat?.getD 0), rest.drop digits.length)
    | text => (none, text)
  match text with
  | kind :: rest => some (⟨flags, (String.ofList width).toNat?.getD 0, precision, kind⟩, rest)
  | [] => none

/-- Fills a place up to its width, after the sign if it is filled with zeros. -/
def Directive.fill (place : Directive) (sign body : List Char) (zeros : Bool) : List Char :=
  let missing := place.width - (sign.length + body.length)
  if place.flags.contains '-' then sign ++ body ++ List.replicate missing ' '
  else if zeros && place.flags.contains '0' then sign ++ List.replicate missing '0' ++ body
  else List.replicate missing ' ' ++ sign ++ body

/-- The number that an argument is, as far as it is one, and what is wrong with it. -/
def numberOf (text : String) : Int × Option String :=
  match text.toList with
  | [] => (0, none)
  | '\x27' :: c :: _ | '\x22' :: c :: _ => (c.toNat, none)
  | chars =>
    let start := (List.range (chars.length + 1)).reverse.findSome? fun size =>
      (Arithmetic.signed? (chars.take size)).map (·, size)
    match start with
    | some (n, size) =>
      (n, if size = chars.length then none else some (text ++ ": not completely converted"))
    | none => (0, some (text ++ ": expected numeric value"))

/-- Digits, at least as many as the precision says. -/
def Directive.digits (place : Directive) (base n : Nat) : List Char :=
  let digits := Nat.toDigits base n
  List.replicate (place.precision.getD 1 - digits.length) '0' ++ digits

/-- A place with its argument in it, and what is wrong with the argument. -/
def Directive.filled (place : Directive) (value : String) : List Char × Option String :=
  let (n, complaint) := numberOf value
  let zeros := place.precision.isNone
  let natural := (n % UInt64.size).toNat
  match place.kind with
  | 'd' | 'i' =>
    let sign := if n < 0 then ['-'] else if place.flags.contains '+' then ['+']
      else if place.flags.contains ' ' then [' '] else []
    (place.fill sign (place.digits 10 n.natAbs) zeros, complaint)
  | 'u' => (place.fill [] (place.digits 10 natural) zeros, complaint)
  | 'o' => (place.fill [] (place.digits 8 natural) zeros, complaint)
  | 'x' =>
    let mark := if place.flags.contains '#' && natural ≠ 0 then ['0', 'x'] else []
    (place.fill mark (place.digits 16 natural) zeros, complaint)
  | 'X' =>
    let mark := if place.flags.contains '#' && natural ≠ 0 then ['0', 'X'] else []
    (place.fill mark ((place.digits 16 natural).map Char.toUpper) zeros, complaint)
  | 'c' => (place.fill [] (value.toList.take 1) false, none)
  | kind =>
    let chars := if kind = 'b' then (unescaped true value).1 else value.toList
    (place.fill [] (chars.take (place.precision.getD chars.length)) false, none)

/-- A format filled in once: the text, the arguments that are left, and complaints. -/
def fillOnce : Nat → List Char → List String → List Char × List String × List String
  | 0, _, args => ([], args, [])
  | _, [], args => ([], args, [])
  | steps + 1, '%' :: '%' :: rest, args =>
    let (more, args) := fillOnce steps rest args
    ('%' :: more, args)
  | steps + 1, '%' :: text, args =>
    match Directive.read text with
    | some (place, rest) =>
      let (shown, complaint) := place.filled (args.head?.getD "")
      let (more, args, complaints) := fillOnce steps rest args.tail
      (shown ++ more, args, complaint.toList ++ complaints)
    | none => ('%' :: text, args, [])
  | steps + 1, c :: rest, args =>
    let (more, args) := fillOnce steps rest args
    (c :: more, args)

/-- A format filled in as often as there are arguments for it, once at least. -/
def fillAll (format : List Char) : Nat → List String → List Char × List String
  | 0, _ => ([], [])
  | rounds + 1, args =>
    let (shown, left, complaints) := fillOnce (format.length + 1) format args
    if left.isEmpty || left.length = args.length then (shown, complaints)
    else
      let (more, later) := fillAll format rounds left
      (shown ++ more, complaints ++ later)

/-- Prints its arguments under a format. -/
def printf : Program := fun process => do
  match process.args with
  | [] => process.fail 2 "usage: printf format [arg ...]"
  | format :: args =>
    let (text, complaints) := fillAll (unescaped false format).1 (args.length + 1) args
    process.print (String.ofList text)
    complaints.foldlM (fun _ complaint => process.fail 1 complaint) 0

/-! ## Numbers and variables -/

/-- Prints numbers in turn, from one or from the first argument. -/
def seq : Program := fun process => do
  let (first, last) := match process.args with
    | [last] => (1, last.toInt?.getD 0)
    | [first, last] => (first.toInt?.getD 1, last.toInt?.getD 0)
    | _ => (1, 0)
  let count := (last + 1 - first).toNat
  process.print (String.join ((List.range count).map fun (n : Nat) =>
    Numeral.signed (first + n) ++ "\n"))
  return 0

/-- Prints variables with their names. -/
def env : Program := fun process => do
  process.print (String.join (process.environment.map fun (name, value) =>
    name ++ "=" ++ value ++ "\n"))
  return 0

/-- Prints the values of variables; fails if one is not set. -/
def printenv : Program := fun process => do
  if process.args.isEmpty then env process
  else process.args.foldlM (fun status name => do
    match process.environment.lookup name with
    | some value =>
      process.print (value ++ "\n")
      return status
    | none => return 1) 0

/-- Prints the last component of a path. -/
def basename : Program := fun process => do
  match process.args with
  | path :: _ =>
    process.print (((path.splitOn "/").filter (· ≠ "")).getLast?.getD "/" ++ "\n")
    return 0
  | [] => process.fail 1 "missing operand\nTry 'basename --help' for more information."

end ImageLaunch.Host
