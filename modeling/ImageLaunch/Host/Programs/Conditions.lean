import ImageLaunch.Host.Arithmetic
import ImageLaunch.Host.Process

/-!
# ImageLaunch.Host.Programs.Conditions

The program that tests conditions: on words, on numbers, on files, and on several of
them at once.
-/

namespace ImageLaunch.Host

/-- A comparison of two numbers. -/
def compare? (operator : String) (left right : Int) : Option Bool :=
  match operator with
  | "-eq" => some (left = right)
  | "-ne" => some (left ≠ right)
  | "-lt" => some (left < right)
  | "-le" => some (left ≤ right)
  | "-gt" => some (right < left)
  | "-ge" => some (right ≤ left)
  | _ => none

/-- The decimal number that a word is, blanks around it apart; it has to fit in 64 bits. -/
def decimalOf (word : String) : Except String Int :=
  let blank := fun c => c = ' ' || ('\t' ≤ c && c ≤ '\r')
  let trimmed := ((word.toList.dropWhile blank).reverse.dropWhile blank).reverse
  let (sign, digits) : Int × List Char := match trimmed with
    | '-' :: digits => (-1, digits)
    | '+' :: digits => (1, digits)
    | digits => (1, digits)
  let size := digits.foldl (fun (n : Nat) c => 10 * n + (c.toNat - 48)) 0
  if digits.isEmpty || !digits.all Char.isDigit || size > Int64.minValue.toInt.natAbs ||
      (sign = 1 && size = Int64.minValue.toInt.natAbs) then
    .error ("Illegal number: " ++ word)
  else .ok (sign * (size : Int))

/-- A test of one word. -/
def unary? (files : Files) (operator word : String) : Option Bool :=
  let entry := (files.opened (bytesOf word)).toOption
  match operator with
  | "-n" => some (word ≠ "")
  | "-z" => some (word = "")
  | "-e" | "-r" | "-w" | "-O" | "-G" => some entry.isSome
  | "-f" => some (entry matches some (.file _))
  | "-d" => some (entry matches some .directory)
  | "-s" => some (match entry with
    | some (.file contents) => !contents.isEmpty
    | other => other.isSome)
  | "-x" => some (entry matches some .directory)
  | "-L" | "-h" | "-p" | "-S" | "-b" | "-c" | "-u" | "-g" | "-k" | "-t" => some false
  | _ => none

/-- What a word of a condition stands for. -/
inductive Role where
  | negation
  | conjunction
  | disjunction
  | opening
  | closing
  | unary
  | binary
  | operand
  | missing
deriving DecidableEq

/-- Whether a word compares the words around it. -/
def isBinary (word : String) : Bool :=
  ["=", "!=", "<", ">", "-nt", "-ot", "-ef"].contains word || (compare? word 0 0).isSome

/-- What the first of some words stands for: a test of one word needs a word to test, and
is a plain word itself where it is compared with another. -/
def roleOf : List String → Role
  | [] => .missing
  | word :: rest =>
    match word with
    | "!" => .negation
    | "-a" => .conjunction
    | "-o" => .disjunction
    | "(" => if rest.isEmpty then .operand else .opening
    | ")" => .closing
    | _ =>
      if isBinary word then .binary
      else if (unary? Files.empty word "").isSome then
        match rest with
        | [] => .operand
        | [_] => .unary
        | next :: _ => if isBinary next then .operand else .unary
      else .operand

/-- Compares two words. -/
def binary (files : Files) (left operator right : String) : Except String Bool :=
  match operator with
  | "=" => .ok (left = right)
  | "!=" => .ok (left ≠ right)
  | "<" => .ok (left < right)
  | ">" => .ok (right < left)
  | "-ef" => .ok (left = right && (files.opened (bytesOf left)).toOption.isSome)
  | "-nt" | "-ot" => .ok false
  | _ => do
    let left ← decimalOf left
    return (compare? operator left (← decimalOf right)).getD false

/-- How much of a condition is read at once. -/
inductive Extent where
  | alternatives
  | all
  | negated
deriving DecidableEq

/-- The truth of the condition at the start of some words, and the words from its last one
on. -/
def truthOf (files : Files) : Nat → Extent → List String → Except String (Bool × List String)
  | 0, _, words => .ok (false, words)
  | steps + 1, .alternatives, words => do
    let (truth, words) ← truthOf files steps .all words
    if roleOf words.tail = .disjunction then
      let (other, words) ← truthOf files steps .alternatives (words.drop 2)
      return (truth || other, words)
    else return (truth, words)
  | steps + 1, .all, words => do
    let (truth, words) ← truthOf files steps .negated words
    if roleOf words.tail = .conjunction then
      let (other, words) ← truthOf files steps .all (words.drop 2)
      return (truth && other, words)
    else return (truth, words)
  | steps + 1, .negated, words =>
    match roleOf words, words with
    | .negation, word :: rest =>
      if rest.isEmpty then .ok (true, [word])
      else do
        let (truth, words) ← truthOf files steps .negated rest
        return (!truth, words)
    | .opening, _ :: rest =>
      if roleOf rest = .closing then .ok (false, rest)
      else do
        let (truth, words) ← truthOf files steps .alternatives rest
        if roleOf words.tail = .closing then return (truth, words.tail)
        else throw "closing paren expected"
    | .unary, operator :: word :: rest =>
      .ok ((unary? files operator word).getD false, word :: rest)
    | _, [] => .ok (false, [])
    | _, word :: rest =>
      match roleOf rest, rest with
      | .binary, operator :: right :: rest => do
        return (← binary files word operator right, right :: rest)
      | .binary, operator :: [] => .error (operator ++ ": argument expected")
      | _, _ => .ok (word ≠ "", word :: rest)

/-- The truth of a whole condition, or what is wrong with it. Three words with a comparison
in the middle are that comparison, whatever the words; of four at most, brackets around the
others and a negation in front come first. -/
def condition (files : Files) (words : List String) : Except String Bool :=
  let compared := words.length = 3 && isBinary (words.getD 1 "")
  let few := (words.length = 3 || words.length = 4) && !compared
  match words with
  | [] => .ok false
  | first :: rest =>
    if compared then binary files first (words.getD 1 "") (words.getD 2 "")
    else if few && first = "(" && rest.getLast? = some ")" then whole rest.dropLast
    else if few && first = "!" then (condition files rest).map (!·)
    else whole words
where
  /-- The truth of the words together, none left over. -/
  whole (words : List String) : Except String Bool := do
    let (truth, words) ← truthOf files (4 * words.length + 4) .alternatives words
    match words with
    | "" :: _ :: _ => throw "unexpected operator"
    | last :: _ :: _ => throw (last ++ ": unexpected operator")
    | _ => return truth

/-- Tests a condition; in brackets, the last argument has to close them. -/
def test (bracket : Bool) : Program := fun process => do
  if bracket && process.args.getLast? ≠ some "]" then process.fail 2 "missing ]"
  else
    match condition (← get).files (if bracket then process.args.dropLast else process.args) with
    | .ok true => return 0
    | .ok false => return 1
    | .error complaint => process.fail 2 complaint

end ImageLaunch.Host
