import ImageLaunch.Numeral

/-!
# ImageLaunch.Host.Arithmetic

The expressions of the shell: whole numbers of 64 bits, names of variables, signs,
parentheses, operators on two values, and the choice `a ? b : c`.  An operator binds
by its rank, and equal ranks from the left.
-/

namespace ImageLaunch.Host.Arithmetic

/-- What is wrong with an expression. -/
inductive Fault
  | expectingPrimary
  | expectingEnd
  | divisionByZero
  /-- A variable holds no number. -/
  | badNumber (text : String)
  deriving DecidableEq, Repr

/-- The number that 64 bits make of a whole number. -/
def wrap (n : Int) : Int := Int.bmod n UInt64.size

/-- Operators on two values with their ranks, longer ones first. -/
def operators : List (String × Nat) := [
  ("||", 1), ("&&", 2), ("==", 6), ("!=", 6), ("<=", 7), (">=", 7), ("<<", 8), (">>", 8),
  ("|", 3), ("^", 4), ("&", 5), ("<", 7), (">", 7), ("+", 9), ("-", 9), ("*", 10), ("/", 10),
  ("%", 10)]

/-- A truth as a number. -/
def truth (b : Bool) : Int := if b then 1 else 0

/-- Two numbers as patterns of bits. -/
def bitwise (f : UInt64 → UInt64 → UInt64) (a b : Int) : Int :=
  wrap (f (UInt64.ofInt a) (UInt64.ofInt b)).toNat

/-- What an operator makes of two values. -/
def apply (operator : String) (a b : Int) : Except Fault Int :=
  match operator with
  | "||" => .ok (truth (a ≠ 0 || b ≠ 0))
  | "&&" => .ok (truth (a ≠ 0 && b ≠ 0))
  | "==" => .ok (truth (a = b))
  | "!=" => .ok (truth (a ≠ b))
  | "<=" => .ok (truth (a ≤ b))
  | ">=" => .ok (truth (b ≤ a))
  | "<" => .ok (truth (a < b))
  | ">" => .ok (truth (b < a))
  | "|" => .ok (bitwise (· ||| ·) a b)
  | "^" => .ok (bitwise (· ^^^ ·) a b)
  | "&" => .ok (bitwise (· &&& ·) a b)
  | "<<" => .ok (bitwise (· <<< ·) a b)
  | ">>" => .ok (wrap (a.shiftRight (b.toNat % 64)))
  | "+" => .ok (wrap (a + b))
  | "-" => .ok (wrap (a - b))
  | "*" => .ok (wrap (a * b))
  | "/" => if b = 0 then .error .divisionByZero else .ok (wrap (a.tdiv b))
  | _ => if b = 0 then .error .divisionByZero else .ok (a.tmod b)

/-- A number in writing: hexadecimal after `0x`, octal after `0`, and else decimal. -/
def number? (digits : List Char) : Option Int :=
  let value (base : Nat) (digits : List Char) : Option Int :=
    if digits.isEmpty then none
    else digits.foldl (fun value c => do
      let value ← value
      let digit ← (List.range base).find? fun n => Nat.digitChar n = c.toLower
      return value * base + digit) (some 0)
  match digits with
  | '0' :: 'x' :: rest | '0' :: 'X' :: rest => value 16 rest
  | '0' :: rest => if rest.isEmpty then some 0 else value 8 rest
  | digits => value 10 digits

/-- A number with a sign at will. -/
def signed? : List Char → Option Int
  | '-' :: digits => (number? digits).map (- ·)
  | '+' :: digits => number? digits
  | digits => number? digits

/-- Leaves out blanks. -/
def skipBlanks (text : List Char) : List Char :=
  text.dropWhile fun c => c = ' ' || c = '\t' || c = '\n'

/-- The operator that comes next, with its rank and what follows. -/
def operator? (text : List Char) : Option (String × Nat × List Char) :=
  (operators.find? fun (name, _) => name.toList.isPrefixOf text).map fun (name, rank) =>
    (name, rank, text.drop name.length)

/-- The value of a name: nothing counts as zero. -/
def valueOf (lookup : String → Option String) (name : String) : Except Fault Int :=
  let text := (lookup name).getD ""
  if text = "" then .ok 0
  else match signed? text.toList with
    | some n => .ok (wrap n)
    | none => .error (.badNumber text)

mutual

/-- Reads a value with its signs. -/
def primary (lookup : String → Option String) :
    Nat → List Char → Except Fault (Int × List Char)
  | 0, _ => .error .expectingPrimary
  | fuel + 1, text => do
    match skipBlanks text with
    | '(' :: rest =>
      let (value, rest) ← expression lookup fuel rest
      match skipBlanks rest with
      | ')' :: rest => return (value, rest)
      | _ => .error .expectingPrimary
    | '-' :: rest =>
      let (value, rest) ← primary lookup fuel rest
      return (wrap (- value), rest)
    | '+' :: rest => primary lookup fuel rest
    | '!' :: rest =>
      let (value, rest) ← primary lookup fuel rest
      return (truth (value = 0), rest)
    | '~' :: rest =>
      let (value, rest) ← primary lookup fuel rest
      return (- value - 1, rest)
    | c :: rest =>
      let word := (c :: rest).takeWhile fun c => c.isAlphanum || c = '_'
      let rest := (c :: rest).drop word.length
      if c.isDigit then
        match number? word with
        | some n => return (wrap n, rest)
        | none => .error .expectingEnd
      else if word.isEmpty then .error .expectingPrimary
      else return (← valueOf lookup (String.ofList word), rest)
    | [] => .error .expectingPrimary

/-- Reads on after a value, as long as operators of the rank or above come. -/
def operation (lookup : String → Option String) :
    Nat → Nat → Int → List Char → Except Fault (Int × List Char)
  | 0, _, _, _ => .error .expectingPrimary
  | fuel + 1, least, left, text =>
    match operator? (skipBlanks text) with
    | some (operator, rank, rest) =>
      if rank < least then .ok (left, text)
      else do
        let (right, rest) ← primary lookup fuel rest
        let (right, rest) ← operation lookup fuel (rank + 1) right rest
        operation lookup fuel least (← apply operator left right) rest
    | none => .ok (left, text)

/-- Reads an expression. -/
def expression (lookup : String → Option String) :
    Nat → List Char → Except Fault (Int × List Char)
  | 0, _ => .error .expectingPrimary
  | fuel + 1, text => do
    let (left, rest) ← primary lookup fuel text
    let (value, rest) ← operation lookup fuel 0 left rest
    match skipBlanks rest with
    | '?' :: rest =>
      let (first, rest) ← expression lookup fuel rest
      match skipBlanks rest with
      | ':' :: rest =>
        let (second, rest) ← expression lookup fuel rest
        return (if value ≠ 0 then first else second, rest)
      | _ => .error .expectingPrimary
    | rest => return (value, rest)

end

/-- The value of an expression; a name stands for the number that its variable holds. -/
def evaluate (lookup : String → Option String) (text : String) : Except Fault Int := do
  let chars := text.toList
  if (skipBlanks chars).isEmpty then return 0
  let (value, rest) ← expression lookup (2 * chars.length + 2) chars
  if (skipBlanks rest).isEmpty then return value else .error .expectingEnd

/-- The fault in words. -/
def Fault.message (text : String) : Fault → String
  | .expectingPrimary => "arithmetic expression: expecting primary: \"" ++ text ++ "\""
  | .expectingEnd => "arithmetic expression: expecting EOF: \"" ++ text ++ "\""
  | .divisionByZero => "arithmetic expression: division by zero: \"" ++ text ++ "\""
  | .badNumber value => "Illegal number: " ++ value

end ImageLaunch.Host.Arithmetic
