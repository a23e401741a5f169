import ImageLaunch.CommandLine.UsageError
import ImageLaunch.Text.Similarity

/-!
# ImageLaunch.CommandLine.Matching

Reading the arguments of one command, from left to right.

1. Before the first trailing argument, `--` ends the options, once; everything
   after the first trailing argument is taken as it is.
2. A value may be attached to its option or follow it.  A subject that has its
   value is read when the next argument settles it, so an unknown argument is
   reported before a bad value in front of it, and everything else after.
3. An option that waits for a value takes the next plain argument.
4. Where the next plain argument would be a trailing one, an unknown long option,
   or a cluster with a letter that is no option, counts as plain.
5. At the end, options that exclude each other are reported first, then what is
   missing.
-/

namespace ImageLaunch.CommandLine

/-- The settings of an accepted command line, in the order given, and the
trailing arguments. -/
structure Matches (σ : Type) where
  settings : List σ
  trailing : List Bytes
  deriving DecidableEq, Repr

/-- Where the reading stands. -/
structure State (σ : Type) where
  /-- What has been given, in order, with its setting unless it was refused. -/
  given : List (Subject σ × Option σ) := []
  /-- What is to be settled next: a subject and its value, if that has come. -/
  pending : Option (Subject σ × Option Bytes) := none
  operandTaken : Bool := false
  escaped : Bool := false

namespace State

variable {σ : Type}

/-- The subject has been given. -/
def has (state : State σ) (subject : Subject σ) : Bool :=
  state.given.any fun (other, _) => other.same subject

/-- The subjects given so far. -/
def subjects (state : State σ) : List (Subject σ) := state.given.map (·.1)

/-- An option waits for its value. -/
def awaiting (state : State σ) : Option (Subject σ) :=
  match state.pending with
  | some (subject, none) => some subject
  | _ => none

/-- Enters a subject with the outcome of reading it.  A second occurrence takes
the first one away and is a problem of its own. -/
def enter (state : State σ) (subject : Subject σ) (outcome : Except Problem σ) :
    State σ × Option Problem :=
  if state.has subject then
    ({ state with given := state.given.filter fun (other, _) => !other.same subject },
      some (.repeated subject.shown))
  else match outcome with
    | .ok setting => ({ state with given := state.given ++ [(subject, some setting)] }, none)
    | .error problem => ({ state with given := state.given ++ [(subject, none)] }, some problem)

end State

/-- The problem that a fault in a value makes. -/
def ValueFault.problem (fault : ValueFault) (shown : String) : Problem :=
  match fault with
  | .empty => .noValue shown
  | .notText => .notText
  | .refused value reason => .invalidValue value shown reason

/-- Reads a value for a subject. -/
def Subject.readValue {σ : Type} (subject : Subject σ) (value : Bytes) : Except Problem σ :=
  match subject with
  | .option spec =>
    match spec.effect with
    | .value _ read => (read value).mapError (·.problem spec.shown)
    | .set setting => .ok setting
    | .help | .version => .error (.noValue spec.shown)
  | .operand spec => (spec.read value).mapError (·.problem spec.shown)

/-- Settles what is pending; the state goes on from there even if that is a
problem. -/
def State.settle {σ : Type} (state : State σ) : State σ × Option Problem :=
  match state.pending with
  | none => (state, none)
  | some (subject, none) => ({ state with pending := none }, some (.noValue subject.shown))
  | some (subject, some value) =>
    { state with pending := none }.enter subject (subject.readValue value)

namespace Command

variable {σ : Type} (command : Command σ) (calledBy : String)

/-- Fails with the usage line that mentions no option. -/
def fail {α : Type} (problem : Problem) : Except UsageError α :=
  .error { problem := problem, usage := command.usage calledBy [] }

/-- Goes on with a state unless there is a problem. -/
def proceed : State σ × Option Problem → Except UsageError (State σ)
  | (state, none) => .ok state
  | (_, some problem) => command.fail calledBy problem

/-- Settles what is pending, and fails if that is a problem. -/
def settled (state : State σ) : Except UsageError (State σ) :=
  command.proceed calledBy state.settle

/-- The next plain argument would be a trailing one. -/
def trailingIsNext (state : State σ) : Bool :=
  command.trailing.isSome && (command.operand.isNone || state.operandTaken)

/-- The command takes arguments by their place. -/
def hasOperands : Bool := command.operand.isSome || command.trailing.isSome

/-- Gives an option that has no value, or whose value is attached to it. -/
def give (state : State σ) (spec : OptionSpec σ) (value : Bytes) :
    Except UsageError (State σ) := do
  let state ← command.settled calledBy state
  match spec.effect with
  | .help => command.fail calledBy (.help (command.help calledBy))
  | .version => command.fail calledBy (.version command.version)
  | _ =>
    let subject := Subject.option spec
    command.proceed calledBy (state.enter subject (subject.readValue value))

/-- Lets an option wait for its value. -/
def await (state : State σ) (spec : OptionSpec σ) : Except UsageError (State σ) := do
  let state ← command.settled calledBy state
  return { state with pending := some (.option spec, none) }

/-! ## Long options -/

/-- The option with a long name. -/
def findLong (long : Bytes) : Option (OptionSpec σ) :=
  command.options.find? fun spec => Bytes.ofString spec.long = long

/-- Refuses a long option that is not known. -/
def unknownLong {α : Type} (state : State σ) (long : Bytes) : Except UsageError α :=
  let state := state.settle.1
  let shown := Text.Utf8.lossy long
  let similar := (Text.alike shown (command.options.map (·.long))).getLast?
  let asValue := command.hasOperands && (similar.isNone || command.trailing.isSome)
  let tips := similar.toList.map Tip.similarOption ++
    if asValue then [Tip.asValue ("--" ++ shown)] else []
  let suggested := match similar with
    | some long => command.findLong (Bytes.ofString long)
    | none => none
  .error {
    problem := .unknown ("--" ++ shown) tips
    usage := command.usage calledBy (state.subjects ++ suggested.toList.map Subject.option) }

/-- Reads a long option; nothing if it counts as a plain argument. -/
def readLong (state : State σ) (long : Bytes) (attached : Option Bytes) :
    Except UsageError (Option (State σ)) :=
  match command.findLong long with
  | some spec =>
    match spec.effect, attached with
    | .value _ _, some value => some <$> command.give calledBy state spec value
    | .value _ _, none => some <$> command.await calledBy state spec
    | _, some value =>
      .error {
        problem := .unneededValue (Text.Utf8.lossy value) spec.shown
        usage := if state.given.isEmpty then command.usage calledBy [.option spec]
          else command.choiceUsage calledBy spec }
    | _, none => some <$> command.give calledBy state spec []
  | none =>
    if (Text.Utf8.decode? long).isSome ∧ command.trailingIsNext state then .ok none
    else command.unknownLong calledBy state long

/-! ## Clusters of short options -/

/-- The option with a letter. -/
def findShort (letter : UInt8) : Option (OptionSpec σ) :=
  command.options.find? fun spec => spec.short.any fun c => c.toNat = letter.toNat

/-- The first letter of what is left of a cluster, or all of it if that is no
character. -/
def shownLetter (letters : Bytes) : String :=
  match Text.Utf8.pieces letters with
  | .char c _ :: _ => String.ofList ['-', c]
  | _ => "-" ++ Text.Utf8.lossy letters

/-- Reads a cluster, letter by letter; an option that takes a value takes the
rest, less one equals sign. -/
def readLetters (state : State σ) : Bytes → Except UsageError (State σ)
  | [] => .ok state
  | letter :: rest =>
    match command.findShort letter with
    | none =>
      let shown := shownLetter (letter :: rest)
      command.fail calledBy
        (.unknown shown (if command.hasOperands then [.asValue shown] else []))
    | some spec =>
      match spec.effect, rest with
      | .value _ _, [] => command.await calledBy state spec
      | .value _ _, 0x3D :: value => command.give calledBy state spec value
      | .value _ _, value => command.give calledBy state spec value
      | _, _ => do
        let state ← command.give calledBy state spec []
        readLetters state rest

/-- Reads a cluster; nothing if it counts as a plain argument. -/
def readShort (state : State σ) (letters : Bytes) : Except UsageError (Option (State σ)) :=
  if command.trailingIsNext state ∧ letters.any fun letter => (command.findShort letter).isNone then
    .ok none
  else some <$> command.readLetters calledBy state letters

/-! ## The end -/

/-- The two are options that exclude each other. -/
def excludes (first second : Subject σ) : Bool :=
  match first, second with
  | .option first, .option second =>
    command.conflicts.contains (first.long, second.long) ||
      command.conflicts.contains (second.long, first.long)
  | _, _ => false

/-- The first two given options that exclude each other, in the order given. -/
def conflict? (state : State σ) : Option (Subject σ × Subject σ) :=
  state.subjects.findSome? fun first =>
    (state.subjects.find? fun second => command.excludes first second).map (first, ·)

/-- What has to be given and was not, in the order of declaration. -/
def missing (state : State σ) : List (Subject σ) :=
  let needed := command.requiredOptions.map Subject.option ++
    command.operand.toList.map Subject.operand
  needed.filter fun subject => !state.has subject

/-- Settles the last value and checks what was given as a whole. -/
def finish (state : State σ) (trailing : List Bytes) : Except UsageError (Matches σ) := do
  let state ← command.settled calledBy state
  let given := state.subjects
  match command.conflict? state with
  | some (first, second) =>
    .error {
      problem := .conflict first.shown second.shown
      usage := command.usage calledBy (given.filter fun subject => !subject.same second)
        (!trailing.isEmpty) }
  | none =>
    match command.missing state with
    | [] => return ⟨state.given.filterMap (·.2), trailing⟩
    | missing =>
      .error {
        problem := .missing (missing.map (·.shown))
        usage := command.usage calledBy (given ++ missing) }

/-! ## The arguments in turn -/

/-- What an argument is, while options are still read. -/
inductive Shape
  | escape
  | long (long : Bytes) (attached : Option Bytes)
  | short (letters : Bytes)
  | plain

/-- Tells the shape of an argument; a lone hyphen is plain. -/
def Shape.of : Bytes → Shape
  | [0x2D, 0x2D] => .escape
  | 0x2D :: 0x2D :: body => .long (Bytes.cutAt 0x3D body).1 (Bytes.cutAt 0x3D body).2
  | [0x2D] => .plain
  | 0x2D :: letters => .short letters
  | _ => .plain

/-- What one argument does: the state goes on, it is refused, or it starts the
trailing arguments. -/
inductive Step (σ : Type)
  | next (state : State σ)
  | trail (state : State σ)

/-- Takes an argument by its place. -/
def takeOperand (state : State σ) (argument : Bytes) : Except UsageError (Step σ) :=
  match command.operand, state.operandTaken with
  | some spec, false => do
    let state ← command.settled calledBy state
    return .next { state with pending := some (.operand spec, some argument), operandTaken := true }
  | _, _ =>
    if command.trailing.isSome then do return .trail (← command.settled calledBy state)
    else
      let shown := Text.Utf8.lossy argument
      command.fail calledBy (.unknown shown [])

/-- Takes a plain argument: as the value that is waited for, or by its place. -/
def takePlain (state : State σ) (argument : Bytes) : Except UsageError (Step σ) :=
  match state.awaiting with
  | some subject => .ok (.next { state with pending := some (subject, some argument) })
  | none => command.takeOperand calledBy state argument

/-- Goes on from what an option has left, or takes an argument that counts as plain. -/
def orPlain (state : State σ) (argument : Bytes) :
    Except UsageError (Option (State σ)) → Except UsageError (Step σ)
  | .error error => .error error
  | .ok (some state) => .ok (.next state)
  | .ok none => command.takePlain calledBy state argument

/-- Reads one argument. -/
def step (state : State σ) (argument : Bytes) : Except UsageError (Step σ) :=
  if state.escaped then command.takeOperand calledBy state argument
  else match Shape.of argument with
    | .escape => .ok (.next { state with escaped := true })
    | .long long attached =>
      command.orPlain calledBy state argument (command.readLong calledBy state long attached)
    | .short letters =>
      command.orPlain calledBy state argument (command.readShort calledBy state letters)
    | .plain => command.takePlain calledBy state argument

/-- Reads the arguments that are left. -/
def matchFrom (state : State σ) : List Bytes → Except UsageError (Matches σ)
  | [] => command.finish calledBy state []
  | argument :: rest => do
    match ← command.step calledBy state argument with
    | .next state => matchFrom state rest
    | .trail state => command.finish calledBy state (argument :: rest)

/-- Reads the arguments of a command that is called by the given words. -/
def parse (arguments : List Bytes) : Except UsageError (Matches σ) :=
  command.matchFrom calledBy {} arguments

end Command

end ImageLaunch.CommandLine
