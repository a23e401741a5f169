import ImageLaunch.Host.Shell.Redirection

/-!
# ImageLaunch.Host.Shell

Running scripts.  A script runs step by step: words are expanded, redirections
applied, and the command carried out, by the shell itself or by a program.  A script
may run others, in `$( )`, in a group, or through `sh`; how deep they nest is bounded,
and so is how often a loop turns.
-/

namespace ImageLaunch.Host

/-! ## Signals -/

/-- Signals by name, with the text for a process that one of them has ended. -/
def signals : List (String × Nat × String) := [
  ("HUP", 1, "Hangup"), ("INT", 2, ""), ("QUIT", 3, "Quit"), ("ILL", 4, "Illegal instruction"),
  ("TRAP", 5, "Trace/breakpoint trap"), ("ABRT", 6, "Aborted"), ("BUS", 7, "Bus error"),
  ("FPE", 8, "Floating point exception"), ("KILL", 9, "Killed"),
  ("USR1", 10, "User defined signal 1"), ("SEGV", 11, "Segmentation fault"),
  ("USR2", 12, "User defined signal 2"), ("PIPE", 13, ""), ("ALRM", 14, "Alarm clock"),
  ("TERM", 15, "Terminated"), ("STKFLT", 16, "Stack fault"), ("CHLD", 17, "Child exited"),
  ("CONT", 18, "Continued"), ("URG", 23, "Urgent I/O condition"),
  ("XCPU", 24, "CPU time limit exceeded"), ("XFSZ", 25, "File size limit exceeded"),
  ("VTALRM", 26, "Virtual timer expired"), ("PROF", 27, "Profiling timer expired"),
  ("WINCH", 28, "Window changed"), ("IO", 29, "I/O possible"), ("PWR", 30, "Power failure"),
  ("SYS", 31, "Bad system call")]

/-- The highest number of a signal. -/
def lastSignal : Nat := 64

/-- Signals that do nothing unless they are waited for. -/
def harmless : List Nat := [0, 17, 18, 23, 28]

/-- A signal by its name, in large or small letters, or its number; `EXIT` is the end of a
shell. -/
def signal? (text : String) : Option Nat :=
  let name := String.ofList (text.toList.map Char.toUpper)
  if name = "EXIT" then some 0
  else match signals.lookup name with
    | some (number, _) => some number
    | none => text.toNat?.filter (· ≤ lastSignal)

/-- The text for a process that a signal has ended, if a shell tells. -/
def endingText? (signal : Nat) : Option String :=
  ((signals.find? fun (_, number, _) => number = signal).map fun (_, _, text) => text).filter
    (· ≠ "")

/-- What the arguments of `kill` ask for: a signal and a process, or nothing if they make
no sense. -/
def killRequest? : List String → Except String (Nat × String)
  | ["-s", name, process] =>
    match signal? name with
    | some signal => .ok (signal, process)
    | none => .error ("invalid signal number or name: " ++ name)
  | [option, process] =>
    if option.startsWith "-" then
      match signal? (String.ofList (option.toList.drop 1)) with
      | some signal => .ok (signal, process)
      | none => .error ("Illegal option " ++ String.ofList (option.toList.take 2))
    else .ok (15, option)
  | [process] =>
    if process.startsWith "-" then .error killUsage else .ok (15, process)
  | _ => .error killUsage
where
  /-- How the command is used. -/
  killUsage : String :=
    "Usage: kill [-s sigspec | -signum | -sigspec] [pid | job]... or\nkill -l [exitstatus]"

/-! ## Programs and other shells -/

/-- Why a shell finds no program, in its words. -/
def refusalText (error : IoError) : String := if isAbsence error then "not found" else reason error

/-- The status of a shell that finds no program. -/
def refusalStatus (error : IoError) : Nat :=
  if isAbsence error || error = .nameTooLong then 127 else 126

/-- What is to be done at the end of a shell. -/
def atEnd (runner : Runner) (shell : Shell) (flow : Flow) : Action Flow := do
  match flow, shell.traps.lookup 0 with
  | .killed signal, _ => return .killed signal
  | flow, some script => do
    let status := flow.status shell.status
    let (_, last) ← runner.script { shell with status := status, traps := [] } script
    return match last with
      | .exit status => .exit status
      | .killed signal => .killed signal
      | _ => .exit status
  | flow, none => return .exit (flow.status shell.status)

/-- What `sh` is asked to run: the script, the name it goes by, and its arguments. -/
def scriptOf (called : String) (files : Files) (input : Bytes) :
    List String → Except String (String × String × List String)
  | "-c" :: script :: name :: args => .ok (script, name, args)
  | ["-c", script] => .ok (script, called, [])
  | ["-c"] => .error (called ++ ": 0: -c requires an argument")
  | [] => .ok (wordOf (input.filter (· ≠ 0)), called, [])
  | path :: args =>
    match files.contents (bytesOf path) with
    | .ok contents => .ok (wordOf (contents.filter (· ≠ 0)), path, args)
    | .error error =>
      let why := if isAbsence error then "No such file" else reason error
      .error (called ++ ": 0: cannot open " ++ path ++ ": " ++ why)

/-- Runs `sh` as a process. -/
def runSh (runner : Runner) (process : Process) : Action Flow := do
  let input ← if process.args.isEmpty then readAll process.descriptors.input else pure (.ok [])
  match scriptOf process.name (← get).files (input.toOption.getD []) process.args with
  | .error complaint =>
    say process.descriptors.errors (complaint ++ "\n")
    return .exit 2
  | .ok (script, name, args) =>
    let shell : Shell := {
      name, args, descriptors := process.descriptors
      entries := process.environment.map fun (name, value) => (name, ⟨value, true⟩) }
    let home := (← get).files.home
    let (shell, flow) ← runner.script shell script
    let flow ← atEnd runner shell flow
    modify fun machine => { machine with files := { machine.files with home := home } }
    return flow

/-- Runs a program that is a file on the host, or says that there is none.  The command
`exec` is named in a complaint; without it, a name that leads nowhere is not found,
whatever the reason. -/
def runFile (runner : Runner) (shell : Shell) (replaces : Bool) (name : String)
    (args : List String) (descriptors : Descriptors) : Action Flow := do
  match findProgram (← get).files shell.everything name with
  | .error error =>
    let command := if replaces then "exec: " else ""
    shell.complain descriptors (command ++ name ++ ": " ++ refusalText error)
    return .exit (if replaces || name.contains '/' then refusalStatus error else 127)
  | .ok found =>
    let process := shell.process name args descriptors
    match program? found with
    | some program => return .exit (← program process)
    | none => runSh runner process

/-! ## The shell's own commands -/

/-- Goes into a directory; nothing is known of the places above the one at the start. -/
def changeDirectory (files : Files) (path : String) : Except IoError Files := do
  let trail ← files.trail (bytesOf path)
  let standing ← match trail.name with
    | some name => files.enter trail.standing name
    | none => pure trail.standing
  match standing with
  | .inside components => return { files with home := components }
  | .outside => return files

/-- Reads a line, up to its end or the end of what there is: the line, and whether it had
an end. -/
def readLine (descriptors : Descriptors) (raw : Bool) : Action (Option (String × Bool)) := do
  match ← pending descriptors.input with
  | .error _ => return none
  | .ok bytes =>
    let line := bytes.takeWhile (· ≠ 0x0A)
    consume descriptors.input (line.length + 1)
    let text := wordOf (line.filter (· ≠ 0))
    let text := if raw then text else String.ofList (text.toList.filter (· ≠ '\\'))
    return some (text, line.length < bytes.length)

/-- Shares out the words of a line among some names; the last one gets the rest. -/
def shareOut (line : List Char) : List String → List (String × String)
  | [] => []
  | [name] =>
    let isBlank (c : Char) : Bool := c = ' ' || c = '\t'
    let text := (line.dropWhile isBlank).reverse.dropWhile isBlank
    [(name, String.ofList text.reverse)]
  | name :: more =>
    let isBlank (c : Char) : Bool := c = ' ' || c = '\t'
    let line := line.dropWhile isBlank
    let word := line.takeWhile fun c => !isBlank c
    (name, String.ofList word) :: shareOut (line.drop word.length) more

/-- Sets options of a shell and its arguments. -/
def setOptions (shell : Shell) : List String → Shell
  | "--" :: args => { shell with args := args }
  | word :: rest =>
    let letters := word.toList.drop 1
    if word.startsWith "-" then
      setOptions { shell with
        stopsOnFailure := shell.stopsOnFailure || letters.contains 'e'
        refusesUnset := shell.refusesUnset || letters.contains 'u' } rest
    else if word.startsWith "+" then
      setOptions { shell with
        stopsOnFailure := shell.stopsOnFailure && !letters.contains 'e'
        refusesUnset := shell.refusesUnset && !letters.contains 'u' } rest
    else { shell with args := word :: rest }
  | [] => shell

/-- Splits a word at its first equals sign. -/
def splitAssignment (word : String) : String × Option String :=
  let name := word.toList.takeWhile (· ≠ '=')
  match word.toList.drop name.length with
  | _ :: value => (String.ofList name, some (String.ofList value))
  | [] => (word, none)

/-- Exports variables, which may be set at the same time. -/
def exportAll (shell : Shell) (words : List String) : Shell :=
  words.foldl (fun shell word =>
    match splitAssignment word with
    | (name, some value) => shell.assign name value true
    | (name, none) => shell.assign name ((shell.valueOf? name).getD "") true) shell

/-- Sends a signal to the shell itself: what was trapped runs its script. -/
def deliver (runner : Runner) (shell : Shell) (signal : Nat) : Action (Shell × Flow) := do
  match shell.traps.lookup signal with
  | some "" => return ({ shell with status := 0 }, .go)
  | some script => if signal = 0 ∨ signal = 9 then return (shell, .killed signal) else
      runner.script { shell with status := 0 } script
  | none =>
    if harmless.contains signal then return ({ shell with status := 0 }, .go)
    else return (shell, .killed signal)

/-- Leaves with the status that the arguments give, or with the last one. -/
def leaveWith (shell : Shell) (descriptors : Descriptors) (command : String)
    (args : List String) (leave : Nat → Shell × Flow) : Action (Shell × Flow) := do
  match args.head? with
  | none => return leave shell.status
  | some text =>
    match text.toNat? with
    | some status => return leave status
    | none =>
      shell.complain descriptors (command ++ ": Illegal number: " ++ text)
      return (shell, .exit 2)

/-- A command that only the shell itself can carry out. -/
abbrev Special := Runner → Shell → Descriptors → List String → Action (Shell × Flow)

/-- Such commands by name. -/
def special? (name : String) : Option Special :=
  let after (shell : Shell) (status : Nat) : Shell × Flow := ({ shell with status := status }, .go)
  match name with
  | "exit" => some fun _ shell descriptors args =>
      leaveWith shell descriptors name args fun status => (shell, .exit (status % 256))
  | "return" => some fun _ shell descriptors args =>
      leaveWith shell descriptors name args fun status => ({ shell with status := status }, .back)
  | "break" => some fun _ shell _ args =>
      let loops := min shell.loops ((args.head?.bind String.toNat?).getD 1)
      return ({ shell with status := 0 }, if loops = 0 then .go else .leave loops)
  | "continue" => some fun _ shell _ args =>
      let loops := min shell.loops ((args.head?.bind String.toNat?).getD 1)
      return ({ shell with status := 0 }, if loops = 0 then .go else .next loops)
  | "kill" => some fun runner shell descriptors args => do
      match killRequest? args with
      | .error complaint =>
        shell.complain descriptors ("kill: " ++ complaint)
        return after shell 2
      | .ok (signal, process) =>
        if some process = shell.find? "$" then deliver runner shell signal
        else if process.toNat?.isSome then
          shell.complain descriptors "kill: No such process"
          return after shell 1
        else
          shell.complain descriptors ("kill: Illegal number: " ++ process)
          return after shell 2
  | "shift" => some fun _ shell descriptors args => do
      let count := (args.head?.bind String.toNat?).getD 1
      if shell.args.length < count then
        shell.complain descriptors "shift: can't shift that many"
        return (shell, .exit 2)
      else return after { shell with args := shell.args.drop count } 0
  | "set" => some fun _ shell _ args => return after (setOptions shell args) 0
  | "unset" => some fun _ shell _ args =>
      return after (shell.forget (args.filter fun word => !word.startsWith "-")) 0
  | "export" | "readonly" => some fun _ shell _ args => return after (exportAll shell args) 0
  | "local" => some fun _ shell descriptors args => do
      match shell.saved with
      | none =>
        shell.complain descriptors "local: not in a function"
        return (shell, .exit 2)
      | some saved =>
        let values := args.map splitAssignment
        let before := values.map fun (name, _) => (name, shell.entries.lookup name)
        let shell := { shell with saved := some (saved ++ before) }
        return after (shell.assignAll (values.filterMap fun (name, value) =>
          value.map (name, ·))) 0
  | "read" => some fun _ shell descriptors args => do
      let (options, names) := Process.splitOptions args
      match ← readLine descriptors ((Process.letters options).contains 'r') with
      | none => return after shell 1
      | some (line, ended) =>
        let names := if names.isEmpty then ["REPLY"] else names
        return after (shell.assignAll (shareOut line.toList names)) (if ended then 0 else 1)
  | "eval" => some fun runner shell descriptors args => do
      let outer := shell.descriptors
      let (shell, flow) ← runner.script { shell with descriptors := descriptors, status := 0 }
        (" ".intercalate args)
      return ({ shell with descriptors := outer }, flow)
  | "cd" => some fun _ shell descriptors args => do
      let path := args.head?.getD ((shell.valueOf? "HOME").getD "")
      match changeDirectory (← get).files path with
      | .ok files =>
        modify fun machine => { machine with files := files }
        return after shell 0
      | .error _ =>
        shell.complain descriptors ("cd: can't cd to " ++ path)
        return after shell 2
  | "trap" => some fun _ shell descriptors args => do
      let (action, names) := match args with
        | [name] => ("-", [name])
        | action :: names => (action, names)
        | [] => ("-", [])
      match names.find? fun name => (signal? name).isNone with
      | some name =>
        say descriptors.errors ("trap: " ++ name ++ ": bad trap\n")
        return after shell 1
      | none =>
        let numbers := names.filterMap signal?
        let kept := shell.traps.filter fun (number, _) => !numbers.contains number
        let added := if action = "-" then [] else numbers.map (·, action)
        return after { shell with traps := added ++ kept } 0
  | _ => none

/-- Carries out a command that has been expanded. -/
def carryOut (runner : Runner) (shell : Shell) (descriptors : Descriptors) (name : String)
    (args : List String) : Action (Shell × Flow) := do
  let after (status : Nat) : Shell × Flow := ({ shell with status := status }, .go)
  match shell.functions.lookup name, special? name, builtin? name with
  | some body, _, _ =>
    let inner := { shell with args, descriptors, loops := 0, saved := some [] }
    let (inner, flow) ← runner.steps inner [{ commands := [body] }]
    let outer := (inner.saved.getD []).foldr (fun (name, entry) (shell : Shell) =>
      let others := (shell.forget [name]).entries
      { shell with entries := entry.toList.map (name, ·) ++ others }) inner
    let outer := { outer with
      args := shell.args, descriptors := shell.descriptors
      loops := shell.loops, saved := shell.saved }
    return (outer, if flow = .back then .go else flow)
  | none, some special, _ => special runner shell descriptors args
  | none, none, some program =>
    return after (← program (shell.process (shell.mark ++ name) args descriptors))
  | none, none, none =>
    match name, args with
    | "exec", [] => return ({ shell with descriptors := descriptors, status := 0 }, .go)
    | "exec", name :: args => return (shell, ← runFile runner shell true name args descriptors)
    | "command", name :: args | name, args =>
      let flow ← runFile runner shell false name args descriptors
      match flow with
      | .killed signal =>
        match endingText? signal with
        | some text => say shell.descriptors.errors (text ++ "\n")
        | none => pure ()
      | _ => pure ()
      return after (flow.status 0)

/-! ## Commands -/

/-- Ends a shell with a complaint. -/
def giveUp (shell : Shell) (complaint : String) : Action (Shell × Flow) := do
  shell.complain shell.descriptors complaint
  return (shell, .exit 2)

/-- Values for variables, each expanded after the ones before it. -/
def expandAssignments (runner : Runner) (shell : Shell) (assignments : List (String × Word)) :
    Expanding (List (String × String) × Option Nat) := do
  let (_, values, status) ← assignments.foldlM (fun (shell, values, status) (name, word) => do
    let expanded ← expandText runner shell word
    let values := values ++ [(name, expanded.value)]
    return (expanded.shell.assign name expanded.value, values, expanded.status.or status))
    ((shell, [], none) : Shell × List (String × String) × Option Nat)
  return (values, status)

/-- Commands that end a script if their redirections fail. -/
def crucial : List String := [":", "break", "continue", "eval", "exec", "exit", "export",
  "readonly", "return", "set", "shift", "trap", "unset"]

/-- Runs a simple command. -/
def runSimple (runner : Runner) (shell : Shell) (simple : Simple) : Action (Shell × Flow) := do
  let shell := { shell with line := simple.line }
  match ← (expandWords runner shell simple.words).run with
  | .error complaint => giveUp shell complaint
  | .ok ⟨shell, words, last⟩ =>
    match ← (expandAssignments runner shell simple.assignments).run with
    | .error complaint => giveUp shell complaint
    | .ok (values, inner) =>
      match ← (redirectAll runner shell simple.redirects).run with
      | .error complaint =>
        shell.complain shell.descriptors complaint
        let ends := words.head?.any crucial.contains
        return ({ shell with status := 2 }, if ends then .exit 2 else .go)
      | .ok descriptors =>
        match words with
        | [] =>
          let status := (inner.or last).getD 0
          return ({ shell.assignAll values with status := status }, .go)
        | name :: args =>
          let (after, flow) ← carryOut runner (shell.assignAll values true) descriptors name args
          if values.isEmpty then return (after, flow)
          else
            let kept := shell.entries.filter fun (name, _) => values.any (·.1 = name)
            let after := after.forget (values.map (·.1))
            return ({ after with entries := kept ++ after.entries }, flow)

/-- What a loop does after a turn of its list: it goes on, or it is left. -/
def afterTurn : Flow → Option Flow
  | .go | .next 0 | .next 1 => none
  | .next (loops + 1) => some (.next loops)
  | .leave 0 | .leave 1 => some .go
  | .leave (loops + 1) => some (.leave loops)
  | flow => some flow

/-- How often a loop turns at most. -/
def turnLimit : Nat := 100000

/-- A shell that does not stop at a failure, for conditions. -/
def Shell.lenient (shell : Shell) : Shell := { shell with stopsOnFailure := false }

/-- Runs a condition. -/
def runCondition (runner : Runner) (shell : Shell) (condition : Steps) :
    Action (Shell × Flow) := do
  let (after, flow) ← runner.steps shell.lenient condition
  return ({ after with stopsOnFailure := shell.stopsOnFailure }, flow)

/-- Turns a loop. -/
def runLoop (runner : Runner) (whileFailing : Bool) (condition body : Steps) :
    Nat → Nat → Shell → Action (Shell × Flow)
  | 0, status, shell => return ({ shell with status := status }, .go)
  | turns + 1, status, shell => do
    let (shell, flow) ← runCondition runner shell condition
    match afterTurn flow with
    | some flow => return (shell, flow)
    | none =>
      if (shell.status = 0) = whileFailing then return ({ shell with status := status }, .go)
      else
        let (shell, flow) ← runner.steps shell body
        match afterTurn flow with
        | some flow => return (shell, flow)
        | none => runLoop runner whileFailing condition body turns shell.status shell

/-- Runs a list for each of some words. -/
def runEach (runner : Runner) (name : String) (body : Steps) :
    Shell → List String → Action (Shell × Flow)
  | shell, [] => return (shell, .go)
  | shell, word :: rest => do
    let (shell, flow) ← runner.steps (shell.assign name word) body
    match afterTurn flow with
    | some flow => return (shell, flow)
    | none => runEach runner name body shell rest

/-- Runs the first list whose condition succeeds. -/
def runArms (runner : Runner) (otherwise : Steps) :
    Shell → List (Steps × Steps) → Action (Shell × Flow)
  | shell, [] =>
    if otherwise.isEmpty then return ({ shell with status := 0 }, .go)
    else runner.steps shell otherwise
  | shell, (condition, body) :: rest => do
    let (shell, flow) ← runCondition runner shell condition
    if flow ≠ .go then return (shell, flow)
    else if shell.status = 0 then runner.steps shell body
    else runArms runner otherwise shell rest

/-- Runs the first list with a pattern that the text matches. -/
def runChoices (runner : Runner) (shell : Shell) (text : String) :
    List (List Word × Steps) → Action (Shell × Flow)
  | [] => return ({ shell with status := 0 }, .go)
  | (patterns, body) :: rest => do
    match ← (patterns.mapM (expandPattern runner shell wordDepth)).run with
    | .error complaint => giveUp shell complaint
    | .ok patterns =>
      if patterns.any fun pattern => pattern.accepts text.toList then
        runner.steps { shell with status := 0 } body
      else runChoices runner shell text rest

/-- Runs a list in a shell of its own. -/
def runInside (runner : Runner) (shell : Shell) (steps : Steps) : Action (Shell × Flow) := do
  let home := (← get).files.home
  let (inner, flow) ← runner.steps { shell with traps := [] } steps
  let flow ← if inner.traps.isEmpty then pure flow else atEnd runner inner flow
  modify fun machine => { machine with files := { machine.files with home := home } }
  let after := { shell with status := flow.status inner.status }
  match flow with
  | .killed signal => return (after, .killed signal)
  | _ => return (after, .go)

/-- Runs a command. -/
def runCommand (runner : Runner) (shell : Shell) : Command → Action (Shell × Flow)
  | .simple simple => runSimple runner shell simple
  | .group steps => runner.steps shell steps
  | .subshell steps => runInside runner shell steps
  | .branch arms otherwise => runArms runner otherwise shell arms
  | .loop whileFailing condition body => do
    let inner := { shell with loops := shell.loops + 1 }
    let (after, flow) ← runLoop runner whileFailing condition body turnLimit 0 inner
    return ({ after with loops := shell.loops }, flow)
  | .each name words body => do
    let runEach (runner : Runner) (name : String) (body : Steps) (inner : Shell)
        (words : List String) := do
      let inner := { inner with loops := shell.loops + 1 }
      let (after, flow) ← runEach runner name body inner words
      return ({ after with loops := shell.loops }, flow)
    match words with
    | none => runEach runner name body { shell with status := 0 } shell.args
    | some words =>
      match ← (expandWords runner shell words).run with
      | .error complaint => giveUp shell complaint
      | .ok expanded =>
        runEach runner name body { expanded.shell with status := 0 } expanded.value
  | .choice word arms => do
    match ← (expandText runner shell word).run with
    | .error complaint => giveUp shell complaint
    | .ok expanded => runChoices runner expanded.shell expanded.value arms
  | .define name body =>
    return ({ shell with functions := (name, body) :: shell.functions, status := 0 }, .go)
  | .redirected command redirects => do
    match ← (redirectAll runner shell redirects).run with
    | .error complaint =>
      shell.complain shell.descriptors complaint
      return ({ shell with status := 2 }, .go)
    | .ok descriptors =>
      let (after, flow) ← runner.steps { shell with descriptors := descriptors }
        [{ commands := [command] }]
      return ({ after with descriptors := shell.descriptors }, flow)

/-! ## Lists -/

/-- Runs the commands of a pipeline, each in a shell of its own and on what the one
before has written. -/
def runStages (runner : Runner) (shell : Shell) : List Command → Action (Shell × Flow)
  | [] => return (shell, .go)
  | [command] => runInside runner shell [{ commands := [command] }]
  | command :: rest => do
    let slot ← newSlot []
    let first := { shell with descriptors := { shell.descriptors with output := .slot slot } }
    let (_, flow) ← runInside runner first [{ commands := [command] }]
    match flow with
    | .killed signal => return (shell, .killed signal)
    | _ =>
      let next := { shell with descriptors := { shell.descriptors with input := .slot slot } }
      let (last, flow) ← runStages runner next rest
      return ({ shell with status := last.status }, flow)

/-- Runs a pipeline. -/
def runPipeline (runner : Runner) (shell : Shell) (pipeline : Pipeline Command) :
    Action (Shell × Flow) := do
  if pipeline.inBackground then
    let quiet := { shell with descriptors := { shell.descriptors with input := .nothing } }
    let (_, flow) ← runStages runner quiet pipeline.commands
    return ({ shell with status := 0 }, if flow matches .killed _ then flow else .go)
  else
    let (shell, flow) ← match pipeline.commands with
      | [command] => runCommand runner shell command
      | commands => runStages runner shell commands
    if pipeline.negated ∧ flow = .go then
      return ({ shell with status := if shell.status = 0 then 1 else 0 }, flow)
    else return (shell, flow)

/-- A failure of the pipeline ends a shell that stops at failures: nothing depends on its
status. -/
def isFinal (pipeline : Pipeline Command) (rest : Steps) : Bool :=
  !pipeline.negated && match rest with
    | next :: _ => next.condition = .always
    | [] => true

/-- Runs a list until its end or until something is left. -/
def runSteps (runner : Runner) (shell : Shell) : Steps → Action (Shell × Flow)
  | [] => return (shell, .go)
  | pipeline :: rest => do
    let due := match pipeline.condition with
      | .always => true
      | .afterSuccess => shell.status = 0
      | .afterFailure => shell.status ≠ 0
    if !due then runSteps runner shell rest
    else
      let final := isFinal pipeline rest
      let inner := if final then shell else shell.lenient
      let (after, flow) ← runPipeline runner inner pipeline
      let after := if final then after
        else { after with stopsOnFailure := shell.stopsOnFailure }
      if flow ≠ .go then return (after, flow)
      else if final && after.stopsOnFailure && after.status ≠ 0 then
        return (after, .exit after.status)
      else runSteps runner after rest

/-- Runs lists and scripts that nest so deep at most. -/
def runnerOf : Nat → Runner
  | 0 => {
    steps := fun shell _ => return (shell, .exit 2)
    script := fun shell _ => return (shell, .exit 2) }
  | depth + 1 =>
    let inner := runnerOf depth
    { steps := runSteps inner
      script := fun shell script => do
        match parseScript script with
        | .ok steps => runSteps inner shell steps
        | .error complaint => giveUp shell ("Syntax error: " ++ complaint) }

/-- How deep scripts may nest. -/
def nestingLimit : Nat := 100

/-- Runs a shell as a process. -/
def sh (process : Process) : Action Flow := runSh (runnerOf nestingLimit) process

end ImageLaunch.Host
