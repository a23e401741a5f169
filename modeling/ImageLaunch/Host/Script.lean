/-!
# ImageLaunch.Host.Script

Scripts of the shell, as far as their form goes: words with quotes, variables and
commands inside, redirections, simple and compound commands, pipelines, and lists.
What stands inside `$( )` and the like is kept as it is written and read when it is
run.
-/

namespace ImageLaunch.Host

/-- A part of a word; `quoted` ones are never cut at blanks. -/
inductive Part
  | text (quoted : Bool) (text : String)
  /-- A variable, as it is written after the dollar sign or between the braces. -/
  | parameter (quoted : Bool) (form : String)
  /-- What a script writes. -/
  | command (quoted : Bool) (script : String)
  /-- The value of an expression. -/
  | arithmetic (quoted : Bool) (expression : String)
  deriving DecidableEq, Repr

/-- A word as it is written. -/
abbrev Word := List Part

/-- A change of a descriptor. -/
structure Redirect where
  descriptor : Nat
  operator : String
  target : Word
  deriving DecidableEq, Repr

/-- A simple command, with the line that it stands on. -/
structure Simple where
  line : Nat := 1
  assignments : List (String × Word) := []
  words : List Word := []
  redirects : List Redirect := []
  deriving DecidableEq, Repr

/-- When a step of a list is taken. -/
inductive Condition
  | always
  | afterSuccess
  | afterFailure
  deriving DecidableEq, Repr

/-- A pipeline of commands in a list. -/
structure Pipeline (γ : Type) where
  condition : Condition := .always
  negated : Bool := false
  commands : List γ
  /-- The list goes on without waiting. -/
  inBackground : Bool := false

/-- A command. -/
inductive Command
  | simple (command : Simple)
  | group (steps : List (Pipeline Command))
  /-- A list with a shell of its own. -/
  | subshell (steps : List (Pipeline Command))
  /-- The first list whose condition succeeds, or else the last one. -/
  | branch (arms : List (List (Pipeline Command) × List (Pipeline Command)))
      (otherwise : List (Pipeline Command))
  /-- A list as long as a condition succeeds, or as long as it fails. -/
  | loop (whileFailing : Bool) (condition body : List (Pipeline Command))
  /-- A list for each word, or for each argument. -/
  | each (name : String) (words : Option (List Word)) (body : List (Pipeline Command))
  /-- The first list with a pattern that a word matches. -/
  | choice (word : Word) (arms : List (List Word × List (Pipeline Command)))
  /-- The definition of a function. -/
  | define (name : String) (body : Command)
  | redirected (command : Command) (redirects : List Redirect)

/-- A list of pipelines. -/
abbrev Steps := List (Pipeline Command)

end ImageLaunch.Host
