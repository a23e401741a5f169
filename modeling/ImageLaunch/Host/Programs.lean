import ImageLaunch.Host.Programs.Conditions
import ImageLaunch.Host.Programs.Printing
import ImageLaunch.Host.Programs.Streams

/-!
# ImageLaunch.Host.Programs

The programs that a host knows by name, apart from its shell.
-/

namespace ImageLaunch.Host

/-- A program that does nothing. -/
def idle (status : Nat) : Program := fun _ => return status

/-- The programs that are the shell's own when it runs them. -/
def builtin? : String → Option Program
  | "true" | ":" | "umask" | "ulimit" | "wait" => some (idle 0)
  | "false" => some (idle 1)
  | "echo" => some shellEcho
  | "printf" => some printf
  | "test" => some (test false)
  | "[" => some (test true)
  | _ => none

/-- The programs that are files on the host. -/
def program? : String → Option Program
  | "basename" => some basename
  | "cat" => some cat
  | "cmp" => some cmp
  | "cp" => some cp
  | "echo" => some echo
  | "env" => some env
  | "false" => some (idle 1)
  | "grep" => some grep
  | "head" => some head
  | "od" => some od
  | "printenv" => some printenv
  | "printf" => some printf
  | "rm" => some rm
  | "seq" => some seq
  | "sleep" => some (idle 0)
  | "sort" => some sort
  | "tail" => some tail
  | "tee" => some tee
  | "test" => some (test false)
  | "[" => some (test true)
  | "tr" => some tr
  | "true" => some (idle 0)
  | "wc" => some wc
  | _ => none

end ImageLaunch.Host
