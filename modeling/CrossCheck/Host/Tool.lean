import CrossCheck.Host.Tool.Copy
import CrossCheck.Host.Tool.Print
import CrossCheck.Host.Tool.Remove
import CrossCheck.Host.Tool.Sed
import CrossCheck.Host.Tool.Translate

/-!
# Tools

What each program of a host does, the shell apart, which starts programs itself.
-/

namespace CrossCheck.Host

/-- What a program other than the shell leaves. -/
def Tool.effect (tool : Tool) (c : Call) : Effect :=
  match tool with
  | .shell | .succeed => c.idle
  | .fail => { c.idle with status := 1 }
  | .echo => c.echo false true c.arguments
  | .printf => c.printf
  | .cat => c.cat
  | .head => c.head
  | .sed => c.sed
  | .tr => c.tr
  | .rm => c.rm

/-- What a program says whose output is closed, and its status. -/
def Tool.refusedOutput : Tool → String × Nat
  | .cat => ("standard output: Bad file descriptor", 1)
  | .sed => ("couldn't close stdout: Bad file descriptor", 4)
  | _ => ("write error: Bad file descriptor", 1)

/-- A program fails on an output that is closed, even if it has nothing to write. -/
def Tool.needsOutput : Tool → Bool
  | .cat | .sed => true
  | _ => false

end CrossCheck.Host
