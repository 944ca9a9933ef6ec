import CrossCheck.Host.Tool.Call
import CrossCheck.Host.Tool.Format

/-!
# The tools `echo` and `printf`
-/

namespace CrossCheck.Host.Call

/-- Writes its arguments; options at the front may ask for escapes or for no newline. -/
def echo (c : Call) (escapes newline : Bool) : List String → Effect
  | [] => c.writes (if newline then ['\n'] else [])
  | a :: rest =>
    let isOption := match a.toList with
      | '-' :: l :: ls => (l :: ls).all fun l => l = 'n' || l = 'e' || l = 'E'
      | _ => false
    if isOption then
      c.echo (a.toList.foldl (fun e l => if l = 'e' then true else if l = 'E' then false else e)
        escapes) (newline && !a.toList.contains 'n') rest
    else
      let text := (" ".intercalate (a :: rest)).toList
      let x := if escapes then Escapes.toolEcho.expand text else { text }
      c.writes (x.text ++ if newline && !x.stops then ['\n'] else [])

/-- Writes its arguments as a format says. -/
def printf (c : Call) : Effect :=
  match c.arguments with
  | [] | ["--"] => c.misuse "missing operand" 1
  | "--" :: format :: as | format :: as =>
    let x := Dialect.tool.print format as
    { out := x.text
      err := x.messages.reverse.flatMap fun m => (c.name ++ ": " ++ m ++ "\n").toList
      status := x.status
      tree := c.tree }

end CrossCheck.Host.Call
