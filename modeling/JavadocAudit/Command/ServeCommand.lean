import JavadocAudit.Command.Output
import JavadocAudit.Text.WholeNumber

/-!
# The command that serves requests

The command reads the address at which requests are to be served.
-/

namespace JavadocAudit.Command

/-- Where requests are served, and whether the program is loaded anew when it changes. -/
structure Address where
  host : String := "127.0.0.1"
  port : Int := 8000
  reload : Bool := false
  deriving DecidableEq, Inhabited

namespace ServeCommand

/-- The options of the command. -/
def forms : List OptionForm :=
  [helpForm, ⟨["--host"], true⟩, ⟨["--port"], true⟩, ⟨["--reload"], false⟩]

/-- The help of the command. -/
def manual : Manual where
  program := "require-javadoc-serve"
  usage := ["usage: require-javadoc-serve [-h] [--host HOST] [--port PORT] [--reload]"]
  body :=
    ["",
      "options:",
      "  -h, --help   show this help message and exit",
      "  --host HOST",
      "  --port PORT",
      "  --reload"]

/-- What is served: the name under which the program is known to the server. -/
def application : String := "api:app"

/-- The address with one more option, or the output that ends the command there. -/
def step (address : Address) (o : Occurrence) : Except Output Address :=
  if o.isHelp then .error manual.shown
  else if o.name == "--host" then .ok { address with host := o.value.getD address.host }
  else if o.name == "--port" then
    match Text.wholeNumber? (o.value.getD "") with
    | some port => .ok { address with port }
    | none => .error (manual.refusal (.notWhole o.name (o.value.getD "")))
  else .ok { address with reload := true }

/-- The outcome of the command: it serves at an address, or ends with some output. -/
inductive Outcome where
  | serve (address : Address)
  | finish (output : Output)
  deriving DecidableEq, Inhabited

/-- Runs the command. -/
def run (line : List String) : Outcome :=
  let arguments := Arguments.read forms false line
  match arguments.occurrences.foldlM step {} with
  | .error output => .finish output
  | .ok address =>
    match arguments.fault? with
    | some fault => .finish (manual.refusal fault)
    | none => .serve address

end ServeCommand

end JavadocAudit.Command
