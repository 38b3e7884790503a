import JavadocAudit.Command.Arguments

/-!
# Output of commands

What a command prints to its two streams, and the code with which it ends.
-/

namespace JavadocAudit.Command

/-- The outcome of a command. -/
structure Output where
  exitCode : Nat
  stdout : String := ""
  stderr : String := ""
  deriving DecidableEq, Inhabited

/-- Lines, each with its end. -/
def linesText (lines : List String) : String := String.join (lines.map (· ++ "\n"))

/-- The help of a command: its name, and lines of which the first ones show its usage. -/
structure Manual where
  program : String
  usage : List String
  body : List String
  deriving DecidableEq, Inhabited

namespace Manual

/-- The output that shows the help. -/
def shown (m : Manual) : Output where
  exitCode := 0
  stdout := linesText (m.usage ++ m.body)

/-- The output that refuses a command line. -/
def refusal (m : Manual) (fault : ArgumentFault) : Output where
  exitCode := 2
  stderr := linesText (m.usage ++ [m.program ++ ": error: " ++ fault.message])

/-- The output that reports an error. -/
def failure (m : Manual) (message : String) : Output where
  exitCode := 2
  stderr := linesText [m.program ++ ": " ++ message]

end Manual

/-- The names of the option that asks for help. -/
def helpForm : OptionForm := ⟨["-h", "--help"], false⟩

/-- The option asks for help. -/
def Occurrence.isHelp (o : Occurrence) : Bool := helpForm.names.contains o.name

end JavadocAudit.Command
