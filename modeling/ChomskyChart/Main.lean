import ChomskyChart.Console.Run

/-!
# The program

Reading the grammar file and the lines of the standard input, and printing. What is printed
is decided by `Console`.
-/
namespace ChomskyChart

open Console

/-- The source at a path. An error code may come with its sign turned. -/
def readSource (path : String) : IO (Except FileError String) := do
  try
    match String.fromUTF8? (← IO.FS.readBinFile path) with
    | some text => return .ok text
    | none => return .error .notText
  catch
    | .noFileOrDirectory _ _ _ => return .error .notFound
    | .permissionDenied _ _ _ => return .error .denied
    | .inappropriateType _ code _ =>
      return .error (if code = 21 ∨ code = -21 then .directory else .notDirectory)
    | e@(.invalidArgument _ code _) =>
      return .error (if code = 36 ∨ code = -36 then .nameTooLong else .other (toString e))
    | e => return .error (.other (toString e))

def finish (outcome : Outcome) : IO UInt32 := do
  IO.print outcome.stdout
  IO.eprint outcome.stderr
  return outcome.exitCode.toUInt32

/-- Answer each line as it comes, until the input ends or a line is broken by its backspaces. -/
partial def serve (g : Grammar) (o : Options) (last : List String) : IO Outcome := do
  let stdin ← IO.getStdin
  let stdout ← IO.getStdout
  if ← stdin.isTty then
    stdout.putStr "~> "
    stdout.flush
  let line ← stdin.getLine
  if line.isEmpty then return .printed ""
  match typedLine? line with
  | none => return .broken ""
  | some typed =>
    let (last, answer) := typed.answer g o last
    stdout.putStr answer
    stdout.flush
    serve g o last

def start (arguments : List String) : IO UInt32 := do
  match Request.ofArguments arguments with
  | .ok (.run i) =>
    match i.opening (← readSource i.grammarFile) with
    | .ended outcome => finish outcome
    | .prompt g => finish (← serve g i.options [])
  | _ => finish (run arguments (fun _ => .error .notFound) "")

end ChomskyChart

def main (arguments : List String) : IO UInt32 :=
  ChomskyChart.start arguments
