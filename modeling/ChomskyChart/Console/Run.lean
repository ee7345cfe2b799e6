import ChomskyChart.Console.Prompt
import ChomskyChart.Text.Erasure

/-!
# Runs of the program

A run reads the grammar first, and ends with an error if the file cannot be read or its text
is no grammar. With a sentence on the command line it reports on it and leaves the standard
input alone; without one it answers the lines of the standard input to their end.
-/
namespace ChomskyChart.Console

/-- Why a file could not be read. -/
inductive FileError
  | notFound
  | denied
  | notDirectory
  | directory
  | nameTooLong
  | notText
  | other (reason : String)
deriving DecidableEq

def FileError.message : FileError → String
  | notFound => "No such file or directory (os error 2)"
  | denied => "Permission denied (os error 13)"
  | notDirectory => "Not a directory (os error 20)"
  | directory => "Is a directory (os error 21)"
  | nameTooLong => "File name too long (os error 36)"
  | notText => "stream did not contain valid UTF-8"
  | other reason => reason

structure Outcome where
  exitCode : Nat
  stdout : String
  stderr : String
deriving DecidableEq

namespace Outcome

def printed (stdout : String) : Outcome := ⟨0, stdout, ""⟩

/-- The end of a run over a grammar file that is no use. -/
def failed (grammarFile reason : String) : Outcome :=
  ⟨1, "", "Error: " ++ Text.quoted (grammarFile ++ ": " ++ reason) ++ "\n"⟩

/-- The end of a run over a line in which a backspace cuts a character apart. The line editor gives
up on such a line with a message of its own, which is not modelled: the text here stands for it. -/
def broken (stdout : String) : Outcome :=
  ⟨101, stdout, "a backspace cuts a character apart\n"⟩

end Outcome

/-- A run after its grammar file was read: it has ended, or it has a prompt to serve. -/
inductive Opening
  | ended (outcome : Outcome)
  | prompt (grammar : Grammar)

def Invocation.opening (i : Invocation) (source : Except FileError String) : Opening :=
  match source with
  | .error e => .ended (.failed i.grammarFile e.message)
  | .ok text =>
    match Grammar.ofText text with
    | .error e => .ended (.failed i.grammarFile e.message)
    | .ok g =>
      if i.sentence = [] then .prompt g
      else .ended (.printed (report g i.options (Text.words (" ".intercalate i.sentence))))

/-- A line as the prompt sees it, with its backspaces at work, unless they break it. -/
def typedLine? (line : String) : Option Line := (Text.erased? line).map .ofText

/-- What comes before the first line that is broken. -/
def unbroken {α : Type} (typed : List (Option α)) : List α :=
  (typed.takeWhile Option.isSome).filterMap id

/-- The outcome of a prompt after its answers. A line that its backspaces break ends it. -/
def closed (typed : List (Option Line)) (answered : String) : Outcome :=
  if none ∈ typed then .broken answered else .printed answered

def served (g : Grammar) (o : Options) (typed : List (Option Line)) : Outcome :=
  closed typed (transcript g o [] (unbroken typed))

/-- The outcome over the text of the grammar file and of the standard input. -/
def Invocation.outcome (i : Invocation) (source : Except FileError String) (input : String) :
    Outcome :=
  match i.opening source with
  | .ended outcome => outcome
  | .prompt g => served g i.options ((Text.lines input).map typedLine?)

def versionText : String := "cyk 0.1.0\n"

def usageText : String :=
  "Usage: cyk [OPTIONS] <GRAMMAR> [SENTENCE]...\n"

def helpText : String :=
  "Parse sentences against a grammar in Chomsky Normal Form.\n\n" ++ usageText ++ "\n" ++
  "Arguments:\n" ++
  "  <GRAMMAR>      Grammar file of rules with literals and pairs of symbols\n" ++
  "  [SENTENCE]...  Sentence to parse once; without one, lines are read and answered\n\n" ++
  "Options:\n" ++
  "  -t, --target <TARGET>  Only keep parses rooted at these symbols\n" ++
  "  -s, --spans <SPANS>    Print the token spans of these symbols for every parse\n" ++
  "  -k, --keys             Print production keys from the root, left to right\n" ++
  "      --tree             Draw every parse tree\n" ++
  "  -h, --help             Print help\n" ++
  "  -V, --version          Print version\n"

/-- The outcome of a whole run, given what reading each file would give. -/
def run (arguments : List String) (readFile : String → Except FileError String)
    (input : String) : Outcome :=
  match Request.ofArguments arguments with
  | .error e => ⟨2, "", "error: " ++ e.message ++ "\n\n" ++ usageText⟩
  | .ok .version => .printed versionText
  | .ok .help => .printed helpText
  | .ok (.run i) => i.outcome (readFile i.grammarFile) input

end ChomskyChart.Console
