import ChomskyChart.Console.Report
import ChomskyChart.Grammar.Text
import ChomskyChart.Text.Words

/-!
# The prompt

A line without its outer white space is a command if it begins with a colon, and otherwise
a sentence. A sentence is reported on and remembered; a command is answered from the last
sentence. A blank line has no answer.
-/
namespace ChomskyChart.Console

inductive Command
  | grammar
  | keys
  | spans (symbol : String)
  | chart
  | unknown (text : String)
deriving DecidableEq

/-- The command of the text after the colon. Words after a symbol to span are ignored. -/
def Command.ofText (text : String) : Command :=
  match Text.words text with
  | ["grammar"] => grammar
  | ["keys"] => keys
  | "spans" :: symbol :: _ => spans symbol
  | ["chart"] => chart
  | _ => unknown text

inductive Line
  | blank
  | command (command : Command)
  | sentence (tokens : List String)
deriving DecidableEq

def Line.ofText (text : String) : Line :=
  match Text.trim text.toList with
  | [] => blank
  | ':' :: rest => command (.ofText (String.ofList rest))
  | _ => sentence (Text.words text)

/-- A cell of the chart with the tokens that it spans and the keys that it holds. -/
def spanLine (s : Span) (spanned : List String) : String :=
  "[" ++ toString s.start ++ ", " ++ toString s.stop ++ ") " ++
    Text.quoted (" ".intercalate spanned) ++ ": " ++ " ".intercalate (s.cell.map Tree.key) ++ "\n"

/-- The tokens from `start` up to, not including, `stop`. -/
def slice (tokens : List String) (start stop : Nat) : List String :=
  (tokens.drop start).take (stop - start)

def spanText (tokens : List String) (s : Span) : String :=
  spanLine s (slice tokens s.start s.stop)

def Command.unknownText (text : String) : String :=
  "Unknown command ':" ++ text ++ "', try :grammar :keys :spans KEY :chart\n"

/-- The answer to a command after a sentence with the tokens `last`. -/
def Command.answer (g : Grammar) (o : Options) (last : List String) : Command → String
  | grammar => g.text
  | keys => numbered (selected g o last) keysEntry
  | spans symbol => numbered (selected g o last) (spansEntry symbol)
  | chart => String.join ((g.chart last).spans.map (spanText last))
  | unknown text => unknownText text

/-- The tokens to remember after a line, and the answer to it. -/
def Line.answer (g : Grammar) (o : Options) (last : List String) : Line → List String × String
  | blank => (last, "")
  | command c => (last, c.answer g o last)
  | sentence tokens => (tokens, report g o tokens)

/-- The answers to a row of lines, one after another. -/
def transcript (g : Grammar) (o : Options) (last : List String) : List Line → String
  | [] => ""
  | line :: rest =>
    let (last, answer) := line.answer g o last
    answer ++ transcript g o last rest

end ChomskyChart.Console
