/-!
# The command line

Arguments are read from left to right. The first one that is not an option names the grammar
file and the others are the words of a sentence. The first fault on the way decides, as does
the first demand for the version or the help text; nothing after it is looked at.
-/
namespace ChomskyChart.Console

/-- Which parses are shown, and what is shown of them besides their bracketed form. -/
structure Options where
  targets : List String := []
  spans : List String := []
  keys : Bool := false
  tree : Bool := false
deriving DecidableEq

structure Invocation where
  grammarFile : String
  sentence : List String
  options : Options
deriving DecidableEq

inductive Request
  | run (invocation : Invocation)
  | version
  | help
deriving DecidableEq

inductive UsageError
  | unknownOption (argument : String)
  | missingValue (option : String)
  | unexpectedValue (argument : String)
  | repeatedFlag (option : String)
  | missingGrammar
  | emptyGrammar
deriving DecidableEq

def UsageError.message : UsageError → String
  | unknownOption argument => "unknown option " ++ argument
  | missingValue option => "option " ++ option ++ " needs a value"
  | unexpectedValue argument => "option without a value: " ++ argument
  | repeatedFlag option => "option " ++ option ++ " is given twice"
  | missingGrammar => "no grammar file is given"
  | emptyGrammar => "the name of the grammar file is empty"

/-- The options that take a value and may be repeated. -/
inductive Listed
  | target
  | spans
deriving DecidableEq

def Listed.name : Listed → String
  | target => "--target"
  | spans => "--spans"

/-- The arguments read so far. -/
structure Draft where
  grammarFile : Option String := none
  sentence : List String := []
  options : Options := {}
  waiting : Option Listed := none
  ended : Bool := false

namespace Draft

def positional (d : Draft) (argument : String) : Except UsageError Draft :=
  match d.grammarFile with
  | some _ => .ok { d with sentence := d.sentence ++ [argument] }
  | none =>
    if argument = "" then .error .emptyGrammar else .ok { d with grammarFile := some argument }

/-- Give a listed option one more value. -/
def add (d : Draft) (option : Listed) (value : String) : Draft :=
  let options := match option with
    | .target => { d.options with targets := d.options.targets ++ [value] }
    | .spans => { d.options with spans := d.options.spans ++ [value] }
  { d with options, waiting := none }

def setKeys (d : Draft) : Except UsageError Draft :=
  if d.options.keys then .error (.repeatedFlag "--keys")
  else .ok { d with options.keys := true }

def setTree (d : Draft) : Except UsageError Draft :=
  if d.options.tree then .error (.repeatedFlag "--tree")
  else .ok { d with options.tree := true }

/-- One-letter options after a dash. The rest of the argument after `t` or `s`, less an equals
sign, is the value; without a rest the next argument is. -/
def takeLetters (d : Draft) : List Char → Except UsageError (Draft ⊕ Request)
  | [] => .ok (.inl d)
  | 'V' :: _ => .ok (.inr .version)
  | 'h' :: _ => .ok (.inr .help)
  | 'k' :: rest => do (← d.setKeys).takeLetters rest
  | 't' :: rest => .ok (.inl (value .target rest))
  | 's' :: rest => .ok (.inl (value .spans rest))
  | c :: _ => .error (.unknownOption (String.ofList ['-', c]))
where
  value (option : Listed) : List Char → Draft
    | [] => { d with waiting := some option }
    | '=' :: text => d.add option (String.ofList text)
    | text => d.add option (String.ofList text)

/-- A word after two dashes, with a value if there is an equals sign. -/
def takeWord (d : Draft) (word : List Char) : Except UsageError (Draft ⊕ Request) :=
  let argument := String.ofList ('-' :: '-' :: word)
  match String.ofList (word.takeWhile (· ≠ '=')), word.dropWhile (· ≠ '=') with
  | "target", rest => .ok (.inl (value .target rest))
  | "spans", rest => .ok (.inl (value .spans rest))
  | "keys", [] => d.setKeys.map .inl
  | "tree", [] => d.setTree.map .inl
  | "version", [] => .ok (.inr .version)
  | "help", [] => .ok (.inr .help)
  | "keys", _ | "tree", _ | "version", _ | "help", _ => .error (.unexpectedValue argument)
  | _, _ => .error (.unknownOption argument)
where
  value (option : Listed) : List Char → Draft
    | [] => { d with waiting := some option }
    | _ :: text => d.add option (String.ofList text)

/-- Take one argument. A dash alone is not an option, and neither is anything after two. -/
def take (d : Draft) (argument : String) : Except UsageError (Draft ⊕ Request) :=
  if d.ended then (d.positional argument).map .inl
  else
    match argument.toList, d.waiting with
    | '-' :: _ :: _, some option => .error (.missingValue option.name)
    | _, some option => .ok (.inl (d.add option argument))
    | ['-', '-'], none => .ok (.inl { d with ended := true })
    | '-' :: '-' :: word, none => d.takeWord word
    | '-' :: c :: letters, none => d.takeLetters (c :: letters)
    | _, none => (d.positional argument).map .inl

/-- The request when no argument is left. -/
def finish (d : Draft) : Except UsageError Request :=
  match d.waiting, d.grammarFile with
  | some option, _ => .error (.missingValue option.name)
  | none, none => .error .missingGrammar
  | none, some grammarFile => .ok (.run ⟨grammarFile, d.sentence, d.options⟩)

def takeAll (d : Draft) : List String → Except UsageError Request
  | [] => d.finish
  | argument :: rest => do
    match ← d.take argument with
    | .inl d => d.takeAll rest
    | .inr request => return request

end Draft

def Request.ofArguments (arguments : List String) : Except UsageError Request :=
  ({} : Draft).takeAll arguments

end ChomskyChart.Console
