import ChomskyChart.Grammar.Text
import ChomskyChart.Proofs.Outcome
import ChomskyChart.Proofs.Reading.Scanning

/-!
# Texts on other lines

The reader looks at the kinds of lexemes and never at their lines, which it passes on to the rules and
to the fault that it ends with. So a change of all lines can be made before or after reading. In
particular a text that stands below other lines is read as it is read alone, but for the lines of what
is found in it.
-/
namespace ChomskyChart

/-- The error with its line changed. An error that is not about a text has no line to change. -/
def GrammarError.relocated (f : Nat → Nat) : GrammarError → GrammarError
  | emptyKey => emptyKey
  | emptySymbol key => emptySymbol key
  | duplicate production => duplicate production
  | unexpectedChar line found => unexpectedChar (f line) found
  | unclosedLiteral line => unclosedLiteral (f line)
  | unexpectedLexeme line found expected => unexpectedLexeme (f line) found expected
  | unexpectedEnd line expected => unexpectedEnd (f line) expected
  | notChomskyNormal line key alternative => notChomskyNormal (f line) key alternative
  | invalid line cause => invalid (f line) cause

/-- The error of a text that stands `n` lines further down. -/
def GrammarError.lowered (n : Nat) : GrammarError → GrammarError := relocated (· + n)

def Located.relocated (f : Nat → Nat) (x : Located) : Located := { x with line := f x.line }

def Located.lowered (n : Nat) : Located → Located := relocated (· + n)

def Rule.relocated (f : Nat → Nat) (r : Rule) : Rule := { r with line := f r.line }

def Rule.lowered (n : Nat) : Rule → Rule := relocated (· + n)

def Rule.Stage.relocated (f : Nat → Nat) : Stage → Stage
  | start => start
  | named line key => named (f line) key
  | body line key closed pending => body (f line) key closed pending

def Rule.Stage.lowered (n : Nat) : Stage → Stage := relocated (· + n)

/-- A reading whose pieces are moved, and whose fault has its line changed. -/
def Reading.relocated {α : Type} (move : α → α) (f : Nat → Nat) (r : Reading α) : Reading α :=
  ⟨r.items.map move, r.fault.map (.relocated f)⟩

/-- A reading whose pieces are moved, and whose fault lies `n` lines further down. -/
def Reading.lowered {α : Type} (move : α → α) (n : Nat) : Reading α → Reading α :=
  relocated move (· + n)

variable {n : Nat} {f g : Nat → Nat}

/-! ## Changes of lines -/

theorem GrammarError.relocated_id (e : GrammarError) : e.relocated id = e := by
  cases e <;> rfl

theorem GrammarError.relocated_relocated (e : GrammarError) :
    (e.relocated f).relocated g = e.relocated (g ∘ f) := by
  cases e <;> rfl

theorem Reading.relocated_id (r : Reading Rule) : r.relocated (.relocated id) id = r := by
  have hfault : GrammarError.relocated id = id := funext GrammarError.relocated_id
  have hrule : Rule.relocated id = id := rfl
  rw [relocated, hfault, hrule, Option.map_id, List.map_id]
  rfl

theorem Located.lastLine_lowered (x : Located) : (x.lowered n).lastLine = x.lastLine + n := by
  obtain ⟨line, lexeme⟩ := x
  cases lexeme with
  | literal content => exact Nat.add_right_comm line n _
  | _ => rfl

/-! ## Lexemes -/

theorem Lexeme.lead_lowered (line : Nat) (found : Option Lexeme) (r : Reading Located) :
    lead (line + n) found (r.lowered (.lowered n) n) = (lead line found r).lowered (.lowered n) n := by
  cases found <;> rfl

/-- The scanner moves the lines of all lexemes, and of the fault, with the first line. -/
theorem Lexeme.scanFrom_lowered (line : Nat) (cs : List Char) :
    scanFrom (line + n) cs = (scanFrom line cs).lowered (.lowered n) n := by
  induction cs using scan_induction generalizing line with
  | nil =>
    rw [scanFrom, scanFrom]
    rfl
  | stray c rest hstray =>
    rw [hstray.scanFrom_eq, hstray.scanFrom_eq]
    rfl
  | unclosed quote rest hquote hclose =>
    rw [scanFrom_unclosed hquote hclose, scanFrom_unclosed hquote hclose]
    rfl
  | piece word rest found hpiece ih =>
    rw [hpiece.taken.scanFrom_eq, hpiece.taken.scanFrom_eq, Nat.add_right_comm, ih, lead_lowered]

/-! ## Rules -/

namespace Rule

theorem closeAlternative_relocated (here : Nat) (key : String) (pending : List Lexeme) :
    closeAlternative (f here) key pending =
      (closeAlternative here key pending).mapError (.relocated f) := by
  rw [closeAlternative, closeAlternative]
  cases Alternative.ofLexemes? pending <;> rfl

/-- A stage on another line takes a lexeme on another line to what is on another line. -/
theorem Stage.take_relocated (stage : Stage) (x : Located) :
    (stage.relocated f).take (x.relocated f) =
      match stage.take x with
      | .error e => .error (e.relocated f)
      | .ok (stage', rule?) => .ok (stage'.relocated f, rule?.map (.relocated f)) := by
  obtain ⟨here, lexeme⟩ := x
  cases stage with
  | start => cases lexeme <;> rfl
  | named line key => cases lexeme <;> rfl
  | body line key closed pending =>
    cases lexeme with
    | bar =>
      rw [Located.relocated, Stage.relocated, Stage.take, Stage.take, closeAlternative_relocated]
      cases closeAlternative here key pending <;> rfl
    | semicolon =>
      rw [Located.relocated, Stage.relocated, Stage.take, Stage.take, closeAlternative_relocated]
      by_cases hempty : closed = [] ∧ pending = []
      · rw [if_pos hempty, if_pos hempty]
        rfl
      · rw [if_neg hempty, if_neg hempty]
        cases closeAlternative here key pending <;> rfl
    | _ => rfl

/-- Lines may be changed by `f` before reading if the ends of lexemes agree after a change by `g`. -/
theorem readFrom_relocated
    (hlast : ∀ x : Located, g (x.relocated f).lastLine = g (f x.lastLine))
    (fault : Option GrammarError) {here here' : Nat} (hhere : g here' = g (f here)) (stage : Stage)
    (xs : List Located) :
    (readFrom (fault.map (.relocated f)) here' (stage.relocated f)
        (xs.map (.relocated f))).relocated (.relocated g) g =
      (readFrom fault here stage xs).relocated (.relocated (g ∘ f)) (g ∘ f) := by
  induction xs generalizing here here' stage with
  | nil =>
    rw [List.map_nil, readFrom, readFrom]
    cases fault with
    | some e => exact congrArg (Reading.stop ∘ some) e.relocated_relocated
    | none => cases stage <;> simp [Reading.relocated, Stage.relocated, Stage.missing?,
        GrammarError.relocated, hhere]
  | cons x xs ih =>
    rw [List.map_cons, readFrom, readFrom, Stage.take_relocated]
    rcases stage.take x with e | ⟨stage', _ | rule⟩
    · exact congrArg (Reading.stop ∘ some) e.relocated_relocated
    · exact ih (hlast x) stage'
    · exact congrArg (Reading.cons (rule.relocated (g ∘ f))) (ih (hlast x) stage')

theorem readFrom_lowered (fault : Option GrammarError) (here : Nat) (stage : Stage)
    (xs : List Located) :
    readFrom (fault.map (.lowered n)) (here + n) (stage.lowered n) (xs.map (.lowered n)) =
      (readFrom fault here stage xs).lowered (.lowered n) n := by
  have hlast : ∀ x : Located, (x.relocated (· + n)).lastLine = x.lastLine + n :=
    fun x => x.lastLine_lowered
  have hread := readFrom_relocated (g := id) hlast fault (Eq.refl (here + n)) stage xs
  rwa [Reading.relocated_id, Function.id_comp] at hread

/-- Between two rules the line of the last lexeme does not matter. -/
theorem readFrom_start (fault : Option GrammarError) (here here' : Nat) (xs : List Located) :
    readFrom fault here .start xs = readFrom fault here' .start xs := by
  cases xs <;> rfl

theorem read_lowered (lexemes : Reading Located) :
    read (lexemes.lowered (.lowered n) n) = (read lexemes).lowered (.lowered n) n := by
  rw [read, read, ← readFrom_lowered]
  exact readFrom_start _ 1 (1 + n) _

end Rule

/-! ## Grammars -/

namespace Builder

theorem addRule_relocated (b : Builder) (r : Rule) :
    b.addRule (r.relocated f) = (b.addRule r).mapError (.relocated f) := by
  rw [addRule, addRule, mapError_mapError]
  rfl

theorem foldlM_addRule_relocated (b : Builder) (rules : List Rule) :
    (rules.map (.relocated f)).foldlM addRule b =
      (rules.foldlM addRule b).mapError (.relocated f) := by
  rw [List.foldlM_map, mapError_foldlM]
  simp only [addRule_relocated]

end Builder

end ChomskyChart
