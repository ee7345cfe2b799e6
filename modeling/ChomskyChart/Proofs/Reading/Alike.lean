import ChomskyChart.Proofs.Reading.Concatenation
import ChomskyChart.Proofs.Reading.Layout

/-!
# Texts with the same lexemes

A text is scanned without a fault as some lexemes if and only if it is a layout of them. What the
reader makes of it depends on these lexemes and, in the line of an error, on where they stand. So two
layouts of the same lexemes describe the same grammar, or they are refused with errors that differ in
the line at most.
-/
namespace ChomskyChart

/-- The error without its line. -/
def GrammarError.unplaced (e : GrammarError) : GrammarError := e.relocated fun _ => 0

/-- Rules and a fault without their lines. -/
def Rule.unplaced (rules : Reading Rule) : Reading Rule :=
  rules.relocated (.relocated fun _ => 0) fun _ => 0

/-- The rules depend on the lexemes, and only their lines on the lines of the lexemes. -/
theorem Rule.unplaced_read {xs ys : List Located}
    (h : xs.map (·.lexeme) = ys.map (·.lexeme)) :
    unplaced (read ⟨xs, none⟩) = unplaced (read ⟨ys, none⟩) := by
  have hread (zs : List Located) : unplaced (read ⟨zs, none⟩) =
      unplaced (readFrom none 1 .start ((zs.map (·.lexeme)).map (⟨0, ·⟩))) := by
    rw [List.map_map]
    exact (readFrom_relocated (f := fun _ => 0) (g := fun _ => 0) (fun _ => rfl) none rfl .start
      zs).symm
  rw [hread, hread, h]

namespace Grammar

theorem unplaced_ofText {a b : String} {xs : List Lexeme} (ha : Layout xs a.toList)
    (hb : Layout xs b.toList) :
    (ofText a).mapError GrammarError.unplaced =
      (ofText b).mapError GrammarError.unplaced := by
  have hread {text : String} (h : Layout xs text.toList) :
      ∃ items : List Located, items.map (·.lexeme) = xs ∧
        (ofText text).mapError GrammarError.unplaced =
          ({} : Builder).addRules (Rule.unplaced (Rule.read ⟨items, none⟩)) := by
    obtain ⟨items, hitems, hscan⟩ := scanFrom_of_layout h 1
    refine ⟨items, hitems, ?_⟩
    rw [Rule.unplaced, Builder.addRules_relocated rfl, ofText, Lexeme.scan, hscan]
    rfl
  obtain ⟨items, hitems, htext⟩ := hread ha
  obtain ⟨items', hitems', htext'⟩ := hread hb
  rw [htext, htext', Rule.unplaced_read (hitems.trans hitems'.symm)]

/-- A text is scanned without a fault as a list of lexemes if and only if it is a layout of this
list, and two layouts of one list of lexemes have the same grammar or the same error but for its
line. -/
theorem scan_iff_layout :
    (∀ (text : String) (xs : List Lexeme),
        ((Lexeme.scan text).fault = none ∧ (Lexeme.scan text).items.map (·.lexeme) = xs) ↔
          Layout xs text.toList) ∧
      ∀ (a b : String) (xs : List Lexeme), Layout xs a.toList → Layout xs b.toList →
        (ofText a).mapError GrammarError.unplaced = (ofText b).mapError GrammarError.unplaced :=
  ⟨fun _ _ => scan_eq_iff_layout, fun _ _ _ => unplaced_ofText⟩

/-- A rule and the name of another one. -/
def begun : List Lexeme :=
  [.symbol "S", .becomes, .literal "it's \\n", .bar, .symbol "S", .symbol "S", .semicolon, .symbol "T"]

/-- These lexemes with as little around them as possible. -/
def dense : String := "S:='it\\'s \\n'|S#\nS;T#"

/-- The literal in other quotes, with a quote in a comment before it. -/
def loose : String := "# 'open\nS := \"it's \\\\n\"\n | S S ;\n\nT "

theorem scan_iff_layout_begun :
    ((Lexeme.scan dense).fault = none ∧ (Lexeme.scan dense).items.map (·.lexeme) = begun ↔
      Layout begun dense.toList) ∧
      Layout begun dense.toList ∧ Layout begun loose.toList ∧
      (ofText dense).mapError GrammarError.unplaced =
        (ofText loose).mapError GrammarError.unplaced := by
  have hdense : Layout begun dense.toList := (scan_iff_layout.1 dense begun).mp (by decide +kernel)
  have hloose : Layout begun loose.toList := (scan_iff_layout.1 loose begun).mp (by decide +kernel)
  exact ⟨scan_iff_layout.1 dense begun, hdense, hloose, scan_iff_layout.2 _ _ begun hdense hloose⟩

end Grammar

end ChomskyChart
