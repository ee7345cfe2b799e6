import ChomskyChart.Proofs.Reading.Lines
import ChomskyChart.Proofs.Reading.Text

/-!
# Texts one below the other

A text that can be read leaves nothing behind but its productions and the number of its lines. So a
text below it is read as it is alone, with later lines, by a builder that has these productions
stored. The second text fails as it does alone, unless a production of it that repeats a rule of the
first text comes before its fault.
-/
namespace ChomskyChart

/-! ## From characters to rules -/

/-- What follows a text without a fault on a line of its own is read as it is on that line. -/
theorem Lexeme.scanFrom_append {line : Nat} {cs : List Char} (h : (scanFrom line cs).fault = none)
    (rest : List Char) :
    scanFrom line (cs ++ '\n' :: rest) =
      (scanFrom line cs).items.foldr .cons (scanFrom (line + (cs.count '\n' + 1)) rest) := by
  induction cs using scan_induction generalizing line with
  | nil =>
    rw [List.nil_append, scanFrom_newline, scanFrom.eq_def line []]
    rfl
  | stray c cs hstray =>
    rw [hstray.scanFrom_eq] at h
    cases h
  | unclosed quote cs hquote hclose =>
    rw [scanFrom_unclosed hquote hclose] at h
    cases h
  | piece word cs found hpiece ih =>
    have hread := hpiece.taken.scanFrom_append line ('\n' :: rest) (by simp)
    have hline : line + ((word ++ cs).count '\n' + 1) =
        line + word.count '\n' + (cs.count '\n' + 1) := by
      rw [List.count_append]
      omega
    rw [hpiece.taken.scanFrom_eq] at h ⊢
    rw [hread, hline]
    cases found with
    | none => exact ih h
    | some lexeme => exact congrArg (Reading.cons ⟨line, lexeme⟩) (ih h)

/-- Lexemes that are rules without a fault are followed by the rules of the lexemes after them. -/
theorem Rule.readFrom_append {stage : Stage} {here : Nat} {xs : List Located}
    (h : (readFrom none here stage xs).fault = none) (fault : Option GrammarError)
    (ys : List Located) :
    readFrom fault here stage (xs ++ ys) =
      (readFrom none here stage xs).items.foldr .cons (readFrom fault 1 .start ys) := by
  induction xs generalizing stage here with
  | nil =>
    obtain rfl := missing?_eq_none_iff.mp h
    exact readFrom_start fault here 1 ys
  | cons x xs ih =>
    rw [List.cons_append, readFrom, readFrom]
    rw [readFrom] at h
    rcases htake : stage.take x with e | ⟨stage', _ | rule⟩
    · rw [htake] at h
      cases h
    · rw [htake] at h
      exact ih h
    · rw [htake] at h
      exact congrArg (Reading.cons rule) (ih h)

/-- The rules of a text below another one are those that it has alone, on later lines. -/
theorem Rule.read_scan_append {a b : String} (h : (read (Lexeme.scan a)).fault = none) :
    read (Lexeme.scan (a ++ "\n" ++ b)) =
      (read (Lexeme.scan a)).items.foldr .cons
        ((read (Lexeme.scan b)).lowered (.lowered (a.toList.count '\n' + 1))
          (a.toList.count '\n' + 1)) := by
  obtain ⟨hscan, -⟩ := lexemes_of_readFrom h
  have hchars : (a ++ "\n" ++ b).toList = a.toList ++ '\n' :: b.toList := by simp
  have hlexemes : Lexeme.scan (a ++ "\n" ++ b) =
      (Lexeme.scan a).items.foldr .cons ((Lexeme.scan b).lowered
        (.lowered (a.toList.count '\n' + 1)) (a.toList.count '\n' + 1)) := by
    rw [Lexeme.scan, hchars, Lexeme.scanFrom_append hscan, Lexeme.scanFrom_lowered]
    rfl
  rw [read, hscan] at h
  rw [hlexemes, ← read_lowered, Reading.foldr_cons, read]
  rw [readFrom_append h, read, read, hscan]

/-! ## Storing behind other productions -/

/-- The productions of a rule, each with the line of the rule. -/
def Rule.located (r : Rule) : List (Nat × Production) := r.productions.map (r.line, ·)

/-- Some production of the list is the same rule. -/
def Repeats (ps : List Production) (p : Production) : Prop := ∃ q ∈ ps, q.SameRule p

instance (ps : List Production) : DecidablePred (Repeats ps) := fun p =>
  inferInstanceAs (Decidable (∃ q ∈ ps, q.SameRule p))

theorem Production.SameRule.names_eq {p q : Production} (h : p.SameRule q) : p.names = q.names := by
  obtain ⟨key, body⟩ := p
  obtain ⟨key', body'⟩ := q
  obtain ⟨hkey, hbody⟩ := h
  obtain rfl : key = key' := hkey
  cases body with
  | terminal literals =>
    cases body' with
    | terminal literals' => rfl
    | nonterminal left right => exact hbody.elim
  | nonterminal left right =>
    cases body' with
    | terminal literals => exact hbody.elim
    | nonterminal left' right' =>
      obtain ⟨rfl, rfl⟩ := hbody
      rfl

/-- What is the same rule as a well-formed production is well-formed. -/
theorem Repeats.wellFormed {ps : List Production} {p : Production} (h : Repeats ps p)
    (hps : ∀ q ∈ ps, q.WellFormed) : p.WellFormed := by
  obtain ⟨q, hq, hsame⟩ := h
  have hwf := hps q hq
  rwa [Production.WellFormed, hsame.names_eq] at hwf

namespace Builder

variable {ps : List Production} {b : Builder} {p : Production} {entries : List (Nat × Production)}

/-- Store a production of the rule on a line. -/
def addAt (b : Builder) (entry : Nat × Production) : Except GrammarError Builder :=
  (b.tryPush entry.2).mapError (.invalid entry.1)

/-- Storing rules is storing their productions with their lines. -/
theorem foldlM_addRule (rules : List Rule) :
    rules.foldlM addRule b = (rules.flatMap Rule.located).foldlM addAt b := by
  induction rules generalizing b with
  | nil => rfl
  | cons r rules ih =>
    have hrule : b.addRule r = r.located.foldlM addAt b := by
      rw [addRule, mapError_foldlM, Rule.located, List.foldlM_map]
      rfl
    rw [List.foldlM_cons, List.flatMap_cons, List.foldlM_append, hrule]
    simp only [ih]

/-- A builder that has stored other productions before its own. -/
def behind (ps : List Production) (b : Builder) : Builder :=
  { b with productions := ps ++ b.productions }

theorem tryPush_repeated (hp : p.WellFormed) (h : Repeats b.productions p) :
    b.tryPush p = .error (.duplicate p) := by
  rw [tryPush, Production.defect?_eq_none_iff.mpr hp]
  exact if_pos h

/-- What repeats none of the productions stored before is stored or refused as without them. -/
theorem tryPush_behind (h : ¬ Repeats ps p) :
    (b.behind ps).tryPush p = (b.tryPush p).map (behind ps) := by
  have hsame : (∃ q ∈ (b.behind ps).productions, q.SameRule p) ↔
      ∃ q ∈ b.productions, q.SameRule p := by
    simp only [behind, List.mem_append]
    constructor
    · intro hq
      obtain ⟨q, hq | hq, hqp⟩ := hq
      · exact (h ⟨q, hq, hqp⟩).elim
      · exact ⟨q, hq, hqp⟩
    · intro hq
      obtain ⟨q, hq, hqp⟩ := hq
      exact ⟨q, .inr hq, hqp⟩
  rw [tryPush, tryPush]
  cases p.defect? with
  | some e => rfl
  | none =>
    simp only [hsame]
    split
    · rfl
    · simp [Except.map, behind]

theorem foldlM_addAt_behind (h : ∀ entry ∈ entries, ¬ Repeats ps entry.2) :
    entries.foldlM addAt (b.behind ps) = (entries.foldlM addAt b).map (behind ps) := by
  refine foldlM_map_state fun entry hentry b => ?_
  rw [addAt, addAt, tryPush_behind (h entry hentry)]
  cases b.tryPush entry.2 <;> rfl

/-- The first production that repeats one stored before is refused, if those before it are not. -/
theorem foldlM_addAt_repeated {before after : List (Nat × Production)} {line : Nat} {b' : Builder}
    (hbefore : ∀ entry ∈ before, ¬ Repeats ps entry.2) (hstored : before.foldlM addAt b = .ok b')
    (hwf : p.WellFormed) (hp : Repeats ps p) :
    (before ++ (line, p) :: after).foldlM addAt (b.behind ps) =
      .error (.invalid line (.duplicate p)) := by
  have hbehind : before.foldlM addAt (b.behind ps) = .ok (b'.behind ps) := by
    rw [foldlM_addAt_behind hbefore, hstored]
    rfl
  have hrepeats : Repeats (b'.behind ps).productions p := by
    obtain ⟨q, hq, hqp⟩ := hp
    exact ⟨q, List.mem_append_left _ hq, hqp⟩
  have hrefused : (b'.behind ps).addAt (line, p) = .error (.invalid line (.duplicate p)) := by
    rw [addAt, tryPush_repeated hwf hrepeats]
    rfl
  exact foldlM_eq_error_iff.mpr ⟨before, (line, p), after, _, rfl, hbehind, hrefused⟩

/-- The grammar of a builder behind whose productions rules are stored, if there is no fault. -/
def addRules (b : Builder) (rules : Reading Rule) : Except GrammarError Grammar := do
  let b ← rules.items.foldlM addRule b
  match rules.fault with
  | some e => throw e
  | none => b.grammar

theorem addRules_of_error {rules : Reading Rule} {e : GrammarError}
    (h : (rules.items.flatMap Rule.located).foldlM addAt b = .error e) :
    b.addRules rules = .error e := by
  rw [addRules, foldlM_addRule, h]
  rfl

theorem addRules_of_ok {rules : Reading Rule} {b' : Builder}
    (h : (rules.items.flatMap Rule.located).foldlM addAt b = .ok b') :
    b.addRules rules =
      match rules.fault with
      | some e => .error e
      | none => b'.grammar := by
  rw [addRules, foldlM_addRule, h]
  rfl

/-- Stored productions leave the recorded error as it is. -/
theorem recorded_of_foldlM_addAt {rules : List Rule} {b' : Builder}
    (h : (rules.flatMap Rule.located).foldlM addAt b = .ok b') : b'.recorded = b.recorded := by
  rw [← foldlM_addRule, foldlM_addRule_eq_ok_iff, foldlM_tryPush_eq_ok_iff] at h
  obtain ⟨-, -, -, rfl⟩ := h
  rfl

theorem grammar_of_recorded (h : b.recorded = none) : b.grammar = .ok (.ofList b.productions) := by
  rw [grammar, h]

/-- The lines of rules may be changed before or after they are stored. -/
theorem addRules_relocated (hb : b.recorded = none) (f : Nat → Nat) (rules : Reading Rule) :
    b.addRules (rules.relocated (.relocated f) f) = (b.addRules rules).mapError (.relocated f) := by
  rw [addRules, addRules, Reading.relocated, foldlM_addRule_relocated]
  cases h : rules.items.foldlM addRule b with
  | error e => rfl
  | ok b' =>
    rw [foldlM_addRule] at h
    cases rules.fault with
    | some e => rfl
    | none =>
      have hgrammar := grammar_of_recorded ((recorded_of_foldlM_addAt h).trans hb)
      change b'.grammar = b'.grammar.mapError _
      rw [hgrammar]
      rfl

theorem addRules_lowered (hb : b.recorded = none) (rules : Reading Rule) (n : Nat) :
    b.addRules (rules.lowered (.lowered n) n) = (b.addRules rules).mapError (.lowered n) :=
  addRules_relocated hb (· + n) rules

/-- Rules are stored before those that follow them. -/
theorem addRules_foldr_cons {items : List Rule} {b' : Builder} (h : items.foldlM addRule b = .ok b')
    (rules : Reading Rule) : b.addRules (items.foldr .cons rules) = b'.addRules rules := by
  rw [addRules, Reading.foldr_cons, List.foldlM_append, h]
  rfl

/-- Rules that repeat none of the productions stored before are stored or refused as without
them. -/
theorem addRules_behind (hb : b.recorded = none) {rules : Reading Rule}
    (h : ∀ entry ∈ rules.items.flatMap Rule.located, ¬ Repeats ps entry.2) :
    (b.behind ps).addRules rules = (b.addRules rules).map fun g => .ofList (ps ++ g.toList) := by
  have hbehind := foldlM_addAt_behind (b := b) h
  cases hstored : (rules.items.flatMap Rule.located).foldlM addAt b with
  | error e =>
    rw [hstored] at hbehind
    rw [addRules_of_error hstored, addRules_of_error hbehind]
    rfl
  | ok b' =>
    rw [hstored] at hbehind
    have hrecorded := (recorded_of_foldlM_addAt hstored).trans hb
    rw [addRules_of_ok hstored, addRules_of_ok hbehind]
    cases rules.fault with
    | some e => rfl
    | none =>
      have hgrammar : (b'.behind ps).grammar = .ok (.ofList (ps ++ b'.productions)) :=
        grammar_of_recorded hrecorded
      simp only [grammar_of_recorded hrecorded, hgrammar]
      rfl

/-- The first production that repeats one stored before is refused, or else an error comes before
it that is the error without the productions stored before. -/
theorem addRules_repeated (hps : ∀ q ∈ ps, q.WellFormed) {rules : Reading Rule} {line : Nat}
    (h : (rules.items.flatMap Rule.located).find? (fun entry => Repeats ps entry.2) =
      some (line, p)) :
    (b.behind ps).addRules rules = .error (.invalid line (.duplicate p)) ∨
      ∃ e, b.addRules rules = .error e ∧ (b.behind ps).addRules rules = .error e := by
  obtain ⟨hp, before, after, hentries, hfirst⟩ := List.find?_eq_some_iff_append.mp h
  have hp : Repeats ps p := of_decide_eq_true hp
  have hbefore : ∀ entry ∈ before, ¬ Repeats ps entry.2 := by simpa using hfirst
  cases hstored : before.foldlM addAt b with
  | ok b' =>
    refine .inl (addRules_of_error ?_)
    rw [hentries]
    exact foldlM_addAt_repeated hbefore hstored (hp.wellFormed hps) hp
  | error e =>
    have hbehind : before.foldlM addAt (b.behind ps) = .error e := by
      rw [foldlM_addAt_behind hbefore, hstored]
      rfl
    refine .inr ⟨e, addRules_of_error ?_, addRules_of_error ?_⟩
    · rw [hentries, List.foldlM_append, hstored]
      rfl
    · rw [hentries, List.foldlM_append, hbehind]
      rfl

end Builder

/-! ## Texts -/

/-- The productions of the rules of a text before its first fault, each with the line of its
rule. -/
def located (text : String) : List (Nat × Production) :=
  (Rule.read (Lexeme.scan text)).items.flatMap Rule.located

namespace Grammar

variable {a b : String} {g : Grammar}

theorem map_snd_located (h : ofText b = .ok g) : (located b).map Prod.snd = g.toList := by
  obtain ⟨-, hbuild⟩ := ofRules_eq_ok_iff.mp h
  obtain ⟨-, -, rfl⟩ := build_eq_ok_iff.mp hbuild
  rw [located, List.map_flatMap]
  simp [Rule.located, Function.comp_def]

/-- A text is stored behind the productions of the text above it. -/
theorem ofText_append (h : ofText a = .ok g) (b : String) :
    ofText (a ++ "\n" ++ b) =
      ((({} : Builder).behind g.toList).addRules (Rule.read (Lexeme.scan b))).mapError
        (.lowered (a.toList.count '\n' + 1)) := by
  obtain ⟨hfault, hbuild⟩ := ofRules_eq_ok_iff.mp h
  obtain ⟨hwf, hdistinct, rfl⟩ := build_eq_ok_iff.mp hbuild
  have hstored : (Rule.read (Lexeme.scan a)).items.foldlM Builder.addRule {} =
      .ok (({} : Builder).behind
        (ofList ((Rule.read (Lexeme.scan a)).items.flatMap Rule.productions)).toList) := by
    rw [Builder.foldlM_addRule_eq_ok_iff, Builder.foldlM_tryPush_eq_ok_iff]
    exact ⟨hwf, hdistinct, by simp, by simp [Builder.behind]⟩
  rw [← Builder.addRules_lowered rfl, ← Builder.addRules_foldr_cons hstored,
    ← Rule.read_scan_append hfault]
  rfl

theorem wellFormed_of_ofText (h : ofText a = .ok g) : ∀ p ∈ g.toList, p.WellFormed := by
  obtain ⟨-, hbuild⟩ := ofRules_eq_ok_iff.mp h
  obtain ⟨hwf, -, rfl⟩ := build_eq_ok_iff.mp hbuild
  exact hwf

/-- A text that repeats nothing of the text above it is read as it is alone. -/
theorem ofText_append_of_new (h : ofText a = .ok g)
    (hnew : ∀ entry ∈ located b, ¬ Repeats g.toList entry.2) :
    ofText (a ++ "\n" ++ b) =
      ((ofText b).map fun g' => ofList (g.toList ++ g'.toList)).mapError
        (.lowered (a.toList.count '\n' + 1)) := by
  rw [ofText_append h, Builder.addRules_behind rfl hnew]
  rfl

/-- The first repetition of the text above is refused, unless an error of the text alone comes
before it. -/
theorem ofText_append_of_repeated (h : ofText a = .ok g) {line : Nat} {p : Production}
    (hfind : (located b).find? (fun entry => Repeats g.toList entry.2) = some (line, p)) :
    ofText (a ++ "\n" ++ b) =
        .error (.invalid (line + (a.toList.count '\n' + 1)) (.duplicate p)) ∨
      ∃ e, ofText b = .error e ∧
        ofText (a ++ "\n" ++ b) = .error (e.lowered (a.toList.count '\n' + 1)) := by
  rw [ofText_append h]
  rcases Builder.addRules_repeated (b := {}) (wellFormed_of_ofText h) hfind with
    herror | ⟨e, halone, herror⟩
  · rw [herror]
    exact .inl rfl
  · rw [herror]
    exact .inr ⟨e, halone, rfl⟩

/-- Below a text that can be read, a text whose productions repeat none of its rules adds its
productions. If one of them repeats a rule, the first one that does is refused, on the line that
its rule then stands on. And if the second text cannot be read alone, the whole text fails with the
same error on a later line, or with a production of the second text that repeats a rule of the
first one. -/
theorem ofText_concatenated {ga : Grammar} (ha : ofText a = .ok ga) (b : String) :
    (∀ gb, ofText b = .ok gb → (∀ q ∈ gb.toList, ¬ Repeats ga.toList q) →
        ofText (a ++ "\n" ++ b) = .ok (ofList (ga.toList ++ gb.toList))) ∧
      (∀ gb, ofText b = .ok gb → (∃ q ∈ gb.toList, Repeats ga.toList q) →
        (located b).map Prod.snd = gb.toList ∧
          ∃ line q, (located b).find? (fun entry => Repeats ga.toList entry.2) = some (line, q) ∧
            ofText (a ++ "\n" ++ b) =
              .error (.invalid (line + (a.toList.count '\n' + 1)) (.duplicate q))) ∧
      ∀ e, ofText b = .error e →
        ofText (a ++ "\n" ++ b) = .error (e.lowered (a.toList.count '\n' + 1)) ∨
          ∃ line q, (line, q) ∈ located b ∧ Repeats ga.toList q ∧
            ofText (a ++ "\n" ++ b) =
              .error (.invalid (line + (a.toList.count '\n' + 1)) (.duplicate q)) := by
  refine ⟨fun gb hb hnew => ?_, fun gb hb hrepeats => ?_, fun e he => ?_⟩
  · have hentries : ∀ entry ∈ located b, ¬ Repeats ga.toList entry.2 := by
      intro entry hentry
      refine hnew entry.2 ?_
      rw [← map_snd_located hb]
      exact List.mem_map_of_mem hentry
    rw [ofText_append_of_new ha hentries, hb]
    rfl
  · have hlist := map_snd_located hb
    obtain ⟨q, hq, hqp⟩ := hrepeats
    rw [← hlist] at hq
    obtain ⟨entry, hentry, rfl⟩ := List.mem_map.mp hq
    have hsome : ((located b).find? fun entry => Repeats ga.toList entry.2).isSome :=
      List.find?_isSome.mpr ⟨entry, hentry, decide_eq_true hqp⟩
    obtain ⟨⟨line, p⟩, hfind⟩ := Option.isSome_iff_exists.mp hsome
    rcases ofText_append_of_repeated ha hfind with herror | ⟨e, he, -⟩
    · exact ⟨hlist, line, p, hfind, herror⟩
    · rw [hb] at he
      cases he
  · cases hfind : (located b).find? fun entry => Repeats ga.toList entry.2 with
    | none =>
      have hentries : ∀ entry ∈ located b, ¬ Repeats ga.toList entry.2 := by
        simpa using List.find?_eq_none.mp hfind
      rw [ofText_append_of_new ha hentries, he]
      exact .inl rfl
    | some entry =>
      obtain ⟨line, q⟩ := entry
      have hrepeats : Repeats ga.toList q := by simpa using List.find?_some hfind
      rcases ofText_append_of_repeated ha hfind with herror | ⟨e', he', herror⟩
      · exact .inr ⟨line, q, List.mem_of_find?_eq_some hfind, hrepeats, herror⟩
      · rw [he] at he'
        cases he'
        exact .inl herror

/-- A literal over two lines and a comment that nothing ends but the text. -/
def above : String := "S := S S | 'a\n' ; # open"

theorem ofText_concatenated_repeating :
    ofText above = .ok (ofList [.terminal "S" ["a\n"], .nonterminal "S" "S" "S"]) ∧
      ofText (above ++ "\n" ++ "T := 'b' ;") =
        .ok (ofList [.terminal "S" ["a\n"], .nonterminal "S" "S" "S", .terminal "T" ["b"]]) ∧
      ∃ line q, (located "T := 'b' ;\nS := T T | S S ;").find? (fun entry =>
            Repeats [.terminal "S" ["a\n"], .nonterminal "S" "S" "S"] entry.2) = some (line, q) ∧
          ofText (above ++ "\n" ++ "T := 'b' ;\nS := T T | S S ;") =
            .error (.invalid (line + (above.toList.count '\n' + 1)) (.duplicate q)) :=
  have ha : ofText above = .ok (ofList [.terminal "S" ["a\n"], .nonterminal "S" "S" "S"]) :=
    eq_ok_iff_map_toList.mpr (by decide +kernel)
  have hnew : ofText "T := 'b' ;" = .ok (ofList [.terminal "T" ["b"]]) :=
    eq_ok_iff_map_toList.mpr (by decide +kernel)
  have hrepeating : ofText "T := 'b' ;\nS := T T | S S ;" =
      .ok (ofList [.terminal "T" ["b"], .nonterminal "S" "T" "T", .nonterminal "S" "S" "S"]) :=
    eq_ok_iff_map_toList.mpr (by decide +kernel)
  ⟨ha, (ofText_concatenated ha _).1 _ hnew (by decide),
    ((ofText_concatenated ha _).2.1 _ hrepeating (by decide)).2⟩

/-- The repeated rule stands on the second line of its text and on the fourth of both. -/
example : (ofText ("S := S S | 'a\n' ; # open" ++ "\n" ++ "T := 'b' ;\nS := T T | S S ;")).map
    toList = .error (.invalid 4 (.duplicate (.nonterminal "S" "S" "S"))) := by
  decide +kernel

end Grammar

end ChomskyChart
