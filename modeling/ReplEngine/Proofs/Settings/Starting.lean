import ReplEngine.CommandLine
import ReplEngine.Proofs.Pattern.Reading
import ReplEngine.Proofs.Settings.NormalForm
import ReplEngine.Template

/-!
# Starting from accepted settings

An interpreter is set up from settings that were accepted.  The check of a document makes sure of
all that the setup asks for, with one exception: that the patterns of its rules are patterns.  It
only asks for texts.  So the setup succeeds exactly if each of them can be read, and then the rules
are the built-in ones and those of the settings, in their order.  Otherwise it fails with the fault
of the first that cannot be read, and the program fails with it.  How templates are filled does not
matter to the setup.

## Key results

- `Repl.isSetUp_of_ok`: what an interpreter has from its settings
- `Repl.exists_ofSettings_iff`, `Repl.ofSettings_eq_error_iff`: when the setup succeeds and fails
- `Settings.pattern_mem_rules_iff`: the patterns that settings have from their document
- `Settings.start_of_accepted`: which accepted documents a program starts with
-/

namespace ReplEngine

/-- A text that can be read as a pattern. -/
def IsPattern (text : String) : Prop :=
  ∃ p, Pattern.compile text {} = .ok p

/-- The texts of a rule, and the rule that is made of them: it has the pattern, and fills the
    template with `render`. -/
def RuleText.Makes (render : Expansion.Renderer) (text : RuleText) (rule : Expansion.Rule) : Prop :=
  ∃ p, Pattern.compile text.pattern {} = .ok p ∧ rule = .filling render p text.template.toList

namespace Expansion.Rule

variable {render : Renderer} {pattern template : String}

/-- A rule is made of two texts by reading the pattern. -/
theorem ofJson_str (render : Renderer) (pattern template : String) :
    ofJson render pattern (.str template) =
      (Pattern.compile pattern {} >>= fun p => .ok (.filling render p template.toList)) := by
  unfold ofJson
  cases Pattern.compile pattern {} with
  | error e => rfl
  | ok p => rfl

/-- The rule has that pattern and the template. -/
theorem ofJson_str_eq_ok_iff {rule : Rule} :
    ofJson render pattern (.str template) = .ok rule ↔
      RuleText.Makes render ⟨pattern, template⟩ rule := by
  rw [ofJson_str, bind_eq_ok_iff]
  simp only [Except.ok.injEq, RuleText.Makes, eq_comm (a := rule)]

theorem exists_ofJson_str_iff :
    (∃ rule, ofJson render pattern (.str template) = .ok rule) ↔ IsPattern pattern := by
  simp [ofJson_str_eq_ok_iff, RuleText.Makes, IsPattern]

theorem ofJson_str_eq_error_iff {e : Error} :
    ofJson render pattern (.str template) = .error e ↔ Pattern.compile pattern {} = .error e := by
  simp [ofJson_str, bind_eq_error_iff]

end Expansion.Rule

/-! ### Setting up -/

namespace Repl

/-- An interpreter that has all its settings. -/
structure IsSetUp (render : Expansion.Renderer) (r : Repl) (s : Settings) : Prop where
  prompt : r.prompt = s.prompt
  inspector : r.worker.inspector = s.inspector
  startHooks : r.worker.startHooks = s.startHooks.map .code
  failureHooks : r.worker.failureHooks = s.failureHooks.map .code
  rules : ∃ added, r.worker.rules = Expansion.builtIn ++ added ∧
    List.Forall₂ (RuleText.Makes render) s.rules added

variable {render : Expansion.Renderer} {r : Repl} {s : Settings} {program : Program} {e : Error}

/-- Rules that are added one by one stand behind the others. -/
theorem foldl_addRule (r : Repl) (rules : List Expansion.Rule) :
    rules.foldl addRule r =
      { r with worker := { r.worker with rules := r.worker.rules ++ rules } } := by
  -- on the rules that are added
  induction rules generalizing r with
  | nil => simp
  | cons rule rules ih => simp [ih, addRule]

/-- An interpreter that was made of settings has all of them. -/
theorem isSetUp_of_ok (h : ofSettings render s program = .ok r) : r.IsSetUp render s := by
  obtain ⟨added, hadded, hr⟩ := bind_eq_ok_iff.mp h
  cases hr
  rw [foldl_addRule]
  refine ⟨rfl, rfl, rfl, rfl, added, rfl, ?_⟩
  exact (mapM_eq_ok_iff.mp hadded).imp fun _ _ => Expansion.Rule.ofJson_str_eq_ok_iff.mp

/-- The setup fails at the first text that is no pattern. -/
theorem ofSettings_eq_error_iff : ofSettings render s program = .error e ↔
    ∃ before text after, s.rules = before ++ text :: after ∧
      (∀ passed ∈ before, IsPattern passed.pattern) ∧
      Pattern.compile text.pattern {} = .error e := by
  simp [ofSettings, bind_eq_error_iff, mapM_eq_error_iff, Expansion.Rule.exists_ofJson_str_iff,
    Expansion.Rule.ofJson_str_eq_error_iff, pure, Except.pure]

/-- The setup succeeds if all patterns can be read. -/
theorem exists_ofSettings_iff :
    (∃ r, ofSettings render s program = .ok r) ↔ ∀ text ∈ s.rules, IsPattern text.pattern := by
  constructor
  · rintro ⟨r, hr⟩
    obtain ⟨added, -, hadded⟩ := (isSetUp_of_ok hr).rules
    -- each text has made a rule, so its pattern was read
    have hpatterns : List.Forall₂ (fun text rule => IsPattern text.pattern ∧ text.Makes render rule)
        s.rules added :=
      hadded.imp fun _ _ h => ⟨h.imp fun _ hp => hp.1, h⟩
    exact ((List.forall₂_and_left _ _).mp hpatterns).1
  · intro h
    cases hsetup : ofSettings render s program with
    | ok r => exact ⟨r, rfl⟩
    | error e =>
      -- a failure names a pattern that cannot be read
      obtain ⟨before, text, after, hrules, -, herror⟩ := ofSettings_eq_error_iff.mp hsetup
      obtain ⟨p, hp⟩ := h text (by simp [hrules])
      rw [hp] at herror
      cases herror

end Repl

/-! ### Patterns in a document -/

namespace Settings

variable {source : String} {v : Value} {s : Settings} {pattern : String}

/-- A text that stands in a value as the pattern of a rule. -/
def PatternOf (item : Value) (pattern : String) : Prop :=
  ∃ fields, item.entries? = some fields ∧ TextAt fields "pattern" pattern

/-- A text that stands in a settings document as the pattern of a rule. -/
def HoldsPattern (source : String) (v : Value) (pattern : String) : Prop :=
  ∃ entries rules items, v.entries? = some entries ∧
    Document.get? ⟨source, entries⟩ Key.rules.name = some rules ∧ rules.isTruthy = true ∧
    rules.iterate? = some items ∧ ∃ item ∈ items, PatternOf item pattern

/-- A rule has the pattern of the value that gives it. -/
theorem GivesRule.pattern_eq_iff {item : Value} {text : RuleText} (h : GivesRule item text) :
    text.pattern = pattern ↔ PatternOf item pattern := by
  obtain ⟨fields, hfields, hpattern, -⟩ := h
  constructor
  · rintro rfl
    exact ⟨fields, hfields, hpattern⟩
  · -- the value has one mapping, and that has one text under the key
    rintro ⟨fields', hfields', e', he', htext'⟩
    obtain ⟨e, he, htext⟩ := hpattern
    rw [hfields] at hfields'
    cases hfields'
    rw [he] at he'
    cases he'
    rw [htext] at htext'
    exact Option.some.inj htext'

/-- Rules have the patterns of the values that give them. -/
theorem exists_pattern_iff {items : List Value} {rules : List RuleText}
    (h : List.Forall₂ GivesRule items rules) :
    (∃ text ∈ rules, text.pattern = pattern) ↔ ∃ item ∈ items, PatternOf item pattern := by
  induction h with
  | nil => simp
  | cons hfirst _ ih => simp only [List.exists_mem_cons_iff, ih, hfirst.pattern_eq_iff]

/-- The patterns of accepted settings are those of their document. -/
theorem pattern_mem_rules_iff (h : (check source v).result = .ok s) :
    (∃ text ∈ s.rules, text.pattern = pattern) ↔ HoldsPattern source v pattern := by
  rcases result_check_eq_ok_iff.mp h with ⟨rfl, rfl⟩ | ⟨entries, hentries, hsets⟩
  · simp [HoldsPattern, Value.entries?, Value.plain]
  · have hholds : HoldsPattern source v pattern ↔
        ∃ rules, Document.get? ⟨source, entries⟩ Key.rules.name = some rules ∧
          rules.isTruthy = true ∧
          ∃ items, rules.iterate? = some items ∧ ∃ item ∈ items, PatternOf item pattern := by
      simp [HoldsPattern, hentries]
    -- only what the document says about its rules counts
    have hrules := hsets .rules
    unfold Document.Sets at hrules
    rw [hholds]
    -- without the key, or with a value that counts as nothing, there are no rules
    cases hfound : Document.get? ⟨source, entries⟩ Key.rules.name with
    | none =>
      rw [hfound] at hrules
      have hnil : s.rules = [] := hrules
      simp [hnil]
    | some rules =>
      rw [hfound] at hrules
      rcases hrules with ⟨hfalsy, hnil⟩ | ⟨htruthy, items, hitems, hgives⟩
      · simp [hnil, hfalsy]
      · simp [exists_pattern_iff hgives, htruthy, hitems]

/-- Of an accepted document an interpreter can be made if and only if each text that stands in it
    as a pattern is one, and then it has all its settings: its rules are the built-in ones and those
    of the document, in their order.  Otherwise the first text that is no pattern is the failure,
    and the program fails with it. -/
theorem start_of_accepted (render : Expansion.Renderer) (h : (check source v).result = .ok s)
    (program : Program) :
    ((∃ r, Repl.ofSettings render s program = .ok r ∧ r.IsSetUp render s) ↔
      ∀ pattern, HoldsPattern source v pattern → IsPattern pattern) ∧
    (∀ e, Repl.ofSettings render s program = .error e ↔
      ∃ before text after, s.rules = before ++ text :: after ∧
        (∀ passed ∈ before, IsPattern passed.pattern) ∧
        Pattern.compile text.pattern {} = .error e) ∧
    ∀ e, Repl.ofSettings render s {} = .error e →
      Pattern.Fault e ∧ CommandLine.prepare render (check source v) = .error e := by
  refine ⟨?_, fun e => Repl.ofSettings_eq_error_iff, ?_⟩
  · have hstart : (∃ r, Repl.ofSettings render s program = .ok r ∧ r.IsSetUp render s) ↔
        ∃ r, Repl.ofSettings render s program = .ok r :=
      exists_congr fun r => and_iff_left_of_imp Repl.isSetUp_of_ok
    rw [hstart, Repl.exists_ofSettings_iff]
    simp only [← pattern_mem_rules_iff h]
    simp
  · intro e he
    -- the setup fails with what reading a pattern fails with
    obtain ⟨-, text, -, -, -, herror⟩ := Repl.ofSettings_eq_error_iff.mp he
    refine ⟨Pattern.failsBy_compile _ _ e herror, ?_⟩
    rw [CommandLine.prepare, h]
    simp [he, bind, Except.bind]

/-- Settings with a rule for each of some patterns. -/
def ofPatterns (patterns : List String) : Settings :=
  { rules := patterns.map fun pattern => ⟨pattern, "run()"⟩ }

/-- With two words as patterns an interpreter is set up.  With a word and then a parenthesis that is
    not closed the program fails. -/
theorem start_of_accepted_words :
    (∃ s, (check "quill.yaml" (ofPatterns ["go", "halt"]).toValue).result = .ok s ∧
      ∃ r, Repl.ofSettings Template.render s {} = .ok r ∧ r.IsSetUp Template.render s) ∧
    CommandLine.prepare Template.render (check "quill.yaml" (ofPatterns ["go", "("]).toValue) =
      .error .badPattern := by
  have hcheck : ∀ s : Settings, (check "quill.yaml" s.toValue).result = .ok s := by
    intro s
    rw [check_toValue]
  have hgo : IsPattern "go" :=
    ⟨_, Pattern.compile_of_plain (by simp [Pattern.IsPlain, Pattern.meaningful]) rfl⟩
  have hhalt : IsPattern "halt" :=
    ⟨_, Pattern.compile_of_plain (by simp [Pattern.IsPlain, Pattern.meaningful]) rfl⟩
  constructor
  · refine ⟨_, hcheck _, (start_of_accepted Template.render (hcheck _) {}).1.mpr ?_⟩
    intro pattern hpattern
    obtain ⟨text, hmem, rfl⟩ := (pattern_mem_rules_iff (hcheck _)).mpr hpattern
    simp only [ofPatterns, List.map_cons, List.map_nil, List.mem_cons, List.not_mem_nil,
      or_false] at hmem
    rcases hmem with rfl | rfl
    · exact hgo
    · exact hhalt
  · obtain ⟨-, hfails, hprepare⟩ :=
      start_of_accepted Template.render (hcheck (ofPatterns ["go", "("])) {}
    refine (hprepare .badPattern ((hfails .badPattern).mpr ?_)).2
    exact ⟨[⟨"go", "run()"⟩], ⟨"(", "run()"⟩, [], rfl, by simpa using hgo, rfl⟩

/-- A document is accepted whose only pattern is a parenthesis that is not closed, and no
    interpreter can be made of it. -/
theorem start_of_accepted_unclosed :
    ∃ s, (check "quill.yaml" (ofPatterns ["("]).toValue).result = .ok s ∧
      Repl.ofSettings Template.render s {} = .error .badPattern ∧
      CommandLine.prepare Template.render (check "quill.yaml" (ofPatterns ["("]).toValue) =
        .error .badPattern := by
  have hcheck : (check "quill.yaml" (ofPatterns ["("]).toValue).result =
      .ok (ofPatterns ["("]) := by
    rw [check_toValue]
  have hsetup : Repl.ofSettings Template.render (ofPatterns ["("]) {} = .error .badPattern :=
    Repl.ofSettings_eq_error_iff.mpr ⟨[], ⟨"(", "run()"⟩, [], rfl, by simp, rfl⟩
  refine ⟨_, hcheck, hsetup, ?_⟩
  rw [CommandLine.prepare, hcheck]
  simp [hsetup, bind, Except.bind]

end Settings

end ReplEngine
