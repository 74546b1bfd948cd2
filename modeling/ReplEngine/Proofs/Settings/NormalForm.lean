import ReplEngine.Proofs.Settings.Acceptance

/-!
# Settings as a document of their own

Settings can be written down as a document that has a value for each of the nine keys.  Read
again, that document gives the same settings and no warnings, so what a check makes of a document
is a normal form of it: names of log levels in capitals, texts for what is not one, lists and
mappings where something was missing or empty.

The check asks a document only for the values of its nine keys.  So neither the order of the
entries nor any other key can be seen in its outcome, whether that is settings or an error.

## Key results

- `sets_valueOf`: what is written for a key sets it
- `check_toValue`: settings are read back from their document
- `Document.check_congr`: the check depends on the values of the known keys only
- `check_normal_form`: both for any value that is checked
-/

namespace ReplEngine

/-- The name of an inspector. -/
def Inspector.name : Inspector → String
  | .dump => "dump"
  | .source => "export"

/-- The name of an inspector is one of its names. -/
theorem Inspector.name_mem_names (i : Inspector) : (i.name, i) ∈ names := by
  cases i <;> decide

/-- A rule as an entry of a document. -/
def RuleText.toValue (r : RuleText) : Value :=
  .dict [(.str "pattern", .str r.pattern), (.str "template", .str r.template)]

/-- Levels are named in capitals. -/
theorem Text.upperString_logLevel (level : LogLevel) : upperString level.name = level.name := by
  cases level <;> decide

namespace Settings

/-! ### Writing settings down -/

/-- What settings have for a key, as a value of a document. -/
def valueOf (s : Settings) : Key → Value
  | .prompt => .str s.prompt
  | .historyFile => .str s.historyFile
  | .inspector => .str s.inspector.name
  | .locals => .dict (s.locals.map fun x => (.str x.1, x.2))
  | .startHooks => .list (s.startHooks.map .str)
  | .failureHooks => .list (s.failureHooks.map .str)
  | .rules => .list (s.rules.map RuleText.toValue)
  | .logLevel => .str s.logLevel.name
  | .logFile => match s.logFile with
    | none => .none
    | some file => .str file

/-- The entries of the document that settings are written down as. -/
def toEntries (s : Settings) : List (Value × Value) :=
  Key.order.map fun k => (.str k.name, s.valueOf k)

/-- The document that settings are written down as. -/
def toValue (s : Settings) : Value :=
  .dict s.toEntries

/-- Every key has its value in the document. -/
theorem get?_toEntries (source : String) (s : Settings) (k : Key) :
    Document.get? ⟨source, s.toEntries⟩ k.name = some (s.valueOf k) := by
  cases k <;> simp [toEntries, Key.order, Key.name]

theorem warnings_toEntries (source : String) (s : Settings) :
    Document.warnings ⟨source, s.toEntries⟩ = [] := by
  simp [Document.warnings, toEntries, Key.order, Key.name, keys, Value.same_str]

/-- A rule that is written down gives the rule. -/
theorem givesRule_toValue (r : RuleText) : GivesRule r.toValue r := by
  refine ⟨_, rfl, ⟨(.str "pattern", .str r.pattern), ?_, rfl⟩,
    ⟨(.str "template", .str r.template), ?_, rfl⟩⟩
  · simp [Value.same_str]
  · simp [Value.same_str]

theorem givesHooks_list (hooks : List String) : GivesHooks (.list (hooks.map .str)) hooks := by
  refine .inr ⟨_, rfl, ?_⟩
  rw [List.forall₂_map_left_iff]
  exact List.forall₂_same.mpr fun hook _ => rfl

/-- What is written for a key sets it. -/
theorem sets_valueOf (s : Settings) (k : Key) : k.Sets (s.valueOf k) s := by
  -- one way of writing for each key
  cases k with
  | prompt => rfl
  | historyFile => rfl
  | inspector => exact ⟨_, rfl, s.inspector.name_mem_names⟩
  | locals =>
    refine .inr ⟨_, rfl, ?_⟩
    rw [List.forall₂_map_left_iff]
    exact List.forall₂_same.mpr fun x _ => ⟨rfl, rfl⟩
  | startHooks => exact givesHooks_list _
  | failureHooks => exact givesHooks_list _
  | rules =>
    cases hrules : s.rules with
    | nil =>
      -- an empty list counts as false
      refine .inl ⟨?_, hrules⟩
      simp [valueOf, hrules, Value.isTruthy, Value.plain]
    | cons r rest =>
      refine .inr ⟨?_, _, rfl, ?_⟩
      · simp [valueOf, hrules, Value.isTruthy, Value.plain]
      · rw [List.forall₂_map_left_iff]
        exact List.forall₂_same.mpr fun r _ => givesRule_toValue r
  | logLevel => exact ⟨_, rfl, Text.upperString_logLevel s.logLevel⟩
  | logFile =>
    cases hfile : s.logFile with
    | none => exact .inl ⟨by simp [valueOf, hfile], hfile⟩
    | some file => exact .inr ⟨by simp [valueOf, hfile], file, by simp [valueOf, hfile]; rfl, hfile⟩

/-- Settings are read back from their document, without a warning. -/
theorem check_toValue (source : String) (s : Settings) :
    check source s.toValue = ⟨[], .ok s⟩ := by
  -- each key is found, and sets what was written
  have hcheck : Document.check ⟨source, s.toEntries⟩ = .ok s := by
    rw [Document.check_eq_ok_iff]
    intro k
    rw [Document.Sets, get?_toEntries]
    exact s.sets_valueOf k
  have hentries : s.toValue.entries? = some s.toEntries := rfl
  rw [check_of_entries hentries, warnings_toEntries, hcheck]

/-! ### What the check asks for -/

/-- The check asks a document for the values of the known keys, and for nothing else. -/
theorem Document.check_congr {d d' : Document} (hsource : d.source = d'.source)
    (h : ∀ key ∈ keys, d.get? key = d'.get? key) : d.check = d'.check := by
  simp only [keys, List.forall_mem_cons] at h
  -- each part of the check asks for one key
  obtain ⟨hprompt, hhistory, hinspector, hlocals, hstart, hfailure, hrules, hlevel, hfile, -⟩ := h
  simp only [check, text, inspector, locals, hooks, rules, logLevel, logFile, some?, refuse,
    hsource, hprompt, hhistory, hinspector, hlocals, hstart, hfailure, hrules, hlevel, hfile]

/-- The settings that any value yields are what its keys set, and they are a normal form: written
    down as a document and read again, they are the same, without a warning.  And two mappings
    that have the same values under the known keys, whatever else they hold and in whatever order,
    yield the same settings or fail with the same error. -/
theorem check_normal_form (source source' : String) (v v' : Value) :
    (∀ s, (check source v).result = .ok s →
      Yields source v s ∧ check source' s.toValue = ⟨[], .ok s⟩) ∧
    ∀ entries entries', v.entries? = some entries → v'.entries? = some entries' →
      (∀ key ∈ keys, Document.get? ⟨source, entries⟩ key = Document.get? ⟨source, entries'⟩ key) →
      (check source v).result = (check source v').result := by
  refine ⟨fun s hs => ⟨result_check_eq_ok_iff.mp hs, check_toValue source' s⟩, ?_⟩
  intro entries entries' hv hv' hagree
  rw [check_of_entries hv, check_of_entries hv']
  exact Document.check_congr rfl hagree

/-- A level in small letters with a dotless i, a file named by a number, a rule with its template
    first, and another key. -/
def looseDocument : Value :=
  .orderedDict
    [(.str "colour", .str "blue"), (.str "log_file", .int 5), (.str "log_level", .str "\u0131nfo"),
     (.str "macros", .tuple [.dict [(.str "template", .str "t"), (.str "pattern", .str "p")]])]

/-- The same values in another order, with other keys. -/
def shuffledDocument : Value :=
  .dict
    [(.str "macros", .tuple [.dict [(.str "template", .str "t"), (.str "pattern", .str "p")]]),
     (.bool true, .none), (.str "log_level", .str "\u0131nfo"), (.str "log_file", .int 5)]

/-- Values in other forms and in another order give the same settings, and these are read back. -/
theorem check_normal_form_loose :
    (check "a.yaml" looseDocument).result =
      .ok { rules := [⟨"p", "t"⟩], logLevel := .info, logFile := some "5" } ∧
    check "b.yaml" (toValue { rules := [⟨"p", "t"⟩], logLevel := .info, logFile := some "5" }) =
      ⟨[], .ok { rules := [⟨"p", "t"⟩], logLevel := .info, logFile := some "5" }⟩ ∧
    (check "a.yaml" looseDocument).result = (check "a.yaml" shuffledDocument).result := by
  have hloose : (check "a.yaml" looseDocument).result =
      .ok { rules := [⟨"p", "t"⟩], logLevel := .info, logFile := some "5" } := by
    refine result_check_eq_ok_iff.mpr (.inr ⟨_, rfl, fun k => ?_⟩)
    cases k <;> simp only [Document.Sets, Document.get?, Key.name, List.find?_cons, Value.same_str]
    case rules =>
      refine .inr ⟨rfl, _, rfl, .cons ⟨_, rfl, ?_, ?_⟩ .nil⟩
      · exact ⟨(.str "pattern", .str "p"), by simp [Value.same_str], rfl⟩
      · exact ⟨(.str "template", .str "t"), by simp [Value.same_str], rfl⟩
    case logLevel => exact ⟨_, rfl, by decide⟩
    case logFile => exact .inr ⟨by simp, "5", by decide, rfl⟩
    -- the other keys are missing
    all_goals simp [Key.Keeps]
  have h := check_normal_form "a.yaml" "b.yaml" looseDocument shuffledDocument
  refine ⟨hloose, (h.1 _ hloose).2, h.2 _ _ rfl rfl ?_⟩
  simp [keys, Document.get?, Value.same_str, Value.same, Value.plain, Value.number?]

end Settings

end ReplEngine
