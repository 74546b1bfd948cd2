import ReplEngine.Proofs.Failure
import ReplEngine.Proofs.Program.Bindings
import ReplEngine.Settings

/-!
# What a settings document sets

A document is checked key by key.  This file says for each key what a value under it sets
(`Key.Sets`) and what a missing one does (`Key.Keeps`), and proves that a document is accepted
exactly if all nine keys agree on some settings.

## Key results

- `Document.text_eq_ok_iff` and the like: the values that are accepted under each key
- `Document.check_eq_ok_iff`: the settings of a document are those that all its keys set
- `result_check_eq_ok_iff`: the same for any value, of which nothing stands for the defaults
-/

namespace ReplEngine

/-- Items are taken one by one, and none may be missing. -/
theorem mapM_eq_some_iff {α β : Type} {f : α → Option β} {items : List α} {taken : List β} :
    items.mapM f = some taken ↔ List.Forall₂ (fun item x => f item = some x) items taken := by
  -- on the items
  induction items generalizing taken with
  | nil => simp [eq_comm]
  | cons item items ih =>
    rw [List.mapM_cons, List.forall₂_cons_left_iff]
    simp only [← ih, Option.bind_eq_bind, Option.bind_eq_some_iff, Option.pure_def,
      Option.some.injEq]
    constructor
    · rintro ⟨x, hx, rest, hrest, rfl⟩
      exact ⟨x, rest, hx, hrest, rfl⟩
    · rintro ⟨x, rest, hx, hrest, rfl⟩
      exact ⟨x, hx, rest, hrest, rfl⟩

/-! ### Names and texts -/

/-- An inspector is found by one of its names. -/
theorem Inspector.ofName?_eq_some_iff {name : String} {i : Inspector} :
    ofName? name = some i ↔ (name, i) ∈ names := by
  have hmapping : IsMapping names := by decide
  exact hmapping.lookup?_eq_some_iff

/-- A level is found by its name. -/
theorem LogLevel.ofName?_eq_some_iff {name : String} {level : LogLevel} :
    ofName? name = some level ↔ name = level.name := by
  constructor
  · intro h
    have hname := List.find?_some h
    exact (eq_of_beq hname).symm
  · rintro rfl
    cases level <;> rfl

/-- A text can be looked up. -/
theorem Value.unhashable?_of_str? {v : Value} {text : String} (h : v.str? = some text) :
    v.unhashable? = Option.none := by
  -- a value of a class that extends another is looked up as what it extends
  induction v using Value.plain.induct with
  | case1 name base ih =>
    have hbase : base.str? = some text := h
    rw [Value.unhashable?, ih hbase]
    rfl
  | case2 v hv =>
    have hplain : v.plain = v := Value.plain.eq_2 v hv
    unfold Value.str? at h
    rw [hplain] at h
    split at h
    · rfl
    · cases h

theorem Value.same_str (a b : String) : (str a).same (str b) = (a == b) := by
  rw [same]
  rfl

namespace Settings

/-! ### Keys -/

/-- The keys of a settings document. -/
inductive Key where
  | prompt
  | historyFile
  | inspector
  | locals
  | startHooks
  | failureHooks
  | rules
  | logLevel
  | logFile
deriving DecidableEq

namespace Key

/-- The keys in the order in which they are checked. -/
def order : List Key :=
  [.prompt, .historyFile, .inspector, .locals, .startHooks, .failureHooks, .rules, .logLevel,
   .logFile]

/-- What a key is called in a document. -/
def name : Key → String
  | .prompt => "prompt"
  | .historyFile => "history_file"
  | .inspector => "inspector"
  | .locals => "locals"
  | .startHooks => "start_hooks"
  | .failureHooks => "failure_hooks"
  | .rules => "macros"
  | .logLevel => "log_level"
  | .logFile => "log_file"

end Key

/-! ### Values -/

/-- The text that a mapping has under a key. -/
def TextAt (entries : List (Value × Value)) (key text : String) : Prop :=
  ∃ e, entries.find? (fun e => e.1.same (.str key)) = some e ∧ e.2.str? = some text

/-- A value that gives a rule: a mapping with two texts, and whatever else. -/
def GivesRule (v : Value) (r : RuleText) : Prop :=
  ∃ entries, v.entries? = some entries ∧ TextAt entries "pattern" r.pattern ∧
    TextAt entries "template" r.template

/-- A value that gives statements to run: nothing, or a list of texts. -/
def GivesHooks (v : Value) (hooks : List String) : Prop :=
  v = .none ∧ hooks = [] ∨
    ∃ items, v.listItems? = some items ∧ List.Forall₂ (fun item h => item.str? = some h) items hooks

/-- What a value under a key says about settings. -/
def Key.Sets (v : Value) (s : Settings) : Key → Prop
  | .prompt => v.str? = some s.prompt
  | .historyFile => v.str? = some s.historyFile
  | .inspector => ∃ name, v.str? = some name ∧ (name, s.inspector) ∈ Inspector.names
  | .locals =>
    v = .none ∧ s.locals = [] ∨ ∃ entries, v.entries? = some entries ∧
      List.Forall₂ (fun e x => e.1.str? = some x.1 ∧ e.2 = x.2) entries s.locals
  | .startHooks => GivesHooks v s.startHooks
  | .failureHooks => GivesHooks v s.failureHooks
  | .rules =>
    v.isTruthy = false ∧ s.rules = [] ∨
      v.isTruthy = true ∧ ∃ items, v.iterate? = some items ∧ List.Forall₂ GivesRule items s.rules
  | .logLevel => ∃ text, v.text = .ok text ∧ Text.upperString text = s.logLevel.name
  | .logFile =>
    v = .none ∧ s.logFile = none ∨ v ≠ .none ∧ ∃ text, v.text = .ok text ∧ s.logFile = some text

/-- Settings that have the default of a key. -/
def Key.Keeps (s : Settings) : Key → Prop
  | .prompt => s.prompt = ({} : Settings).prompt
  | .historyFile => s.historyFile = ({} : Settings).historyFile
  | .inspector => s.inspector = ({} : Settings).inspector
  | .locals => s.locals = ({} : Settings).locals
  | .startHooks => s.startHooks = ({} : Settings).startHooks
  | .failureHooks => s.failureHooks = ({} : Settings).failureHooks
  | .rules => s.rules = ({} : Settings).rules
  | .logLevel => s.logLevel = ({} : Settings).logLevel
  | .logFile => s.logFile = ({} : Settings).logFile

namespace Document

/-- What a document says about settings under a key. -/
def Sets (d : Document) (s : Settings) (k : Key) : Prop :=
  match d.get? k.name with
  | none => k.Keeps s
  | some v => k.Sets v s

/-! ### Looking up -/

@[simp] theorem get?_nil (source key : String) : get? ⟨source, []⟩ key = none := rfl

/-- The first entry is looked at first. -/
@[simp] theorem get?_cons_str (source name key : String) (v : Value)
    (rest : List (Value × Value)) :
    get? ⟨source, (.str name, v) :: rest⟩ key =
      if name = key then some v else get? ⟨source, rest⟩ key := by
  by_cases h : name = key <;> simp [get?, Value.same_str, h]

variable {d : Document} {key : String}

/-! ### Accepted values -/

/-- A text is accepted, and a missing one is the default. -/
theorem text_eq_ok_iff {default x : String} :
    d.text key default = .ok x ↔
      match d.get? key with
      | none => x = default
      | some v => v.str? = some x := by
  unfold text
  cases d.get? key with
  | none => simp [eq_comm]
  | some v =>
    dsimp only
    cases v.str? with
    | none => simp [refuse]
    | some s => simp

/-- A name of an inspector is accepted. -/
theorem inspector_eq_ok_iff {i : Inspector} :
    d.inspector = .ok i ↔
      match d.get? "inspector" with
      | none => i = .dump
      | some v => ∃ name, v.str? = some name ∧ (name, i) ∈ Inspector.names := by
  unfold inspector
  cases d.get? "inspector" with
  | none => simp [eq_comm]
  | some v =>
    dsimp only
    cases hkey : v.unhashable? with
    -- what cannot be looked up is no text
    | some typeName =>
      refine iff_of_false (by simp) ?_
      rintro ⟨name, hname, -⟩
      rw [Value.unhashable?_of_str? hname] at hkey
      cases hkey
    | none =>
      simp only [← Inspector.ofName?_eq_some_iff, ← Option.bind_eq_some_iff]
      cases v.str?.bind Inspector.ofName? with
      | none => simp [refuse]
      | some j => simp

/-- Nothing under a key is as good as a missing key, where values are asked for in this way. -/
theorem some?_cases (d : Document) (key : String) :
    (d.get? key = none ∧ d.some? key = none) ∨ (d.get? key = some .none ∧ d.some? key = none) ∨
      ∃ v, v ≠ .none ∧ d.get? key = some v ∧ d.some? key = some v := by
  unfold some?
  split
  · next hfound => exact .inr (.inl ⟨hfound, rfl⟩)
  · next hnone =>
    cases hfound : d.get? key with
    | none => exact .inl ⟨rfl, rfl⟩
    | some v =>
      refine .inr (.inr ⟨v, ?_, rfl, rfl⟩)
      rintro rfl
      exact hnone hfound

/-- A mapping from texts is accepted, and nothing stands for an empty one. -/
theorem locals_eq_ok_iff {locals : List (String × Value)} :
    d.locals = .ok locals ↔
      match d.get? "locals" with
      | none => locals = []
      | some v => v = .none ∧ locals = [] ∨ ∃ entries, v.entries? = some entries ∧
          List.Forall₂ (fun e x => e.1.str? = some x.1 ∧ e.2 = x.2) entries locals := by
  -- every key has to be a text
  have hpairs : ∀ {entries : List (Value × Value)},
      (entries.mapM fun e => e.1.str?.map fun name => (name, e.2)) = some locals ↔
        List.Forall₂ (fun e x => e.1.str? = some x.1 ∧ e.2 = x.2) entries locals := by
    intro entries
    rw [mapM_eq_some_iff]
    simp [Option.map_eq_some_iff, Prod.ext_iff]
  unfold Document.locals
  -- a missing key, nothing under it, or a value
  rcases some?_cases d "locals" with ⟨hfound, hsome⟩ | ⟨hfound, hsome⟩ | ⟨v, hv, hfound, hsome⟩
  · simp [hfound, hsome, eq_comm]
  · simp [hfound, hsome, eq_comm, Value.entries?, Value.plain]
  · simp only [hfound, hsome, hv, false_and, false_or, ← hpairs]
    cases v.entries? with
    | none => simp [refuse]
    | some entries =>
      simp only [Option.some.injEq, exists_eq_left']
      split
      · next named hnamed => simp [hnamed]
      · next hnamed => simp [hnamed, refuse]

/-- A list of texts is accepted, and nothing stands for an empty one. -/
theorem hooks_eq_ok_iff {hooks : List String} :
    d.hooks key = .ok hooks ↔
      match d.get? key with
      | none => hooks = []
      | some v => GivesHooks v hooks := by
  unfold Document.hooks GivesHooks
  rcases some?_cases d key with ⟨hfound, hsome⟩ | ⟨hfound, hsome⟩ | ⟨v, hv, hfound, hsome⟩
  · simp [hfound, hsome, eq_comm]
  · simp [hfound, hsome, eq_comm, Value.listItems?, Value.plain]
  · simp only [hfound, hsome, hv, false_and, false_or, ← mapM_eq_some_iff,
      ← Option.bind_eq_some_iff]
    cases v.listItems?.bind fun items => items.mapM Value.str? with
    | none => simp [refuse]
    | some texts => simp

/-- A mapping with a pattern and a template is a rule. -/
theorem ruleText?_eq_some_iff {v : Value} {r : RuleText} :
    ruleText? v = some r ↔ GivesRule v r := by
  obtain ⟨pattern, template⟩ := r
  simp only [ruleText?, GivesRule, TextAt, Option.bind_eq_bind, Option.bind_eq_some_iff,
    Option.pure_def, Option.some.injEq, RuleText.mk.injEq]
  constructor
  · rintro ⟨entries, hentries, _, hpattern, _, htemplate, rfl, rfl⟩
    exact ⟨entries, hentries, hpattern, htemplate⟩
  · rintro ⟨entries, hentries, hpattern, htemplate⟩
    exact ⟨entries, hentries, _, hpattern, _, htemplate, rfl, rfl⟩

/-- Anything with rules as items is accepted, and what counts as false stands for none. -/
theorem rules_eq_ok_iff {rules : List RuleText} :
    d.rules = .ok rules ↔
      match d.get? "macros" with
      | none => rules = []
      | some v => v.isTruthy = false ∧ rules = [] ∨
          v.isTruthy = true ∧ ∃ items, v.iterate? = some items ∧
            List.Forall₂ GivesRule items rules := by
  -- the rules are read one by one
  have hrule : GivesRule = fun v r => ruleText? v = some r := by
    funext v r
    exact propext ruleText?_eq_some_iff.symm
  simp only [hrule, ← mapM_eq_some_iff]
  unfold Document.rules
  cases d.get? "macros" with
  | none => simp [eq_comm]
  | some v =>
    cases htruthy : v.isTruthy with
    | false => simp [htruthy, eq_comm]
    | true =>
      cases hitems : v.iterate? with
      | none => simp [htruthy, hitems]
      | some items => cases hrules : items.mapM ruleText? <;> simp [htruthy, hitems, hrules, refuse]

/-- What is the name of a level in capitals is accepted. -/
theorem logLevel_eq_ok_iff {level : LogLevel} :
    d.logLevel = .ok level ↔
      match d.get? "log_level" with
      | none => level = .warning
      | some v => ∃ text, v.text = .ok text ∧ Text.upperString text = level.name := by
  unfold Document.logLevel
  cases d.get? "log_level" with
  | none => simp [eq_comm]
  | some v =>
    simp only [bind_eq_ok_iff, ← LogLevel.ofName?_eq_some_iff]
    refine exists_congr fun text => and_congr_right fun _ => ?_
    cases LogLevel.ofName? (Text.upperString text) with
    | none => simp [refuse]
    | some found => simp [pure, Except.pure]

/-- Whatever can be shown as a text is accepted, and nothing stands for no file. -/
theorem logFile_eq_ok_iff {file : Option String} :
    d.logFile = .ok file ↔
      match d.get? "log_file" with
      | none => file = none
      | some v => v = .none ∧ file = none ∨
          v ≠ .none ∧ ∃ text, v.text = .ok text ∧ file = some text := by
  unfold Document.logFile
  rcases some?_cases d "log_file" with ⟨hfound, hsome⟩ | ⟨hfound, hsome⟩ | ⟨v, hv, hfound, hsome⟩
  · simp [hfound, hsome, eq_comm]
  · simp [hfound, hsome, eq_comm]
  · simp only [hfound, hsome, hv, false_and, false_or, ne_eq, not_false_eq_true, true_and]
    cases v.text with
    | error e => simp [Except.map]
    | ok text => simp [Except.map, eq_comm]

/-- The settings of a document are those that all its keys set. -/
theorem check_eq_ok_iff {s : Settings} : d.check = .ok s ↔ ∀ k, d.Sets s k := by
  -- one condition for each key, in the order in which they are checked
  simp only [check, bind_eq_ok_iff, text_eq_ok_iff, inspector_eq_ok_iff, locals_eq_ok_iff,
    hooks_eq_ok_iff, rules_eq_ok_iff, logLevel_eq_ok_iff, logFile_eq_ok_iff]
  constructor
  · rintro ⟨prompt, hprompt, historyFile, hhistory, inspector, hinspector, locals, hlocals,
      startHooks, hstart, failureHooks, hfailure, rules, hrules, logLevel, hlevel, logFile, hfile,
      hs⟩
    cases hs
    intro k
    cases k <;> assumption
  · intro h
    exact ⟨_, h .prompt, _, h .historyFile, _, h .inspector, _, h .locals, _, h .startHooks, _,
      h .failureHooks, _, h .rules, _, h .logLevel, _, h .logFile, rfl⟩

end Document

/-- The settings that a value yields: the defaults if it is nothing, and of a mapping what its keys
    set. -/
def Yields (source : String) (v : Value) (s : Settings) : Prop :=
  v = .none ∧ s = {} ∨
    ∃ entries, v.entries? = some entries ∧ ∀ k, Document.Sets ⟨source, entries⟩ s k

variable {source : String} {v : Value}

/-- A mapping is checked as a document. -/
theorem check_of_entries {entries : List (Value × Value)} (h : v.entries? = some entries) :
    check source v =
      ⟨Document.warnings ⟨source, entries⟩, Document.check ⟨source, entries⟩⟩ := by
  unfold check
  split
  · cases h
  · rw [h]

/-- What is neither nothing nor a mapping is refused. -/
theorem check_of_no_entries (hv : v ≠ .none) (h : v.entries? = none) :
    check source v = ⟨[], .error (.settings source .topLevel)⟩ := by
  unfold check
  split
  · exact absurd rfl hv
  · rw [h]

/-- A value is accepted if it yields settings, and those are the outcome. -/
theorem result_check_eq_ok_iff {s : Settings} :
    (check source v).result = .ok s ↔ Yields source v s := by
  -- nothing, what is no mapping, and a mapping
  by_cases hv : v = .none
  · subst hv
    simp [check, Yields, Value.entries?, Value.plain, eq_comm]
  · cases hentries : v.entries? with
    | none => simp [check_of_no_entries hv hentries, Yields, hv, hentries]
    | some entries =>
      simp [check_of_entries hentries, Document.check_eq_ok_iff, Yields, hv, hentries]

end Settings

end ReplEngine
