import ReplEngine.CommandLine
import ReplEngine.Proofs.Settings.Acceptance
import ReplEngine.Proofs.Value.SetOrder
import ReplEngine.Template

/-!
# What a settings document is refused for

A document that is not accepted is refused for a wrong value, and the program shows the refusal
and ends.  There are two exceptions.  The name of the inspector is looked up in a table, and what
cannot be looked up, a list or a mapping, is an error of another kind; and so are rules that are
given as something without items, such as a number.  Neither is expected by the program.

The keys are checked in a fixed order, so an exception counts only if nothing is refused before it
(`Document.Escapes`).  What a file holds is for a reader of documents to say, which may itself fail
in a way that the program does not expect (`FileEscapes`); no reader is assumed here.

## Key results

- `Value.failsByValue_repr`: why the description of a value fails
- `Document.check_error`: how the check of a document fails
- `Document.Escapes.check_error`: what happens where one of the exceptions is met
- `check_outcomes`: when settings or a refusal are the only outcomes, and what the program does
-/

namespace ReplEngine

/-! ### Wrong values -/

/-- What fails, if at all, because of a wrong value. -/
abbrev FailsByValue {α : Type} (x : Except Error α) : Prop :=
  FailsBy (·.kind = .value) x

namespace Value

/-- The order in which a set is shown neither adds nor drops members. -/
theorem mem_of_mem_inSetOrder {α : Type} {members : List (Value × α)} {m : Value × α}
    (h : m ∈ inSetOrder members) : m ∈ members := by
  unfold inSetOrder at h
  -- members that cannot be compared stay in their order
  cases hsort : Sorting.sort? (fun a b : Value × α => a.1.less? b.1) members with
  | none => rwa [hsort] at h
  | some sorted =>
    rw [hsort] at h
    exact (Sorting.perm_of_sort? hsort).mem_iff.mp h

/-- A set is described if its members are. -/
theorem failsByValue_setText (name : String) (wrapped : Bool)
    {members : List (Value × Except Error String)} (h : ∀ m ∈ members, FailsByValue m.2) :
    FailsByValue (setText name wrapped members) := by
  unfold setText
  split
  · exact .ok _
  · exact .bind (.mapM fun m hm => h m (mem_of_mem_inSetOrder hm)) fun _ => .ok _

mutual

/-- The description of a value fails only with the complaint of an object in it. -/
theorem failsByValue_repr : ∀ v : Value, FailsByValue v.repr
  | none | bool _ | int _ | float _ | complex _ _ | str _ | bytes _ | function _ _ | method _ _
  | builtin _ | classType _ _ _ | module _ | ellipsis | notImplemented | described _ => by
    rw [repr]
    exact .ok _
  | list items | tuple items => by
    rw [repr]
    exact .bind (.mapM (failsByValue_reprItems items)) fun _ => .ok _
  | set items | frozenset items => by
    rw [repr]
    exact failsByValue_setText _ _ (failsByValue_reprItems items)
  | dict entries | mappingView entries | orderedDict entries => by
    rw [repr]
    exact .bind (failsByValue_reprEntries entries) fun _ => .ok _
  | extended name base => by
    -- a class that extends another is described as what it extends, with its own name in some kinds
    have hbase := failsByValue_repr base
    cases base with
    | set items | frozenset items =>
      rw [repr]
      exact failsByValue_setText _ _ (failsByValue_reprItems items)
    | orderedDict entries =>
      rw [repr]
      exact .bind (failsByValue_reprEntries entries) fun _ => .ok _
    | record fields | namedTuple _ fields =>
      rw [repr]
      exact .bind (failsByValue_reprFields fields) fun _ => .ok _
    | dataclass _ fields =>
      rw [repr]
      exact .bind (failsByValue_reprShown fields) fun _ => .ok _
    | _ =>
      rw [repr]
      · exact hbase
      all_goals simp
  | record fields | namedTuple _ fields => by
    rw [repr]
    exact .bind (failsByValue_reprFields fields) fun _ => .ok _
  | dataclass _ fields => by
    rw [repr]
    exact .bind (failsByValue_reprShown fields) fun _ => .ok _
  | enumMember _ _ value => by
    rw [repr]
    exact .bind (failsByValue_repr value) fun _ => .ok _
  | undescribable complaint => by
    rw [repr]
    rintro e ⟨⟩
    rfl

theorem failsByValue_reprItems : ∀ items : List Value, ∀ m ∈ reprItems items, FailsByValue m.2
  | [] => by simp [reprItems]
  | item :: rest => by
    rw [reprItems]
    exact List.forall_mem_cons.mpr ⟨failsByValue_repr item, failsByValue_reprItems rest⟩

theorem failsByValue_reprEntries :
    ∀ entries : List (Value × Value), FailsByValue (reprEntries entries)
  | [] => by
    rw [reprEntries]
    exact .ok _
  | (key, value) :: rest => by
    rw [reprEntries]
    exact .bind (failsByValue_repr key) fun _ => .bind (failsByValue_repr value) fun _ =>
      .bind (failsByValue_reprEntries rest) fun _ => .ok _

theorem failsByValue_reprFields : ∀ fields : List (String × Value), FailsByValue (reprFields fields)
  | [] => by
    rw [reprFields]
    exact .ok _
  | (_, value) :: rest => by
    rw [reprFields]
    exact .bind (failsByValue_repr value) fun _ =>
      .bind (failsByValue_reprFields rest) fun _ => .ok _

theorem failsByValue_reprShown :
    ∀ fields : List (String × Bool × Value), FailsByValue (reprShown fields)
  | [] => by
    rw [reprShown]
    exact .ok _
  | (_, shown, value) :: rest => by
    rw [reprShown]
    split
    · exact .bind (failsByValue_repr value) fun _ =>
        .bind (failsByValue_reprShown rest) fun _ => .ok _
    · exact failsByValue_reprShown rest

end

/-- What is shown of a value fails as its description does. -/
theorem failsByValue_text (v : Value) : FailsByValue v.text := by
  unfold text
  split
  · exact .ok _
  · split
    · exact .ok _
    · exact failsByValue_repr _

end Value

namespace Settings

/-- The keys that are checked before a key. -/
def Key.before (k : Key) : List Key :=
  order.takeWhile (· ≠ k)

namespace Document

/-- A document whose check fails in another way than by a refusal.  Nothing is refused before the
    inspector, and it cannot be looked up; or nothing is refused before the rules, and they have
    no items. -/
inductive Escapes (d : Document) : Prop
  | inspector {s : Settings} {v : Value} (before : ∀ k ∈ Key.before .inspector, d.Sets s k)
      (found : d.get? Key.inspector.name = some v) (unhashable : v.unhashable? ≠ none) : Escapes d
  | rules {s : Settings} {v : Value} (before : ∀ k ∈ Key.before .rules, d.Sets s k)
      (found : d.get? Key.rules.name = some v) (truthy : v.isTruthy = true)
      (itemless : v.iterate? = none) : Escapes d

variable {d : Document} {e : Error}

/-! ### Failures of each key -/

/-- A refusal is about a wrong value. -/
theorem failsByValue_refuse {α : Type} (d : Document) (fault : SettingsFault) :
    FailsByValue (d.refuse (α := α) fault) := by
  rintro e ⟨⟩
  rfl

/-- A text is refused in no other way. -/
theorem failsByValue_text (d : Document) (key default : String) :
    FailsByValue (d.text key default) := by
  unfold text
  split
  · exact .ok _
  · split
    · exact .ok _
    · exact failsByValue_refuse d _

theorem failsByValue_locals (d : Document) : FailsByValue d.locals := by
  unfold Document.locals
  split
  · exact .ok _
  · split
    · exact failsByValue_refuse d _
    · split
      · exact .ok _
      · exact failsByValue_refuse d _

theorem failsByValue_hooks (d : Document) (key : String) : FailsByValue (d.hooks key) := by
  unfold Document.hooks
  split
  · exact .ok _
  · split
    · exact .ok _
    · exact failsByValue_refuse d _

theorem failsByValue_logLevel (d : Document) : FailsByValue d.logLevel := by
  unfold Document.logLevel
  split
  · exact .ok _
  · refine .bind (Value.failsByValue_text _) fun text => ?_
    split
    · exact .ok _
    · exact failsByValue_refuse d _

theorem failsByValue_logFile (d : Document) : FailsByValue d.logFile := by
  unfold Document.logFile
  split
  · exact .ok _
  · next v _ => exact .bind (Value.failsByValue_text v) fun _ => .ok _

/-- The inspector is refused, or it cannot be looked up. -/
theorem inspector_error (h : d.inspector = .error e) :
    e.kind = .value ∨ e.kind = .type ∧ ∃ v, d.get? "inspector" = some v ∧ v.unhashable? ≠ none := by
  unfold Document.inspector at h
  split at h
  · cases h
  · next v hfound =>
    split at h
    · -- the lookup itself fails
      next typeName hkey =>
      cases h
      exact .inr ⟨rfl, v, hfound, by simp [hkey]⟩
    · split at h
      · cases h
      · exact .inl (failsByValue_refuse d _ e h)

/-- The rules are refused, or they have no items. -/
theorem rules_error (h : d.rules = .error e) :
    e.kind = .value ∨ e.kind = .type ∧
      ∃ v, d.get? "macros" = some v ∧ v.isTruthy = true ∧ v.iterate? = none := by
  unfold Document.rules at h
  split at h
  · cases h
  · next v hfound =>
    split at h
    · cases h
    · next htruthy =>
      split at h
      · -- there is nothing to go through
        next hitems =>
        cases h
        exact .inr ⟨rfl, v, hfound, by simpa using htruthy, hitems⟩
      · split at h
        · cases h
        · exact .inl (failsByValue_refuse d _ e h)

variable {s : Settings}

/-- The keys before the inspector are set if their checks succeed. -/
theorem sets_before_inspector_iff :
    (∀ k ∈ Key.before .inspector, d.Sets s k) ↔
      d.text "prompt" ({} : Settings).prompt = .ok s.prompt ∧
      d.text "history_file" ({} : Settings).historyFile = .ok s.historyFile := by
  simp only [text_eq_ok_iff]
  simp [Key.before, Key.order, Sets, Key.Sets, Key.Keeps, Key.name]

theorem sets_before_rules_iff :
    (∀ k ∈ Key.before .rules, d.Sets s k) ↔
      d.text "prompt" ({} : Settings).prompt = .ok s.prompt ∧
      d.text "history_file" ({} : Settings).historyFile = .ok s.historyFile ∧
      d.inspector = .ok s.inspector ∧ d.locals = .ok s.locals ∧
      d.hooks "start_hooks" = .ok s.startHooks ∧ d.hooks "failure_hooks" = .ok s.failureHooks := by
  simp only [text_eq_ok_iff, inspector_eq_ok_iff, locals_eq_ok_iff, hooks_eq_ok_iff]
  simp [Key.before, Key.order, Sets, Key.Sets, Key.Keeps, Key.name]

/-- A document that is not accepted is refused, or one of the two exceptions is met first. -/
theorem check_error (h : d.check = .error e) :
    e.kind = .value ∨ e.kind = .type ∧ d.Escapes := by
  simp only [check, bind_eq_error_iff] at h
  -- the first key that fails; all before it have succeeded
  obtain h | ⟨prompt, hprompt, h | ⟨historyFile, hhistory, h | ⟨inspector, hinspector, h |
    ⟨locals, hlocals, h | ⟨startHooks, hstart, h | ⟨failureHooks, hfailure, h | ⟨rules, -, h |
    ⟨logLevel, -, h | ⟨logFile, -, h⟩⟩⟩⟩⟩⟩⟩⟩⟩ := h
  · exact .inl (failsByValue_text d _ _ e h)
  · exact .inl (failsByValue_text d _ _ e h)
  · rcases inspector_error h with hkind | ⟨hkind, v, hfound, hkey⟩
    · exact .inl hkind
    · exact .inr ⟨hkind, .inspector (s := { prompt, historyFile })
        (sets_before_inspector_iff.mpr ⟨hprompt, hhistory⟩) hfound hkey⟩
  · exact .inl (failsByValue_locals d e h)
  · exact .inl (failsByValue_hooks d _ e h)
  · exact .inl (failsByValue_hooks d _ e h)
  · rcases rules_error h with hkind | ⟨hkind, v, hfound, htruthy, hitems⟩
    · exact .inl hkind
    · exact .inr ⟨hkind,
        .rules (s := { prompt, historyFile, inspector, locals, startHooks, failureHooks })
          (sets_before_rules_iff.mpr ⟨hprompt, hhistory, hinspector, hlocals, hstart, hfailure⟩)
          hfound htruthy hitems⟩
  · exact .inl (failsByValue_logLevel d e h)
  · exact .inl (failsByValue_logFile d e h)
  · cases h

/-- Where one of the two exceptions is met first, the check fails with it. -/
theorem Escapes.check_error (h : d.Escapes) : ∃ e, d.check = .error e ∧ e.kind = .type := by
  cases h with
  | @inspector s v before hfound hkey =>
    obtain ⟨hprompt, hhistory⟩ := sets_before_inspector_iff.mp before
    obtain ⟨typeName, htype⟩ := Option.ne_none_iff_exists'.mp hkey
    -- the keys before it succeed, so that its error comes out
    have hinspector : d.inspector = .error (.unhashable typeName) := by
      have hget : d.get? "inspector" = some v := hfound
      simp [Document.inspector, hget, htype]
    refine ⟨.unhashable typeName, ?_, rfl⟩
    rw [check, hprompt, hhistory, hinspector]
    rfl
  | @rules s v before hfound htruthy hitems =>
    obtain ⟨hprompt, hhistory, hinspector, hlocals, hstart, hfailure⟩ :=
      sets_before_rules_iff.mp before
    have hrules : d.rules = .error (.notIterable v.typeLabel) := by
      have hget : d.get? "macros" = some v := hfound
      simp [Document.rules, hget, htruthy, hitems]
    refine ⟨.notIterable v.typeLabel, ?_, rfl⟩
    rw [check, hprompt, hhistory, hinspector, hlocals, hstart, hfailure, hrules]
    rfl

end Document

/-! ### Any value, and a file -/

/-- A value whose check fails in another way than by a refusal. -/
def Escapes (source : String) (v : Value) : Prop :=
  ∃ entries, v.entries? = some entries ∧ Document.Escapes ⟨source, entries⟩

variable {source : String} {v : Value} {e : Error}

/-- A value that is not accepted is refused, or one of the exceptions is met. -/
theorem result_check_error (h : (check source v).result = .error e) :
    e.kind = .value ∨ e.kind = .type ∧ Escapes source v := by
  -- nothing is always accepted
  by_cases hv : v = .none
  · subst hv
    cases h
  · cases hentries : v.entries? with
    | none =>
      rw [check_of_no_entries hv hentries] at h
      cases h
      exact .inl rfl
    | some entries =>
      rw [check_of_entries hentries] at h
      exact (Document.check_error h).imp_right fun ⟨hkind, hescapes⟩ =>
        ⟨hkind, entries, hentries, hescapes⟩

/-- Where one is met, the error is of another kind. -/
theorem Escapes.result_check_error (h : Escapes source v) :
    ∃ e, (check source v).result = .error e ∧ e.kind = .type := by
  obtain ⟨entries, hentries, hescapes⟩ := h
  rw [check_of_entries hentries]
  exact hescapes.check_error

/-- A value yields settings, or is refused, or its check fails in another way. -/
theorem result_check_cases (source : String) (v : Value) :
    (∃ s, (check source v).result = .ok s ∧ ¬ Escapes source v) ∨
    (∃ e, (check source v).result = .error e ∧ e.kind = .value ∧ ¬ Escapes source v) ∨
    ∃ e, (check source v).result = .error e ∧ e.kind = .type ∧ Escapes source v := by
  -- the two kinds of errors exclude each other
  by_cases hescapes : Escapes source v
  · obtain ⟨e, he, hkind⟩ := hescapes.result_check_error
    exact .inr (.inr ⟨e, he, hkind, hescapes⟩)
  · cases hresult : (check source v).result with
    | ok s => exact .inl ⟨s, rfl, hescapes⟩
    | error e =>
      rcases Settings.result_check_error hresult with hkind | ⟨-, h⟩
      · exact .inr (.inl ⟨e, rfl, hkind, hescapes⟩)
      · exact absurd h hescapes

/-- A file whose settings fail in another way than by a refusal: its text is no value for a reason
    that the program does not expect, or the check of its value fails so. -/
inductive FileEscapes (read : DocumentReader) (path text : String) : Prop
  | raised {e : Error} (hread : read text = .error (.raised e))
      (hunexpected : CommandLine.isExpected e = false) : FileEscapes read path text
  | checked {v : Value} (hread : read text = .ok v) (hescapes : Escapes path v) :
      FileEscapes read path text

variable {read : DocumentReader} {text : String}

/-- If the reader raises an error, only that decides. -/
theorem fileEscapes_of_raised (hread : read text = .error (.raised e)) :
    FileEscapes read source text ↔ CommandLine.isExpected e = false := by
  constructor
  · intro h
    cases h with
    | raised hread' hunexpected =>
      rw [hread] at hread'
      cases hread'
      exact hunexpected
    | checked hread' hescapes =>
      rw [hread] at hread'
      cases hread'
  · exact .raised hread

/-- If it gives a value, the check of the value decides. -/
theorem fileEscapes_of_ok (hread : read text = .ok v) :
    FileEscapes read source text ↔ Escapes source v := by
  constructor
  · intro h
    cases h with
    | raised hread' hunexpected =>
      rw [hread] at hread'
      cases hread'
    | checked hread' hescapes =>
      rw [hread] at hread'
      cases hread'
      exact hescapes
  · exact .checked hread

theorem isExpected_of_kind (hkind : e.kind = .value) : CommandLine.isExpected e = true := by
  simp [CommandLine.isExpected, hkind]

/-- An error in the settings of a file is expected by the program, unless it is one of the
    exceptions. -/
theorem isExpected_of_load {path : String} {named : Bool} {content : Option String}
    (h : (load read path named content).result = .error e) :
    CommandLine.isExpected e = true ↔
      ∀ text, content = some text → ¬ FileEscapes read path text := by
  unfold load at h
  -- a missing file, a text that is no document, or the check of its value
  cases content with
  | none =>
    cases named with
    | true =>
      cases h
      simp [CommandLine.isExpected, Error.kind]
    | false => cases h
  | some text =>
    simp only [Option.some.injEq, forall_eq']
    cases hread : read text with
    | error fault =>
      simp only [hread] at h
      cases fault with
      | malformed =>
        cases h
        refine iff_of_true rfl fun hescapes => ?_
        cases hescapes with
        | raised hread' _ => cases hread.symm.trans hread'
        | checked hread' _ => cases hread.symm.trans hread'
      | raised e' =>
        cases h
        rw [fileEscapes_of_raised hread, Bool.not_eq_false]
    | ok v =>
      simp only [hread] at h
      rw [fileEscapes_of_ok hread]
      rcases result_check_cases path v with ⟨s, hs, -⟩ | ⟨e', he, hkind, hnot⟩ |
        ⟨e', he, hkind, hescapes⟩
      · cases h.symm.trans hs
      · cases h.symm.trans he
        exact iff_of_true (isExpected_of_kind hkind) hnot
      · cases h.symm.trans he
        refine iff_of_false ?_ (not_not_intro hescapes)
        simp [CommandLine.isExpected, hkind]

/-- Whatever value is checked, it yields settings that all its keys set or is refused for a wrong
    value, if and only if neither of the exceptions is met; and where one is met, the error is of
    another kind.  So it is with a file, however its text is read and templates are filled: an
    error in its settings is shown by the program, which then ends, unless reading the text fails
    unexpectedly or one of the exceptions is met in its value, and then the program fails with
    it. -/
theorem check_outcomes (source : String) (v : Value) (read : DocumentReader)
    (render : Expansion.Renderer) (named : Bool) (content : Option String) :
    (((∃ s, (check source v).result = .ok s ∧ Yields source v s) ∨
        ∃ e, (check source v).result = .error e ∧ e.kind = .value) ↔ ¬ Escapes source v) ∧
    (Escapes source v → ∃ e, (check source v).result = .error e ∧ e.kind = .type) ∧
    ∀ e, (load read source named content).result = .error e →
      ((∀ text, content = some text → ¬ FileEscapes read source text) →
        CommandLine.prepare render (load read source named content) =
          .ok (.inl (CommandLine.complain ("quill: " ++ e.message)))) ∧
      ((∃ text, content = some text ∧ FileEscapes read source text) →
        CommandLine.prepare render (load read source named content) = .error e) := by
  refine ⟨?_, Escapes.result_check_error, ?_⟩
  · rcases result_check_cases source v with ⟨s, hs, hnot⟩ | ⟨e, he, hkind, hnot⟩ |
      ⟨e, he, hkind, hescapes⟩
    · exact ⟨fun _ => hnot, fun _ => .inl ⟨s, hs, result_check_eq_ok_iff.mp hs⟩⟩
    · exact ⟨fun _ => hnot, fun _ => .inr ⟨e, he, hkind⟩⟩
    · simp [he, hkind, hescapes]
  · intro e he
    have hexpected := isExpected_of_load he
    constructor
    · intro hnot
      rw [CommandLine.prepare, he]
      exact if_pos (hexpected.mpr hnot)
    · -- the program does not catch what it does not expect
      rintro ⟨text, htext, hescapes⟩
      rw [CommandLine.prepare, he]
      exact if_neg fun h => hexpected.mp h text htext hescapes

/-- An inspector that is a list, and rules that are a number: neither is refused for a wrong value,
    and the program fails with both. -/
theorem check_beyond_refusal :
    CommandLine.prepare Template.render
        (check "quill.yaml" (.dict [(.str "inspector", .list [])])) =
      .error (.unhashable "list") ∧
    CommandLine.prepare Template.render (check "quill.yaml" (.dict [(.str "macros", .int 5)])) =
      .error (.notIterable "int") ∧
    (Error.unhashable "list").kind ≠ .value ∧ (Error.notIterable "int").kind ≠ .value := by
  have hinspector : (check "quill.yaml" (.dict [(.str "inspector", .list [])])).result =
      .error (.unhashable "list") := by
    simp [check, Value.entries?, Value.plain, Document.check, Document.text, Document.inspector,
      Value.unhashable?, bind, Except.bind]
  have hrules : (check "quill.yaml" (.dict [(.str "macros", .int 5)])).result =
      .error (.notIterable "int") := by
    simp [check, Value.entries?, Value.plain, Document.check, Document.text, Document.inspector,
      Document.locals, Document.hooks, Document.some?, Document.rules, Value.isTruthy,
      Value.iterate?, Value.typeLabel, Value.typeName, bind, Except.bind]
  rw [CommandLine.prepare, CommandLine.prepare, hinspector, hrules]
  exact ⟨rfl, rfl, by decide, by decide⟩

/-- A reader that knows a document with a word that stands for no truth value, and one whose rules
    are a number; no other text is a document. -/
def fewDocuments : DocumentReader
  | "prompt: !!bool foo" => .error (.raised (.missingKey "foo"))
  | "macros: 5" => .ok (.dict [(.str "macros", .int 5)])
  | _ => .error .malformed

/-- The prompt is checked before the inspector, so a wrong prompt is refused where both are wrong.
    Rules that are a number are met where nothing is refused before them.  A file that is missing
    or no document is shown, and the program fails with an error that a reader raises. -/
theorem check_outcomes_ordered :
    ¬ Escapes "quill.yaml" (.dict [(.str "prompt", .int 3), (.str "inspector", .list [])]) ∧
    Escapes "quill.yaml" (.dict [(.str "macros", .int 5)]) ∧
    (∃ e, (check "quill.yaml" (.dict [(.str "macros", .int 5)])).result = .error e ∧
      e.kind = .type) ∧
    CommandLine.prepare Template.render (load fewDocuments "quill.yaml" true none) =
      .ok (.inl (CommandLine.complain "quill: config file not found: quill.yaml")) ∧
    CommandLine.prepare Template.render (load fewDocuments "quill.yaml" true (some "\x7b")) =
      .ok (.inl (CommandLine.complain "quill: quill.yaml: malformed document")) ∧
    CommandLine.prepare Template.render
      (load fewDocuments "quill.yaml" true (some "prompt: !!bool foo")) =
        .error (.missingKey "foo") := by
  have hprompt := check_outcomes "quill.yaml"
    (.dict [(.str "prompt", .int 3), (.str "inspector", .list [])]) fewDocuments Template.render
    true (some "prompt: !!bool foo")
  have hrules := check_outcomes "quill.yaml" (.dict [(.str "macros", .int 5)]) fewDocuments
    Template.render true none
  have hbrace := check_outcomes "quill.yaml" .none fewDocuments Template.render true (some "\x7b")
  have hescapes : Escapes "quill.yaml" (.dict [(.str "macros", .int 5)]) := by
    refine ⟨_, rfl,
      .rules (s := {}) (v := .int 5) (Document.sets_before_rules_iff.mpr ?_) ?_ rfl rfl⟩
    · simp [Document.text, Document.inspector, Document.locals, Document.hooks, Document.some?]
    · simp [Key.name]
  have hrefused : (check "quill.yaml"
      (.dict [(.str "prompt", .int 3), (.str "inspector", .list [])])).result =
        .error (.settings "quill.yaml" (.notText "prompt")) := by
    simp [check, Value.entries?, Value.plain, Document.check, Document.text, Value.str?,
      Document.refuse, bind, Except.bind]
  have hmalformed : fewDocuments "\x7b" = .error .malformed := rfl
  refine ⟨hprompt.1.mp (.inr ⟨_, hrefused, rfl⟩), hescapes, hrules.2.1 hescapes, ?_, ?_, ?_⟩
  · exact (hrules.2.2 (.settingsNotFound "quill.yaml") rfl).1 (by simp)
  · refine (hbrace.2.2 (.malformedDocument "quill.yaml") rfl).1 ?_
    intro text htext hfile
    cases htext
    cases hfile with
    | raised hread _ => cases hmalformed.symm.trans hread
    | checked hread _ => cases hmalformed.symm.trans hread
  · exact (hprompt.2.2 (.missingKey "foo") rfl).2 ⟨_, rfl, .raised rfl rfl⟩

end Settings

end ReplEngine
