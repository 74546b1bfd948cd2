import ReplEngine.Proofs.Scan.Leftover
import ReplEngine.Proofs.Session.Sending

/-!
# Scripts

A script is fed to a session line by line.  Every character of it that is code goes to the
worker, except in a last statement that the script leaves open.  The bodies that are sent are
pieces of the script; what lies between them are comments and blank lines, in which the lexer
finds no code.

## Key results

- `cover_typed`: the text of lines is cut into bodies, gaps without code, and a rest
- `isOpen_of_code`: code in that rest belongs to an open statement
- `exists_spans_of_script`: what a session sends of a script
-/

namespace ReplEngine

open Scan

/-! ### Spans -/

/-- `Slices off text spans rest`: the text, which starts at the offset `off`, is made of the
    spans, of gaps between them, and of the rest.  A span is an offset and the body there. -/
inductive Slices : Nat → List Char → List (Nat × String) → List Char → Prop
  | rest {off : Nat} {text : List Char} : Slices off text [] text
  | span {off : Nat} {body : String} {text rest : List Char} {spans : List (Nat × String)} :
      Slices (off + body.length) text spans rest →
      Slices off (body.toList ++ text) ((off, body) :: spans) rest
  | gap {off : Nat} {gap text rest : List Char} {spans : List (Nat × String)} :
      Slices (off + gap.length) text spans rest → Slices off (gap ++ text) spans rest

/-- Whether a place lies in one of the spans. -/
def InSpan (spans : List (Nat × String)) (i : Nat) : Prop :=
  ∃ span ∈ spans, span.1 ≤ i ∧ i < span.1 + span.2.length

/-- Bodies that follow each other, from an offset on. -/
def spansFrom (off : Nat) : List String → List (Nat × String)
  | [] => []
  | body :: bodies => (off, body) :: spansFrom (off + body.length) bodies

/-- The bodies of the spans are the bodies. -/
theorem map_spansFrom (off : Nat) (bodies : List String) :
    (spansFrom off bodies).map (·.2) = bodies := by
  induction bodies generalizing off with
  | nil => rfl
  | cons body bodies ih => rw [spansFrom, List.map_cons, ih]

/-- Bodies that follow each other leave no place out. -/
theorem inSpan_spansFrom {off i : Nat} {found : List (List Char)} (hoff : off ≤ i)
    (hi : i < off + found.flatten.length) : InSpan (spansFrom off (found.map String.ofList)) i := by
  -- on the bodies; the place is in the first or behind it
  induction found generalizing off with
  | nil =>
    rw [List.flatten_nil, List.length_nil] at hi
    omega
  | cons f found ih =>
    rw [List.flatten_cons, List.length_append] at hi
    rw [List.map_cons, spansFrom, String.length_ofList]
    by_cases hf : i < off + f.length
    · exact ⟨_, List.mem_cons_self, hoff, by rwa [String.length_ofList]⟩
    · have hlater : InSpan (spansFrom (off + f.length) (found.map String.ofList)) i :=
        ih (by omega) (by omega)
      obtain ⟨span, hspan, hin⟩ := hlater
      exact ⟨span, List.mem_cons_of_mem _ hspan, hin⟩

/-- Bodies that follow each other go in front as spans. -/
theorem slices_spansFrom {off : Nat} {found : List (List Char)} {text rest : List Char}
    {spans : List (Nat × String)} (h : Slices (off + found.flatten.length) text spans rest) :
    Slices off (found.flatten ++ text) (spansFrom off (found.map String.ofList) ++ spans) rest := by
  -- on the bodies
  induction found generalizing off with
  | nil => exact h
  | cons f found ih =>
    have hspan : Slices off ((String.ofList f).toList ++ (found.flatten ++ text))
        ((off, String.ofList f) ::
          (spansFrom (off + (String.ofList f).length) (found.map String.ofList) ++ spans))
        rest := by
      refine .span (ih ?_)
      rwa [String.length_ofList, Nat.add_assoc, ← List.length_append, ← List.flatten_cons]
    rwa [String.toList_ofList, ← List.append_assoc, ← List.flatten_cons] at hspan

/-! ### Cut texts -/

/-- A text that is cut into spans and a rest, up to which the lexer finds code in the spans
    only.  At the rest it is in its first state again. -/
structure Cover (off : Nat) (text : List Char) (spans : List (Nat × String)) (rest : List Char) :
    Prop where
  slices : Slices off text spans rest
  reads : ∃ a ts, text = a ++ rest ∧ Lexer.Reads rest {} off a ts {} ∧
    (∀ t ∈ ts, t.2.isCode = true → InSpan spans t.1) ∧ (a = [] ∨ EndsWithToken ts (off + a.length))

namespace Cover

variable {off : Nat} {a text rest : List Char} {ts : List (Nat × Kind)}
  {before spans : List (Nat × String)}

theorem nil : Cover off text [] text :=
  ⟨.rest, [], [], rfl, .nil, by simp, .inl rfl⟩

/-- A piece that is read back to the first state goes in front. -/
private theorem cons_piece (h : Cover (off + a.length) text spans rest)
    (hslices : Slices off (a ++ text) (before ++ spans) rest)
    (hreads : Lexer.Reads text {} off a ts {})
    (hcode : ∀ t ∈ ts, t.2.isCode = true → InSpan before t.1)
    (hend : a = [] ∨ EndsWithToken ts (off + a.length)) :
    Cover off (a ++ text) (before ++ spans) rest where
  slices := hslices
  reads := by
    -- the two pieces are read as one, and its last token is that of the later, if there is any
    obtain ⟨a', ts', rfl, hreads', hcode', hend'⟩ := h.reads
    refine ⟨a ++ a', ts ++ ts', by rw [List.append_assoc], hreads.trans hreads', ?_, ?_⟩
    · intro t ht hkind
      rcases List.mem_append.mp ht with ht | ht
      · obtain ⟨span, hspan, hin⟩ := hcode t ht hkind
        exact ⟨span, List.mem_append_left _ hspan, hin⟩
      · obtain ⟨span, hspan, hin⟩ := hcode' t ht hkind
        exact ⟨span, List.mem_append_right _ hspan, hin⟩
    · rw [List.length_append, ← Nat.add_assoc]
      rcases hend' with rfl | ⟨t, ht, hstop⟩
      · rw [List.append_nil]
        refine hend.imp_right ?_
        rintro ⟨t, ht, hstop⟩
        exact ⟨t, List.mem_append_left _ ht, hstop⟩
      · exact .inr ⟨t, List.mem_append_right _ ht, hstop⟩

/-- Statements go in front as spans. -/
theorem statements {t b : List Char} (ht : t.getLast? = some '\n')
    (h : Cover (off + (Scan.statements t).1.flatten.length) ((Scan.statements t).2 ++ b) spans
      rest) :
    Cover off (t ++ b) (spansFrom off ((Scan.statements t).1.map String.ofList) ++ spans) rest := by
  obtain ⟨ts, hreads, hend⟩ := reads_statements ht b off
  have hcover := h.cons_piece (slices_spansFrom h.slices) hreads
    (fun t ht _ => inSpan_spansFrom (hreads.bounds ht).1 (hreads.bounds ht).2)
    (hend.imp_left fun hfound => by rw [hfound]; rfl)
  rwa [← List.append_assoc, flatten_statements] at hcover

/-- A preamble goes in front as a gap. -/
theorem preamble {p : List Char} (hp : IsPreamble p) (h : Cover (off + p.length) text spans rest) :
    Cover off (p ++ text) spans rest := by
  obtain ⟨ts, hreads, hkinds, hend⟩ := reads_preamble hp text off
  have hslices : Slices off (p ++ text) ([] ++ spans) rest := .gap h.slices
  refine h.cons_piece hslices hreads (fun t ht hcode => ?_) hend
  rw [hkinds t ht] at hcode
  cases hcode

end Cover

/-- What is kept of a scan, if it holds whole lines: all of it, or nothing and then what was left
    is a preamble. -/
theorem keptOf_cases {t : List Char} (ht : t.getLast? = some '\n') :
    (keptOf (String.ofList (statements t).2) = "" ∧ IsPreamble (statements t).2) ∨
      keptOf (String.ofList (statements t).2) = String.ofList (statements t).2 := by
  unfold keptOf
  split
  · next hcommentary =>
    refine .inl ⟨rfl, isPreamble_of_all_isNote (getLast?_rest ht) ?_⟩
    rw [isCommentary, String.toList_ofList] at hcommentary
    exact hcommentary
  · exact .inr rfl

/-- The text of lines behind a buffer is cut into what `typed` says, and what it keeps. -/
theorem cover_typed (off : Nat) (buffer : String) (lines : List String) :
    ∃ spans, spans.map (·.2) = (typed buffer lines).1 ∧
      Cover off (buffer ++ textOf lines).toList spans (typed buffer lines).2.toList := by
  -- on the lines; what one leaves goes in front of the next
  induction lines generalizing off buffer with
  | nil => exact ⟨[], rfl, by rw [show textOf [] = "" from rfl, String.append_empty]; exact .nil⟩
  | cons line lines ih =>
    have hlast : (buffer ++ line ++ "\n").toList.getLast? = some '\n' :=
      getLast?_of_endsWith (endsWith_append (by decide))
    have htext : (buffer ++ textOf (line :: lines)).toList =
        (buffer ++ line ++ "\n").toList ++ (textOf lines).toList := by
      rw [textOf_cons, ← String.append_assoc, ← String.append_assoc, String.toList_append]
    rw [htext, typed, statementsOf_eq]
    dsimp only
    generalize (buffer ++ line ++ "\n").toList = t at hlast
    rcases keptOf_cases hlast with ⟨hkept, hpreamble⟩ | hkept
    · -- the rest is dropped: a gap
      obtain ⟨spans, hspans, hcover⟩ :=
        ih (off + (statements t).1.flatten.length + (statements t).2.length) ""
      rw [String.empty_append] at hcover
      rw [hkept]
      refine ⟨_, ?_, (hcover.preamble hpreamble).statements hlast⟩
      rw [List.map_append, map_spansFrom, hspans]
    · -- the rest is kept: it is scanned again with the next line
      obtain ⟨spans, hspans, hcover⟩ :=
        ih (off + (statements t).1.flatten.length) (String.ofList (statements t).2)
      rw [String.toList_append, String.toList_ofList] at hcover
      rw [hkept]
      refine ⟨_, ?_, hcover.statements hlast⟩
      rw [List.map_append, map_spansFrom, hspans]

/-! ### The rest -/

/-- Whether a text holds whole lines, and no statement that ends. -/
structure IsLeftover (text : List Char) : Prop where
  scan : statements text = ([], text)
  lines : text = [] ∨ text.getLast? = some '\n'

/-- What is kept of lines holds no statement that ends. -/
theorem isLeftover_typed {buffer : String} (h : IsLeftover buffer.toList) (lines : List String) :
    IsLeftover (typed buffer lines).2.toList := by
  -- on the lines
  induction lines generalizing buffer with
  | nil => exact h
  | cons line lines ih =>
    have hlast : (buffer ++ line ++ "\n").toList.getLast? = some '\n' :=
      getLast?_of_endsWith (endsWith_append (by decide))
    rw [typed, statementsOf_eq]
    dsimp only
    rcases keptOf_cases hlast with ⟨hkept, -⟩ | hkept
    · rw [hkept]
      exact ih ⟨rfl, .inl rfl⟩
    · rw [hkept]
      refine ih ?_
      rw [String.toList_ofList]
      exact ⟨statements_rest _, getLast?_rest hlast⟩

/-- Whether a text is one statement that has not ended: its last line is continued, or it owns a
    block that no blank line and no line at the margin has closed. -/
def IsOpen (text : List Char) : Prop :=
  statements text = ([], text) ∧ (['\\', '\n'] <:+ text ∨ leadShape text = some .compound)

/-- Code that is left over outside strings and brackets belongs to an open statement. -/
theorem isOpen_of_code {rest : List Char} (h : IsLeftover rest)
    (hstring : (lexicalState rest).inString = false) (hdepth : (lexicalState rest).depth = 0)
    {off : Nat} {t : Nat × Kind} (ht : t ∈ Lexer.tokensFrom {} off rest)
    (hcode : t.2.isCode = true) :
    IsOpen rest := by
  refine ⟨h.scan, ?_⟩
  have hlast : rest.getLast? = some '\n' := by
    refine h.lines.resolve_left ?_
    rintro rfl
    simp [Lexer.tokensFrom] at ht
  -- there is code, so that the statement has a shape
  cases hshape : leadShape rest with
  | none =>
    rw [leadShape, Option.map_eq_none_iff, List.find?_eq_none] at hshape
    rw [← Nat.zero_add off, Lexer.tokensFrom_add, List.mem_map] at ht
    obtain ⟨u, hu, rfl⟩ := ht
    exact absurd hcode (hshape u hu)
  | some shape =>
    cases shape with
    | simple => exact .inl (continued_of_simple h.scan hlast hstring hdepth hshape)
    | compound => exact .inr rfl

/-- Code of a text that is cut, up to a newline at its end, lies in a span or in an open
    rest. -/
theorem Cover.inSpan_or_isOpen {script text rest : List Char} {spans : List (Nat × String)}
    (hcover : Cover 0 text spans rest) (hleft : IsLeftover rest)
    (htext : text = script ∨ text = script ++ ['\n'])
    (hstring : (lexicalState script).inString = false) (hdepth : (lexicalState script).depth = 0)
    {t : Nat × Kind} (ht : t ∈ tokens script) (hcode : t.2.isCode = true) :
    InSpan spans t.1 ∨ (text.length ≤ t.1 + rest.length ∧ IsOpen rest) := by
  obtain ⟨a, ts, ha, hreads, hspans, hend⟩ := hcover.reads
  -- the state at the end of the rest is that of the script
  have hstate : (lexicalState rest).inString = false ∧ (lexicalState rest).depth = 0 := by
    rw [lexicalState, ← hreads.run, ← ha]
    rcases htext with rfl | rfl
    · exact ⟨hstring, hdepth⟩
    · obtain ⟨hs, hd⟩ := run_newline {} script hstring
      exact ⟨hs, hd.trans hdepth⟩
  have hlength : text.length = a.length + rest.length := by rw [ha, List.length_append]
  -- a token of the whole text was found up to the rest or in it
  have hwhole : ∀ {t : Nat × Kind}, t ∈ tokens text → t.2.isCode = true →
      InSpan spans t.1 ∨ (text.length ≤ t.1 + rest.length ∧ IsOpen rest) := by
    intro t ht hcode
    rw [tokens, ha, hreads.tokensFrom, List.mem_append] at ht
    refine ht.imp (fun ht => hspans t ht hcode) fun ht => ⟨?_, ?_⟩
    · have hoff := Lexer.le_of_mem_tokensFrom ht
      omega
    · exact isOpen_of_code hleft hstate.1 hstate.2 ht hcode
  rcases htext with rfl | rfl
  · exact hwhole ht hcode
  · rcases tokensFrom_newline {} 0 script ht with ht | ⟨hlast, hstop, hbefore⟩
    · exact hwhole ht hcode
    · -- a backslash at the very end: behind it stands the newline that continues the line
      have hbound : a.length ≤ t.1 := by
        rcases hend with rfl | ⟨u, hu, hustop⟩
        · exact Nat.zero_le _
        · have hu' : u ∈ tokens (script ++ ['\n']) := by
            rw [tokens, ha, hreads.tokensFrom]
            exact List.mem_append_left _ hu
          have := hbefore u hu'
          omega
      refine .inr ⟨by omega, hleft.scan, .inl ?_⟩
      obtain ⟨front, rfl⟩ : ∃ front, script = front ++ ['\\'] := by
        obtain ⟨hne, hlast⟩ := List.getLast?_eq_some_iff.mp hlast
        exact ⟨_, hlast⟩
      have hsuffix : ['\\', '\n'] <:+ a ++ rest := by
        rw [← ha]
        exact ⟨front, by simp⟩
      refine List.suffix_of_suffix_length_le hsuffix (List.suffix_append _ _) ?_
      simp only [List.length_append, List.length_cons, List.length_nil] at hlength hstop ⊢
      omega

/-! ### Lines of a stream -/

/-- The lines that a session reads from a stream. -/
def streamLines (text : String) : List String :=
  let pieces := Text.splitAtNewlines text.toList
  (if pieces.getLast? == some [] then pieces.dropLast else pieces).map String.ofList

theorem ofStream_eq (text : String) : Input.ofStream text = (streamLines text).map Input.line := by
  rw [Input.ofStream, streamLines, List.map_map]
  rfl

/-- Pieces that get their newlines back are the text with a newline behind it. -/
private theorem flatten_splitAtChar (cs : List Char) :
    ((Text.splitAtChar '\n' cs).map (· ++ ['\n'])).flatten = cs ++ ['\n'] := by
  induction cs with
  | nil => rfl
  | cons c cs ih =>
    rw [Text.splitAtChar]
    split
    · next hc =>
      rw [List.map_cons, List.flatten_cons, ih, eq_of_beq hc]
      rfl
    · split
      · -- there is always a piece
        next hnil =>
        rw [hnil] at ih
        simp at ih
      · next piece pieces hcons =>
        rw [hcons, List.map_cons, List.flatten_cons] at ih
        rw [List.map_cons, List.flatten_cons, List.cons_append, List.cons_append, ih,
          List.cons_append]

/-- The characters of lines with their newlines. -/
theorem toList_textOf (lines : List (List Char)) :
    (textOf (lines.map String.ofList)).toList = (lines.map (· ++ ['\n'])).flatten := by
  induction lines with
  | nil => rfl
  | cons line lines ih =>
    rw [List.map_cons, textOf_cons, String.toList_append, String.toList_append, ih,
      String.toList_ofList, List.map_cons, List.flatten_cons]
    rfl

/-- The lines of a stream give back its text, with a newline at the end if it had none. -/
theorem textOf_streamLines (text : String) :
    (textOf (streamLines text)).toList = text.toList ∨
      (textOf (streamLines text)).toList = text.toList ++ ['\n'] := by
  have hall := flatten_splitAtChar text.toList
  rw [streamLines, toList_textOf]
  split
  · -- the text ends with a newline, behind which no line starts
    next hlast =>
    refine .inl ?_
    have hpieces := List.dropLast_append_getLast? [] (eq_of_beq hlast)
    rw [Text.splitAtNewlines] at hpieces ⊢
    rw [← hpieces, List.map_append, List.flatten_append] at hall
    exact List.append_cancel_right hall
  · exact .inr hall

/-! ### Scripts -/

/-- No code of a script is lost, but in a last statement that is left open.  A session sends
    pieces of the script, in order.  Code that the lexer finds in the script lies in one of
    them, or in the rest behind the last of them, and then that rest is one open statement.
    The script ends outside strings and brackets, and none of its lines is taken for a
    command; a missing newline at its end counts as given. -/
theorem exists_spans_of_script (script : String)
    (hcommand : readsNoCommand "" (streamLines script) = true)
    (hstring : (lexicalState script.toList).inString = false)
    (hdepth : (lexicalState script.toList).depth = 0) :
    ∃ text spans rest, (text = script.toList ∨ text = script.toList ++ ['\n']) ∧
      Slices 0 text spans rest ∧
      (∀ t ∈ tokens script.toList, t.2.isCode = true →
        InSpan spans t.1 ∨ (text.length ≤ t.1 + rest.length ∧ IsOpen rest)) ∧
      ∀ {σ : Type} (peer : Peer σ) (s : Session σ), s.buffer = "" → s.ending = none →
        peer.Accepts s.peer (spans.map (·.2)) →
        ∀ ends, ∃ n, Event.evaluated (s.run peer (Input.ofStream script) (ends + 1)).events =
          Event.evaluated s.events ++ spans.map (·.2) ++
            List.replicate (n + 1) Session.endText := by
  obtain ⟨spans, hspans, hcover⟩ := cover_typed 0 "" (streamLines script)
  rw [String.empty_append] at hcover
  have hleft : IsLeftover (typed "" (streamLines script)).2.toList :=
    isLeftover_typed ⟨rfl, .inl rfl⟩ _
  refine ⟨_, spans, _, textOf_streamLines script, hcover.slices, ?_, ?_⟩
  · generalize (typed "" (streamLines script)).2.toList = rest at hcover hleft
    have htext := textOf_streamLines script
    generalize (textOf (streamLines script)).toList = text at hcover htext
    exact fun t ht hcode => hcover.inSpan_or_isOpen hleft htext hstring hdepth ht hcode
  · -- what is sent are the bodies of the spans, in order
    intro σ peer s hbuffer hending haccepts ends
    rw [hspans] at haccepts ⊢
    rw [ofStream_eq]
    exact Session.evaluated_run_lines hbuffer hending hcommand haccepts ends

/-- A script without a last newline: a comment, a line that starts with a colon inside
    brackets, and a block that is left open. -/
theorem exists_spans_of_script_open :
    ∃ text spans rest,
      (text = "# a\nx = [1\n  :2]\nif x:\n  y".toList ∨
        text = "# a\nx = [1\n  :2]\nif x:\n  y".toList ++ ['\n']) ∧
      Slices 0 text spans rest ∧
      (InSpan spans 4 ∨ (text.length ≤ 4 + rest.length ∧ IsOpen rest)) ∧
      ∀ ends, ∃ n, Event.evaluated (Session.run Peer.willing { peer := () }
          (Input.ofStream "# a\nx = [1\n  :2]\nif x:\n  y") (ends + 1)).events =
        spans.map (·.2) ++ List.replicate (n + 1) Session.endText := by
  obtain ⟨text, spans, rest, htext, hslices, hcode, hsent⟩ :=
    exists_spans_of_script "# a\nx = [1\n  :2]\nif x:\n  y" (by decide) (by decide) (by decide)
  exact ⟨text, spans, rest, htext, hslices, hcode (4, .code) (by decide) rfl,
    hsent Peer.willing { peer := () } rfl rfl (Peer.accepts_willing _)⟩

/-- A script without commands in its first column that ends outside strings and brackets, and has
    code, none of which is sent. -/
def IsUnsent (script : String) : Prop :=
  (∀ line ∈ streamLines script, line.toList.head? ≠ some ':') ∧
    (lexicalState script.toList).inString = false ∧ (lexicalState script.toList).depth = 0 ∧
    (∃ t ∈ tokens script.toList, t.2.isCode = true) ∧
    ∀ ends, ∃ n, Event.evaluated (Session.run Peer.willing { peer := () }
      (Input.ofStream script) (ends + 1)).events = List.replicate (n + 1) Session.endText

/-- Code that is never sent: a line that is continued at the end of the script, a line that is
    taken for a command although it starts with a blank, and a block that nothing closes. -/
theorem unsent_scripts :
    IsUnsent "x = 1 \\\n" ∧ IsUnsent "  :y\n" ∧ IsUnsent "if x:\n  y\n" := by
  refine ⟨⟨by decide, by decide, by decide, by decide, fun ends => ?_⟩,
    ⟨by decide, by decide, by decide, by decide, fun ends => ?_⟩,
    ⟨by decide, by decide, by decide, by decide, fun ends => ?_⟩⟩
  · exact Session.evaluated_takeEnd Peer.willing
      (s := (Input.ofStream "x = 1 \\\n").foldl (fun s input => s.take Peer.willing input)
        { peer := () }) rfl ends
  · exact Session.evaluated_takeEnd Peer.willing
      (s := (Input.ofStream "  :y\n").foldl (fun s input => s.take Peer.willing input)
        { peer := () }) rfl ends
  · exact Session.evaluated_takeEnd Peer.willing
      (s := (Input.ofStream "if x:\n  y\n").foldl (fun s input => s.take Peer.willing input)
        { peer := () }) rfl ends

end ReplEngine
