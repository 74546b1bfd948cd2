import ReplEngine.Layout
import ReplEngine.Proofs.Value.Displays
import ReplEngine.Proofs.Value.Tokens

/-!
# Laid out values read back

The text of a value is a literal of an equal value, whatever the measures of the layout, as long
as no part of the value is too deep to be shown.  The two ways to lay out a collection have the
same tokens but for a comma behind the last part, so that widths and indents play no part in what
is read.

Parts that stand on lines of their own are cut into lines and joined again.  That does not change
them: their only line ends are newlines, since strings show none, and they do not end with one.

## Key results

- `exists_shows_arrange`: parts between brackets have the tokens of a display
- `readsBack_render`: what is read from the text of a value, by induction over the value
- `read?_render`: the text of a value reads back
-/

namespace ReplEngine.Layout

open Literal (Lexes Shows Spells SpellsPart Stops Token Yields closing joined)
open Scan (Bracket)
open Text (isLineBreak)

/-! ### Lines joined again -/

/-- A text that is not empty has a line. -/
private theorem splitLinesFrom_ne_nil (line : List Char) {cs : List Char}
    (h : line ≠ [] ∨ cs ≠ []) :
    Text.splitLinesFrom line cs ≠ [] := by
  -- on the text; the line that was begun varies
  induction cs generalizing line with
  | nil =>
    have hline : line ≠ [] := h.resolve_right (by simp)
    simp [Text.splitLinesFrom, hline]
  | cons c cs ih =>
    rw [Text.splitLinesFrom.eq_def]
    split
    · simp_all
    · simp
    · next heq =>
      obtain ⟨rfl, rfl⟩ := List.cons.inj heq
      split
      · simp
      · exact ih _ (.inl (by simp))

/-- A text whose line ends are newlines, with none at its end, is its lines with newlines between
    them. -/
theorem intercalate_splitLinesFrom (line : List Char) {cs : List Char}
    (hbreaks : ∀ c ∈ cs, isLineBreak c = true → c = '\n') (hends : cs.getLast? ≠ some '\n') :
    ['\n'].intercalate (Text.splitLinesFrom line cs) = line.reverse ++ cs := by
  -- on the text; the line that was begun varies
  induction cs generalizing line with
  | nil =>
    rw [Text.splitLinesFrom]
    cases line <;> simp
  | cons c cs ih =>
    have hbreaks' : ∀ d ∈ cs, isLineBreak d = true → d = '\n' :=
      fun d hd => hbreaks d (List.mem_cons_of_mem _ hd)
    have hends' : cs.getLast? ≠ some '\n' := by
      cases cs with
      | nil => simp
      | cons d cs => rwa [List.getLast?_cons_cons] at hends
    -- a carriage return would be another line end
    have hreturn : c ≠ '\r' := by
      rintro rfl
      exact absurd (hbreaks '\r' List.mem_cons_self rfl) (by decide)
    rw [Text.splitLinesFrom]
    · split
      · next hbreak =>
        obtain rfl := hbreaks c List.mem_cons_self hbreak
        have hcs : cs ≠ [] := by
          rintro rfl
          exact hends rfl
        -- behind a newline there is another line
        obtain ⟨l, ls, hls⟩ := List.exists_cons_of_ne_nil (splitLinesFrom_ne_nil [] (.inr hcs))
        have hmore := ih [] hbreaks' hends'
        rw [hls] at hmore ⊢
        rw [List.intercalate_cons_cons, hmore]
        simp
      · rw [ih (c :: line) hbreaks' hends']
        simp
    · exact fun _ hc => absurd hc hreturn

/-- A part on lines of its own is the part, indented. -/
theorem toList_blockPart (l : Layout) (level : Int) {part : String}
    (hbreaks : ∀ c ∈ part.toList, isLineBreak c = true → c = '\n')
    (hends : part.toList.getLast? ≠ some '\n') :
    (l.blockPart level part).toList =
      List.replicate (l.step * (level + 1).toNat) ' ' ++ (part.toList ++ [',']) := by
  have hjoin := intercalate_splitLinesFrom [] hbreaks hends
  rw [List.reverse_nil, List.nil_append] at hjoin
  have hlines : Text.linesOf part = (Text.splitLinesFrom [] part.toList).map String.ofList := rfl
  -- the first line gets the indent, and the others have theirs
  cases hsplit : Text.splitLinesFrom [] part.toList with
  | nil =>
    rw [hsplit] at hjoin hlines
    rw [← hjoin]
    simp [blockPart, hlines, indent, Text.spaces]
  | cons line lines =>
    rw [hsplit] at hjoin hlines
    rw [← hjoin]
    simp [blockPart, hlines, indent, Text.spaces, String.toList_intercalate, Function.comp_def]

/-! ### Parts between brackets -/

section Parts

variable {ps : List (List Char)} {tss : List (List Token)} {depth : Nat} {rest : List Char}
  {more : List Token}

/-- A comma ends the token before it. -/
private theorem stops_comma (rest : List Char) : Stops (',' :: rest) :=
  .cons rfl rest

/-- Parts on one line have their tokens, with commas between them. -/
theorem lexes_inline (h : List.Forall₂ (Shows 1) ps tss) (hne : ps ≠ []) (hdepth : 1 ≤ depth)
    (comma : Bool) (hrest : Stops rest) (hmore : Lexes depth rest more) :
    Lexes depth ([',', ' '].intercalate ps ++ ((if comma then [','] else []) ++ rest))
      (joined tss comma ++ more) := by
  -- on the parts: each is followed by a comma, but for the last
  induction h with
  | nil => exact absurd rfl hne
  | @cons p ts ps tss hp hps ih =>
    cases hps with
    | nil =>
      -- the last part is stopped by the trailing comma, or by what follows
      rw [List.intercalate_singleton, joined]
      cases comma with
      | false => exact hp.lexes hdepth hrest hmore
      | true =>
        rw [if_pos rfl, if_pos rfl, List.append_assoc]
        exact hp.lexes hdepth (stops_comma rest) (.mark rfl hmore)
    | cons _ _ =>
      rw [List.intercalate_cons_cons, Literal.joined_cons_cons]
      simp only [List.append_assoc]
      refine hp.lexes hdepth (stops_comma _) (.mark rfl ?_)
      exact .blank (.inl rfl) hdepth (ih (by simp))

/-- Parts on lines of their own have the same tokens, with a comma behind each. -/
theorem lexes_block (h : List.Forall₂ (Shows 1) ps tss) (hne : ps ≠ []) (hdepth : 1 ≤ depth)
    (n : Nat) (hmore : Lexes depth rest more) :
    Lexes depth
      (['\n'].intercalate (ps.map fun p => List.replicate n ' ' ++ (p ++ [','])) ++ rest)
      (joined tss true ++ more) := by
  -- on the parts: each stands behind its indent, and a comma behind it
  induction h with
  | nil => exact absurd rfl hne
  | @cons p ts ps tss hp hps ih =>
    cases hps with
    | nil =>
      rw [List.map_singleton, List.intercalate_singleton, joined, if_pos rfl]
      simp only [List.append_assoc]
      exact .blanks n hdepth (hp.lexes hdepth (stops_comma rest) (.mark rfl hmore))
    | cons _ _ =>
      have hmore := ih (by simp)
      rw [List.map_cons] at hmore ⊢
      rw [List.map_cons, List.intercalate_cons_cons, Literal.joined_cons_cons]
      simp only [List.append_assoc] at hmore ⊢
      refine .blanks n hdepth (hp.lexes hdepth (stops_comma _) (.mark rfl ?_))
      exact .blank (.inr rfl) hdepth hmore

/-- Whether all line ends of a text are newlines can be computed. -/
theorem breaks_of_all {cs : List Char} (h : cs.all (fun c => !isLineBreak c || c == '\n') = true) :
    ∀ c ∈ cs, isLineBreak c = true → c = '\n' := by
  intro c hc hbreak
  have hall := List.all_eq_true.mp h c hc
  simpa [hbreak] using hall

end Parts

section Arranged

variable {ps : List (List Char)} {tss : List (List Token)}

/-- Each of the parts has tokens. -/
private theorem exists_shows_of_mem (h : List.Forall₂ (Shows 1) ps tss) :
    ∀ p ∈ ps, ∃ ts, Shows 1 p ts := by
  intro p hp
  induction h with
  | nil => cases hp
  | @cons q ts _ _ hshows _ ih =>
    rcases List.mem_cons.mp hp with rfl | hp
    · exact ⟨ts, hshows⟩
    · exact ih hp

/-- All line ends of the parts are newlines. -/
private theorem breaks_parts (h : List.Forall₂ (Shows 1) ps tss) :
    ∀ p ∈ ps, ∀ c ∈ p, isLineBreak c = true → c = '\n' := by
  intro p hp
  obtain ⟨ts, hshows⟩ := exists_shows_of_mem h p hp
  exact hshows.breaks

/-- What stands between the brackets on one line. -/
theorem yields_inline (h : List.Forall₂ (Shows 1) ps tss) (hne : ps ≠ []) (comma : Bool) :
    Yields 1 ([',', ' '].intercalate ps ++ if comma then [','] else []) (joined tss comma) where
  lexes := by
    intro depth rest more hdepth hrest hmore
    rw [List.append_assoc]
    exact lexes_inline h hne hdepth comma hrest hmore
  breaks := by
    intro d hd
    rw [List.mem_append] at hd
    rcases hd with hd | hd
    · exact Text.forall_mem_intercalate (breaks_of_all (by decide)) (breaks_parts h) d hd
    · exact breaks_of_all (by cases comma <;> decide) d hd

/-- What stands between the brackets on many lines. -/
theorem yields_block (h : List.Forall₂ (Shows 1) ps tss) (hne : ps ≠ []) (n m : Nat) :
    Yields 1
      ('\n' :: (['\n'].intercalate (ps.map fun p => List.replicate n ' ' ++ (p ++ [','])) ++
        '\n' :: List.replicate m ' '))
      (joined tss true) where
  lexes := by
    intro depth rest more hdepth hrest hmore
    rw [List.cons_append, List.append_assoc]
    refine .blank (.inr rfl) hdepth (lexes_block h hne hdepth n ?_)
    exact .blank (.inr rfl) hdepth (.blanks m hdepth hmore)
  breaks := by
    -- blanks end no line
    have hblank : ∀ k, ∀ d ∈ List.replicate k ' ', isLineBreak d = true → d = '\n' := by
      intro k d hd hbreak
      rw [List.eq_of_mem_replicate hd] at hbreak
      cases hbreak
    -- nor do the commas
    have hparts : ∀ p ∈ ps.map fun p => List.replicate n ' ' ++ (p ++ [',']),
        ∀ d ∈ p, isLineBreak d = true → d = '\n' := by
      intro q hq d hd
      obtain ⟨p, hp, rfl⟩ := List.mem_map.mp hq
      rw [List.mem_append, List.mem_append, List.mem_singleton] at hd
      rcases hd with hd | hd | rfl
      · exact hblank n d hd
      · exact breaks_parts h p hp d hd
      · decide
    intro d hd
    rw [List.mem_cons, List.mem_append, List.mem_cons] at hd
    rcases hd with rfl | hd | rfl | hd
    · exact fun _ => rfl
    · exact Text.forall_mem_intercalate (breaks_of_all (by decide)) hparts d hd
    · exact fun _ => rfl
    · exact hblank m d hd

/-- Parts that have tokens are indented as they are. -/
private theorem map_blockPart (l : Layout) (level : Int) {parts : List String}
    (h : List.Forall₂ (Shows 1) (parts.map String.toList) tss) :
    (parts.map (l.blockPart level)).map String.toList =
      (parts.map String.toList).map fun p =>
        List.replicate (l.step * (level + 1).toNat) ' ' ++ (p ++ [',']) := by
  rw [List.map_map, List.map_map]
  refine List.map_congr_left fun part hpart => ?_
  obtain ⟨ts, hshows⟩ := exists_shows_of_mem h _ (List.mem_map_of_mem hpart)
  exact l.toList_blockPart level hshows.breaks hshows.ends

/-- The text that opens a bracket. -/
def openingText : Bracket → String
  | .round => "("
  | .square => "["
  | .curly => "\x7b"

/-- The text that closes a bracket. -/
def closingText : Bracket → String
  | .round => ")"
  | .square => "]"
  | .curly => "\x7d"

/-- Parts between brackets have the tokens of a display, on one line or on many.  A comma stands
    behind the last of them if one does on one line. -/
theorem exists_shows_arrange (l : Layout) (level : Int) (bracket : Bracket) (comma : Bool)
    {parts : List String} (h : List.Forall₂ (fun part ts => Shows 1 part.toList ts) parts tss) :
    ∃ comma', (tss = [] → comma' = false) ∧ (tss ≠ [] → comma = true → comma' = true) ∧
      Shows 0 (l.arrange level (openingText bracket) (closingText bracket)
          (if comma then "," else "") parts).toList
        (.opening bracket :: (joined tss comma' ++ [.closing bracket])) := by
  have hopening : (openingText bracket).toList = [bracket.opening] := by cases bracket <;> rfl
  have hclosing : (closingText bracket).toList = [closing bracket] := by cases bracket <;> rfl
  have htrailing : (if comma then "," else "").toList = if comma then [','] else [] := by
    cases comma <;> rfl
  generalize (if comma then "," else "") = trailing at htrailing ⊢
  have hshows : List.Forall₂ (Shows 1) (parts.map String.toList) tss :=
    List.forall₂_map_left_iff.mpr h
  by_cases hnil : parts = []
  · subst hnil
    cases h
    refine ⟨false, fun _ => rfl, fun hne => absurd rfl hne, ?_⟩
    have harrange : (l.arrange level (openingText bracket) (closingText bracket) trailing
        []).toList = bracket.opening :: ([] ++ [closing bracket]) := by
      simp [arrange, hopening, hclosing]
    rw [harrange]
    exact .display bracket (.nil 1)
  · have hne : parts.map String.toList ≠ [] := by simpa using hnil
    have hne' : tss ≠ [] := by
      rintro rfl
      cases h
      exact hnil rfl
    rw [arrange, if_neg (by simpa using hnil)]
    dsimp only
    -- widths and indents decide only which of the two it is
    split
    · -- on one line
      refine ⟨comma, fun h => absurd h hne', fun _ hcomma => hcomma, ?_⟩
      simp only [String.toList_append, String.toList_intercalate, hopening, hclosing, htrailing,
        List.cons_append, List.nil_append]
      exact .display bracket (yields_inline hshows hne comma)
    · -- on many lines, where every part has a comma behind it
      refine ⟨true, fun h => absurd h hne', fun _ _ => rfl, ?_⟩
      have hblock := Shows.display bracket
        (yields_block hshows hne (l.step * (level + 1).toNat) (l.step * level.toNat))
      rw [← map_blockPart l level hshows] at hblock
      simpa [block, hopening, hclosing, String.toList_intercalate, indent, Text.spaces] using hblock

end Arranged

/-! ### Collections -/

/-- A text was made, and it is read as the value. -/
def ReadsBack (result : Except Error String) (v : Value) : Prop :=
  ∃ text ts, result = .ok text ∧ Shows 0 text.toList ts ∧ Spells ts v

theorem ReadsBack.atom {text : String} {v : Value} (h : Shows 0 text.toList [.atom v]) :
    ReadsBack (.ok text) v :=
  ⟨text, [.atom v], rfl, h, .atom v⟩

section Items

variable {f : Value → Except Error String} {g : Value → Value} {items : List Value}

/-- The texts of items that read back. -/
theorem exists_parts (h : ∀ v ∈ items, ReadsBack (f v) (g v)) :
    ∃ parts tss, (items.map fun v => (v, f v)).mapM (·.2) = .ok parts ∧
      List.Forall₂ (fun part ts => Shows 1 part.toList ts) parts tss ∧
      List.Forall₂ Spells tss (items.map g) := by
  induction items with
  | nil => exact ⟨[], [], rfl, .nil, .nil⟩
  | cons v items ih =>
    obtain ⟨text, ts, htext, hshows, hspells⟩ := h v List.mem_cons_self
    obtain ⟨parts, tss, hparts, hshow, hspell⟩ := ih fun w hw => h w (List.mem_cons_of_mem _ hw)
    refine ⟨text :: parts, ts :: tss, ?_, .cons (hshows.mono (Nat.zero_le 1)) hshow,
      .cons hspells hspell⟩
    rw [List.map_cons, List.mapM_cons, htext, hparts]
    rfl

/-- An entry is a key, a colon and a value. -/
theorem shows_entryText {key value : String} {ks vs : List Token} (hkey : Shows 0 key.toList ks)
    (hvalue : Shows 0 value.toList vs) :
    Shows 1 (Value.entryText (key, value)).toList (ks ++ .colon :: vs) := by
  have htext : (Value.entryText (key, value)).toList =
      key.toList ++ (':' :: ' ' :: value.toList) := by
    simp [Value.entryText]
  rw [htext]
  refine (hkey.mono (Nat.zero_le 1)).append rfl ⟨⟨?_, ?_⟩, ?_⟩
  · intro depth rest more hdepth hrest hmore
    refine .mark rfl (.blank (.inl rfl) hdepth ?_)
    exact hvalue.lexes (Nat.zero_le depth) hrest hmore
  · intro d hd
    rw [List.mem_cons, List.mem_cons] at hd
    rcases hd with rfl | rfl | hd
    · decide
    · decide
    · exact hvalue.breaks d hd
  · -- the entry ends as its value does
    have hends := hvalue.ends
    cases hcs : value.toList with
    | nil => decide
    | cons d cs => rwa [List.getLast?_cons_cons, List.getLast?_cons_cons, ← hcs]

/-- The texts of entries whose keys and values read back. -/
theorem exists_entries {entries : List (Value × Value)}
    (h : ∀ e ∈ entries, ReadsBack (f e.1) (g e.1) ∧ ReadsBack (f e.2) (g e.2)) :
    ∃ keys values tss, (entries.map fun e => (f e.1, f e.2)).mapM (·.1) = .ok keys ∧
      (entries.map fun e => (f e.1, f e.2)).mapM (·.2) = .ok values ∧
      List.Forall₂ (fun part ts => Shows 1 part.toList ts)
        ((keys.zip values).map Value.entryText) tss ∧
      List.Forall₂ (fun ts e => SpellsPart ts (.entry e.1 e.2)) tss
        (entries.map fun e => (g e.1, g e.2)) := by
  -- keys and values are collected apart and joined again
  induction entries with
  | nil => exact ⟨[], [], [], rfl, rfl, .nil, .nil⟩
  | cons e entries ih =>
    obtain ⟨⟨key, ks, hkey, hks, hk⟩, value, vs, hvalue, hvs, hv⟩ := h e List.mem_cons_self
    obtain ⟨keys, values, tss, hkeys, hvalues, hshow, hspell⟩ :=
      ih fun e he => h e (List.mem_cons_of_mem _ he)
    refine ⟨key :: keys, value :: values, (ks ++ .colon :: vs) :: tss, ?_, ?_,
      .cons (shows_entryText hks hvs) hshow, .cons (hk.entry hv) hspell⟩
    · rw [List.map_cons, List.mapM_cons, hkey, hkeys]
      rfl
    · rw [List.map_cons, List.mapM_cons, hvalue, hvalues]
      rfl

/-- The text of a set that has no members. -/
theorem readsBack_arrangeSet_nil (l : Layout) (level : Int) (frozen : Bool) :
    ReadsBack (l.arrangeSet level (if frozen then "frozenset" else "set") frozen [])
      (if frozen then .frozenset [] else .set []) := by
  refine ⟨(if frozen then "frozenset" else "set") ++ "()", _, rfl, ?_, .className frozen⟩
  rw [String.toList_append]
  have hword : Literal.wordToken? (if frozen then "frozenset" else "set") =
      some (.className frozen) := by
    cases frozen <;> rfl
  exact .call hword (.nil 1)

/-- The members of a set, or only the name of its class. -/
theorem readsBack_arrangeSet (l : Layout) (level : Int) (frozen : Bool)
    (hkeys : Value.areKeys ((Value.shownOrder items).map g) = true)
    (h : ∀ v ∈ items, ReadsBack (f v) (g v)) :
    ReadsBack (l.arrangeSet level (if frozen then "frozenset" else "set") frozen
        (items.map fun v => (v, f v)))
      (if frozen then .frozenset ((Value.shownOrder items).map g)
        else .set ((Value.shownOrder items).map g)) := by
  have hperm := Value.perm_shownOrder items
  by_cases hne : items = []
  · subst hne
    rw [List.perm_nil.mp hperm]
    exact readsBack_arrangeSet_nil l level frozen
  -- the members are shown in order, and all of them are
  obtain ⟨parts, tss, hparts, hshow, hspell⟩ :=
    exists_parts fun v hv => h v (hperm.mem_iff.mp hv)
  have hne' : (Value.shownOrder items).map g ≠ [] := by
    intro hnil
    have hshown := List.map_eq_nil_iff.mp hnil
    rw [hshown] at hperm
    exact hne (List.nil_perm.mp hperm)
  obtain ⟨comma, -, -, hbody⟩ := exists_shows_arrange l level .curly false hshow
  have hset := Spells.set hspell hne' hkeys comma
  have hempty : (items.map fun v => (v, f v)).isEmpty = false := by simpa using hne
  rw [arrangeSet, hempty, Value.inSetOrder_map, hparts]
  cases frozen with
  | false => exact ⟨_, _, rfl, hbody, hset⟩
  | true =>
    -- the display of a set, with the name of the other class around it
    refine ⟨_, _, rfl, ?_, hset.frozenset⟩
    have hword : Literal.wordToken? "frozenset" = some (.className true) := rfl
    have hcall := Shows.call hword (hbody.mono (Nat.zero_le 1)).toYields
    rw [if_pos rfl, String.toList_append, String.toList_append, List.append_assoc]
    exact hcall

/-- The entries of a mapping. -/
theorem readsBack_arrangeEntries (l : Layout) (level : Int) {entries : List (Value × Value)}
    (hkeys : Value.areKeys (entries.map fun e => g e.1) = true)
    (h : ∀ e ∈ entries, ReadsBack (f e.1) (g e.1) ∧ ReadsBack (f e.2) (g e.2)) :
    ReadsBack (l.arrangeEntries level (entries.map fun e => (f e.1, f e.2)))
      (.dict (entries.map fun e => (g e.1, g e.2))) := by
  obtain ⟨keys, values, tss, hks, hvs, hshow, hspell⟩ := exists_entries h
  obtain ⟨comma, hnil, -, hbody⟩ := exists_shows_arrange l level .curly false hshow
  have hkeys' : Value.areKeys ((entries.map fun e => (g e.1, g e.2)).map (·.1)) = true := by
    rwa [List.map_map]
  refine ⟨_, _, ?_, hbody, .dict hspell hkeys' fun hentries => hnil ?_⟩
  · rw [arrangeEntries, hks, hvs]
    rfl
  · rw [hentries] at hspell
    cases hspell
    rfl

end Items

/-! ### Values -/

/-- The texts of items, each beside its item. -/
theorem renderItems_eq (l : Layout) (level : Int) (items : List Value) :
    l.renderItems level items = items.map fun v => (v, l.render level v) := by
  induction items with
  | nil => rw [renderItems, List.map_nil]
  | cons v items ih => rw [renderItems, ih, List.map_cons]

/-- The texts of entries. -/
theorem renderEntries_eq (l : Layout) (level : Int) (entries : List (Value × Value)) :
    l.renderEntries level entries =
      entries.map fun e => (l.render level e.1, l.render level e.2) := by
  induction entries with
  | nil => rw [renderEntries, List.map_nil]
  | cons e entries ih => rw [renderEntries, ih, List.map_cons]

/-- Whatever is not too deep has items that are not too deep one level down. -/
private theorem depth_items {l : Layout} {level : Int} {items : List Value}
    (h : level + Value.depthItems items ≤ l.maxDepth) {v : Value} (hv : v ∈ items) :
    level + 1 + v.depth ≤ l.maxDepth := by
  have hlt := Value.depth_lt_of_mem hv
  omega

/-- The text of a value is read as that value, with the members of its sets as they are shown. -/
theorem readsBack_render (l : Layout) {v : Value} (h : v.isLiteral = true) {level : Int}
    (hdepth : level + v.depth ≤ l.maxDepth) : ReadsBack (l.render level v) v.arranged := by
  -- no part is too deep, so that nothing is left out
  have hshown : ∀ {v : Value} {level : Int}, level + v.depth ≤ l.maxDepth →
      ¬ l.maxDepth < level := by
    intro v level h
    omega
  -- on the value; one level down its parts are not too deep either
  induction v, h using Value.literal_induction generalizing level with
  | none =>
    rw [render.eq_def, if_neg (hshown hdepth)]
    exact .atom (.word rfl)
  | bool b =>
    rw [render.eq_def, if_neg (hshown hdepth)]
    cases b <;> exact .atom (.word rfl)
  | int n h =>
    rw [render.eq_def, if_neg (hshown hdepth)]
    exact .atom (.int h)
  | str s =>
    rw [render.eq_def, if_neg (hshown hdepth)]
    exact .atom (.str s)
  | bytes b =>
    rw [render.eq_def, if_neg (hshown hdepth)]
    exact .atom (.bytes b)
  | list items _ ih =>
    obtain ⟨parts, tss, hparts, hshow, hspell⟩ :=
      exists_parts fun v hv => ih v hv (depth_items hdepth hv)
    obtain ⟨comma, hnil, -, hbody⟩ := exists_shows_arrange l level .square false hshow
    rw [render, if_neg (hshown hdepth), renderItems_eq, hparts, Value.arranged_list]
    refine ⟨_, _, rfl, hbody, .list hspell fun hitems => hnil ?_⟩
    rw [hitems] at hspell
    cases hspell
    rfl
  | tuple items _ ih =>
    obtain ⟨parts, tss, hparts, hshow, hspell⟩ :=
      exists_parts fun v hv => ih v hv (depth_items hdepth hv)
    obtain ⟨comma, hnil, hone, hbody⟩ :=
      exists_shows_arrange l level .round (parts.length == 1) hshow
    rw [render, if_neg (hshown hdepth), renderItems_eq, hparts, Value.arranged_tuple]
    refine ⟨_, _, rfl, hbody, .tuple hspell (fun hitems => hnil ?_) fun hitems => hone ?_ ?_⟩
    · rw [hitems] at hspell
      cases hspell
      rfl
    · -- one item has one text, and the comma stands behind it
      rintro rfl
      rw [← hspell.length_eq] at hitems
      cases hitems
    · rw [hshow.length_eq, hspell.length_eq, hitems]
      rfl
  | set items hliteral hkeys ih =>
    have hkeys' := Value.areKeys_arranged (Value.perm_shownOrder items) hliteral hkeys
    rw [render, if_neg (hshown hdepth), renderItems_eq, Value.arranged_set]
    exact readsBack_arrangeSet l level false hkeys' fun v hv => ih v hv (depth_items hdepth hv)
  | frozenset items hliteral hkeys ih =>
    have hkeys' := Value.areKeys_arranged (Value.perm_shownOrder items) hliteral hkeys
    rw [render, if_neg (hshown hdepth), renderItems_eq, Value.arranged_frozenset]
    exact readsBack_arrangeSet l level true hkeys' fun v hv => ih v hv (depth_items hdepth hv)
  | dict entries hliteral hkeys ih =>
    have hkeys' : Value.areKeys (entries.map fun e => e.1.arranged) = true := by
      have hliteral' : ∀ v ∈ entries.map (·.1), v.isLiteral = true := by
        intro v hv
        obtain ⟨e, he, rfl⟩ := List.mem_map.mp hv
        exact (hliteral e he).1
      have hkeys' := Value.areKeys_arranged (.refl _) hliteral' hkeys
      rwa [List.map_map] at hkeys'
    rw [render, if_neg (hshown hdepth), renderEntries_eq, Value.arranged_dict]
    refine readsBack_arrangeEntries l level hkeys' fun e he => ?_
    have hlt := Value.depth_lt_of_mem_entries he
    rw [Value.depth] at hdepth
    exact ⟨(ih e he).1 (by omega), (ih e he).2 (by omega)⟩

/-- A text that has the tokens of a value is read as the value. -/
theorem ReadsBack.read? {result : Except Error String} {v : Value} (h : ReadsBack result v) :
    ∃ text, result = .ok text ∧ Literal.read? text = some v := by
  obtain ⟨text, ts, hresult, hshows, hspells⟩ := h
  have hlexes := hshows.lexes (Nat.le_refl 0) .nil (.nil 0)
  -- the reader has fuel for all characters, and then for all tokens
  have htokens := hlexes (text.length + 1) (by
    rw [List.append_nil, String.length_toList]
    exact Nat.lt_succ_self _)
  have hvalue := hspells (3 * ts.length + 1) [] (Nat.lt_succ_self _)
  rw [List.append_nil, List.append_nil] at htokens
  rw [List.append_nil] at hvalue
  refine ⟨text, hresult, ?_⟩
  rw [Literal.read?, htokens]
  simp only [Option.bind_eq_bind, Option.bind_some, hvalue]

/-- The text of a value reads back, whatever the width and the indent, if the layout is deep
    enough for the value: reading gives the value, with the members of its sets in the order in
    which they are shown, and that equals the value. -/
theorem read?_render (l : Layout) {v : Value} (h : v.isLiteral = true)
    (hdepth : (v.depth : Int) ≤ l.maxDepth) :
    ∃ text, l.render 0 v = .ok text ∧ Literal.read? text = some v.arranged ∧
      v.same v.arranged = true ∧ v.arranged.same v = true := by
  have hlevel : 0 + (v.depth : Int) ≤ l.maxDepth := by omega
  obtain ⟨text, htext, hread⟩ := (readsBack_render l h hlevel).read?
  refine ⟨text, htext, hread, ?_, ?_⟩
  · rw [Value.same_arranged_right h h, Value.same_self h]
  · rw [Value.same_arranged_left h, Value.same_self h]

/-- A mapping with a key that is a collection itself, members out of order, and collections that
    hold one part or none. -/
def nested : Value :=
  .dict [(.tuple [.str "it's\n", .frozenset []], .list [.set [.int 2, .int (-1)], .dict []]),
    (.bytes [39, 0], .tuple [.set [], .none, .bool true]), (.frozenset [.int 3], .tuple [.list []])]

/-- Where nothing fits on a line, each part stands on a line of its own. -/
theorem read?_render_nested :
    nested.isLiteral = true ∧ nested.depth = 3 ∧
      ∃ text, ({ width := 1, maxDepth := 3 } : Layout).render 0 nested = .ok text ∧
        Literal.read? text = some nested.arranged ∧ nested.same nested.arranged = true ∧
        nested.arranged.same nested = true := by
  have hliteral : nested.isLiteral = true := by
    simp +decide [nested, Value.isLiteral, Value.areLiteralEntries, Value.areLiterals,
      Value.areKeys, Literal.isKey, Value.unhashable?, Value.unhashableItem?, Value.same,
      Value.plain, Value.number?, Value.tupleItems?]
  exact ⟨hliteral, by decide, read?_render _ hliteral (by decide)⟩

end ReplEngine.Layout
