/-!
# Line ends of files

Files end their lines with line feeds, carriage returns, or both; texts that are read from files
have line feeds only.

## Main definitions

* `unifyLineEnds` — a text with line feeds only

## Main results

* `not_mem_unifyLineEnds`, `unifyLineEnds_of_not_mem` — no carriage return is left, and a text
  without any is left as it is
-/

namespace Supergraph.Text

/-- The characters of a file with line feeds for all line ends. -/
def unifyLineEnds : List Char → List Char
  | '\r' :: '\n' :: rest => '\n' :: unifyLineEnds rest
  | '\r' :: rest => '\n' :: unifyLineEnds rest
  | c :: rest => c :: unifyLineEnds rest
  | [] => []

/-- No carriage return is left. -/
theorem not_mem_unifyLineEnds (cs : List Char) : '\r' ∉ unifyLineEnds cs := by
  fun_induction unifyLineEnds cs with
  | case1 rest ih => simp [ih]
  | case2 rest _ ih => simp [ih]
  | case3 c rest _ other ih =>
    have : c ≠ '\r' := fun same => other same
    simp [ih, Ne.symm this]
  | case4 => simp

/-- A text without carriage returns is left as it is. -/
theorem unifyLineEnds_of_not_mem {cs : List Char} (absent : '\r' ∉ cs) : unifyLineEnds cs = cs := by
  fun_induction unifyLineEnds cs with
  | case1 rest ih => simp at absent
  | case2 rest _ ih => simp at absent
  | case3 c rest _ _ ih => rw [ih fun member => absent (List.mem_cons_of_mem c member)]
  | case4 => rfl

end Supergraph.Text
