import Mathlib.Tactic.Ring
import Supergraph.Text.Quoted

/-!
# The tokens of emitted modules

The text of a module falls into texts between quotes, words, marks and the ends of lines; blanks and
comments fall out. A text between quotes stands for its characters, with the escapes read back, so
that a quoted text is one token: the text itself.

## Main definitions

* `Token` — texts, words, marks, ends of lines
* `Scan`, `Scan.step` — where a scanner stands, and what one character does to it
* `Scan.Passes` — characters that lead a scanner on within one token
* `tokens?` — the tokens of a text that is scanned to its end

## Main results

* `tokens?_quotedChars` — a quoted text scans back to the text
* `tokens?_word`, `tokens?_cons`, `tokens?_comment` — the other tokens
-/

namespace Supergraph.Reading

/-- What the text of a module falls into. -/
inductive Token where
  | text (value : String)
  | word (value : String)
  | mark (c : Char)
  | lineEnd
  deriving DecidableEq, Repr

/-- The characters of words, which are names, constants and numbers. -/
def isWordChar (c : Char) : Bool :=
  c.isAlphanum || c == '_' || c == '.' || c == '-' || c == '+'

/-- The value of a hexadecimal digit. -/
def hexValue? (c : Char) : Option Nat :=
  if '0' ≤ c ∧ c ≤ '9' then some (c.toNat - 48)
  else if 'a' ≤ c ∧ c ≤ 'f' then some (c.toNat - 87)
  else if 'A' ≤ c ∧ c ≤ 'F' then some (c.toNat - 55)
  else none

/-- Where a scanner stands. -/
inductive Scan where
  | between
  | word (cs : List Char)
  | comment
  | text (quote : Char) (cs : List Char)
  | escape (quote : Char) (cs : List Char)
  /-- In the digits of a character code: how many follow the next one, and the code so far. -/
  | code (quote : Char) (cs : List Char) (more value : Nat)
  deriving DecidableEq, Repr

namespace Scan

/-- What a character begins that does not continue a token. -/
def start (c : Char) : Scan × List Token :=
  if isWordChar c then (word [c], [])
  else if c = '\'' ∨ c = '"' then (text c [], [])
  else if c = '#' then (comment, [])
  else if c = '\n' then (between, [.lineEnd])
  else if c = ' ' then (between, [])
  else (between, [.mark c])

/-- What a character after a backslash means. -/
def unescape (quote : Char) (cs : List Char) (c : Char) : Option Scan :=
  if c = '\\' ∨ c = '\'' ∨ c = '"' then some (text quote (cs ++ [c]))
  else if c = 't' then some (text quote (cs ++ ['\t']))
  else if c = 'n' then some (text quote (cs ++ ['\n']))
  else if c = 'r' then some (text quote (cs ++ ['\r']))
  else if c = 'x' then some (code quote cs 1 0)
  else if c = 'u' then some (code quote cs 3 0)
  else if c = 'U' then some (code quote cs 7 0)
  else none

/-- What a digit of a character code does, given the code with the digit. -/
def decode (quote : Char) (cs : List Char) (more value : Nat) : Option Scan :=
  match more with
  | more + 1 => some (code quote cs more value)
  | 0 => if value.isValidChar then some (text quote (cs ++ [Char.ofNat value])) else none

/-- One character: where the scanner stands then, and the tokens that have ended. -/
def step : Scan → Char → Option (Scan × List Token)
  | between, c => some (start c)
  | word cs, c =>
    if isWordChar c then some (word (cs ++ [c]), [])
    else some ((start c).1, .word (String.ofList cs) :: (start c).2)
  | comment, c => if c = '\n' then some (between, [.lineEnd]) else some (comment, [])
  | text quote cs, c =>
    if c = quote then some (between, [.text (String.ofList cs)])
    else if c = '\\' then some (escape quote cs, [])
    -- A line does not end between quotes.
    else if c = '\n' ∨ c = '\r' then none
    else some (text quote (cs ++ [c]), [])
  | escape quote cs, c => (unescape quote cs c).map (·, [])
  | code quote cs more value, c =>
    (hexValue? c).bind fun digit => (decode quote cs more (16 * value + digit)).map (·, [])

/-- The tokens at the end of a text. -/
def finish : Scan → Option (List Token)
  | between | comment => some []
  | word cs => some [.word (String.ofList cs)]
  | text .. | escape .. | code .. => none

/-- The tokens of the characters that follow. -/
def scan (s : Scan) : List Char → Option (List Token)
  | [] => s.finish
  | c :: cs => (s.step c).bind fun (s', tokens) => (s'.scan cs).map (tokens ++ ·)

end Scan

/-- The tokens of a text. -/
def tokens? (cs : List Char) : Option (List Token) :=
  Scan.between.scan cs

namespace Scan

/-- Characters that lead a scanner on within one token: where it stands before and after them. -/
inductive Passes : List Char → Scan → Scan → Prop
  | nil (s : Scan) : Passes [] s s
  | cons {c : Char} {cs : List Char} {s s' t : Scan} (stepped : s.step c = some (s', []))
      (rest : Passes cs s' t) : Passes (c :: cs) s t

namespace Passes

variable {cs more : List Char} {s t u : Scan}

theorem append (first : Passes cs s t) (second : Passes more t u) : Passes (cs ++ more) s u := by
  induction first with
  | nil => exact second
  | cons stepped _ ih => exact .cons stepped (ih second)

/-- What follows is scanned from where the scanner stands then. -/
theorem scan (passes : Passes cs s t) (rest : List Char) : s.scan (cs ++ rest) = t.scan rest := by
  induction passes with
  | nil => rfl
  | cons stepped _ ih =>
    rw [List.cons_append, Scan.scan, stepped]
    exact Option.map_id_apply.trans ih

end Passes

end Scan

section Step

variable {s s' : Scan} {c : Char} {cs rest : List Char}

theorem scan_of_step (stepped : s.step c = some (s', [])) : s.scan (c :: rest) = s'.scan rest := by
  rw [Scan.scan, stepped]
  exact Option.map_id_apply

theorem scan_of_step_token {t : Token} (stepped : s.step c = some (.between, [t])) :
    s.scan (c :: rest) = (tokens? rest).map (t :: ·) := by
  rw [Scan.scan, stepped]
  rfl

end Step

/-! ### Texts between quotes -/

section Quoted

variable {quote : Char} {cs more rest : List Char} {value : Nat}

theorem hexValue?_hexDigit {n : Nat} (small : n < 16) : hexValue? (Text.hexDigit n) = some n := by
  have all : ∀ n < 16, hexValue? (Text.hexDigit n) = some n := by decide
  exact all n small

/-- Digits that are followed by further ones make up their part of the code. -/
theorem passes_hexDigits {more : Nat} (width n : Nat) :
    Scan.Passes (Text.hexDigits width n) (.code quote cs (more + width) value)
      (.code quote cs more (value * 16 ^ width + n % 16 ^ width)) := by
  induction width generalizing n more with
  | zero =>
    rw [Nat.pow_zero, Nat.mul_one, Nat.mod_one]
    exact .nil _
  | succ w ih =>
    have digit : n % 16 < 16 := Nat.mod_lt n (by decide)
    -- The last digit is read after those of the sixteenth part.
    have stepped : (Scan.code quote cs (more + 1) (value * 16 ^ w + n / 16 % 16 ^ w)).step
        (Text.hexDigit (n % 16)) =
          some (.code quote cs more (16 * (value * 16 ^ w + n / 16 % 16 ^ w) + n % 16), []) := by
      rw [Scan.step, hexValue?_hexDigit digit]
      rfl
    have code : 16 * (value * 16 ^ w + n / 16 % 16 ^ w) + n % 16 =
        value * 16 ^ (w + 1) + n % 16 ^ (w + 1) := by
      rw [Nat.pow_succ', Nat.mod_mul]
      ring
    rw [Text.hexDigits, ← code, ← Nat.add_assoc, Nat.add_right_comm]
    exact (ih (n / 16)).append (.cons stepped (.nil _))

/-- The digits of the code of a character stand for the character. -/
theorem passes_hexDigits_toNat {c : Char} {width : Nat} (small : c.toNat < 16 ^ (width + 1)) :
    Scan.Passes (Text.hexDigits (width + 1) c.toNat) (.code quote cs width 0)
      (.text quote (cs ++ [c])) := by
  have digit : c.toNat % 16 < 16 := Nat.mod_lt _ (by decide)
  have code : 16 * (0 * 16 ^ width + c.toNat / 16 % 16 ^ width) + c.toNat % 16 = c.toNat := by
    rw [Nat.zero_mul, Nat.zero_add, Nat.mod_eq_of_lt, Nat.div_add_mod]
    exact Nat.div_lt_of_lt_mul (by rwa [← Nat.pow_succ'])
  have stepped : (Scan.code quote cs 0 (0 * 16 ^ width + c.toNat / 16 % 16 ^ width)).step
      (Text.hexDigit (c.toNat % 16)) = some (.text quote (cs ++ [c]), []) := by
    rw [Scan.step, hexValue?_hexDigit digit, Option.bind_some, code, Scan.decode,
      if_pos (show c.toNat.isValidChar from c.valid), Char.ofNat_toNat]
    rfl
  have before := @passes_hexDigits quote cs 0 0 width (c.toNat / 16)
  rw [Nat.zero_add] at before
  exact before.append (.cons stepped (.nil _))

theorem passes_escape {c : Char} {s t : Scan} (other : '\\' ≠ quote)
    (meant : Scan.unescape quote cs c = some s) (rest : Scan.Passes more s t) :
    Scan.Passes ('\\' :: c :: more) (.text quote cs) t := by
  have opened : (Scan.text quote cs).step '\\' = some (.escape quote cs, []) := by
    rw [Scan.step, if_neg other, if_pos rfl]
  have closed : (Scan.escape quote cs).step c = some (s, []) := by
    rw [Scan.step, meant]
    rfl
  exact .cons opened (.cons closed rest)

/-- A character as it stands between quotes scans back to the character. -/
theorem passes_escapeChar {c : Char} (isQuote : quote = '\'' ∨ quote = '"') :
    Scan.Passes (Text.escapeChar quote c) (.text quote cs) (.text quote (cs ++ [c])) := by
  have other : '\\' ≠ quote := by
    rcases isQuote with rfl | rfl <;> decide
  rw [Text.escapeChar]
  split_ifs with escaped tab newline back printable short medium
  · -- The quote and the backslash stand behind a backslash.
    refine passes_escape other ?_ (.nil _)
    rw [Scan.unescape, if_pos]
    simp only [Bool.or_eq_true, beq_iff_eq] at escaped
    rcases escaped with rfl | rfl
    · exact .inr isQuote
    · exact .inl rfl
  · obtain rfl := beq_iff_eq.1 tab
    exact passes_escape other rfl (.nil _)
  · obtain rfl := beq_iff_eq.1 newline
    exact passes_escape other rfl (.nil _)
  · obtain rfl := beq_iff_eq.1 back
    exact passes_escape other rfl (.nil _)
  · -- A printable character stands for itself.
    simp only [Bool.or_eq_true, beq_iff_eq, not_or] at escaped tab newline back
    refine .cons ?_ (.nil _)
    rw [Scan.step, if_neg escaped.1, if_neg escaped.2, if_neg (not_or.2 ⟨newline, back⟩)]
  · -- The others are given by their codes, in two, four or eight digits.
    exact passes_escape other (s := .code quote cs 1 0) rfl (passes_hexDigits_toNat short)
  · exact passes_escape other (s := .code quote cs 3 0) rfl (passes_hexDigits_toNat medium)
  · have bound : c.toNat < 16 ^ 8 := c.val.toNat_lt
    exact passes_escape other (s := .code quote cs 7 0) rfl (passes_hexDigits_toNat bound)

theorem passes_flatMap_escapeChar (isQuote : quote = '\'' ∨ quote = '"') (more : List Char) :
    Scan.Passes (more.flatMap (Text.escapeChar quote)) (.text quote cs)
      (.text quote (cs ++ more)) := by
  induction more generalizing cs with
  | nil =>
    rw [List.append_nil]
    exact .nil _
  | cons c more ih =>
    have others := (passes_escapeChar isQuote).append (@ih (cs ++ [c]))
    rwa [List.append_assoc, List.singleton_append] at others

theorem quoteFor_eq (cs : List Char) : Text.quoteFor cs = '\'' ∨ Text.quoteFor cs = '"' := by
  rw [Text.quoteFor]
  split
  · exact .inr rfl
  · exact .inl rfl

/-- A quoted text is one token, the text. -/
theorem tokens?_quotedChars (cs rest : List Char) :
    tokens? (Text.quotedChars cs ++ rest) =
      (tokens? rest).map (.text (String.ofList cs) :: ·) := by
  have isQuote := quoteFor_eq cs
  have opened : Scan.between.step (Text.quoteFor cs) = some (.text (Text.quoteFor cs) [], []) := by
    rcases isQuote with quote | quote <;> rw [quote] <;> rfl
  have closed : (Scan.text (Text.quoteFor cs) cs).step (Text.quoteFor cs) =
      some (.between, [.text (String.ofList cs)]) := by
    rw [Scan.step, if_pos rfl]
  rw [tokens?, Text.quotedChars, List.append_assoc, List.cons_append, scan_of_step opened,
    (passes_flatMap_escapeChar isQuote cs).scan, List.nil_append, List.singleton_append,
    scan_of_step_token closed]

/-- Characters that stand for themselves between the given quotes. -/
def IsPlain (quote : Char) (cs : List Char) : Prop :=
  ∀ c ∈ cs, c ≠ quote ∧ c ≠ '\\' ∧ c ≠ '\n' ∧ c ≠ '\r'

instance (quote : Char) (cs : List Char) : Decidable (IsPlain quote cs) :=
  decidable_of_iff (cs.all (fun c => c ≠ quote ∧ c ≠ '\\' ∧ c ≠ '\n' ∧ c ≠ '\r') = true)
    (by simp [IsPlain])

/-- Plain characters between double quotes are one token. -/
theorem tokens?_plain (plain : IsPlain '"' cs) :
    tokens? ('"' :: cs ++ '"' :: rest) = (tokens? rest).map (.text (String.ofList cs) :: ·) := by
  have passed : ∀ before, (Scan.text '"' before).scan (cs ++ '"' :: rest) =
      (tokens? rest).map (.text (String.ofList (before ++ cs)) :: ·) := by
    induction cs with
    | nil =>
      intro before
      rw [List.append_nil]
      exact scan_of_step_token (by rw [Scan.step, if_pos rfl])
    | cons c cs ih =>
      intro before
      obtain ⟨noQuote, noEscape, noBreak⟩ := plain c List.mem_cons_self
      have stepped : (Scan.text '"' before).step c = some (.text '"' (before ++ [c]), []) := by
        rw [Scan.step, if_neg noQuote, if_neg noEscape, if_neg (not_or.2 noBreak)]
      rw [List.cons_append, scan_of_step stepped, ih fun d member =>
        plain d (List.mem_cons_of_mem c member), List.append_assoc, List.singleton_append]
  have opened : Scan.between.step '"' = some (.text '"' [], []) := rfl
  rw [tokens?, List.cons_append, scan_of_step opened, passed, List.nil_append]

end Quoted

/-! ### Words, marks and comments -/

/-- The characters of a text can all stand in a word. -/
def Letters (cs : List Char) : Prop :=
  ∀ c ∈ cs, isWordChar c

instance (cs : List Char) : Decidable (Letters cs) :=
  decidable_of_iff (cs.all isWordChar = true) List.all_eq_true

theorem Letters.append {a b : List Char} (first : Letters a) (second : Letters b) :
    Letters (a ++ b) := by
  intro c member
  rcases List.mem_append.1 member with before | after
  · exact first c before
  · exact second c after

theorem Letters.cons {c : Char} {cs : List Char} (first : isWordChar c) (others : Letters cs) :
    Letters (c :: cs) := by
  intro d member
  rcases List.mem_cons.1 member with rfl | member
  · exact first
  · exact others d member

/-- The characters of a text are blanks. -/
def Blanks (cs : List Char) : Prop :=
  ∀ c ∈ cs, c = ' '

instance (cs : List Char) : Decidable (Blanks cs) :=
  decidable_of_iff (cs.all (· == ' ') = true) (by simp [Blanks])

/-- A text that is one word. -/
def IsWord (cs : List Char) : Prop :=
  cs ≠ [] ∧ Letters cs

instance (cs : List Char) : Decidable (IsWord cs) :=
  inferInstanceAs (Decidable (cs ≠ [] ∧ Letters cs))

section Plain

variable {c : Char} {cs word rest : List Char} {ts : List Token}

/-- A character that is a token of its own, or none, is read on its own. -/
theorem tokens?_cons (alone : Scan.start c = (.between, ts)) :
    tokens? (c :: rest) = (tokens? rest).map (ts ++ ·) := by
  rw [tokens?, Scan.scan, Scan.step, alone]
  rfl

theorem scan_word_append (letters : Letters word) :
    (Scan.word cs).scan (word ++ rest) = (Scan.word (cs ++ word)).scan rest := by
  induction word generalizing cs with
  | nil => rw [List.nil_append, List.append_nil]
  | cons c word ih =>
    have stepped : (Scan.word cs).step c = some (.word (cs ++ [c]), []) := by
      rw [Scan.step, if_pos (letters c List.mem_cons_self)]
    rw [List.cons_append, scan_of_step stepped, ih fun d member =>
      letters d (List.mem_cons_of_mem c member), List.append_assoc, List.singleton_append]

/-- A word before another character is one token. -/
theorem tokens?_word (isWord : IsWord word) (ends : isWordChar c = false) :
    tokens? (word ++ c :: rest) =
      (tokens? (c :: rest)).map (.word (String.ofList word) :: ·) := by
  obtain ⟨nonempty, letters⟩ := isWord
  obtain ⟨d, word, rfl⟩ := List.exists_cons_of_ne_nil nonempty
  have opened : Scan.between.step d = some (.word [d], []) := by
    rw [Scan.step, Scan.start, if_pos (letters d List.mem_cons_self)]
  -- The word has ended when a character is read that cannot stand in one.
  have closed : (Scan.word (d :: word)).step c =
      some ((Scan.start c).1, .word (String.ofList (d :: word)) :: (Scan.start c).2) := by
    rw [Scan.step, if_neg (by simp [ends])]
  rw [tokens?, List.cons_append, scan_of_step opened, scan_word_append fun e member =>
    letters e (List.mem_cons_of_mem d member), List.singleton_append, Scan.scan, closed, tokens?,
    Scan.scan, Scan.step]
  simp only [Option.bind_some, Option.map_map]
  rfl

/-- A comment falls out up to the end of its line. -/
theorem tokens?_comment (inside : '\n' ∉ cs) :
    tokens? ('#' :: cs ++ '\n' :: rest) = tokens? ('\n' :: rest) := by
  have opened : Scan.between.step '#' = some (.comment, []) := rfl
  rw [tokens?, List.cons_append, scan_of_step opened]
  induction cs with
  | nil => rfl
  | cons c cs ih =>
    rw [List.mem_cons, not_or] at inside
    have stepped : Scan.comment.step c = some (.comment, []) := by
      rw [Scan.step, if_neg (Ne.symm inside.1)]
    rw [List.cons_append, scan_of_step stepped, ih inside.2]

end Plain

end Supergraph.Reading
