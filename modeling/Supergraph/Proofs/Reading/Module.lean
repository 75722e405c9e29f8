import Supergraph.Proofs.Reading.Scanner

/-!
# What emitted modules bind

A module binds names to expressions, one statement after the other, up to its first function. Lists
and dicts may extend over several lines and may end with a comma; a type annotation between the name
and the value is passed over. Words are kept as they are spelled. Of equal keys of a dict the last
counts, and so does the last binding of a name.

## Main definitions

* `Expr` — texts, words, lists and dicts, with `Expr.member?` for looking a key up
* `State`, `State.take` — where a reader stands, and what one token does to it
* `readFrom` — where a reader stands after a text
* `bindings?`, `bound?` — what a module binds

## Main results

* `readFrom_of_token` — reading goes token by token
* `readFrom_quotedChars`, `readFrom_word`, `readFrom_cons`, `readFrom_comment` — the single tokens
-/

namespace Supergraph.Reading

/-- An expression of a module. Words are names, constants and numbers as they are spelled. -/
inductive Expr where
  | text (value : String)
  | word (value : String)
  | list (items : List Expr)
  | dict (members : List (Expr × Expr))
  deriving Repr, Inhabited

namespace Expr

/-- Whether the expression is the given text. -/
def isText (value : String) : Expr → Bool
  | text s => s = value
  | _ => false

/-- The value of the last member of a dict whose key is the given text. -/
def member? (e : Expr) (key : String) : Option Expr :=
  match e with
  | dict members => (members.reverse.find? fun m => m.1.isText key).map Prod.snd
  | _ => none

end Expr

/-- A list or a dict that has begun: the items so far, or the members so far, perhaps with the key
of the member that has begun. -/
inductive Frame where
  | list (items : List Expr)
  | dict (members : List (Expr × Expr))
  | member (members : List (Expr × Expr)) (key : Expr)
  deriving Inhabited

/-- Where a reader stands in a statement. -/
inductive Stage where
  | start
  | named (name : String)
  | annotated (name : String)
  /-- Before a value in the frames, the innermost first. -/
  | before (name : String) (frames : List Frame)
  /-- After a value in the frames. -/
  | after (name : String) (frames : List Frame) (value : Expr)
  /-- In a function, which is not read. -/
  | function
  deriving Inhabited

namespace Stage

/-- What a token does before a value. -/
def takeBefore (name : String) (frames : List Frame) : Token → Option Stage
  | .text s => some (after name frames (.text s))
  | .word w => some (after name frames (.word w))
  | .lineEnd => if frames.isEmpty then none else some (before name frames)
  | .mark c =>
    if c = '[' then some (before name (.list [] :: frames))
    else if c = '\x7b' then some (before name (.dict [] :: frames))
    else
      match frames with
      | .list items :: frames => if c = ']' then some (after name frames (.list items)) else none
      | .dict members :: frames =>
        if c = '\x7d' then some (after name frames (.dict members)) else none
      | _ => none

/-- What a mark does after a value in a frame. -/
def close (name : String) (frames : List Frame) (value : Expr) (c : Char) : Frame → Option Stage
  | .list items =>
    if c = ',' then some (before name (.list (items ++ [value]) :: frames))
    else if c = ']' then some (after name frames (.list (items ++ [value])))
    else none
  | .dict members => if c = ':' then some (before name (.member members value :: frames)) else none
  | .member members key =>
    if c = ',' then some (before name (.dict (members ++ [(key, value)]) :: frames))
    else if c = '\x7d' then some (after name frames (.dict (members ++ [(key, value)])))
    else none

end Stage

/-- What has been bound, and where the reader stands. -/
structure State where
  bound : List (String × Expr)
  stage : Stage
  deriving Inhabited

namespace State

/-- What a token does. -/
def take (s : State) (t : Token) : Option State :=
  match s.stage, t with
  | .start, .lineEnd => some s
  | .start, .word w => some { s with stage := if w = "def" then .function else .named w }
  | .named name, .mark '=' => some { s with stage := .before name [] }
  | .named name, .mark ':' => some { s with stage := .annotated name }
  | .annotated name, .mark '=' => some { s with stage := .before name [] }
  | .annotated _, .lineEnd => none
  | .annotated _, _ => some s
  | .before name frames, t => (Stage.takeBefore name frames t).map ({ s with stage := · })
  | .after name [] value, .lineEnd => some ⟨s.bound ++ [(name, value)], .start⟩
  | .after _ (_ :: _) _, .lineEnd => some s
  | .after name (frame :: frames) value, .mark c =>
    (Stage.close name frames value c frame).map ({ s with stage := · })
  | .function, _ => some s
  | _, _ => none

/-- What has been bound when the text has ended. -/
def result? (s : State) : Option (List (String × Expr)) :=
  match s.stage with
  | .start | .function => some s.bound
  | _ => none

end State

/-- Where a reader stands after a text that begins between tokens. -/
def readFrom (s : State) (cs : List Char) : Option State :=
  (tokens? cs).bind fun ts => ts.foldlM State.take s

/-- The names that a module binds, with their values. Its last line need not be ended. -/
def bindings? (text : String) : Option (List (String × Expr)) :=
  (readFrom ⟨[], .start⟩ (text.toList ++ ['\n'])).bind State.result?

/-- The value that a module binds to a name in the end. -/
def bound? (text name : String) : Option Expr :=
  (bindings? text).bind fun bindings => bindings.reverse.lookup name

/-! ### One token after the other -/

section ReadFrom

variable {s s' : State} {c : Char} {cs rest word : List Char} {t : Token}

theorem readFrom_of_token {after : List Char}
    (scanned : tokens? cs = (tokens? after).map (t :: ·)) (taken : s.take t = some s') :
    readFrom s cs = readFrom s' after := by
  rw [readFrom, scanned, readFrom]
  cases tokens? after with
  | none => rfl
  | some ts =>
    rw [Option.map_some, Option.bind_some, Option.bind_some, List.foldlM_cons, taken]
    rfl

theorem readFrom_quotedChars (taken : s.take (.text (String.ofList cs)) = some s') :
    readFrom s (Text.quotedChars cs ++ rest) = readFrom s' rest :=
  readFrom_of_token (tokens?_quotedChars cs rest) taken

theorem readFrom_word (isWord : IsWord word) (ends : isWordChar c = false)
    (taken : s.take (.word (String.ofList word)) = some s') :
    readFrom s (word ++ c :: rest) = readFrom s' (c :: rest) :=
  readFrom_of_token (tokens?_word isWord ends) taken

theorem readFrom_cons (alone : Scan.start c = (.between, [t])) (taken : s.take t = some s') :
    readFrom s (c :: rest) = readFrom s' rest :=
  readFrom_of_token (tokens?_cons alone) taken

@[simp] theorem readFrom_blank : readFrom s (' ' :: rest) = readFrom s rest := by
  have alone : Scan.start ' ' = (.between, []) := rfl
  rw [readFrom, tokens?_cons alone, readFrom]
  simp

theorem readFrom_comment (inside : '\n' ∉ cs) :
    readFrom s ('#' :: cs ++ '\n' :: rest) = readFrom s ('\n' :: rest) := by
  rw [readFrom, tokens?_comment inside, readFrom]

/-- A function that can be scanned is passed over. -/
theorem readFrom_function {bound : List (String × Expr)} (scanned : (tokens? cs).isSome) :
    readFrom ⟨bound, .function⟩ cs = some ⟨bound, .function⟩ := by
  obtain ⟨ts, found⟩ := Option.isSome_iff_exists.1 scanned
  rw [readFrom, found, Option.bind_some]
  clear found
  induction ts with
  | nil => rfl
  | cons t ts ih =>
    have passed : State.take ⟨bound, .function⟩ t = some ⟨bound, .function⟩ := by
      cases t <;> rfl
    rw [List.foldlM_cons, passed]
    exact ih

end ReadFrom

end Supergraph.Reading
