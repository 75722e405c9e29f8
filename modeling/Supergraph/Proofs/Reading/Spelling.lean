import Mathlib.Data.List.Forall2
import Supergraph.Proofs.Reading.Module

/-!
# How expressions are spelled

A text spells an expression when it leads a reader from before a value to after the value that the
expression is, whatever has been read and whatever follows. What follows must not continue a word.

## Main definitions

* `Leads`, `LeadsLines` — a text, or lines, lead a reader from one state to another
* `Spells`, `SpellsMember` — a text spells an expression, or a member of a dict
* `Filling` — a list or dict that is filled item by item
* `FillsDict`, `Binds` — lines fill in members of a dict, lines bind a name

## Main results

* `Leads.trans`, `LeadsLines.append` — one after the other
* `Spells.quoted`, `Spells.word`, `Spells.list`, `Spells.dict` — how expressions are spelled
* `Filling.leads_commaSeparated` — items between commas
* `FillsDict.member`, `FillsDict.block`, `Binds.dict` — members and dicts over several lines
-/

namespace Supergraph.Reading

/-- A text leads a reader from one state to another, before any character that ends a word. -/
def Leads (cs : List Char) (s t : State) : Prop :=
  ∀ c rest, isWordChar c = false → readFrom s (cs ++ c :: rest) = readFrom t (c :: rest)

namespace Leads

variable {s t u : State} {c : Char} {cs a b : List Char} {token : Token}

theorem nil (s : State) : Leads [] s s :=
  fun _ _ _ => rfl

/-- Texts one after the other lead on, unless a word goes over from one to the other. -/
theorem trans (first : Leads a s t) (second : Leads (c :: b) t u) (ends : isWordChar c = false) :
    Leads (a ++ c :: b) s u := by
  intro d rest stops
  rw [List.append_assoc, List.cons_append, first c _ ends, ← List.cons_append]
  exact second d rest stops

theorem blank (rest : Leads cs s t) : Leads (' ' :: cs) s t := by
  intro c others ends
  rw [List.cons_append, readFrom_blank]
  exact rest c others ends

theorem cons (alone : Scan.start c = (.between, [token])) (taken : s.take token = some t)
    (rest : Leads cs t u) : Leads (c :: cs) s u := by
  intro d others ends
  rw [List.cons_append, readFrom_cons alone taken]
  exact rest d others ends

theorem quoted {text : String} (taken : s.take (.text text) = some t) :
    Leads (Text.quoted text).toList s t := by
  intro d others ends
  rw [Text.quoted, String.toList_ofList]
  refine readFrom_quotedChars ?_
  rwa [String.ofList_toList]

theorem plain {text : String} (plain : IsPlain '"' text.toList)
    (taken : s.take (.text text) = some t) : Leads ('"' :: text.toList ++ ['"']) s t := by
  intro d others ends
  rw [List.append_assoc, List.singleton_append]
  refine readFrom_of_token (tokens?_plain plain) ?_
  rwa [String.ofList_toList]

theorem blanks {blank : List Char} (isBlank : Blanks blank) (rest : Leads cs s t) :
    Leads (blank ++ cs) s t := by
  induction blank with
  | nil => exact rest
  | cons c blank ih =>
    obtain rfl := isBlank c List.mem_cons_self
    exact (ih fun d member => isBlank d (List.mem_cons_of_mem ' ' member)).blank

theorem word {w : String} (isWord : IsWord w.toList) (taken : s.take (.word w) = some t) :
    Leads w.toList s t := by
  intro d others ends
  refine readFrom_word isWord ends ?_
  rwa [String.ofList_toList]

end Leads

/-! ### Expressions -/

/-- A text spells an expression wherever a value may stand. -/
def Spells (cs : List Char) (e : Expr) : Prop :=
  ∀ bound name frames, Leads cs ⟨bound, .before name frames⟩ ⟨bound, .after name frames e⟩

/-- A text spells a key and its value wherever a member of a dict may stand. -/
def SpellsMember (cs : List Char) (m : Expr × Expr) : Prop :=
  ∀ bound name frames members, Leads cs ⟨bound, .before name (.dict members :: frames)⟩
    ⟨bound, .after name (.member members m.1 :: frames) m.2⟩

section Spells

variable {cs key value : List Char} {e k v : Expr}

theorem Spells.quoted (text : String) : Spells (Text.quoted text).toList (.text text) :=
  fun _ _ _ => Leads.quoted rfl

theorem Spells.plain (text : String) (plain : IsPlain '"' text.toList) :
    Spells ('"' :: text.toList ++ ['"']) (.text text) :=
  fun _ _ _ => Leads.plain plain rfl

theorem Spells.word {w : String} (isWord : IsWord w.toList) : Spells w.toList (.word w) :=
  fun _ _ _ => Leads.word isWord rfl

theorem SpellsMember.of_spells (first : Spells key k) (second : Spells value v) :
    SpellsMember (key ++ ':' :: ' ' :: value) (k, v) := by
  intro bound name frames members
  refine (first bound name (.dict members :: frames)).trans ?_ rfl
  exact Leads.cons rfl rfl (second bound name (.member members k :: frames)).blank

end Spells

/-! ### Items -/

/-- A list or dict that is filled item by item: the states before an item and after it, the mark
that ends it and the state after that. Items are separated by commas, and one may stand before the
end. -/
structure Filling (α : Type) where
  opened : List α → State
  filled : List α → α → State
  finished : List α → State
  mark : Char
  alone : Scan.start mark = (.between, [.mark mark])
  comma : ∀ xs x, (filled xs x).take (.mark ',') = some (opened (xs ++ [x]))
  ends : ∀ xs x, (filled xs x).take (.mark mark) = some (finished (xs ++ [x]))
  endsOpened : ∀ xs, (opened xs).take (.mark mark) = some (finished xs)
  lineEnd : ∀ xs, (opened xs).take .lineEnd = some (opened xs)

namespace Filling

/-- A list that is filled. -/
def list (bound : List (String × Expr)) (name : String) (frames : List Frame) : Filling Expr where
  opened items := ⟨bound, .before name (.list items :: frames)⟩
  filled items e := ⟨bound, .after name (.list items :: frames) e⟩
  finished items := ⟨bound, .after name frames (.list items)⟩
  mark := ']'
  alone := rfl
  comma _ _ := rfl
  ends _ _ := rfl
  endsOpened _ := rfl
  lineEnd _ := rfl

/-- A dict that is filled. -/
def dict (bound : List (String × Expr)) (name : String) (frames : List Frame) :
    Filling (Expr × Expr) where
  opened members := ⟨bound, .before name (.dict members :: frames)⟩
  filled members m := ⟨bound, .after name (.member members m.1 :: frames) m.2⟩
  finished members := ⟨bound, .after name frames (.dict members)⟩
  mark := '\x7d'
  alone := rfl
  comma _ _ := rfl
  ends _ _ := rfl
  endsOpened _ := rfl
  lineEnd _ := rfl

variable {α : Type} (F : Filling α) {parts : List (List Char)} {xs : List α}

/-- A text fills in an item. -/
def Item (cs : List Char) (x : α) : Prop :=
  ∀ before, Leads cs (F.opened before) (F.filled before x)

/-- Items between commas fill up to the end. -/
theorem leads_commaSeparated (items : List.Forall₂ F.Item parts xs) (before : List α) :
    Leads ([',', ' '].intercalate parts ++ [F.mark]) (F.opened before)
      (F.finished (before ++ xs)) := by
  -- The mark is a token of its own, so that a word ends before it.
  have closes : isWordChar F.mark = false := by
    have alone := F.alone
    rw [Scan.start] at alone
    split at alone
    · cases alone
    · rename_i other
      simpa using other
  induction items generalizing before with
  | nil =>
    rw [List.intercalate_nil, List.append_nil]
    exact Leads.cons F.alone (F.endsOpened before) (Leads.nil _)
  | @cons part x parts xs first others ih =>
    cases others with
    | nil =>
      rw [List.intercalate_singleton]
      exact (first before).trans (Leads.cons F.alone (F.ends before x) (Leads.nil _)) closes
    | cons second rest =>
      have led := ih (before ++ [x])
      rw [List.append_assoc, List.singleton_append] at led
      rw [List.intercalate_cons_cons, List.append_assoc, List.append_assoc]
      exact (first before).trans (Leads.cons rfl (F.comma before x) led.blank) rfl

end Filling

section Spells

variable {parts : List (List Char)} {es : List Expr} {ms : List (Expr × Expr)}

theorem Spells.list (spelled : List.Forall₂ Spells parts es) :
    Spells ('[' :: [',', ' '].intercalate parts ++ [']']) (.list es) := by
  intro bound name frames
  have items : List.Forall₂ (Filling.list bound name frames).Item parts es :=
    spelled.imp fun part e spells before => spells bound name (.list before :: frames)
  exact Leads.cons rfl rfl ((Filling.list bound name frames).leads_commaSeparated items [])

theorem Spells.dict (spelled : List.Forall₂ SpellsMember parts ms) :
    Spells ('\x7b' :: [',', ' '].intercalate parts ++ ['\x7d']) (.dict ms) := by
  intro bound name frames
  have items : List.Forall₂ (Filling.dict bound name frames).Item parts ms :=
    spelled.imp fun part m spells before => spells bound name frames before
  exact Leads.cons rfl rfl ((Filling.dict bound name frames).leads_commaSeparated items [])

end Spells

/-! ### Lines -/

/-- Lines that are joined, with the last one ended as well. -/
theorem toList_intercalate_lines {lines : List String} (nonempty : lines ≠ []) :
    (String.intercalate "\n" lines).toList ++ ['\n'] =
      lines.flatMap fun line => line.toList ++ ['\n'] := by
  induction lines with
  | nil => exact absurd rfl nonempty
  | cons line lines ih =>
    cases lines with
    | nil => rw [String.intercalate_singleton, List.flatMap_singleton]
    | cons second rest =>
      rw [String.intercalate_cons_cons, String.toList_append, String.toList_append,
        List.append_assoc, ih (List.cons_ne_nil _ _), List.flatMap_cons]
      rfl

/-- Lines lead a reader from one state to another, whatever follows. -/
def LeadsLines (lines : List String) (s t : State) : Prop :=
  ∀ rest, readFrom s (lines.flatMap (fun line => line.toList ++ ['\n']) ++ rest) = readFrom t rest

namespace LeadsLines

variable {s t u : State} {line : String} {lines more : List String}

theorem nil (s : State) : LeadsLines [] s s :=
  fun _ => rfl

theorem append (first : LeadsLines lines s t) (second : LeadsLines more t u) :
    LeadsLines (lines ++ more) s u := by
  intro rest
  rw [List.flatMap_append, List.append_assoc, first, second]

/-- A line leads to where the reader stands after the end of the line. -/
theorem of_leads (led : Leads line.toList s t) (taken : t.take .lineEnd = some u) :
    LeadsLines [line] s u := by
  intro rest
  have ended : readFrom t ('\n' :: rest) = readFrom u rest := readFrom_cons rfl taken
  rw [List.flatMap_singleton, List.append_assoc, List.singleton_append, led _ _ rfl, ended]

/-- A line of a comment leads where the end of the line leads. -/
theorem comment (line : String) (starts : line.toList.head? = some '#')
    (inside : '\n' ∉ line.toList) (taken : s.take .lineEnd = some t) : LeadsLines [line] s t := by
  intro rest
  obtain ⟨cs, written⟩ := List.head?_eq_some_iff.1 starts
  rw [written] at inside
  rw [List.flatMap_singleton, List.append_assoc, List.singleton_append, written,
    readFrom_comment (List.not_mem_of_not_mem_cons inside), readFrom_cons rfl taken]

end LeadsLines

theorem leadsLines_empty (bound : List (String × Expr)) :
    LeadsLines [""] ⟨bound, .start⟩ ⟨bound, .start⟩ :=
  LeadsLines.of_leads (Leads.nil _) rfl

/-- Lines fill in members of a dict, wherever the dict stands. -/
def FillsDict (lines : List String) (ms : List (Expr × Expr)) : Prop :=
  ∀ bound name frames before, LeadsLines lines ((Filling.dict bound name frames).opened before)
    ((Filling.dict bound name frames).opened (before ++ ms))

namespace FillsDict

variable {lines more : List String} {line first last : String} {m : Expr × Expr}
  {ms ns : List (Expr × Expr)} {blanks blanksToo key text : List Char} {k : Expr}

theorem nil : FillsDict [] [] := by
  intro bound name frames before
  rw [List.append_nil]
  exact LeadsLines.nil _

theorem append (first : FillsDict lines ms) (second : FillsDict more ns) :
    FillsDict (lines ++ more) (ms ++ ns) := by
  intro bound name frames before
  rw [← List.append_assoc]
  exact (first bound name frames before).append (second bound name frames (before ++ ms))

/-- Groups of lines that each fill in a member fill in all of them. -/
theorem flatMap {α : Type} {f : α → List String} {g : α → Expr × Expr} (xs : List α)
    (each : ∀ x ∈ xs, FillsDict (f x) [g x]) : FillsDict (xs.flatMap f) (xs.map g) := by
  induction xs with
  | nil => exact nil
  | cons x xs ih =>
    have others := ih fun y member => each y (List.mem_cons_of_mem x member)
    exact append (each x List.mem_cons_self) others

theorem map {α : Type} {f : α → String} {g : α → Expr × Expr} (xs : List α)
    (each : ∀ x ∈ xs, FillsDict [f x] [g x]) : FillsDict (xs.map f) (xs.map g) := by
  rw [List.map_eq_flatMap]
  exact flatMap xs each

/-- A member on a line of its own, with a comma behind it. -/
theorem member (isBlank : Blanks blanks) (spelled : SpellsMember text m)
    (written : line.toList = blanks ++ (text ++ [','])) : FillsDict [line] [m] := by
  intro bound name frames before
  refine LeadsLines.of_leads ?_ ((Filling.dict bound name frames).lineEnd _)
  rw [written]
  refine Leads.blanks isBlank ((spelled bound name frames before).trans ?_ rfl)
  exact Leads.cons rfl ((Filling.dict bound name frames).comma before m) (Leads.nil _)

/-- A member whose value is a dict over several lines. -/
theorem block (isBlank : Blanks blanks) (isBlankToo : Blanks blanksToo) (spelled : Spells key k)
    (opening : first.toList = blanks ++ (key ++ [':', ' ', '\x7b']))
    (closing : last.toList = blanksToo ++ ['\x7d', ',']) (inner : FillsDict lines ms) :
    FillsDict (first :: lines ++ [last]) [(k, .dict ms)] := by
  intro bound name frames before
  have opens : LeadsLines [first] ((Filling.dict bound name frames).opened before)
      ((Filling.dict bound name (.member before k :: frames)).opened []) := by
    have lineEnd := (Filling.dict bound name (.member before k :: frames)).lineEnd []
    refine LeadsLines.of_leads ?_ lineEnd
    rw [opening]
    refine Leads.blanks isBlank ((spelled bound name (.dict before :: frames)).trans ?_ rfl)
    exact Leads.cons rfl rfl (Leads.cons rfl rfl (Leads.nil _)).blank
  have closes : LeadsLines [last]
      ((Filling.dict bound name (.member before k :: frames)).opened ms)
      ((Filling.dict bound name frames).opened (before ++ [(k, .dict ms)])) := by
    refine LeadsLines.of_leads ?_ ((Filling.dict bound name frames).lineEnd _)
    rw [closing]
    exact Leads.blanks isBlankToo (Leads.cons rfl rfl (Leads.cons rfl rfl (Leads.nil _)))
  exact (opens.append (inner bound name (.member before k :: frames) [])).append closes

end FillsDict

/-! ### Statements -/

/-- Lines bind a name to an expression. -/
def Binds (lines : List String) (name : String) (e : Expr) : Prop :=
  ∀ bound, LeadsLines lines ⟨bound, .start⟩ ⟨bound ++ [(name, e)], .start⟩

section Binds

variable {lines : List String} {line first name : String} {e : Expr} {ms : List (Expr × Expr)}

/-- The name that a statement binds, up to its value. -/
theorem leads_assignment {cs : List Char} {t : State} (isWord : IsWord name.toList)
    (other : name ≠ "def") (bound : List (String × Expr))
    (value : Leads cs ⟨bound, .before name []⟩ t) :
    Leads (name.toList ++ ' ' :: '=' :: ' ' :: cs) ⟨bound, .start⟩ t := by
  have named : State.take ⟨bound, .start⟩ (.word name) = some ⟨bound, .named name⟩ := by
    simp [State.take, other]
  exact (Leads.word isWord named).trans (Leads.blank (Leads.cons rfl rfl value.blank)) rfl

/-- A statement on one line. -/
theorem Binds.of_leads
    (led : ∀ bound, Leads line.toList ⟨bound, .start⟩ ⟨bound, .after name [] e⟩) :
    Binds [line] name e :=
  fun bound => LeadsLines.of_leads (led bound) rfl

/-- A dict over several lines. -/
theorem Binds.dict
    (led : ∀ bound, Leads first.toList ⟨bound, .start⟩ ⟨bound, .before name [.dict []]⟩)
    (inner : FillsDict lines ms) : Binds (first :: lines ++ ["\x7d"]) name (.dict ms) := by
  intro bound
  have opens : LeadsLines [first] ⟨bound, .start⟩ ⟨bound, .before name [.dict []]⟩ :=
    LeadsLines.of_leads (led bound) rfl
  have closes : LeadsLines ["\x7d"] ⟨bound, .before name [.dict ms]⟩
      ⟨bound ++ [(name, .dict ms)], .start⟩ :=
    LeadsLines.of_leads (Leads.cons rfl rfl (Leads.nil _)) rfl
  exact (opens.append (inner bound name [] [])).append closes

end Binds

end Supergraph.Reading
