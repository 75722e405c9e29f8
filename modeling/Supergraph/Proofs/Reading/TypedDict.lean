import Supergraph.Emit.TypesModule
import Supergraph.Proofs.Reading.Docstring

/-!
# Reading types with fields

A type with fields is declared by a class, whose body is an optional docstring followed by
attributes or by `pass`, or by a call that is given a dict literal. Both are read for the fields
that they declare, with their hints, in the order in which they are written. Names are taken as they
are spelled. A reserved word is no name of an attribute, and what follows the colon of an attribute
up to the end of the line is its hint.

## Main definitions

* `TypedDict` — the fields that a type declares, and in which of the two forms
* `Statement`, `statement?` — the lines in the body of a class
* `classFields?`, `callFields?` — the fields of the two forms
* `typedDict?` — the declaration of a type

## Main results

* `classFields?_fieldsClassBody`, `callFields?_fieldsCall` — the two forms are read back
* `typed_dict_declares_fields` — both forms declare the fields of the declaration
-/

namespace Supergraph

namespace Reading

/-- A character that does not end a line. -/
def isInLine (c : Char) : Bool :=
  c ≠ '\n' && c ≠ '\r'

/-- What a declaration of a type with fields says. -/
structure TypedDict where
  /-- Whether the fields are written as a call. -/
  isCall : Bool
  fields : List (String × String)
  deriving DecidableEq, Repr

/-- What follows a prefix. -/
def after? (before cs : List Char) : Option (List Char) :=
  if before <+: cs then some (cs.drop before.length) else none

/-! ### Classes -/

/-- A line in the body of a class. -/
inductive Statement where
  | docstring (text : List Char)
  | pass
  | field (name hint : String)
  deriving DecidableEq, Repr

/-- The attribute that a line declares. -/
def field? (cs : List Char) : Option Statement :=
  let name := cs.takeWhile Text.isNamePart
  if Text.isName name ∧ ¬Text.isReserved (String.ofList name) then
    match cs.dropWhile Text.isNamePart with
    | ':' :: ' ' :: hint =>
      if hint.all isInLine then some (.field (String.ofList name) (String.ofList hint))
      else none
    | _ => none
  else none

/-- What the text of a line says. -/
def said? (cs : List Char) : Option Statement :=
  if cs = ['p', 'a', 's', 's'] then some .pass
  else if cs.head? = some '\'' ∨ cs.head? = some '"' then (stringLiteral? cs).map .docstring
  else field? cs

/-- What a line says that is indented by four spaces. -/
def statement? (line : String) : Option Statement :=
  (after? [' ', ' ', ' ', ' '] line.toList).bind said?

/-- The fields among statements that are no docstrings. -/
def fieldsOf? : List Statement → Option (List (String × String))
  | [] => some []
  | .pass :: rest => fieldsOf? rest
  | .field name hint :: rest => (fieldsOf? rest).map ((name, hint) :: ·)
  | .docstring _ :: _ => none

/-- The fields that the body of a class declares. The body is not empty, and it may begin with a
docstring. -/
def classFields? (body : List String) : Option (List (String × String)) :=
  match body.mapM statement? with
  | some (.docstring _ :: rest) => fieldsOf? rest
  | some (first :: rest) => fieldsOf? (first :: rest)
  | _ => none

/-! ### Calls -/

/-- The members of a dict literal and what follows it. Members are separated by commas, and one may
stand before the end. -/
def members? : List Token → Option (List (String × String) × List Token)
  | .text name :: .mark ':' :: .text hint :: .mark ',' :: rest =>
    (members? rest).map fun (members, after) => ((name, hint) :: members, after)
  | .text name :: .mark ':' :: .text hint :: .mark '\x7d' :: rest => some ([(name, hint)], rest)
  | .mark '\x7d' :: rest => some ([], rest)
  | _ => none

/-- The fields that a call declares for a type: its name and a dict are given, and that not all
fields need be present. Lines do not end between brackets. -/
def callFields? (name : String) (lines : List String) : Option (List (String × String)) := do
  let cs ← after? (name ++ " = TypedDict(").toList
    (lines.flatMap fun line => line.toList ++ ['\n'])
  match (← tokens? cs).filter (· ≠ .lineEnd) with
  | .text given :: .mark ',' :: .mark '\x7b' :: rest =>
    match ← members? rest with
    | (members, [.mark ',', .word "total", .mark '=', .word "False", .mark ')']) =>
      if given = name then return members else none
    | _ => none
  | _ => none

/-- What the declaration of a type says. -/
def typedDict? (name : String) (lines : List String) : Option TypedDict :=
  match lines with
  | [] => none
  | first :: body =>
    if first = "class " ++ name ++ "(TypedDict, total=False):" then
      (classFields? body).map (TypedDict.mk false)
    else (callFields? name lines).map (TypedDict.mk true)

theorem after?_append (before cs : List Char) : after? before (before ++ cs) = some cs := by
  rw [after?, if_pos (List.prefix_append before cs), List.drop_left]

/-! ### The lines of a class -/

section Lines

variable {cs : List Char} {name hint : String}

theorem statement?_indented (text : String) :
    statement? (Emit.bodyIndent ++ text) = said? text.toList := by
  have indented : (Emit.bodyIndent ++ text).toList = [' ', ' ', ' ', ' '] ++ text.toList :=
    String.toList_append
  rw [statement?, indented, after?_append, Option.bind_some]

theorem statement?_docstring (cs : List Char) :
    statement? (Emit.bodyIndent ++ String.ofList (Emit.docstringLiteral cs)) =
      some (.docstring cs) := by
  have quote := head?_docstringLiteral cs
  rw [statement?_indented, String.toList_ofList, said?, if_pos quote,
    stringLiteral?_docstringLiteral, if_neg]
  · rfl
  · intro same
    rw [same] at quote
    revert quote
    decide

theorem field?_of_isName (named : Text.isName name.toList) (free : ¬Text.isReserved name)
    (inLine : hint.toList.all isInLine) :
    field? (name.toList ++ ':' :: ' ' :: hint.toList) = some (.field name hint) := by
  have parts : ∀ c ∈ name.toList, Text.isNamePart c := Text.forall_isNamePart named
  have taken : (name.toList ++ ':' :: ' ' :: hint.toList).takeWhile Text.isNamePart =
      name.toList := by
    rw [List.takeWhile_append_of_pos parts]
    exact List.append_nil _
  have dropped : (name.toList ++ ':' :: ' ' :: hint.toList).dropWhile Text.isNamePart =
      ':' :: ' ' :: hint.toList := by
    rw [List.dropWhile_append_of_pos parts]
    rfl
  rw [field?, taken, dropped, String.ofList_toList, if_pos ⟨named, free⟩]
  simp only [if_pos inLine, String.ofList_toList]

theorem statement?_field (named : Text.isName name.toList) (free : ¬Text.isReserved name)
    (inLine : hint.toList.all isInLine) :
    statement? (Emit.bodyIndent ++ name ++ ": " ++ hint) = some (.field name hint) := by
  have line : Emit.bodyIndent ++ name ++ ": " ++ hint =
      Emit.bodyIndent ++ (name ++ ": " ++ hint) := by
    simp only [String.append_assoc]
  have text : (name ++ ": " ++ hint).toList = name.toList ++ ':' :: ' ' :: hint.toList := by
    simp
  -- The line has a colon, and it begins with a part of a name.
  have noPass : name.toList ++ ':' :: ' ' :: hint.toList ≠ ['p', 'a', 's', 's'] := by
    intro same
    have colon : ':' ∈ ['p', 'a', 's', 's'] := same ▸ by simp
    exact absurd colon (by decide)
  have noQuote : ∀ quote, Text.isNamePart quote = false →
      (name.toList ++ ':' :: ' ' :: hint.toList).head? ≠ some quote := by
    intro quote other begins
    obtain ⟨c, cs, spelled, starts, _⟩ := Text.exists_cons_of_isName named
    rw [spelled] at begins
    exact Text.ne_of_isNamePart (Text.isNamePart_of_isNameStart starts) other
      (Option.some.inj begins)
  rw [line, statement?_indented, text, said?, if_neg noPass, if_neg,
    field?_of_isName named free inLine]
  exact not_or.2 ⟨noQuote '\'' (by decide), noQuote '"' (by decide)⟩

end Lines

/-! ### The body of a class -/

section Body

variable {d : Declaration}

/-- The fields of a declaration with their hints. -/
def hintedFields (d : Declaration) : List (String × String) :=
  d.fields.map fun f => (f.name, f.hint)

/-- The lines of attributes are read one by one. -/
theorem mapM_statement?_fields {fields : List FieldHint}
    (named : ∀ f ∈ fields, Text.isName f.name.toList)
    (free : ∀ f ∈ fields, ¬Text.isReserved f.name)
    (inLine : ∀ f ∈ fields, f.hint.toList.all isInLine) :
    (fields.map fun f => Emit.bodyIndent ++ f.name ++ ": " ++ f.hint).mapM statement? =
      some (fields.map fun f => .field f.name f.hint) := by
  induction fields with
  | nil => rfl
  | cons f rest ih =>
    have others := ih (fun g member => named g (List.mem_cons_of_mem f member))
      (fun g member => free g (List.mem_cons_of_mem f member))
      (fun g member => inLine g (List.mem_cons_of_mem f member))
    have first := statement?_field (named f List.mem_cons_self) (free f List.mem_cons_self)
      (inLine f List.mem_cons_self)
    rw [List.map_cons, List.mapM_cons, first, others]
    rfl

theorem fieldsOf?_fields (fields : List FieldHint) :
    fieldsOf? (fields.map fun f => .field f.name f.hint) =
      some (fields.map fun f => (f.name, f.hint)) := by
  induction fields with
  | nil => rfl
  | cons f rest ih => simp [fieldsOf?, ih]

/-- A class has one line of a docstring or none. -/
theorem classDocstring_cases (d : Declaration) : Emit.classDocstring d = [] ∨
    ∃ cs, Emit.classDocstring d =
      [Emit.bodyIndent ++ String.ofList (Emit.docstringLiteral cs)] := by
  rw [Emit.classDocstring]
  cases d.description with
  | none => exact .inl rfl
  | some text =>
    simp only [Emit.docstring]
    split
    · exact .inl rfl
    · exact .inr ⟨_, rfl⟩

/-- The body of a class declares the fields, whatever the docstring. -/
theorem classFields?_fieldsClassBody (named : ∀ f ∈ d.fields, Text.isName f.name.toList)
    (free : ∀ f ∈ d.fields, ¬Text.isReserved f.name)
    (inLine : ∀ f ∈ d.fields, f.hint.toList.all isInLine)
    (inhabited : Emit.fieldsClassBody d ≠ []) :
    classFields? (Emit.fieldsClassBody d) = some (hintedFields d) := by
  have fields := mapM_statement?_fields named free inLine
  rw [Emit.fieldsClassBody] at inhabited ⊢
  rcases classDocstring_cases d with none | ⟨cs, documented⟩
  · -- The first statement is an attribute, so that none is taken for a docstring.
    rw [none, List.nil_append] at inhabited ⊢
    rw [classFields?, fields]
    cases listed : d.fields with
    | nil => simp [listed] at inhabited
    | cons f rest =>
      have read := fieldsOf?_fields (f :: rest)
      rw [List.map_cons] at read ⊢
      simp only [read, hintedFields, listed]
  · rw [documented, List.singleton_append, classFields?, List.mapM_cons, statement?_docstring,
      fields]
    exact fieldsOf?_fields d.fields

/-- Without docstring and fields the body says nothing. -/
theorem classFields?_emptyBody : classFields? Emit.emptyBody = some [] := by
  have passed : statement? (Emit.bodyIndent ++ "pass") = some .pass := by decide
  rw [Emit.emptyBody, classFields?, List.mapM_cons, passed]
  rfl

end Body

/-! ### Calls -/

section Call

variable {d : Declaration}

/-- The tokens of a member of a dict on a line of its own. -/
def memberTokens (f : FieldHint) : List Token :=
  [.text f.name, .mark ':', .text f.hint, .mark ',']

/-- A member of a dict on a line of its own. -/
theorem tokens?_member (f : FieldHint) (rest : List Char) :
    tokens? ((Emit.bodyIndent ++ Text.quoted f.name ++ ": " ++ Text.quoted f.hint ++ ",").toList
      ++ '\n' :: rest) = (tokens? rest).map (memberTokens f ++ [.lineEnd] ++ ·) := by
  have spelled : (Emit.bodyIndent ++ Text.quoted f.name ++ ": " ++ Text.quoted f.hint
      ++ ",").toList ++ '\n' :: rest = ' ' :: ' ' :: ' ' :: ' ' ::
        (Text.quotedChars f.name.toList ++ ':' :: ' ' ::
          (Text.quotedChars f.hint.toList ++ ',' :: '\n' :: rest)) := by
    simp [Emit.bodyIndent, Text.quoted]
  rw [spelled]
  have blank : Scan.start ' ' = (.between, []) := rfl
  have colon : Scan.start ':' = (.between, [.mark ':']) := rfl
  have comma : Scan.start ',' = (.between, [.mark ',']) := rfl
  have lineEnd : Scan.start '\n' = (.between, [.lineEnd]) := rfl
  simp only [tokens?_cons blank, tokens?_cons colon, tokens?_cons comma, tokens?_cons lineEnd,
    tokens?_quotedChars, Option.map_map, String.ofList_toList]
  rfl

theorem tokens?_members (fields : List FieldHint) (rest : List Char) :
    tokens? ((fields.flatMap fun f => (Emit.bodyIndent ++ Text.quoted f.name ++ ": "
      ++ Text.quoted f.hint ++ ",").toList ++ ['\n']) ++ rest) =
        (tokens? rest).map ((fields.flatMap fun f => memberTokens f ++ [.lineEnd]) ++ ·) := by
  induction fields with
  | nil => simp
  | cons f fields ih =>
    rw [List.flatMap_cons, List.append_assoc, List.append_assoc, List.singleton_append,
      tokens?_member, ih, Option.map_map, List.flatMap_cons]
    simp [Function.comp_def]

theorem members?_memberTokens (fields : List FieldHint) (rest : List Token) :
    members? (fields.flatMap memberTokens ++ .mark '\x7d' :: rest) =
      some (fields.map fun f => (f.name, f.hint), rest) := by
  induction fields with
  | nil => rfl
  | cons f fields ih =>
    rw [List.flatMap_cons, List.append_assoc]
    simp [memberTokens, members?, ih]

/-- What a call says after its opening bracket. -/
def callArguments (d : Declaration) : List Char :=
  Text.quotedChars d.name.toList ++ ',' :: ' ' :: '\x7b' :: '\n' ::
    ((d.fields.flatMap fun f => (Emit.bodyIndent ++ Text.quoted f.name ++ ": "
      ++ Text.quoted f.hint ++ ",").toList ++ ['\n']) ++ "\x7d, total=False)\n".toList)

/-- The tokens after the dict of a call. -/
def callEnd : List Token :=
  [.mark ',', .word "total", .mark '=', .word "False", .mark ')']

theorem flatMap_fieldsCall (d : Declaration) :
    ((Emit.fieldsCall d).flatMap fun line => line.toList ++ ['\n']) =
      (d.name ++ " = TypedDict(").toList ++ callArguments d := by
  simp [Emit.fieldsCall, callArguments, Text.quoted, List.flatMap_map]

theorem tokens?_callArguments (d : Declaration) :
    tokens? (callArguments d) = some (.text d.name :: .mark ',' :: .mark '\x7b' :: .lineEnd ::
      ((d.fields.flatMap fun f => memberTokens f ++ [.lineEnd]) ++
        .mark '\x7d' :: (callEnd ++ [.lineEnd]))) := by
  have comma : Scan.start ',' = (.between, [.mark ',']) := rfl
  have blank : Scan.start ' ' = (.between, []) := rfl
  have brace : Scan.start '\x7b' = (.between, [.mark '\x7b']) := rfl
  have lineEnd : Scan.start '\n' = (.between, [.lineEnd]) := rfl
  have closing : tokens? "\x7d, total=False)\n".toList =
      some (.mark '\x7d' :: (callEnd ++ [.lineEnd])) := by decide
  rw [callArguments, tokens?_quotedChars, tokens?_cons comma, tokens?_cons blank,
    tokens?_cons brace, tokens?_cons lineEnd, tokens?_members, closing]
  simp

theorem filter_memberTokens (fields : List FieldHint) :
    (fields.flatMap fun f => memberTokens f ++ [.lineEnd]).filter (· ≠ .lineEnd) =
      fields.flatMap memberTokens := by
  induction fields with
  | nil => rfl
  | cons f fields ih => simp_all [memberTokens]

/-- The call declares the fields, whatever the words are that they are named by. -/
theorem callFields?_fieldsCall (d : Declaration) :
    callFields? d.name (Emit.fieldsCall d) = some (hintedFields d) := by
  have read := members?_memberTokens d.fields callEnd
  have arguments : (Token.text d.name :: .mark ',' :: .mark '\x7b' :: .lineEnd ::
      ((d.fields.flatMap fun f => memberTokens f ++ [.lineEnd]) ++
        .mark '\x7d' :: (callEnd ++ [.lineEnd]))).filter (· ≠ .lineEnd) =
      .text d.name :: .mark ',' :: .mark '\x7b' ::
        (d.fields.flatMap memberTokens ++ .mark '\x7d' :: callEnd) := by
    simp only [List.filter_cons, List.filter_append, filter_memberTokens]
    rfl
  rw [callFields?, flatMap_fieldsCall, after?_append]
  simp only [Option.bind_eq_bind, Option.bind_some, tokens?_callArguments, arguments, read]
  simp [callEnd, hintedFields]

end Call

/-! ### Both forms -/

section Declaration

variable {d : Declaration}

/-- The two forms are told apart by the first line. -/
theorem typedDict?_fieldsCall (d : Declaration) :
    typedDict? d.name (Emit.fieldsCall d) = some ⟨true, hintedFields d⟩ := by
  have read := callFields?_fieldsCall d
  have noClass : d.name ++ " = TypedDict(" ++ Text.quoted d.name ++ ", \x7b" ≠
      "class " ++ d.name ++ "(TypedDict, total=False):" := by
    intro same
    -- A call opens a brace where a class ends in a colon.
    have last := congrArg (fun line => line.toList.getLast?) same
    simp only [String.toList_append, List.getLast?_append] at last
    exact absurd (Option.some.inj last) (by decide)
  rw [Emit.fieldsCall, List.cons_append] at read ⊢
  rw [typedDict?, if_neg noClass, read]
  rfl

theorem typedDict?_class {body : List String} {fields : List (String × String)}
    (read : classFields? body = some fields) :
    typedDict? d.name (("class " ++ d.name ++ "(TypedDict, total=False):") :: body) =
      some ⟨false, fields⟩ := by
  rw [typedDict?, if_pos rfl, read]
  rfl

theorem typedDict?_fieldsClass (named : ∀ f ∈ d.fields, Text.isName f.name.toList)
    (inLine : ∀ f ∈ d.fields, f.hint.toList.all isInLine) :
    typedDict? d.name (Emit.fieldsClass d) =
      some ⟨d.fields.any fun f => Text.isReserved f.name, hintedFields d⟩ := by
  rw [Emit.fieldsClass]
  by_cases reserved : d.fields.any fun f => Text.isReserved f.name
  · rw [if_pos reserved, typedDict?_fieldsCall, reserved]
  · have free : ∀ f ∈ d.fields, ¬Text.isReserved f.name := by
      intro f member isReserved
      exact reserved (List.any_eq_true.2 ⟨f, member, isReserved⟩)
    rw [if_neg reserved, Bool.eq_false_of_not_eq_true reserved]
    refine typedDict?_class ?_
    by_cases empty : (Emit.fieldsClassBody d).isEmpty
    · have none : hintedFields d = [] := by
        have nothing := List.isEmpty_iff.1 empty
        rw [Emit.fieldsClassBody, List.append_eq_nil_iff, List.map_eq_nil_iff] at nothing
        rw [hintedFields, nothing.2, List.map_nil]
      rw [if_pos empty, classFields?_emptyBody, none]
    · rw [if_neg empty]
      exact classFields?_fieldsClassBody named free inLine (by simpa using empty)

/-- A line with a colon, a brace or a quote does not say `pass`. -/
theorem ne_pass {line : String} {c : Char} (member : c ∈ line.toList)
    (other : c ∈ [':', '\x7b', '\x7d', '\'', '"']) : Emit.bodyIndent ++ "pass" ≠ line := by
  intro same
  have apart : ∀ c ∈ [':', '\x7b', '\x7d', '\'', '"'], c ∉ (Emit.bodyIndent ++ "pass").toList := by
    simp [Emit.bodyIndent]
  exact apart c other (same ▸ member)

theorem pass_not_mem_fieldsCall (d : Declaration) :
    Emit.bodyIndent ++ "pass" ∉ Emit.fieldsCall d := by
  intro member
  rcases List.mem_append.1 member with before | closing
  · rcases List.mem_cons.1 before with first | among
    · exact ne_pass (c := '\x7b') (by simp) (by decide) first
    · obtain ⟨f, _, same⟩ := List.mem_map.1 among
      exact ne_pass (c := ':') (by simp) (by decide) same.symm
  · exact ne_pass (c := '\x7d') (by decide) (by decide) (List.mem_singleton.1 closing)

theorem pass_not_mem_fieldsClassBody (d : Declaration) :
    Emit.bodyIndent ++ "pass" ∉ Emit.fieldsClassBody d := by
  intro member
  rcases List.mem_append.1 member with documented | declared
  · rcases classDocstring_cases d with none | ⟨cs, line⟩
    · rw [none] at documented
      cases documented
    · rw [line] at documented
      have same := List.mem_singleton.1 documented
      rcases head?_docstringLiteral cs with quote | quote
      · exact ne_pass (c := '\'') (by simp [List.mem_of_head? quote]) (by decide) same
      · exact ne_pass (c := '"') (by simp [List.mem_of_head? quote]) (by decide) same
  · obtain ⟨f, _, same⟩ := List.mem_map.1 declared
    exact ne_pass (c := ':') (by simp) (by decide) same.symm

/-- Only the body of a class without docstring and fields says `pass`. -/
theorem mem_pass_iff (d : Declaration) :
    Emit.bodyIndent ++ "pass" ∈ Emit.fieldsClass d ↔
      d.fields = [] ∧ Emit.classDocstring d = [] := by
  have empty_iff : Emit.fieldsClassBody d = [] ↔ d.fields = [] ∧ Emit.classDocstring d = [] := by
    rw [Emit.fieldsClassBody, List.append_eq_nil_iff, List.map_eq_nil_iff, and_comm]
  rw [← empty_iff, Emit.fieldsClass]
  by_cases reserved : d.fields.any fun f => Text.isReserved f.name
  · rw [if_pos reserved]
    refine iff_of_false (pass_not_mem_fieldsCall d) fun empty => ?_
    rw [(empty_iff.1 empty).1] at reserved
    cases reserved
  · have head : Emit.bodyIndent ++ "pass" ≠ "class " ++ d.name ++ "(TypedDict, total=False):" :=
      ne_pass (c := ':') (by simp) (by decide)
    rw [if_neg reserved, List.mem_cons, or_iff_right head]
    by_cases empty : (Emit.fieldsClassBody d).isEmpty
    · rw [if_pos empty]
      exact iff_of_true List.mem_cons_self (List.isEmpty_iff.1 empty)
    · rw [if_neg empty]
      exact iff_of_false (pass_not_mem_fieldsClassBody d) (by simpa using empty)

end Declaration

end Reading

/-- The declaration of a type with fields reads back as the fields with their hints, in their order,
whether it is written as a class or as a call. It is a call when a field is named by a reserved
word. The body of a class says `pass` when there is no field and no docstring, and nothing else says
so. -/
theorem typed_dict_declares_fields (d : Declaration)
    (fielded : d.kind = .object ∨ d.kind = .interface ∨ d.kind = .input)
    (named : ∀ f ∈ d.fields, Text.isName f.name.toList)
    (inLine : ∀ f ∈ d.fields, f.hint.toList.all Reading.isInLine) :
    Reading.typedDict? d.name (Emit.declarationLines d) =
      some ⟨d.fields.any fun f => Text.isReserved f.name,
        d.fields.map fun f => (f.name, f.hint)⟩ ∧
    (Emit.bodyIndent ++ "pass" ∈ Emit.declarationLines d ↔
      d.fields = [] ∧ Emit.classDocstring d = []) := by
  have lines : Emit.declarationLines d = Emit.fieldsClass d := by
    rw [Emit.declarationLines]
    rcases fielded with kind | kind | kind <;> rw [kind]
  rw [lines]
  exact ⟨Reading.typedDict?_fieldsClass named inLine, Reading.mem_pass_iff d⟩

/-- A kiosk with a field that no attribute could be called by. -/
def kiosk : Declaration :=
  ⟨.object, "Kiosk", [⟨"id", "str"⟩, ⟨"pass", "Optional[bool]"⟩], [], some "Where one \"pays\"."⟩

theorem kiosk_declares_fields :
    (kiosk.kind = .object ∨ kiosk.kind = .interface ∨ kiosk.kind = .input) ∧
      (∀ f ∈ kiosk.fields, Text.isName f.name.toList) ∧
      (∀ f ∈ kiosk.fields, f.hint.toList.all Reading.isInLine) ∧
      Reading.typedDict? "Kiosk" (Emit.declarationLines kiosk) =
        some ⟨true, [("id", "str"), ("pass", "Optional[bool]")]⟩ ∧
      Emit.bodyIndent ++ "pass" ∉ Emit.declarationLines kiosk := by
  have fielded : kiosk.kind = .object ∨ kiosk.kind = .interface ∨ kiosk.kind = .input := .inl rfl
  have named : ∀ f ∈ kiosk.fields, Text.isName f.name.toList := by decide
  have inLine : ∀ f ∈ kiosk.fields, f.hint.toList.all Reading.isInLine := by decide
  obtain ⟨read, passes⟩ := typed_dict_declares_fields kiosk fielded named inLine
  refine ⟨fielded, named, inLine, read, fun passed => ?_⟩
  exact absurd (passes.1 passed).1 (by decide)

end Supergraph
