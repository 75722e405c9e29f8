import Supergraph.Proofs.Traced
import Supergraph.Sdl.DocumentRules
import Supergraph.Sdl.Syntax

/-!
# Names in documents

A text of the schema language is read as tokens, and the names among them are words of letters,
digits and underscores that begin with no digit. Readers take names from the tokens only, so that
the types of a document that is read, their fields and their values have such names.

## Main definitions

* `Cursor.Named` — the names among the tokens ahead are such words
* `Reading.Yields` — what a reader gives has a property, and the tokens it leaves have such names
* `TypeDef.Named`, `Document.Named` — the names that definitions give are such words

## Main results

* `named_of_mem_tokens` — the names among the tokens of a text
* `named_of_readDocument` — the names in a document that is read
-/

namespace Supergraph.Sdl

/-! ### Tokens -/

/-- A token that is a name is one by its letters. -/
def Token.Named : Token → Prop
  | .name word => Text.isName word.toList
  | _ => True

theorem isName_takeWhile {c : Char} {cs : List Char} (starts : Text.isNameStart c) :
    Text.isName ((c :: cs).takeWhile Text.isNamePart) := by
  rw [List.takeWhile_cons_of_pos (Text.isNamePart_of_isNameStart starts), Text.isName, starts,
    Bool.true_and, List.all_takeWhile]

theorem named_of_scanNumber {cs : List Char} {token : Token} {size : Nat}
    (scanned : scanNumber cs = .ok (token, size)) : token.Named := by
  obtain ⟨⟨whole, rest⟩, _, scanned⟩ := bind_except_eq_ok_iff.1 scanned
  obtain ⟨⟨fraction, rest⟩, _, scanned⟩ := bind_except_eq_ok_iff.1 scanned
  obtain ⟨⟨exponent, rest⟩, _, scanned⟩ := bind_except_eq_ok_iff.1 scanned
  -- Whatever follows, the token is a number with a point or without one.
  have number : ∀ (condition : Bool) (text : String),
      (if condition then Token.int text else Token.float text).Named := by
    intro condition text
    cases condition <;> trivial
  simp only at scanned
  split at scanned
  · split at scanned
    · cases scanned
    · cases scanned
      exact number _ _
  · cases scanned
    exact number _ _

/-- The token at the start of a text is a name only by its letters. -/
theorem named_of_scan {cs : List Char} {token : Token} {size : Nat}
    (scanned : scan cs = .ok (token, size)) : token.Named := by
  cases cs with
  | nil =>
    cases scanned
    trivial
  | cons c rest =>
    simp only [scan] at scanned
    split at scanned
    · split at scanned
      · obtain ⟨_, _, same⟩ := map_except_eq_ok_iff.1 scanned
        cases same
        trivial
      · obtain ⟨_, _, same⟩ := map_except_eq_ok_iff.1 scanned
        cases same
        trivial
    split at scanned
    · cases scanned
      trivial
    split_ifs at scanned with number starts spread quote
    · exact named_of_scanNumber scanned
    · cases scanned
      rw [Token.Named, String.toList_ofList]
      exact isName_takeWhile starts
    · cases scanned
      trivial

theorem named_of_mem_tokensFrom {skip : Nat} {inComment : Bool} {cs : List Char} {token : Token}
    (member : .ok token ∈ tokensFrom skip inComment cs) : token.Named := by
  fun_induction tokensFrom skip inComment cs with
  | case1 =>
    cases List.mem_singleton.1 member
    trivial
  | case2 _ _ _ _ ih => exact ih member
  | case3 _ _ ih => exact ih member
  | case4 _ _ _ _ _ ih => exact ih member
  | case5 _ _ _ _ _ _ ih => exact ih member
  | case6 _ _ _ _ _ _ _ _ scanned ih =>
    rcases List.mem_cons.1 member with here | later
    · cases here
      exact named_of_scan scanned
    · exact ih later
  | case7 => cases List.mem_singleton.1 member

/-- The names among the tokens of a text are names by their letters. -/
theorem named_of_mem_tokens {text : String} {token : Token} (member : .ok token ∈ tokens text) :
    token.Named :=
  named_of_mem_tokensFrom member

/-- The names among the tokens ahead are names by their letters. -/
structure Cursor.Named (c : Cursor) : Prop where
  current : c.current.Named
  following : ∀ token, .ok token ∈ c.following → token.Named

/-! ### Definitions -/

/-- The names that the definition or extension of a type gives are names by their letters. -/
structure TypeDef.Named (t : TypeDef) : Prop where
  name : Text.isName t.name.toList
  fields : ∀ field ∈ t.fieldNames, Text.isName field.toList
  values : ∀ value ∈ t.valueNames, Text.isName value.toList

/-- The types that a definition defines or extends have such names. -/
def Definition.Named : Definition → Prop
  | .type t | .typeExtension t => t.Named
  | _ => True

/-- All definitions of a document have such names. -/
def Document.Named (doc : Document) : Prop :=
  ∀ definition ∈ doc, definition.Named

namespace Reading

/-! ### Readers -/

/-- When the tokens ahead have such names, what a reader gives has a property, and the tokens that
it leaves have such names as well. -/
def Yields {α : Type} (r : Reading α) (Q : α → Prop) : Prop :=
  ∀ c a c', c.Named → r.run c = .ok (a, c') → Q a ∧ c'.Named

/-- A reader leaves tokens with such names. -/
abbrev Keeps {α : Type} (r : Reading α) : Prop :=
  r.Yields fun _ => True

section Yields

variable {α β : Type} {r : Reading α} {next : α → Reading β} {Q : α → Prop} {R : β → Prop}

theorem Yields.pure {a : α} (holds : Q a) : Yields (pure a : Reading α) Q := by
  intro c b c' named ran
  cases ran
  exact ⟨holds, named⟩

theorem Yields.throw (e : SyntaxFault) : Yields (throw e : Reading α) Q := by
  intro c b c' named ran
  cases ran

theorem Yields.get : Yields (get : Reading Cursor) Cursor.Named := by
  intro c b c' named ran
  cases ran
  exact ⟨named, named⟩

theorem Yields.set {c : Cursor} (named : c.Named) : Keeps (set c) := by
  intro b a c' _ ran
  cases ran
  exact ⟨trivial, named⟩

theorem Yields.bind (first : r.Yields Q) (second : ∀ a, Q a → (next a).Yields R) :
    (r >>= next).Yields R := by
  intro c b c' named ran
  rw [StateT.run_bind] at ran
  obtain ⟨⟨a, c₁⟩, done, ran⟩ := bind_except_eq_ok_iff.1 ran
  obtain ⟨holds, named⟩ := first c a c₁ named done
  exact second a holds c₁ b c' named ran

theorem Yields.keeps (yields : r.Yields Q) : r.Keeps :=
  fun c a c' named ran => ⟨trivial, (yields c a c' named ran).2⟩

theorem Yields.ite {condition : Prop} [Decidable condition] {other : Reading α}
    (first : r.Yields Q) (second : other.Yields Q) :
    (if condition then r else other).Yields Q := by
  split
  · exact first
  · exact second

/-- What follows a reader may only depend on what it leaves. -/
theorem Keeps.andThen (first : r.Keeps) (second : ∀ a, (next a).Yields R) :
    (r >>= next).Yields R :=
  Yields.bind first fun a _ => second a

/-- After a choice between two readers. -/
theorem Keeps.branch {condition : Prop} [Decidable condition] {other : Reading α} (first : r.Keeps)
    (second : other.Keeps) (rest : ∀ a, (next a).Yields R) :
    (if condition then r >>= next else other >>= next).Yields R :=
  .ite (first.andThen rest) (second.andThen rest)

end Yields

/-! ### Tokens ahead -/

theorem yields_current : current.Yields Token.Named :=
  Yields.bind Yields.get fun _ named => .pure named.current

theorem keeps_advance : advance.Keeps := by
  refine Yields.bind Yields.get fun c named => ?_
  split
  next following =>
    have ahead := named.following
    rw [following] at ahead
    exact .set ⟨ahead _ List.mem_cons_self, fun token member =>
      ahead token (List.mem_cons_of_mem _ member)⟩
  · exact .throw _
  · exact .set ⟨trivial, by simp⟩

theorem keeps_lookAhead : lookAhead.Keeps := by
  refine Yields.bind Yields.get fun c named => ?_
  split
  · exact .pure trivial
  · exact .throw _
  · exact .pure trivial

theorem keeps_isMark (p : Punctuator) : (isMark p).Keeps :=
  yields_current.keeps.andThen fun _ => .pure trivial

theorem keeps_mark (p : Punctuator) : (mark p).Keeps := by
  refine yields_current.keeps.andThen fun token => ?_
  split
  · exact keeps_advance
  · exact .throw _

theorem keeps_optionalMark (p : Punctuator) : (optionalMark p).Keeps := by
  refine (keeps_isMark p).andThen fun found => ?_
  split
  · exact keeps_advance.andThen fun _ => .pure trivial
  · exact .pure trivial

/-- A name is one by its letters. -/
theorem yields_name : name.Yields fun word => Text.isName word.toList := by
  refine Yields.bind yields_current fun token named => ?_
  split
  · exact keeps_advance.andThen fun _ => .pure named
  · exact .throw _

theorem keeps_name : name.Keeps :=
  yields_name.keeps

theorem keeps_keyword (word : String) : (keyword word).Keeps := by
  refine yields_current.keeps.andThen fun token => ?_
  split
  · exact keeps_advance
  · exact .throw _

theorem keeps_optionalKeyword (word : String) : (optionalKeyword word).Keeps := by
  refine yields_current.keeps.andThen fun token => ?_
  split
  · exact keeps_advance.andThen fun _ => .pure trivial
  · exact .pure trivial

theorem yields_refuse {α : Type} {Q : α → Prop} : (refuse : Reading α).Yields Q :=
  yields_current.keeps.andThen fun _ => .throw _

/-! ### Repetition -/

section Repetition

variable {α : Type} {item : Reading α} {Q : α → Prop}

theorem yields_upTo (each : item.Yields Q) (close : Punctuator) (fuel : Nat) :
    (upTo close item fuel).Yields fun xs => ∀ x ∈ xs, Q x := by
  induction fuel with
  | zero => exact yields_refuse
  | succ fuel ih =>
    refine (keeps_optionalMark close).andThen fun closed => ?_
    split
    · exact .pure (by simp)
    · exact .bind each fun x holds => .bind ih fun xs others =>
        .pure (List.forall_mem_cons.2 ⟨holds, others⟩)

theorem yields_enclosed (each : item.Yields Q) (fuel : Nat) (opening close : Punctuator) :
    (enclosed fuel opening close item).Yields fun xs => ∀ x ∈ xs, Q x :=
  (keeps_mark opening).andThen fun _ => .bind each fun _ holds =>
    .bind (yields_upTo each close fuel) fun _ others =>
      .pure (List.forall_mem_cons.2 ⟨holds, others⟩)

theorem yields_optionalEnclosed (each : item.Yields Q) (fuel : Nat) (opening close : Punctuator) :
    (optionalEnclosed fuel opening close item).Yields fun xs => ∀ x ∈ xs, Q x := by
  refine (keeps_isMark opening).andThen fun found => ?_
  split
  · exact yields_enclosed each fuel opening close
  · exact .pure (by simp)

theorem keeps_enclosedAny (each : item.Keeps) (fuel : Nat) (opening close : Punctuator) :
    (enclosedAny fuel opening close item).Keeps :=
  (keeps_mark opening).andThen fun _ => (yields_upTo each close fuel).keeps

theorem keeps_separated (each : item.Keeps) (between : Punctuator) (fuel : Nat) :
    (separated between item fuel).Keeps := by
  induction fuel with
  | zero => exact yields_refuse
  | succ fuel ih =>
    refine each.andThen fun x => (keeps_optionalMark between).andThen fun found => ?_
    split
    · exact ih.andThen fun _ => .pure trivial
    · exact .pure trivial

theorem keeps_delimited (each : item.Keeps) (fuel : Nat) (between : Punctuator) :
    (delimited fuel between item).Keeps :=
  (keeps_optionalMark between).andThen fun _ => keeps_separated each between fuel

end Repetition

/-! ### Values and types -/

theorem keeps_literal (constant : Bool) (fuel : Nat) : (literal constant fuel).Keeps := by
  induction fuel with
  | zero => exact yields_refuse
  | succ fuel ih =>
    have member : Keeps do
        let name ← name
        mark .colon
        return (name, ← literal constant fuel) :=
      keeps_name.andThen fun _ => (keeps_mark .colon).andThen fun _ =>
        ih.andThen fun _ => .pure trivial
    refine yields_current.keeps.andThen fun token => ?_
    split
    · exact (keeps_enclosedAny ih fuel .bracketOpen .bracketClose).andThen fun _ => .pure trivial
    · exact (keeps_enclosedAny member fuel .braceOpen .braceClose).andThen fun _ => .pure trivial
    · exact keeps_advance.andThen fun _ => .pure trivial
    · exact keeps_advance.andThen fun _ => .pure trivial
    · exact keeps_advance.andThen fun _ => .pure trivial
    · exact keeps_advance.andThen fun _ => .pure trivial
    · exact keeps_advance.andThen fun _ => .pure trivial
    · refine keeps_advance.andThen fun _ => ?_
      split
      · refine yields_current.keeps.andThen fun _ => ?_
        split <;> exact .throw _
      · exact keeps_name.andThen fun _ => .pure trivial
    · exact .throw _

theorem keeps_arguments (fuel : Nat) (constant : Bool) : (arguments fuel constant).Keeps := by
  refine (yields_optionalEnclosed (Q := fun _ => True) ?_ fuel .parenOpen .parenClose).keeps
  exact keeps_name.andThen fun _ => (keeps_mark .colon).andThen fun _ =>
    (keeps_literal constant fuel).andThen fun _ => .pure trivial

theorem keeps_applications (fuel : Nat) (constant : Bool) (n : Nat) :
    (applications fuel constant n).Keeps := by
  induction n with
  | zero => exact yields_refuse
  | succ n ih =>
    refine (keeps_optionalMark .atSign).andThen fun found => ?_
    split
    · exact keeps_name.andThen fun _ => (keeps_arguments fuel constant).andThen fun _ =>
        ih.andThen fun _ => .pure trivial
    · exact .pure trivial

theorem keeps_directives (fuel : Nat) : (directives fuel).Keeps :=
  keeps_applications fuel true fuel

theorem keeps_typeRef (fuel : Nat) : (typeRef fuel).Keeps := by
  induction fuel with
  | zero => exact yields_refuse
  | succ fuel ih =>
    have last : ∀ inner : TypeRef, Keeps do
        if ← optionalMark .bang then return .nonNull inner else return inner :=
      fun inner => (keeps_optionalMark .bang).andThen fun _ => .ite (.pure trivial) (.pure trivial)
    refine (keeps_optionalMark .bracketOpen).andThen fun _ => .ite ?_ ?_
    · exact ih.andThen fun _ => (keeps_mark .bracketClose).andThen fun _ =>
        Keeps.andThen (.pure trivial) last
    · exact keeps_name.andThen fun _ => Keeps.andThen (.pure trivial) last

theorem keeps_description : description.Keeps := by
  refine yields_current.keeps.andThen fun token => ?_
  split
  · exact keeps_advance.andThen fun _ => .pure trivial
  · exact keeps_advance.andThen fun _ => .pure trivial
  · exact .pure trivial

/-- A default value, if one is given. -/
theorem keeps_default {β : Type} {Q : β → Prop} {next : Option Literal → Reading β} (fuel : Nat)
    (rest : ∀ default?, (next default?).Yields Q) :
    Yields (do
      let default? ← if ← optionalMark .equals then pure (some (← literal true fuel))
        else pure none
      next default?) Q := by
  refine (keeps_optionalMark .equals).andThen fun _ => .ite ?_ ?_
  · exact (keeps_literal true fuel).andThen fun _ => Keeps.andThen (.pure trivial) rest
  · exact Keeps.andThen (.pure trivial) rest

theorem yields_inputDef (fuel : Nat) :
    (inputDef fuel).Yields fun d => Text.isName d.name.toList :=
  keeps_description.andThen fun _ => .bind yields_name fun _ named =>
    (keeps_mark .colon).andThen fun _ => (keeps_typeRef fuel).andThen fun _ =>
      keeps_default fuel fun _ => (keeps_directives fuel).andThen fun _ => .pure named

theorem keeps_argumentDefs (fuel : Nat) : (argumentDefs fuel).Keeps :=
  (yields_optionalEnclosed (yields_inputDef fuel) fuel .parenOpen .parenClose).keeps

theorem yields_fieldDef (fuel : Nat) :
    (fieldDef fuel).Yields fun d => Text.isName d.name.toList :=
  keeps_description.andThen fun _ => .bind yields_name fun _ named =>
    (keeps_argumentDefs fuel).andThen fun _ => (keeps_mark .colon).andThen fun _ =>
      (keeps_typeRef fuel).andThen fun _ => (keeps_directives fuel).andThen fun _ => .pure named

theorem yields_fieldDefs (fuel : Nat) :
    (fieldDefs fuel).Yields fun ds => ∀ d ∈ ds, Text.isName d.name.toList :=
  yields_optionalEnclosed (yields_fieldDef fuel) fuel .braceOpen .braceClose

theorem keeps_interfaces (fuel : Nat) : (interfaces fuel).Keeps :=
  (keeps_optionalKeyword "implements").andThen fun _ =>
    .ite (keeps_delimited keeps_name fuel .amp) (.pure trivial)

theorem keeps_unionMembers (fuel : Nat) : (unionMembers fuel).Keeps :=
  (keeps_optionalMark .equals).andThen fun _ =>
    .ite (keeps_delimited keeps_name fuel .pipe) (.pure trivial)

theorem yields_enumValueDef (fuel : Nat) :
    (enumValueDef fuel).Yields fun d => Text.isName d.name.toList := by
  refine keeps_description.andThen fun _ => yields_current.keeps.andThen fun token => ?_
  refine Yields.ite (.throw _) ?_
  exact .bind yields_name fun _ named => (keeps_directives fuel).andThen fun _ => .pure named

/-- The names that a definition of a type gives. -/
theorem yields_typeDef (fuel : Nat) (description : Option String) (kind : TypeKind) :
    (typeDef fuel description kind).Yields TypeDef.Named := by
  refine keeps_advance.andThen fun _ => .bind yields_name fun _ named => ?_
  cases kind with
  | scalar =>
    exact (keeps_directives fuel).andThen fun _ =>
      .pure ⟨named, by simp [TypeDef.fieldNames], by simp [TypeDef.valueNames]⟩
  | object =>
    exact (keeps_interfaces fuel).andThen fun _ => (keeps_directives fuel).andThen fun _ =>
      .bind (yields_fieldDefs fuel) fun _ fields =>
        .pure ⟨named, List.forall_mem_map.2 fields, by simp [TypeDef.valueNames]⟩
  | interface =>
    exact (keeps_interfaces fuel).andThen fun _ => (keeps_directives fuel).andThen fun _ =>
      .bind (yields_fieldDefs fuel) fun _ fields =>
        .pure ⟨named, List.forall_mem_map.2 fields, by simp [TypeDef.valueNames]⟩
  | union =>
    exact (keeps_directives fuel).andThen fun _ => (keeps_unionMembers fuel).andThen fun _ =>
      .pure ⟨named, by simp [TypeDef.fieldNames], by simp [TypeDef.valueNames]⟩
  | enum =>
    exact (keeps_directives fuel).andThen fun _ =>
      .bind (yields_optionalEnclosed (yields_enumValueDef fuel) fuel .braceOpen .braceClose)
        fun _ values =>
          .pure ⟨named, by simp [TypeDef.fieldNames], List.forall_mem_map.2 values⟩
  | input =>
    exact (keeps_directives fuel).andThen fun _ =>
      .bind (yields_optionalEnclosed (yields_inputDef fuel) fuel .braceOpen .braceClose)
        fun _ fields =>
          .pure ⟨named, List.forall_mem_map.2 fields, by simp [TypeDef.valueNames]⟩

/-! ### The schema, directives and operations -/

theorem keeps_operationKind : operationKind.Keeps := by
  refine yields_current.keeps.andThen fun _ => keeps_name.andThen fun _ => ?_
  split
  · exact .pure trivial
  · exact .throw _

theorem keeps_rootType : rootType.Keeps :=
  keeps_operationKind.andThen fun _ => (keeps_mark .colon).andThen fun _ =>
    keeps_name.andThen fun _ => .pure trivial

theorem keeps_location : location.Keeps := by
  refine yields_current.keeps.andThen fun _ => keeps_name.andThen fun _ => ?_
  split
  · exact .pure trivial
  · exact .throw _

theorem keeps_directiveDef (fuel : Nat) : (directiveDef fuel).Keeps :=
  (keeps_keyword "directive").andThen fun _ => (keeps_mark .atSign).andThen fun _ =>
    keeps_name.andThen fun _ => (keeps_argumentDefs fuel).andThen fun _ =>
      (keeps_optionalKeyword "repeatable").andThen fun _ => (keeps_keyword "on").andThen fun _ =>
        (keeps_delimited keeps_location fuel .pipe).andThen fun _ => .pure trivial

theorem keeps_schemaDef (fuel : Nat) : (schemaDef fuel).Keeps :=
  (keeps_keyword "schema").andThen fun _ => (keeps_directives fuel).andThen fun _ =>
    (yields_enclosed keeps_rootType fuel .braceOpen .braceClose).keeps.andThen fun _ =>
      .pure trivial

theorem keeps_fragmentName : fragmentName.Keeps :=
  yields_current.keeps.andThen fun _ =>
    .ite (Keeps.andThen yields_refuse fun _ => keeps_name) keeps_name

theorem keeps_selections (fuel n : Nat) : (selections fuel n).Keeps := by
  induction n with
  | zero => exact yields_refuse
  | succ n ih =>
    have applied : (applications fuel false fuel).Keeps := keeps_applications fuel false fuel
    have inline : ∀ condition : Option String, Keeps do
        let directives ← applications fuel false fuel
        return Selection.inline condition directives (← selections fuel n) :=
      fun _ => applied.andThen fun _ => ih.andThen fun _ => .pure trivial
    have field : Keeps do
        let arguments ← arguments fuel false
        let directives ← applications fuel false fuel
        let inner ← if ← isMark .braceOpen then selections fuel n else pure []
        return Selection.field arguments directives inner := by
      refine (keeps_arguments fuel false).andThen fun _ => applied.andThen fun _ =>
        (keeps_isMark .braceOpen).andThen fun _ => .ite ?_ ?_
      · exact ih.andThen fun _ => .pure trivial
      · exact Keeps.andThen (.pure trivial) fun _ => .pure trivial
    refine (yields_enclosed (Q := fun _ => True) ?_ fuel .braceOpen .braceClose).keeps
    refine (keeps_optionalMark .spread).andThen fun _ => .ite ?_ ?_
    · refine (keeps_optionalKeyword "on").andThen fun _ => yields_current.keeps.andThen fun _ =>
        .ite ?_ (.ite ?_ ?_)
      · exact keeps_fragmentName.andThen fun _ => applied.andThen fun _ => .pure trivial
      · exact keeps_name.andThen fun _ => Keeps.andThen (.pure trivial) inline
      · exact Keeps.andThen (.pure trivial) inline
    · refine keeps_name.andThen fun _ => (keeps_optionalMark .colon).andThen fun _ => .ite ?_ ?_
      · exact keeps_name.andThen fun _ => field
      · exact field

theorem keeps_variableDef (fuel : Nat) : (variableDef fuel).Keeps :=
  (keeps_mark .dollar).andThen fun _ => keeps_name.andThen fun _ =>
    (keeps_mark .colon).andThen fun _ => (keeps_typeRef fuel).andThen fun _ =>
      keeps_default fuel fun _ => (keeps_directives fuel).andThen fun _ => .pure trivial

theorem keeps_operation (fuel : Nat) : (operation fuel).Keeps := by
  have parameters : (optionalEnclosed fuel .parenOpen .parenClose (variableDef fuel)).Keeps :=
    (yields_optionalEnclosed (keeps_variableDef fuel) fuel .parenOpen .parenClose).keeps
  refine (keeps_isMark .braceOpen).andThen fun _ => .ite ?_ ?_
  · exact (keeps_selections fuel fuel).andThen fun _ => .pure trivial
  · refine keeps_operationKind.andThen fun _ => yields_current.keeps.andThen fun _ => ?_
    have rest : ∀ kind, Keeps do
        let parameters ← optionalEnclosed fuel .parenOpen .parenClose (variableDef fuel)
        let directives ← applications fuel false fuel
        return ExecutableDef.mk (operationLocation kind) parameters none directives
          (← selections fuel fuel) :=
      fun _ => parameters.andThen fun _ => (keeps_applications fuel false fuel).andThen fun _ =>
        (keeps_selections fuel fuel).andThen fun _ => .pure trivial
    split
    · exact keeps_advance.andThen fun _ => rest _
    · exact rest _

theorem keeps_fragment (fuel : Nat) : (fragment fuel).Keeps :=
  (keeps_keyword "fragment").andThen fun _ => keeps_fragmentName.andThen fun _ =>
    (keeps_keyword "on").andThen fun _ => keeps_name.andThen fun _ =>
      (keeps_applications fuel false fuel).andThen fun _ =>
        (keeps_selections fuel fuel).andThen fun _ => .pure trivial

/-! ### Documents -/

theorem yields_extension (fuel : Nat) : (extension fuel).Yields Definition.Named := by
  refine keeps_lookAhead.andThen fun token => ?_
  split
  · refine keeps_advance.andThen fun _ => keeps_advance.andThen fun _ =>
      (keeps_directives fuel).andThen fun _ => (yields_optionalEnclosed keeps_rootType fuel
        .braceOpen .braceClose).keeps.andThen fun _ => .ite ?_ (.pure trivial)
    exact Keeps.andThen yields_refuse fun _ => .pure trivial
  · split
    · refine keeps_advance.andThen fun _ => .bind (yields_typeDef fuel none _) fun _ named =>
        .ite ?_ (.pure named)
      exact Keeps.andThen yields_refuse fun _ => .pure named
    · exact .throw _
  · exact .throw _

theorem yields_definition (fuel : Nat) : (definition fuel).Yields Definition.Named := by
  have executable : ∀ d, Definition.Named (.executable d) := fun _ => trivial
  refine (keeps_isMark .braceOpen).andThen fun _ => .ite ?_ ?_
  · exact (keeps_operation fuel).andThen fun d => .pure (executable d)
  · refine yields_current.keeps.andThen fun _ =>
      keeps_lookAhead.branch yields_current.keeps fun token => ?_
    cases token with
    | name word =>
      refine .ite ?_ (.ite ?_ ?_)
      · exact keeps_description.andThen fun _ => (keeps_schemaDef fuel).andThen fun _ =>
          .pure trivial
      · exact keeps_description.andThen fun _ => (keeps_directiveDef fuel).andThen fun _ =>
          .pure trivial
      · cases typeKeywords.lookup word with
        | some kind =>
          exact keeps_description.andThen fun _ => .bind (yields_typeDef fuel _ kind)
            fun _ named => .pure named
        | none =>
          refine .ite (.throw _) (.ite (yields_extension fuel) (.ite ?_ (.ite ?_ (.throw _))))
          · exact (keeps_fragment fuel).andThen fun d => .pure (executable d)
          · exact (keeps_operation fuel).andThen fun d => .pure (executable d)
    | _ => exact .throw _

theorem yields_definitions (fuel n : Nat) :
    (definitions fuel n).Yields Document.Named := by
  induction n with
  | zero => exact yields_refuse
  | succ n ih =>
    refine .bind (yields_definition fuel) fun _ named => yields_current.keeps.andThen fun _ =>
      .ite ?_ ?_
    · exact .pure (by simpa [Document.Named] using named)
    · exact .bind ih fun _ others => .pure (List.forall_mem_cons.2 ⟨named, others⟩)

end Reading

/-- The names in a document that is read are names by their letters. -/
theorem named_of_readDocument {text : String} {doc : Document}
    (read : readDocument text = .ok doc) : doc.Named := by
  obtain ⟨⟨_, c⟩, ran, same⟩ := map_except_eq_ok_iff.1 read
  cases same
  have start : Cursor.Named ⟨.endOfText, tokens text⟩ :=
    ⟨trivial, fun _ member => named_of_mem_tokens member⟩
  exact (Reading.keeps_advance.andThen fun _ => Reading.yields_definitions _ _) _ _ _ start ran |>.1

end Supergraph.Sdl
