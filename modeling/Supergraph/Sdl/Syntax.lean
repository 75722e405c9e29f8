import Supergraph.Sdl.Document
import Supergraph.Sdl.Lexer

/-!
# Syntax of the schema language

A document is read by recursive descent over its tokens. The token after the current one is looked
at as soon as the current one is taken, so that a fault inside it is reported before the grammar can
object to anything later.

## Main definitions

* `SyntaxFault` — why a text is no document, with its wording
* `readDocument`, `readTypeRef` — the document, or the type reference, that a text says
-/

namespace Supergraph.Sdl

/-- Why a text does not follow the grammar. -/
inductive SyntaxFault where
  /-- A token is faulty. -/
  | lexical (fault : LexicalFault)
  /-- The token can stand nowhere here. -/
  | unexpected (token : Token)
  /-- Something else has to stand here. -/
  | expected (what : String) (found : Token)
  /-- Constant values hold no variables. -/
  | variableInConstant (name : String)
  /-- Only definitions of the schema have descriptions. -/
  | strayDescription
  /-- The word can be no enum value. -/
  | reservedEnumValue (token : Token)
  deriving DecidableEq, Repr

/-- The wording of the fault. -/
def SyntaxFault.message (fault : SyntaxFault) : String :=
  "Syntax Error: " ++ match fault with
    | lexical fault => fault.message
    | unexpected token => "Unexpected " ++ token.describe ++ "."
    | expected what found => "Expected " ++ what ++ ", found " ++ found.describe ++ "."
    | variableInConstant name => "Unexpected variable '$" ++ name ++ "' in constant value."
    | strayDescription =>
      "Unexpected description, only GraphQL definitions support descriptions."
    | reservedEnumValue token =>
      token.describe ++ " is reserved and cannot be used for an enum value."

/-- The current token and what follows it. -/
structure Cursor where
  current : Token
  following : List (Except LexicalFault Token)

/-- Readers of a part of a document. -/
abbrev Reading (α : Type) := StateT Cursor (Except SyntaxFault) α

namespace Reading

/-! ### Tokens -/

/-- The current token. -/
def current : Reading Token := do
  return (← get).current

/-- Takes the current token and looks at the next one. -/
def advance : Reading Unit := do
  match (← get).following with
  | .ok next :: rest => set (Cursor.mk next rest)
  | .error fault :: _ => throw (.lexical fault)
  | [] => set (Cursor.mk .endOfText [])

/-- The token after the current one, which is not taken. -/
def lookAhead : Reading Token := do
  match (← get).following with
  | .ok next :: _ => return next
  | .error fault :: _ => throw (.lexical fault)
  | [] => return .endOfText

/-- Whether the current token is the mark. -/
def isMark (p : Punctuator) : Reading Bool := do
  return (← current) == .mark p

/-- Takes the mark, which has to stand here. -/
def mark (p : Punctuator) : Reading Unit := do
  let token ← current
  if token == .mark p then advance else throw (.expected p.describe token)

/-- Takes the mark if it stands here. -/
def optionalMark (p : Punctuator) : Reading Bool := do
  if ← isMark p then
    advance
    return true
  else return false

/-- Takes the name that has to stand here. -/
def name : Reading String := do
  match ← current with
  | .name value =>
    advance
    return value
  | token => throw (.expected "Name" token)

/-- Takes the word, which has to stand here. -/
def keyword (word : String) : Reading Unit := do
  let token ← current
  if token == .name word then advance else throw (.expected ("'" ++ word ++ "'") token)

/-- Takes the word if it stands here. -/
def optionalKeyword (word : String) : Reading Bool := do
  if (← current) == .name word then
    advance
    return true
  else return false

/-- Refuses the current token. -/
def refuse {α : Type} : Reading α := do
  throw (.unexpected (← current))

/-! ### Repetition

The number of tokens bounds every repetition; it is given as `fuel`. -/

/-- Reads items up to the closing mark, perhaps none. -/
def upTo {α : Type} (close : Punctuator) (item : Reading α) : Nat → Reading (List α)
  | 0 => refuse
  | fuel + 1 => do
    if ← optionalMark close then return []
    let first ← item
    let rest ← upTo close item fuel
    return first :: rest

/-- Reads at least one item between two marks. -/
def enclosed {α : Type} (fuel : Nat) («open» close : Punctuator) (item : Reading α) :
    Reading (List α) := do
  mark «open»
  let first ← item
  let rest ← upTo close item fuel
  return first :: rest

/-- Reads items between two marks, perhaps none. -/
def enclosedAny {α : Type} (fuel : Nat) («open» close : Punctuator) (item : Reading α) :
    Reading (List α) := do
  mark «open»
  upTo close item fuel

/-- Reads at least one item between two marks if the opening one stands here. -/
def optionalEnclosed {α : Type} (fuel : Nat) («open» close : Punctuator) (item : Reading α) :
    Reading (List α) := do
  if ← isMark «open» then enclosed fuel «open» close item else return []

/-- Reads items with the mark between them. -/
def separated {α : Type} (between : Punctuator) (item : Reading α) : Nat → Reading (List α)
  | 0 => refuse
  | fuel + 1 => do
    let first ← item
    if ← optionalMark between then
      let rest ← separated between item fuel
      return first :: rest
    else return [first]

/-- Reads items with the mark between them and perhaps before the first. -/
def delimited {α : Type} (fuel : Nat) (between : Punctuator) (item : Reading α) :
    Reading (List α) := do
  let _ ← optionalMark between
  separated between item fuel

/-! ### Values -/

/-- Reads a value. A constant one holds no variables. -/
def literal (constant : Bool) : Nat → Reading Literal
  | 0 => refuse
  | fuel + 1 => do
    match ← current with
    | .mark .bracketOpen =>
      return .list (← enclosedAny fuel .bracketOpen .bracketClose (literal constant fuel))
    | .mark .braceOpen =>
      return .object (← enclosedAny fuel .braceOpen .braceClose do
        let name ← name
        mark .colon
        return (name, ← literal constant fuel))
    | .int text =>
      advance
      return .int text
    | .float text =>
      advance
      return .float text
    | .string value | .block value =>
      advance
      return .string value
    | .name word =>
      advance
      return match word with
        | "true" => .bool true
        | "false" => .bool false
        | "null" => .null
        | _ => .enum word
    | .mark .dollar =>
      advance
      if constant then
        match ← current with
        | .name word => throw (.variableInConstant word)
        | _ => throw (.unexpected (.mark .dollar))
      else return .variable (← name)
    | token => throw (.unexpected token)

/-- Reads the arguments of a field or directive, if there are any. -/
def arguments (fuel : Nat) (constant : Bool) : Reading (List (String × Literal)) :=
  optionalEnclosed fuel .parenOpen .parenClose do
    let name ← name
    mark .colon
    return (name, ← literal constant fuel)

/-- Reads the directives that are applied here. -/
def applications (fuel : Nat) (constant : Bool) : Nat → Reading (List Application)
  | 0 => refuse
  | n + 1 => do
    if ← optionalMark .atSign then
      let name ← name
      let arguments ← arguments fuel constant
      let rest ← applications fuel constant n
      return ⟨name, arguments⟩ :: rest
    else return []

/-- Reads the directives that are applied to a definition. -/
def directives (fuel : Nat) : Reading (List Application) :=
  applications fuel true fuel

/-! ### Types -/

/-- Reads a type reference. -/
def typeRef : Nat → Reading TypeRef
  | 0 => refuse
  | fuel + 1 => do
    let inner ← if ← optionalMark .bracketOpen then
        let item ← typeRef fuel
        mark .bracketClose
        pure (TypeRef.list item)
      else pure (TypeRef.named (← name))
    if ← optionalMark .bang then return .nonNull inner else return inner

/-- Reads a description, if there is one. -/
def description : Reading (Option String) := do
  match ← current with
  | .string value | .block value =>
    advance
    return value
  | _ => return none

/-- Reads an argument definition or a field of an input type. -/
def inputDef (fuel : Nat) : Reading InputDef := do
  let description ← description
  let name ← name
  mark .colon
  let type ← typeRef fuel
  let default? ← if ← optionalMark .equals then pure (some (← literal true fuel))
    else pure none
  return ⟨name, description, type, default?, ← directives fuel⟩

/-- Reads argument definitions, if there are any. -/
def argumentDefs (fuel : Nat) : Reading (List InputDef) :=
  optionalEnclosed fuel .parenOpen .parenClose (inputDef fuel)

/-- Reads a field definition. -/
def fieldDef (fuel : Nat) : Reading FieldDef := do
  let description ← description
  let name ← name
  let arguments ← argumentDefs fuel
  mark .colon
  let type ← typeRef fuel
  return ⟨name, description, arguments, type, ← directives fuel⟩

/-- Reads field definitions, if there are any. -/
def fieldDefs (fuel : Nat) : Reading (List FieldDef) :=
  optionalEnclosed fuel .braceOpen .braceClose (fieldDef fuel)

/-- Reads the interfaces that a type implements, if there are any. -/
def interfaces (fuel : Nat) : Reading (List String) := do
  if ← optionalKeyword "implements" then delimited fuel .amp name else return []

/-- Reads the members of a union, if there are any. -/
def unionMembers (fuel : Nat) : Reading (List String) := do
  if ← optionalMark .equals then delimited fuel .pipe name else return []

/-- Reads the definition of an enum value. -/
def enumValueDef (fuel : Nat) : Reading EnumValueDef := do
  let description ← description
  let token ← current
  let reserved := match token with
    | .name word | .string word | .block word => ["true", "false", "null"].contains word
    | _ => false
  if reserved then throw (.reservedEnumValue token)
  let name ← name
  return ⟨name, description, ← directives fuel⟩

/-- The words that begin the definition or extension of a type. -/
def typeKeywords : List (String × TypeKind) :=
  [("scalar", .scalar), ("type", .object), ("interface", .interface), ("union", .union),
    ("enum", .enum), ("input", .input)]

/-- Reads the definition of a type, from its keyword on. -/
def typeDef (fuel : Nat) (description : Option String) (kind : TypeKind) : Reading TypeDef := do
  advance
  let name ← name
  match kind with
  | .scalar => return ⟨name, description, ← directives fuel, .scalar⟩
  | .object =>
    let interfaces ← interfaces fuel
    let directives ← directives fuel
    return ⟨name, description, directives, .object interfaces (← fieldDefs fuel)⟩
  | .interface =>
    let interfaces ← interfaces fuel
    let directives ← directives fuel
    return ⟨name, description, directives, .interface interfaces (← fieldDefs fuel)⟩
  | .union =>
    let directives ← directives fuel
    return ⟨name, description, directives, .union (← unionMembers fuel)⟩
  | .enum =>
    let directives ← directives fuel
    let values ← optionalEnclosed fuel .braceOpen .braceClose (enumValueDef fuel)
    return ⟨name, description, directives, .enum values⟩
  | .input =>
    let directives ← directives fuel
    let fields ← optionalEnclosed fuel .braceOpen .braceClose (inputDef fuel)
    return ⟨name, description, directives, .input fields⟩

/-- Whether an extension adds nothing. -/
def addsNothing (t : TypeDef) : Bool :=
  t.directives.isEmpty && match t.body with
    | .scalar => true
    | .object interfaces fields | .interface interfaces fields =>
      interfaces.isEmpty && fields.isEmpty
    | .union members => members.isEmpty
    | .enum values => values.isEmpty
    | .input fields => fields.isEmpty

/-! ### The schema and directives -/

/-- Reads the word for an operation. -/
def operationKind : Reading OperationKind := do
  let token ← current
  let word ← name
  match OperationKind.ofWord? word with
  | some kind => return kind
  | none => throw (.unexpected token)

/-- Reads a root type of the schema. -/
def rootType : Reading (OperationKind × String) := do
  let kind ← operationKind
  mark .colon
  return (kind, ← name)

/-- Reads a place where directives are applied. -/
def location : Reading Location := do
  let token ← current
  let word ← name
  match Location.ofKeyword? word with
  | some location => return location
  | none => throw (.unexpected token)

/-- Reads the definition of a directive, from its keyword on. -/
def directiveDef (fuel : Nat) : Reading DirectiveDef := do
  keyword "directive"
  mark .atSign
  let name ← name
  let arguments ← argumentDefs fuel
  let repeatable ← optionalKeyword "repeatable"
  keyword "on"
  return ⟨name, arguments, repeatable, ← delimited fuel .pipe location⟩

/-- Reads an extension of the schema or of a type. -/
def extension (fuel : Nat) : Reading Definition := do
  match ← lookAhead with
  | .name "schema" =>
    advance
    advance
    let directives ← directives fuel
    let operations ← optionalEnclosed fuel .braceOpen .braceClose rootType
    if directives.isEmpty && operations.isEmpty then refuse
    return .schemaExtension ⟨directives, operations⟩
  | .name word =>
    match typeKeywords.lookup word with
    | some kind =>
      advance
      let t ← typeDef fuel none kind
      if addsNothing t then refuse
      return .typeExtension t
    | none => throw (.unexpected (.name word))
  | token => throw (.unexpected token)

/-! ### Executable definitions -/

/-- Reads the name of a fragment. -/
def fragmentName : Reading String := do
  if (← current) == .name "on" then refuse
  name

/-- Reads selections between braces. -/
def selections (fuel : Nat) : Nat → Reading (List Selection)
  | 0 => refuse
  | n + 1 =>
    enclosed fuel .braceOpen .braceClose do
      if ← optionalMark .spread then
        let onType ← optionalKeyword "on"
        if !onType && (match ← current with | .name _ => true | _ => false) then
          let _ ← fragmentName
          return .spread (← applications fuel false fuel)
        let condition ← if onType then pure (some (← name)) else pure none
        let directives ← applications fuel false fuel
        return .inline condition directives (← selections fuel n)
      let _ ← name
      if ← optionalMark .colon then
        let _ ← name
      let arguments ← arguments fuel false
      let directives ← applications fuel false fuel
      let inner ← if ← isMark .braceOpen then selections fuel n else pure []
      return .field arguments directives inner

/-- Reads the definition of a variable. -/
def variableDef (fuel : Nat) : Reading VariableDef := do
  mark .dollar
  let _ ← name
  mark .colon
  let type ← typeRef fuel
  let default? ← if ← optionalMark .equals then pure (some (← literal true fuel))
    else pure none
  return ⟨type, default?, ← directives fuel⟩

/-- The place of the directives of an operation. -/
def operationLocation : OperationKind → Location
  | .query => .query
  | .mutation => .mutation
  | .subscription => .subscription

/-- Reads an operation. -/
def operation (fuel : Nat) : Reading ExecutableDef := do
  if ← isMark .braceOpen then
    return ⟨.query, [], none, [], ← selections fuel fuel⟩
  let kind ← operationKind
  match ← current with
  | .name _ => advance
  | _ => pure ()
  let parameters ← optionalEnclosed fuel .parenOpen .parenClose (variableDef fuel)
  let directives ← applications fuel false fuel
  return ⟨operationLocation kind, parameters, none, directives, ← selections fuel fuel⟩

/-- Reads a fragment definition. -/
def fragment (fuel : Nat) : Reading ExecutableDef := do
  keyword "fragment"
  let _ ← fragmentName
  keyword "on"
  let condition ← name
  let directives ← applications fuel false fuel
  return ⟨.fragmentDefinition, [], condition, directives, ← selections fuel fuel⟩

/-! ### Documents -/

/-- Reads the definition of the schema, from its keyword on. -/
def schemaDef (fuel : Nat) : Reading SchemaDef := do
  keyword "schema"
  let directives ← directives fuel
  return ⟨directives, ← enclosed fuel .braceOpen .braceClose rootType⟩

/-- Reads a definition. -/
def definition (fuel : Nat) : Reading Definition := do
  if ← isMark .braceOpen then
    return .executable (← operation fuel)
  let described := match ← current with
    | .string _ | .block _ => true
    | _ => false
  let token ← if described then lookAhead else current
  match token with
  | .name word =>
    if word == "schema" then
      let _ ← description
      return .schema (← schemaDef fuel)
    else if word == "directive" then
      let _ ← description
      return .directive (← directiveDef fuel)
    else match typeKeywords.lookup word with
      | some kind =>
        let description ← description
        return .type (← typeDef fuel description kind)
      | none =>
        if described then throw .strayDescription
        else if word == "extend" then extension fuel
        else if word == "fragment" then return .executable (← fragment fuel)
        else if (OperationKind.ofWord? word).isSome then return .executable (← operation fuel)
        else throw (.unexpected token)
  | _ => throw (.unexpected token)

/-- Reads definitions up to the end of the text. -/
def definitions (fuel : Nat) : Nat → Reading (List Definition)
  | 0 => refuse
  | n + 1 => do
    let first ← definition fuel
    if (← current) == .endOfText then return [first]
    let rest ← definitions fuel n
    return first :: rest

/-- What a reader makes of a text, with the number of tokens as fuel. -/
def ofText {α : Type} (text : String) (reader : Nat → Reading α) : Except SyntaxFault α :=
  let all := tokens text
  let whole : Reading α := do
    advance
    reader (all.length + 1)
  (StateT.run whole (Cursor.mk .endOfText all)).map Prod.fst

end Reading

/-- The document that a text says. -/
def readDocument (text : String) : Except SyntaxFault Document :=
  Reading.ofText text fun fuel => Reading.definitions fuel fuel

/-- The type reference that a text says. -/
def readTypeRef (text : String) : Except SyntaxFault TypeRef :=
  Reading.ofText text fun fuel => do
    let type ← Reading.typeRef fuel
    let token ← Reading.current
    if token == .endOfText then return type else throw (.expected "<EOF>" token)

end Supergraph.Sdl
