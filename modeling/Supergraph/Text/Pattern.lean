/-!
# Patterns

Regular patterns over characters, matched by derivatives: the derivative of a pattern by a character
accepts what may follow that character.

## Main definitions

* `Pattern` — the patterns, with the shapes the tables of this library are written in
* `Pattern.accepts` — whether a pattern accepts a whole text
-/

namespace Supergraph.Text

/-- A regular pattern. -/
inductive Pattern where
  | fail
  | done
  | one (holds : Char → Bool)
  | seq (first second : Pattern)
  | alt (left right : Pattern)
  | star (body : Pattern)

namespace Pattern

/-- The pattern that accepts the given characters one after the other. -/
def word (text : String) : Pattern :=
  text.toList.foldr (fun c p => seq (one (· == c)) p) done

/-- The pattern that accepts one of the given texts. -/
def anyOf (texts : List String) : Pattern :=
  texts.foldr (fun t p => alt (word t) p) fail

/-- One character of the given ones. -/
def oneOf (chars : String) : Pattern :=
  one fun c => chars.toList.contains c

/-- The pattern or nothing. -/
def opt (p : Pattern) : Pattern :=
  alt done p

/-- The pattern once or more often. -/
def plus (p : Pattern) : Pattern :=
  seq p (star p)

/-- The patterns one after the other. -/
def all (parts : List Pattern) : Pattern :=
  parts.foldr seq done

/-- Whether the pattern accepts the empty text. -/
def nullable : Pattern → Bool
  | fail => false
  | done => true
  | one _ => false
  | seq p q => p.nullable && q.nullable
  | alt p q => p.nullable || q.nullable
  | star _ => true

/-- A sequence, without parts that fail or are done. -/
def seqOf : Pattern → Pattern → Pattern
  | fail, _ => fail
  | done, q => q
  | p, q => seq p q

/-- A choice, without a side that fails. -/
def altOf : Pattern → Pattern → Pattern
  | fail, q => q
  | p, fail => p
  | p, q => alt p q

/-- What may follow the character in a text the pattern accepts. -/
def derive (c : Char) : Pattern → Pattern
  | fail => fail
  | done => fail
  | one holds => if holds c then done else fail
  | seq p q => if p.nullable then altOf (seqOf (p.derive c) q) (q.derive c) else seqOf (p.derive c) q
  | alt p q => altOf (p.derive c) (q.derive c)
  | star p => seqOf (p.derive c) (star p)

/-- Whether the pattern accepts the whole text. -/
def accepts (p : Pattern) (cs : List Char) : Bool :=
  (cs.foldl (fun q c => q.derive c) p).nullable

end Pattern

end Supergraph.Text
