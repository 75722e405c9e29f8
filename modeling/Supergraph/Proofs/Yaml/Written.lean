import Mathlib.Data.List.SplitBy
import Supergraph.Config
import Supergraph.Proofs.Reading.Value

/-!
# Documents are written in printable ASCII

Whatever data a document is written of, its text holds nothing but printable ASCII and line feeds:
texts with other characters stand between double quotes, where these are escaped, and everything
else is written in digits, letters and marks. In particular no carriage return is written, so that
a document is read from a file as it has been written to it.

## Main definitions

* `IsClear` — printable ASCII and line feeds only
* `Node.IsClear` — the trees whose scalars are texts or clear
* `Makes` — what holds of the trees of data, whatever anchors have been set

## Main results

* `isClear_writeScalar` — scalars in any form
* `isClear_writeFrom`, `isClear_writeDocument` — trees and documents
* `makes_node`, `isClear_nodes` — the trees of data
* `Config.isClear_text` — configurations
-/

namespace Supergraph.Yaml

/-- All characters are printable ASCII or line feeds. -/
def IsClear (cs : List Char) : Prop :=
  ∀ c ∈ cs, isSpecial c = false

instance (cs : List Char) : Decidable (IsClear cs) :=
  List.decidableBAll _ cs

section Clear

variable {c : Char} {cs more : List Char}

@[simp] theorem isClear_nil : IsClear [] :=
  fun _ member => absurd member List.not_mem_nil

@[simp] theorem isClear_cons : IsClear (c :: cs) ↔ isSpecial c = false ∧ IsClear cs :=
  List.forall_mem_cons

@[simp] theorem isClear_append : IsClear (cs ++ more) ↔ IsClear cs ∧ IsClear more :=
  List.forall_mem_append

theorem IsClear.subset (clear : IsClear cs) (subset : more ⊆ cs) : IsClear more :=
  fun c member => clear c (subset member)

@[simp] theorem isClear_replicate {n : Nat} : IsClear (List.replicate n ' ') := by
  intro c member
  rw [List.eq_of_mem_replicate member]
  rfl

@[simp] theorem isClear_newLine {indent : Nat} : IsClear (newLine indent) :=
  isClear_cons.2 ⟨rfl, isClear_replicate⟩

theorem isSpecial_eq_false_iff :
    isSpecial c = false ↔ c = '\n' ∨ 0x20 ≤ c.toNat ∧ c.toNat ≤ 0x7E := by
  simp [isSpecial, or_iff_not_imp_left]

theorem toNat_bounds_of_isAlphanum (alphanum : c.isAlphanum) : 0x30 ≤ c.toNat ∧ c.toNat ≤ 0x7A := by
  have within {least most : Char} (lower : '0' ≤ least) (upper : most ≤ 'z')
      (first : least.val ≤ c.val) (last : c.val ≤ most.val) : 0x30 ≤ c.toNat ∧ c.toNat ≤ 0x7A :=
    ⟨Nat.le_trans (UInt32.le_iff_toNat_le.1 lower) (UInt32.le_iff_toNat_le.1 first),
      Nat.le_trans (UInt32.le_iff_toNat_le.1 last) (UInt32.le_iff_toNat_le.1 upper)⟩
  rcases Bool.or_eq_true_iff.1 alphanum with alpha | digit
  · rcases Bool.or_eq_true_iff.1 alpha with upper | lower
    · obtain ⟨first, last⟩ := of_decide_eq_true upper
      exact within (by decide) (by decide) first last
    · obtain ⟨first, last⟩ := Bool.and_eq_true_iff.1 lower
      exact within (by decide) (by decide) (of_decide_eq_true first) (of_decide_eq_true last)
  · obtain ⟨first, last⟩ := Bool.and_eq_true_iff.1 digit
    exact within (by decide) (by decide) (of_decide_eq_true first) (of_decide_eq_true last)

theorem isClear_of_letters (letters : Reading.Letters cs) : IsClear cs := by
  intro c member
  have char := letters c member
  simp only [Reading.isWordChar, Bool.or_eq_true, beq_iff_eq] at char
  rcases char with (((alphanum | rfl) | rfl) | rfl) | rfl
  · obtain ⟨first, last⟩ := toNat_bounds_of_isAlphanum alphanum
    exact isSpecial_eq_false_iff.2
      (.inr ⟨Nat.le_trans (by decide) first, Nat.le_trans last (by decide)⟩)
  -- The four other characters of words are signs of numbers and underscores.
  all_goals rfl

theorem isClear_padded (width n : Nat) : IsClear (Layout.padded width n).toList :=
  isClear_of_letters (Reading.letters_padded width n)

end Clear

/-! ### Scalars -/

section Scalar

variable {c : Char} {cs run : List Char} {fold asKey : Bool} {column indent : Nat} {tag : Tag}
  {p : Pen}

/-- Runs are made of the characters of the text. -/
theorem IsClear.of_mem_runs (clear : IsClear cs) (member : run ∈ runs cs) : IsClear run := by
  refine clear.subset fun c inside => ?_
  rw [← List.flatten_splitBy (fun a b => (a == ' ') == (b == ' ') && isBreak a == isBreak b) cs]
  exact List.mem_flatten_of_mem member inside

theorem isClear_writePlain (clear : IsClear cs) : IsClear (writePlain fold column indent cs) := by
  rw [writePlain]
  -- The runs come one after the other, each behind a text that is clear.
  refine List.foldlRecOn (motive := fun p : Pen => IsClear p.written) (runs cs) _ isClear_nil ?_
  intro p written run member
  split
  · exact isClear_append.2 ⟨written, isClear_newLine⟩
  · exact isClear_append.2 ⟨written, clear.of_mem_runs member⟩

theorem isClear_doubleQuotes (clear : IsClear cs) : IsClear (doubleQuotes cs) := by
  intro d member
  obtain ⟨c, among, written⟩ := List.mem_flatMap.1 member
  split at written
  · have quotes : IsClear ['\'', '\''] := by decide
    exact quotes d written
  · exact List.mem_singleton.1 written ▸ clear c among

theorem isClear_singleQuotedRuns {rs : List (List Char)} {first : Bool}
    (clear : ∀ run ∈ rs, IsClear run) (written : IsClear p.written) :
    IsClear (singleQuotedRuns fold indent first p rs).written := by
  induction rs generalizing p first with
  | nil => exact written
  | cons run rest ih =>
    obtain ⟨here, others⟩ := List.forall_mem_cons.1 clear
    refine ih others ?_
    split
    -- Line breaks are written as they are, less the last one and between two line feeds.
    · have feeds := here.subset (List.dropLast_subset run)
      simp [written, feeds, show isSpecial '\n' = false from rfl]
    · split
      · exact isClear_append.2 ⟨written, isClear_newLine⟩
      · exact isClear_append.2 ⟨written, isClear_doubleQuotes here⟩

theorem isClear_writeSingleQuoted (clear : IsClear cs) :
    IsClear (writeSingleQuoted fold column indent cs) := by
  have opened : IsClear ['\''] := by decide
  exact isClear_append.2
    ⟨isClear_singleQuotedRuns (fun run member => clear.of_mem_runs member) opened, opened⟩

theorem isClear_hexUpper (width n : Nat) : IsClear (hexUpper width n) := by
  have digits : ∀ digit < 16, isSpecial (hexDigitUpper digit) = false := by decide
  induction width generalizing n with
  | zero => exact isClear_nil
  | succ width ih =>
    have last := digits (n % 16) (Nat.mod_lt n (by decide))
    exact isClear_append.2 ⟨ih _, isClear_cons.2 ⟨last, isClear_nil⟩⟩

/-- Escapes are clear, and what needs none is. -/
theorem isClear_escape? : IsClear ((escape? c).getD [c]) := by
  rw [escape?]
  split
  next =>
    have letters : ∀ entry ∈ letterEscapes, isSpecial entry.2 = false := by decide
    have back : isSpecial '\\' = false := rfl
    simp only [Option.getD_some]
    split
    next letter found =>
      obtain ⟨before, after, table, _⟩ := List.lookup_eq_some_iff.1 found
      have letter := letters _ (table ▸ List.mem_append_right before List.mem_cons_self)
      simp [back, letter]
    next =>
      split_ifs
      · simp [back, show isSpecial 'x' = false from rfl, isClear_hexUpper]
      · simp [back, show isSpecial 'u' = false from rfl, isClear_hexUpper]
      · simp [back, show isSpecial 'U' = false from rfl, isClear_hexUpper]
  next plain =>
    -- A character that needs no escape is printable.
    simp only [Bool.or_eq_true, not_or, Bool.not_eq_true', Bool.not_eq_false] at plain
    have char : isSpecial c = false := by
      rw [isSpecial, plain.2, Bool.or_true]
      rfl
    simp [char]

theorem isClear_foldDoubleQuoted (written : IsClear p.written) (next : Option Char) :
    IsClear (foldDoubleQuoted p indent next).written := by
  have back : IsClear ['\\'] := by decide
  have turned : IsClear ((p.put ['\\']).turn indent).written :=
    isClear_append.2 ⟨isClear_append.2 ⟨written, back⟩, isClear_newLine⟩
  rw [foldDoubleQuoted]
  split
  · exact isClear_append.2 ⟨turned, back⟩
  · exact turned

theorem isClear_doubleQuotedChars {first settled : Bool} (written : IsClear p.written) :
    IsClear (doubleQuotedChars fold indent first settled p cs).written := by
  induction cs generalizing p first settled with
  | nil => exact written
  | cons c rest ih =>
    have escaped := isClear_escape? (c := c)
    rw [doubleQuotedChars]
    simp only
    -- A fold comes behind an escape, but before a character that is written as it is.
    split
    next escape found =>
      rw [found] at escaped
      have put : IsClear (p.put escape).written := isClear_append.2 ⟨written, escaped⟩
      refine ih ?_
      split
      · exact isClear_foldDoubleQuoted put _
      · exact put
    next found =>
      rw [found] at escaped
      refine ih (isClear_append.2 ⟨?_, escaped⟩)
      split
      · exact isClear_foldDoubleQuoted written _
      · exact written

theorem isClear_writeDoubleQuoted : IsClear (writeDoubleQuoted fold column indent cs) := by
  have opened : IsClear ['"'] := by decide
  exact isClear_append.2 ⟨isClear_doubleQuotedChars opened, opened⟩

/-- A text with special characters stands between double quotes. -/
theorem isClear_of_styleOf (style : styleOf asKey .text cs ≠ .doubleQuoted) : IsClear cs := by
  by_contra special
  have some : cs.any isSpecial := by
    simpa [IsClear] using special
  exact style (by simp [styleOf, plainAllowed, singleQuotesAllowed, some])

/-- A text is written without special characters, and so is every other scalar that has none. -/
theorem isClear_writeScalar (clear : tag ≠ .text → IsClear cs) :
    IsClear (writeScalar asKey column indent tag cs) := by
  have unescaped : styleOf asKey tag cs ≠ .doubleQuoted → IsClear cs := by
    intro style
    by_cases text : tag = .text
    · exact isClear_of_styleOf (text ▸ style)
    · exact clear text
  rw [writeScalar]
  split
  next style => exact isClear_writePlain (unescaped (by rw [style]; decide))
  next style => exact isClear_writeSingleQuoted (unescaped (by rw [style]; decide))
  next => exact isClear_writeDoubleQuoted

end Scalar

/-! ### Trees -/

theorem isClear_anchorName (n : Nat) : IsClear (anchorName n).toList := by
  rw [anchorName, String.toList_append]
  exact isClear_append.2 ⟨by decide, isClear_padded 3 n⟩

/-- The marks of properties are clear. -/
def Properties.IsClear (p : Properties) : Prop :=
  ∀ mark ∈ p.mark, Yaml.IsClear mark.toList

theorem Properties.IsClear.text {p : Properties} (clear : p.IsClear) :
    Yaml.IsClear p.text.toList := by
  obtain ⟨anchor, mark⟩ := p
  have anchored : Yaml.IsClear ((anchor.map fun n => " &" ++ anchorName n).getD "").toList := by
    cases anchor with
    | none => exact isClear_nil
    | some n =>
      rw [Option.map_some, Option.getD_some, String.toList_append]
      exact isClear_append.2 ⟨by decide, isClear_anchorName n⟩
  rw [Properties.text, String.toList_append]
  refine isClear_append.2 ⟨anchored, ?_⟩
  cases mark with
  | none => exact isClear_nil
  | some mark =>
    rw [Option.map_some, Option.getD_some, String.toList_append]
    exact isClear_append.2 ⟨by decide, clear mark rfl⟩

namespace Node

/-- A tree whose scalars are texts or clear, and whose marks are clear. -/
inductive IsClear : Node → Prop
  | scalar {anchor : Option Nat} {tag : Tag} {text : String}
      (clear : tag ≠ .text → Yaml.IsClear text.toList) : IsClear (.scalar anchor tag text)
  | bytes (bs : List UInt8) : IsClear (.bytes bs)
  | sequence {p : Properties} {items : List Node} (properties : p.IsClear)
      (each : ∀ n ∈ items, IsClear n) : IsClear (.sequence p items)
  | mapping {p : Properties} {entries : List (Node × Node)} (properties : p.IsClear)
      (keys : ∀ e ∈ entries, IsClear e.1) (values : ∀ e ∈ entries, IsClear e.2) :
      IsClear (.mapping p entries)
  | reference (n : Nat) : IsClear (.reference n)

end Node

section Tree

variable {node : Node} {anchor : Option Nat} {tag : Tag} {text : String} {asKey : Bool}
  {column indent : Nat}

theorem isClear_scalarText (clear : tag ≠ .text → IsClear text.toList) :
    IsClear (Node.scalarText asKey column indent anchor tag text).toList := by
  rw [Node.scalarText, String.toList_append, String.toList_ofList]
  refine isClear_append.2 ⟨?_, isClear_writeScalar clear⟩
  cases anchor with
  | none => exact isClear_nil
  | some n =>
    have mark : isSpecial '&' = false := rfl
    have space : isSpecial ' ' = false := rfl
    simp [mark, space, isClear_anchorName]

theorem isClear_keyProperties {p : Properties} (clear : p.IsClear) :
    IsClear (Node.keyProperties p).toList := by
  rw [Node.keyProperties, String.toList_append, String.toList_ofList]
  refine isClear_append.2 ⟨clear.text.subset (List.drop_subset 1 _), ?_⟩
  split
  · exact isClear_nil
  · decide

theorem isClear_simpleKeyText (clear : node.IsClear) :
    IsClear (Node.simpleKeyText column indent node).toList := by
  cases clear with
  | scalar clear => exact isClear_scalarText clear
  | bytes => exact isClear_nil
  | sequence properties =>
    rw [Node.simpleKeyText, String.toList_append]
    exact isClear_append.2 ⟨isClear_keyProperties properties, by decide⟩
  | mapping properties =>
    rw [Node.simpleKeyText, String.toList_append]
    exact isClear_append.2 ⟨isClear_keyProperties properties, by decide⟩
  | reference n =>
    rw [Node.simpleKeyText, String.toList_append]
    exact isClear_append.2 ⟨by decide, isClear_anchorName n⟩

theorem isSpecial_base64Char (n : Nat) : isSpecial (Text.base64Char n) = false := by
  have alphabet : IsClear Text.base64Alphabet := by decide
  rw [Text.base64Char]
  cases found : Text.base64Alphabet[n % 64]? with
  | none => rfl
  | some c => exact alphabet c (List.mem_of_getElem? found)

theorem isClear_base64Chars (bs : List UInt8) : IsClear (Text.base64Chars bs) := by
  have fill : isSpecial '=' = false := rfl
  fun_induction Text.base64Chars bs with
  | case1 => exact isClear_nil
  | case2 => simp [fill, isSpecial_base64Char]
  | case3 => simp [fill, isSpecial_base64Char]
  | case4 a b c rest n ih => simp [isSpecial_base64Char, ih]

theorem isClear_of_mem_linesOfBytes {count : Nat} {bs : List UInt8} {line : List Char}
    (member : line ∈ Text.linesOfBytes count bs) : IsClear line := by
  induction count generalizing bs with
  | zero => cases member
  | succ count ih =>
    rw [Text.linesOfBytes] at member
    split at member
    · cases member
    · rcases List.mem_cons.1 member with rfl | later
      · exact isClear_base64Chars _
      · exact ih later

theorem isClear_bytesText (bs : List UInt8) : IsClear (Node.bytesText indent bs).toList := by
  rw [Node.bytesText]
  split
  · decide
  · rw [String.toList_append]
    refine isClear_append.2 ⟨by decide, fun c member => ?_⟩
    rw [String.toList_ofList] at member
    obtain ⟨line, among, inside⟩ := List.mem_flatMap.1 member
    have clear : IsClear (newLine indent ++ line) :=
      isClear_append.2 ⟨isClear_newLine, isClear_of_mem_linesOfBytes among⟩
    exact clear c inside

theorem isClear_lead (fresh : Bool) : IsClear (Node.lead fresh column indent).toList := by
  rw [Node.lead, String.toList_ofList]
  split
  · exact isClear_replicate
  · exact isClear_newLine

/-- Items are written clearly if each of them is. -/
theorem isClear_writeItems {items : List Node}
    (each : ∀ n ∈ items, ∀ indent column fresh inMapping,
      IsClear (n.writeFrom indent column fresh inMapping).toList) (indent : Nat) :
    IsClear (Node.writeItems indent items).toList := by
  induction items with
  | nil => exact isClear_nil
  | cons item rest ih =>
    obtain ⟨here, others⟩ := List.forall_mem_cons.1 each
    have mark : IsClear "-".toList := by decide
    rw [Node.writeItems, String.toList_append, String.toList_append]
    refine isClear_append.2 ⟨isClear_append.2 ⟨mark, here _ _ _ _⟩, ?_⟩
    split
    · exact isClear_nil
    · rw [String.toList_append, String.toList_ofList]
      exact isClear_append.2 ⟨isClear_newLine, ih others⟩

/-- Entries are written clearly if their keys and values are. -/
theorem isClear_writeEntries {entries : List (Node × Node)} (keys : ∀ e ∈ entries, e.1.IsClear)
    (written : ∀ e ∈ entries, ∀ indent column fresh inMapping,
      IsClear (e.1.writeFrom indent column fresh inMapping).toList ∧
        IsClear (e.2.writeFrom indent column fresh inMapping).toList) (indent : Nat) :
    IsClear (Node.writeEntries indent entries).toList := by
  have colon : isSpecial ':' = false := rfl
  have mark : isSpecial '?' = false := rfl
  induction entries with
  | nil => exact isClear_nil
  | cons entry rest ih =>
    obtain ⟨key, value⟩ := entry
    obtain ⟨clear, keysToo⟩ := List.forall_mem_cons.1 keys
    obtain ⟨here, others⟩ := List.forall_mem_cons.1 written
    have keyWritten := fun indent column fresh inMapping => (here indent column fresh inMapping).1
    have valueWritten := fun indent column fresh inMapping => (here indent column fresh inMapping).2
    rw [Node.writeEntries, String.toList_append]
    refine isClear_append.2 ⟨?_, ?_⟩
    · split
      · simp [colon, valueWritten, isClear_simpleKeyText clear]
      · simp [colon, mark, keyWritten, valueWritten]
    · split
      · exact isClear_nil
      · rw [String.toList_append, String.toList_ofList]
        exact isClear_append.2 ⟨isClear_newLine, ih keysToo others⟩

/-- A clear tree is written clearly wherever it stands. -/
theorem isClear_writeFrom (clear : node.IsClear) (indent column : Nat) (fresh inMapping : Bool) :
    IsClear (node.writeFrom indent column fresh inMapping).toList := by
  have space : IsClear " ".toList := by decide
  induction clear generalizing indent column fresh inMapping with
  | scalar clear =>
    rw [Node.writeFrom, String.toList_append]
    exact isClear_append.2 ⟨space, isClear_scalarText clear⟩
  | bytes bs => exact isClear_bytesText bs
  | sequence properties _ each =>
    rw [Node.writeFrom]
    split
    · rw [String.toList_append]
      exact isClear_append.2 ⟨properties.text, by decide⟩
    · rw [String.toList_append, String.toList_append]
      exact isClear_append.2 ⟨isClear_append.2 ⟨properties.text, isClear_lead _⟩,
        isClear_writeItems each _⟩
  | mapping properties keys values keysWritten valuesWritten =>
    rw [Node.writeFrom]
    split
    · rw [String.toList_append]
      exact isClear_append.2 ⟨properties.text, by decide⟩
    · rw [String.toList_append, String.toList_append]
      refine isClear_append.2 ⟨isClear_append.2 ⟨properties.text, isClear_lead _⟩,
        isClear_writeEntries keys ?_ _⟩
      exact fun e member indent column fresh inMapping =>
        ⟨keysWritten e member indent column fresh inMapping,
          valuesWritten e member indent column fresh inMapping⟩
  | reference n =>
    rw [Node.writeFrom, String.toList_append]
    exact isClear_append.2 ⟨by decide, isClear_anchorName n⟩

theorem isClear_writeDocument {entries : List (Node × Node)} (keys : ∀ e ∈ entries, e.1.IsClear)
    (values : ∀ e ∈ entries, e.2.IsClear) : IsClear (Node.writeDocument entries).toList := by
  rw [Node.writeDocument, String.toList_append]
  refine isClear_append.2 ⟨isClear_writeEntries keys ?_ 0, by decide⟩
  exact fun e member indent column fresh inMapping =>
    ⟨isClear_writeFrom (keys e member) indent column fresh inMapping,
      isClear_writeFrom (values e member) indent column fresh inMapping⟩

end Tree

/-! ### Data -/

theorem isClear_dateText (d : Date) : IsClear d.text.toList := by
  have dash : isSpecial '-' = false := rfl
  simp [Date.text, two, isClear_padded, dash]

theorem isClear_offsetText (minutes : Int) : IsClear (offsetText minutes).toList := by
  have colon : IsClear ":".toList := by decide
  have sign : IsClear (if minutes < 0 then "-" else "+").toList := by
    split
    · decide
    · decide
  simp only [offsetText, two, String.toList_append, isClear_append, isClear_padded, colon, sign,
    and_self]

theorem isClear_momentText (m : Moment) : IsClear m.text.toList := by
  have space : IsClear " ".toList := by decide
  have colon : IsClear ":".toList := by decide
  have micros : IsClear (if m.micro = 0 then "" else "." ++ Layout.padded 6 m.micro).toList := by
    split
    · exact isClear_nil
    · rw [String.toList_append]
      exact isClear_append.2 ⟨by decide, isClear_padded 6 _⟩
  have offset : IsClear ((m.offset.map offsetText).getD "").toList := by
    cases m.offset with
    | none => exact isClear_nil
    | some minutes => exact isClear_offsetText minutes
  simp only [Moment.text, two, String.toList_append, isClear_append, isClear_dateText,
    isClear_padded, space, colon, micros, offset, and_self]

/-- What is made of data has a property, whatever anchors have been set. -/
def Makes {α : Type} (property : α → Prop) (making : StateM (List Nat) α) : Prop :=
  ∀ anchors, property (making.run anchors).1

section Makes

variable {α β : Type} {property : α → Prop} {result : β → Prop} {again : List Nat}

theorem Makes.pure {a : α} (holds : property a) : Makes property (Pure.pure a) :=
  fun _ => holds

theorem Makes.bind {making : StateM (List Nat) α} {next : α → StateM (List Nat) β}
    (first : Makes property making) (second : ∀ a, property a → Makes result (next a)) :
    Makes result (making >>= next) :=
  fun anchors => second _ (first anchors) _

/-- What is made after something does not depend on it. -/
theorem Makes.after {making : StateM (List Nat) α} {next : α → StateM (List Nat) β}
    (each : ∀ a, Makes result (next a)) : Makes result (making >>= next) :=
  fun _ => each _ _

/-- An alias is clear, so what stands under an anchor is if its tree is. -/
theorem makes_underAnchor {number : Option Nat} {tree : Option Nat → StateM (List Nat) Node}
    (clear : ∀ anchor, Makes Node.IsClear (tree anchor)) :
    Makes Node.IsClear (Data.underAnchor again number tree) := by
  rw [Data.underAnchor]
  split
  · exact clear none
  next anchor _ =>
    refine Makes.after fun _ => ?_
    split
    · exact Makes.pure (.reference anchor)
    · exact Makes.after fun _ => clear anchor

/-- Every tree in a list is clear. -/
abbrev AreClear (trees : List Node) : Prop :=
  ∀ n ∈ trees, n.IsClear

/-- The keys and the values of entries are clear. -/
abbrev EntriesAreClear (entries : List (Node × Node)) : Prop :=
  ∀ e ∈ entries, e.1.IsClear ∧ e.2.IsClear

mutual

/-- Data become clear trees. -/
theorem makes_node (d : Data) : Makes Node.IsClear (d.node again) := by
  have plain (anchor : Option Nat) : Properties.IsClear { anchor := anchor } := nofun
  cases d with
  | null => exact Makes.pure (.scalar fun _ => by decide)
  | bool b => exact Makes.pure (.scalar fun _ => by cases b <;> decide)
  | int n => exact Makes.pure (.scalar fun _ => isClear_of_letters (Reading.isWord_int n).2)
  | float x =>
    have written := Reading.isWord_write Node.floatLayout (by decide) (by decide) x
    exact Makes.pure (.scalar fun _ => isClear_of_letters written.2)
  | undefined n => exact Makes.pure (.scalar fun _ => by decide)
  | text s => exact Makes.pure (.scalar fun other => absurd rfl other)
  | bytes bs => exact Makes.pure (.bytes bs)
  | date n d => exact makes_underAnchor fun _ => Makes.pure (.scalar fun _ => isClear_dateText d)
  | moment n m =>
    exact makes_underAnchor fun _ => Makes.pure (.scalar fun _ => isClear_momentText m)
  | pair a b =>
    have tuple : Properties.IsClear { mark := "!!python/tuple" } := by
      rintro mark ⟨⟩
      decide
    refine (makes_node a).bind fun first clear => (makes_node b).bind fun second clearToo => ?_
    exact Makes.pure (.sequence tuple (by simp [clear, clearToo]))
  | list n items =>
    exact makes_underAnchor fun anchor =>
      (makes_itemNodes items).bind fun _ clear => Makes.pure (.sequence (plain anchor) clear)
  | mapping n entries =>
    exact makes_underAnchor fun anchor => (makes_entryNodes entries).bind fun _ clear =>
      Makes.pure (.mapping (plain anchor) (fun e member => (clear e member).1)
        fun e member => (clear e member).2)
  | set n members =>
    have named (anchor : Option Nat) :
        Properties.IsClear { anchor := anchor, mark := "!!set" } := by
      rintro mark ⟨⟩
      decide
    refine makes_underAnchor fun anchor => (makes_itemNodes members).bind fun trees clear => ?_
    refine Makes.pure (.mapping (named anchor) ?_ ?_)
    · simpa [Data.memberEntry] using clear
    · intro e member
      obtain ⟨tree, _, rfl⟩ := List.mem_map.1 member
      exact .scalar fun _ => by decide
  | enclosingList n => exact makes_underAnchor fun _ => Makes.pure (.sequence (plain none) nofun)
  | enclosingMapping n => exact makes_underAnchor fun _ => Makes.pure (.sequence (plain none) nofun)

theorem makes_itemNodes (items : List Data) : Makes AreClear (Data.itemNodes again items) := by
  cases items with
  | nil => exact Makes.pure nofun
  | cons item rest =>
    refine (makes_node item).bind fun tree clear =>
      (makes_itemNodes rest).bind fun trees others => ?_
    exact Makes.pure (List.forall_mem_cons.2 ⟨clear, others⟩)

theorem makes_entryNodes (entries : List (Data × Data)) :
    Makes EntriesAreClear (Data.entryNodes again entries) := by
  match entries with
  | [] => exact Makes.pure nofun
  | (key, value) :: rest =>
    refine (makes_node key).bind fun first clear => (makes_node value).bind fun second clearToo =>
      (makes_entryNodes rest).bind fun trees others => ?_
    exact Makes.pure (List.forall_mem_cons.2 ⟨⟨clear, clearToo⟩, others⟩)

end

end Makes

/-- The entries of a document are clear trees. -/
theorem isClear_nodes (entries : List (Data × Data)) :
    EntriesAreClear (Data.nodes entries) :=
  makes_entryNodes entries []

end Supergraph.Yaml

namespace Supergraph

open Yaml

/-- A configuration is written in printable ASCII and line feeds. -/
theorem Config.isClear_text (c : Config) : IsClear c.text.toList :=
  isClear_writeDocument (fun e member => (isClear_nodes c.entries e member).1)
    fun e member => (isClear_nodes c.entries e member).2

end Supergraph
