import Supergraph.Proofs.Reading.Value
import Supergraph.Proofs.ServiceModule

/-!
# What the service module binds

The service module binds the port, the table of addresses and the table of root fields, and nothing
else. The tables are those of the plan: every subgraph has a member with its name and its address,
and every root field has a member under its operation.

## Main definitions

* `addressTable`, `rootTable` — the two tables
* `rootMember` — the member of one root field

## Main results

* `bindings?_moduleLines` — the bindings of the service module
-/

namespace Supergraph.Reading

open Emit

/-- The table of addresses. -/
def addressTable (subgraphs : Table Subgraph) : Expr :=
  .dict (subgraphs.values.map fun s => (.text s.name, .text s.url))

/-- The members of the entry of an argument. -/
def argumentMembers (a : ArgumentPlan) : List (Expr × Expr) :=
  (.text "type", .text a.shape.hint) ::
    match a.default? with
    | some value => [(.text "default", Expr.ofValue value)]
    | none => []

/-- The member of an argument in the entry of its root field. -/
def argumentMember (a : ArgumentPlan) : Expr × Expr :=
  (.text a.name, .dict (argumentMembers a))

/-- The member of a root field that is forwarded to the subgraph of the given name. -/
def rootMember (client : String) (f : RootField) : Expr × Expr :=
  (.text f.name, .dict
    ([(.text "type", .text f.shape.hint), (.text "client", .text client),
        (.text "arguments", .dict (f.arguments.map argumentMember))]
      ++ match f.deprecation with
        | some reason => [(.text "deprecated", .text reason)]
        | none => []))

/-- The member of an operation in the table of root fields. -/
def operationMember (plan : Plan) (operation : RootOperation) : Expr × Expr :=
  (.text operation.label, .dict
    ((plan.fieldsFor operation).map fun f => rootMember (plan.ownerName f) f))

/-- The table of root fields. -/
def rootTable (plan : Plan) : Expr :=
  .dict [operationMember plan .query, operationMember plan .mutation]

section Members

theorem fillsDict_argumentLine (a : ArgumentPlan) :
    FillsDict [argumentLine a] [argumentMember a] := by
  have blanks : Blanks "                ".toList := by decide
  have hint := SpellsMember.of_spells (Spells.plain "type" (by decide))
    (Spells.quoted a.shape.hint)
  rw [argumentMember, argumentMembers]
  unfold argumentLine
  cases a.default? with
  | none =>
    have entry := Spells.dict (.cons hint .nil)
    refine .member blanks (SpellsMember.of_spells (Spells.quoted a.name) entry) ?_
    simp [String.toList_append]
  | some value =>
    have default := SpellsMember.of_spells (Spells.plain "default" (by decide))
      (spells_literal value)
    have entry := Spells.dict (.cons hint (.cons default .nil))
    refine .member blanks (SpellsMember.of_spells (Spells.quoted a.name) entry) ?_
    simp [String.toList_append, List.intercalate_cons_cons]

theorem fillsDict_argumentLines (arguments : List ArgumentPlan) :
    FillsDict (argumentLines arguments)
      [(.text "arguments", .dict (arguments.map argumentMember))] := by
  have blanks : Blanks "            ".toList := by decide
  have key : Spells _ (.text "arguments") := Spells.plain "arguments" (by decide)
  cases arguments with
  | nil => exact .member blanks (SpellsMember.of_spells key (Spells.dict .nil)) rfl
  | cons a rest =>
    have inner := FillsDict.map (a :: rest) fun a _ => fillsDict_argumentLine a
    exact .block blanks blanks key rfl rfl inner

/-- A line with a plain key and a quoted text. -/
theorem fillsDict_textLine {start : String} (key value : String) (plain : IsPlain '"' key.toList)
    (written : start = "            \"" ++ key ++ "\": ") :
    FillsDict [start ++ Text.quoted value ++ ","] [(.text key, .text value)] := by
  have blanks : Blanks "            ".toList := by decide
  refine .member blanks (SpellsMember.of_spells (Spells.plain key plain) (Spells.quoted value)) ?_
  simp [written, String.toList_append]

theorem fillsDict_rootFieldLines (client : String) (f : RootField) :
    FillsDict (rootFieldLines client f) [rootMember client f] := by
  have blanks : Blanks "        ".toList := by decide
  have type := fillsDict_textLine "type" f.shape.hint (by decide) rfl
  have served := fillsDict_textLine "client" client (by decide) rfl
  have deprecated : FillsDict
      (match f.deprecation with
        | some reason => ["            \"deprecated\": " ++ Text.quoted reason ++ ","]
        | none => [])
      (match f.deprecation with
        | some reason => [(.text "deprecated", .text reason)]
        | none => []) := by
    cases f.deprecation with
    | none => exact .nil
    | some reason => exact fillsDict_textLine "deprecated" reason (by decide) rfl
  have arguments := fillsDict_argumentLines f.arguments
  have inner := ((type.append served).append arguments).append deprecated
  have opening : ("        " ++ Text.quoted f.name ++ ": \x7b").toList =
      "        ".toList ++ ((Text.quoted f.name).toList ++ [':', ' ', '\x7b']) := by
    simp [String.toList_append]
  have closing : "        \x7d,".toList = "        ".toList ++ ['\x7d', ','] := rfl
  exact .block blanks blanks (Spells.quoted f.name) opening closing inner

theorem fillsDict_entryLines (plan : Plan) (operation : RootOperation) :
    FillsDict (entryLines plan operation) [operationMember plan operation] := by
  have blanks : Blanks "    ".toList := by decide
  rw [entryLines, operationMember]
  split
  next none =>
    rw [List.isEmpty_iff.1 none]
    refine .member blanks (SpellsMember.of_spells (Spells.quoted operation.label)
      (Spells.dict .nil)) ?_
    simp [String.toList_append]
  next some =>
    have inner := FillsDict.flatMap (plan.fieldsFor operation) fun f _ =>
      fillsDict_rootFieldLines (plan.ownerName f) f
    have opening : ("    " ++ Text.quoted operation.label ++ ": \x7b").toList =
        "    ".toList ++ ((Text.quoted operation.label).toList ++ [':', ' ', '\x7b']) := by
      simp [String.toList_append]
    have closing : "    \x7d,".toList = "    ".toList ++ ['\x7d', ','] := rfl
    exact .block blanks blanks (Spells.quoted operation.label) opening closing inner

end Members

/-! ### The statements -/

section Statements

theorem binds_port (port : Int) : Binds [s!"PORT = {port}"] "PORT" (.word (toString port)) := by
  refine Binds.of_leads fun bound => ?_
  have written : (s!"PORT = {port}").toList =
      "PORT".toList ++ ' ' :: '=' :: ' ' :: (toString port).toList := by
    change ("PORT = " ++ toString port).toList = _
    rw [String.toList_append]
    rfl
  rw [written]
  exact leads_assignment (by decide) (by decide) bound
    (Spells.word (isWord_int port) bound "PORT" [])

/-- The name of the table of addresses with its annotation. -/
theorem leads_addressTable (bound : List (String × Expr)) {cs : List Char} {t : State}
    (value : Leads cs ⟨bound, .before "SUBGRAPH_URLS" []⟩ t) :
    Leads ("SUBGRAPH_URLS: dict[str, str] = ".toList ++ cs) ⟨bound, .start⟩ t := by
  have first : Leads "SUBGRAPH_URLS".toList ⟨bound, .start⟩ ⟨bound, .named "SUBGRAPH_URLS"⟩ :=
    Leads.word (by decide) rfl
  have passed : ∀ w : String, IsWord w.toList → Leads w.toList
      ⟨bound, .annotated "SUBGRAPH_URLS"⟩ ⟨bound, .annotated "SUBGRAPH_URLS"⟩ :=
    fun w isWord => Leads.word isWord rfl
  -- The text is cut before its marks and blanks, where words end.
  change Leads ("SUBGRAPH_URLS".toList ++ ':' :: ' ' :: ("dict".toList ++ '[' ::
    ("str".toList ++ ',' :: ' ' :: ("str".toList ++ ']' :: ' ' :: '=' :: ' ' :: cs)))) _ _
  refine first.trans (Leads.cons rfl rfl (Leads.blank ?_)) rfl
  refine (passed "dict" (by decide)).trans (Leads.cons rfl rfl ?_) rfl
  refine (passed "str" (by decide)).trans (Leads.cons rfl rfl (Leads.blank ?_)) rfl
  refine (passed "str" (by decide)).trans (Leads.cons rfl rfl (Leads.blank ?_)) rfl
  exact Leads.cons rfl rfl value.blank

theorem binds_urlLines (subgraphs : Table Subgraph) :
    Binds (urlLines subgraphs) "SUBGRAPH_URLS" (addressTable subgraphs) := by
  rw [urlLines, addressTable]
  split
  next none =>
    have empty : subgraphs.values = [] := by
      rw [Table.values, List.isEmpty_iff.1 none, List.map_nil]
    rw [empty]
    refine Binds.of_leads fun bound => leads_addressTable bound ?_
    exact Leads.cons rfl rfl (Leads.cons rfl rfl (Leads.nil _))
  next some =>
    have blanks : Blanks "    ".toList := by decide
    have inner : FillsDict
        (subgraphs.values.map fun s =>
          "    " ++ Text.quoted s.name ++ ": " ++ Text.quoted s.url ++ ",")
        (subgraphs.values.map fun s => (.text s.name, .text s.url)) := by
      refine FillsDict.map subgraphs.values fun s _ => .member blanks
        (SpellsMember.of_spells (Spells.quoted s.name) (Spells.quoted s.url)) ?_
      simp [String.toList_append]
    refine Binds.dict (fun bound => leads_addressTable bound ?_) inner
    exact Leads.cons rfl rfl (Leads.nil _)

theorem binds_tableLines (plan : Plan) :
    Binds (tableLines plan) "ROOT_FIELDS" (rootTable plan) := by
  have first : ∀ bound, Leads "ROOT_FIELDS = \x7b".toList ⟨bound, .start⟩
      ⟨bound, .before "ROOT_FIELDS" [.dict []]⟩ := by
    intro bound
    have isWord : IsWord "ROOT_FIELDS".toList := by decide
    exact leads_assignment isWord (by decide) bound (Leads.cons rfl rfl (Leads.nil _))
  rw [tableLines, rootTable]
  exact Binds.dict first
    ((fillsDict_entryLines plan .query).append (fillsDict_entryLines plan .mutation))

theorem leadsLines_serviceHeader (bound : List (String × Expr)) :
    LeadsLines serviceHeader ⟨bound, .start⟩ ⟨bound, .start⟩ := by
  have first : LeadsLines ["# Auto-generated gateway service tables from the supergraph schema"]
      ⟨bound, .start⟩ ⟨bound, .start⟩ := LeadsLines.comment _ rfl (by decide) rfl
  have second : LeadsLines ["# Do not edit manually - regenerate with: gatewaygen generate"]
      ⟨bound, .start⟩ ⟨bound, .start⟩ := LeadsLines.comment _ rfl (by decide) rfl
  exact (first.append second).append (leadsLines_empty bound)

/-- The function at the end is not read. -/
theorem readFrom_lookupFunction (bound : List (String × Expr)) :
    readFrom ⟨bound, .start⟩
      ((lookupFunction ++ [""]).flatMap fun line => line.toList ++ ['\n']) =
        some ⟨bound, .function⟩ := by
  -- Only the first word of the function is read; the rest has to fall into tokens.
  generalize written : ((lookupFunction ++ [""]).flatMap fun line => line.toList ++ ['\n']) = text
  have begins : text = "def".toList ++ ' ' :: text.drop 4 := by
    rw [← written]
    rfl
  have scanned : (tokens? (' ' :: text.drop 4)).isSome := by
    rw [← written]
    decide +kernel
  rw [begins, readFrom_word (by decide) rfl rfl]
  exact readFrom_function scanned

end Statements

/-- The service module binds the port, the addresses and the root fields. -/
theorem bindings?_moduleLines (plan : Plan) (port : Int) :
    bindings? (String.intercalate "\n" (moduleLines plan port)) =
      some [("PORT", .word (toString port)), ("SUBGRAPH_URLS", addressTable plan.subgraphs),
        ("ROOT_FIELDS", rootTable plan)] := by
  have tables : LeadsLines (serviceHeader ++ [s!"PORT = {port}", ""] ++ urlLines plan.subgraphs
      ++ [""] ++ tableLines plan ++ ["", ""]) ⟨[], .start⟩
      ⟨[("PORT", .word (toString port)), ("SUBGRAPH_URLS", addressTable plan.subgraphs),
        ("ROOT_FIELDS", rootTable plan)], .start⟩ := by
    have first := (binds_port port []).append (leadsLines_empty _)
    have second := (binds_urlLines plan.subgraphs [("PORT", .word (toString port))]).append
      (leadsLines_empty _)
    have third := (binds_tableLines plan [("PORT", .word (toString port)),
      ("SUBGRAPH_URLS", addressTable plan.subgraphs)]).append
        ((leadsLines_empty _).append (leadsLines_empty _))
    have all := (((leadsLines_serviceHeader []).append first).append second).append third
    simpa only [List.append_assoc, List.cons_append, List.nil_append] using all
  have nonempty : moduleLines plan port ≠ [] := by simp [moduleLines]
  -- The lines up to the function bind the tables, and the function is passed over.
  have split : moduleLines plan port = (serviceHeader ++ [s!"PORT = {port}", ""]
      ++ urlLines plan.subgraphs ++ [""] ++ tableLines plan ++ ["", ""])
      ++ (lookupFunction ++ [""]) := by
    rw [moduleLines, List.append_assoc]
  rw [bindings?, toList_intercalate_lines nonempty, split, List.flatMap_append, tables,
    readFrom_lookupFunction]
  rfl

end Supergraph.Reading
