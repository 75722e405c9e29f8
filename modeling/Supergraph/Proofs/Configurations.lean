import Supergraph.Proofs.PlanShown
import Supergraph.Proofs.Yaml.Written

/-!
# Configurations, from the file to the document

A command begins with what a file says of its project, or with the name of the directory when there
is no file, and puts over it what has been set. Only the mapping of a file is checked; what has been
set has been checked before, except that something that is no port may stand for one. So the port
that a command works with is an integer unless such a thing has been set, and the format has always
the name of one that documents are rendered in.

## Main definitions

* `Config.Follows` — the configuration that members say, each of them or what is usual for it
* `Config.IsValid` — members whose format and port are such
* `FileTree.Maps` — the members that a command finds at the path of its configuration
* `Config.ReadsAs`, `Config.Agrees` — texts that are read as what they were written for, and
  configurations that are the same
* `Command.Settings.over` — members with what has been set in place of them

## Main results

* `Document.renderNamed_eq_ok_iff` — the formats that documents are rendered in
* `Config.ofMembers_eq_ok_iff`, `Config.ofMembers_eq_error_of_not_isValid` — which mappings are
  accepted, and why the others are refused
* `Config.exists_configures_of_write` — a configuration that has been saved is there again
* `Command.applied_follows`, `Command.project_port_iff` — what has been set is kept, and the port is
  an integer
* `Command.configurations_stay_valid_iff` — from the file to the document and back
-/

namespace Supergraph

open Yaml (Data)

/-! ### Formats -/

theorem PlanFormat.ofName?_eq_some_iff {name : String} {format : PlanFormat} :
    PlanFormat.ofName? name = some format ↔ format.name = name := by
  constructor
  · intro found
    simpa using List.find?_some found
  · rintro rfl
    cases format <;> rfl

theorem PlanFormat.name_mem_names (format : PlanFormat) : format.name ∈ PlanFormat.names := by
  cases format <;> decide

theorem PlanFormat.exists_name_eq {name : String} (member : name ∈ PlanFormat.names) :
    ∃ format : PlanFormat, format.name = name := by
  simp only [PlanFormat.names, List.mem_cons, List.not_mem_nil, or_false] at member
  rcases member with rfl | rfl
  · exact ⟨.yaml, rfl⟩
  · exact ⟨.json, rfl⟩

/-- Documents are rendered in the formats that there are. -/
theorem Document.renderNamed_eq_ok_iff {plan : Plan} {name text : String} :
    renderNamed plan name = .ok text ↔
      ∃ format : PlanFormat, format.name = name ∧ render plan format = text := by
  rw [renderNamed]
  cases found : PlanFormat.ofName? name with
  | none =>
    have other : ∀ format : PlanFormat, format.name ≠ name := by
      intro format same
      rw [PlanFormat.ofName?_eq_some_iff.2 same] at found
      cases found
    simp [other]
  | some format =>
    obtain rfl := PlanFormat.ofName?_eq_some_iff.1 found
    simp [← PlanFormat.ofName?_eq_some_iff, found]

/-! ### Mappings -/

theorem Yaml.Data.sameKey_text_iff {d : Data} {s : String} :
    d.sameKey (.text s) = true ↔ d = .text s := by
  cases d with
  | float x => cases number : x.fraction? <;> simp [Data.sameKey, Data.keyNumber?, number]
  | _ => simp [Data.sameKey, Data.keyNumber?]

namespace Config

variable {c : Config} {d : Data} {member? : String → Option Data}

theorem formatOf?_eq_some_iff {format : PlanFormat} :
    formatOf? d = some format ↔ d = .text format.name := by
  cases d with
  | text name =>
    rw [formatOf?, PlanFormat.ofName?_eq_some_iff, Data.text.injEq]
    exact eq_comm
  | _ => simp [formatOf?]

theorem portOf?_eq_some_iff {n : Int} : portOf? d = some n ↔ d = .int n := by
  cases d with
  | int m => simp [portOf?]
  | _ => simp [portOf?]

/-- Every member of a configuration is what is said under its name, or what is usual when nothing is
said there. -/
structure Follows (c : Config) (member? : String → Option Data) : Prop where
  version : c.version = (member? "version").getD (.int 1)
  project : c.project = (member? "project").getD (.text "gateway")
  supergraph : c.supergraph = (member? "supergraph").getD (.text "supergraph.graphql")
  output : c.output = (member? "output").getD (.text "gateway")
  port : (member? "port").getD (.int 9000) = .int c.port
  planFormat : (member? "plan_format").getD (.text "yaml") = .text c.planFormat.name

theorem ofMembers_eq (member? : String → Option Data) :
    ofMembers member? =
      let format := (member? "plan_format").getD (.text "yaml")
      let port := (member? "port").getD (.int 9000)
      match formatOf? format, portOf? port with
      | none, _ => .error (showing .planFormat format)
      | _, none => .error (showing .port port)
      | some planFormat, some port =>
        .ok ⟨(member? "version").getD (.int 1), (member? "project").getD (.text "gateway"),
          (member? "supergraph").getD (.text "supergraph.graphql"),
          (member? "output").getD (.text "gateway"), port, planFormat⟩ :=
  rfl

/-- A mapping is accepted as the configuration that its members say. -/
theorem ofMembers_eq_ok_iff : ofMembers member? = .ok c ↔ c.Follows member? := by
  rw [ofMembers_eq]
  constructor
  · intro accepted
    simp only at accepted
    split at accepted
    next => cases accepted
    next => cases accepted
    next format n named number =>
      cases accepted
      exact ⟨rfl, rfl, rfl, rfl, portOf?_eq_some_iff.1 number, formatOf?_eq_some_iff.1 named⟩
  · rintro ⟨version, project, supergraph, output, port, planFormat⟩
    simp only [formatOf?_eq_some_iff.2 planFormat, portOf?_eq_some_iff.2 port, ← version, ← project,
      ← supergraph, ← output]

/-- What is said of the format and of the port, or what is usual, is a format and a port. -/
structure IsValid (member? : String → Option Data) : Prop where
  planFormat : ∃ name ∈ PlanFormat.names, (member? "plan_format").getD (.text "yaml") = .text name
  port : ∃ n, (member? "port").getD (.int 9000) = .int n

theorem exists_follows_iff : (∃ c : Config, c.Follows member?) ↔ IsValid member? := by
  constructor
  · rintro ⟨c, follows⟩
    exact ⟨⟨_, c.planFormat.name_mem_names, follows.planFormat⟩, _, follows.port⟩
  · rintro ⟨⟨_, member, named⟩, n, number⟩
    obtain ⟨format, rfl⟩ := PlanFormat.exists_name_eq member
    exact ⟨⟨_, _, _, _, n, format⟩, rfl, rfl, rfl, rfl, number, named⟩

/-- A mapping that is not valid is refused for its format, or else for its port. -/
theorem ofMembers_eq_error_of_not_isValid (invalid : ¬IsValid member?) :
    ofMembers member? =
        .error (showing .planFormat ((member? "plan_format").getD (.text "yaml"))) ∨
      ofMembers member? = .error (showing .port ((member? "port").getD (.int 9000))) := by
  rw [ofMembers_eq]
  simp only
  split
  next => exact .inl rfl
  next => exact .inr rfl
  next format n named number =>
    exact absurd ⟨⟨_, format.name_mem_names, formatOf?_eq_some_iff.1 named⟩, n,
      portOf?_eq_some_iff.1 number⟩ invalid

/-- Members say one configuration at most. -/
theorem Follows.unique {c' : Config} (follows : c.Follows member?) (other : c'.Follows member?) :
    c = c' :=
  Except.ok.inj ((ofMembers_eq_ok_iff.2 follows).symm.trans (ofMembers_eq_ok_iff.2 other))

/-- The members of a configuration that no file says: the name of the project. -/
def nameOnly (name : String) : String → Option Data
  | "project" => some (.text name)
  | _ => none

theorem follows_nameOnly (name : String) : (ofProject (.text name)).Follows (nameOnly name) :=
  ⟨rfl, rfl, rfl, rfl, rfl, rfl⟩

/-- The members that a configuration writes say the configuration. -/
theorem follows_entries (c : Config) : c.Follows fun name => Data.lookup? name c.entries :=
  ⟨rfl, rfl, rfl, rfl, rfl, rfl⟩

/-! ### Texts -/

/-- A document is a mapping, and one that does not count as nothing. -/
def IsMapping (document : Yaml.Document) : Prop :=
  isNothingAt document = false ∧ document.entries?.isSome

variable {path text : String} {document : Yaml.Document}

theorem ofText_of_isMapping (read : Yaml.Document.ofText text = .ok (some document))
    (mapping : IsMapping document) : ofText path text = ofMembers document.member? := by
  rw [ofText, read]
  simp [Except.mapError, bind, Except.bind, mapping.1, mapping.2]

/-- A text that says nothing configures what an empty mapping does. -/
theorem ofText_of_isNothing {found : Option Yaml.Document}
    (read : Yaml.Document.ofText text = .ok found) (nothing : ∀ d ∈ found, isNothingAt d = true) :
    ofText path text = ofMembers fun _ => none := by
  rw [ofText, read]
  cases found with
  | none => rfl
  | some document =>
    simp only [Except.mapError, bind, Except.bind, nothing document rfl, if_true]
    rfl

end Config

/-! ### Files -/

/-- The members that a command finds at the path of its configuration. -/
inductive FileTree.Maps (t : FileTree) (path : Path) : (String → Option Data) → Prop
  /-- Nothing lies there, and the project has the name of the directory. -/
  | absent (nothing : t.kindOf path = .ok none) :
      t.Maps path (Config.nameOnly (t.home.head?.getD ""))
  /-- A file is empty there, or says nothing else. -/
  | empty {text : String} {found : Option Yaml.Document} (said : t.Says path text)
      (read : Yaml.Document.ofText text = .ok found)
      (nothing : ∀ d ∈ found, Config.isNothingAt d = true) : t.Maps path fun _ => none
  | mapping {text : String} {document : Yaml.Document} (said : t.Says path text)
      (read : Yaml.Document.ofText text = .ok (some document))
      (mapping : Config.IsMapping document) : t.Maps path document.member?

section Files

variable {t t' : FileTree} {path : Path} {text : String} {found : Option Config}
  {member? : String → Option Data} {base : Config}

theorem FileTree.Says.unique {other : String} (said : t.Says path text)
    (saidToo : t.Says path other) : text = other := by
  obtain ⟨raw, read, rfl⟩ := said
  obtain ⟨rawToo, readToo, rfl⟩ := saidToo
  cases read.symm.trans readToo
  rfl

/-- What a file says is the configuration there. -/
theorem FileTree.Says.configures_iff (said : t.Says path text) :
    t.Configures path found ↔
      ∃ config, Config.ofText path.text text = .ok config ∧ some config = found := by
  constructor
  · rintro (⟨absent, _⟩ | ⟨_, saidToo, rest⟩)
    · cases said.kindOf_eq.symm.trans absent
    · exact said.unique saidToo ▸ rest
  · exact fun rest => .inr ⟨text, said, rest⟩

/-- A command begins with the configuration that the members say which it finds. -/
theorem FileTree.Maps.configures_iff (maps : t.Maps path member?) :
    (∃ found, t.Configures path found ∧
        found.getD (.ofProject (.text (t.home.head?.getD ""))) = base) ↔
      base.Follows member? := by
  rw [← Config.ofMembers_eq_ok_iff]
  cases maps with
  | absent nothing =>
    -- The usual configuration is that of a mapping with the name alone.
    have usual := Config.ofMembers_eq_ok_iff.2 (Config.follows_nameOnly (t.home.head?.getD ""))
    rw [usual, Except.ok.injEq]
    constructor
    · rintro ⟨found, ⟨_, rfl⟩ | ⟨text, said, _⟩, same⟩
      · exact same
      · cases said.kindOf_eq.symm.trans nothing
    · exact fun same => ⟨none, .inl ⟨nothing, rfl⟩, same⟩
  | empty said read nothing =>
    simp [said.configures_iff, Config.ofText_of_isNothing read nothing]
  | mapping said read mapping =>
    simp [said.configures_iff, Config.ofText_of_isMapping read mapping]

end Files

/-! ### Saving -/

namespace Config

/-- Data are only the same as an integer or a text if they are that integer or text. -/
structure IsExact (same : Data → Data → Prop) : Prop where
  int : ∀ d n, same d (.int n) → d = .int n
  text : ∀ d s, same d (.text s) → d = .text s

/-- A text is read as a mapping again, which says the same as entries under the name of each. -/
def ReadsAs (same : Data → Data → Prop) (text : String) (entries : List (Data × Data)) : Prop :=
  ∃ document, Yaml.Document.ofText text = .ok (some document) ∧ IsMapping document ∧
    ∀ name value, (Data.text name, value) ∈ entries →
      ∃ d, document.member? name = some d ∧ same d value

/-- Two configurations have the same port, the same format and otherwise the same data. -/
structure Agrees (same : Data → Data → Prop) (c c' : Config) : Prop where
  version : same c.version c'.version
  project : same c.project c'.project
  supergraph : same c.supergraph c'.supergraph
  output : same c.output c'.output
  port : c.port = c'.port
  planFormat : c.planFormat = c'.planFormat

theorem agrees_eq_iff {c c' : Config} : c.Agrees Eq c' ↔ c = c' := by
  constructor
  · rintro ⟨version, project, supergraph, output, port, planFormat⟩
    cases c
    cases c'
    simp_all
  · rintro rfl
    exact ⟨rfl, rfl, rfl, rfl, rfl, rfl⟩

variable {c : Config} {same : Data → Data → Prop} {text : String} {t t' : FileTree} {path : Path}

/-- What is read of a written configuration is a configuration that agrees with it. -/
theorem exists_ofText_of_readsAs (exact : IsExact same) (reads : ReadsAs same text c.entries) :
    ∃ c' : Config, ofText path.text text = .ok c' ∧ c'.Agrees same c := by
  obtain ⟨document, read, mapping, members⟩ := reads
  rw [ofText_of_isMapping read mapping]
  simp only [entries, List.mem_cons, List.not_mem_nil, or_false, Prod.mk.injEq,
    Data.text.injEq] at members
  obtain ⟨version, hasVersion, sameVersion⟩ := members "version" c.version (by simp)
  obtain ⟨project, hasProject, sameProject⟩ := members "project" c.project (by simp)
  obtain ⟨supergraph, hasSupergraph, sameSupergraph⟩ := members "supergraph" c.supergraph (by simp)
  obtain ⟨output, hasOutput, sameOutput⟩ := members "output" c.output (by simp)
  obtain ⟨port, hasPort, samePort⟩ := members "port" (.int c.port) (by simp)
  obtain ⟨format, hasFormat, sameFormat⟩ :=
    members "plan_format" (.text c.planFormat.name) (by simp)
  -- All six members are there, so none of them is replaced by what is usual.
  refine ⟨⟨version, project, supergraph, output, c.port, c.planFormat⟩, ?_,
    sameVersion, sameProject, sameSupergraph, sameOutput, rfl, rfl⟩
  rw [ofMembers_eq_ok_iff]
  constructor
  · rw [hasVersion, Option.getD_some]
  · rw [hasProject, Option.getD_some]
  · rw [hasSupergraph, Option.getD_some]
  · rw [hasOutput, Option.getD_some]
  · rw [hasPort, Option.getD_some, exact.int _ _ samePort]
  · rw [hasFormat, Option.getD_some, exact.text _ _ sameFormat]

/-- A configuration that has been saved is there again, in so far as its text can be read. -/
theorem exists_configures_of_write (exact : IsExact same) (saved : c.save = .ok text)
    (reads : ReadsAs same text c.entries) (written : t.write path text = .ok t') :
    ∃ c' : Config, t'.Configures path (some c') ∧ c'.Agrees same c := by
  have unchanged : Text.unifyLineEnds text.toList = text.toList := by
    obtain rfl : text = c.text := by
      rw [save] at saved
      split at saved
      · exact (Except.ok.inj saved).symm
      · cases saved
    -- Reading changes carriage returns only, and none has been written.
    refine Text.unifyLineEnds_of_not_mem fun member => ?_
    cases c.isClear_text _ member
  have said : t'.Says path text :=
    ⟨text, FileTree.read_of_write written, by rw [unchanged, String.ofList_toList]⟩
  obtain ⟨c', found, agrees⟩ := exists_ofText_of_readsAs exact reads
  exact ⟨c', said.configures_iff.2 ⟨c', found, rfl⟩, agrees⟩

end Config

/-! ### Settings -/

/-- The project that a configuration describes. -/
def Project.ofConfig (c : Config) : Project :=
  ⟨c.project, c.supergraph, c.output, .int c.port, c.planFormat⟩

namespace Command

/-- What has been set under the name of a member. An empty text sets nothing. -/
def Settings.member? (s : Settings) : String → Option Data
  | "supergraph" => (s.supergraph.filter (· ≠ "")).map .text
  | "output" => (s.output.filter (· ≠ "")).map .text
  | "port" =>
    match s.port with
    | .number n => some (.int n)
    | .unset | .nothing => none
  | "plan_format" => s.format.map fun format => .text format.name
  | _ => none

/-- Members with what has been set in place of them. -/
def Settings.over (s : Settings) (member? : String → Option Data) (name : String) : Option Data :=
  (s.member? name).or (member? name)

/-- A configuration with what has been set in place of its members. Something that is no port is
left out. -/
def Settings.applied (s : Settings) (c : Config) : Config :=
  { c with
    supergraph := ((s.supergraph.filter (· ≠ "")).map .text).getD c.supergraph
    output := ((s.output.filter (· ≠ "")).map .text).getD c.output
    port := match s.port with
      | .number n => n
      | .unset | .nothing => c.port
    planFormat := s.format.getD c.planFormat }

section Settings

variable {s : Settings} {member? : String → Option Data} {base : Config}

theorem getD_over (name : String) (usual : Data) :
    (s.over member? name).getD usual = (s.member? name).getD ((member? name).getD usual) :=
  Option.getD_or

/-- What has been set counts before what the members say, and that before what is usual. -/
theorem applied_follows (follows : base.Follows member?) :
    (s.applied base).Follows (s.over member?) where
  version := follows.version
  project := follows.project
  supergraph := by
    rw [getD_over, ← follows.supergraph]
    rfl
  output := by
    rw [getD_over, ← follows.output]
    rfl
  port := by
    rw [getD_over, follows.port]
    simp only [Settings.member?, Settings.applied]
    cases s.port <;> rfl
  planFormat := by
    rw [getD_over, follows.planFormat]
    simp only [Settings.member?, Settings.applied]
    cases s.format <;> rfl

/-- A text that has been set counts unless it is empty. -/
theorem getD_filter_eq (set : Option String) (otherwise : Data) :
    ((set.filter (· ≠ "")).map Data.text).getD otherwise =
      match set with
      | some text => if text.isEmpty then otherwise else .text text
      | none => otherwise := by
  cases set with
  | none => rfl
  | some text => by_cases empty : text = "" <;> simp [Option.filter, empty]

/-- What a command works on is described by the configuration with what has been set, except for the
port. -/
theorem project_eq_ofConfig :
    s.project base = { Project.ofConfig (s.applied base) with port := (s.project base).port } := by
  have supergraph : (s.project base).supergraph = (s.applied base).supergraph :=
    (getD_filter_eq s.supergraph base.supergraph).symm
  have output : (s.project base).output = (s.applied base).output :=
    (getD_filter_eq s.output base.output).symm
  rw [Project.ofConfig, ← supergraph, ← output]
  rfl

theorem project_port (something : s.port ≠ .nothing) :
    (s.project base).port = .int (s.applied base).port := by
  rw [Settings.project, Settings.applied]
  cases set : s.port with
  | nothing => exact absurd set something
  | unset => rfl
  | number n => rfl

/-- The port is an integer unless something that is none has been set. -/
theorem project_port_iff : (∃ n, (s.project base).port = .int n) ↔ s.port ≠ .nothing := by
  constructor
  · rintro ⟨n, same⟩ nothing
    simp [Settings.project, nothing] at same
  · exact fun something => ⟨_, project_port something⟩

end Settings

/-! ### Commands -/

section Project

variable {t : FileTree} {s : Settings} {name : String} {member? : String → Option Data}
  {project : Project}

/-- A command works on the project of the configuration that it begins with. -/
theorem resolves_iff (named : s.config = some name) (maps : t.Maps (.ofText name) member?) :
    Resolves t s project ↔ ∃ base : Config, base.Follows member? ∧ s.project base = project := by
  simp only [Resolves, named, Option.some.injEq, ← maps.configures_iff]
  constructor
  · rintro ⟨_, found, rfl, configured, same⟩
    exact ⟨_, ⟨found, configured, rfl⟩, same⟩
  · rintro ⟨base, ⟨found, configured, rfl⟩, same⟩
    exact ⟨name, found, rfl, configured, same⟩

/-- A project is resolved exactly when the members that a command finds are valid. -/
theorem exists_resolveProject_iff (named : s.config = some name)
    (maps : t.Maps (.ofText name) member?) :
    (∃ project log, (resolveProject s : Work (StateM FileTree) _).runOn [] t =
      ((.ok project, log), t)) ↔ Config.IsValid member? := by
  have resolution := looks_resolveProject (t := t) s
  rw [← Config.exists_follows_iff]
  constructor
  · rintro ⟨project, log, ran⟩
    obtain ⟨base, follows, _⟩ := (resolves_iff named maps).1 (resolution.gives_of_runOn ran).1
    exact ⟨base, follows⟩
  · rintro ⟨base, follows⟩
    have resolved := (resolves_iff named maps).2 ⟨base, follows, rfl⟩
    obtain ⟨log, ran⟩ := resolution.runOn_of_gives resolved []
    exact ⟨_, log, ran⟩

/-- Whatever the plan of a project is, its document is rendered in the format of the name, and that
is what is shown and what is written. -/
theorem exists_renderNamed (resolved : Resolves t s project) (plan : Plan) :
    ∃ text, Document.renderNamed plan project.planFormat.name = .ok text ∧
      (t.Plans project.supergraph plan →
        ((showPlan s : StateM FileTree _).run t).1.ending = .exit 0 ∧
          ((showPlan s : StateM FileTree _).run t).1.output = text) ∧
      ∀ port files, Emit.artifacts plan port project.planFormat = .ok files →
        (Emit.documentName project.planFormat, text) ∈ files :=
  ⟨_, Document.renderNamed_eq_ok_iff.2 ⟨_, rfl, rfl⟩, showPlan_of_plans resolved,
    fun _ _ made => document_mem_artifacts made⟩

/-- A configuration that has been saved is loaded, in so far as its text can be read. -/
theorem exists_loadConfig_of_write {same : Data → Data → Prop} {c : Config} {text : String}
    {path : Path} {t' : FileTree} (exact : Config.IsExact same) (saved : c.save = .ok text)
    (reads : Config.ReadsAs same text c.entries) (written : t.write path text = .ok t') :
    ∃ c' log, (loadConfig path : Work (StateM FileTree) _).runOn [] t' =
      ((.ok (some c'), log), t') ∧ c'.Agrees same c := by
  obtain ⟨c', configured, agrees⟩ := Config.exists_configures_of_write exact saved reads written
  obtain ⟨log, ran⟩ := (looks_loadConfig path).runOn_of_gives configured []
  exact ⟨c', log, ran, agrees⟩

/-- When a command finds the members of its configuration, its project is resolved exactly if they
are valid. The port of the project is an integer exactly if nothing that is no port has been set.
Apart from it, every member is what has been set, or else what has been found, or else what is
usual, and the port is, too, when it is an integer. Documents are then rendered in the format by its
name. Mappings that are not valid are refused. Any configuration is what its own entries say, and
after saving what is loaded again. -/
theorem configurations_stay_valid_iff (t : FileTree) (s : Settings) (name : String)
    (member? : String → Option Data) (named : s.config = some name)
    (maps : t.Maps (.ofText name) member?) :
    ((∃ project log, (resolveProject s : Work (StateM FileTree) _).runOn [] t =
        ((.ok project, log), t)) ↔ Config.IsValid member?) ∧
    (∀ project log t', (resolveProject s : Work (StateM FileTree) _).runOn [] t =
        ((.ok project, log), t') →
      ((∃ n, project.port = .int n) ↔ s.port ≠ .nothing) ∧
      (∃ c : Config, c.Follows (s.over member?) ∧
        project = { Project.ofConfig c with port := project.port } ∧
        (s.port ≠ .nothing → project.port = .int c.port)) ∧
      project.planFormat.name ∈ PlanFormat.names ∧
      ∀ plan, ∃ text, Document.renderNamed plan project.planFormat.name = .ok text ∧
        (t.Plans project.supergraph plan →
          ((showPlan s : StateM FileTree _).run t).1.ending = .exit 0 ∧
            ((showPlan s : StateM FileTree _).run t).1.output = text) ∧
        ∀ port files, Emit.artifacts plan port project.planFormat = .ok files →
          (Emit.documentName project.planFormat, text) ∈ files) ∧
    (∀ mapping : String → Option Data,
      (Config.IsValid mapping → ∃ c, Config.ofMembers mapping = .ok c ∧ c.Follows mapping) ∧
      (¬Config.IsValid mapping →
        Config.ofMembers mapping = .error
            (Config.showing .planFormat ((mapping "plan_format").getD (.text "yaml"))) ∨
          Config.ofMembers mapping = .error
            (Config.showing .port ((mapping "port").getD (.int 9000))))) ∧
    (∀ c : Config, Config.ofEntries c.entries = .ok c) ∧
    ∀ (same : Data → Data → Prop) (c : Config) (text : String) (path : Path) (u u' : FileTree),
      Config.IsExact same → c.save = .ok text → Config.ReadsAs same text c.entries →
      u.write path text = .ok u' →
      ∃ c' log, (loadConfig path : Work (StateM FileTree) _).runOn [] u' =
        ((.ok (some c'), log), u') ∧ c'.Agrees same c := by
  refine ⟨exists_resolveProject_iff named maps, fun project log t' ran => ?_,
    fun mapping => ⟨fun valid => ?_, Config.ofMembers_eq_error_of_not_isValid⟩,
    fun c => Config.ofMembers_eq_ok_iff.2 c.follows_entries,
    fun same c text path u u' => exists_loadConfig_of_write⟩
  -- The project is made of a configuration that the members say and of the settings.
  · have resolved := ((looks_resolveProject s).gives_of_runOn ran).1
    obtain ⟨base, follows, rfl⟩ := (resolves_iff named maps).1 resolved
    exact ⟨project_port_iff, ⟨_, applied_follows follows, project_eq_ofConfig, project_port⟩,
      PlanFormat.name_mem_names _, exists_renderNamed resolved⟩
  · obtain ⟨c, follows⟩ := Config.exists_follows_iff.2 valid
    exact ⟨c, Config.ofMembers_eq_ok_iff.2 follows, follows⟩

end Project

/-! ### Two command lines -/

/-- A document of a text that passes a test is read from it. -/
theorem exists_ofText_of_any {text : String} {test : Yaml.Document → Bool}
    (passed : (Yaml.Document.ofText text).toOption.join.any test = true) :
    ∃ document, Yaml.Document.ofText text = .ok (some document) ∧ test document = true := by
  obtain ⟨document, read, holds⟩ := (Option.any_eq_true _ _).1 passed
  cases outcome : Yaml.Document.ofText text with
  | error fault => simp [outcome, Except.toOption] at read
  | ok result =>
    obtain rfl : result = some document := by simpa [outcome, Except.toOption] using read
    exact ⟨document, rfl, holds⟩

/-- The configuration of a shop, at the port zero. -/
def shopConfig : Config :=
  ⟨.int 1, .text "shop", .text "supergraph.graphql", .text "gateway", 0, .json⟩

/-- A tree with a configuration that leaves most members out. -/
def shopConfigTree : FileTree :=
  ⟨[([Config.fileName], .file (some "project: shop\nport: 8080\nplan_format: json\n"))], []⟩

/-- The text of the shop's configuration is read as what it has been written for. -/
theorem readsAs_shopConfig : Config.ReadsAs Eq shopConfig.text shopConfig.entries := by
  have computed : (Yaml.Document.ofText shopConfig.text).toOption.join.any (fun d =>
      !Config.isNothingAt d && d.entries?.isSome &&
        (d.member? "version").bind Config.portOf? == some 1 &&
        (d.member? "project").any (Data.sameKey · (.text "shop")) &&
        (d.member? "supergraph").any (Data.sameKey · (.text "supergraph.graphql")) &&
        (d.member? "output").any (Data.sameKey · (.text "gateway")) &&
        (d.member? "port").bind Config.portOf? == some 0 &&
        (d.member? "plan_format").any (Data.sameKey · (.text "json"))) = true := by
    decide +kernel
  obtain ⟨document, read, members⟩ := exists_ofText_of_any computed
  simp only [Bool.and_eq_true, Bool.not_eq_true', beq_iff_eq, Option.bind_eq_some_iff,
    Config.portOf?_eq_some_iff, Option.any_eq_true, Data.sameKey_text_iff,
    exists_eq_right] at members
  obtain ⟨⟨⟨⟨⟨⟨⟨something, mapping⟩, version⟩, project⟩, supergraph⟩, output⟩, port⟩, format⟩ :=
    members
  refine ⟨document, read, ⟨something, mapping⟩, fun name value member => ⟨value, ?_, rfl⟩⟩
  simp only [Config.entries, shopConfig, List.mem_cons, List.not_mem_nil, or_false,
    Prod.mk.injEq, Data.text.injEq] at member
  -- Each entry is one of the members that have been computed.
  rcases member with ⟨rfl, rfl⟩ | ⟨rfl, rfl⟩ | ⟨rfl, rfl⟩ | ⟨rfl, rfl⟩ | ⟨rfl, rfl⟩ | ⟨rfl, rfl⟩
  all_goals assumption

/-- What the tree of the shop says of its configuration. -/
theorem exists_maps_shopConfigTree : ∃ member?,
    shopConfigTree.Maps (.ofText Config.fileName) member? ∧
    Config.Follows { shopConfig with port := 8080 } member? := by
  have computed : (Yaml.Document.ofText
      "project: shop\nport: 8080\nplan_format: json\n").toOption.join.any (fun d =>
        !Config.isNothingAt d && d.entries?.isSome && (d.member? "version").isNone &&
          (d.member? "project").any (Data.sameKey · (.text "shop")) &&
          (d.member? "supergraph").isNone && (d.member? "output").isNone &&
          (d.member? "port").bind Config.portOf? == some 8080 &&
          (d.member? "plan_format").any (Data.sameKey · (.text "json"))) = true := by
    decide +kernel
  have said : shopConfigTree.Says (.ofText Config.fileName)
      "project: shop\nport: 8080\nplan_format: json\n" :=
    ⟨_, rfl, by decide +kernel⟩
  obtain ⟨document, read, members⟩ := exists_ofText_of_any computed
  simp only [Bool.and_eq_true, Bool.not_eq_true', beq_iff_eq, Option.bind_eq_some_iff,
    Config.portOf?_eq_some_iff, Option.any_eq_true, Data.sameKey_text_iff, exists_eq_right,
    Option.isNone_iff_eq_none] at members
  obtain ⟨⟨⟨⟨⟨⟨⟨something, mapping⟩, version⟩, project⟩, supergraph⟩, output⟩, port⟩, format⟩ :=
    members
  refine ⟨_, .mapping said read ⟨something, mapping⟩, ?_⟩
  constructor
  · rw [version]
    rfl
  · rw [project]
    rfl
  · rw [supergraph]
    rfl
  · rw [output]
    rfl
  · rw [port]
    rfl
  · rw [format]
    rfl

/-- The port zero counts as one that has been set, and an empty output does not. What the command
works with is found again when it has been saved in place of the file. -/
theorem zero_is_a_port : ∃ s project log t' log',
    Invocation.ofArguments ["generate", "--port", "0", "--output", ""] = .ok ⟨.generate, s⟩ ∧
    (resolveProject s : Work (StateM FileTree) _).runOn [] shopConfigTree =
      ((.ok project, log), shopConfigTree) ∧
    project = .ofConfig shopConfig ∧
    shopConfigTree.write (.ofText Config.fileName) shopConfig.text = .ok t' ∧
    (loadConfig (.ofText Config.fileName) : Work (StateM FileTree) _).runOn [] t' =
      ((.ok (some shopConfig), log'), t') := by
  have understood : Invocation.ofArguments ["generate", "--port", "0", "--output", ""] =
      .ok ⟨.generate, { output := some "", port := .number 0 }⟩ := by decide +kernel
  obtain ⟨member?, maps, follows⟩ := exists_maps_shopConfigTree
  obtain ⟨valid, resolved, _, _, kept⟩ := configurations_stay_valid_iff shopConfigTree
    { output := some "", port := .number 0 } Config.fileName member? rfl maps
  obtain ⟨project, log, ran⟩ := valid.2 (Config.exists_follows_iff.1 ⟨_, follows⟩)
  obtain ⟨_, ⟨c, followsToo, described, port⟩, _⟩ := resolved _ _ _ ran
  obtain rfl : c = shopConfig :=
    followsToo.unique (applied_follows (s := { output := some "", port := .number 0 }) follows)
  have saved : shopConfig.save = .ok shopConfig.text := if_pos (by decide +kernel)
  obtain ⟨t', written⟩ : ∃ t', shopConfigTree.write (.ofText Config.fileName) shopConfig.text =
    .ok t' := ⟨_, rfl⟩
  obtain ⟨c', log', loaded, agrees⟩ := kept Eq shopConfig _ _ _ t'
    ⟨fun _ _ same => same, fun _ _ same => same⟩ saved readsAs_shopConfig written
  obtain rfl := Config.agrees_eq_iff.1 agrees
  refine ⟨_, project, log, t', log', understood, ran, ?_, written, loaded⟩
  rw [described, port (by decide)]
  rfl

/-- A tree with a supergraph and the directory of its gateway, and no configuration. -/
def pingTree : FileTree :=
  ⟨[([Config.usualSupergraph], .file (some "type Query { ping: Int }\n")),
    ([Config.usualOutput], .directory)], []⟩

/-- Two dashes that have been set as the port stand for one in the project, and the gateway is not
generated. -/
theorem dashes_leave_no_port : ∃ s project log,
    Invocation.ofArguments ["generate", "--port=--"] = .ok ⟨.generate, s⟩ ∧
    (resolveProject s : Work (StateM FileTree) _).runOn [] pingTree =
      ((.ok project, log), pingTree) ∧
    (∀ n, project.port ≠ .int n) ∧
    ((run ["generate", "--port=--"] : StateM FileTree _).run pingTree).1.ending =
      .broken (.port (.kind "list")) := by
  have understood : Invocation.ofArguments ["generate", "--port=--"] =
      .ok ⟨.generate, { port := .nothing }⟩ := by decide +kernel
  have resolved : Resolves pingTree { port := .nothing }
      (Settings.project { port := .nothing } (.ofProject (.text ""))) :=
    ⟨_, none, rfl, .inl ⟨rfl, rfl⟩, rfl⟩
  obtain ⟨log, ran⟩ := (looks_resolveProject _).runOn_of_gives resolved []
  have computed : (match ((run ["generate", "--port=--"] : StateM FileTree _).run pingTree).1 with
    | ⟨_, _, .broken (.port (.kind kind))⟩ => kind == "list"
    | _ => false) = true := by decide +kernel
  refine ⟨_, _, log, understood, ran, nofun, ?_⟩
  split at computed
  next ended =>
    rw [ended, beq_iff_eq.1 computed]
  next => cases computed

end Command

end Supergraph
