import Supergraph.Proofs.Files.Obstacle
import Supergraph.Proofs.Files.Work

/-!
# Work that only looks at a tree

What such work ends with depends on the tree alone, whatever has been told before. It is described
by what it gives and by when it ends with a problem that no command reports; both are put together
from those of its parts.

## Main definitions

* `Breaks` — a result that is such a problem
* `Looks` — what work gives on a tree, and when it breaks
* `FileTree.Says` — the text that the file at a path says

## Main results

* `Looks.runOn_of_gives`, `Looks.gives_of_runOn` — what work gives is what it ends with
* `Looks.bind` — one piece of work after the other
* `looks_kindOf`, `looks_mayWrite`, `looks_readText` — questions about a path, and reading a file
-/

namespace Supergraph

variable {α β ε : Type}

/-- A result is a problem that no command reports. -/
def Breaks (result : Except Problem α) : Prop :=
  ∃ problem, result = .error problem ∧ problem.isReported = false

@[simp] theorem breaks_error {problem : Problem} :
    Breaks (.error problem : Except Problem α) ↔ problem.isReported = false := by
  simp [Breaks]

@[simp] theorem not_breaks_ok {a : α} : ¬Breaks (.ok a) := by
  simp [Breaks]

/-- Work leaves a tree as it is and ends there with a result that earlier events do not matter for:
with something that it gives, with a problem that no command reports, or with another problem. -/
def Looks (work : Work (StateM FileTree) α) (t : FileTree) (gives : α → Prop) (breaks : Prop) :
    Prop :=
  ∃ result, (∀ log, ∃ log', work.runOn log t = ((result, log'), t)) ∧
    (∀ a, result = .ok a ↔ gives a) ∧ (Breaks result ↔ breaks)

section Looks

variable {work : Work (StateM FileTree) α} {next : α → Work (StateM FileTree) β} {t : FileTree}
  {gives gives' : α → Prop} {breaks breaks' : Prop} {givesNext : α → β → Prop}
  {breaksNext : α → Prop}

theorem Looks.congr (looks : Looks work t gives breaks) (given : ∀ a, gives a ↔ gives' a)
    (broken : breaks ↔ breaks') : Looks work t gives' breaks' := by
  obtain ⟨result, ran, ok, error⟩ := looks
  exact ⟨result, ran, fun a => (ok a).trans (given a), error.trans broken⟩

/-- Work that gives something on a tree ends with it there, after any events. -/
theorem Looks.runOn_of_gives (looks : Looks work t gives breaks) {a : α} (given : gives a)
    (log : List Event) : ∃ log', work.runOn log t = ((.ok a, log'), t) := by
  obtain ⟨result, ran, ok, _⟩ := looks
  obtain rfl := (ok a).2 given
  exact ran log

/-- What work ends with on a tree is what it gives there, and the tree stays as it is. -/
theorem Looks.gives_of_runOn (looks : Looks work t gives breaks) {a : α} {log log' : List Event}
    {t' : FileTree} (ran : work.runOn log t = ((.ok a, log'), t')) : gives a ∧ t' = t := by
  obtain ⟨result, ranToo, ok, _⟩ := looks
  obtain ⟨_, ranToo⟩ := ranToo log
  cases ranToo.symm.trans ran
  exact ⟨(ok a).1 rfl, rfl⟩

theorem looks_pure (a : α) : Looks (pure a : Work (StateM FileTree) α) t (a = ·) False :=
  ⟨.ok a, fun log => ⟨log, rfl⟩, by simp, by simp⟩

theorem looks_throw (problem : Problem) :
    Looks (throw problem : Work (StateM FileTree) α) t (fun _ => False)
      (problem.isReported = false) :=
  ⟨.error problem, fun log => ⟨log, rfl⟩, by simp, by simp⟩

theorem looks_tell (events : List Event) :
    Looks (Work.tell events : Work (StateM FileTree) Unit) t (fun _ => True) False :=
  ⟨.ok (), fun log => ⟨log ++ events, rfl⟩, by simp, by simp⟩

theorem looks_check (cause : ε → Problem) (x : Except ε α) :
    Looks (Work.check cause x : Work (StateM FileTree) α) t (x = .ok ·)
      (∃ e, x = .error e ∧ (cause e).isReported = false) := by
  cases x with
  | ok a => exact (looks_pure a).congr (by simp) (by simp)
  | error e => exact (looks_throw (cause e)).congr (by simp) (by simp)

/-- A step that leaves the tree as it is. -/
theorem looks_ask {cause : ε → Problem} {step : StateM FileTree (Except ε α)}
    {result : Except ε α} (ran : step.run t = (result, t)) :
    Looks (Work.ask cause step) t (result = .ok ·)
      (∃ e, result = .error e ∧ (cause e).isReported = false) := by
  refine ⟨result.mapError cause, fun log => ⟨log, runOn_ask ran⟩, fun a => ?_, ?_⟩
  · cases result <;> simp [Except.mapError]
  · cases result <;> simp [Except.mapError]

/-- One piece of work after the other gives what the second does for what the first gives, and
breaks when one of them does. -/
theorem Looks.bind (first : Looks work t gives breaks)
    (second : ∀ a, gives a → Looks (next a) t (givesNext a) (breaksNext a)) :
    Looks (work >>= next) t (fun b => ∃ a, gives a ∧ givesNext a b)
      (breaks ∨ ∃ a, gives a ∧ breaksNext a) := by
  obtain ⟨result, ran, ok, error⟩ := first
  -- The result of the first says which: with a problem it gives nothing, otherwise one thing only.
  cases result with
  | error problem =>
    have nothing : ∀ a, ¬gives a := by
      intro a given
      cases (ok a).2 given
    refine ⟨.error problem, fun log => ?_, ?_, ?_⟩
    · obtain ⟨log', ran⟩ := ran log
      exact ⟨log', runOn_bind_of_error ran⟩
    · simp [nothing]
    · simp [nothing, ← error]
  | ok a =>
    have given : gives a := (ok a).1 rfl
    have only : ∀ a', gives a' → a' = a := by
      intro a' givenToo
      exact (Except.ok.inj ((ok a').2 givenToo)).symm
    obtain ⟨result, ranNext, okNext, errorNext⟩ := second a given
    refine ⟨result, fun log => ?_, fun b => ?_, ?_⟩
    · obtain ⟨log₁, ran⟩ := ran log
      obtain ⟨log', ranNext⟩ := ranNext log₁
      exact ⟨log', by rw [runOn_bind_of_ok ran, ranNext]⟩
    · rw [okNext]
      constructor
      · exact fun h => ⟨a, given, h⟩
      · rintro ⟨a', givenToo, h⟩
        exact only a' givenToo ▸ h
    · rw [errorNext]
      constructor
      · exact fun h => .inr ⟨a, given, h⟩
      · rintro (h | ⟨a', givenToo, h⟩)
        · exact absurd (error.2 h) not_breaks_ok
        · exact only a' givenToo ▸ h

/-- Work that gives nothing ends all that would come after it. -/
theorem Looks.bind_error (first : Looks work t (fun _ => False) breaks) :
    Looks (work >>= next) t (fun _ => False) breaks := by
  have both : Looks (work >>= next) t (fun _ => ∃ _ : α, False ∧ False)
      (breaks ∨ ∃ _ : α, False ∧ False) :=
    first.bind fun _ given => given.elim
  exact both.congr (by simp) (by simp)

end Looks

/-! ### Looking at files -/

/-- The text that the file at a path says, with line feeds only. -/
def FileTree.Says (t : FileTree) (path : Path) (text : String) : Prop :=
  ∃ raw, t.read path = .ok (some raw) ∧ String.ofList (Text.unifyLineEnds raw.toList) = text

section Files

variable {t : FileTree}

theorem looks_kindOf (path : Path) :
    Looks (kindOf path) t (t.kindOf path = .ok ·) (∃ fault, t.kindOf path = .error fault) := by
  have ran : (FileSystem.kindOf path : StateM FileTree _).run t = (t.kindOf path, t) := rfl
  exact (looks_ask ran).congr (fun _ => Iff.rfl) (by simp [Problem.isReported])

/-- Files may be put into every directory of a tree. -/
theorem looks_mayWrite (path : Path) : Looks (mayWrite path) t (true = ·) False :=
  ⟨.ok true, fun log => ⟨log, rfl⟩, by simp, by simp⟩

theorem looks_readText (path : Path) :
    Looks (readText path) t (t.Says path)
      ((∃ fault, t.read path = .error fault) ∨ t.read path = .ok none) := by
  have ran : (FileSystem.read path : StateM FileTree _).run t = (t.read path, t) := rfl
  have asked : Looks (Work.ask .file (FileSystem.read path)) t (t.read path = .ok ·)
      (∃ fault, t.read path = .error fault) :=
    (looks_ask ran).congr (fun _ => Iff.rfl) (by simp [Problem.isReported])
  have both : Looks (readText path) t
      (fun text => ∃ found, t.read path = .ok found ∧ ∃ raw, found = some raw ∧
        String.ofList (Text.unifyLineEnds raw.toList) = text)
      ((∃ fault, t.read path = .error fault) ∨
        ∃ found, t.read path = .ok found ∧ found = none) := by
    refine asked.bind fun found _ => ?_
    cases found with
    | none => exact (looks_throw _).congr (by simp) (by simp [Problem.isReported])
    | some raw => exact (looks_pure _).congr (by simp) (by simp)
  refine both.congr (fun text => ?_) (by simp)
  constructor
  · rintro ⟨_, read, raw, rfl, said⟩
    exact ⟨raw, read, said⟩
  · rintro ⟨raw, read, said⟩
    exact ⟨_, read, raw, rfl, said⟩

namespace FileTree

/-- Something lies at a path that leads to its place. -/
theorem kindOf_eq_some_iff {path : Path} {kind : FileKind} :
    t.kindOf path = .ok (some kind) ↔
      ∃ place item, t.locate path = .ok place ∧ t.item? place = some item ∧ item.kind = kind := by
  rw [kindOf]
  cases t.locate path with
  | error cause => cases cause <;> simp
  | ok place => simp [Option.map_eq_some_iff]

/-- A file lies at a path exactly when it can be read, be it a text or not. -/
theorem kindOf_eq_file_iff {path : Path} :
    t.kindOf path = .ok (some .file) ↔ ∃ text, t.read path = .ok text := by
  simp only [kindOf_eq_some_iff, read_eq_ok_iff]
  constructor
  · rintro ⟨place, item, located, present, same⟩
    cases item with
    | directory => cases same
    | file text => exact ⟨text, place, located, present⟩
  · rintro ⟨text, place, located, present⟩
    exact ⟨place, _, located, present, rfl⟩

theorem Says.kindOf_eq {path : Path} {text : String} (said : t.Says path text) :
    t.kindOf path = .ok (some .file) := by
  obtain ⟨raw, read, _⟩ := said
  exact kindOf_eq_file_iff.2 ⟨_, read⟩

theorem kindOf_eq_directory_iff {path : Path} :
    t.kindOf path = .ok (some .directory) ↔ t.isBlocked path = true := by
  simp only [kindOf_eq_some_iff, isBlocked_eq_true_iff]
  constructor
  · rintro ⟨place, item, located, present, same⟩
    cases item with
    | directory => exact ⟨place, located, present⟩
    | file => cases same
  · rintro ⟨place, located, present⟩
    exact ⟨place, _, located, present, rfl⟩

/-- What lies at a path and is no file cannot be read. -/
theorem exists_read_error_iff {path : Path} {kind : FileKind}
    (present : t.kindOf path = .ok (some kind)) :
    (∃ fault, t.read path = .error fault) ↔ kind = .directory := by
  obtain ⟨place, item, located, here, rfl⟩ := kindOf_eq_some_iff.1 present
  cases item with
  | directory =>
    refine ⟨fun _ => rfl, fun _ => ?_⟩
    cases unread : t.read path with
    | error fault => exact ⟨fault, rfl⟩
    | ok text =>
      obtain ⟨_, locatedToo, file⟩ := read_eq_ok_iff.1 unread
      cases located.symm.trans locatedToo
      cases here.symm.trans file
  | file text =>
    have readable := read_eq_ok_iff.2 ⟨place, located, here⟩
    simp [readable, Item.kind]

end FileTree

end Files

end Supergraph
