import Mathlib.Tactic.Common
import Supergraph.Files.Staging
import Supergraph.Files.Tree

/-!
# What steps on a tree leave as it is

Writing, moving and removing files changes what lies at the places of the files, and nothing else.
In particular the directories stay, so that paths lead to the same places as before.

## Main definitions

* `FileTree.Frame` — two trees differ at some places at most, and not in their directories
* `IsStagedName`, `IsStaged` — names and places of staged files

## Main results

* `FileTree.write_eq_ok_iff`, `FileTree.move_eq_ok_iff`, `FileTree.remove_eq_ok` — what the steps do
* `FileTree.Frame.locate_eq_ok_iff` — paths lead to the same places
* `FileTree.locate_child` — where the path to a name in a directory leads
-/

namespace Supergraph

namespace FileTree

variable {t t' u : FileTree} {path target : Path} {place goal : Place} {name : String}

/-- Trees that agree at all places but the touched ones, and have the same directories. -/
structure Frame (touched : Place → Prop) (t t' : FileTree) : Prop where
  home : t'.home = t.home
  directories : ∀ place, t'.item? place = some .directory ↔ t.item? place = some .directory
  others : ∀ place, ¬touched place → t'.item? place = t.item? place

namespace Frame

variable {touched more : Place → Prop}

theorem refl (touched : Place → Prop) (t : FileTree) : Frame touched t t :=
  ⟨rfl, fun _ => Iff.rfl, fun _ _ => rfl⟩

theorem trans (first : Frame touched t t') (second : Frame touched t' u) : Frame touched t u where
  home := second.home.trans first.home
  directories place := (second.directories place).trans (first.directories place)
  others place other := (second.others place other).trans (first.others place other)

theorem mono (frame : Frame touched t t') (wider : ∀ place, touched place → more place) :
    Frame more t t' where
  home := frame.home
  directories := frame.directories
  others place other := frame.others place fun inside => other (wider place inside)

/-- A file that is put where no directory is changes its own place. -/
theorem put {text : Option String} (free : t.item? place ≠ some .directory) :
    Frame (· = place) t (t.put place (.file text)) := by
  have inside : place ≠ [] := by
    rintro rfl
    exact free rfl
  refine ⟨rfl, fun other => ?_, fun other apart => ?_⟩
  · rw [item?_put t place other _ inside]
    split
    next same =>
      subst same
      simp [free]
    next => exact Iff.rfl
  · rw [item?_put t place other _ inside, if_neg apart]

/-- Erasing a file changes its own place. -/
theorem erase {text : Option String} (present : t.item? place = some (.file text)) :
    Frame (· = place) t (t.erase place) := by
  have inside : place ≠ [] := by
    rintro rfl
    cases present
  refine ⟨rfl, fun other => ?_, fun other apart => ?_⟩
  · rw [item?_erase t place other inside]
    split
    next same =>
      subst same
      simp [present]
    next => exact Iff.rfl
  · rw [item?_erase t place other inside, if_neg apart]

end Frame

/-! ### Paths -/

/-- A name is followed in a directory. -/
theorem follow_cons_eq_ok_iff {names : List String} :
    t.follow place (name :: names) = .ok goal ↔ t.item? place = some .directory ∧
      (name = ".." ∧ t.follow place.tail names = .ok goal ∨
        name ≠ ".." ∧ name.utf8ByteSize ≤ maxNameSize ∧
          t.follow (name :: place) names = .ok goal) := by
  rw [follow]
  split
  next absent => simp [absent]
  next text present => simp [present]
  next directory =>
    split_ifs with up long
    · simp [directory, up]
    · simp [directory, up, Nat.not_le.2 long]
    · simp [directory, up, Nat.le_of_not_lt long]

theorem Frame.follow_eq_ok_iff {touched : Place → Prop} (frame : Frame touched t t')
    {names : List String} : t'.follow place names = .ok goal ↔ t.follow place names = .ok goal := by
  induction names generalizing place with
  | nil => exact Iff.rfl
  | cons name names ih =>
    rw [follow_cons_eq_ok_iff, follow_cons_eq_ok_iff, frame.directories place, ih, ih]

theorem locate_eq_ok_iff : t.locate path = .ok place ↔
    pathCause? path = none ∧ t.follow (t.start path) path.names = .ok place := by
  rw [locate]
  cases pathCause? path <;> simp

/-- Paths lead to the same places in trees with the same directories. -/
theorem Frame.locate_eq_ok_iff {touched : Place → Prop} (frame : Frame touched t t') :
    t'.locate path = .ok place ↔ t.locate path = .ok place := by
  rw [FileTree.locate_eq_ok_iff, FileTree.locate_eq_ok_iff, frame.follow_eq_ok_iff, start, start,
    frame.home]

/-- The path to a name in a directory leads to the place of that name. -/
theorem locate_child (located : t.locate (path.child name) = .ok place) (down : name ≠ "..") :
    ∃ around, t.follow (t.start path) path.names = .ok around ∧ place = name :: around := by
  obtain ⟨_, followed⟩ := locate_eq_ok_iff.1 located
  have parts := t.follow_append (t.start path) path.names [name]
  rw [Path.names_child, start, Path.slashes_child, ← start, parts] at followed
  cases outer : t.follow (t.start path) path.names with
  | error cause => simp [outer, Except.bind] at followed
  | ok around =>
    rw [outer] at followed
    obtain ⟨_, up | ⟨_, _, same⟩⟩ := follow_cons_eq_ok_iff.1 followed
    · exact absurd up.1 down
    · exact ⟨around, rfl, (Except.ok.inj same).symm⟩

/-- Paths to distinct names in a directory lead to distinct places. -/
theorem ne_of_locate_child {other : String} (first : t.locate (path.child name) = .ok place)
    (second : t.locate (path.child other) = .ok goal) (down : name ≠ "..") (downToo : other ≠ "..")
    (ne : name ≠ other) : place ≠ goal := by
  obtain ⟨around, _, rfl⟩ := locate_child first down
  obtain ⟨aroundToo, _, rfl⟩ := locate_child second downToo
  intro same
  exact ne (List.cons.inj same).1

/-! ### Steps -/

/-- A file is put at its place unless a directory is there. -/
theorem writeItem_eq_ok_iff {text : Option String} : t.writeItem path text = .ok t' ↔
    ∃ place, t.locate path = .ok place ∧ t.item? place ≠ some .directory ∧
      t' = t.put place (.file text) := by
  rw [writeItem]
  cases t.locate path with
  | error cause => simp [Except.mapError, bind, Except.bind]
  | ok place =>
    simp only [Except.mapError, bind, Except.bind, Except.ok.injEq, exists_eq_left']
    split
    next directory => simp [directory, throw, throwThe, MonadExceptOf.throw]
    next free => exact ⟨fun made => ⟨free, (Except.ok.inj made).symm⟩, fun made => made.2 ▸ rfl⟩

/-- A file is moved from its place to one where no directory is. -/
theorem move_eq_ok_iff : t.move path target = .ok t' ↔
    ∃ place goal text, t.locate path = .ok place ∧ t.locate target = .ok goal ∧
      t.item? place = some (.file text) ∧ t.item? goal ≠ some .directory ∧
      t' = (t.erase place).put goal (.file text) := by
  rw [move]
  cases t.locate path with
  | error cause => simp [Except.mapError, bind, Except.bind]
  | ok place =>
    cases t.locate target with
    | error cause => simp [Except.mapError, bind, Except.bind]
    | ok goal =>
      simp only [Except.mapError, bind, Except.bind, Except.ok.injEq, exists_and_left,
        exists_eq_left']
      split
      next absent => simp [absent, throw, throwThe, MonadExceptOf.throw]
      next directory => simp [directory, throw, throwThe, MonadExceptOf.throw]
      next blocked _ _ => simp [blocked, throw, throwThe, MonadExceptOf.throw]
      next text present free =>
        rw [present]
        constructor
        · intro made
          exact ⟨text, rfl, free, (Except.ok.inj made).symm⟩
        · rintro ⟨_, same, _, rfl⟩
          cases same
          rfl

/-- Removing takes the file away, or there is none. -/
theorem remove_eq_ok (removed : t.remove path = .ok t') :
    t' = t ∨ ∃ place text, t.locate path = .ok place ∧ t.item? place = some (.file text) ∧
      t' = t.erase place := by
  rw [remove] at removed
  split at removed
  next => exact .inl (Except.ok.inj removed).symm
  next => cases removed
  next place located =>
    split at removed
    next => exact .inl (Except.ok.inj removed).symm
    next => cases removed
    next text present => exact .inr ⟨place, text, located, present, (Except.ok.inj removed).symm⟩

/-- The text of a file is what lies at its place. -/
theorem read_eq_ok_iff {text : Option String} : t.read path = .ok text ↔
    ∃ place, t.locate path = .ok place ∧ t.item? place = some (.file text) := by
  rw [read]
  cases t.locate path with
  | error cause => simp [Except.mapError, bind, Except.bind]
  | ok place =>
    simp only [Except.mapError, bind, Except.bind, Except.ok.injEq, exists_eq_left']
    split
    next absent => simp [absent, throw, throwThe, MonadExceptOf.throw]
    next directory => simp [directory, throw, throwThe, MonadExceptOf.throw]
    next present => simp [present, pure, Except.pure]

/-- What has been written to a path is read there. -/
theorem read_of_write {text : String} (written : t.write path text = .ok t') :
    t'.read path = .ok (some text) := by
  obtain ⟨place, located, free, rfl⟩ := writeItem_eq_ok_iff.1 written
  have inside : place ≠ [] := by
    rintro rfl
    exact free rfl
  refine read_eq_ok_iff.2 ⟨place, (Frame.put free).locate_eq_ok_iff.2 located, ?_⟩
  rw [item?_put t place place _ inside, if_pos rfl]

end FileTree

/-! ### Staged files -/

/-- A name that a file has while it is staged. -/
def IsStagedName (name : String) : Prop :=
  ".partial".toList <:+ name.toList

instance (name : String) : Decidable (IsStagedName name) :=
  inferInstanceAs (Decidable (".partial".toList <:+ name.toList))

/-- A place that has the name of a staged file. -/
def IsStaged (place : Place) : Prop :=
  ∃ name ∈ place.head?, IsStagedName name

theorem isStagedName_append (name : String) : IsStagedName (name ++ ".partial") := by
  rw [IsStagedName, String.toList_append]
  exact List.suffix_append _ _

theorem ne_up_of_isStagedName {name : String} (staged : IsStagedName name) : name ≠ ".." := by
  rintro rfl
  exact absurd staged (by decide)

theorem isStaged_cons {name : String} {around : Place} :
    IsStaged (name :: around) ↔ IsStagedName name := by
  simp [IsStaged]

/-- The staged path of a file leads to the place of a staged file. -/
theorem isStaged_of_locate {t : FileTree} {directory : Path} {name : String} {place : Place}
    (located : t.locate (stagedPath directory name) = .ok place) : IsStaged place := by
  have staged := isStagedName_append name
  obtain ⟨around, _, rfl⟩ := FileTree.locate_child located (ne_up_of_isStagedName staged)
  exact isStaged_cons.2 staged

/-- The path to a name that no staged file has leads elsewhere. -/
theorem not_isStaged_of_locate {t : FileTree} {directory : Path} {name : String} {place : Place}
    (located : t.locate (directory.child name) = .ok place) (down : name ≠ "..")
    (plain : ¬IsStagedName name) : ¬IsStaged place := by
  obtain ⟨around, _, rfl⟩ := FileTree.locate_child located down
  exact fun staged => plain (isStaged_cons.1 staged)

end Supergraph
