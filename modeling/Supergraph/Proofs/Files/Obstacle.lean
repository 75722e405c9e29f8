import Mathlib.Data.List.TakeWhile
import Supergraph.Proofs.Files.Staging

/-!
# Staged writing on a tree

On a tree, a staged file can be moved to where it belongs unless a directory is there. So the files
that are moved into place are those before the first one that a directory is in the way of.

## Main definitions

* `FileTree.isBlocked` — a directory lies at a path

## Main results

* `FileTree.locate_child_of_append` — a file belongs beside its staged file
* `Moves.placed_eq_takeWhile` — the files that are moved into place
* `Moves.result_eq_of_free` — without a directory in the way no move is refused
* `Installs.placed_eq_nil_of_free` — then installing that is refused leaves nothing in place
-/

namespace Supergraph

namespace Path

/-- The end of the last name is the end of the path. -/
theorem text_child_append (p : Path) (name more : String) :
    (p.child (name ++ more)).text = (p.child name).text ++ more := by
  by_cases top : p.names = []
  · simp [text, top, String.append_assoc]
  · have apart : ∀ last : String, String.intercalate "/" (p.names ++ [last]) =
        String.intercalate "/" p.names ++ "/" ++ last := by
      intro last
      rw [String.intercalate_append_of_ne_nil top (by simp), String.intercalate_singleton]
    simp [text, apart, String.append_assoc]

end Path

namespace FileTree

variable {t : FileTree} {path directory : Path} {name more : String} {place : Place}

/-- A directory lies at a path. -/
def isBlocked (t : FileTree) (path : Path) : Bool :=
  match t.locate path with
  | .ok place => decide (t.item? place = some .directory)
  | .error _ => false

theorem isBlocked_of_locate (located : t.locate path = .ok place) :
    t.isBlocked path = decide (t.item? place = some .directory) := by
  rw [isBlocked, located]

theorem isBlocked_eq_true_iff : t.isBlocked path = true ↔
    ∃ place, t.locate path = .ok place ∧ t.item? place = some .directory := by
  rw [isBlocked]
  cases t.locate path <;> simp

/-- The same paths are blocked in trees with the same directories. -/
theorem Frame.isBlocked_eq {t' : FileTree} {touched : Place → Prop} (frame : Frame touched t t') :
    t'.isBlocked path = t.isBlocked path := by
  rw [Bool.eq_iff_iff, isBlocked_eq_true_iff, isBlocked_eq_true_iff]
  simp only [frame.locate_eq_ok_iff, frame.directories]

/-- A path whose last name goes on has no faults that the shorter path has. -/
theorem pathCause?_child (faultless : pathCause? (directory.child (name ++ more)) = none) :
    pathCause? (directory.child name) = none := by
  rw [pathCause?, Path.text_child_append] at faultless
  rw [pathCause?]
  split at faultless
  · cases faultless
  · split at faultless
    · cases faultless
    · next plain short =>
      rw [String.toList_append, List.contains_append, Bool.or_eq_true, not_or] at plain
      rw [String.utf8ByteSize_append] at short
      rw [if_neg plain.1, if_neg (by omega)]

/-- A path whose last name is shorter leads beside the longer one. -/
theorem locate_child_of_append (located : t.locate (directory.child (name ++ more)) = .ok place)
    (down : name ≠ "..") (downToo : name ++ more ≠ "..") :
    ∃ around, place = (name ++ more) :: around ∧
      t.locate (directory.child name) = .ok (name :: around) := by
  obtain ⟨around, outer, rfl⟩ := locate_child located downToo
  obtain ⟨faultless, followed⟩ := locate_eq_ok_iff.1 located
  refine ⟨around, rfl, locate_eq_ok_iff.2 ⟨pathCause?_child faultless, ?_⟩⟩
  have parts : ∀ last : String, t.follow (t.start (directory.child last))
      (directory.child last).names = t.follow around [last] := by
    intro last
    rw [Path.names_child, start, Path.slashes_child, ← start, follow_append, outer]
    rfl
  rw [parts] at followed ⊢
  obtain ⟨inside, up | ⟨_, short, _⟩⟩ := follow_cons_eq_ok_iff.1 followed
  · exact absurd up.1 downToo
  · rw [String.utf8ByteSize_append] at short
    exact follow_singleton inside down (by omega)

end FileTree

section Tree

variable {t t' : FileTree} {directory : Path} {f : String × String}
  {files : List (String × String)}

/-- A staged file can be moved to where it belongs unless a directory is there. -/
theorem exists_move_staged_iff (staged : IsStagedIn t directory f) (down : f.1 ≠ "..") :
    (∃ t', t.move (stagedPath directory f.1) (directory.child f.1) = .ok t') ↔
      t.isBlocked (directory.child f.1) = false := by
  obtain ⟨place, located, present⟩ := FileTree.read_eq_ok_iff.1 staged
  have downToo := ne_up_of_isStagedName (isStagedName_append f.1)
  obtain ⟨around, _, reached⟩ := FileTree.locate_child_of_append located down downToo
  rw [FileTree.isBlocked_of_locate reached, decide_eq_false_iff_not]
  constructor
  · rintro ⟨t', made⟩
    obtain ⟨_, goal, _, _, sameReached, _, free, _⟩ := FileTree.move_eq_ok_iff.1 made
    cases reached.symm.trans sameReached
    exact free
  · intro free
    exact ⟨_, FileTree.move_eq_ok_iff.2 ⟨_, _, _, located, reached, present, free, rfl⟩⟩

/-- The files that are moved into place are those before the first that a directory is in the way
of. -/
theorem Moves.placed_eq_takeWhile {placed : List (String × String)} {result : Except FileFault Unit}
    (moves : Moves directory files t placed result t') (installable : Installable files)
    (staged : ∀ f ∈ files, IsStagedIn t directory f) :
    placed = files.takeWhile fun f => !t.isBlocked (directory.child f.1) := by
  induction moves with
  | nil => rfl
  | @refused f _ _ t _ ran =>
    have movable := exists_move_staged_iff (staged f List.mem_cons_self)
      (installable.down f List.mem_cons_self)
    -- The file is staged, so that nothing but a directory in the way refuses the step.
    have blocked : t.isBlocked (directory.child f.1) = true := by
      by_contra free
      obtain ⟨after, made⟩ := movable.2 (Bool.not_eq_true _ ▸ free)
      cases ran.symm.trans (run_updateTree_of_ok made)
    simp [blocked]
  | @done f _ _ _ t after _ ran rest ih =>
    have free := (exists_move_staged_iff (staged f List.mem_cons_self)
      (installable.down f List.mem_cons_self)).1 ⟨after, LawfulStore.move_done ran⟩
    have frame : FileTree.Frame _ t after := frame_move ran
    have others := ih installable.tail (staged_of_move installable staged ran)
    rw [List.takeWhile_cons, free]
    simp only [others, frame.isBlocked_eq, Bool.not_false, if_true]

/-- Without a directory in the way, no move is refused. -/
theorem Moves.result_eq_of_free {placed : List (String × String)} {result : Except FileFault Unit}
    (moves : Moves directory files t placed result t') (installable : Installable files)
    (staged : ∀ f ∈ files, IsStagedIn t directory f)
    (free : ∀ f ∈ files, t.isBlocked (directory.child f.1) = false) : result = .ok () := by
  refine moves.placed_eq_iff.1 ?_
  rw [moves.placed_eq_takeWhile installable staged, List.takeWhile_eq_self_iff]
  intro f member
  rw [free f member, Bool.not_false]

/-- Installing that is refused without a directory in the way leaves nothing in place. -/
theorem Installs.placed_eq_nil_of_free {placed : List (String × String)} {cause : InstallFault}
    (installs : Installs directory files t placed (.error cause) t')
    (installable : Installable files)
    (free : ∀ f ∈ files, t.isBlocked (directory.child f.1) = false) : placed = [] := by
  cases installs with
  | unstaged => rfl
  | @unmoved _ _ _ _ t₁ _ stages moves =>
    have frame : FileTree.Frame _ t t₁ := stages.frame
    have stillFree : ∀ f ∈ files, t₁.isBlocked (directory.child f.1) = false := by
      intro f member
      rw [frame.isBlocked_eq]
      exact free f member
    cases moves.result_eq_of_free installable (stages.staged installable) stillFree

end Tree

end Supergraph
