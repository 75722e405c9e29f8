import Supergraph.Proofs.Files.Frame

/-!
# Stores

A store holds a tree. A step on it does to the tree what the step does to trees, or it is refused,
for whatever reason; a write that is refused may leave a part of the text behind. Trees are stores,
and so are disks, which refuse some of the steps to come.

## Main definitions

* `LawfulStore` — the states that steps change in this way
* `Disk` — a tree, and which of the steps to come are refused

## Main results

* `frame_write`, `frame_move`, `frame_remove` — a step changes the places it is about
-/

namespace Supergraph

/-- A store holds a tree, which steps change as they change trees, or not at all when they are
refused; only a write that is refused may leave a file. -/
class LawfulStore (σ : Type) [FileSystem (StateM σ)] where
  tree : σ → FileTree
  kindOf_keeps : ∀ {path result} {s s' : σ},
    (FileSystem.kindOf path : StateM σ _).run s = (result, s') → tree s' = tree s
  mayWrite_keeps : ∀ {path answer} {s s' : σ},
    (FileSystem.mayWrite path : StateM σ _).run s = (answer, s') → tree s' = tree s
  read_keeps : ∀ {path result} {s s' : σ},
    (FileSystem.read path : StateM σ _).run s = (result, s') → tree s' = tree s
  write_done : ∀ {path text} {s s' : σ},
    (FileSystem.write path text : StateM σ _).run s = (.ok (), s') →
      (tree s).writeItem path (some text) = .ok (tree s')
  write_refused : ∀ {path text fault} {s s' : σ},
    (FileSystem.write path text : StateM σ _).run s = (.error fault, s') →
      tree s' = tree s ∨ ∃ left, (tree s).writeItem path left = .ok (tree s')
  move_done : ∀ {path target} {s s' : σ},
    (FileSystem.move path target : StateM σ _).run s = (.ok (), s') →
      (tree s).move path target = .ok (tree s')
  move_refused : ∀ {path target fault} {s s' : σ},
    (FileSystem.move path target : StateM σ _).run s = (.error fault, s') → tree s' = tree s
  remove_done : ∀ {path} {s s' : σ},
    (FileSystem.remove path : StateM σ _).run s = (.ok (), s') →
      (tree s).remove path = .ok (tree s')
  remove_refused : ∀ {path fault} {s s' : σ},
    (FileSystem.remove path : StateM σ _).run s = (.error fault, s') → tree s' = tree s

/-! ### Trees as stores -/

theorem updateTree_done {step : FileTree → Except FileFault FileTree} {t t' : FileTree}
    (ran : (updateTree step).run t = (.ok (), t')) : step t = .ok t' := by
  change updateTree step t = _ at ran
  rw [updateTree] at ran
  split at ran
  next made =>
    cases ran
    exact made
  next => cases ran

theorem updateTree_refused {step : FileTree → Except FileFault FileTree} {t t' : FileTree}
    {fault : FileFault} (ran : (updateTree step).run t = (.error fault, t')) : t' = t := by
  change updateTree step t = _ at ran
  rw [updateTree] at ran
  split at ran
  next => cases ran
  next =>
    cases ran
    rfl

theorem run_updateTree_of_ok {step : FileTree → Except FileFault FileTree} {t t' : FileTree}
    (made : step t = .ok t') : (updateTree step).run t = (.ok (), t') := by
  change updateTree step t = _
  rw [updateTree, made]

theorem run_updateTree_of_error {step : FileTree → Except FileFault FileTree} {t : FileTree}
    {fault : FileFault} (made : step t = .error fault) :
    (updateTree step).run t = (.error fault, t) := by
  change updateTree step t = _
  rw [updateTree, made]

instance : LawfulStore FileTree where
  tree := id
  kindOf_keeps ran := (Prod.mk.inj ran).2.symm
  mayWrite_keeps ran := (Prod.mk.inj ran).2.symm
  read_keeps ran := (Prod.mk.inj ran).2.symm
  write_done := updateTree_done
  write_refused ran := .inl (updateTree_refused ran)
  move_done := updateTree_done
  move_refused := updateTree_refused
  remove_done := updateTree_done
  remove_refused := updateTree_refused

/-! ### Disks -/

/-- A refusal from outside: the number and the words that are reported, and what a write leaves in
its file, if it has begun. -/
structure Refusal where
  number : Nat
  words : String
  left : Option (Option String)
  deriving Repr

/-- A tree, and for each of the steps to come whether it is refused. Later steps are not. -/
structure Disk where
  tree : FileTree
  refusals : List (Option Refusal)
  deriving Inhabited

namespace Disk

/-- The cause that a refusal is reported with. -/
def cause (r : Refusal) : FileCause :=
  .other r.number r.words

/-- What the next step gives, unless it is refused. -/
def answer {α : Type} (fault : FileCause → FileFault)
    (look : FileTree → Except FileFault α) : StateM Disk (Except FileFault α) := fun d =>
  match d.refusals with
  | some r :: rest => (.error (fault (cause r)), ⟨d.tree, rest⟩)
  | none :: rest => (look d.tree, ⟨d.tree, rest⟩)
  | [] => (look d.tree, d)

/-- What the next step changes, unless it is refused and leaves what it leaves. -/
def change (fault : FileCause → FileFault) (step : FileTree → Except FileFault FileTree)
    (left : Refusal → FileTree → FileTree) : StateM Disk (Except FileFault Unit) := fun d =>
  match d.refusals with
  | some r :: rest => (.error (fault (cause r)), ⟨left r d.tree, rest⟩)
  | none :: rest =>
    let (result, tree) := (updateTree step).run d.tree
    (result, ⟨tree, rest⟩)
  | [] =>
    let (result, tree) := (updateTree step).run d.tree
    (result, ⟨tree, []⟩)

/-- What a write that is refused leaves. -/
def leftByWrite (path : Path) (r : Refusal) (t : FileTree) : FileTree :=
  match r.left with
  | none => t
  | some text =>
    match t.writeItem path text with
    | .ok t' => t'
    | .error _ => t

instance : FileSystem (StateM Disk) where
  homeName := fun d => (d.tree.home.head?.getD "", d)
  kindOf path := answer (⟨·, path, none⟩) (·.kindOf path)
  mayWrite _ := fun d => (true, d)
  read path := answer (⟨·, path, none⟩) (·.read path)
  write path text := change (⟨·, path, none⟩) (·.write path text) (leftByWrite path)
  move path target := change (⟨·, path, some target⟩) (·.move path target) fun _ t => t
  remove path := change (⟨·, path, none⟩) (·.remove path) fun _ t => t
  makeDirectory path := change (⟨·, path, none⟩) (·.makeDirectory path) fun _ t => t

section Laws

variable {fault : FileCause → FileFault} {step : FileTree → Except FileFault FileTree}
  {left : Refusal → FileTree → FileTree} {d d' : Disk}

theorem answer_keeps {α : Type} {look : FileTree → Except FileFault α} {result : Except FileFault α}
    (ran : (answer fault look).run d = (result, d')) : d'.tree = d.tree := by
  change answer fault look d = _ at ran
  rw [answer] at ran
  split at ran <;> cases ran <;> rfl

theorem change_done (ran : (change fault step left).run d = (.ok (), d')) :
    step d.tree = .ok d'.tree := by
  change change fault step left d = _ at ran
  rw [change] at ran
  split at ran
  · cases ran
  · obtain ⟨result, same⟩ := Prod.mk.inj ran
    subst same
    exact updateTree_done (Prod.ext result rfl)
  · obtain ⟨result, same⟩ := Prod.mk.inj ran
    subst same
    exact updateTree_done (Prod.ext result rfl)

theorem change_refused {cause : FileFault}
    (ran : (change fault step left).run d = (.error cause, d')) :
    d'.tree = d.tree ∨ ∃ r, d'.tree = left r d.tree := by
  change change fault step left d = _ at ran
  rw [change] at ran
  split at ran
  · cases ran
    exact .inr ⟨_, rfl⟩
  · obtain ⟨result, same⟩ := Prod.mk.inj ran
    subst same
    exact .inl (updateTree_refused (Prod.ext result rfl))
  · obtain ⟨result, same⟩ := Prod.mk.inj ran
    subst same
    exact .inl (updateTree_refused (Prod.ext result rfl))

end Laws

instance : LawfulStore Disk where
  tree := Disk.tree
  kindOf_keeps := answer_keeps
  mayWrite_keeps ran := congrArg Disk.tree (Prod.mk.inj ran).2.symm
  read_keeps := answer_keeps
  write_done := change_done
  write_refused := by
    intro path text fault d d' ran
    rcases change_refused ran with same | ⟨r, left⟩
    · exact .inl same
    · -- A refused write has not begun, or it has put a part of the text.
      rw [left, leftByWrite]
      split
      next => exact .inl rfl
      next written _ =>
        split
        next t' made => exact .inr ⟨written, made⟩
        next => exact .inl rfl
  move_done := change_done
  move_refused ran := (change_refused ran).elim id fun ⟨_, same⟩ => same
  remove_done := change_done
  remove_refused ran := (change_refused ran).elim id fun ⟨_, same⟩ => same

end Disk

/-! ### What a step changes -/

section Frame

open LawfulStore (tree)

variable {σ : Type} [FileSystem (StateM σ)] [LawfulStore σ] {s s' : σ} {path target : Path}
  {result : Except FileFault Unit}

/-- The place that a path leads to. -/
def At (t : FileTree) (path : Path) (place : Place) : Prop :=
  t.locate path = .ok place

theorem frame_writeItem {t t' : FileTree} {text : Option String}
    (made : t.writeItem path text = .ok t') : FileTree.Frame (At t path) t t' := by
  obtain ⟨place, located, free, rfl⟩ := FileTree.writeItem_eq_ok_iff.1 made
  refine (FileTree.Frame.put free).mono ?_
  rintro _ rfl
  exact located

theorem frame_write {text : String}
    (ran : (FileSystem.write path text : StateM σ _).run s = (result, s')) :
    FileTree.Frame (At (tree s) path) (tree s) (tree s') := by
  cases result with
  | ok => exact frame_writeItem (LawfulStore.write_done ran)
  | error fault =>
    rcases LawfulStore.write_refused ran with same | ⟨left, made⟩
    · rw [same]
      exact .refl _ _
    · exact frame_writeItem made

theorem frame_remove (ran : (FileSystem.remove path : StateM σ _).run s = (result, s')) :
    FileTree.Frame (At (tree s) path) (tree s) (tree s') := by
  cases result with
  | ok =>
    rcases FileTree.remove_eq_ok (LawfulStore.remove_done ran) with
      same | ⟨place, text, located, present, same⟩
    · rw [same]
      exact .refl _ _
    · rw [same]
      refine (FileTree.Frame.erase present).mono ?_
      rintro _ rfl
      exact located
  | error fault =>
    rw [LawfulStore.remove_refused ran]
    exact .refl _ _

theorem frame_move (ran : (FileSystem.move path target : StateM σ _).run s = (.ok (), s')) :
    FileTree.Frame (fun place => At (tree s) path place ∨ At (tree s) target place)
      (tree s) (tree s') := by
  obtain ⟨place, goal, text, located, reached, present, free, same⟩ :=
    FileTree.move_eq_ok_iff.1 (LawfulStore.move_done ran)
  have erased := FileTree.Frame.erase present
  have stillFree : ((tree s).erase place).item? goal ≠ some .directory :=
    fun blocked => free ((erased.directories goal).1 blocked)
  rw [same]
  refine (erased.mono ?_).trans ((FileTree.Frame.put stillFree).mono ?_)
  · rintro _ rfl
    exact .inl located
  · rintro _ rfl
    exact .inr reached

end Frame

end Supergraph
