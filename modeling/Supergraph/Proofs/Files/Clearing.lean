import Supergraph.Proofs.Files.Obstacle

/-!
# What installing on a tree ends with

On a tree a step is refused for what lies at its path. A file cannot be written when its path leads
nowhere or to a directory, and then it cannot be taken away either. So a staged file that cannot be
written leaves installing unable to clear up, while a file that cannot be moved to where it belongs
does not. Whether installing clears up is the same for every store that takes files away when its
tree does, whichever other steps it refuses.

## Main definitions

* `FileTree.IsBarred` — no file can be put at a path
* `ClearingStore` — stores that take files away when their trees do

## Main results

* `FileTree.exists_write_iff`, `FileTree.exists_remove_iff` — when steps are refused
* `Stages.result_eq_ok_iff`, `discard_eq_ok_iff` — when staging and taking away are refused
* `run_install_of_barred`, `run_install_of_free` — what installing ends with
-/

namespace Supergraph

namespace FileTree

variable {t t' : FileTree} {path directory : Path} {name text : String}

/-- No file can be put at a path: it leads nowhere, or a directory is there. -/
def IsBarred (t : FileTree) (path : Path) : Prop :=
  ∀ place, t.locate path = .ok place → t.item? place = some .directory

/-- A text is written unless no file can be put there. -/
theorem exists_write_iff : (∃ t', t.write path text = .ok t') ↔ ¬t.IsBarred path := by
  simp only [write, writeItem_eq_ok_iff, IsBarred]
  push Not
  constructor
  · rintro ⟨_, place, located, free, _⟩
    exact ⟨place, located, free⟩
  · rintro ⟨place, located, free⟩
    exact ⟨_, place, located, free, rfl⟩

/-- The same paths are barred in trees with the same directories. -/
theorem Frame.isBarred_iff {touched : Place → Prop} (frame : Frame touched t t') :
    t'.IsBarred path ↔ t.IsBarred path := by
  simp only [IsBarred, frame.locate_eq_ok_iff, frame.directories]

/-- A path to a name in a directory that is there does not lead past something that is missing. -/
theorem locate_child_ne_notFound (inside : t.isBlocked directory = true) (name : String) :
    t.locate (directory.child name) ≠ .error .notFound := by
  obtain ⟨place, located, present⟩ := isBlocked_eq_true_iff.1 inside
  obtain ⟨_, followed⟩ := locate_eq_ok_iff.1 located
  -- Only the last name of the path is left to follow, from a place that is a directory.
  have last : t.follow (t.start (directory.child name)) (directory.child name).names =
      t.follow place [name] := by
    rw [Path.names_child, start, Path.slashes_child, ← start, follow_append, followed]
    rfl
  intro missing
  rw [locate] at missing
  split at missing
  next cause wrong =>
    rw [pathCause?] at wrong
    split_ifs at wrong <;> cases wrong <;> cases missing
  next =>
    rw [last, follow, present] at missing
    simp only at missing
    split_ifs at missing
    · cases missing
    · cases missing
    · cases missing

/-- What lies at a path is taken away unless no file can be put there. -/
theorem exists_remove_iff (found : t.locate path ≠ .error .notFound) :
    (∃ t', t.remove path = .ok t') ↔ ¬t.IsBarred path := by
  rw [remove, IsBarred]
  cases located : t.locate path with
  | error cause =>
    cases cause with
    | notFound => exact absurd located found
    | _ => simp
  | ok place =>
    cases present : t.item? place with
    | none => simp [present]
    | some item => cases item <;> simp [present]

end FileTree

/-! ### Taking files away -/

/-- A step that was refused is one that the tree refuses. -/
theorem not_exists_of_updateTree {step : FileTree → Except FileFault FileTree} {t t' : FileTree}
    {fault : FileFault} (ran : (updateTree step).run t = (.error fault, t')) :
    ¬∃ u, step t = .ok u := by
  rintro ⟨u, made⟩
  rw [run_updateTree_of_ok made] at ran
  cases ran

open LawfulStore (tree)

/-- A store that takes a file away unless its tree refuses that. -/
class ClearingStore (σ : Type) [FileSystem (StateM σ)] [LawfulStore σ] : Prop where
  not_exists_remove : ∀ {path fault} {s s' : σ},
    (FileSystem.remove path : StateM σ _).run s = (.error fault, s') →
      ¬∃ t, (tree s).remove path = .ok t

instance : ClearingStore FileTree := ⟨not_exists_of_updateTree⟩

section Store

variable {σ : Type} [FileSystem (StateM σ)] {s s' : σ} {directory : Path}
  {files : List (String × String)} {paths : List Path}

theorem Stages.within {result : Except FileFault Unit}
    (stages : Stages directory files s paths result s') :
    ∀ path ∈ paths, ∃ name, path = directory.child name := by
  intro path member
  obtain ⟨f, _, rfl⟩ := stages.mem_paths member
  exact ⟨f.1 ++ ".partial", rfl⟩

variable [LawfulStore σ] [ClearingStore σ]

/-- Files in a directory are all taken away unless no file can be put at the path of one of them. -/
theorem discard_eq_ok_iff (inside : (tree s).isBlocked directory = true)
    (within : ∀ path ∈ paths, ∃ name, path = directory.child name) :
    ((discard paths : StateM σ _).run s).1 = .ok () ↔ ∀ path ∈ paths, ¬(tree s).IsBarred path := by
  -- The tree changes with each path that is taken away, but not its directories.
  induction paths generalizing s with
  | nil => exact ⟨fun _ => by simp, fun _ => rfl⟩
  | cons path paths ih =>
    obtain ⟨⟨name, rfl⟩, others⟩ := List.forall_mem_cons.1 within
    have removable := FileTree.exists_remove_iff (FileTree.locate_child_ne_notFound inside name)
    rw [discard, StateT.run_bind]
    cases ran : (FileSystem.remove (directory.child name) : StateM σ _).run s with
    | mk result s₁ =>
      cases result with
      | error fault =>
        have barred : (tree s).IsBarred (directory.child name) := by
          by_contra free
          exact ClearingStore.not_exists_remove ran (removable.2 free)
        change (Except.error fault : Except FileFault Unit) = .ok () ↔ _
        simp [barred]
      | ok =>
        have free : ¬(tree s).IsBarred (directory.child name) :=
          removable.1 ⟨tree s₁, LawfulStore.remove_done ran⟩
        have frame := frame_remove ran
        change ((discard paths : StateM σ _).run s₁).1 = .ok () ↔ _
        rw [ih (frame.isBlocked_eq.trans inside) others, List.forall_mem_cons]
        simp only [frame.isBarred_iff, free, not_false_eq_true, true_and]

/-- After a refused step, the staged files are gone unless no file can be put at the path of one. -/
theorem run_settle_cleared (inside : (tree s).isBlocked directory = true)
    (within : ∀ path ∈ paths, ∃ name, path = directory.child name) (fault : FileFault) :
    ((∃ path ∈ paths, (tree s).IsBarred path) → ∃ left s',
        (settle directory files paths (.error fault) : StateM σ _).run s =
          (.error (.remains left), s')) ∧
      ((∀ path ∈ paths, ¬(tree s).IsBarred path) → ∃ s',
        (settle directory files paths (.error fault) : StateM σ _).run s =
          (.error (.refused fault), s')) := by
  have cleared := discard_eq_ok_iff inside within
  rw [settle, StateT.run_bind]
  cases discarding : (discard paths : StateM σ _).run s with
  | mk result s₁ =>
    rw [discarding] at cleared
    cases result with
    | error left =>
      refine ⟨fun _ => ⟨left, s₁, rfl⟩, fun free => ?_⟩
      cases cleared.2 free
    | ok =>
      refine ⟨fun barred => ?_, fun _ => ⟨s₁, rfl⟩⟩
      obtain ⟨path, member, wrong⟩ := barred
      exact absurd wrong (cleared.1 rfl path member)

end Store

/-! ### Installing on a tree -/

section Passes

variable {t t' : FileTree} {directory : Path} {files : List (String × String)} {paths : List Path}
  {result : Except FileFault Unit}

/-- All files are staged unless no file can be put at the staged path of one of them. -/
theorem Stages.result_eq_ok_iff (stages : Stages directory files t paths result t') :
    result = .ok () ↔ ∀ f ∈ files, ¬t.IsBarred (stagedPath directory f.1) := by
  induction stages with
  | nil => simp
  | @refused f _ _ t _ ran =>
    have barred : t.IsBarred (stagedPath directory f.1) := by
      by_contra free
      exact not_exists_of_updateTree ran (FileTree.exists_write_iff.2 free)
    simp [barred]
  | @done f _ _ _ t t₁ _ ran _ ih =>
    -- Writing a file makes no directory, so that the same paths are barred after it.
    have free : ¬t.IsBarred (stagedPath directory f.1) :=
      FileTree.exists_write_iff.1 ⟨t₁, LawfulStore.write_done ran⟩
    have frame : FileTree.Frame _ t t₁ := frame_write ran
    simp only [ih, frame.isBarred_iff, List.forall_mem_cons, free, not_false_eq_true, true_and]

/-- When staging is refused, no file can be put at one of the paths that were used. -/
theorem Stages.exists_barred {fault : FileFault}
    (stages : Stages directory files t paths (.error fault) t') :
    ∃ path ∈ paths, t.IsBarred path := by
  generalize same : (Except.error fault : Except FileFault Unit) = result at stages
  induction stages with
  | nil => cases same
  | @refused f _ _ t _ ran =>
    refine ⟨_, List.mem_cons_self, ?_⟩
    by_contra free
    exact not_exists_of_updateTree ran (FileTree.exists_write_iff.2 free)
  | @done f _ _ _ t t₁ _ ran _ ih =>
    have frame : FileTree.Frame _ t t₁ := frame_write ran
    obtain ⟨path, member, barred⟩ := ih same
    exact ⟨path, List.mem_cons_of_mem _ member, frame.isBarred_iff.1 barred⟩

end Passes

section Install

variable {t : FileTree} {directory : Path} {files : List (String × String)}

/-- A staged file that cannot be written cannot be taken away either. -/
theorem run_install_of_barred (inside : t.isBlocked directory = true)
    (barred : ∃ f ∈ files, t.IsBarred (stagedPath directory f.1)) :
    ∃ left t', (install directory files : StateM FileTree _).run t =
      (.error (.remains left), t') := by
  have stages := stages_run directory files t
  rw [install_eq, StateT.run_bind]
  cases staging : (stage directory files : StateM FileTree _).run t with
  | mk outcome t₁ =>
    obtain ⟨paths, written⟩ := outcome
    rw [staging] at stages
    cases written with
    | ok =>
      obtain ⟨f, member, refused⟩ := barred
      exact absurd refused (stages.result_eq_ok_iff.1 rfl f member)
    | error fault =>
      have frame : FileTree.Frame _ t t₁ := stages.frame
      obtain ⟨path, member, refused⟩ := stages.exists_barred
      exact (run_settle_cleared (frame.isBlocked_eq.trans inside) stages.within fault).1
        ⟨path, member, frame.isBarred_iff.2 refused⟩

/-- When all files can be staged, installing succeeds unless a directory is in the way of one, and
then the staged files are taken away. -/
theorem run_install_of_free (inside : t.isBlocked directory = true)
    (installable : Installable files)
    (free : ∀ f ∈ files, ¬t.IsBarred (stagedPath directory f.1)) :
    ((∀ f ∈ files, t.isBlocked (directory.child f.1) = false) → ∃ t',
        (install directory files : StateM FileTree _).run t =
          (.ok ((files.map Prod.fst).map directory.child), t')) ∧
      ((∃ f ∈ files, t.isBlocked (directory.child f.1) = true) → ∃ fault t',
        (install directory files : StateM FileTree _).run t = (.error (.refused fault), t')) := by
  have stages := stages_run directory files t
  rw [install_eq, StateT.run_bind]
  cases staging : (stage directory files : StateM FileTree _).run t with
  | mk outcome t₁ =>
    obtain ⟨paths, written⟩ := outcome
    rw [staging] at stages
    have done : written = .ok () := stages.result_eq_ok_iff.2 free
    subst done
    have frame : FileTree.Frame _ t t₁ := stages.frame
    have moves := moves_run directory files t₁
    have placed := moves.placed_eq_takeWhile installable (stages.staged installable)
    simp only [frame.isBlocked_eq] at placed
    -- After staging, the rest is moving the files and then settling what moving ended with.
    change (_ → ∃ t', (publish directory (files.map Prod.fst) >>= settle directory files paths :
      StateM FileTree _).run t₁ = _) ∧ (_ → ∃ fault t', (publish directory (files.map Prod.fst) >>=
        settle directory files paths : StateM FileTree _).run t₁ = _)
    rw [StateT.run_bind]
    cases moving : (publish directory (files.map Prod.fst) : StateM FileTree _).run t₁ with
    | mk result t₂ =>
      rw [moving] at moves
      have all := moves.placed_eq_iff
      rw [placed, List.takeWhile_eq_self_iff] at all
      have frameToo : FileTree.Frame _ t₁ t₂ := moves.frame
      cases result with
      | ok =>
        refine ⟨fun _ => ⟨t₂, rfl⟩, fun blocked => ?_⟩
        obtain ⟨f, member, wrong⟩ := blocked
        have unblocked := all.2 rfl f member
        rw [wrong] at unblocked
        cases unblocked
      | error fault =>
        refine ⟨fun unblocked => ?_, fun _ => ⟨fault, ?_⟩⟩
        · cases all.1 fun f member => by rw [unblocked f member, Bool.not_false]
        · have insideToo := frameToo.isBlocked_eq.trans (frame.isBlocked_eq.trans inside)
          refine (run_settle_cleared insideToo stages.within fault).2 fun path member => ?_
          obtain ⟨f, among, rfl⟩ := stages.mem_paths member
          change ¬t₂.IsBarred (stagedPath directory f.1)
          rw [frameToo.isBarred_iff, frame.isBarred_iff]
          exact free f among

end Install

end Supergraph
