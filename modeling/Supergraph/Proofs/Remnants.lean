import Supergraph.Proofs.Files.Clearing
import Supergraph.Proofs.Generation

/-!
# What installing leaves behind

Installing the artifacts in a directory either puts all of them into place or clears up after the
step that was refused. Either way nothing lies at a staged path that was used, and no other place is
changed. One thing goes wrong: the staged path of the first artifact may be too long to be written,
and then it is too long to be taken away as well, so that installing ends with the second fault.

## Main definitions

* `FileTree.IsVacant` — nothing lies at a path
* `stagedBy` — the staged paths that installing uses
* `ErasableDisk` — a disk that refuses writing and moving, and never taking away

## Main results

* `FileTree.isBarred_child_iff` — no file can be put in a directory under a path that is too long,
  or where a directory is
* `isVacant_of_discard`, `Moves.isVacant` — what taking away and moving leave at staged paths
* `run_install_of_writable` — installing clears up when all staged paths can be written
* `staging_leaves_no_trace_iff` — what installing the artifacts of a gateway leaves behind
-/

namespace Supergraph

/-! ### Paths in a directory -/

namespace Path

/-- The path to a name in a directory is the path of the directory, with the name after it. -/
theorem text_child (p : Path) (name : String) :
    (p.child name).text =
      (if p.names = [] then String.ofList (List.replicate p.slashes '/') else p.text ++ "/") ++
        name := by
  by_cases top : p.names = []
  · simp [text, top]
  · have last : String.intercalate "/" (p.names ++ [name]) =
        String.intercalate "/" p.names ++ "/" ++ name := by
      rw [String.intercalate_append_of_ne_nil top (by simp), String.intercalate_singleton]
    simp [text, top, last, String.append_assoc]

end Path

namespace FileTree

variable {t : FileTree} {directory : Path} {name : String}

/-- Nothing lies at a path. -/
def IsVacant (t : FileTree) (path : Path) : Prop :=
  ∀ place, t.locate path = .ok place → t.item? place = none

/-- A path to a name in a directory is at fault only when it is too long. -/
theorem pathCause?_child_eq_none_iff (faultless : pathCause? directory = none)
    (plain : '\x00' ∉ name.toList) :
    pathCause? (directory.child name) = none ↔
      (directory.child name).text.utf8ByteSize ≤ maxPathSize := by
  have clean : '\x00' ∉ (directory.child name).text.toList := by
    rw [Path.text_child, String.toList_append, List.mem_append]
    refine not_or.2 ⟨?_, plain⟩
    split
    · simp
    · rw [pathCause?] at faultless
      split at faultless
      · cases faultless
      · next free =>
        rw [String.toList_append, List.mem_append, ← List.contains_iff_mem]
        exact not_or.2 ⟨free, by decide⟩
  rw [pathCause?, if_neg (by rwa [List.contains_iff_mem])]
  split
  next long => simpa using long
  next short => simpa using short

theorem size_le_of_locate {path : Path} {place : Place} (located : t.locate path = .ok place) :
    path.text.utf8ByteSize ≤ maxPathSize := by
  obtain ⟨faultless, _⟩ := locate_eq_ok_iff.1 located
  rw [pathCause?] at faultless
  split_ifs at faultless with null long
  exact Nat.le_of_not_lt long

/-- No file can be put under a name in a directory when the path is too long, or when a directory is
there. -/
theorem isBarred_child_iff (inside : t.isBlocked directory = true) (down : name ≠ "..")
    (short : name.utf8ByteSize ≤ maxNameSize) (plain : '\x00' ∉ name.toList) :
    t.IsBarred (directory.child name) ↔
      maxPathSize < (directory.child name).text.utf8ByteSize ∨
        t.isBlocked (directory.child name) = true := by
  obtain ⟨around, located, present⟩ := isBlocked_eq_true_iff.1 inside
  obtain ⟨faultless, outer⟩ := locate_eq_ok_iff.1 located
  have cause := pathCause?_child_eq_none_iff faultless plain
  have followed : t.follow (t.start (directory.child name)) (directory.child name).names =
      .ok (name :: around) := by
    rw [Path.names_child, start, Path.slashes_child, ← start, follow_append, outer]
    exact follow_singleton present down short
  by_cases long : maxPathSize < (directory.child name).text.utf8ByteSize
  · have nowhere : ∀ place, t.locate (directory.child name) ≠ .ok place := fun place reached =>
      absurd (cause.1 (locate_eq_ok_iff.1 reached).1) (Nat.not_le.2 long)
    exact iff_of_true (fun place reached => absurd reached (nowhere place)) (.inl long)
  · have reached : t.locate (directory.child name) = .ok (name :: around) :=
      locate_eq_ok_iff.2 ⟨cause.2 (Nat.le_of_not_lt long), followed⟩
    rw [isBlocked_of_locate reached, decide_eq_true_iff]
    simp [IsBarred, reached, long]

end FileTree

/-! ### Staged paths afterwards -/

open LawfulStore (tree)

variable {σ : Type} [FileSystem (StateM σ)] {directory : Path}
  {files placed : List (String × String)} {paths : List Path} {f : String × String} {path : Path}
  {place : Place} {s s₁ s₂ s' : σ} {result : Except FileFault Unit}

/-- The staged paths that installing files uses. -/
def stagedBy (directory : Path) (files : List (String × String)) (s : σ) : List Path :=
  ((stage directory files : StateM σ _).run s).1.1

section Vacant

variable [LawfulStore σ]

/-- Taking a file away leaves nothing at its place, and nothing where nothing was. -/
theorem item?_of_remove (ran : (FileSystem.remove path : StateM σ _).run s = (.ok (), s'))
    (gone : At (tree s) path place ∨ (tree s).item? place = none) :
    (tree s').item? place = none := by
  have removed := LawfulStore.remove_done ran
  rcases FileTree.remove_eq_ok removed with same | ⟨spot, text, located, present, same⟩
  · rw [same]
    rcases gone with here | absent
    · -- The tree is left as it is, so that there was nothing at the path.
      rw [FileTree.remove, here, same] at removed
      simp only at removed
      split at removed
      next absent => exact absent
      next => cases removed
      next text present =>
        have erased := congrArg (·.item? place) (Except.ok.inj removed)
        rw [FileTree.item?_erase _ _ _ (by rintro rfl; cases present), if_pos rfl] at erased
        exact erased.symm
    · exact absent
  · have inside : spot ≠ [] := by
      rintro rfl
      cases present
    rw [same, FileTree.item?_erase _ _ _ inside]
    rcases gone with here | absent
    · rw [if_pos (Except.ok.inj (here.symm.trans located))]
    · rw [absent, ite_self]

/-- When files have all been taken away, nothing lies at their places. -/
theorem item?_of_discard (cleared : ((discard paths : StateM σ _).run s).1 = .ok ())
    (gone : (∃ path ∈ paths, At (tree s) path place) ∨ (tree s).item? place = none) :
    (tree ((discard paths : StateM σ _).run s).2).item? place = none := by
  induction paths generalizing s with
  | nil =>
    rcases gone with ⟨_, member, _⟩ | absent
    · cases member
    · exact absent
  | cons path paths ih =>
    rw [discard, StateT.run_bind] at cleared ⊢
    cases ran : (FileSystem.remove path : StateM σ _).run s with
    | mk result s₁ =>
      rw [ran] at cleared
      cases result with
      | error fault => cases cleared
      | ok =>
        refine ih cleared ?_
        rcases gone with ⟨other, member, here⟩ | absent
        · rcases List.mem_cons.1 member with rfl | later
          · exact .inr (item?_of_remove ran (.inl here))
          · exact .inl ⟨other, later, (frame_remove ran).locate_eq_ok_iff.2 here⟩
        · exact .inr (item?_of_remove ran (.inr absent))

/-- A file that has been moved into place leaves nothing at its staged path. -/
theorem Moves.isVacant (moves : Moves directory files s placed result s')
    (installable : Installable files) (member : f ∈ placed) :
    (tree s').IsVacant (stagedPath directory f.1) := by
  induction moves with
  | nil => cases member
  | refused => cases member
  | @done g files _ _ s s₁ s' ran rest ih =>
    rcases List.mem_cons.1 member with rfl | later
    · intro place reached
      have here : At (tree s₁) (stagedPath directory f.1) place :=
        rest.frame.locate_eq_ok_iff.1 reached
      -- The file has left its staged place, and no later move comes back to it.
      have left : (tree s₁).item? place = none := by
        obtain ⟨_, goal, text, located, goalLocated, present, free, made⟩ :=
          FileTree.move_eq_ok_iff.1 (LawfulStore.move_done ran)
        have same : At (tree s) (stagedPath directory f.1) place :=
          (frame_move ran).locate_eq_ok_iff.1 here
        cases located.symm.trans same
        have apart : place ≠ goal := by
          rintro rfl
          exact not_isStaged_of_locate goalLocated (installable.down f List.mem_cons_self)
            (installable.plain f List.mem_cons_self) (isStaged_of_locate located)
        have inside : goal ≠ [] := by
          rintro rfl
          exact free rfl
        have insideToo : place ≠ [] := by
          rintro rfl
          cases present
        rw [made, FileTree.item?_put _ _ _ _ inside, if_neg apart,
          FileTree.item?_erase _ _ _ insideToo, if_pos rfl]
      rw [rest.frame.others place ?_, left]
      rintro (⟨h, among, there⟩ | ⟨h, among, there⟩)
      · exact stagedPath_apart (installable.ne among) here there
      · have follows := List.mem_cons_of_mem f (rest.subset among)
        exact not_isStaged_of_locate there (installable.down h follows)
          (installable.plain h follows) (isStaged_of_locate here)
    · exact ih installable.tail later

end Vacant

/-! ### Installing -/

/-- The places of some files and of their staged files. -/
def TakenAt (t : FileTree) (directory : Path) (files : List (String × String)) (place : Place) :
    Prop :=
  StagedAt t directory files place ∨ PlacedAt t directory files place

theorem FileTree.Frame.takenAt {t t' : FileTree} {touched : Place → Prop}
    (frame : FileTree.Frame touched t t') (taken : TakenAt t' directory files place) :
    TakenAt t directory files place := by
  rcases taken with ⟨f, member, here⟩ | ⟨f, member, here⟩
  · exact .inl ⟨f, member, frame.locate_eq_ok_iff.1 here⟩
  · exact .inr ⟨f, member, frame.locate_eq_ok_iff.1 here⟩

section Install

variable [LawfulStore σ]

theorem Moves.frame_taken (moves : Moves directory files s placed result s') :
    FileTree.Frame (TakenAt (tree s) directory files) (tree s) (tree s') := by
  refine moves.frame.mono ?_
  rintro place (staged | ⟨f, member, here⟩)
  · exact .inl staged
  · exact .inr ⟨f, moves.subset member, here⟩

theorem Stages.frame_discarded (stages : Stages directory files s paths result s₁) (s₂ : σ) :
    FileTree.Frame (TakenAt (tree s₂) directory files) (tree s₂)
      (tree ((discard paths : StateM σ _).run s₂).2) := by
  refine (Supergraph.frame_discard paths s₂).mono ?_
  rintro place ⟨path, member, here⟩
  obtain ⟨f, among, rfl⟩ := stages.mem_paths member
  exact .inl ⟨f, among, here⟩

variable [ClearingStore σ]

/-- After a refused step nothing is left at the staged paths that were used, if each of them can be
written. -/
theorem Stages.run_settle (stages : Stages directory files s paths result s₁)
    {touched : Place → Prop} (frame : FileTree.Frame touched (tree s) (tree s₂))
    (inside : (tree s).isBlocked directory = true)
    (free : ∀ f ∈ files, ¬(tree s).IsBarred (stagedPath directory f.1)) (fault : FileFault) :
    ∃ s', (settle directory files paths (.error fault) : StateM σ _).run s₂ =
        (.error (.refused fault), s') ∧ (∀ path ∈ paths, (tree s').IsVacant path) ∧
      FileTree.Frame (TakenAt (tree s₂) directory files) (tree s₂) (tree s') := by
  have insideToo := frame.isBlocked_eq.trans inside
  have freePaths : ∀ path ∈ paths, ¬(tree s₂).IsBarred path := by
    intro path member
    obtain ⟨f, among, rfl⟩ := stages.mem_paths member
    rw [frame.isBarred_iff]
    exact free f among
  have cleared := (discard_eq_ok_iff insideToo stages.within).2 freePaths
  obtain ⟨s', settled⟩ : ∃ s', (settle directory files paths (.error fault) : StateM σ _).run s₂ =
      (.error (.refused fault), s') :=
    (run_settle_cleared insideToo stages.within fault).2 freePaths
  obtain ⟨_, ran⟩ := run_settle_of_refused directory files paths fault s₂
  obtain rfl := (Prod.mk.inj (settled.symm.trans ran)).2
  refine ⟨_, settled, fun path member place reached => ?_, stages.frame_discarded s₂⟩
  have here := (stages.frame_discarded s₂).locate_eq_ok_iff.1 reached
  exact item?_of_discard cleared (.inl ⟨path, member, here⟩)

/-- When all staged paths can be written, installing puts all files into place, or it ends with the
step that was refused. Either way nothing lies at the staged paths that were used. -/
theorem run_install_of_writable (inside : (tree s).isBlocked directory = true)
    (installable : Installable files)
    (free : ∀ f ∈ files, ¬(tree s).IsBarred (stagedPath directory f.1)) :
    ∃ ended s', (install directory files : StateM σ _).run s = (ended, s') ∧
      (ended = .ok ((files.map Prod.fst).map directory.child) ∧
          (∀ f ∈ files, (tree s').read (directory.child f.1) = .ok (some f.2)) ∨
        ∃ fault, ended = .error (.refused fault)) ∧
      (∀ path ∈ stagedBy directory files s, (tree s').IsVacant path) ∧
      FileTree.Frame (TakenAt (tree s) directory files) (tree s) (tree s') := by
  have stages := stages_run directory files s
  rw [install_eq, StateT.run_bind, stagedBy]
  cases staging : (stage directory files : StateM σ _).run s with
  | mk outcome s₁ =>
    obtain ⟨paths, written⟩ := outcome
    rw [staging] at stages
    have first := stages.frame.mono fun _ here => (.inl here : TakenAt (tree s) directory files _)
    cases written with
    | error fault =>
      obtain ⟨s', settled, vacant, last⟩ := stages.run_settle first inside free fault
      exact ⟨_, s', settled, .inr ⟨fault, rfl⟩, vacant,
        first.trans (last.mono fun _ => first.takenAt)⟩
    | ok =>
      have moves := moves_run directory files s₁
      change ∃ ended s', (publish directory (files.map Prod.fst) >>=
        settle directory files paths : StateM σ _).run s₁ = (ended, s') ∧ _
      rw [StateT.run_bind]
      cases moving : (publish directory (files.map Prod.fst) : StateM σ _).run s₁ with
      | mk result s₂ =>
        rw [moving] at moves
        have second := first.trans (moves.frame_taken.mono fun _ => first.takenAt)
        cases result with
        | error fault =>
          obtain ⟨s', settled, vacant, last⟩ := stages.run_settle second inside free fault
          exact ⟨_, s', settled, .inr ⟨fault, rfl⟩, vacant,
            second.trans (last.mono fun _ => second.takenAt)⟩
        | ok =>
          have all := moves.placed_eq_iff.2 rfl
          rw [all] at moves
          refine ⟨_, s₂, rfl, .inl ⟨rfl, fun f member =>
            moves.read installable (stages.staged installable) member⟩, ?_, second⟩
          intro path member
          obtain ⟨f, among, rfl⟩ := stages.mem_paths member
          exact moves.isVacant installable among

/-- When the first staged path cannot be written, it cannot be taken away either, and nothing else
is tried. -/
theorem run_install_of_barred_first (rest : List (String × String))
    (inside : (tree s).isBlocked directory = true)
    (barred : (tree s).IsBarred (stagedPath directory f.1)) :
    stagedBy directory (f :: rest) s = [stagedPath directory f.1] ∧
      ∃ left s', (install directory (f :: rest) : StateM σ _).run s = (.error (.remains left), s') ∧
        FileTree.Frame (TakenAt (tree s) directory (f :: rest)) (tree s) (tree s') := by
  cases ran : (FileSystem.write (stagedPath directory f.1) f.2 : StateM σ _).run s with
  | mk result s₁ =>
    cases result with
    | ok =>
      exact absurd barred (FileTree.exists_write_iff.1 ⟨_, LawfulStore.write_done ran⟩)
    | error fault =>
      have stages : Stages directory (f :: rest) s _ _ s₁ := .refused ran
      have staging : (stage directory (f :: rest) : StateM σ _).run s =
          (([stagedPath directory f.1], .error fault), s₁) := by
        rw [stage, StateT.run_bind, ran]
        rfl
      have first := stages.frame.mono fun _ here =>
        (.inl here : TakenAt (tree s) directory (f :: rest) _)
      have insideToo := first.isBlocked_eq.trans inside
      obtain ⟨left, s', settled⟩ : ∃ left s', (settle directory (f :: rest)
          [stagedPath directory f.1] (.error fault) : StateM σ _).run s₁ =
            (.error (.remains left), s') :=
        (run_settle_cleared insideToo stages.within fault).1
          ⟨_, List.mem_singleton_self _, first.isBarred_iff.2 barred⟩
      obtain ⟨_, same⟩ := run_settle_of_refused directory (f :: rest) _ fault s₁
      obtain rfl := (Prod.mk.inj (settled.symm.trans same)).2
      refine ⟨by rw [stagedBy, staging], left, _, ?_,
        first.trans ((stages.frame_discarded s₁).mono fun _ => first.takenAt)⟩
      rw [install_eq, StateT.run_bind, staging]
      exact settled

end Install

/-! ### Artifacts -/

/-- The staged names of artifacts can be followed, and that of the first artifact is the longest. -/
theorem staged_artifactNames (format : PlanFormat) :
    ∀ name ∈ Emit.artifactNames format, name ++ ".partial" ≠ ".." ∧
      (name ++ ".partial").utf8ByteSize ≤ FileTree.maxNameSize ∧
      '\x00' ∉ (name ++ ".partial").toList ∧
      (name ++ ".partial").utf8ByteSize ≤ ("schema_types.py" ++ ".partial").utf8ByteSize := by
  cases format <;> decide

section Artifacts

variable {t : FileTree} {format : PlanFormat} {name : String}

/-- Where no directory has the staged path of an artifact, the path is barred only when it is too
long. -/
theorem isBarred_stagedPath_iff (inside : t.isBlocked directory = true)
    (listed : name ∈ Emit.artifactNames format)
    (unblocked : t.isBlocked (stagedPath directory name) = false) :
    t.IsBarred (stagedPath directory name) ↔
      FileTree.maxPathSize < (stagedPath directory name).text.utf8ByteSize := by
  obtain ⟨down, short, plain, _⟩ := staged_artifactNames format name listed
  rw [stagedPath] at unblocked ⊢
  rw [FileTree.isBarred_child_iff inside down short plain, unblocked]
  simp

/-- The staged path of the first artifact is the longest. -/
theorem size_stagedPath_le (directory : Path) (listed : name ∈ Emit.artifactNames format) :
    (stagedPath directory name).text.utf8ByteSize ≤
      (stagedPath directory "schema_types.py").text.utf8ByteSize := by
  obtain ⟨_, _, _, longest⟩ := staged_artifactNames format name listed
  rw [stagedPath, stagedPath, Path.text_child, Path.text_child]
  simp only [String.utf8ByteSize_append] at longest ⊢
  exact Nat.add_le_add_left longest _

end Artifacts

/-- Installing the artifacts in a directory where no directory has a staged path ends with their
paths or with an error about writing exactly when the staged path of the first artifact is not too
long. In any case the artifacts hold their texts if paths are given back, nothing lies at a staged
path that was used, and nothing changes elsewhere. The store may refuse any writing and moving, but
not taking away. -/
theorem staging_leaves_no_trace_iff {σ : Type} [FileSystem (StateM σ)] [LawfulStore σ]
    [ClearingStore σ] (directory : Path) (format : PlanFormat) (files : List (String × String))
    (s : σ) (names : files.map Prod.fst = Emit.artifactNames format)
    (inside : (tree s).isBlocked directory = true)
    (unblocked : ∀ f ∈ files, (tree s).isBlocked (stagedPath directory f.1) = false) :
    let ended := (install directory files : StateM σ _).run s
    ((∃ paths, ended.1 = .ok paths) ∨
        (∃ cause, ended.1.mapError InstallFault.problem = .error (.writing cause)) ↔
      (stagedPath directory "schema_types.py").text.utf8ByteSize ≤ FileTree.maxPathSize) ∧
    (∀ paths, ended.1 = .ok paths →
      paths = (Emit.artifactNames format).map directory.child ∧
        ∀ f ∈ files, (tree ended.2).read (directory.child f.1) = .ok (some f.2)) ∧
    (∀ path ∈ stagedBy directory files s, (tree ended.2).IsVacant path) ∧
    ∀ place, ¬TakenAt (tree s) directory files place →
      (tree ended.2).item? place = (tree s).item? place := by
  intro ended
  have listed : ∀ f ∈ files, f.1 ∈ Emit.artifactNames format :=
    fun f member => names ▸ List.mem_map_of_mem member
  have barred : ∀ f ∈ files, (tree s).IsBarred (stagedPath directory f.1) ↔
      FileTree.maxPathSize < (stagedPath directory f.1).text.utf8ByteSize :=
    fun f member => isBarred_stagedPath_iff inside (listed f member) (unblocked f member)
  by_cases long :
      (stagedPath directory "schema_types.py").text.utf8ByteSize ≤ FileTree.maxPathSize
  case pos =>
    have free : ∀ f ∈ files, ¬(tree s).IsBarred (stagedPath directory f.1) := by
      intro f member
      rw [barred f member, Nat.not_lt]
      exact (size_stagedPath_le directory (listed f member)).trans long
    obtain ⟨result, s', ran, outcome, vacant, frame⟩ :=
      run_install_of_writable inside (installable_of_names names) free
    obtain ⟨same, sameState⟩ := Prod.mk.inj (show (ended.1, ended.2) = (result, s') from ran)
    rw [same, sameState]
    refine ⟨iff_of_true ?_ long, fun paths given => ?_, vacant, frame.others⟩
    · rcases outcome with ⟨rfl, _⟩ | ⟨fault, rfl⟩
      · exact .inl ⟨_, rfl⟩
      · exact .inr ⟨fault, rfl⟩
    · rcases outcome with ⟨rfl, held⟩ | ⟨fault, rfl⟩
      · exact ⟨(Except.ok.inj given).symm.trans (congrArg _ names), held⟩
      · cases given
  case neg =>
    obtain ⟨f, rest, rfl⟩ : ∃ f rest, files = f :: rest :=
      List.exists_cons_of_ne_nil (by rintro rfl; cases names)
    have first : f.1 = "schema_types.py" := (List.cons.inj names).1
    have tooLong : FileTree.maxPathSize < (stagedPath directory f.1).text.utf8ByteSize := by
      rw [first]
      exact Nat.lt_of_not_le long
    obtain ⟨used, left, s', ran, frame⟩ := run_install_of_barred_first rest inside
      ((barred f List.mem_cons_self).2 tooLong)
    obtain ⟨same, sameState⟩ :=
      Prod.mk.inj (show (ended.1, ended.2) = (.error (.remains left), s') from ran)
    rw [same, sameState, used]
    refine ⟨iff_of_false ?_ long, fun paths given => ?_, fun path member place reached => ?_,
      frame.others⟩
    · rintro (⟨_, given⟩ | ⟨_, refused⟩)
      · cases given
      · cases refused
    · cases given
    · -- A path that is too long leads nowhere.
      obtain rfl := List.mem_singleton.1 member
      exact absurd (FileTree.size_le_of_locate reached) (Nat.not_le.2 tooLong)

/-! ### Disks that can be cleared -/

/-- A disk that refuses some of the steps to come, but never to take a file away. -/
structure ErasableDisk where
  disk : Disk
  deriving Inhabited

namespace ErasableDisk

/-- A step on the disk. -/
def onDisk {α : Type} (step : StateM Disk α) : StateM ErasableDisk α := fun d =>
  ((step.run d.disk).1, ⟨(step.run d.disk).2⟩)

/-- Takes a file away unless the tree refuses that. -/
def remove (path : Path) : StateM ErasableDisk (Except FileFault Unit) := fun d =>
  let removed := (updateTree (·.remove path)).run d.disk.tree
  (removed.1, ⟨{ d.disk with tree := removed.2 }⟩)

instance : FileSystem (StateM ErasableDisk) where
  homeName := onDisk FileSystem.homeName
  kindOf path := onDisk (FileSystem.kindOf path)
  mayWrite path := onDisk (FileSystem.mayWrite path)
  read path := onDisk (FileSystem.read path)
  write path text := onDisk (FileSystem.write path text)
  move path target := onDisk (FileSystem.move path target)
  remove := remove
  makeDirectory path := onDisk (FileSystem.makeDirectory path)

variable {α : Type} {path : Path} {d d' : ErasableDisk}

theorem run_disk {step : StateM Disk α} {a : α} (ran : (onDisk step).run d = (a, d')) :
    step.run d.disk = (a, d'.disk) := by
  obtain ⟨same, sameDisk⟩ := Prod.mk.inj ran
  rw [← sameDisk]
  exact Prod.ext same rfl

theorem run_tree {result : Except FileFault Unit} (ran : (remove path).run d = (result, d')) :
    (updateTree (·.remove path)).run d.disk.tree = (result, d'.disk.tree) := by
  obtain ⟨same, sameDisk⟩ := Prod.mk.inj ran
  rw [← sameDisk]
  exact Prod.ext same rfl

instance : LawfulStore ErasableDisk where
  tree d := d.disk.tree
  kindOf_keeps ran := LawfulStore.kindOf_keeps (run_disk ran)
  mayWrite_keeps ran := LawfulStore.mayWrite_keeps (run_disk ran)
  read_keeps ran := LawfulStore.read_keeps (run_disk ran)
  write_done ran := LawfulStore.write_done (run_disk ran)
  write_refused ran := LawfulStore.write_refused (run_disk ran)
  move_done ran := LawfulStore.move_done (run_disk ran)
  move_refused ran := LawfulStore.move_refused (run_disk ran)
  remove_done ran := updateTree_done (run_tree ran)
  remove_refused ran := updateTree_refused (run_tree ran)

instance : ClearingStore ErasableDisk := ⟨fun ran => not_exists_of_updateTree (run_tree ran)⟩

end ErasableDisk

/-- Artifacts without texts. -/
def blankArtifacts : List (String × String) :=
  (Emit.artifactNames .yaml).map fun name => (name, "")

/-- A directory with a note and with a staged file that an earlier run has left. -/
def usedGateway : FileTree :=
  ⟨[(["out"], .directory), (["note", "out"], .file (some "keep")),
    (["query_plan.py.partial", "out"], .file (some "old"))], []⟩

/-- A disk that refuses to move the second artifact into place. -/
def stuckDisk : ErasableDisk :=
  ⟨usedGateway, [none, none, none, none, none, some ⟨5, "Input/output error", none⟩]⟩

theorem stuckDisk_keeps_no_staged_file :
    let ended := (install (.ofText "out") blankArtifacts : StateM ErasableDisk _).run stuckDisk
    (∃ cause, ended.1.mapError InstallFault.problem = .error (.writing cause)) ∧
      stagedBy (.ofText "out") blankArtifacts stuckDisk =
        blankArtifacts.map (fun f => stagedPath (.ofText "out") f.1) ∧
      (tree ended.2).IsVacant (stagedPath (.ofText "out") "query_plan.py") ∧
      (tree ended.2).item? ["note", "out"] = some (.file (some "keep")) := by
  obtain ⟨ends, given, vacant, others⟩ := staging_leaves_no_trace_iff (.ofText "out") .yaml
    blankArtifacts stuckDisk (by decide) (by decide +kernel) (by decide +kernel)
  have used : stagedBy (.ofText "out") blankArtifacts stuckDisk =
      blankArtifacts.map (fun f => stagedPath (.ofText "out") f.1) := by decide +kernel
  have failed : ((install (.ofText "out") blankArtifacts : StateM ErasableDisk _).run
      stuckDisk).1.isOk = false := by decide +kernel
  refine ⟨?_, used, vacant _ (by rw [used]; decide +kernel),
    (others _ ?_).trans (by decide +kernel)⟩
  · rcases ends.2 (by decide +kernel) with ⟨paths, given⟩ | refused
    · rw [given] at failed
      cases failed
    · exact refused
  · have apart : ∀ f ∈ blankArtifacts, "note" ≠ f.1 ∧ f.1 ≠ ".." := by decide
    rintro (⟨f, member, here⟩ | ⟨f, member, here⟩)
    · exact absurd (isStaged_cons.1 (isStaged_of_locate here)) (by decide)
    · obtain ⟨_, _, same⟩ := FileTree.locate_child here (apart f member).2
      exact (apart f member).1 (List.cons.inj same).1

/-! ### A directory with a long path -/

/-- The directory `out`, by a path that goes into it and out again a number of times before. -/
def winding (times : Nat) : Path :=
  ⟨0, (List.replicate times ["out", ".."]).flatten ++ ["out"]⟩

/-- A directory without files. -/
def emptyGateway : FileTree :=
  ⟨[(["out"], .directory)], []⟩

theorem names_winding_succ (times : Nat) :
    (winding (times + 1)).names = "out" :: ".." :: (winding times).names := by
  simp [winding, List.replicate_succ]

theorem text_winding (times : Nat) :
    (winding times).text = String.join (List.replicate times "out/../") ++ "out" := by
  have spelled : ∀ n, (winding n).text = String.intercalate "/" (winding n).names := by
    intro n
    simp [Path.text, winding]
  induction times with
  | zero => rfl
  | succ n ih =>
    have inside : (winding n).names ≠ [] := by simp [winding]
    have once : "out/../" = "out" ++ "/" ++ (".." ++ "/") := by decide
    rw [spelled, names_winding_succ, String.intercalate_cons_of_ne_nil (by simp),
      String.intercalate_cons_of_ne_nil inside, ← spelled, ih, List.replicate_succ,
      String.join_cons]
    nth_rewrite 2 [once]
    simp only [String.append_assoc]

theorem size_text_winding (times : Nat) :
    (winding times).text.utf8ByteSize = 7 * times + 3 := by
  rw [text_winding, String.utf8ByteSize_append]
  induction times with
  | zero => decide
  | succ n ih =>
    have once : "out/../".utf8ByteSize = 7 := by decide
    rw [List.replicate_succ, String.join_cons, String.utf8ByteSize_append]
    omega

theorem size_staged_winding (times : Nat) (name : String) :
    (stagedPath (winding times) name).text.utf8ByteSize = 7 * times + 12 + name.utf8ByteSize := by
  have partly : "/".utf8ByteSize = 1 ∧ ".partial".utf8ByteSize = 8 := by decide
  rw [stagedPath, Path.text_child, if_neg (by simp [winding])]
  simp only [String.utf8ByteSize_append, size_text_winding]
  omega

/-- While the path is not too long it leads to the directory. -/
theorem locate_winding {times : Nat} (short : 7 * times + 3 ≤ FileTree.maxPathSize) :
    emptyGateway.locate (winding times) = .ok ["out"] := by
  refine FileTree.locate_eq_ok_iff.2 ⟨?_, ?_⟩
  · have plain : '\x00' ∉ (winding times).text.toList := by
      rw [text_winding, String.toList_append, List.mem_append, not_or]
      refine ⟨?_, by decide⟩
      clear short
      induction times with
      | zero => decide
      | succ n ih =>
        rw [List.replicate_succ, String.join_cons, String.toList_append, List.mem_append, not_or]
        exact ⟨by decide, ih⟩
    rw [FileTree.pathCause?, if_neg (by rwa [List.contains_iff_mem]), if_neg]
    rw [size_text_winding]
    omega
  · change emptyGateway.follow [] (winding times).names = .ok ["out"]
    clear short
    induction times with
    | zero => rfl
    | succ n ih =>
      -- The path goes into the directory, and then it is back where it began.
      rw [names_winding_succ]
      refine FileTree.follow_cons_eq_ok_iff.2 ⟨rfl, .inr ⟨by decide, by decide, ?_⟩⟩
      exact FileTree.follow_cons_eq_ok_iff.2 ⟨rfl, .inl ⟨rfl, ih⟩⟩

/-- The path of the directory is short enough, and those of the staged files in it are not. -/
theorem winding_path_breaks_staging :
    emptyGateway.isBlocked (winding 583) = true ∧
      (∀ f ∈ blankArtifacts, emptyGateway.isBlocked (stagedPath (winding 583) f.1) = false) ∧
      ∃ left, ((install (winding 583) blankArtifacts : StateM FileTree _).run emptyGateway).1 =
        .error (.remains left) := by
  have inside : emptyGateway.isBlocked (winding 583) = true :=
    FileTree.isBlocked_eq_true_iff.2 ⟨_, locate_winding (by decide), rfl⟩
  have nowhere : ∀ f ∈ blankArtifacts, ∀ place,
      emptyGateway.locate (stagedPath (winding 583) f.1) ≠ .ok place := by
    have sizes : ∀ f ∈ blankArtifacts, 3 ≤ f.1.utf8ByteSize := by decide
    intro f member place located
    have size := FileTree.size_le_of_locate located
    have long := sizes f member
    rw [size_staged_winding, FileTree.maxPathSize] at size
    omega
  refine ⟨inside, fun f member => ?_, ?_⟩
  · rw [← Bool.not_eq_true, FileTree.isBlocked_eq_true_iff]
    rintro ⟨place, located, _⟩
    exact nowhere f member place located
  · obtain ⟨_, left, _, ran, _⟩ := run_install_of_barred_first (s := emptyGateway)
      (f := ("schema_types.py", "")) blankArtifacts.tail inside fun place located =>
        absurd located (nowhere _ List.mem_cons_self place)
    exact ⟨left, congrArg Prod.fst ran⟩

end Supergraph
