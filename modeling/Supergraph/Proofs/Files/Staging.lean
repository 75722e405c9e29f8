import Supergraph.Proofs.Files.Store

/-!
# Staged writing on a store

Writing and taking away staged files changes places of staged files only. Moving them changes the
places that the files are moved to, one after the other, until a step is refused; what has been
moved by then stays moved.

## Main definitions

* `Installable` — files that can be staged beside each other
* `moved`, `installed` — the files that are moved into place before a step is refused
* `Stages`, `Moves`, `Installs` — how the passes go on, step by step

## Main results

* `stages_run`, `moves_run`, `installs_run` — the passes go on in this way
* `Stages.frame`, `Stages.staged` — what staging changes, and that all files are staged then
* `Moves.frame`, `Moves.read` — what moving changes, and what it puts into place
* `Installs.frame`, `Installs.read` — the passes together
-/

namespace Supergraph

/-- Files that can be staged beside each other: none has the name of another, of a staged file, or
of the place above. -/
structure Installable (files : List (String × String)) : Prop where
  distinct : (files.map Prod.fst).Nodup
  plain : ∀ f ∈ files, ¬IsStagedName f.1
  down : ∀ f ∈ files, f.1 ≠ ".."

theorem Installable.tail {f : String × String} {files : List (String × String)}
    (installable : Installable (f :: files)) : Installable files where
  distinct := (List.nodup_cons.1 installable.distinct).2
  plain g member := installable.plain g (List.mem_cons_of_mem f member)
  down g member := installable.down g (List.mem_cons_of_mem f member)

theorem Installable.ne {f g : String × String} {files : List (String × String)}
    (installable : Installable (f :: files)) (member : g ∈ files) : f.1 ≠ g.1 := by
  intro same
  refine (List.nodup_cons.1 installable.distinct).1 ?_
  rw [same]
  exact List.mem_map_of_mem member

section Passes

variable {m : Type → Type} [Monad m] [FileSystem m]

/-- Moves staged files to where they belong until one is refused, and gives those that were
moved. -/
def moved (directory : Path) : List (String × String) → m (List (String × String))
  | [] => return []
  | (name, text) :: rest => do
    match ← FileSystem.move (stagedPath directory name) (directory.child name) with
    | .error _ => return []
    | .ok () =>
      let others ← moved directory rest
      return (name, text) :: others

/-- What is done when all files have been moved, or when a step was refused. -/
def settle (directory : Path) (files : List (String × String)) (paths : List Path) :
    Except FileFault Unit → m (Except InstallFault (List Path))
  | .ok () => return .ok ((files.map Prod.fst).map directory.child)
  | .error fault => do
    match ← discard paths with
    | .ok () => return .error (.refused fault)
    | .error left => return .error (.remains left)

/-- Installing is staging, then moving, and then settling. -/
theorem install_eq [LawfulMonad m] (directory : Path) (files : List (String × String)) :
    (install directory files : m _) = stage directory files >>= fun staging =>
      match staging.2 with
      | .error fault => settle directory files staging.1 (.error fault)
      | .ok () => publish directory (files.map Prod.fst) >>= settle directory files staging.1 := by
  refine bind_congr fun staging => ?_
  obtain ⟨paths, written⟩ := staging
  cases written with
  | error fault =>
    change (pure (.error fault) >>= settle directory files paths) = _
    rw [pure_bind]
  | ok => exact bind_congr fun result => by cases result <;> rfl

/-- The files that are in place when files have been installed, or when that was refused. -/
def installed (directory : Path) (files : List (String × String)) :
    m (List (String × String)) := do
  let (_, written) ← stage directory files
  match written with
  | .error _ => return []
  | .ok () => moved directory files

end Passes

open LawfulStore (tree)

variable {σ : Type} [FileSystem (StateM σ)] {directory : Path}
  {files placed : List (String × String)} {paths : List Path} {f g : String × String}
  {s s₁ s₂ s' : σ} {result : Except FileFault Unit}

/-- The places of the staged files of some files. -/
def StagedAt (t : FileTree) (directory : Path) (files : List (String × String)) (place : Place) :
    Prop :=
  ∃ f ∈ files, At t (stagedPath directory f.1) place

/-- The places where some files belong. -/
def PlacedAt (t : FileTree) (directory : Path) (files : List (String × String)) (place : Place) :
    Prop :=
  ∃ f ∈ files, At t (directory.child f.1) place

/-- A file is staged: its text lies at its staged path. -/
def IsStagedIn (t : FileTree) (directory : Path) (f : String × String) : Prop :=
  t.read (stagedPath directory f.1) = .ok (some f.2)

/-- Changes elsewhere leave a file readable. -/
theorem read_of_frame {t t' : FileTree} {touched : Place → Prop} {path : Path}
    {text : Option String} (frame : FileTree.Frame touched t t')
    (apart : ∀ place, At t path place → ¬touched place) (before : t.read path = .ok text) :
    t'.read path = .ok text := by
  obtain ⟨place, located, present⟩ := FileTree.read_eq_ok_iff.1 before
  refine FileTree.read_eq_ok_iff.2 ⟨place, frame.locate_eq_ok_iff.2 located, ?_⟩
  rw [frame.others place (apart place located), present]

theorem stagedPath_apart {t : FileTree} {a b : String} {place : Place} (ne : a ≠ b)
    (first : At t (stagedPath directory a) place) : ¬At t (stagedPath directory b) place := by
  intro second
  refine FileTree.ne_of_locate_child first second (ne_up_of_isStagedName (isStagedName_append a))
    (ne_up_of_isStagedName (isStagedName_append b)) ?_ rfl
  intro same
  exact ne (String.append_left_inj ".partial" |>.1 same)

/-! ### Staging -/

/-- Files are written under their staged paths, one after the other, until a step is refused. -/
inductive Stages (directory : Path) :
    List (String × String) → σ → List Path → Except FileFault Unit → σ → Prop
  | nil {s : σ} : Stages directory [] s [] (.ok ()) s
  | refused {f : String × String} {files : List (String × String)} {fault : FileFault} {s s₁ : σ}
      (ran : (FileSystem.write (stagedPath directory f.1) f.2 : StateM σ _).run s =
        (.error fault, s₁)) :
      Stages directory (f :: files) s [stagedPath directory f.1] (.error fault) s₁
  | done {f : String × String} {files : List (String × String)} {paths : List Path}
      {result : Except FileFault Unit} {s s₁ s' : σ}
      (ran : (FileSystem.write (stagedPath directory f.1) f.2 : StateM σ _).run s = (.ok (), s₁))
      (rest : Stages directory files s₁ paths result s') :
      Stages directory (f :: files) s (stagedPath directory f.1 :: paths) result s'

/-- Staging goes on in this way. -/
theorem stages_run (directory : Path) (files : List (String × String)) (s : σ) :
    Stages directory files s ((stage directory files : StateM σ _).run s).1.1
      ((stage directory files : StateM σ _).run s).1.2
      ((stage directory files : StateM σ _).run s).2 := by
  induction files generalizing s with
  | nil => exact .nil
  | cons f files ih =>
    rw [stage, StateT.run_bind]
    cases ran : (FileSystem.write (stagedPath directory f.1) f.2 : StateM σ _).run s with
    | mk result s₁ =>
      cases result with
      | error fault => exact .refused ran
      | ok => exact .done ran (ih s₁)

namespace Stages

/-- The paths that are given are staged paths of the files. -/
theorem mem_paths (stages : Stages directory files s paths result s') {path : Path}
    (member : path ∈ paths) : ∃ f ∈ files, path = stagedPath directory f.1 := by
  induction stages with
  | nil => cases member
  | @refused f => exact ⟨f, List.mem_cons_self, List.mem_singleton.1 member⟩
  | @done f _ _ _ _ _ _ _ _ ih =>
    rcases List.mem_cons.1 member with same | rest
    · exact ⟨f, List.mem_cons_self, same⟩
    · obtain ⟨g, among, same⟩ := ih rest
      exact ⟨g, List.mem_cons_of_mem f among, same⟩

variable [LawfulStore σ]

/-- Staging changes places of the staged files. -/
theorem frame (stages : Stages directory files s paths result s') :
    FileTree.Frame (StagedAt (tree s) directory files) (tree s) (tree s') := by
  induction stages with
  | nil => exact .refl _ _
  | refused ran =>
    exact (frame_write ran).mono fun place located => ⟨_, List.mem_cons_self, located⟩
  | @done f _ _ _ s _ _ ran _ ih =>
    have first := frame_write ran
    refine (first.mono fun place located => ?_).trans (ih.mono ?_)
    · exact ⟨f, List.mem_cons_self, located⟩
    · rintro place ⟨g, member, located⟩
      exact ⟨g, List.mem_cons_of_mem f member, first.locate_eq_ok_iff.1 located⟩

/-- A file that has been written is staged. -/
theorem isStagedIn_of_write
    (ran : (FileSystem.write (stagedPath directory f.1) f.2 : StateM σ _).run s = (.ok (), s₁)) :
    IsStagedIn (tree s₁) directory f := by
  obtain ⟨place, located, free, made⟩ :=
    FileTree.writeItem_eq_ok_iff.1 (LawfulStore.write_done ran)
  have inside : place ≠ [] := by
    rintro rfl
    exact free rfl
  refine FileTree.read_eq_ok_iff.2 ⟨place, (frame_write ran).locate_eq_ok_iff.2 located, ?_⟩
  rw [made, FileTree.item?_put _ _ _ _ inside, if_pos rfl]

/-- When no step is refused, all files are staged. -/
theorem staged (stages : Stages directory files s paths (.ok ()) s')
    (installable : Installable files) : ∀ f ∈ files, IsStagedIn (tree s') directory f := by
  -- The result is a variable for the induction, so that a refused step is a case to be closed.
  generalize same : (Except.ok () : Except FileFault Unit) = result at stages
  induction stages with
  | nil => simp
  | refused => cases same
  | @done f _ _ _ _ _ _ ran rest ih =>
    intro g member
    rcases List.mem_cons.1 member with rfl | inside
    · -- What is staged after this file lies elsewhere.
      refine read_of_frame rest.frame ?_ (isStagedIn_of_write ran)
      rintro place here ⟨other, among, there⟩
      exact stagedPath_apart (installable.ne among) here there
    · exact ih installable.tail same g inside

end Stages

/-! ### Moving into place -/

/-- Staged files are moved to where they belong, one after the other, until a step is refused. -/
inductive Moves (directory : Path) :
    List (String × String) → σ → List (String × String) → Except FileFault Unit → σ → Prop
  | nil {s : σ} : Moves directory [] s [] (.ok ()) s
  | refused {f : String × String} {files : List (String × String)} {fault : FileFault} {s s₁ : σ}
      (ran : (FileSystem.move (stagedPath directory f.1) (directory.child f.1) : StateM σ _).run s =
        (.error fault, s₁)) :
      Moves directory (f :: files) s [] (.error fault) s₁
  | done {f : String × String} {files placed : List (String × String)}
      {result : Except FileFault Unit} {s s₁ s' : σ}
      (ran : (FileSystem.move (stagedPath directory f.1) (directory.child f.1) : StateM σ _).run s =
        (.ok (), s₁))
      (rest : Moves directory files s₁ placed result s') :
      Moves directory (f :: files) s (f :: placed) result s'

/-- Moving goes on in this way. -/
theorem moves_run (directory : Path) (files : List (String × String)) (s : σ) :
    Moves directory files s ((moved directory files : StateM σ _).run s).1
      ((publish directory (files.map Prod.fst) : StateM σ _).run s).1
      ((publish directory (files.map Prod.fst) : StateM σ _).run s).2 := by
  induction files generalizing s with
  | nil => exact .nil
  | cons f files ih =>
    rw [List.map_cons, moved, publish, StateT.run_bind, StateT.run_bind]
    cases ran : (FileSystem.move (stagedPath directory f.1) (directory.child f.1) :
        StateM σ _).run s with
    | mk result s₁ =>
      cases result with
      | error fault => exact .refused ran
      | ok => exact .done ran (ih s₁)

namespace Moves

theorem subset (moves : Moves directory files s placed result s') : placed ⊆ files := by
  induction moves with
  | nil => exact List.Subset.refl []
  | refused => exact List.nil_subset _
  | done _ _ ih => exact List.cons_subset_cons _ ih

/-- All files are moved when no step is refused, and only then. -/
theorem placed_eq_iff (moves : Moves directory files s placed result s') :
    placed = files ↔ result = .ok () := by
  induction moves with
  | nil => simp
  | refused => simp
  | done _ _ ih => simp [ih]

variable [LawfulStore σ]

/-- Moving files changes the places of the staged ones and those that are moved to. -/
theorem frame (moves : Moves directory files s placed result s') :
    FileTree.Frame (fun place => StagedAt (tree s) directory files place ∨
      PlacedAt (tree s) directory placed place) (tree s) (tree s') := by
  induction moves with
  | nil => exact .refl _ _
  | refused ran =>
    rw [LawfulStore.move_refused ran]
    exact .refl _ _
  | @done f _ _ _ s _ _ ran _ ih =>
    have first := frame_move ran
    refine (first.mono ?_).trans (ih.mono ?_)
    · rintro place (located | reached)
      · exact .inl ⟨f, List.mem_cons_self, located⟩
      · exact .inr ⟨f, List.mem_cons_self, reached⟩
    · rintro place (⟨g, member, located⟩ | ⟨g, member, reached⟩)
      · exact .inl ⟨g, List.mem_cons_of_mem f member, first.locate_eq_ok_iff.1 located⟩
      · exact .inr ⟨g, List.mem_cons_of_mem f member, first.locate_eq_ok_iff.1 reached⟩

/-- When a file has been moved, the others are still staged. -/
theorem staged_of_move (installable : Installable (f :: files))
    (staged : ∀ g ∈ f :: files, IsStagedIn (tree s) directory g)
    (ran : (FileSystem.move (stagedPath directory f.1) (directory.child f.1) : StateM σ _).run s =
      (.ok (), s₁)) : ∀ g ∈ files, IsStagedIn (tree s₁) directory g := by
  intro g among
  refine read_of_frame (frame_move ran) ?_ (staged g (List.mem_cons_of_mem f among))
  rintro place here (there | reached)
  · exact stagedPath_apart (installable.ne among) there here
  · exact not_isStaged_of_locate reached (installable.down f List.mem_cons_self)
      (installable.plain f List.mem_cons_self) (isStaged_of_locate here)

/-- A staged file that has been moved can be read where it belongs. -/
theorem read_of_move (staged : IsStagedIn (tree s) directory f)
    (ran : (FileSystem.move (stagedPath directory f.1) (directory.child f.1) : StateM σ _).run s =
      (.ok (), s₁)) : (tree s₁).read (directory.child f.1) = .ok (some f.2) := by
  obtain ⟨place, goal, text, located, reached, present, free, made⟩ :=
    FileTree.move_eq_ok_iff.1 (LawfulStore.move_done ran)
  obtain ⟨_, sameLocated, written⟩ := FileTree.read_eq_ok_iff.1 staged
  cases located.symm.trans sameLocated
  cases present.symm.trans written
  have inside : goal ≠ [] := by
    rintro rfl
    exact free rfl
  refine FileTree.read_eq_ok_iff.2 ⟨goal, (frame_move ran).locate_eq_ok_iff.2 reached, ?_⟩
  rw [made, FileTree.item?_put _ _ _ _ inside, if_pos rfl]

/-- What has been moved into place is there in the end. -/
theorem read (moves : Moves directory files s placed result s') (installable : Installable files)
    (staged : ∀ f ∈ files, IsStagedIn (tree s) directory f) (member : g ∈ placed) :
    (tree s').read (directory.child g.1) = .ok (some g.2) := by
  induction moves with
  | nil => cases member
  | refused => cases member
  | @done f _ _ _ _ _ _ ran rest ih =>
    rcases List.mem_cons.1 member with rfl | inside
    · have down := installable.down g List.mem_cons_self
      refine read_of_frame rest.frame ?_ (read_of_move (staged g List.mem_cons_self) ran)
      -- The files that are moved after this one neither come from its place nor go there.
      rintro other here (⟨h, _, there⟩ | ⟨h, among, there⟩)
      · exact not_isStaged_of_locate here down (installable.plain g List.mem_cons_self)
          (isStaged_of_locate there)
      · have follows := rest.subset among
        exact FileTree.ne_of_locate_child here there down
          (installable.down h (List.mem_cons_of_mem g follows)) (installable.ne follows) rfl
    · exact ih installable.tail (staged_of_move installable staged ran) inside

end Moves

/-! ### Taking staged files away -/

section Discard

variable [LawfulStore σ]

/-- Taking files away changes their places. -/
theorem frame_discard (paths : List Path) (s : σ) :
    FileTree.Frame (fun place => ∃ path ∈ paths, At (tree s) path place) (tree s)
      (tree ((discard paths : StateM σ _).run s).2) := by
  induction paths generalizing s with
  | nil => exact .refl _ _
  | cons path paths ih =>
    cases ran : (FileSystem.remove path : StateM σ _).run s with
    | mk result s₁ =>
      have first := frame_remove ran
      have own := first.mono fun place located =>
        (⟨path, List.mem_cons_self, located⟩ : ∃ p ∈ path :: paths, At (tree s) p place)
      rw [discard, StateT.run_bind, ran]
      cases result with
      | error fault => exact own
      | ok =>
        refine own.trans ((ih s₁).mono ?_)
        rintro place ⟨p, member, located⟩
        exact ⟨p, List.mem_cons_of_mem path member, first.locate_eq_ok_iff.1 located⟩

/-- Taking staged files away changes places of staged files. -/
theorem Stages.frame_discard (stages : Stages directory files s paths result s') (s₁ : σ) :
    FileTree.Frame IsStaged (tree s₁) (tree ((discard paths : StateM σ _).run s₁).2) := by
  refine (Supergraph.frame_discard paths s₁).mono ?_
  rintro place ⟨path, member, here⟩
  obtain ⟨f, _, rfl⟩ := stages.mem_paths member
  exact isStaged_of_locate here

end Discard

/-! ### The passes together -/

/-- Files are installed in a directory: the files that are in place in the end, what installing ends
with, and the store then. -/
inductive Installs (directory : Path) (files : List (String × String)) (s : σ) :
    List (String × String) → Except InstallFault (List Path) → σ → Prop
  | unstaged {paths : List Path} {fault : FileFault} {cause : InstallFault} {s₁ : σ}
      (stages : Stages directory files s paths (.error fault) s₁) :
      Installs directory files s [] (.error cause) ((discard paths : StateM σ _).run s₁).2
  | unmoved {paths : List Path} {placed : List (String × String)} {fault : FileFault}
      {cause : InstallFault} {s₁ s₂ : σ}
      (stages : Stages directory files s paths (.ok ()) s₁)
      (moves : Moves directory files s₁ placed (.error fault) s₂) :
      Installs directory files s placed (.error cause) ((discard paths : StateM σ _).run s₂).2
  | done {paths : List Path} {s₁ s' : σ} (stages : Stages directory files s paths (.ok ()) s₁)
      (moves : Moves directory files s₁ files (.ok ()) s') :
      Installs directory files s files (.ok ((files.map Prod.fst).map directory.child)) s'

/-- A refused step ends installing, once the staged files have been taken away or that was refused
too. -/
theorem run_settle_of_refused (directory : Path) (files : List (String × String))
    (paths : List Path) (fault : FileFault) (s : σ) :
    ∃ cause, (settle directory files paths (.error fault) : StateM σ _).run s =
      (.error cause, ((discard paths : StateM σ _).run s).2) := by
  rw [settle, StateT.run_bind]
  cases (discard paths : StateM σ _).run s with
  | mk result s₁ => cases result <;> exact ⟨_, rfl⟩

/-- Installing goes on in this way. -/
theorem installs_run (directory : Path) (files : List (String × String)) (s : σ) :
    Installs directory files s ((installed directory files : StateM σ _).run s).1
      ((install directory files : StateM σ _).run s).1
      ((install directory files : StateM σ _).run s).2 := by
  have stages := stages_run directory files s
  rw [install_eq, installed, StateT.run_bind, StateT.run_bind]
  cases staging : (stage directory files : StateM σ _).run s with
  | mk outcome s₁ =>
    obtain ⟨paths, written⟩ := outcome
    rw [staging] at stages
    cases written with
    | error fault =>
      obtain ⟨cause, settled⟩ := run_settle_of_refused directory files paths fault s₁
      change Installs directory files s [] ((settle directory files paths _ : StateM σ _).run s₁).1
        ((settle directory files paths _ : StateM σ _).run s₁).2
      rw [settled]
      exact .unstaged stages
    | ok =>
      have moves := moves_run directory files s₁
      change Installs directory files s ((moved directory files : StateM σ _).run s₁).1
        ((publish directory (files.map Prod.fst) >>= settle directory files paths :
          StateM σ _).run s₁).1
        ((publish directory (files.map Prod.fst) >>= settle directory files paths :
          StateM σ _).run s₁).2
      rw [StateT.run_bind]
      cases moving : (publish directory (files.map Prod.fst) : StateM σ _).run s₁ with
      | mk result s₂ =>
        rw [moving] at moves
        cases result with
        | error fault =>
          obtain ⟨cause, settled⟩ := run_settle_of_refused directory files paths fault s₂
          change Installs directory files s _
            ((settle directory files paths (.error fault) : StateM σ _).run s₂).1
            ((settle directory files paths (.error fault) : StateM σ _).run s₂).2
          rw [settled]
          exact .unmoved stages moves
        | ok =>
          have all := moves.placed_eq_iff.2 rfl
          rw [all] at moves ⊢
          exact .done stages moves

namespace Installs

variable {ended : Except InstallFault (List Path)}

theorem subset (installs : Installs directory files s placed ended s') : placed ⊆ files := by
  cases installs with
  | unstaged => exact List.nil_subset _
  | unmoved _ moves => exact moves.subset
  | done => exact List.Subset.refl _

/-- When files have been installed, all of them are in place. -/
theorem placed_eq (installs : Installs directory files s placed (.ok paths) s') :
    placed = files ∧ paths = (files.map Prod.fst).map directory.child := by
  cases installs
  exact ⟨rfl, rfl⟩

variable [LawfulStore σ]

theorem frame_stages (stages : Stages directory files s paths result s₁) :
    FileTree.Frame IsStaged (tree s) (tree s₁) := by
  refine stages.frame.mono ?_
  rintro place ⟨f, _, here⟩
  exact isStaged_of_locate here

/-- What staging and moving change together. -/
theorem frame_moves (stages : Stages directory files s paths (.ok ()) s₁)
    (moves : Moves directory files s₁ placed result s₂) :
    FileTree.Frame (fun place => IsStaged place ∨ PlacedAt (tree s) directory placed place)
      (tree s) (tree s₂) := by
  have first := frame_stages stages
  refine (first.mono fun _ staged => .inl staged).trans (moves.frame.mono ?_)
  rintro place (⟨f, _, here⟩ | ⟨g, among, here⟩)
  · exact .inl (isStaged_of_locate here)
  · exact .inr ⟨g, among, first.locate_eq_ok_iff.1 here⟩

/-- Installing files changes the places of staged files and of the files that are in place in the
end. -/
theorem frame (installs : Installs directory files s placed ended s') :
    FileTree.Frame (fun place => IsStaged place ∨ PlacedAt (tree s) directory placed place)
      (tree s) (tree s') := by
  cases installs with
  | unstaged stages =>
    refine ((frame_stages stages).trans (stages.frame_discard _)).mono ?_
    exact fun _ staged => .inl staged
  | unmoved stages moves =>
    refine (frame_moves stages moves).trans ((stages.frame_discard _).mono ?_)
    exact fun _ staged => .inl staged
  | done stages moves => exact frame_moves stages moves

/-- The files that are in place in the end hold their texts. -/
theorem read (installs : Installs directory files s placed ended s')
    (installable : Installable files) (member : g ∈ placed) :
    (tree s').read (directory.child g.1) = .ok (some g.2) := by
  cases installs with
  | unstaged => cases member
  | unmoved stages moves =>
    have inPlace := moves.read installable (stages.staged installable) member
    refine read_of_frame (stages.frame_discard _) ?_ inPlace
    exact fun place here => not_isStaged_of_locate here
      (installable.down g (moves.subset member)) (installable.plain g (moves.subset member))
  | done stages moves => exact moves.read installable (stages.staged installable) member

end Installs

end Supergraph
