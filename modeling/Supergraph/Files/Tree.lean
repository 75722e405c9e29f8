import Supergraph.Files.System

/-!
# Trees of files

A tree says what lies at each place. A path is followed name by name from the root or from the
directory one works in; every place on the way must be a directory, and the last name may be free.
There are no links in a tree, and no permissions: files may be put into every directory.

## Main definitions

* `FileTree` — the trees, with `FileTree.item?`, `FileTree.put` and `FileTree.erase`
* `FileTree.locate` — the place a path leads to
* `FileTree.write`, `FileTree.move`, `FileTree.remove`, `FileTree.makeDirectory` — steps of work

## Main results

* `FileTree.item?_put`, `FileTree.item?_erase` — putting and erasing change one place
* `FileTree.follow_append` — a path is followed one part after the other
-/

namespace Supergraph

/-- Where something lies: its name and the names of the directories around it, the innermost
first. -/
abbrev Place := List String

/-- What lies at a place. A file without a text holds something else. -/
inductive Item where
  | directory
  | file (text : Option String)
  deriving DecidableEq, Repr

/-- The kind of an item. -/
def Item.kind : Item → FileKind
  | directory => .directory
  | file _ => .file

/-- What lies where, and the directory one works in. The root is a directory that is not listed. -/
structure FileTree where
  items : List (Place × Item)
  home : Place
  deriving Inhabited

namespace FileTree

/-! ### Items -/

/-- What lies at a place. -/
def item? (t : FileTree) (place : Place) : Option Item :=
  if place = [] then some .directory else t.items.lookup place

/-- The tree without what lies at a place. -/
def erase (t : FileTree) (place : Place) : FileTree :=
  { t with items := t.items.filter (·.1 != place) }

/-- The tree with an item at a place. -/
def put (t : FileTree) (place : Place) (item : Item) : FileTree :=
  { t with items := (place, item) :: (t.erase place).items }

theorem lookup_filter_ne (items : List (Place × Item)) (place other : Place) :
    (items.filter (·.1 != place)).lookup other =
      if other = place then none else items.lookup other := by
  induction items with
  | nil => simp
  | cons entry rest ih =>
    obtain ⟨spot, item⟩ := entry
    by_cases here : spot = place
    · subst here
      rw [List.filter_cons_of_neg (by simp), ih]
      by_cases same : other = spot
      · simp [same]
      · simp [same, List.lookup_cons, beq_eq_false_iff_ne.2 same]
    · rw [List.filter_cons_of_pos (by simpa using here), List.lookup_cons, List.lookup_cons, ih]
      by_cases found : other = spot
      · subst found
        simp [here]
      · simp [beq_eq_false_iff_ne.2 found]

/-- Erasing changes one place. -/
theorem item?_erase (t : FileTree) (place other : Place) (inside : place ≠ []) :
    (t.erase place).item? other = if other = place then none else t.item? other := by
  by_cases top : other = []
  · subst top
    simp [item?, Ne.symm inside]
  · simp [item?, erase, top, lookup_filter_ne]

/-- Putting changes one place. -/
theorem item?_put (t : FileTree) (place other : Place) (item : Item) (inside : place ≠ []) :
    (t.put place item).item? other = if other = place then some item else t.item? other := by
  by_cases top : other = []
  · subst top
    simp [item?, Ne.symm inside]
  · by_cases same : other = place
    · subst same
      simp [item?, put, top]
    · simp [item?, put, erase, top, same, List.lookup_cons, beq_eq_false_iff_ne.2 same,
        lookup_filter_ne]

/-! ### Following paths -/

/-- The greatest size of a name in bytes. -/
def maxNameSize : Nat := 255

/-- The greatest size of a path in bytes. -/
def maxPathSize : Nat := 4095

/-- The place that names lead to from a place. -/
def follow (t : FileTree) (place : Place) : List String → Except FileCause Place
  | [] => .ok place
  | name :: names =>
    match t.item? place with
    | none => .error .notFound
    | some (.file _) => .error .notDirectory
    | some .directory =>
      if name = ".." then t.follow place.tail names
      else if maxNameSize < name.utf8ByteSize then .error .nameTooLong
      else t.follow (name :: place) names

/-- Names are followed one part after the other. -/
theorem follow_append (t : FileTree) (place : Place) (names more : List String) :
    t.follow place (names ++ more) = (t.follow place names).bind (t.follow · more) := by
  induction names generalizing place with
  | nil => rfl
  | cons name rest ih =>
    simp only [List.cons_append, follow]
    split
    · rfl
    · rfl
    · split
      · exact ih place.tail
      · split
        · rfl
        · exact ih (name :: place)

/-- A name in a directory leads to the place of that name. -/
theorem follow_singleton {t : FileTree} {place : Place} {name : String}
    (directory : t.item? place = some .directory) (down : name ≠ "..")
    (short : name.utf8ByteSize ≤ maxNameSize) : t.follow place [name] = .ok (name :: place) := by
  simp [follow, directory, down, Nat.not_lt.2 short]

/-- Where a path begins. -/
def start (t : FileTree) (path : Path) : Place :=
  if path.slashes = 0 then t.home else []

/-- What is wrong with the text of a path. -/
def pathCause? (path : Path) : Option FileCause :=
  if path.text.toList.contains '\x00' then some .nullInPath
  else if maxPathSize < path.text.utf8ByteSize then some .nameTooLong
  else none

/-- The place that a path leads to. -/
def locate (t : FileTree) (path : Path) : Except FileCause Place :=
  match pathCause? path with
  | some cause => .error cause
  | none => t.follow (t.start path) path.names

/-! ### Looking -/

/-- What lies at a path. A path that leads nowhere is no fault, but one that is too long is. -/
def kindOf (t : FileTree) (path : Path) : Except FileFault (Option FileKind) :=
  match t.locate path with
  | .ok place => .ok ((t.item? place).map Item.kind)
  -- Nothing lies at a path that leads nowhere, but a name that is too long is refused.
  | .error .nameTooLong => .error ⟨.nameTooLong, path, none⟩
  | .error _ => .ok none

/-- The text of the file at a path. -/
def read (t : FileTree) (path : Path) : Except FileFault (Option String) := do
  let place ← (t.locate path).mapError (⟨·, path, none⟩)
  match t.item? place with
  | none => throw ⟨.notFound, path, none⟩
  | some .directory => throw ⟨.isDirectory, path, none⟩
  | some (.file text) => return text

/-- The names of what lies in the directory at a path. -/
def list (t : FileTree) (path : Path) : Except FileFault (List (String × FileKind)) := do
  let place ← (t.locate path).mapError (⟨·, path, none⟩)
  match t.item? place with
  | none => throw ⟨.notFound, path, none⟩
  | some (.file _) => throw ⟨.notDirectory, path, none⟩
  | some .directory =>
    return t.items.filterMap fun (spot, item) =>
      match spot with
      | [] => none
      | name :: around => if around = place then some (name, item.kind) else none

/-! ### Changing -/

/-- The tree with a file at a path. -/
def writeItem (t : FileTree) (path : Path) (text : Option String) : Except FileFault FileTree := do
  let place ← (t.locate path).mapError (⟨·, path, none⟩)
  match t.item? place with
  | some .directory => throw ⟨.isDirectory, path, none⟩
  | _ => return t.put place (.file text)

/-- The tree with a text at a path. -/
def write (t : FileTree) (path : Path) (text : String) : Except FileFault FileTree :=
  t.writeItem path (some text)

/-- The tree with a file moved to another path. -/
def move (t : FileTree) (path target : Path) : Except FileFault FileTree := do
  let place ← (t.locate path).mapError (⟨·, path, some target⟩)
  let goal ← (t.locate target).mapError (⟨·, path, some target⟩)
  match t.item? place, t.item? goal with
  | none, _ => throw ⟨.notFound, path, some target⟩
  | some .directory, _ | _, some .directory => throw ⟨.isDirectory, path, some target⟩
  | some (.file text), _ => return (t.erase place).put goal (.file text)

/-- The tree without the file at a path. -/
def remove (t : FileTree) (path : Path) : Except FileFault FileTree :=
  match t.locate path with
  | .error .notFound => .ok t
  | .error cause => .error ⟨cause, path, none⟩
  | .ok place =>
    match t.item? place with
    | none => .ok t
    | some .directory => .error ⟨.isDirectory, path, none⟩
    | some (.file _) => .ok (t.erase place)

/-- The tree with directories at all places that names lead through from a place. -/
def makeWay (t : FileTree) (place : Place) : List String → Except FileCause FileTree
  | [] =>
    match t.item? place with
    | none => .ok (t.put place .directory)
    | some .directory => .ok t
    | some (.file _) => .error .alreadyThere
  | name :: names => do
    let t ← match t.item? place with
      | none => .ok (t.put place .directory)
      | some .directory => .ok t
      | some (.file _) => .error .notDirectory
    -- The place above lies on the way already, so nothing is made for it.
    if name = ".." then t.makeWay place.tail names
    else if maxNameSize < name.utf8ByteSize then .error .nameTooLong
    else t.makeWay (name :: place) names

/-- The tree with a directory at a path, and with those it lies in. -/
def makeDirectory (t : FileTree) (path : Path) : Except FileFault FileTree :=
  match pathCause? path with
  | some cause => .error ⟨cause, path, none⟩
  | none => (t.makeWay (t.start path) path.names).mapError (⟨·, path, none⟩)

end FileTree

/-- A step that changes the tree, or leaves it as it is and is refused. -/
def updateTree (step : FileTree → Except FileFault FileTree) :
    StateM FileTree (Except FileFault Unit) := fun t =>
  match step t with
  | .ok t' => (.ok (), t')
  | .error fault => (.error fault, t)

instance : FileSystem (StateM FileTree) where
  homeName := fun t => (t.home.head?.getD "", t)
  kindOf path := fun t => (t.kindOf path, t)
  mayWrite _ := fun t => (true, t)
  read path := fun t => (t.read path, t)
  write path text := updateTree (·.write path text)
  move path target := updateTree (·.move path target)
  remove path := updateTree (·.remove path)
  makeDirectory path := updateTree (·.makeDirectory path)

end Supergraph
