import Mathlib.Data.List.Forall2
import Supergraph.Plan.Traced

/-!
# Laws of results with events

A step that succeeds is made of steps that succeed, and its warnings are theirs, one after the
other. The same holds of a list of steps.

## Main results

* `Traced.result_bind`, `Traced.bind_eq_ok_iff`, `Traced.warnings_bind` — one step after the other
* `Traced.mapM_eq_ok_iff`, `Traced.warnings_mapM` — a list of steps
* `Traced.bind_eq_error_iff`, `Traced.mapM_eq_error_iff` — where steps fail
* `Traced.warnings_mapM_of_first_error` — what a list of steps has warned of when it fails
* `bind_except_eq_ok_iff`, `bind_except_eq_error_iff`, `mapM_except_eq_ok_iff`,
  `mapM_except_eq_error_iff` — the same of steps without events
* `exists_forall₂_iff` — a list has a partner when its items have
* `forall₂_filterMap_iff`, `forall₂_map_iff` — the partner of a list by a function
-/

namespace Supergraph

section Forall₂

variable {α β : Type} {R : α → β → Prop} {xs : List α} {ys : List β}

theorem exists_right_of_forall₂ (paired : List.Forall₂ R xs ys) {x : α} (member : x ∈ xs) :
    ∃ y ∈ ys, R x y := by
  induction paired with
  | nil => cases member
  | cons related _ ih =>
    rcases List.mem_cons.1 member with rfl | inside
    · exact ⟨_, List.mem_cons_self, related⟩
    · obtain ⟨y, found, related⟩ := ih inside
      exact ⟨y, List.mem_cons_of_mem _ found, related⟩

theorem exists_left_of_forall₂ (paired : List.Forall₂ R xs ys) {y : β} (member : y ∈ ys) :
    ∃ x ∈ xs, R x y :=
  exists_right_of_forall₂ (R := flip R) paired.flip member

/-- A list has a partner when each of its items has one. -/
theorem exists_forall₂_iff : (∃ ys, List.Forall₂ R xs ys) ↔ ∀ x ∈ xs, ∃ y, R x y := by
  constructor
  · rintro ⟨ys, paired⟩ x member
    obtain ⟨y, _, related⟩ := exists_right_of_forall₂ paired member
    exact ⟨y, related⟩
  · intro each
    induction xs with
    | nil => exact ⟨[], .nil⟩
    | cons x xs ih =>
      obtain ⟨⟨y, related⟩, others⟩ := List.forall_mem_cons.1 each
      obtain ⟨ys, paired⟩ := ih others
      exact ⟨y :: ys, .cons related paired⟩

/-- What a partial function gives of a list, item by item, is what it gives of the list. -/
theorem forall₂_filterMap_iff {f : α → Option β} :
    List.Forall₂ (fun x y => f x = some y ∧ R x y) xs ys ↔
      (∀ x ∈ xs, ∃ y, f x = some y ∧ R x y) ∧ ys = xs.filterMap f := by
  induction xs generalizing ys with
  | nil => simp
  | cons x xs ih =>
    rw [List.forall₂_cons_left_iff, List.forall_mem_cons]
    constructor
    · rintro ⟨y, rest, ⟨first, related⟩, others, rfl⟩
      obtain ⟨each, rfl⟩ := ih.1 others
      exact ⟨⟨⟨y, first, related⟩, each⟩, (List.filterMap_cons_some first).symm⟩
    · rintro ⟨⟨⟨y, first, related⟩, each⟩, rfl⟩
      rw [List.filterMap_cons_some first]
      exact ⟨y, _, ⟨first, related⟩, ih.2 ⟨each, rfl⟩, rfl⟩

theorem forall₂_map_iff {f : α → β} {P : α → Prop} :
    List.Forall₂ (fun x y => P x ∧ y = f x) xs ys ↔ (∀ x ∈ xs, P x) ∧ ys = xs.map f := by
  have total := @forall₂_filterMap_iff _ _ (fun x _ => P x) xs ys (some ∘ f)
  simpa [List.filterMap_eq_map, eq_comm, and_comm] using total

/-- Partners that agree under two functions have the same images. -/
theorem map_eq_map_of_forall₂ {γ : Type} {f : α → γ} {g : β → γ}
    (paired : List.Forall₂ (fun x y => f x = g y) xs ys) : xs.map f = ys.map g := by
  rwa [← List.forall₂_eq_eq_eq, List.forall₂_map_left_iff, List.forall₂_map_right_iff]

end Forall₂

/-- One result after the other succeeds when both do. -/
theorem bind_except_eq_ok_iff {ε α β : Type} {x : Except ε α} {next : α → Except ε β} {b : β} :
    x >>= next = .ok b ↔ ∃ a, x = .ok a ∧ next a = .ok b := by
  cases x <;> simp [bind, Except.bind]

/-- One result after the other fails when the first does, or the second after it. -/
theorem bind_except_eq_error_iff {ε α β : Type} {x : Except ε α} {next : α → Except ε β} {e : ε} :
    x >>= next = .error e ↔ x = .error e ∨ ∃ a, x = .ok a ∧ next a = .error e := by
  cases x <;> simp [bind, Except.bind]

theorem map_except_eq_ok_iff {ε α β : Type} {f : α → β} {x : Except ε α} {b : β} :
    x.map f = .ok b ↔ ∃ a, x = .ok a ∧ f a = b := by
  cases x <;> simp [Except.map]

theorem map_mapError_except {ε ε' α β : Type} {f : ε → ε'} {g : α → β} {x : Except ε α} :
    (x.mapError f).map g = (x.map g).mapError f := by
  cases x <;> rfl

theorem mapError_eq_ok_iff {ε ε' α : Type} {f : ε → ε'} {x : Except ε α} {a : α} :
    x.mapError f = .ok a ↔ x = .ok a := by
  cases x <;> simp [Except.mapError]

theorem mapError_eq_error_iff {ε ε' α : Type} {f : ε → ε'} {x : Except ε α} {e : ε'} :
    x.mapError f = .error e ↔ ∃ cause, x = .error cause ∧ f cause = e := by
  cases x <;> simp [Except.mapError]

/-- A result is a failure when it is no success. -/
theorem exists_error_iff {ε α : Type} {x : Except ε α} :
    (∃ e, x = .error e) ↔ ¬∃ a, x = .ok a := by
  cases x <;> simp

theorem toOption_eq_some_iff {ε α : Type} {x : Except ε α} {a : α} :
    x.toOption = some a ↔ x = .ok a := by
  cases x <;> simp [Except.toOption]

/-- A list of results succeeds when all of them do. -/
theorem mapM_except_eq_ok_iff {ε α β : Type} {f : α → Except ε β} {xs : List α} {ys : List β} :
    xs.mapM f = .ok ys ↔ List.Forall₂ (fun x y => f x = .ok y) xs ys := by
  induction xs generalizing ys with
  | nil =>
    rw [List.mapM_nil, List.forall₂_nil_left_iff]
    exact ⟨fun made => (Except.ok.inj made).symm, fun same => same ▸ rfl⟩
  | cons x xs ih =>
    rw [List.mapM_cons, bind_except_eq_ok_iff, List.forall₂_cons_left_iff]
    constructor
    · rintro ⟨y, first, others⟩
      obtain ⟨rest, made, last⟩ := bind_except_eq_ok_iff.1 others
      exact ⟨y, rest, first, ih.1 made, (Except.ok.inj last).symm⟩
    · rintro ⟨y, rest, first, others, rfl⟩
      exact ⟨y, first, bind_except_eq_ok_iff.2 ⟨rest, ih.2 others, rfl⟩⟩

/-- A list of results fails as the first of them that fails. -/
theorem mapM_except_eq_error_iff {ε α β : Type} {f : α → Except ε β} {xs : List α} {e : ε} :
    xs.mapM f = .error e ↔ ∃ before x after, xs = before ++ x :: after ∧
      (∀ y ∈ before, ∃ b, f y = .ok b) ∧ f x = .error e := by
  induction xs with
  | nil => simp [pure, Except.pure]
  | cons x xs ih =>
    rw [List.mapM_cons, bind_except_eq_error_iff]
    simp only [bind_except_eq_error_iff, ih]
    constructor
    · rintro (here | ⟨b, made, ⟨before, y, after, rfl, done, failed⟩ | ⟨_, _, never⟩⟩)
      · exact ⟨[], x, xs, rfl, by simp, here⟩
      · exact ⟨x :: before, y, after, rfl, List.forall_mem_cons.2 ⟨⟨b, made⟩, done⟩, failed⟩
      · cases never
    · rintro ⟨before, y, after, listed, done, failed⟩
      cases before with
      | nil =>
        cases listed
        exact .inl failed
      | cons first before =>
        cases listed
        obtain ⟨⟨b, made⟩, done⟩ := List.forall_mem_cons.1 done
        exact .inr ⟨b, made, .inl ⟨before, y, after, rfl, done, failed⟩⟩

namespace Traced

section Bind

variable {α β : Type} {x : Traced α} {next : α → Traced β} {a : α} {b : β}

theorem bind_eq_of_ok (made : x.result = .ok a) :
    x >>= next = ⟨x.events ++ (next a).events, (next a).result⟩ := by
  change andThen x next = _
  rw [andThen, made]

theorem bind_eq_of_error {e : Failure} (failed : x.result = .error e) :
    x >>= next = ⟨x.events, .error e⟩ := by
  change andThen x next = _
  rw [andThen, failed]

/-- What one step after the other ends with is told by what each ends with. -/
theorem result_bind (x : Traced α) (next : α → Traced β) :
    (x >>= next).result = x.result >>= fun a => (next a).result := by
  cases made : x.result with
  | ok a =>
    rw [bind_eq_of_ok made]
    rfl
  | error e =>
    rw [bind_eq_of_error made]
    rfl

/-- One step after the other succeeds when both do. -/
theorem bind_eq_ok_iff :
    (x >>= next).result = .ok b ↔ ∃ a, x.result = .ok a ∧ (next a).result = .ok b := by
  cases made : x.result with
  | ok a => simp [bind_eq_of_ok made]
  | error e => simp [bind_eq_of_error made]

theorem warningsIn_append (before after : List Event) :
    warningsIn (before ++ after) = warningsIn before ++ warningsIn after :=
  List.filterMap_append

/-- The warnings of two steps are those of the first and then those of the second. -/
theorem warnings_bind (made : x.result = .ok a) :
    (x >>= next).warnings = x.warnings ++ (next a).warnings := by
  rw [bind_eq_of_ok made]
  exact warningsIn_append _ _

/-- One step after the other fails when the first does, or the second after it. -/
theorem bind_eq_error_iff {e : Failure} :
    (x >>= next).result = .error e ↔
      x.result = .error e ∨ ∃ a, x.result = .ok a ∧ (next a).result = .error e := by
  cases made : x.result with
  | ok a => simp [bind_eq_of_ok made]
  | error e => simp [bind_eq_of_error made]

/-- After a failure nothing is warned of. -/
theorem warnings_bind_of_error {e : Failure} (failed : x.result = .error e) :
    (x >>= next).warnings = x.warnings := by
  rw [bind_eq_of_error failed]
  rfl

/-- Steps that warn of nothing warn of nothing together, whether or not they succeed. -/
theorem warnings_bind_eq_nil (first : x.warnings = []) (second : ∀ a, (next a).warnings = []) :
    (x >>= next).warnings = [] := by
  cases made : x.result with
  | ok a => rw [warnings_bind made, first, second, List.append_nil]
  | error e =>
    rw [bind_eq_of_error made]
    exact first

end Bind

instance : LawfulMonad Traced := LawfulMonad.mk' Traced
  (fun {_} x => by
    obtain ⟨events, result⟩ := x
    cases result with
    | ok a => exact congrArg (Traced.mk · (.ok a)) (List.append_nil events)
    | error e => rfl)
  (fun _ _ => rfl)
  (fun x f g => by
    obtain ⟨events, result⟩ := x
    cases result with
    | error e => rfl
    | ok a =>
      rw [bind_eq_of_ok (a := a) rfl, bind_eq_of_ok (a := a) rfl]
      cases second : (f a).result with
      | error e => rw [bind_eq_of_error rfl, bind_eq_of_error second]
      | ok b => rw [bind_eq_of_ok rfl, bind_eq_of_ok second, List.append_assoc])

/-! ### Steps without events -/

section Single

variable {α ε : Type}

@[simp] theorem result_pure (a : α) : (pure a : Traced α).result = .ok a := rfl

@[simp] theorem warnings_pure (a : α) : (pure a : Traced α).warnings = [] := rfl

@[simp] theorem result_check_eq_ok_iff {cause : ε → Failure} {x : Except ε α} {a : α} :
    (check cause x).result = .ok a ↔ x = .ok a :=
  mapError_eq_ok_iff

theorem result_check_id (x : Except Failure α) : (check id x).result = x := by
  cases x with
  | ok a => rfl
  | error e => rfl

@[simp] theorem result_check_id_eq_error_iff {x : Except Failure α} {e : Failure} :
    (check id x).result = .error e ↔ x = .error e := by
  cases x <;> simp [check, Except.mapError]

end Single

/-! ### Lists of steps -/

section List

variable {α β : Type} {f : α → Traced β}

/-- A list of steps succeeds when all of them do. -/
theorem mapM_eq_ok_iff {xs : List α} {ys : List β} :
    (xs.mapM f).result = .ok ys ↔ List.Forall₂ (fun x y => (f x).result = .ok y) xs ys := by
  induction xs generalizing ys with
  | nil => simp [eq_comm]
  | cons x xs ih =>
    rw [List.mapM_cons, bind_eq_ok_iff, List.forall₂_cons_left_iff]
    constructor
    · rintro ⟨y, first, others⟩
      obtain ⟨rest, made, last⟩ := bind_eq_ok_iff.1 others
      exact ⟨y, rest, first, ih.1 made, (Except.ok.inj last).symm⟩
    · rintro ⟨y, rest, first, others, rfl⟩
      exact ⟨y, first, bind_eq_ok_iff.2 ⟨rest, ih.2 others, rfl⟩⟩

/-- A list of steps can be done when each of them can. -/
theorem exists_mapM_iff {xs : List α} :
    (∃ ys, (xs.mapM f).result = .ok ys) ↔ ∀ x ∈ xs, ∃ y, (f x).result = .ok y := by
  simp only [mapM_eq_ok_iff, exists_forall₂_iff]

/-- The warnings of a list of steps are those of the steps, one after the other. -/
theorem warnings_mapM {xs : List α} {ys : List β} (made : (xs.mapM f).result = .ok ys) :
    (xs.mapM f).warnings = xs.flatMap fun x => (f x).warnings := by
  induction xs generalizing ys with
  | nil => rfl
  | cons x xs ih =>
    rw [List.mapM_cons] at made ⊢
    obtain ⟨y, first, others⟩ := bind_eq_ok_iff.1 made
    obtain ⟨rest, second, _⟩ := bind_eq_ok_iff.1 others
    rw [warnings_bind first, warnings_bind second, ih second]
    simp

/-- A list of steps that fails has a first step that fails. -/
theorem exists_first_error {xs : List α} {e : Failure} (failed : (xs.mapM f).result = .error e) :
    ∃ before x after, xs = before ++ x :: after ∧ (∀ y ∈ before, ∃ b, (f y).result = .ok b) ∧
      (f x).result = .error e := by
  induction xs with
  | nil => cases failed
  | cons x xs ih =>
    rw [List.mapM_cons] at failed
    rcases bind_eq_error_iff.1 failed with here | ⟨b, made, later⟩
    · exact ⟨[], x, xs, rfl, by simp, here⟩
    · rcases bind_eq_error_iff.1 later with among | ⟨_, _, never⟩
      · obtain ⟨before, y, after, rfl, done, failed⟩ := ih among
        exact ⟨x :: before, y, after, rfl, List.forall_mem_cons.2 ⟨⟨b, made⟩, done⟩, failed⟩
      · cases never

/-- A list of steps ends at the first that fails. -/
theorem mapM_of_first_error {before after : List α} {x : α} {e : Failure}
    (done : ∀ y ∈ before, ∃ b, (f y).result = .ok b) (failed : (f x).result = .error e) :
    (before ++ x :: after).mapM f =
      ⟨(before.flatMap fun y => (f y).events) ++ (f x).events, .error e⟩ := by
  induction before with
  | nil =>
    rw [List.nil_append, List.mapM_cons, bind_eq_of_error failed]
    rfl
  | cons y before ih =>
    obtain ⟨⟨b, made⟩, others⟩ := List.forall_mem_cons.1 done
    rw [List.cons_append, List.mapM_cons, bind_eq_of_ok made, ih others, bind_eq_of_error rfl,
      List.flatMap_cons, List.append_assoc]

/-- A list of steps fails as the first step that fails. -/
theorem mapM_eq_error_iff {xs : List α} {e : Failure} :
    (xs.mapM f).result = .error e ↔ ∃ before x after, xs = before ++ x :: after ∧
      (∀ y ∈ before, ∃ b, (f y).result = .ok b) ∧ (f x).result = .error e := by
  refine ⟨exists_first_error, ?_⟩
  rintro ⟨before, x, after, rfl, done, failed⟩
  rw [mapM_of_first_error done failed]

/-- A list of steps warns as its steps do up to the first that fails. -/
theorem warnings_mapM_of_first_error {before after : List α} {x : α} {e : Failure}
    (done : ∀ y ∈ before, ∃ b, (f y).result = .ok b) (failed : (f x).result = .error e) :
    ((before ++ x :: after).mapM f).warnings =
      (before.flatMap fun y => (f y).warnings) ++ (f x).warnings := by
  rw [mapM_of_first_error done failed, warnings, warningsIn_append, warningsIn,
    List.filterMap_flatMap]
  rfl

theorem warnings_mapM_eq_nil (quiet : ∀ x, (f x).warnings = []) (xs : List α) :
    (xs.mapM f).warnings = [] := by
  induction xs with
  | nil => rfl
  | cons x xs ih =>
    rw [List.mapM_cons]
    exact warnings_bind_eq_nil (quiet x) fun _ => warnings_bind_eq_nil ih fun _ => rfl

end List

end Traced

end Supergraph
