import JuceBuild.Failure
import Mathlib.Data.List.Forall2

/-!
# Outcomes

Two runs that may fail are compared by what they return, or by what their failures are about. The
wording of a failure names paths as they were given, so it is not part of the comparison.
-/

namespace JuceBuild

theorem ok_bind {ε α β : Type} (value : α) (next : α → Except ε β) :
    Except.ok value >>= next = next value := rfl

theorem bind_eq_ok_iff {ε α β : Type} {outcome : Except ε α} {next : α → Except ε β} {result : β} :
    outcome >>= next = .ok result ↔ ∃ value, outcome = .ok value ∧ next value = .ok result := by
  cases outcome with
  | error failure =>
      constructor
      · intro hbind
        cases hbind
      · rintro ⟨value, hvalue, -⟩
        cases hvalue
  | ok value =>
      constructor
      · intro hbind
        exact ⟨value, rfl, hbind⟩
      · rintro ⟨value', hvalue, hresult⟩
        cases hvalue
        exact hresult

theorem mapError_eq_ok_iff {ε ε' α : Type} {outcome : Except ε α} {f : ε → ε'} {value : α} :
    outcome.mapError f = .ok value ↔ outcome = .ok value := by
  cases outcome <;> simp [Except.mapError]

theorem map_eq_ok_iff {ε α β : Type} {outcome : Except ε α} {f : α → β} {result : β} :
    outcome.map f = .ok result ↔ ∃ value, outcome = .ok value ∧ f value = result := by
  cases outcome <;> simp [Except.map]

theorem bind_eq_error_iff {ε α β : Type} {outcome : Except ε α} {next : α → Except ε β}
    {failure : ε} :
    outcome >>= next = .error failure
      ↔ outcome = .error failure ∨ ∃ value, outcome = .ok value ∧ next value = .error failure := by
  cases outcome with
  | error reason => simp [Bind.bind, Except.bind]
  | ok value => simp [ok_bind]

/-- If what follows fails whatever it is given or never, the order of the two does not matter. -/
theorem exists_bind_eq_error_iff {ε α β : Type} {outcome : Except ε α} {next : α → Except ε β}
    {P : Prop} (hnext : ∀ value, (∃ failure, next value = .error failure) ↔ P) :
    (∃ failure, outcome >>= next = .error failure) ↔ (∃ failure, outcome = .error failure) ∨ P := by
  cases outcome with
  | error reason => simp [Bind.bind, Except.bind]
  | ok value => simp [ok_bind, hnext]

theorem bind_pure_eq_error_iff {ε α β : Type} {outcome : Except ε α} {f : α → β} {failure : ε} :
    (outcome >>= fun value => pure (f value)) = .error failure ↔ outcome = .error failure := by
  cases outcome <;> simp [Bind.bind, Except.bind, Pure.pure, Except.pure]

theorem map_eq_error_iff {ε α β : Type} {outcome : Except ε α} {f : α → β} {failure : ε} :
    outcome.map f = .error failure ↔ outcome = .error failure := by
  cases outcome <;> simp [Except.map]

/-- A row of steps fails as the first of its steps that fails. -/
theorem mapM_eq_error_iff {ε α β : Type} {step : α → Except ε β} {items : List α} {failure : ε} :
    items.mapM step = .error failure
      ↔ ∃ before item after, items = before ++ item :: after
        ∧ (∀ earlier ∈ before, ∃ value, step earlier = .ok value)
        ∧ step item = .error failure := by
  induction items with
  | nil => simp [Pure.pure, Except.pure]
  | cons item items ih =>
      rw [List.mapM_cons, bind_eq_error_iff]
      constructor
      · rintro (hitem | ⟨value, hvalue, hrest⟩)
        · exact ⟨[], item, items, rfl, List.forall_mem_nil _, hitem⟩
        · obtain ⟨before, other, after, rfl, hbefore, hother⟩ :=
            ih.mp (bind_pure_eq_error_iff.mp hrest)
          exact ⟨item :: before, other, after, rfl,
            List.forall_mem_cons.mpr ⟨⟨value, hvalue⟩, hbefore⟩, hother⟩
      · rintro ⟨before, other, after, hitems, hbefore, hother⟩
        cases before with
        | nil =>
            cases hitems
            exact .inl hother
        | cons first before =>
            cases hitems
            obtain ⟨⟨value, hvalue⟩, hbefore⟩ := List.forall_mem_cons.mp hbefore
            refine .inr ⟨value, hvalue, bind_pure_eq_error_iff.mpr (ih.mpr ?_)⟩
            exact ⟨before, other, after, rfl, hbefore, hother⟩

theorem exists_of_mapM_eq_error {ε α β : Type} {step : α → Except ε β} {items : List α}
    {failure : ε} (hfailure : items.mapM step = .error failure) :
    ∃ item ∈ items, step item = .error failure := by
  obtain ⟨before, item, after, rfl, -, hitem⟩ := mapM_eq_error_iff.mp hfailure
  exact ⟨item, List.mem_append_right _ List.mem_cons_self, hitem⟩

theorem exists_mapM_eq_error_iff {ε α β : Type} {step : α → Except ε β} {items : List α} :
    (∃ failure, items.mapM step = .error failure)
      ↔ ∃ item ∈ items, ∃ failure, step item = .error failure := by
  induction items with
  | nil => simp [Pure.pure, Except.pure]
  | cons item items ih =>
      rw [List.mapM_cons, List.exists_mem_cons_iff, ← ih]
      exact exists_bind_eq_error_iff fun value => exists_congr fun e => bind_pure_eq_error_iff

theorem mapM_some {α : Type} (items : List α) : items.mapM some = some items := by
  have hpure := List.mapM_pure (m := Option) (l := items) (f := id)
  rwa [List.map_id] at hpure

theorem mapM_congr {m : Type → Type} [Monad m] [LawfulMonad m] {α β : Type} {step step' : α → m β}
    {items : List α} (hstep : ∀ item ∈ items, step item = step' item) :
    items.mapM step = items.mapM step' := by
  induction items with
  | nil => rfl
  | cons item items ih =>
      rw [List.mapM_cons, List.mapM_cons, hstep item List.mem_cons_self,
        ih fun other hother => hstep other (List.mem_cons_of_mem item hother)]

/-- A row of steps returns what its steps return, one by one. -/
theorem mapM_eq_ok_iff {ε α β : Type} {step : α → Except ε β} {items : List α} {values : List β} :
    items.mapM step = .ok values
      ↔ List.Forall₂ (fun item value => step item = .ok value) items values := by
  induction items generalizing values with
  | nil =>
      rw [List.mapM_nil, List.forall₂_nil_left_iff]
      exact ⟨fun hvalues => by cases hvalues; rfl, fun hvalues => hvalues ▸ rfl⟩
  | cons item items ih =>
      rw [List.mapM_cons, bind_eq_ok_iff, List.forall₂_cons_left_iff]
      refine ⟨?_, ?_⟩
      · rintro ⟨value, hvalue, hvalues⟩
        obtain ⟨rest, hrest, hvalues⟩ := bind_eq_ok_iff.mp hvalues
        cases hvalues
        exact ⟨value, rest, hvalue, ih.mp hrest, rfl⟩
      · rintro ⟨value, rest, hvalue, hrest, rfl⟩
        exact ⟨value, hvalue, bind_eq_ok_iff.mpr ⟨rest, ih.mpr hrest, rfl⟩⟩

theorem exists_of_mem_of_mapM_eq_ok {ε α β : Type} {step : α → Except ε β} {items : List α}
    {values : List β} (hvalues : items.mapM step = .ok values) {value : β}
    (hvalue : value ∈ values) : ∃ item ∈ items, step item = .ok value := by
  rw [mapM_eq_ok_iff] at hvalues
  induction hvalues with
  | nil => cases hvalue
  | cons hitem _ ih =>
      rcases List.mem_cons.mp hvalue with rfl | hvalue
      · exact ⟨_, List.mem_cons_self, hitem⟩
      · obtain ⟨item, hmem, hstep⟩ := ih hvalue
        exact ⟨item, List.mem_cons_of_mem _ hmem, hstep⟩

/-- What holds of every step of a row holds of the values that the row returns. -/
theorem forall₂_of_mapM_eq_ok {ε α β : Type} {step : α → Except ε β} {R : β → α → Prop}
    {items : List α} {values : List β}
    (hstep : ∀ item ∈ items, ∀ value, step item = .ok value → R value item)
    (hvalues : items.mapM step = .ok values) : List.Forall₂ R values items := by
  rw [mapM_eq_ok_iff] at hvalues
  refine List.Forall₂.flip ?_
  have hboth := (List.forall₂_and_left _ _).mpr ⟨hstep, hvalues⟩
  exact hboth.imp fun item value hvalue => hvalue.1 value hvalue.2

/-- A row that returns is returned by every other step that returns at least the same. -/
theorem mapM_eq_ok_of_forall {ε ε' α β : Type} {step : α → Except ε β} {step' : α → Except ε' β}
    {items : List α} {values : List β}
    (hstep : ∀ item ∈ items, ∀ value, step item = .ok value → step' item = .ok value)
    (hvalues : items.mapM step = .ok values) : items.mapM step' = .ok values := by
  rw [mapM_eq_ok_iff] at hvalues ⊢
  have hboth := (List.forall₂_and_left _ _).mpr ⟨hstep, hvalues⟩
  exact hboth.imp fun item value hvalue => hvalue.1 value hvalue.2

/-- Two outcomes are alike if they return values that a relation ties, or fail for reasons of one
kind. -/
inductive Alike {α β : Type} (R : α → β → Prop) : Except Failure α → Except Failure β → Prop where
  | ok {value : α} {value' : β} (hvalue : R value value') : Alike R (.ok value) (.ok value')
  | error {failure failure' : Failure} (hkind : failure.kind = failure'.kind) :
    Alike R (.error failure) (.error failure')

namespace Alike

variable {α β γ δ : Type} {R : α → β → Prop} {S : γ → δ → Prop}
  {left : Except Failure α} {right : Except Failure β}

theorem same (outcome : Except Failure α) : Alike Eq outcome outcome := by
  cases outcome with
  | error failure => exact .error rfl
  | ok value => exact .ok rfl

/-- Outcomes that are alike stay alike if what follows them keeps the relation. -/
theorem bind (houtcome : Alike R left right) {next : α → Except Failure γ}
    {next' : β → Except Failure δ}
    (hnext : ∀ value value', R value value' → Alike S (next value) (next' value')) :
    Alike S (left >>= next) (right >>= next') := by
  cases houtcome with
  | ok hvalue => exact hnext _ _ hvalue
  | error hkind => exact .error hkind

theorem map (houtcome : Alike R left right) {f : α → γ} {g : β → δ}
    (hmap : ∀ value value', R value value' → S (f value) (g value')) :
    Alike S (left.map f) (right.map g) := by
  cases houtcome with
  | ok hvalue => exact .ok (hmap _ _ hvalue)
  | error hkind => exact .error hkind

/-- Steps that are alike one by one are alike in a row. -/
theorem mapM {step step' : γ → Except Failure α} {items : List γ}
    (hstep : ∀ item, Alike Eq (step item) (step' item)) :
    Alike Eq (items.mapM step) (items.mapM step') := by
  induction items with
  | nil => exact same _
  | cons item items ih =>
      rw [List.mapM_cons, List.mapM_cons]
      refine (hstep item).bind fun value value' hvalue => ?_
      refine ih.bind fun values values' hvalues => ?_
      rw [hvalue, hvalues]
      exact same _

end Alike

end JuceBuild
