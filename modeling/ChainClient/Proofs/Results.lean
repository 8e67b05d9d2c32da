import ChainClient.Failure
import Mathlib.Data.List.Forall2

/-!
# Chains of checks

A chain of checks succeeds when each of them does. The lemmas here take a success
apart into the successes of its checks, and put the errors of a chain together from
those of its checks.
-/

namespace ChainClient

variable {ε ε' α β : Type}

theorem bind_eq_ok_iff
    {first : Except ε α}
    {next : α → Except ε β}
    {b : β} :
    (first >>= next) = .ok b ↔ ∃ a, first = .ok a ∧ next a = .ok b := by
  cases first with
  | error fault => simp [bind, Except.bind]
  | ok a => simp [bind, Except.bind]

/-- A check that brings nothing only has to pass. -/
theorem unit_bind_eq_ok_iff
    {check : Except ε Unit}
    {next : Except ε α}
    {a : α} :
    (check >>= fun _ => next) = .ok a ↔ check = .ok () ∧ next = .ok a := by
  rw [bind_eq_ok_iff]
  exact ⟨fun ⟨_, passed, given⟩ => ⟨passed, given⟩, fun ⟨passed, given⟩ => ⟨(), passed, given⟩⟩

/-- What is handed on under a condition. -/
theorem ite_pure_throw_eq_ok_iff
    {condition : Prop}
    [Decidable condition]
    {a b : α}
    {fault : ε} :
    (if condition then pure a else throw fault : Except ε α) = .ok b ↔ a = b ∧ condition := by
  split
  · next holds => simp [pure, Except.pure, holds]
  · next fails => exact iff_of_false nofun fun given => fails given.2

theorem map_eq_ok_iff
    {f : α → β}
    {first : Except ε α}
    {b : β} :
    f <$> first = .ok b ↔ ∃ a, first = .ok a ∧ f a = b := by
  cases first with
  | error fault => simp [Functor.map, Except.map]
  | ok a => simp [Functor.map, Except.map]

/-- A chain of checks fails as the first of its checks that fails. -/
theorem bind_eq_error_iff
    {first : Except ε α}
    {next : α → Except ε β}
    {fault : ε} :
    (first >>= next) = .error fault ↔
      first = .error fault ∨ ∃ a, first = .ok a ∧ next a = .error fault := by
  cases first with
  | error other => simp [bind, Except.bind]
  | ok a => simp [bind, Except.bind]

theorem map_eq_error_iff
    {f : α → β}
    {first : Except ε α}
    {fault : ε} :
    f <$> first = .error fault ↔ first = .error fault := by
  cases first with
  | error other => simp [Functor.map, Except.map]
  | ok a => simp [Functor.map, Except.map]

/-- What is made of a result tells the result if it tells what it is made of. -/
theorem map_right_injective
    {f : α → β}
    (injective : Function.Injective f) :
    Function.Injective fun result : Except ε α => f <$> result := by
  intro first second same
  cases second with
  | ok b =>
      obtain ⟨a, rfl, equal⟩ := map_eq_ok_iff.mp same
      rw [injective equal]
  | error fault => exact map_eq_error_iff.mp same

theorem not_exists_ok_iff
    {result : Except ε α} :
    (¬ ∃ a, result = .ok a) ↔ ∃ fault, result = .error fault := by
  cases result with
  | ok a => simp
  | error fault => simp

@[simp] theorem mapError_eq_ok_iff
    {f : ε → ε'}
    {first : Except ε α}
    {a : α} :
    first.mapError f = .ok a ↔ first = .ok a := by
  cases first with
  | ok b =>
      change Except.ok b = Except.ok a ↔ Except.ok b = Except.ok a
      simp
  | error fault =>
      change Except.error (f fault) = Except.ok a ↔ Except.error fault = Except.ok a
      simp

theorem mapError_eq_error_iff
    {f : ε → ε'}
    {first : Except ε α}
    {fault : ε'} :
    first.mapError f = .error fault ↔ ∃ inner, first = .error inner ∧ f inner = fault := by
  cases first with
  | ok a =>
      change Except.ok a = Except.error fault ↔ _
      simp
  | error other =>
      change Except.error (f other) = Except.error fault ↔ _
      simp

/-- Each member has a result exactly if there is a list of results. -/
theorem exists_forall₂_iff
    {relation : α → β → Prop}
    {members : List α} :
    (∃ results, List.Forall₂ relation members results) ↔
      ∀ member ∈ members, ∃ result, relation member result := by
  induction members with
  | nil => simp
  | cons member members inductionHypothesis =>
      rw [List.forall_mem_cons, ← inductionHypothesis]
      simp only [List.forall₂_cons_left_iff]
      constructor
      · rintro ⟨_, result, results, first, rest, -⟩
        exact ⟨⟨result, first⟩, results, rest⟩
      · rintro ⟨⟨result, first⟩, results, rest⟩
        exact ⟨_, result, results, first, rest, rfl⟩

/-- A list is worked through if each of its members is. -/
theorem mapM_eq_ok_iff
    {f : α → Except ε β}
    {members : List α}
    {results : List β} :
    members.mapM f = .ok results ↔
      List.Forall₂ (fun member result => f member = .ok result) members results := by
  induction members generalizing results with
  | nil =>
      rw [List.mapM_nil, List.forall₂_nil_left_iff]
      constructor
      · intro same
        cases same
        rfl
      · rintro rfl
        rfl
  | cons member members inductionHypothesis =>
      rw [List.mapM_cons, bind_eq_ok_iff, List.forall₂_cons_left_iff]
      simp only [bind_eq_ok_iff, inductionHypothesis]
      constructor
      · rintro ⟨first, given, rest, others, same⟩
        cases same
        exact ⟨first, rest, given, others, rfl⟩
      · rintro ⟨first, rest, given, others, rfl⟩
        exact ⟨first, given, rest, others, rfl⟩

theorem exists_mapM_eq_ok_iff
    {f : α → Except ε β}
    {members : List α} :
    (∃ results, members.mapM f = .ok results) ↔
      ∀ member ∈ members, ∃ result, f member = .ok result := by
  simp only [mapM_eq_ok_iff, exists_forall₂_iff]

/-- Otherwise the first of its members that fails decides the error. -/
theorem mapM_eq_error_iff
    {f : α → Except ε β}
    {members : List α}
    {fault : ε} :
    members.mapM f = .error fault ↔
      ∃ before member after, members = before ++ member :: after ∧
        (∀ earlier ∈ before, ∃ result, f earlier = .ok result) ∧ f member = .error fault := by
  induction members with
  | nil =>
      rw [List.mapM_nil]
      simp [pure, Except.pure]
  | cons first members inductionHypothesis =>
      rw [List.mapM_cons, bind_eq_error_iff]
      simp only [bind_eq_error_iff, inductionHypothesis]
      constructor
      · rintro (fails | ⟨result, given, later | ⟨_, _, thrown⟩⟩)
        · exact ⟨[], first, members, rfl, List.forall_mem_nil _, fails⟩
        · obtain ⟨before, member, after, rfl, earlier, fails⟩ := later
          exact ⟨first :: before, member, after, rfl,
            List.forall_mem_cons.mpr ⟨⟨result, given⟩, earlier⟩, fails⟩
        · cases thrown
      · rintro ⟨before, member, after, same, earlier, fails⟩
        cases before with
        | nil =>
            cases same
            exact .inl fails
        | cons _ before =>
            cases same
            obtain ⟨⟨result, given⟩, others⟩ := List.forall_mem_cons.mp earlier
            exact .inr ⟨result, given, .inl ⟨before, member, after, rfl, others, fails⟩⟩

/-! ## Kinds of errors -/

/-- Whatever error the result is, it is of this kind. -/
def FailsOnlyWith
    (kind : ε → Prop)
    (result : Except ε α) : Prop :=
  ∀ fault, result = .error fault → kind fault

namespace FailsOnlyWith

variable {kind : ε → Prop}

theorem ok (a : α) : FailsOnlyWith kind (.ok a) := by
  intro fault fails
  cases fails

theorem error
    {fault : ε}
    (holds : kind fault) :
    FailsOnlyWith kind (.error fault : Except ε α) := by
  intro other fails
  cases fails
  exact holds

/-- A chain has no errors but those of its checks. -/
theorem bind
    {first : Except ε α}
    {next : α → Except ε β}
    (firstFails : FailsOnlyWith kind first)
    (nextFails : ∀ a, FailsOnlyWith kind (next a)) :
    FailsOnlyWith kind (first >>= next) := by
  intro fault fails
  rcases bind_eq_error_iff.mp fails with fails | ⟨a, -, fails⟩
  · exact firstFails fault fails
  · exact nextFails a fault fails

theorem map
    {f : α → β}
    {first : Except ε α}
    (fails : FailsOnlyWith kind first) :
    FailsOnlyWith kind (f <$> first) :=
  fun fault equal => fails fault (map_eq_error_iff.mp equal)

theorem mapError
    {f : ε' → ε}
    {inner : ε' → Prop}
    {first : Except ε' α}
    (fails : FailsOnlyWith inner first)
    (carries : ∀ fault, inner fault → kind (f fault)) :
    FailsOnlyWith kind (first.mapError f) := by
  intro fault equal
  obtain ⟨origin, failed, rfl⟩ := mapError_eq_error_iff.mp equal
  exact carries origin (fails origin failed)

end FailsOnlyWith

end ChainClient
