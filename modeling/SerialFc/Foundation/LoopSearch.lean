import Mathlib.Data.List.Basic
import Mathlib.Data.Prod.Basic

/-! # Nested loops that stop at the first hit

A search of nested loops returns for the candidate that comes first when the
loop variables are compared from the outermost in. A loop may start late, as
long as it leaves out no candidate that is accepted.
-/

namespace SerialFc

variable {α β γ : Type}

def IsFirst (before : α → α → Prop) (accepts : α → Prop) (candidate : α) :
    Prop :=
  accepts candidate ∧ ∀ other, accepts other → other = candidate ∨
    before candidate other

theorem IsFirst.inner {outer : α → α → Prop} {inner : γ → γ → Prop}
    [Std.Irrefl outer] {accepts : α × γ → Prop} {x : α} {y : γ}
    (first : IsFirst (Prod.Lex outer inner) accepts (x, y)) :
    IsFirst inner (fun y => accepts (x, y)) y := by
  refine ⟨first.1, ?_⟩
  intro other accepted
  rcases first.2 (x, other) accepted with same | later
  · exact .inl (Prod.mk.inj same).2
  · rcases Prod.lex_iff.mp later with outerLater | ⟨_, innerLater⟩
    · exact absurd outerLater (Std.Irrefl.irrefl x)
    · exact .inr innerLater

/-- A search returns the result of the first accepted candidate, if any is
accepted. -/
structure Finds (search : Option β) (before : α → α → Prop)
    (accepts : α → Prop) (result : α → β) : Prop where
  complete : ∀ candidate, accepts candidate → search.isSome
  first : ∀ value, search = some value →
    ∃ candidate, result candidate = value ∧ IsFirst before accepts candidate

namespace Finds

variable {search : Option β} {before : α → α → Prop} {accepts : α → Prop}
  {result : α → β}

theorem isSome_iff (finds : Finds search before accepts result) :
    search.isSome ↔ ∃ candidate, accepts candidate := by
  constructor
  · intro some
    rcases Option.isSome_iff_exists.mp some with ⟨value, found⟩
    rcases finds.first value found with ⟨candidate, _, first⟩
    exact ⟨candidate, first.1⟩
  · rintro ⟨candidate, accepted⟩
    exact finds.complete candidate accepted

theorem eq_none_iff (finds : Finds search before accepts result) :
    search = none ↔ ∀ candidate, ¬accepts candidate := by
  rw [← Option.not_isSome_iff_eq_none, finds.isSome_iff, not_exists]

theorem eq_some [Std.Asymm before] (finds : Finds search before accepts result)
    {candidate : α} (first : IsFirst before accepts candidate) :
    search = some (result candidate) := by
  rcases Option.isSome_iff_exists.mp (finds.complete candidate first.1) with
    ⟨value, found⟩
  rcases finds.first value found with ⟨other, rfl, otherFirst⟩
  rw [found]
  rcases first.2 other otherFirst.1 with rfl | later
  · rfl
  · rcases otherFirst.2 candidate first.1 with rfl | earlier
    · rfl
    · exact absurd earlier (Std.Asymm.asymm _ _ later)

theorem congr {other : α → Prop} (finds : Finds search before accepts result)
    (same : ∀ candidate, other candidate ↔ accepts candidate) :
    Finds search before other result := by
  have equal : other = accepts := funext fun candidate => propext (same candidate)
  rw [equal]
  exact finds

theorem map (finds : Finds search before accepts result) (f : β → γ) :
    Finds (search.map f) before accepts fun candidate => f (result candidate) where
  complete candidate accepted := by
    rw [Option.isSome_map]
    exact finds.complete candidate accepted
  first value found := by
    rcases Option.map_eq_some_iff.mp found with ⟨inner, isInner, rfl⟩
    rcases finds.first inner isInner with ⟨candidate, rfl, first⟩
    exact ⟨candidate, rfl, first⟩

theorem guard {skip : Prop} [Decidable skip]
    (finds : ¬skip → Finds search before accepts result) :
    Finds (if skip then none else search) before
      (fun candidate => ¬skip ∧ accepts candidate) result := by
  by_cases skipped : skip
  · rw [if_pos skipped]
    constructor
    · rintro candidate ⟨notSkipped, _⟩
      exact absurd skipped notSkipped
    · intro value found
      cases found
  · rw [if_neg skipped]
    exact (finds skipped).congr fun candidate => and_iff_right skipped

end Finds

theorem first_of_findSome? {xs : List α} {before : α → α → Prop}
    (sorted : xs.Pairwise before) {f : α → Option β} {value : β}
    (found : xs.findSome? f = some value) :
    ∃ x ∈ xs, f x = some value ∧
      ∀ other ∈ xs, (f other).isSome → other = x ∨ before x other := by
  rcases List.findSome?_eq_some_iff.mp found with
    ⟨earlier, x, later, rfl, isHit, missed⟩
  refine ⟨x, by simp, isHit, ?_⟩
  intro other member hit
  rcases List.mem_append.mp member with isEarlier | isLater
  · rw [missed other isEarlier] at hit
    cases hit
  · rcases List.mem_cons.mp isLater with same | isLater
    · exact .inl same
    · have rest := (List.pairwise_append.mp sorted).2.1
      exact .inr (List.rel_of_pairwise_cons rest isLater)

namespace Finds

theorem innermost {xs : List α} {before : α → α → Prop}
    (sorted : xs.Pairwise before) (rejects : α → Prop) [DecidablePred rejects]
    (result : α → β) :
    Finds (xs.findSome? fun x => if rejects x then none else some (result x))
      before (fun x => x ∈ xs ∧ ¬rejects x) result where
  complete x accepted := by
    rw [List.findSome?_isSome_iff]
    exact ⟨x, accepted.1, by simp [accepted.2]⟩
  first value found := by
    rcases first_of_findSome? sorted found with ⟨x, member, hit, first⟩
    split at hit
    case isTrue => cases hit
    case isFalse kept =>
      refine ⟨x, Option.some.inj hit, ⟨member, kept⟩, ?_⟩
      rintro other ⟨isMember, alsoKept⟩
      exact first other isMember (by simp [alsoKept])

/-- A loop around a search: its variable decides before those of the search. -/
theorem loop {xs : List α} {outer : α → α → Prop} {inner : γ → γ → Prop}
    {accepts : α × γ → Prop} {result : α × γ → β} {body : α → Option β}
    (sorted : xs.Pairwise outer)
    (covers : ∀ candidate, accepts candidate → candidate.1 ∈ xs)
    (finds : ∀ x ∈ xs, Finds (body x) inner (fun y => accepts (x, y))
      fun y => result (x, y)) :
    Finds (xs.findSome? body) (Prod.Lex outer inner) accepts result where
  complete candidate accepted := by
    rw [List.findSome?_isSome_iff]
    have member := covers candidate accepted
    exact ⟨candidate.1, member, (finds _ member).complete candidate.2 accepted⟩
  first value found := by
    rcases first_of_findSome? sorted found with ⟨x, member, hit, outerFirst⟩
    rcases (finds x member).first value hit with ⟨y, isResult, accepted, innerFirst⟩
    refine ⟨(x, y), isResult, accepted, ?_⟩
    rintro ⟨otherX, otherY⟩ otherAccepted
    have otherMember := covers _ otherAccepted
    have otherHit := (finds otherX otherMember).complete otherY otherAccepted
    rcases outerFirst otherX otherMember otherHit with rfl | later
    · rcases innerFirst otherY otherAccepted with rfl | later
      · exact .inl rfl
      · exact .inr (.right _ later)
    · exact .inr (.left _ _ later)

end Finds

end SerialFc
