import Playback.ExternalCalls
import Mathlib.Data.List.Basic

set_option autoImplicit false

namespace Playback

theorem CallId.ofNumber?_number (id : CallId) : CallId.ofNumber? id.number = some id :=
  dif_pos id.nonzero

theorem CallId.number_inj {id other : CallId} (same : id.number = other.number) : id = other := by
  cases id
  cases other
  cases same
  rfl

namespace ExternalCalls

@[simp] theorem slot_insert (calls : ExternalCalls) (id : CallId) (output : Bytes) :
    (calls.insert id output).slot = calls.slot := by
  unfold insert
  split <;> rfl

theorem output?_insert (calls : ExternalCalls) (id other : CallId) (output : Bytes) :
    (calls.insert id output).output? other =
      (calls.output? other).or (if other = id then some output else none) := by
  unfold insert
  split
  case isTrue known =>
    by_cases same : other = id
    · subst same
      obtain ⟨first, there⟩ := Option.isSome_iff_exists.mp known
      rw [there, Option.some_or]
    · rw [if_neg same, Option.or_none]
  case isFalse _ =>
    unfold output?
    rw [List.lookup_append]
    congr 1
    by_cases same : other = id
    · subst same
      simp
    · have apart : (other == id) = false := beq_false_of_ne same
      rw [List.lookup_cons, apart, if_neg same]
      rfl

/-- What is known stays. -/
theorem output?_insert_of_some {calls : ExternalCalls} {id other : CallId} {known : Bytes}
    (output : Bytes) (there : calls.output? other = some known) :
    (calls.insert id output).output? other = some known := by
  rw [output?_insert, there, Option.some_or]

/-- What is known was known before, or has just been inserted. -/
theorem output?_of_insert {calls : ExternalCalls} {id other : CallId} {output known : Bytes}
    (there : (calls.insert id output).output? other = some known) :
    calls.output? other = some known ∨ other = id ∧ known = output := by
  rw [output?_insert, Option.or_eq_some_iff] at there
  rcases there with before | ⟨-, new⟩
  · exact Or.inl before
  · split at new
    case isTrue same => exact Or.inr ⟨same, (Option.some.inj new).symm⟩
    case isFalse _ => cases new

end ExternalCalls

end Playback
