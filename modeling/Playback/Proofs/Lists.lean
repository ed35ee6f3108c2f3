import Mathlib.Data.List.Basic

set_option autoImplicit false

namespace Playback

variable {Item Other : Type} (image? : Item → Option Other)

theorem filterMap_cons_toList (item : Item) (items : List Item) :
    (item :: items).filterMap image? = (image? item).toList ++ items.filterMap image? := by
  cases same : image? item <;> simp [same]

theorem filterMap_snoc (items : List Item) (item : Item) :
    (items ++ [item]).filterMap image? = items.filterMap image? ++ (image? item).toList := by
  rw [List.filterMap_append, filterMap_cons_toList, List.filterMap_nil, List.append_nil]

theorem flatMap_snoc (list : Item → List Other) (items : List Item) (item : Item) :
    (items ++ [item]).flatMap list = items.flatMap list ++ list item := by
  rw [List.flatMap_append, List.flatMap_singleton]

theorem filterMap_middle (before after : List Item) (item : Item) :
    (before ++ item :: after).filterMap image? =
      before.filterMap image? ++ ((image? item).toList ++ after.filterMap image?) := by
  rw [List.filterMap_append, filterMap_cons_toList]

/-- An item of a list that grew at its end was there before, or is the new one. -/
theorem snoc_eq_middle {items early late : List Item} {last item : Item}
    (same : items ++ [last] = early ++ item :: late) :
    (items = early ∧ last = item ∧ late = []) ∨
      ∃ others, items = early ++ item :: others ∧ late = others ++ [last] := by
  rcases List.eq_nil_or_concat late with rfl | ⟨others, final, rfl⟩
  · obtain ⟨front, back⟩ := List.append_inj' same rfl
    exact Or.inl ⟨front, List.cons.inj back |>.1, rfl⟩
  · rw [List.concat_eq_append, ← List.cons_append, ← List.append_assoc] at same
    obtain ⟨front, back⟩ := List.append_inj' same rfl
    rw [List.cons.inj back |>.1, List.concat_eq_append]
    exact Or.inr ⟨others, front, rfl⟩

/-- Of entries without those under one key, the others are found as before. -/
theorem lookup_filter_ne {Key Value : Type} [BEq Key] [LawfulBEq Key] [DecidableEq Key]
    (entries : List (Key × Value)) (key other : Key) :
    (entries.filter (fun entry => entry.1 ≠ key)).lookup other =
      if other = key then none else entries.lookup other := by
  induction entries with
  | nil => simp
  | cons entry rest ih =>
    obtain ⟨name, value⟩ := entry
    by_cases same : name = key
    · subst same
      by_cases asked : other = name
      · subst asked
        simpa using ih
      · have apart : (other == name) = false := beq_false_of_ne asked
        simpa [asked, List.lookup_cons, apart] using ih
    · by_cases asked : other = name
      · subst asked
        simp [same]
      · have apart : (other == name) = false := beq_false_of_ne asked
        simpa [same, List.lookup_cons, apart] using ih

end Playback
