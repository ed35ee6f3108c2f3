import Playback.TaskQueue
import Mathlib.Data.List.Basic

set_option autoImplicit false

namespace Playback

namespace Errand

mutual

/-- The number of errands in a tree. -/
def count : Errand → Nat
  | errand _ spawns => 1 + countAll spawns

def countAll : List Errand → Nat
  | [] => 0
  | first :: rest => first.count + countAll rest

end

theorem count_eq (errand : Errand) : errand.count = 1 + countAll errand.spawns := by
  cases errand
  rw [count, spawns]

theorem countAll_append (first second : List Errand) :
    countAll (first ++ second) = countAll first + countAll second := by
  induction first with
  | nil => simp [countAll]
  | cons one rest ih =>
    simp only [List.cons_append, countAll, ih]
    omega

/-- The next level holds all errands but those of this one. -/
theorem countAll_flatMap_spawns (errands : List Errand) :
    countAll errands = errands.length + countAll (errands.flatMap spawns) := by
  induction errands with
  | nil => rfl
  | cons one rest ih =>
    rw [List.flatMap_cons, countAll_append, countAll, count_eq, ih, List.length_cons]
    omega

/-- The errands of a queue and all that these queue, in the order of their runs. -/
def inTurn : List Errand → List Errand
  | [] => []
  | first :: rest => first :: inTurn (rest ++ first.spawns)
termination_by queue => countAll queue
decreasing_by
  rw [countAll_append, countAll, count_eq]
  omega

theorem inTurn_append (first second : List Errand) :
    inTurn (first ++ second) = first ++ inTurn (second ++ first.flatMap spawns) := by
  induction first generalizing second with
  | nil => rw [List.nil_append, List.nil_append, List.flatMap_nil, List.append_nil]
  | cons one rest ih =>
    rw [List.cons_append, inTurn, List.append_assoc, ih, List.flatMap_cons, List.append_assoc,
      List.cons_append]

theorem inTurn_level (errands : List Errand) :
    inTurn errands = errands ++ inTurn (errands.flatMap spawns) := by
  have split := inTurn_append errands []
  rwa [List.append_nil, List.nil_append] at split

/-! Places in a forest -/

/-- Which errand of the forest, which one of those that this one queues, and so on. -/
abbrev Place := List Nat

/-- The errand at a place. -/
def at? (forest : List Errand) : Place → Option Errand
  | [] => none
  | index :: path => forest[index]?.bind fun one => path.foldlM (fun one next => one.spawns[next]?) one

theorem at?_snoc (forest : List Errand) {place : Place} (inside : place ≠ []) (index : Nat) :
    at? forest (place ++ [index]) = (at? forest place).bind fun one => one.spawns[index]? := by
  cases place with
  | nil => exact absurd rfl inside
  | cons first path =>
    rw [List.cons_append, at?, at?, Option.bind_assoc]
    congr 1
    funext one
    rw [List.foldlM_append, Option.bind_eq_bind]
    simp only [List.foldlM_cons, List.foldlM_nil, Option.bind_eq_bind, Option.pure_def,
      Option.bind_fun_some]

/-- The order in which errands are run: higher levels first, and within a level from the first place
to the last. -/
def Before (first second : Place) : Prop :=
  first.length < second.length ∨ first.length = second.length ∧ first < second

theorem append_lt_append {first second : Place} (less : first < second)
    (same : first.length = second.length) (behind other : List Nat) :
    first ++ behind < second ++ other := by
  induction less with
  | nil => cases same
  | rel less => exact .rel less
  | cons _ ih => exact .cons (ih (Nat.succ.inj same))

/-- Errands with their places below a place of the upper level. -/
def numbered (place : Place) (errands : List Errand) : List (Place × Errand) :=
  errands.zipIdx.map fun one => (place ++ [one.2], one.1)

theorem errands_numbered (place : Place) (errands : List Errand) :
    (numbered place errands).map Prod.snd = errands := by
  rw [numbered, List.map_map]
  exact List.zipIdx_map_fst 0 errands

theorem mem_numbered_iff {place : Place} {errands : List Errand} {one : Place × Errand} :
    one ∈ numbered place errands ↔
      ∃ index, one.1 = place ++ [index] ∧ errands[index]? = some one.2 := by
  rw [numbered, List.mem_map]
  constructor
  · rintro ⟨⟨errand, index⟩, there, rfl⟩
    exact ⟨index, rfl, List.mem_zipIdx_iff_getElem?.mp there⟩
  · rintro ⟨index, place, there⟩
    exact ⟨(one.2, index), List.mem_zipIdx_iff_getElem?.mpr there, Prod.ext place.symm rfl⟩

theorem sorted_numbered (place : Place) (errands : List Errand) :
    (numbered place errands).Pairwise fun first second => first.1 < second.1 := by
  have numbers : (errands.zipIdx.map Prod.snd).Pairwise (· < ·) := by
    rw [List.zipIdx_map_snd]
    exact List.pairwise_lt_range'
  rw [List.pairwise_map] at numbers
  rw [numbered, List.pairwise_map]
  exact numbers.imp fun less => List.append_left_lt (.rel less)

/-- The errands of one level, with their places. -/
def level (forest : List Errand) : Nat → List (Place × Errand)
  | 0 => numbered [] forest
  | depth + 1 => (level forest depth).flatMap fun one => numbered one.1 one.2.spawns

theorem errands_level_succ (forest : List Errand) (depth : Nat) :
    (level forest (depth + 1)).map Prod.snd =
      ((level forest depth).map Prod.snd).flatMap spawns := by
  rw [level, List.map_flatMap, List.flatMap_map]
  simp only [errands_numbered]

theorem mem_level_iff {forest : List Errand} {depth : Nat} {one : Place × Errand} :
    one ∈ level forest depth ↔ one.1.length = depth + 1 ∧ at? forest one.1 = some one.2 := by
  obtain ⟨place, here⟩ := one
  induction depth generalizing place here with
  | zero =>
    rw [level, mem_numbered_iff]
    constructor
    · rintro ⟨index, rfl, there⟩
      exact ⟨rfl, by simpa [at?] using there⟩
    · rintro ⟨single, there⟩
      obtain ⟨index, rfl⟩ := List.length_eq_one_iff.mp single
      exact ⟨index, rfl, by simpa [at?] using there⟩
  | succ depth ih =>
    rw [level, List.mem_flatMap]
    constructor
    · rintro ⟨⟨above, upper⟩, high, low⟩
      obtain ⟨length, found⟩ := (ih above upper).mp high
      obtain ⟨index, rfl, there⟩ := mem_numbered_iff.mp low
      have inside : above ≠ [] := List.ne_nil_of_length_eq_add_one length
      rw [at?_snoc forest inside, found]
      exact ⟨by rw [List.length_append, length]; rfl, there⟩
    · rintro ⟨length, found⟩
      have inside : place ≠ [] := List.ne_nil_of_length_eq_add_one length
      obtain ⟨above, index, rfl⟩ := (List.eq_nil_or_concat place).resolve_left inside
      rw [List.concat_eq_append] at found length ⊢
      replace length : above.length = depth + 1 := by simpa using length
      rw [at?_snoc forest (List.ne_nil_of_length_eq_add_one length)] at found
      obtain ⟨upper, high, low⟩ := Option.bind_eq_some_iff.mp found
      exact ⟨(above, upper), (ih above upper).mpr ⟨length, high⟩,
        mem_numbered_iff.mpr ⟨index, rfl, low⟩⟩

theorem sorted_level (forest : List Errand) (depth : Nat) :
    (level forest depth).Pairwise fun first second => first.1 < second.1 := by
  induction depth with
  | zero => exact sorted_numbered [] forest
  | succ depth ih =>
    rw [level, List.pairwise_flatMap]
    refine ⟨fun one _ => sorted_numbered one.1 one.2.spawns, ?_⟩
    refine ih.imp_of_mem fun {one other} here there less => ?_
    intro low numbered lower numbers
    obtain ⟨index, place, -⟩ := mem_numbered_iff.mp numbered
    obtain ⟨number, below, -⟩ := mem_numbered_iff.mp numbers
    have same : one.1.length = other.1.length :=
      (mem_level_iff.mp here).1.trans (mem_level_iff.mp there).1.symm
    rw [place, below]
    exact append_lt_append less same [index] [number]

/-- Below an empty level there is nothing. -/
theorem not_below_of_empty {forest : List Errand} {depth : Nat} (empty : level forest depth = [])
    {place : Place} (below : depth < place.length) : at? forest place = none := by
  have later (more : Nat) : level forest (depth + more) = [] := by
    induction more with
    | zero => exact empty
    | succ more ih => rw [← Nat.add_assoc, level, ih, List.flatMap_nil]
  rw [Option.eq_none_iff_forall_ne_some]
  intro one there
  have deep : depth + (place.length - 1 - depth) + 1 = place.length := by omega
  have member : (place, one) ∈ level forest _ := mem_level_iff.mpr ⟨deep.symm, there⟩
  rw [later] at member
  exact absurd member List.not_mem_nil

/-- The errands from some level on, in the order of their runs. -/
structure Ordered (forest : List Errand) (depth : Nat) (order : List (Place × Errand)) : Prop where
  sorted : order.Pairwise fun first second => Before first.1 second.1
  mem_iff : ∀ one, one ∈ order ↔ depth < one.1.length ∧ at? forest one.1 = some one.2
  inTurn : order.map Prod.snd = inTurn ((level forest depth).map Prod.snd)

theorem Ordered.above {forest : List Errand} {depth : Nat} {order : List (Place × Errand)}
    (ordered : Ordered forest (depth + 1) order) :
    Ordered forest depth (level forest depth ++ order) where
  sorted := by
    rw [List.pairwise_append]
    refine ⟨?_, ordered.sorted, ?_⟩
    · refine (sorted_level forest depth).imp_of_mem fun here there less => .inr ⟨?_, less⟩
      rw [(mem_level_iff.mp here).1, (mem_level_iff.mp there).1]
    · intro one here other there
      have upper := (mem_level_iff.mp here).1
      have lower := ((ordered.mem_iff other).mp there).1
      exact .inl (by omega)
  mem_iff one := by
    rw [List.mem_append, mem_level_iff, ordered.mem_iff, ← or_and_right]
    refine and_congr_left fun _ => ?_
    omega
  inTurn := by
    rw [inTurn_level, ← errands_level_succ, ← ordered.inTurn, List.map_append]

/-- By induction on the number of errands from this level on. -/
theorem ordered_exists (forest : List Errand) (depth : Nat) :
    ∃ order, Ordered forest depth order := by
  generalize size : countAll ((level forest depth).map Prod.snd) = errands
  induction errands using Nat.strongRecOn generalizing depth with
  | _ errands ih =>
    by_cases empty : level forest depth = []
    · refine ⟨[], .nil, fun one => ?_, by rw [empty]; simp [inTurn]⟩
      refine ⟨fun none => absurd none List.not_mem_nil, fun ⟨below, there⟩ => ?_⟩
      rw [not_below_of_empty empty below] at there
      cases there
    · have some : 0 < (level forest depth).length := List.length_pos_iff.mpr empty
      rw [countAll_flatMap_spawns, List.length_map, ← errands_level_succ] at size
      obtain ⟨order, ordered⟩ := ih _ (by omega) (depth + 1) rfl
      exact ⟨_, ordered.above⟩

/-- All errands of a forest, each once, with their places. -/
structure InOrder (forest : List Errand) (places : List Place) (errands : List Errand) : Prop where
  sorted : places.Pairwise Before
  mem_iff : ∀ place, place ∈ places ↔ (at? forest place).isSome
  errands : places.map (at? forest) = errands.map some

theorem inOrder_inTurn (forest : List Errand) :
    ∃ places, InOrder forest places (inTurn forest) := by
  obtain ⟨order, ordered⟩ := ordered_exists forest 0
  have turns := ordered.inTurn
  rw [level, errands_numbered] at turns
  refine ⟨order.map Prod.fst, List.pairwise_map.mpr ordered.sorted, fun place => ?_, ?_⟩
  · rw [List.mem_map]
    constructor
    · rintro ⟨one, there, rfl⟩
      exact Option.isSome_of_eq_some ((ordered.mem_iff one).mp there).2
    · intro there
      obtain ⟨one, here⟩ := Option.isSome_iff_exists.mp there
      have inside : place ≠ [] := by
        rintro rfl
        cases here
      exact ⟨(place, one), (ordered.mem_iff _).mpr ⟨List.length_pos_iff.mpr inside, here⟩, rfl⟩
  · rw [← turns, List.map_map, List.map_map]
    exact List.map_congr_left fun one there => ((ordered.mem_iff one).mp there).2

end Errand

end Playback
