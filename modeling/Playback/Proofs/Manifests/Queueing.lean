import Playback.Manifests
import Playback.Proofs.Lists
import Mathlib.Data.List.Induction
import Mathlib.Data.List.Pairwise

set_option autoImplicit false

namespace Playback

namespace Manifests

/-! What is done with a queue -/

def Call.pushed? : Call → Option Bytes
  | push manifest => some manifest
  | _ => none

def Answer.started? : Answer → Option Bytes
  | start manifest => manifest
  | _ => none

/-- A queue, and the manifests that it has given for starting, first one first. -/
structure Service where
  manifests : Manifests := {}
  started : List Bytes := []

/-- A call that has to wait leaves everything as it is. -/
def Service.take (service : Service) (call : Call) : Service :=
  match call.move service.manifests with
  | none => service
  | some moved =>
    { manifests := moved.state
      started := service.started ++ (moved.next.getRight?.bind Answer.started?).toList }

/-- A new queue after so many calls. -/
def use (calls : List Call) : Service := calls.foldl Service.take {}

def pushed (calls : List Call) : List Bytes := calls.filterMap Call.pushed?

/-- The number of pushes whose manifests do not wait any more. -/
def settled (calls : List Call) : Nat :=
  (pushed calls).length - (use calls).manifests.pending.length

/-- The manifest of a push waits. Pushes are numbered from zero, and the latest ones wait. -/
def Waits (calls : List Call) (number : Nat) : Prop :=
  settled calls ≤ number ∧ number < (pushed calls).length

/-- The manifest of a push waited when the queue was cleared. -/
def Dropped (calls : List Call) (number : Nat) : Prop :=
  ∃ before after, calls = before ++ .clearPending :: after ∧ Waits before number

/-! One call -/

/-- What is started was the first of those that wait. -/
theorem startNext_split (manifests : Manifests) :
    manifests.startNext.1.toList ++ manifests.startNext.2.pending = manifests.pending := by
  unfold startNext
  split
  · rename_i waits
    rw [waits]
    rfl
  · rfl

theorem startNext_idle (manifests : Manifests) (idle : manifests.startNext.2.processing = false) :
    manifests.startNext.2.pending = [] := by
  cases manifests with
  | mk pending processing =>
    cases processing with
    | true => cases idle
    | false =>
      cases pending with
      | nil => rfl
      | cons first rest => cases idle

theorem use_snoc (calls : List Call) (call : Call) :
    use (calls ++ [call]) = (use calls).take call := by
  rw [use, List.foldl_append]
  rfl

theorem pushed_snoc (calls : List Call) (call : Call) :
    pushed (calls ++ [call]) = pushed calls ++ call.pushed?.toList :=
  filterMap_snoc _ _ _

theorem take_awaitIdle (service : Service) : service.take .awaitIdle = service := by
  unfold Service.take Call.move
  cases service.manifests.isIdle with
  | false => rfl
  | true =>
    have same : service.started ++ [] = service.started := List.append_nil _
    simp only [if_true, Sum.getRight?_inr, Option.bind_some, Answer.started?, Option.toList_none,
      same]

/-- Every call but one that clears moves manifests along the line, from the pushes to those that
wait and on to those that are started. -/
theorem take_moves_along (service : Service) {call : Call} (keeps : call ≠ .clearPending)
    (sound : service.manifests.processing = false → service.manifests.pending = []) :
    ∃ first : Option Bytes,
      (service.take call).started = service.started ++ first.toList ∧
      first.toList ++ (service.take call).manifests.pending =
        service.manifests.pending ++ call.pushed?.toList ∧
      ((service.take call).manifests.processing = false →
        (service.take call).manifests.pending = []) := by
  cases call with
  | push manifest =>
    exact ⟨(service.manifests.push manifest).1, rfl, startNext_split _, startNext_idle _⟩
  | finish =>
    refine ⟨service.manifests.finish.1, rfl, ?_, startNext_idle _⟩
    exact (startNext_split _).trans (List.append_nil _).symm
  | clearPending => exact absurd rfl keeps
  | awaitIdle =>
    rw [take_awaitIdle]
    exact ⟨none, (List.append_nil _).symm, (List.append_nil _).symm, sound⟩

/-! Any use -/

/-- The pushes of these numbers have been started, and the latest pushes wait. -/
structure Kept (calls : List Call) (numbers : List Nat) : Prop where
  idle : (use calls).manifests.processing = false → (use calls).manifests.pending = []
  waits : (use calls).manifests.pending = (pushed calls).drop (settled calls)
  dropped : ∀ number, Dropped calls number → number < settled calls
  ordered : numbers.Pairwise (· < ·)
  mem_iff : ∀ number, number ∈ numbers ↔ number < settled calls ∧ ¬ Dropped calls number
  started : (use calls).started.map some = numbers.map ((pushed calls)[·]?)

theorem not_dropped_nil (number : Nat) : ¬ Dropped [] number := by
  rintro ⟨before, after, same, -⟩
  exact List.append_ne_nil_of_right_ne_nil before (List.cons_ne_nil _ _) same.symm

theorem dropped_snoc_iff (calls : List Call) (call : Call) (number : Nat) :
    Dropped (calls ++ [call]) number ↔
      Dropped calls number ∨ call = .clearPending ∧ Waits calls number := by
  constructor
  · rintro ⟨before, after, same, waits⟩
    rcases snoc_eq_middle same with ⟨rfl, rfl, rfl⟩ | ⟨others, rfl, rfl⟩
    · exact .inr ⟨rfl, waits⟩
    · exact .inl ⟨before, others, rfl, waits⟩
  · rintro (⟨before, after, rfl, waits⟩ | ⟨rfl, waits⟩)
    · exact ⟨before, after ++ [call], by simp, waits⟩
    · exact ⟨calls, [], rfl, waits⟩

theorem dropped_snoc_of_keeps {calls : List Call} {call : Call} (keeps : call ≠ .clearPending)
    {number : Nat} : Dropped (calls ++ [call]) number ↔ Dropped calls number := by
  rw [dropped_snoc_iff, or_iff_left]
  exact fun clears => keeps clears.1

theorem kept_nil : Kept [] [] where
  idle _ := rfl
  waits := rfl
  dropped number there := absurd there (not_dropped_nil number)
  ordered := .nil
  mem_iff number := by simp [settled, pushed]
  started := rfl

section
variable {calls : List Call} {numbers : List Nat} {call : Call}

theorem Kept.pending_le (kept : Kept calls numbers) :
    (use calls).manifests.pending.length ≤ (pushed calls).length := by
  rw [kept.waits, List.length_drop]
  exact Nat.sub_le _ _

/-- What has been pushed stays where it is among the pushes. -/
theorem Kept.started_snoc (kept : Kept calls numbers) (call : Call) :
    (use calls).started.map some = numbers.map ((pushed (calls ++ [call]))[·]?) := by
  rw [kept.started]
  apply List.map_congr_left
  intro number there
  have early := ((kept.mem_iff number).mp there).1
  rw [pushed_snoc, List.getElem?_append_left (Nat.lt_of_lt_of_le early (Nat.sub_le _ _))]

theorem Kept.clears (kept : Kept calls numbers) : Kept (calls ++ [.clearPending]) numbers := by
  have taken : use (calls ++ [.clearPending]) =
      { (use calls) with manifests := (use calls).manifests.clearPending } := by
    rw [use_snoc]
    simp [Service.take, Call.move, Answer.started?]
  have same : pushed (calls ++ [.clearPending]) = pushed calls := by
    rw [pushed_snoc]
    exact List.append_nil _
  have all : settled (calls ++ [.clearPending]) = (pushed calls).length := by
    rw [settled, same, taken]
    rfl
  constructor
  · rw [taken]
    exact fun _ => rfl
  · rw [taken, same, all, List.drop_length]
    rfl
  · intro number there
    rw [all]
    rcases (dropped_snoc_iff _ _ _).mp there with before | ⟨-, waits⟩
    · exact Nat.lt_of_lt_of_le (kept.dropped number before) (Nat.sub_le _ _)
    · exact waits.2
  · exact kept.ordered
  · intro number
    rw [kept.mem_iff, all, dropped_snoc_iff]
    have fewer : settled calls ≤ (pushed calls).length := Nat.sub_le _ _
    simp only [Waits, true_and, not_or, not_and, Nat.not_lt]
    constructor
    · rintro ⟨early, stays⟩
      exact ⟨Nat.lt_of_lt_of_le early fewer, stays, fun late => absurd early (Nat.not_lt.mpr late)⟩
    · rintro ⟨inside, stays, others⟩
      refine ⟨?_, stays⟩
      by_contra late
      exact absurd inside (Nat.not_lt.mpr (others (Nat.not_lt.mp late)))
  · rw [taken]
    exact kept.started_snoc _

/-- Behind the settled pushes of before stand what is started now and what waits still. -/
theorem Kept.front (kept : Kept calls numbers) (keeps : call ≠ .clearPending) :
    ∃ first : Option Bytes,
      (use (calls ++ [call])).started = (use calls).started ++ first.toList ∧
      settled (calls ++ [call]) = settled calls + first.toList.length ∧
      (pushed (calls ++ [call])).drop (settled calls) =
        first.toList ++ (use (calls ++ [call])).manifests.pending ∧
      ((use (calls ++ [call])).manifests.processing = false →
        (use (calls ++ [call])).manifests.pending = []) := by
  obtain ⟨first, started, left, idle⟩ := take_moves_along (use calls) keeps kept.idle
  rw [← use_snoc] at started left idle
  refine ⟨first, started, ?_, ?_, idle⟩
  · have fewer := kept.pending_le
    have lengths := congrArg List.length left
    simp only [List.length_append] at lengths
    rw [settled, settled, pushed_snoc, List.length_append]
    omega
  · have early : settled calls ≤ (pushed calls).length := Nat.sub_le _ _
    rw [pushed_snoc, List.drop_append_of_le_length early, ← kept.waits, left]

theorem Kept.moves_along (kept : Kept calls numbers) (keeps : call ≠ .clearPending) :
    ∃ more, Kept (calls ++ [call]) more := by
  obtain ⟨first, started, further, behind, idle⟩ := kept.front keeps
  have waits : (use (calls ++ [call])).manifests.pending =
      (pushed (calls ++ [call])).drop (settled (calls ++ [call])) := by
    rw [further, ← List.drop_drop, behind, List.drop_left]
  have dropped : ∀ number, Dropped (calls ++ [call]) number →
      number < settled (calls ++ [call]) := by
    intro number there
    rw [further]
    exact Nat.lt_add_right _ (kept.dropped number ((dropped_snoc_of_keeps keeps).mp there))
  cases first with
  | none =>
    rw [Option.toList_none, List.length_nil, Nat.add_zero] at further
    refine ⟨numbers, idle, waits, dropped, kept.ordered, ?_, ?_⟩
    · intro number
      rw [kept.mem_iff, further, dropped_snoc_of_keeps keeps]
    · rw [started, Option.toList_none, List.append_nil]
      exact kept.started_snoc call
  | some manifest =>
    rw [Option.toList_some, List.length_singleton] at further
    refine ⟨numbers ++ [settled calls], idle, waits, dropped, ?_, ?_, ?_⟩
    · rw [List.pairwise_append]
      refine ⟨kept.ordered, List.pairwise_singleton _ _, ?_⟩
      intro number there next last
      rw [List.mem_singleton.mp last]
      exact ((kept.mem_iff number).mp there).1
    · intro number
      rw [List.mem_append, List.mem_singleton, kept.mem_iff, further, Nat.lt_succ_iff_lt_or_eq,
        or_and_right, dropped_snoc_of_keeps keeps]
      refine or_congr_right ⟨?_, And.left⟩
      rintro rfl
      exact ⟨rfl, fun there => Nat.lt_irrefl _ (kept.dropped _ there)⟩
    · have next : (pushed (calls ++ [call]))[settled calls]? = some manifest := by
        rw [← List.head?_drop, behind]
        rfl
      rw [started, List.map_append, List.map_append, kept.started_snoc call, List.map_singleton,
        next]
      rfl

end

theorem kept_exists (calls : List Call) : ∃ numbers, Kept calls numbers := by
  induction calls using List.reverseRecOn with
  | nil => exact ⟨[], kept_nil⟩
  | append_singleton calls call ih =>
    obtain ⟨numbers, kept⟩ := ih
    by_cases clears : call = .clearPending
    · rw [clears]
      exact ⟨numbers, kept.clears⟩
    · exact kept.moves_along clears

/-- Whatever has been done with a queue, nothing waits while it is idle. What waits are the latest
pushes, and what has been started are the others, in the order of the pushes and each once, but for
those that waited when the queue was cleared. A manifest that is pushed to an idle queue is started,
and whoever waits for the queue to be idle goes on exactly while nothing is being processed. -/
theorem started_are_pushed_in_order (calls : List Call) :
    let queue := (use calls).manifests
    (queue.processing = false → queue.pending = []) ∧
    (queue.pending = (pushed calls).drop (settled calls) ∧
      settled calls + queue.pending.length = (pushed calls).length) ∧
    (∃ numbers : List Nat, numbers.Pairwise (· < ·) ∧
      (∀ number, number ∈ numbers ↔
        number < (pushed calls).length ∧ ¬ Waits calls number ∧ ¬ Dropped calls number) ∧
      (use calls).started.map some = numbers.map ((pushed calls)[·]?)) ∧
    (∀ manifest, queue.processing = false → (queue.push manifest).1 = some manifest) ∧
    ((Call.awaitIdle.move queue).isSome ↔ queue.processing = false) := by
  obtain ⟨numbers, kept⟩ := kept_exists calls
  have fewer := kept.pending_le
  refine ⟨kept.idle, ⟨kept.waits, Nat.sub_add_cancel fewer⟩,
    ⟨numbers, kept.ordered, ?_, kept.started⟩, ?_, ?_⟩
  · intro number
    have early : settled calls ≤ (pushed calls).length := Nat.sub_le _ _
    rw [kept.mem_iff, ← and_assoc]
    refine and_congr_left' ?_
    unfold Waits
    omega
  · intro manifest idle
    rw [Manifests.push, idle, kept.idle idle]
    rfl
  · rw [Call.move, Option.isSome_ite, isIdle]
    cases processing : (use calls).manifests.processing with
    | true => simp
    | false => simp [kept.idle processing]

/-- Two of four manifests wait when the queue is cleared. -/
example :
    let calls : List Call :=
      [.finish, .push [1], .push [2], .push [3], .clearPending, .push [4], .finish]
    (use calls).started = [[1], [4]] ∧ settled calls = 4 ∧ pushed calls = [[1], [2], [3], [4]] := by
  decide

end Manifests

end Playback
