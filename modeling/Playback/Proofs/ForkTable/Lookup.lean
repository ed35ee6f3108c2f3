import Playback.ForkTable
import Playback.Proofs.Lists

set_option autoImplicit false

namespace Playback

namespace ForkTable

variable {Handle : Type}

/-- Taking messages out in place leaves the others as a filter leaves them. -/
theorem takeHeld_eq (fork : UInt32) (pending : List Message) (position : Nat) :
    takeHeld fork pending position =
      ((pending.drop position).filter (fun message => message.fork = fork),
        pending.take position ++
          (pending.drop position).filter (fun message => message.fork ≠ fork)) := by
  induction pending, position using takeHeld.induct fork with
  | case1 pending position inside own ih =>
    have rest := List.drop_eq_getElem_cons inside
    have short : (pending.take position).length = position :=
      List.length_take_of_le (Nat.le_of_lt inside)
    have front : (pending.eraseIdx position).take position = pending.take position := by
      rw [List.eraseIdx_eq_take_drop_succ, List.take_left' short]
    have back : (pending.eraseIdx position).drop position = pending.drop (position + 1) := by
      rw [List.eraseIdx_eq_take_drop_succ, List.drop_left' short]
    rw [takeHeld, dif_pos inside, if_pos own, ih, front, back, rest,
      List.filter_cons_of_pos (by simp [own]), List.filter_cons_of_neg (by simp [own])]
  | case2 pending position inside other ih =>
    have rest := List.drop_eq_getElem_cons inside
    have front : pending.take (position + 1) = pending.take position ++ [pending[position]] :=
      List.take_succ_eq_append_getElem inside
    rw [takeHeld, dif_pos inside, if_neg other, ih, front, rest,
      List.filter_cons_of_neg (by simp [other]), List.filter_cons_of_pos (by simp [other]),
      List.append_assoc, List.singleton_append]
  | case3 pending position outside =>
    have past : pending.length ≤ position := Nat.le_of_not_lt outside
    rw [takeHeld, dif_neg outside, List.drop_of_length_le past, List.take_of_length_le past,
      List.filter_nil, List.filter_nil, List.append_nil]

theorem register_eq (table : ForkTable Handle) (fork : UInt32) (process : ForkedProcess Handle) :
    table.register fork process = (table.pendingFor fork,
      { processes := (table.remove fork).processes ++ [(fork, process)],
        pending := table.pending.filter (fun message => message.fork ≠ fork) }) := by
  simp only [register, takeHeld_eq, List.drop_zero, List.take_zero, List.nil_append, pendingFor]

theorem process?_remove (table : ForkTable Handle) (fork other : UInt32) :
    (table.remove fork).process? other = if other = fork then none else table.process? other :=
  lookup_filter_ne table.processes fork other

theorem process?_register (table : ForkTable Handle) (fork other : UInt32)
    (process : ForkedProcess Handle) :
    (table.register fork process).2.process? other =
      if other = fork then some process else table.process? other := by
  have removed := process?_remove table fork other
  unfold process? at removed
  rw [register_eq]
  unfold process?
  dsimp only
  rw [List.lookup_append, removed]
  by_cases asked : other = fork
  · subst asked
    simp
  · have apart : (other == fork) = false := beq_false_of_ne asked
    simp [asked, List.lookup_cons, apart]

theorem pendingFor_register (table : ForkTable Handle) (fork other : UInt32)
    (process : ForkedProcess Handle) :
    (table.register fork process).2.pendingFor other =
      if other = fork then [] else table.pendingFor other := by
  rw [register_eq]
  unfold pendingFor
  rw [List.filter_filter]
  by_cases asked : other = fork
  · subst asked
    simp
  · rw [if_neg asked]
    apply List.filter_congr
    intro message _
    by_cases own : message.fork = other
    · simp [own, asked]
    · simp [own]

theorem length_pendingFor_snoc (table : ForkTable Handle) (message : Message) (fork : UInt32) :
    ({ table with pending := table.pending ++ [message] }.pendingFor fork).length =
      (table.pendingFor fork).length + if message.fork = fork then 1 else 0 := by
  rw [pendingFor, List.filter_append, List.length_append]
  congr 1
  split
  case isTrue same => simp [same]
  case isFalse apart => simp [apart]

/-- Routing to a fork without a process. -/
theorem route_of_none {table : ForkTable Handle} {message : Message}
    (absent : table.process? message.fork = none) :
    table.route message = (.held, { table with pending := table.pending ++ [message] }) := by
  simp only [route, absent]

theorem route_of_some {table : ForkTable Handle} {message : Message}
    {process : ForkedProcess Handle} (present : table.process? message.fork = some process) :
    table.route message = (.sent process.handle (endsProcess message),
      if endsProcess message then table.remove message.fork else table) := by
  cases ends : endsProcess message <;> simp [route, present, ends]

end ForkTable

end Playback
