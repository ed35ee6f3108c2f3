import Playback.Proofs.Crew.Course
import Playback.Proofs.Lists
import Playback.Proofs.TaskQueue.Levels

set_option autoImplicit false

namespace Playback

namespace TaskQueue

open Errand (InOrder inTurn)

/-! A call among no others -/

/-- What an errand still has to queue stands behind all that wait when its call goes on. -/
theorem advance_inside (ticket : Nat) (records : List Record) (fuel : Nat)
    (tasks begun left : List Errand) (errand : Errand) (ran : Nat) :
    Crew.advance Call.move (fuel + left.length + 1) { queue := { tasks }, begun }
        { ticket, call := .inside errand left (some ran), records } =
      Crew.advance Call.move fuel { queue := { tasks := tasks ++ left }, begun }
        { ticket, call := .draining ran, records } := by
  induction left generalizing tasks with
  | nil =>
    rw [Crew.advance]
    simp only [Call.move, List.append_nil, List.length_nil, Nat.add_zero]
  | cons first left ih =>
    rw [Crew.advance]
    simp only [Call.move, push, List.append_nil, List.length_cons]
    rw [← Nat.add_assoc, ih, List.append_assoc, List.singleton_append]

/-- By induction on the errands in turn: one of them with all that it queues is a turn. -/
theorem advance_draining (tasks begun : List Errand) (ran : Nat) :
    ∃ steps, ∀ ticket records more,
      Crew.advance Call.move (more + steps + 1) { queue := { tasks }, begun }
          { ticket, call := .draining ran, records } =
        ({ queue := {}, begun := begun ++ inTurn tasks },
          .inr { ticket, answer := .count (ran + (inTurn tasks).length), records }) := by
  fun_induction inTurn tasks generalizing begun ran with
  | case1 =>
    refine ⟨0, fun ticket records more => ?_⟩
    rw [Crew.advance]
    simp [Call.move, Desk.drain, Desk.begin?, next?]
  | case2 first rest ih =>
    obtain ⟨steps, drained⟩ := ih (begun ++ [first]) (ran + 1)
    refine ⟨steps + 1 + first.spawns.length + 1, fun ticket records more => ?_⟩
    rw [Crew.advance]
    simp only [Call.move, Desk.drain, Desk.begin?, next?, Option.map_some, Option.getD_some,
      List.append_nil]
    rw [← Nat.add_assoc, ← Nat.add_assoc, ← Nat.add_assoc, advance_inside, drained,
      List.append_assoc, List.singleton_append, List.length_cons, Nat.add_assoc ran, Nat.add_comm 1]

example :
    let tasks := [.errand "a" [.errand "c" [.errand "e" []]], .errand "b" [.errand "d" []]]
    (Crew.advance Call.move 20 { queue := { tasks } } { ticket := 0, call := .runPending }).1.ran =
      ["a", "b", "c", "d", "e"] := by
  decide

/-! Calls among others -/

/-- The call takes errands off the queue. -/
def Call.consumes : Call → Bool
  | .runOne | .runPending | .draining _ | .inside _ _ _ => true
  | .push _ | .isEmpty => false

/-- What threads are called on to do. -/
def Call.opens : Call → Bool
  | .push _ | .runOne | .runPending | .isEmpty => true
  | .draining _ | .inside _ _ _ => false

/-- One thread takes errands off the queue, in one call after the other. Any number of threads push
errands and look at the queue. -/
def Begins (crew : Crew Desk Call) (call : Call) : Prop :=
  call.opens = true ∧
    (call.consumes = true → ∀ one ∈ crew.waiting, one.call.consumes = false)

instance (crew : Crew Desk Call) (call : Call) : Decidable (Begins crew call) :=
  inferInstanceAs (Decidable (_ ∧ (_ → _)))

def Goes (call : Call) (desk : Desk) (moved : Move Desk Call Answer) : Prop :=
  call.move desk = some moved

abbrev Runs : Course Desk Call Answer → Course Desk Call Answer → Prop :=
  Course.Run Begins Goes

/-- The errand that the call is in the middle of. -/
def Call.inHand : Call → List Errand
  | .inside errand _ _ => [errand]
  | _ => []

/-- What that errand still has to queue. -/
def Call.left : Call → List Errand
  | .inside _ left _ => left
  | _ => []

/-- The errand that comes to its end with the next step. -/
def Call.ending : Call → List Errand
  | .inside errand [] _ => [errand]
  | _ => []

/-- What the errand in hand queues with the next step. -/
def Call.spawning : Call → List Errand
  | .inside _ left _ => left.take 1
  | _ => []

/-- What the next step queues. -/
def Call.queueing : Call → List Errand
  | .push errand => [errand]
  | call => call.spawning

def queued (steps : List (Crew.Taken Desk Call Answer)) : List Errand :=
  steps.flatMap (·.one.call.queueing)

def ended (steps : List (Crew.Taken Desk Call Answer)) : List Errand :=
  steps.flatMap (·.one.call.ending)

def spawned (steps : List (Crew.Taken Desk Call Answer)) : List Errand :=
  steps.flatMap (·.one.call.spawning)

def inHand (waiting : List (Waiting Call)) : List Errand := waiting.flatMap (·.call.inHand)

def left (waiting : List (Waiting Call)) : List Errand := waiting.flatMap (·.call.left)

/-! Steps -/

section
variable {call : Call} {desk : Desk} {moved : Move Desk Call Answer}

/-- What a step does to the desk, and to the errand in hand. -/
structure Served (call : Call) (desk : Desk) (moved : Move Desk Call Answer)
    (started : List Errand) : Prop where
  begun : moved.state.begun = desk.begun ++ started
  tasks : started ++ moved.state.queue.tasks = desk.queue.tasks ++ call.queueing
  inHand : call.inHand ++ started = call.ending ++ moved.next.elim Call.inHand fun _ => []
  left : call.spawning ++ moved.next.elim Call.left (fun _ => []) =
    call.left ++ started.flatMap Errand.spawns
  consumes : moved.next.elim Call.consumes (fun _ => false) = true → call.consumes = true

theorem tasks_of_next {queue rest : TaskQueue Errand} {errand : Errand}
    (first : queue.next? = some (errand, rest)) : queue.tasks = errand :: rest.tasks := by
  unfold next? at first
  split at first
  · cases first
  next errand rest same =>
    cases first
    exact same

theorem quiet_of_idle (idle : call.inHand = []) :
    call.left = [] ∧ call.ending = [] ∧ call.spawning = [] := by
  cases call with
  | inside => cases idle
  | _ => exact ⟨rfl, rfl, rfl⟩

theorem queueing_of_idle (consumes : call.consumes = true) (idle : call.inHand = []) :
    call.queueing = [] := by
  cases call with
  | push => cases consumes
  | inside => cases idle
  | _ => rfl

theorem idle_of_other (other : call.consumes = false) : call.inHand = [] := by
  cases call with
  | push | isEmpty => rfl
  | _ => cases other

theorem idle_of_opens (opens : call.opens = true) : call.inHand = [] := by
  cases call with
  | inside => cases opens
  | _ => rfl

/-- A call that begins an errand was in the middle of none. -/
theorem served_of_begin {ran : Option Nat} (consumes : call.consumes = true)
    (idle : call.inHand = []) (begins : desk.begin? ran = some moved) :
    ∃ started, Served call desk moved started := by
  obtain ⟨⟨errand, rest⟩, first, rfl⟩ := Option.map_eq_some_iff.mp begins
  obtain ⟨left, ending, spawning⟩ := quiet_of_idle idle
  refine ⟨[errand], rfl, ?_, ?_, ?_, fun _ => consumes⟩
  · rw [queueing_of_idle consumes idle, List.append_nil]
    exact (tasks_of_next first).symm
  · rw [idle, ending]
    rfl
  · rw [left, spawning, List.flatMap_singleton]
    rfl

theorem served_of_drain {ran : Nat} (consumes : call.consumes = true) (idle : call.inHand = [])
    (drains : desk.drain ran = moved) : ∃ started, Served call desk moved started := by
  subst drains
  cases begins : desk.begin? (some (ran + 1)) with
  | some begun =>
    rw [Desk.drain, begins]
    exact served_of_begin consumes idle begins
  | none =>
    obtain ⟨left, ending, spawning⟩ := quiet_of_idle idle
    have queueing := queueing_of_idle consumes idle
    rw [Desk.drain, begins]
    exact ⟨[], by simp, by simp [queueing], by simp [idle, ending], by simp [left, spawning],
      fun _ => consumes⟩

theorem served_of_goes (goes : Goes call desk moved) :
    ∃ started, Served call desk moved started := by
  cases call with
  | push errand =>
    cases goes
    exact ⟨[], (List.append_nil _).symm, rfl, rfl, rfl, Bool.noConfusion⟩
  | runOne => exact served_of_begin rfl rfl goes
  | runPending => exact served_of_drain rfl rfl (Option.some.inj goes)
  | draining ran => exact served_of_drain rfl rfl (Option.some.inj goes)
  | inside errand left ran =>
    refine ⟨[], ?_⟩
    cases left with
    | cons first left =>
      cases goes
      exact ⟨(List.append_nil _).symm, rfl, rfl, (List.append_nil _).symm, fun _ => rfl⟩
    | nil =>
      cases ran <;> cases goes <;>
        exact ⟨(List.append_nil _).symm, (List.append_nil _).symm, rfl, rfl, fun _ => rfl⟩
  | isEmpty =>
    cases goes
    exact ⟨[], (List.append_nil _).symm, (List.append_nil _).symm, rfl, rfl, Bool.noConfusion⟩

end

section
variable (steps : List (Crew.Taken Desk Call Answer)) (step : Crew.Taken Desk Call Answer)

theorem queued_snoc : queued (steps ++ [step]) = queued steps ++ step.one.call.queueing :=
  flatMap_snoc _ steps step

theorem ended_snoc : ended (steps ++ [step]) = ended steps ++ step.one.call.ending :=
  flatMap_snoc _ steps step

theorem spawned_snoc : spawned (steps ++ [step]) = spawned steps ++ step.one.call.spawning :=
  flatMap_snoc _ steps step

end

/-! What holds at every moment -/

variable {desk : Desk} {course next : Course Desk Call Answer} {one : Waiting Call}
  {moved : Move Desk Call Answer} {before after : List (Waiting Call)}

/-- What has become of the errands since there was only the desk. -/
structure Kept (desk : Desk) (course : Course Desk Call Answer) : Prop where
  single : course.crew.waiting.countP (·.call.consumes) ≤ 1
  order : course.crew.state.begun ++ course.crew.state.queue.tasks =
    desk.begun ++ desk.queue.tasks ++ queued course.steps
  finished : course.crew.state.begun =
    desk.begun ++ (ended course.steps ++ inHand course.crew.waiting)
  children : spawned course.steps ++ left course.crew.waiting =
    (ended course.steps ++ inHand course.crew.waiting).flatMap Errand.spawns

theorem Kept.start (desk : Desk) : Kept desk { crew := { state := desk } } where
  single := Nat.zero_le 1
  order := (List.append_nil _).symm
  finished := (List.append_nil _).symm
  children := rfl

theorem idle_of_others {others : List (Waiting Call)}
    (alone : ∀ other ∈ others, other.call.consumes = false) :
    inHand others = [] ∧ left others = [] := by
  have idle (other : Waiting Call) (there : other ∈ others) : other.call.inHand = [] :=
    idle_of_other (alone other there)
  exact ⟨List.flatMap_eq_nil_iff.mpr idle,
    List.flatMap_eq_nil_iff.mpr fun other there => (quiet_of_idle (idle other there)).1⟩

/-- With a second call that takes errands there would be two errands in hand. -/
theorem others_of_single (single : (before ++ [one] ++ after).countP (·.call.consumes) ≤ 1)
    (consumes : one.call.consumes = true) :
    (∀ other ∈ before, other.call.consumes = false) ∧
      ∀ other ∈ after, other.call.consumes = false := by
  rw [List.countP_append, List.countP_append, List.countP_singleton, if_pos consumes] at single
  have none (others : List (Waiting Call)) (zero : others.countP (·.call.consumes) = 0) :
      ∀ other ∈ others, other.call.consumes = false := by
    simpa using List.countP_eq_zero.mp zero
  exact ⟨none before (by omega), none after (by omega)⟩

theorem flatMap_behind (errands : Call → List Errand) (next : Call ⊕ Answer) :
    (one.behind next).flatMap (fun one => errands one.call) = next.elim errands fun _ => [] := by
  cases next with
  | inl call => exact List.flatMap_singleton _ _
  | inr => rfl

/-- A step of a call that takes no errands has to do with no errand in hand. -/
theorem idle_of_served {call : Call} {state : Desk} {started : List Errand}
    (served : Served call state moved started) (other : call.consumes = false) :
    started = [] ∧ moved.next.elim Call.inHand (fun _ => []) = [] ∧
      moved.next.elim Call.left (fun _ => []) = [] := by
  have hand := idle_of_other other
  obtain ⟨-, ending, -⟩ := quiet_of_idle hand
  have nothing := served.inHand
  rw [hand, ending, List.nil_append, List.nil_append] at nothing
  have stays : moved.next.elim Call.consumes (fun _ => false) = false := by
    rw [← Bool.not_eq_true]
    intro consumes
    rw [served.consumes consumes] at other
    cases other
  cases goesOn : moved.next with
  | inl call =>
    rw [goesOn] at stays nothing
    have idle : call.inHand = [] := idle_of_other stays
    exact ⟨nothing.trans idle, idle, (quiet_of_idle idle).1⟩
  | inr =>
    rw [goesOn] at nothing
    exact ⟨nothing, rfl, rfl⟩

theorem countP_behind {state : Desk} {started : List Errand}
    (served : Served one.call state moved started) :
    (one.behind moved.next).countP (·.call.consumes) ≤ [one].countP (·.call.consumes) := by
  have consumes := served.consumes
  cases goesOn : moved.next with
  | inl call =>
    rw [goesOn] at consumes
    rw [Waiting.behind, List.countP_singleton, List.countP_singleton]
    split
    case isTrue goes => exact Nat.le_of_eq (if_pos (consumes goes)).symm
    case isFalse => exact Nat.zero_le _
  | inr => exact Nat.zero_le _

/-- The errands in hand behind a step of one call among others. -/
theorem among_of_served {state : Desk} {started : List Errand}
    (single : (before ++ [one] ++ after).countP (·.call.consumes) ≤ 1)
    (served : Served one.call state moved started) :
    inHand (before ++ [one] ++ after) ++ started =
        one.call.ending ++ inHand (before ++ one.behind moved.next ++ after) ∧
      one.call.spawning ++ left (before ++ one.behind moved.next ++ after) =
        left (before ++ [one] ++ after) ++ started.flatMap Errand.spawns := by
  simp only [inHand, left, List.flatMap_append, List.flatMap_singleton, flatMap_behind]
  cases consumes : one.call.consumes with
  | true =>
    obtain ⟨early, late⟩ := others_of_single single consumes
    have emptied := idle_of_others early
    have empties := idle_of_others late
    rw [inHand, left] at emptied empties
    simp only [emptied, empties, List.nil_append, List.append_nil]
    exact ⟨served.inHand, served.left⟩
  | false =>
    obtain ⟨none, idle, quiet⟩ := idle_of_served served consumes
    have hand := idle_of_other consumes
    obtain ⟨left, ending, spawning⟩ := quiet_of_idle hand
    rw [none, idle, quiet, hand, left, ending, spawning]
    exact ⟨List.append_nil _, (List.append_nil _).symm⟩

theorem Kept.begins (kept : Kept desk course) {ticket : Nat} {call : Call}
    (allowed : Begins course.crew call) :
    Kept desk
      { course with crew.waiting := course.crew.waiting ++ [{ ticket, call }] } := by
  have idle := idle_of_opens allowed.1
  have quiet := (quiet_of_idle idle).1
  refine ⟨?_, kept.order, ?_, ?_⟩
  · rw [List.countP_append, List.countP_singleton]
    cases consumes : call.consumes with
    | false => simpa [consumes] using kept.single
    | true =>
      have none : course.crew.waiting.countP (·.call.consumes) = 0 := by
        simpa using allowed.2 consumes
      rw [none, Nat.zero_add]
      exact Nat.le_refl 1
  · simpa [inHand, flatMap_snoc, idle] using kept.finished
  · simpa [inHand, left, flatMap_snoc, idle, quiet] using kept.children

theorem Kept.goesOn (kept : Kept desk course) (waiting : course.crew.waiting = before ++ one :: after)
    (goes : Goes one.call course.crew.state moved) :
    Kept desk
      { crew := { state := moved.state, waiting := before ++ one.behind moved.next ++ after }
        steps := course.steps ++ [{ state := course.crew.state, one, moved }] } := by
  obtain ⟨started, served⟩ := served_of_goes goes
  obtain ⟨single, order, finished, children⟩ := kept
  rw [waiting, List.append_cons] at single finished children
  obtain ⟨hand, rest⟩ := among_of_served single served
  refine ⟨?_, ?_, ?_, ?_⟩
  · have fewer := countP_behind served
    simp only [List.countP_append] at single ⊢
    omega
  · rw [queued_snoc, served.begun, List.append_assoc, served.tasks, ← List.append_assoc, order,
      List.append_assoc]
  · rw [ended_snoc, served.begun, finished, List.append_assoc, List.append_assoc, hand,
      ← List.append_assoc (ended _)]
  · rw [ended_snoc, spawned_snoc, List.append_assoc (ended _), List.append_assoc (spawned _), rest,
      ← hand, ← List.append_assoc, children, ← List.flatMap_append, List.append_assoc]

theorem Kept.runs (kept : Kept desk course) (runs : Runs course next) : Kept desk next := by
  induction runs with
  | refl => exact kept
  | tail _ moves ih =>
    cases moves with
    | begins allowed => exact ih.begins allowed
    | goesOn waiting goes => exact ih.goesOn waiting goes

theorem length_inHand_le (waiting : List (Waiting Call)) :
    (inHand waiting).length ≤ waiting.countP (·.call.consumes) := by
  induction waiting with
  | nil => exact Nat.zero_le _
  | cons one rest ih =>
    have here : one.call.inHand.length ≤ if one.call.consumes then 1 else 0 := by
      cases one.call <;> simp [Call.inHand, Call.consumes]
    rw [inHand, List.flatMap_cons, List.length_append, List.countP_cons, Nat.add_comm]
    exact Nat.add_le_add ih here

/-- A call waits only for an errand that it is to run. -/
theorem waits_of_none {call : Call} (stuck : call.move desk = none) :
    call = .runOne ∧ desk.queue.tasks = [] := by
  cases call with
  | runOne =>
    refine ⟨rfl, ?_⟩
    have none : desk.queue.next? = none := Option.map_eq_none_iff.mp stuck
    unfold next? at none
    split at none
    · assumption
    · cases none
  | inside errand left ran => cases left <;> cases ran <;> cases stuck
  | _ => cases stuck

/-- A call that has run all that was queued ends when nothing is queued. -/
theorem empty_of_count {call : Call} {count : Nat} (goes : Goes call desk moved)
    (counts : moved.next = .inr (.count count)) : moved.state.queue.tasks = [] := by
  have drained {ran : Nat} (drains : desk.drain ran = moved) : moved.state.queue.tasks = [] := by
    subst drains
    unfold Desk.drain Desk.begin? next? at counts ⊢
    split at counts
    · assumption
    · cases counts
  cases call with
  | push | isEmpty =>
    cases goes
    cases counts
  | runOne =>
    obtain ⟨_, _, rfl⟩ := Option.map_eq_some_iff.mp goes
    cases counts
  | runPending | draining => exact drained (Option.some.inj goes)
  | inside errand left ran => cases left <;> cases ran <;> cases goes <;> cases counts

/-- A call that runs whatever is queued, among no others, runs all errands of the forest that is
queued, each once, level by level; it returns their number, and nothing is queued behind it. While one
thread takes errands off the queue and others push theirs at any time, errands begin in the order
in which they were queued, whoever queued them, and end in that order before the next one begins;
each queues its own in their order. A call to run one errand waits only while nothing is queued. -/
theorem errands_run_in_turn (desk : Desk) :
    (∃ places errands, InOrder desk.queue.tasks places errands ∧
      ∃ steps, ∀ ticket more,
        Crew.advance Call.move (more + steps) desk { ticket, call := .runPending } =
          ({ queue := {}, begun := desk.begun ++ errands },
            .inr { ticket, answer := .count errands.length, records := [] })) ∧
    ∀ now : Course Desk Call Answer, Runs { crew := { state := desk } } now →
      let here := now.crew.state
      let inHand := inHand now.crew.waiting
      here.begun ++ here.queue.tasks = desk.begun ++ desk.queue.tasks ++ queued now.steps ∧
      here.begun = desk.begun ++ (ended now.steps ++ inHand) ∧ inHand.length ≤ 1 ∧
      spawned now.steps ++ left now.crew.waiting =
        (ended now.steps ++ inHand).flatMap Errand.spawns ∧
      (∀ one ∈ now.crew.waiting, one.call.move here = none →
        one.call = .runOne ∧ here.queue.tasks = []) ∧
      ∀ one ∈ now.crew.waiting, ∀ moved count, one.call.move here = some moved →
        moved.next = .inr (.count count) → moved.state.queue.tasks = [] := by
  constructor
  · obtain ⟨places, inOrder⟩ := Errand.inOrder_inTurn desk.queue.tasks
    obtain ⟨steps, drained⟩ := advance_draining desk.queue.tasks desk.begun 0
    refine ⟨places, _, inOrder, steps + 1, fun ticket more => ?_⟩
    rw [Nat.zero_add] at drained
    exact drained ticket [] more
  · intro now runs
    have kept := (Kept.start desk).runs runs
    exact ⟨kept.order, kept.finished, Nat.le_trans (length_inHand_le _) kept.single, kept.children,
      fun _ _ => waits_of_none, fun _ _ _ _ goes => empty_of_count goes⟩

/-- The call waits for its errand. While that one runs another thread pushes the second errand, which
then stands in front of what the first one queues; the last errand is pushed while a second call
runs what is queued. -/
theorem pushed_errand_runs_before_child :
    ∃ now : Course Desk Call Answer, Runs { crew := { state := {} } } now ∧
      now.crew.state.ran = ["first", "pushed", "child", "last"] ∧
      (ended now.steps).map Errand.label = ["first", "pushed", "child", "last"] := by
  have turns : (Course.play? Begins Call.move { crew := { state := {} } }
      [.begins 0 .runOne, .begins 1 (.push (.errand "first" [.errand "child" []])), .goesOn 1,
        .goesOn 0, .begins 1 (.push (.errand "pushed" [])), .goesOn 1, .goesOn 0, .goesOn 0,
        .begins 0 .runPending, .goesOn 0, .begins 1 (.push (.errand "last" [])), .goesOn 1,
        .goesOn 0, .goesOn 0, .goesOn 0, .goesOn 0, .goesOn 0, .goesOn 0]).map (fun now =>
      (now.crew.waiting.length, now.crew.state.queue.length,
        (queued now.steps).map Errand.label)) =
      some (0, 0, ["first", "pushed", "child", "last"]) := by decide
  obtain ⟨now, played, facts⟩ := Option.map_eq_some_iff.mp turns
  simp only [Prod.mk.injEq] at facts
  obtain ⟨nobody, nothing, labels⟩ := facts
  have runs : Runs { crew := { state := {} } } now := Course.run_of_play (fun _ _ _ => id) played
  obtain ⟨-, always⟩ := errands_run_in_turn {}
  obtain ⟨order, finished, -⟩ := always now runs
  rw [List.eq_nil_of_length_eq_zero nothing, List.append_nil] at order
  rw [List.eq_nil_of_length_eq_zero nobody] at finished
  have ran : now.crew.state.ran = ["first", "pushed", "child", "last"] := by
    rw [Desk.ran, order, ← labels]
    rfl
  refine ⟨now, runs, ran, ?_⟩
  rw [← ran, Desk.ran, finished]
  simp [inHand]

end TaskQueue

end Playback
