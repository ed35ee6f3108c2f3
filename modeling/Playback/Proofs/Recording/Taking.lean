import Playback.Proofs.Crew.Course
import Playback.Proofs.Recording.Reassembly

set_option autoImplicit false

namespace Playback

namespace Recording

/-- One step of a call, with whatever the disk holds at that moment. -/
def Goes (call : Call) (store : Store) (moved : Move Store Call Answer) : Prop :=
  ∃ disk, call.move { store with disk } = some moved

/-- Any calls may begin at any time, and what other processes do to the disk is left open. -/
abbrev Runs : Course Store Call Answer → Course Store Call Answer → Prop :=
  Course.Run (fun _ _ => True) Goes

/-- An empty recording before the first step. -/
structure Unused (course : Course Store Call Answer) : Prop where
  recording : course.crew.state.recording = {}
  nothing : course.steps = []

/-- The bytes that a step gives to the recorder. -/
def draw? (step : Crew.Taken Store Call Answer) : Option Bytes :=
  match step.one.call, step.moved.next with
  | .takePending _, .inr (.bytes data) => some data
  | _, _ => none

/-- All bytes that the recorder has taken, in the order in which it took them. -/
def drawn (steps : List (Crew.Taken Store Call Answer)) : Bytes := (steps.filterMap draw?).flatten

theorem drawn_snoc (steps : List (Crew.Taken Store Call Answer))
    (step : Crew.Taken Store Call Answer) :
    drawn (steps ++ [step]) = drawn steps ++ (draw? step).getD [] := by
  cases given : draw? step <;> simp [drawn, List.filterMap_append, given]

/-! Steps -/

/-- What is fresh is taken as a whole; without anything fresh, taking fails or has to wait. -/
theorem takePending_of_ne {recording : Recording} (more : recording.consumed ≠ recording.length)
    (requireMore : Bool) :
    recording.takePending requireMore =
      some (.ok recording.fresh, { recording with consumed := recording.length }) := by
  rw [takePending, if_neg more]

theorem takePending_of_eq {recording : Recording} (all : recording.consumed = recording.length)
    (requireMore : Bool) :
    recording.takePending requireMore =
      if requireMore then some (.error (.endOfRecording recording.length), recording)
      else none := by
  rw [takePending, if_pos all]

theorem consumed_addChunk (recording : Recording) (chunk : Chunk) :
    (recording.addChunk chunk).2.consumed = recording.consumed := by
  unfold Recording.addChunk
  split <;> rfl

/-- What a step comes to: fresh bytes are taken, or bytes are added, or all stays as it is. -/
inductive Effect (step : Crew.Taken Store Call Answer) : Prop where
  | takes (more : step.state.recording.consumed ≠ step.state.recording.length)
      (given : draw? step = some step.state.recording.fresh)
      (changed : step.moved.state.recording =
        { step.state.recording with consumed := step.state.recording.length })
      (succeeds : ∀ failure, step.moved.next ≠ .inr (.failed failure))
  | grows (contents : step.state.recording.contents <+: step.moved.state.recording.contents)
      (consumed : step.moved.state.recording.consumed = step.state.recording.consumed)
      (nothing : draw? step = none) (succeeds : ∀ failure, step.moved.next ≠ .inr (.failed failure))
  | stays (same : step.moved.state.recording = step.state.recording) (nothing : draw? step = none)

theorem effect_of_goes {step : Crew.Taken Store Call Answer}
    (goes : Goes step.one.call step.state step.moved) : Effect step := by
  obtain ⟨⟨recording, _⟩, ⟨ticket, call, records⟩, moved⟩ := step
  obtain ⟨disk, taken⟩ := goes
  dsimp only at taken
  cases call with
  | takePending requireMore =>
    obtain ⟨⟨result, changed⟩, found, rfl⟩ := Option.map_eq_some_iff.mp taken
    by_cases all : recording.consumed = recording.length
    · rw [takePending_of_eq all] at found
      cases requireMore <;> cases found
      exact .stays rfl rfl
    · rw [takePending_of_ne all] at found
      cases found
      exact .takes all rfl rfl nofun
  | addChunk chunk =>
    cases taken
    exact .grows (addChunk_grows _ chunk) (consumed_addChunk _ chunk) rfl nofun
  | append data =>
    cases taken
    exact .grows (List.prefix_append _ _) rfl rfl nofun
  | load path =>
    unfold Call.move load at taken
    cases read : disk.read path with
    | error fault =>
      simp only [read, Option.some.injEq] at taken
      subst taken
      exact .stays rfl rfl
    | ok data =>
      simp only [read, Option.some.injEq] at taken
      subst taken
      exact .grows (List.prefix_append _ _) rfl rfl nofun
  | save path =>
    dsimp only [Call.move] at taken
    split at taken <;> cases taken <;> exact .stays rfl rfl
  | awaitLength length =>
    dsimp only [Call.move] at taken
    split at taken <;> cases taken
    exact .stays rfl rfl
  | range | snapshot | isEmpty | debugText =>
    cases taken
    exact .stays rfl rfl

/-- A take that requires more fails at the end of the recording and nowhere else. -/
theorem take_fails_iff (store : Store) (failure : Failure) :
    (∃ moved, Goes (.takePending true) store moved ∧ moved.next = .inr (.failed failure)) ↔
      store.recording.consumed = store.recording.length ∧
        failure = .endOfRecording store.recording.length := by
  constructor
  · rintro ⟨moved, ⟨disk, taken⟩, failed⟩
    obtain ⟨⟨result, changed⟩, found, rfl⟩ := Option.map_eq_some_iff.mp taken
    by_cases all : store.recording.consumed = store.recording.length
    · rw [takePending_of_eq all] at found
      cases found
      cases failed
      exact ⟨all, rfl⟩
    · rw [takePending_of_ne all] at found
      cases found
      cases failed
  · rintro ⟨all, rfl⟩
    have taken : (Call.takePending true).move store = some
        { state := store
          next := .inr (.failed (.endOfRecording store.recording.length)) } := by
      simp only [Call.move, takePending_of_eq all, if_true, Option.map_some]
      rfl
    exact ⟨_, ⟨store.disk, taken⟩, rfl⟩

/-- A take that does not require more waits for bytes and for nothing else. -/
theorem take_waits_iff (store : Store) :
    (∀ moved, ¬ Goes (.takePending false) store moved) ↔
      store.recording.consumed = store.recording.length := by
  constructor
  · intro waits
    apply Decidable.byContradiction
    intro more
    have taken : ((Call.takePending false).move store).isSome := by
      simp only [Call.move, takePending_of_ne more, Option.map_some, Option.isSome_some]
    obtain ⟨moved, there⟩ := Option.isSome_iff_exists.mp taken
    exact waits moved ⟨store.disk, there⟩
  · rintro all moved ⟨disk, taken⟩
    obtain ⟨taken, found, -⟩ := Option.map_eq_some_iff.mp taken
    rw [takePending_of_eq all] at found
    cases found

/-! Runs -/

/-- What has been taken, piece by piece, is the recording from its beginning. -/
structure Accounted (course : Course Store Call Answer) : Prop where
  taken : drawn course.steps =
    course.crew.state.recording.contents.take course.crew.state.recording.consumed
  inside : course.crew.state.recording.consumed ≤ course.crew.state.recording.length
  pieces : ∀ step ∈ course.steps, draw? step ≠ some []

variable {course next first later : Course Store Call Answer}

theorem Unused.accounted (unused : Unused first) : Accounted first := by
  constructor
  · rw [unused.recording, unused.nothing]
    rfl
  · rw [unused.recording]
    exact Nat.le_refl 0
  · rw [unused.nothing]
    exact List.forall_mem_nil _

theorem fresh_ne_nil {recording : Recording} (inside : recording.consumed ≤ recording.length)
    (more : recording.consumed ≠ recording.length) : recording.fresh ≠ [] := by
  intro nothing
  rw [fresh, List.drop_eq_nil_iff] at nothing
  unfold length at more inside
  omega

theorem Accounted.moves (accounted : Accounted course)
    (moves : Course.Moves (fun _ _ => True) Goes course next) : Accounted next := by
  obtain ⟨taken, inside, pieces⟩ := accounted
  cases moves with
  | begins allowed => exact ⟨taken, inside, pieces⟩
  | @goesOn before after one moved waiting goes =>
    let step : Crew.Taken Store Call Answer := { state := course.crew.state, one, moved }
    have effect : Effect step := effect_of_goes goes
    constructor
    case taken =>
      show drawn (course.steps ++ [step]) = _
      rw [drawn_snoc, taken]
      cases effect with
      | takes more given changed =>
        rw [given, changed]
        exact (List.take_append_drop _ _).trans List.take_length.symm
      | grows contents consumed nothing =>
        obtain ⟨tail, longer⟩ := contents
        rw [nothing, consumed, ← longer, List.take_append_of_le_length inside]
        exact List.append_nil _
      | stays same nothing =>
        rw [nothing, same]
        exact List.append_nil _
    case inside =>
      show step.moved.state.recording.consumed ≤ step.moved.state.recording.length
      cases effect with
      | takes more given changed =>
        rw [changed]
        exact Nat.le_refl _
      | grows contents consumed nothing =>
        rw [consumed]
        exact inside.trans contents.length_le
      | stays same nothing =>
        rw [same]
        exact inside
    case pieces =>
      rw [List.forall_mem_append, List.forall_mem_singleton]
      refine ⟨pieces, ?_⟩
      cases effect with
      | takes more given changed =>
        intro empty
        rw [given] at empty
        exact fresh_ne_nil inside more (Option.some.inj empty)
      | grows contents consumed nothing => exact nothing ▸ nofun
      | stays same nothing => exact nothing ▸ nofun

theorem Accounted.runs (accounted : Accounted course) (runs : Runs course later) :
    Accounted later := by
  induction runs with
  | refl => exact accounted
  | tail _ moves ih => exact ih.moves moves

/-- Everything has been taken as soon as all bytes are marked as taken. -/
theorem Accounted.all_iff (accounted : Accounted course) :
    drawn course.steps = course.crew.state.recording.contents ↔
      course.crew.state.recording.consumed = course.crew.state.recording.length := by
  have inside := accounted.inside
  rw [accounted.taken, List.take_eq_self_iff]
  unfold length at inside ⊢
  omega

theorem contents_of_moves (moves : Course.Moves (fun _ _ => True) Goes course next) :
    course.crew.state.recording.contents <+: next.crew.state.recording.contents := by
  cases moves with
  | begins allowed => exact List.prefix_rfl
  | @goesOn before after one moved waiting goes =>
    have effect : Effect { state := course.crew.state, one, moved } := effect_of_goes goes
    cases effect with
    | takes more given changed => rw [show moved.state.recording = _ from changed]
    | grows contents => exact contents
    | stays same => rw [show moved.state.recording = _ from same]

theorem contents_of_runs (runs : Runs course later) :
    course.crew.state.recording.contents <+: later.crew.state.recording.contents := by
  induction runs with
  | refl => exact List.prefix_rfl
  | tail _ moves ih => exact ih.trans (contents_of_moves moves)

/-- A range that is there reads the same in every longer recording. -/
theorem range_of_prefix {early late : Recording} (longer : early.contents <+: late.contents)
    (start : UInt64) {stop : UInt64} (inside : stop.toNat ≤ early.length) :
    late.range start stop = early.range start stop := by
  obtain ⟨tail, same⟩ := longer
  have beyond : stop.toNat ≤ late.length := by
    simp only [length, ← same, List.length_append] at inside ⊢
    omega
  unfold range
  dsimp only
  rw [Nat.min_eq_left inside, Nat.min_eq_left beyond, ← same,
    List.take_append_of_le_length inside]

/-- The contents only grow at their end, so a range that is there reads the same for ever. What the
recorder has taken, one piece after the other, is as much of the contents as is marked as taken, and
no piece is empty, however many takers wait. Taking fails or has to wait exactly when everything has
been taken, and whatever fails changes nothing. -/
theorem bytes_stay_and_are_taken_once (unused : Unused first) (runs : Runs first course) :
    let recording := course.crew.state.recording
    drawn course.steps = recording.contents.take recording.consumed ∧
    recording.consumed ≤ recording.length ∧
    (∀ step ∈ course.steps, draw? step ≠ some []) ∧
    (∀ failure, (∃ moved, Goes (.takePending true) course.crew.state moved ∧
        moved.next = .inr (.failed failure)) ↔
      drawn course.steps = recording.contents ∧ failure = .endOfRecording recording.length) ∧
    ((∀ moved, ¬ Goes (.takePending false) course.crew.state moved) ↔
      drawn course.steps = recording.contents) ∧
    (∀ call moved failure, Goes call course.crew.state moved →
      moved.next = .inr (.failed failure) → moved.state.recording = recording) ∧
    ∀ later, Runs course later → recording.contents <+: later.crew.state.recording.contents ∧
      ∀ start stop, stop.toNat ≤ recording.length →
        later.crew.state.recording.range start stop = recording.range start stop := by
  have accounted := unused.accounted.runs runs
  refine ⟨accounted.taken, accounted.inside, accounted.pieces, ?_, ?_, ?_, ?_⟩
  · intro failure
    rw [take_fails_iff, accounted.all_iff]
  · rw [take_waits_iff, accounted.all_iff]
  · intro call moved failure goes failed
    have effect : Effect { state := course.crew.state, one := { ticket := 0, call }, moved } :=
      effect_of_goes goes
    cases effect with
    | takes _ _ _ succeeds | grows _ _ _ succeeds => exact absurd failed (succeeds failure)
    | stays same => exact same
  · intro later goesOn
    have longer := contents_of_runs goesOn
    exact ⟨longer, fun start stop inside => range_of_prefix longer start inside⟩

/-- Two takers wait for bytes. The one that comes late gets what came later, and a chunk that says
otherwise about a byte that is there is not heeded. -/
theorem two_takers_share_the_bytes :
    ∃ course : Course Store Call Answer, Unused { crew := { state := {} } } ∧
      Runs { crew := { state := {} } } course ∧ drawn course.steps = [1, 2, 9] ∧
      ∀ later, Runs course later → later.crew.state.recording.range 0 3 = [1, 2, 9] := by
  have turns : (Course.play? (fun _ _ => True) Call.move { crew := { state := {} } }
      [.begins 0 (.takePending false), .begins 1 (.takePending false),
        .begins 2 (.addChunk ⟨0, [1, 2]⟩), .goesOn 2, .goesOn 1,
        .begins 3 (.addChunk ⟨1, [8, 9]⟩), .goesOn 1, .goesOn 0]).map (·.crew.state.recording) =
      some { contents := [1, 2, 9], consumed := 3 } := by decide +kernel
  obtain ⟨course, played, recording⟩ := Option.map_eq_some_iff.mp turns
  have unused : Unused { crew := { state := {} } } := ⟨rfl, rfl⟩
  have runs : Runs { crew := { state := {} } } course :=
    Course.run_of_play (fun _ store _ taken => ⟨store.disk, taken⟩) played
  obtain ⟨taken, -, -, -, -, -, stays⟩ := bytes_stay_and_are_taken_once unused runs
  rw [recording] at taken stays
  refine ⟨course, unused, runs, taken, ?_⟩
  intro later goesOn
  exact (stays later goesOn).2 0 3 (by decide)

end Recording

end Playback
