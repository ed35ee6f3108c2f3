import Playback.Proofs.Crew.Course
import Playback.Proofs.ExternalCalls.Cache
import Playback.Proofs.Lists

set_option autoImplicit false

namespace Playback

namespace ExternalCalls

/-- The calls that callers make. The others are what is left of a request on its way. -/
def Call.opens : Call → Bool
  | .send _ | .receive _ | .keep _ _ => false
  | _ => true

abbrev Step := Crew.Taken Line Call Answer

/-- Any callers may come at any time, also with responses that nobody has asked for. -/
abbrev Runs : Course Line Call Answer → Course Line Call Answer → Prop :=
  Course.Run (fun _ call => call.opens = true) (fun call line moved => call.move line = some moved)

/-- Nobody calls, and the slot is free. -/
structure Unused (course : Course Line Call Answer) : Prop where
  slot : course.crew.state.calls.slot = {}
  nobody : course.crew.waiting = []
  nothing : course.steps = []

/-! What can be read off the steps -/

/-- A request with the response that was taken for it. -/
structure Exchange where
  id : CallId
  tag : Option CallId
  output : Bytes
  deriving DecidableEq

namespace Exchange

def response (exchange : Exchange) : Option CallId × Bytes := (exchange.tag, exchange.output)

/-- What the request comes to. -/
def verdict (exchange : Exchange) : CallId × CallOutput :=
  (exchange.id, if exchange.tag = none then .unavailable else .available exchange.output)

/-- The response names the call that was asked for, or none. -/
def fits (exchange : Exchange) : Bool := exchange.tag.all (· = exchange.id)

end Exchange

def exchange? (step : Step) : Option Exchange :=
  match step.one.call with
  | .receive id => step.state.calls.slot.response.map fun (tag, output) => { id, tag, output }
  | _ => none

/-- The response that is let in. -/
def arrival? (step : Step) : Option (Option CallId × Bytes) :=
  match step.one.call, step.moved.next with
  | .deliver tag output, .inr (.truth true) => some (tag, output)
  | _, _ => none

/-- What a request is answered with that has not been served from the cache. -/
def given? (step : Step) : Option (CallId × CallOutput) :=
  match step.one.call, step.moved.next with
  | .receive id, .inr (.output output) | .keep id _, .inr (.output output) => some (id, output)
  | _, _ => none

/-- What is added without a request. -/
def added? (step : Step) : Option (CallId × Bytes) :=
  match step.one.call with
  | .insert id output => some (id, output)
  | _ => none

/-- The call of a request that has been sent and waits for its response. -/
def asks? (one : Waiting Call) : Option CallId :=
  match one.call with
  | .receive id => some id
  | _ => none

/-- What a request is about to return. -/
def owes? (one : Waiting Call) : Option (CallId × CallOutput) :=
  match one.call with
  | .keep id output => some (id, .available output)
  | _ => none

/-- The warnings about responses for other calls. -/
def mismatches (records : List Record) : Nat :=
  records.countP (·.message = "External call response does not match request")

/-! Steps -/

theorem mismatches_insertRecords (calls : ExternalCalls) (id : CallId) (output : Bytes) :
    mismatches (calls.insertRecords id output) = 0 := by
  unfold insertRecords
  split <;> rfl

theorem mismatches_responseRecords (exchange : Exchange) :
    mismatches (responseRecords exchange.id exchange.tag) =
      [exchange].countP (!·.fits) := by
  obtain ⟨id, tag, output⟩ := exchange
  cases tag with
  | none => rfl
  | some tag =>
    by_cases same : tag = id <;>
      simp [responseRecords, Exchange.fits, same, mismatches, callRecord]

/-- What a step takes and what it leaves, for the slot and for the one who has claimed it. -/
structure Effect (step : Step) (behind : List (Waiting Call)) : Prop where
  receives : (asks? step.one).toList = (exchange? step).toList.map (·.id)
  sends : step.moved.state.sent = step.state.sent ++ behind.filterMap asks?
  claims : step.state.calls.slot.waiting.toNat + (behind.filterMap asks?).length =
    (exchange? step).toList.length + step.moved.state.calls.slot.waiting.toNat
  kept : step.moved.state.calls.slot.response.isSome = true →
    step.moved.state.calls.slot.waiting = true
  responds : step.state.calls.slot.response.toList ++ (arrival? step).toList =
    (exchange? step).toList.map (·.response) ++ step.moved.state.calls.slot.response.toList
  gives : (exchange? step).toList.map (·.verdict) ++ (owes? step.one).toList =
    (given? step).toList ++ behind.filterMap owes?
  warns : mismatches step.moved.records = (exchange? step).toList.countP (!·.fits)

/-- A step that leaves the slot and the requests to others. -/
theorem Effect.of_apart {step : Step} {behind : List (Waiting Call)}
    (kept : step.state.calls.slot.response.isSome = true → step.state.calls.slot.waiting = true)
    (asks : asks? step.one = none) (exchange : exchange? step = none)
    (asking : behind.filterMap asks? = []) (sent : step.moved.state.sent = step.state.sent)
    (slot : step.moved.state.calls.slot = step.state.calls.slot) (arrival : arrival? step = none)
    (owes : (owes? step.one).toList = (given? step).toList ++ behind.filterMap owes?)
    (silent : mismatches step.moved.records = 0) : Effect step behind := by
  constructor <;> simp [asks, exchange, asking, sent, slot, arrival, owes, silent]
  exact kept

theorem effect_of_move {step : Step}
    (kept : step.state.calls.slot.response.isSome = true → step.state.calls.slot.waiting = true)
    (taken : step.one.call.move step.state = some step.moved) :
    Effect step (step.one.behind step.moved.next) := by
  obtain ⟨⟨⟨cache, waiting, response⟩, sent⟩, ⟨ticket, call, records⟩, moved⟩ := step
  dsimp only at taken kept
  cases call with
  | send id =>
    cases waiting <;> cases taken
    cases response with
    | some response => cases kept rfl
    | none => exact ⟨rfl, rfl, rfl, nofun, rfl, rfl, rfl⟩
  | receive id =>
    cases response with
    | none => cases taken
    | some response =>
      obtain ⟨tag, output⟩ := response
      cases kept rfl
      cases taken
      have warns := mismatches_responseRecords ⟨id, tag, output⟩
      cases tag <;> exact ⟨rfl, (List.append_nil _).symm, rfl, nofun, rfl, rfl, warns⟩
  | keep id output =>
    cases taken
    exact .of_apart kept rfl rfl rfl rfl (slot_insert _ _ _) rfl rfl
      (mismatches_insertRecords _ _ _)
  | insert id output =>
    cases taken
    exact .of_apart kept rfl rfl rfl rfl (slot_insert _ _ _) rfl rfl
      (mismatches_insertRecords _ _ _)
  | deliver tag output =>
    cases waiting <;> cases response <;> cases taken
    case deliver.true.none.refl =>
      exact ⟨rfl, (List.append_nil _).symm, rfl, fun _ => rfl, rfl, rfl, rfl⟩
    all_goals exact .of_apart kept rfl rfl rfl rfl rfl rfl rfl rfl
  | request id =>
    cases known : output? { cache, slot := { waiting, response } } id <;>
      simp only [Call.move, known, Option.some.injEq] at taken <;> subst taken <;>
      exact .of_apart kept rfl rfl rfl rfl rfl rfl rfl rfl
  | lookup | contains | isEmpty =>
    cases taken
    exact .of_apart kept rfl rfl rfl rfl rfl rfl rfl rfl

/-! Runs -/

/-- Requests are answered in their order by the responses that are let in. -/
structure Paired (first course : Course Line Call Answer) : Prop where
  kept : course.crew.state.calls.slot.response.isSome = true →
    course.crew.state.calls.slot.waiting = true
  /-- Who has claimed the slot has sent a request. -/
  asking : (course.crew.waiting.filterMap asks?).length =
    course.crew.state.calls.slot.waiting.toNat
  sent : course.crew.state.sent = first.crew.state.sent ++
    (course.steps.filterMap exchange?).map (·.id) ++ course.crew.waiting.filterMap asks?
  arrived : course.steps.filterMap arrival? =
    (course.steps.filterMap exchange?).map (·.response) ++
      course.crew.state.calls.slot.response.toList
  /-- Each exchange is answered once, or is about to be. -/
  given : ((course.steps.filterMap exchange?).map (·.verdict)).Perm
    (course.steps.filterMap given? ++ course.crew.waiting.filterMap owes?)
  warned : mismatches (course.steps.flatMap (·.moved.records)) =
    (course.steps.filterMap exchange?).countP (!·.fits)

variable {first course next later : Course Line Call Answer}

theorem Unused.paired (unused : Unused first) : Paired first first := by
  obtain ⟨slot, nobody, nothing⟩ := unused
  constructor <;> simp [mismatches, slot, nobody, nothing]

theorem mismatches_snoc (steps : List Step) (step : Step) :
    mismatches ((steps ++ [step]).flatMap (·.moved.records)) =
      mismatches (steps.flatMap (·.moved.records)) + mismatches step.moved.records := by
  rw [List.flatMap_append, List.flatMap_singleton]
  exact List.countP_append

/-- A step of one caller, with what it adds to each of the lists. -/
theorem Paired.goes {before after : List (Waiting Call)} {step : Step}
    (paired : Paired first course) (waiting : course.crew.waiting = before ++ step.one :: after)
    (here : course.crew.state = step.state)
    (goes : step.one.call.move step.state = some step.moved) :
    Paired first
      { crew :=
          { state := step.moved.state
            waiting := before ++ step.one.behind step.moved.next ++ after }
        steps := course.steps ++ [step] } := by
  obtain ⟨kept, asking, sent, arrived, given, warned⟩ := paired
  rw [here] at kept asking sent arrived
  have effect := effect_of_move kept goes
  generalize step.one.behind step.moved.next = behind at effect
  rw [waiting, filterMap_middle] at asking sent given
  rw [effect.receives] at asking sent
  have lengths := asking
  simp only [List.length_append, List.length_map] at lengths
  have claims := effect.claims
  constructor
  case kept => exact effect.kept
  case asking =>
    simp only [List.filterMap_append, List.length_append]
    omega
  case sent =>
    -- Whoever asks or is answered is the only one, so that the order is that of the requests.
    have alone : exchange? step = none ∧ behind.filterMap asks? = [] ∨
        before.filterMap asks? = [] ∧ after.filterMap asks? = [] := by
      simp only [← List.length_eq_zero_iff, ← Option.toList_eq_nil_iff]
      have one := Bool.toNat_le step.state.calls.slot.waiting
      have another := Bool.toNat_le step.moved.state.calls.slot.waiting
      omega
    rw [effect.sends, sent, filterMap_snoc, List.filterMap_append, List.filterMap_append]
    rcases alone with ⟨exchange, behind⟩ | ⟨before, after⟩
    · simp [exchange, behind]
    · simp [before, after]
  case arrived =>
    rw [filterMap_snoc, filterMap_snoc, arrived, List.append_assoc, effect.responds]
    simp
  case given =>
    rw [List.perm_iff_count] at given
    rw [filterMap_snoc, filterMap_snoc, List.perm_iff_count]
    intro verdict
    have gives := congrArg (List.count verdict) effect.gives
    specialize given verdict
    simp only [List.filterMap_append, List.map_append, List.count_append]
      at given gives ⊢
    omega
  case warned =>
    rw [mismatches_snoc, warned, effect.warns, filterMap_snoc, List.countP_append]

theorem Paired.moves (paired : Paired first course)
    (moves : Course.Moves (fun _ call => call.opens = true)
      (fun call line moved => call.move line = some moved) course next) : Paired first next := by
  cases moves with
  | @goesOn before after one moved waiting goes =>
    let step : Step := { state := course.crew.state, one, moved }
    exact paired.goes (show _ = before ++ step.one :: after from waiting) rfl goes
  | @begins ticket call opens =>
    obtain ⟨kept, asking, sent, arrived, given, warned⟩ := paired
    have asks : asks? { ticket, call } = none := by cases call <;> first | rfl | cases opens
    have owes : owes? { ticket, call } = none := by cases call <;> first | rfl | cases opens
    refine ⟨kept, ?_, ?_, arrived, ?_, warned⟩
    · rwa [filterMap_snoc, asks, Option.toList_none, List.append_nil]
    · rwa [filterMap_snoc, asks, Option.toList_none, List.append_nil]
    · rwa [filterMap_snoc, owes, Option.toList_none, List.append_nil]

theorem Paired.runs (paired : Paired first course) (runs : Runs course later) :
    Paired first later := by
  induction runs with
  | refl => exact paired
  | tail _ moves ih => exact ih.moves moves

/-! What is remembered -/

/-- What a step does to the outputs. -/
structure Stores (step : Step) : Prop where
  known : ∀ id output, step.moved.state.calls.output? id = some output →
    step.state.calls.output? id = some output ∨ added? step = some (id, output) ∨
      given? step = some (id, .available output)
  remembers : ∀ id output, step.state.calls.output? id = some output →
    step.moved.state.calls.output? id = some output
  returned : ∀ id output, given? step = some (id, .available output) →
    (step.moved.state.calls.output? id).isSome

theorem Stores.of_cache {step : Step}
    (cache : step.moved.state.calls.cache = step.state.calls.cache)
    (nothing : ∀ id output, given? step ≠ some (id, .available output)) : Stores step where
  known id output there := .inl (by rwa [output?, cache] at there)
  remembers id output there := by rwa [output?, cache]
  returned id output given := absurd given (nothing id output)

theorem Stores.of_insert {step : Step} {id : CallId} {output : Bytes}
    (calls : step.moved.state.calls = step.state.calls.insert id output)
    (source : added? step = some (id, output) ∨ given? step = some (id, .available output))
    (own : ∀ other known, given? step = some (other, .available known) → other = id) :
    Stores step where
  known other known there := by
    rw [calls] at there
    rcases output?_of_insert there with before | ⟨rfl, rfl⟩
    · exact .inl before
    · exact .inr source
  remembers other known there := by
    rw [calls]
    exact output?_insert_of_some output there
  returned other known given := by
    rw [calls, own other known given, output?_insert, if_pos rfl]
    cases step.state.calls.output? id <;> rfl

theorem stores_of_move {step : Step} (taken : step.one.call.move step.state = some step.moved) :
    Stores step := by
  obtain ⟨⟨⟨cache, slot⟩, sent⟩, ⟨ticket, call, records⟩, moved⟩ := step
  dsimp only at taken
  cases call with
  | insert id output =>
    cases taken
    exact .of_insert rfl (.inl rfl) nofun
  | keep id output =>
    cases taken
    refine .of_insert rfl (.inr rfl) ?_
    rintro other known ⟨⟩
    rfl
  | receive id =>
    obtain ⟨⟨⟨tag, output⟩, slot⟩, took, same⟩ := Option.map_eq_some_iff.mp taken
    subst same
    cases tag <;> exact .of_cache rfl nofun
  | send id =>
    obtain ⟨slot, claimed, same⟩ := Option.map_eq_some_iff.mp taken
    subst same
    exact .of_cache rfl nofun
  | request id =>
    cases known : output? { cache, slot } id <;>
      simp only [Call.move, known, Option.some.injEq] at taken <;> subst taken <;>
      exact .of_cache rfl nofun
  | deliver | lookup | contains | isEmpty =>
    cases taken
    exact .of_cache rfl nofun

/-- Outputs are remembered that were there, that have been added, or that a request has returned.
For everything that a request has returned, it or another output is remembered. -/
structure Explained (first course : Course Line Call Answer) : Prop where
  known : ∀ id output, course.crew.state.calls.output? id = some output →
    first.crew.state.calls.output? id = some output ∨
      (id, output) ∈ course.steps.filterMap added? ∨
      (id, .available output) ∈ course.steps.filterMap given?
  returned : ∀ id output, (id, .available output) ∈ course.steps.filterMap given? →
    (course.crew.state.calls.output? id).isSome

theorem Explained.moves (explained : Explained first course)
    (moves : Course.Moves (fun _ call => call.opens = true)
      (fun call line moved => call.move line = some moved) course next) :
    Explained first next := by
  cases moves with
  | begins opens => exact ⟨explained.known, explained.returned⟩
  | @goesOn before after one moved waiting goes =>
    have stores : Stores { state := course.crew.state, one, moved } := stores_of_move goes
    constructor
    · intro id output there
      rw [filterMap_snoc, filterMap_snoc, List.mem_append, List.mem_append, Option.mem_toList,
        Option.mem_toList]
      rcases stores.known id output there with before | added | given
      · rcases explained.known id output before with first | added | given
        · exact .inl first
        · exact .inr (.inl (.inl added))
        · exact .inr (.inr (.inl given))
      · exact .inr (.inl (.inr added))
      · exact .inr (.inr (.inr given))
    · intro id output there
      rw [filterMap_snoc, List.mem_append, Option.mem_toList] at there
      rcases there with before | now
      · obtain ⟨known, same⟩ := Option.isSome_iff_exists.mp (explained.returned id output before)
        exact Option.isSome_iff_exists.mpr ⟨known, stores.remembers id known same⟩
      · exact stores.returned id output now

theorem Explained.runs (explained : Explained first course) (runs : Runs course later) :
    Explained first later := by
  induction runs with
  | refl => exact explained
  | tail _ moves ih => exact ih.moves moves

theorem Unused.explained (unused : Unused first) : Explained first first where
  known id output there := .inl there
  returned id output there := by
    rw [unused.nothing] at there
    cases there

/-- A request that has its response can go on. -/
theorem receive_goes {one : Waiting Call} {id : CallId} {line : Line}
    {response : Option CallId × Bytes} (call : one.call = .receive id)
    (there : line.calls.slot.response = some response) :
    ∃ moved, one.call.move line = some moved ∧ (response.1 = none →
      moved.next = .inr (.output .unavailable) ∧ moved.state.calls.cache = line.calls.cache) := by
  obtain ⟨tag, output⟩ := response
  rw [call]
  refine ⟨_, by simp only [Call.move, Slot.take?, there, Option.map_some]; rfl, ?_⟩
  rintro rfl
  exact ⟨rfl, rfl⟩

/-- The requests that have been sent are answered in their order by the responses that have been
let in, whatever calls these name. A response that names none makes its request return that the
output is not known, and every other one makes it return its output. Outputs are remembered that
were there, that have been added, or that a request has returned. So each output that a request
returns has come in a response for its call if no response names another call, and there is a
warning for each response that does. -/
theorem answered_by_next_arrival (unused : Unused first) (runs : Runs first course) :
    let line := course.crew.state
    let took := course.steps.filterMap exchange?
    let arrived := course.steps.filterMap arrival?
    let given := course.steps.filterMap given?
    let asking := course.crew.waiting.filterMap asks?
    line.sent = first.crew.state.sent ++ took.map (·.id) ++ asking ∧ asking.length ≤ 1 ∧
    arrived = took.map (·.response) ++ line.calls.slot.response.toList ∧
    (∀ one ∈ course.crew.waiting, ∀ id response, one.call = .receive id →
      line.calls.slot.response = some response → ∃ moved, one.call.move line = some moved ∧
        (response.1 = none → moved.next = .inr (.output .unavailable) ∧
          moved.state.calls.cache = line.calls.cache)) ∧
    (took.map (·.verdict)).Perm (given ++ course.crew.waiting.filterMap owes?) ∧
    (∀ id output, line.calls.output? id = some output →
      first.crew.state.calls.output? id = some output ∨
        (id, output) ∈ course.steps.filterMap added? ∨ (id, .available output) ∈ given) ∧
    (∀ id output, (id, .available output) ∈ given → (line.calls.output? id).isSome) ∧
    mismatches (course.steps.flatMap (·.moved.records)) = took.countP (!·.fits) ∧
    ((∀ exchange ∈ took, exchange.fits = true) →
      ∀ id output, (id, .available output) ∈ given → (some id, output) ∈ arrived) := by
  have paired := unused.paired.runs runs
  have explained := unused.explained.runs runs
  dsimp only
  refine ⟨paired.sent, ?_, paired.arrived, fun _ _ _ _ => receive_goes, paired.given,
    explained.known, explained.returned, paired.warned, ?_⟩
  · rw [paired.asking]
    exact Bool.toNat_le _
  · intro fits id output returned
    have verdict := paired.given.mem_iff.mpr (List.mem_append_left _ returned)
    obtain ⟨⟨asked, tag, told⟩, there, same⟩ := List.mem_map.mp verdict
    rw [paired.arrived, List.mem_append, List.mem_map]
    refine .inl ⟨_, there, ?_⟩
    cases tag with
    | none => cases same
    | some tag =>
      cases same
      have own := fits _ there
      simp only [Exchange.fits, Option.all_some, decide_eq_true_eq] at own
      rw [Exchange.response, own]

/-! Two requests -/

section
variable (second : Option CallId × Bytes)

theorem nonzero_seven : (7 : UInt64) ≠ 0 := by decide

def seven : CallId where
  number := 7
  nonzero := nonzero_seven

def eight : CallId where
  number := 8
  nonzero := by decide

/-- A request for the seventh call with a response for it, and one for the eighth. -/
def twoRequests : List (Course.Turn Call) :=
  [.begins 0 (.request seven), .goesOn 0, .goesOn 0, .begins 1 (.deliver (some seven) [1]),
    .goesOn 1, .goesOn 0, .goesOn 0, .begins 2 (.request eight), .goesOn 0, .goesOn 0,
    .begins 3 (.deliver second.1 second.2), .goesOn 1, .goesOn 0]

end

/-- A process in which nothing has been called yet. -/
def fresh : Course Line Call Answer := { crew := { state := {} } }

theorem fresh_unused : Unused fresh := ⟨rfl, rfl, rfl⟩

/-- The second request is told that the output is not known. -/
theorem response_for_none_adds_nothing :
    ∃ course, Unused fresh ∧ Runs fresh course ∧
      course.steps.filterMap given? = [(seven, .available [1]), (eight, .unavailable)] ∧
      course.crew.state.calls.output? eight = none ∧ (some seven, [1]) ∈
        course.steps.filterMap arrival? := by
  have turns : (fresh.play? (fun _ call => call.opens = true) Call.move
      (twoRequests (none, []))).map (fun course => (course.steps.filterMap given?,
        course.steps.filterMap added?, (course.steps.filterMap exchange?).all (·.fits))) =
      some ([(seven, .available [1]), (eight, .unavailable)], [], true) := by decide +kernel
  obtain ⟨course, played, facts⟩ := Option.map_eq_some_iff.mp turns
  simp only [Prod.mk.injEq] at facts
  obtain ⟨given, added, fits⟩ := facts
  have runs : Runs fresh course := Course.run_of_play (fun _ _ _ taken => taken) played
  obtain ⟨-, -, -, -, -, known, -, -, named⟩ := answered_by_next_arrival fresh_unused runs
  rw [given] at known named
  rw [added] at known
  refine ⟨course, fresh_unused, runs, given, ?_, ?_⟩
  · cases there : course.crew.state.calls.output? eight with
    | none => rfl
    | some output =>
      rcases known eight output there with first | added | returned
      · cases first
      · cases added
      · simp [seven, eight] at returned
  · exact named (List.all_eq_true.mp fits) seven [1] List.mem_cons_self

set_option synthInstance.maxSize 256 in
/-- The response for the seventh call comes once more, while the eighth is asked for. -/
theorem late_duplicate_is_remembered :
    ∃ course, Runs fresh course ∧
      (eight, .available [1]) ∈ course.steps.filterMap given? ∧
      course.crew.state.calls.output? eight = some [1] ∧
      ∀ output, (some eight, output) ∉ course.steps.filterMap arrival? := by
  have turns : (fresh.play? (fun _ call => call.opens = true) Call.move
      (twoRequests (some seven, [1]) ++ [.goesOn 0])).map (fun course =>
        (course.steps.filterMap given?, course.steps.filterMap arrival?,
          course.crew.state.calls.output? eight)) =
      some ([(seven, .available [1]), (eight, .available [1])],
        [(some seven, [1]), (some seven, [1])], some [1]) := by decide +kernel
  obtain ⟨course, played, facts⟩ := Option.map_eq_some_iff.mp turns
  simp only [Prod.mk.injEq] at facts
  obtain ⟨given, arrived, known⟩ := facts
  refine ⟨course, Course.run_of_play (fun _ _ _ taken => taken) played, ?_, known, ?_⟩
  · rw [given]
    decide
  · rw [arrived]
    intro output there
    simp [seven, eight] at there

end ExternalCalls

end Playback
