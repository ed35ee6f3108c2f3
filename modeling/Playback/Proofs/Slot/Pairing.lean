import Playback.Proofs.Slot.Talk

set_option autoImplicit false

namespace Playback.Slot

variable {Response : Type}

namespace Event

/-- Deliveries that are refused do not count. -/
def counts : Event Response → Bool
  | delivered _ _ accepted => accepted
  | _ => true

/-- A thread and the request that it sent. -/
def request? : Event Response → Option (Nat × String)
  | sent thread request => some (thread, request)
  | _ => none

/-- A response that somebody tried to deliver. -/
def attempt? : Event Response → Option Response
  | delivered _ response _ => some response
  | _ => none

def accepted? : Event Response → Option Response
  | delivered _ response true => some response
  | _ => none

def returned? : Event Response → Option Response
  | returned _ response => some response
  | _ => none

end Event

/-- A call that was served from beginning to end. -/
structure Served (Response : Type) where
  thread : Nat
  request : String
  deliverer : Nat
  response : Response

def Served.events (served : Served Response) : List (Event Response) :=
  [.sent served.thread served.request, .delivered served.deliverer served.response true,
    .returned served.thread served.response]

/-- How far the call has come that is served at the moment. -/
inductive Phase (Response : Type) where
  | free
  | asked (thread : Nat) (request : String)
  | answered (thread : Nat) (request : String) (deliverer : Nat) (response : Response)

namespace Phase

def events : Phase Response → List (Event Response)
  | free => []
  | asked thread request => [.sent thread request]
  | answered thread request deliverer response =>
    [.sent thread request, .delivered deliverer response true]

/-- The slot in this phase. -/
def slot : Phase Response → Slot Response
  | free => {}
  | asked _ _ => { waiting := true }
  | answered _ _ _ response => { waiting := true, response := some response }

def thread? : Phase Response → Option Nat
  | free => none
  | asked thread _ | answered thread _ _ _ => some thread

def request? : Phase Response → Option (Nat × String)
  | free => none
  | asked thread request | answered thread request _ _ => some (thread, request)

theorem eq_free {phase : Phase Response} (free : phase.slot.waiting = false) : phase = .free := by
  cases phase with
  | free => rfl
  | asked thread request => cases free
  | answered thread request deliverer response => cases free

theorem eq_answered {phase : Phase Response} {response : Response}
    (there : phase.slot.response = some response) :
    ∃ thread request deliverer, phase = .answered thread request deliverer response := by
  cases phase with
  | free => cases there
  | asked thread request => cases there
  | answered thread request deliverer other =>
    cases there
    exact ⟨thread, request, deliverer, rfl⟩

/-- Only a request that is asked has a response accepted. -/
theorem deliver_slot (phase : Phase Response) (response : Response) :
    (∃ thread request, phase = .asked thread request ∧
      phase.slot.deliver response = (true, { waiting := true, response := some response })) ∨
    (∀ thread request, phase ≠ .asked thread request) ∧
      phase.slot.deliver response = (false, phase.slot) := by
  cases phase with
  | free => exact Or.inr ⟨nofun, rfl⟩
  | asked thread request => exact Or.inl ⟨thread, request, rfl, rfl⟩
  | answered thread request deliverer other => exact Or.inr ⟨nofun, rfl⟩

end Phase

/-- A thread has sent its request and has not returned. -/
def Outstanding (events : List (Event Response)) (thread : Nat) : Prop :=
  (∃ request, .sent thread request ∈ events) ∧ ∀ response, .returned thread response ∉ events

/-- Some request is outstanding, and no response was accepted since it was sent. -/
def Unanswered (events : List (Event Response)) : Prop :=
  ∃ before thread request behind, events = before ++ .sent thread request :: behind ∧
    (∀ response, .returned thread response ∉ behind) ∧
    ∀ deliverer response, .delivered deliverer response true ∉ behind

/-- What a peer delivers are the answers to the requests that were sent before, one for each and in
their order. -/
def AnswersInOrder (answer : Nat → String → Response) (events : List (Event Response)) : Prop :=
  ∀ front, front <+: events →
    front.filterMap Event.attempt? <+:
      (front.filterMap Event.request?).map fun sent => answer sent.1 sent.2

/-- The thread of a call that waits for its response. -/
def receiver? (one : Waiting (Call Response)) : Option Nat :=
  match one.call with
  | .receive => some one.ticket
  | _ => none

/-- The events, deliveries that were refused apart, are those of the calls that were served and of
the one that is served at the moment. -/
structure Paired (talk : Talk Response) (served : List (Served Response)) (phase : Phase Response) :
    Prop where
  events : talk.events.filter Event.counts = served.flatMap Served.events ++ phase.events
  slot : talk.crew.state.slot = phase.slot
  receiver : talk.crew.waiting.filterMap receiver? = phase.thread?.toList
  apart : (served.map Served.thread ++ talk.crew.waiting.map Waiting.ticket).Nodup
  given : ∀ thread ∈ served.map Served.thread ++ talk.crew.waiting.map Waiting.ticket,
    thread < talk.begun
  /-- A peer that answers in order is never refused. -/
  accepted : ∀ answer, AnswersInOrder answer talk.events →
    ∀ event ∈ talk.events, event.counts = true

/-- Behind a request stands the response that was accepted for it, unless it is still asked. -/
theorem accepted_of_split {served : List (Served Response)} {phase : Phase Response}
    {front back : List (Event Response)} {thread : Nat} {request : String}
    (split : served.flatMap Served.events ++ phase.events = front ++ .sent thread request :: back) :
    phase = .asked thread request ∨
      ∃ deliverer response, .delivered deliverer response true ∈ back := by
  induction served generalizing front with
  | nil =>
    cases phase with
    | free => simp [Phase.events] at split
    | asked asker name =>
      rcases front with _ | ⟨first, front⟩ <;> simp [Phase.events] at split ⊢
      exact Or.inl split.1
    | answered asker name deliverer response =>
      apply Or.inr
      rcases front with _ | ⟨first, _ | ⟨second, front⟩⟩ <;> simp [Phase.events] at split
      rw [← split.2]
      exact ⟨deliverer, response, List.mem_singleton_self _⟩
  | cons one served ih =>
    rw [List.flatMap_cons, List.append_assoc] at split
    rcases front with _ | ⟨first, _ | ⟨second, _ | ⟨third, front⟩⟩⟩ <;>
      simp [Served.events] at split
    · apply Or.inr
      rw [← split.2]
      exact ⟨one.deliverer, one.response, List.mem_cons_self⟩
    · exact ih split.2.2.2

section
variable {events : List (Event Response)} {served : List (Served Response)}
  {phase : Phase Response}

theorem unanswered_iff
    (known : events.filter Event.counts = served.flatMap Served.events ++ phase.events) :
    Unanswered events ↔ ∃ thread request, phase = .asked thread request := by
  constructor
  · rintro ⟨before, thread, request, behind, split, -, free⟩
    have kept : (Event.sent thread request : Event Response).counts = true := rfl
    rw [split, List.filter_append, List.filter_cons_of_pos kept] at known
    rcases accepted_of_split known.symm with asked | ⟨deliverer, response, there⟩
    · exact ⟨thread, request, asked⟩
    · exact absurd (List.mem_filter.mp there).1 (free deliverer response)
  · rintro ⟨thread, request, rfl⟩
    obtain ⟨front, back, rfl, -, last⟩ := List.filter_eq_append_iff.mp known
    obtain ⟨before, behind, rfl, -, -, nothing⟩ := List.filter_eq_cons_iff.mp last
    have idle := List.filter_eq_nil_iff.mp nothing
    refine ⟨front ++ before, thread, request, behind, by simp, ?_, ?_⟩
    · intro response there
      exact idle _ there rfl
    · intro deliverer response there
      exact idle _ there rfl

theorem mem_of_counts (known : events.filter Event.counts = served.flatMap Served.events ++
    phase.events) {event : Event Response} (counted : event.counts = true) :
    event ∈ events ↔ event ∈ served.flatMap Served.events ++ phase.events := by
  rw [← known, List.mem_filter, and_iff_left counted]

/-- Only the thread that is served at the moment is still to return. -/
theorem thread_of_outstanding
    (known : events.filter Event.counts = served.flatMap Served.events ++ phase.events)
    {thread : Nat} (outstanding : Outstanding events thread) : phase.thread? = some thread := by
  obtain ⟨⟨request, sent⟩, waits⟩ := outstanding
  rw [mem_of_counts known rfl, List.mem_append, List.mem_flatMap] at sent
  rcases sent with ⟨one, member, there⟩ | there
  · simp only [Served.events, List.mem_cons, Event.sent.injEq, reduceCtorEq, List.not_mem_nil,
      or_false] at there
    refine absurd ?_ (waits one.response)
    rw [mem_of_counts known rfl, there.1]
    exact List.mem_append_left _ (List.mem_flatMap.mpr ⟨one, member, by simp [Served.events]⟩)
  · cases phase <;> simp_all [Phase.events, Phase.thread?]

/-- What each call that was served shows once. -/
theorem filterMap_served {Shown : Type} (look : Event Response → Option Shown)
    (shown : Served Response → Shown) (each : ∀ one, one.events.filterMap look = [shown one])
    (served : List (Served Response)) (phase : Phase Response) :
    (served.flatMap Served.events ++ phase.events).filterMap look =
      served.map shown ++ phase.events.filterMap look := by
  induction served with
  | nil => rfl
  | cons one served ih =>
    rw [List.flatMap_cons, List.append_assoc, List.filterMap_append, each, ih]
    rfl

theorem filterMap_request? (served : List (Served Response)) (phase : Phase Response) :
    (served.flatMap Served.events ++ phase.events).filterMap Event.request? =
      served.map (fun one => (one.thread, one.request)) ++ phase.request?.toList := by
  rw [filterMap_served Event.request? (fun one => (one.thread, one.request)) fun _ => rfl]
  cases phase <;> rfl

theorem filterMap_attempt? (served : List (Served Response)) (phase : Phase Response) :
    (served.flatMap Served.events ++ phase.events).filterMap Event.attempt? =
      served.map Served.response ++ phase.slot.response.toList := by
  rw [filterMap_served Event.attempt? Served.response fun _ => rfl]
  cases phase <;> rfl

theorem filterMap_accepted? (served : List (Served Response)) (phase : Phase Response) :
    (served.flatMap Served.events ++ phase.events).filterMap Event.accepted? =
      served.map Served.response ++ phase.slot.response.toList := by
  rw [filterMap_served Event.accepted? Served.response fun _ => rfl]
  cases phase <;> rfl

theorem filterMap_returned? (served : List (Served Response)) (phase : Phase Response) :
    (served.flatMap Served.events ++ phase.events).filterMap Event.returned? =
      served.map Served.response := by
  rw [filterMap_served Event.returned? Served.response fun _ => rfl]
  cases phase <;> simp [Phase.events, Event.returned?]

end

theorem AnswersInOrder.of_prefix {answer : Nat → String → Response}
    {events front : List (Event Response)} (answers : AnswersInOrder answer events)
    (before : front <+: events) : AnswersInOrder answer front :=
  fun _ earlier => answers _ (earlier.trans before)

/-! Steps -/

namespace Paired

variable {talk next : Talk Response} {served : List (Served Response)} {phase : Phase Response}

theorem start (paired : Paired talk served phase) {call : Call Response}
    (whole : receiver? { ticket := talk.begun, call } = none) :
    Paired (talk.start call) served phase := by
  refine ⟨paired.events, paired.slot, ?_, ?_, ?_, paired.accepted⟩
  · simp only [Talk.start, List.filterMap_append, paired.receiver, List.filterMap_cons, whole,
      List.filterMap_nil, List.append_nil]
  · simp only [Talk.start, List.map_append, List.map_cons, List.map_nil, ← List.append_assoc]
    rw [List.nodup_append]
    refine ⟨paired.apart, List.nodup_singleton _, ?_⟩
    intro old there new same
    rw [List.mem_singleton.mp same]
    exact Nat.ne_of_lt (paired.given old there)
  · intro thread there
    simp only [Talk.start, List.map_append, List.map_cons, List.map_nil,
      ← List.append_assoc] at there ⊢
    rcases List.mem_append.mp there with old | new
    · exact Nat.lt_succ_of_lt (paired.given thread old)
    · rw [List.mem_singleton.mp new]
      exact Nat.lt_succ_self _

/-- Everything but a delivery that is refused counts. -/
theorem accepted_snoc (paired : Paired talk served phase) (event : Event Response)
    (counted : event.counts = true) (answer : Nat → String → Response)
    (answers : AnswersInOrder answer (talk.events ++ [event])) :
    ∀ other ∈ talk.events ++ [event], other.counts = true := by
  intro other there
  rcases List.mem_append.mp there with old | new
  · exact paired.accepted answer (answers.of_prefix (List.prefix_append _ _)) other old
  · rw [List.mem_singleton.mp new]
    exact counted

/-- In order, there is no attempt without a request that is asked. -/
theorem not_answers_of_refused (paired : Paired talk served phase)
    (busy : ∀ thread request, phase ≠ .asked thread request) {answer : Nat → String → Response}
    {thread : Nat} {response : Response} :
    ¬ AnswersInOrder answer (talk.events ++ [.delivered thread response false]) := by
  intro answers
  have counted := paired.accepted answer (answers.of_prefix (List.prefix_append _ _))
  have known := paired.events
  rw [List.filter_eq_self.mpr counted] at known
  have short := (answers _ (List.prefix_refl _)).length_le
  rw [List.length_map, List.filterMap_append, List.filterMap_append, List.length_append,
    List.length_append, known, filterMap_attempt?, filterMap_request?] at short
  have none : [Event.delivered thread response false].filterMap Event.request? = [] := rfl
  have one : [Event.delivered thread response false].filterMap Event.attempt? = [response] := rfl
  rw [none, one] at short
  cases phase with
  | asked thread request => exact busy thread request rfl
  | free =>
    simp only [Phase.request?, Phase.slot, Option.toList_none, List.append_nil, List.length_map,
      List.length_singleton, List.length_nil] at short
    omega
  | answered thread request deliverer other =>
    simp only [Phase.request?, Phase.slot, Option.toList_some, List.length_append, List.length_map,
      List.length_singleton, List.length_nil] at short
    omega

section
variable {before behind : List (Waiting (Call Response))} {thread : Nat} {records : List Record}

theorem receivers_split (before behind : List (Waiting (Call Response)))
    (one : Waiting (Call Response)) :
    (before ++ one :: behind).filterMap receiver? =
      before.filterMap receiver? ++ (receiver? one).toList ++ behind.filterMap receiver? := by
  rw [List.filterMap_append, List.append_assoc, List.append_cancel_left_eq]
  cases same : receiver? one with
  | none => rw [List.filterMap_cons_none same]; rfl
  | some thread => rw [List.filterMap_cons_some same]; rfl

theorem sends (paired : Paired talk served phase) {name : String}
    (waiting : talk.crew.waiting =
      before ++ { ticket := thread, call := .request name, records } :: behind)
    (free : talk.crew.state.slot.waiting = false) :
    Paired
      { crew :=
          { state := { slot := { waiting := true }, sent := talk.crew.state.sent ++ [name] }
            waiting := before ++ { ticket := thread, call := .receive, records } :: behind }
        begun := talk.begun
        events := talk.events ++ [.sent thread name] } served (.asked thread name) := by
  have counts := fun answer => paired.accepted_snoc (.sent thread name) rfl answer
  obtain ⟨events, slot, receiver, apart, given, accepted⟩ := paired
  rw [slot] at free
  obtain rfl := Phase.eq_free free
  rw [waiting] at receiver apart given
  rw [List.map_append, List.map_cons] at apart given
  refine ⟨?_, rfl, ?_, ?_, ?_, counts⟩
  · rw [List.filter_append, events, List.append_assoc]
    rfl
  · rw [receivers_split] at receiver ⊢
    have nobody := List.append_eq_nil_iff.mp receiver
    have before := List.append_eq_nil_iff.mp nobody.1
    rw [before.1, nobody.2]
    rfl
  · rw [List.map_append, List.map_cons]
    exact apart
  · rw [List.map_append, List.map_cons]
    exact given

theorem receives (paired : Paired talk served phase) {response : Response}
    (waiting : talk.crew.waiting =
      before ++ { ticket := thread, call := .receive, records } :: behind)
    (there : talk.crew.state.slot.response = some response) :
    ∃ request deliverer,
      Paired
        { crew :=
            { state := { talk.crew.state with slot := { waiting := false } }
              waiting := before ++ behind }
          begun := talk.begun
          events := talk.events ++ [.returned thread response] }
        (served ++ [⟨thread, request, deliverer, response⟩]) .free := by
  have counts := fun answer => paired.accepted_snoc (.returned thread response) rfl answer
  obtain ⟨events, slot, receiver, apart, given, accepted⟩ := paired
  rw [slot] at there
  obtain ⟨asker, request, deliverer, rfl⟩ := Phase.eq_answered there
  rw [waiting] at receiver apart given
  rw [receivers_split] at receiver
  obtain ⟨front, rfl, back⟩ : before.filterMap receiver? = [] ∧ thread = asker ∧
      behind.filterMap receiver? = [] := by
    simpa [receiver?, Phase.thread?, List.append_eq_singleton_iff] using receiver
  have served_perm : (served.map Served.thread ++ (before ++
      { ticket := thread, call := Call.receive, records } :: behind).map Waiting.ticket).Perm
      ((served ++ [(⟨thread, request, deliverer, response⟩ : Served Response)]).map Served.thread ++
        (before ++ behind).map Waiting.ticket) := by
    simp only [List.map_append, List.map_cons, List.map_nil, List.append_assoc]
    exact List.perm_middle.append_left _
  refine ⟨request, deliverer, ?_, rfl, ?_, ?_, ?_, counts⟩
  · rw [List.filter_append, events]
    simp [Phase.events, Served.events, Event.counts]
  · rw [List.filterMap_append, front, back]
    rfl
  · exact served_perm.nodup_iff.mp apart
  · exact fun other member => given other (served_perm.mem_iff.mpr member)

theorem delivers (paired : Paired talk served phase) {response : Response}
    (waiting : talk.crew.waiting =
      before ++ { ticket := thread, call := .deliver response, records } :: behind) :
    ∃ phase, Paired
      { crew :=
          { state := { talk.crew.state with slot := (talk.crew.state.slot.deliver response).2 }
            waiting := before ++ behind }
        begun := talk.begun
        events := talk.events ++
          [.delivered thread response (talk.crew.state.slot.deliver response).1] }
      served phase := by
  have counts := fun answer => paired.accepted_snoc (.delivered thread response true) rfl answer
  have refused := @not_answers_of_refused _ _ _ _ paired
  obtain ⟨events, slot, receiver, apart, given, accepted⟩ := paired
  rw [waiting] at receiver apart given
  rw [receivers_split] at receiver
  have others : (before ++ behind).filterMap receiver? = phase.thread?.toList := by
    rw [← receiver, List.filterMap_append]
    simp [receiver?]
  have fewer : List.Sublist (served.map Served.thread ++ (before ++ behind).map Waiting.ticket)
      (served.map Served.thread ++ (before ++
        { ticket := thread, call := Call.deliver response, records } :: behind).map
          Waiting.ticket) := by
    apply (List.Sublist.refl _).append
    apply List.Sublist.map
    exact (List.Sublist.refl _).append (List.sublist_cons_self _ _)
  rw [slot]
  rcases phase.deliver_slot response with ⟨asker, request, rfl, same⟩ | ⟨busy, same⟩
  · refine ⟨.answered asker request thread response, ?_, ?_, others, apart.sublist fewer,
      fun other member => given other (fewer.subset member), ?_⟩
    · rw [same, List.filter_append, events]
      simp [Phase.events, Event.counts]
    · rw [same]
      rfl
    · rw [same]
      exact counts
  · refine ⟨phase, ?_, ?_, others, apart.sublist fewer,
      fun other member => given other (fewer.subset member), ?_⟩
    · rw [same, List.filter_append, events]
      simp [Event.counts]
    · rw [same]
    · rw [same]
      exact fun answer answers => absurd answers (refused busy)

end

theorem moves (paired : Paired talk served phase) (moves : Talk.Moves talk next) :
    ∃ served phase, Paired next served phase := by
  cases moves with
  | sends waiting free => exact ⟨_, _, paired.sends waiting free⟩
  | receives waiting there =>
    obtain ⟨request, deliverer, paired⟩ := paired.receives waiting there
    exact ⟨_, _, paired⟩
  | delivers waiting =>
    obtain ⟨phase, paired⟩ := paired.delivers waiting
    exact ⟨_, _, paired⟩

end Paired

theorem receivers_sublist (waiting : List (Waiting (Call Response))) :
    List.Sublist (waiting.filterMap receiver?) (waiting.map Waiting.ticket) := by
  induction waiting with
  | nil => exact .slnil
  | cons one waiting ih =>
    obtain ⟨thread, call, records⟩ := one
    cases call with
    | receive => exact ih.cons_cons thread
    | request name => exact ih.cons thread
    | deliver response => exact ih.cons thread

namespace Paired

variable {talk : Talk Response} {served : List (Served Response)} {phase : Phase Response}

/-- A call is served once. -/
theorem once (paired : Paired talk served phase) :
    (served.map Served.thread ++ phase.thread?.toList).Nodup := by
  rw [← paired.receiver]
  exact paired.apart.sublist ((List.Sublist.refl _).append (receivers_sublist _))

theorem accepted_eq (paired : Paired talk served phase) :
    talk.events.filterMap Event.accepted? =
      talk.events.filterMap Event.returned? ++ talk.crew.state.slot.response.toList := by
  have shown {look : Event Response → Option Response}
      (kept : ∀ event, event.counts = false → look event = none) :
      talk.events.filterMap look = (talk.events.filter Event.counts).filterMap look := by
    rw [List.filterMap_filter]
    apply List.filterMap_congr
    intro event _
    cases counted : event.counts with
    | false => simpa using kept event counted
    | true => rfl
  have first : ∀ event : Event Response, event.counts = false → event.accepted? = none := by
    rintro (_ | ⟨_, _, _ | _⟩ | _) counted <;> first | rfl | cases counted
  have second : ∀ event : Event Response, event.counts = false → event.returned? = none := by
    rintro (_ | _ | _) counted <;> first | rfl | cases counted
  rw [shown first, shown second, paired.events, filterMap_accepted?, filterMap_returned?,
    paired.slot]

/-- If a peer answers in order, everybody who was served got the answer to its own request. -/
theorem own_answer (paired : Paired talk served phase) {answer : Nat → String → Response}
    (answers : AnswersInOrder answer talk.events) :
    ∀ one ∈ served, one.response = answer one.thread one.request := by
  have known := paired.events
  rw [List.filter_eq_self.mpr (paired.accepted answer answers)] at known
  obtain ⟨rest, same⟩ := answers _ (List.prefix_refl _)
  rw [known, filterMap_attempt?, filterMap_request?, List.map_append, List.append_assoc,
    List.map_map] at same
  have front := (List.append_inj same (by simp)).1
  exact List.map_inj_left.mp front

theorem returned_own (paired : Paired talk served phase) {answer : Nat → String → Response}
    (answers : AnswersInOrder answer talk.events) {thread : Nat} {response : Response}
    (returned : .returned thread response ∈ talk.events) :
    ∃ request, .sent thread request ∈ talk.events ∧ response = answer thread request := by
  rw [mem_of_counts paired.events rfl, List.mem_append, List.mem_flatMap] at returned
  rcases returned with ⟨one, member, there⟩ | there
  · simp only [Served.events, List.mem_cons, Event.returned.injEq, reduceCtorEq, List.not_mem_nil,
      or_false, false_or] at there
    obtain ⟨rfl, rfl⟩ := there
    refine ⟨one.request, ?_, paired.own_answer answers one member⟩
    rw [mem_of_counts paired.events rfl]
    exact List.mem_append_left _ (List.mem_flatMap.mpr ⟨one, member, by simp [Served.events]⟩)
  · cases phase <;> simp [Phase.events] at there

/-- A delivery does not wait. -/
theorem delivery (paired : Paired talk served phase)
    {before behind : List (Waiting (Call Response))} {thread : Nat} {response : Response}
    {records : List Record}
    (waiting : talk.crew.waiting =
      before ++ { ticket := thread, call := .deliver response, records } :: behind) :
    ∃ accepted,
      (talk.move before.length).events = talk.events ++ [.delivered thread response accepted] ∧
      (accepted = true ↔ Unanswered talk.events) ∧
      (accepted = false → (talk.move before.length).crew.state = talk.crew.state) := by
  have moves : talk.move before.length =
      { talk with
        crew :=
          { state := { talk.crew.state with slot := (talk.crew.state.slot.deliver response).2 }
            waiting := before ++ behind }
        events := talk.events ++
          [.delivered thread response (talk.crew.state.slot.deliver response).1] } := by
    rw [Talk.move_of_split waiting]
    simp [Call.move, Talk.left, Call.event?]
  rw [moves, unanswered_iff paired.events, paired.slot]
  refine ⟨_, rfl, ?_, ?_⟩
  · rcases phase.deliver_slot response with ⟨asker, request, asked, same⟩ | ⟨busy, same⟩
    · rw [same]
      exact iff_of_true rfl ⟨asker, request, asked⟩
    · rw [same]
      refine iff_of_false Bool.false_ne_true ?_
      rintro ⟨asker, request, asked⟩
      exact busy asker request asked
  · rcases phase.deliver_slot response with ⟨asker, request, asked, same⟩ | ⟨busy, same⟩
    · rw [same]
      intro refused
      cases refused
    · rw [same, ← paired.slot]
      exact fun _ => rfl

/-- Whoever waits for a response that is there can go on. -/
theorem moves_of_answered {thread deliverer : Nat} {request : String} {response : Response}
    (paired : Paired talk served (.answered thread request deliverer response)) :
    ∃ next, Talk.Moves talk next := by
  have waits : thread ∈ talk.crew.waiting.filterMap receiver? := by
    rw [paired.receiver]
    exact List.mem_singleton_self thread
  obtain ⟨⟨ticket, call, records⟩, member, same⟩ := List.mem_filterMap.mp waits
  obtain ⟨before, behind, waiting⟩ := List.append_of_mem member
  have there : talk.crew.state.slot.response = some response := by
    rw [paired.slot]
    rfl
  cases call with
  | receive => exact ⟨_, .receives waiting there⟩
  | request name => cases same
  | deliver other => cases same

/-- With a free slot everybody can go on. -/
theorem moves_of_free (paired : Paired talk served .free) (some : talk.crew.waiting ≠ []) :
    ∃ next, Talk.Moves talk next := by
  obtain ⟨⟨ticket, call, records⟩, behind, waiting⟩ := List.exists_cons_of_ne_nil some
  rw [← List.nil_append (_ :: behind)] at waiting
  have free : talk.crew.state.slot.waiting = false := by
    rw [paired.slot]
    rfl
  cases call with
  | request name => exact ⟨_, .sends waiting free⟩
  | deliver response => exact ⟨_, .delivers waiting⟩
  | receive =>
    have nobody := paired.receiver
    rw [waiting, receivers_split] at nobody
    simp [receiver?, Phase.thread?] at nobody

/-- If no thread can move and all requests were answered in order, then no thread is left. -/
theorem nobody_waits (paired : Paired talk served phase) {answer : Nat → String → Response}
    (answers : AnswersInOrder answer talk.events) (still : ∀ position, talk.move position = talk)
    (all : (talk.events.filterMap Event.attempt?).length =
      (talk.events.filterMap Event.request?).length) : talk.crew.waiting = [] := by
  have stuck : ¬ ∃ next, Talk.Moves talk next := by
    rintro ⟨_, moves⟩
    exact Talk.not_moves_of_still still moves
  cases phase with
  | free =>
    apply Classical.byContradiction
    intro some
    exact stuck (paired.moves_of_free some)
  | answered thread request deliverer response => exact absurd paired.moves_of_answered stuck
  | asked thread request =>
    have known := paired.events
    rw [List.filter_eq_self.mpr (paired.accepted answer answers)] at known
    rw [known, filterMap_attempt?, filterMap_request?] at all
    simp [Phase.slot, Phase.request?] at all

end Paired

namespace Talk

theorem paired (turns : List (Turn Response)) :
    ∃ served phase, Paired (play turns) served phase := by
  induction turns using List.reverseRecOn with
  | nil =>
    refine ⟨[], .free, rfl, rfl, rfl, List.nodup_nil, ?_, ?_⟩
    · exact List.forall_mem_nil _
    · exact fun _ _ => List.forall_mem_nil _
  | append_singleton turns last ih =>
    obtain ⟨served, phase, paired⟩ := ih
    rw [play_snoc]
    cases last with
    | request name => exact ⟨served, phase, paired.start rfl⟩
    | deliver response => exact ⟨served, phase, paired.start rfl⟩
    | move position =>
      rw [turn]
      rcases move_cases (play turns) position with same | moves
      · rw [same]
        exact ⟨served, phase, paired⟩
      · exact paired.moves moves

/-- Whatever threads call the slot and deliver to it, in whatever order: calls are served one after
the other, each by one response that is accepted after its request was sent and that it returns
with, and no second one has sent its request in the meantime. What is accepted is what is returned,
in order, and what the slot still holds. A delivery is accepted exactly if a request is outstanding
and unanswered, and one that is refused changes nothing. So if a peer answers the requests in order,
every call returns with the answer to its own request, and once all are answered and nothing moves
any more, nobody waits. -/
theorem answered_in_turn (turns : List (Turn Response)) :
    let talk := play turns
    (∃ (served : List (Served Response)) (phase : Phase Response),
      talk.events.filter Event.counts = served.flatMap Served.events ++ phase.events ∧
      (served.map Served.thread ++ phase.thread?.toList).Nodup ∧
      talk.crew.state.slot = phase.slot) ∧
    (∀ first second, Outstanding talk.events first → Outstanding talk.events second →
      first = second) ∧
    talk.events.filterMap Event.accepted? =
      talk.events.filterMap Event.returned? ++ talk.crew.state.slot.response.toList ∧
    (∀ before thread response records behind,
      talk.crew.waiting =
        before ++ { ticket := thread, call := .deliver response, records } :: behind →
      ∃ accepted,
        (talk.move before.length).events = talk.events ++ [.delivered thread response accepted] ∧
        (accepted = true ↔ Unanswered talk.events) ∧
        (accepted = false → (talk.move before.length).crew.state = talk.crew.state)) ∧
    (∀ answer, AnswersInOrder answer talk.events →
      (∀ thread response, .returned thread response ∈ talk.events →
        ∃ request, .sent thread request ∈ talk.events ∧ response = answer thread request) ∧
      ((∀ position, talk.move position = talk) →
        (talk.events.filterMap Event.attempt?).length =
          (talk.events.filterMap Event.request?).length →
        talk.crew.waiting = [])) ∧
    talk.events.length ≤ 2 * talk.begun := by
  obtain ⟨served, phase, paired⟩ := paired turns
  have effort := effort_le turns
  refine ⟨⟨served, phase, paired.events, paired.once, paired.slot⟩, ?_, paired.accepted_eq, ?_, ?_,
    ?_⟩
  · intro first second one other
    have same := thread_of_outstanding paired.events one
    rw [thread_of_outstanding paired.events other] at same
    exact Option.some.inj same.symm
  · intro before thread response records behind
    exact paired.delivery
  · intro answer answers
    exact ⟨fun thread response => paired.returned_own answers, paired.nobody_waits answers⟩
  · exact Nat.le_trans (Nat.le_add_right _ _) (Nat.le_trans (Nat.le_add_right _ _) effort)

/-- Two threads ask while a third one delivers too often: before anything is asked, and twice for
the first request. -/
example :
    (play [.deliver 9, .request "a", .request "b", .move 0, .move 0, .deliver 1, .deliver 2,
      .move 1, .move 2, .move 2, .move 0, .move 0, .deliver 3, .move 1, .move 0]).events =
      [.delivered 0 9 false, .sent 1 "a", .delivered 3 1 true, .delivered 4 2 false,
        .returned 1 1, .sent 2 "b", .delivered 5 3 true, .returned 2 3] := by
  decide

end Talk

end Playback.Slot
