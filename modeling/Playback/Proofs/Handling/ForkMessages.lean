import Playback.Proofs.ExternalCalls.Cache
import Playback.Proofs.Handling.Attending
import Playback.Proofs.Keys.Wire
import Playback.Proofs.Message.Canonical
import Mathlib.Data.List.Forall2

set_option autoImplicit false

namespace Playback

namespace Context

theorem learn_slots (context : Context) (message : Message) :
    (context.learn message).keys.slot = context.keys.slot ∧
      (context.learn message).calls.slot = context.calls.slot := by
  unfold learn
  constructor
  · cases message.setting? <;> rfl
  · cases message.output? with
    | none => rfl
    | some known => exact ExternalCalls.slot_insert _ _ _

/-- Messages teach a root about scans, shared keys and outputs, and nothing else. -/
theorem foldl_learn_rest (context : Context) (messages : List Message) :
    messages.foldl learn context =
      { context with
        host := (messages.foldl learn context).host
        keys := { context.keys with entries := (messages.foldl learn context).keys.entries }
        calls := { context.calls with cache := (messages.foldl learn context).calls.cache } } := by
  induction messages generalizing context with
  | nil => rfl
  | cons message rest ih =>
    obtain ⟨keys, calls⟩ := context.learn_slots message
    have behind := ih (context.learn message)
    dsimp only at behind
    rw [keys, calls] at behind
    exact behind

theorem foldl_learn_with (context : Context) (messages : List Message) (recording : Recording)
    (forks : ForkTable Nat) :
    messages.foldl learn { context with recording, forks } =
      { messages.foldl learn context with recording, forks } := by
  induction messages generalizing context with
  | nil => rfl
  | cons message rest ih => exact ih (context.learn message)

/-- What a root has learned from messages, field by field. -/
theorem foldl_learn_host (context : Context) (messages : List Message) :
    (messages.foldl learn context).host =
      (messages.filterMap Message.scan?).foldl (fun host data => host.note (.scan data))
        context.host := by
  induction messages generalizing context with
  | nil => rfl
  | cons message rest ih =>
    rw [List.foldl_cons, ih, List.filterMap_cons, learn]
    cases message.scan? <;> rfl

theorem foldl_learn_keys (context : Context) (messages : List Message) (key : String) :
    (messages.foldl learn context).keys.get key =
      ((messages.filterMap Message.setting?).reverse.lookup key).getD (context.keys.get key) := by
  induction messages generalizing context with
  | nil => rfl
  | cons message rest ih =>
    rw [List.foldl_cons, ih, List.filterMap_cons, learn]
    cases message.setting? with
    | none => rfl
    | some setting =>
      obtain ⟨name, value⟩ := setting
      simp only [Option.elim_some, SharedKeys.get_set, List.reverse_cons, List.lookup_append,
        List.lookup_singleton, beq_iff_eq]
      cases (rest.filterMap Message.setting?).reverse.lookup key with
      | some last => rfl
      | none => by_cases same : key = name <;> simp [same]

theorem foldl_learn_calls (context : Context) (messages : List Message) (id : CallId) :
    (messages.foldl learn context).calls.output? id =
      (context.calls.output? id).or ((messages.filterMap Message.output?).lookup id) := by
  induction messages generalizing context with
  | nil => exact (Option.or_none).symm
  | cons message rest ih =>
    rw [List.foldl_cons, ih, List.filterMap_cons, learn]
    cases message.output? with
    | none => rfl
    | some known =>
      obtain ⟨other, output⟩ := known
      simp only [Option.elim_some, ExternalCalls.output?_insert, List.lookup_cons]
      by_cases same : id = other
      · subst same
        simp only [if_true, beq_self_eq_true]
        cases context.calls.output? id <;> rfl
      · have apart : (id == other) = false := beq_false_of_ne same
        simp only [if_neg same, apart, Option.or_none]

end Context

namespace Message

/-- A message that a frame brought is passed on, or answered, or tells something, or is a response
for no call. -/
theorem served_of_decode {frame : Bytes} {message : Message}
    (decoded : decode frame = .ok message) :
    message.goesOn = true ∨ message.asks = true ∨ message.scan?.isSome = true ∨
      message.setting?.isSome = true ∨ message.output?.isSome = true ∨
      message.kind = .externalCallResponse ∧ message.tag? = some 0 := by
  have origin := from_of_decode decoded
  have key := (Payload.keyFits_iff _ _).mp origin.key
  obtain ⟨flags, kind, fork, payload, fits⟩ := message
  cases kind <;> cases payload <;> try cases fits
  case externalCallResponse.binary tag output =>
    by_cases named : tag = 0
    · exact Or.inr (Or.inr (Or.inr (Or.inr (Or.inr ⟨rfl, congrArg some named⟩))))
    · refine Or.inr (Or.inr (Or.inr (Or.inr (Or.inl ?_))))
      have known : CallId.ofNumber? tag = some ⟨tag, named⟩ := dif_pos named
      simp only [output?, known]
      rfl
  case sharedKeySet.binary tag data =>
    refine Or.inr (Or.inr (Or.inr (Or.inl ?_)))
    have inside := key tag data rfl rfl
    simp only [setting?, sharedKeyEntry?, if_pos inside]
    rfl
  case updateRecording.updateRecording => exact Or.inr (Or.inl rfl)
  case externalCallRequest.binary => exact Or.inr (Or.inl rfl)
  case sharedKeyRequest.binary => exact Or.inr (Or.inl rfl)
  case scanData.binary => exact Or.inr (Or.inr (Or.inl rfl))
  all_goals exact Or.inl rfl

end Message

namespace Hears

variable {context last : Context} {heard : List Heard} {endpoint : Nat}

/-- What went through an endpoint, and what went elsewhere, when a message was handled. -/
theorem sends_of {one : Heard} {replies : List Message}
    (channel : context.channel = some endpoint) (avoids : context.forks.Avoids endpoint)
    (effects : one.effects =
      (if one.message.goesOn then context.sendEffects one.message else []) ++
        (context.forks.feed replies).1.flatten) :
    one.sent endpoint = [one.message].filter Message.goesOn ∧
      one.besides endpoint = (context.forks.feed replies).1.flatten := by
  have silent : ∀ effect ∈ (context.forks.feed replies).1.flatten,
      effect.sentOn endpoint = none := by
    intro effect there
    obtain ⟨some, member, inside⟩ := List.mem_flatten.mp there
    exact (avoids.feed replies).2 some member effect inside
  have nothing := List.filterMap_eq_nil_iff.mpr silent
  have all : (context.forks.feed replies).1.flatten.filter
      (fun effect => (effect.sentOn endpoint).isNone) =
        (context.forks.feed replies).1.flatten :=
    List.filter_eq_self.mpr fun effect there => Option.isNone_iff_eq_none.mpr (silent effect there)
  rw [Heard.sent, Heard.besides, effects, List.filterMap_append, List.filter_append, nothing, all,
    Context.sendEffects, channel]
  cases goes : one.message.goesOn <;> simp [goes, Effect.sentOn]

/-- What a root has come to behind messages of its forks, and what it has sent. -/
theorem attended (root : context.isRoot = true) (channel : context.channel = some endpoint)
    (avoids : context.forks.Avoids endpoint)
    (hears : Hears Context.Fills Program.handleFork context heard last) :
    ∃ replies recording,
      List.Forall₂ Message.Replies ((heard.map Heard.message).filter Message.asks) replies ∧
      context.recording.contents <+: recording.contents ∧
      heard.flatMap (Heard.sent endpoint) = (heard.map Heard.message).filter Message.goesOn ∧
      heard.flatMap (Heard.besides endpoint) = (context.forks.feed replies).1.flatten ∧
      last = { (heard.map Heard.message).foldl Context.learn context with
               recording, forks := (context.forks.feed replies).2 } := by
  induction hears with
  | nothing context => exact ⟨[], context.recording, .nil, List.prefix_rfl, rfl, rfl, rfl⟩
  | @next context between last one rest handled later ih =>
    obtain ⟨first, recording, answered, longer, effects, rfl⟩ := Context.attends root handled
    obtain ⟨others, second, behind, further, sent, besides, rfl⟩ :=
      ih (by exact root) (by exact channel) (avoids.feed first).1
    obtain ⟨own, elsewhere⟩ := sends_of channel avoids effects
    refine ⟨first ++ others, second, ?_, longer.trans further, ?_, ?_, ?_⟩
    · rw [List.map_cons, ← List.singleton_append, List.filter_append]
      exact List.rel_append answered behind
    · rw [List.flatMap_cons, List.map_cons, ← List.singleton_append, List.filter_append, own, sent]
    · rw [List.flatMap_cons, elsewhere, besides, ForkTable.feed_append, List.flatten_append]
    · rw [ForkTable.feed_append, Context.foldl_learn_with]
      rfl

/-- A root whose lock no writer holds comes to the end of any messages of its forks. -/
theorem attended_exists (root : context.isRoot = true)
    (free : context.lock.isWriteLocked = false) (messages : List Message) :
    ∃ heard last, heard.map Heard.message = messages ∧
      Hears Context.Fills Program.handleFork context heard last := by
  induction messages generalizing context with
  | nil => exact ⟨[], context, rfl, .nothing context⟩
  | cons message rest ih =>
    obtain ⟨effects, between, run⟩ :=
      Context.attends_exists message false {} .done root free
    obtain ⟨replies, recording, -, -, -, rfl⟩ := Context.attends root run
    obtain ⟨heard, last, same, later⟩ : ∃ heard last, heard.map Heard.message = rest ∧
        Hears Context.Fills Program.handleFork { context.learn message with
          recording, forks := (context.forks.feed replies).2 } heard last :=
      ih (by exact root) (by exact free)
    refine ⟨{ message, effects } :: heard, last, congrArg (message :: ·) same, .next run later⟩

end Hears

/-- The frames of messages, each of which is read as its message again. -/
def Message.Frames (messages : List Message) (frames : List Bytes) : Prop :=
  List.Forall₂ (fun message frame => message.encode = .ok frame ∧ decode frame = .ok message)
    messages frames

theorem Message.Frames.queued {messages : List Message} {frames : List Bytes}
    (framed : Frames messages frames) {channel : Channel} (opened : channel.closed = false) :
    messages.foldl Channel.send channel = { channel with queue := channel.queue ++ frames } := by
  induction framed generalizing channel with
  | nil => simp
  | @cons message frame messages frames first others ih =>
    rw [List.foldl_cons, Channel.send_of_open opened first.1, ih (by exact opened),
      List.append_assoc]
    rfl

theorem Message.frames_of_accepted {messages : List Message}
    (accepted : ∀ message ∈ messages, ∃ frame, decode frame = .ok message)
    (framed : ∀ message ∈ messages, ∃ frame, message.encode = .ok frame) :
    ∃ frames, Frames messages frames := by
  induction messages with
  | nil => exact ⟨[], .nil⟩
  | cons message rest ih =>
    obtain ⟨origin, decoded⟩ := accepted message List.mem_cons_self
    obtain ⟨frame, encoded⟩ := framed message List.mem_cons_self
    obtain ⟨frames, others⟩ := ih (fun other there => accepted other (List.mem_cons_of_mem _ there))
      (fun other there => framed other (List.mem_cons_of_mem _ there))
    exact ⟨frame :: frames, .cons ⟨encoded, (from_of_decode decoded).decode_encode encoded⟩ others⟩

/-- What a root has done about messages of its forks. -/
structure Accounted (endpoint : Nat) (context : Context) (messages : List Message)
    (heard : List Heard) (last : Context) : Prop where
  /-- What the root does not deal with itself has gone out as it came, in order. -/
  passedOn : heard.flatMap (Heard.sent endpoint) = messages.filter Message.goesOn
  queued : ∃ frames, Message.Frames (messages.filter Message.goesOn) frames ∧
    ∀ channel : Channel, channel.closed = false →
      (heard.flatMap (Heard.sent endpoint)).foldl Channel.send channel =
        { channel with queue := channel.queue ++ frames }
  /-- Each message that asks has got one reply, and nothing else went elsewhere. -/
  replied : ∃ replies, List.Forall₂ Message.Replies (messages.filter Message.asks) replies ∧
    heard.flatMap (Heard.besides endpoint) = (context.forks.feed replies).1.flatten ∧
    last.forks = (context.forks.feed replies).2
  /-- The host has been told of each scan. -/
  scanned : last.host = (messages.filterMap Message.scan?).foldl
    (fun host data => host.note (.scan data)) context.host
  /-- What was set last is what a key has come to. -/
  set : ∀ key, last.keys.get key =
    ((messages.filterMap Message.setting?).reverse.lookup key).getD (context.keys.get key)
  /-- What came first for a call is what is known of it, unless its output was known before. -/
  cached : ∀ id, last.calls.output? id =
    (context.calls.output? id).or ((messages.filterMap Message.output?).lookup id)
  recording : context.recording.contents <+: last.recording.contents
  others : last =
    { context with
      recording := last.recording, forks := last.forks, host := last.host
      keys := { context.keys with entries := last.keys.entries }
      calls := { context.calls with cache := last.calls.cache } }
  /-- A message from which nothing follows is a response for no call. -/
  nothingLost : ∀ message ∈ messages,
    message.goesOn = true ∨ message.asks = true ∨ message.scan?.isSome = true ∨
      message.setting?.isSome = true ∨ message.output?.isSome = true ∨
      message.kind = .externalCallResponse ∧ message.tag? = some 0

/-- A root passes on, answers or remembers whatever its forks send, as long as others see to it that
the recording comes. It is never stuck with their messages, and however it comes to the end of them,
all of them are accounted for. -/
theorem fork_messages_accounted {context : Context} {endpoint : Nat} {messages : List Message}
    (root : context.isRoot = true) (channel : context.channel = some endpoint)
    (avoids : context.forks.Avoids endpoint)
    (accepted : ∀ message ∈ messages, ∃ frame, Message.decode frame = .ok message)
    (framed : ∀ message ∈ messages, ∃ frame, message.encode = .ok frame) :
    (context.lock.isWriteLocked = false → ∃ heard last, heard.map Heard.message = messages ∧
      Hears Context.Fills Program.handleFork context heard last) ∧
    ∀ heard last, heard.map Heard.message = messages →
      Hears Context.Fills Program.handleFork context heard last →
      Accounted endpoint context messages heard last := by
  refine ⟨fun free => Hears.attended_exists root free messages, ?_⟩
  rintro heard last rfl hears
  obtain ⟨replies, recording, answered, longer, sent, besides, rfl⟩ :=
    hears.attended root channel avoids
  have chosen (message : Message)
      (there : message ∈ (heard.map Heard.message).filter Message.goesOn) :
      message ∈ heard.map Heard.message := (List.mem_filter.mp there).1
  obtain ⟨frames, framed⟩ := Message.frames_of_accepted
    (fun message there => accepted message (chosen message there))
    (fun message there => framed message (chosen message there))
  exact {
    passedOn := sent
    queued := ⟨frames, framed, fun channel opened => by rw [sent, framed.queued opened]⟩
    replied := ⟨replies, answered, besides, rfl⟩
    scanned := context.foldl_learn_host _
    set := context.foldl_learn_keys _
    cached := context.foldl_learn_calls _
    recording := longer
    others := by
      have rest := context.foldl_learn_rest (heard.map Heard.message)
      exact congrArg (fun changed : Context =>
        { changed with recording, forks := (context.forks.feed replies).2 }) rest
    nothingLost := fun message there =>
      have ⟨_, decoded⟩ := accepted message there
      Message.served_of_decode decoded }

theorem rootOfFive_avoids : rootOfFive.forks.Avoids 0 := by
  intro fork process found
  simp only [rootOfFive, ForkTable.process?, List.lookup_cons, List.lookup_nil] at found
  split at found <;> cases found
  exact Nat.one_ne_zero

/-- Of two messages the first goes on to the middleman and the second is answered. -/
theorem finished_and_asked_accounted :
    let messages := [Message.manifestFinished 5 [1, 2], .externalCallRequest 5 7 []]
    ∃ heard last, heard.map Heard.message = messages ∧
      Hears Context.Fills Program.handleFork rootOfFive heard last ∧
      Accounted 0 rootOfFive messages heard last := by
  intro messages
  have frames : ∀ message ∈ messages, ∃ frame,
      message.encode = .ok frame ∧ Message.decode frame = .ok message := by
    intro message there
    have plain : message.Framed ∧ message.Readable := by
      rcases List.mem_pair.mp there with rfl | rfl
      · exact ⟨by decide, nofun, nofun⟩
      · exact ⟨by decide, nofun, nofun⟩
    exact plain.1.decodes plain.2
  obtain ⟨finishes, accounts⟩ := fork_messages_accounted rfl rfl rootOfFive_avoids
    (fun message there => (frames message there).imp fun _ both => both.2)
    (fun message there => (frames message there).imp fun _ both => both.1)
  obtain ⟨heard, last, same, hears⟩ := finishes rfl
  exact ⟨heard, last, same, hears, accounts heard last same hears⟩

end Playback
