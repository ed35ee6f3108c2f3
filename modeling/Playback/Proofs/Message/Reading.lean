import Playback.Message.Stream
import Playback.Proofs.Message.RoundTrip

set_option autoImplicit false

namespace Playback

theorem Header.read_take (bytes : Bytes) {count : Nat} (enough : headerSize ≤ count) :
    Header.read (bytes.take count) = Header.read bytes := by
  rw [headerSize] at enough
  simp only [read, List.take_take, List.drop_take]
  rw [Nat.min_eq_left (by omega), Nat.min_eq_left (by omega), Nat.min_eq_left (by omega),
    Nat.min_eq_left (by omega)]

theorem Header.parse_take (bytes : Bytes) {count : Nat} (enough : headerSize ≤ count) :
    Header.parse (bytes.take count) = Header.parse bytes := by
  rw [parse, parse, read_take bytes enough]

theorem Header.size_of_parse {bytes : Bytes} {header : Header}
    (parsed : Header.parse bytes = .ok header) : headerSize ≤ header.size.toNat := by
  unfold parse at parsed
  dsimp only at parsed
  split at parsed
  · cases parsed
  · cases parsed
    omega

/-- A frame is decoded as the body behind its header. -/
theorem Message.decode_take {bytes : Bytes} {header : Header}
    (parsed : Header.parse bytes = .ok header) (there : header.size.toNat ≤ bytes.length) :
    Message.decode (bytes.take header.size.toNat) =
      Message.decodePayload header ((bytes.drop headerSize).take header.payloadSize) := by
  have enough := Header.size_of_parse parsed
  have length : (bytes.take header.size.toNat).length = header.size.toNat := by
    rw [List.length_take]
    omega
  have long : ¬ (bytes.take header.size.toNat).length < headerSize := by omega
  rw [decode, if_neg long, Header.parse_take bytes enough, parsed]
  change (if _ then _ else _) = _
  rw [if_pos length, List.drop_take]
  rfl

/-! Frames of a byte string -/

/-- The first frame, cut off by its size field and decoded, and the bytes behind what was looked
at. -/
def firstFrame (bytes : Bytes) : Incoming × Bytes :=
  if bytes = [] then (.finished, [])
  else if bytes.length < headerSize then (.failed (.io .endInHeader), [])
  else
    match Header.parse (bytes.take headerSize) with
    | .error error => (.failed (.frame error), bytes.drop headerSize)
    | .ok header =>
      if bytes.length < header.size.toNat then (.failed (.io .endInBody), [])
      else
        match Message.decode (bytes.take header.size.toNat) with
        | .error error => (.failed (.frame error), bytes.drop header.size.toNat)
        | .ok message => (.message message, bytes.drop header.size.toNat)

theorem firstFrame_of_nil : firstFrame [] = (.finished, []) := rfl

theorem firstFrame_of_short {bytes : Bytes} (some : bytes ≠ [])
    (short : bytes.length < headerSize) :
    firstFrame bytes = (.failed (.io .endInHeader), []) := by
  rw [firstFrame, if_neg some, if_pos short]

theorem firstFrame_of_parsed {bytes : Bytes} (enough : headerSize ≤ bytes.length) :
    firstFrame bytes =
      match Header.parse bytes with
      | .error error => (.failed (.frame error), bytes.drop headerSize)
      | .ok header =>
        if bytes.length < header.size.toNat then (.failed (.io .endInBody), [])
        else
          match Message.decode (bytes.take header.size.toNat) with
          | .error error => (.failed (.frame error), bytes.drop header.size.toNat)
          | .ok message => (.message message, bytes.drop header.size.toNat) := by
  have some : bytes ≠ [] := by
    rintro rfl
    exact absurd enough (by decide)
  rw [firstFrame, if_neg some, if_neg (by omega), Header.parse_take bytes (Nat.le_refl _)]

theorem Message.decode_eq_ok {bytes : Bytes} {message : Message}
    (decoded : Message.decode bytes = .ok message) :
    headerSize ≤ bytes.length ∧ ∃ header, Header.parse bytes = .ok header ∧
      header.size.toNat = bytes.length := by
  unfold decode at decoded
  split at decoded
  · cases decoded
  · rename_i long
    cases parsed : Header.parse bytes with
    | error error => simp [parsed, bind, Except.bind] at decoded
    | ok header =>
      simp only [parsed, bind, Except.bind] at decoded
      split at decoded
      · rename_i exact
        exact ⟨by omega, header, rfl, exact.symm⟩
      · cases decoded

/-- A frame stands at the front exactly if some bytes there decode. -/
theorem firstFrame_eq_message {bytes rest : Bytes} {message : Message} :
    firstFrame bytes = (.message message, rest) ↔
      ∃ frame, Message.decode frame = .ok message ∧ bytes = frame ++ rest := by
  constructor
  · intro first
    by_cases nothing : bytes = []
    · subst nothing
      cases first
    by_cases short : bytes.length < headerSize
    · rw [firstFrame_of_short nothing short] at first
      cases first
    · rw [firstFrame_of_parsed (by omega)] at first
      split at first
      · cases first
      · split at first
        · cases first
        · split at first
          · cases first
          · rename_i header parsed there found decoded
            cases first
            exact ⟨_, decoded, (List.take_append_drop _ _).symm⟩
  · rintro ⟨frame, decoded, rfl⟩
    obtain ⟨enough, header, parsed, size⟩ := Message.decode_eq_ok decoded
    have front : Header.parse (frame ++ rest) = .ok header := by
      rw [← Header.parse_take (frame ++ rest) enough, List.take_left, parsed]
    have length : (frame ++ rest).length = frame.length + rest.length := List.length_append
    rw [firstFrame_of_parsed (by omega), front]
    dsimp only
    rw [if_neg (by omega), List.take_left' size.symm, decoded, List.drop_left' size.symm]

theorem length_firstFrame {bytes rest : Bytes} {message : Message}
    (first : firstFrame bytes = (.message message, rest)) : rest.length < bytes.length := by
  obtain ⟨frame, decoded, rfl⟩ := firstFrame_eq_message.mp first
  have enough := (Message.decode_eq_ok decoded).1
  rw [headerSize] at enough
  rw [List.length_append]
  omega

/-- The messages of the frames in a byte string up to its end or the first failure, and the bytes
that are not looked at any more. -/
def framesOf (bytes : Bytes) : List Message × Option Failure × Bytes :=
  match _first : firstFrame bytes with
  | (.finished, rest) => ([], none, rest)
  | (.failed failure, rest) => ([], some failure, rest)
  | (.message message, rest) =>
    let behind := framesOf rest
    (message :: behind.1, behind.2)
termination_by bytes.length
decreasing_by exact length_firstFrame _first

theorem framesOf_of_finished {bytes rest : Bytes} (first : firstFrame bytes = (.finished, rest)) :
    framesOf bytes = ([], none, rest) := by
  rw [framesOf]
  split <;> simp_all

theorem framesOf_of_failed {bytes rest : Bytes} {failure : Failure}
    (first : firstFrame bytes = (.failed failure, rest)) :
    framesOf bytes = ([], some failure, rest) := by
  rw [framesOf]
  split <;> simp_all

theorem framesOf_of_message {bytes rest : Bytes} {message : Message}
    (first : firstFrame bytes = (.message message, rest)) :
    framesOf bytes = (message :: (framesOf rest).1, (framesOf rest).2) := by
  rw [framesOf]
  split <;> simp_all

theorem framesOf_nil : framesOf [] = ([], none, []) := framesOf_of_finished firstFrame_of_nil

theorem framesOf_append {frame : Bytes} {message : Message}
    (decoded : Message.decode frame = .ok message) (rest : Bytes) :
    framesOf (frame ++ rest) = (message :: (framesOf rest).1, (framesOf rest).2) :=
  framesOf_of_message (firstFrame_eq_message.mpr ⟨frame, decoded, rfl⟩)

/-- Whole frames in front are read as they are. -/
theorem framesOf_flatten {frames : List Bytes} {messages : List Message}
    (decoded : frames.map Message.decode = messages.map .ok) (rest : Bytes) :
    framesOf (frames.flatten ++ rest) = (messages ++ (framesOf rest).1, (framesOf rest).2) := by
  induction frames generalizing messages with
  | nil =>
    cases messages with
    | nil => rfl
    | cons message messages => cases decoded
  | cons frame frames ih =>
    cases messages with
    | nil => cases decoded
    | cons message messages =>
      simp only [List.map_cons, List.cons.injEq] at decoded
      rw [List.flatten_cons, List.append_assoc, framesOf_append decoded.1, ih decoded.2]
      rfl

/-- Nothing at the front is a frame or the defect of one: more bytes have to come. -/
def Unfinished (bytes : Bytes) : Prop :=
  (∀ message, (firstFrame bytes).1 ≠ .message message) ∧
    ∀ error, (firstFrame bytes).1 ≠ .failed (.frame error)

theorem unfinished_of_short {bytes : Bytes} (short : bytes.length < headerSize) :
    Unfinished bytes := by
  by_cases nothing : bytes = []
  · subst nothing
    exact ⟨nofun, nofun⟩
  · unfold Unfinished
    rw [firstFrame_of_short nothing short]
    exact ⟨nofun, nofun⟩

theorem unfinished_of_parsed {bytes : Bytes} {header : Header} (enough : headerSize ≤ bytes.length)
    (parsed : Header.parse bytes = .ok header) (short : bytes.length < header.size.toNat) :
    Unfinished bytes := by
  unfold Unfinished
  rw [firstFrame_of_parsed enough, parsed]
  dsimp only
  rw [if_pos short]
  exact ⟨nofun, nofun⟩

/-- Unfinished bytes hold no message, and no defect. -/
theorem framesOf_of_unfinished {bytes : Bytes} (unfinished : Unfinished bytes) :
    (framesOf bytes).1 = [] ∧ ∀ error, (framesOf bytes).2.1 ≠ some (.frame error) := by
  rcases first : firstFrame bytes with ⟨incoming, rest⟩
  unfold Unfinished at unfinished
  rw [first] at unfinished
  cases incoming with
  | message message => exact absurd rfl (unfinished.1 message)
  | finished =>
    rw [framesOf_of_finished first]
    exact ⟨rfl, nofun⟩
  | failed failure =>
    rw [framesOf_of_failed first]
    refine ⟨rfl, ?_⟩
    rintro error same
    cases same
    exact unfinished.2 error rfl

/-- The end comes between frames exactly if the bytes are whole frames. -/
theorem framesOf_clean_iff (bytes : Bytes) :
    (framesOf bytes).2.1 = none ↔
      ∃ frames : List Bytes, frames.flatten = bytes ∧
        frames.map Message.decode = (framesOf bytes).1.map .ok := by
  constructor
  · intro clean
    induction length : bytes.length using Nat.strongRecOn generalizing bytes with
    | ind size ih =>
      subst length
      rcases first : firstFrame bytes with ⟨incoming, rest⟩
      cases incoming with
      | finished =>
        rw [framesOf_of_finished first]
        refine ⟨[], ?_, rfl⟩
        by_cases nothing : bytes = []
        · exact nothing.symm
        by_cases short : bytes.length < headerSize
        · rw [firstFrame_of_short nothing short] at first
          cases first
        · rw [firstFrame_of_parsed (by omega)] at first
          split at first
          · cases first
          · split at first
            · cases first
            · split at first <;> cases first
      | failed failure =>
        rw [framesOf_of_failed first] at clean
        cases clean
      | message message =>
        rw [framesOf_of_message first] at clean ⊢
        obtain ⟨frames, flat, decoded⟩ := ih rest.length (length_firstFrame first) rest clean rfl
        obtain ⟨frame, read, rfl⟩ := firstFrame_eq_message.mp first
        refine ⟨frame :: frames, ?_, ?_⟩
        · rw [List.flatten_cons, flat]
        · rw [List.map_cons, List.map_cons, read, decoded]
  · rintro ⟨frames, flat, decoded⟩
    have whole := framesOf_flatten decoded []
    rw [List.append_nil, flat, framesOf_nil] at whole
    rw [whole]

/-- Bytes that have arrived are cut where a reader of them would find a frame. -/
theorem cut_eq_frame {bytes rest : Bytes} {message : Message} :
    cut bytes = .frame message rest ↔
      ∃ frame, Message.decode frame = .ok message ∧ bytes = frame ++ rest := by
  rw [← firstFrame_eq_message, cut]
  by_cases short : bytes.length < headerSize
  · rw [if_pos short]
    have unfinished := unfinished_of_short short
    constructor
    · nofun
    · intro first
      exact absurd (congrArg Prod.fst first) (unfinished.1 message)
  · rw [if_neg short, firstFrame_of_parsed (by omega), Header.parse_take bytes (Nat.le_refl _)]
    cases Header.parse bytes with
    | error error => exact ⟨nofun, nofun⟩
    | ok header =>
      dsimp only
      by_cases part : bytes.length < header.size.toNat
      · rw [if_pos part, if_pos part]
        exact ⟨nofun, nofun⟩
      · rw [if_neg part, if_neg part]
        cases Message.decode (bytes.take header.size.toNat) with
        | error error => exact ⟨nofun, nofun⟩
        | ok read => simp

/-! Readers -/

/-- A call that hands out something as long as there is something, or has to be made again. -/
def Turn.Steady : Turn → Prop
  | .piece atMost => atMost ≠ 0
  | .interrupted => True
  | .failed _ => False

instance : DecidablePred Turn.Steady
  | .piece atMost => inferInstanceAs (Decidable (atMost ≠ 0))
  | .interrupted => .isTrue trivial
  | .failed _ => .isFalse id

/-- What stands behind steady turns: nothing, or a failure. -/
def Ending (turns : List Turn) : Prop :=
  turns = [] ∨ ∃ fault others, turns = .failed fault :: others

namespace Stream

/-- What a request comes to if no call fails before it is met. -/
def wholly (found : Bytes) (room : Nat) (bytes : Bytes) (turns : List Turn) : Filled × Stream :=
  if room ≤ bytes.length then
    (.full (found ++ bytes.take room), { bytes := bytes.drop room, turns })
  else (.ended (found ++ bytes), { bytes := [], turns })

theorem fillFrom_zero (found bytes : Bytes) (turns : List Turn) :
    fillFrom found 0 bytes turns = (.full found, { bytes, turns }) := by
  cases turns <;> simp [fillFrom]

theorem wholly_advance (found bytes : Bytes) {room count : Nat} (turns : List Turn)
    (inside : count ≤ room) (there : count ≤ bytes.length) :
    wholly (found ++ bytes.take count) (room - count) (bytes.drop count) turns =
      wholly found room bytes turns := by
  have same : room - count ≤ (bytes.drop count).length ↔ room ≤ bytes.length := by
    rw [List.length_drop]
    omega
  have taken : bytes.take count ++ (bytes.drop count).take (room - count) = bytes.take room := by
    rw [← List.take_add, Nat.add_sub_cancel' inside]
  have dropped : (bytes.drop count).drop (room - count) = bytes.drop room := by
    rw [List.drop_drop, Nat.add_sub_cancel' inside]
  simp only [wholly, same, List.append_assoc, taken, dropped, List.take_append_drop]

/-- Steady turns meet a request, or are used up on the way with some bytes still missing. -/
theorem fillFrom_steady {front : List Turn} (steady : ∀ turn ∈ front, turn.Steady)
    (back : List Turn) (found : Bytes) (room : Nat) (bytes : Bytes) :
    (∃ left, left <:+ front ∧
      fillFrom found room bytes (front ++ back) = wholly found room bytes (left ++ back)) ∨
    (∃ count, count < room ∧ count ≤ bytes.length ∧
      fillFrom found room bytes (front ++ back) =
        fillFrom (found ++ bytes.take count) (room - count) (bytes.drop count) back) := by
  by_cases full : room = 0
  · subst full
    exact Or.inl ⟨front, List.suffix_refl front, by simp [fillFrom_zero, wholly]⟩
  induction front generalizing found room bytes with
  | nil => exact Or.inr ⟨0, by omega, Nat.zero_le _, by simp⟩
  | cons turn front ih =>
    have later : ∀ turn ∈ front, turn.Steady := fun turn member =>
      steady turn (List.mem_cons_of_mem _ member)
    cases turn with
    | failed fault => exact absurd (steady _ List.mem_cons_self) id
    | interrupted =>
      rw [List.cons_append, fillFrom, if_neg full]
      rcases ih later found room bytes full with ⟨left, suffix, met⟩ | short
      · exact Or.inl ⟨left, suffix.trans (List.suffix_cons _ _), met⟩
      · exact Or.inr short
    | piece atMost =>
      have some : atMost ≠ 0 := steady (.piece atMost) List.mem_cons_self
      rw [List.cons_append, fillFrom, if_neg full]
      dsimp only
      by_cases nothing : bytes = []
      · subst nothing
        exact Or.inl ⟨front, List.suffix_cons _ _, by simp [wholly, full]⟩
      · obtain ⟨part, given⟩ : ∃ part, part = min (min atMost room) bytes.length := ⟨_, rfl⟩
        have positive : bytes.length ≠ 0 := by simpa using nothing
        have taken : bytes.take (min atMost room) = bytes.take part := by
          rw [given, List.take_eq_take_iff]
          omega
        have length : (bytes.take part).length = part := by
          rw [List.length_take]
          omega
        have more : (bytes.take part).isEmpty = false := by
          rw [List.isEmpty_eq_false_iff, ← List.length_pos_iff, length]
          omega
        rw [taken, length, more]
        simp only [Bool.false_eq_true, ↓reduceIte]
        by_cases last : room - part = 0
        · refine Or.inl ⟨front, List.suffix_cons _ _, ?_⟩
          rw [← wholly_advance found bytes (front ++ back) (show part ≤ room by omega)
            (by omega), last, fillFrom_zero]
          simp [wholly]
        · rcases ih later (found ++ bytes.take part) (room - part) (bytes.drop part) last with
            ⟨left, suffix, met⟩ | ⟨count, short, there, used⟩
          · refine Or.inl ⟨left, suffix.trans (List.suffix_cons _ _), ?_⟩
            rw [met, wholly_advance found bytes _ (by omega) (by omega)]
          · rw [List.length_drop] at there
            refine Or.inr ⟨part + count, by omega, by omega, ?_⟩
            rw [used, List.append_assoc, ← List.take_add, List.drop_drop, Nat.sub_sub]

theorem fill_cases {front back : List Turn} (steady : ∀ turn ∈ front, turn.Steady)
    (ending : Ending back) (room : Nat) (bytes : Bytes) :
    (∃ left, left <:+ front ∧
      fill room { bytes, turns := front ++ back } = wholly [] room bytes (left ++ back)) ∨
    (∃ fault others count, back = .failed fault :: others ∧ count < room ∧
      count ≤ bytes.length ∧
      fill room { bytes, turns := front ++ back } =
        (.failed fault, { bytes := bytes.drop count, turns := others })) := by
  rcases fillFrom_steady steady back [] room bytes with met | ⟨count, short, there, used⟩
  · exact Or.inl met
  · rcases ending with rfl | ⟨fault, others, rfl⟩
    · refine Or.inl ⟨[], List.nil_suffix, ?_⟩
      rw [fill, used]
      exact wholly_advance [] bytes [] (by omega) there
    · refine Or.inr ⟨fault, others, count, rfl, short, there, ?_⟩
      rw [fill, used, fillFrom, if_neg (by omega)]

/-- A message is read as the first frame, unless a call fails before all of it has come. -/
theorem readMessage_cases {front back : List Turn} (steady : ∀ turn ∈ front, turn.Steady)
    (ending : Ending back) (bytes : Bytes) :
    (∃ left, left <:+ front ∧
      readMessage { bytes, turns := front ++ back } =
        ((firstFrame bytes).1, { bytes := (firstFrame bytes).2, turns := left ++ back })) ∨
    (∃ fault others count, back = .failed fault :: others ∧ count ≤ bytes.length ∧
      Unfinished (bytes.take count) ∧
      readMessage { bytes, turns := front ++ back } =
        (.failed (.io fault), { bytes := bytes.drop count, turns := others })) := by
  rcases fill_cases steady ending headerSize bytes with
    ⟨left, suffix, head⟩ | ⟨fault, others, count, rfl, short, there, head⟩
  · by_cases enough : headerSize ≤ bytes.length
    · rw [wholly, if_pos enough, List.nil_append] at head
      cases parsed : Header.parse bytes with
      | error error =>
        refine Or.inl ⟨left, suffix, ?_⟩
        rw [readMessage, head]
        dsimp only
        rw [Header.parse_take bytes (Nat.le_refl _), parsed, firstFrame_of_parsed enough, parsed]
      | ok header =>
        have size := Header.size_of_parse parsed
        have room : header.payloadSize = header.size.toNat - headerSize := rfl
        have later : ∀ turn ∈ left, turn.Steady := fun turn member =>
          steady turn (suffix.subset member)
        rcases fill_cases later ending header.payloadSize (bytes.drop headerSize) with
          ⟨last, behind, body⟩ | ⟨fault, others, count, rfl, short, there, body⟩
        · refine Or.inl ⟨last, behind.trans suffix, ?_⟩
          rw [readMessage, head]
          dsimp only
          rw [Header.parse_take bytes (Nat.le_refl _), parsed]
          dsimp only
          rw [body, firstFrame_of_parsed enough, parsed, wholly, List.length_drop]
          dsimp only
          by_cases part : bytes.length < header.size.toNat
          · rw [if_neg (by omega), if_pos part]
          · rw [if_pos (by omega), if_neg part, Message.decode_take parsed (by omega),
              List.drop_drop, room, Nat.add_sub_cancel' size, List.nil_append]
            cases decoded : Message.decodePayload header
              ((bytes.drop headerSize).take (header.size.toNat - headerSize)) <;> simp [decoded]
        · rw [List.length_drop] at there
          refine Or.inr ⟨fault, others, headerSize + count, rfl, by omega, ?_, ?_⟩
          · have length : (bytes.take (headerSize + count)).length = headerSize + count := by
              rw [List.length_take]
              omega
            have front : Header.parse (bytes.take (headerSize + count)) = .ok header := by
              rw [Header.parse_take bytes (by omega), parsed]
            exact unfinished_of_parsed (by omega) front (by omega)
          · rw [readMessage, head]
            dsimp only
            rw [Header.parse_take bytes (Nat.le_refl _), parsed]
            dsimp only
            rw [body, List.drop_drop]
    · rw [wholly, if_neg enough, List.nil_append] at head
      refine Or.inl ⟨left, suffix, ?_⟩
      rw [readMessage, head]
      by_cases nothing : bytes = []
      · subst nothing
        rfl
      · rw [firstFrame_of_short nothing (by omega)]
        simp [nothing]
  · refine Or.inr ⟨fault, others, count, rfl, there, ?_, ?_⟩
    · apply unfinished_of_short
      rw [List.length_take]
      omega
    · rw [readMessage, head]

theorem readMessages_of_finished {stream rest : Stream}
    (read : stream.readMessage = (.finished, rest)) : stream.readMessages = ([], none, rest) := by
  rw [readMessages]
  split <;> simp_all

theorem readMessages_of_failed {stream rest : Stream} {failure : Failure}
    (read : stream.readMessage = (.failed failure, rest)) :
    stream.readMessages = ([], some failure, rest) := by
  rw [readMessages]
  split <;> simp_all

theorem readMessages_of_message {stream rest : Stream} {message : Message}
    (read : stream.readMessage = (.message message, rest)) :
    stream.readMessages = (message :: rest.readMessages.1, rest.readMessages.2) := by
  rw [readMessages]
  split <;> simp_all

/-- Messages are read as the frames of all bytes, unless a call fails; then as the frames of the
bytes that came before it. -/
theorem readMessages_cases {front back : List Turn} (steady : ∀ turn ∈ front, turn.Steady)
    (ending : Ending back) (bytes : Bytes) :
    (∃ left, left <:+ front ∧
      readMessages { bytes, turns := front ++ back } =
        ((framesOf bytes).1, (framesOf bytes).2.1,
          { bytes := (framesOf bytes).2.2, turns := left ++ back })) ∨
    (∃ fault others count, back = .failed fault :: others ∧ count ≤ bytes.length ∧
      (framesOf (bytes.take count)).1 <+: (framesOf bytes).1 ∧
      (∀ error, (framesOf (bytes.take count)).2.1 ≠ some (.frame error)) ∧
      readMessages { bytes, turns := front ++ back } =
        ((framesOf (bytes.take count)).1, some (.io fault),
          { bytes := bytes.drop count, turns := others })) := by
  induction length : bytes.length using Nat.strongRecOn generalizing front bytes with
  | ind size ih =>
    subst length
    rcases readMessage_cases steady ending bytes with
      ⟨left, suffix, read⟩ | ⟨fault, others, count, rfl, there, unfinished, read⟩
    · rcases first : firstFrame bytes with ⟨incoming, rest⟩
      rw [first] at read
      cases incoming with
      | finished =>
        rw [readMessages_of_finished read, framesOf_of_finished first]
        exact Or.inl ⟨left, suffix, rfl⟩
      | failed failure =>
        rw [readMessages_of_failed read, framesOf_of_failed first]
        exact Or.inl ⟨left, suffix, rfl⟩
      | message message =>
        have later : ∀ turn ∈ left, turn.Steady := fun turn member =>
          steady turn (suffix.subset member)
        rw [readMessages_of_message read, framesOf_of_message first]
        rcases ih rest.length (length_firstFrame first) later rest rfl with
          ⟨last, behind, met⟩ | ⟨fault, others, count, rfl, there, front, clean, failed⟩
        · rw [met]
          exact Or.inl ⟨last, behind.trans suffix, rfl⟩
        · obtain ⟨frame, decoded, rfl⟩ := firstFrame_eq_message.mp first
          have come : (frame ++ rest).take (frame.length + count) = frame ++ rest.take count := by
            rw [List.take_append, List.take_of_length_le (by omega), Nat.add_sub_cancel_left]
          have left : (frame ++ rest).drop (frame.length + count) = rest.drop count := by
            rw [List.drop_append, List.drop_eq_nil_of_le (by omega), Nat.add_sub_cancel_left,
              List.nil_append]
          refine Or.inr ⟨fault, others, frame.length + count, rfl, ?_, ?_, ?_, ?_⟩
          · rw [List.length_append]
            omega
          · rw [come, framesOf_append decoded]
            exact List.prefix_cons_inj message |>.mpr front
          · rw [come, framesOf_append decoded]
            exact clean
          · rw [failed, come, framesOf_append decoded, left]
    · obtain ⟨none, clean⟩ := framesOf_of_unfinished unfinished
      refine Or.inr ⟨fault, others, count, rfl, there, ?_, clean, ?_⟩
      · rw [none]
        exact List.nil_prefix
      · rw [readMessages_of_failed read, none]

/-- Steady turns make no difference to the messages. -/
theorem readMessages_of_steady {turns : List Turn} (steady : ∀ turn ∈ turns, turn.Steady)
    (bytes : Bytes) :
    ∃ left, readMessages { bytes, turns } =
      ((framesOf bytes).1, (framesOf bytes).2.1,
        { bytes := (framesOf bytes).2.2, turns := left }) := by
  rcases readMessages_cases steady (Or.inl rfl) bytes with ⟨left, _, read⟩ | failing
  · simp only [List.append_nil] at read
    exact ⟨left, read⟩
  · obtain ⟨fault, others, count, impossible, _⟩ := failing
    cases impossible

/-- However the bytes of a stream come, as long as no call fails and none comes back empty before
their end: the messages, the end and the bytes left behind are those of the frames in the bytes,
as they are when all bytes come at once. The end is a clean one exactly if the bytes are whole
frames of these messages, and the frames of any messages that decode come back as those messages.
A stream that fails ends there, unless its frames came to an end before, with the messages of the
bytes that it gave, which are the first messages of the whole and hold no defect. -/
theorem reading_is_framing (bytes : Bytes) (turns : List Turn)
    (steady : ∀ turn ∈ turns, turn.Steady) :
    let whole := framesOf bytes
    (∃ left, readMessages { bytes, turns } =
      (whole.1, whole.2.1, { bytes := whole.2.2, turns := left })) ∧
    readMessages { bytes } = (whole.1, whole.2.1, { bytes := whole.2.2 }) ∧
    (whole.2.1 = none ↔ ∃ frames : List Bytes, frames.flatten = bytes ∧
      frames.map Message.decode = whole.1.map .ok) ∧
    (∀ (messages : List Message) (frames : List Bytes),
      frames.map Message.decode = messages.map .ok →
      bytes = frames.flatten → whole = (messages, none, [])) ∧
    (∀ fault others,
      let outcome := readMessages { bytes, turns := turns ++ .failed fault :: others }
      (∃ left, outcome = (whole.1, whole.2.1,
        { bytes := whole.2.2, turns := left ++ .failed fault :: others })) ∨
      (∃ count, count ≤ bytes.length ∧
        (framesOf (bytes.take count)).1 <+: whole.1 ∧
        (∀ error, (framesOf (bytes.take count)).2.1 ≠ some (.frame error)) ∧
        outcome = ((framesOf (bytes.take count)).1, some (.io fault),
          { bytes := bytes.drop count, turns := others }))) := by
  refine ⟨readMessages_of_steady steady bytes, ?_, framesOf_clean_iff bytes, ?_, ?_⟩
  · have none : ∀ turn ∈ ([] : List Turn), turn.Steady := nofun
    rcases readMessages_cases none (Or.inl rfl) bytes with ⟨left, suffix, read⟩ | failing
    · rw [List.suffix_nil.mp suffix] at read
      exact read
    · obtain ⟨fault, others, count, impossible, _⟩ := failing
      cases impossible
  · rintro messages frames decoded rfl
    have whole := framesOf_flatten decoded []
    rw [List.append_nil, framesOf_nil, List.append_nil] at whole
    exact whole
  · intro fault others
    rcases readMessages_cases steady (Or.inr ⟨fault, others, rfl⟩) bytes with
      ⟨left, _, read⟩ | ⟨fault', others', count, same, there, front, clean, read⟩
    · exact Or.inl ⟨left, read⟩
    · cases same
      exact Or.inr ⟨count, there, front, clean, read⟩

/-- A ping and an order to end, which come in pieces cut across header and body. -/
theorem reading_two_frames :
    let ping : Bytes := [16, 0, 0, 0, 0, 0, 2, 0, 7, 0, 0, 0, 1, 0, 0, 0]
    let terminate : Bytes := [12, 0, 0, 0, 0, 0, 3, 0, 7, 0, 0, 0]
    let turns : List Turn := [.piece 5, .interrupted, .piece 9, .piece 1, .piece 7]
    (∀ turn ∈ turns, turn.Steady) ∧
    (∃ left, readMessages { bytes := ping ++ terminate, turns } =
      ([.ping 7 1, .terminate 7], none, { bytes := [], turns := left })) := by
  intro ping terminate turns
  have steady : ∀ turn ∈ turns, turn.Steady := by decide
  obtain ⟨⟨left, read⟩, -, -, frames, -⟩ := reading_is_framing (ping ++ terminate) turns steady
  have whole := frames [.ping 7 1, .terminate 7] [ping, terminate] rfl rfl
  rw [whole] at read
  exact ⟨steady, left, read⟩

end Stream

end Playback
