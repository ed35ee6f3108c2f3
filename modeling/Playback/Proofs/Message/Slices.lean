import Playback.Proofs.Message.Reading
import Playback.Proofs.Text.Strict

set_option autoImplicit false

/- Decoding as it goes along the bytes by position. A slice that begins behind its end or reaches
past the end of the bytes is a fault, and so is a word that is read from a slice of another size.
No byte string brings one about, and what is decoded is the same. -/
namespace Playback

/-- The bytes from one position up to another. -/
def slice? (bytes : Bytes) (start stop : Nat) : Option Bytes :=
  if start ≤ stop ∧ stop ≤ bytes.length then some ((bytes.drop start).take (stop - start))
  else none

/-- Words are copied from slices of exactly their size. -/
def exactly? {Word : Type} (size : Nat) (read : Bytes → Word) (bytes : Bytes) : Option Word :=
  if bytes.length = size then some (read bytes) else none

def word16At? (bytes : Bytes) (start : Nat) : Option UInt16 :=
  (slice? bytes start (start + 2)).bind (exactly? 2 ofWord16)

def word32At? (bytes : Bytes) (start : Nat) : Option UInt32 :=
  (slice? bytes start (start + 4)).bind (exactly? 4 ofWord32)

def word64At? (bytes : Bytes) (start : Nat) : Option UInt64 :=
  (slice? bytes start (start + 8)).bind (exactly? 8 ofWord64)

theorem slice?_of_le (bytes : Bytes) {start stop : Nat} (ordered : start ≤ stop)
    (inside : stop ≤ bytes.length) :
    slice? bytes start stop = some ((bytes.drop start).take (stop - start)) := by
  rw [slice?, if_pos ⟨ordered, inside⟩]

theorem slice?_behind (bytes : Bytes) {start : Nat} (inside : start ≤ bytes.length) :
    slice? bytes start bytes.length = some (bytes.drop start) := by
  rw [slice?_of_le bytes inside (Nat.le_refl _), List.take_of_length_le]
  simp

theorem length_of_slice? {bytes part : Bytes} {start stop : Nat}
    (sliced : slice? bytes start stop = some part) : part.length = stop - start := by
  simp only [slice?, Option.ite_none_right_eq_some, Option.some.injEq] at sliced
  obtain ⟨⟨ordered, inside⟩, rfl⟩ := sliced
  simp only [List.length_take, List.length_drop]
  omega

theorem slice_bind_exactly {Word : Type} (bytes : Bytes) (start size : Nat) (read : Bytes → Word)
    (inside : start + size ≤ bytes.length) :
    (slice? bytes start (start + size)).bind (exactly? size read) =
      some (read ((bytes.drop start).take size)) := by
  have sliced := slice?_of_le bytes (Nat.le_add_right start size) inside
  have length := length_of_slice? sliced
  rw [Nat.add_sub_cancel_left] at sliced length
  rw [sliced, Option.bind_some, exactly?, if_pos length]

section
variable (bytes : Bytes) (start : Nat)

theorem word16At?_of_le (inside : start + 2 ≤ bytes.length) :
    word16At? bytes start = some (ofWord16 ((bytes.drop start).take 2)) :=
  slice_bind_exactly bytes start _ ofWord16 inside

theorem word32At?_of_le (inside : start + 4 ≤ bytes.length) :
    word32At? bytes start = some (ofWord32 ((bytes.drop start).take 4)) :=
  slice_bind_exactly bytes start _ ofWord32 inside

theorem word64At?_of_le (inside : start + 8 ≤ bytes.length) :
    word64At? bytes start = some (ofWord64 ((bytes.drop start).take 8)) :=
  slice_bind_exactly bytes start _ ofWord64 inside

end

/-! Arguments -/

/-- The arguments of an introduction, cut off one by one at the next zero byte. -/
def argumentsSliced (rest : Bytes) : Option (Except Defect (List String)) :=
  if rest = [] then some (.ok [])
  else
    match rest.findIdx? fun byte => byte = 0 with
    | none => some (.error .unterminatedArgument)
    | some stop =>
      match slice? rest 0 stop with
      | none => none
      | some argument =>
        match Utf8.decode? argument with
        | none => some (.error .argumentNotText)
        | some text =>
          match _sliced : slice? rest (stop + 1) rest.length with
          | none => none
          | some behind => (argumentsSliced behind).map fun read => read.map (text :: ·)
termination_by rest.length
decreasing_by
  have length := length_of_slice? _sliced
  have some : rest.length ≠ 0 := by simpa using ‹¬ rest = []›
  omega

/-- An argument is read up to the zero byte that ends it. -/
theorem decodeArguments_ended {argument : Bytes} (free : 0 ∉ argument) (rest : Bytes) :
    decodeArguments [] (argument ++ 0 :: rest) =
      match Utf8.decode? argument with
      | none => .error .argumentNotText
      | some text => (decodeArguments [] rest).map (text :: ·) := by
  have read := decodeArguments_append free [] (0 :: rest)
  rw [List.append_nil, decodeArguments.eq_2, if_pos rfl, List.reverse_reverse] at read
  exact read

/-- The last argument needs a zero byte behind it. -/
theorem decodeArguments_open {rest : Bytes} (some : rest ≠ []) (free : 0 ∉ rest) :
    decodeArguments [] rest = .error .unterminatedArgument := by
  have opened := decodeArguments_append free [] []
  rw [List.append_nil, List.append_nil] at opened
  rw [opened, decodeArguments, if_neg]
  simpa using some

theorem argumentsSliced_open {rest : Bytes} (some : rest ≠ []) (free : 0 ∉ rest) :
    argumentsSliced rest = .some (.error .unterminatedArgument) := by
  have nowhere : (rest.findIdx? fun byte => byte = 0) = none := by
    simp only [List.findIdx?_eq_none_iff, decide_eq_false_iff_not]
    rintro byte there rfl
    exact free there
  rw [argumentsSliced, if_neg some, nowhere]

theorem argumentsSliced_ended {argument : Bytes} (free : 0 ∉ argument) (rest : Bytes) :
    argumentsSliced (argument ++ 0 :: rest) =
      match Utf8.decode? argument with
      | none => some (.error .argumentNotText)
      | some text => (argumentsSliced rest).map fun read => read.map (text :: ·) := by
  have length : (argument ++ 0 :: rest).length = argument.length + rest.length + 1 := by simp; omega
  have found : ((argument ++ 0 :: rest).findIdx? fun byte => byte = 0) = some argument.length := by
    apply List.findIdx?_eq_some_iff_getElem.mpr
    refine ⟨by omega, by simp, ?_⟩
    intro position before
    rw [List.getElem_append_left before, decide_eq_true_eq]
    intro same
    exact free (same ▸ List.getElem_mem before)
  have first : slice? (argument ++ 0 :: rest) 0 argument.length = some argument := by
    simpa using slice?_of_le (argument ++ 0 :: rest) (Nat.zero_le argument.length)
      (by omega)
  have second : slice? (argument ++ 0 :: rest) (argument.length + 1)
      (argument ++ 0 :: rest).length = some rest := by
    rw [slice?_behind _ (by omega), ← List.drop_drop, List.drop_left]
    rfl
  rw [argumentsSliced, if_neg (by simp), found]
  simp only [first]
  cases Utf8.decode? argument with
  | none => rfl
  | some text =>
    dsimp only
    split
    case h_1 failed =>
      rw [second] at failed
      cases failed
    case h_2 behind sliced =>
      rw [second] at sliced
      cases sliced
      rfl

theorem argumentsSliced_eq (rest : Bytes) :
    argumentsSliced rest = some (decodeArguments [] rest) := by
  by_cases nothing : rest = []
  · subst nothing
    rw [argumentsSliced]
    rfl
  by_cases there : 0 ∈ rest
  · obtain ⟨argument, behind, split, free⟩ := List.eq_append_cons_of_mem there
    have shorter : behind.length < rest.length := by
      rw [split]
      simp
      omega
    rw [split, argumentsSliced_ended free, decodeArguments_ended free]
    cases Utf8.decode? argument with
    | none => rfl
    | some text => simp [argumentsSliced_eq behind]
  · rw [argumentsSliced_open nothing there, decodeArguments_open nothing there]
termination_by rest.length

/-! Payloads -/

/-- A payload whose body has a fixed size. -/
def fixedSliced (size : Nat) (body : Bytes) (payload : Option Payload) :
    Option (Except Defect Payload) :=
  if body.length = size then payload.map .ok else some (.error .unexpectedLength)

def introductionSliced (body : Bytes) : Option (Except Defect Payload) :=
  if body.length < 8 then some (.error .missingCounts)
  else do
    let parentPid ← word32At? body 0
    let count ← word32At? body 4
    let read ← argumentsSliced (← slice? body 8 body.length)
    return read.bind fun argv =>
      if argv.length = count.toNat then .ok (.introduction { parentPid, argv })
      else .error .argumentCount

/-- A shared key is compared with the data behind its tag at once. -/
def binarySliced (kind : Kind) (body : Bytes) : Option (Except Defect Payload) :=
  if body.length < 8 then some (.error .missingTag)
  else do
    let tag ← word64At? body 0
    let data ← slice? body 8 body.length
    return if kind = .sharedKeySet ∧ data.length < tag.toNat then .error .keyTooLong
      else .ok (.binary tag data)

def payloadSliced (kind : Kind) (body : Bytes) : Option (Except Defect Payload) :=
  match kind.layout with
  | .empty => fixedSliced 0 body (some .empty)
  | .introduction => introductionSliced body
  | .error =>
    some (if body.getLast? = some 0 then .ok (.error (Utf8.decodeLossy body.dropLast))
      else .error .unterminatedText)
  | .ping => fixedSliced 4 body ((word32At? body 0).map .ping)
  | .pingResponse =>
    fixedSliced 12 body do return .pingResponse (← word32At? body 0) (← word64At? body 4)
  | .paint => fixedSliced 8 body do return .paint (← word32At? body 0) (← word32At? body 4)
  | .updateRecording =>
    fixedSliced 16 body do return .updateRecording (← word64At? body 0) (← word64At? body 8)
  | .binary => binarySliced kind body

/-- What decoding makes of the payload of a kind, the length of a shared key included. -/
def Payload.decodeFor (kind : Kind) (body : Bytes) : Except Defect Payload :=
  (Payload.decode kind.layout body).bind fun payload =>
    if payload.keyFits kind then .ok payload else .error .keyTooLong

theorem fixedSliced_eq {size : Nat} {body : Bytes} {payload : Option Payload} {known : Payload}
    (read : body.length = size → payload = some known) :
    fixedSliced size body payload = some (sized size body known) := by
  unfold fixedSliced sized
  split
  case isTrue exact => rw [read exact]; rfl
  case isFalse _ => rfl

theorem introductionSliced_eq (body : Bytes) :
    introductionSliced body = some (Payload.decodeIntroduction body) := by
  unfold introductionSliced Payload.decodeIntroduction
  split
  case isTrue _ => rfl
  case isFalse counted =>
    have counts : 8 ≤ body.length := by omega
    simp only [word32At?_of_le body 0 (by omega), List.drop_zero, word32At?_of_le body 4 counts,
      slice?_behind body counts, argumentsSliced_eq]
    rfl

theorem binarySliced_eq {kind : Kind} (layout : kind.layout = .binary) (body : Bytes) :
    binarySliced kind body = some (Payload.decodeFor kind body) := by
  simp only [binarySliced, Payload.decodeFor, layout, Payload.decode, Payload.decodeBinary]
  split
  case isTrue _ => rfl
  case isFalse tagged =>
    have tag : 8 ≤ body.length := by omega
    simp only [word64At?_of_le body 0 tag, List.drop_zero, slice?_behind body tag, Except.bind,
      Payload.keyFits]
    by_cases set : kind = .sharedKeySet <;> simp [set]
    split <;> simp_all

/-- Only data of the binary layout are checked against the length of a key. -/
theorem Payload.decodeFor_of_other {kind : Kind} (other : kind.layout ≠ .binary) (body : Bytes) :
    decodeFor kind body = decode kind.layout body := by
  unfold decodeFor
  cases read : decode kind.layout body with
  | error defect => rfl
  | ok payload =>
    have shape := layout_of_decode read
    have fits : payload.keyFits kind = true := by
      cases payload with
      | binary tag data => exact absurd shape.symm other
      | _ => rfl
    simp only [Except.bind, fits, if_true]

theorem payloadSliced_eq (kind : Kind) (body : Bytes) :
    payloadSliced kind body = some (Payload.decodeFor kind body) := by
  by_cases binary : kind.layout = .binary
  · have same := binarySliced_eq binary body
    simpa only [payloadSliced, binary] using same
  · rw [Payload.decodeFor_of_other binary]
    unfold payloadSliced Payload.decode
    cases layout : kind.layout with
    | binary => exact absurd layout binary
    | empty => exact fixedSliced_eq fun _ => rfl
    | introduction => exact introductionSliced_eq body
    | error => rfl
    | ping =>
      apply fixedSliced_eq
      intro exact
      rw [word32At?_of_le body 0 (by omega), List.drop_zero, List.take_of_length_le (by omega)]
      rfl
    | pingResponse =>
      apply fixedSliced_eq
      intro exact
      have last : (body.drop 4).take 8 = body.drop 4 := List.take_of_length_le (by simp; omega)
      rw [word32At?_of_le body 0 (by omega), word64At?_of_le body 4 (by omega), List.drop_zero,
        last]
      rfl
    | paint =>
      apply fixedSliced_eq
      intro exact
      have last : (body.drop 4).take 4 = body.drop 4 := List.take_of_length_le (by simp; omega)
      rw [word32At?_of_le body 0 (by omega), word32At?_of_le body 4 (by omega), List.drop_zero,
        last]
      rfl
    | updateRecording =>
      apply fixedSliced_eq
      intro exact
      have last : (body.drop 8).take 8 = body.drop 8 := List.take_of_length_le (by simp; omega)
      rw [word64At?_of_le body 0 (by omega), word64At?_of_le body 8 (by omega), List.drop_zero,
        last]
      rfl

/-! Frames -/

/-- A message as it is put together, before its payload is known to have the layout of its kind. -/
structure Parts where
  flags : UInt16
  kind : Kind
  fork : UInt32
  payload : Payload
  deriving DecidableEq, Repr

def Message.parts (message : Message) : Parts where
  flags := message.flags
  kind := message.kind
  fork := message.fork
  payload := message.payload

/-- The fields of a header that was copied off the front of a frame. -/
def headerSliced (raw : Bytes) : Option (Except FrameError Header) := do
  let header : Header :=
    { size := ← word32At? raw 0
      flags := ← word16At? raw 4
      kind := ← word16At? raw 6
      fork := ← word32At? raw 8 }
  return if header.size.toNat < headerSize then .error (.sizeTooSmall header.size) else .ok header

def bodySliced (header : Header) (body : Bytes) : Option (Except FrameError Parts) :=
  match Kind.ofNumber? header.kind with
  | none => some (.error (.unknownKind header.kind))
  | some kind =>
    (payloadSliced kind body).map fun read =>
      match read with
      | .error defect => .error (.malformed kind defect)
      | .ok payload => .ok { flags := header.flags, kind, fork := header.fork, payload }

def frameSliced (bytes : Bytes) : Option (Except FrameError Parts) :=
  if bytes.length < headerSize then some (.error (.truncated headerSize bytes.length))
  else do
    let raw ← (slice? bytes 0 headerSize).bind (exactly? headerSize id)
    match ← headerSliced raw with
    | .error error => return .error error
    | .ok header =>
      if bytes.length ≠ header.size.toNat then
        return .error (.truncated header.size.toNat bytes.length)
      else bodySliced header (← slice? bytes headerSize bytes.length)

theorem headerSliced_eq {raw : Bytes} (copied : raw.length = headerSize) :
    headerSliced raw = some (Header.parse raw) := by
  rw [headerSize] at copied
  simp only [headerSliced, word32At?_of_le raw 0 (by omega),
    word16At?_of_le raw 4 (by omega),
    word16At?_of_le raw 6 (by omega),
    word32At?_of_le raw 8 (by omega), List.drop_zero]
  rfl

theorem Message.decodePayload_of_unknown {header : Header}
    (unknown : Kind.ofNumber? header.kind = none) (body : Bytes) :
    decodePayload header body = .error (.unknownKind header.kind) := by
  unfold decodePayload
  rw [unknown]

/-- What is put together from a header and a body of a known kind. -/
theorem Message.parts_decodePayload {header : Header} {kind : Kind}
    (known : Kind.ofNumber? header.kind = some kind) (body : Bytes) :
    (decodePayload header body).map parts =
      match Payload.decodeFor kind body with
      | .error defect => .error (.malformed kind defect)
      | .ok payload => .ok { flags := header.flags, kind, fork := header.fork, payload } := by
  unfold Payload.decodeFor
  cases decoded : Payload.decode kind.layout body with
  | error defect =>
    rw [decodePayload_of_error known decoded]
    rfl
  | ok payload =>
    rw [decodePayload_of_ok known decoded]
    by_cases fits : payload.keyFits kind = true <;> simp [Except.bind, Except.map, fits, parts]

theorem bodySliced_eq (header : Header) (body : Bytes) :
    bodySliced header body = some ((Message.decodePayload header body).map Message.parts) := by
  unfold bodySliced
  cases known : Kind.ofNumber? header.kind with
  | none =>
    rw [Message.decodePayload_of_unknown known]
    rfl
  | some kind =>
    rw [Message.parts_decodePayload known]
    dsimp only
    rw [payloadSliced_eq]
    cases Payload.decodeFor kind body <;> rfl

/-- No slice of any byte string is out of range. -/
theorem frameSliced_eq (bytes : Bytes) :
    frameSliced bytes = some ((Message.decode bytes).map Message.parts) := by
  unfold frameSliced Message.decode
  split
  case isTrue _ => rfl
  case isFalse long =>
    have enough : headerSize ≤ bytes.length := by omega
    have copied := slice_bind_exactly bytes 0 headerSize id (by omega)
    rw [Nat.zero_add, List.drop_zero] at copied
    have length : (bytes.take headerSize).length = headerSize := List.length_take_of_le enough
    have parsed := headerSliced_eq length
    rw [Header.parse_take bytes (Nat.le_refl _)] at parsed
    simp only [copied, id_eq, Option.bind_eq_bind, Option.bind_some, parsed]
    cases Header.parse bytes with
    | error error => rfl
    | ok header =>
      change (if _ then _ else _) = some (Except.map _ (if _ then _ else _))
      by_cases whole : bytes.length = header.size.toNat
      · rw [if_neg fun apart => apart whole, if_pos whole, slice?_behind bytes enough]
        exact bodySliced_eq header (bytes.drop headerSize)
      · rw [if_pos whole, if_neg whole]
        rfl

end Playback
