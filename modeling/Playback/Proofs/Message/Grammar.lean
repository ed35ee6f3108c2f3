import Playback.Proofs.Message.Slices

set_option autoImplicit false

namespace Playback

/-- Texts one behind the other, each ended by a zero byte. -/
def ended (texts : List Bytes) : Bytes := texts.flatMap fun text => text ++ [0]

/-- A text that can stand among others that are ended by zero bytes. -/
structure IsArgument (text : Bytes) : Prop where
  free : 0 ∉ text
  valid : Utf8.Valid text

/-- The size of all bodies of a layout, if they are of one size. -/
def Layout.size? : Layout → Option Nat
  | .empty => some 0
  | .ping => some 4
  | .pingResponse => some 12
  | .paint => some 8
  | .updateRecording => some 16
  | .introduction | .error | .binary => none

/-- How many arguments the body of an introduction says that it has. -/
def announced (body : Bytes) : Nat := (ofWord32 ((body.drop 4).take 4)).toNat

/-- How long the body that sets a shared key says that the key is. -/
def keyLength (body : Bytes) : Nat := (ofWord64 (body.take 8)).toNat

/-- The bodies of a kind. -/
inductive Fits (kind : Kind) (body : Bytes) : Prop where
  | fixed {size : Nat} (known : kind.layout.size? = some size) (exact : body.length = size)
  | introduction {texts : List Bytes} (layout : kind.layout = .introduction)
      (counted : 8 ≤ body.length) (whole : body.drop 8 = ended texts)
      (arguments : ∀ text ∈ texts, IsArgument text) (count : texts.length = announced body)
  | error {text : Bytes} (layout : kind.layout = .error) (ends : body = text ++ [0])
  | binary (layout : kind.layout = .binary) (tagged : 8 ≤ body.length)
      (key : kind = .sharedKeySet → keyLength body ≤ body.length - 8)

/-- The first flaw of a body that is none of a kind. -/
inductive Flaw (kind : Kind) (body : Bytes) : Defect → Prop where
  | size {size : Nat} (known : kind.layout.size? = some size) (other : body.length ≠ size) :
      Flaw kind body .unexpectedLength
  | counts (layout : kind.layout = .introduction) (short : body.length < 8) :
      Flaw kind body .missingCounts
  | unterminated {texts : List Bytes} {rest : Bytes} (layout : kind.layout = .introduction)
      (counted : 8 ≤ body.length) (split : body.drop 8 = ended texts ++ rest)
      (arguments : ∀ text ∈ texts, IsArgument text) (some : rest ≠ []) (free : 0 ∉ rest) :
      Flaw kind body .unterminatedArgument
  | notText {texts : List Bytes} {text rest : Bytes} (layout : kind.layout = .introduction)
      (counted : 8 ≤ body.length) (split : body.drop 8 = ended texts ++ (text ++ 0 :: rest))
      (arguments : ∀ text ∈ texts, IsArgument text) (free : 0 ∉ text)
      (invalid : ¬ Utf8.Valid text) :
      Flaw kind body .argumentNotText
  | count {texts : List Bytes} (layout : kind.layout = .introduction) (counted : 8 ≤ body.length)
      (whole : body.drop 8 = ended texts) (arguments : ∀ text ∈ texts, IsArgument text)
      (other : texts.length ≠ announced body) :
      Flaw kind body .argumentCount
  | text (layout : kind.layout = .error) (opened : ∀ text, body ≠ text ++ [0]) :
      Flaw kind body .unterminatedText
  | tag (layout : kind.layout = .binary) (short : body.length < 8) :
      Flaw kind body .missingTag
  | key (set : kind = .sharedKeySet) (tagged : 8 ≤ body.length)
      (long : body.length - 8 < keyLength body) :
      Flaw kind body .keyTooLong

/-- The frames. -/
structure IsFrame (bytes : Bytes) : Prop where
  headed : headerSize ≤ bytes.length
  sized : (Header.read bytes).size.toNat = bytes.length
  fits : ∃ kind : Kind, kind.number = (Header.read bytes).kind ∧
    Fits kind (bytes.drop headerSize)

/-- The first defect of a byte string that is no frame. -/
inductive Refusal (bytes : Bytes) : FrameError → Prop where
  | short (short : bytes.length < headerSize) :
      Refusal bytes (.truncated headerSize bytes.length)
  | small (headed : headerSize ≤ bytes.length)
      (small : (Header.read bytes).size.toNat < headerSize) :
      Refusal bytes (.sizeTooSmall (Header.read bytes).size)
  | unequal (headed : headerSize ≤ bytes.length)
      (enough : headerSize ≤ (Header.read bytes).size.toNat)
      (other : (Header.read bytes).size.toNat ≠ bytes.length) :
      Refusal bytes (.truncated (Header.read bytes).size.toNat bytes.length)
  | unknown (headed : headerSize ≤ bytes.length)
      (sized : (Header.read bytes).size.toNat = bytes.length)
      (unknown : ∀ kind : Kind, kind.number ≠ (Header.read bytes).kind) :
      Refusal bytes (.unknownKind (Header.read bytes).kind)
  | malformed {kind : Kind} {defect : Defect} (headed : headerSize ≤ bytes.length)
      (sized : (Header.read bytes).size.toNat = bytes.length)
      (number : kind.number = (Header.read bytes).kind)
      (flaw : Flaw kind (bytes.drop headerSize) defect) :
      Refusal bytes (.malformed kind defect)

/-! Arguments -/

theorem ended_cons (text : Bytes) (texts : List Bytes) :
    ended (text :: texts) = text ++ 0 :: ended texts := by
  simp [ended]

/-- Arguments in front of anything are read as the texts that they are. -/
theorem decodeArguments_front {texts : List Bytes} (arguments : ∀ text ∈ texts, IsArgument text) :
    ∃ argv : List String, argv.map Utf8.encode = texts ∧ ∀ rest,
      decodeArguments [] (ended texts ++ rest) = (decodeArguments [] rest).map (argv ++ ·) := by
  induction texts with
  | nil =>
    refine ⟨[], rfl, fun rest => ?_⟩
    cases same : decodeArguments [] rest <;> simp [ended, same, Except.map]
  | cons text texts ih =>
    obtain ⟨first, others⟩ := List.forall_mem_cons.mp arguments
    obtain ⟨argument, written⟩ := (Utf8.valid_iff text).mp first.valid
    obtain ⟨argv, same, behind⟩ := ih others
    refine ⟨argument :: argv, by rw [List.map_cons, written, same], fun rest => ?_⟩
    have decoded := (Utf8.decode?_eq_some_iff text argument).mpr written
    rw [ended_cons, List.append_assoc, List.cons_append, decodeArguments_ended first.free, decoded,
      behind rest]
    cases decodeArguments [] rest <;> rfl

theorem decodeArguments_whole {texts : List Bytes} (arguments : ∀ text ∈ texts, IsArgument text) :
    ∃ argv : List String, argv.map Utf8.encode = texts ∧
      decodeArguments [] (ended texts) = .ok argv := by
  obtain ⟨argv, same, read⟩ := decodeArguments_front arguments
  refine ⟨argv, same, ?_⟩
  have decoded := read []
  rw [List.append_nil] at decoded
  rw [decoded]
  simp [decodeArguments, Except.map]

/-- All bytes are arguments up to the first that is none, if there is one. -/
theorem arguments_split (bytes : Bytes) :
    ∃ texts : List Bytes, (∀ text ∈ texts, IsArgument text) ∧
      (bytes = ended texts ∨
        (∃ rest, bytes = ended texts ++ rest ∧ rest ≠ [] ∧ 0 ∉ rest) ∨
        ∃ text rest, bytes = ended texts ++ (text ++ 0 :: rest) ∧ 0 ∉ text ∧
          ¬ Utf8.Valid text) := by
  by_cases there : 0 ∈ bytes
  · obtain ⟨text, behind, split, free⟩ := List.eq_append_cons_of_mem there
    by_cases valid : Utf8.Valid text
    · have shorter : behind.length < bytes.length := by
        rw [split]
        simp
        omega
      obtain ⟨texts, arguments, cases⟩ := arguments_split behind
      have front (rest : Bytes) :
          text ++ 0 :: (ended texts ++ rest) = ended (text :: texts) ++ rest := by
        rw [ended_cons, List.append_assoc, List.cons_append]
      refine ⟨text :: texts, List.forall_mem_cons.mpr ⟨⟨free, valid⟩, arguments⟩, ?_⟩
      rcases cases with whole | ⟨rest, same, some, opened⟩ | ⟨bad, rest, same, ends, invalid⟩
      · apply Or.inl
        rw [split, whole, ended_cons]
      · refine Or.inr (Or.inl ⟨rest, ?_, some, opened⟩)
        rw [split, same, front]
      · refine Or.inr (Or.inr ⟨bad, rest, ?_, ends, invalid⟩)
        rw [split, same, front]
    · exact ⟨[], List.forall_mem_nil _, Or.inr (Or.inr ⟨text, behind, split, free, valid⟩)⟩
  · by_cases nothing : bytes = []
    · exact ⟨[], List.forall_mem_nil _, Or.inl nothing⟩
    · exact ⟨[], List.forall_mem_nil _, Or.inr (Or.inl ⟨bytes, rfl, nothing, there⟩)⟩
termination_by bytes.length

/-! Bodies -/

theorem Payload.decode_of_size? {layout : Layout} {size : Nat} (known : layout.size? = some size)
    (body : Bytes) : ∃ payload, decode layout body = sized size body payload := by
  cases layout <;> cases known <;> exact ⟨_, rfl⟩

theorem Payload.decodeIntroduction_of_arguments {body : Bytes} {argv : List String}
    (counted : 8 ≤ body.length) (read : decodeArguments [] (body.drop 8) = .ok argv) :
    decodeIntroduction body =
      if argv.length = announced body then
        .ok (.introduction { parentPid := ofWord32 (body.take 4), argv })
      else .error .argumentCount := by
  rw [decodeIntroduction, if_neg (by omega), read]
  rfl

namespace Fits

variable {kind : Kind} {body : Bytes}

theorem decodes (fits : Fits kind body) : ∃ payload, Payload.decodeFor kind body = .ok payload := by
  cases fits with
  | fixed known exact =>
    have other : kind.layout ≠ .binary := by
      intro same
      simp [same, Layout.size?] at known
    obtain ⟨payload, decoded⟩ := Payload.decode_of_size? known body
    rw [Payload.decodeFor_of_other other, decoded]
    exact ⟨payload, Payload.sized_of_length exact payload⟩
  | @introduction texts layout counted whole arguments count =>
    have other : kind.layout ≠ .binary := by simp [layout]
    obtain ⟨argv, same, read⟩ := decodeArguments_whole arguments
    rw [← whole] at read
    have total : argv.length = announced body := by
      rw [← count, ← same, List.length_map]
    rw [Payload.decodeFor_of_other other, layout, Payload.decode,
      Payload.decodeIntroduction_of_arguments counted read, if_pos total]
    exact ⟨_, rfl⟩
  | @error text layout ends =>
    have other : kind.layout ≠ .binary := by simp [layout]
    rw [Payload.decodeFor_of_other other, layout, Payload.decode, Payload.decodeError, ends,
      List.getLast?_concat, if_pos rfl]
    exact ⟨_, rfl⟩
  | binary layout tagged key =>
    refine ⟨.binary (ofWord64 (body.take 8)) (body.drop 8), ?_⟩
    have fits : (Payload.binary (ofWord64 (body.take 8)) (body.drop 8)).keyFits kind = true := by
      rw [Payload.keyFits_iff]
      rintro tag data set same
      cases same
      rw [List.length_drop]
      exact key set
    rw [Payload.decodeFor, layout, Payload.decode, Payload.decodeBinary, if_neg (by omega)]
    change (if _ then _ else _) = _
    rw [if_pos fits]

end Fits

theorem Flaw.named {kind : Kind} {body : Bytes} {defect : Defect} (flaw : Flaw kind body defect) :
    Payload.decodeFor kind body = .error defect := by
  have introduction (layout : kind.layout = .introduction) :
      Payload.decodeFor kind body = Payload.decodeIntroduction body := by
    rw [Payload.decodeFor_of_other (by simp [layout]), layout, Payload.decode]
  cases flaw with
  | @size size known other =>
    have apart : kind.layout ≠ .binary := by
      intro same
      simp [same, Layout.size?] at known
    obtain ⟨payload, decoded⟩ := Payload.decode_of_size? known body
    rw [Payload.decodeFor_of_other apart, decoded, sized, if_neg other]
  | counts layout short =>
    rw [introduction layout, Payload.decodeIntroduction, if_pos short]
  | @unterminated texts rest layout counted split arguments some free =>
    obtain ⟨argv, -, read⟩ := decodeArguments_front arguments
    rw [introduction layout, Payload.decodeIntroduction, if_neg (by omega), split, read,
      decodeArguments_open some free]
    rfl
  | @notText texts text rest layout counted split arguments free invalid =>
    obtain ⟨argv, -, read⟩ := decodeArguments_front arguments
    rw [introduction layout, Payload.decodeIntroduction, if_neg (by omega), split, read,
      decodeArguments_ended free, (Utf8.decode?_eq_none_iff text).mpr invalid]
    rfl
  | @count texts layout counted whole arguments other =>
    obtain ⟨argv, same, read⟩ := decodeArguments_whole arguments
    rw [← whole] at read
    have total : argv.length ≠ announced body := by
      rw [← same, List.length_map] at other
      exact other
    rw [introduction layout, Payload.decodeIntroduction_of_arguments counted read, if_neg total]
  | text layout opened =>
    have last : body.getLast? ≠ some 0 := by
      intro ends
      obtain ⟨front, same⟩ := List.getLast?_eq_some_iff.mp ends
      exact opened front same
    rw [Payload.decodeFor_of_other (by simp [layout]), layout, Payload.decode,
      Payload.decodeError, if_neg last]
  | tag layout short =>
    rw [Payload.decodeFor, layout, Payload.decode, Payload.decodeBinary, if_pos short]
    rfl
  | key set tagged long =>
    subst set
    have exceeds : ¬ (Payload.binary (ofWord64 (body.take 8)) (body.drop 8)).keyFits .sharedKeySet =
        true := by
      rw [Payload.keyFits_iff]
      intro fits
      have bounded := fits _ _ rfl rfl
      rw [List.length_drop] at bounded
      exact Nat.not_le_of_lt long bounded
    rw [Payload.decodeFor]
    change ((Payload.decodeBinary body).bind _) = _
    rw [Payload.decodeBinary, if_neg (by omega)]
    change (if _ then _ else _) = _
    rw [if_neg exceeds]

theorem fits_or_flaw_fixed {kind : Kind} {body : Bytes} {size : Nat}
    (known : kind.layout.size? = some size) : Fits kind body ∨ ∃ defect, Flaw kind body defect := by
  by_cases same : body.length = size
  · exact Or.inl (.fixed known same)
  · exact Or.inr ⟨_, .size known same⟩

theorem fits_or_flaw_error {kind : Kind} {body : Bytes} (layout : kind.layout = .error) :
    Fits kind body ∨ ∃ defect, Flaw kind body defect := by
  by_cases ends : ∃ text, body = text ++ [0]
  · obtain ⟨text, same⟩ := ends
    exact Or.inl (.error layout same)
  · exact Or.inr ⟨_, .text layout (not_exists.mp ends)⟩

theorem fits_or_flaw (kind : Kind) (body : Bytes) :
    Fits kind body ∨ ∃ defect, Flaw kind body defect := by
  by_cases tagged : 8 ≤ body.length
  case pos =>
    cases layout : kind.layout with
    | introduction =>
      obtain ⟨texts, arguments, cases⟩ := arguments_split (body.drop 8)
      rcases cases with whole | ⟨rest, split, some, free⟩ | ⟨text, rest, split, free, invalid⟩
      · by_cases count : texts.length = announced body
        · exact Or.inl (.introduction layout tagged whole arguments count)
        · exact Or.inr ⟨_, .count layout tagged whole arguments count⟩
      · exact Or.inr ⟨_, .unterminated layout tagged split arguments some free⟩
      · exact Or.inr ⟨_, .notText layout tagged split arguments free invalid⟩
    | binary =>
      by_cases key : kind = .sharedKeySet → keyLength body ≤ body.length - 8
      · exact Or.inl (.binary layout tagged key)
      · obtain ⟨set, long⟩ := Classical.not_imp.mp key
        exact Or.inr ⟨_, .key set tagged (Nat.lt_of_not_le long)⟩
    | error => exact fits_or_flaw_error layout
    | _ => exact fits_or_flaw_fixed (by rw [layout]; rfl)
  case neg =>
    have short : body.length < 8 := Nat.lt_of_not_le tagged
    cases layout : kind.layout with
    | introduction => exact Or.inr ⟨_, .counts layout short⟩
    | binary => exact Or.inr ⟨_, .tag layout short⟩
    | error => exact fits_or_flaw_error layout
    | _ => exact fits_or_flaw_fixed (by rw [layout]; rfl)

/-! Frames -/

namespace Message

theorem decodePayload_of_fits {header : Header} {kind : Kind} {body : Bytes}
    (number : kind.number = header.kind) (fits : Fits kind body) :
    ∃ message, decodePayload header body = .ok message := by
  obtain ⟨payload, decoded⟩ := fits.decodes
  have known : Kind.ofNumber? header.kind = some kind := by
    rw [← number, Kind.ofNumber?_number]
  have parts := parts_decodePayload known body
  rw [decoded] at parts
  cases read : decodePayload header body with
  | error error =>
    rw [read] at parts
    cases parts
  | ok message => exact ⟨message, rfl⟩

theorem decodePayload_of_flaw {header : Header} {kind : Kind} {body : Bytes} {defect : Defect}
    (number : kind.number = header.kind) (flaw : Flaw kind body defect) :
    decodePayload header body = .error (.malformed kind defect) := by
  have known : Kind.ofNumber? header.kind = some kind := by
    rw [← number, Kind.ofNumber?_number]
  have parts := parts_decodePayload known body
  rw [flaw.named] at parts
  cases read : decodePayload header body with
  | error error =>
    rw [read] at parts
    cases parts
    rfl
  | ok message =>
    rw [read] at parts
    cases parts

theorem decode_of_headed {bytes : Bytes} (headed : headerSize ≤ bytes.length) :
    decode bytes =
      if (Header.read bytes).size.toNat < headerSize then
        .error (.sizeTooSmall (Header.read bytes).size)
      else if bytes.length = (Header.read bytes).size.toNat then
        decodePayload (Header.read bytes) (bytes.drop headerSize)
      else .error (.truncated (Header.read bytes).size.toNat bytes.length) := by
  rw [decode, if_neg (by omega), Header.parse]
  split <;> rfl

theorem decode_of_sized {bytes : Bytes} (headed : headerSize ≤ bytes.length)
    (sized : (Header.read bytes).size.toNat = bytes.length) :
    decode bytes = decodePayload (Header.read bytes) (bytes.drop headerSize) := by
  rw [decode_of_headed headed, if_neg (by omega), if_pos sized.symm]

end Message

theorem IsFrame.decodes {bytes : Bytes} (frame : IsFrame bytes) :
    ∃ message, Message.decode bytes = .ok message := by
  obtain ⟨kind, number, fits⟩ := frame.fits
  rw [Message.decode_of_sized frame.headed frame.sized]
  exact Message.decodePayload_of_fits number fits

theorem Refusal.named {bytes : Bytes} {error : FrameError} (refusal : Refusal bytes error) :
    Message.decode bytes = .error error := by
  cases refusal with
  | short short => rw [Message.decode, if_pos short]
  | small headed small => rw [Message.decode_of_headed headed, if_pos small]
  | unequal headed enough other =>
    rw [Message.decode_of_headed headed, if_neg (by omega), if_neg (Ne.symm other)]
  | unknown headed sized unknown =>
    rw [Message.decode_of_sized headed sized]
    apply Message.decodePayload_of_unknown
    cases known : Kind.ofNumber? (Header.read bytes).kind with
    | none => rfl
    | some kind => exact absurd (Kind.number_of_ofNumber? known) (unknown kind)
  | malformed headed sized number flaw =>
    rw [Message.decode_of_sized headed sized]
    exact Message.decodePayload_of_flaw number flaw

theorem frame_or_refusal (bytes : Bytes) : IsFrame bytes ∨ ∃ error, Refusal bytes error := by
  by_cases headed : headerSize ≤ bytes.length
  case neg => exact Or.inr ⟨_, .short (Nat.lt_of_not_le headed)⟩
  by_cases enough : headerSize ≤ (Header.read bytes).size.toNat
  case neg => exact Or.inr ⟨_, .small headed (Nat.lt_of_not_le enough)⟩
  by_cases sized : (Header.read bytes).size.toNat = bytes.length
  case neg => exact Or.inr ⟨_, .unequal headed enough sized⟩
  by_cases known : ∃ kind : Kind, kind.number = (Header.read bytes).kind
  case neg => exact Or.inr ⟨_, .unknown headed sized (not_exists.mp known)⟩
  obtain ⟨kind, number⟩ := known
  rcases fits_or_flaw kind (bytes.drop headerSize) with fits | ⟨defect, flaw⟩
  · exact Or.inl ⟨headed, sized, kind, number, fits⟩
  · exact Or.inr ⟨_, .malformed headed sized number flaw⟩

namespace Message

/-- Exactly the frames are decoded, and of any other byte string the first defect is named. On the
way no slice is out of range, whatever size a header gives, and what comes out has a payload of the
layout of its kind. -/
theorem decode_takes_frames (bytes : Bytes) (header : Header) (body : Bytes) :
    ((∃ message, decode bytes = .ok message) ↔ IsFrame bytes) ∧
    (∀ error, decode bytes = .error error ↔ Refusal bytes error) ∧
    frameSliced bytes = some ((decode bytes).map parts) ∧
    bodySliced header body = some ((decodePayload header body).map parts) ∧
    (∀ parts, frameSliced bytes = some (.ok parts) ∨ bodySliced header body = some (.ok parts) →
      parts.payload.layout = parts.kind.layout) := by
  refine ⟨⟨?_, IsFrame.decodes⟩, fun error => ⟨?_, Refusal.named⟩, frameSliced_eq bytes,
    bodySliced_eq header body, ?_⟩
  · rintro ⟨message, decoded⟩
    rcases frame_or_refusal bytes with frame | ⟨error, refusal⟩
    · exact frame
    · rw [refusal.named] at decoded
      cases decoded
  · intro failed
    rcases frame_or_refusal bytes with frame | ⟨first, refusal⟩
    · obtain ⟨message, decoded⟩ := frame.decodes
      rw [decoded] at failed
      cases failed
    · rw [refusal.named] at failed
      cases failed
      exact refusal
  · have shaped : ∀ {read : Except FrameError Message} {found : Parts},
        read.map parts = .ok found → found.payload.layout = found.kind.layout := by
      intro read found same
      cases read with
      | error error => cases same
      | ok message =>
        cases same
        exact message.fits
    rw [frameSliced_eq, bodySliced_eq]
    rintro found (whole | part)
    · exact shaped (Option.some.inj whole)
    · exact shaped (Option.some.inj part)

end Message

end Playback
