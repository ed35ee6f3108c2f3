import Playback.Config
import Playback.Proofs.Text.Decimal

set_option autoImplicit false

namespace Playback

namespace LaunchOption

theorem ofName?_name (option : LaunchOption) : ofName? option.name = some option := by
  cases option <;> rfl

theorem ofName?_eq_some_iff {argument : String} {option : LaunchOption} :
    ofName? argument = some option ↔ argument = option.name := by
  constructor
  · intro named
    unfold ofName? at named
    split at named
    · cases named
      assumption
    · split at named <;> cases named
      assumption
  · rintro rfl
    exact ofName?_name option

theorem ofName?_eq_none_iff {argument : String} :
    ofName? argument = none ↔ ∀ option : LaunchOption, argument ≠ option.name := by
  simp only [Option.eq_none_iff_forall_ne_some, ne_eq, ofName?_eq_some_iff]

end LaunchOption

namespace Config

/-! Lines of arguments -/

inductive Piece where
  | other (text : String)
  | given (option : LaunchOption) (value : String)
  deriving DecidableEq, Repr

def Piece.texts : Piece → List String
  | other text => [text]
  | given option value => [option.name, value]

structure Line where
  pieces : List Piece := []
  /-- The option at the end that has no value. -/
  bare : Option LaunchOption := none
  deriving DecidableEq, Repr

/-- An option that is met, with the value behind it. -/
abbrev Met := LaunchOption × Option String

def Piece.met? : Piece → Option Met
  | other _ => none
  | given option value => some (option, some value)

namespace Line

def texts (line : Line) : List String :=
  line.pieces.flatMap Piece.texts ++ (line.bare.map LaunchOption.name).toList

/-- The options of a line from the left. -/
def met (line : Line) : List Met :=
  line.pieces.filterMap Piece.met? ++ (line.bare.map fun option => (option, none)).toList

/-- The line is what the arguments say. A value may look like an option, but no other argument. -/
structure Reads (line : Line) (arguments : List String) : Prop where
  texts : line.texts = arguments
  others : ∀ text, .other text ∈ line.pieces → ∀ option : LaunchOption, text ≠ option.name

/-- A line with one more piece in front. -/
def cons (piece : Piece) (line : Line) : Line := { line with pieces := piece :: line.pieces }

/-- The line of a list of arguments. -/
def of : List String → Line
  | [] => {}
  | [argument] =>
    match LaunchOption.ofName? argument with
    | none => { pieces := [.other argument] }
    | some option => { bare := some option }
  | argument :: value :: rest =>
    match LaunchOption.ofName? argument with
    | none => (of (value :: rest)).cons (.other argument)
    | some option => (of rest).cons (.given option value)

end Line

/-! One line for each list -/

section
variable {line : Line} {arguments : List String} {text : String}

theorem Line.of_other (other : LaunchOption.ofName? text = none) (arguments : List String) :
    Line.of (text :: arguments) = (Line.of arguments).cons (.other text) := by
  cases arguments with
  | nil =>
    simp only [Line.of, other]
    rfl
  | cons value rest => simp only [Line.of, other]

theorem Line.of_given (option : LaunchOption) (value : String) (arguments : List String) :
    Line.of (option.name :: value :: arguments) =
      (Line.of arguments).cons (.given option value) := by
  simp only [Line.of, LaunchOption.ofName?_name]

theorem Line.Reads.cons_other (reads : line.Reads arguments)
    (other : LaunchOption.ofName? text = none) :
    (line.cons (.other text)).Reads (text :: arguments) := by
  refine ⟨by rw [← reads.texts]; rfl, ?_⟩
  intro one there
  rcases List.mem_cons.mp there with same | before
  · cases same
    exact LaunchOption.ofName?_eq_none_iff.mp other
  · exact reads.others one before

theorem Line.Reads.cons_given (reads : line.Reads arguments) (option : LaunchOption)
    (value : String) : (line.cons (.given option value)).Reads (option.name :: value :: arguments) :=
  ⟨by rw [← reads.texts]; rfl,
    fun one there => reads.others one ((List.mem_cons.mp there).resolve_left nofun)⟩

theorem Line.reads_of (arguments : List String) : (Line.of arguments).Reads arguments := by
  fun_induction Line.of arguments with
  | case1 => exact ⟨rfl, nofun⟩
  | case2 argument other =>
    have nothing : ({} : Line).Reads [] := ⟨rfl, nofun⟩
    exact nothing.cons_other other
  | case3 argument option named =>
    refine ⟨?_, nofun⟩
    rw [LaunchOption.ofName?_eq_some_iff.mp named]
    rfl
  | case4 argument value rest other ih => exact ih.cons_other other
  | case5 argument value rest option named ih =>
    rw [LaunchOption.ofName?_eq_some_iff.mp named]
    exact ih.cons_given option value

/-- The pieces of a line can be told from the left. -/
theorem Line.Reads.eq_of (reads : line.Reads arguments) : line = Line.of arguments := by
  obtain ⟨pieces, bare⟩ := line
  obtain ⟨rfl, others⟩ := reads
  induction pieces with
  | nil =>
    cases bare with
    | none => rfl
    | some option =>
      show _ = Line.of [option.name]
      simp only [Line.of, LaunchOption.ofName?_name]
  | cons piece pieces ih =>
    have rest := ih fun one there => others one (List.mem_cons_of_mem _ there)
    cases piece with
    | other text =>
      have named := LaunchOption.ofName?_eq_none_iff.mpr (others text List.mem_cons_self)
      exact (congrArg (Line.cons (.other text)) rest).trans (Line.of_other named _).symm
    | given option value =>
      exact (congrArg (Line.cons (.given option value)) rest).trans
        (Line.of_given option value _).symm

end

/-! What the options of a line come to -/

/-- The value of an option is a number. -/
def Valid (met : Met) (word : LaunchOption × UInt32) : Prop :=
  met.1 = word.1 ∧ ∃ text, met.2 = some text ∧ Number.Writes text word.2

/-- An option has no value, or one that is no number. -/
inductive Refused : Met → Failure → Prop where
  | missing (option : LaunchOption) : Refused (option, none) (.missingOption option.name)
  | invalid (option : LaunchOption) {text : String} (none : ∀ word, ¬ Number.Writes text word) :
      Refused (option, some text) (.invalidOption option.name text)

/-- The number that an option is given last. -/
def last? (option : LaunchOption) (words : List (LaunchOption × UInt32)) : Option UInt32 :=
  words.findSomeRev? fun (given, word) => if given = option then some word else none

/-- What has been read so far, and the options that are still to be read. -/
def readMet (config : Config) (channelId : Option UInt32) : List Met → Except Failure Config
  | [] => readOptions config channelId []
  | (option, none) :: _ => .error (.missingOption option.name)
  | (.channelId, some value) :: rest => do
    let id ← optionValue .channelId value
    readMet config (some id) rest
  | (.middlemanPid, some value) :: rest => do
    let pid ← optionValue .middlemanPid value
    readMet { config with middlemanPid := pid } channelId rest

theorem readOptions_other {text : String} (other : LaunchOption.ofName? text = none)
    (config : Config) (channelId : Option UInt32) (arguments : List String) :
    readOptions config channelId (text :: arguments) = readOptions config channelId arguments := by
  cases arguments with
  | nil | cons => simp only [readOptions, other]

/-- Of the arguments of a line, only the options count. -/
theorem readOptions_texts {line : Line} {arguments : List String} (reads : line.Reads arguments)
    (config : Config) (channelId : Option UInt32) :
    readOptions config channelId arguments = readMet config channelId line.met := by
  obtain ⟨pieces, bare⟩ := line
  obtain ⟨rfl, others⟩ := reads
  induction pieces generalizing config channelId with
  | nil =>
    cases bare with
    | none => rfl
    | some option =>
      show readOptions config channelId [option.name] = _
      simp only [readOptions, LaunchOption.ofName?_name]
      rfl
  | cons piece pieces ih =>
    have rest (config : Config) (channelId : Option UInt32) := ih config channelId
      fun one there => others one (List.mem_cons_of_mem _ there)
    cases piece with
    | other text =>
      have named := LaunchOption.ofName?_eq_none_iff.mpr (others text List.mem_cons_self)
      exact (readOptions_other named _ _ _).trans (rest config channelId)
    | given option value =>
      show readOptions config channelId (option.name :: value :: Line.texts { pieces, bare }) = _
      cases option with
      | middlemanPid | channelId =>
        simp only [readOptions, LaunchOption.ofName?_name, rest]
        rfl

section
variable {met : Met} {mets : List Met} {words : List (LaunchOption × UInt32)}
  {word : LaunchOption × UInt32} {failure : Failure}

theorem optionValue_of_valid (valid : Valid met word) :
    ∃ text, met = (word.1, some text) ∧ optionValue word.1 text = .ok word.2 := by
  obtain ⟨option, value⟩ := met
  obtain ⟨rfl, text, rfl, writes⟩ := valid
  refine ⟨text, rfl, ?_⟩
  rw [optionValue, Number.word32?_eq_some_iff.mpr writes]

theorem valid_or_refused (met : Met) : (∃ word, Valid met word) ∨ ∃ failure, Refused met failure := by
  obtain ⟨option, value⟩ := met
  cases value with
  | none => exact .inr ⟨_, .missing option⟩
  | some text =>
    by_cases number : ∃ word, Number.Writes text word
    · obtain ⟨word, writes⟩ := number
      exact .inl ⟨(option, word), rfl, text, rfl, writes⟩
    · exact .inr ⟨_, .invalid option (not_exists.mp number)⟩

/-- The line goes well up to one option, whose value is refused. -/
def Fails (mets : List Met) (failure : Failure) : Prop :=
  ∃ before met after, mets = before ++ met :: after ∧
    (∀ earlier ∈ before, ∃ word, Valid earlier word) ∧ Refused met failure

theorem Fails.cons (fails : Fails mets failure) (valid : Valid met word) :
    Fails (met :: mets) failure := by
  obtain ⟨before, one, after, rfl, fine, refused⟩ := fails
  refine ⟨met :: before, one, after, rfl, ?_, refused⟩
  exact List.forall_mem_cons.mpr ⟨⟨word, valid⟩, fine⟩

theorem all_valid_or_fails (mets : List Met) :
    (∃ words, List.Forall₂ Valid mets words) ∨ ∃ failure, Fails mets failure := by
  induction mets with
  | nil => exact .inl ⟨[], .nil⟩
  | cons met mets ih =>
    rcases valid_or_refused met with ⟨word, valid⟩ | ⟨failure, refused⟩
    · rcases ih with ⟨words, fine⟩ | ⟨failure, fails⟩
      · exact .inl ⟨word :: words, .cons valid fine⟩
      · exact .inr ⟨failure, fails.cons valid⟩
    · exact .inr ⟨failure, [], met, mets, rfl, List.forall_mem_nil _, refused⟩

theorem last?_cons (option : LaunchOption) (word : LaunchOption × UInt32)
    (words : List (LaunchOption × UInt32)) :
    last? option (word :: words) =
      (last? option words).or (if word.1 = option then some word.2 else none) := by
  unfold last?
  rw [List.findSomeRev?]
  split <;> rename_i later <;> rw [later] <;> rfl

/-- When all values are numbers, the last one of each option stands. -/
theorem readMet_of_valid (valid : List.Forall₂ Valid mets words) (config : Config)
    (channelId : Option UInt32) :
    readMet config channelId mets =
      readOptions
        { config with middlemanPid := (last? .middlemanPid words).getD config.middlemanPid }
        ((last? .channelId words).or channelId) [] := by
  induction valid generalizing config channelId with
  | nil => rfl
  | @cons met word mets words first rest ih =>
    obtain ⟨text, rfl, value⟩ := optionValue_of_valid first
    obtain ⟨option, number⟩ := word
    cases option with
    | middlemanPid =>
      dsimp only at value
      simp only [readMet, value, last?_cons]
      change readMet _ channelId _ = _
      rw [ih]
      cases last? .middlemanPid words <;> simp
    | channelId =>
      dsimp only at value
      simp only [readMet, value, last?_cons]
      change readMet config (some number) _ = _
      rw [ih]
      cases last? .channelId words <;> simp

/-- The first option whose value is refused is reported. -/
theorem readMet_of_fails (fails : Fails mets failure) (config : Config)
    (channelId : Option UInt32) : readMet config channelId mets = .error failure := by
  obtain ⟨before, met, after, rfl, fine, refused⟩ := fails
  induction before generalizing config channelId with
  | nil =>
    cases refused with
    | missing option => cases option <;> rfl
    | @invalid option text none =>
      have no : Number.word32? text = Option.none := by
        rw [Option.eq_none_iff_forall_ne_some]
        exact fun word read => none word (Number.word32?_eq_some_iff.mp read)
      have value : optionValue option text = .error (.invalidOption option.name text) := by
        rw [optionValue, no]
      cases option <;>
      · simp only [List.nil_append, readMet, value]
        rfl
  | cons first before ih =>
    obtain ⟨⟨word, valid⟩, others⟩ := List.forall_mem_cons.mp fine
    obtain ⟨text, rfl, value⟩ := optionValue_of_valid valid
    obtain ⟨option, number⟩ := word
    cases option <;>
    · dsimp only at value
      simp only [List.cons_append, readMet, value]
      exact ih _ _ others

end

/-- Why a line whose options are `mets` is refused: for the first option whose value is missing or
no number, and else for a channel id that is not there. -/
def RefusedFor (mets : List Met) (failure : Failure) : Prop :=
  Fails mets failure ∨
    (∃ words, List.Forall₂ Valid mets words ∧ last? .channelId words = none) ∧
      failure = .missingOption LaunchOption.channelId.name

/-- What a line gives whose options are `mets`: a number for each option, of which the last one
stands. -/
def Gives (role : Role) (mets : List Met) (config : Config) : Prop :=
  ∃ words id, List.Forall₂ Valid mets words ∧ last? .channelId words = some id ∧
    config = { role, channelId := id, middlemanPid := (last? .middlemanPid words).getD 0 }

theorem readMet_spec (role : Role) (mets : List Met) :
    (∃ config, readMet { role } none mets = .ok config ∧ Gives role mets config) ∨
      ∃ failure, readMet { role } none mets = .error failure ∧ RefusedFor mets failure := by
  rcases all_valid_or_fails mets with ⟨words, valid⟩ | ⟨failure, fails⟩
  · have read := readMet_of_valid valid { role } none
    cases id : last? .channelId words with
    | none =>
      rw [id] at read
      exact .inr ⟨_, read, .inr ⟨⟨words, valid, id⟩, rfl⟩⟩
    | some id' =>
      rw [id] at read
      exact .inl ⟨_, read, words, id', valid, id, rfl⟩
  · exact .inr ⟨failure, readMet_of_fails fails _ _, .inl fails⟩

theorem readMet_of_gives {role : Role} {mets : List Met} {config : Config}
    (gives : Gives role mets config) : readMet { role } none mets = .ok config := by
  obtain ⟨words, id, valid, last, rfl⟩ := gives
  rw [readMet_of_valid valid, last]
  rfl

theorem readMet_of_refusedFor {role : Role} {mets : List Met} {failure : Failure}
    (refused : RefusedFor mets failure) : readMet { role } none mets = .error failure := by
  rcases refused with fails | ⟨⟨words, valid, none⟩, rfl⟩
  · exact readMet_of_fails fails _ _
  · rw [readMet_of_valid valid, none]
    rfl

/-- An argument between two lines, the first of which ends with no bare option. -/
theorem reads_between {before after : Line} {early late : List String} {extra : String}
    (first : before.Reads early) (second : after.Reads late) (ended : before.bare = none)
    (other : ∀ option : LaunchOption, extra ≠ option.name) :
    Line.Reads { after with pieces := before.pieces ++ after.pieces } (early ++ late) ∧
      Line.Reads { after with pieces := before.pieces ++ .other extra :: after.pieces }
        (early ++ extra :: late) := by
  obtain ⟨rfl, firsts⟩ := first
  obtain ⟨rfl, seconds⟩ := second
  constructor
  · refine ⟨by simp [Line.texts, ended], ?_⟩
    intro text there
    exact (List.mem_append.mp there).elim (firsts text) (seconds text)
  · refine ⟨by simp [Line.texts, ended, Piece.texts], ?_⟩
    intro text there
    rcases List.mem_append.mp there with left | right
    · exact firsts text left
    · rcases List.mem_cons.mp right with same | behind
      · cases same
        exact other
      · exact seconds text behind

/-- Arguments are read as the one line that they are. All options with their values make up the
configuration if each value is a number and a channel id is among them, the last value of an option
standing; and else the first defect is reported. An argument that is no option and no value changes
nothing, wherever it stands. -/
theorem arguments_read_as_line (role : Role) (arguments : List String) :
    (∃ line : Line, line.Reads arguments ∧ (∀ other : Line, other.Reads arguments → other = line) ∧
      (∀ config, ofArguments role arguments = .ok config ↔ Gives role line.met config) ∧
      (∀ failure, ofArguments role arguments = .error failure ↔ RefusedFor line.met failure)) ∧
    ∀ (early late : List String) (extra : String), arguments = early ++ late →
      (∀ option : LaunchOption, extra ≠ option.name) →
      (∀ line : Line, line.Reads early → line.bare = none) →
      ofArguments role (early ++ extra :: late) = ofArguments role arguments := by
  constructor
  · have reads := Line.reads_of arguments
    have read : ofArguments role arguments = readMet { role } none (Line.of arguments).met :=
      readOptions_texts reads _ _
    refine ⟨Line.of arguments, reads, fun other too => too.eq_of, ?_, ?_⟩
    · intro config
      rw [read]
      refine ⟨fun fine => ?_, readMet_of_gives⟩
      rcases readMet_spec role (Line.of arguments).met with ⟨given, ok, gives⟩ | ⟨failure, error, -⟩
      · rw [ok] at fine
        cases fine
        exact gives
      · rw [error] at fine
        cases fine
    · intro failure
      rw [read]
      refine ⟨fun wrong => ?_, readMet_of_refusedFor⟩
      rcases readMet_spec role (Line.of arguments).met with ⟨given, ok, -⟩ | ⟨other, error, why⟩
      · rw [ok] at wrong
        cases wrong
      · rw [error] at wrong
        cases wrong
        exact why
  · rintro early late extra rfl other ended
    have first := Line.reads_of early
    obtain ⟨plain, longer⟩ := reads_between first (Line.reads_of late) (ended _ first) other
    have skipped : (Piece.other extra).met? = none := rfl
    rw [ofArguments, ofArguments, readOptions_texts plain, readOptions_texts longer]
    simp [Line.met, List.filterMap_cons_none skipped]

/-- An option behind an option is its value. -/
example :
    ofArguments .recording ["x", "-middlemanPid", "-recordReplayChannelID", "7"] =
      .error (.invalidOption "-middlemanPid" "-recordReplayChannelID") := by
  rfl

end Config

end Playback
