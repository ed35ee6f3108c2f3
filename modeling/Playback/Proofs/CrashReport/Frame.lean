import Playback.CrashReport
import Playback.Proofs.Message.RoundTrip
import Playback.Proofs.Region.Text
import Playback.Proofs.Text.Cutting
import Mathlib.Data.Nat.Digits.Defs

set_option autoImplicit false

namespace Playback

/-- What is done with the report of a process. -/
inductive CrashStep where
  | pushNote (note : String)
  | popNote
  | setNote (note : String)
  | record (text : String)
  | take (fault : Fault) (fork : UInt32)
  deriving DecidableEq, Repr

namespace CrashStep

def act (report : CrashReport) : CrashStep → CrashReport
  | pushNote note => report.pushNote note
  | popNote => report.popNote.2
  | setNote note => report.setNote note
  | record text => report.record text
  | take fault fork => (report.takeFrame fault fork).2

/-- The notes, and the text that was said last and has not been taken. -/
structure Account where
  notes : List String := []
  said : String := ""
  deriving DecidableEq, Repr

/-- Notes are said as one text. -/
def Account.note (notes : List String) : Account where
  notes := notes
  said := " > ".intercalate notes

def tell (account : Account) : CrashStep → Account
  | pushNote note => .note (account.notes ++ [note])
  | popNote => .note account.notes.dropLast
  | setNote note => .note (account.notes.dropLast ++ [note])
  | record text => { account with said := text }
  | take _ _ => { account with said := "" }

end CrashStep

namespace CrashReport

open Utf8 (encode upToZero Front)

/-- The room that is reserved for the frame of a report. -/
def reserved : Nat := headerSize + reportLimit + 64

/-- The report holds the notes, and as much of what was said as has room. -/
structure Tells (report : CrashReport) (account : CrashStep.Account) : Prop where
  notes : report.notes = account.notes
  size : report.memory.size = reportMemory
  text : report.memory.read =
    ((encode account.said).take (reportMemory - 1)).takeWhile (· ≠ 0)

section
variable {report : CrashReport} {account : CrashStep.Account}

theorem Tells.fresh : Tells {} {} := ⟨rfl, rfl, rfl⟩

theorem Tells.record (tells : Tells report account) (notes : List String) (text : String) :
    Tells ({ report with notes }.record text) { notes, said := text } := by
  have room : 0 < report.memory.size := by
    rw [tells.size]
    decide
  refine ⟨rfl, ?_, ?_⟩
  · exact (Region.size_write _ _).trans tells.size
  · rw [← tells.size]
    exact Region.read_write _ _ room

theorem Tells.clear (tells : Tells report account) :
    Tells { report with memory := report.memory.clear } { account with said := "" } :=
  ⟨tells.notes, (Region.size_clear _).trans tells.size, Region.read_clear _⟩

theorem Tells.act (tells : Tells report account) (step : CrashStep) :
    Tells (step.act report) (step.tell account) := by
  cases step with
  | pushNote note | popNote | setNote note =>
    simp only [CrashStep.act, CrashStep.tell, pushNote, popNote, setNote, withNotes, tells.notes]
    exact tells.record _ _
  | record text =>
    simp only [CrashStep.act, CrashStep.tell, ← tells.notes]
    exact tells.record report.notes text
  | take fault fork => exact tells.clear

theorem tells_run (steps : List CrashStep) (tells : Tells report account) :
    Tells (steps.foldl CrashStep.act report) (steps.foldl CrashStep.tell account) := by
  induction steps generalizing report account with
  | nil => exact tells
  | cons step steps ih => exact ih (tells.act step)

/-- What a report carries. -/
theorem Tells.body (tells : Tells report account) (fault : Fault) :
    ∃ front, Front reportLimit account.said front ∧
      report.body fault =
        encode (if upToZero front = "" then fault.text else upToZero front) := by
  obtain ⟨front, cut, whole⟩ := Utf8.wellFormedPart_takeWhile reportLimit account.said
  have carried : report.memory.readUpTo reportLimit =
      ((encode account.said).takeWhile (· ≠ 0)).take reportLimit := by
    -- Of the two cuts the shorter one counts, in front of a zero byte or behind it.
    rw [Region.readUpTo, tells.text, List.take_takeWhile, List.take_takeWhile, List.take_take]
    rfl
  refine ⟨front, cut, ?_⟩
  rw [CrashReport.body, carried, whole]
  by_cases empty : upToZero front = ""
  · rw [empty]
    rfl
  · have some : (encode (upToZero front)).isEmpty = false := by
      rw [List.isEmpty_eq_false_iff, Ne, Utf8.encode_eq_nil]
      exact empty
    rw [some, if_neg empty]
    rfl

theorem Tells.recorded (tells : Tells report account) (nothing : account.said = "") :
    report.recorded = "" := by
  have empty : report.memory.read = encode "" := by
    rw [tells.text, nothing]
    rfl
  rw [CrashReport.recorded, empty, Utf8.decodeLossy_encode]

/-- Taking a report over and over adds nothing. -/
theorem Tells.takes (takes : List (Fault × UInt32)) (tells : Tells report account)
    (nothing : account.said = "") :
    Tells (takes.foldl (fun report (fault, fork) => (report.takeFrame fault fork).2) report)
      account := by
  induction takes generalizing report with
  | nil => exact tells
  | cons take takes ih =>
    have again := tells.clear
    rw [← nothing] at again
    exact ih again

end

/-! The size of a frame -/

theorem length_hexadecimal_le (address : UInt64) :
    (Quoted.hexadecimal address.toNat).length ≤ 16 := by
  rw [Quoted.hexadecimal, String.length_ofList]
  exact Nat.toDigits_length 16 _ 16 (by decide) address.toNat_lt

theorem length_signal_le (signal : Int32) : (toString signal.toInt).length ≤ 11 := by
  have lower := signal.le_toInt
  have upper := signal.toInt_lt
  cases number : signal.toInt with
  | ofNat size =>
    rw [number, Int.ofNat_eq_natCast] at upper
    have short : (Nat.repr size).length ≤ 10 := Nat.repr_length size 10 (by decide) (by omega)
    exact Nat.le_succ_of_le short
  | negSucc size =>
    rw [number] at lower
    have short : (Nat.repr (size + 1)).length ≤ 10 :=
      Nat.repr_length (size + 1) 10 (by decide) (by omega)
    show ("-" ++ Nat.repr (size + 1)).length ≤ 11
    rw [String.length_append]
    exact Nat.add_le_add_left short 1

theorem length_faultText_le (fault : Fault) : fault.text.length ≤ 45 := by
  have address := length_hexadecimal_le fault.address
  have signal := length_signal_le fault.signal
  simp only [Fault.text, String.length_append]
  have words : "Fault 0x".length = 8 ∧ " (signal ".length = 9 ∧ ")".length = 1 := by decide
  omega

/-- The frame is the one of the encoder, as long as its size can be told. -/
theorem encode_fatalError {text : String} (fork : UInt32)
    (short : (encode text).length + 1 + headerSize ≤ maxFrameSize) :
    (Message.fatalError fork text).encode = .ok (({
      size := UInt32.ofNat (headerSize + (encode text ++ [0]).length), flags := 0,
      kind := Kind.fatalError.number, fork } : Header).encode ++ (encode text ++ [0])) := by
  have size : frameSize (Message.fatalError fork text).payload.size =
      .ok (UInt32.ofNat (headerSize + (encode text ++ [0]).length)) := by
    rw [List.length_append, Nat.add_comm headerSize]
    exact frameSize_of_le short
  rw [Message.encode, Message.header, size]
  rfl

/-- Whether a report carries a text or names the fault, it is not long. -/
theorem length_carried_le {said front : String} (cut : Front reportLimit said front)
    (fault : Fault) :
    (encode (if upToZero front = "" then fault.text else upToZero front)).length ≤ reportLimit := by
  split
  · refine (Utf8.length_encode_le fault.text).trans ?_
    exact (Nat.mul_le_mul_left 4 (length_faultText_le fault)).trans (by decide)
  · exact cut.upToZero.fits

/-- Whatever has been noted, recorded and taken before, a report is the frame that the encoder
writes for the longest beginning of the text said last that a report has room for, up to its first
zero character; or for the fault, if that leaves nothing. The frame has room in what is reserved for
it. The notes stay, and until something else is said there is no text, however often the report is
taken. -/
theorem frame_is_that_of_the_encoder (steps : List CrashStep) (fault : Fault) (fork : UInt32) :
    let report := steps.foldl CrashStep.act {}
    let account := steps.foldl CrashStep.tell {}
    let (frame, left) := report.takeFrame fault fork
    (∃ front, Front reportLimit account.said front ∧
      (Message.fatalError fork
        (if upToZero front = "" then fault.text else upToZero front)).encode = .ok frame) ∧
    frame.length ≤ reserved ∧
    report.notes = account.notes ∧ left.notes = report.notes ∧
    ∀ takes : List (Fault × UInt32),
      (takes.foldl (fun report (fault, fork) => (report.takeFrame fault fork).2) left).recorded =
        "" := by
  intro report account
  have tells : Tells report account := tells_run steps .fresh
  obtain ⟨front, cut, carried⟩ := tells.body fault
  have short := length_carried_le cut fault
  refine ⟨⟨front, cut, ?_⟩, ?_, tells.notes, rfl, ?_⟩
  · rw [encode_fatalError fork, ← carried]
    have told : reportLimit + 1 + headerSize ≤ maxFrameSize := by decide
    exact (Nat.add_le_add_right (Nat.add_le_add_right short 1) headerSize).trans told
  · rw [List.length_append, Header.length_encode, carried, List.length_append]
    have inside : headerSize + (reportLimit + 1) ≤ reserved := by decide
    exact (Nat.add_le_add_left (Nat.add_le_add_right short 1) headerSize).trans inside
  · intro takes
    exact (tells.clear.takes takes rfl).recorded rfl

end CrashReport

end Playback
