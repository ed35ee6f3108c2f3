import Playback.Message.Frame
import Playback.Proofs.Text.Utf8

set_option autoImplicit false

namespace Playback

def isZero (char : Char) : Bool := char = '\x00'

@[simp] theorem isZero_eq_true (char : Char) : isZero char = true ↔ char = '\x00' := by
  simp only [isZero, decide_eq_true_eq]

/-- The texts between the zero characters of a text. -/
def pieces (text : String) : List String :=
  (text.toList.splitOnP isZero).map String.ofList

theorem length_splitOnP_isZero (text : List Char) :
    (text.splitOnP isZero).length = text.countP isZero + 1 := by
  induction text with
  | nil => rfl
  | cons char text ih =>
    rw [List.splitOnP_cons_eq_if_modifyHead]
    by_cases zero : isZero char = true
    · rw [if_pos zero, List.length_cons, ih, List.countP_cons_of_pos zero]
    · rw [if_neg zero, List.length_modifyHead, ih, List.countP_cons_of_neg zero]

theorem length_pieces (text : String) : (pieces text).length = text.toList.countP isZero + 1 := by
  rw [pieces, List.length_map, length_splitOnP_isZero]

theorem pieces_of_no_zero {text : String} (free : 0 ∉ Utf8.encode text) : pieces text = [text] := by
  have plain : ∀ char ∈ text.toList, isZero char = false := by
    intro char member
    rw [← Bool.not_eq_true, isZero_eq_true]
    rintro rfl
    exact free ((Utf8.zero_mem_encode text).mpr member)
  rw [pieces, List.splitOnP_eq_singleton plain, List.map_singleton, String.ofList_toList]

theorem no_zero_of_length_pieces {text : String} (single : (pieces text).length = 1) :
    0 ∉ Utf8.encode text := by
  rw [length_pieces] at single
  have count : text.toList.countP isZero = 0 := by omega
  rw [Utf8.zero_mem_encode]
  intro member
  exact (List.countP_eq_zero.mp count) '\x00' member rfl

/-- The pieces of arguments are no fewer than the arguments. -/
theorem length_le_pieces (argv : List String) : argv.length ≤ (argv.flatMap pieces).length := by
  induction argv with
  | nil => exact Nat.le_refl 0
  | cons argument rest ih =>
    have some_piece := length_pieces argument
    rw [List.flatMap_cons, List.length_append, List.length_cons]
    omega

theorem flatMap_pieces {argv : List String}
    (free : ∀ argument ∈ argv, 0 ∉ Utf8.encode argument) : argv.flatMap pieces = argv := by
  induction argv with
  | nil => rfl
  | cons argument rest ih =>
    rw [List.flatMap_cons, pieces_of_no_zero (free argument List.mem_cons_self),
      ih (fun other member => free other (List.mem_cons_of_mem argument member)),
      List.singleton_append]

theorem length_pieces_iff (argv : List String) :
    (argv.flatMap pieces).length = argv.length ↔ ∀ argument ∈ argv, 0 ∉ Utf8.encode argument := by
  constructor
  · intro same
    induction argv with
    | nil => simp
    | cons argument rest ih =>
      have at_least := length_le_pieces rest
      have some_piece := length_pieces argument
      rw [List.flatMap_cons, List.length_append, List.length_cons] at same
      intro other member
      rcases List.mem_cons.mp member with rfl | behind
      · exact no_zero_of_length_pieces (by omega)
      · exact ih (by omega) other behind
  · intro free
    rw [flatMap_pieces free]

/-- Bytes other than zero are kept for the argument at hand. -/
theorem decodeArguments_append {bytes : Bytes} (free : 0 ∉ bytes) (read rest : Bytes) :
    decodeArguments read (bytes ++ rest) = decodeArguments (bytes.reverse ++ read) rest := by
  induction bytes generalizing read with
  | nil => rfl
  | cons byte bytes ih =>
    have apart : ¬ byte = 0 := by
      rintro rfl
      exact free List.mem_cons_self
    rw [List.cons_append, decodeArguments, if_neg apart,
      ih (fun member => free (List.mem_cons_of_mem byte member)), List.reverse_cons,
      List.append_assoc, List.singleton_append]

/-- A zero byte ends the argument at hand. -/
theorem decodeArguments_zero (front : List Char) (rest : Bytes) :
    decodeArguments (front.flatMap Utf8.encodeChar).reverse (0 :: rest) =
      (decodeArguments [] rest).map (String.ofList front :: ·) := by
  rw [decodeArguments, if_pos rfl, List.reverse_reverse, Utf8.decode?_flatMap]

/-- Reading the rest of an argument, of which the characters in front, last one first, are read. -/
theorem decodeArguments_text (front text : List Char) (rest : Bytes) :
    decodeArguments (front.reverse.flatMap Utf8.encodeChar).reverse
        (text.flatMap Utf8.encodeChar ++ 0 :: rest) =
      (decodeArguments [] rest).map
        ((text.splitOnPPrepend isZero front).map String.ofList ++ ·) := by
  induction text generalizing front with
  | nil =>
    rw [List.flatMap_nil, List.nil_append, decodeArguments_zero, List.splitOnPPrepend_nil]
    rfl
  | cons char text ih =>
    by_cases zero : char = '\x00'
    · have ends := ih []
      rw [List.splitOnPPrepend_nil_right] at ends
      rw [List.splitOnPPrepend_cons_pos ((isZero_eq_true char).mpr zero), zero, List.flatMap_cons,
        List.append_assoc]
      change decodeArguments _ (0 :: (text.flatMap Utf8.encodeChar ++ 0 :: rest)) = _
      rw [decodeArguments_zero]
      change (decodeArguments (List.flatMap Utf8.encodeChar [].reverse).reverse _).map _ = _
      rw [ends]
      cases decodeArguments [] rest <;> rfl
    · have plain : isZero char = false := by
        rw [← Bool.not_eq_true, isZero_eq_true]
        exact zero
      have free : 0 ∉ Utf8.encodeChar char := by
        rw [Utf8.zero_mem_encodeChar]
        exact zero
      rw [List.splitOnPPrepend_cons_neg plain, ← ih (char :: front), List.flatMap_cons,
        List.append_assoc, decodeArguments_append free, List.reverse_cons, List.flatMap_append,
        List.reverse_append, List.flatMap_singleton]

theorem decodeArguments_encode (argv : List String) :
    decodeArguments [] (argv.flatMap Payload.encodeArgument) = .ok (argv.flatMap pieces) := by
  induction argv with
  | nil => rfl
  | cons argument rest ih =>
    have first := decodeArguments_text [] argument.toList (rest.flatMap Payload.encodeArgument)
    rw [List.splitOnPPrepend_nil_right] at first
    rw [List.flatMap_cons, Payload.encodeArgument, Utf8.encode, List.append_assoc,
      List.singleton_append]
    exact first.trans (by rw [ih]; rfl)

theorem length_le_argumentsSize (argv : List String) : argv.length ≤ Payload.argumentsSize argv := by
  induction argv with
  | nil => exact Nat.le_refl 0
  | cons argument rest ih =>
    rw [List.length_cons, Payload.argumentsSize]
    omega

end Playback
