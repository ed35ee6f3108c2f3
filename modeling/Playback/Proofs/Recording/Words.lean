import Playback.Proofs.Recording.Settling

set_option autoImplicit false

/- Reassembly in the words of the machine, where a sum or a difference can leave the range of
words, a slice can begin behind the end of its vector, and a vector can outgrow its limit. Each
of these is a fault. None occurs while all vectors keep to the limit, for chunks at any offset. -/
namespace Playback

/-- The most bytes that a vector holds. -/
def vectorLimit : Nat := UInt64.size / 2 - 1

theorem two_vectors_fit : vectorLimit + vectorLimit < UInt64.size := by decide

namespace Recording

def addWords? (first second : UInt64) : Option UInt64 :=
  if first.toNat + second.toNat < UInt64.size then some (first + second) else none

def subtractWords? (first second : UInt64) : Option UInt64 :=
  if second ≤ first then some (first - second) else none

def sliceFrom? (data : Bytes) (start : UInt64) : Option Bytes :=
  if start.toNat ≤ data.length then some (data.drop start.toNat) else none

def extend? (contents fresh : Bytes) : Option Bytes :=
  if contents.length + fresh.length ≤ vectorLimit then some (contents ++ fresh) else none

/-- The contents with what is new in a chunk, `some none` when the chunk starts past their end,
and `none` at a fault. -/
def incorporateWords (contents : Bytes) (chunk : Chunk) : Option (Option Bytes) := do
  let length := UInt64.ofNat contents.length
  let size := UInt64.ofNat chunk.data.length
  if length < chunk.offset then return none
  let extent ← addWords? chunk.offset size
  if extent ≤ length then return some contents
  let fresh ← subtractWords? extent length
  let start ← subtractWords? size fresh
  let behind ← sliceFrom? chunk.data start
  return some (← extend? contents behind)

def retryWords (contents : Bytes) : List Chunk → Option (Bytes × List Chunk × List Nat)
  | [] => some (contents, [], [])
  | chunk :: rest => do
    match ← incorporateWords contents chunk with
    | some longer =>
      let (last, kept, lengths) ← retryWords longer rest
      return (last, kept, longer.length :: lengths)
    | none =>
      let (last, kept, lengths) ← retryWords contents rest
      return (last, chunk :: kept, lengths)

def settleWords (contents : Bytes) (chunks : List Chunk) :
    Option (Bytes × List Chunk × List Nat) :=
  match retryWords contents chunks with
  | none => none
  | some pass =>
    if _shorter : pass.2.1.length < chunks.length then
      (settleWords pass.1 pass.2.1).map fun behind =>
        (behind.1, behind.2.1, pass.2.2 ++ behind.2.2)
    else some pass
termination_by chunks.length

def addChunkWords (recording : Recording) (chunk : Chunk) : Option (ChunkOutcome × Recording) := do
  match ← incorporateWords recording.contents chunk with
  | none => return (.deferred, { recording with deferred := recording.deferred ++ [chunk] })
  | some longer =>
    let (contents, deferred, _) ← settleWords longer recording.deferred
    return (.applied contents.length, { recording with contents, deferred })

theorem addWords?_of_lt {first second : UInt64}
    (fits : first.toNat + second.toNat < UInt64.size) :
    addWords? first second = some (first + second) := by
  rw [addWords?, if_pos fits]

theorem subtractWords?_of_le {first second : UInt64} (fits : second ≤ first) :
    subtractWords? first second = some (first - second) := by
  rw [subtractWords?, if_pos fits]

theorem sliceFrom?_of_le {data : Bytes} {start : UInt64} (fits : start.toNat ≤ data.length) :
    sliceFrom? data start = some (data.drop start.toNat) := by
  rw [sliceFrom?, if_pos fits]

theorem extend?_of_le {contents fresh : Bytes}
    (fits : (contents ++ fresh).length ≤ vectorLimit) :
    extend? contents fresh = some (contents ++ fresh) := by
  rw [List.length_append] at fits
  rw [extend?, if_pos fits]

theorem toNat_length {bytes : Bytes} (short : bytes.length ≤ vectorLimit) :
    (UInt64.ofNat bytes.length).toNat = bytes.length := by
  have fits := two_vectors_fit
  exact UInt64.toNat_ofNat_of_lt' (by omega)

section

variable {contents : Bytes} {chunk : Chunk}

theorem offset_lt_iff (short : contents.length ≤ vectorLimit) :
    UInt64.ofNat contents.length < chunk.offset ↔ contents.length < chunk.offset.toNat := by
  rw [UInt64.lt_iff_toNat_lt, toNat_length short]

/-- Two vectors within the limit are too short for the end of a chunk to wrap. -/
theorem extent_fits (short : contents.length ≤ vectorLimit)
    (small : chunk.data.length ≤ vectorLimit) (reached : chunk.offset.toNat ≤ contents.length) :
    chunk.offset.toNat + (UInt64.ofNat chunk.data.length).toNat < UInt64.size := by
  have fits := two_vectors_fit
  rw [toNat_length small]
  omega

theorem toNat_extent (short : contents.length ≤ vectorLimit)
    (small : chunk.data.length ≤ vectorLimit) (reached : chunk.offset.toNat ≤ contents.length) :
    (chunk.offset + UInt64.ofNat chunk.data.length).toNat = chunk.stop := by
  have fits := extent_fits short small reached
  rw [UInt64.toNat_add, Nat.mod_eq_of_lt fits, toNat_length small, Chunk.stop]

theorem extent_le_iff (short : contents.length ≤ vectorLimit)
    (small : chunk.data.length ≤ vectorLimit) (reached : chunk.offset.toNat ≤ contents.length) :
    chunk.offset + UInt64.ofNat chunk.data.length ≤ UInt64.ofNat contents.length ↔
      chunk.stop ≤ contents.length := by
  rw [UInt64.le_iff_toNat_le, toNat_extent short small reached, toNat_length short]

theorem incorporateWords_apart (short : contents.length ≤ vectorLimit)
    (apart : contents.length < chunk.offset.toNat) :
    incorporateWords contents chunk = some none := by
  have far : UInt64.ofNat contents.length < chunk.offset := (offset_lt_iff short).mpr apart
  simp [incorporateWords, far]

/-- A chunk that ends within the contents leaves them as they are. -/
theorem incorporateWords_inside (short : contents.length ≤ vectorLimit)
    (small : chunk.data.length ≤ vectorLimit) (reached : chunk.offset.toNat ≤ contents.length)
    (inside : chunk.stop ≤ contents.length) :
    incorporateWords contents chunk = some (some contents) := by
  have near : ¬ UInt64.ofNat contents.length < chunk.offset := by
    rw [offset_lt_iff short]
    omega
  have added := addWords?_of_lt (extent_fits short small reached)
  have old : chunk.offset + UInt64.ofNat chunk.data.length ≤ UInt64.ofNat contents.length :=
    (extent_le_iff short small reached).mpr inside
  simp [incorporateWords, near, added, old]

/-- Of a chunk that ends past the contents the bytes past them are sliced off and put behind. -/
theorem incorporateWords_across (short : contents.length ≤ vectorLimit)
    (small : chunk.data.length ≤ vectorLimit) (reached : chunk.offset.toNat ≤ contents.length)
    (across : contents.length < chunk.stop)
    (room : (contents ++ chunk.data.drop (contents.length - chunk.offset.toNat)).length ≤
      vectorLimit) :
    incorporateWords contents chunk =
      some (some (contents ++ chunk.data.drop (contents.length - chunk.offset.toNat))) := by
  have near : ¬ UInt64.ofNat contents.length < chunk.offset := by
    rw [offset_lt_iff short]
    omega
  have added := addWords?_of_lt (extent_fits short small reached)
  have new : ¬ chunk.offset + UInt64.ofNat chunk.data.length ≤ UInt64.ofNat contents.length := by
    rw [extent_le_iff short small reached]
    omega
  have ordered : UInt64.ofNat contents.length ≤ chunk.offset + UInt64.ofNat chunk.data.length := by
    rw [UInt64.le_iff_toNat_le, toNat_extent short small reached, toNat_length short]
    omega
  have fresh : (chunk.offset + UInt64.ofNat chunk.data.length -
      UInt64.ofNat contents.length).toNat = chunk.stop - contents.length := by
    rw [UInt64.toNat_sub_of_le _ _ ordered, toNat_extent short small reached, toNat_length short]
  have enough : chunk.offset + UInt64.ofNat chunk.data.length - UInt64.ofNat contents.length ≤
      UInt64.ofNat chunk.data.length := by
    rw [UInt64.le_iff_toNat_le, fresh, toNat_length small]
    unfold Chunk.stop
    omega
  have start : (UInt64.ofNat chunk.data.length - (chunk.offset +
      UInt64.ofNat chunk.data.length - UInt64.ofNat contents.length)).toNat =
        contents.length - chunk.offset.toNat := by
    rw [UInt64.toNat_sub_of_le _ _ enough, fresh, toNat_length small]
    unfold Chunk.stop at across ⊢
    omega
  have sliced : sliceFrom? chunk.data (UInt64.ofNat chunk.data.length - (chunk.offset +
      UInt64.ofNat chunk.data.length - UInt64.ofNat contents.length)) =
        some (chunk.data.drop (contents.length - chunk.offset.toNat)) := by
    rw [← start]
    apply sliceFrom?_of_le
    rw [start]
    unfold Chunk.stop at across
    omega
  simp [incorporateWords, near, added, new, subtractWords?_of_le ordered,
    subtractWords?_of_le enough, sliced, extend?_of_le room]

/-- Within the limits the words of one chunk count what the numbers count. -/
theorem incorporateWords_eq (short : contents.length ≤ vectorLimit)
    (small : chunk.data.length ≤ vectorLimit)
    (bounded : ∀ longer, incorporate contents chunk = some longer →
      longer.length ≤ vectorLimit) :
    incorporateWords contents chunk = some (incorporate contents chunk) := by
  by_cases apart : contents.length < chunk.offset.toNat
  · rw [(incorporate_eq_none contents chunk).mpr apart, incorporateWords_apart short apart]
  · have reached : chunk.offset.toNat ≤ contents.length := Nat.le_of_not_lt apart
    have merged := incorporate_of_le reached
    by_cases inside : chunk.stop ≤ contents.length
    · have nothing : chunk.data.drop (contents.length - chunk.offset.toNat) = [] := by
        apply List.drop_of_length_le
        unfold Chunk.stop at inside
        omega
      rw [merged, incorporateWords_inside short small reached inside, nothing, List.append_nil]
    · have across : contents.length < chunk.stop := by omega
      have room := bounded _ merged
      rw [merged, incorporateWords_across short small reached across room]

end

theorem retryWords_eq (contents : Bytes) (chunks : List Chunk)
    (small : ∀ chunk ∈ chunks, chunk.data.length ≤ vectorLimit)
    (bounded : (retry contents chunks).1.length ≤ vectorLimit) :
    retryWords contents chunks = some (retry contents chunks) := by
  have short : contents.length ≤ vectorLimit :=
    (retry_placed contents chunks).grows.length_le.trans bounded
  induction chunks generalizing contents with
  | nil => rfl
  | cons chunk rest ih =>
    have head := small chunk List.mem_cons_self
    have tail : ∀ other ∈ rest, other.data.length ≤ vectorLimit :=
      fun other member => small other (List.mem_cons_of_mem chunk member)
    cases merged : incorporate contents chunk with
    | some longer =>
      rw [retry_of_some rest merged] at bounded ⊢
      have grown := (retry_placed longer rest).grows.length_le.trans bounded
      have same := incorporateWords_eq short head (by
        intro other also
        rw [merged] at also
        cases also
        exact grown)
      simp [retryWords, same, merged, ih longer tail bounded grown]
    | none =>
      rw [retry_of_none rest merged] at bounded ⊢
      have same := incorporateWords_eq short head (by simp [merged])
      simp [retryWords, same, merged, ih contents tail bounded short]

theorem settleWords_eq (contents : Bytes) (chunks : List Chunk)
    (small : ∀ chunk ∈ chunks, chunk.data.length ≤ vectorLimit)
    (bounded : (settle contents chunks).1.length ≤ vectorLimit) :
    settleWords contents chunks = some (settle contents chunks) := by
  induction contents, chunks using settle.induct with
  | case1 contents chunks pass shorter ih =>
    rw [settle_of_shorter shorter] at bounded ⊢
    have placed := settle_placed (retry contents chunks).1 (retry contents chunks).2.1
    have fewer := (retry_placed contents chunks).fewer.subset
    have first := retryWords_eq contents chunks small (placed.grows.length_le.trans bounded)
    have rest := ih (fun chunk member => small chunk (fewer member)) bounded
    rw [settleWords, first]
    simp only [show (retry contents chunks).2.1.length < chunks.length from shorter, ↓reduceDIte]
    rw [show settleWords (retry contents chunks).1 (retry contents chunks).2.1 = _ from rest]
    rfl
  | case2 contents chunks pass idle =>
    rw [settle_of_idle idle] at bounded ⊢
    rw [settleWords, retryWords_eq contents chunks small bounded]
    simp only [show ¬ (retry contents chunks).2.1.length < chunks.length from idle, ↓reduceDIte]

/-- No arithmetic of an arriving chunk faults while the vectors before and after keep to the
limit. -/
theorem addChunkWords_eq (recording : Recording) (chunk : Chunk)
    (small : chunk.data.length ≤ vectorLimit)
    (waiting : ∀ other ∈ recording.deferred, other.data.length ≤ vectorLimit)
    (short : recording.contents.length ≤ vectorLimit)
    (bounded : (recording.addChunk chunk).2.contents.length ≤ vectorLimit) :
    recording.addChunkWords chunk = some (recording.addChunk chunk) := by
  cases merged : incorporate recording.contents chunk with
  | none =>
    have same := incorporateWords_eq short small (by simp [merged])
    simp [addChunkWords, addChunk, same, merged]
  | some longer =>
    simp only [addChunk, merged] at bounded
    have grown := (settle_placed longer recording.deferred).grows.length_le.trans bounded
    have same := incorporateWords_eq short small (by
      intro other also
      rw [merged] at also
      cases also
      exact grown)
    simp [addChunkWords, addChunk, same, merged, settleWords_eq longer _ waiting bounded]

end Recording

end Playback
