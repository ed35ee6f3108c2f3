import Playback.Proofs.Channel.Queueing
import Playback.Proofs.ForkTable.Lookup
import Playback.SharedKeys

set_option autoImplicit false

namespace Playback

theorem SharedKeys.get_set (keys : SharedKeys) (key value other : String) :
    (keys.set key value).get other = if other = key then value else keys.get other := by
  by_cases same : other = key
  · subst same
    simp [set, get]
  · have apart : (other == key) = false := beq_false_of_ne same
    simp only [set, get, List.lookup_cons, apart, lookup_filter_ne, if_neg same]

namespace Message

/-- A frame that is sent brings over the message. -/
theorem Framed.decodes {message : Message} (framed : message.Framed) (readable : message.Readable) :
    ∃ frame, message.encode = .ok frame ∧ decode frame = .ok message := by
  have fits := message.framed_iff.mp framed
  refine ⟨_, framed.encodes, ?_⟩
  rw [decode_frame (size_frameHeader fits)]
  exact (decodePayload_frame fits).1 readable

section
variable {fork : UInt32} {key value : String}

theorem Framed.length_key (framed : (sharedKeySet fork key value).Framed) :
    (UInt64.ofNat (Utf8.encode key).length).toNat = (Utf8.encode key).length := by
  apply UInt64.toNat_ofNat_of_lt'
  simp only [Framed, size, sharedKeySet, Payload.size, List.length_append, maxFrameSize,
    UInt32.size, headerSize] at framed
  rw [UInt64.size]
  omega

theorem Framed.splits (framed : (sharedKeySet fork key value).Framed) :
    sharedKeyEntry? (sharedKeySet fork key value) = some (Utf8.encode key, Utf8.encode value) := by
  have inside : (Utf8.encode key).length ≤ (Utf8.encode key ++ Utf8.encode value).length := by
    rw [List.length_append]
    exact Nat.le_add_right _ _
  unfold sharedKeyEntry?
  simp only [sharedKeySet, framed.length_key, if_pos inside, List.splitAt_eq, List.take_left,
    List.drop_left]

theorem Framed.readable_sharedKeySet (framed : (sharedKeySet fork key value).Framed) :
    (sharedKeySet fork key value).Readable := by
  refine ⟨nofun, ?_⟩
  intro tag data _ same
  cases same
  rw [framed.length_key, List.length_append]
  exact Nat.le_add_right _ _

theorem readable_sharedKeyRequest (fork : UInt32) (key : String) :
    (sharedKeyRequest fork key).Readable := ⟨nofun, nofun⟩

theorem readable_sharedKeyResponse (fork : UInt32) (value : String) :
    (sharedKeyResponse fork value).Readable := ⟨nofun, nofun⟩

theorem sharedKeyRequest_inj {other : String}
    (same : sharedKeyRequest fork key = sharedKeyRequest fork other) : key = other := by
  have data := (Payload.binary.inj (congrArg payload same)).2
  rw [← Utf8.decodeLossy_encode key, data, Utf8.decodeLossy_encode]

theorem sharedKeyResponse_inj {other : String}
    (same : sharedKeyResponse fork value = sharedKeyResponse fork other) : value = other := by
  have data := (Payload.binary.inj (congrArg payload same)).2
  rw [← Utf8.decodeLossy_encode value, data, Utf8.decodeLossy_encode]

/-- A value that could be sent to the root can be sent to any fork. -/
theorem Framed.sharedKeyResponse (framed : (sharedKeySet fork key value).Framed) (other : UInt32) :
    (sharedKeyResponse other value).Framed := by
  simp only [Framed, size, sharedKeySet, Message.sharedKeyResponse, Payload.size,
    List.length_append] at framed ⊢
  omega

theorem framed_empty_response (fork : UInt32) : (Message.sharedKeyResponse fork "").Framed := by
  simp [Framed, size, Message.sharedKeyResponse, Payload.size, Utf8.encode, headerSize,
    maxFrameSize, UInt32.size]

end

end Message

end Playback
