import Playback.Proofs.Keys.Trail

set_option autoImplicit false

namespace Playback

namespace Tree

/-- Lists in which nothing behind an element passes a test are split there in one way. -/
theorem front_eq_of_last {Element : Type} {test : Element → Bool} {last : Element}
    (passes : test last = true) {front other behind rest : List Element}
    (same : front ++ last :: behind = other ++ last :: rest)
    (none : behind.filter test = []) (nothing : rest.filter test = []) : front = other := by
  rw [List.filter_eq_nil_iff] at none nothing
  rcases List.append_eq_append_iff.mp same with ⟨middle, rfl, split⟩ | ⟨middle, rfl, split⟩
  · rcases middle with _ | ⟨first, middle⟩
    · exact (List.append_nil front).symm
    · rw [List.cons_append, List.cons.injEq] at split
      refine absurd passes (none last ?_)
      rw [split.2]
      exact List.mem_append_right _ List.mem_cons_self
  · rcases middle with _ | ⟨first, middle⟩
    · exact List.append_nil other
    · rw [List.cons_append, List.cons.injEq] at split
      refine absurd passes (nothing last ?_)
      rw [split.2]
      exact List.mem_append_right _ List.mem_cons_self

/-- An element among at most one. -/
theorem alone_of_length_le {Element : Type} {front behind : List Element} {one : Element}
    (few : (front ++ one :: behind).length ≤ 1) : front = [] ∧ behind = [] := by
  rw [List.length_append, List.length_cons] at few
  exact ⟨List.eq_nil_of_length_eq_zero (by omega), List.eq_nil_of_length_eq_zero (by omega)⟩

/-- The request that the root handles is the one that the thread has sent. -/
theorem Trail.serves {fork : UInt32} {thread : Nat} {key : String} {acts : List Act} {act : Act}
    (trail : Trail fork thread key none acts) {up : List Message}
    (inOrder : sent fork acts = handled fork acts ++ .sharedKeyRequest fork key :: up)
    (others : up.filter isKeyRequest = []) (serves : act.Serves fork key) :
    Trail fork thread key (some (latest key acts)) (acts ++ [act]) := by
  cases trail with
  | @asked early late ask asks quiet =>
    have sends : ask.sends? fork = some (.sharedKeyRequest fork key) := by
      rw [Act.sends?, if_pos asks.home, asks.action]
    have upTo : sent fork (early ++ ask :: late) =
        sent fork early ++ .sharedKeyRequest fork key :: sent fork late := by
      rw [sent, List.filterMap_append, List.filterMap_cons, sends]
      rfl
    have last : isKeyRequest (.sharedKeyRequest fork key) = true := rfl
    have caughtUp := front_eq_of_last last (upTo.symm.trans inOrder) (sent_of_quiet quiet) others
    rw [List.append_assoc, List.cons_append]
    exact .served ⟨asks, quiet, serves, caughtUp.symm, rfl⟩ (List.forall_mem_nil _)

/-- How far the value has come that some thread of a fork asks for. -/
inductive Errand where
  | idle
  | asked (thread : Nat) (key : String)
  | served (thread : Nat) (key value : String)
  | answered (thread : Nat) (key value : String)

/-- What is on its way for a fork: the message that the root handles, the messages that wait for
that, the responses that come back, the slot, and the threads that await a value. -/
structure Ways where
  inHand : List Message
  up : List Message
  back : List Message
  slot : Slot String
  awaits : Nat → String → Prop

/-- The same is on its way. -/
structure Ways.Alike (ways next : Ways) : Prop where
  inHand : next.inHand = ways.inHand
  up : next.up = ways.up
  back : next.back.Perm ways.back
  slot : next.slot = ways.slot
  awaits : ∀ thread key, next.awaits thread key ↔ ways.awaits thread key

namespace Errand

/-- The request that is on its way. -/
def request? (fork : UInt32) : Errand → Option Message
  | asked _ key => some (.sharedKeyRequest fork key)
  | _ => none

/-- The response that is on its way. -/
def response? (fork : UInt32) : Errand → Option Message
  | served _ _ value => some (.sharedKeyResponse fork value)
  | _ => none

/-- The thread that awaits the value, and the key. -/
def asker? : Errand → Option (Nat × String)
  | idle => none
  | asked thread key | served thread key _ | answered thread key _ => some (thread, key)

def slot : Errand → Slot String
  | idle => {}
  | asked _ _ | served _ _ _ => { waiting := true }
  | answered _ _ value => { waiting := true, response := some value }

def Told (fork : UInt32) (acts : List Act) : Errand → Prop
  | idle => True
  | asked thread key => Trail fork thread key none acts
  | served thread key value | answered thread key value => Trail fork thread key (some value) acts

theorem Told.snoc {fork : UInt32} {acts : List Act} {act : Act} {errand : Errand}
    (told : errand.Told fork acts) (idle : act.deals fork = false) :
    errand.Told fork (acts ++ [act]) := by
  cases errand with
  | idle => trivial
  | asked thread key => exact Trail.snoc told idle
  | served thread key value => exact Trail.snoc told idle
  | answered thread key value => exact Trail.snoc told idle

/-- What is on its way fits the errand of the moment and what was done so far. -/
structure Fits (fork : UInt32) (acts : List Act) (ways : Ways) (errand : Errand) : Prop where
  inOrder : sent fork acts = handled fork acts ++ (ways.inHand ++ ways.up)
  /-- The root handles one message of a fork after the other. -/
  single : ways.inHand.length ≤ 1
  requests : (ways.inHand ++ ways.up).filter isKeyRequest = (errand.request? fork).toList
  back : ways.back = (errand.response? fork).toList
  slot : ways.slot = errand.slot
  awaits : ∀ thread key, ways.awaits thread key ↔ errand.asker? = some (thread, key)
  told : errand.Told fork acts

namespace Fits

variable {fork : UInt32} {acts : List Act} {act : Act} {ways next : Ways} {errand : Errand}

theorem alike (fits : errand.Fits fork acts ways) (alike : ways.Alike next) :
    errand.Fits fork acts next where
  inOrder := by
    rw [alike.inHand, alike.up]
    exact fits.inOrder
  single := by
    rw [alike.inHand]
    exact fits.single
  requests := by
    rw [alike.inHand, alike.up]
    exact fits.requests
  back := by
    have perm := alike.back
    rw [fits.back] at perm
    cases value : errand.response? fork with
    | none =>
      rw [value] at perm
      exact perm.eq_nil
    | some message =>
      rw [value] at perm
      exact perm.eq_singleton
  slot := alike.slot.trans fits.slot
  awaits := fun thread key => (alike.awaits thread key).trans (fits.awaits thread key)
  told := fits.told

/-- An action that has nothing to do with the fork. -/
theorem aside (fits : errand.Fits fork acts ways) (silent : act.sends? fork = none)
    (other : act.handles? fork = none) (idle : act.deals fork = false) :
    errand.Fits fork (acts ++ [act]) ways :=
  { fits with
    inOrder := by
      rw [sent_snoc, handled_snoc, silent, other, Option.toList_none, List.append_nil,
        List.append_nil]
      exact fits.inOrder
    told := fits.told.snoc idle }

/-- The root begins with the next message of the fork. -/
theorem attends (fits : errand.Fits fork acts ways) (none : ways.inHand = []) {message : Message}
    {rest : List Message} (first : ways.up = message :: rest) :
    errand.Fits fork acts { ways with inHand := [message], up := rest } :=
  { fits with
    inOrder := by
      rw [fits.inOrder, none, first]
      rfl
    single := Nat.le_refl 1
    requests := by
      rw [← fits.requests, none, first]
      rfl }

/-- The fork sends a setting. -/
theorem sets (fits : errand.Fits fork acts ways) {message : Message}
    (sends : act.sends? fork = some message) (idle : act.deals fork = false)
    (setting : isKeyRequest message = false) :
    errand.Fits fork (acts ++ [act]) { ways with up := ways.up ++ [message] } :=
  { fits with
    inOrder := by
      rw [sent_snoc, handled_snoc, sends, handles?_of_sends sends, fits.inOrder]
      simp
    requests := by
      rw [← List.append_assoc, List.filter_append, fits.requests]
      simp [setting]
    told := fits.told.snoc idle }

/-- The root handles a setting of the fork. -/
theorem handles (fits : errand.Fits fork acts ways) {message : Message}
    (silent : act.sends? fork = none) (one : act.handles? fork = some message)
    (idle : act.deals fork = false) (setting : isKeyRequest message = false)
    {front behind : List Message} (held : ways.inHand = front ++ message :: behind) :
    errand.Fits fork (acts ++ [act]) { ways with inHand := front ++ behind } := by
  obtain ⟨rfl, rfl⟩ := alone_of_length_le (held ▸ fits.single)
  exact { fits with
    inOrder := by
      rw [sent_snoc, handled_snoc, silent, one, fits.inOrder, held]
      simp
    single := Nat.zero_le 1
    requests := by
      rw [← fits.requests, held]
      simp [setting]
    told := fits.told.snoc idle }

theorem eq_idle (fits : errand.Fits fork acts ways) (free : ways.slot.waiting = false) :
    errand = .idle := by
  rw [fits.slot] at free
  cases errand with
  | idle => rfl
  | asked thread key => cases free
  | served thread key value => cases free
  | answered thread key value => cases free

/-- A thread of the fork asks. -/
theorem asks (fits : errand.Fits fork acts ways) (free : ways.slot.waiting = false) {thread : Nat}
    {key : String} (asks : act.Asks fork thread key) :
    (Errand.asked thread key).Fits fork (acts ++ [act])
      { ways with
        up := ways.up ++ [.sharedKeyRequest fork key]
        slot := { waiting := true }
        awaits := fun one other => ways.awaits one other ∨ one = thread ∧ other = key } := by
  have none := fits.eq_idle free
  subst none
  have sends : act.sends? fork = some (.sharedKeyRequest fork key) := by
    rw [Act.sends?, if_pos asks.home, asks.action]
  constructor
  case inOrder =>
    rw [sent_snoc, handled_snoc, sends, handles?_of_sends sends, fits.inOrder]
    simp
  case single => exact fits.single
  case requests =>
    rw [← List.append_assoc, List.filter_append, fits.requests]
    rfl
  case back => exact fits.back
  case slot => rfl
  case awaits =>
    intro one other
    dsimp only
    rw [fits.awaits]
    simp [asker?, eq_comm]
  case told => exact .asked asks (List.forall_mem_nil _)

/-- Who has sent the request that the root has in hand awaits the value, and no other request is on
its way. -/
theorem eq_asked (fits : errand.Fits fork acts ways) {key : String} {behind : List Message}
    (held : ways.inHand = .sharedKeyRequest fork key :: behind) :
    ∃ thread, errand = .asked thread key ∧ (behind ++ ways.up).filter isKeyRequest = [] := by
  have requests := fits.requests
  rw [held] at requests
  cases errand with
  | asked thread other =>
    obtain ⟨same, others⟩ := List.cons_eq_cons.mp requests
    rw [Message.sharedKeyRequest_inj same]
    exact ⟨thread, rfl, others⟩
  | idle => cases requests
  | served thread other value => cases requests
  | answered thread other value => cases requests

/-- The root handles the request of the fork. -/
theorem serves (fits : errand.Fits fork acts ways) {key : String} (apart : fork ≠ rootFork)
    (serves : act.Serves fork key) {front behind : List Message}
    (held : ways.inHand = front ++ .sharedKeyRequest fork key :: behind) :
    ∃ thread, (Errand.served thread key (latest key acts)).Fits fork (acts ++ [act])
      { ways with
        inHand := front ++ behind
        back := .sharedKeyResponse fork (latest key acts) :: ways.back } := by
  obtain ⟨rfl, rfl⟩ := alone_of_length_le (held ▸ fits.single)
  have silent : act.sends? fork = none := by
    rw [Act.sends?, if_neg]
    rw [serves.root]
    exact Ne.symm apart
  have one : act.handles? fork = some (.sharedKeyRequest fork key) := by
    rw [Act.handles?, serves.action]
    exact if_pos ⟨serves.root, rfl⟩
  obtain ⟨thread, rfl, others⟩ := fits.eq_asked held
  have inOrder := fits.inOrder
  rw [held] at inOrder
  refine ⟨thread, ?_⟩
  constructor
  case inOrder =>
    rw [sent_snoc, handled_snoc, silent, one, inOrder]
    simp
  case single => exact Nat.zero_le 1
  case requests => exact others
  case back =>
    rw [fits.back]
    rfl
  case slot => exact fits.slot
  case awaits => exact fits.awaits
  case told => exact Trail.serves fits.told inOrder others serves

/-- The response comes to the slot. -/
theorem delivers (fits : errand.Fits fork acts ways) {value : String} {rest : List Message}
    (held : ways.back.Perm (.sharedKeyResponse fork value :: rest)) :
    ∃ errand : Errand, errand.Fits fork acts
      { ways with back := rest, slot := (ways.slot.deliver value).2 } := by
  rw [fits.back] at held
  have served : ∃ thread key, errand = .served thread key value ∧ rest = [] := by
    cases errand with
    | served thread key old =>
      obtain ⟨same, nothing⟩ := List.cons_eq_cons.mp held.symm.eq_singleton
      rw [Message.sharedKeyResponse_inj same]
      exact ⟨thread, key, rfl, nothing⟩
    | idle => cases held.symm.eq_nil
    | asked thread key => cases held.symm.eq_nil
    | answered thread key value => cases held.symm.eq_nil
  obtain ⟨thread, key, rfl, rfl⟩ := served
  refine ⟨.answered thread key value, ?_⟩
  exact { fits with
    requests := fits.requests
    back := rfl
    slot := by
      rw [fits.slot]
      rfl
    awaits := fits.awaits
    told := fits.told }

/-- A thread of the fork takes the value, which is the one that it has asked for. -/
theorem takes (fits : errand.Fits fork acts ways) {thread : Nat} {key value : String}
    (awaits : ways.awaits thread key) (there : ways.slot.response = some value)
    (takes : act.Takes fork thread) :
    Got fork thread key value (acts ++ [act]) ∧
      Errand.idle.Fits fork (acts ++ [act])
        { ways with
          slot := {}
          awaits := fun one other => ways.awaits one other ∧ one ≠ thread } := by
  have asker := (fits.awaits thread key).mp awaits
  rw [fits.slot] at there
  have answered : errand = .answered thread key value := by
    cases errand with
    | answered one other old =>
      cases asker
      cases there
      rfl
    | idle => cases there
    | asked one other => cases there
    | served one other old => cases there
  subst answered
  have silent : act.sends? fork = none := by rw [Act.sends?, if_pos takes.home, takes.action]
  have other : act.handles? fork = none := by rw [Act.handles?, takes.action]
  refine ⟨fits.told.got takes, ?_⟩
  exact { fits with
    inOrder := by
      rw [sent_snoc, handled_snoc, silent, other, Option.toList_none, List.append_nil,
        List.append_nil]
      exact fits.inOrder
    requests := fits.requests
    back := fits.back
    slot := rfl
    awaits := by
      intro one other
      dsimp only
      rw [fits.awaits]
      constructor
      · rintro ⟨same, apart⟩
        cases same
        exact absurd rfl apart
      · rintro ⟨⟩
    told := trivial }

end Fits

end Errand

end Tree

end Playback
