import Playback.Proofs.Keys.Actions
import Mathlib.Data.List.Induction

set_option autoImplicit false

namespace Playback

namespace Tree

/-! What actions do to the keys -/

/-- The key that is set at the root with an action, and its value. -/
def Act.setting? (act : Act) : Option (String × String) :=
  if act.fork = rootFork then
    match act.action with
    | .setKey key value => some (key, value)
    | .dispatchFork message =>
      message.sharedKeyEntry?.map fun entry =>
        (Utf8.decodeLossy entry.1, Utf8.decodeLossy entry.2)
    | _ => none
  else none

/-- The value that a key has at the root behind one more action. -/
def Act.update (key value : String) (act : Act) : String :=
  match act.setting? with
  | some (set, new) => if set = key then new else value
  | none => value

/-- The value of the last setting of a key that took effect at the root, empty if there was none. -/
def latest (key : String) (acts : List Act) : String := acts.foldl (Act.update key) ""

theorem latest_snoc (key : String) (acts : List Act) (act : Act) :
    latest key (acts ++ [act]) = act.update key (latest key acts) := by
  rw [latest, List.foldl_append]
  rfl

theorem update_of_none {act : Act} (nothing : act.setting? = none) (key value : String) :
    act.update key value = value := by
  rw [Act.update, nothing]

theorem update_of_some {act : Act} {set new : String} (sets : act.setting? = some (set, new))
    (key value : String) : act.update key value = if set = key then new else value := by
  rw [Act.update, sets]

/-- Behind a setting of a key the value is that one or a later one. -/
theorem latest_behind {key value : String} {act : Act} (sets : act.setting? = some (key, value))
    (before behind : List Act) :
    latest key (before ++ act :: behind) = value ∨
      ∃ later ∈ behind, later.setting? = some (key, latest key (before ++ act :: behind)) := by
  induction behind using List.reverseRecOn with
  | nil =>
    apply Or.inl
    rw [latest_snoc, update_of_some sets, if_pos rfl]
  | append_singleton behind last ih =>
    have whole : before ++ act :: (behind ++ [last]) = (before ++ act :: behind) ++ [last] := by
      simp
    have kept : (latest key (before ++ act :: behind) = value ∨
        ∃ later ∈ behind ++ [last],
          later.setting? = some (key, latest key (before ++ act :: behind))) :=
      ih.imp_right fun ⟨later, there, same⟩ => ⟨later, List.mem_append_left _ there, same⟩
    rw [whole, latest_snoc]
    cases setting : last.setting? with
    | none =>
      rw [update_of_none setting]
      exact kept
    | some entry =>
      obtain ⟨set, new⟩ := entry
      rw [update_of_some setting]
      by_cases own : set = key
      · subst own
        rw [if_pos rfl]
        exact Or.inr ⟨last, List.mem_append_right _ (List.mem_singleton_self _), setting⟩
      · rw [if_neg own]
        exact kept

/-! What a fork sends and the root handles -/

/-- The message that a fork sends to the root with an action. -/
def Act.sends? (fork : UInt32) (act : Act) : Option Message :=
  if act.fork = fork then
    match act.action with
    | .setKey key value => some (.sharedKeySet fork key value)
    | .claimKey request => some request
    | _ => none
  else none

/-- The message of a fork that the root handles with an action. -/
def Act.handles? (fork : UInt32) (act : Act) : Option Message :=
  match act.action with
  | .dispatchFork message =>
    if act.fork = rootFork ∧ message.fork = fork then some message else none
  | _ => none

def sent (fork : UInt32) (acts : List Act) : List Message := acts.filterMap (Act.sends? fork)

def handled (fork : UInt32) (acts : List Act) : List Message := acts.filterMap (Act.handles? fork)

theorem sent_snoc (fork : UInt32) (acts : List Act) (act : Act) :
    sent fork (acts ++ [act]) = sent fork acts ++ (act.sends? fork).toList :=
  filterMap_snoc (Act.sends? fork) acts act

theorem handled_snoc (fork : UInt32) (acts : List Act) (act : Act) :
    handled fork (acts ++ [act]) = handled fork acts ++ (act.handles? fork).toList :=
  filterMap_snoc (Act.handles? fork) acts act

def isKeyRequest (message : Message) : Bool := message.kind = .sharedKeyRequest

/-- An action that has to do with some value that a fork asks for. -/
def Act.deals (fork : UInt32) (act : Act) : Bool :=
  match act.action with
  | .claimKey _ | .takeKey => act.fork = fork
  | .dispatchFork message => message.fork = fork && isKeyRequest message
  | _ => false

/-- Nothing was asked, handled or taken for any value that a fork asks for. -/
def Quiet (fork : UInt32) (acts : List Act) : Prop := ∀ act ∈ acts, act.deals fork = false

theorem Quiet.snoc {fork : UInt32} {acts : List Act} {act : Act} (quiet : Quiet fork acts)
    (idle : act.deals fork = false) : Quiet fork (acts ++ [act]) := by
  intro one there
  rcases List.mem_append.mp there with old | new
  · exact quiet one old
  · rw [List.mem_singleton.mp new]
    exact idle

/-- In a quiet time a fork sends no request. -/
theorem sent_of_quiet {fork : UInt32} {acts : List Act} (quiet : Quiet fork acts) :
    (sent fork acts).filter isKeyRequest = [] := by
  rw [List.filter_eq_nil_iff]
  intro message there
  obtain ⟨act, member, sends⟩ := List.mem_filterMap.mp there
  have idle := quiet act member
  unfold Act.sends? at sends
  unfold Act.deals at idle
  split at sends
  case isFalse _ => cases sends
  case isTrue own =>
    split at sends
    · cases sends
      exact Bool.false_ne_true
    · simp_all
    · cases sends

/-! The way of one value -/

/-- A thread of a fork sends a request for a key. -/
structure Act.Asks (fork : UInt32) (thread : Nat) (key : String) (act : Act) : Prop where
  home : act.fork = fork
  own : act.thread = thread
  action : act.action = .claimKey (.sharedKeyRequest fork key)

/-- The root handles the request of a fork for a key. -/
structure Act.Serves (fork : UInt32) (key : String) (act : Act) : Prop where
  root : act.fork = rootFork
  action : act.action = .dispatchFork (.sharedKeyRequest fork key)

/-- A thread of a fork takes the value. -/
structure Act.Takes (fork : UInt32) (thread : Nat) (act : Act) : Prop where
  home : act.fork = fork
  own : act.thread = thread
  action : act.action = .takeKey

/-- A thread of a fork asks for a key, and the root handles that very request: all that the fork had
sent before was handled before, and nothing else was asked or handled in between. -/
structure Served (fork : UInt32) (thread : Nat) (key value : String) (front : List Act) (ask : Act)
    (middle : List Act) (serve : Act) : Prop where
  asks : ask.Asks fork thread key
  quiet : Quiet fork middle
  serves : serve.Serves fork key
  caughtUp : handled fork (front ++ ask :: middle) = sent fork front
  value : value = latest key (front ++ ask :: middle)

/-- The way of a value up to now. -/
inductive Trail (fork : UInt32) (thread : Nat) (key : String) :
    Option String → List Act → Prop where
  | asked {front behind : List Act} {ask : Act} (asks : ask.Asks fork thread key)
      (quiet : Quiet fork behind) : Trail fork thread key none (front ++ ask :: behind)
  | served {value : String} {front middle behind : List Act} {ask serve : Act}
      (served : Served fork thread key value front ask middle serve) (still : Quiet fork behind) :
      Trail fork thread key (some value) (front ++ ask :: (middle ++ serve :: behind))

theorem Trail.snoc {fork : UInt32} {thread : Nat} {key : String} {value : Option String}
    {acts : List Act} {act : Act} (trail : Trail fork thread key value acts)
    (idle : act.deals fork = false) : Trail fork thread key value (acts ++ [act]) := by
  cases trail with
  | asked asks quiet =>
    rw [List.append_assoc, List.cons_append]
    exact .asked asks (quiet.snoc idle)
  | served served still =>
    rw [List.append_assoc, List.cons_append, List.append_assoc, List.cons_append]
    exact .served served (still.snoc idle)

/-- A thread of a fork has got the value of a key. -/
inductive Got (fork : UInt32) (thread : Nat) (key value : String) : List Act → Prop where
  | got {front middle between behind : List Act} {ask serve take : Act}
      (served : Served fork thread key value front ask middle serve) (still : Quiet fork between)
      (takes : take.Takes fork thread) :
      Got fork thread key value (front ++ ask :: (middle ++ serve :: (between ++ take :: behind)))

theorem Got.append {fork : UInt32} {thread : Nat} {key value : String} {acts : List Act}
    (got : Got fork thread key value acts) (more : List Act) :
    Got fork thread key value (acts ++ more) := by
  cases got with
  | @got front middle between behind ask serve take served still takes =>
    have whole : Got fork thread key value
        (front ++ ask :: (middle ++ serve :: (between ++ take :: (behind ++ more)))) :=
      .got served still takes
    simpa only [List.append_assoc, List.cons_append] using whole

/-- The value is taken at the end of its way. -/
theorem Trail.got {fork : UInt32} {thread : Nat} {key value : String} {acts : List Act} {act : Act}
    (trail : Trail fork thread key (some value) acts) (takes : act.Takes fork thread) :
    Got fork thread key value (acts ++ [act]) := by
  cases trail with
  | served served still =>
    rw [List.append_assoc, List.cons_append, List.append_assoc, List.cons_append]
    exact .got served still takes

/-- A thread of the root has read the value of a key. -/
inductive ReadAtRoot (thread : Nat) (key : String) : String → List Act → Prop where
  | read {before behind : List Act} {read : Act} (root : read.fork = rootFork)
      (own : read.thread = thread) (reads : read.action = .getKey key) :
      ReadAtRoot thread key (latest key before) (before ++ read :: behind)

theorem ReadAtRoot.append {thread : Nat} {key value : String} {acts : List Act}
    (read : ReadAtRoot thread key value acts) (more : List Act) :
    ReadAtRoot thread key value (acts ++ more) := by
  cases read with
  | read root own reads =>
    rw [List.append_assoc, List.cons_append]
    exact .read root own reads

/-! What a fork sees of its own settings -/

/-- Nothing that the root has handled was not sent before. -/
def Causal (fork : UInt32) (acts : List Act) : Prop :=
  ∀ before, before <+: acts → handled fork before <+: sent fork before

theorem Causal.snoc {fork : UInt32} {acts : List Act} {act : Act} (causal : Causal fork acts)
    (now : handled fork (acts ++ [act]) <+: sent fork (acts ++ [act])) :
    Causal fork (acts ++ [act]) := by
  intro before part
  rcases List.prefix_concat_iff.mp part with whole | part
  · rw [whole]
    exact now
  · exact causal before part

theorem handles?_of_sends {fork : UInt32} {act : Act} {message : Message}
    (sends : act.sends? fork = some message) (other : UInt32) : act.handles? other = none := by
  unfold Act.sends? at sends
  unfold Act.handles?
  split at sends
  case isFalse _ => cases sends
  case isTrue _ =>
    split at sends
    case h_1 key value action => rw [action]
    case h_2 request action => rw [action]
    case h_3 => cases sends

/-- The message that was sent with one action was handled with another if both are in the same place
of their order. Then it was handled behind that. -/
theorem Causal.behind {fork : UInt32} {acts early before : List Act} {own effect : Act}
    (causal : Causal fork acts) {message : Message} (sends : own.sends? fork = some message)
    (handles : effect.handles? fork = some message) (same : handled fork before = sent fork early)
    (first : early ++ [own] <+: acts) (second : before ++ [effect] <+: acts) :
    early ++ [own] <+: before := by
  rcases Nat.lt_trichotomy before.length early.length with less | equal | more
  · -- The root would have handled more than the fork had sent.
    have part : before ++ [effect] <+: early := by
      refine List.prefix_of_prefix_length_le second ((List.prefix_append _ _).trans first) ?_
      rw [List.length_append]
      exact less
    have order := (causal _ second).length_le
    rw [handled_snoc, handles, same, Option.toList_some, List.length_append,
      List.length_singleton] at order
    have few : (sent fork (before ++ [effect])).length ≤ (sent fork early).length :=
      (part.filterMap (Act.sends? fork)).length_le
    omega
  · have part : before ++ [effect] <+: early ++ [own] := by
      refine List.prefix_of_prefix_length_le second first ?_
      rw [List.length_append, List.length_append, equal]
      exact Nat.le_refl _
    have whole := part.eq_of_length (by simp [equal])
    have last : effect = own := (List.append_inj' whole rfl).2 |> List.singleton_inj.mp
    rw [last, handles?_of_sends sends fork] at handles
    cases handles
  · refine List.prefix_of_prefix_length_le first ((List.prefix_append _ _).trans second) ?_
    rw [List.length_append]
    exact more

theorem setting?_of_handles {fork : UInt32} {act : Act} {message : Message}
    (handles : act.handles? fork = some message) :
    act.setting? = message.sharedKeyEntry?.map fun entry =>
      (Utf8.decodeLossy entry.1, Utf8.decodeLossy entry.2) := by
  unfold Act.handles? at handles
  split at handles
  case h_1 one action =>
    obtain ⟨⟨root, -⟩, same⟩ := Option.ite_none_right_eq_some.mp handles
    cases same
    rw [Act.setting?, if_pos root, action]
  case h_2 => cases handles

/-- A setting is carried to the root as it is. -/
theorem setting?_of_set {fork : UInt32} {act : Act} {key value : String}
    (handles : act.handles? fork = some (.sharedKeySet fork key value))
    (framed : (Message.sharedKeySet fork key value).Framed) :
    act.setting? = some (key, value) := by
  rw [setting?_of_handles handles, framed.splits, Option.map_some, Utf8.decodeLossy_encode,
    Utf8.decodeLossy_encode]

/-- What comes of a setting that a fork has sent: it has taken effect at the root behind that, and
the value that is read later is this one or that of a later setting. -/
inductive Seen (fork : UInt32) (key new value : String) (early : List Act) (own : Act) :
    List Act → Prop where
  | seen {before behind : List Act} {effect : Act} (later : early ++ [own] <+: before)
      (order : handled fork before = sent fork early)
      (handles : effect.handles? fork = some (.sharedKeySet fork key new))
      (sets : effect.setting? = some (key, new))
      (reads : value = new ∨ ∃ act ∈ behind, act.setting? = some (key, value)) :
      Seen fork key new value early own (before ++ effect :: behind)

/-- A fork sees what it has set itself, or what was set later. -/
theorem Served.sees {fork : UInt32} {thread : Nat} {key value : String}
    {front middle rest : List Act} {ask serve : Act}
    (served : Served fork thread key value front ask middle serve)
    (causal : Causal fork (front ++ ask :: (middle ++ serve :: rest))) {early late : List Act}
    {own : Act} (split : front = early ++ own :: late) (home : own.fork = fork) {new : String}
    (sets : own.action = .setKey key new) (framed : (Message.sharedKeySet fork key new).Framed) :
    Seen fork key new value early own (front ++ ask :: middle) := by
  have sends : own.sends? fork = some (.sharedKeySet fork key new) := by
    rw [Act.sends?, if_pos home, sets]
  have all : handled fork (front ++ ask :: middle) =
      sent fork early ++ .sharedKeySet fork key new :: sent fork late := by
    rw [served.caughtUp, split, sent, List.filterMap_append, List.filterMap_cons, sends]
    rfl
  obtain ⟨first, others, whole, same, next⟩ := List.filterMap_eq_append_iff.mp all
  obtain ⟨between, effect, behind, there, idle, handles, -⟩ := List.filterMap_eq_cons_iff.mp next
  have place : front ++ ask :: middle = (first ++ between) ++ effect :: behind := by
    rw [whole, there, List.append_assoc]
  have order : handled fork (first ++ between) = sent fork early := by
    rw [← same, handled, List.filterMap_append, List.filterMap_eq_nil_iff.mpr idle,
      List.append_nil]
  have effective := setting?_of_set handles framed
  have read := latest_behind effective (first ++ between) behind
  rw [← place, ← served.value] at read
  have part : front ++ ask :: middle <+: front ++ ask :: (middle ++ serve :: rest) := by
    refine (List.prefix_append_right_inj front).mpr ?_
    exact List.cons_prefix_cons.mpr ⟨rfl, List.prefix_append _ _⟩
  have ahead : early ++ [own] <+: front ++ ask :: (middle ++ serve :: rest) := by
    rw [split, List.append_cons early own late, List.append_assoc]
    exact List.prefix_append _ _
  have upTo : (first ++ between) ++ [effect] <+: front ++ ask :: middle := by
    rw [place, List.append_cons _ effect behind]
    exact List.prefix_append _ _
  rw [place]
  exact .seen (causal.behind sends handles order ahead (upTo.trans part)) order handles effective
    read

end Tree

end Playback
