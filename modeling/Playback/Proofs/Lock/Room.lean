import Playback.Lock.Threads
import Playback.Proofs.Crew.Course
import Playback.Proofs.Lock.Word
import Mathlib.Data.List.Nodup

set_option autoImplicit false

namespace Playback

namespace LockRoom

/-! What threads do -/

/-- The name of the guard that a thread is on its way to. -/
def Call.name? : Call → Option String
  | .read name _ | .write name _ | .drain name _ => some name
  | _ => none

/-- The thread has set the bit of the writer. -/
def Call.drains : Call → Bool
  | .drain _ _ => true
  | _ => false

/-- A word that a thread is about to exchange was free for entry when the thread saw it. No guard is
leaked, and nobody resets the word. -/
def Call.Regular : Call → Prop
  | .read _ (.exchange seen) | .write _ (.exchange seen) => seen.isWriteLocked = false
  | .forget _ | .reset => False
  | _ => True

/-- The names of the guards that are held or on their way. -/
def names (crew : Crew LockRoom Call) : List String :=
  crew.state.guards.map (·.name) ++ crew.waiting.filterMap (·.call.name?)

/-- What threads are called on to do, before their first access to the word. -/
def Call.opens : Call → Bool
  | .read _ .look | .write _ .look | .drop _ => true
  | _ => false

/-- Each guard has a name of its own. Anybody may drop a guard that is held. -/
def Begins (crew : Crew LockRoom Call) (call : Call) : Prop :=
  call.opens = true ∧ ∀ name ∈ call.name?, name ∉ names crew

instance (crew : Crew LockRoom Call) (call : Call) : Decidable (Begins crew call) :=
  inferInstanceAs (Decidable (_ ∧ _))

/-- Attempts that come to nothing: an exchange may fail though the word is as it was seen, and who
is about to sleep or asleep may find himself awake. -/
inductive Wavers : Call → Call → Prop where
  | readFails {name : String} {seen : LockWord} :
      Wavers (.read name (.exchange seen)) (.read name .look)
  | writeFails {name : String} {seen : LockWord} :
      Wavers (.write name (.exchange seen)) (.write name (.park seen))
  | readWakes {name : String} {stage : Stage} : Wavers (.read name stage) (.read name .look)
  | writeWakes {name : String} {stage : Stage} : Wavers (.write name stage) (.write name .look)
  | drainWakes {name : String} {stage : Stage} : Wavers (.drain name stage) (.drain name .look)

/-- How many guards of readers are held. -/
def readGuards (room : LockRoom) : Nat := room.guards.countP fun guard => guard.kind = .read

def writeGuards (room : LockRoom) : Nat := room.guards.countP fun guard => guard.kind = .write

/-- How many threads have set the bit of the writer and wait for the readers inside. -/
def draining (waiting : List (Waiting Call)) : Nat := waiting.countP (·.call.drains)

/-- A step of a thread. The readers do not become so many that their number runs into the bit of the
writer. -/
structure Goes (call : Call) (room : LockRoom) (moved : Move LockRoom Call Answer) : Prop where
  taken : call.move room = some moved ∨
    ∃ again, Wavers call again ∧ moved.state = room ∧ moved.next = .inl again
  few : readGuards moved.state < LockWord.limit

abbrev Moves : Course LockRoom Call Answer → Course LockRoom Call Answer → Prop :=
  Course.Moves Begins Goes

abbrev Runs : Course LockRoom Call Answer → Course LockRoom Call Answer → Prop :=
  Course.Run Begins Goes

/-- What a step comes to. -/
inductive Effect (room : LockRoom) : Call → LockRoom → Call ⊕ Answer → Prop where
  | tries {call again : Call} (name : again.name? = call.name?)
      (drains : again.drains = call.drains) (regular : again.Regular) : Effect room call room (.inl again)
  | enters {name : String} {seen entered : LockWord} (free : room.lock.enter? = some entered) :
      Effect room (.read name (.exchange seen))
        ({ room with lock := entered }.hold name .read) (.inr .held)
  | claims {name : String} {seen claimed : LockWord} (free : room.lock.claim? = some claimed) :
      Effect room (.write name (.exchange seen)) { room with lock := claimed }
        (.inl (.drain name .look))
  | gets {name : String} {stage : Stage} (drained : room.lock.isDrained = true) :
      Effect room (.drain name stage) (room.hold name .write) (.inr .held)
  | drops {name : String} {guard : Guard} {next : Call ⊕ Answer}
      (there : room.guard? name = some guard)
      (last : next = .inl .wake ∨ ∃ answer, next = .inr answer) :
      Effect room (.drop name) ((room.forget name).unlock guard.kind).1 next
  | ends {call : Call} {changed : LockRoom} {answer : Answer} (lock : changed.lock = room.lock)
      (guards : changed.guards = room.guards) (name : call.name? = none)
      (drains : call.drains = false) : Effect room call changed (.inr answer)

theorem effect_of_wavers {room : LockRoom} {call again : Call} (wavers : Wavers call again) :
    Effect room call room (.inl again) := by
  cases wavers <;> exact .tries rfl rfl trivial

/-- Where a thread goes that looks at the word. -/
theorem regular_of_look (name : String) (lock : LockWord) :
    (Call.read name (if lock.isWriteLocked then .park lock else .exchange lock)).Regular ∧
      (Call.write name (if lock.isWriteLocked then .park lock else .exchange lock)).Regular := by
  cases locked : lock.isWriteLocked with
  | false => exact ⟨locked, locked⟩
  | true => exact ⟨trivial, trivial⟩

theorem regular_of_parked (room : LockRoom) (name : String) (seen : LockWord) :
    (Call.read name (room.parked seen)).Regular ∧ (Call.write name (room.parked seen)).Regular := by
  unfold parked
  split <;> exact ⟨trivial, trivial⟩

/-- A sleeper that goes on looks at the word. -/
theorem look_of_woken {room : LockRoom} {since : Nat} {stage : Stage}
    (woken : room.woken since = some stage) : stage = .look := by
  unfold LockRoom.woken at woken
  split at woken <;> cases woken
  rfl

theorem effect_of_goes {call : Call} {room changed : LockRoom} {next : Call ⊕ Answer}
    {records : List Record} (regular : call.Regular)
    (goes : Goes call room { state := changed, next, records }) :
    Effect room call changed next := by
  rcases goes.taken with taken | ⟨again, wavers, same, goesOn⟩
  case inr =>
    dsimp only at same goesOn
    subst same goesOn
    exact effect_of_wavers wavers
  cases call with
  | read name stage =>
    cases stage with
    | look =>
      cases taken
      exact .tries rfl rfl (regular_of_look name room.lock).1
    | exchange seen =>
      dsimp only [Call.move] at taken
      split at taken
      case isTrue same =>
        cases taken
        subst same
        exact .enters (by rw [LockWord.enter?, if_neg (by rw [regular]; exact Bool.false_ne_true)])
      case isFalse =>
        cases taken
        exact .tries rfl rfl trivial
    | park seen =>
      cases taken
      exact .tries rfl rfl (regular_of_parked room name seen).1
    | asleep since =>
      obtain ⟨stage, woken, same⟩ := Option.bind_eq_some_iff.mp taken
      cases same
      rw [look_of_woken woken]
      exact .tries rfl rfl trivial
  | write name stage =>
    cases stage with
    | look =>
      cases taken
      exact .tries rfl rfl (regular_of_look name room.lock).2
    | exchange seen =>
      dsimp only [Call.move] at taken
      split at taken
      case isTrue same =>
        cases taken
        subst same
        exact .claims (by rw [LockWord.claim?, if_neg (by rw [regular]; exact Bool.false_ne_true)])
      case isFalse =>
        cases taken
        exact .tries rfl rfl trivial
    | park seen =>
      cases taken
      exact .tries rfl rfl (regular_of_parked room name seen).2
    | asleep since =>
      obtain ⟨stage, woken, same⟩ := Option.bind_eq_some_iff.mp taken
      cases same
      rw [look_of_woken woken]
      exact .tries rfl rfl trivial
  | drain name stage =>
    cases stage with
    | look | exchange =>
      dsimp only [Call.move] at taken
      split at taken
      case isTrue drained =>
        cases taken
        exact .gets drained
      case isFalse =>
        cases taken
        exact .tries rfl rfl trivial
    | park seen =>
      cases taken
      exact .tries rfl rfl trivial
    | asleep since =>
      obtain ⟨stage, woken, same⟩ := Option.bind_eq_some_iff.mp taken
      cases same
      exact .tries rfl rfl trivial
  | drop name =>
    dsimp only [Call.move] at taken
    cases there : room.guard? name with
    | none =>
      rw [there] at taken
      cases taken
      exact .ends rfl rfl rfl rfl
    | some guard =>
      rw [there] at taken
      cases taken
      refine .drops there ?_
      split
      · exact .inl rfl
      · exact .inr ⟨_, rfl⟩
  | wake =>
    cases taken
    exact .ends rfl rfl rfl rfl
  | forget | reset => cases regular

/-! What holds at every moment -/

/-- The word agrees with the guards and with who drains, and no two guards share a name. -/
structure Sound (crew : Crew LockRoom Call) : Prop where
  balanced : crew.state.lock.Balanced (readGuards crew.state) (draining crew.waiting)
    (writeGuards crew.state)
  regular : ∀ one ∈ crew.waiting, one.call.Regular
  apart : (names crew).Nodup

theorem Sound.fresh : Sound { state := {} } where
  balanced := .zero
  regular := List.forall_mem_nil _
  apart := List.nodup_nil

section
variable (room : LockRoom) (waiting : List (Waiting Call)) (name : String) (kind : GuardKind)

theorem readGuards_hold :
    readGuards (room.hold name kind) = readGuards room + if kind = .read then 1 else 0 := by
  simp [readGuards, hold, List.countP_append, List.countP_singleton]

theorem writeGuards_hold :
    writeGuards (room.hold name kind) = writeGuards room + if kind = .write then 1 else 0 := by
  simp [writeGuards, hold, List.countP_append, List.countP_singleton]

theorem names_hold :
    (names { state := room.hold name kind, waiting }).Perm
      (name :: names { state := room, waiting }) := by
  simp only [names, hold, List.map_append, List.map_singleton, List.append_assoc]
  exact List.perm_middle

theorem names_forget (apart : (names { state := room, waiting }).Nodup) :
    (names { state := room.forget name, waiting }).Nodup := by
  refine apart.sublist (List.Sublist.append_right ?_ _)
  exact List.filter_sublist.map _

theorem guards_unlock : (room.unlock kind).1.guards = room.guards := by
  cases kind <;> rfl

end

section
variable {room : LockRoom} {name : String} {guard : Guard} {drainers : Nat}

/-- With names of their own, only one guard goes with its name. -/
theorem perm_forget (apart : (room.guards.map (·.name)).Nodup)
    (there : room.guard? name = some guard) :
    room.guards.Perm (guard :: (room.forget name).guards) := by
  unfold guard? at there
  have inside : guard ∈ room.guards := List.mem_of_find?_eq_some there
  have named : guard.name = name := by simpa using List.find?_some there
  have erased : (room.forget name).guards = room.guards.erase guard := by
    rw [(List.Nodup.of_map _ apart).erase_eq_filter]
    apply List.filter_congr
    intro other within
    have same : other.name = name ↔ other = guard := by
      rw [← named]
      exact ⟨List.inj_on_of_nodup_map apart within inside, congrArg Guard.name⟩
    simp [bne, beq_eq_decide, same]
  rw [erased]
  exact List.perm_cons_erase inside

theorem readGuards_forget (apart : (room.guards.map (·.name)).Nodup)
    (there : room.guard? name = some guard) :
    readGuards room = readGuards (room.forget name) + if guard.kind = .read then 1 else 0 := by
  rw [readGuards, (perm_forget apart there).countP_eq, List.countP_cons]
  simp [readGuards]

theorem writeGuards_forget (apart : (room.guards.map (·.name)).Nodup)
    (there : room.guard? name = some guard) :
    writeGuards room = writeGuards (room.forget name) + if guard.kind = .write then 1 else 0 := by
  rw [writeGuards, (perm_forget apart there).countP_eq, List.countP_cons]
  simp [writeGuards]

/-- The word after a guard has been dropped. -/
theorem balanced_drop (apart : (room.guards.map (·.name)).Nodup)
    (balanced : room.lock.Balanced (readGuards room) drainers (writeGuards room))
    (there : room.guard? name = some guard) :
    ((room.forget name).unlock guard.kind).1.lock.Balanced (readGuards (room.forget name)) drainers
      (writeGuards (room.forget name)) := by
  rw [readGuards_forget apart there, writeGuards_forget apart there] at balanced
  cases kind : guard.kind with
  | read =>
    rw [kind] at balanced
    exact balanced.leave
  | write =>
    rw [kind] at balanced
    exact balanced.release

end

variable {room changed : LockRoom} {call : Call} {next : Call ⊕ Answer}
  {before middle after others : List (Waiting Call)} {one : Waiting Call}
  {course later : Course LockRoom Call Answer}

/-- What is sound, seen from one place among those that wait, with the calls in that place. -/
structure SoundAt (room : LockRoom) (others : List (Waiting Call)) (here : List Call) : Prop where
  balanced : room.lock.Balanced (readGuards room) (draining others + here.countP Call.drains)
    (writeGuards room)
  own : ∀ call ∈ here, call.Regular
  regular : ∀ one ∈ others, one.call.Regular
  apart : (here.filterMap Call.name? ++ names { state := room, waiting := others }).Nodup

/-- Those in the middle in front of the others. -/
theorem perm_middle_first : (before ++ middle ++ after).Perm (middle ++ (before ++ after)) := by
  rw [List.append_assoc]
  exact List.perm_append_comm_assoc _ _ _

theorem draining_middle : draining (before ++ middle ++ after) =
    draining (before ++ after) + (middle.map (·.call)).countP Call.drains := by
  rw [draining, perm_middle_first.countP_eq, List.countP_append, List.countP_map, Nat.add_comm]
  rfl

theorem sound_middle_iff :
    Sound { state := room, waiting := before ++ middle ++ after } ↔
      SoundAt room (before ++ after) (middle.map (·.call)) := by
  have same : (before ++ middle ++ after).Perm (middle ++ (before ++ after)) := perm_middle_first
  have counted : draining (before ++ middle ++ after) =
      draining (before ++ after) + (middle.map (·.call)).countP Call.drains := draining_middle
  have named : (names { state := room, waiting := before ++ middle ++ after }).Perm
      ((middle.map (·.call)).filterMap Call.name? ++
        names { state := room, waiting := before ++ after }) := by
    rw [List.filterMap_map]
    refine .trans (.append_left _ (same.filterMap _)) ?_
    rw [List.filterMap_append]
    exact List.perm_append_comm_assoc _ _ _
  constructor
  · intro sound
    refine ⟨counted ▸ sound.balanced, ?_, ?_, named.nodup_iff.mp sound.apart⟩
    · rw [List.forall_mem_map]
      exact fun one inside => sound.regular one (same.mem_iff.mpr (List.mem_append_left _ inside))
    · exact fun one inside => sound.regular one (same.mem_iff.mpr (List.mem_append_right _ inside))
  · rintro ⟨balanced, own, regular, apart⟩
    refine ⟨counted ▸ balanced, ?_, named.nodup_iff.mpr apart⟩
    intro one inside
    rcases List.mem_append.mp (same.mem_iff.mp inside) with here | there
    · exact own one.call (List.mem_map_of_mem here)
    · exact regular one there

/-- A step keeps the word in agreement with the threads. -/
theorem SoundAt.effect (sound : SoundAt room others [call])
    (effect : Effect room call changed next) (few : readGuards changed < LockWord.limit) :
    SoundAt changed others next.getLeft?.toList := by
  obtain ⟨balanced, own, regular, apart⟩ := sound
  have nobody : ∀ call ∈ ([] : List Call), call.Regular := List.forall_mem_nil _
  cases effect with
  | tries name drains once =>
    refine ⟨?_, List.forall_mem_singleton.mpr once, regular, ?_⟩
    · simpa [drains] using balanced
    · simpa [List.filterMap_cons, name] using apart
  | @enters name seen entered free =>
    have more : readGuards ({ room with lock := entered }.hold name .read) = readGuards room + 1 :=
      readGuards_hold _ _ _
    have same : writeGuards ({ room with lock := entered }.hold name .read) = writeGuards room :=
      writeGuards_hold _ _ _
    refine ⟨?_, nobody, regular, (names_hold _ _ _ _).nodup_iff.mpr apart⟩
    rw [more] at few ⊢
    rw [same]
    exact balanced.enter few free
  | claims free =>
    exact ⟨balanced.claim free, List.forall_mem_singleton.mpr trivial, regular, apart⟩
  | @gets name stage drained =>
    have same : readGuards (room.hold name .write) = readGuards room := readGuards_hold _ _ _
    have more : writeGuards (room.hold name .write) = writeGuards room + 1 := writeGuards_hold _ _ _
    refine ⟨?_, nobody, regular, (names_hold _ _ _ _).nodup_iff.mpr apart⟩
    rw [same, more]
    exact balanced.drain drained
  | @drops name guard next there last =>
    have dropped : SoundAt ((room.forget name).unlock guard.kind).1 others [] := by
      refine ⟨?_, nobody, regular, ?_⟩
      · rw [readGuards, writeGuards, guards_unlock]
        exact balanced_drop (List.Nodup.of_append_left apart) balanced there
      · rw [names, guards_unlock]
        exact names_forget _ _ _ apart
    rcases last with rfl | ⟨answer, rfl⟩
    · exact ⟨dropped.balanced, List.forall_mem_singleton.mpr trivial, regular, dropped.apart⟩
    · exact dropped
  | ends lock guards name drains =>
    refine ⟨?_, nobody, regular, ?_⟩
    · simpa [readGuards, writeGuards, lock, guards, drains] using balanced
    · simpa [List.filterMap_cons, names, name, guards] using apart

theorem Sound.goes (sound : Sound { state := room, waiting := before ++ [one] ++ after })
    {moved : Move LockRoom Call Answer} (goes : Goes one.call room moved) :
    Sound { state := moved.state, waiting := before ++ one.behind moved.next ++ after } := by
  have left : (one.behind moved.next).map (·.call) = moved.next.getLeft?.toList := by
    cases moved.next <;> rfl
  rw [sound_middle_iff] at sound ⊢
  rw [left]
  exact sound.effect (effect_of_goes (sound.own one.call List.mem_cons_self) goes) goes.few

/-- A guard of a new name is on its way. -/
theorem Sound.begins (sound : Sound course.crew) {ticket : Nat} {call : Call}
    (allowed : Begins course.crew call) :
    Sound { course.crew with waiting := course.crew.waiting ++ [{ ticket, call }] } := by
  obtain ⟨opens, fresh⟩ := allowed
  obtain ⟨balanced, regular, apart⟩ := sound
  have idle : call.drains = false ∧ call.Regular := by
    cases call with
    | read name stage | write name stage =>
      cases stage with
      | look => exact ⟨rfl, trivial⟩
      | _ => cases opens
    | drop name => exact ⟨rfl, trivial⟩
    | _ => cases opens
  constructor
  · rw [draining, List.countP_append, List.countP_singleton, idle.1]
    exact balanced
  · rw [List.forall_mem_append, List.forall_mem_singleton]
    exact ⟨regular, idle.2⟩
  · have longer : names { course.crew with waiting := course.crew.waiting ++ [{ ticket, call }] } =
        names course.crew ++ call.name?.toList := by
      cases named : call.name? <;> simp [names, List.filterMap_append, named]
    rw [longer, List.nodup_append]
    refine ⟨apart, call.name?.toList_nodup, ?_⟩
    intro name there other named same
    rw [Option.mem_toList] at named
    exact fresh other named (same ▸ there)

theorem Sound.moves (sound : Sound course.crew) (moves : Moves course later) :
    Sound later.crew := by
  cases moves with
  | begins allowed => exact sound.begins allowed
  | @goesOn before after one moved waiting goes =>
    have sound : Sound { state := course.crew.state, waiting := before ++ [one] ++ after } := by
      rw [← List.append_cons, ← waiting]
      exact sound
    exact sound.goes goes

theorem Sound.runs (sound : Sound course.crew) (runs : Runs course later) : Sound later.crew := by
  induction runs with
  | refl => exact sound
  | tail _ moves ih => exact ih.moves moves

/-! Who has the bit of the writer -/

/-- The bit has been set for the guard of that name, and is not cleared yet. -/
def Flagged (name : String) (crew : Crew LockRoom Call) : Prop :=
  (∃ one ∈ crew.waiting, ∃ stage, one.call = .drain name stage) ∨
    { name, kind := .write } ∈ crew.state.guards

/-- A reader gets in. -/
def Call.letsIn : Call → Call ⊕ Answer → Bool
  | .read _ _, .inr .held => true
  | _, _ => false

/-- How many readers have got in. -/
def entries (steps : List (Crew.Taken LockRoom Call Answer)) : Nat :=
  steps.countP fun step => step.one.call.letsIn step.moved.next

theorem counted_of_flagged {name : String} {crew : Crew LockRoom Call}
    (flagged : Flagged name crew) : 0 < draining crew.waiting + writeGuards crew.state := by
  rcases flagged with ⟨one, inside, stage, drains⟩ | writes
  · refine Nat.add_pos_left ?_ _
    exact List.countP_pos_iff.mpr ⟨one, inside, by rw [drains]; rfl⟩
  · refine Nat.add_pos_right _ ?_
    exact List.countP_pos_iff.mpr ⟨_, writes, rfl⟩

theorem free_of_letsIn {room changed : LockRoom} {call : Call} {next : Call ⊕ Answer}
    (effect : Effect room call changed next) (letsIn : call.letsIn next = true) :
    room.lock.enter?.isSome := by
  cases effect with
  | enters free => exact Option.isSome_of_eq_some free
  | tries => cases call <;> cases letsIn
  | claims | gets | drops => cases letsIn
  | ends lock guards name =>
    cases call with
    | read => cases name
    | _ => cases letsIn

/-- No reader gets in by a step that is taken while the bit stands. -/
theorem Sound.nobody_enters (sound : Sound course.crew) (moves : Moves course later) {name : String}
    (flagged : Flagged name course.crew) : entries later.steps = entries course.steps := by
  cases moves with
  | begins allowed => rfl
  | @goesOn before after one moved waiting goes =>
    have inside : one ∈ course.crew.waiting := by
      rw [waiting]
      exact List.mem_append_right _ List.mem_cons_self
    have effect := effect_of_goes (sound.regular one inside) goes
    have shut : course.crew.state.lock.enter? = none := by
      have counts := sound.balanced.counts
      have single := sound.balanced.single
      have counted := counted_of_flagged flagged
      rw [decide_eq_true (Nat.le_antisymm single counted)] at counts
      exact counts.shut.1
    have outside : one.call.letsIn moved.next = false := by
      apply Bool.eq_false_of_not_eq_true
      intro letsIn
      have free := free_of_letsIn effect letsIn
      rw [shut] at free
      cases free
    rw [entries, List.countP_append, List.countP_singleton]
    simp [outside, entries]

/-- Each step is taken while the bit stands for the guard of that name. -/
abbrev RunsUnder (name : String) :
    Course LockRoom Call Answer → Course LockRoom Call Answer → Prop :=
  Relation.ReflTransGen fun here there => Moves here there ∧ Flagged name here.crew

theorem Sound.nobody_enters_under (sound : Sound course.crew) {name : String}
    (runs : RunsUnder name course later) : entries later.steps = entries course.steps := by
  have both : Sound later.crew ∧ entries later.steps = entries course.steps := by
    induction runs with
    | refl => exact ⟨sound, rfl⟩
    | tail _ moves ih =>
      obtain ⟨moves, flagged⟩ := moves
      exact ⟨ih.1.moves moves, (ih.1.nobody_enters moves flagged).trans ih.2⟩
  exact both.2

/-- In every order of their steps, the word of the lock is the number of the guards of readers, and
the bit above it while one thread has set it and not cleared it; only one has it at a time, nobody
reads while somebody writes, and no reader gets in from the moment the bit is set until it is
cleared. What is read off the word are these numbers, and the word is zero once all are gone. -/
theorem readers_and_writers_exclude {course : Course LockRoom Call Answer}
    (runs : Runs { crew := { state := {} } } course) :
    let room := course.crew.state
    let writers := draining course.crew.waiting + writeGuards room
    room.lock.word.toNat = readGuards room + LockWord.limit * writers ∧
    writers ≤ 1 ∧
    (0 < writeGuards room → readGuards room = 0) ∧
    room.lock.readers.toNat = readGuards room ∧
    (room.lock.isWriteLocked = true ↔ writers = 1) ∧
    (room.guards = [] → draining course.crew.waiting = 0 → room.lock.word = 0) ∧
    ∀ name later, RunsUnder name course later → entries later.steps = entries course.steps := by
  have sound := Sound.fresh.runs runs
  obtain ⟨counts, single, alone⟩ := sound.balanced
  have bit : LockWord.bit (draining course.crew.waiting + writeGuards course.crew.state = 1) =
      LockWord.limit * (draining course.crew.waiting + writeGuards course.crew.state) := by
    rcases Nat.le_one_iff_eq_zero_or_eq_one.mp single with none | one
    · rw [none]
      rfl
    · rw [one]
      rfl
  refine ⟨bit ▸ counts.word, single, alone, counts.readers_eq, ?_, ?_, ?_⟩
  · rw [counts.isWriteLocked_eq, decide_eq_true_iff]
  · intro gone nobody
    have word := counts.word
    rw [readGuards, writeGuards, gone, nobody] at word
    exact UInt32.toNat_inj.mp word
  · intro name later goesOn
    exact sound.nobody_enters_under goesOn

/-- A step that is taken from the outset of a call, without failures. -/
def Call.go? (call : Call) (room : LockRoom) : Option (Move LockRoom Call Answer) :=
  (call.move room).filter fun moved => readGuards moved.state < LockWord.limit

theorem goes_of_go {call : Call} {room : LockRoom} {moved : Move LockRoom Call Answer}
    (went : call.go? room = some moved) : Goes call room moved := by
  obtain ⟨taken, few⟩ := Option.filter_eq_some_iff.mp went
  exact ⟨.inl taken, of_decide_eq_true few⟩

/-- A reader is inside when a writer sets the bit. A second reader stays outside until both have
left. -/
theorem writer_waits_for_one_reader :
    ∃ waits ends : Course LockRoom Call Answer,
      Runs { crew := { state := {} } } waits ∧ Runs waits ends ∧
      waits.crew.state.lock.word.toNat = 1 + LockWord.limit * 1 ∧
      (∀ later, RunsUnder "writer" waits later → entries later.steps = 1) ∧
      ends.crew.waiting.map (·.call) = [] ∧ entries ends.steps = 2 ∧
      ends.crew.state.lock.word = 0 := by
  have turns : ((Course.play? Begins Call.go? { crew := { state := {} } }
      [.begins 0 (.read "reader" .look), .goesOn 0, .goesOn 0, .begins 1 (.write "writer" .look),
        .goesOn 0, .goesOn 0]).bind fun waits =>
      (waits.play? Begins Call.go?
        [.begins 2 (.read "late" .look), .goesOn 1, .goesOn 1, .begins 3 (.drop "reader"),
          .goesOn 2, .goesOn 2, .goesOn 0, .begins 4 (.drop "writer"), .goesOn 1, .goesOn 1,
          .goesOn 0, .goesOn 0, .goesOn 0, .begins 5 (.drop "late"), .goesOn 0]).map fun ends =>
        ((waits.crew.state.guards, waits.crew.waiting.map (·.call), entries waits.steps),
          ends.crew.state.guards, ends.crew.waiting.map (·.call), entries ends.steps)) =
      some (([⟨"reader", .read⟩], [.drain "writer" .look], 1), [], [], 2) := by decide
  obtain ⟨waits, started, rest⟩ := Option.bind_eq_some_iff.mp turns
  obtain ⟨ends, ended, facts⟩ := Option.map_eq_some_iff.mp rest
  simp only [Prod.mk.injEq] at facts
  obtain ⟨⟨inside, waiting, entered⟩, gone, nobody, twice⟩ := facts
  have toWaits : Runs { crew := { state := {} } } waits :=
    Course.run_of_play (fun _ _ _ => goes_of_go) started
  have toEnds : Runs waits ends := Course.run_of_play (fun _ _ _ => goes_of_go) ended
  have none : draining ends.crew.waiting = 0 := by
    rw [List.map_eq_nil_iff.mp nobody]
    rfl
  obtain ⟨word, -, -, -, -, -, shut⟩ := readers_and_writers_exclude toWaits
  obtain ⟨-, -, -, -, -, free, -⟩ := readers_and_writers_exclude (toWaits.trans toEnds)
  refine ⟨waits, ends, toWaits, toEnds, ?_, ?_, nobody, twice, free gone none⟩
  · obtain ⟨⟨ticket, call, spoken⟩, here, drains⟩ := List.map_eq_singleton_iff.mp waiting
    rw [word, readGuards, writeGuards, inside, here]
    rw [show call = .drain "writer" .look from drains]
    rfl
  · intro later goesOn
    rw [shut "writer" later goesOn, entered]

end LockRoom

end Playback
