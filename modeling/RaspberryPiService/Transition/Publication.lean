import RaspberryPiService.Transition.Runs

/-!
# A state published to readers

A publisher changes its state event by event and publishes messages about the changes to
all of its readers. A reader that joins is first sent what the state is, in several parts.
Nothing is published between them, but the state may change meanwhile, and it changes
before the messages about the change are published.

What a reader has made of its messages agrees with the state once nothing is left to be
published, under conditions that speak of single events and single parts. Where some events
spoil the agreement, the runs without them keep it.
-/

universe u v w x y

/-- How events change a state, and what is sent to a reader that joins. -/
structure Publisher (State : Type u) (Event : Type v) (Message : Type w) where
  react : State → Event → State × List Message
  parts : List (State → Message)

/-- The state, the messages about it that are still to be published, and the readers. -/
structure Publication (State : Type u) (Message : Type w) where
  state : State
  unpublished : List Message := []
  -- the reader that joins, and how many parts it has been sent
  joining : Option (Nat × Nat) := none
  readers : List (Nat × List Message) := []

namespace Publication

variable {State : Type u} {Event : Type v} {Message : Type w}

inductive Action (Event : Type v) where
  | event (event : Event)
  | publish
  | join (reader : Nat)
  | sendPart
  | leave (reader : Nat)

/-- A message for one reader. -/
def send (publication : Publication State Message) (reader : Nat) (message : Message) :
    Publication State Message :=
  { publication with
    readers := publication.readers.map fun known =>
      if known.1 = reader then (known.1, known.2 ++ [message]) else known }

def broadcast (publication : Publication State Message) (message : Message) :
    Publication State Message :=
  { publication with
    readers := publication.readers.map fun known => (known.1, known.2 ++ [message]) }

def step (publisher : Publisher State Event Message) (publication : Publication State Message) :
    Action Event → Option (Publication State Message)
  | .event event =>
      if publication.unpublished = [] then
        some { publication with
          state := (publisher.react publication.state event).1
          unpublished := (publisher.react publication.state event).2 }
      else none
  | .publish =>
      match publication.joining, publication.unpublished with
      | none, message :: unpublished =>
          some { publication.broadcast message with unpublished }
      | _, _ => none
  | .join reader =>
      if publication.joining = none ∧ reader ∉ publication.readers.map Prod.fst then
        some { publication with
          joining := some (reader, 0)
          readers := publication.readers ++ [(reader, [])] }
      else none
  | .sendPart =>
      match publication.joining with
      | none => none
      | some (reader, sent) =>
          match publisher.parts[sent]? with
          | some part =>
              some { publication.send reader (part publication.state) with
                joining := some (reader, sent + 1) }
          | none => some { publication with joining := none }
  | .leave reader =>
      if publication.joining = none then
        some { publication with
          readers := publication.readers.filter fun known => known.1 ≠ reader }
      else none

def protocol (publisher : Publisher State Event Message) (state : State) :
    System (Publication State Message) (Action Event) where
  init := { state }
  step := step publisher

/-- Nothing is left to be published, and nobody is joining. -/
structure Settled (publication : Publication State Message) : Prop where
  unpublished : publication.unpublished = []
  joining : publication.joining = none

instance [DecidableEq Message] (publication : Publication State Message) :
    Decidable publication.Settled :=
  decidable_of_iff (publication.unpublished = [] ∧ publication.joining = none)
    ⟨fun settled => ⟨settled.1, settled.2⟩, fun settled => ⟨settled.1, settled.2⟩⟩

section Views

variable {View : Type x} (receive : View → Message → View)

/--
Conditions under which readers come to agree with the state in one respect. A message is
due in a state when it is about a change that led there. The messages about a good event
carry the agreement on, and no part destroys it. Readers agree from the `first` view on, or
once they have been sent the part with the number `about`, whatever is due.
-/
structure Tells (publisher : Publisher State Event Message) (Good : State → Event → Prop)
    (first : View) (about : Option Nat) (Due : State → List Message → Prop)
    (Agrees : State → View → Prop) : Prop where
  no_message : ∀ state, Due state []
  due : ∀ state event, Good state event →
    Due (publisher.react state event).1 (publisher.react state event).2
  rest : ∀ state message messages, Due state (message :: messages) → Due state messages
  event : ∀ state event view, Good state event → Agrees state view →
    Agrees (publisher.react state event).1 ((publisher.react state event).2.foldl receive view)
  part : ∀ part ∈ publisher.parts, ∀ state messages view, Due state messages →
    Agrees state (messages.foldl receive view) →
      Agrees state (messages.foldl receive (receive view (part state)))
  first_agrees : about = none → ∀ state messages, Due state messages →
    Agrees state (messages.foldl receive first)
  part_agrees : ∀ number, about = some number → ∃ part, publisher.parts[number]? = some part ∧
    ∀ state messages view, Due state messages →
      Agrees state (messages.foldl receive (receive view (part state)))

variable {receive}

/-- The reader has not been sent the part with the number `about` yet. -/
def Awaits (about : Option Nat) (publication : Publication State Message) (reader : Nat) :
    Prop :=
  ∃ number sent, about = some number ∧ sent ≤ number ∧
    publication.joining = some (reader, sent)

/-- What is due brings every reader into agreement that has been sent the part about it. -/
structure Told (receive : View → Message → View) (first : View) (about : Option Nat)
    (Due : State → List Message → Prop) (Agrees : State → View → Prop)
    (publication : Publication State Message) : Prop where
  due : Due publication.state publication.unpublished
  readers : ∀ known ∈ publication.readers, publication.Awaits about known.1 ∨
    Agrees publication.state (publication.unpublished.foldl receive (known.2.foldl receive first))

/-- The condition on events, as one on steps. -/
def Allows (Good : State → Event → Prop) (publication : Publication State Message) :
    Action Event → Prop
  | .event event => Good publication.state event
  | .publish | .join _ | .sendPart | .leave _ => True

theorem allows_imp {Good Better : State → Event → Prop}
    (implies : ∀ state event, Better state event → Good state event)
    (publication : Publication State Message) (action : Action Event)
    (allowed : publication.Allows Better action) : publication.Allows Good action := by
  cases action with
  | event event => exact implies _ _ allowed
  | publish | join | sendPart | leave => trivial

variable {publisher : Publisher State Event Message} {Good : State → Event → Prop} {first : View}
  {about : Option Nat} {Due : State → List Message → Prop} {Agrees : State → View → Prop}
  {publication next : Publication State Message}

theorem Told.event (tells : Tells receive publisher Good first about Due Agrees)
    (told : Told receive first about Due Agrees publication)
    (published : publication.unpublished = []) {event : Event}
    (good : Good publication.state event) :
    Told receive first about Due Agrees
      { publication with
        state := (publisher.react publication.state event).1
        unpublished := (publisher.react publication.state event).2 } where
  due := tells.due _ _ good
  readers known member := by
    rcases told.readers known member with awaits | agrees
    · exact Or.inl awaits
    · right
      rw [published] at agrees
      exact tells.event _ _ _ good agrees

theorem Told.publish (tells : Tells receive publisher Good first about Due Agrees)
    (told : Told receive first about Due Agrees publication) {message : Message}
    {messages : List Message} (unpublished : publication.unpublished = message :: messages) :
    Told receive first about Due Agrees
      { publication.broadcast message with unpublished := messages } where
  due := by
    have due := told.due
    rw [unpublished] at due
    exact tells.rest _ _ _ due
  readers known member := by
    rcases List.mem_map.mp member with ⟨before, present, rfl⟩
    rcases told.readers before present with awaits | agrees
    · exact Or.inl awaits
    · right
      simpa [unpublished, broadcast] using agrees

theorem Told.join (tells : Tells receive publisher Good first about Due Agrees)
    (told : Told receive first about Due Agrees publication) (reader : Nat)
    (idle : publication.joining = none) :
    Told receive first about Due Agrees
      { publication with
        joining := some (reader, 0)
        readers := publication.readers ++ [(reader, [])] } where
  due := told.due
  readers known member := by
    rcases List.mem_append.mp member with earlier | new
    · rcases told.readers known earlier with ⟨number, sent, -, -, joining⟩ | agrees
      · rw [idle] at joining
        cases joining
      · exact Or.inr agrees
    · rw [List.mem_singleton.mp new]
      cases found : about with
      | none => exact Or.inr (tells.first_agrees found _ _ told.due)
      | some number => exact Or.inl ⟨number, 0, rfl, Nat.zero_le _, rfl⟩

/-- A part keeps an agreement, or brings it about. -/
theorem Told.sendPart (tells : Tells receive publisher Good first about Due Agrees)
    (told : Told receive first about Due Agrees publication) {reader sent : Nat}
    {part : State → Message} (joining : publication.joining = some (reader, sent))
    (found : publisher.parts[sent]? = some part) :
    Told receive first about Due Agrees
      { publication.send reader (part publication.state) with
        joining := some (reader, sent + 1) } where
  due := told.due
  readers known member := by
    rcases List.mem_map.mp member with ⟨before, present, rfl⟩
    by_cases same : before.1 = reader
    · simp only [if_pos same, List.foldl_append, List.foldl_cons, List.foldl_nil, send]
      rcases told.readers before present with
        ⟨number, earlier, aboutIt, notYet, joiningToo⟩ | agrees
      · rw [joining] at joiningToo
        cases joiningToo
        rcases Nat.lt_or_eq_of_le notYet with later | rfl
        · left
          exact ⟨number, sent + 1, aboutIt, later, by rw [same]⟩
        · right
          rcases tells.part_agrees _ aboutIt with ⟨other, foundOther, establishes⟩
          obtain rfl := Option.some.inj (found.symm.trans foundOther)
          exact establishes _ _ _ told.due
      · right
        exact tells.part part (List.mem_of_getElem? found) _ _ _ told.due agrees
    · simp only [if_neg same, send]
      rcases told.readers before present with ⟨number, earlier, -, -, joiningToo⟩ | agrees
      · rw [joining] at joiningToo
        cases joiningToo
        exact absurd rfl same
      · exact Or.inr agrees

/-- When all parts have been sent, the one about the agreement has been. -/
theorem Told.joined (tells : Tells receive publisher Good first about Due Agrees)
    (told : Told receive first about Due Agrees publication) {reader sent : Nat}
    (joining : publication.joining = some (reader, sent))
    (allSent : publisher.parts[sent]? = none) :
    Told receive first about Due Agrees { publication with joining := none } where
  due := told.due
  readers known member := by
    rcases told.readers known member with ⟨number, earlier, aboutIt, notYet, joiningToo⟩ | agrees
    · rw [joining] at joiningToo
      cases joiningToo
      rcases tells.part_agrees _ aboutIt with ⟨part, found, -⟩
      have inside := (List.getElem?_eq_some_iff.mp found).1
      have outside := List.getElem?_eq_none_iff.mp allSent
      omega
    · exact Or.inr agrees

theorem Told.leave (told : Told receive first about Due Agrees publication) (reader : Nat) :
    Told receive first about Due Agrees
      { publication with
        readers := publication.readers.filter fun known => known.1 ≠ reader } where
  due := told.due
  readers known member := told.readers known (List.mem_filter.mp member).1

theorem Told.step (tells : Tells receive publisher Good first about Due Agrees)
    {action : Action Event} (told : Told receive first about Due Agrees publication)
    (allowed : publication.Allows Good action)
    (stepped : publication.step publisher action = some next) :
    Told receive first about Due Agrees next := by
  cases action with
  | event event =>
      simp only [Publication.step, Option.ite_none_right_eq_some, Option.some.injEq] at stepped
      rcases stepped with ⟨published, rfl⟩
      exact told.event tells published allowed
  | publish =>
      simp only [Publication.step] at stepped
      split at stepped
      · next unpublished =>
          cases stepped
          exact told.publish tells unpublished
      · cases stepped
  | join reader =>
      simp only [Publication.step, Option.ite_none_right_eq_some, Option.some.injEq] at stepped
      rcases stepped with ⟨⟨idle, -⟩, rfl⟩
      exact told.join tells reader idle
  | sendPart =>
      simp only [Publication.step] at stepped
      split at stepped
      · cases stepped
      · next reader sent joining =>
          split at stepped
          · next part found =>
              cases stepped
              exact told.sendPart tells joining found
          · next allSent =>
              cases stepped
              exact told.joined tells joining allSent
  | leave reader =>
      simp only [Publication.step, Option.ite_none_right_eq_some, Option.some.injEq] at stepped
      rcases stepped with ⟨-, rfl⟩
      exact told.leave reader

/-- Once nothing is left to be published, every reader agrees with the state. -/
theorem agrees_of_settled (tells : Tells receive publisher Good first about Due Agrees)
    {state : State} {schedule : List (Action Event)}
    (ran : (protocol publisher state).run schedule = some publication)
    (along : (protocol publisher state).Along (Allows Good) schedule)
    (settled : publication.Settled) :
    ∀ known ∈ publication.readers, Agrees publication.state (known.2.foldl receive first) := by
  have initial : Told receive first about Due Agrees (protocol publisher state).init :=
    ⟨tells.no_message state, by simp [protocol]⟩
  have told : Told receive first about Due Agrees publication :=
    System.invariant_of_along (Told receive first about Due Agrees) initial
      (fun _ _ _ told allowed stepped => told.step tells allowed stepped) ran along
  intro known member
  rcases told.readers known member with ⟨number, sent, -, -, joining⟩ | agrees
  · rw [settled.joining] at joining
    cases joining
  · simpa [settled.unpublished] using agrees

/-- Without a condition on the events, every run is allowed. -/
theorem along_allows {schedule : List (Action Event)} {state : State}
    (always : ∀ state event, Good state event) :
    (protocol publisher state).Along (Allows Good) schedule := by
  refine System.along_of_forall ?_ schedule
  intro publication action
  cases action with
  | event event => exact always _ _
  | publish | join | sendPart | leave => trivial

end Views

section Values

variable {Value : Type y}

/-- What a reader knows of a value after a message, which may tell it. -/
def receiveValue (told : Message → Option Value) (known : Option Value) (message : Message) :
    Option Value :=
  (told message).or known

/-- The reader knows the value, while the state has one. -/
def Knows (value : State → Option Value) (state : State) (known : Option Value) : Prop :=
  ∀ present, value state = some present → known = some present

/-- Whatever the message tells of the value is right in the state. -/
def TellsTruly (told : Message → Option Value) (value : State → Option Value) (state : State)
    (message : Message) : Prop :=
  ∀ heard, told message = some heard → ∀ present, value state = some present → heard = present

/--
Conditions under which readers come to know a value of the state: whatever is told of it
is right by the time, the part with the number `about` tells it, and so do the messages
about an event that changes it.
-/
structure TellsValue (publisher : Publisher State Event Message)
    (told : Message → Option Value) (value : State → Option Value) (about : Nat) : Prop where
  parts : ∀ part ∈ publisher.parts, ∀ state, TellsTruly told value state (part state)
  messages : ∀ state event, ∀ message ∈ (publisher.react state event).2,
    TellsTruly told value (publisher.react state event).1 message
  change : ∀ state event, value (publisher.react state event).1 = value state ∨
    value (publisher.react state event).1 = none ∨
      ∃ message ∈ (publisher.react state event).2, (told message).isSome
  part_tells : ∃ part, publisher.parts[about]? = some part ∧
    ∀ state, (told (part state)).isSome

variable {publisher : Publisher State Event Message} {told : Message → Option Value}
  {value : State → Option Value} {about : Nat} {state : State} {known : Option Value}

theorem Knows.receive {message : Message} (knows : Knows value state known)
    (truly : TellsTruly told value state message) :
    Knows value state (receiveValue told known message) := by
  intro present isPresent
  cases heard : told message with
  | none => simpa [receiveValue, heard] using knows present isPresent
  | some text => simp [receiveValue, heard, truly text heard present isPresent]

theorem Knows.receiveAll {messages : List Message} (knows : Knows value state known)
    (truly : ∀ message ∈ messages, TellsTruly told value state message) :
    Knows value state (messages.foldl (receiveValue told) known) := by
  induction messages generalizing known with
  | nil => exact knows
  | cons message messages ih =>
      apply ih
      · exact knows.receive (truly message List.mem_cons_self)
      · intro later member
        exact truly later (List.mem_cons_of_mem _ member)

theorem knows_receive {message : Message} (truly : TellsTruly told value state message)
    (isTold : (told message).isSome) : Knows value state (receiveValue told known message) := by
  intro present isPresent
  rcases Option.isSome_iff_exists.mp isTold with ⟨heard, found⟩
  simp [receiveValue, found, truly heard found present isPresent]

/-- One message that tells the value is enough among several. -/
theorem knows_receiveAll {messages : List Message}
    (truly : ∀ message ∈ messages, TellsTruly told value state message)
    (isTold : ∃ message ∈ messages, (told message).isSome) :
    Knows value state (messages.foldl (receiveValue told) known) := by
  rcases isTold with ⟨message, member, isTold⟩
  rcases List.append_of_mem member with ⟨earlier, later, rfl⟩
  rw [List.foldl_append, List.foldl_cons]
  apply Knows.receiveAll
  · exact knows_receive (truly message member) isTold
  · intro other present
    exact truly other (List.mem_append_right _ (List.mem_cons_of_mem _ present))

theorem foldl_receiveValue_of_silent {messages : List Message}
    (silent : ¬ ∃ message ∈ messages, (told message).isSome) (known : Option Value) :
    messages.foldl (receiveValue told) known = known := by
  induction messages with
  | nil => rfl
  | cons message messages ih =>
      have nothing : told message = none := by
        rw [← Option.not_isSome_iff_eq_none]
        exact fun isTold => silent ⟨message, List.mem_cons_self, isTold⟩
      rw [List.foldl_cons, receiveValue, nothing, Option.none_or]
      apply ih
      rintro ⟨later, member, isTold⟩
      exact silent ⟨later, List.mem_cons_of_mem _ member, isTold⟩

theorem TellsValue.tells (tells : TellsValue publisher told value about) :
    Tells (receiveValue told) publisher (fun _ _ => True) none (some about)
      (fun state messages => ∀ message ∈ messages, TellsTruly told value state message)
      (Knows value) where
  no_message := by simp
  due state event _ := tells.messages state event
  rest state message messages due := fun later member => due later (List.mem_cons_of_mem _ member)
  event state event view _ knows := by
    rcases tells.change state event with same | unknown | isTold
    · apply Knows.receiveAll _ (tells.messages state event)
      intro present isPresent
      exact knows present (same ▸ isPresent)
    · intro present isPresent
      rw [unknown] at isPresent
      cases isPresent
    · exact knows_receiveAll (tells.messages state event) isTold
  part part member state messages view due knows := by
    by_cases isTold : ∃ message ∈ messages, (told message).isSome
    · exact knows_receiveAll due isTold
    · rw [foldl_receiveValue_of_silent isTold] at knows ⊢
      exact knows.receive (tells.parts part member state)
  first_agrees := by simp
  part_agrees number isAbout := by
    cases isAbout
    rcases tells.part_tells with ⟨part, found, isTold⟩
    refine ⟨part, found, ?_⟩
    intro state messages view due
    apply Knows.receiveAll _ due
    exact knows_receive (tells.parts part (List.mem_of_getElem? found) state) (isTold state)

/-- Once nothing is left to be published, every reader knows the value. -/
theorem knows_of_settled (tells : TellsValue publisher told value about)
    {publication : Publication State Message} {schedule : List (Action Event)}
    (ran : (protocol publisher state).run schedule = some publication)
    (settled : publication.Settled) :
    ∀ known ∈ publication.readers,
      Knows value publication.state (known.2.foldl (receiveValue told) none) :=
  agrees_of_settled tells.tells ran (along_allows fun _ _ => trivial) settled

end Values

end Publication
