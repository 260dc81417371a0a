import ChipEight.Proofs.Console.Transcript
import ChipEight.Service

/-!
# Requests in a queue

Clients hand in requests while the service fires what is due and looks for a request,
in any order.  An `Exchange` is a record of that: the service, what was handed in, what
the service did with its console, and what it sent.  Firing and looking for a request
are separate moves, so requests may come in while the service is busy, and it may look
in vain any number of times.

As long as the service has not ended, its console is the one that goes through the
recorded history by itself, and what was handed in is what was handled, followed by
what waits (`Going`).  When it ends, it has handled everything up to the first request
to shut down, or everything there is (`Over`).  `requests_in_order` puts both together.
-/

namespace ChipEight

namespace Request

/-- The requests up to the first that ends the service, that one included; all of them
if none does. -/
def throughShutdown : List Request → List Request
  | [] => []
  | request :: rest =>
      if request.isShutdown then
        [request]
      else
        request :: throughShutdown rest

theorem isShutdown_iff (request : Request) :
    request.isShutdown = true ↔ request = .shutdown := by
  cases request <;> simp [isShutdown]

theorem throughShutdown_append
    {earlier : List Request} (none : .shutdown ∉ earlier)
    (later : List Request) :
    throughShutdown (earlier ++ later) = earlier ++ throughShutdown later := by
  induction earlier with
  | nil => rfl
  | cons request rest inductionHypothesis =>
      have other := List.ne_of_not_mem_cons none
      have noneLater := List.not_mem_of_not_mem_cons none
      have goesOn : ¬ request.isShutdown = true := by
        rw [isShutdown_iff]
        exact Ne.symm other
      rw [List.cons_append, throughShutdown, if_neg goesOn,
        inductionHypothesis noneLater, List.cons_append]

theorem throughShutdown_of_not_mem
    {requests : List Request} (none : .shutdown ∉ requests) :
    throughShutdown requests = requests := by
  have split := throughShutdown_append none []
  rw [List.append_nil] at split
  rw [split, throughShutdown, List.append_nil]

end Request

namespace Event

/-- The request that an event handles, if it does. -/
def request? : Event → Option Request
  | .request asked => some asked
  | _ => none

/-- The requests handled in a history, the earliest first. -/
def requests (history : List (Nat × Event)) : List Request :=
  history.filterMap fun entry => entry.2.request?

theorem requests_append (earlier later : List (Nat × Event)) :
    requests (earlier ++ later) = requests earlier ++ requests later :=
  List.filterMap_append

theorem requests_catchUp (now : Nat) : requests [(now, .catchUp)] = [] :=
  rfl

theorem requests_cons
    (now : Nat) (asked : Request) (rest : List (Nat × Event)) :
    requests ((now, .request asked) :: rest) = asked :: requests rest :=
  rfl

end Event

/-! ## Answers -/

/-- The states that a list of signals carries, the earliest first. -/
def Signal.answers (signals : List Signal) : List State :=
  signals.filterMap Signal.answer?

theorem Signal.answers_append (earlier later : List Signal) :
    answers (earlier ++ later) = answers earlier ++ answers later :=
  List.filterMap_append

theorem Signal.answers_noted (notices : List Notice) :
    answers (notices.map Signal.noted) = [] := by
  unfold answers
  rw [List.filterMap_map]
  exact List.filterMap_eq_nil_iff.mpr fun _ _ => rfl

namespace Console

variable (console : Console)

theorem answers_enter (phase : Phase) :
    Signal.answers (console.enter phase).2 = [] := by
  unfold enter
  split <;> rfl

theorem answers_fire (now : Nat) (firing : Firing) :
    Signal.answers (console.fire now firing).2 = [] := by
  cases firing with
  | cycle =>
      rcases stepped : console.machine.step with ⟨machine, fault | executed⟩
      · have entered :=
          answers_enter
            { console with machine := machine }.suspendClocks .paused
        simp only [fire, fireCycle, stepped]
        exact entered
      · simp only [fire, fireCycle, stepped]
        rfl
  | timer =>
      simp only [fire, fireTimer]
      split <;> rfl

theorem answers_catchUp (now : Nat) :
    Signal.answers (console.catchUp now).2 = [] := by
  refine catchUpFrom_keeps (fun _ sent => Signal.answers sent = [])
    ?_ console [] rfl
  intro before sent firing _ silent
  rw [Signal.answers_append, silent, answers_fire, List.append_nil]

/-- Only an inspection is answered, with the state the machine is in. -/
theorem answers_handle (now : Nat) (request : Request) :
    Signal.answers (console.handle now request).2 =
      if request = .inspect then [console.machine.state] else [] := by
  cases request with
  | restart program =>
      cases found : program.or console.program with
      | none =>
          simp only [handle, restart, found]
          rfl
      | some loaded =>
          simp only [handle, restart, found, Signal.answers_append,
            Signal.answers_noted, answers_enter]
          rfl
  | pause =>
      simp only [handle]
      split
      · exact answers_enter _ .paused
      · rfl
  | resume =>
      simp only [handle]
      split
      · exact answers_enter _ .running
      · rfl
  | key key pressed => exact Signal.answers_noted _
  | inspect => rfl
  | shutdown => rfl

end Console

namespace Transcript

variable (transcript : Transcript)

theorem answers_next (now : Nat) (event : Event) :
    Signal.answers (transcript.next now event).signals =
      Signal.answers transcript.signals ++
        if event = .request .inspect then
          [transcript.console.machine.state]
        else
          [] := by
  cases event with
  | request asked =>
      simp only [next, record, Signal.answers_append,
        Console.answers_handle, Event.request.injEq]
  | catchUp =>
      simp only [next, record, Signal.answers_append,
        Console.answers_catchUp, reduceCtorEq, if_false]
  | sample listening =>
      simp only [next, sampled, reduceCtorEq, if_false, List.append_nil]

/-- There is one answer for every inspection. -/
theorem length_answers_run (history : List (Nat × Event)) :
    (Signal.answers (transcript.run history).signals).length =
      (Signal.answers transcript.signals).length +
        (Event.requests history).count .inspect := by
  induction history generalizing transcript with
  | nil => rfl
  | cons entry rest inductionHypothesis =>
      obtain ⟨now, event⟩ := entry
      have split :
          Event.requests ((now, event) :: rest) =
            Event.requests [(now, event)] ++ Event.requests rest :=
        Event.requests_append [(now, event)] rest
      rw [run, inductionHypothesis, answers_next, split, List.count_append,
        List.length_append, Nat.add_assoc]
      congr 2
      cases event with
      | request asked =>
          have one : Event.requests [(now, .request asked)] = [asked] :=
            rfl
          rw [one, List.count_singleton]
          by_cases inspects : asked = .inspect <;> simp [inspects]
      | catchUp => rfl
      | sample listening => rfl

/-- An inspection is answered with the state the history before it has led to. -/
theorem getElem?_answers_run
    (earlier : List (Nat × Event)) (now : Nat)
    (later : List (Nat × Event)) :
    (Signal.answers
        (transcript.run
          (earlier ++ (now, .request .inspect) :: later)).signals)[
            (Signal.answers (transcript.run earlier).signals).length]? =
      some (transcript.run earlier).console.machine.state := by
  have sent :
      (transcript.run
          (earlier ++ (now, .request .inspect) :: later)).signals =
        ((transcript.run earlier).next now (.request .inspect)).signals ++
          ((start ((transcript.run earlier).next now
            (.request .inspect)).console).run later).signals := by
    rw [run_append, run, run_eq_followedBy, followedBy]
  rw [sent, Signal.answers_append, answers_next, if_pos rfl,
    List.append_assoc, List.getElem?_append_right (Nat.le_refl _),
    Nat.sub_self]
  rfl

end Transcript

/-! ## Moves -/

/-- One move of a client or of the service. -/
inductive Move where
  | post (request : Request)
  /-- The last client goes away. -/
  | close
  | fire (now : Nat)
  | receive (now : Nat)
  deriving DecidableEq, Repr

/-- A service with the requests handed in so far, what its console went through, and
what was sent. -/
structure Exchange where
  service : Service
  posted : List Request
  served : List (Nat × Event)
  signals : List Signal
  deriving DecidableEq, Repr

namespace Exchange

/-- A service that nobody has asked anything yet, with a console of its own. -/
def start (console : Console) : Exchange where
  service :=
    { console := console, waiting := [], closed := false, ended := false }
  posted := []
  served := []
  signals := []

/-- What the console goes through when a service looks for a request: the oldest one,
if there is one. -/
def handled (service : Service) (now : Nat) : List (Nat × Event) :=
  if service.ended then
    []
  else
    service.waiting.head?.toList.map fun request =>
      (now, .request request)

/-- The exchange with one more move.  Once the last client has gone away nothing is
handed in any more. -/
def next (exchange : Exchange) : Move → Exchange
  | .post request =>
      if exchange.service.closed then
        exchange
      else
        { exchange with
          service := (exchange.service.post request).1
          posted := exchange.posted ++ [request]
          signals :=
            exchange.signals ++ (exchange.service.post request).2 }
  | .close => { exchange with service := exchange.service.close }
  | .fire now =>
      { exchange with
        service := (exchange.service.fire now).1
        served :=
          exchange.served ++
            if exchange.service.ended then [] else [(now, .catchUp)]
        signals := exchange.signals ++ (exchange.service.fire now).2 }
  | .receive now =>
      { exchange with
        service := (exchange.service.receive now).1
        served := exchange.served ++ handled exchange.service now
        signals := exchange.signals ++ (exchange.service.receive now).2 }

def run (exchange : Exchange) : List Move → Exchange
  | [] => exchange
  | move :: rest => (exchange.next move).run rest

/-- A turn of the service is a firing and a look for a request, with nothing handed in
between them. -/
theorem service_turn (exchange : Exchange) (now later : Nat) :
    (exchange.run [.fire now, .receive later]).service =
      (exchange.service.turn now later).1 := rfl

/-! ## What a service has done with its console -/

/-- The console of a service that goes on is the one that goes through what was served
by itself, and what was handed in was handled or waits. -/
structure Going (origin : Transcript) (exchange : Exchange) : Prop where
  going : ¬ exchange.service.ended = true
  console : exchange.service.console = (origin.run exchange.served).console
  signals : exchange.signals = (origin.run exchange.served).signals
  posted : exchange.posted =
    Event.requests exchange.served ++ exchange.service.waiting
  unended : .shutdown ∉ Event.requests exchange.served

/-- A service that has ended has handled everything up to a request to shut down, or
everything that will ever be handed in; it stopped both clocks, and all it has sent
since is that it drops what comes. -/
structure Over (origin : Transcript) (exchange : Exchange) : Prop where
  ended : exchange.service.ended = true
  console : exchange.service.console =
    (origin.run exchange.served).console.suspendClocks
  signals : ∃ dropped,
    exchange.signals =
      (origin.run exchange.served).signals ++
        .noted .serviceStopped ::
          List.replicate dropped (.noted .requestDropped)
  posted :
    (exchange.service.closed = true ∧
        .shutdown ∉ Event.requests exchange.served ∧
        exchange.posted = Event.requests exchange.served) ∨
      ∃ earlier behind,
        Event.requests exchange.served = earlier ++ [.shutdown] ∧
          .shutdown ∉ earlier ∧
          exchange.posted = Event.requests exchange.served ++ behind

variable {origin : Transcript} {exchange : Exchange}

theorem going_start (console : Console) :
    (start console).Going (Transcript.start console) where
  going := Bool.false_ne_true
  console := rfl
  signals := rfl
  posted := rfl
  unended := List.not_mem_nil

theorem Going.post
    (going : exchange.Going origin) (request : Request) :
    (exchange.next (.post request)).Going origin := by
  by_cases closed : exchange.service.closed = true
  · rw [next, if_pos closed]
    exact going
  · have goesOn := going.going
    have posted := going.posted
    rw [next, if_neg closed]
    constructor
    · simp only [Service.post, if_neg goesOn]
      exact goesOn
    · simp only [Service.post, if_neg goesOn, going.console]
    · simp only [Service.post, if_neg goesOn, List.append_nil, going.signals]
    · simp only [Service.post, if_neg goesOn, posted, List.append_assoc]
    · exact going.unended

theorem Going.close (going : exchange.Going origin) :
    (exchange.next .close).Going origin where
  going := going.going
  console := going.console
  signals := going.signals
  posted := going.posted
  unended := going.unended

theorem Going.fire (going : exchange.Going origin) (now : Nat) :
    (exchange.next (.fire now)).Going origin := by
  have goesOn := going.going
  have ran :
      origin.run (exchange.served ++ [(now, .catchUp)]) =
        (origin.run exchange.served).next now .catchUp :=
    origin.run_append exchange.served [(now, .catchUp)]
  have sameRequests :
      Event.requests (exchange.served ++ [(now, .catchUp)]) =
        Event.requests exchange.served := by
    rw [Event.requests_append, Event.requests_catchUp, List.append_nil]
  simp only [next, Service.fire, if_neg goesOn]
  constructor
  · exact going.going
  · simp only [ran, Transcript.next, Transcript.record, going.console]
  · simp only [ran, Transcript.next, Transcript.record, going.console,
      going.signals]
  · simp only [sameRequests, going.posted]
  · simp only [sameRequests, going.unended, not_false_eq_true]

/-- Looking for a request in vain leaves the service going, unless nobody is left to
hand one in. -/
theorem Going.receive_nothing
    (going : exchange.Going origin)
    (nothing : exchange.service.waiting = []) (now : Nat) :
    (exchange.next (.receive now)).Going origin ∨
      (exchange.next (.receive now)).Over origin := by
  have goesOn := going.going
  have allHandled : exchange.posted = Event.requests exchange.served := by
    rw [going.posted, nothing, List.append_nil]
  have noneHandled : handled exchange.service now = [] := by
    simp only [handled, if_neg goesOn, nothing, List.head?_nil,
      Option.toList_none, List.map_nil]
  by_cases closed : exchange.service.closed = true
  · right
    simp only [next, Service.receive, if_neg goesOn, nothing, if_pos closed,
      noneHandled, List.append_nil]
    constructor
    · rfl
    · simp only [Service.finish, going.console]
    · exact ⟨0, by rw [going.signals, List.replicate_zero]⟩
    · exact Or.inl ⟨closed, going.unended, allHandled⟩
  · left
    simp only [next, Service.receive, if_neg goesOn, nothing, if_neg closed,
      noneHandled, List.append_nil]
    exact going

/-- The oldest request is handled by the console, and is the last one if it asks for
the end. -/
theorem Going.receive_request
    (going : exchange.Going origin) {request : Request}
    {rest : List Request}
    (waits : exchange.service.waiting = request :: rest) (now : Nat) :
    (exchange.next (.receive now)).Going origin ∨
      (exchange.next (.receive now)).Over origin := by
  have goesOn := going.going
  have oneHandled :
      handled exchange.service now = [(now, .request request)] := by
    simp only [handled, if_neg goesOn, waits, List.head?_cons,
      Option.toList_some, List.map_singleton]
  have ran :
      origin.run (exchange.served ++ [(now, .request request)]) =
        (origin.run exchange.served).next now (.request request) :=
    origin.run_append exchange.served [(now, .request request)]
  have moreRequests :
      Event.requests (exchange.served ++ [(now, .request request)]) =
        Event.requests exchange.served ++ [request] := by
    rw [Event.requests_append, Event.requests_cons]
    rfl
  have posted :
      exchange.posted =
        Event.requests exchange.served ++ [request] ++ rest := by
    rw [going.posted, waits, List.append_assoc, List.singleton_append]
  by_cases last : request.isShutdown = true
  · right
    have isShutdown := (Request.isShutdown_iff request).mp last
    simp only [next, Service.receive, if_neg goesOn, waits, if_pos last,
      oneHandled]
    constructor
    · rfl
    · simp only [Service.finish, ran, Transcript.next, Transcript.record,
        going.console]
    · refine ⟨0, ?_⟩
      simp only [ran, Transcript.next, Transcript.record, going.console,
        going.signals, List.replicate_zero, List.append_assoc]
    · refine Or.inr ⟨Event.requests exchange.served, rest, ?_,
        going.unended, ?_⟩
      · rw [moreRequests, isShutdown]
      · rw [moreRequests, posted]
  · left
    have other : .shutdown ≠ request := by
      intro isShutdown
      exact last ((Request.isShutdown_iff request).mpr isShutdown.symm)
    simp only [next, Service.receive, if_neg goesOn, waits, if_neg last,
      oneHandled]
    constructor
    · exact going.going
    · simp only [ran, Transcript.next, Transcript.record, going.console]
    · simp only [ran, Transcript.next, Transcript.record, going.console,
        going.signals]
    · rw [moreRequests, posted]
    · rw [moreRequests, List.mem_append, List.mem_singleton]
      exact not_or.mpr ⟨going.unended, other⟩

theorem Going.next
    (going : exchange.Going origin) (move : Move) :
    (exchange.next move).Going origin ∨
      (exchange.next move).Over origin := by
  cases move with
  | post request => exact Or.inl (going.post request)
  | close => exact Or.inl going.close
  | fire now => exact Or.inl (going.fire now)
  | receive now =>
      cases waits : exchange.service.waiting with
      | nil => exact going.receive_nothing waits now
      | cons request rest => exact going.receive_request waits now

/-- Whatever is asked of a service that has ended is dropped. -/
theorem Over.next (finished : exchange.Over origin) (move : Move) :
    (exchange.next move).Over origin := by
  have ended := finished.ended
  cases move with
  | close =>
      refine ⟨ended, finished.console, finished.signals, ?_⟩
      exact finished.posted.imp (fun all => ⟨rfl, all.2⟩) id
  | fire now =>
      simp only [Exchange.next, Service.fire, if_pos ended, List.append_nil]
      exact finished
  | receive now =>
      simp only [Exchange.next, Service.receive, handled, if_pos ended,
        List.append_nil]
      exact finished
  | post request =>
      by_cases closed : exchange.service.closed = true
      · rw [Exchange.next, if_pos closed]
        exact finished
      · simp only [Exchange.next, if_neg closed, Service.post, if_pos ended]
        constructor
        · exact ended
        · exact finished.console
        · obtain ⟨dropped, sent⟩ := finished.signals
          refine ⟨dropped + 1, ?_⟩
          rw [sent, List.replicate_succ', List.append_assoc,
            List.cons_append]
        · rcases finished.posted with ⟨isClosed, _⟩ |
            ⟨earlier, behind, handled, none, posted⟩
          · exact absurd isClosed closed
          · refine Or.inr ⟨earlier, behind ++ [request], handled, none, ?_⟩
            rw [posted, List.append_assoc]

theorem Going.run
    (going : exchange.Going origin) (moves : List Move) :
    (exchange.run moves).Going origin ∨ (exchange.run moves).Over origin := by
  suffices kept : ∀ exchange : Exchange,
      exchange.Going origin ∨ exchange.Over origin →
        (exchange.run moves).Going origin ∨
          (exchange.run moves).Over origin from
    kept exchange (Or.inl going)
  induction moves with
  | nil => exact fun _ before => before
  | cons move rest inductionHypothesis =>
      intro exchange before
      apply inductionHypothesis
      rcases before with going | finished
      · exact going.next move
      · exact Or.inr (finished.next move)

/-! ## Order and completeness -/

theorem Over.requests_served (finished : exchange.Over origin) :
    Event.requests exchange.served =
      Request.throughShutdown exchange.posted := by
  rcases finished.posted with ⟨_, none, posted⟩ |
    ⟨earlier, behind, handled, none, posted⟩
  · rw [posted, Request.throughShutdown_of_not_mem none]
  · have ends :
        Request.throughShutdown (.shutdown :: behind) = [.shutdown] := rfl
    rw [posted, handled, List.append_assoc, List.singleton_append,
      Request.throughShutdown_append none, ends]

/-- What was handled is a beginning of what was handed in, and goes no further than the
first request to shut down. -/
theorem requests_served_prefix
    (reached : exchange.Going origin ∨ exchange.Over origin) :
    Event.requests exchange.served <+: exchange.posted ∧
      Event.requests exchange.served <+:
        Request.throughShutdown exchange.posted := by
  rcases reached with going | finished
  · rw [going.posted, Request.throughShutdown_append going.unended]
    exact ⟨List.prefix_append _ _, List.prefix_append _ _⟩
  · refine ⟨?_, ?_⟩
    · rcases finished.posted with ⟨_, _, posted⟩ | ⟨_, behind, _, _, posted⟩
      · exact posted ▸ List.prefix_rfl
      · exact posted ▸ List.prefix_append _ behind
    · exact finished.requests_served ▸ List.prefix_rfl

theorem answers_eq
    (reached : exchange.Going origin ∨ exchange.Over origin) :
    Signal.answers exchange.signals =
      Signal.answers (origin.run exchange.served).signals := by
  rcases reached with going | finished
  · rw [going.signals]
  · obtain ⟨dropped, signals⟩ := finished.signals
    have unanswered :
        Signal.answers
            (.noted .serviceStopped ::
              List.replicate dropped (.noted .requestDropped)) = [] := by
      have noted :=
        Signal.answers_noted
          (.serviceStopped :: List.replicate dropped .requestDropped)
      rw [List.map_cons, List.map_replicate] at noted
      exact noted
    rw [signals, Signal.answers_append, unanswered, List.append_nil]

/-- Take any console that started out idle, with any settings and random source, behind
a service, and let clients and the service make any moves in any order, until the last
client has gone away and beyond.  What was handled is what was handed in, in the same
order and up to some point.

As long as the service has not ended, its console is the one that goes through the same
history by itself, what was handed in but not handled waits, and nobody has asked for
the end.  When it has ended, it has handled everything up to the first request to shut
down, that one included; if there is none, nobody was left and everything was handled.
Its clocks stand still then.

Every inspection that was handled is answered, and no other: with the state to which
the requests handed in before it and the firings in between have led. -/
theorem requests_in_order
    (settings : Settings) (source : KeyStream) (moves : List Move) :
    let idle := Transcript.start (Console.idle settings source)
    let exchange := (start (Console.idle settings source)).run moves
    let service := exchange.service
    let transcript := idle.run exchange.served
    let handled := Event.requests exchange.served
    let answers := Signal.answers exchange.signals
    handled <+: exchange.posted ∧
      ((service.ended = false ∧
          service.console = transcript.console ∧
          exchange.signals = transcript.signals ∧
          exchange.posted = handled ++ service.waiting ∧
          .shutdown ∉ handled) ∨
        (service.ended = true ∧
          service.console = transcript.console.suspendClocks ∧
          (∃ dropped,
            exchange.signals =
              transcript.signals ++
                .noted .serviceStopped ::
                  List.replicate dropped (.noted .requestDropped)) ∧
          handled = Request.throughShutdown exchange.posted ∧
          (.shutdown ∈ handled ∨ service.closed = true) ∧
          service.console.cycle.next = none ∧
          service.console.timer.next = none)) ∧
      handled <+: Request.throughShutdown exchange.posted ∧
      answers.length = handled.count .inspect ∧
      ∀ earlier now later,
        exchange.served = earlier ++ (now, .request .inspect) :: later →
          Event.requests earlier ++ [.inspect] <+: exchange.posted ∧
            answers[(Event.requests earlier).count .inspect]? =
              some (idle.run earlier).console.machine.state := by
  intro idle exchange service transcript handled answers
  have reached : exchange.Going idle ∨ exchange.Over idle :=
    (going_start (Console.idle settings source)).run moves
  obtain ⟨inOrder, noFurther⟩ := requests_served_prefix reached
  have sameAnswers : answers = Signal.answers transcript.signals :=
    answers_eq reached
  refine ⟨inOrder, ?_, noFurther, ?_, ?_⟩
  · rcases reached with going | finished
    · left
      exact ⟨eq_false_of_ne_true going.going, going.console,
        going.signals, going.posted, going.unended⟩
    · right
      refine ⟨finished.ended, finished.console, finished.signals,
        finished.requests_served, ?_, ?_⟩
      · rcases finished.posted with ⟨closed, _⟩ | ⟨earlier, _, last, _⟩
        · exact Or.inr closed
        · left
          simp only [handled, last]
          exact List.mem_concat_self
      · simp only [service, finished.console]
        exact ⟨rfl, rfl⟩
  · have counted := idle.length_answers_run exchange.served
    rw [sameAnswers, counted]
    exact Nat.zero_add _
  · intro earlier now later split
    constructor
    · have begins :
          Event.requests earlier ++ [.inspect] <+: handled := by
        simp only [handled, split]
        rw [Event.requests_append, Event.requests_cons]
        refine ⟨Event.requests later, ?_⟩
        simp only [List.append_assoc, List.singleton_append]
      exact begins.trans inOrder
    · have answered := idle.getElem?_answers_run earlier now later
      have counted := idle.length_answers_run earlier
      rw [← split, counted] at answered
      rw [sameAnswers, ← answered]
      congr 1
      exact (Nat.zero_add _).symm

/-- A program that adds to a register is started, inspected after two instructions and
shut down; an inspection that was handed in behind that goes unanswered. -/
theorem requests_in_order_shutdown :
    let settings : Settings := {}
    let program : List UInt8 := [0x70, 0x01, 0x70, 0x02, 0x12, 0x04]
    let moves : List Move :=
      [.post (.restart (some program)), .post .inspect, .fire 0,
        .receive 0, .fire 4000000, .post .shutdown, .receive 4000000,
        .post .inspect, .receive 5000000, .close, .receive 6000000]
    let idle :=
      Transcript.start (Console.idle settings settings.source)
    let exchange :=
      (start (Console.idle settings settings.source)).run moves
    let earlier : List (Nat × Event) :=
      [(0, .catchUp), (0, .request (.restart (some program))),
        (4000000, .catchUp)]
    exchange.posted =
        [.restart (some program), .inspect, .shutdown, .inspect] ∧
      exchange.served =
        earlier ++ (4000000, .request .inspect) ::
          [(5000000, .request .shutdown)] ∧
      (idle.run earlier).console.machine.state.register 0 = 3 ∧
      (Signal.answers exchange.signals).length = 1 ∧
      (Signal.answers exchange.signals)[0]? =
        some (idle.run earlier).console.machine.state := by
  intro settings program moves idle exchange earlier
  obtain ⟨posted, served, counted⟩ :
      exchange.posted =
          [.restart (some program), .inspect, .shutdown, .inspect] ∧
        exchange.served =
          earlier ++ (4000000, .request .inspect) ::
            [(5000000, .request .shutdown)] ∧
        (idle.run earlier).console.machine.state.register 0 = 3 := by
    decide +kernel
  obtain ⟨_, _, _, oneAnswer, answered⟩ :=
    requests_in_order settings settings.source moves
  obtain ⟨_, firstAnswer⟩ := answered earlier 4000000 _ served
  refine ⟨posted, served, counted, ?_, firstAnswer⟩
  rw [oneAnswer]
  simp only [exchange] at served
  rw [served]
  rfl

end Exchange

end ChipEight
