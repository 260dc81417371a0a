import ChipEight.Service

/-!
# Sessions

A client of the service, together with everything it has received.  Requests are
handed in and handled at once.  Time passes only while the client waits for
something: it then goes on from event to event until what was waited for has
happened and, mostly, until the program has come to rest.  A wait is given up
when no event is left to come, or after a fixed number of them.

An event is a deadline of the console or, when the screen is sampled at a rate,
a moment at which a frame is taken.  These moments are the multiples of the
sampling period; those at which there is no frame to take are passed over.
-/

namespace ChipEight

/-- What a client has received since it last looked.  The frames and phases it
has not waited for stand apart. -/
structure Inbox where
  seen : List Screen := []
  unseen : List Screen := []
  sounds : Nat := 0
  heard : List Phase := []
  unheard : List Phase := []
  notices : List Notice := []
  deriving DecidableEq, Repr

namespace Inbox

/-- The inbox with one more signal. -/
def receive (inbox : Inbox) : Signal → Inbox
  | .entered phase => { inbox with unheard := inbox.unheard ++ [phase] }
  | .sounded => { inbox with sounds := inbox.sounds + 1 }
  | .answered _ => inbox
  | .noted notice => { inbox with notices := inbox.notices ++ [notice] }

def receiveAll (inbox : Inbox) (signals : List Signal) : Inbox :=
  signals.foldl receive inbox

def frames (inbox : Inbox) : List Screen :=
  inbox.seen ++ inbox.unseen

/-- The inbox with the frame of one sampling, if there was one. -/
def add (inbox : Inbox) (frame : Option Screen) : Inbox :=
  { inbox with unseen := inbox.unseen ++ frame.toList }

/-- Takes note of the first frame not waited for. -/
def see (inbox : Inbox) : Inbox :=
  { inbox with
    seen := inbox.seen ++ inbox.unseen.take 1
    unseen := inbox.unseen.drop 1 }

def phases (inbox : Inbox) : List Phase :=
  inbox.heard ++ inbox.unheard

/-- Takes note of the phases up to the first that equals a given one. -/
def hear (inbox : Inbox) (phase : Phase) : Inbox :=
  let earlier := inbox.unheard.takeWhile (· != phase)
  let rest := inbox.unheard.drop earlier.length
  { inbox with
    heard := inbox.heard ++ earlier ++ rest.take 1
    unheard := rest.drop 1 }

end Inbox

/-- A service seen by its client: the current moment, the period at which the
screen is sampled without being asked for, if it is, and the inbox. -/
structure Session where
  service : Service
  now : Nat
  samplingPeriod : Option Nat
  inbox : Inbox
  deriving DecidableEq, Repr

namespace Session

/-- A session under given settings, if they are valid. -/
def start (settings : Settings) : Except SetupError Session :=
  match settings.validate with
  | .error error => .error error
  | .ok _ =>
      .ok
        { service := Service.ofSettings settings
          now := 0
          samplingPeriod :=
            settings.presentationRate.map Ticker.periodOf
          inbox := {} }

def console (session : Session) : Console :=
  session.service.console

/-- The session after the service has settled at a moment. -/
def settleAt (session : Session) (now : Nat) : Session :=
  let (service, signals) := session.service.settle now
  { session with
    service := service
    now := now
    inbox := session.inbox.receiveAll signals }

/-- Hands in a request and lets the service handle it. -/
def request (session : Session) (request : Request) : Session :=
  let (service, refused) := session.service.post request
  { session with
    service := service
    inbox := session.inbox.receiveAll refused }.settleAt session.now

/-- Asks for the state of the machine; there is no answer from a service that
has ended. -/
def snapshot (session : Session) : Session × Option State :=
  (session.request .inspect,
    if session.service.ended then
      none
    else
      some session.console.machine.state)

/-- The frame that sampling the screen would give now. -/
def frame? (session : Session) : Option Screen :=
  (session.console.sample true).2

/-- Takes the frame not yet sampled, if the console shows one. -/
def takeFrame (session : Session) : Session :=
  { session with
    service :=
      { session.service with
        console := (session.console.sample true).1 }
    inbox := session.inbox.add session.frame? }

/-- Asks for the frame not yet sampled, and tells whether there was one.
Nothing happens when the screen is sampled anyway. -/
def sample (session : Session) : Session × Bool :=
  match session.samplingPeriod with
  | some _ => (session, false)
  | none => (session.takeFrame, session.frame?.isSome)

/-- The next moment at which a frame is taken without being asked for. -/
def nextSample? (session : Session) : Option Nat :=
  match session.samplingPeriod, session.frame? with
  | some period, some _ =>
      some ((session.now / period + 1) * period)
  | _, _ => none

/-- Lets time pass up to the next event; `none` when nothing is left to come. -/
def pass? (session : Session) : Option Session :=
  match session.nextSample?, session.console.nextDeadline? with
  | some moment, some deadline =>
      if moment ≤ deadline then
        some (session.settleAt moment).takeFrame
      else
        some (session.settleAt deadline)
  | some moment, none => some (session.settleAt moment).takeFrame
  | none, some deadline => some (session.settleAt deadline)
  | none, none => none

/-- Lets time pass until something holds, but only for a number of
events. -/
def waitUntil (reached : Session → Bool) : Nat → Session → Session
  | 0, session => session
  | patience + 1, session =>
      if reached session then
        session
      else
        match session.pass? with
        | some later => waitUntil reached patience later
        | none => session

/-- Whether the next instruction leaves the machine as it is. -/
def atRest (session : Session) : Bool :=
  session.console.machine.step.1 == session.console.machine

/-- Whether the next instruction changes nothing at all or moves the program
counter. -/
def arrived (session : Session) : Bool :=
  let machine := session.console.machine
  machine.step.1 == machine ||
    machine.step.1.state.counter != machine.state.counter

/-- How many events a client waits for something to happen. -/
def patience : Nat := 10000000

/-- How many more events a client gives a program to come to rest. -/
def grace : Nat := 10000

/-- Waits until something holds. -/
def await (session : Session) (reached : Session → Bool) : Session :=
  waitUntil reached patience session

/-- Waits until the program has come to rest. -/
def rest (session : Session) : Session :=
  waitUntil atRest grace session

/-- Waits until the program counter has reached an address, and, if the program
loops there, until it has done so once. -/
def awaitCounter (session : Session) (counter : UInt16) : Session :=
  waitUntil arrived grace
    (session.await fun session =>
      session.console.machine.state.counter == counter)

/-- Waits until a phase was announced that was not waited for yet. -/
def awaitPhase (session : Session) (phase : Phase) : Session :=
  let waited :=
    session.await fun session => session.inbox.unheard.contains phase
  { waited with inbox := waited.inbox.hear phase }

/-- Waits for a sound and takes it out of the inbox. -/
def awaitSound (session : Session) : Session :=
  let waited :=
    (session.await fun session => session.inbox.sounds != 0).rest
  { waited with
    inbox := { waited.inbox with sounds := waited.inbox.sounds - 1 } }

/-- Waits for a frame that is sampled without being asked for and was not waited
for yet. -/
def awaitFrame (session : Session) : Session :=
  let waited :=
    (session.await fun session => !session.inbox.unseen.isEmpty).rest
  { waited with inbox := waited.inbox.see }

def emptied (session : Session) : Session :=
  { session with inbox := {} }

/-- Ends the service, unless it has ended. -/
def close (session : Session) : Session :=
  if session.service.ended then
    session
  else
    session.request .shutdown

end Session

end ChipEight
