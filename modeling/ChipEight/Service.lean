import ChipEight.Console

/-!
# The service

A console behind a queue of requests.  The service takes turns: it first fires
whatever is due, then takes the oldest request, if there is one.  It ends with a
request to shut down, or when the queue is closed and empty.  Then its clocks
stand still, requests left in the queue are dropped, and new ones are refused.
-/

namespace ChipEight

/-- Whether a request ends the service. -/
def Request.isShutdown : Request → Bool
  | .shutdown => true
  | _ => false

/-- A console, the requests waiting for it with the oldest first, whether no more
can come, and whether the service has ended. -/
structure Service where
  console : Console
  waiting : List Request
  closed : Bool
  ended : Bool
  deriving DecidableEq, Repr

namespace Service

/-- A service that nobody has asked anything yet. -/
def ofSettings (settings : Settings) : Service where
  console := Console.ofSettings settings
  waiting := []
  closed := false
  ended := false

/-- Hands in a request; a service that has ended drops it. -/
def post (service : Service) (request : Request) :
    Service × List Signal :=
  if service.ended then
    (service, [.noted .requestDropped])
  else
    ({ service with waiting := service.waiting ++ [request] }, [])

/-- The service without a client that could hand in more. -/
def close (service : Service) : Service :=
  { service with closed := true }

/-- The service ended, with a given console. -/
def finish (service : Service) (console : Console) : Service :=
  { service with
    console := console.suspendClocks
    waiting := []
    ended := true }

/-- Fires whatever is due. -/
def fire (service : Service) (now : Nat) : Service × List Signal :=
  if service.ended then
    (service, [])
  else
    let (console, fired) := service.console.catchUp now
    ({ service with console := console }, fired)

/-- Handles the oldest request.  When none waits the service ends if no more can
come; otherwise it has waited in vain. -/
def receive (service : Service) (now : Nat) : Service × List Signal :=
  if service.ended then
    (service, [])
  else
    match service.waiting with
    | request :: rest =>
        let (console, replies) := service.console.handle now request
        if request.isShutdown then
          (service.finish console, replies ++ [.noted .serviceStopped])
        else
          ({ service with console := console, waiting := rest }, replies)
    | [] =>
        if service.closed then
          (service.finish service.console, [.noted .serviceStopped])
        else
          (service, [])

/-- One turn: everything due at the first moment is fired, then the oldest
request is handled at the second. -/
def turn (service : Service) (now later : Nat) :
    Service × List Signal :=
  let (caughtUp, fired) := service.fire now
  let (next, replies) := caughtUp.receive later
  (next, fired ++ replies)

/-- A number of turns at one moment. -/
def turns (now : Nat) : Nat → Service → Service × List Signal
  | 0, service => (service, [])
  | count + 1, service =>
      let (next, first) := service.turn now now
      let (last, rest) := turns now count next
      (last, first ++ rest)

/-- Takes turns at one moment until every waiting request has been handled and,
if the queue is closed, the service has ended. -/
def settle (service : Service) (now : Nat) : Service × List Signal :=
  turns now (service.waiting.length + 1) service

end Service

end ChipEight
