import ChipEight.Console

/-!
# Transcripts

What a console goes through from its beginning: requests, moments at which it
catches up, and samples of its screen, in any order.  A transcript keeps the
console together with all it has sent, so what holds of the console and what
holds of its messages can be stated side by side.

An invariant of transcripts need not be proved for catching up as a whole.  By
`Transcript.run_keeps` it is enough that handling a request, one firing of a
clock and one sample keep it.
-/

namespace ChipEight

/-- Something that happens to a console. -/
inductive Event where
  /-- A request is handled. -/
  | request (request : Request)
  /-- Whatever is due is fired. -/
  | catchUp
  /-- The screen is sampled, with or without somebody to receive the frame. -/
  | sample (listening : Bool)
  deriving DecidableEq, Repr

/-- A console and what it has sent so far, the oldest first. -/
structure Transcript where
  console : Console
  signals : List Signal
  frames : List Screen
  deriving DecidableEq, Repr

namespace Console

/-- A console that has not been given a program yet, with a random source of its
own. -/
def idle (settings : Settings) (source : KeyStream) : Console :=
  { ofSettings settings with machine := Machine.fresh source }

/-- The settings of a console name one of these random sources. -/
theorem idle_source (settings : Settings) :
    idle settings settings.source = ofSettings settings := rfl

theorem catchUpFrom_of_some
    {console : Console} {now : Nat} {firing : Firing}
    (found : console.firing? now = some firing) (sent : List Signal) :
    catchUpFrom now console sent =
      catchUpFrom now (console.fire now firing).1
        (sent ++ (console.fire now firing).2) := by
  rw [catchUpFrom]
  split
  next nothing =>
    rw [nothing] at found
    cases found
  next other foundOther =>
    rw [foundOther] at found
    cases found
    rfl

theorem catchUpFrom_of_none
    {console : Console} {now : Nat}
    (nothing : console.firing? now = none) (sent : List Signal) :
    catchUpFrom now console sent = (console, sent) := by
  rw [catchUpFrom]
  split
  next => rfl
  next other foundOther =>
    rw [foundOther] at nothing
    cases nothing

/-- What every single firing keeps is kept by catching up. -/
theorem catchUpFrom_keeps
    {now : Nat} (holds : Console → List Signal → Prop)
    (kept : ∀ console sent firing,
      console.firing? now = some firing → holds console sent →
        holds (console.fire now firing).1
          (sent ++ (console.fire now firing).2))
    (console : Console) (sent : List Signal)
    (atFirst : holds console sent) :
    holds (catchUpFrom now console sent).1
      (catchUpFrom now console sent).2 := by
  induction console, sent using catchUpFrom.induct now with
  | case1 console sent nothing =>
      rw [catchUpFrom_of_none nothing]
      exact atFirst
  | case2 console sent firing found inductionHypothesis =>
      rw [catchUpFrom_of_some found]
      exact inductionHypothesis (kept console sent firing found atFirst)

end Console

namespace Transcript

/-- The transcript of a console that has sent nothing yet. -/
def start (console : Console) : Transcript where
  console := console
  signals := []
  frames := []

/-- The transcript with what one operation on the console has led to. -/
def record
    (transcript : Transcript) (outcome : Console × List Signal) :
    Transcript :=
  { transcript with
    console := outcome.1
    signals := transcript.signals ++ outcome.2 }

/-- The transcript with one sample of the screen. -/
def sampled (transcript : Transcript) (listening : Bool) : Transcript :=
  { transcript with
    console := (transcript.console.sample listening).1
    frames :=
      transcript.frames ++
        (transcript.console.sample listening).2.toList }

/-- The transcript with one more event. -/
def next (transcript : Transcript) (now : Nat) : Event → Transcript
  | .request request =>
      transcript.record (transcript.console.handle now request)
  | .catchUp => transcript.record (transcript.console.catchUp now)
  | .sample listening => transcript.sampled listening

/-- The transcript with a history of events, each with its moment. -/
def run (transcript : Transcript) : List (Nat × Event) → Transcript
  | [] => transcript
  | (now, event) :: rest => (transcript.next now event).run rest

/-- A transcript behind which another one goes on. -/
def followedBy (transcript rest : Transcript) : Transcript where
  console := rest.console
  signals := transcript.signals ++ rest.signals
  frames := transcript.frames ++ rest.frames

theorem run_append
    (transcript : Transcript) (earlier later : List (Nat × Event)) :
    transcript.run (earlier ++ later) =
      (transcript.run earlier).run later := by
  induction earlier generalizing transcript with
  | nil => rfl
  | cons entry rest inductionHypothesis =>
      exact inductionHypothesis (transcript.next entry.1 entry.2)

theorem next_followedBy
    (transcript rest : Transcript) (now : Nat) (event : Event) :
    (transcript.followedBy rest).next now event =
      transcript.followedBy (rest.next now event) := by
  cases event <;>
    simp only [next, record, sampled, followedBy, List.append_assoc]

theorem run_followedBy
    (transcript rest : Transcript) (history : List (Nat × Event)) :
    (transcript.followedBy rest).run history =
      transcript.followedBy (rest.run history) := by
  induction history generalizing rest with
  | nil => rfl
  | cons entry later inductionHypothesis =>
      simp only [run, next_followedBy, inductionHypothesis]

/-- What a console goes on to do and to send does not depend on what it has
sent. -/
theorem run_eq_followedBy
    (transcript : Transcript) (history : List (Nat × Event)) :
    transcript.run history =
      transcript.followedBy ((start transcript.console).run history) := by
  have behindItself :
      transcript.followedBy (start transcript.console) = transcript := by
    simp only [followedBy, start, List.append_nil]
  rw [← run_followedBy, behindItself]

variable (holds : Transcript → Prop)

/-- Catching up keeps what every firing keeps. -/
theorem catchUp_keeps
    {now : Nat}
    (fired : ∀ transcript firing,
      transcript.console.firing? now = some firing → holds transcript →
        holds (transcript.record (transcript.console.fire now firing)))
    {transcript : Transcript} (atFirst : holds transcript) :
    holds (transcript.record (transcript.console.catchUp now)) := by
  refine Console.catchUpFrom_keeps
    (fun console sent => holds (transcript.record (console, sent)))
    ?_ _ _ ?_
  · intro console sent firing found before
    have after := fired _ firing found before
    simp only [record, List.append_assoc] at after ⊢
    exact after
  · simp only [record, List.append_nil]
    exact atFirst

/-- What requests, firings and samples keep holds after every history, if it
holds at first. -/
theorem run_keeps
    (requested : ∀ transcript now request, holds transcript →
      holds (transcript.record (transcript.console.handle now request)))
    (fired : ∀ transcript now firing,
      transcript.console.firing? now = some firing → holds transcript →
        holds (transcript.record (transcript.console.fire now firing)))
    (sampled : ∀ transcript listening, holds transcript →
      holds (transcript.sampled listening))
    {transcript : Transcript} (atFirst : holds transcript)
    (history : List (Nat × Event)) :
    holds (transcript.run history) := by
  induction history generalizing transcript with
  | nil => exact atFirst
  | cons entry rest inductionHypothesis =>
      obtain ⟨now, event⟩ := entry
      apply inductionHypothesis
      cases event with
      | request request => exact requested transcript now request atFirst
      | catchUp =>
          exact catchUp_keeps holds
            (fun before firing => fired before now firing) atFirst
      | sample listening => exact sampled transcript listening atFirst

end Transcript

end ChipEight
