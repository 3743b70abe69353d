import Marquee.Link.Pacing

/-! Sending a frame over a link. What the link is made of is its own affair. It answers each write
and each flush, and the first refusal ends the frame. -/

namespace Marquee

structure Link (σ ε : Type) where
  write : σ → Bytes → Except ε Unit × σ
  flush : σ → Except ε Unit × σ

/-- What became of one frame. -/
structure Sent (σ ε : Type) where
  /-- The steps that were completed, in order. -/
  done : List Step
  result : Except ε Unit
  /-- The link afterwards. -/
  state : σ

namespace Link

variable {σ ε : Type}

def attempt (link : Link σ ε) (state : σ) : Step → Except ε Unit × σ
  | .write data => link.write state data
  | .pause _ => (.ok (), state)
  | .flush => link.flush state

def perform (link : Link σ ε) : List Step → σ → Sent σ ε
  | [], state => ⟨[], .ok (), state⟩
  | step :: steps, state =>
    match link.attempt state step with
    | (.ok (), next) =>
      let sent := link.perform steps next
      { sent with done := step :: sent.done }
    | (.error fault, next) => ⟨[], .error fault, next⟩

theorem perform_ok {link : Link σ ε} {state next : σ} (step : Step)
    (done : link.attempt state step = (.ok (), next)) (steps : List Step) :
    link.perform (step :: steps) state =
      { link.perform steps next with done := step :: (link.perform steps next).done } := by
  simp only [perform, done]

theorem perform_error {link : Link σ ε} {state next : σ} (step : Step) {fault : ε}
    (failed : link.attempt state step = (.error fault, next)) (steps : List Step) :
    link.perform (step :: steps) state = ⟨[], .error fault, next⟩ := by
  simp only [perform, failed]

def send (link : Link σ ε) (pacing : Pacing) (frame : Bytes) (state : σ) : Sent σ ε :=
  link.perform (pacing.schedule frame) state

/-- The frames in turn. A frame that failed does not keep the next one from being sent. -/
def sendAll (link : Link σ ε) (pacing : Pacing) : List Bytes → σ → List (Sent σ ε)
  | [], _ => []
  | frame :: frames, state =>
    let sent := link.send pacing frame state
    sent :: link.sendAll pacing frames sent.state

end Link
end Marquee
