import RouteScript.Format

/-!
# Writing through a buffer

Pieces are collected in a buffer of fixed size. Whenever the collected bytes are more than the buffer
holds, a full buffer is sent to the sink; the rest is sent at the end, unless a fault of the draft
ends the writing first. The sink takes a limited number of bytes and then fails, so a failure may show
late or, behind a fault of the draft, not at all.
-/

namespace RouteScript

/-- A destination that takes `room` more bytes and then fails. -/
structure Sink where
  room : Nat
  accepted : Text
  deriving DecidableEq, Repr

inductive WriteError where
  | fault (f : FormatFault)
  | sinkFailed
  deriving DecidableEq, Repr

namespace Sink

def bufferSize : Nat := 4096

/-- Sends bytes to the sink; `false` means that it could not take them all. -/
def send (s : Sink) (t : Text) : Sink × Bool :=
  (⟨s.room - t.length, s.accepted ++ t.take s.room⟩, t.length ≤ s.room)

/-- Sends full buffers while there are more pending bytes than a buffer holds. Gives the bytes still
pending, or nothing when the sink failed. -/
def drain (s : Sink) (pending : Text) : Sink × Option Text :=
  if bufferSize < pending.length then
    let (s', ok) := s.send (pending.take bufferSize)
    if ok then s'.drain (pending.drop bufferSize) else (s', none)
  else (s, some pending)
termination_by pending.length
decreasing_by
  simp only [List.length_drop]
  have : bufferSize = 4096 := rfl
  omega

def feed (s : Sink) (pending : Text) : List Text → Sink × Option Text
  | [] => (s, some pending)
  | t :: ts =>
    match s.drain (pending ++ t) with
    | (s', some rest) => s'.feed rest ts
    | (s', none) => (s', none)

def write (s : Sink) (p : Pieces) : Sink × Except WriteError Unit :=
  match s.feed [] p.texts with
  | (s', none) => (s', .error .sinkFailed)
  | (s', some pending) =>
    match p.fault with
    | some f => (s', .error (.fault f))
    | none =>
      let (s'', ok) := s'.send pending
      (s'', if ok then .ok () else .error .sinkFailed)

end Sink
end RouteScript
