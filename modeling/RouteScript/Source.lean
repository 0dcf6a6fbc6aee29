import RouteScript.Parse

/-!
# Sources

A source hands out its bytes in pieces and then ends or fails. The pieces say nothing about lines: a
line may be spread over several of them, and the two bytes of a line end may come apart. Lines are
read byte by byte, with a look at the byte behind a carriage return. A failure met while looking
ahead is left for the next read, since a source that has stopped stays so.
-/

namespace RouteScript

open Text

/-- What one read hands out: at least one byte. -/
structure Piece where
  first : UInt8
  more : Text
  deriving DecidableEq, Repr

def Piece.bytes (p : Piece) : Text := p.first :: p.more

/-- The bytes already handed out and not yet used, the pieces to come, and how the source stops. -/
structure Source where
  buffer : Text := []
  pieces : List Piece
  failure : Option SourceFailure
  deriving DecidableEq, Repr

namespace Source

def rest (s : Source) : Text := s.buffer ++ s.pieces.flatMap Piece.bytes

/-- The failure that the source stops with, unless it only announces the end. -/
def fault? (s : Source) : Option SourceFailure := s.failure.filter (!·.meansEnd)

def next? (s : Source) : Option (UInt8 × Source) :=
  match s.buffer, s.pieces with
  | b :: buffer, _ => some (b, { s with buffer })
  | [], p :: pieces => some (p.first, { s with buffer := p.more, pieces })
  | [], [] => none

theorem next?_none_spec {s : Source} (h : s.next? = none) : s.rest = [] := by
  obtain ⟨_ | ⟨b, buffer⟩, _ | ⟨p, pieces⟩, failure⟩ := s
  · rfl
  all_goals simp [next?] at h

theorem next?_some_spec {s s' : Source} {b : UInt8} (h : s.next? = some (b, s')) :
    s.rest = b :: s'.rest ∧ s'.failure = s.failure := by
  obtain ⟨_ | ⟨c, buffer⟩, _ | ⟨p, pieces⟩, failure⟩ := s
  · simp [next?] at h
  all_goals
    simp only [next?, Option.some.injEq, Prod.mk.injEq] at h
    obtain ⟨rfl, rfl⟩ := h
    simp [rest, Piece.bytes]

/-- The source behind its next byte, if that is the given one. -/
def skip (b : UInt8) (s : Source) : Source :=
  match s.next? with
  | some (c, s') => if c = b then s' else s
  | none => s

theorem skip_failure (b : UInt8) (s : Source) : (s.skip b).failure = s.failure := by
  unfold skip
  split
  · next c s' h =>
    split
    · exact (next?_some_spec h).2
    · rfl
  · rfl

theorem skip_rest (b : UInt8) (s : Source) :
    (s.skip b).rest = match s.rest with
      | [] => []
      | c :: t => if c = b then t else c :: t := by
  unfold skip
  cases h : s.next? with
  | none => simp [next?_none_spec h]
  | some p =>
    obtain ⟨hr, -⟩ := next?_some_spec h
    by_cases hb : p.1 = b
    · simp [hr, hb]
    · simp [hr, hb]

theorem skip_length_le (b : UInt8) (s : Source) : (s.skip b).rest.length ≤ s.rest.length := by
  rw [skip_rest]
  cases s.rest with
  | nil => exact Nat.le_refl 0
  | cons c t =>
    dsimp only
    split
    · exact Nat.le_succ t.length
    · exact Nat.le_refl _

inductive LineRead where
  | line (raw : Text) (behind : Source)
  | ended
  | failed (f : SourceFailure)
  deriving DecidableEq, Repr

/-- The next line without its end; `front` is what was read of it so far, last byte first. -/
def readLine (front : Text) (s : Source) : LineRead :=
  match h : s.next? with
  | none =>
    match s.fault? with
    | some f => .failed f
    | none => if front = [] then .ended else .line front.reverse s
  | some (b, s') =>
    if b = lf then .line front.reverse s'
    else if b = cr then .line front.reverse (s'.skip lf)
    else
      have : s'.rest.length < s.rest.length := by
        rw [(next?_some_spec h).1]
        exact Nat.lt_succ_self _
      readLine (b :: front) s'
termination_by s.rest.length

theorem readLine_length {front raw : Text} {s s' : Source} (h : s.readLine front = .line raw s') :
    s'.rest.length < s.rest.length + front.length := by
  fun_induction readLine front s with
  | case1 => cases h
  | case2 => cases h
  | case3 front s _ _ hfront =>
    cases h
    have := List.length_pos_iff.2 hfront
    omega
  | case4 front s s' hnext =>
    cases h
    simp only [(next?_some_spec hnext).1, List.length_cons]
    omega
  | case5 front s s' hnext _ =>
    cases h
    have := skip_length_le lf s'
    simp only [(next?_some_spec hnext).1, List.length_cons]
    omega
  | case6 front s b s' hnext _ _ _ ih =>
    have := ih h
    simp only [(next?_some_spec hnext).1, List.length_cons] at this ⊢
    omega

end Source

namespace Script

variable (o : ParseOptions) (ops : OperatorTable)

/-- A line as it counts: the first one of all without its byte order mark. -/
def unmarked (n : Nat) (raw : Text) : Text :=
  if n = 0 then dropBeginning raw Line.byteOrderMark else raw

def readFrom (n : Nat) (done : List Assignment) (s : Source) :
    List ParseEvent × Except ReadError (List Assignment) :=
  match h : s.readLine [] with
  | .failed f => ([], .error (.failure f))
  | .ended => ([], .ok done)
  | .line raw s' =>
    have : s'.rest.length < s.rest.length := Source.readLine_length h
    let raw := unmarked n raw
    let event := lineEvent o (n + 1) raw
    match readLine o ops done (n + 1) raw with
    | .error d => ([event], .error (.diagnostic d))
    | .ok done =>
      let (events, result) := readFrom (n + 1) done s'
      (event :: events, result)
termination_by s.rest.length

variable {o ops} {n : Nat} {done : List Assignment} {s s' : Source}

theorem readFrom_of_failed {f : SourceFailure} (h : s.readLine [] = .failed f) :
    readFrom o ops n done s = ([], .error (.failure f)) := by
  rw [readFrom]
  split <;> simp_all

theorem readFrom_of_ended (h : s.readLine [] = .ended) :
    readFrom o ops n done s = ([], .ok done) := by
  rw [readFrom]
  split <;> simp_all

theorem readFrom_of_line {raw : Text} (h : s.readLine [] = .line raw s') :
    readFrom o ops n done s =
      match readLine o ops done (n + 1) (unmarked n raw) with
      | .error d => ([lineEvent o (n + 1) (unmarked n raw)], .error (.diagnostic d))
      | .ok done =>
        (lineEvent o (n + 1) (unmarked n raw) :: (readFrom o ops (n + 1) done s').1,
          (readFrom o ops (n + 1) done s').2) := by
  rw [readFrom]
  split
  · simp_all
  · simp_all
  · next he =>
    cases h.symm.trans he
    rfl

variable (o)

def traceSource (s : Source) : List ParseEvent × Except ReadError Script :=
  let (events, found) := readFrom o o.table 0 [] s
  match found.bind fun done => (complete o done).mapError .diagnostic with
  | .ok script => (events ++ [.finished script.length events.length], .ok script)
  | .error e => (events, .error e)

def decodeSource (s : Source) : Except ReadError Script := (traceSource o s).2

end Script
end RouteScript
