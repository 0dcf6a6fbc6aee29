import RouteScript.Log
import RouteScript.Proofs.FailingSources
import RouteScript.Proofs.JsonTexts

/-!
# Traces of readings

A run leaves one event for each line it looks at: for all lines, or for those up to the reported one
(`events_readLines`). So the trace of a source has a closed form in the result of the reading and the
number of lines looked at (`events_traceSource`).

`decodeLogged` reads a source and keeps no trace. It hands each record to a logger as soon as it
arises, before the line is judged, and counts the lines itself. Whatever the logger does, it gets the
records of the trace, in order, and the result is the one without a logger (`decodeLogged_eq`). What the
records hold is written out in `log_of_reading`, and the lines they make in `render_record`.
-/

namespace RouteScript

open Text

namespace Source

theorem lines_isPrefix (s : Source) : s.lines <+: Line.all s.rest := by
  unfold lines
  split
  · exact Line.terminated_isPrefix List.prefix_rfl
  · exact List.prefix_rfl

end Source

namespace LogRecord

theorem isNumberByte_plain {b : UInt8} (h : Json.isNumberByte b = true) :
    b < 0x80 ∧ needsQuotes (.ascii b) = false := by
  have hall : ∀ n < 256, Json.isNumberByte (UInt8.ofNat n) = true →
      UInt8.ofNat n < 0x80 ∧ needsQuotes (.ascii (UInt8.ofNat n)) = false := by
    decide +kernel
  have hb := hall b.toNat b.toNat_lt
  rw [UInt8.ofNat_toNat] at hb
  exact hb h

theorem value_of_plain {t : Text} (hne : t ≠ [])
    (h : ∀ b ∈ t, b < 0x80 ∧ needsQuotes (.ascii b) = false) : value t = t := by
  have hnone : (symbols t).any needsQuotes = false := by
    clear hne
    induction t with
    | nil => rfl
    | cons b t ih =>
      obtain ⟨⟨hascii, hb⟩, ht⟩ := List.forall_mem_cons.1 h
      rw [symbols_cons_ascii hascii, List.any_cons, hb, ih ht]
      rfl
  rw [value, if_neg (by simp [hne, hnone])]

@[simp] theorem value_decimal (n : Int) : value (decimal n) = decimal n :=
  value_of_plain (Json.decimal_ne_nil n) fun _ hb =>
    isNumberByte_plain (Json.isNumberByte_of_mem_decimal hb)

@[simp] theorem value_kind (k : LineKind) : value k.name = k.name := by
  cases k <;> decide +kernel

/-- The lines that the records make in a log. -/
theorem render_record (e : ParseEvent) : e.record.render =
    match e with
    | .classified n kind statement =>
      utf8 "level=DEBUG msg=\"classified line\" line=" ++ decimal n ++ utf8 " kind=" ++ kind.name ++
        utf8 " statement=" ++ value statement ++ [lf]
    | .finished assignments lines =>
      utf8 "level=DEBUG msg=\"parsed script\" assignments=" ++ decimal assignments ++
        utf8 " lines=" ++ decimal lines ++ [lf] := by
  cases e with
  | classified n kind statement =>
    have hfront : utf8 "level=DEBUG msg=\"classified line\" line=" =
        value (utf8 "level") ++ [equals] ++ value LogLevel.debug.name ++ [space] ++
          value (utf8 "msg") ++ [equals] ++ value (utf8 "classified line") ++ [space] ++
          value (utf8 "line") ++ [equals] := by decide +kernel
    have hkind : utf8 " kind=" = [space] ++ value (utf8 "kind") ++ [equals] := by decide +kernel
    have hstatement : utf8 " statement=" = [space] ++ value (utf8 "statement") ++ [equals] := by
      decide +kernel
    rw [hfront, hkind, hstatement]
    simp [ParseEvent.record, render, join]
  | finished assignments lines =>
    have hfront : utf8 "level=DEBUG msg=\"parsed script\" assignments=" =
        value (utf8 "level") ++ [equals] ++ value LogLevel.debug.name ++ [space] ++
          value (utf8 "msg") ++ [equals] ++ value (utf8 "parsed script") ++ [space] ++
          value (utf8 "assignments") ++ [equals] := by decide +kernel
    have hlines : utf8 " lines=" = [space] ++ value (utf8 "lines") ++ [equals] := by decide +kernel
    rw [hfront, hlines]
    simp [ParseEvent.record, render, join]

end LogRecord

namespace Script

variable {o : ParseOptions} {ops : OperatorTable}

/-- The events of lines that follow the first `n` ones. -/
def lineEvents (o : ParseOptions) (n : Nat) (ls : List Text) : List ParseEvent :=
  ls.mapIdx fun i raw => .classified (n + i + 1) (Line.classify o.allowTab raw).1
    (Line.classify o.allowTab raw).2

theorem lineEvents_cons (n : Nat) (raw : Text) (ls : List Text) :
    lineEvents o n (raw :: ls) = lineEvent o (n + 1) raw :: lineEvents o (n + 1) ls := by
  have hshift : ∀ i, n + (i + 1) + 1 = n + 1 + i + 1 := by omega
  simp only [lineEvents, List.mapIdx_cons, hshift]
  rfl

theorem length_lineEvents (n : Nat) (ls : List Text) : (lineEvents o n ls).length = ls.length :=
  List.length_mapIdx

/-- With this outcome, a run over `total` lines behind the first `n` ones has looked at `k` of them. -/
def Reaches (n total k : Nat) : Except Diagnostic (List Assignment) → Prop
  | .ok _ => k = total
  | .error d => d.line = n + k

theorem Reaches.succ {n total k : Nat} {result : Except Diagnostic (List Assignment)}
    (h : Reaches (n + 1) total k result) : Reaches n (total + 1) (k + 1) result := by
  cases result with
  | ok done => exact congrArg (· + 1) h
  | error d =>
    have hline : d.line = ((n + 1 : Nat) : Int) + k := h
    show d.line = n + ((k + 1 : Nat) : Int)
    omega

/-- A run leaves the events of the lines it has looked at. -/
theorem events_readLines (n : Nat) (done : List Assignment) (ls : List Text) :
    ∃ k ≤ ls.length, Reaches n ls.length k (run o ops n done ls) ∧
      (readLines o ops n done ls).1 = lineEvents o n (ls.take k) := by
  induction ls generalizing n done with
  | nil => exact ⟨0, Nat.le_refl 0, rfl, rfl⟩
  | cons raw ls ih =>
    rw [run_cons]
    cases hr : readLine o ops done (n + 1) raw with
    | error d =>
      have hline : Reaches n (ls.length + 1) 1 (.error d) := (readLine_error_place hr).1
      refine ⟨1, by simp, hline, ?_⟩
      rw [List.take_succ_cons, List.take_zero, lineEvents_cons]
      simp only [readLines, hr]
      rfl
    | ok done' =>
      obtain ⟨k, hk, hreach, hevents⟩ := ih (n + 1) done'
      refine ⟨k + 1, Nat.succ_le_succ hk, hreach.succ, ?_⟩
      rw [List.take_succ_cons, lineEvents_cons, ← hevents]
      simp only [readLines, hr]

/-- After this result, the first `m` lines of the text are those that were looked at. -/
def LookedAt (t : Text) (m : Nat) : Except ReadError Script → Prop
  | .ok _ => m = (Line.all t).length
  | .error (.failure _) => m = (Line.terminated t).1.length
  | .error (.diagnostic d) => if d.kind = .empty then m = (Line.all t).length else d.line = m

/-- The events of the first `m` lines of a text, and the one of the script if there is one. -/
def eventsOf (o : ParseOptions) (t : Text) (m : Nat) (result : Except ReadError Script) :
    List ParseEvent :=
  lineEvents o 0 ((Line.physical t).take m) ++
    match result with
    | .ok script => [.finished script.length m]
    | .error _ => []

variable (o)

theorem readFrom_zero (s : Source) : readFrom o o.table 0 [] s =
    ((readLines o o.table 0 [] (Line.dropMark s.lines)).1,
      afterLines s.fault? (run o o.table 0 [] (Line.dropMark s.lines))) :=
  readFrom_eq 0 [] s

theorem decodeSource_eq_run (s : Source) : decodeSource o s =
    (afterLines s.fault? (run o o.table 0 [] (Line.dropMark s.lines))).bind fun done =>
      (complete o done).mapError .diagnostic := by
  rw [decodeSource, traceSource, readFrom_zero]
  dsimp only
  split
  · next h => exact h.symm
  · next h => exact h.symm

/-- A script that was read adds an event to those of the lines. -/
theorem traceSource_fst (s : Source) : (traceSource o s).1 = (readFrom o o.table 0 [] s).1 ++
    match decodeSource o s with
    | .ok script => [.finished script.length (readFrom o o.table 0 [] s).1.length]
    | .error _ => [] := by
  rw [decodeSource, traceSource]
  dsimp only
  split <;> simp

theorem lookedAt_of_run {s : Source} {m : Nat}
    (h : Reaches 0 s.lines.length m (run o o.table 0 [] (Line.dropMark s.lines))) :
    LookedAt s.rest m (decodeSource o s) := by
  rw [decodeSource_eq_run]
  cases hrun : run o o.table 0 [] (Line.dropMark s.lines) with
  | error d =>
    rw [hrun] at h
    have hline : d.line = m := by simpa [Reaches] using h
    simpa [afterLines, Except.bind, LookedAt, run_error_kind hrun] using hline
  | ok done =>
    rw [hrun] at h
    have hm : m = s.lines.length := h
    rw [hm, Source.lines]
    cases s.fault? with
    | some f => exact rfl
    | none =>
      -- All lines were looked at, whether or not they make a script.
      simp only [afterLines, Except.bind]
      cases hc : complete o done with
      | ok script => exact rfl
      | error d =>
        rw [complete_error hc]
        exact rfl

/-- A source leaves the events of the lines that were looked at, and of the script. -/
theorem events_traceSource (s : Source) :
    ∃ m ≤ (Line.physical s.rest).length, LookedAt s.rest m (decodeSource o s) ∧
      (traceSource o s).1 = eventsOf o s.rest m (decodeSource o s) := by
  obtain ⟨more, hmore⟩ := Line.dropMark_isPrefix s.lines_isPrefix
  obtain ⟨m, hm, hreach, hevents⟩ := @events_readLines o o.table 0 [] (Line.dropMark s.lines)
  have htake : (Line.physical s.rest).take m = (Line.dropMark s.lines).take m := by
    rw [Line.physical, ← hmore, List.take_append_of_le_length hm]
  have hle : m ≤ (Line.physical s.rest).length := by
    rw [Line.physical, ← hmore, List.length_append]
    omega
  have hfrom : (readFrom o o.table 0 [] s).1 = lineEvents o 0 ((Line.physical s.rest).take m) := by
    rw [readFrom_zero, hevents, htake]
  have hlength : (readFrom o o.table 0 [] s).1.length = m := by
    rw [hfrom, length_lineEvents, List.length_take_of_le hle]
  rw [Line.length_dropMark] at hreach
  refine ⟨m, hle, lookedAt_of_run o hreach, ?_⟩
  rw [traceSource_fst, hlength, hfrom]
  rfl

section Logged

variable {σ : Type} (log : σ → LogRecord → σ)

/-- Reads the lines of a source behind `n` lines read before. Besides the assignments, gives what the
logger made of the records and the number of lines read. -/
def readLogged (o : ParseOptions) (ops : OperatorTable) (seen : σ) (n : Nat)
    (done : List Assignment) (s : Source) : σ × Nat × Except ReadError (List Assignment) :=
  match h : s.readLine [] with
  | .failed f => (seen, n, .error (.failure f))
  | .ended => (seen, n, .ok done)
  | .line raw s' =>
    have : s'.rest.length < s.rest.length := Source.readLine_length h
    let raw := unmarked n raw
    let seen := log seen (lineEvent o (n + 1) raw).record
    match readLine o ops done (n + 1) raw with
    | .error d => (seen, n + 1, .error (.diagnostic d))
    | .ok done => readLogged o ops seen (n + 1) done s'
termination_by s.rest.length

def decodeLogged (o : ParseOptions) (seen : σ) (s : Source) : σ × Except ReadError Script :=
  let (seen, lines, found) := readLogged log o o.table seen 0 [] s
  match found.bind fun done => (complete o done).mapError .diagnostic with
  | .ok script => (log seen (ParseEvent.finished script.length lines).record, .ok script)
  | .error e => (seen, .error e)

theorem readLogged_eq (seen : σ) (n : Nat) (done : List Assignment) (s : Source) :
    readLogged log o ops seen n done s =
      (((readFrom o ops n done s).1.map ParseEvent.record).foldl log seen,
        n + (readFrom o ops n done s).1.length, (readFrom o ops n done s).2) := by
  fun_induction readLogged log o ops seen n done s with
  | case1 seen n done s f h => rw [readFrom_of_failed h]; rfl
  | case2 seen n done s h => rw [readFrom_of_ended h]; rfl
  | case3 seen n done s line s' h hlt raw seen' d hr =>
    rw [readFrom_of_line h]
    simp only [raw] at hr
    rw [hr]
    rfl
  | case4 seen n done s line s' h hlt raw seen' done' hr ih =>
    rw [readFrom_of_line h]
    simp only [raw] at hr
    rw [hr, ih]
    simp only [List.map_cons, List.foldl_cons, List.length_cons, Nat.add_assoc, Nat.add_comm 1]
    rfl

/-- A logger gets the records of the trace, in order, and has no influence on the result. -/
theorem decodeLogged_eq (seen : σ) (s : Source) : decodeLogged log o seen s =
    (((traceSource o s).1.map ParseEvent.record).foldl log seen, decodeSource o s) := by
  rw [decodeLogged, readLogged_eq, decodeSource, traceSource]
  dsimp only
  cases (readFrom o o.table 0 [] s).2.bind fun done => (complete o done).mapError .diagnostic with
  | ok script => simp
  | error e => rfl

end Logged

/-- Everything that reading records is for debugging. -/
theorem renderLog_records (debug : Bool) (events : List ParseEvent) :
    renderLog debug (events.map ParseEvent.record) =
      if debug then (events.map ParseEvent.record).flatMap LogRecord.render else [] := by
  have hlevel : ∀ r ∈ events.map ParseEvent.record, r.level = .debug := by
    intro r hr
    obtain ⟨e, -, rfl⟩ := List.mem_map.1 hr
    cases e <;> rfl
  cases debug with
  | true => simp [renderLog]
  | false =>
    have hnone : (events.map ParseEvent.record).filter (fun r => false || r.level ≠ .debug) = [] :=
      List.filter_eq_nil_iff.2 fun r hr => by simp [hlevel r hr]
    rw [renderLog, hnone]
    rfl

/-- A log for debugging holds a record for each of the first lines that the source delivers, with
number, kind and statement, and then one for the script if there is one. How many lines these are
follows from the result: all lines after a script or an empty document, those up to the reported one
after any other fault, and those that were terminated after a failure of the source. Every logger gets
these records and leaves the result as it is. -/
theorem log_of_reading (o : ParseOptions) (s : Source) :
    ∃ m ≤ (Line.physical s.rest).length, LookedAt s.rest m (decodeSource o s) ∧
      let lineRecords : List LogRecord := ((Line.physical s.rest).take m).mapIdx fun i raw => {
        level := .debug
        message := utf8 "classified line"
        attributes := [
          (utf8 "line", decimal (i + 1 : Nat)),
          (utf8 "kind", (Line.classify o.allowTab raw).1.name),
          (utf8 "statement", (Line.classify o.allowTab raw).2)] }
      let scriptRecords : List LogRecord :=
        match decodeSource o s with
        | .ok script => [{
            level := .debug
            message := utf8 "parsed script"
            attributes := [
              (utf8 "assignments", decimal script.length),
              (utf8 "lines", decimal m)] }]
        | .error _ => []
      let records := lineRecords ++ scriptRecords
      (traceSource o s).1 = eventsOf o s.rest m (decodeSource o s) ∧
      (traceSource o s).1.map ParseEvent.record = records ∧
      (∀ debug, renderLog debug records = if debug then records.flatMap LogRecord.render else []) ∧
      ∀ {σ : Type} (log : σ → LogRecord → σ) (seen : σ),
        decodeLogged log o seen s = (records.foldl log seen, decodeSource o s) := by
  obtain ⟨m, hm, hlooked, hevents⟩ := events_traceSource o s
  refine ⟨m, hm, hlooked, ?_⟩
  intro lineRecords scriptRecords records
  have hlines : (lineEvents o 0 ((Line.physical s.rest).take m)).map ParseEvent.record =
      lineRecords := by
    refine (List.mapIdx_eq_iff.2 fun i => ?_).symm
    simp [lineEvents, ParseEvent.record, Function.comp_def]
  have hrecords : (traceSource o s).1.map ParseEvent.record = records := by
    rw [hevents, eventsOf.eq_def, List.map_append, hlines]
    simp only [records, scriptRecords]
    cases decodeSource o s <;> rfl
  refine ⟨hevents, hrecords, fun debug => ?_, fun log seen => ?_⟩
  · rw [← hrecords, renderLog_records]
  · rw [← hrecords, decodeLogged_eq]

/-- The line that the failure cuts off leaves nothing. -/
example : renderLog true ((traceSource {} ⟨[], [⟨0x61, utf8 ": #\n\n 1\r"⟩, ⟨lf, utf8 "b"⟩],
      some ⟨utf8 "reset", false⟩⟩).1.map ParseEvent.record) =
    utf8 "level=DEBUG msg=\"classified line\" line=1 kind=assignment statement=a:\n" ++
      utf8 "level=DEBUG msg=\"classified line\" line=2 kind=blank statement=\"\"\n" ++
      utf8 "level=DEBUG msg=\"classified line\" line=3 kind=expression statement=1\n" := by
  decide +kernel

end Script
end RouteScript
