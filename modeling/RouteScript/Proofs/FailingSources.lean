import RouteScript.Source
import RouteScript.Proofs.ParsedScripts
import RouteScript.Proofs.Grammar

/-!
# Sources that stop early

What is read from a source depends on the bytes it delivers and on how it stops, not on the pieces
the bytes come in (`traceSource_eq`). `Reads` lists what asking for one line can give, in terms of
the lines of the bytes to come, and a reading of the whole source follows line by line
(`readFrom_eq`). A source that fails within a text has delivered some of its first lines completely
(`terminated_isPrefix`), so whatever is reported of them is reported of the text, and nothing else
is reported but the failure (`decodeSource_of_stopped`).
-/

namespace RouteScript

open Text

namespace Line

theorem terminated_line {l t : Text} (e : Terminator) (hl : Unbroken l)
    (hcr : e = .carriageReturn → t.head? ≠ some lf) :
    terminated (l ++ e.bytes ++ t) = (l :: (terminated t).1, (terminated t).2) :=
  terminated_eq_iff_spells.2 (.line e hl hcr (spells_terminated t))

theorem Spells.isPrefix_append {ls : List Text} {r t : Text} (h : Spells ls r t) (u : Text) :
    ls <+: (terminated (t ++ u)).1 := by
  induction h with
  | rest _ => exact List.nil_prefix
  | @line l t r ls e hl hcr ht ih =>
    by_cases hjoin : e = .carriageReturn ∧ (t ++ u).head? = some lf
    · -- The return at the end is the first half of a terminator that `u` completes.
      obtain ⟨rfl, hhead⟩ := hjoin
      obtain ⟨v, hv⟩ := List.head?_eq_some_iff.1 hhead
      have ht0 : t = [] := by
        cases t with
        | nil => rfl
        | cons b t => exact absurd hhead (hcr rfl)
      subst ht0
      have hls : ([], []) = (ls, r) := terminated_eq_iff_spells.2 ht
      cases hls
      have hcut := terminated_line .both hl (t := v) (by simp)
      rw [List.nil_append] at hv
      rw [hv, List.append_nil, show l ++ Terminator.bytes .carriageReturn ++ lf :: v =
        l ++ Terminator.bytes .both ++ v by simp [Terminator.bytes], hcut]
      exact List.cons_prefix_cons.2 ⟨rfl, List.nil_prefix⟩
    · have hcr' : e = .carriageReturn → (t ++ u).head? ≠ some lf := fun he hhead =>
        hjoin ⟨he, hhead⟩
      rw [List.append_assoc, terminated_line e hl hcr']
      exact List.cons_prefix_cons.2 ⟨rfl, ih⟩

/-- The lines terminated in the first part of a text are the first lines of the text. -/
theorem terminated_isPrefix {p t : Text} (h : p <+: t) : (terminated p).1 <+: all t := by
  obtain ⟨u, rfl⟩ := h
  have hp := (spells_terminated p).isPrefix_append u
  refine hp.trans ?_
  simp only [all]
  split
  · exact List.prefix_rfl
  · exact List.prefix_append _ _

theorem dropMark_isPrefix {ls ms : List Text} (h : ls <+: ms) : dropMark ls <+: dropMark ms := by
  cases ls with
  | nil => exact List.nil_prefix
  | cons l ls =>
    obtain ⟨ks, rfl⟩ := h
    exact List.cons_prefix_cons.2 ⟨rfl, List.prefix_append ls ks⟩

/-- The text up to its last line terminator. -/
def closed (t : Text) : Text := t.take (t.length - (terminated t).2.length)

theorem Spells.closed {ls : List Text} {r t : Text} (h : Spells ls r t) :
    ∃ q, t = q ++ r ∧ Spells ls [] q := by
  induction h with
  | @rest r _ => exact ⟨[], rfl, .rest unbroken_nil⟩
  | @line l t r ls e hl hcr _ ih =>
    obtain ⟨q, rfl, hq⟩ := ih
    have hcr' : e = .carriageReturn → q.head? ≠ some lf := by
      intro he hhead
      exact hcr he (by rw [List.head?_append, hhead]; rfl)
    exact ⟨l ++ e.bytes ++ q, by rw [List.append_assoc _ q], .line e hl hcr' hq⟩

theorem terminated_closed (t : Text) : terminated (closed t) = ((terminated t).1, []) := by
  obtain ⟨q, hq, hs⟩ := (spells_terminated t).closed
  have hlen : t.length = q.length + (terminated t).2.length := by
    rw [← List.length_append, ← hq]
  have hclosed : closed t = q := by
    rw [closed, hlen, Nat.add_sub_cancel]
    nth_rewrite 1 [hq]
    exact List.take_left
  rw [hclosed]
  exact terminated_eq_iff_spells.2 hs

theorem physical_closed (t : Text) : physical (closed t) = dropMark (terminated t).1 := by
  simp [physical, all, terminated_closed]

end Line

namespace Source

/-- The lines that a source delivers: its last one counts without a terminator if the source comes
to its end. -/
def lines (s : Source) : List Text :=
  match s.fault? with
  | some _ => (Line.terminated s.rest).1
  | none => Line.all s.rest

/-- What asking for a line gives when the bytes in `front`, last one first, were read of it. -/
inductive Reads (s : Source) (front : Text) : LineRead → Prop where
  | line {l r : Text} {ls : List Text} {s' : Source} : Line.terminated s.rest = (l :: ls, r) →
      Line.terminated s'.rest = (ls, r) → s'.failure = s.failure →
      Reads s front (.line (front.reverse ++ l) s')
  | last {r : Text} {s' : Source} : Line.terminated s.rest = ([], r) → s.fault? = none →
      front.reverse ++ r ≠ [] → s'.rest = [] → s'.failure = s.failure →
      Reads s front (.line (front.reverse ++ r) s')
  | ended {r : Text} : Line.terminated s.rest = ([], r) → s.fault? = none →
      front.reverse ++ r = [] → Reads s front .ended
  | failed {r : Text} {f : SourceFailure} : Line.terminated s.rest = ([], r) →
      s.fault? = some f → Reads s front (.failed f)

theorem fault?_congr {s s' : Source} (h : s'.failure = s.failure) : s'.fault? = s.fault? := by
  rw [fault?, fault?, h]

theorem terminated_skip {s : Source} :
    Line.terminated (cr :: s.rest) =
      ([] :: (Line.terminated (s.skip lf).rest).1, (Line.terminated (s.skip lf).rest).2) := by
  rw [skip_rest]
  cases hs : s.rest with
  | nil => rfl
  | cons c t =>
    by_cases hc : c = lf
    · subst hc
      exact Line.terminated_terminator .both (t := t) (by simp)
    · have hhead : (c :: t).head? ≠ some lf := by simpa using hc
      simp only [hc, ↓reduceIte]
      exact Line.terminated_terminator .carriageReturn (t := c :: t) (fun _ => hhead)

theorem reads_readLine (front : Text) (s : Source) : Reads s front (s.readLine front) := by
  fun_induction readLine front s with
  | case1 front s hnext f hf =>
    have hrest : Line.terminated s.rest = ([], []) := by rw [next?_none_spec hnext]; rfl
    exact .failed hrest hf
  | case2 s hnext hf =>
    have hrest : Line.terminated s.rest = ([], []) := by rw [next?_none_spec hnext]; rfl
    exact .ended hrest hf rfl
  | case3 front s hnext hf hfront =>
    have hrest : Line.terminated s.rest = ([], []) := by rw [next?_none_spec hnext]; rfl
    have hlast : Reads s front (.line (front.reverse ++ []) s) :=
      .last hrest hf (by simpa using hfront) (next?_none_spec hnext) rfl
    rwa [List.append_nil] at hlast
  | case4 front s s' hnext =>
    obtain ⟨hrest, hfail⟩ := next?_some_spec hnext
    have hcut : Line.terminated (lf :: s'.rest) = _ :=
      Line.terminated_terminator .lineFeed (by simp)
    rw [← hrest] at hcut
    have hline : Reads s front (.line (front.reverse ++ []) s') := .line hcut rfl hfail
    rwa [List.append_nil] at hline
  | case5 front s s' hnext _ =>
    obtain ⟨hrest, hfail⟩ := next?_some_spec hnext
    have hcut := terminated_skip (s := s')
    rw [← hrest] at hcut
    have hline : Reads s front (.line (front.reverse ++ []) (s'.skip lf)) :=
      .line hcut rfl ((skip_failure lf s').trans hfail)
    rwa [List.append_nil] at hline
  | case6 front s b s' hnext hlf hcr _ ih =>
    obtain ⟨hrest, hfail⟩ := next?_some_spec hnext
    have hcut := Line.terminated_cons ⟨hlf, hcr⟩ s'.rest
    rw [← hrest] at hcut
    have hfault := fault?_congr hfail
    have hfront : ∀ l, (b :: front).reverse ++ l = front.reverse ++ b :: l := by simp
    generalize readLine (b :: front) s' = x at ih
    cases ih with
    | line hs' hs'' hfail' =>
      rw [hs'] at hcut
      rw [hfront]
      exact .line hcut hs'' (hfail'.trans hfail)
    | last hs' hf hne hnil hfail' =>
      rw [hs'] at hcut
      rw [hfront] at hne ⊢
      exact .last hcut (hfault ▸ hf) hne hnil (hfail'.trans hfail)
    | ended hs' hf hnil => simp at hnil
    | failed hs' hf =>
      rw [hs'] at hcut
      exact .failed hcut (hfault ▸ hf)

/-- A line is the first one of those to come; without one the source has stopped. -/
theorem readLine_cases (s : Source) :
    (∃ l s', s.readLine [] = .line l s' ∧ s.lines = l :: s'.lines ∧ s'.failure = s.failure) ∨
    (s.lines = [] ∧ s.fault? = none ∧ s.readLine [] = .ended) ∨
    (∃ f, s.lines = [] ∧ s.fault? = some f ∧ s.readLine [] = .failed f) := by
  have h := reads_readLine [] s
  generalize s.readLine [] = x at h
  cases h with
  | @line l r ls s' hs hs' hfail =>
    refine .inl ⟨l, s', rfl, ?_, hfail⟩
    rw [lines, lines, fault?_congr hfail]
    cases s.fault? with
    | some f => simp [hs, hs']
    | none =>
      simp only [Line.all, hs, hs']
      split <;> rfl
  | @last r s' hs hf hne hnil hfail =>
    refine .inl ⟨r, s', rfl, ?_, hfail⟩
    have hr : r ≠ [] := hne
    rw [lines, lines, fault?_congr hfail, hf]
    simp [Line.all, hs, hr, hnil, Line.terminated]
  | @ended r hs hf hnil =>
    have hr : r = [] := hnil
    refine .inr (.inl ⟨?_, hf, rfl⟩)
    simp [lines, hf, Line.all, hs, hr]
  | @failed r f hs hf =>
    refine .inr (.inr ⟨f, ?_, hf, rfl⟩)
    simp [lines, hf, hs]

end Source

namespace Script

variable {o : ParseOptions} {ops : OperatorTable}

/-- What the outcome of a run means for the whole source, which may have failed behind the lines. -/
def afterLines (fault : Option SourceFailure) :
    Except Diagnostic (List Assignment) → Except ReadError (List Assignment)
  | .error d => .error (.diagnostic d)
  | .ok done =>
    match fault with
    | some f => .error (.failure f)
    | none => .ok done

def unmarkedLines (n : Nat) (ls : List Text) : List Text := if n = 0 then Line.dropMark ls else ls

theorem unmarkedLines_cons (n : Nat) (l : Text) (ls : List Text) :
    unmarkedLines n (l :: ls) = unmarked n l :: unmarkedLines (n + 1) ls := by
  unfold unmarkedLines unmarked
  split
  · rfl
  · rfl

/-- Reading from a source is reading its lines. -/
theorem readFrom_eq (n : Nat) (done : List Assignment) (s : Source) :
    readFrom o ops n done s =
      ((readLines o ops n done (unmarkedLines n s.lines)).1,
        afterLines s.fault? (readLines o ops n done (unmarkedLines n s.lines)).2) := by
  induction h : s.rest.length using Nat.strongRecOn generalizing n done s with
  | ind m ih =>
    have hnil : unmarkedLines n [] = [] := by unfold unmarkedLines; split <;> rfl
    rcases s.readLine_cases with ⟨l, s', hread, hlines, hfail⟩ | ⟨hlines, hf, hread⟩ |
      ⟨f, hlines, hf, hread⟩
    · have hlt : s'.rest.length < m := by
        rw [← h]
        exact Source.readLine_length hread
      rw [readFrom_of_line hread, hlines, unmarkedLines_cons, readLines]
      cases readLine o ops done (n + 1) (unmarked n l) with
      | error d => rfl
      | ok done' =>
        dsimp only
        rw [ih _ hlt (n + 1) done' s' rfl, Source.fault?_congr hfail]
    · rw [readFrom_of_ended hread, hlines, hnil, hf]
      rfl
    · rw [readFrom_of_failed hread, hlines, hnil, hf]
      rfl

/-- Every line leaves an event, so a run that succeeds has as many events as lines. -/
theorem length_events {n : Nat} {done done' : List Assignment} {ls : List Text}
    (h : run o ops n done ls = .ok done') : (readLines o ops n done ls).1.length = ls.length := by
  induction ls generalizing n done with
  | nil => rfl
  | cons raw ls ih =>
    obtain ⟨d, hr, hrest⟩ := run_cons_ok h
    simp only [readLines, hr, List.length_cons, ih hrest]

variable (o)

/-- The pieces that a source delivers its bytes in make no difference. -/
theorem traceSource_eq (s : Source) : traceSource o s = trace o ⟨s.rest, s.failure⟩ := by
  have hfrom : readFrom o o.table 0 [] s = _ := readFrom_eq 0 [] s
  have hlines : unmarkedLines 0 s.lines = Line.dropMark s.lines := rfl
  rw [hlines] at hfrom
  rw [traceSource, trace, hfrom, show s.failure.filter (!·.meansEnd) = s.fault? from rfl]
  cases hf : s.fault? with
  | some f =>
    have hs : s.lines = (Line.terminated s.rest).1 := by simp [Source.lines, hf]
    rw [hs]
    simp only [traceCut]
    cases (readLines o o.table 0 [] (Line.dropMark (Line.terminated s.rest).1)).2 with
    | error d => rfl
    | ok done => rfl
  | none =>
    have hs : s.lines = Line.all s.rest := by simp [Source.lines, hf]
    rw [hs]
    simp only [traceText]
    cases hrun : (readLines o o.table 0 [] (Line.dropMark (Line.all s.rest))).2 with
    | error d => rfl
    | ok done =>
      have hevents := length_events hrun
      simp only [afterLines, Except.bind]
      cases complete o done with
      | error d => rfl
      | ok script => simp [Except.mapError, hevents]

theorem decodeSource_eq (s : Source) : decodeSource o s = decode o ⟨s.rest, s.failure⟩ :=
  congrArg Prod.snd (traceSource_eq o s)

/-- A source that fails gives the outcome of a run over the lines terminated before the failure. -/
theorem decodeSource_of_fault {s : Source} {f : SourceFailure} (hf : s.fault? = some f) :
    decodeSource o s = match run o o.table 0 [] (Line.dropMark (Line.terminated s.rest).1) with
      | .ok _ => .error (.failure f)
      | .error d => .error (.diagnostic d) := by
  have hd : s.failure.filter (!·.meansEnd) = some f := hf
  rw [decodeSource_eq, decode, trace]
  simp only [hd, traceCut, run]
  cases (readLines o o.table 0 [] (Line.dropMark (Line.terminated s.rest).1)).2 <;> rfl

variable {o}

theorem parse_error_of_part {p t : Text} {d : Diagnostic} (hp : p <+: t)
    (h : run o o.table 0 [] (Line.dropMark (Line.terminated p).1) = .error d) :
    parse o t = .error d ∧ ∃ (n : Nat) (l : Text), d.line = n + 1 ∧ (Line.all t)[n]? = some l ∧
      (Line.terminated p).1[n]? = some l := by
  have hfirst := Line.terminated_isPrefix hp
  constructor
  · obtain ⟨more, hmore⟩ := Line.dropMark_isPrefix hfirst
    rw [parse_eq_run, Line.physical, ← hmore, run_append, h]
    rfl
  · obtain ⟨n, l, hline, hl⟩ := exists_line_of_run_error h
    refine ⟨n, l, hline, ?_, hl⟩
    obtain ⟨hlt, hget⟩ := List.getElem?_eq_some_iff.1 hl
    rw [List.getElem?_eq_some_iff]
    exact ⟨hlt.trans_le hfirst.length_le, (hfirst.getElem hlt).symm.trans hget⟩

variable (o)

/-- A source that stops within a text, behind its first `k` bytes. Where the failure only announces
the end, the source is read like the bytes it delivered. Any other failure is reported itself, unless
the lines terminated before it hold a fault; then that fault is reported, as it is for the whole
text. -/
theorem decodeSource_of_stopped {t : Text} {k : Nat} {s : Source} {f : SourceFailure}
    (hs : s.rest = t.take k) (hf : s.failure = some f) :
    (f.meansEnd = true → decodeSource o s = (parse o (t.take k)).mapError .diagnostic) ∧
    (f.meansEnd = false →
      (decodeSource o s = .error (.failure f) ∨ ∃ d, decodeSource o s = .error (.diagnostic d)) ∧
      (∀ d, decodeSource o s = .error (.diagnostic d) →
        d.kind ≠ .empty ∧ parse o t = .error d ∧
        ∃ (n : Nat) (l : Text), d.line = n + 1 ∧ (Line.all t)[n]? = some l ∧
          (Line.terminated (t.take k)).1[n]? = some l) ∧
      (decodeSource o s = .error (.failure f) ↔
        (∃ script, parse o (Line.closed (t.take k)) = .ok script) ∨
        ∃ d, parse o (Line.closed (t.take k)) = .error d ∧ d.kind = .empty)) := by
  refine ⟨fun hend => ?_, fun hend => ?_⟩
  · have hnone : s.failure.filter (!·.meansEnd) = none := by simp [hf, hend]
    rw [decodeSource_eq, decode, trace, hs]
    simp only [hnone]
    rfl
  have hfault : s.fault? = some f := by simp [Source.fault?, hf, hend]
  have hdecode := decodeSource_of_fault o hfault
  have hclosed := parse_eq_run (o := o) (Line.closed (t.take k))
  rw [Line.physical_closed] at hclosed
  rw [hs] at hdecode
  cases hrun : run o o.table 0 [] (Line.dropMark (Line.terminated (t.take k)).1) with
  | ok done =>
    rw [hrun] at hdecode hclosed
    refine ⟨.inl hdecode, fun d hd => ?_, fun _ => ?_, fun _ => hdecode⟩
    · cases hdecode.symm.trans hd
    · cases hcomplete : complete o done with
      | ok script => exact .inl ⟨script, hclosed.trans hcomplete⟩
      | error d =>
        refine .inr ⟨d, hclosed.trans hcomplete, ?_⟩
        rw [complete_error hcomplete]
        rfl
  | error d =>
    rw [hrun] at hdecode hclosed
    have hkind : d.kind ≠ .empty := run_error_kind hrun
    refine ⟨.inr ⟨d, hdecode⟩, fun d' hd' => ?_, fun hfailed => ?_, ?_⟩
    · cases hdecode.symm.trans hd'
      exact ⟨hkind, parse_error_of_part (List.take_prefix k t) hrun⟩
    · cases hdecode.symm.trans hfailed
    · rintro (⟨script, hscript⟩ | ⟨d', hd', hk⟩)
      · cases hclosed.symm.trans hscript
      · cases hclosed.symm.trans hd'
        exact absurd hk hkind

/-- A source that fails inside a line, behind a carriage return whose line feed it never delivered;
one that fails behind a malformed line in the same way; and one whose failure announces the end. -/
theorem decodeSource_of_stopped_apart :
    decodeSource {} ⟨[], [⟨0x61, utf8 ": 1\r"⟩, ⟨lf, utf8 "  x"⟩], some ⟨utf8 "reset", false⟩⟩ =
      .error (.failure ⟨utf8 "reset", false⟩) ∧
    decodeSource {} ⟨[], [⟨0x61, utf8 ": 1\nb\r"⟩], some ⟨utf8 "reset", false⟩⟩ ≠
      .error (.failure ⟨utf8 "reset", false⟩) ∧
    decodeSource {} ⟨[], [⟨0x61, utf8 ":\n"⟩, ⟨space, utf8 "1"⟩], some ⟨utf8 "closed", true⟩⟩ =
      .ok [⟨utf8 "a", 1, [⟨none, utf8 "1", utf8 "1", utf8 " 1", 2⟩]⟩] := by
  have hinside := decodeSource_of_stopped {} (t := utf8 "a: 1\r\n  x == y ? \n") (k := 9)
    (s := ⟨[], [⟨0x61, utf8 ": 1\r"⟩, ⟨lf, utf8 "  x"⟩], some ⟨utf8 "reset", false⟩⟩)
    (by decide +kernel) rfl
  have hbehind := decodeSource_of_stopped {} (t := utf8 "a: 1\nb\r\nc: 2") (k := 7)
    (s := ⟨[], [⟨0x61, utf8 ": 1\nb\r"⟩], some ⟨utf8 "reset", false⟩⟩)
    (by decide +kernel) rfl
  have hend := decodeSource_of_stopped {} (t := utf8 "a:\n 1?") (k := 5)
    (s := ⟨[], [⟨0x61, utf8 ":\n"⟩, ⟨space, utf8 "1"⟩], some ⟨utf8 "closed", true⟩⟩)
    (by decide +kernel) rfl
  refine ⟨?_, ?_, ?_⟩
  · refine (hinside.2 rfl).2.2.2 (.inl ⟨[⟨utf8 "a", 1,
      [⟨none, utf8 "1", utf8 "1", utf8 "a: 1", 1⟩]⟩], ?_⟩)
    decide +kernel
  · intro h
    have hparse : parse {} (Line.closed ((utf8 "a: 1\nb\r\nc: 2").take 7)) =
        .error (.ofFault .missingColon [] (utf8 "b") 2) := by decide +kernel
    rcases (hbehind.2 rfl).2.2.1 h with ⟨script, hscript⟩ | ⟨d, hd, hk⟩
    · cases hparse.symm.trans hscript
    · cases hparse.symm.trans hd
      cases hk
  · rw [hend.1 rfl]
    decide +kernel

end Script
end RouteScript
