import RouteScript.Proofs.Grammar
import RouteScript.Proofs.MovedLines

/-!
# Comments and blank lines

White space and comments behind lines and blank lines between them do not change what a text means
(`parse_edited`). An edited text is given by a list of `Edit`s, from which both the lines before
and the text after can be read off. A kept line says the same with a trailer behind it
(`content_append_trailer`), whatever bytes it ends with, since white space begins with no
continuation byte. White space may break a line; what follows the break is blank lines
(`isTrailer_of_mem_all`).
-/

namespace RouteScript

open Text

namespace Line

/-- White space, with a comment behind it or without. -/
inductive IsTrailer : Text → Prop where
  | white {w : Text} : IsWhite w → IsTrailer w
  | comment {w c : Text} : IsWhite w → Unbroken c → IsTrailer (w ++ hashSign :: c)

theorem hashSign_notMem_of_isWhite {w : Text} (hw : IsWhite w) : hashSign ∉ w := by
  intro hm
  have hb := isWhite_iff.1 hw _ (ascii_mem_symbols (by decide) hm)
  exact absurd hb (by decide)

theorem withoutComment_append {l : Text} (h : hashSign ∉ l) (u : Text) :
    withoutComment (l ++ u) = l ++ withoutComment u := by
  have hl : ∀ b ∈ l, decide (b ≠ hashSign) = true := by
    intro b hb
    have hne : b ≠ hashSign := fun he => h (he ▸ hb)
    exact decide_eq_true hne
  exact List.takeWhile_append_of_pos hl

theorem withoutComment_append_trailer {w : Text} (hw : IsTrailer w) (l : Text) :
    ∃ v, IsWhite v ∧ withoutComment (l ++ w) = withoutComment l ++ v := by
  by_cases hm : hashSign ∈ l
  · -- The comment of the line swallows the trailer.
    obtain ⟨a, b, rfl, ha⟩ := List.eq_append_cons_of_mem hm
    refine ⟨[], .nil, ?_⟩
    rw [List.append_assoc, withoutComment_append ha, withoutComment_append ha, List.append_nil]
    rfl
  · rw [withoutComment_append hm]
    have hl := withoutComment_append hm []
    rw [List.append_nil] at hl
    cases hw with
    | @white w hw =>
      have hv := withoutComment_append (hashSign_notMem_of_isWhite hw) []
      rw [List.append_nil] at hv
      refine ⟨w, hw, ?_⟩
      rw [hl, hv]
      simp [withoutComment]
    | @comment w c hw _ =>
      refine ⟨w, hw, ?_⟩
      rw [hl, withoutComment_append (hashSign_notMem_of_isWhite hw)]
      simp [withoutComment]

/-- A trailer does not change what a line is taken for. -/
theorem classify_append_trailer {w : Text} (hw : IsTrailer w) (allowTab : Bool) (l : Text) :
    classify allowTab (l ++ w) = classify allowTab l := by
  obtain ⟨v, hv, he⟩ := withoutComment_append_trailer hw l
  simp only [classify, he, trim_append_white hv]
  cases hbody : withoutComment l with
  | nil => rfl
  | cons b t => rfl

theorem content_append_trailer {w : Text} (hw : IsTrailer w) (allowTab : Bool) (l : Text) :
    content allowTab (l ++ w) = content allowTab l := by
  rw [content, content, classify_append_trailer hw]

theorem content_trailer {w : Text} (hw : IsTrailer w) (allowTab : Bool) :
    content allowTab w = .nothing :=
  content_append_trailer hw allowTab []

theorem unbroken_encoding {c : Char} (hlf : c ≠ '\n') (hcr : c ≠ '\r') :
    Unbroken (String.utf8EncodeChar c) := by
  have hsymbols : symbols (String.utf8EncodeChar c) = [.scalar c] := by
    have h := symbols_encoding_append c []
    rwa [List.append_nil] at h
  constructor
  · intro hm
    have hs := ascii_mem_symbols (by decide) hm
    rw [hsymbols, List.mem_singleton] at hs
    exact hlf (Symbol.scalar.inj hs).symm
  · intro hm
    have hs := ascii_mem_symbols (by decide) hm
    rw [hsymbols, List.mem_singleton] at hs
    exact hcr (Symbol.scalar.inj hs).symm

theorem IsTrailer.cons {c : Char} (hc : isBlankCode c.toNat = true) {w : Text} (hw : IsTrailer w) :
    IsTrailer (String.utf8EncodeChar c ++ w) := by
  cases hw with
  | white hw => exact .white (.cons hc hw)
  | comment hw hu =>
    rw [← List.append_assoc]
    exact .comment (.cons hc hw) hu

/-- A white-space character in front of lines that are trailers is a line break or joins the first
of them. -/
theorem trailers_of_blank {c : Char} (hc : isBlankCode c.toNat = true) {u : Text}
    (hu : ∀ m ∈ all u, IsTrailer m) : ∀ m ∈ all (String.utf8EncodeChar c ++ u), IsTrailer m := by
  have hempty : IsTrailer [] := .white .nil
  by_cases hlf : c = '\n'
  · subst hlf
    have hall : all (lf :: u) = [] :: all u := all_terminator .lineFeed (by simp)
    rw [show String.utf8EncodeChar '\n' ++ u = lf :: u from rfl, hall]
    exact List.forall_mem_cons.2 ⟨hempty, hu⟩
  by_cases hcr : c = '\r'
  · subst hcr
    rw [show String.utf8EncodeChar '\r' ++ u = cr :: u from rfl]
    by_cases hhead : u.head? = some lf
    · -- The line feed belongs to the same terminator, so no line is added.
      obtain ⟨v, rfl⟩ := List.head?_eq_some_iff.1 hhead
      have hboth : all (cr :: lf :: v) = [] :: all v := all_terminator .both (by simp)
      have hone : all (lf :: v) = [] :: all v := all_terminator .lineFeed (by simp)
      rwa [hboth, ← hone]
    · have hall : all (cr :: u) = [] :: all u := all_terminator .carriageReturn (fun _ => hhead)
      rw [hall]
      exact List.forall_mem_cons.2 ⟨hempty, hu⟩
  · have hne : String.utf8EncodeChar c ≠ [] := by
      obtain ⟨a, r, he, -⟩ := encoding_spec c
      simp [he]
    rw [all_append_unbroken (unbroken_encoding hlf hcr) hne]
    cases hall : all u with
    | nil =>
      have hone := hempty.cons hc
      rw [List.append_nil] at hone
      exact List.forall_mem_singleton.2 hone
    | cons m ms =>
      rw [hall] at hu
      obtain ⟨hm, hms⟩ := List.forall_mem_cons.1 hu
      exact List.forall_mem_cons.2 ⟨hm.cons hc, hms⟩

theorem trailers_of_white {w u : Text} (hw : IsWhite w) (hu : ∀ m ∈ all u, IsTrailer m) :
    ∀ m ∈ all (w ++ u), IsTrailer m := by
  induction hw with
  | nil => exact hu
  | cons hc _ ih =>
    rw [List.append_assoc]
    exact trailers_of_blank hc ih

/-- All lines of a trailer are trailers. -/
theorem isTrailer_of_mem_all {w : Text} (hw : IsTrailer w) :
    ∀ m ∈ all (w ++ [lf]), IsTrailer m := by
  cases hw with
  | white hw => exact trailers_of_white hw (List.forall_mem_singleton.2 (.white .nil))
  | @comment w c hw hc =>
    have hh : Unbroken (hashSign :: c) := unbroken_cons.2 ⟨by decide, hc⟩
    have hall : all (hashSign :: c ++ [lf] ++ []) = (hashSign :: c) :: all [] :=
      all_line .lineFeed hh (by simp)
    rw [List.append_nil] at hall
    rw [List.append_assoc]
    refine trailers_of_white hw ?_
    rw [hall]
    exact List.forall_mem_singleton.2 (.comment .nil hc)

/-- A kept line begins its part of the edited text; what follows it there says nothing. -/
theorem all_kept {l w : Text} (hl : Unbroken l) (hw : IsTrailer w) :
    ∃ v rest, all (l ++ w ++ [lf]) = (l ++ v) :: rest ∧ IsTrailer v ∧ ∀ m ∈ rest, IsTrailer m := by
  have hlines := isTrailer_of_mem_all hw
  cases hall : all (w ++ [lf]) with
  | nil => simpa using eq_nil_of_all_eq_nil hall
  | cons v rest =>
    rw [hall] at hlines
    obtain ⟨hv, hrest⟩ := List.forall_mem_cons.1 hlines
    refine ⟨v, rest, ?_, hv, hrest⟩
    rw [List.append_assoc]
    by_cases h0 : l = []
    · subst h0
      exact hall
    · rw [all_append_unbroken hl h0, hall]

theorem isMarked_iff_head? {t : Text} :
    isMarked t = true ↔ (symbols t).head? = some (.scalar '\uFEFF') := by
  rw [isMarked_iff]
  constructor
  · rintro ⟨u, rfl⟩
    rw [show byteOrderMark = String.utf8EncodeChar '\uFEFF' by decide, symbols_encoding_append]
    rfl
  · intro h
    obtain ⟨ss, hss⟩ := List.head?_eq_some_iff.1 h
    refine ⟨ofSymbols ss, ?_⟩
    rw [← ofSymbols_symbols t, hss, ofSymbols_cons]
    rfl

/-- The mark is no white space, so a marked line says something. -/
theorem isMarked_of_nothing {allowTab : Bool} {l : Text} (h : content allowTab l = .nothing) :
    isMarked l = false := by
  refine Bool.eq_false_iff.2 fun hm => ?_
  obtain ⟨u, rfl⟩ := isMarked_iff.1 hm
  have hempty := classify_fst_eq_blank (content_eq_nothing_iff.1 h)
  rw [withoutComment_append (by decide)] at hempty
  have hvisible : startsBlank (byteOrderMark ++ withoutComment u) = false := by
    have hhead := isMarked_iff_head?.1 (isMarked_iff.2 ⟨withoutComment u, rfl⟩)
    rw [startsBlank, hhead]
    decide
  exact trim_ne_nil (by simp [byteOrderMark]) hvisible hempty

theorem isMarked_append_trailer {w : Text} (hw : IsTrailer w) (l : Text) :
    isMarked (l ++ w) = isMarked l := by
  have hfresh : startsFresh w = true := by
    cases hw with
    | white hw => exact hw.startsFresh
    | comment hw _ =>
      cases hw with
      | nil => exact startsFresh_ascii (by decide) _
      | cons _ _ =>
        rw [List.append_assoc]
        exact startsFresh_encoding _ _
  by_cases h0 : l = []
  · subst h0
    exact isMarked_of_nothing (content_trailer hw true)
  · have hne : symbols l ≠ [] := fun h => h0 (symbols_eq_nil_iff.1 h)
    rw [Bool.eq_iff_iff, isMarked_iff_head?, isMarked_iff_head?, symbols_append l hfresh,
      List.head?_append_of_ne_nil _ hne]

/-- One step of an edit: a line is kept, with something put behind it, or a line is put in. -/
inductive Edit where
  | keep (line trailer : Text)
  | insert (line : Text)
  deriving DecidableEq, Repr

namespace Edit

def kept? : Edit → Option Text
  | keep l _ => some l
  | insert _ => none

def text : Edit → Text
  | keep l w => l ++ w
  | insert l => l

/-- The step adds white space, comments and blank lines only. -/
inductive Harmless (o : ParseOptions) : Edit → Prop where
  | keep {l w : Text} : Unbroken l → IsTrailer w → Harmless o (.keep l w)
  | insert {l : Text} : Unbroken l → kind o l = .blank → Harmless o (.insert l)

/-- The kept lines, with a line feed between them. -/
def textBefore (es : List Edit) : Text := join [lf] (es.filterMap kept?)

/-- The edited lines, with a line feed between them. -/
def textAfter (es : List Edit) : Text := join [lf] (es.map text)

/-- The kept line with number `n` is found on line `n'` of the edited text: `n'` counts the physical
lines that the edits in front of it have written, one for each edit if no trailer is broken. -/
def Placed (es : List Edit) (n n' : Int) : Prop :=
  ∃ before l w after, es = before ++ .keep l w :: after ∧
    n = (before.filterMap kept?).length + 1 ∧ n' = (all (ended (before.map text))).length + 1

end Edit

open Edit

/-- The second line is the first one with a trailer behind it. -/
def Trailed (l l' : Text) : Prop := ∃ w, IsTrailer w ∧ l' = l ++ w

theorem trailed_refl (l : Text) : Trailed l l := ⟨[], .white .nil, (List.append_nil l).symm⟩

/-- What one step writes: a line that says nothing, or the kept line and behind it only lines that
say nothing. -/
theorem Edit.Harmless.lines {o : ParseOptions} {e : Edit} (h : e.Harmless o) :
    (∃ l, e.kept? = none ∧ all (ended [e.text]) = [l] ∧ content o.allowTab l = .nothing) ∨
    (∃ l w v rest, e = .keep l w ∧ all (ended [e.text]) = (l ++ v) :: rest ∧ IsTrailer v ∧
      ∀ m ∈ rest, IsTrailer m) := by
  have hended : ended [e.text] = e.text ++ [lf] := by simp [ended]
  cases h with
  | @insert l hl hb =>
    refine .inl ⟨l, rfl, ?_, content_eq_nothing_iff.2 hb⟩
    exact all_ended (List.forall_mem_singleton.2 hl)
  | @keep l w hl hw =>
    obtain ⟨v, rest, hall, hv, hrest⟩ := all_kept hl hw
    exact .inr ⟨l, w, v, rest, rfl, hended ▸ hall, hv, hrest⟩

/-- The lines of an edited text say what the kept lines say. -/
theorem aligned_edits {o : ParseOptions} {total : List Edit} (before es : List Edit)
    (ht : total = before ++ es) (h : ∀ e ∈ es, e.Harmless o) :
    Aligned (Placed total) Trailed o (before.filterMap kept?).length (es.filterMap kept?)
      (all (ended (before.map text))).length (all (ended (es.map text))) := by
  induction es generalizing before with
  | nil => exact .nil
  | cons e es ih =>
    obtain ⟨he, hes⟩ := List.forall_mem_cons.1 h
    have hrest := ih (before ++ [e]) (by rw [ht, List.append_cons]) hes
    have hall := all_ended_append [e.text] (es.map text)
    rw [List.singleton_append, ← List.map_cons] at hall
    rw [List.map_append, List.map_singleton, all_ended_append, List.filterMap_append,
      List.length_append, List.length_append] at hrest
    rw [hall]
    rcases he.lines with ⟨l, hkept, hl, hc⟩ | ⟨l, w, v, rest, rfl, hl, hv, htail⟩
    · rw [hl] at hrest ⊢
      simp only [List.filterMap_cons, hkept] at hrest ⊢
      exact .extra hc hrest
    · rw [hl] at hrest ⊢
      refine .same (content_append_trailer hv _ l) ?_ ⟨v, hv, rfl⟩ ?_
      · exact ⟨before, l, w, es, ht, rfl, rfl⟩
      · refine .extras (fun m hm => content_trailer (htail m hm) _) ?_
        rwa [List.length_cons, Nat.add_comm rest.length, ← Nat.add_assoc] at hrest

/-- Edits put no mark in front of a text. -/
theorem not_marked_of_edits {o : ParseOptions} {es : List Edit} (h : ∀ e ∈ es, e.Harmless o)
    (hm : ∀ l ∈ (es.filterMap kept?).head?, isMarked l = false) :
    ∀ l ∈ (all (ended (es.map text))).head?, isMarked l = false := by
  cases es with
  | nil => simp [ended, all, terminated]
  | cons e es =>
    have hall := all_ended_append [e.text] (es.map text)
    rw [List.singleton_append, ← List.map_cons] at hall
    rw [hall]
    rcases (h e List.mem_cons_self).lines with ⟨l, -, hl, hc⟩ | ⟨l, w, v, rest, rfl, hl, hv, -⟩
    · rw [hl]
      rintro _ ⟨⟩
      exact isMarked_of_nothing hc
    · rw [hl]
      rintro _ ⟨⟩
      rw [isMarked_append_trailer hv]
      exact hm l rfl

end Line

namespace Script

variable {o : ParseOptions}

/-- Lines with a line feed between them are read like lines with a line feed behind each. -/
theorem parse_join (ls : List Text) : parse o (join [lf] ls) =
    (run o o.table 0 [] (Line.dropMark (Line.all (Line.ended ls)))).bind (complete o) := by
  rw [parse_eq_run, Line.physical]
  by_cases h0 : ls = []
  · subst h0
    rfl
  · obtain ⟨gap, hgap, hall⟩ := Line.all_append_lf (join [lf] ls)
    have hmark : ∀ l ∈ gap.head?, Line.isMarked l = false := by
      rcases hgap with rfl | rfl
      · simp
      · decide
    have hblank : ∀ raw ∈ gap, Line.kind o raw = .blank := by
      rcases hgap with rfl | rfl
      · simp
      · exact List.forall_mem_singleton.2 rfl
    rw [Line.ended_eq_join h0, hall, Line.dropMark_append _ hmark, run_append]
    simp only [run_blank hblank]
    cases run o o.table 0 [] (Line.dropMark (Line.all (join [lf] ls))) <;> rfl

open Line (Edit)

/-- Edits that add white space, comments and blank lines only change neither whether a text is a
script nor what it means. Everything is found on the line to which its line has moved. -/
theorem parse_edited (o : ParseOptions) {es : List Edit} (h : ∀ e ∈ es, e.Harmless o)
    (hm : ∀ l ∈ (es.filterMap Edit.kept?).head?, Line.isMarked l = false) :
    ((∃ s, parse o (Edit.textBefore es) = .ok s) ↔ ∃ s', parse o (Edit.textAfter es) = .ok s') ∧
    (∀ s s', parse o (Edit.textBefore es) = .ok s → parse o (Edit.textAfter es) = .ok s' →
      List.Forall₂ (Assignment.Moved (Edit.Placed es) Line.Trailed) s s') ∧
    (∀ d d', parse o (Edit.textBefore es) = .error d → parse o (Edit.textAfter es) = .error d' →
      d'.kind = d.kind ∧ d'.message = d.message ∧ d'.hint = d.hint ∧
      (d.kind = .empty → d.line = 0 ∧ d'.line = 0) ∧
      (d.kind ≠ .empty → Edit.Placed es d.line d'.line)) := by
  have hunbroken : ∀ l ∈ es.filterMap Edit.kept?, Line.Unbroken l := by
    intro l hl
    obtain ⟨e, he, hkept⟩ := List.mem_filterMap.1 hl
    cases h e he with
    | keep hl _ => exact Option.some.inj hkept ▸ hl
    | insert _ _ => cases hkept
  have hbefore := parse_join (o := o) (es.filterMap Edit.kept?)
  rw [Line.all_ended hunbroken, Line.dropMark_eq_self hm] at hbefore
  have hafter := parse_join (o := o) (es.map Edit.text)
  rw [Line.dropMark_eq_self (Line.not_marked_of_edits h hm)] at hafter
  have hagree : Agree (Edit.Placed es) Line.Trailed
      (run o o.table 0 [] (es.filterMap Edit.kept?))
      (run o o.table 0 [] (Line.all (Line.ended (es.map Edit.text)))) :=
    run_agree Line.trailed_refl (Line.aligned_edits [] es rfl h) .nil
  rw [Edit.textBefore, Edit.textAfter, hbefore, hafter]
  rcases hagree.complete (o := o) with ⟨s, s', hs, hs', hmoved⟩ | ⟨hd, hd'⟩ |
    ⟨d, d', hd, hd', hmoved⟩
  · rw [hs, hs']
    refine ⟨by simp, ?_, by simp⟩
    rintro _ _ ⟨⟩ ⟨⟩
    exact hmoved
  · rw [hd, hd']
    refine ⟨by simp, by simp, ?_⟩
    rintro _ _ ⟨⟩ ⟨⟩
    exact ⟨rfl, rfl, rfl, fun _ => ⟨rfl, rfl⟩, fun hk => absurd rfl hk⟩
  · have hkind : d.kind ≠ .empty := run_error_kind hd
    rw [hd, hd']
    refine ⟨by simp [Except.bind], by simp [Except.bind], ?_⟩
    rintro _ _ ⟨⟩ ⟨⟩
    exact ⟨hmoved.kind, hmoved.message, hmoved.hint, fun hk => absurd hk hkind,
      fun _ => hmoved.line⟩

/-- A comment line in front, trailers behind all lines, one of them broken and one behind a stray
byte, and a blank line; and a comment that does not mend a line without a colon. -/
theorem parse_edited_scattered :
    (∃ es s s', Edit.textBefore es = utf8 "a: 1\nb:\n  c" ++ [0xC3] ∧
      Edit.textAfter es =
        utf8 "# top\na: 1 \t# one\n  \nb:\u00A0\r\n\n  c" ++ [0xC3] ++ utf8 "\u00A0" ∧
      s.map (·.line) = [1, 2] ∧ s'.map (·.line) = [2, 4] ∧
      parse {} (Edit.textBefore es) = .ok s ∧ parse {} (Edit.textAfter es) = .ok s' ∧
      List.Forall₂ (Assignment.Moved (Edit.Placed es) Line.Trailed) s s') ∧
    (∃ es d d', Edit.textBefore es = utf8 "a" ∧ Edit.textAfter es = utf8 "\na #:" ∧
      parse {} (Edit.textBefore es) = .error d ∧ parse {} (Edit.textAfter es) = .error d' ∧
      d'.message = d.message ∧ Edit.Placed es d.line d'.line) := by
  constructor
  · have h : ∀ e ∈ [.insert (utf8 "# top"),
        .keep (utf8 "a: 1") (utf8 " \t" ++ hashSign :: utf8 " one"),
        .insert (utf8 "  "), .keep (utf8 "b:") (utf8 "\u00A0\r\n"),
        .keep (utf8 "  c" ++ [0xC3]) (utf8 "\u00A0")], Edit.Harmless {} e := by
      simp only [List.forall_mem_cons]
      exact ⟨.insert (by decide) (by decide), .keep (by decide) (.comment (by decide) (by decide)),
        .insert (by decide) (by decide), .keep (by decide) (.white (by decide)),
        .keep (by decide) (.white (by decide)), by simp⟩
    have hs : parse {} (utf8 "a: 1\nb:\n  c" ++ [0xC3]) = .ok
        [⟨utf8 "a", 1, [⟨none, utf8 "1", utf8 "1", utf8 "a: 1", 1⟩]⟩, ⟨utf8 "b", 2,
          [⟨none, utf8 "c" ++ [0xC3], utf8 "c" ++ [0xC3], utf8 "  c" ++ [0xC3], 3⟩]⟩] := by
      decide +kernel
    have hs' : parse {}
        (utf8 "# top\na: 1 \t# one\n  \nb:\u00A0\r\n\n  c" ++ [0xC3] ++ utf8 "\u00A0") = .ok
        [⟨utf8 "a", 2, [⟨none, utf8 "1", utf8 "1", utf8 "a: 1 \t# one", 2⟩]⟩, ⟨utf8 "b", 4,
          [⟨none, utf8 "c" ++ [0xC3], utf8 "c" ++ [0xC3], utf8 "  c" ++ [0xC3] ++ utf8 "\u00A0",
            6⟩]⟩] := by
      decide +kernel
    have hmoved := (parse_edited {} h (by decide +kernel)).2.1 _ _ hs hs'
    refine ⟨_, _, _, ?_, ?_, rfl, rfl, ?_, ?_, hmoved⟩
    · decide +kernel
    · decide +kernel
    · exact hs
    · exact hs'
  · have h : ∀ e ∈ [.insert [], .keep (utf8 "a") ([space] ++ hashSign :: [colon])],
        Edit.Harmless {} e := by
      simp only [List.forall_mem_cons]
      exact ⟨.insert (by decide) (by decide), .keep (by decide) (.comment (by decide) (by decide)),
        by simp⟩
    have hd : parse {} (utf8 "a") = .error (.ofFault .missingColon [] (utf8 "a") 1) := by
      decide +kernel
    have hd' : parse {} (utf8 "\na #:") = .error (.ofFault .missingColon [] (utf8 "a") 2) := by
      decide +kernel
    obtain ⟨-, hmessage, -, -, hplace⟩ := (parse_edited {} h (by decide +kernel)).2.2 _ _ hd hd'
    refine ⟨_, _, _, ?_, ?_, ?_, ?_, hmessage, hplace (by decide)⟩
    · decide +kernel
    · decide +kernel
    · exact hd
    · exact hd'

end Script
end RouteScript
