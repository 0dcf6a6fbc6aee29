import RouteScript.Proofs.ParsedScripts

/-!
# Reading written lines

The lines of a written assignment are read back as an assignment of the same layout
(`run_writtenLines`): the head line gives the name and the expression behind the colon, each indented
line one expression more. The only thing that can go wrong with a name the writer accepts is that it
begins with white space, so names are asked to begin with a visible character here.
-/

namespace RouteScript

open Text

namespace Line

/-- The line holds neither a terminator nor a comment sign. -/
def Plain (l : Text) : Prop := ∀ b ∈ l, b ≠ lf ∧ b ≠ cr ∧ b ≠ hashSign

theorem Plain.append {l r : Text} (hl : Plain l) (hr : Plain r) : Plain (l ++ r) :=
  List.forall_mem_append.2 ⟨hl, hr⟩

theorem Plain.cons {b : UInt8} {l : Text} (hb : b ≠ lf ∧ b ≠ cr ∧ b ≠ hashSign) (hl : Plain l) :
    Plain (b :: l) :=
  List.forall_mem_cons.2 ⟨hb, hl⟩

theorem plain_iff {l : Text} : Plain l ↔ Unbroken l ∧ hashSign ∉ l := by
  constructor
  · intro h
    exact ⟨⟨fun hm => (h _ hm).1 rfl, fun hm => (h _ hm).2.1 rfl⟩, fun hm => (h _ hm).2.2 rfl⟩
  · rintro ⟨⟨hlf, hcr⟩, hh⟩ b hb
    exact ⟨fun he => hlf (he ▸ hb), fun he => hcr (he ▸ hb), fun he => hh (he ▸ hb)⟩

theorem Plain.withoutComment_eq {l : Text} (h : Plain l) : withoutComment l = l := by
  rw [withoutComment, List.takeWhile_eq_self_iff]
  intro b hb
  simpa using (h b hb).2.2

end Line

open Line (Plain)

theorem IsToken.plain {t : Text} (h : IsToken t) : Plain t := by
  refine Line.plain_iff.2 ⟨⟨?_, ?_⟩, h.2.2⟩
  · exact not_mem_of_isSingle h.1 (by decide) (by decide)
  · exact not_mem_of_isSingle h.1 (by decide) (by decide)

theorem IsName.plain {name : Text} (h : IsName name) : Plain name :=
  Line.plain_iff.2 ⟨⟨h.clean.2.2.2, h.clean.2.2.1⟩, h.clean.2.1⟩

theorem IsName.ne_nil {name : Text} (h : IsName name) : name ≠ [] := by
  rintro rfl
  exact h.visible rfl

namespace Expression

variable {e : Expression}

theorem Writable.plain_render (he : e.Writable) : Plain e.render := by
  have hv : Plain e.value := Line.plain_iff.2 ⟨⟨he.clean.2.2, he.clean.2.1⟩, he.clean.1⟩
  cases hc : e.condition with
  | none =>
    rw [render_of_none hc]
    exact hv
  | some c =>
    obtain ⟨hl, ho, hr⟩ := Condition.forall_token_iff.1 (he.tokens c hc)
    have hcond : Plain c.render := by
      rw [Condition.render_eq]
      exact hl.plain.append (.cons (by decide) (ho.plain.append (.cons (by decide) hr.plain)))
    rw [render_of_some hc]
    exact (hcond.append (.cons (by decide) (by simp [Plain]))).append
      (.cons (by decide) (.cons (by decide) hv))

theorem Writable.render_ne_nil (he : e.Writable) : e.render ≠ [] := by
  cases hc : e.condition with
  | none =>
    rw [render_of_none hc]
    exact he.value_ne_nil
  | some c => simp [render_of_some hc]

end Expression

namespace FormatOptions

theorem usedIndent_spec (o : FormatOptions) :
    ∃ w, o.usedIndent = space :: w ∧ ∀ b ∈ space :: w, isIndentByte b = true := by
  unfold usedIndent
  split
  · next h =>
    obtain ⟨hh, ha⟩ := h
    obtain ⟨w, hw⟩ := List.head?_eq_some_iff.1 hh
    refine ⟨w, hw, ?_⟩
    rw [← hw]
    exact List.all_eq_true.1 ha
  · exact ⟨[space], rfl, by simp [isIndentByte]⟩

theorem plain_usedIndent (o : FormatOptions) : Plain o.usedIndent := by
  obtain ⟨w, hw, hb⟩ := o.usedIndent_spec
  rw [hw]
  intro b hm
  rcases isIndentByte_cases (hb b hm) with rfl | rfl
  · decide
  · decide

theorem trim_usedIndent_append (o : FormatOptions) (t : Text) : trim (o.usedIndent ++ t) = trim t := by
  obtain ⟨w, hw, hb⟩ := o.usedIndent_spec
  rw [hw]
  exact trim_append_of_blank (fun b hm => blank_of_isIndentByte (hb b hm)) t

end FormatOptions

namespace Assignment

theorem plain_behindColon {x : Option Expression} (h : ∀ e ∈ x, e.Writable) :
    Plain (behindColon x) := by
  cases x with
  | none => simp [behindColon, Plain]
  | some e => exact .cons (by decide) (h e rfl).plain_render

theorem endsBlank_behindColon {x : Option Expression} (h : ∀ e ∈ x, e.Writable) :
    endsBlank (behindColon x) = false := by
  cases x with
  | none => rfl
  | some e =>
    have he := h e rfl
    rw [behindColon, ← List.nil_append (space :: e.render),
      endsBlank_append_ascii (by decide) _ he.render_ne_nil]
    exact (trim_eq_self_iff.1 he.trim_render).2

theorem inlineStatement_behindColon {x : Option Expression} (h : ∀ e ∈ x, e.Writable) :
    Line.inlineStatement (behindColon x) = x.map Expression.render := by
  cases x with
  | none => rfl
  | some e =>
    have he := h e rfl
    have ht : trim (space :: e.render) = e.render := by
      rw [trim_cons_blank (by decide) (by decide), he.trim_render]
    rw [behindColon, Line.inlineStatement, ht, if_neg he.render_ne_nil]
    rfl

theorem Writable.plain_writtenLines {a : Assignment} (ha : a.Writable) (o : FormatOptions) :
    ∀ l ∈ a.writtenLines o, Plain l := by
  obtain ⟨hn, hi, hb⟩ := (Draft.writable_iff_placed a).1 ha
  refine List.forall_mem_cons.2 ⟨?_, ?_⟩
  · exact hn.plain.append (.cons (by decide) (plain_behindColon hi))
  · intro l hl
    obtain ⟨e, he, rfl⟩ := List.mem_map.1 hl
    exact o.plain_usedIndent.append (hb e he).plain_render

end Assignment

namespace Line

theorem isIndented_eq_false {name : Text} (hn : IsName name) (allowTab : Bool) (t : Text) :
    isIndented allowTab (name ++ t) = false := by
  cases name with
  | nil => exact absurd rfl hn.ne_nil
  | cons b name =>
    have hb := hn.unindented
    simp only [List.head?_cons, Option.any_some, FormatOptions.isIndentByte,
      Bool.or_eq_false_iff] at hb
    simp [isIndented, hb.1, hb.2]

theorem content_headLine {name : Text} (hn : IsName name) (hv : startsBlank name = false)
    {x : Option Expression} (hx : ∀ e ∈ x, e.Writable) (allowTab : Bool) :
    content allowTab (name ++ colon :: Assignment.behindColon x) =
      .head name (x.map Expression.render) := by
  have hp : Plain (name ++ colon :: Assignment.behindColon x) :=
    hn.plain.append (.cons (by decide) (Assignment.plain_behindColon hx))
  have ht : trim (name ++ colon :: Assignment.behindColon x) =
      name ++ colon :: Assignment.behindColon x := by
    rw [trim_append_cons (by decide) (by decide), trimStart_eq_self hv,
      trimEnd_eq_self (Assignment.endsBlank_behindColon hx)]
  have hc : classify allowTab (name ++ colon :: Assignment.behindColon x) =
      (.assignment, name ++ colon :: Assignment.behindColon x) := by
    rw [classify, hp.withoutComment_eq, ht, isIndented_eq_false hn]
    simp
  refine content_eq_head_iff.2 ⟨_, ?_, hc, hn.clean.1, hn.ne_nil⟩
  rw [Assignment.inlineStatement_behindColon hx]

theorem content_indentedLine {e : Expression} (he : e.Writable) (o : FormatOptions)
    (allowTab : Bool) : content allowTab (o.usedIndent ++ e.render) = .indented e.render := by
  have hp : Plain (o.usedIndent ++ e.render) := o.plain_usedIndent.append he.plain_render
  have ht : trim (o.usedIndent ++ e.render) = e.render := by
    rw [o.trim_usedIndent_append, he.trim_render]
  have hi : isIndented allowTab (o.usedIndent ++ e.render) = true := by
    obtain ⟨w, hw, -⟩ := o.usedIndent_spec
    rw [hw]
    rfl
  rw [content_eq_indented_iff, classify, hp.withoutComment_eq, ht, hi, if_neg he.render_ne_nil]
  rfl

end Line

namespace Script

variable {o : ParseOptions} {ops : OperatorTable}

theorem readExpression_render {e : Expression} (he : e.Readable ops) (n : Nat) (raw : Text) :
    readExpression o ops n raw e.render = .ok ⟨e.condition, e.value, e.render, raw, n⟩ := by
  rw [readExpression, Expression.read, Expression.readParts_render (he.writable.legible he.known)]
  rfl

theorem readLine_indentedLine {e : Expression} (he : e.Readable ops) (fo : FormatOptions)
    (a : Assignment) (before : List Assignment) (n : Nat) : ∃ f : Expression,
      f.meaning = e.meaning ∧ f.line = n ∧
        readLine o ops (a :: before) n (fo.usedIndent ++ e.render) = .ok (a.add f :: before) := by
  refine ⟨⟨e.condition, e.value, e.render, fo.usedIndent ++ e.render, n⟩, rfl, rfl, ?_⟩
  rw [readLine_eq, Line.content_indentedLine he.writable]
  simp only [readExpression_render he]
  rfl

/-- Indented lines add their expressions to the assignment above them, each with a later line. -/
theorem run_indentedLines (fo : FormatOptions) {es : List Expression}
    (hes : ∀ e ∈ es, e.Readable ops) (n : Nat) (a : Assignment) (before : List Assignment) :
    ∃ fs : List Expression, fs.map Expression.meaning = es.map Expression.meaning ∧
      (∀ f ∈ fs, (n : Int) < f.line) ∧
      run o ops n (a :: before) (es.map fun e => fo.usedIndent ++ e.render) =
        .ok ({ a with expressions := a.expressions ++ fs } :: before) := by
  induction es generalizing n a with
  | nil => exact ⟨[], rfl, by simp, by simp⟩
  | cons e es ih =>
    obtain ⟨he, hes⟩ := List.forall_mem_cons.1 hes
    obtain ⟨f, hm, hl, hf⟩ := readLine_indentedLine (o := o) he fo a before (n + 1)
    obtain ⟨fs, hms, hls, hfs⟩ := ih hes (n + 1) (a.add f)
    refine ⟨f :: fs, ?_, ?_, ?_⟩
    · rw [List.map_cons, List.map_cons, hm, hms]
    · refine List.forall_mem_cons.2 ⟨by omega, fun g hg => ?_⟩
      have := hls g hg
      omega
    · rw [List.map_cons, run_cons, hf]
      refine Eq.trans hfs ?_
      simp only [Assignment.add, List.append_assoc, List.singleton_append]

/-- The head line opens an assignment with the expression behind the colon. -/
theorem readLine_headLine {a : Assignment} (ha : a.Readable ops) (done : List Assignment) (n : Nat) :
    ∃ x : Option Expression, x.map Expression.meaning = a.placed.1.map Expression.meaning ∧
      (∀ f ∈ x, f.line = n) ∧ readLine o ops done n a.headLine = .ok (⟨a.name, n, x.toList⟩ :: done) := by
  have hr := (a.forall_expressions_iff.1 ha.expressions).1
  have hc := Line.content_headLine ha.name ha.visible (fun e he => (hr e he).writable) o.allowTab
  cases hx : a.placed.1 with
  | none =>
    refine ⟨none, rfl, by simp, ?_⟩
    rw [Assignment.headLine, readLine_eq, hc, hx]
    rfl
  | some e =>
    refine ⟨some ⟨e.condition, e.value, e.render, a.headLine, n⟩, rfl, by simp, ?_⟩
    rw [readLine_eq, Assignment.headLine, hc, hx]
    simp only [Option.map_some, readExpression_render (hr e hx)]
    rfl

/-- The lines of a written assignment are read back as an assignment of the same layout. -/
theorem run_writtenLines (fo : FormatOptions) {a : Assignment} (ha : a.Readable ops)
    (done : List Assignment) (n : Nat) : ∃ b : Assignment, b.SameLayout a ∧
      run o ops n done (a.writtenLines fo) = .ok (b :: done) := by
  have hr := (a.forall_expressions_iff.1 ha.expressions).2
  obtain ⟨x, hxm, hxl, hx⟩ := readLine_headLine (o := o) ha done (n + 1)
  obtain ⟨fs, hfm, hfl, hfs⟩ := run_indentedLines (o := o) fo hr (n + 1)
    ⟨a.name, (n + 1 : Nat), x.toList⟩ done
  have hp : (⟨a.name, (n + 1 : Nat), x.toList ++ fs⟩ : Assignment).placed = (x, fs) := by
    cases x with
    | some f => simp [Assignment.placed, hxl f rfl]
    | none =>
      cases fs with
      | nil => rfl
      | cons f fs =>
        have hf := hfl f List.mem_cons_self
        simp [Assignment.placed, show f.line ≠ (n : Int) + 1 by omega]
  refine ⟨⟨a.name, (n + 1 : Nat), x.toList ++ fs⟩, ⟨rfl, ?_, ?_⟩, ?_⟩
  · rw [hp]
    exact hxm
  · rw [hp]
    exact hfm
  · rw [Assignment.writtenLines, run_cons, hx]
    exact hfs

theorem run_gapLines (fo : FormatOptions) (done : List Assignment) (n : Nat) :
    run o ops n done fo.gapLines = .ok done := by
  unfold FormatOptions.gapLines
  split
  · rfl
  · rfl

theorem run_laterLines (fo : FormatOptions) {s : Script} (hs : ∀ a ∈ s, a.Readable ops)
    (done : List Assignment) (n : Nat) : ∃ s' : Script, List.Forall₂ Assignment.SameLayout s' s ∧
      run o ops n done (s.flatMap fun a => fo.gapLines ++ a.writtenLines fo) =
        .ok (s'.reverse ++ done) := by
  induction s generalizing n done with
  | nil => exact ⟨[], .nil, rfl⟩
  | cons a s ih =>
    obtain ⟨ha, hs⟩ := List.forall_mem_cons.1 hs
    obtain ⟨b, hb, hrun⟩ := run_writtenLines (o := o) fo ha done (n + fo.gapLines.length)
    obtain ⟨s', hs', hrest⟩ := ih hs (b :: done)
      (n + (fo.gapLines ++ a.writtenLines fo).length)
    refine ⟨b :: s', .cons hb hs', ?_⟩
    rw [List.flatMap_cons, run_append, run_append, run_gapLines]
    simp only [Except.bind, hrun]
    rw [hrest]
    simp

/-- The lines of a written script are read back as a script of the same layout. -/
theorem run_scriptLines (fo : FormatOptions) {s : Script} (hs : ∀ a ∈ s, a.Readable ops) :
    ∃ s' : Script, List.Forall₂ Assignment.SameLayout s' s ∧
      run o ops 0 [] (writtenLines fo s) = .ok s'.reverse := by
  cases s with
  | nil => exact ⟨[], .nil, rfl⟩
  | cons a s =>
    obtain ⟨ha, hs⟩ := List.forall_mem_cons.1 hs
    obtain ⟨b, hb, hrun⟩ := run_writtenLines (o := o) fo ha [] 0
    obtain ⟨s', hs', hrest⟩ := run_laterLines (o := o) fo hs [b] (0 + (a.writtenLines fo).length)
    refine ⟨b :: s', .cons hb hs', ?_⟩
    rw [writtenLines, run_append, hrun]
    simp only [Except.bind, hrest, List.reverse_cons]

end Script
end RouteScript
