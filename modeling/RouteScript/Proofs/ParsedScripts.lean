import RouteScript.Proofs.ConditionReading
import RouteScript.Proofs.ReadingSteps

/-!
# What parsed scripts look like

Every assignment of a parsed script is `Readable`: the writer accepts it, its name begins with a
visible character, and its operators are known. One line of input keeps this property of the
assignments read so far (`readable_step`), so a whole text does (`readable_of_parse`), and a parsed
script can be written under all options (`format_parsed`).
-/

namespace RouteScript

open Text

namespace Line

/-- The statement is a trimmed part of the line in front of its comment. -/
structure IsStatement (raw statement : Text) : Prop where
  ne_nil : statement ≠ []
  trimmed : trim statement = statement
  uncommented : hashSign ∉ statement
  subset : statement ⊆ raw

theorem isStatement_of_classify {allowTab : Bool} {raw statement : Text} {kind : LineKind}
    (hk : kind ≠ .blank) (h : classify allowTab raw = (kind, statement)) :
    IsStatement raw statement ∧ statement = trim (withoutComment raw) := by
  have hsub : trim (withoutComment raw) ⊆ withoutComment raw := (trim_isInfix _).subset
  have hh : hashSign ∉ withoutComment raw := by
    intro hm
    have := List.mem_takeWhile_imp hm
    simp at this
  unfold classify at h
  dsimp only at h
  split at h
  · cases h
    exact absurd rfl hk
  · next hne =>
    have hs : trim (withoutComment raw) = statement := by
      split at h <;> exact congrArg Prod.snd h
    subst hs
    refine ⟨⟨hne, trim_trim _, fun hm => hh (hsub hm), ?_⟩, rfl⟩
    exact List.Subset.trans hsub (List.takeWhile_prefix _).subset

theorem IsStatement.inline {raw name after statement : Text}
    (h : IsStatement raw (name ++ colon :: after)) (hi : inlineStatement after = some statement) :
    IsStatement raw statement := by
  unfold inlineStatement at hi
  split at hi
  · cases hi
  next hne =>
  cases hi
  have hsub : trim after ⊆ name ++ colon :: after := trim_subset_append_cons name colon after
  refine ⟨hne, trim_trim after, fun hm => h.uncommented (hsub hm), ?_⟩
  exact List.Subset.trans hsub h.subset

end Line

namespace FormatOptions

theorem isIndentByte_cases {b : UInt8} (h : isIndentByte b = true) : b = space ∨ b = tab := by
  simpa [isIndentByte] using h

theorem blank_of_isIndentByte {b : UInt8} (h : isIndentByte b = true) :
    b < 0x80 ∧ (Symbol.ascii b).isBlank = true := by
  rcases isIndentByte_cases h with rfl | rfl
  · decide
  · decide

theorem startsBlank_of_isIndentByte {b : UInt8} (h : isIndentByte b = true) (t : Text) :
    startsBlank (b :: t) = true := by
  obtain ⟨hb, hv⟩ := blank_of_isIndentByte h
  rw [startsBlank, symbols_cons_ascii hb]
  exact hv

end FormatOptions

structure Expression.Readable (ops : OperatorTable) (e : Expression) : Prop where
  writable : e.Writable
  known : ∀ c, e.condition = some c → ops.has c.operator = true

structure Assignment.Readable (ops : OperatorTable) (a : Assignment) : Prop where
  name : IsName a.name
  visible : startsBlank a.name = false
  expressions : ∀ e ∈ a.expressions, e.Readable ops

theorem Assignment.Readable.writable {ops : OperatorTable} {a : Assignment} (h : a.Readable ops) :
    a.Writable :=
  ⟨h.name, fun e he => (h.expressions e he).writable⟩

theorem Assignment.Readable.add {ops : OperatorTable} {a : Assignment} {e : Expression}
    (h : a.Readable ops) (he : e.Readable ops) : (a.add e).Readable ops := by
  refine ⟨h.name, h.visible, ?_⟩
  intro f hf
  rcases List.mem_append.1 hf with hf | hf
  · exact h.expressions f hf
  · rw [List.mem_singleton.1 hf]
    exact he

namespace Script

variable {o : ParseOptions} {ops : OperatorTable}

theorem readable_of_readExpression {n : Nat} {raw statement : Text} {e : Expression}
    (hu : Line.Unbroken raw) (hs : Line.IsStatement raw statement)
    (h : readExpression o ops n raw statement = .ok e) : e.Readable ops := by
  obtain ⟨c, v, hp, rfl⟩ := readExpression_ok h
  obtain ⟨hne, ht, hsub, hbare, htok⟩ :=
    Expression.readParts_ok_spec hs.ne_nil hs.trimmed hs.uncommented hp
  have huv : Line.Unbroken v := hu.of_subset (List.Subset.trans hsub hs.subset)
  refine ⟨⟨hne, ht, ⟨fun hm => hs.uncommented (hsub hm), huv.2, huv.1⟩, hbare, ?_⟩, ?_⟩
  · exact fun d hd => (htok d hd).2
  · exact fun d hd => (htok d hd).1

theorem isName_of_head {raw name after : Text} (hu : Line.Unbroken raw)
    (hs : Line.IsStatement raw (name ++ colon :: after)) (hc : colon ∉ name) (hne : name ≠ []) :
    IsName name ∧ startsBlank name = false := by
  have hv : startsBlank name = false := by
    rw [← startsBlank_append_ascii (b := colon) (by decide) hne after]
    exact (trim_eq_self_iff.1 hs.trimmed).1
  have hsub : name ⊆ raw := List.Subset.trans (List.subset_append_left name _) hs.subset
  have hun : Line.Unbroken name := hu.of_subset hsub
  refine ⟨⟨trim_ne_nil hne hv, ?_, hc, ?_, hun.2, hun.1⟩, hv⟩
  · cases name with
    | nil => rfl
    | cons b t =>
      cases hi : FormatOptions.isIndentByte b with
      | false => simp [hi]
      | true =>
        rw [FormatOptions.startsBlank_of_isIndentByte hi] at hv
        cases hv
  · exact fun hm => hs.uncommented (List.mem_append_left _ hm)

/-- A line keeps the assignments read so far readable. -/
theorem readable_step {raw : Text} (hu : Line.Unbroken raw) {n : Nat}
    {done done' : List Assignment} (hd : ∀ a ∈ done, a.Readable ops)
    (h : readLine o ops done n raw = .ok done') : ∀ a ∈ done', a.Readable ops := by
  rcases readLine_ok_cases h with ⟨-, rfl⟩ | ⟨name, hc, rfl⟩ | ⟨name, statement, e, hc, he, rfl⟩ |
    ⟨statement, a, before, e, hc, rfl, he, rfl⟩
  · exact hd
  · obtain ⟨after, -, hcl, hcolon, hne⟩ := Line.content_eq_head_iff.1 hc
    obtain ⟨hs, -⟩ := Line.isStatement_of_classify (by simp) hcl
    obtain ⟨hn, hv⟩ := isName_of_head hu hs hcolon hne
    exact List.forall_mem_cons.2 ⟨⟨hn, hv, by simp⟩, hd⟩
  · obtain ⟨after, hin, hcl, hcolon, hne⟩ := Line.content_eq_head_iff.1 hc
    obtain ⟨hs, -⟩ := Line.isStatement_of_classify (by simp) hcl
    obtain ⟨hn, hv⟩ := isName_of_head hu hs hcolon hne
    have her := readable_of_readExpression hu (hs.inline hin.symm) he
    exact List.forall_mem_cons.2 ⟨⟨hn, hv, List.forall_mem_singleton.2 her⟩, hd⟩
  · obtain ⟨hs, -⟩ := Line.isStatement_of_classify (by simp) (Line.content_eq_indented_iff.1 hc)
    have her := readable_of_readExpression hu hs he
    obtain ⟨ha, hb⟩ := List.forall_mem_cons.1 hd
    exact List.forall_mem_cons.2 ⟨ha.add her, hb⟩

theorem complete_ok {done : List Assignment} {s : Script} (h : complete o done = .ok s) :
    s = done.reverse ∧ done ≠ [] := by
  unfold complete at h
  split at h
  · cases h
  · next hne =>
    cases h
    exact ⟨rfl, hne⟩

theorem parse_ok {t : Text} {s : Script} (h : parse o t = .ok s) :
    s ≠ [] ∧ run o o.table 0 [] (Line.physical t) = .ok s.reverse := by
  rw [parse_eq_run] at h
  cases hr : run o o.table 0 [] (Line.physical t) with
  | error d => simp [hr, Except.bind] at h
  | ok done =>
    rw [hr] at h
    obtain ⟨rfl, hne⟩ := complete_ok h
    exact ⟨by simpa using hne, by rw [List.reverse_reverse]⟩

/-- Whatever was parsed is readable. -/
theorem readable_of_parse {t : Text} {s : Script} (h : parse o t = .ok s) :
    ∀ a ∈ s, a.Readable o.table := by
  have hr := run_keeps (P := fun done => ∀ a ∈ done, a.Readable o.table)
    (fun raw hraw n done done' hd hstep =>
      readable_step (Line.unbroken_of_mem_physical hraw) hd hstep)
    (by simp) (parse_ok h).2
  exact fun a ha => hr a (List.mem_reverse.2 ha)

theorem format_of_parse (fo : FormatOptions) {t : Text} {s : Script} (h : parse o t = .ok s) :
    format fo s = .ok (Line.ended (writtenLines fo s)) :=
  format_eq_ok_iff.2 ⟨fun a ha => (readable_of_parse h a ha).writable, rfl⟩

/-- The writer never refuses what was parsed, since every name, value and condition token of a parsed
script meets what the writer asks. -/
theorem format_parsed (po : ParseOptions) (fo : FormatOptions) {t : Text} {s : Script}
    (h : parse po t = .ok s) : (∃ out, format fo s = .ok out) ∧
      ∀ a ∈ s, IsName a.name ∧ startsBlank a.name = false ∧ ∀ e ∈ a.expressions, e.Writable := by
  have hr := readable_of_parse h
  refine ⟨⟨_, format_eq_ok_iff.2 ⟨fun a ha => (hr a ha).writable, rfl⟩⟩, ?_⟩
  intro a ha
  exact ⟨(hr a ha).name, (hr a ha).visible, (hr a ha).writable.expressions⟩

/-- A commented script with a condition, read with tabs allowed and written with wide indentation. -/
theorem format_parsed_guarded : ∃ s out,
    parse { allowTab := true } (utf8 "v :\t# limit\n\tkind  ==  road ? 50?\n  30\n") = .ok s ∧
      s.map (·.name) = [utf8 "v "] ∧ format { indent := utf8 "    " } s = .ok out := by
  have h : parse { allowTab := true } (utf8 "v :\t# limit\n\tkind  ==  road ? 50?\n  30\n") =
      .ok [⟨utf8 "v ", 1,
        [⟨some ⟨utf8 "kind", utf8 "==", utf8 "road"⟩, utf8 "50?", utf8 "kind  ==  road ? 50?",
            utf8 "\tkind  ==  road ? 50?", 2⟩,
          ⟨none, utf8 "30", utf8 "30", utf8 "  30", 3⟩]⟩] := by decide +kernel
  obtain ⟨out, hout⟩ := (format_parsed _ { indent := utf8 "    " } h).1
  exact ⟨_, out, h, rfl, hout⟩

end Script
end RouteScript
