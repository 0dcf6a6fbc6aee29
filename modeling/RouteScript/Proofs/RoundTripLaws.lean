import RouteScript.Proofs.WrittenLines

/-!
# Round trips

A written script is read back with the same meaning unless one of its names begins with white space
or its first name begins with the byte order mark, and in these two cases it is not
(`parse_format`). Parsed names never begin with white space, but a parsed script can have a marked
first name: the mark is taken off the first physical line only, and formatting may bring an assignment
to that line. This is the only way in which formatting a parsed text can change it
(`parse_format_parsed`).
-/

namespace RouteScript

open Text

namespace Line

theorem isMarked_append_colon (name t : Text) : isMarked (name ++ colon :: t) = isMarked name := by
  rw [Bool.eq_iff_iff, isMarked_iff, isMarked_iff]
  constructor
  · rintro ⟨u, hu⟩
    rcases List.append_eq_append_iff.1 hu with ⟨w, hw, hr⟩ | ⟨w, hw, -⟩
    · cases w with
      | nil => exact ⟨[], by simpa using hw.symm⟩
      | cons b w =>
        have hb : b = colon := (List.cons.inj hr).1.symm
        have hm : colon ∈ byteOrderMark := by simp [hw, hb]
        exact absurd hm (by decide)
    · exact ⟨w, hw⟩
  · rintro ⟨u, rfl⟩
    exact ⟨u ++ colon :: t, by simp⟩

theorem physical_ended_marked {l : Text} {ls : List Text}
    (h : ∀ m ∈ (byteOrderMark ++ l) :: ls, Unbroken m) :
    physical (ended ((byteOrderMark ++ l) :: ls)) = l :: ls := by
  rw [physical, all_ended h, dropMark_marked]

end Line

theorem eq_of_append_colon {u v x y : Text} (hu : colon ∉ u) (hv : colon ∉ v)
    (h : u ++ colon :: x = v ++ colon :: y) : u = v := by
  have hc := cut?_append hu x
  rw [h, cut?_append hv y] at hc
  exact (Prod.mk.inj (Option.some.inj hc)).1.symm

namespace Script

section First

variable {o : ParseOptions} {ops : OperatorTable}

/-- The name that a first line in front of a colon can give is what is left of it by trimming. -/
theorem name_of_first_line {u x : Text} (hu : colon ∉ u) (hp : Line.Plain (u ++ colon :: x))
    {n : Nat} {done : List Assignment} (h : readLine o ops [] n (u ++ colon :: x) = .ok done) :
    ∃ a, done = [a] ∧ a.name = trimStart u := by
  have ht : trim (Line.withoutComment (u ++ colon :: x)) = trimStart u ++ colon :: trimEnd x := by
    rw [hp.withoutComment_eq, trim_append_cons (by decide) (by decide)]
  have hn : ∀ name inline, Line.content o.allowTab (u ++ colon :: x) = .head name inline →
      name = trimStart u := by
    intro name inline hc
    obtain ⟨after, -, hcl, hcolon, -⟩ := Line.content_eq_head_iff.1 hc
    have hs := (Line.isStatement_of_classify (by simp) hcl).2
    rw [ht] at hs
    exact eq_of_append_colon hcolon (fun hm => hu ((trimStart_isInfix u).subset hm)) hs
  rcases readLine_ok_cases h with ⟨hc, -⟩ | ⟨name, hc, rfl⟩ | ⟨name, statement, e, hc, -, rfl⟩ |
    ⟨statement, a, before, e, -, hd, -, -⟩
  · have hb := Line.classify_fst_eq_blank (Line.content_eq_nothing_iff.1 hc)
    rw [ht] at hb
    simp at hb
  · exact ⟨_, rfl, hn _ _ hc⟩
  · exact ⟨_, rfl, hn _ _ hc⟩
  · cases hd

/-- Once an assignment is read, its name stays the first one. -/
theorem run_keeps_first {name : Text} {lines : List Text} {n : Nat} {done done' : List Assignment}
    (hd : (done.map (·.name)).getLast? = some name) (h : run o ops n done lines = .ok done') :
    (done'.map (·.name)).getLast? = some name := by
  refine run_keeps (P := fun d => (d.map (·.name)).getLast? = some name) ?_ hd h
  intro raw _ m d d' hlast hstep
  rcases readLine_ok_cases hstep with ⟨-, rfl⟩ | ⟨nm, -, rfl⟩ | ⟨nm, st, e, -, -, rfl⟩ |
    ⟨st, a, before, e, -, rfl, -, rfl⟩
  · exact hlast
  · rw [List.map_cons, List.getLast?_cons, hlast]
    rfl
  · rw [List.map_cons, List.getLast?_cons, hlast]
    rfl
  · exact hlast

end First

variable {po : ParseOptions} {fo : FormatOptions} {s : Script} {out : Text}

theorem unbroken_of_mem_writtenLines (fo : FormatOptions) (hw : ∀ a ∈ s, a.Writable) :
    ∀ l ∈ writtenLines fo s, Line.Unbroken l := by
  have ha : ∀ a ∈ s, ∀ l ∈ a.writtenLines fo, Line.Unbroken l := fun a ha l hl =>
    (Line.plain_iff.1 ((hw a ha).plain_writtenLines fo l hl)).1
  have hg : ∀ l ∈ fo.gapLines, Line.Unbroken l := by
    intro l hl
    unfold FormatOptions.gapLines at hl
    split at hl
    · rw [List.mem_singleton.1 hl]
      exact Line.unbroken_nil
    · cases hl
  cases s with
  | nil => simp [writtenLines]
  | cons a s =>
    refine List.forall_mem_append.2 ⟨ha a List.mem_cons_self, ?_⟩
    intro l hl
    obtain ⟨b, hb, hl⟩ := List.mem_flatMap.1 hl
    rcases List.mem_append.1 hl with hl | hl
    · exact hg l hl
    · exact ha b (List.mem_cons_of_mem a hb) l hl

/-- A first name that begins with the byte order mark is read back shorter, if at all. -/
theorem first_name_ne_of_marked {a : Assignment} (hout : format fo (a :: s) = .ok out)
    (hm : Line.isMarked a.name = true) {s' : Script} (h : parse po out = .ok s') :
    (s'.map (·.name)).head? ≠ some a.name := by
  obtain ⟨hw, rfl⟩ := format_eq_ok_iff.1 hout
  have ha := hw a List.mem_cons_self
  obtain ⟨u, hu⟩ := Line.isMarked_iff.1 hm
  have hlines := unbroken_of_mem_writtenLines fo hw
  have hplain := ha.plain_writtenLines fo a.headLine List.mem_cons_self
  have hhead : a.headLine = Line.byteOrderMark ++ (u ++ colon :: Assignment.behindColon a.placed.1) := by
    rw [Assignment.headLine, hu, List.append_assoc]
  have hcu : colon ∉ u := fun hc => ha.name.clean.1 (hu ▸ List.mem_append_right _ hc)
  obtain ⟨ls, hls⟩ : ∃ ls, writtenLines fo (a :: s) = a.headLine :: ls := ⟨_, rfl⟩
  rw [hls, hhead] at hlines
  obtain ⟨hne, hrun⟩ := parse_ok h
  rw [hls, hhead, Line.physical_ended_marked hlines] at hrun
  obtain ⟨done, hr, hrest⟩ := run_cons_ok hrun
  rw [hhead] at hplain
  obtain ⟨b, rfl, hb⟩ := name_of_first_line hcu
    (fun x hx => hplain x (List.mem_append_right _ hx)) hr
  have hfirst : (s'.reverse.map (·.name)).getLast? = some b.name := run_keeps_first (by simp) hrest
  rw [List.map_reverse, List.getLast?_reverse] at hfirst
  rw [hfirst, hb]
  intro he
  -- What is left of the name is shorter by the mark at least.
  have hlen := congrArg List.length (Option.some.inj he)
  have hle := (trimStart_isInfix u).length_le
  rw [hu, List.length_append] at hlen
  have hthree : Line.byteOrderMark.length = 3 := rfl
  omega

theorem head?_writtenLines (fo : FormatOptions) (s : Script) :
    (writtenLines fo s).head? = s.head?.map Assignment.headLine := by
  cases s with
  | nil => rfl
  | cons a s => rfl

theorem first_name_eq_of_format {s' : Script} (hs : format fo s = .ok out)
    (hs' : format fo s' = .ok out) : (s'.map (·.name)).head? = (s.map (·.name)).head? := by
  obtain ⟨hw, rfl⟩ := format_eq_ok_iff.1 hs
  obtain ⟨hw', he⟩ := format_eq_ok_iff.1 hs'
  have hl : writtenLines fo s = writtenLines fo s' := by
    rw [← Line.all_ended (unbroken_of_mem_writtenLines fo hw), he,
      Line.all_ended (unbroken_of_mem_writtenLines fo hw')]
  have hh := congrArg List.head? hl
  rw [head?_writtenLines, head?_writtenLines] at hh
  cases s with
  | nil =>
    cases s' with
    | nil => rfl
    | cons b s' => simp at hh
  | cons a s =>
    cases s' with
    | nil => simp at hh
    | cons b s' =>
      have hn : a.name = b.name := eq_of_append_colon (hw a List.mem_cons_self).name.clean.1
        (hw' b List.mem_cons_self).name.clean.1 (Option.some.inj hh)
      simp [hn]

/-- A readable script whose first name is not marked is read back with the same meaning and written
again as before. -/
theorem parse_written (hne : s ≠ []) (hs : ∀ a ∈ s, a.Readable po.table)
    (hm : ∀ a ∈ s.head?, Line.isMarked a.name = false) (hout : format fo s = .ok out) :
    ∃ s', parse po out = .ok s' ∧ meaning s' = meaning s ∧ format fo s' = .ok out := by
  obtain ⟨hw, hlines⟩ := format_eq_ok_iff.1 hout
  obtain ⟨s', hlayout, hrun⟩ := run_scriptLines (o := po) fo hs
  have hphys : Line.physical out = writtenLines fo s := by
    rw [hlines]
    refine Line.physical_ended (unbroken_of_mem_writtenLines fo hw) ?_
    intro l hl
    rw [head?_writtenLines] at hl
    obtain ⟨a, ha, rfl⟩ := Option.map_eq_some_iff.1 hl
    exact (Line.isMarked_append_colon _ _).trans (hm a ha)
  have hne' : s'.reverse ≠ [] := by
    intro h0
    rw [List.reverse_eq_nil_iff] at h0
    subst h0
    cases hlayout
    exact hne rfl
  refine ⟨s', ?_, meaning_eq_of_sameLayout hlayout, format_congr hlayout hout⟩
  rw [parse_eq_run, hphys, hrun]
  simp [Except.bind, complete, hne']

/-- Writing and reading a script gives the script back, and the same text when written again, exactly
when no name begins with white space and the first one not with the byte order mark. -/
theorem parse_format (po : ParseOptions) (fo : FormatOptions) {s : Script} {out : Text}
    (hne : s ≠ [])
    (hops : ∀ a ∈ s, ∀ e ∈ a.expressions, ∀ c, e.condition = some c → po.table.has c.operator = true)
    (hout : format fo s = .ok out) :
    ((∀ a ∈ s, startsBlank a.name = false) → (∀ a ∈ s.head?, Line.isMarked a.name = false) →
      ∃ s', parse po out = .ok s' ∧ meaning s' = meaning s ∧ format fo s' = .ok out) ∧
    ((∃ a ∈ s, startsBlank a.name = true) ∨ (∃ a ∈ s.head?, Line.isMarked a.name = true) →
      ∀ s', parse po out = .ok s' → s'.map (·.name) ≠ s.map (·.name)) := by
  have hw := (format_eq_ok_iff.1 hout).1
  constructor
  · intro hv hm
    refine parse_written hne (fun a ha => ?_) hm hout
    exact ⟨(hw a ha).name, hv a ha,
      fun e he => ⟨(hw a ha).expressions e he, hops a ha e he⟩⟩
  · rintro (⟨a, ha, hb⟩ | ⟨a, ha, hm⟩) s' hs' heq
    · have hmem : a.name ∈ s'.map (·.name) := heq ▸ List.mem_map_of_mem ha
      obtain ⟨b, hb', hn⟩ := List.mem_map.1 hmem
      have hv := (readable_of_parse hs' b hb').visible
      rw [hn, hb] at hv
      cases hv
    · cases s with
      | nil => cases ha
      | cons b s =>
        cases ha
        exact first_name_ne_of_marked hout hm hs' (by rw [heq]; rfl)

/-- Stray bytes, a colon in an operand, a second question mark, a name with a blank at its end and a
mark on a later name all survive; a no-break space in front of a name does not. -/
theorem parse_format_stray_and_blank :
    (∃ s', parse { extraOperators := [utf8 "~"] }
        ([0xC3, 0x20] ++ utf8 ": a:b ~ " ++ [0x80] ++ utf8 " ? x ? y\n  1\n\uFEFFz:\n") = .ok s' ∧
      meaning s' = [([0xC3, 0x20], [(some ⟨utf8 "a:b", utf8 "~", [0x80]⟩, utf8 "x ? y"),
        (none, utf8 "1")]), (utf8 "\uFEFFz", [])]) ∧
    ∀ s', parse {} (utf8 "\u00A0z:\n") = .ok s' → s'.map (·.name) ≠ [utf8 "\u00A0z"] := by
  have hstray : format {} [⟨[0xC3, 0x20], 7,
      [⟨some ⟨utf8 "a:b", utf8 "~", [0x80]⟩, utf8 "x ? y", [], [], 7⟩,
        ⟨none, utf8 "1", [], [], -3⟩]⟩, ⟨utf8 "\uFEFFz", 0, []⟩] = .ok
      ([0xC3, 0x20] ++ utf8 ": a:b ~ " ++ [0x80] ++ utf8 " ? x ? y\n  1\n\uFEFFz:\n") := by
    decide +kernel
  have hblank : format {} [⟨utf8 "\u00A0z", 1, []⟩] = .ok (utf8 "\u00A0z:\n") := by
    decide +kernel
  constructor
  · obtain ⟨s', hp, hm, -⟩ := (parse_format { extraOperators := [utf8 "~"] } {} (by decide)
      (by decide +kernel) hstray).1 (by decide +kernel) (by decide +kernel)
    exact ⟨s', hp, hm⟩
  · exact (parse_format {} {} (by decide) (by decide +kernel) hblank).2 (.inl (by decide +kernel))

/-- Formatting a parsed text keeps its meaning and settles its form, unless the first name begins
with the byte order mark: then the script read back has another first name and another form. -/
theorem parse_format_parsed (po : ParseOptions) (fo : FormatOptions) {t : Text} {s : Script}
    (h : parse po t = .ok s) : ∃ out, format fo s = .ok out ∧
    ((∀ a ∈ s.head?, Line.isMarked a.name = false) →
      ∃ s', parse po out = .ok s' ∧ meaning s' = meaning s ∧ format fo s' = .ok out) ∧
    ((∃ a ∈ s.head?, Line.isMarked a.name = true) →
      ∀ s', parse po out = .ok s' → meaning s' ≠ meaning s ∧ format fo s' ≠ .ok out) := by
  have hr := readable_of_parse h
  have hout : format fo s = .ok (Line.ended (writtenLines fo s)) :=
    format_eq_ok_iff.2 ⟨fun a ha => (hr a ha).writable, rfl⟩
  refine ⟨_, hout, fun hm => parse_written (parse_ok h).1 hr hm hout, ?_⟩
  rintro ⟨a, ha, hm⟩ s' hs'
  cases s with
  | nil => cases ha
  | cons b s =>
    cases ha
    have hne := first_name_ne_of_marked hout hm hs'
    constructor
    · intro heq
      have hn := congrArg (List.map Prod.fst) heq
      simp only [meaning, List.map_map] at hn
      exact hne (congrArg List.head? hn)
    · intro hf
      exact hne (first_name_eq_of_format hout hf)

/-- A comment line in front of a marked name: formatting drops the comment and brings the mark to the
start of the text. -/
theorem parse_format_parsed_marked : ∃ s out,
    parse {} (utf8 "#\n\uFEFFa: 1\n") = .ok s ∧ format {} s = .ok out ∧
      ∀ s', parse {} out = .ok s' → meaning s' ≠ meaning s ∧ format {} s' ≠ .ok out := by
  have h : parse {} (utf8 "#\n\uFEFFa: 1\n") = .ok [⟨utf8 "\uFEFFa", 2,
      [⟨none, utf8 "1", utf8 "1", utf8 "\uFEFFa: 1", 2⟩]⟩] := by decide +kernel
  obtain ⟨out, hout, -, hmarked⟩ := parse_format_parsed {} {} h
  exact ⟨_, out, h, hout, hmarked ⟨_, rfl, by decide +kernel⟩⟩

/-- The same text read, written and read again: the name has lost its mark. -/
theorem mark_lost_by_formatting :
    parse {} (utf8 "#\n\uFEFFa: 1\n") = .ok [⟨utf8 "\uFEFFa", 2,
      [⟨none, utf8 "1", utf8 "1", utf8 "\uFEFFa: 1", 2⟩]⟩] ∧
    format {} [⟨utf8 "\uFEFFa", 2, [⟨none, utf8 "1", utf8 "1", utf8 "\uFEFFa: 1", 2⟩]⟩] =
      .ok (utf8 "\uFEFFa: 1\n") ∧
    parse {} (utf8 "\uFEFFa: 1\n") = .ok [⟨utf8 "a", 1,
      [⟨none, utf8 "1", utf8 "1", utf8 "a: 1", 1⟩]⟩] := by
  decide +kernel

end Script
end RouteScript
