import RouteScript.Source
import RouteScript.Proofs.Grammar

/-!
# Lines shown in diagnostics

A snippet looks its line up by line feeds alone and drops one carriage return from the end, while
reading ends a line at a lone carriage return as well. The two agree on the first `n` lines exactly
when no carriage return stands alone among them (`returnsPaired_iff_sourceLine?`), and then the
snippet of a refused text shows the line that was refused (`snippet_of_refused`).
-/

namespace RouteScript

open Text

namespace Text

theorem splitAt_eq_splitOn (b : UInt8) (t : Text) : splitAt b t = t.splitOn b := by
  induction t with
  | nil => rfl
  | cons c t ih =>
    rw [splitAt, ih, List.splitOn_cons_eq_if_modifyHead]
    by_cases hc : c = b
    · simp [hc]
    · cases hs : t.splitOn b with
      | nil => exact absurd hs (List.splitOn_ne_nil b t)
      | cons p ps => simp [hc]

/-- The part that holds two bytes side by side is the one behind the separators in front of them. -/
theorem exists_part_with_pair {b c d : UInt8} (hc : c ≠ b) (hd : d ≠ b) (u v : Text) :
    ∃ x y, (splitAt b (u ++ c :: d :: v))[u.count b]? = some (x ++ c :: d :: y) := by
  simp only [splitAt_eq_splitOn]
  induction u with
  | nil =>
    cases hs : v.splitOn b with
    | nil => exact absurd hs (List.splitOn_ne_nil b v)
    | cons p ps => exact ⟨[], p, by simp [List.splitOn_cons_eq_if_modifyHead, hc, hd, hs]⟩
  | cons a u ih =>
    obtain ⟨x, y, h⟩ := ih
    rw [List.cons_append, List.splitOn_cons_eq_if_modifyHead]
    by_cases ha : a = b
    · exact ⟨x, y, by simp [ha, h]⟩
    · rw [List.count_cons_of_ne ha, if_neg (by simpa using ha), List.getElem?_modifyHead, h]
      by_cases h0 : u.count b = 0
      · exact ⟨a :: x, y, by simp [h0]⟩
      · exact ⟨x, y, by simp [h0]⟩

theorem dropEnding_concat (b : UInt8) (t : Text) : dropEnding (t ++ [b]) [b] = t := by
  have hend : [b].isSuffixOf (t ++ [b]) = true :=
    List.isSuffixOf_iff_suffix.2 (List.suffix_append t [b])
  simp [dropEnding, hend]

theorem dropEnding_singleton (b : UInt8) (t : Text) :
    t = dropEnding t [b] ∨ t = dropEnding t [b] ++ [b] := by
  unfold dropEnding
  split
  · next h => exact .inr (List.suffix_iff_eq_append.1 (List.isSuffixOf_iff_suffix.1 h)).symm
  · exact .inl rfl

theorem dropEnding_of_notMem {b : UInt8} {t : Text} (h : b ∉ t) : dropEnding t [b] = t := by
  rcases dropEnding_singleton b t with he | he
  · exact he.symm
  · exact absurd (he ▸ List.mem_concat_self) h

theorem mem_dropEnding (b c : UInt8) (x y : Text) : b ∈ dropEnding (x ++ b :: c :: y) [b] := by
  rcases dropEnding_singleton b (x ++ b :: c :: y) with h | h
  · rw [← h]
    simp
  · have hlast := congrArg List.dropLast h
    rw [List.dropLast_concat, List.dropLast_append_cons, List.dropLast_cons_cons] at hlast
    rw [← hlast]
    simp

end Text

namespace Line

/-- Every carriage return behind fewer than `n` line feeds is followed by a line feed, or ends the
text. -/
def ReturnsPaired (n : Nat) (t : Text) : Prop :=
  ∀ i < t.length, t[i]? = some cr → (t.take i).count lf < n → t[i + 1]? = none ∨ t[i + 1]? = some lf

instance (n : Nat) (t : Text) : Decidable (ReturnsPaired n t) :=
  inferInstanceAs (Decidable (∀ i < t.length, t[i]? = some cr → (t.take i).count lf < n →
    t[i + 1]? = none ∨ t[i + 1]? = some lf))

theorem returnsPaired_iff {n : Nat} {t : Text} : ReturnsPaired n t ↔
    ∀ u v, t = u ++ cr :: v → u.count lf < n → v = [] ∨ v.head? = some lf := by
  constructor
  · rintro h u v rfl hu
    have hnext := h u.length (by simp) (by simp) (by simpa using hu)
    rw [← List.head?_drop, List.append_cons, List.drop_left' (by simp)] at hnext
    rcases hnext with hnone | hlf
    · exact .inl (List.head?_eq_none_iff.1 hnone)
    · exact .inr hlf
  · intro h i hi hcr hcount
    have hsplit : t = t.take i ++ cr :: t.drop (i + 1) := by
      obtain ⟨_, hget⟩ := List.getElem?_eq_some_iff.1 hcr
      rw [← hget, List.cons_getElem_drop_succ, List.take_append_drop]
    rw [← List.head?_drop]
    rcases h _ _ hsplit hcount with hnil | hlf
    · exact .inl (List.head?_eq_none_iff.2 hnil)
    · exact .inr hlf

/-- What stands before the first line feed is a line, perhaps with a carriage return behind it. -/
theorem ReturnsPaired.unbroken {n : Nat} {p t : Text} (h : ReturnsPaired (n + 1) (p ++ t))
    (hp : lf ∉ p) : Unbroken (dropEnding p [cr]) := by
  by_cases hcr : cr ∈ p
  · obtain ⟨q, v, rfl, hq⟩ := List.eq_append_cons_of_mem hcr
    have hlf : lf ∉ q := fun hm => hp (List.mem_append_left _ hm)
    have hnext := returnsPaired_iff.1 h q (v ++ t) (by simp) (by simp [List.count_eq_zero.2 hlf])
    cases v with
    | nil =>
      rw [dropEnding_concat]
      exact ⟨hlf, hq⟩
    | cons b v =>
      have hb : b = lf := by simpa using hnext
      exact absurd (by simp [hb]) hp
  · rw [dropEnding_of_notMem hcr]
    exact ⟨hp, hcr⟩

theorem ReturnsPaired.behind {n : Nat} {p t : Text} (h : ReturnsPaired (n + 1) (p ++ lf :: t))
    (hp : lf ∉ p) : ReturnsPaired n t := by
  refine returnsPaired_iff.2 fun u v huv hu => ?_
  refine returnsPaired_iff.1 h (p ++ lf :: u) v (by simp [huv]) ?_
  rw [List.count_append, List.count_cons_self, List.count_eq_zero.2 hp]
  omega

/-- The lines as they are looked up: cut at line feeds, without a carriage return at the end. -/
def fed (t : Text) : List Text := (splitAt lf t).map (dropEnding · [cr])

theorem fed_of_notMem {t : Text} (h : lf ∉ t) : fed t = [dropEnding t [cr]] := by
  rw [fed, splitAt_eq_splitOn, List.splitOn_eq_singleton h, List.map_singleton]

theorem fed_append {p : Text} (h : lf ∉ p) (t : Text) :
    fed (p ++ lf :: t) = dropEnding p [cr] :: fed t := by
  rw [fed, fed, splitAt_eq_splitOn, splitAt_eq_splitOn,
    List.splitOn_append_cons_self_of_not_mem h, List.map_cons]

theorem sourceLine?_eq_fed {t : Text} (ht : t ≠ []) (k : Nat) :
    Diagnostic.sourceLine? t (k + 1) = (fed t)[k]? := by
  rw [Diagnostic.sourceLine?, if_neg ht, fed, List.getElem?_map]

theorem all_last_part {t : Text} (ht : t ≠ []) (hu : Unbroken (dropEnding t [cr])) :
    all t = [dropEnding t [cr]] := by
  rcases dropEnding_singleton cr t with he | he
  · rw [← he] at hu ⊢
    have hall := all_append_unbroken hu ht []
    rwa [List.append_nil] at hall
  · have hall := all_line .carriageReturn hu (t := []) (by simp)
    rw [List.append_nil, Terminator.bytes, ← he] at hall
    exact hall

theorem all_part {p : Text} (hu : Unbroken (dropEnding p [cr])) (t : Text) :
    all (p ++ lf :: t) = dropEnding p [cr] :: all t := by
  rcases dropEnding_singleton cr p with he | he
  · have hall := all_line .lineFeed hu (t := t) (by simp)
    nth_rewrite 1 [he]
    simpa [Terminator.bytes] using hall
  · have hall := all_line .both hu (t := t) (by simp)
    nth_rewrite 1 [he]
    simpa [Terminator.bytes] using hall

/-- Where carriage returns are paired, the first lines are found by line feeds alone. -/
theorem ReturnsPaired.take_fed {n : Nat} {t : Text} (h : ReturnsPaired n t)
    (hn : n ≤ (all t).length) : (fed t).take n = (all t).take n := by
  -- The induction is on the number of lines; each step takes off the text up to a line feed.
  induction n generalizing t with
  | zero => rfl
  | succ n ih =>
    by_cases hlf : lf ∈ t
    · obtain ⟨p, t', rfl, hp⟩ := List.eq_append_cons_of_mem hlf
      have hall := all_part (h.unbroken hp) t'
      rw [hall, List.length_cons] at hn
      rw [fed_append hp, hall, List.take_succ_cons, List.take_succ_cons,
        ih (h.behind hp) (by omega)]
    · have ht : t ≠ [] := by
        rintro rfl
        cases hn
      have hu : Unbroken (dropEnding t [cr]) := by
        rw [← List.append_nil t] at h
        exact h.unbroken hlf
      rw [fed_of_notMem hlf, all_last_part ht hu]

/-- Lookup and reading agree on the first lines exactly when no carriage return stands alone among
them. -/
theorem returnsPaired_iff_sourceLine? {n : Nat} {t : Text} (hn : n ≤ (all t).length) :
    ReturnsPaired n t ↔ ∀ k < n, Diagnostic.sourceLine? t (k + 1) = (all t)[k]? := by
  have hlookup : ∀ k < n, Diagnostic.sourceLine? t (k + 1) = (fed t)[k]? := by
    intro k hk
    refine sourceLine?_eq_fed ?_ k
    rintro rfl
    have h0 : n ≤ 0 := hn
    omega
  constructor
  · intro h k hk
    have htake := congrArg (·[k]?) (h.take_fed hn)
    simpa [hlookup k hk, List.getElem?_take, hk] using htake
  · intro h
    refine returnsPaired_iff.2 fun u v huv hu => ?_
    cases v with
    | nil => exact .inl rfl
    | cons b v =>
      refine .inr (Option.some_inj.2 ?_)
      by_contra hb
      obtain ⟨x, y, hpart⟩ := exists_part_with_pair (b := lf) (c := cr) (by decide) hb u v
      have hfed : (fed t)[u.count lf]? = some (dropEnding (x ++ cr :: b :: y) [cr]) := by
        rw [fed, List.getElem?_map, huv, hpart, Option.map_some]
      have hline := (h _ hu).symm.trans ((hlookup _ hu).trans hfed)
      have hunbroken := (all_eq_iff_consists.1 (rfl : all t = all t)).unbroken _
        (List.mem_of_getElem? hline)
      exact hunbroken.2 (mem_dropEnding cr b x y)

end Line

namespace Diagnostic

def hintLine (d : Diagnostic) : Text :=
  if d.hint = [] then []
  else [space] ++ List.replicate (decimal d.line).length space ++ utf8 " = hint: " ++ d.hint ++ [lf]

theorem snippet_eq {d : Diagnostic} (h : 0 < d.line) (source : Text) :
    d.snippet source = d.location ++ d.kind.name ++ utf8 ": " ++ d.message ++ [lf] ++
      ([space] ++ decimal d.line ++ utf8 " | " ++ d.shownText source ++ [lf]) ++ d.hintLine := by
  rw [snippet, if_neg (Int.not_le.2 h)]
  simp only [hintLine, List.append_assoc]

end Diagnostic

namespace Script

variable {o : ParseOptions}

theorem physical_getElem? (t : Text) (n : Nat) :
    (Line.physical t)[n]? = (Line.all t)[n]?.map (unmarked n) := by
  rw [Line.physical]
  cases Line.all t with
  | nil => rfl
  | cons l ls =>
    cases n with
    | zero => rfl
    | succ n => exact Option.map_id'.symm

/-- A diagnostic with a line number is about that line of the text. -/
theorem exists_line_of_parse_error {t : Text} {d : Diagnostic} {n : Nat}
    (h : parse o t = .error d) (hn : d.line = n + 1) : ∃ l, (Line.all t)[n]? = some l := by
  rcases parse_error_cases h with rfl | hrun
  · have h0 : (0 : Int) = n + 1 := hn
    omega
  · obtain ⟨m, l, hline, hl⟩ := exists_line_of_run_error hrun
    have hm : m = n := by omega
    exact ⟨l, hm ▸ hl⟩

/-- The snippet of a refused text shows the line that was refused, as the text has it, if no carriage
return stands alone up to that line. This is also when every line up to there is found by lookup. -/
theorem snippet_of_refused {t : Text} {d : Diagnostic} {n : Nat} (h : parse o t = .error d)
    (hn : d.line = n + 1) :
    ∃ l, (Line.all t)[n]? = some l ∧ (Line.physical t)[n]? = some (unmarked n l) ∧
      (Line.ReturnsPaired (n + 1) t →
        d.snippet t = d.location ++ d.kind.name ++ utf8 ": " ++ d.message ++ [lf] ++
          ([space] ++ decimal d.line ++ utf8 " | " ++ l ++ [lf]) ++ d.hintLine) ∧
      (Line.ReturnsPaired (n + 1) t ↔
        ∀ k ≤ n, Diagnostic.sourceLine? t (k + 1) = (Line.all t)[k]?) := by
  obtain ⟨l, hl⟩ := exists_line_of_parse_error h hn
  have hlength : n + 1 ≤ (Line.all t).length := (List.getElem?_eq_some_iff.1 hl).1
  have hlookup := Line.returnsPaired_iff_sourceLine? hlength
  refine ⟨l, hl, ?_, fun hpaired => ?_, ?_⟩
  · rw [physical_getElem?, hl, Option.map_some]
  · have hline := hlookup.1 hpaired n (Nat.lt_succ_self n)
    have hshown : d.shownText t = l := by
      rw [Diagnostic.shownText, show d.line.toNat = n + 1 by omega, hline, hl, Option.getD_some]
    rw [Diagnostic.snippet_eq (by omega), hshown]
  · simpa only [Nat.lt_succ_iff] using hlookup

/-- A mark in front, both bytes behind the first line and a carriage return at the very end. -/
theorem snippet_of_refused_at_return :
    parse {} (utf8 "\uFEFFa: 1\r\nb #\r") = .error (.ofFault .missingColon [] (utf8 "b") 2) ∧
    (Diagnostic.ofFault .missingColon [] (utf8 "b") 2).snippet (utf8 "\uFEFFa: 1\r\nb #\r") =
      utf8 "2: syntax error: missing colon in assignment declaration\n 2 | b #\n" := by
  have hparse : parse {} (utf8 "\uFEFFa: 1\r\nb #\r") =
      .error (.ofFault .missingColon [] (utf8 "b") 2) := by decide +kernel
  obtain ⟨l, hl, -, hsnippet, -⟩ := snippet_of_refused (n := 1) hparse rfl
  have hline : (Line.all (utf8 "\uFEFFa: 1\r\nb #\r"))[1]? = some (utf8 "b #") := by decide +kernel
  cases hl.symm.trans hline
  refine ⟨hparse, (hsnippet (by decide +kernel)).trans ?_⟩
  decide +kernel

/-- Behind a lone carriage return the line that is shown is not the one that was refused. -/
theorem snippet_behind_lone_return :
    parse {} (utf8 "a: 1\rb\n") = .error (.ofFault .missingColon [] (utf8 "b") 2) ∧
    Line.physical (utf8 "a: 1\rb\n") = [utf8 "a: 1", utf8 "b"] ∧
    (Diagnostic.ofFault .missingColon [] (utf8 "b") 2).snippet (utf8 "a: 1\rb\n") =
      utf8 "2: syntax error: missing colon in assignment declaration\n 2 | \n" := by
  decide +kernel

end Script
end RouteScript
