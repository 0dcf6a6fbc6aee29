import RouteScript.Line

/-!
# Physical lines

`Spells` says which texts are made of which lines: each line has one of three terminators behind it,
and what follows the last terminator is the rest. Every text is made of one list of lines and one
rest, those that cutting it gives (`terminated_eq_iff_spells`). So cutting can be done by parts:
lines in front of a text (`all_append_unbroken`), texts behind a line feed (`all_append`), lines
written with a line feed behind each (`all_ended`). A line feed at the end of a text adds at most an
empty line (`all_append_lf`). No physical line holds a line terminator (`unbroken_of_mem_physical`).
-/

namespace RouteScript.Line

open Text

/-- The line holds no line terminator. -/
def Unbroken (l : Text) : Prop := lf ∉ l ∧ cr ∉ l

instance (l : Text) : Decidable (Unbroken l) := inferInstanceAs (Decidable (lf ∉ l ∧ cr ∉ l))

/-- The physical lines that reading sees: the first one has lost its byte order mark. -/
def physical (t : Text) : List Text := dropMark (all t)

/-- Lines written one after another, with a line feed behind each. -/
def ended (ls : List Text) : Text := ls.flatMap (· ++ [lf])

theorem unbroken_nil : Unbroken [] := by simp [Unbroken]

theorem unbroken_cons {b : UInt8} {l : Text} :
    Unbroken (b :: l) ↔ (b ≠ lf ∧ b ≠ cr) ∧ Unbroken l := by
  simp only [Unbroken, List.mem_cons, not_or]
  constructor
  · rintro ⟨⟨h1, h2⟩, h3, h4⟩
    exact ⟨⟨Ne.symm h1, Ne.symm h3⟩, h2, h4⟩
  · rintro ⟨⟨h1, h3⟩, h2, h4⟩
    exact ⟨⟨Ne.symm h1, h2⟩, Ne.symm h3, h4⟩

theorem Unbroken.of_subset {l r : Text} (h : Unbroken l) (hr : r ⊆ l) : Unbroken r :=
  ⟨fun hm => h.1 (hr hm), fun hm => h.2 (hr hm)⟩

inductive Terminator where
  | lineFeed
  | carriageReturn
  | both
  deriving DecidableEq, Repr

def Terminator.bytes : Terminator → Text
  | lineFeed => [lf]
  | carriageReturn => [cr]
  | both => [cr, lf]

/-- The text is made of the given lines, each with a terminator of its own behind it, and of a rest
without one. A carriage return that stands alone is not followed by a line feed. -/
inductive Spells : List Text → Text → Text → Prop where
  | rest {r : Text} : Unbroken r → Spells [] r r
  | line {l t r : Text} {ls : List Text} (e : Terminator) : Unbroken l →
      (e = .carriageReturn → t.head? ≠ some lf) → Spells ls r t →
      Spells (l :: ls) r (l ++ e.bytes ++ t)

theorem Spells.unbroken {ls : List Text} {r t : Text} (h : Spells ls r t) :
    (∀ l ∈ ls, Unbroken l) ∧ Unbroken r := by
  induction h with
  | rest hr => exact ⟨by simp, hr⟩
  | line e hl _ _ ih => exact ⟨List.forall_mem_cons.2 ⟨hl, ih.1⟩, ih.2⟩

theorem Spells.rest_isSuffix {ls : List Text} {r t : Text} (h : Spells ls r t) : r <:+ t := by
  induction h with
  | rest _ => exact List.suffix_rfl
  | line e _ _ _ ih => exact ih.trans (List.suffix_append _ _)

theorem Spells.head?_isPrefix {ls : List Text} {r t : Text} (h : Spells ls r t) :
    ∀ l ∈ (ls ++ [r]).head?, l <+: t := by
  cases h with
  | rest _ =>
    rintro l ⟨⟩
    exact List.prefix_rfl
  | line e _ _ _ =>
    rintro l ⟨⟩
    exact (List.prefix_append _ _).trans (List.prefix_append _ _)

theorem Spells.cons_rest {b : UInt8} {r t : Text} (hb : b ≠ lf ∧ b ≠ cr) (h : Spells [] r t) :
    Spells [] (b :: r) (b :: t) := by
  cases h with
  | rest hr => exact .rest (unbroken_cons.2 ⟨hb, hr⟩)

theorem Spells.cons_line {b : UInt8} {l r t : Text} {ls : List Text} (hb : b ≠ lf ∧ b ≠ cr)
    (h : Spells (l :: ls) r t) : Spells ((b :: l) :: ls) r (b :: t) := by
  cases h with
  | line e hl hcr ht => exact .line e (unbroken_cons.2 ⟨hb, hl⟩) hcr ht

theorem spells_terminated (t : Text) : Spells (terminated t).1 (terminated t).2 t := by
  fun_induction terminated t with
  | case1 => exact .rest unbroken_nil
  | case2 t ls rest he ih =>
    rw [he] at ih
    exact .line .both unbroken_nil (by simp) ih
  | case3 b t hboth ls rest he hb ih =>
    rw [he] at ih
    rcases hb with rfl | rfl
    · exact .line .lineFeed unbroken_nil (by simp) ih
    · refine .line .carriageReturn unbroken_nil (fun _ hlf => ?_) ih
      obtain ⟨u, rfl⟩ := List.head?_eq_some_iff.1 hlf
      exact hboth u rfl rfl
  | case4 b t _ rest hb he ih =>
    rw [he] at ih
    exact ih.cons_rest (not_or.1 hb)
  | case5 b t _ rest hb l ls he ih =>
    rw [he] at ih
    exact ih.cons_line (not_or.1 hb)

theorem terminated_cons {b : UInt8} (hb : b ≠ lf ∧ b ≠ cr) (t : Text) :
    terminated (b :: t) = match (terminated t).1 with
      | [] => ([], b :: (terminated t).2)
      | l :: ls => ((b :: l) :: ls, (terminated t).2) := by
  rw [terminated]
  · have hn : ¬ (b = lf ∨ b = cr) := by simp [hb]
    rcases terminated t with ⟨_ | ⟨l, ls⟩, rest⟩
    · simp [hn]
    · simp [hn]
  · rintro _ rfl
    exact absurd rfl hb.2

/-- What is put in front of a text belongs to its first line. -/
theorem terminated_append {l : Text} (hl : Unbroken l) (t : Text) :
    terminated (l ++ t) = match (terminated t).1 with
      | [] => ([], l ++ (terminated t).2)
      | m :: ms => ((l ++ m) :: ms, (terminated t).2) := by
  induction l with
  | nil =>
    rw [List.nil_append]
    rcases terminated t with ⟨_ | ⟨m, ms⟩, rest⟩
    · rfl
    · rfl
  | cons b l ih =>
    obtain ⟨hb, hl⟩ := unbroken_cons.1 hl
    rw [List.cons_append, terminated_cons hb, ih hl]
    rcases terminated t with ⟨_ | ⟨m, ms⟩, rest⟩
    · rfl
    · rfl

theorem terminated_terminator (e : Terminator) {t : Text}
    (h : e = .carriageReturn → t.head? ≠ some lf) :
    terminated (e.bytes ++ t) = ([] :: (terminated t).1, (terminated t).2) := by
  cases e with
  | both => rfl
  | lineFeed =>
    rw [Terminator.bytes, List.singleton_append, terminated]
    · simp
    · intro _ hcr
      exact absurd hcr (by decide)
  | carriageReturn =>
    rw [Terminator.bytes, List.singleton_append, terminated]
    · simp
    · rintro u - rfl
      exact h rfl rfl

/-- Cutting gives the lines and the rest that a text is made of. -/
theorem terminated_eq_iff_spells {ls : List Text} {r t : Text} :
    terminated t = (ls, r) ↔ Spells ls r t := by
  constructor
  · intro h
    have ht := spells_terminated t
    rwa [h] at ht
  · intro h
    induction h with
    | @rest r hr =>
      have hcut := terminated_append hr []
      rwa [List.append_nil, terminated, List.append_nil] at hcut
    | line e hl hcr _ ih =>
      rw [List.append_assoc, terminated_append hl, terminated_terminator e hcr, ih]
      simp only [List.append_nil]

/-- The text is made of the given lines. The last one needs no terminator unless it is empty. -/
inductive Consists : List Text → Text → Prop where
  | closed {ls : List Text} {t : Text} : Spells ls [] t → Consists ls t
  | unclosed {ls : List Text} {l t : Text} : Spells ls l t → l ≠ [] → Consists (ls ++ [l]) t

theorem all_eq_iff_consists {ls : List Text} {t : Text} : all t = ls ↔ Consists ls t := by
  constructor
  · rintro rfl
    have ht := spells_terminated t
    simp only [all]
    split
    · next hr => exact .closed (hr ▸ ht)
    · next hr => exact .unclosed ht hr
  · intro h
    cases h with
    | closed h => simp [all, terminated_eq_iff_spells.2 h]
    | unclosed h hl => simp [all, terminated_eq_iff_spells.2 h, hl]

theorem eq_nil_of_all_eq_nil {t : Text} (h : all t = []) : t = [] := by
  have ht := spells_terminated t
  simp only [all] at h
  split at h
  · next hr =>
    rw [h, hr] at ht
    cases ht
    rfl
  · simp at h

theorem Consists.line {l t : Text} {ls : List Text} (e : Terminator) (hl : Unbroken l)
    (hcr : e = .carriageReturn → t.head? ≠ some lf) (h : Consists ls t) :
    Consists (l :: ls) (l ++ e.bytes ++ t) := by
  cases h with
  | closed h => exact .closed (.line e hl hcr h)
  | unclosed h hne => exact .unclosed (.line e hl hcr h) hne

theorem all_line {l t : Text} (e : Terminator) (hl : Unbroken l)
    (hcr : e = .carriageReturn → t.head? ≠ some lf) : all (l ++ e.bytes ++ t) = l :: all t :=
  all_eq_iff_consists.2 (.line e hl hcr (all_eq_iff_consists.1 rfl))

theorem all_terminator (e : Terminator) {t : Text}
    (h : e = .carriageReturn → t.head? ≠ some lf) : all (e.bytes ++ t) = [] :: all t :=
  all_line e unbroken_nil h

theorem Consists.unbroken {ls : List Text} {t : Text} (h : Consists ls t) :
    ∀ l ∈ ls, Unbroken l := by
  cases h with
  | closed h => exact h.unbroken.1
  | unclosed h _ =>
    exact List.forall_mem_append.2 ⟨h.unbroken.1, List.forall_mem_singleton.2 h.unbroken.2⟩

theorem all_append_unbroken {l : Text} (hl : Unbroken l) (hne : l ≠ []) (t : Text) :
    all (l ++ t) = match all t with
      | [] => [l]
      | m :: ms => (l ++ m) :: ms := by
  simp only [all, terminated_append hl]
  rcases terminated t with ⟨_ | ⟨m, ms⟩, rest⟩
  · by_cases hr : rest = [] <;> simp [hr, hne]
  · by_cases hr : rest = [] <;> simp [hr]

/-- Texts are cut one after the other where the first one ends with a line feed. -/
theorem Spells.append {ls ms : List Text} {t u q r : Text} (h : Spells ls q t) (hq : q = [])
    (hend : t.getLast? = some lf) (hu : Spells ms r u) : Spells (ls ++ ms) r (t ++ u) := by
  induction h with
  | rest _ =>
    subst hq
    cases hend
  | @line l t q ls e hl hcr ht ih =>
    rw [List.append_assoc]
    rw [List.getLast?_append] at hend
    cases t with
    | nil =>
      -- The terminator is the last one of the first text, so it is no lone carriage return.
      have he : e = .carriageReturn → u.head? ≠ some lf := by
        rintro rfl
        have hlf : cr = lf := by simpa [Terminator.bytes] using hend
        exact absurd hlf (by decide)
      have hls : ([], []) = (ls, q) := terminated_eq_iff_spells.2 ht
      cases hls
      exact .line e hl he hu
    | cons b t =>
      have hlast : (b :: t).getLast? = some lf := by simpa [List.getLast?_cons] using hend
      exact .line e hl hcr (ih hq hlast)

theorem terminated_snd_of_ends {t : Text} (h : t.getLast? = some lf) : (terminated t).2 = [] := by
  have ht := spells_terminated t
  obtain ⟨u, hu⟩ := ht.rest_isSuffix
  cases hr : (terminated t).2 with
  | nil => rfl
  | cons b r =>
    rw [← hu, hr, List.getLast?_append, List.getLast?_cons] at h
    have hm : lf ∈ (terminated t).2 := by
      rw [hr]
      exact List.mem_of_getLast? (by simpa [List.getLast?_cons] using h)
    exact absurd hm ht.unbroken.2.1

theorem all_append {t : Text} (h : t.getLast? = some lf) (u : Text) :
    all (t ++ u) = all t ++ all u := by
  have hr := terminated_snd_of_ends h
  have ht := spells_terminated t
  rw [hr] at ht
  have hall : all t = (terminated t).1 := by simp [all, hr]
  have hcut := terminated_eq_iff_spells.2 (ht.append rfl h (spells_terminated u))
  rw [hall, all, hcut]
  simp only [all]
  split
  · rfl
  · rw [List.append_assoc]

theorem all_ended {ls : List Text} (h : ∀ l ∈ ls, Unbroken l) : all (ended ls) = ls := by
  refine all_eq_iff_consists.2 ?_
  induction ls with
  | nil => exact .closed (.rest unbroken_nil)
  | cons l ls ih =>
    obtain ⟨hl, hls⟩ := List.forall_mem_cons.1 h
    exact (ih hls).line .lineFeed hl (by simp)

theorem ended_append (ls ms : List Text) : ended (ls ++ ms) = ended ls ++ ended ms :=
  List.flatMap_append

theorem all_ended_append (ls ms : List Text) :
    all (ended (ls ++ ms)) = all (ended ls) ++ all (ended ms) := by
  rw [ended_append]
  cases h : ls.getLast? with
  | none =>
    rw [List.getLast?_eq_none_iff.1 h]
    rfl
  | some l =>
    obtain ⟨ks, rfl⟩ := List.getLast?_eq_some_iff.1 h
    refine all_append ?_ _
    rw [ended_append, ← List.singleton_append]
    simp [ended]

/-- A line feed at the end adds an empty line or terminates the last one. -/
theorem all_append_lf (t : Text) :
    ∃ gap, (gap = [] ∨ gap = [[]]) ∧ all (t ++ [lf]) = all t ++ gap := by
  have h := spells_terminated t
  generalize (terminated t).1 = ls, (terminated t).2 = r at h
  induction h with
  | @rest r hr =>
    have hall : all (r ++ [lf] ++ []) = r :: all [] := all_line .lineFeed hr (by simp)
    rw [List.append_nil] at hall
    by_cases h0 : r = []
    · subst h0
      exact ⟨[[]], .inr rfl, rfl⟩
    · refine ⟨[], .inl rfl, ?_⟩
      have hcut := all_append_unbroken hr h0 []
      rw [List.append_nil] at hcut
      rw [hall, hcut]
      rfl
  | @line l t r ls e hl hcr _ ih =>
    obtain ⟨gap, hgap, ht⟩ := ih
    by_cases h0 : e = .carriageReturn ∧ t = []
    · -- The line feed joins the carriage return in front of it.
      obtain ⟨rfl, rfl⟩ := h0
      have hboth : all (l ++ [cr, lf] ++ []) = l :: all [] := all_line .both hl (by simp)
      refine ⟨[], .inl rfl, ?_⟩
      rw [all_line .carriageReturn hl hcr, ← List.append_nil (l :: all []), ← hboth]
      simp [Terminator.bytes]
    · have hcr' : e = .carriageReturn → (t ++ [lf]).head? ≠ some lf := by
        intro he
        cases t with
        | nil => exact absurd ⟨he, rfl⟩ h0
        | cons b t => exact hcr he
      refine ⟨gap, hgap, ?_⟩
      rw [List.append_assoc, all_line e hl hcr', all_line e hl hcr, ht, List.cons_append]

theorem ended_eq_join {ls : List Text} (h : ls ≠ []) : ended ls = join [lf] ls ++ [lf] := by
  induction ls with
  | nil => exact absurd rfl h
  | cons l ls ih =>
    cases ls with
    | nil => simp [ended, join]
    | cons m ls =>
      have hrest := ih (by simp)
      simp only [join, List.append_assoc, ← hrest]
      simp [ended]

def isMarked (t : Text) : Bool := byteOrderMark.isPrefixOf t

theorem isMarked_iff {t : Text} : isMarked t = true ↔ ∃ u, t = byteOrderMark ++ u := by
  rw [isMarked, List.isPrefixOf_iff_prefix]
  exact ⟨fun ⟨u, hu⟩ => ⟨u, hu.symm⟩, fun ⟨u, hu⟩ => ⟨u, hu.symm⟩⟩

/-- Without a byte order mark in front the lines are all as they stand. -/
theorem dropMark_eq_self {ls : List Text} (h : ∀ l ∈ ls.head?, isMarked l = false) :
    dropMark ls = ls := by
  cases ls with
  | nil => rfl
  | cons l ls =>
    have hl : byteOrderMark.isPrefixOf l = false := h l rfl
    simp [dropMark, dropBeginning, hl]

theorem dropMark_marked (l : Text) (ls : List Text) :
    dropMark ((byteOrderMark ++ l) :: ls) = l :: ls := by
  have hm : byteOrderMark.isPrefixOf (byteOrderMark ++ l) = true :=
    List.isPrefixOf_iff_prefix.2 (List.prefix_append _ _)
  rw [dropMark, dropBeginning, if_pos hm, List.drop_left]

theorem dropMark_append (ls : List Text) {ms : List Text}
    (h : ∀ l ∈ ms.head?, isMarked l = false) : dropMark (ls ++ ms) = dropMark ls ++ ms := by
  cases ls with
  | nil => exact dropMark_eq_self h
  | cons l ls => rfl

theorem length_dropMark (ls : List Text) : (dropMark ls).length = ls.length := by
  cases ls with
  | nil => rfl
  | cons l ls => rfl

/-- A marked first line means a marked text. -/
theorem isMarked_of_head?_all {t l : Text} (hl : l ∈ (all t).head?) (hm : isMarked l = true) :
    isMarked t = true := by
  have hp : l <+: t := by
    refine (spells_terminated t).head?_isPrefix l ?_
    simp only [all] at hl
    split at hl
    · rw [List.head?_append, Option.mem_def.1 hl]
      rfl
    · exact hl
  rw [isMarked, List.isPrefixOf_iff_prefix] at hm ⊢
  exact hm.trans hp

/-- The lines of two texts, the second one put behind the first. -/
theorem physical_append {t u : Text} (h : t.getLast? = some lf) (hu : isMarked u = false) :
    physical (t ++ u) = physical t ++ physical u := by
  have hhead : ∀ l ∈ (all u).head?, isMarked l = false := by
    refine fun l hl => Bool.eq_false_iff.2 fun hm => ?_
    rw [isMarked_of_head?_all hl hm] at hu
    cases hu
  rw [physical, physical, physical, all_append h, dropMark_append _ hhead, dropMark_eq_self hhead]

theorem physical_ended {ls : List Text} (h : ∀ l ∈ ls, Unbroken l)
    (hm : ∀ l ∈ ls.head?, byteOrderMark.isPrefixOf l = false) : physical (ended ls) = ls := by
  rw [physical, all_ended h, dropMark_eq_self hm]

/-- No physical line of a text holds a line terminator. -/
theorem unbroken_of_mem_physical {t l : Text} (h : l ∈ physical t) : Unbroken l := by
  rw [physical] at h
  have hall := (all_eq_iff_consists.1 (rfl : all t = all t)).unbroken
  cases ha : all t with
  | nil => simp [ha, dropMark] at h
  | cons r rs =>
    rw [ha] at hall
    rw [ha, dropMark] at h
    rcases List.mem_cons.1 h with rfl | h
    · refine (hall r List.mem_cons_self).of_subset ?_
      unfold dropBeginning
      split
      · exact List.drop_subset _ r
      · exact List.Subset.refl r
    · exact hall l (List.mem_cons_of_mem _ h)

end RouteScript.Line
