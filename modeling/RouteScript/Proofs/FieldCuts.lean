import RouteScript.Proofs.EarliestCuts

/-!
# Fields and cuts

The fields of a text are its runs of visible symbols with white space between them (`spaced_fields`).
A condition with three fields can be cut only at a token that covers the middle field: a cut inside
or in front of another field would leave white space in an operand. The token may begin and end with
bytes of the white-space characters around the field, where they are no characters any more, so the
symbols of the middle field are symbols of the token (`symbols_subset_of_split?`).
-/

namespace RouteScript

open Text

namespace Text

/-- The symbols are the given runs of visible ones, in this order, and white space that divides
them. -/
inductive Spaced : List Symbol → List (List Symbol) → Prop where
  | nil : Spaced [] []
  | blank {s : Symbol} {ss : List Symbol} {runs : List (List Symbol)} : s.isBlank = true →
      Spaced ss runs → Spaced (s :: ss) runs
  | run {run ss : List Symbol} {runs : List (List Symbol)} : run ≠ [] →
      (∀ s ∈ run, s.isBlank = false) → (∀ s ∈ ss.head?, s.isBlank = true) → Spaced ss runs →
      Spaced (run ++ ss) (run :: runs)

theorem ofSymbols_eq_nil_iff {ss : List Symbol} : ofSymbols ss = [] ↔ ss = [] := by
  constructor
  · intro h
    cases ss with
    | nil => rfl
    | cons s ss =>
      rw [ofSymbols_cons, List.append_eq_nil_iff] at h
      cases s with
      | stray b => simp [Symbol.bytes] at h
      | scalar c =>
        obtain ⟨a, r, he, -⟩ := encoding_spec c
        simp [Symbol.bytes, he] at h
  · rintro rfl
    rfl

theorem spaced_runsFrom (ss : List Symbol) : ∃ run rest runs, ss = run ++ rest ∧
    (∀ s ∈ run, s.isBlank = false) ∧ (∀ s ∈ rest.head?, s.isBlank = true) ∧ Spaced rest runs ∧
    runsFrom ss = (ofSymbols run, runs.map ofSymbols) := by
  induction ss with
  | nil => exact ⟨[], [], [], rfl, by simp, by simp, .nil, rfl⟩
  | cons s ss ih =>
    obtain ⟨run, rest, runs, rfl, hrun, hrest, hspaced, he⟩ := ih
    cases hs : s.isBlank with
    | true =>
      by_cases hnil : run = []
      · subst hnil
        rw [List.nil_append] at he
        refine ⟨[], s :: rest, runs, rfl, by simp, by simpa using hs, .blank hs hspaced, ?_⟩
        simp [runsFrom, he, hs, pushRun]
      · refine ⟨[], s :: (run ++ rest), run :: runs, rfl, by simp, by simpa using hs,
          .blank hs (.run hnil hrun hrest hspaced), ?_⟩
        simp [runsFrom, he, hs, pushRun, ofSymbols_eq_nil_iff, hnil]
    | false =>
      refine ⟨s :: run, rest, runs, rfl, List.forall_mem_cons.2 ⟨hs, hrun⟩, hrest, hspaced, ?_⟩
      simp [runsFrom, he, hs, ofSymbols_cons]

theorem spaced_fields (t : Text) : ∃ runs, Spaced (symbols t) runs ∧ fields t = runs.map ofSymbols := by
  obtain ⟨run, rest, runs, he, hrun, hrest, hspaced, hruns⟩ := spaced_runsFrom (symbols t)
  rw [he]
  by_cases hnil : run = []
  · subst hnil
    exact ⟨runs, hspaced, by simp [fields, hruns, pushRun]⟩
  · exact ⟨run :: runs, .run hnil hrun hrest hspaced,
      by simp [fields, hruns, pushRun, ofSymbols_eq_nil_iff, hnil]⟩

theorem Spaced.uncons {ss run : List Symbol} {runs : List (List Symbol)} (h : Spaced ss (run :: runs)) :
    ∃ gap rest, ss = gap ++ (run ++ rest) ∧ (∀ s ∈ gap, s.isBlank = true) ∧ run ≠ [] ∧
      (∀ s ∈ run, s.isBlank = false) ∧ (∀ s ∈ rest.head?, s.isBlank = true) ∧ Spaced rest runs := by
  generalize hall : run :: runs = all at h
  induction h with
  | nil => cases hall
  | @blank s ss _ hs _ ih =>
    obtain ⟨gap, rest, rfl, hgap, hfacts⟩ := ih hall
    exact ⟨s :: gap, rest, rfl, List.forall_mem_cons.2 ⟨hs, hgap⟩, hfacts⟩
  | run hne hv hrest hs _ =>
    cases hall
    exact ⟨[], _, rfl, by simp, hne, hv, hrest, hs⟩

theorem Spaced.uncons_cons {ss run next : List Symbol} {runs : List (List Symbol)}
    (h : Spaced ss (run :: next :: runs)) : ∃ gap s rest, ss = gap ++ (run ++ s :: rest) ∧
      (∀ x ∈ gap, x.isBlank = true) ∧ run ≠ [] ∧ (∀ x ∈ run, x.isBlank = false) ∧
      s.isBlank = true ∧ Spaced rest (next :: runs) := by
  obtain ⟨gap, rest, rfl, hgap, hne, hv, hhead, hrest⟩ := h.uncons
  cases hrest with
  | @blank s rest _ hs hrest => exact ⟨gap, s, rest, rfl, hgap, hne, hv, hs, hrest⟩
  | @run _ rest _ hne' hv' _ _ =>
    cases next with
    | nil => exact absurd rfl hne'
    | cons x next =>
      have hx : x.isBlank = true := hhead x rfl
      rw [hv' x List.mem_cons_self] at hx
      cases hx

theorem trim_ne_nil_iff {t : Text} : trim t ≠ [] ↔ ∃ s ∈ symbols t, s.isBlank = false := by
  rw [ne_eq, ← symbols_eq_nil_iff, symbols_trim, strip_eq_rdropWhile, List.rdropWhile_eq_nil_iff]
  constructor
  · intro h
    by_contra hall
    push Not at hall
    have hblank : ∀ s ∈ symbols t, s.isBlank = true := fun s hs => by simpa using hall s hs
    refine h fun s hs => hblank s ?_
    exact (List.dropWhile_suffix _).subset hs
  · rintro ⟨s, hs, hv⟩ h
    obtain ⟨xs, ys, hsplit⟩ := List.append_of_mem hs
    rw [hsplit, dropWhile_append_cons hv] at h
    rw [h s (by simp)] at hv
    cases hv

/-- White space between two visible symbols stays in a trimmed text. -/
theorem not_isSingle_of_between {c : Char} (hc : isBlankCode c.toNat = true) {u v : Text}
    (hu : trim u ≠ []) (hv : trim v ≠ []) :
    isSingle (trim (u ++ (String.utf8EncodeChar c ++ v))) = false := by
  obtain ⟨x, hx, hxv⟩ := trim_ne_nil_iff.1 hu
  obtain ⟨y, hy, hyv⟩ := trim_ne_nil_iff.1 hv
  obtain ⟨us, us', hus⟩ := List.append_of_mem hx
  obtain ⟨vs, vs', hvs⟩ := List.append_of_mem hy
  have hsymbols : symbols (u ++ (String.utf8EncodeChar c ++ v)) =
      us ++ x :: ((us' ++ .scalar c :: vs) ++ y :: vs') := by
    rw [symbols_append u (startsFresh_encoding c v), symbols_encoding_append, hus, hvs]
    simp
  have hmem : .scalar c ∈ symbols (trim (u ++ (String.utf8EncodeChar c ++ v))) := by
    rw [symbols_trim, hsymbols, strip_append_cons hxv, rdropWhile_append_cons hyv]
    simp
  refine Bool.eq_false_iff.2 fun hs => ?_
  have hblank := (isSingle_iff.1 hs).2 _ hmem
  rw [show (Symbol.scalar c).isBlank = true from hc] at hblank
  cases hblank

theorem startsBlank_of_isPrefix {x y : Text} (h : x <+: y) (hx : startsBlank x = true) :
    startsBlank y = true := by
  obtain ⟨z, rfl⟩ := h
  unfold startsBlank at hx ⊢
  cases hs : symbols x with
  | nil => simp [hs] at hx
  | cons s ss =>
    rw [hs] at hx
    cases s with
    | stray b => cases hx
    | scalar c =>
      have hbytes : x = String.utf8EncodeChar c ++ ofSymbols ss := by
        rw [← ofSymbols_symbols x, hs]
        rfl
      rw [hbytes, List.append_assoc, symbols_encoding_append]
      exact hx

theorem endsBlank_of_isSuffix {x y : Text} (h : x <:+ y) (hx : endsBlank x = true) :
    endsBlank y = true := by
  obtain ⟨z, rfl⟩ := h
  unfold endsBlank at hx ⊢
  cases hs : (symbols x).getLast? with
  | none => simp [hs] at hx
  | some s =>
    obtain ⟨ss, hss⟩ := List.getLast?_eq_some_iff.1 hs
    rw [hs] at hx
    cases s with
    | stray b => cases hx
    | scalar c =>
      have hbytes : x = ofSymbols ss ++ String.utf8EncodeChar c := by
        rw [← ofSymbols_symbols x, hss, ofSymbols_append]
        simp [ofSymbols, Symbol.bytes]
      have hlast := symbols_encoding_append c []
      rw [List.append_nil] at hlast
      have hfresh := startsFresh_encoding c []
      rw [List.append_nil] at hfresh
      rw [hbytes, ← List.append_assoc, symbols_append _ hfresh, hlast, symbols_nil,
        List.getLast?_concat]
      exact hx

theorem trim_ne_nil_of_endsBlank {t : Text} (ht : t ≠ []) (h : endsBlank t = false) :
    trim t ≠ [] := by
  rw [trim_ne_nil_iff]
  cases hs : (symbols t).getLast? with
  | none => exact absurd (symbols_eq_nil_iff.1 (List.getLast?_eq_none_iff.1 hs)) ht
  | some s =>
    refine ⟨s, List.mem_of_getLast? hs, ?_⟩
    simpa [endsBlank, hs] using h

theorem exists_of_isBlank {s : Symbol} (h : s.isBlank = true) :
    ∃ c, s = .scalar c ∧ isBlankCode c.toNat = true := by
  cases s with
  | scalar c => exact ⟨c, rfl, h⟩
  | stray b => cases h

theorem exists_visible {run xs ys : List Symbol} (hne : run ≠ [])
    (hv : ∀ s ∈ run, s.isBlank = false) : ∃ s ∈ xs ++ (run ++ ys), s.isBlank = false := by
  obtain ⟨s, hs⟩ := List.exists_mem_of_ne_nil run hne
  exact ⟨s, by simp [hs], hv s hs⟩

theorem exists_around_middle {t f m l : Text} (h : fields t = [f, m, l]) :
    ∃ u c d v, t = u ++ (String.utf8EncodeChar c ++ (m ++ (String.utf8EncodeChar d ++ v))) ∧
      isBlankCode c.toNat = true ∧ isBlankCode d.toNat = true ∧ trim u ≠ [] ∧ trim v ≠ [] := by
  obtain ⟨runs, hspaced, hruns⟩ := spaced_fields t
  rw [h] at hruns
  obtain ⟨r₀, runs₁, rfl, -, h₁⟩ := List.map_eq_cons_iff.1 hruns.symm
  obtain ⟨r₁, runs₂, rfl, rfl, h₂⟩ := List.map_eq_cons_iff.1 h₁
  obtain ⟨r₂, runs₃, rfl, -, h₃⟩ := List.map_eq_cons_iff.1 h₂
  obtain rfl := List.map_eq_nil_iff.1 h₃
  obtain ⟨g₀, s, rest₀, hs₀, -, hne₀, hv₀, hs, hspaced⟩ := hspaced.uncons_cons
  obtain ⟨g₁, s', rest₁, rfl, hg₁, -, -, hs', hspaced⟩ := hspaced.uncons_cons
  obtain ⟨g₂, rest₂, rfl, -, hne₂, hv₂, -, -⟩ := hspaced.uncons
  obtain ⟨w, x, hw⟩ : ∃ w x, s :: g₁ = w ++ [x] :=
    ⟨(s :: g₁).dropLast, (s :: g₁).getLast (by simp), (List.dropLast_append_getLast _).symm⟩
  have hx : x.isBlank = true := by
    have hall : ∀ z ∈ s :: g₁, z.isBlank = true := List.forall_mem_cons.2 ⟨hs, hg₁⟩
    exact hall x (by simp [hw])
  obtain ⟨c, rfl, hc⟩ := exists_of_isBlank hx
  obtain ⟨d, rfl, hd⟩ := exists_of_isBlank hs'
  have hsymbols : symbols t = (g₀ ++ (r₀ ++ w)) ++
      (.scalar c :: (r₁ ++ .scalar d :: (g₂ ++ (r₂ ++ rest₂)))) := by
    rw [hs₀, ← List.cons_append, hw]
    simp
  have hfront : symbols (ofSymbols (g₀ ++ (r₀ ++ w))) = g₀ ++ (r₀ ++ w) := by
    refine symbols_ofSymbols_of_isPrefix (t := t) ?_
    rw [hsymbols]
    exact List.prefix_append _ _
  have hback : symbols (ofSymbols (g₂ ++ (r₂ ++ rest₂))) = g₂ ++ (r₂ ++ rest₂) := by
    refine symbols_ofSymbols_of_isSuffix (t := t) ⟨g₀ ++ (r₀ ++ w) ++ .scalar c :: (r₁ ++ [.scalar d]), ?_⟩
    rw [hsymbols]
    simp
  refine ⟨ofSymbols (g₀ ++ (r₀ ++ w)), c, d, ofSymbols (g₂ ++ (r₂ ++ rest₂)), ?_, hc, hd, ?_, ?_⟩
  · rw [← ofSymbols_symbols t, hsymbols]
    simp [ofSymbols, Symbol.bytes]
  · rw [trim_ne_nil_iff, hfront]
    exact exists_visible hne₀ hv₀
  · rw [trim_ne_nil_iff, hback]
    exact exists_visible hne₂ hv₂

theorem symbols_append_of_continuations {p : Text} (hp : ∀ b ∈ p, isContinuation b = true) (t : Text) :
    symbols (p ++ t) = p.map .stray ++ symbols t := by
  induction p with
  | nil => rfl
  | cons b p ih =>
    obtain ⟨hb, hp⟩ := List.forall_mem_cons.1 hp
    rw [List.cons_append, symbols_cons_of_none (leading?_continuation hb _), ih hp]
    rfl

/-- A character is complete in front of a text or takes none of its bytes with it. -/
theorem symbols_isSuffix_behind {p u : Text} {c : Char} (h : p <:+ u ++ String.utf8EncodeChar c)
    (t : Text) : symbols t <:+ symbols (p ++ t) := by
  obtain ⟨a, ha⟩ := h
  have hwhole : ∀ q, symbols t <:+ symbols (q ++ (String.utf8EncodeChar c ++ t)) := fun q =>
    ⟨symbols q ++ [.scalar c], by
      rw [symbols_append q (startsFresh_encoding c t), symbols_encoding_append]
      simp⟩
  rcases List.append_eq_append_iff.1 ha with ⟨x, -, hx⟩ | ⟨x, rfl, hx⟩
  · rw [hx, List.append_assoc]
    exact hwhole x
  · obtain ⟨b, r, he, hr, -⟩ := encoding_spec c
    cases x with
    | nil =>
      rw [List.nil_append] at hx
      have hq := hwhole []
      rwa [List.nil_append, hx] at hq
    | cons b' x =>
      rw [he, List.cons_append, List.cons.injEq] at hx
      have hp : ∀ b ∈ p, isContinuation b = true := fun b hb => hr b (by simp [hx.2, hb])
      exact ⟨_, (symbols_append_of_continuations hp t).symm⟩

theorem startsFresh_of_isPrefix {q t : Text} (h : q <+: t) (ht : startsFresh t = true) :
    startsFresh q = true := by
  obtain ⟨u, rfl⟩ := h
  cases q with
  | nil => rfl
  | cons b q => exact ht

end Text

/-- A part that trims to a single token ends in front of what is visible behind other fields. -/
theorem exists_of_cut_front {a rest u t : Text} {c : Char} (hc : isBlankCode c.toNat = true)
    (hu : trim u ≠ []) (ht : startsBlank t = false) (ha : isSingle (trim a) = true)
    (h : a ++ rest = u ++ String.utf8EncodeChar c ++ t) :
    ∃ p, u ++ String.utf8EncodeChar c = a ++ p ∧ rest = p ++ t := by
  rcases List.append_eq_append_iff.1 h with hp | ⟨z, hz, hrest⟩
  · exact hp
  · by_cases hz0 : z = []
    · subst hz0
      exact ⟨[], by simpa using hz.symm, by simpa using hrest.symm⟩
    · have hzb : startsBlank z = false := by
        refine Bool.eq_false_iff.2 fun hzt => ?_
        rw [startsBlank_of_isPrefix ⟨rest, hrest.symm⟩ hzt] at ht
        cases ht
      have hnot := not_isSingle_of_between hc hu (trim_ne_nil hz0 hzb)
      rw [← List.append_assoc, ← hz, ha] at hnot
      cases hnot

/-- A part that trims to a single token begins behind what is visible in front of other fields. -/
theorem exists_of_cut_back {b front t v : Text} {d : Char} (hd : isBlankCode d.toNat = true)
    (hv : trim v ≠ []) (ht : endsBlank t = false) (hb : isSingle (trim b) = true)
    (h : front ++ b = t ++ (String.utf8EncodeChar d ++ v)) :
    ∃ q, front = t ++ q ∧ String.utf8EncodeChar d ++ v = q ++ b := by
  rcases List.append_eq_append_iff.1 h with ⟨z, hz, hrest⟩ | hq
  · by_cases hz0 : z = []
    · subst hz0
      exact ⟨[], by simpa using hz.symm, by simpa using hrest.symm⟩
    · have hze : endsBlank z = false := by
        refine Bool.eq_false_iff.2 fun hzt => ?_
        rw [endsBlank_of_isSuffix ⟨front, hz.symm⟩ hzt] at ht
        cases ht
      have hnot := not_isSingle_of_between hd (trim_ne_nil_of_endsBlank hz0 hze) hv
      rw [← hrest, hb] at hnot
      cases hnot
  · exact hq

namespace OperatorTable

/-- A token at which three fields are cut holds the middle field. -/
theorem symbols_subset_of_split? {ops : OperatorTable} {s f m l x op y : Text}
    (hf : fields s = [f, m, l]) (h : ops.split? s = some (x, op, y)) :
    symbols m ⊆ symbols op := by
  obtain ⟨u, c, d, v, hs, hc, hd, hu, hv⟩ := exists_around_middle hf
  obtain ⟨a, b, hcut, hparts⟩ := split?_eq_some_iff.1 h
  obtain ⟨rfl, rfl⟩ : trim a = x ∧ trim b = y := ⟨hparts.left, hparts.right⟩
  have hx := hparts.left_single
  have hy := hparts.right_single
  have hm : isSingle m = true := (isSingle_of_mem_fields (t := s) (by simp [hf])).1
  have hms : symbols m ≠ [] := fun h0 => (isSingle_iff.1 hm).1 (symbols_eq_nil_iff.1 h0)
  have hstart : startsBlank (m ++ (String.utf8EncodeChar d ++ v)) = false := by
    rw [startsBlank, symbols_append m (startsFresh_encoding d v), List.head?_append_of_ne_nil _ hms]
    exact startsBlank_of_isSingle hm
  have hend : endsBlank (u ++ String.utf8EncodeChar c ++ m) = false := by
    rw [endsBlank, List.append_assoc, symbols_append u (startsFresh_encoding c m),
      symbols_encoding_append, List.getLast?_append_of_ne_nil _ (by simp),
      List.getLast?_cons_of_ne_nil hms]
    exact endsBlank_of_isSingle hm
  rw [hcut] at hs
  have hfront : a ++ (op ++ b) =
      u ++ String.utf8EncodeChar c ++ (m ++ (String.utf8EncodeChar d ++ v)) := by simpa using hs
  have hback : a ++ op ++ b =
      u ++ String.utf8EncodeChar c ++ m ++ (String.utf8EncodeChar d ++ v) := by simpa using hs
  obtain ⟨p, hp, -⟩ := exists_of_cut_front hc hu hstart hx hfront
  obtain ⟨q, hq, hqb⟩ := exists_of_cut_back hd hv hend hy hback
  have hop : op = p ++ m ++ q := by
    rw [hp, List.append_assoc, List.append_assoc] at hq
    rw [List.append_assoc]
    exact List.append_cancel_left hq
  have hfresh : startsFresh q = true :=
    startsFresh_of_isPrefix ⟨b, hqb.symm⟩ (startsFresh_encoding d v)
  have hsuffix : symbols m <:+ symbols (p ++ m) := symbols_isSuffix_behind ⟨a, hp.symm⟩ m
  rw [hop, symbols_append _ hfresh]
  exact fun z hz => List.mem_append_left _ (hsuffix.subset hz)

/-- A field that may be part of a word is not the middle one of three fields that can be cut. -/
theorem isSymbolic_of_split? {ops : OperatorTable} {s f m l x op y : Text}
    (hf : fields s = [f, m, l]) (h : ops.split? s = some (x, op, y)) : isSymbolic m = true := by
  obtain ⟨a, b, -, hparts⟩ := split?_eq_some_iff.1 h
  have hsymbolic := (mem_symbolic_iff.1 hparts.cut.member).2
  simp only [isSymbolic, Bool.not_eq_true', List.any_eq_false] at hsymbolic ⊢
  exact fun z hz => hsymbolic z (symbols_subset_of_split? hf h hz)

end OperatorTable
end RouteScript
