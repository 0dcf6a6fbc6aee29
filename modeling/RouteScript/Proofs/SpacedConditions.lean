import RouteScript.Proofs.FieldCuts

/-!
# White space in conditions

Conditions are read in two ways, as three fields and by a cut at a symbolic token. With tokens of
UTF-8 the two ways agree. A cut gives operands and a token that make up the fields of the text
(`areParts_fields_of_split?`), so three fields are never cut elsewhere, and whatever is read is the text
without its white space (`Condition.read_language`). White space put in on either side of the token
leaves the cut where it is (`split?_spaced`): tokens have no white space and stand at the borders of
characters, so none can reach from one side of a gap to the other (`stands_beside`). So all spacings
of a condition are read alike (`Condition.read_spaced`).
-/

namespace RouteScript

open Text

namespace Text

theorem exists_encoding_of_isValid {t : Text} (ht : isValid t = true) (hne : t ≠ []) :
    ∃ c u, t = String.utf8EncodeChar c ++ u ∧ .scalar c ∈ symbols t := by
  cases hs : symbols t with
  | nil => exact absurd (symbols_eq_nil_iff.1 hs) hne
  | cons s ss =>
    cases s with
    | stray b =>
      have hstray := isValid_iff.1 ht (.stray b) (by simp [hs])
      cases hstray
    | scalar c =>
      refine ⟨c, ofSymbols ss, ?_, List.mem_cons_self⟩
      rw [← ofSymbols_symbols t, hs]
      rfl

theorem startsFresh_valid_append {t : Text} (ht : isValid t = true) (hne : t ≠ []) (u : Text) :
    startsFresh (t ++ u) = true := by
  obtain ⟨c, v, rfl, -⟩ := exists_encoding_of_isValid ht hne
  rw [List.append_assoc]
  exact startsFresh_encoding c (v ++ u)

def visible (t : Text) : Text := ofSymbols ((symbols t).filter fun s => !s.isBlank)

theorem flatten_pushRun (run : Text) (runs : List Text) :
    (pushRun run runs).flatten = run ++ runs.flatten := by
  unfold pushRun
  split
  · next h => rw [h, List.nil_append]
  · rfl

theorem flatten_fields (t : Text) : (fields t).flatten = visible t := by
  rw [fields_eq, flatten_pushRun, visible]
  induction symbols t with
  | nil => rfl
  | cons s ss ih =>
    cases hs : s.isBlank with
    | true => simp [runsFrom, hs, flatten_pushRun, ih]
    | false => simp [runsFrom, hs, ih, ofSymbols_cons]

/-- What stands inside a text stands there whatever follows the text. -/
theorem stands_append_iff {t x y : Text} {j : Nat} (h : j + t.length ≤ x.length) :
    t <+: (x ++ y).drop j ↔ t <+: x.drop j := by
  rw [List.drop_append_of_le_length (by omega)]
  constructor
  · intro ht
    refine List.prefix_of_prefix_length_le ht (List.prefix_append _ y) ?_
    rw [List.length_drop]
    omega
  · intro ht
    exact ht.trans (List.prefix_append _ y)

theorem scalar_mem_of_isPrefix {c : Char} {t u : Text} (ht : isValid t = true) (hne : t ≠ [])
    (h : t <+: String.utf8EncodeChar c ++ u) : .scalar c ∈ symbols t := by
  obtain ⟨d, v, rfl, hd⟩ := exists_encoding_of_isValid ht hne
  obtain ⟨z, hz⟩ := h
  have hs := congrArg symbols hz
  rw [List.append_assoc, symbols_encoding_append, symbols_encoding_append, List.cons.injEq] at hs
  rwa [hs.1] at hd

/-- UTF-8 does not begin inside a character. -/
theorem not_isPrefix_drop_encoding {t : Text} (hv : isValid t = true) (hne : t ≠ []) {c : Char}
    {k : Nat} (hk : k + 1 < (String.utf8EncodeChar c).length) (y : Text) :
    ¬ t <+: (String.utf8EncodeChar c ++ y).drop (k + 1) := by
  intro h
  obtain ⟨b, r, he, hr, -⟩ := encoding_spec c
  have hkr : k < r.length := by
    rw [he, List.length_cons] at hk
    omega
  rw [he, List.cons_append, List.drop_succ_cons, List.drop_append_of_le_length hkr.le,
    List.drop_eq_getElem_cons hkr, List.cons_append] at h
  have hfresh := startsFresh_valid_append hv hne []
  cases t with
  | nil => exact hne rfl
  | cons a t =>
    have ha : isContinuation a = true := by
      rw [(List.cons_prefix_cons.1 h).1]
      exact hr _ (List.getElem_mem hkr)
    simp [startsFresh, ha] at hfresh

/-- A token does not reach into white space behind it. -/
theorem not_isPrefix_append_blank {t x : Text} (hv : isValid t = true) (hs : isSingle t = true)
    {c : Char} (hc : isBlankCode c.toNat = true) (hlen : x.length < t.length) (y : Text) :
    ¬ t <+: x ++ (String.utf8EncodeChar c ++ y) := by
  rintro ⟨q, hq⟩
  rcases List.append_eq_append_iff.1 hq with ⟨z, rfl, -⟩ | ⟨u, rfl, hu⟩
  · rw [List.length_append] at hlen
    omega
  · have hne : u ≠ [] := by
      rintro rfl
      simp at hlen
    have hpre : u <+: String.utf8EncodeChar c ++ y := ⟨q, hu.symm⟩
    have hsymbols : symbols (x ++ u) = symbols x ++ symbols u :=
      symbols_append x (startsFresh_of_isPrefix hpre (startsFresh_encoding c y))
    rw [isValid_iff, hsymbols] at hv
    have huv : isValid u = true := isValid_iff.2 (List.forall_mem_append.1 hv).2
    have hmem : .scalar c ∈ symbols (x ++ u) := by
      rw [hsymbols]
      exact List.mem_append_right _ (scalar_mem_of_isPrefix huv hne hpre)
    have hblank := (isSingle_iff.1 hs).2 _ hmem
    rw [show (Symbol.scalar c).isBlank = true from hc] at hblank
    cases hblank

theorem stands_beside_blank {t x y : Text} {c : Char} {j : Nat} (hv : isValid t = true)
    (hs : isSingle t = true) (hc : isBlankCode c.toNat = true)
    (h : t <+: (x ++ (String.utf8EncodeChar c ++ y)).drop j) :
    j + t.length ≤ x.length ∨ x.length + (String.utf8EncodeChar c).length ≤ j := by
  by_contra hno
  rcases Nat.lt_or_ge x.length j with hj | hj
  · obtain ⟨k, rfl⟩ : ∃ k, j = x.length + (k + 1) := ⟨j - x.length - 1, by omega⟩
    rw [List.drop_length_add_append] at h
    exact not_isPrefix_drop_encoding hv (isSingle_iff.1 hs).1 (by omega) y h
  · rw [List.drop_append_of_le_length hj] at h
    refine not_isPrefix_append_blank hv hs hc ?_ y h
    rw [List.length_drop]
    omega

/-- A token of UTF-8 stands on one side of white space or on the other. -/
theorem stands_beside {t x w y : Text} {j : Nat} (hv : isValid t = true) (hs : isSingle t = true)
    (hw : IsWhite w) (hne : w ≠ []) (h : t <+: (x ++ (w ++ y)).drop j) :
    j + t.length ≤ x.length ∨ x.length + w.length ≤ j := by
  induction hw generalizing x with
  | nil => exact absurd rfl hne
  | @cons c w hc hw ih =>
    rw [List.append_assoc] at h
    rcases stands_beside_blank hv hs hc h with hl | hr
    · exact .inl hl
    · right
      by_cases hnil : w = []
      · simpa [hnil] using hr
      · rw [← List.append_assoc] at h
        have hpos : 0 < t.length := List.length_pos_iff.2 (isSingle_iff.1 hs).1
        rcases ih hnil h with hl | hr'
        · rw [List.length_append] at hl
          omega
        · rw [List.length_append] at hr' ⊢
          omega

end Text

namespace OperatorTable

section Foremost

variable {tokens : List Text} (ht : ∀ t ∈ tokens, isValid t = true ∧ isSingle t = true)
include ht

/-- White space in front of the token moves the cut with the token. -/
theorem Cut.Foremost.white_before {l op b w : Text}
    (h : Cut.Foremost tokens (l ++ (op ++ b)) ⟨l.length, op⟩) (hl : ∀ t ∈ tokens, ¬ t <:+: l)
    (hw : IsWhite w) : Cut.Foremost tokens (l ++ w ++ (op ++ b)) ⟨(l ++ w).length, op⟩ := by
  by_cases hne : w = []
  · simpa [hne] using h
  have hpos : 0 < (l ++ w).length := by
    rw [List.length_append]
    exact Nat.add_pos_left h.inside _
  have hplace : ∀ t ∈ tokens, ∀ j < (l ++ w).length, ¬ t <+: (l ++ w ++ (op ++ b)).drop j := by
    intro t hm j hj hstands
    rw [List.append_assoc] at hstands
    rcases stands_beside (ht t hm).1 (ht t hm).2 hw hne hstands with hle | hle
    · exact hl t hm (isInfix_of_stands ((stands_append_iff hle).1 hstands))
    · rw [List.length_append] at hj
      omega
  refine ⟨h.member, hpos, ?_, hplace op h.member 0 hpos, fun t hm _ => hplace t hm, ?_⟩
  · dsimp only
    rw [List.drop_left]
    exact List.prefix_append op b
  · intro t hm _ hstands
    dsimp only at hstands ⊢
    rw [List.drop_left] at hstands
    by_contra hlong
    -- A longer token begins with `op`, which is not at the front.
    have hop : op <+: t :=
      List.prefix_of_prefix_length_le (List.prefix_append op b) hstands (by omega)
    have hfront : ¬ t <+: l ++ (op ++ b) := fun hf => h.behind (hop.trans hf)
    refine hlong (h.longest t hm hfront ?_)
    rw [List.drop_left]
    exact hstands

/-- White space behind the token leaves the cut where it is. -/
theorem Cut.Foremost.white_behind {a op r w : Text}
    (h : Cut.Foremost tokens (a ++ (op ++ r)) ⟨a.length, op⟩) (hr : ∀ t ∈ tokens, ¬ t <:+: r)
    (hw : IsWhite w) : Cut.Foremost tokens (a ++ (op ++ (w ++ r))) ⟨a.length, op⟩ := by
  by_cases hne : w = []
  · simpa [hne] using h
  have hplace : ∀ t ∈ tokens, ∀ j, t <+: (a ++ op ++ (w ++ r)).drop j →
      j + t.length ≤ (a ++ op).length := by
    intro t hm j hstands
    rcases stands_beside (ht t hm).1 (ht t hm).2 hw hne hstands with hle | hle
    · exact hle
    · obtain ⟨k, rfl⟩ : ∃ k, j = (a ++ op ++ w).length + k :=
        ⟨j - (a ++ op ++ w).length, by rw [List.length_append]; omega⟩
      rw [← List.append_assoc, List.drop_length_add_append] at hstands
      exact absurd (isInfix_of_stands hstands) (hr t hm)
  have hsame : ∀ t : Text, ∀ j, j + t.length ≤ (a ++ op).length →
      (t <+: (a ++ op ++ (w ++ r)).drop j ↔ t <+: (a ++ op ++ r).drop j) := by
    intro t j hle
    rw [stands_append_iff hle, stands_append_iff hle]
  have hfront : ∀ t ∈ tokens, ¬ t <+: a ++ op ++ (w ++ r) → ∀ j, t <+: (a ++ op ++ (w ++ r)).drop j →
      ¬ t <+: a ++ op ++ r := by
    intro t hm hnot j hstands hf
    have hle := hplace t hm j hstands
    exact hnot ((hsame t 0 (by omega)).2 hf)
  rw [← List.append_assoc] at h ⊢
  refine ⟨h.member, h.inside, ?_, ?_, ?_, ?_⟩
  · dsimp only
    rw [List.append_assoc, List.drop_left]
    exact List.prefix_append op _
  · intro hf
    exact h.behind ((hsame op 0 (hplace op h.member 0 hf)).1 hf)
  · intro t hm hnot j hj hstands
    exact h.earliest t hm (hfront t hm hnot j hstands) j hj
      ((hsame t j (hplace t hm j hstands)).1 hstands)
  · intro t hm _ hstands
    have hle := hplace t hm _ hstands
    rw [List.length_append] at hle
    dsimp only at hle ⊢
    omega

end Foremost

variable {ops : OperatorTable} {s l op r w w' : Text}

theorem valid_single_of_symbolic (hv : ∀ t ∈ ops.tokens, isValid t = true) {t : Text}
    (ht : t ∈ ops.symbolic) : isValid t = true ∧ isSingle t = true := by
  have hmem := (mem_symbolic_iff.1 ht).1
  exact ⟨hv t hmem, (isToken_of_has (has_iff_mem.2 hmem)).1⟩

/-- White space around the token of a compact condition changes nothing about its cut. -/
theorem split?_spaced (hv : ∀ t ∈ ops.tokens, isValid t = true)
    (h : ops.split? (l ++ op ++ r) = some (l, op, r)) (hw : IsWhite w) (hw' : IsWhite w') :
    ops.split? (l ++ w ++ op ++ w' ++ r) = some (l, op, r) := by
  obtain ⟨a, b, hs, hparts⟩ := split?_eq_some_iff.1 h
  -- The operands are as long as the parts they were trimmed from.
  have hlen := congrArg List.length hs
  have ha := (trim_isInfix a).length_le
  have hb := (trim_isInfix b).length_le
  rw [hparts.left] at ha
  rw [hparts.right] at hb
  simp only [List.length_append] at hlen
  have hl : l = a := by
    rw [← hparts.left]
    refine (trim_isInfix a).eq_of_length ?_
    rw [hparts.left]
    omega
  have hr : r = b := by
    rw [← hparts.right]
    refine (trim_isInfix b).eq_of_length ?_
    rw [hparts.right]
    omega
  subst hl hr
  have hbefore := hparts.cut.white_before (fun t => valid_single_of_symbolic hv) hparts.left_free hw
  have hcut := hbefore.white_behind (fun t => valid_single_of_symbolic hv) hparts.right_free hw'
  refine split?_eq_some_iff.2 ⟨l ++ w, w' ++ r, by simp, hcut, ?_, ?_, hparts.left_single,
    hparts.right_single, hparts.left_free, hparts.right_free⟩
  · rw [trim_append_white hw, hparts.left]
  · rw [trim_white_append hw', hparts.right]

/-- The fields are two operands and a token, or fewer where the token touches an operand. -/
def AreParts (fs : List Text) (l op r : Text) : Prop :=
  fs = [l, op, r] ∨ fs.length ≤ 2 ∧ fs.flatten = l ++ op ++ r

theorem AreParts.length_le {fs : List Text} (h : AreParts fs l op r) : fs.length ≤ 3 := by
  rcases h with rfl | ⟨hlen, -⟩
  · exact Nat.le_refl 3
  · omega

theorem AreParts.flatten_eq {fs : List Text} (h : AreParts fs l op r) :
    fs.flatten = l ++ op ++ r := by
  rcases h with rfl | ⟨-, hflat⟩
  · simp
  · exact hflat

theorem AreParts.eq_of_three {f m g : Text} (h : AreParts [f, m, g] l op r) :
    f = l ∧ m = op ∧ g = r := by
  rcases h with h | ⟨hlen, -⟩
  · simpa using h
  · simp at hlen

theorem areParts_fields_spaced (hl : isSingle l = true) (hop : isSingle op = true)
    (hv : isValid op = true) (hr : isSingle r = true) (hw : IsWhite w) (hw' : IsWhite w') :
    AreParts (fields (l ++ (w ++ (op ++ (w' ++ r))))) l op r := by
  have hne : op ≠ [] := (isSingle_iff.1 hop).1
  have hopr : isSingle (op ++ r) = true := isSingle_append hop hr (symbols_valid_append hv r)
  have hlop : isSingle (l ++ op) = true := by
    refine isSingle_append hl hop (symbols_append l ?_)
    simpa using startsFresh_valid_append hv hne []
  have hall : isSingle (l ++ (op ++ r)) = true :=
    isSingle_append hl hopr (symbols_append l (startsFresh_valid_append hv hne r))
  by_cases hwn : w = []
  · right
    by_cases hwn' : w' = []
    · simp [hwn, hwn', fields_of_isSingle hall]
    · rw [hwn, List.nil_append, ← List.append_assoc, fields_single_append hlop hw' hwn',
        fields_of_isSingle hr]
      simp
  · rw [fields_single_append hl hw hwn]
    by_cases hwn' : w' = []
    · right
      simp [hwn', fields_of_isSingle hopr]
    · left
      rw [fields_single_append hop hw' hwn', fields_of_isSingle hr]

/-- The parts of a cut condition make up its fields. -/
theorem areParts_fields_of_split? (hv : ∀ t ∈ ops.tokens, isValid t = true)
    (h : ops.split? s = some (l, op, r)) : AreParts (fields s) l op r := by
  obtain ⟨a, b, rfl, hparts⟩ := split?_eq_some_iff.1 h
  obtain ⟨hopv, hop⟩ := valid_single_of_symbolic hv hparts.cut.member
  obtain ⟨w₀, w₁, hw₀, hw₁, ha⟩ := exists_white_around a
  obtain ⟨w₂, w₃, hw₂, hw₃, hb⟩ := exists_white_around b
  rw [hparts.left] at ha
  rw [hparts.right] at hb
  have hs : a ++ (op ++ b) = w₀ ++ (l ++ (w₁ ++ (op ++ (w₂ ++ r))) ++ w₃) := by
    rw [ha, hb]
    simp
  rw [hs, fields_white_append hw₀, fields_append_white hw₃]
  exact areParts_fields_spaced hparts.left_single hop hopv hparts.right_single hw₁ hw₂

end OperatorTable

namespace Condition

open OperatorTable

variable {ops : OperatorTable} {s : Text} {c : Condition}

/-- Whichever way a condition that can be cut is read, the outcome is that of the cut. -/
theorem read_of_split? (hv : ∀ t ∈ ops.tokens, isValid t = true)
    (h : ops.split? s = some (c.left, c.operator, c.right)) : read ops s = .ok c := by
  rcases areParts_fields_of_split? hv h with hf | ⟨hlen, -⟩
  · exact read_of_fields hf (has_iff_mem.1 (split?_some_spec h).1)
  · have hne : s ≠ [] := by
      rintro rfl
      obtain ⟨-, hl, -, hsub, -⟩ := split?_some_spec h
      exact (isSingle_iff.1 hl).1 (List.subset_nil.1 hsub)
    rw [read, if_neg hne]
    split
    · next hf => simp [hf] at hlen
    · rw [h]

/-- What is read from a text is the text without its white space, in at most three fields. Three
fields are a condition exactly when the middle one is a token, and it is made of them. -/
theorem read_language (ops : OperatorTable) (hv : ∀ t ∈ ops.tokens, isValid t = true) (s : Text) :
    (∀ c, read ops s = .ok c → (fields s).length ≤ 3 ∧ c.operator ∈ ops.tokens ∧
      isSingle c.left = true ∧ isSingle c.right = true ∧
      c.left ++ c.operator ++ c.right = visible s) ∧
    ∀ f m l, fields s = [f, m, l] → ∀ c, read ops s = .ok c ↔ m ∈ ops.tokens ∧ c = ⟨f, m, l⟩ := by
  have hparts : ∀ c, read ops s = .ok c → AreParts (fields s) c.left c.operator c.right := by
    intro c h
    rcases read_ok_cases h with ⟨hf, -⟩ | hs
    · exact .inl hf
    · exact areParts_fields_of_split? hv hs
  constructor
  · intro c h
    obtain ⟨hop, hl, hr, -⟩ := read_ok_spec h
    refine ⟨(hparts c h).length_le, has_iff_mem.1 hop, hl, hr, ?_⟩
    rw [← flatten_fields, (hparts c h).flatten_eq]
  · intro f m l hf c
    constructor
    · intro h
      have hop := has_iff_mem.1 (read_ok_spec h).1
      obtain ⟨rfl, rfl, rfl⟩ := AreParts.eq_of_three (hf ▸ hparts c h)
      exact ⟨hop, rfl⟩
    · rintro ⟨hm, rfl⟩
      exact read_of_fields hf hm

/-- A stray byte as an operand in front of a wide space, and three fields with no token between the
others although they hold one. -/
theorem read_language_stray :
    let ops := ofList [utf8 "\u2260", utf8 ">=", utf8 "in"]
    let s : Text := 0xFF :: utf8 "\u2003\u2260b"
    (read ops s = .ok ⟨[0xFF], utf8 "\u2260", utf8 "b"⟩ ∧ (fields s).length ≤ 3 ∧
      [0xFF] ++ utf8 "\u2260" ++ utf8 "b" = visible s) ∧
    fields (utf8 "a >=x b") = [utf8 "a", utf8 ">=x", utf8 "b"] ∧
    ∀ c, read ops (utf8 "a >=x b") ≠ .ok c := by
  intro ops s
  have hv : ∀ t ∈ ops.tokens, isValid t = true := by decide +kernel
  have hsymbolic : ops.symbolic = [utf8 "\u2260", utf8 ">="] :=
    symbolic_of_pairwise (by decide +kernel) (by decide +kernel)
  have hs : read ops s = .ok ⟨[0xFF], utf8 "\u2260", utf8 "b"⟩ := by
    refine read_of_split? hv ?_
    rw [split?, hsymbolic]
    decide +kernel
  have hf : fields (utf8 "a >=x b") = [utf8 "a", utf8 ">=x", utf8 "b"] := by decide +kernel
  obtain ⟨hlen, -, -, -, hvisible⟩ := (read_language ops hv s).1 _ hs
  refine ⟨⟨hs, hlen, hvisible⟩, hf, fun c hc => ?_⟩
  obtain ⟨hm, -⟩ := ((read_language ops hv _).2 _ _ _ hf c).1 hc
  exact absurd hm (by decide +kernel)

/-- All spacings of a compact condition are read alike. -/
theorem read_spaced (ops : OperatorTable) (hv : ∀ t ∈ ops.tokens, isValid t = true)
    {l op r u w : Text} (h : ops.split? (l ++ op ++ r) = some (l, op, r)) (hu : IsWhite u)
    (hw : IsWhite w) : read ops (l ++ u ++ op ++ w ++ r) = .ok ⟨l, op, r⟩ :=
  read_of_split? hv (split?_spaced hv h hu hw)

/-- The compact form begins with `!=`, which white space breaks up. -/
theorem read_spaced_behind_first_token :
    read default (utf8 "!==b") = .ok ⟨utf8 "!", utf8 "==", utf8 "b"⟩ ∧
    read default (utf8 "!\u2003==b") = .ok ⟨utf8 "!", utf8 "==", utf8 "b"⟩ ∧
    read default (utf8 "!==\u00A0\tb") = .ok ⟨utf8 "!", utf8 "==", utf8 "b"⟩ ∧
    read default (utf8 "! ==  b") = .ok ⟨utf8 "!", utf8 "==", utf8 "b"⟩ := by
  have hv : ∀ t ∈ default.tokens, isValid t = true := by decide +kernel
  have h : default.split? (utf8 "!" ++ utf8 "==" ++ utf8 "b") =
      some (utf8 "!", utf8 "==", utf8 "b") := by
    rw [split?, symbolic_default]
    decide +kernel
  exact ⟨read_spaced default hv h (u := []) (w := []) .nil .nil,
    read_spaced default hv h (u := utf8 "\u2003") (w := []) (by decide +kernel) .nil,
    read_spaced default hv h (u := []) (w := utf8 "\u00A0\t") .nil (by decide +kernel),
    read_spaced default hv h (u := utf8 " ") (w := utf8 "  ") (by decide +kernel)
      (by decide +kernel)⟩

end Condition
end RouteScript
