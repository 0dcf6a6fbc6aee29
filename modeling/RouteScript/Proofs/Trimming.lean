import Mathlib.Data.List.DropRight
import Mathlib.Data.List.Infix
import RouteScript.Text.Blank
import RouteScript.Proofs.SymbolReading

/-!
# Trimming and fields of arbitrary bytes

Trimming takes white-space characters off the two ends of a text and leaves every other byte where
it is, also in texts that are not UTF-8. A text is trimmed when it neither starts nor ends with white
space (`trim_eq_self_iff`), and the result of trimming is trimmed (`trim_trim`). A visible ASCII byte
divides the work: what is in front of it is trimmed at the start only and what is behind it at the
end only (`trim_append_cons`).

The fields of a text are single tokens made of its bytes (`isSingle_of_mem_fields`), and tokens with
a space between them are read back as fields (`fields_append_space`).
-/

namespace RouteScript.Text

def startsBlank (t : Text) : Bool := (symbols t).head?.any Symbol.isBlank

def endsBlank (t : Text) : Bool := (symbols t).getLast?.any Symbol.isBlank

def trimStart (t : Text) : Text := ofSymbols ((symbols t).dropWhile Symbol.isBlank)

def trimEnd (t : Text) : Text := ofSymbols ((symbols t).rdropWhile Symbol.isBlank)

section Strip

variable {α : Type} {p : α → Bool}

theorem strip_eq_rdropWhile (xs : List α) : strip p xs = (xs.dropWhile p).rdropWhile p := rfl

theorem strip_isInfix (xs : List α) : strip p xs <:+: xs :=
  (List.rdropWhile_prefix p _).isInfix.trans (List.dropWhile_suffix p).isInfix

theorem dropWhile_append_cons {x : α} (hx : p x = false) (xs ys : List α) :
    (xs ++ x :: ys).dropWhile p = xs.dropWhile p ++ x :: ys := by
  induction xs with
  | nil => simp [hx]
  | cons y xs ih => by_cases hy : p y = true <;> simp [hy, ih]

theorem rdropWhile_append_cons {x : α} (hx : p x = false) (xs ys : List α) :
    (xs ++ x :: ys).rdropWhile p = xs ++ x :: ys.rdropWhile p := by
  simp [List.rdropWhile, dropWhile_append_cons hx]

/-- A member that stays divides the stripping of the two ends. -/
theorem strip_append_cons {x : α} (hx : p x = false) (xs ys : List α) :
    strip p (xs ++ x :: ys) = xs.dropWhile p ++ x :: ys.rdropWhile p := by
  rw [strip_eq_rdropWhile, dropWhile_append_cons hx, rdropWhile_append_cons hx]

theorem strip_concat {x : α} (hx : p x = true) (xs : List α) : strip p (xs ++ [x]) = strip p xs := by
  rw [strip_eq_rdropWhile, strip_eq_rdropWhile, List.dropWhile_append]
  cases h : xs.dropWhile p with
  | nil => simp [hx]
  | cons y ys => exact List.rdropWhile_concat_pos p (y :: ys) x hx

theorem strip_append_of_all {ys : List α} (hy : ∀ y ∈ ys, p y = true) (xs : List α) :
    strip p (xs ++ ys) = strip p xs := by
  induction ys generalizing xs with
  | nil => rw [List.append_nil]
  | cons y ys ih =>
    obtain ⟨hy, hys⟩ := List.forall_mem_cons.1 hy
    rw [List.append_cons, ih hys, strip_concat hy]

theorem dropWhile_eq_self_iff_head? {xs : List α} :
    xs.dropWhile p = xs ↔ xs.head?.any p = false := by
  cases xs with
  | nil => simp
  | cons x xs =>
    rw [List.dropWhile_eq_self_iff]
    simp

theorem rdropWhile_eq_self_iff_getLast? {xs : List α} :
    xs.rdropWhile p = xs ↔ xs.getLast?.any p = false := by
  rw [← List.head?_reverse, ← dropWhile_eq_self_iff_head?, List.rdropWhile, List.reverse_eq_iff]

theorem strip_eq_self_iff {xs : List α} :
    strip p xs = xs ↔ xs.head?.any p = false ∧ xs.getLast?.any p = false := by
  rw [strip_eq_rdropWhile, ← dropWhile_eq_self_iff_head?, ← rdropWhile_eq_self_iff_getLast?]
  constructor
  · intro h
    have hle := (List.rdropWhile_prefix p (xs.dropWhile p)).length_le
    have hd : xs.dropWhile p = xs :=
      (List.dropWhile_suffix p).eq_of_length_le (by rw [h] at hle; exact hle)
    rw [hd] at h
    exact ⟨hd, h⟩
  · rintro ⟨hd, hr⟩
    rw [hd, hr]

theorem head?_strip (xs : List α) : (strip p xs).head?.any p = false := by
  have hd : (xs.dropWhile p).head?.any p = false :=
    dropWhile_eq_self_iff_head?.1 (List.dropWhile_idempotent p xs)
  rw [strip_eq_rdropWhile]
  obtain ⟨zs, hzs⟩ := List.rdropWhile_prefix p (xs.dropWhile p)
  cases h : (xs.dropWhile p).rdropWhile p with
  | nil => rfl
  | cons x ys =>
    rw [← hzs, h] at hd
    simpa using hd

theorem getLast?_strip (xs : List α) : (strip p xs).getLast?.any p = false :=
  rdropWhile_eq_self_iff_getLast?.1 (List.rdropWhile_idempotent p _)

end Strip

theorem symbols_eq_nil_iff {t : Text} : symbols t = [] ↔ t = [] := by
  constructor
  · intro h
    rw [← ofSymbols_symbols t, h, ofSymbols_nil]
  · rintro rfl
    rfl

theorem symbols_trim (t : Text) : symbols (trim t) = strip Symbol.isBlank (symbols t) :=
  symbols_ofSymbols_of_isInfix (strip_isInfix _)

theorem ofSymbols_isInfix {p : List Symbol} {t : Text} (h : p <:+: symbols t) :
    ofSymbols p <:+: t := by
  have hb := h.flatMap Symbol.bytes
  rwa [← ofSymbols, ← ofSymbols, ofSymbols_symbols] at hb

/-- Trimming only takes bytes off the two ends. -/
theorem trim_isInfix (t : Text) : trim t <:+: t :=
  ofSymbols_isInfix (strip_isInfix _)

theorem trim_subset_append_cons (u : Text) (b : UInt8) (t : Text) : trim t ⊆ u ++ b :: t := by
  have ht : t ⊆ u ++ b :: t := List.subset_append_of_subset_right u (List.subset_cons_self b t)
  exact List.Subset.trans (trim_isInfix t).subset ht

theorem trim_eq_self_iff {t : Text} : trim t = t ↔ startsBlank t = false ∧ endsBlank t = false := by
  rw [startsBlank, endsBlank, ← strip_eq_self_iff, ← symbols_trim]
  constructor
  · intro h
    rw [h]
  · intro h
    rw [← ofSymbols_symbols (trim t), h, ofSymbols_symbols]

theorem startsBlank_trim (t : Text) : startsBlank (trim t) = false := by
  rw [startsBlank, symbols_trim]
  exact head?_strip _

theorem endsBlank_trim (t : Text) : endsBlank (trim t) = false := by
  rw [endsBlank, symbols_trim]
  exact getLast?_strip _

@[simp] theorem trim_trim (t : Text) : trim (trim t) = trim t :=
  trim_eq_self_iff.2 ⟨startsBlank_trim t, endsBlank_trim t⟩

theorem trimStart_eq_self {t : Text} (h : startsBlank t = false) : trimStart t = t := by
  rw [trimStart, dropWhile_eq_self_iff_head?.2 h, ofSymbols_symbols]

theorem trimEnd_eq_self {t : Text} (h : endsBlank t = false) : trimEnd t = t := by
  rw [trimEnd, rdropWhile_eq_self_iff_getLast?.2 h, ofSymbols_symbols]

theorem trimStart_isInfix (t : Text) : trimStart t <:+: t :=
  ofSymbols_isInfix (List.dropWhile_suffix _).isInfix

/-- A visible ASCII byte divides the trimming of the two ends. -/
theorem trim_append_cons {b : UInt8} (hb : b < 0x80) (hv : (Symbol.ascii b).isBlank = false)
    (t u : Text) : trim (t ++ b :: u) = trimStart t ++ b :: trimEnd u := by
  rw [trim, symbols_append_ascii t hb, strip_append_cons hv, ofSymbols_append, ofSymbols_cons,
    bytes_ascii hb]
  rfl

theorem trim_cons_blank {b : UInt8} (hb : b < 0x80) (hv : (Symbol.ascii b).isBlank = true)
    (t : Text) : trim (b :: t) = trim t := by
  rw [trim, symbols_cons_ascii hb, strip_eq_rdropWhile, List.dropWhile_cons_of_pos hv]
  rfl

theorem trim_append_of_blank {w : Text}
    (hw : ∀ b ∈ w, b < 0x80 ∧ (Symbol.ascii b).isBlank = true) (t : Text) :
    trim (w ++ t) = trim t := by
  induction w with
  | nil => rfl
  | cons b w ih =>
    obtain ⟨hb, hw⟩ := List.forall_mem_cons.1 hw
    rw [List.cons_append, trim_cons_blank hb.1 hb.2, ih hw]

theorem trim_append_blank {b : UInt8} (hb : b < 0x80) (hv : (Symbol.ascii b).isBlank = true)
    (t : Text) : trim (t ++ [b]) = trim t := by
  rw [trim, symbols_append_ascii t hb, symbols_nil, strip_concat hv]
  rfl

inductive IsWhite : Text → Prop where
  | nil : IsWhite []
  | cons {c : Char} {w : Text} : isBlankCode c.toNat = true → IsWhite w →
      IsWhite (String.utf8EncodeChar c ++ w)

theorem isWhite_iff {w : Text} : IsWhite w ↔ ∀ s ∈ symbols w, s.isBlank = true := by
  constructor
  · intro hw
    induction hw with
    | nil => simp
    | cons hc _ ih =>
      rw [symbols_encoding_append]
      exact List.forall_mem_cons.2 ⟨hc, ih⟩
  · intro h
    rw [← ofSymbols_symbols w]
    generalize symbols w = ss at h ⊢
    induction ss with
    | nil => exact .nil
    | cons s ss ih =>
      obtain ⟨hs, hss⟩ := List.forall_mem_cons.1 h
      cases s with
      | stray b => cases hs
      | scalar c => exact .cons hs (ih hss)

instance (w : Text) : Decidable (IsWhite w) := decidable_of_iff _ isWhite_iff.symm

theorem IsWhite.startsFresh {w : Text} (hw : IsWhite w) : startsFresh w = true := by
  cases hw with
  | nil => rfl
  | cons _ _ => exact startsFresh_encoding _ _

theorem trim_append_white {w : Text} (hw : IsWhite w) (t : Text) : trim (t ++ w) = trim t := by
  rw [trim, symbols_append t hw.startsFresh, strip_append_of_all (isWhite_iff.1 hw)]
  rfl

theorem isValid_of_isWhite {w : Text} (hw : IsWhite w) : isValid w = true := by
  refine isValid_iff.2 fun s hs => ?_
  have hb := isWhite_iff.1 hw s hs
  cases s with
  | scalar c => rfl
  | stray b => cases hb

theorem trim_white_append {w : Text} (hw : IsWhite w) (t : Text) : trim (w ++ t) = trim t := by
  rw [trim, trim, symbols_valid_append (isValid_of_isWhite hw), strip_eq_rdropWhile,
    List.dropWhile_append_of_pos (isWhite_iff.1 hw)]
  rfl

/-- Trimming takes white space off and nothing else. -/
theorem exists_white_around (t : Text) :
    ∃ w w', IsWhite w ∧ IsWhite w' ∧ t = w ++ (trim t ++ w') := by
  let p := Symbol.isBlank
  have hsymbols : symbols t = (symbols t).takeWhile p ++
      (strip p (symbols t) ++ ((symbols t).dropWhile p).rtakeWhile p) := by
    rw [strip_eq_rdropWhile, List.rdropWhile_append_rtakeWhile, List.takeWhile_append_dropWhile]
  have hfront : IsWhite (ofSymbols ((symbols t).takeWhile p)) := by
    rw [isWhite_iff, symbols_ofSymbols_of_isPrefix (List.takeWhile_prefix p)]
    exact fun s hs => List.mem_takeWhile_imp hs
  have hback : IsWhite (ofSymbols (((symbols t).dropWhile p).rtakeWhile p)) := by
    rw [isWhite_iff, symbols_ofSymbols_of_isSuffix
      ((List.rtakeWhile_suffix p _).trans (List.dropWhile_suffix p))]
    exact fun s hs => List.mem_rtakeWhile_imp hs
  refine ⟨_, _, hfront, hback, ?_⟩
  rw [trim, ← ofSymbols_append, ← ofSymbols_append, ← hsymbols, ofSymbols_symbols]

theorem startsBlank_append_ascii {b : UInt8} (hb : b < 0x80) {t : Text} (ht : t ≠ []) (u : Text) :
    startsBlank (t ++ b :: u) = startsBlank t := by
  rw [startsBlank, startsBlank, symbols_append_ascii t hb]
  cases h : symbols t with
  | nil => exact absurd (symbols_eq_nil_iff.1 h) ht
  | cons s ss => rfl

theorem endsBlank_append_ascii {b : UInt8} (hb : b < 0x80) (t : Text) {u : Text} (hu : u ≠ []) :
    endsBlank (t ++ b :: u) = endsBlank u := by
  rw [endsBlank, endsBlank, symbols_append_ascii t hb]
  cases h : symbols u with
  | nil => exact absurd (symbols_eq_nil_iff.1 h) hu
  | cons s ss => simp [List.getLast?_cons]

/-- A text that begins with a visible symbol is not blank. -/
theorem trim_ne_nil {t : Text} (ht : t ≠ []) (h : startsBlank t = false) : trim t ≠ [] := by
  intro h0
  rw [← symbols_eq_nil_iff, symbols_trim, strip_eq_rdropWhile, dropWhile_eq_self_iff_head?.2 h,
    List.rdropWhile_eq_nil_iff] at h0
  cases hs : symbols t with
  | nil => exact ht (symbols_eq_nil_iff.1 hs)
  | cons s ss =>
    have hb := h0 s (by simp [hs])
    simp [startsBlank, hs, hb] at h

theorem isSingle_iff {t : Text} :
    isSingle t = true ↔ t ≠ [] ∧ ∀ s ∈ symbols t, s.isBlank = false := by
  simp [isSingle, hasBlank]

theorem not_mem_of_isSingle {t : Text} (h : isSingle t = true) {b : UInt8} (hb : b < 0x80)
    (hv : (Symbol.ascii b).isBlank = true) : b ∉ t := by
  intro hm
  have hf := (isSingle_iff.1 h).2 _ (ascii_mem_symbols hb hm)
  rw [hv] at hf
  cases hf

theorem startsBlank_of_isSingle {t : Text} (h : isSingle t = true) : startsBlank t = false := by
  rw [startsBlank]
  cases hs : symbols t with
  | nil => rfl
  | cons s ss => simpa using (isSingle_iff.1 h).2 s (by simp [hs])

theorem endsBlank_of_isSingle {t : Text} (h : isSingle t = true) : endsBlank t = false := by
  rw [endsBlank]
  cases hs : (symbols t).getLast? with
  | none => rfl
  | some s => simpa using (isSingle_iff.1 h).2 s (List.mem_of_getLast? hs)

theorem isSingle_append {t u : Text} (ht : isSingle t = true) (hu : isSingle u = true)
    (h : symbols (t ++ u) = symbols t ++ symbols u) : isSingle (t ++ u) = true := by
  obtain ⟨htne, htv⟩ := isSingle_iff.1 ht
  obtain ⟨-, huv⟩ := isSingle_iff.1 hu
  refine isSingle_iff.2 ⟨by simp [htne], ?_⟩
  rw [h]
  exact List.forall_mem_append.2 ⟨htv, huv⟩

theorem runsFrom_append {p : List Symbol} (hp : ∀ s ∈ p, s.isBlank = false) (q : List Symbol) :
    runsFrom (p ++ q) = (ofSymbols p ++ (runsFrom q).1, (runsFrom q).2) := by
  induction p with
  | nil => rfl
  | cons s p ih =>
    have hs : s.isBlank = false := hp s (by simp)
    rw [List.cons_append, runsFrom, ih (fun r hr => hp r (by simp [hr]))]
    simp [hs, ofSymbols_cons]

theorem fields_of_isSingle {t : Text} (h : isSingle t = true) : fields t = [t] := by
  obtain ⟨hne, hv⟩ := isSingle_iff.1 h
  have hr := runsFrom_append hv []
  rw [List.append_nil, ofSymbols_symbols] at hr
  simp [fields, hr, runsFrom, pushRun, hne]

theorem fields_eq (t : Text) :
    fields t = pushRun (runsFrom (symbols t)).1 (runsFrom (symbols t)).2 := rfl

theorem fields_white_append {w : Text} (hw : IsWhite w) (t : Text) : fields (w ++ t) = fields t := by
  induction hw with
  | nil => rfl
  | @cons c w hc _ ih =>
    have hb : (Symbol.scalar c).isBlank = true := hc
    rw [← ih, List.append_assoc, fields_eq, symbols_encoding_append, runsFrom]
    simp [hb, pushRun, fields_eq]

theorem runsFrom_append_white {ws : List Symbol} (h : ∀ s ∈ ws, s.isBlank = true)
    (ss : List Symbol) : runsFrom (ss ++ ws) = runsFrom ss := by
  induction ss with
  | nil =>
    induction ws with
    | nil => rfl
    | cons s ws ih =>
      obtain ⟨hs, hws⟩ := List.forall_mem_cons.1 h
      simp only [List.nil_append] at ih ⊢
      simp [runsFrom, ih hws, hs, pushRun]
  | cons s ss ih => simp only [List.cons_append, runsFrom, ih]

theorem fields_append_white {w : Text} (hw : IsWhite w) (t : Text) : fields (t ++ w) = fields t := by
  rw [fields_eq, symbols_append t hw.startsFresh, runsFrom_append_white (isWhite_iff.1 hw)]
  rfl

/-- A token in front of white space is the first field. -/
theorem fields_single_append {t w : Text} (ht : isSingle t = true) (hw : IsWhite w) (hne : w ≠ [])
    (u : Text) : fields (t ++ (w ++ u)) = t :: fields u := by
  obtain ⟨htne, htv⟩ := isSingle_iff.1 ht
  cases hw with
  | nil => exact absurd rfl hne
  | @cons c w hc hw =>
    have hb : (Symbol.scalar c).isBlank = true := hc
    rw [← fields_white_append hw u, List.append_assoc, fields_eq,
      symbols_append t (startsFresh_encoding c (w ++ u)), symbols_encoding_append,
      runsFrom_append htv, ofSymbols_symbols, runsFrom]
    simp [hb, pushRun, htne, fields_eq]

theorem fields_append_space {t : Text} (h : isSingle t = true) (u : Text) :
    fields (t ++ space :: u) = t :: fields u :=
  fields_single_append h (w := [space]) (by decide) (by decide) u

/-- What is read as a run is made of consecutive visible symbols. -/
theorem runsFrom_spec (ss : List Symbol) :
    (∃ p, p <+: ss ∧ (∀ s ∈ p, s.isBlank = false) ∧ (runsFrom ss).1 = ofSymbols p) ∧
    ∀ r ∈ (runsFrom ss).2, r ≠ [] ∧
      ∃ p, p <:+: ss ∧ (∀ s ∈ p, s.isBlank = false) ∧ r = ofSymbols p := by
  induction ss with
  | nil => exact ⟨⟨[], List.prefix_rfl, by simp, rfl⟩, by simp [runsFrom]⟩
  | cons s ss ih =>
    obtain ⟨⟨p, hp, hv, he⟩, hr⟩ := ih
    have hmem : ∀ r ∈ (runsFrom ss).2, r ≠ [] ∧
        ∃ q, q <:+: s :: ss ∧ (∀ x ∈ q, x.isBlank = false) ∧ r = ofSymbols q := by
      intro r h
      obtain ⟨hne, q, hq, hqv, hqe⟩ := hr r h
      exact ⟨hne, q, hq.trans (List.suffix_cons s ss).isInfix, hqv, hqe⟩
    cases hs : s.isBlank with
    | true =>
      refine ⟨⟨[], List.nil_prefix, by simp, by simp [runsFrom, hs]⟩, ?_⟩
      intro r h
      simp only [runsFrom, hs, ↓reduceIte, pushRun] at h
      split at h
      · exact hmem r h
      · next hne =>
        rcases List.mem_cons.1 h with rfl | h
        · exact ⟨hne, p, hp.isInfix.trans (List.suffix_cons s ss).isInfix, hv, he⟩
        · exact hmem r h
    | false =>
      refine ⟨⟨s :: p, List.prefix_cons_inj s |>.2 hp, ?_, ?_⟩, ?_⟩
      · exact List.forall_mem_cons.2 ⟨hs, hv⟩
      · simp [runsFrom, hs, he, ofSymbols_cons]
      · simpa [runsFrom, hs] using hmem

/-- Every field of a text is a single token that stands in the text. -/
theorem isSingle_of_mem_fields {t f : Text} (h : f ∈ fields t) : isSingle f = true ∧ f <:+: t := by
  obtain ⟨⟨p, hp, hv, he⟩, hr⟩ := runsFrom_spec (symbols t)
  have key : f ≠ [] ∧ ∃ p, p <:+: symbols t ∧ (∀ s ∈ p, s.isBlank = false) ∧ f = ofSymbols p := by
    simp only [fields, pushRun] at h
    split at h
    · exact hr f h
    · next hne =>
      rcases List.mem_cons.1 h with rfl | h
      · exact ⟨hne, p, hp.isInfix, hv, he⟩
      · exact hr f h
  obtain ⟨hne, q, hq, hqv, rfl⟩ := key
  refine ⟨isSingle_iff.2 ⟨hne, ?_⟩, ofSymbols_isInfix hq⟩
  rw [symbols_ofSymbols_of_isInfix hq]
  exact hqv

end RouteScript.Text
