import Mathlib.Algebra.Ring.Nat
import RouteScript.Json.Writer
import RouteScript.Text.Numeral
import RouteScript.Proofs.SymbolReading

/-!
# Unique reading of JSON texts

A JSON text can be read back in one way only. Digits give back their number (`digits?_natural`,
`digits?_hexLower`), the spelling of a character shows where it ends (`char_append_inj`), and a string
of UTF-8 ends at its first bare quote (`string_append_inj`). Values are then told apart by induction
(`Written.apart`). A number ends only where no digit follows, but inside brackets a comma or a line
feed follows every value.
-/

namespace RouteScript

open Text

theorem eq_of_map_eq {α β : Type} {f : α → β} {xs ys : List α}
    (hf : ∀ x ∈ xs, ∀ y ∈ ys, f x = f y → x = y) (h : xs.map f = ys.map f) : xs = ys := by
  induction xs generalizing ys with
  | nil => simpa using h.symm
  | cons x xs ih =>
    cases ys with
    | nil => simp at h
    | cons y ys =>
      rw [List.map_cons, List.map_cons, List.cons.injEq] at h
      rw [hf x (by simp) y (by simp) h.1,
        ih (fun a ha b hb => hf a (by simp [ha]) b (by simp [hb])) h.2]

namespace Numeral

theorem digits?_concat (base : Nat) (t : Text) (b : UInt8) : digits? base (t ++ [b]) =
    (digits? base t).bind fun n => (digitValue? base b).map (n * base + ·) := by
  simp [digits?]

theorem digitValue?_digit {n : Nat} (h : n < 10) : digitValue? 10 (digit n) = some n := by
  decide +revert

theorem digitValue?_hexDigit {n : Nat} (h : n < 16) : digitValue? 16 (hexDigit 0x61 n) = some n := by
  decide +revert

theorem isDigit_digit {n : Nat} (h : n < 10) : isDigit (digit n) = true := by
  decide +revert

theorem digits?_natural (n : Nat) : digits? 10 (natural n) = some n := by
  induction n using natural.induct with
  | case1 n h =>
    rw [natural, if_pos h, ← List.nil_append [digit n], digits?_concat, digitValue?_digit h]
    simp [digits?]
  | case2 n h ih =>
    rw [natural, if_neg h, digits?_concat, ih, digitValue?_digit (by omega)]
    simp only [Option.bind_some, Option.map_some, Option.some.injEq]
    omega

/-- Digits of fixed width are read back as the number they have room for. -/
theorem digits?_hexLower (w n : Nat) : digits? 16 (hexLower w n) = some (n % 16 ^ w) := by
  induction w generalizing n with
  | zero => simp [hexLower, hex, digits?, Nat.mod_one]
  | succ w ih =>
    have hread := ih (n / 16)
    rw [hexLower] at hread ⊢
    rw [hex, digits?_concat, hread, digitValue?_hexDigit (by omega)]
    simp only [Option.bind_some, Option.map_some, Option.some.injEq]
    rw [Nat.pow_succ', Nat.mod_mul]
    omega

theorem isDigit_of_mem_natural {n : Nat} {b : UInt8} (h : b ∈ natural n) : isDigit b = true := by
  induction n using natural.induct with
  | case1 n hn =>
    rw [natural, if_pos hn, List.mem_singleton] at h
    rw [h, isDigit_digit hn]
  | case2 n hn ih =>
    rw [natural, if_neg hn, List.mem_append, List.mem_singleton] at h
    rcases h with h | rfl
    · exact ih h
    · exact isDigit_digit (by omega)

end Numeral

namespace Text

open Numeral

theorem natural_inj {m n : Nat} (h : natural m = natural n) : m = n := by
  have hd := congrArg (digits? 10) h
  simpa [digits?_natural] using hd

theorem decimal_inj {m n : Int} (h : decimal m = decimal n) : m = n := by
  have hdash (k : Nat) : dash ∉ natural k := fun hk => absurd (isDigit_of_mem_natural hk) (by decide)
  cases m with
  | ofNat m =>
    cases n with
    | ofNat n => rw [natural_inj h]
    | negSucc n =>
      have hmem : dash ∈ decimal (.ofNat m) := by
        rw [h]
        exact List.mem_cons_self
      exact absurd hmem (hdash m)
  | negSucc m =>
    cases n with
    | ofNat n =>
      have hmem : dash ∈ decimal (.ofNat n) := by
        rw [← h]
        exact List.mem_cons_self
      exact absurd hmem (hdash n)
    | negSucc n =>
      have hn := natural_inj (List.cons.inj h).2
      rw [Nat.succ.inj hn]

theorem hexLower_inj {w m n : Nat} (hm : m < 16 ^ w) (hn : n < 16 ^ w)
    (h : hexLower w m = hexLower w n) : m = n := by
  have hd := congrArg (digits? 16) h
  simpa [digits?_hexLower, Nat.mod_eq_of_lt, hm, hn] using hd

theorem length_hexLower (w n : Nat) : (hexLower w n).length = w := by
  induction w generalizing n with
  | zero => rfl
  | succ w ih => simpa [hexLower, hex] using ih (n / 16)

end Text

namespace Json

open Numeral

/-- The ways to spell a character inside a string. -/
inductive Spelled (c : Char) : Text → Prop where
  | letter {l : UInt8} (h : escapeLetter? c.toNat = some l) : Spelled c [backslash, l]
  | code (h : c.toNat < 16 ^ 4) : Spelled c (backslash :: 0x75 :: hexLower 4 c.toNat)
  | plain {a : UInt8} {r : Text} (h : String.utf8EncodeChar c = a :: r) (ha : a ≠ backslash)
      (hq : a ≠ quote) : Spelled c (a :: r)

theorem spelled_char (c : Char) : Spelled c (char c) := by
  unfold char
  cases hl : escapeLetter? c.toNat with
  | some l => exact .letter hl
  | none =>
    cases hc : isEscapedByCode c.toNat with
    | true =>
      refine .code ?_
      simp only [isEscapedByCode, Bool.or_eq_true, decide_eq_true_eq, beq_iff_eq] at hc
      omega
    | false =>
      obtain ⟨a, r, he, -, hr⟩ := encoding_spec c
      -- An encoding that starts with an ASCII byte is that byte, and these two have a short escape.
      have hne {b : UInt8} (hb : b.toNat < 0x80)
          (hs : escapeLetter? (Char.ofNat b.toNat).toNat ≠ none) : a ≠ b := by
        rintro rfl
        have ha := hr []
        rw [leading?_one hb, Option.some.injEq] at ha
        rw [ha] at hs
        exact hs hl
      rw [if_neg (by simp), he]
      exact .plain he (hne (by decide) (by decide)) (hne (by decide) (by decide))

theorem escapeLetter?_inj {m n : Nat} {l : UInt8} (hm : escapeLetter? m = some l)
    (hn : escapeLetter? n = some l) : m = n := by
  unfold escapeLetter? at hm hn
  grind

theorem escapeLetter?_ne {n : Nat} {l : UInt8} (h : escapeLetter? n = some l) : l ≠ 0x75 := by
  unfold escapeLetter? at h
  grind

theorem Spelled.append_inj {c d : Char} {t u r s : Text} (hc : Spelled c t) (hd : Spelled d u)
    (h : t ++ r = u ++ s) : c = d ∧ r = s := by
  cases hc with
  | letter hl =>
    cases hd with
    | letter hk =>
      simp only [List.cons_append, List.nil_append, List.cons.injEq, true_and] at h
      obtain ⟨rfl, rfl⟩ := h
      exact ⟨Char.toNat_inj.1 (escapeLetter?_inj hl hk), rfl⟩
    | code => simp [escapeLetter?_ne hl] at h
    | plain _ hb => simp [Ne.symm hb] at h
  | code hm =>
    cases hd with
    | letter hk => simp [Ne.symm (escapeLetter?_ne hk)] at h
    | code hn =>
      simp only [List.cons_append, List.cons.injEq, true_and] at h
      obtain ⟨hx, rfl⟩ := List.append_inj h (by simp only [length_hexLower])
      exact ⟨Char.toNat_inj.1 (hexLower_inj hm hn hx), rfl⟩
    | plain _ hb => simp [Ne.symm hb] at h
  | plain he ha =>
    cases hd with
    | letter => simp [ha] at h
    | code => simp [ha] at h
    | plain he' =>
      have hs := congrArg symbols h
      rw [← he, ← he', symbols_encoding_append, symbols_encoding_append, List.cons.injEq] at hs
      obtain ⟨hcd, -⟩ := hs
      cases hcd
      rw [← he, ← he', List.append_cancel_left_eq] at h
      exact ⟨rfl, h⟩

/-- The spelling of a character shows the character and where it ends. -/
theorem char_append_inj {c d : Char} {r s : Text} (h : char c ++ r = char d ++ s) :
    c = d ∧ r = s :=
  (spelled_char c).append_inj (spelled_char d) h

theorem Spelled.ne_quote {c : Char} {t : Text} (h : Spelled c t) (r s : Text) :
    t ++ r ≠ quote :: s := by
  intro he
  cases h with
  | letter => exact absurd (List.cons.inj he).1 (by decide)
  | code => exact absurd (List.cons.inj he).1 (by decide)
  | plain _ _ hq => exact hq (List.cons.inj he).1

theorem chars_append_inj {cs ds : List Char} {r s : Text}
    (h : cs.flatMap char ++ quote :: r = ds.flatMap char ++ quote :: s) : cs = ds ∧ r = s := by
  induction cs generalizing ds with
  | nil =>
    cases ds with
    | nil => simpa using h
    | cons d ds =>
      rw [List.flatMap_cons, List.append_assoc] at h
      exact absurd h.symm ((spelled_char d).ne_quote _ _)
  | cons c cs ih =>
    cases ds with
    | nil =>
      rw [List.flatMap_cons, List.append_assoc] at h
      exact absurd h ((spelled_char c).ne_quote _ _)
    | cons d ds =>
      rw [List.flatMap_cons, List.flatMap_cons, List.append_assoc, List.append_assoc] at h
      obtain ⟨rfl, hrest⟩ := char_append_inj h
      obtain ⟨rfl, hr⟩ := ih hrest
      exact ⟨rfl, hr⟩

theorem symbols_of_isValid {t : Text} (h : isValid t = true) :
    symbols t = ((symbols t).map Symbol.char).map .scalar := by
  have hs := isValid_iff.1 h
  rw [List.map_map]
  refine ((List.map_congr_left fun s hm => ?_).trans (List.map_id _)).symm
  cases s with
  | scalar c => rfl
  | stray b => exact absurd (hs _ hm) (by simp [Symbol.isStray])

/-- A string of UTF-8 shows its text and where it ends. -/
theorem string_append_inj {t u r s : Text} (ht : isValid t = true) (hu : isValid u = true)
    (h : string t ++ r = string u ++ s) : t = u ∧ r = s := by
  have hc : ((symbols t).map Symbol.char).flatMap char ++ quote :: r =
      ((symbols u).map Symbol.char).flatMap char ++ quote :: s := by
    simpa [string, List.flatMap_map] using h
  obtain ⟨hchars, hr⟩ := chars_append_inj hc
  refine ⟨?_, hr⟩
  rw [← ofSymbols_symbols t, ← ofSymbols_symbols u, symbols_of_isValid ht, symbols_of_isValid hu,
    hchars]

/-- The text goes on as it does behind a value inside brackets: with a comma or a line feed. -/
def Stops (t : Text) : Prop := t.head? = some comma ∨ t.head? = some lf

/-- The members behind the first one, and the closing bracket. -/
def memberTail (closing : UInt8) (depth : Nat) (members : List Text) : Text :=
  members.flatMap (fun m => comma :: (newLine (depth + 1) ++ m)) ++ newLine depth ++ [closing]

theorem stops_memberTail (closing : UInt8) (depth : Nat) (members : List Text) (r : Text) :
    Stops (memberTail closing depth members ++ r) := by
  cases members with
  | nil => exact .inr rfl
  | cons m ms => exact .inl rfl

theorem memberTail_cons (closing : UInt8) (depth : Nat) (m : Text) (ms : List Text) :
    memberTail closing depth (m :: ms) =
      comma :: (newLine (depth + 1) ++ (m ++ memberTail closing depth ms)) := by
  simp [memberTail]

theorem bracketed_cons (opening closing : UInt8) (depth : Nat) (m : Text) (ms : List Text) :
    bracketed opening closing depth (m :: ms) =
      opening :: (newLine (depth + 1) ++ (m ++ memberTail closing depth ms)) := by
  have hjoin : join [comma] ((m :: ms).map (newLine (depth + 1) ++ ·)) =
      newLine (depth + 1) ++ m ++ ms.flatMap (fun m => comma :: (newLine (depth + 1) ++ m)) := by
    induction ms generalizing m with
    | nil => simp [join]
    | cons k ms ih =>
      rw [List.map_cons, List.map_cons, join, ← List.map_cons, ih k]
      · simp
      · simp
  rw [bracketed, if_neg (List.cons_ne_nil m ms), hjoin, memberTail]
  simp

/-- The texts are never taken for one another in front of a comma or a line feed. -/
def Apart (m n : Text) : Prop :=
  ∀ r s, Stops r → Stops s → m ++ r = n ++ s → m = n

theorem memberTail_append_inj {closing : UInt8} {depth : Nat} {ms ns : List Text} {r s : Text}
    (hapart : ∀ m ∈ ms, ∀ n ∈ ns, Apart m n)
    (h : memberTail closing depth ms ++ r = memberTail closing depth ns ++ s) :
    ms = ns ∧ r = s := by
  induction ms generalizing ns with
  | nil =>
    cases ns with
    | nil => simpa using h
    | cons n ns => exact absurd (List.cons.inj h).1 (by decide)
  | cons m ms ih =>
    cases ns with
    | nil => exact absurd (List.cons.inj h).1 (by decide)
    | cons n ns =>
      have hstep : m ++ (memberTail closing depth ms ++ r) =
          n ++ (memberTail closing depth ns ++ s) := by
        simpa [memberTail_cons] using h
      have hm : m = n := hapart m (by simp) n (by simp) _ _ (stops_memberTail ..)
        (stops_memberTail ..) hstep
      rw [hm, List.append_cancel_left_eq] at hstep
      obtain ⟨rfl, hr⟩ := ih (fun a ha b hb => hapart a (by simp [ha]) b (by simp [hb])) hstep
      exact ⟨by rw [hm], hr⟩

/-- Brackets show their members, when these are told apart, and where they close. -/
theorem bracketed_append_inj {opening closing : UInt8} {depth : Nat} {ms ns : List Text}
    {r s : Text} (hclose : closing ≠ lf) (hapart : ∀ m ∈ ms, ∀ n ∈ ns, Apart m n)
    (h : bracketed opening closing depth ms ++ r = bracketed opening closing depth ns ++ s) :
    ms = ns ∧ r = s := by
  cases ms with
  | nil =>
    cases ns with
    | nil => simpa [bracketed] using h
    | cons n ns =>
      rw [bracketed_cons] at h
      exact absurd (List.cons.inj (List.cons.inj h).2).1 hclose
  | cons m ms =>
    cases ns with
    | nil =>
      rw [bracketed_cons] at h
      exact absurd (List.cons.inj (List.cons.inj h).2).1.symm hclose
    | cons n ns =>
      have htail : memberTail closing depth (m :: ms) ++ r =
          memberTail closing depth (n :: ns) ++ s := by
        simpa [bracketed_cons, memberTail_cons] using h
      exact memberTail_append_inj hapart htail

inductive Written : Nat → Text → Prop where
  | string {depth : Nat} {t : Text} (ht : isValid t = true) : Written depth (string t)
  | number {depth : Nat} (n : Int) : Written depth (decimal n)
  | array {depth : Nat} {items : List Text} (hitems : ∀ i ∈ items, Written (depth + 1) i) :
      Written depth (array depth items)
  | object {depth : Nat} {fields : List (Text × Text)} (hkeys : ∀ f ∈ fields, isValid f.1 = true)
      (hvalues : ∀ f ∈ fields, Written (depth + 1) f.2) : Written depth (object depth fields)

inductive Kind where
  | string
  | number
  | array
  | object
  deriving DecidableEq

/-- The kind of value that a text starts with, by its first byte. -/
def kind (t : Text) : Kind :=
  match t.head? with
  | some quote => .string
  | some openBracket => .array
  | some openBrace => .object
  | _ => .number

@[simp] theorem kind_string (t r : Text) : kind (string t ++ r) = .string := rfl

@[simp] theorem kind_array (depth : Nat) (items : List Text) (r : Text) :
    kind (array depth items ++ r) = .array := by
  cases items with
  | nil => rfl
  | cons i is =>
    rw [array, bracketed_cons]
    rfl

@[simp] theorem kind_object (depth : Nat) (fields : List (Text × Text)) (r : Text) :
    kind (object depth fields ++ r) = .object := by
  cases fields with
  | nil => rfl
  | cons f fs =>
    rw [object, List.map_cons, bracketed_cons]
    rfl

def isNumberByte (b : UInt8) : Bool := isDigit b || b == dash

theorem isNumberByte_of_mem_decimal {n : Int} {b : UInt8} (h : b ∈ decimal n) :
    isNumberByte b = true := by
  cases n with
  | ofNat n =>
    have hb : b ∈ natural n := h
    simp [isNumberByte, isDigit_of_mem_natural hb]
  | negSucc n =>
    rcases List.mem_cons.1 h with rfl | hb
    · decide
    · simp [isNumberByte, isDigit_of_mem_natural hb]

theorem decimal_ne_nil (n : Int) : decimal n ≠ [] := by
  cases n with
  | ofNat n =>
    rw [decimal, natural]
    split
    · simp
    · simp
  | negSucc n => simp [decimal]

@[simp] theorem kind_decimal (n : Int) (r : Text) : kind (decimal n ++ r) = .number := by
  cases hd : decimal n with
  | nil => exact absurd hd (decimal_ne_nil n)
  | cons b t =>
    have hb := isNumberByte_of_mem_decimal (n := n) (b := b) (by simp [hd])
    unfold kind
    split
    · next h => cases h; exact absurd hb (by decide)
    · next h => cases h; exact absurd hb (by decide)
    · next h => cases h; exact absurd hb (by decide)
    · rfl

theorem decimal_apart (m n : Int) : Apart (decimal m) (decimal n) := by
  intro r s hr hs h
  have htake (k : Int) {t : Text} (ht : Stops t) :
      (decimal k ++ t).takeWhile isNumberByte = decimal k := by
    rw [List.takeWhile_append_of_pos fun b hb => isNumberByte_of_mem_decimal hb]
    cases t with
    | nil => simp
    | cons b t =>
      have hb : isNumberByte b = false := by
        rcases ht with hc | hl
        · cases hc; decide
        · cases hl; decide
      simp [hb]
  rw [← htake m hr, h, htake n hs]

theorem field_append_inj {k l v w r s : Text} (hk : isValid k = true) (hl : isValid l = true)
    (h : string k ++ utf8 ": " ++ v ++ r = string l ++ utf8 ": " ++ w ++ s) :
    k = l ∧ v ++ r = w ++ s := by
  simp only [List.append_assoc] at h
  obtain ⟨hkl, hrest⟩ := string_append_inj hk hl h
  exact ⟨hkl, List.append_cancel_left hrest⟩

/-- An object shows its fields, when their values are told apart, and where it closes. -/
theorem object_append_inj {depth : Nat} {fs gs : List (Text × Text)} {r s : Text}
    (hf : ∀ f ∈ fs, isValid f.1 = true) (hg : ∀ g ∈ gs, isValid g.1 = true)
    (hapart : ∀ f ∈ fs, ∀ g ∈ gs, Apart f.2 g.2)
    (h : object depth fs ++ r = object depth gs ++ s) : fs = gs ∧ r = s := by
  have hmembers : ∀ m ∈ fs.map (fun f => string f.1 ++ utf8 ": " ++ f.2),
      ∀ n ∈ gs.map (fun g => string g.1 ++ utf8 ": " ++ g.2), Apart m n := by
    simp only [List.mem_map]
    rintro _ ⟨f, hfm, rfl⟩ _ ⟨g, hgm, rfl⟩ r s hr hs he
    obtain ⟨hkey, hvalue⟩ := field_append_inj (hf f hfm) (hg g hgm) he
    rw [hkey, hapart f hfm g hgm r s hr hs hvalue]
  obtain ⟨hmap, hr⟩ := bracketed_append_inj (by decide) hmembers h
  refine ⟨eq_of_map_eq (fun f hfm g hgm he => ?_) hmap, hr⟩
  have he' : string f.1 ++ utf8 ": " ++ f.2 ++ [] = string g.1 ++ utf8 ": " ++ g.2 ++ [] := by
    rw [he]
  obtain ⟨hkey, hvalue⟩ := field_append_inj (hf f hfm) (hg g hgm) he'
  exact Prod.ext hkey (by simpa using hvalue)

/-- Values are told apart wherever a comma or a line feed follows them. -/
theorem Written.apart {depth : Nat} {v w : Text} (hv : Written depth v) (hw : Written depth w) :
    Apart v w := by
  -- Induction on the way `v` is written. Values of different kinds differ in their first bytes.
  induction hv generalizing w with
  | string ht =>
    intro r s hr hs h
    cases hw with
    | string hu => rw [(string_append_inj ht hu h).1]
    | _ => simpa using congrArg kind h
  | number m =>
    intro r s hr hs h
    cases hw with
    | number n => exact decimal_apart m n r s hr hs h
    | _ => simpa using congrArg kind h
  | array _ ih =>
    intro r s hr hs h
    cases hw with
    | array hw => rw [(bracketed_append_inj (by decide) (fun i hi j hj => ih i hi (hw j hj)) h).1]
    | _ => simpa using congrArg kind h
  | object hkeys _ ih =>
    intro r s hr hs h
    cases hw with
    | object hkeys' hw =>
      rw [(object_append_inj hkeys hkeys' (fun f hf g hg => ih f hf (hw g hg)) h).1]
    | _ => simpa using congrArg kind h

theorem string_inj {t u : Text} (ht : isValid t = true) (hu : isValid u = true)
    (h : string t = string u) : t = u := by
  have he : string t ++ [] = string u ++ [] := by rw [h]
  exact (string_append_inj ht hu he).1

theorem array_inj {depth : Nat} {is js : List Text} (hi : ∀ i ∈ is, Written (depth + 1) i)
    (hj : ∀ j ∈ js, Written (depth + 1) j) (h : array depth is = array depth js) : is = js := by
  have he : array depth is ++ [] = array depth js ++ [] := by rw [h]
  exact (bracketed_append_inj (by decide) (fun i hm j hn => (hi i hm).apart (hj j hn)) he).1

structure Fields (depth : Nat) (fields : List (Text × Text)) : Prop where
  keys : ∀ f ∈ fields, isValid f.1 = true
  values : ∀ f ∈ fields, Written (depth + 1) f.2

namespace Fields

variable {depth : Nat} {fs gs : List (Text × Text)}

theorem nil : Fields depth [] := ⟨by simp, by simp⟩

theorem cons {k v : Text} (hk : isValid k = true) (hv : Written (depth + 1) v)
    (hf : Fields depth fs) : Fields depth ((k, v) :: fs) :=
  ⟨List.forall_mem_cons.2 ⟨hk, hf.keys⟩, List.forall_mem_cons.2 ⟨hv, hf.values⟩⟩

theorem append (hf : Fields depth fs) (hg : Fields depth gs) : Fields depth (fs ++ gs) :=
  ⟨List.forall_mem_append.2 ⟨hf.keys, hg.keys⟩, List.forall_mem_append.2 ⟨hf.values, hg.values⟩⟩

theorem written (h : Fields depth fs) : Written depth (object depth fs) := .object h.keys h.values

theorem object_inj (hf : Fields depth fs) (hg : Fields depth gs)
    (h : object depth fs = object depth gs) : fs = gs := by
  have he : object depth fs ++ [] = object depth gs ++ [] := by rw [h]
  exact (object_append_inj hf.keys hg.keys
    (fun f hfm g hgm => (hf.values f hfm).apart (hg.values g hgm)) he).1

end Fields
end Json
end RouteScript
