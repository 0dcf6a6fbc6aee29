import RouteScript.Proofs.WrittenScripts
import RouteScript.Sink

/-!
# What a sink takes through a buffer

Pieces of any length pass through a buffer of fixed size, and a sink that fails shows it only when a
full buffer or the rest is sent. Collecting the pieces one by one sends the same bytes as collecting
their text at once (`Sink.feed_eq_drain`), and what leaves the buffer in full is sent like one text
(`Sink.drain_eq`). So the outcome of writing has a closed form in the length of the text, the fault and
the room of the sink (`Sink.write_eq`).

A buffer that is just full is not sent yet. Where a fault ends the writing it never is: the last
buffer, full or not, is lost, and the fault is reported unless one of the buffers before it fails.
-/

namespace RouteScript

open Text

namespace Sink

/-- Of so many collected bytes, those that leave the buffer before the end: full buffers, as many as
leave at least one byte behind. -/
def flushed (n : Nat) : Nat := bufferSize * ((max n 1 - 1) / bufferSize)

theorem flushed_of_le {n : Nat} (h : n ≤ bufferSize) : flushed n = 0 := by
  have hb : bufferSize = 4096 := rfl
  rw [flushed, Nat.div_eq_of_lt (by omega), Nat.mul_zero]

theorem flushed_of_lt {n : Nat} (h : bufferSize < n) :
    flushed n = bufferSize + flushed (n - bufferSize) := by
  have hb : bufferSize = 4096 := rfl
  simp only [flushed, hb] at *
  omega

theorem flushed_le (n : Nat) : flushed n ≤ n := by
  have hb : bufferSize = 4096 := rfl
  simp only [flushed, hb]
  omega

theorem le_flushed_add (n : Nat) : n ≤ flushed n + bufferSize := by
  have hb : bufferSize = 4096 := rfl
  simp only [flushed, hb]
  omega

variable {s : Sink} {t u : Text}

@[simp] theorem send_nil : (s.send []).1 = s := by
  simp [send]

/-- What stands behind bytes that the sink cannot take does not matter. -/
theorem send_append_of_le (s : Sink) {t : Text} (h : s.room ≤ t.length) (u : Text) :
    (s.send (t ++ u)).1 = (s.send t).1 := by
  have hlen : (t ++ u).length = t.length + u.length := List.length_append
  simp only [send, hlen, List.take_append_of_le_length h, Sink.mk.injEq, and_true]
  omega

/-- A text that is taken in full and a second one are taken like one text. -/
theorem send_send (h : t.length ≤ s.room) : (s.send t).1.send u = s.send (t ++ u) := by
  have hlen : (t ++ u).length = t.length + u.length := List.length_append
  have htake : (t ++ u).take s.room = t.take s.room ++ u.take (s.room - t.length) := List.take_append
  simp only [send, hlen, htake, List.append_assoc, Prod.mk.injEq, Sink.mk.injEq, and_true]
  exact ⟨by omega, decide_eq_decide.2 (by omega)⟩

theorem drain_of_le (h : t.length ≤ bufferSize) : s.drain t = (s, some t) := by
  rw [drain, if_neg (Nat.not_lt.2 h)]

theorem drain_of_fits (h : bufferSize < t.length) (hs : bufferSize ≤ s.room) :
    s.drain t = (s.send (t.take bufferSize)).1.drain (t.drop bufferSize) := by
  have hlen : (t.take bufferSize).length = bufferSize := List.length_take_of_le (Nat.le_of_lt h)
  rw [drain, if_pos h]
  simp [send, hlen, hs]

theorem drain_of_short (h : bufferSize < t.length) (hs : s.room < bufferSize) :
    s.drain t = ((s.send (t.take bufferSize)).1, none) := by
  have hlen : (t.take bufferSize).length = bufferSize := List.length_take_of_le (Nat.le_of_lt h)
  rw [drain, if_pos h]
  simp [send, hlen, Nat.not_le.2 hs]

/-- Either nothing has to leave the buffer, or a full buffer is sent and the rest goes on, or the sink
fails at a full buffer. -/
@[elab_as_elim]
theorem drain_induction {P : Sink → Text → Prop} (le : ∀ s t, t.length ≤ bufferSize → P s t)
    (fits : ∀ s t, bufferSize < t.length → bufferSize ≤ s.room →
      P (s.send (t.take bufferSize)).1 (t.drop bufferSize) → P s t)
    (short : ∀ s t, bufferSize < t.length → s.room < bufferSize → P s t) (s : Sink) (t : Text) :
    P s t := by
  induction hn : t.length using Nat.strongRecOn generalizing s t with
  | ind n ih =>
    subst hn
    rcases Nat.lt_or_ge bufferSize t.length with ht | ht
    · rcases Nat.lt_or_ge s.room bufferSize with hs | hs
      · exact short s t ht hs
      · refine fits s t ht hs (ih _ ?_ _ _ rfl)
        have hb : bufferSize = 4096 := rfl
        rw [List.length_drop]
        omega
    · exact le s t ht

/-- Full buffers are sent in front of what is collected later, so collecting in parts or at once makes
no difference. -/
theorem drain_append (s : Sink) (t u : Text) : s.drain (t ++ u) =
    match s.drain t with
    | (s', some rest) => s'.drain (rest ++ u)
    | (s', none) => (s', none) := by
  have hlonger : ∀ t : Text, bufferSize < t.length → bufferSize < (t ++ u).length := by
    intro t ht
    rw [List.length_append]
    omega
  induction s, t using drain_induction with
  | le s t ht => rw [drain_of_le ht]
  | fits s t ht hs ih =>
    have ht' := Nat.le_of_lt ht
    rw [drain_of_fits (hlonger t ht) hs, drain_of_fits ht hs, List.take_append_of_le_length ht',
      List.drop_append_of_le_length ht', ih]
  | short s t ht hs =>
    rw [drain_of_short (hlonger t ht) hs, drain_of_short ht hs,
      List.take_append_of_le_length (Nat.le_of_lt ht)]

/-- The bytes that leave the buffer are sent like one text, and if the sink takes them, those that
stay behind are pending. -/
theorem drain_eq (s : Sink) (t : Text) : s.drain t =
    ((s.send (t.take (flushed t.length))).1,
      if flushed t.length ≤ s.room then some (t.drop (flushed t.length)) else none) := by
  have hfull : ∀ t : Text, bufferSize < t.length → (t.take bufferSize).length = bufferSize :=
    fun t ht => List.length_take_of_le (Nat.le_of_lt ht)
  induction s, t using drain_induction with
  | le s t ht =>
    rw [drain_of_le ht, flushed_of_le ht, List.take_zero, send_nil, List.drop_zero,
      if_pos (Nat.zero_le _)]
  | fits s t ht hs ih =>
    have hroom : (s.send (t.take bufferSize)).1.room = s.room - bufferSize := by
      rw [send, hfull t ht]
    have hle : flushed (t.length - bufferSize) ≤ s.room - bufferSize ↔
        bufferSize + flushed (t.length - bufferSize) ≤ s.room := by omega
    rw [drain_of_fits ht hs, ih, send_send (by rw [hfull t ht]; exact hs), flushed_of_lt ht,
      List.take_add, List.length_drop, hroom, List.drop_drop]
    simp only [hle]
  | short s t ht hs =>
    have hmore : ¬ bufferSize + flushed (t.length - bufferSize) ≤ s.room := by omega
    rw [drain_of_short ht hs, flushed_of_lt ht, List.take_add,
      send_append_of_le s (by rw [hfull t ht]; exact Nat.le_of_lt hs), if_neg hmore]

theorem feed_eq_drain (ts : List Text) (h : t.length ≤ bufferSize) :
    s.feed t ts = s.drain (t ++ ts.flatten) := by
  induction ts generalizing s t with
  | nil => rw [feed, List.flatten_nil, List.append_nil, drain_of_le h]
  | cons u ts ih =>
    rw [feed, List.flatten_cons, ← List.append_assoc, drain_append s (t ++ u), drain_eq s (t ++ u)]
    by_cases hs : flushed (t ++ u).length ≤ s.room
    · rw [if_pos hs]
      apply ih
      have hall := le_flushed_add (t ++ u).length
      rw [List.length_drop]
      omega
    · rw [if_neg hs]

/-- Writing depends on the text only and not on the pieces it comes in. -/
theorem write_eq (s : Sink) (p : Pieces) : s.write p =
    match p.fault with
    | none => ((s.send p.text).1, if p.text.length ≤ s.room then .ok () else .error .sinkFailed)
    | some f => ((s.send (p.text.take (flushed p.text.length))).1,
        if flushed p.text.length ≤ s.room then .error (.fault f) else .error .sinkFailed) := by
  have hfeed : s.feed [] p.texts = s.drain p.text := feed_eq_drain p.texts (Nat.zero_le _)
  have hle := flushed_le p.text.length
  have hlen : (p.text.take (flushed p.text.length)).length = flushed p.text.length :=
    List.length_take_of_le hle
  have hall := List.take_append_drop (flushed p.text.length) p.text
  rw [write, hfeed, drain_eq]
  cases p.fault with
  | some f =>
    by_cases hs : flushed p.text.length ≤ s.room
    · simp only [if_pos hs]
    · simp only [if_neg hs]
  | none =>
    by_cases hs : flushed p.text.length ≤ s.room
    · simp only [if_pos hs]
      rw [send_send (by rw [hlen]; exact hs), hall]
      simp [send]
    · have hmore : ¬ p.text.length ≤ s.room := by omega
      have hover : s.room ≤ (p.text.take (flushed p.text.length)).length := by omega
      have hsend := send_append_of_le s hover (p.text.drop (flushed p.text.length))
      rw [hall] at hsend
      simp only [if_neg hs, if_neg hmore, hsend]

/-- The outcome of writing a draft to a sink that takes `k` bytes, in terms of the number `m` of bytes
generated before the first fault, or in all. -/
theorem write_draft (o : FormatOptions) (d : Draft) (k : Nat) :
    let p := d.pieces o
    let m := p.text.length
    let r := (Sink.mk k []).write p
    (∀ t, d.format o = .ok t → p.text = t ∧ r.1.accepted = t.take k ∧
      r.2 = if m ≤ k then .ok () else .error .sinkFailed) ∧
    (∀ f, d.format o = .error f →
      r.1.accepted = (p.text.take (4096 * ((max m 1 - 1) / 4096))).take k ∧
      r.2 = if 4096 * ((max m 1 - 1) / 4096) ≤ k then .error (.fault f) else .error .sinkFailed) ∧
    r.1.accepted <+: p.text ∧
    ∀ q : Pieces, q.text = p.text → q.fault = p.fault → (Sink.mk k []).write q = r := by
  intro p m r
  have hr : r = (Sink.mk k []).write p := rfl
  rw [write_eq] at hr
  have hok : ∀ t, d.format o = .ok t → p.text = t ∧ r.1.accepted = t.take k ∧
      r.2 = if m ≤ k then .ok () else .error .sinkFailed := by
    intro t ht
    obtain ⟨hfault, rfl⟩ : p.fault = none ∧ p.text = t := Draft.format_eq_ok_iff.1 ht
    rw [hr, hfault]
    exact ⟨rfl, rfl, rfl⟩
  have herror : ∀ f, d.format o = .error f →
      r.1.accepted = (p.text.take (flushed m)).take k ∧
      r.2 = if flushed m ≤ k then .error (.fault f) else .error .sinkFailed := by
    intro f hf
    rw [hr, Draft.format_eq_error_iff.1 hf]
    exact ⟨rfl, rfl⟩
  refine ⟨hok, herror, ?_, ?_⟩
  · cases hf : d.format o with
    | ok t =>
      obtain ⟨rfl, haccepted, -⟩ := hok t hf
      rw [haccepted]
      exact List.take_prefix k _
    | error f =>
      rw [(herror f hf).1]
      exact (List.take_prefix k _).trans (List.take_prefix _ _)
  · intro q htext hfault
    rw [hr, write_eq, htext, hfault]

/-- A fault behind 4097 bytes is seen by a sink that takes the 4096 bytes of the first buffer. With
one byte less the sink fails first, and a single large piece makes no difference. -/
theorem write_draft_behind_full_buffer :
    let o : FormatOptions := ⟨List.replicate 4092 space, false⟩
    let d : Draft := [some ⟨utf8 "a", 1, [⟨none, utf8 "1", [], [], 2⟩]⟩, none]
    let t : Text := utf8 "a:\n" ++ List.replicate 4092 space ++ utf8 "1\n"
    d.format o = .error (.vacantEntry 1) ∧ (d.pieces o).text = t ∧ t.length = 4097 ∧
    ((Sink.mk 4095 []).write (d.pieces o)).2 = .error .sinkFailed ∧
    ((Sink.mk 4096 []).write (d.pieces o)).2 = .error (.fault (.vacantEntry 1)) ∧
    (Sink.mk 4096 []).write ⟨[t], some (.vacantEntry 1)⟩ = (Sink.mk 4096 []).write (d.pieces o) := by
  intro o d t
  have hindent : o.usedIndent = List.replicate 4092 space := by
    have hall : (List.replicate 4092 space).all FormatOptions.isIndentByte = true := by
      rw [List.all_replicate]
      rfl
    exact if_pos ⟨rfl, hall⟩
  -- Stated for any indentation, so that the long one is not computed with.
  have hpieces : ∀ o : FormatOptions, d.pieces o =
      ⟨[utf8 "a:", [lf], o.usedIndent ++ utf8 "1" ++ [lf]], some (.vacantEntry 1)⟩ := fun o => rfl
  have hjoined : ∀ w : Text, Pieces.text ⟨[utf8 "a:", [lf], w ++ utf8 "1" ++ [lf]],
      some (.vacantEntry 1)⟩ = utf8 "a:\n" ++ w ++ utf8 "1\n" := by
    intro w
    have hhead : utf8 "a:\n" = utf8 "a:" ++ [lf] := by decide
    have hline : utf8 "1\n" = utf8 "1" ++ [lf] := by decide
    simp [Pieces.text, hhead, hline]
  have htext : (d.pieces o).text = t := by
    rw [hpieces, hindent]
    exact hjoined _
  have hlen : t.length = 4097 := by
    have hends : (utf8 "a:\n").length = 3 ∧ (utf8 "1\n").length = 2 := by decide
    rw [List.length_append, List.length_append, List.length_replicate, hends.1, hends.2]
  have hf : d.format o = .error (.vacantEntry 1) := Draft.format_eq_error_iff.2 (by rw [hpieces])
  have hshort := ((write_draft o d 4095).2.1 _ hf).2
  have hfits := ((write_draft o d 4096).2.1 _ hf).2
  rw [htext, hlen] at hshort hfits
  refine ⟨hf, htext, hlen, hshort, hfits, ?_⟩
  apply (write_draft o d 4096).2.2.2
  · rw [htext]
    exact List.append_nil t
  · rw [hpieces]

end Sink
end RouteScript
