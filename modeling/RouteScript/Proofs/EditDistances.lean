import Mathlib.Order.Lattice.Nat
import Mathlib.Order.MinMax
import RouteScript.Text.EditDistance

/-!
# Least numbers of edits

The distance computed row by row is the least number of edits, each of which inserts, deletes or
replaces one member anywhere in the list (`isLeast_editDistance`). Between the two stands a
recursion on the first members. An edit changes what it gives by at most one, wherever the edit takes
place (`Edited.leastEdits_le`), so no chain of edits is shorter. The rows hold its values for the
initial parts read backwards (`nextEditRow_backwardsRow`), and edits do not care about the direction.
-/

namespace RouteScript

variable {α : Type}

/-- One member is inserted, deleted or replaced. -/
inductive Edited : List α → List α → Prop where
  | insert (u v : List α) (a : α) : Edited (u ++ v) (u ++ a :: v)
  | delete (u v : List α) (a : α) : Edited (u ++ a :: v) (u ++ v)
  | replace (u v : List α) (a b : α) : Edited (u ++ a :: v) (u ++ b :: v)

/-- So many edits lead from one list to the other. -/
inductive EditedTimes : Nat → List α → List α → Prop where
  | refl (as : List α) : EditedTimes 0 as as
  | step {n : Nat} {as bs cs : List α} : Edited as bs → EditedTimes n bs cs →
      EditedTimes (n + 1) as cs

theorem EditedTimes.cons {n : Nat} {as bs : List α} (h : EditedTimes n as bs) (c : α) :
    EditedTimes n (c :: as) (c :: bs) := by
  induction h with
  | refl as => exact .refl (c :: as)
  | step he _ ih =>
    refine .step ?_ ih
    cases he with
    | insert u v a => exact .insert (c :: u) v a
    | delete u v a => exact .delete (c :: u) v a
    | replace u v a b => exact .replace (c :: u) v a b

theorem Edited.reverse {as bs : List α} (h : Edited as bs) : Edited as.reverse bs.reverse := by
  cases h with
  | insert u v a => simpa using Edited.insert v.reverse u.reverse a
  | delete u v a => simpa using Edited.delete v.reverse u.reverse a
  | replace u v a b => simpa using Edited.replace v.reverse u.reverse a b

theorem EditedTimes.reverse {n : Nat} {as bs : List α} (h : EditedTimes n as bs) :
    EditedTimes n as.reverse bs.reverse := by
  induction h with
  | refl as => exact .refl as.reverse
  | step he _ ih => exact .step he.reverse ih

/-- The Levenshtein distance: the least number of edits that lead from one list to the other. -/
noncomputable def levenshtein (as bs : List α) : Nat := sInf {n | EditedTimes n as bs}

variable [DecidableEq α]

/-- The number of edits by recursion on the first members. -/
def leastEdits : List α → List α → Nat
  | [], bs => bs.length
  | _ :: as, [] => as.length + 1
  | a :: as, b :: bs =>
    min (min (leastEdits as (b :: bs) + 1) (leastEdits (a :: as) bs + 1))
      (if a = b then leastEdits as bs else leastEdits as bs + 1)
termination_by as bs => as.length + bs.length

@[simp] theorem leastEdits_nil_left (bs : List α) : leastEdits [] bs = bs.length := by
  rw [leastEdits]

@[simp] theorem leastEdits_nil_right (as : List α) : leastEdits as [] = as.length := by
  cases as with
  | nil => rw [leastEdits]
  | cons a as => rw [leastEdits, List.length_cons]

theorem leastEdits_cons_cons (a b : α) (as bs : List α) : leastEdits (a :: as) (b :: bs) =
    min (min (leastEdits as (b :: bs) + 1) (leastEdits (a :: as) bs + 1))
      (if a = b then leastEdits as bs else leastEdits as bs + 1) := by
  rw [leastEdits]

theorem editedTimes_leastEdits (as bs : List α) : EditedTimes (leastEdits as bs) as bs := by
  fun_induction leastEdits as bs with
  | case1 bs =>
    induction bs with
    | nil => exact .refl []
    | cons b bs ih => exact .step (.insert [] [] b) (ih.cons b)
  | case2 a as =>
    induction as generalizing a with
    | nil => exact .step (.delete [] [] a) (.refl [])
    | cons a' as ih => exact .step (.delete [] (a' :: as) a) (ih a')
  | case3 a as b bs ihDelete ihInsert ihBoth =>
    rcases min_choice (min (leastEdits as (b :: bs) + 1) (leastEdits (a :: as) bs + 1))
      (if a = b then leastEdits as bs else leastEdits as bs + 1) with h | h
    · rw [h]
      rcases min_choice (leastEdits as (b :: bs) + 1) (leastEdits (a :: as) bs + 1) with h | h
      · rw [h]
        exact .step (.delete [] as a) ihDelete
      · rw [h]
        exact .step (.insert [] (a :: as) b) (ihInsert.cons b)
    · rw [h]
      split
      · next hab =>
        rw [hab]
        exact ihBoth.cons b
      · exact .step (.replace [] as a b) (ihBoth.cons b)

theorem leastEdits_cons_left_le (a : α) (as cs : List α) :
    leastEdits (a :: as) cs ≤ leastEdits as cs + 1 := by
  cases cs with
  | nil => simp
  | cons c cs =>
    rw [leastEdits_cons_cons]
    omega

theorem leastEdits_cons_right_le (as : List α) (c : α) (cs : List α) :
    leastEdits as (c :: cs) ≤ leastEdits as cs + 1 := by
  cases as with
  | nil => simp
  | cons a as =>
    rw [leastEdits_cons_cons]
    omega

theorem leastEdits_le_cons_left (a : α) (as cs : List α) :
    leastEdits as cs ≤ leastEdits (a :: as) cs + 1 := by
  induction cs with
  | nil =>
    simp only [leastEdits_nil_right, List.length_cons]
    omega
  | cons c cs ih =>
    have hright := leastEdits_cons_right_le as c cs
    rw [leastEdits_cons_cons]
    split <;> omega

theorem leastEdits_replace_le (a b : α) (as cs : List α) :
    leastEdits (a :: as) cs ≤ leastEdits (b :: as) cs + 1 := by
  induction cs with
  | nil => simp
  | cons c cs ih =>
    rw [leastEdits_cons_cons, leastEdits_cons_cons]
    split <;> split <;> omega

theorem leastEdits_cons_le {as bs : List α} (h : ∀ cs, leastEdits as cs ≤ leastEdits bs cs + 1)
    (a : α) (cs : List α) : leastEdits (a :: as) cs ≤ leastEdits (a :: bs) cs + 1 := by
  induction cs with
  | nil =>
    have hnil := h []
    simp only [leastEdits_nil_right, List.length_cons] at hnil ⊢
    omega
  | cons c cs ih =>
    have hcons := h (c :: cs)
    have hcs := h cs
    rw [leastEdits_cons_cons, leastEdits_cons_cons]
    split <;> omega

/-- What stands in front of an edit does not make it worth more. -/
theorem leastEdits_append_le {as bs : List α} (h : ∀ cs, leastEdits as cs ≤ leastEdits bs cs + 1)
    (u cs : List α) : leastEdits (u ++ as) cs ≤ leastEdits (u ++ bs) cs + 1 := by
  induction u generalizing cs with
  | nil => exact h cs
  | cons a u ih => exact leastEdits_cons_le ih a cs

theorem Edited.leastEdits_le {as bs : List α} (h : Edited as bs) (cs : List α) :
    leastEdits as cs ≤ leastEdits bs cs + 1 := by
  cases h with
  | insert u v a => exact leastEdits_append_le (leastEdits_le_cons_left a v) u cs
  | delete u v a => exact leastEdits_append_le (leastEdits_cons_left_le a v) u cs
  | replace u v a b => exact leastEdits_append_le (leastEdits_replace_le a b v) u cs

theorem leastEdits_self (as : List α) : leastEdits as as = 0 := by
  induction as with
  | nil => simp
  | cons a as ih =>
    rw [leastEdits_cons_cons, if_pos rfl, ih]
    omega

theorem EditedTimes.leastEdits_le {n : Nat} {as bs : List α} (h : EditedTimes n as bs) :
    leastEdits as bs ≤ n := by
  induction h with
  | refl as => exact (leastEdits_self as).le
  | @step n as bs cs he _ ih =>
    have hstep := he.leastEdits_le cs
    omega

/-- The values for `before` and for the initial parts of a list behind it, all read backwards. -/
def backwardsRow (as : List α) : (before : List α) → List α → List Nat
  | before, [] => [leastEdits as before]
  | before, b :: bs => leastEdits as before :: backwardsRow as (b :: before) bs

theorem backwardsRow_eq_cons (as before bs : List α) : backwardsRow as before bs =
    leastEdits as before :: (backwardsRow as before bs).tail := by
  cases bs <;> rfl

theorem editRow_backwardsRow (a : α) (as before bs : List α) :
    editRow a bs (leastEdits as before) (leastEdits (a :: as) before)
      (backwardsRow as before bs).tail = (backwardsRow (a :: as) before bs).tail := by
  induction bs generalizing before with
  | nil => rfl
  | cons b bs ih =>
    have hbest : min (min (leastEdits (a :: as) before + 1) (leastEdits as (b :: before) + 1))
        (if a = b then leastEdits as before else leastEdits as before + 1) =
        leastEdits (a :: as) (b :: before) := by
      rw [leastEdits_cons_cons, min_comm (leastEdits (a :: as) before + 1)]
    have hup : (backwardsRow as before (b :: bs)).tail =
        leastEdits as (b :: before) :: (backwardsRow as (b :: before) bs).tail :=
      backwardsRow_eq_cons as (b :: before) bs
    rw [hup, editRow, hbest, ih]
    exact (backwardsRow_eq_cons (a :: as) (b :: before) bs).symm

theorem nextEditRow_backwardsRow (a : α) (as bs : List α) :
    nextEditRow bs (backwardsRow as [] bs) a = backwardsRow (a :: as) [] bs := by
  have hfirst : leastEdits as [] + 1 = leastEdits (a :: as) [] := by simp
  rw [backwardsRow_eq_cons as [] bs, nextEditRow, hfirst, editRow_backwardsRow]
  exact (backwardsRow_eq_cons (a :: as) [] bs).symm

theorem backwardsRow_nil_left (before bs : List α) :
    backwardsRow [] before bs = List.range' before.length (bs.length + 1) := by
  induction bs generalizing before with
  | nil => simp [backwardsRow]
  | cons b bs ih =>
    rw [backwardsRow, ih, leastEdits_nil_left, List.length_cons, List.length_cons]
    rfl

theorem foldl_nextEditRow (as before bs : List α) :
    as.foldl (nextEditRow bs) (backwardsRow before [] bs) =
      backwardsRow (as.reverse ++ before) [] bs := by
  induction as generalizing before with
  | nil => rfl
  | cons a as ih =>
    rw [List.foldl_cons, nextEditRow_backwardsRow, ih, List.reverse_cons, List.append_assoc]
    rfl

theorem getLast?_backwardsRow (as before bs : List α) :
    (backwardsRow as before bs).getLast? = some (leastEdits as (bs.reverse ++ before)) := by
  induction bs generalizing before with
  | nil => rfl
  | cons b bs ih =>
    rw [backwardsRow, backwardsRow_eq_cons as (b :: before) bs, List.getLast?_cons_cons,
      ← backwardsRow_eq_cons, ih, List.reverse_cons, List.append_assoc]
    rfl

theorem editDistance_eq_leastEdits (as bs : List α) :
    editDistance as bs = leastEdits as.reverse bs.reverse := by
  have hstart : List.range (bs.length + 1) = backwardsRow [] [] bs := by
    rw [backwardsRow_nil_left, List.range_eq_range', List.length_nil]
  rw [editDistance, hstart, foldl_nextEditRow, getLast?_backwardsRow, List.append_nil,
    List.append_nil, Option.getD_some]

/-- The distance computed row by row is the least number of edits. -/
theorem isLeast_editDistance (as bs : List α) :
    IsLeast {n | EditedTimes n as bs} (editDistance as bs) := by
  rw [editDistance_eq_leastEdits]
  constructor
  · have h := (editedTimes_leastEdits as.reverse bs.reverse).reverse
    rwa [List.reverse_reverse, List.reverse_reverse] at h
  · intro n hn
    exact hn.reverse.leastEdits_le

theorem editDistance_eq_levenshtein (as bs : List α) : editDistance as bs = levenshtein as bs :=
  (isLeast_editDistance as bs).csInf_eq.symm

end RouteScript
