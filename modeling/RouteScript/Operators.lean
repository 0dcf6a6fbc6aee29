import RouteScript.Text.Letter
import RouteScript.Text.Blank
import RouteScript.Text.LowerCase
import RouteScript.Text.EditDistance

/-!
# Operator tables

An operator table is an ordered set of comparison tokens. Symbolic tokens, which have neither letters
nor digits, may stand between operands without white space; `split?` finds them there. For a token
outside the table, `suggest?` gives the closest one in it.
-/

namespace RouteScript

/-- A token can appear in a condition: it is not empty and has no white space, `?`, `#` or `:`. -/
def isOperatorToken (t : Text) : Bool :=
  !t.isEmpty && !t.hasBlank && !t.holdsAny [Text.question, Text.hashSign, Text.colon]

/-- The members of a list in order of first occurrence. -/
def distinct : List Text → List Text
  | [] => []
  | t :: ts => t :: (distinct ts).filter (· ≠ t)

@[simp] theorem mem_distinct {t : Text} {ts : List Text} : t ∈ distinct ts ↔ t ∈ ts := by
  induction ts with
  | nil => simp [distinct]
  | cons u us ih => by_cases h : t = u <;> simp [distinct, ih, h]

theorem nodup_distinct (ts : List Text) : (distinct ts).Nodup := by
  induction ts with
  | nil => simp [distinct]
  | cons u us ih =>
    simp only [distinct, List.nodup_cons]
    exact ⟨by simp, ih.filter _⟩

structure OperatorTable where
  tokens : List Text
  usable : ∀ t ∈ tokens, isOperatorToken t = true
  nodup : tokens.Nodup
  deriving DecidableEq

namespace OperatorTable

open Text

/-- The table of the usable tokens of a list, each once. -/
def ofList (ts : List Text) : OperatorTable where
  tokens := distinct (ts.filter isOperatorToken)
  usable := fun _ h => (List.mem_filter.1 (mem_distinct.1 h)).2
  nodup := nodup_distinct _

def defaultTokens : List Text := ["==", "!=", ">=", "<=", ">", "<"].map utf8

def default : OperatorTable := ofList defaultTokens

def has (ops : OperatorTable) (t : Text) : Bool := ops.tokens.contains t

/-- The symbolic tokens, the longest first and equally long ones in order of declaration. -/
def symbolic (ops : OperatorTable) : List Text :=
  (ops.tokens.filter isSymbolic).mergeSort fun a b => b.length ≤ a.length

structure Cut where
  offset : Nat
  token : Text
  deriving DecidableEq, Repr

/-- An earlier cut is better, and at the same offset a longer token is. -/
def Cut.better (new old : Cut) : Bool :=
  new.offset < old.offset || (new.offset == old.offset && old.token.length < new.token.length)

/-- The first occurrence of a token, unless it is at the very front. -/
def cutAt? (s token : Text) : Option Cut :=
  match find? token s with
  | some (i + 1) => some ⟨i + 1, token⟩
  | _ => none

def betterCut (s : Text) (best : Option Cut) (token : Text) : Option Cut :=
  match cutAt? s token, best with
  | none, _ => best
  | some c, none => some c
  | some c, some b => if c.better b then some c else some b

def bestCut? (tokens : List Text) (s : Text) : Option Cut :=
  tokens.foldl (betterCut s) none

/-- A condition without white space around its operator, as left operand, operator and right operand.
Both operands must be single tokens that hide no further operator. -/
def split? (ops : OperatorTable) (s : Text) : Option (Text × Text × Text) :=
  match bestCut? ops.symbolic s with
  | none => none
  | some c =>
    let left := trim (s.take c.offset)
    let right := trim (s.drop (c.offset + c.token.length))
    if isSingle left && isSingle right &&
        !ops.symbolic.any (fun t => left.holds t || right.holds t) then
      some (left, c.token, right)
    else none

/-- A mistyped token matches a token whose lower-case form is at least as long in bytes and has the
lower-case characters of the mistyped one in order. -/
def resembles (typed token : Text) : Bool :=
  let typed := typed.lowerBuffered
  let token := token.lowerBuffered
  typed.length ≤ token.length &&
    ((symbols typed).map Symbol.char).isSublist ((symbols token).map Symbol.char)

def distance (typed token : Text) : Nat :=
  editDistance ((symbols typed).map Symbol.char) ((symbols token).map Symbol.char)

/-- The member with the least key, the first one among equals. -/
def leastBy? (key : Text → Nat) : List Text → Option Text
  | [] => none
  | t :: ts =>
    match leastBy? key ts with
    | none => some t
    | some u => if key u < key t then some u else some t

def suggest? (ops : OperatorTable) (typed : Text) : Option Text :=
  leastBy? (distance typed) (ops.tokens.filter (resembles typed))

end OperatorTable
end RouteScript
