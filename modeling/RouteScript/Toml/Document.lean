import RouteScript.Toml.Table

/-!
# Documents

A document is read into a table from top to bottom. Beside the table it is noted where each key was
given a value, and which tables exist only because a path led through them: such a table may still be
given a heading of its own, once. A key that was given an array may be given another value.

Arrays and inline tables are read with a stack of those that are open.
-/

namespace RouteScript.Toml

open Text

structure Fault where
  line? : Option Nat
  key : Text
  message : Text
  deriving DecidableEq, Repr

def Fault.render (f : Fault) : Text :=
  utf8 "toml:"
    ++ (match f.line? with
      | some n => utf8 " line " ++ decimal n
      | none => [])
    ++ (if f.key = [] then [] else utf8 " (last key " ++ quoted f.key ++ utf8 ")")
    ++ utf8 ": " ++ f.message

structure KeyInfo where
  isArray : Bool
  line : Nat

/-- A document that was read: its table and what is known of its keys, newest first. -/
structure Document where
  root : Table := []
  info : List (Path × KeyInfo) := []

structure Reading extends Document where
  cursor : Cursor
  /-- The tables that exist only because a path led through them. -/
  implicit : List Path := []
  context : Path := []
  key : Text := []
  /-- The line of the last key, heading or comment. -/
  place : Nat := 0

abbrev Reader := StateT Reading (Except Fault)

namespace Reading

def lastKey (r : Reading) : Text :=
  if r.key = [] then pathText r.context
  else if r.context = [] then r.key
  else pathText r.context ++ [dot] ++ r.key

end Reading

def scan {α : Type} (read : Cursor → Except Complaint (α × Cursor)) : Reader α := fun r =>
  match read r.cursor with
  | .ok (a, cursor) => .ok (a, { r with cursor })
  | .error e => .error ⟨some e.line, r.lastKey, e.message⟩

def move (step : Cursor → Except Complaint Cursor) : Reader Unit :=
  scan fun c => (step c).map fun d => ((), d)

def refuse {α : Type} (complain : Cursor → Except Complaint α) : Reader α :=
  scan fun c => (complain c).map fun a => (a, c)

/-- Refuses what the last key or heading asks for. -/
def conflict {α : Type} (message : Text) : Reader α := fun r =>
  .error ⟨some r.place, r.lastKey, message⟩

/-- Notes the line and the kind of the value of a key; without a name, those of the table that is being
filled. -/
def noteType (name : Text) (isArray : Bool) (line : Nat) : Reader Unit :=
  modify fun r =>
    let path := if name = [] then r.context else r.context ++ [name]
    { r with info := (if path = [] then [[]] else path, ⟨isArray, line⟩) :: r.info }

def setValue (name : Text) (v : Value) : Reader Unit := do
  let r ← get
  let defined (p : Path) : Reader Unit :=
    conflict (utf8 "Key '" ++ pathText p ++ utf8 "' has already been defined.")
  match r.root.at? [] r.context with
  | .error p => defined p
  | .ok t =>
    let path := r.context ++ [name]
    let store : Reader Unit :=
      modify fun r => { r with root := r.root.change (Table.put name v) r.context }
    let settle : Reader Unit :=
      modify fun r => { r with implicit := r.implicit.filter (· ≠ path) }
    if (t.lookup name).isNone then store
    else if (r.info.lookup path).any KeyInfo.isArray then do settle; store
    else if r.implicit.contains path then settle
    else defined path

/-- Makes the tables on the way along a path, behind `above`, where there are none. -/
def makeTables (above : Path) : Path → Reader Unit
  | [] => return ()
  | n :: p => do
    let r ← get
    let path := above ++ [n]
    match r.root.at? [] above with
    | .error _ => return ()
    | .ok t =>
      match t.lookup n with
      | none =>
        modify fun r => { r with
          implicit := path :: r.implicit
          root := r.root.change (Table.put n (.table [])) above }
        makeTables path p
      | some v =>
        if v.inner?.isSome then makeTables path p
        else conflict (utf8 "Key '" ++ pathText path ++ utf8 "' was already created as a hash.")

/-- Adds a table to the list of tables at the end of a path, which is begun if it is missing. -/
def extendTables (above : Path) (name : Text) : Reader Unit := do
  let r ← get
  let store (ts : List Table) : Reader Unit :=
    modify fun r => { r with root := r.root.change (Table.put name (.tables (ts ++ [[]]))) above }
  match (r.root.at? [] above).toOption.bind (List.lookup name) with
  | none => store []
  | some (.tables ts) => store ts
  | some _ =>
    conflict (utf8 "Key '" ++ pathText (above ++ [name])
      ++ utf8 "' was already created and cannot be used as an array.")

/-- Starts to fill the table at the end of a path, or a new one in a list of tables there. -/
def enterTable (path : Path) (listed : Bool) : Reader Unit := do
  let above := path.dropLast
  let name := path.getLast?.getD []
  makeTables [] above
  modify fun r => { r with context := above }
  if listed then extendTables above name else setValue name (.table [])
  modify fun r => { r with context := r.context ++ [name] }

def enterImplicit (path : Path) : Reader Unit := do
  modify fun r => { r with implicit := path :: r.implicit }
  enterTable path false

def name (c : Cursor) : Except Complaint (Text × Cursor) := do
  match ← c.accept? '"' with
  | some d => basicString d
  | none =>
    match ← c.accept? '\'' with
    | some d => literalString d
    | none => (c.span isBare).map fun r => (encode r.1, r.2)

def keyRest : (fuel : Nat) → Path → Cursor → Except Complaint (Path × Cursor)
  | 0, path, c => .ok (path, c)
  | fuel + 1, path, c => do
    let c ← c.skipBlanks
    let r ← c.peek
    if r.isNone ∨ r = some '=' then c.fail (utf8 "unexpected '='")
    else if r = some '.' then c.fail (utf8 "unexpected '.'")
    else
      let (n, c) ← name c
      let (r, c) ← (← c.skipBlanks).next
      let expected := utf8 "expected '.' or '=', but got " ++ shown r ++ utf8 " instead"
      if r.isNone then c.refuse none (utf8 "unexpected EOF; expected key separator '='")
      else if r = some '.' then keyRest fuel (path ++ [n]) c
      else if r = some '=' then return (path ++ [n], c)
      else if r = some '\n' then c.failAbove expected
      else c.fail expected

def dottedKey (c : Cursor) : Except Complaint ((Path × Nat) × Cursor) := do
  let c ← c.skipBlanks
  let r ← c.peek
  if r.isNone ∨ r = some '=' then c.fail (utf8 "unexpected '=': key name appears blank")
  else if r = some '.' then c.fail (utf8 "unexpected '.': keys cannot start with a '.'")
  else
    let (path, d) ← keyRest (c.rest.length + 1) [] c
    return ((path, c.line), d)

/-- Notes the line of the cursor as the place that conflicts name. -/
def notePlace : Reader Unit := modify fun r => { r with place := r.cursor.line }

/-- Reads a key and enters the tables that its path leads through. Gives that path and the line that
the key starts on. -/
def readKey : Reader (Path × Nat) := do
  let (path, line) ← scan dottedKey
  notePlace
  let through := path.dropLast
  modify fun r => { r with key := path.getLast?.getD [] }
  through.forM fun n => do enterImplicit ((← get).context ++ [n])
  return (through, line)

structure OpenTable where
  line : Nat
  outerContext : Path
  outerKey : Text
  context : Path
  members : Table := []
  /-- The path that the current key leads through, and the line of that key. -/
  through : Path := []
  keyLine : Nat := 0

/-- An array or inline table that is open; items are listed newest first. -/
inductive Frame where
  | array (line : Nat) (items : List Value)
  | table (t : OpenTable)

inductive Step where
  | value
  | item
  | pair
  /-- A value was read; the line is the one that is noted for it. -/
  | put (v : Value) (line : Nat)

def scalar (read : Cursor → Except Complaint (Scalar × Cursor)) : Reader Step := do
  let s ← scan read
  return .put (.scalar s) (← get).cursor.line

def string (mark : Char) : Reader Step :=
  scalar fun c => (stringValue mark c).map fun r => (.string r.1, r.2)

/-- Starts an inline table, which may be an item of an array. -/
def openTable (listed : Bool) (line : Nat) : Reader OpenTable := do
  let r ← get
  let context := r.context ++ [r.key]
  modify fun r => { r with context, key := [], implicit := context :: r.implicit }
  enterTable context listed
  return { line, outerContext := r.context, outerKey := r.key, context }

def startValue (frames : List Frame) : Reader (Step × List Frame) := do
  move Cursor.skipBlanks
  let start := (← get).cursor
  let r ← scan Cursor.next
  let unexpected := utf8 "expected value but found " ++ shown r ++ utf8 " instead"
  let line := start.line
  match r with
  | none => refuse fun c => c.refuse none (utf8 "unexpected EOF; expected value")
  | some ch =>
    if ch.isDigit then return (← scalar fun _ => number start, frames)
    else if ch = '[' then
      noteType (← get).key true line
      return (.item, .array line [] :: frames)
    else if ch = '\x7b' then
      let listed := match frames with
        | .array _ _ :: _ => true
        | _ => false
      return (.pair, .table (← openTable listed line) :: frames)
    else if ch = '"' ∨ ch = '\'' then return (← string ch, frames)
    else if ch = '.' then refuse fun c => c.fail (utf8 "floats must start with a digit, not '.'")
    else if ch = 'i' ∨ ch = 'n' then return (← scalar (floatWord ch start), frames)
    else if ch = '-' ∨ ch = '+' then return (← scalar (signedNumber ch), frames)
    else if letterRanges.has ch.toNat then return (← scalar fun _ => word start, frames)
    else refuse fun c => if ch = '\n' then c.failAbove unexpected else c.fail unexpected

def comment : Reader Unit := do
  move Cursor.skipComment
  notePlace

/-- Goes past white space, line ends and comments in an array. -/
def skipInArray : (fuel : Nat) → Reader Unit
  | 0 => return ()
  | fuel + 1 => do
    move fun c => (c.span fun ch => isBlank ch || isBreak ch).map Prod.snd
    match ← scan fun c => return (← c.accept? '#', c) with
    | some d => modify fun r => { r with cursor := d }; comment; skipInArray fuel
    | none => return ()

/-- Goes past blanks and comments in an inline table; a line must not end there. -/
def skipInTable : (fuel : Nat) → Reader Unit
  | 0 => return ()
  | fuel + 1 => do
    move Cursor.skipBlanks
    let (r, d) ← scan fun c => return (← c.next, c)
    if r = some '#' then
      modify fun r => { r with cursor := d }
      comment
      skipInTable fuel
    else if r.any isBreak then
      refuse fun _ => d.failAbove (utf8 "newlines not allowed within inline tables")
    else return ()

/-- A number of steps that suffices for what is left of the document. -/
def fuel : Reader Nat := return (← get).cursor.rest.length + 1

def charOrEnd : Option Char → Text
  | some c => utf8 "'" ++ encode [c] ++ utf8 "'"
  | none => utf8 "end of file"

def closeArray (line : Nat) (items : List Value) (frames : List Frame) : Step × List Frame :=
  (.put (.array items.reverse) line, frames)

def closeTable (t : OpenTable) (frames : List Frame) : Reader (Step × List Frame) := do
  modify fun r => { r with context := t.outerContext, key := t.outerKey }
  return (.put (.table t.members) t.line, frames)

def readItem (line : Nat) (items : List Value) (frames : List Frame) :
    Reader (Step × List Frame) := do
  skipInArray (← fuel)
  let (r, d) ← scan fun c => return (← c.next, c)
  if r = some ',' then refuse fun _ => d.fail (utf8 "unexpected comma")
  else if r = some ']' then
    modify fun r => { r with cursor := d }
    return closeArray line items frames
  else return (.value, .array line items :: frames)

def afterItem (line : Nat) (items : List Value) (frames : List Frame) :
    Reader (Step × List Frame) := do
  skipInArray (← fuel)
  let r ← scan Cursor.next
  if r = some ',' then return (.item, .array line items :: frames)
  else if r = some ']' then return closeArray line items frames
  else
    refuse fun c => c.refuse r (utf8 "expected a comma (',') or array terminator (']'), but got "
      ++ charOrEnd r)

def readPair (t : OpenTable) (frames : List Frame) : Reader (Step × List Frame) := do
  skipInTable (← fuel)
  let (r, d) ← scan fun c => return (← c.next, c)
  if r = some ',' then refuse fun _ => d.fail (utf8 "unexpected comma")
  else if r = some '\x7d' then
    modify fun r => { r with cursor := d }
    closeTable t frames
  else
    let (through, keyLine) ← readKey
    return (.value, .table { t with through, keyLine } :: frames)

def afterPair (t : OpenTable) (frames : List Frame) : Reader (Step × List Frame) := do
  skipInTable (← fuel)
  let r ← scan Cursor.next
  if r = some ',' then
    move Cursor.skipBlanks
    if (← scan fun c => return (← c.peek, c)) = some '\x7d' then
      refuse fun c => c.fail (utf8 "trailing comma not allowed in inline tables")
    else return (.pair, .table t :: frames)
  else if r = some '\x7d' then closeTable t frames
  else
    refuse fun c => c.refuse r
      (utf8 "expected a comma or an inline table terminator '\x7d', but got " ++ charOrEnd r
        ++ utf8 " instead")

/-- The value is an array that was written between brackets. -/
def Value.isArray : Value → Bool
  | .array _ => true
  | _ => false

def putMember (t : OpenTable) (v : Value) : Reader OpenTable := do
  let key := (← get).key
  setValue key v
  noteType key v.isArray t.keyLine
  match t.members.putAt? key v t.through with
  | none => conflict (quoted (pathText (← get).context) ++ utf8 " is not a table")
  | some members =>
    modify fun r => { r with context := t.context }
    return { t with members }

def runValue : (fuel : Nat) → Step → List Frame → Reader (Value × Nat)
  | 0, _, _ => return (.array [], 0)
  | fuel + 1, s, frames => do
    match s, frames with
    | .put v line, [] => return (v, line)
    | .put v _, .array line items :: frames =>
      let (s, frames) ← afterItem line (v :: items) frames
      runValue fuel s frames
    | .put v _, .table t :: frames =>
      let (s, frames) ← afterPair (← putMember t v) frames
      runValue fuel s frames
    | .item, .array line items :: frames =>
      let (s, frames) ← readItem line items frames
      runValue fuel s frames
    | .pair, .table t :: frames =>
      let (s, frames) ← readPair t frames
      runValue fuel s frames
    | _, frames =>
      let (s, frames) ← startValue frames
      runValue fuel s frames

def keyValue : Reader Unit := do
  let outer := (← get).context
  let _ ← readKey
  let (v, line) ← runValue (4 * (← fuel)) .value []
  let key := (← get).key
  setValue key v
  noteType key v.isArray line
  modify fun r => { r with context := outer, key := [] }

def headingRest : (fuel : Nat) → Path → Cursor → Except Complaint (Path × Cursor)
  | 0, path, c => .ok (path, c)
  | fuel + 1, path, c => do
    let c ← c.skipBlanks
    let r ← c.peek
    if r.isNone ∨ r = some ']' then
      c.fail (utf8 "unexpected end of table name (table names cannot be empty)")
    else if r = some '.' then
      c.fail (utf8 "unexpected table separator (table names cannot be empty)")
    else
      let (n, c) ← name c
      let (r, c) ← (← c.skipBlanks).next
      if r = some '.' then headingRest fuel (path ++ [n]) c
      else if r = some ']' then return (path ++ [n], c)
      else
        c.refuse r (utf8 "expected '.' or ']' to end table name, but got " ++ shown r
          ++ utf8 " instead")

def secondBracket (c : Cursor) : Except Complaint Cursor := do
  let (r, d) ← c.next
  if r = some ']' then return d
  else
    d.refuse r (utf8 "expected end of table array name delimiter ']', but got " ++ shown r
      ++ utf8 " instead")

def heading : Reader Unit := do
  let line := (← get).cursor.line
  let second? ← scan fun c => return (← c.accept? '[', c)
  if let some d := second? then modify fun r => { r with cursor := d }
  let path ← scan fun c => headingRest (c.rest.length + 1) [] c
  if second?.isSome then move secondBracket
  notePlace
  enterTable path second?.isSome
  noteType [] false line

/-- Nothing but a comment may follow on the line of a value or heading. -/
def lineEnd : Reader Unit := do
  move Cursor.skipBlanks
  let r ← scan Cursor.next
  if r = some '#' then comment
  else if r.all isBreak then return ()
  else
    refuse fun c => c.fail (utf8 ("expected a top-level item to end with a newline, comment, or EOF, " ++
      "but got ") ++ shown r ++ utf8 " instead")

def readLines : (fuel : Nat) → Reader Unit
  | 0 => return ()
  | fuel + 1 => do
    let start := (← get).cursor
    let r ← scan Cursor.next
    match r with
    | none => return ()
    | some ch =>
      if isBlank ch ∨ isBreak ch then readLines fuel
      else if ch = '#' then do comment; readLines fuel
      else if ch = '[' then do heading; lineEnd; readLines fuel
      else
        modify fun r => { r with cursor := start }
        keyValue
        lineEnd
        readLines fuel

def dropMark (t : Text) : Text :=
  match t with
  | 0xFF :: 0xFE :: t => t
  | 0xFE :: 0xFF :: t => t
  | 0xEF :: 0xBB :: 0xBF :: t => t
  | t => t

/-- The document that a text is. A zero byte at the front shows another encoding. -/
def Document.read (t : Text) : Except Fault Document := do
  let t := dropMark t
  if (t.take 6).contains 0 then
    .error ⟨some 1, [], utf8 ("files cannot contain NULL bytes; probably using UTF-16; " ++
      "TOML files must be UTF-8")⟩
  else
    let (_, r) ← (readLines (t.length + 1)).run { cursor := { rest := symbols t } }
    return r.toDocument

end RouteScript.Toml
