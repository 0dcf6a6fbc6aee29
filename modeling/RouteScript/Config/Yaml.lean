import RouteScript.Config.Basic
import RouteScript.Text.Base64
import RouteScript.Yaml.Node

/-!
# Settings in YAML

Settings are taken from the mapping at the root of a document. Unknown keys are ignored. Values of
wrong types and keys that are written twice are collected, and all of them are reported. The key `<<`
takes over what its mapping, or each of a list of mappings, sets beside the keys around it.

References are followed wherever a value may stand. They must not lead back into themselves, and a
document must not consist of almost nothing else.
-/

namespace RouteScript.Yaml

open Text

structure Reading where
  visited : Nat := 0
  /-- The number of nodes that were visited below references. -/
  referred : Nat := 0
  active : List Nat := []
  /-- The keys that are no longer taken over, if keys are being taken over. -/
  taken : Option (List Text) := none
  faults : List Text := []

abbrev Reader := StateT Reading (Except Fault)

namespace Reader

def stop {α : Type} (message : Text) : Reader α := throw (.general message)

def note (fault : Text) : Reader Unit := modify fun r => { r with faults := fault :: r.faults }

end Reader

/-- Too many of the visited nodes were reached by references: more than 99 of 100 in documents of up to
400000 nodes, and fewer the larger the document, down to 10 of 100. -/
def Reading.isExcessive (r : Reading) : Bool :=
  let low := 400000
  let range := 3600000
  let share := 99 * range - 89 * min (r.visited - low) range
  100 < r.referred && 1000 < r.visited && r.visited * share < r.referred * 100 * range

def visit : Reader Unit := do
  modify fun r => { r with
    visited := r.visited + 1
    referred := if r.active = [] then r.referred else r.referred + 1 }
  if (← get).isExcessive then Reader.stop (utf8 "document contains excessive aliasing")

/-- Visits a node, or the node that it refers to. -/
def follow {α : Type} (d : Document) (n : Node) (read : Node → Reader α) : Reader α := do
  visit
  match n with
  | .alias number _ name target =>
    if (← get).active.contains number then
      Reader.stop (utf8 "anchor '" ++ name ++ utf8 "' value contains itself")
    else
      modify fun r => { r with active := number :: r.active }
      visit
      let a ← read ((d.numbered.lookup target).getD n)
      modify fun r => { r with active := r.active.erase number }
      return a
  | n => read n

inductive Meaning where
  | null
  | bool (b : Bool)
  | text (t : Text)
  /-- A number or a date. -/
  | other

def ScalarType.meaning (t : ScalarType) (value : Text) : Meaning :=
  match t with
  | .null => .null
  | .bool b => .bool b
  | .str => .text value
  | _ => .other

/-- The tags of the types that a scalar must really have. -/
def checkedTags : List Text := ["!!null", "!!bool", "!!int", "!!float", "!!timestamp"].map utf8

/-- The meaning of a scalar with a tag. Tags of unknown types leave the text as it is. -/
def meaning (tag value : Text) : Reader Meaning :=
  if tag = utf8 "!!binary" then
    match Base64.decode? value with
    | some t => return .text t
    | none => Reader.stop (utf8 "!!binary value contains invalid base64 data")
  else if checkedTags.contains tag then
    let t := typeOf (tag == ScalarType.timestamp.tag) value
    if t.tag = tag ∨ (t = .int ∧ tag = ScalarType.float.tag) then return t.meaning value
    else Reader.stop (utf8 "cannot decode " ++ t.tag ++ utf8 " `" ++ value ++ utf8 "` as a " ++ tag)
  else return .text value

def Node.mismatch (n : Node) (wanted : String) : Text :=
  let v := n.text
  let shown :=
    if n.tag = utf8 "!!seq" ∨ n.tag = utf8 "!!map" then v
    else utf8 " `" ++ (if 10 < v.length then v.take 7 ++ utf8 "..." else v) ++ utf8 "`"
  utf8 "line " ++ decimal n.line ++ utf8 ": cannot unmarshal " ++ n.tag ++ shown
    ++ utf8 " into " ++ utf8 wanted

/-- Two keys are the same: both scalars, both references, or both collections of one kind, with the
same text. -/
def Node.sameKey : Node → Node → Bool
  | .scalar _ _ v, .scalar _ _ w => v == w
  | .sequence _ _ _, .sequence _ _ _ => true
  | .mapping _ _ _, .mapping _ _ _ => true
  | .alias _ _ v _, .alias _ _ w _ => v == w
  | _, _ => false

def repeatedKeys : List Node → List Text
  | [] => []
  | k :: ks =>
    (ks.filter k.sameKey).map (fun j =>
      utf8 "line " ++ decimal j.line ++ utf8 ": mapping key " ++ quoted j.text
        ++ utf8 " already defined at line " ++ decimal k.line)
    ++ repeatedKeys ks

/-- Notes the keys that are written twice in a mapping and says whether there are any. -/
def noteRepeated (pairs : List (Node × Node)) : Reader Bool := do
  let faults := repeatedKeys (pairs.map Prod.fst)
  faults.forM Reader.note
  return !faults.isEmpty

/-- Refuses a node where another type is wanted; a mapping with keys that are written twice is refused
for those. -/
def refuse (n : Node) (wanted : String) : Reader Unit := do
  match n with
  | .mapping _ _ pairs => if !(← noteRepeated pairs) then Reader.note (n.mismatch wanted)
  | n => Reader.note (n.mismatch wanted)

/-- A string, if the node is one; every scalar but null is. -/
def string? (d : Document) (n : Node) : Reader (Option Text) :=
  follow d n fun n => do
    match n with
    | .scalar _ tag v =>
      match ← meaning tag v with
      | .null => return none
      | .text t => return some t
      | _ => return some v
    | n => refuse n "string"; return none

/-- A truth value, if the node is one; words of the older version of the format are taken too. -/
def bool? (d : Document) (n : Node) : Reader (Option Bool) :=
  follow d n fun n => do
    match n with
    | .scalar _ tag v =>
      match ← meaning tag v with
      | .null => return none
      | .bool b => return some b
      | .text t =>
        if plainTrue.contains t then return some true
        else if plainFalse.contains t then return some false
        else Reader.note (n.mismatch "bool"); return none
      | .other => Reader.note (n.mismatch "bool"); return none
    | n => refuse n "bool"; return none

/-- A list of strings, if the node is one; null is an empty list, and items that are no strings are
left out. -/
def strings? (d : Document) (n : Node) : Reader (Option (List Text)) :=
  follow d n fun n => do
    match n with
    | .scalar _ tag v =>
      match ← meaning tag v with
      | .null => return some []
      | _ => Reader.note (n.mismatch "[]string"); return none
    | .sequence _ _ items => return some (← items.filterMapM (string? d))
    | n => refuse n "[]string"; return none

/-- A type of settings: its name, and how the value of a key is read, if the key is known. -/
structure Section (α : Type) where
  name : String
  field? : Text → Option (α → Node → Reader α)

/-- The key that takes over the keys of other mappings. -/
def Node.isMerge : Node → Bool
  | .scalar _ tag v => v == utf8 "<<" && tag == utf8 "!!merge"
  | _ => false

/-- Notes a key that is taken over, and says whether that was to be done. -/
def takeOver (key : Text) : Option (List Text) → Bool × Option (List Text)
  | none => (true, none)
  | some ks => if ks.contains key then (false, some ks) else (true, some (key :: ks))

/-- Reads the pairs of a mapping, except for the key that takes over others. -/
def readPairs {α : Type} (d : Document) (s : Section α) :
    (done : List Text) → (taken : Option (List Text)) → List (Node × Node) → α →
      Reader (α × Option (List Text))
  | _, taken, [], a => return (a, taken)
  | done, taken, (k, v) :: rest, a => do
    if k.isMerge then readPairs d s done taken rest a
    else match ← string? d k with
      | none => readPairs d s done taken rest a
      | some key =>
        match takeOver key taken, s.field? key with
        | (false, taken), _ => readPairs d s done taken rest a
        | (true, taken), none => readPairs d s done taken rest a
        | (true, taken), some read =>
          if done.contains key then
            Reader.note (utf8 "line " ++ decimal k.line ++ utf8 ": field " ++ key
              ++ utf8 " already set in type " ++ utf8 s.name)
            readPairs d s done taken rest a
          else readPairs d s (key :: done) taken rest (← read a v)

def ownKeys (d : Document) (pairs : List (Node × Node)) : Reader (List Text) :=
  pairs.filterMapM fun (k, _) =>
    follow d k fun k => return match k with
      | .scalar _ _ v => some v
      | _ => none

def requireMapping (d : Document) (n : Node) : Reader Unit :=
  let isMapping (m : Node) : Bool :=
    match m with
    | .mapping _ _ _ => true
    | _ => false
  let fits :=
    match n with
    | .alias _ _ _ target => (d.numbered.lookup target).any isMapping
    | n => isMapping n
  if fits then return ()
  else Reader.stop (utf8 "map merge requires map or sequence of maps as the value")

def readSection {α : Type} (d : Document) (s : Section α) : (fuel : Nat) → Node → α → Reader α
  | 0, _, a => return a
  | fuel + 1, n, a =>
    follow d n fun n => do
      match n with
      | .scalar _ tag v =>
        match ← meaning tag v with
        | .null => return a
        | _ => Reader.note (n.mismatch s.name); return a
      | .mapping _ _ pairs =>
        if ← noteRepeated pairs then return a
        else
          let taken := (← get).taken
          modify fun r => { r with taken := none }
          let (a, taken) ← readPairs d s [] taken pairs a
          modify fun r => { r with taken }
          match pairs.find? fun p => p.1.isMerge with
          | none => return a
          | some (_, source) =>
            if taken.isNone then
              let own ← ownKeys d pairs
              modify fun r => { r with taken := some own }
            let sources := match source with
              | .sequence _ _ items => items
              | m => [m]
            let a ← sources.foldlM (fun a m => do requireMapping d m; readSection d s fuel m a) a
            if taken.isNone then modify fun r => { r with taken := none }
            return a
      | n => Reader.note (n.mismatch s.name); return a

def setting {α β : Type} (read : Node → Reader (Option β)) (set : α → β → α) (a : α) (n : Node) :
    Reader α := do
  match ← read n with
  | some b => return set a b
  | none => return a

def formatSection (d : Document) : Section FormatOptions where
  name := "main.formatConf"
  field? key :=
    if key = utf8 "indent" then some (setting (string? d) fun o indent => { o with indent })
    else if key = utf8 "blank_lines" then
      some (setting (bool? d) fun o blankLines => { o with blankLines })
    else none

def lintSection (d : Document) : Section LintOptions where
  name := "main.lintConf"
  field? key :=
    if key = utf8 "disable_fallback_check" then
      some (setting (bool? d) fun o skipFallback => { o with skipFallback })
    else if key = utf8 "disable_duplicate_check" then
      some (setting (bool? d) fun o skipDuplicates => { o with skipDuplicates })
    else if key = utf8 "disable_unreachable_check" then
      some (setting (bool? d) fun o skipUnreachable => { o with skipUnreachable })
    else none

/-- The settings at the top. `depth` bounds how far mappings take over others. -/
def configSection (d : Document) (depth : Nat) : Section Config where
  name := "main.config"
  field? key :=
    if key = utf8 "operators" then
      some (setting (strings? d) fun c operators => { c with operators })
    else if key = utf8 "extra_operators" then
      some (setting (strings? d) fun c extraOperators => { c with extraOperators })
    else if key = utf8 "tab_indent" then
      some (setting (bool? d) fun c tabIndent => { c with tabIndent })
    else if key = utf8 "output" then
      some (setting (string? d) fun c output => { c with output })
    else if key = utf8 "format" then
      some fun c n => return { c with format := ← readSection d (formatSection d) depth n c.format }
    else if key = utf8 "lint" then
      some fun c n => return { c with lint := ← readSection d (lintSection d) depth n c.lint }
    else none

/-- The settings of a document, with the faults of values of wrong types. References that are followed
differ, so `size` squared bounds how far mappings take over others, if no more than `size` tokens were
written. -/
def config (size : Nat) : Option Document → Except Fault (Config × List Text)
  | none => .ok ({}, [])
  | some d => do
    let depth := size * size
    let read : Reader Config := do
      visit
      readSection d (configSection d depth) depth d.root {}
    let (c, r) ← read.run {}
    return (c, r.faults.reverse)

end RouteScript.Yaml
