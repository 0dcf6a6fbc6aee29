import RouteScript.Yaml.Scalar
import RouteScript.Yaml.Token

/-!
# Nodes

A document is a tree of scalars, sequences and mappings. A node may be given a name by an anchor, and
other places of the tree may refer to it by that name, also from inside of it: such a reference holds
the number of the node it means, and the nodes with numbers are listed beside the tree.

The tree is built from tokens with a stack of unfinished collections. A step either starts the next
node, puts a finished node into the innermost collection, or lets that collection look at the next
token.
-/

namespace RouteScript.Yaml

open Text

/-- A node of a document, with the line it starts on, from one, and its tag. -/
inductive Node where
  | scalar (line : Nat) (tag value : Text)
  | sequence (line : Nat) (tag : Text) (items : List Node)
  | mapping (line : Nat) (tag : Text) (pairs : List (Node × Node))
  /-- A reference, with a number of its own, to the node that has the number `target`. -/
  | alias (number line : Nat) (name : Text) (target : Nat)

namespace Node

def line : Node → Nat
  | .scalar n _ _ => n
  | .sequence n _ _ => n
  | .mapping n _ _ => n
  | .alias _ n _ _ => n

def tag : Node → Text
  | .scalar _ t _ => t
  | .sequence _ t _ => t
  | .mapping _ t _ => t
  | .alias _ _ _ _ => []

def text : Node → Text
  | .scalar _ _ v => v
  | .alias _ _ name _ => name
  | _ => []

/-- A missing value in front of a token on a line, from zero. -/
def absent (line : Nat) : Node := .scalar (line + 1) ScalarType.null.tag []

end Node

def ownTags : Text := utf8 "tag:yaml.org,2002:"

def shortForm (tag : Text) : Text :=
  if ownTags.isPrefixOf tag then utf8 "!!" ++ tag.drop ownTags.length else tag

/-- The tag of a node for which one is written, unless nothing or only the sign of a tag is. -/
def tagOr (written default : Text) : Text :=
  if written = [] ∨ written = [exclamation] then default else shortForm written

def defaultTag (plain : Bool) (value : Text) : Text :=
  if !plain then ScalarType.str.tag
  else if value = utf8 "<<" then utf8 "!!merge"
  else (scalarType value).tag

structure Opening where
  /-- The line of the node, from zero. -/
  line : Nat
  /-- The line that faults in the collection name. -/
  start : Nat
  tag : Text
  number? : Option Nat

/-- A collection whose nodes are still read; they are listed newest first. -/
inductive Frame where
  | blockSequence (o : Opening) (items : List Node)
  /-- A block sequence in a mapping that is indented no more than its key. -/
  | levelSequence (o : Opening) (items : List Node)
  | blockKey (o : Opening) (pairs : List (Node × Node))
  | blockValue (o : Opening) (pairs : List (Node × Node)) (key : Node)
  | flowSequence (o : Opening) (items : List Node)
  /-- A pair that is an item of a flow sequence. -/
  | pairKey (line : Nat)
  | pairValue (line : Nat) (key : Node)
  | flowKey (o : Opening) (pairs : List (Node × Node))
  /-- The key of a pair without a colon. -/
  | loneKey (o : Opening) (pairs : List (Node × Node))
  | flowValue (o : Opening) (pairs : List (Node × Node)) (key : Node)

structure Builder where
  rest : List Token
  fault? : Option Fault
  handles : List (Text × Text) := []
  /-- The numbers of the nodes that names mean, newest first. -/
  names : List (Text × Nat) := []
  numbered : List (Nat × Node) := []
  frames : List Frame := []

inductive Step where
  /-- A node is read. `block` allows block collections, `level` a sequence at the column of a key. -/
  | start (block level : Bool)
  | put (n : Node)
  /-- The innermost collection looks at the next token. -/
  | resume

namespace Builder

def peek (b : Builder) : Except Fault Token :=
  match b.rest, b.fault? with
  | t :: _, _ => .ok t
  | [], some f => .error f
  | [], none => .error (.general [])

def skip (b : Builder) : Builder := { b with rest := b.rest.drop 1 }

def number (b : Builder) (number? : Option Nat) (n : Node) : Builder :=
  match number? with
  | some k => { b with numbered := (k, n) :: b.numbered }
  | none => b

/-- Leaves the innermost collection, which became a node. -/
def finish (b : Builder) (o : Opening) (n : Node) : Step × Builder :=
  (.put n, { b.number o.number? n with frames := b.frames.drop 1 })

def finishSequence (b : Builder) (o : Opening) (items : List Node) : Step × Builder :=
  b.finish o (.sequence (o.line + 1) (tagOr o.tag (utf8 "!!seq")) items.reverse)

def finishMapping (b : Builder) (o : Opening) (pairs : List (Node × Node)) : Step × Builder :=
  b.finish o (.mapping (o.line + 1) (tagOr o.tag (utf8 "!!map")) pairs.reverse)

/-- What is written in front of a node: the anchor's name, the tag and its line. -/
structure Properties where
  anchor? : Option Text := none
  tag? : Option (Tag × Nat) := none

def properties (b : Builder) : Except Fault (Properties × Builder) := do
  let t ← b.peek
  match t.kind with
  | .anchor name =>
    let b := b.skip
    let u ← b.peek
    match u.kind with
    | .tag g => return (⟨some name, some (g, u.line)⟩, b.skip)
    | _ => return (⟨some name, none⟩, b)
  | .tag g =>
    let b := b.skip
    let u ← b.peek
    match u.kind with
    | .anchor name => return (⟨some name, some (g, t.line)⟩, b.skip)
    | _ => return (⟨none, some (g, t.line)⟩, b)
  | _ => return ({}, b)

def writtenTag (b : Builder) (line : Nat) : Option (Tag × Nat) → Except Fault Text
  | none => .ok []
  | some (g, place) =>
    if g.handle = [] then .ok g.suffix
    else match b.handles.lookup g.handle with
      | some expansion => .ok (expansion ++ g.suffix)
      | none => .error (.structural line place "found undefined tag handle")

/-- Starts a node that is not a reference. -/
def startNode (b : Builder) (block level : Bool) (line : Nat) : Except Fault (Step × Builder) := do
  let (p, b) ← b.properties
  let t ← b.peek
  let tag ← b.writtenTag line p.tag?
  let number? := p.anchor?.map fun _ => b.rest.length
  let b := match p.anchor?, number? with
    | some name, some k => { b with names := (name, k) :: b.names }
    | _, _ => b
  let o : Opening := ⟨line, t.line, tag, number?⟩
  let scalar (b : Builder) (plain : Bool) (v : Text) : Step × Builder :=
    let n := Node.scalar (line + 1) (tagOr tag (defaultTag plain v)) v
    (.put n, b.number number? n)
  let enter (b : Builder) (f : Frame) : Step × Builder :=
    (.resume, { b with frames := f :: b.frames })
  match t.kind, block, level with
  | .blockEntry, _, true => return enter b (.levelSequence o [])
  | .scalar plain v, _, _ => return scalar b.skip plain v
  | .flowSequenceStart, _, _ => return enter b.skip (.flowSequence o [])
  | .flowMappingStart, _, _ => return enter b.skip (.flowKey o [])
  | .blockSequenceStart, true, _ => return enter b.skip (.blockSequence o [])
  | .blockMappingStart, true, _ => return enter b.skip (.blockKey o [])
  | _, _, _ =>
    if p.anchor?.isSome ∨ tag ≠ [] then return scalar b true []
    else .error (.structural line t.line "did not find expected node content")

def start (b : Builder) (block level : Bool) : Except Fault (Step × Builder) := do
  let t ← b.peek
  match t.kind with
  | .alias name =>
    match b.names.lookup name with
    | some target => return (.put (.alias b.rest.length (t.line + 1) name target), b.skip)
    | none => .error (.general (utf8 "unknown anchor '" ++ name ++ utf8 "' referenced"))
  | _ => b.startNode block level t.line

/-- Reads the node behind a sign, unless one of the given tokens shows that it is missing. -/
def memberOr (b : Builder) (missing : List TokenKind) (line : Nat) (step : Step) :
    Except Fault (Step × Builder) := do
  let t ← b.peek
  return if missing.contains t.kind then (.put (.absent line), b) else (step, b)

def flowMember (b : Builder) (last : TokenKind) : Except Fault (Step × Builder) := do
  let t ← b.peek
  if t.kind ≠ .value then return (.put (.absent t.line), b)
  else
    let b := b.skip
    let u ← b.peek
    b.memberOr [.flowEntry, last] u.line (.start false false)

/-- Goes past the comma between members of a flow collection; none stands in front of the first. -/
def comma (b : Builder) (first : Bool) (start : Nat) (complaint : String) :
    Except Fault Builder := do
  let t ← b.peek
  if first then return b
  else if t.kind = .flowEntry then return b.skip
  else .error (.structural start t.line complaint)

/-- What may follow the dash of an item without content. -/
def afterLevelEntry : List TokenKind := [.blockEntry, .key, .value, .blockEnd]

/-- What may follow the sign of a key or value without content. -/
def afterBlockSign : List TokenKind := [.key, .value, .blockEnd]

def look (b : Builder) (f : Frame) : Except Fault (Step × Builder) := do
  let t ← b.peek
  match f with
  | .blockSequence o items =>
    if t.kind = .blockEntry then b.skip.memberOr [.blockEntry, .blockEnd] t.line (.start true false)
    else if t.kind = .blockEnd then return b.skip.finishSequence o items
    else .error (.structural o.start t.line "did not find expected '-' indicator")
  | .levelSequence o items =>
    if t.kind = .blockEntry then b.skip.memberOr afterLevelEntry t.line (.start true false)
    else return b.finishSequence o items
  | .blockKey o pairs =>
    if t.kind = .key then b.skip.memberOr afterBlockSign t.line (.start true true)
    else if t.kind = .blockEnd then return b.skip.finishMapping o pairs
    else .error (.structural o.start t.line "did not find expected key")
  | .blockValue _ _ _ =>
    if t.kind = .value then b.skip.memberOr afterBlockSign t.line (.start true true)
    else return (.put (.absent t.line), b)
  | .flowSequence o items =>
    if t.kind = .flowSequenceEnd then return b.skip.finishSequence o items
    else
      let b ← b.comma items.isEmpty o.start "did not find expected ',' or ']'"
      let u ← b.peek
      if u.kind = .key then
        return (.resume, { b.skip with frames := .pairKey u.line :: b.frames })
      else if u.kind = .flowSequenceEnd then return b.skip.finishSequence o items
      else return (.start false false, b)
  | .pairKey _ =>
    if [.value, .flowEntry, .flowSequenceEnd].contains t.kind then
      return (.put (.absent t.line), b.skip)
    else return (.start false false, b)
  | .pairValue _ _ => b.flowMember .flowSequenceEnd
  | .flowKey o pairs =>
    if t.kind = .flowMappingEnd then return b.skip.finishMapping o pairs
    else
      let b ← b.comma pairs.isEmpty o.start "did not find expected ',' or '\x7d'"
      let u ← b.peek
      if u.kind = .key then
        let b := b.skip
        let v ← b.peek
        b.memberOr [.value, .flowEntry, .flowMappingEnd] v.line (.start false false)
      else if u.kind = .flowMappingEnd then return b.skip.finishMapping o pairs
      else return (.start false false, { b with frames := .loneKey o pairs :: b.frames.drop 1 })
  | .loneKey _ _ => return (.start false false, b)
  | .flowValue _ _ _ => b.flowMember .flowMappingEnd

def replace (b : Builder) (f : Frame) : Step × Builder :=
  (.resume, { b with frames := f :: b.frames.drop 1 })

def put (b : Builder) (n : Node) : Frame → Except Fault (Step × Builder)
  | .blockSequence o items => .ok (b.replace (.blockSequence o (n :: items)))
  | .levelSequence o items => .ok (b.replace (.levelSequence o (n :: items)))
  | .blockKey o pairs => .ok (b.replace (.blockValue o pairs n))
  | .blockValue o pairs k => .ok (b.replace (.blockKey o ((k, n) :: pairs)))
  | .flowSequence o items => .ok (b.replace (.flowSequence o (n :: items)))
  | .pairKey line => .ok (b.replace (.pairValue line n))
  | .pairValue line k =>
    .ok (.put (.mapping (line + 1) (utf8 "!!map") [(k, n)]), { b with frames := b.frames.drop 1 })
  | .flowKey o pairs => .ok (b.replace (.flowValue o pairs n))
  | .loneKey o pairs => do
    let t ← b.peek
    return b.replace (.flowKey o ((n, .absent t.line) :: pairs))
  | .flowValue o pairs k => .ok (b.replace (.flowKey o ((k, n) :: pairs)))

def run : (fuel : Nat) → Step → Builder → Except Fault (Node × Builder)
  | 0, _, _ => .error (.general [])
  | fuel + 1, s, b =>
    match s, b.frames with
    | .put n, [] => .ok (n, b)
    | .put n, f :: _ => do
      let (s, b) ← b.put n f
      run fuel s b
    | .start block level, _ => do
      let (s, b) ← b.start block level
      run fuel s b
    | .resume, f :: _ => do
      let (s, b) ← b.look f
      run fuel s b
    | .resume, [] => .error (.general [])

/-- The handles that need no directive. -/
def ownHandles : List (Text × Text) :=
  [(utf8 "!", utf8 "!"), (utf8 "!!", ownTags)]

def directives : (versioned : Bool) → List Token → Builder → Except Fault Builder
  | _, [], b => .ok b
  | versioned, t :: ts, b =>
    match t.kind with
    | .directive (.version major minor) =>
      if versioned then .error (.structural 0 t.line "found duplicate %YAML directive")
      else if major ≠ 1 ∨ minor ≠ 1 then
        .error (.structural 0 t.line "found incompatible YAML document")
      else directives true ts b.skip
    | .directive (.handle handle expansion) =>
      if (b.handles.lookup handle).isSome then
        .error (.structural 0 t.line "found duplicate %TAG directive")
      else directives versioned ts { b.skip with handles := (handle, expansion) :: b.handles }
    | _ => .ok b

def heading (b : Builder) : Except Fault Builder := do
  let b ← directives false b.rest b
  let t ← b.peek
  if t.kind = .documentStart then return b.skip
  else .error (.structural 0 t.line "did not find expected <document start>")

end Builder

/-- A document: its tree and the nodes that references mean. -/
structure Document where
  root : Node
  numbered : List (Nat × Node)

/-- The document in tokens, which may break off with a fault. Nothing is said behind the first
document but that its end must be a token. -/
def Document.ofTokens? (ts : List Token) (fault? : Option Fault) :
    Except Fault (Option Document) := do
  let b : Builder := { rest := ts, fault? }
  let _ ← b.peek
  let b := b.skip
  let t ← b.peek
  match t.kind with
  | .streamEnd => return none
  | _ =>
    let explicit := match t.kind with
      | .directive _ | .documentStart => true
      | _ => false
    let b ← if explicit then b.heading else pure b
    let b := { b with handles := b.handles ++ Builder.ownHandles }
    let u ← b.peek
    let empty := explicit && match u.kind with
      | .directive _ | .documentStart | .documentEnd | .streamEnd => true
      | _ => false
    let step := if empty then Step.put (.absent u.line) else .start true false
    let (root, b) ← b.run (16 * ts.length + 16) step
    let _ ← b.peek
    return some ⟨root, b.numbered⟩

/-- The first document of a text; a text that says nothing has none. -/
def Document.read (t : Text) : Except Fault (Option Document) :=
  let (ts, fault?) := tokens t
  ofTokens? ts fault?

end RouteScript.Yaml
