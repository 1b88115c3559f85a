import RouteDocs.Yaml.Node

/-!
# The graph of nodes of a document

* `Cell`, `Graph`: the nodes of a document by their numbers, where an alias is its anchor's node;
* `Graph.ofNode`: the graph of a tree with aliases;
* `Graph.flatten`: a mapping with the entries that its merge keys bring in;
* `Graph.check`: the graph with all mappings flattened, if every node has a value;
* `Graph.value`: the value of a node.

A node can be reached from itself. The values are checked level by level, so that of several faults
the one that is least deep is told.
-/

namespace RouteDocs.Yaml

/-- A node with its kind. The nodes in it are given by their numbers. -/
inductive Cell where
  | scalar (tag : Tag) (text : String)
  | sequence (tag : Tag) (items : List Nat)
  | mapping (tag : Tag) (entries : List (Nat × Nat))
  deriving Inhabited

def Cell.tag : Cell → Tag
  | .scalar tag _ => tag
  | .sequence tag _ => tag
  | .mapping tag _ => tag

/-- The nodes of a document by their numbers. -/
structure Graph where
  cells : Array Cell

namespace Graph

def cell (g : Graph) (id : Nat) : Cell := g.cells.getD id default

def entries? (g : Graph) (id : Nat) : Option (List (Nat × Nat)) :=
  match g.cell id with
  | .mapping _ entries => some entries
  | _ => none

def set (g : Graph) (id : Nat) (c : Cell) : Graph := ⟨g.cells.setIfInBounds id c⟩

def setEntries (g : Graph) (id : Nat) (entries : List (Nat × Nat)) : Graph :=
  g.set id (.mapping (g.cell id).tag entries)

/-- A graph that is being made, and the nodes that anchors name so far. -/
structure Growth where
  graph : Graph
  anchors : List (String × Nat)

/-- A step that makes a graph grow. -/
abbrev Growing := StateM Growth

def create (anchor : Option String) : Growing Nat :=
  modifyGet fun s =>
    let id := s.graph.cells.size
    (id, ⟨⟨s.graph.cells.push default⟩,
      match anchor with
      | some name => (name, id) :: s.anchors
      | none => s.anchors⟩)

/-- Sets what a node holds. -/
def fill (id : Nat) (c : Cell) : Growing Unit := modify fun s => { s with graph := s.graph.set id c }

mutual

def add : Node → Growing Nat
  | .alias name => do return ((← get).anchors.lookup name).getD 0
  | .scalar anchor tag text => do
    let id ← create anchor
    fill id (.scalar tag text)
    return id
  | .sequence anchor tag items => do
    let id ← create anchor
    fill id (.sequence tag (← addAll items))
    return id
  | .mapping anchor tag entries => do
    let id ← create anchor
    fill id (.mapping tag (← addEntries entries))
    return id

def addAll : List Node → Growing (List Nat)
  | [] => return []
  | node :: nodes => do
    let id ← add node
    return id :: (← addAll nodes)

def addEntries : List (Node × Node) → Growing (List (Nat × Nat))
  | [] => return []
  | (key, value) :: rest => do
    let k ← add key
    let v ← add value
    return (k, v) :: (← addEntries rest)

end

/-- The graph of a tree, and the node of the whole. -/
def ofNode (node : Node) : Nat × Graph :=
  let (id, s) := (add node).run ⟨⟨#[]⟩, []⟩
  (id, s.graph)

def mergeCount (g : Graph) : Nat :=
  g.cells.toList.foldl (fun count c =>
    match c with
    | .mapping _ entries => count + (entries.filter fun (k, _) => (g.cell k).tag = .merge).length
    | _ => count) 0

/-- The entries that the mappings among `ids` contribute where they are merged, the last first. Each
is flattened before. -/
def mergedFrom (flatten : Nat → Graph → Except Failure Graph) (merged : List (Nat × Nat)) :
    List Nat → Graph → Except Failure (List (Nat × Nat) × Graph)
  | [], g => .ok (merged, g)
  | id :: ids, g =>
    match g.cell id with
    | .mapping .. => do
      let g ← flatten id g
      mergedFrom flatten ((g.entries? id).getD [] ++ merged) ids g
    | _ => malformed

/-- The nodes that are merged by a merge key with this node beside it. -/
def mergeSources (g : Graph) (id : Nat) : Except Failure (List Nat) :=
  match g.cell id with
  | .mapping .. => .ok [id]
  | .sequence _ items => .ok items
  | .scalar .. => malformed

/-- Goes over the entries of a mapping from a place on: merge keys are taken out, and what they bring
in is put before the entries at the end. A key that is the mark for a default value is a text here.
`n` is the number of entries that can have something to do. -/
def flattenFrom (flatten : Nat → Graph → Except Failure Graph) (id : Nat) :
    Nat → Nat → List (Nat × Nat) → Graph → Except Failure Graph
  | n, place, merged, g =>
    let entries := (g.entries? id).getD []
    match n, entries[place]? with
    | n + 1, some (key, content) =>
      if (g.cell key).tag = .merge then do
        let g := g.setEntries id (entries.eraseIdx place)
        let (more, g) ← mergedFrom flatten [] (← g.mergeSources content) g
        flattenFrom flatten id n place (merged ++ more) g
      else
        let g := match g.cell key with
          | .scalar .default text => g.set key (.scalar .text text)
          | _ => g
        flattenFrom flatten id n (place + 1) merged g
    | _, _ => return if merged.isEmpty then g else g.setEntries id (merged ++ entries)

/-- The graph with a mapping flattened. The bound on the recursion is the number of merge keys that
are left. -/
def flattenWithin : Nat → Nat → Graph → Except Failure Graph
  | 0, _, g => .ok g
  | n + 1, id, g =>
    flattenFrom (flattenWithin n) id (((g.entries? id).getD []).length + 1) 0 [] g

def flatten (id : Nat) (g : Graph) : Except Failure Graph :=
  flattenWithin (g.mergeCount + 1) id g

/-- The text of a node that is read as a scalar: a mapping gives that of its default value. -/
def scalarText (g : Graph) : Nat → Nat → Except Failure String
  | 0, _ => .error .endless
  | n + 1, id =>
    match g.cell id with
    | .scalar _ text => .ok text
    | .sequence .. => malformed
    | .mapping _ entries =>
      match entries.find? fun (k, _) => (g.cell k).tag = .default with
      | some (_, v) => scalarText g n v
      | none => malformed

def scalarValue (tag : Tag) (text : String) : Except Failure Value :=
  match tag with
  | .null => .ok .null
  | .bool => readBool text
  | .int => do return .int (← readInt text)
  | .float => do return .float (← readFloat text)
  | .timestamp => readTimestamp text
  | .binary => readBinary text
  | .text => .ok (.text text)
  | _ => malformed

/-- The value of a node that is read as a scalar. A time stamp has to be spelled in its place. -/
def atom (g : Graph) (id : Nat) : Except Failure Value := do
  let text ← g.scalarText (g.cells.size + 1) id
  match g.cell id with
  | .mapping .timestamp _ => .error .notASpelling
  | c => scalarValue c.tag text

def isCollection : Tag → Bool
  | .sequence => true
  | .mapping => true
  | .set => true
  | .orderedMapping => true
  | .pairs => true
  | _ => false

/-- A graph whose nodes are being checked: those that have been met, and of these the collections
whose content has not been looked at, the first met first. -/
structure Checking where
  graph : Graph
  met : Array Bool
  waiting : List Nat

namespace Checking

/-- Meets a node. A scalar has to have a value; a collection waits. -/
def visit (id : Nat) (s : Checking) : Except Failure Checking := do
  if s.met.getD id true then return s
  else
    let s := { s with met := s.met.setIfInBounds id true }
    if isCollection (s.graph.cell id).tag then return { s with waiting := s.waiting ++ [id] }
    else
      let _ ← s.graph.atom id
      return s

/-- Meets the items of a sequence of mappings of one entry. -/
def visitPair (s : Checking) (id : Nat) : Except Failure Checking :=
  match s.graph.entries? id with
  | some [(k, v)] => do (← s.visit k).visit v
  | _ => malformed

/-- Meets the key and value of an entry. A collection is no key. -/
def visitEntry (s : Checking) (entry : Nat × Nat) : Except Failure Checking := do
  let s ← s.visit entry.1
  if isCollection (s.graph.cell entry.1).tag then malformed else s.visit entry.2

/-- Looks at the content of a collection. -/
def look (s : Checking) (id : Nat) : Except Failure Checking := do
  match s.graph.cell id with
  | .sequence tag items =>
    match tag with
    | .sequence => items.foldlM (fun s item => s.visit item) s
    | .orderedMapping => items.foldlM visitPair s
    | .pairs => items.foldlM visitPair s
    | _ => malformed
  | .mapping tag _ =>
    if tag = .mapping ∨ tag = .set then
      let g ← s.graph.flatten id
      ((g.entries? id).getD []).foldlM visitEntry { s with graph := g }
    else malformed
  | .scalar .. => malformed

/-- Looks at the collections that wait. Each waits once, so the number of nodes bounds the steps. -/
def run : Nat → Checking → Except Failure Graph
  | 0, s => .ok s.graph
  | n + 1, s =>
    match s.waiting with
    | [] => .ok s.graph
    | id :: rest => do run n (← look { s with waiting := rest } id)

end Checking

/-- The graph with all mappings flattened that can be reached from a node, if every node there has a
value. -/
def check (g : Graph) (id : Nat) : Except Failure Graph := do
  let size := g.cells.size
  Checking.run (size + 1) (← Checking.visit id ⟨g, Array.replicate size false, []⟩)

/-- A value, and the nodes around it that come again in it. -/
abbrev Seen := Except Failure (Value × List Nat)

/-- A collection, with its mark if it comes again in itself or contains something that does. -/
def finish (id : Nat) (content : Value) (again : List Nat) : Value × List Nat :=
  if again.isEmpty then (content, []) else (.marked id content, again.filter (· != id))

/-- The value of a node. `around` are the collections around it; the bound on the recursion is the
number of nodes that can be around one. -/
def valueWithin (g : Graph) : Nat → List Nat → Nat → Seen
  | 0, _, _ => malformed
  | n + 1, around, id =>
    let c := g.cell id
    if around.contains id then .ok (.again id (c matches .mapping ..), [id])
    else if ! isCollection c.tag then do return (← g.atom id, [])
    else
      let inside := id :: around
      let entryOf (entry : Nat × Nat) : Except Failure ((Value × Value) × List Nat) := do
        let (k, again) ← valueWithin g n inside entry.1
        let (v, more) ← valueWithin g n inside entry.2
        return ((k, v), again ++ more)
      match c with
      | .sequence tag items =>
        if tag = .sequence then do
          let items ← items.mapM (valueWithin g n inside)
          return finish id (.list (items.map Prod.fst)) (items.flatMap Prod.snd)
        else do
          let items ← items.mapM fun item =>
            match g.entries? item with
            | some [entry] => entryOf entry
            | _ => malformed
          return finish id (.list (items.map fun ((k, v), _) => .pair k v)) (items.flatMap Prod.snd)
      | .mapping tag entries => do
        let entries ← entries.mapM entryOf
        let content := entries.foldl (fun done ((k, v), _) => Value.put k v done) []
        if tag = .set then return (.set (content.map Prod.fst), [])
        else return finish id (.mapping content) (entries.flatMap Prod.snd)
      | .scalar .. => malformed

/-- The value of a node without aliases around it. -/
def value (g : Graph) (id : Nat) : Except Failure Value := do
  return (← g.valueWithin (g.cells.size + 1) [] id).1

end Graph

/-- The value of a text; one without a document is null. -/
def load (s : String) : Except Failure Value := do
  match ← Node.ofText s with
  | none => return .null
  | some node =>
    let (id, g) := Graph.ofNode node
    (← g.check id).value id

end RouteDocs.Yaml
