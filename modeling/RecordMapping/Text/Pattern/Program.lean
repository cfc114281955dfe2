import RecordMapping.Text.Pattern.Expression

/-!
# RecordMapping.Text.Pattern.Program — expressions as nodes that follow each other

A program is a table of nodes.  An expression is laid out backwards: given the node that comes after
it, `Program.layOut` adds its nodes to the table and gives the one with which it begins.  The
alternatives of a node are in order of preference.
-/

namespace RecordMapping.Text.Pattern

/-- `found` ends a search; `oneOf` takes a character of a set, `anyByte` takes a byte whatever it
is; `anchor` takes nothing but wants its place. -/
inductive Node
  | found
  | oneOf (set : CharSet) (next : Nat)
  | anyByte (next : Nat)
  | anchor (a : Anchor) (next : Nat)
  | split (nexts : List Nat)

namespace Node

def isFound : Node → Bool
  | found => true
  | _ => false

def isSplit : Node → Bool
  | split _ => true
  | _ => false

/-- In how many ways a node goes on. -/
def branches : Node → Nat
  | found => 0
  | oneOf _ _ | anyByte _ | anchor _ _ => 1
  | split nexts => nexts.length

end Node

abbrev Nodes := Array Node

namespace Nodes

def add (nodes : Nodes) (n : Node) : Nat × Nodes := (nodes.size, nodes.push n)

/-- Taking a part again or leaving it. -/
def choose (greedy : Bool) (again leave : Nat) : Node :=
  .split (if greedy then [again, leave] else [leave, again])

def layOutLetters (nodes : Nodes) (next : Nat) : List Char → Nat × Nodes
  | [] => (next, nodes)
  | c :: cs =>
    let (start, nodes) := layOutLetters nodes next cs
    nodes.add (.oneOf (CharSet.single c) start)

end Nodes

namespace Expression

/-- Adds the nodes of an expression that `next` comes after.  A part that may be left out
altogether and may be repeated is an optional one that occurs at least once, so that of two ways
through it that take nothing the preferred one counts. -/
def layOut (nodes : Nodes) (next : Nat) : Expression → Nat × Nodes
  | empty => (next, nodes)
  | letters cs => nodes.layOutLetters next cs
  | oneOf s => nodes.add (.oneOf s next)
  | anchor a => nodes.add (.anchor a next)
  | group _ body => layOut nodes next body
  | repeated .atMostOnce greedy body =>
    let (start, nodes) := layOut nodes next body
    nodes.add (Nodes.choose greedy start next)
  | repeated .atLeastOnce greedy body =>
    let (loop, nodes) := nodes.add (.split [])
    let (start, nodes) := layOut nodes loop body
    (start, nodes.setIfInBounds loop (Nodes.choose greedy start next))
  | repeated .anyNumber greedy body =>
    let (loop, nodes) := nodes.add (.split [])
    let (start, nodes) := layOut nodes loop body
    let nodes := nodes.setIfInBounds loop (Nodes.choose greedy start next)
    Nodes.add nodes (Nodes.choose greedy start next)
  | sequence es => layOutInTurn nodes next es
  | choice es =>
    let (starts, nodes) := layOutEach nodes next es
    nodes.add (.split starts)
where
  /-- One expression after the other. -/
  layOutInTurn (nodes : Nodes) (next : Nat) : List Expression → Nat × Nodes
    | [] => (next, nodes)
    | e :: es =>
      let (start, nodes) := layOutInTurn nodes next es
      layOut nodes start e
  /-- Each expression with `next` after it. -/
  layOutEach (nodes : Nodes) (next : Nat) : List Expression → List Nat × Nodes
    | [] => ([], nodes)
    | e :: es =>
      let (start, nodes) := layOut nodes next e
      let (starts, nodes) := layOutEach nodes next es
      (start :: starts, nodes)

end Expression

structure Program where
  nodes : Nodes
  start : Nat

namespace Program

/-- The search for an expression: first it is tried at the place itself, and last a byte is passed
over. -/
def search (e : Expression) : Program :=
  let nodes : Nodes := #[.found, .split [], .anyByte 1]
  let (start, nodes) := e.layOut nodes 0
  ⟨nodes.setIfInBounds 1 (.split [start, 2]), 1⟩

def node (p : Program) (i : Nat) : Node := (p.nodes[i]?).getD (.split [])

/-- The number of ways from node to node. -/
def ways (p : Program) : Nat := p.nodes.foldl (fun n node => n + node.branches) 0

end Program

end RecordMapping.Text.Pattern
