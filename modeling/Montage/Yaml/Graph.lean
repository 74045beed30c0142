import Montage.Yaml.Tag

/-!
# Graphs of nodes

The nodes of a YAML document: scalars, sequences and mappings, each with the kind of data that it
stands for. A node has a number, and collections give their parts by number. So an alias is the same
node as its anchor, and a collection may be a part of itself.
-/

namespace Montage.Yaml

/-- What a node consists of; other nodes are given by number. -/
inductive Shape
  | scalar (text : String)
  | sequence (items : List Nat)
  | mapping (entries : List (Nat × Nat))
  deriving Repr

/-- A node of a document. -/
structure Node where
  tag : Tag
  shape : Shape
  deriving Repr

/-- The node of a missing key, value or item. -/
def Node.empty : Node := ⟨.null, .scalar ""⟩

/-- The entries of a mapping; other nodes have none. -/
def Node.entries (n : Node) : List (Nat × Nat) :=
  match n.shape with
  | .mapping entries => entries
  | _ => []

/-- The nodes of a document by number. -/
structure Graph where
  /-- Gives the nodes in the order of their numbers. -/
  ofArray ::
  nodes : Array Node

namespace Graph

def empty : Graph := ⟨#[]⟩

/-- The number of nodes, which is the number of the next one to be added. -/
def size (g : Graph) : Nat := g.nodes.size

def node (g : Graph) (id : Nat) : Node := g.nodes.getD id .empty

def add (g : Graph) (n : Node) : Graph := ⟨g.nodes.push n⟩

def set (g : Graph) (id : Nat) (n : Node) : Graph := ⟨g.nodes.setIfInBounds id n⟩

end Graph

end Montage.Yaml
