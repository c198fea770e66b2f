/-
File systems: a tree of directories and regular files, and the current directory.

The tree is held flat, as a list that gives each location its node. Everything else looks
at it through `node?`, and the two facts about storing a node (`node?_put_self` and
`node?_put_other`) say all there is to know of a change.
-/

namespace ErrorTable

/-- A place in the tree: the names on the way from it up to the root, the innermost
first. The root is `[]`. -/
abbrev Location := List String

/-- What can stand at a location. -/
inductive Node where
  | file (content : ByteArray)
  | directory

/-- The state of a file system. There are no links, and nothing is protected. -/
structure FileSystem where
  /-- The nodes below the root. -/
  nodes : List (Location × Node) := []
  /-- The current directory, where relative paths start. -/
  cwd : Location := []

namespace FileSystem

/-- The node at a location, if there is one. The root is always a directory. -/
def node? (fs : FileSystem) : Location → Option Node
  | [] => some .directory
  | place => fs.nodes.lookup place

/-- The list with a node stored under a location: in place if the location has one, and
at the end otherwise. -/
def insertNode (place : Location) (node : Node) :
    List (Location × Node) → List (Location × Node)
  | [] => [(place, node)]
  | (other, old) :: nodes =>
    if other = place then (other, node) :: nodes else (other, old) :: insertNode place node nodes

/-- Stores a node at a location below the root. -/
def put (fs : FileSystem) (place : Location) (node : Node) : FileSystem :=
  { fs with nodes := insertNode place node fs.nodes }

/-- Removes what stands at a location below the root. -/
def erase (fs : FileSystem) (place : Location) : FileSystem :=
  { fs with nodes := fs.nodes.filter (·.1 ≠ place) }

@[simp] theorem node?_root (fs : FileSystem) : fs.node? [] = some .directory := rfl

theorem node?_eq_lookup (fs : FileSystem) {place : Location} (h : place ≠ []) :
    fs.node? place = fs.nodes.lookup place := by
  cases place with
  | nil => exact absurd rfl h
  | cons _ _ => rfl

theorem lookup_insertNode_self (place : Location) (node : Node) (nodes : List (Location × Node)) :
    (insertNode place node nodes).lookup place = some node := by
  induction nodes with
  | nil => simp [insertNode]
  | cons item nodes ih =>
    obtain ⟨other, old⟩ := item
    by_cases h : other = place
    · simp [insertNode, h]
    · have hb : (place == other) = false := by simpa using Ne.symm h
      simp [insertNode, h, List.lookup_cons, hb, ih]

theorem lookup_insertNode_other {place other : Location} (h : other ≠ place) (node : Node)
    (nodes : List (Location × Node)) :
    (insertNode place node nodes).lookup other = nodes.lookup other := by
  induction nodes with
  | nil =>
    have hb : (other == place) = false := by simpa using h
    simp [insertNode, List.lookup_cons, hb]
  | cons item nodes ih =>
    obtain ⟨key, old⟩ := item
    by_cases hk : key = place
    · subst hk
      have hb : (other == key) = false := by simpa using h
      simp [insertNode, List.lookup_cons, hb]
    · simp [insertNode, hk, List.lookup_cons, ih]

/-- Storing a node leaves it at its location. -/
theorem node?_put_self (fs : FileSystem) {place : Location} (h : place ≠ []) (node : Node) :
    (fs.put place node).node? place = some node := by
  rw [node?_eq_lookup _ h]
  exact lookup_insertNode_self place node fs.nodes

/-- Storing a node leaves every other location as it was. -/
theorem node?_put_other (fs : FileSystem) {place other : Location} (h : other ≠ place)
    (node : Node) : (fs.put place node).node? other = fs.node? other := by
  cases other with
  | nil => rfl
  | cons _ _ => exact lookup_insertNode_other h node fs.nodes

theorem insertNode_eq_self {place : Location} {node : Node} {nodes : List (Location × Node)}
    (h : nodes.lookup place = some node) : insertNode place node nodes = nodes := by
  induction nodes with
  | nil => simp at h
  | cons item nodes ih =>
    obtain ⟨other, old⟩ := item
    by_cases ho : other = place
    · subst ho
      simp at h
      simp [insertNode, h]
    · have hb : (place == other) = false := by simpa using Ne.symm ho
      simp only [List.lookup_cons, hb] at h
      simp [insertNode, ho, ih h]

/-- Storing the node that is there already changes nothing. -/
theorem put_eq_self {fs : FileSystem} {place : Location} {node : Node} (hne : place ≠ [])
    (h : fs.node? place = some node) : fs.put place node = fs := by
  rw [node?_eq_lookup _ hne] at h
  simp [put, insertNode_eq_self h]

@[simp] theorem cwd_put (fs : FileSystem) (place : Location) (node : Node) :
    (fs.put place node).cwd = fs.cwd := rfl

end FileSystem

end ErrorTable
