import Mathlib.Data.Finmap
import Mathlib.Data.String.Basic
import Splinter.Library.Paging

/-!
# The node registry

The operations of `YamlNodeRegistry` on the nodes that it has cached.  Each of
them works on a copy of the nodes; the ones that change the registry give the
nodes that are to be written back.
-/

namespace Splinter.NodeRegistry

open Library

abbrev Metadata := Finmap fun _ : String => String

structure Node where
  identity : String
  metadata : Metadata
  deriving DecidableEq

inductive NodeRegistryError where
  | notFoundError (message : String)
  | duplicateNodeError (message : String)
  | invalidFilterError (message : String)
  deriving DecidableEq

def addNode (node : Node) (nodes : List Node) : Except NodeRegistryError (List Node) :=
  if nodes.any fun existing => existing.identity = node.identity then
    .error (.duplicateNodeError ("Node with ID " ++ node.identity ++ " already exists"))
  else
    .ok (nodes ++ [node])

def indexOf (identity : String) (nodes : List Node) : Option Nat :=
  nodes.findIdx? fun node => node.identity = identity

/-- `HashMap::extend`. -/
def extend (metadata : Metadata) (updates : List (String × String)) : Metadata :=
  updates.foldl (fun map update => map.insert update.1 update.2) metadata

def couldNotFind (identity : String) : NodeRegistryError :=
  .notFoundError ("Could not find node with identity: " ++ identity)

def updateNode (identity : String) (updates : List (String × String))
    (nodes : List Node) : Except NodeRegistryError (List Node) :=
  match indexOf identity nodes with
  | some index =>
    .ok
      (nodes.modify index fun node =>
        { node with metadata := extend node.metadata updates })
  | none => .error (couldNotFind identity)

def deleteNode (identity : String) (nodes : List Node) : Except NodeRegistryError (List Node) :=
  match indexOf identity nodes with
  | some index => .ok (nodes.eraseIdx index)
  | none => .error (couldNotFind identity)

inductive Operator where
  | equal
  | greater
  | less
  | lessOrEqual
  | greaterOrEqual
  | notEqual
  deriving DecidableEq

def Operator.parse : String → Option Operator
  | "=" => some .equal
  | ">" => some .greater
  | "<" => some .less
  | "<=" => some .lessOrEqual
  | ">=" => some .greaterOrEqual
  | "!=" => some .notEqual
  | _ => none

def Operator.holds : Operator → String → String → Bool
  | .equal, current, value => current = value
  | .greater, current, value => current > value
  | .less, current, value => current < value
  | .lessOrEqual, current, value => current ≤ value
  | .greaterOrEqual, current, value => current ≥ value
  | .notEqual, current, value => current ≠ value

structure FilterEntry where
  key : String
  operator : String
  value : String
  deriving DecidableEq

structure Filters where
  entries : List FilterEntry
  distinct : (entries.map FilterEntry.key).Nodup

/-- A node without the property does not pass. -/
def Operator.selects (operator : Operator) (key value : String) (node : Node) : Bool :=
  match node.metadata.lookup key with
  | some currentValue => operator.holds currentValue value
  | none => false

/-- What one filter leaves: the page is cut for every filter. -/
def applyFilter (offsetValue limitValue : Nat) (nodes : List Node)
    (entry : FilterEntry) : Except NodeRegistryError (List Node) :=
  match Operator.parse entry.operator with
  | some operator =>
    .ok (((nodes.filter (operator.selects entry.key entry.value)).drop offsetValue).take limitValue)
  | none => .error (.invalidFilterError ("Unknown operator " ++ entry.operator))

def listNodes (nodes : List Node) (filters : Option Filters)
    (limit offset : Option Nat) : Except NodeRegistryError (List Node) :=
  let offsetValue := offset.getD 0
  let limitValue := limit.getD nodes.length
  match filters with
  | some filters => filters.entries.foldlM (applyFilter offsetValue limitValue) nodes
  | none => .ok ((nodes.drop offsetValue).take limitValue)

end Splinter.NodeRegistry
