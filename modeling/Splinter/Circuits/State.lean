import Mathlib.Data.Finmap
import Splinter.Library.Effect
import Splinter.Service.Types

/-!
# The state of a splinter node

The circuits and nodes a splinter node knows and the directory of services.
Nothing depends on the iteration order of the maps.  The circuit directory is
written to storage after every change, which may fail.
-/

namespace Splinter.Circuits

open Library
open Splinter.Service (ErrorText)

abbrev TextMap (Item : Type) := Finmap fun _ : String => Item

/-- Collect pairs into a map; of several values for a key the last stays. -/
def collect (pairs : List (String × String)) : TextMap String :=
  pairs.foldl (fun map pair => map.insert pair.1 pair.2) ∅

inductive AuthorizationType where
  | trust
  deriving DecidableEq

inductive PersistenceType where
  | any
  deriving DecidableEq

inductive DurabilityType where
  | noDurability
  deriving DecidableEq

inductive RouteType where
  | any
  deriving DecidableEq

structure ServiceDefinition where
  serviceId : String
  serviceType : String
  allowedNodes : List String
  arguments : TextMap String
  deriving DecidableEq

inductive Roster where
  | standard (services : List ServiceDefinition)
  | admin
  deriving DecidableEq

structure Circuit where
  id : String
  auth : AuthorizationType
  members : List String
  roster : Roster
  persistence : PersistenceType
  durability : DurabilityType
  routes : RouteType
  circuitManagementType : String
  deriving DecidableEq

def Circuit.newAdmin : Circuit where
  id := "admin"
  auth := .trust
  members := []
  roster := .admin
  persistence := .any
  durability := .noDurability
  routes := .any
  circuitManagementType := ""

structure CircuitBuilder where
  id : Option String
  auth : Option AuthorizationType
  members : List String
  roster : List ServiceDefinition
  persistence : Option PersistenceType
  durability : Option DurabilityType
  routes : Option RouteType
  circuitManagementType : Option String

structure CircuitBuildError where
  reason : String
  deriving DecidableEq

def CircuitBuildError.display (error : CircuitBuildError) : ErrorText :=
  "unable to build circuit: " ++ error.reason

def CircuitBuilder.required {Setting : Type} (setting : Option Setting)
    (missing : String) : Except CircuitBuildError Setting :=
  match setting with
  | some value => .ok value
  | none => .error ⟨missing⟩

def CircuitBuilder.build (builder : CircuitBuilder) : Except CircuitBuildError Circuit := do
  if builder.members = [] then
    throw ⟨"Circuit requires at least one member"⟩
  let id ← required builder.id "Circuit requires an id"
  let auth ← required builder.auth "Circuit requires an auth configuration"
  let persistence ←
    required builder.persistence "Circuit requires a persistence setting"
  let routes ← required builder.routes "Circuit requires a routes setting"
  let durability ←
    required builder.durability "Circuit requires a durability setting"
  return {
    id := id
    auth := auth
    members := builder.members
    roster := .standard builder.roster
    persistence := persistence
    durability := durability
    routes := routes
    circuitManagementType := builder.circuitManagementType.getD "default" }

structure SplinterNode where
  id : String
  endpoints : List String
  deriving DecidableEq

structure ServiceId where
  circuitName : String
  serviceId : String
  deriving DecidableEq

structure Service where
  serviceId : String
  peerId : Option String
  node : SplinterNode
  deriving DecidableEq

structure CircuitDirectory where
  nodes : TextMap SplinterNode
  circuits : TextMap Circuit
  adminCircuit : Circuit
  deriving DecidableEq

namespace CircuitDirectory

def new : CircuitDirectory where
  nodes := ∅
  circuits := ∅
  adminCircuit := .newAdmin

variable (directory : CircuitDirectory)

def addNode (id : String) (node : SplinterNode) : CircuitDirectory :=
  { directory with nodes := directory.nodes.insert id node }

def addCircuit (name : String) (circuit : Circuit) : CircuitDirectory :=
  { directory with circuits := directory.circuits.insert name circuit }

def node (nodeId : String) : Option SplinterNode :=
  directory.nodes.lookup nodeId

def hasCircuit (circuitName : String) : Bool :=
  circuitName ∈ directory.circuits

end CircuitDirectory

/-- The source writes the circuit directory to storage after each change.  The
write cannot return an error once the node has started: the storage has been
found then, and what fails later is a panic. -/
structure SplinterState where
  circuitDirectory : CircuitDirectory
  serviceDirectory : Finmap fun _ : ServiceId => Service
  deriving DecidableEq

namespace SplinterState

def new (circuitDirectory : CircuitDirectory) : SplinterState where
  circuitDirectory := circuitDirectory
  serviceDirectory := ∅

variable (state : SplinterState)

def circuits : TextMap Circuit := state.circuitDirectory.circuits

def hasCircuit (circuitName : String) : Bool :=
  state.circuitDirectory.hasCircuit circuitName

def node (nodeId : String) : Option SplinterNode :=
  state.circuitDirectory.node nodeId

def addService (serviceId : ServiceId) (service : Service) : SplinterState :=
  { state with serviceDirectory := state.serviceDirectory.insert serviceId service }

def addNode (id : String) (node : SplinterNode) : SplinterState :=
  { state with circuitDirectory := state.circuitDirectory.addNode id node }

def addCircuit (name : String) (circuit : Circuit) : SplinterState :=
  { state with circuitDirectory := state.circuitDirectory.addCircuit name circuit }

end SplinterState

end Splinter.Circuits
