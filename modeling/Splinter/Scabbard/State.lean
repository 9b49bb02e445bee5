import Splinter.Circuits.State
import Splinter.Hex

/-!
# The state of a scabbard service

Executing a batch on a state root and computing the root that state changes lead
to are functions of the transaction library, collected in `Machine`.
-/

namespace Splinter.ScabbardService

open Library
open Service (ErrorText ServiceSendError)
open Circuits (TextMap)

structure Transaction where
  header : Bytes
  headerSignature : String
  payload : Bytes
  deriving DecidableEq

structure Batch where
  header : Bytes
  headerSignature : String
  transactions : List Transaction
  deriving DecidableEq

structure BatchHeader where
  signerPublicKey : Bytes
  transactionIds : List Bytes
  deriving DecidableEq

structure BatchPair where
  batch : Batch
  header : BatchHeader
  deriving DecidableEq

structure TransactionHeader where
  batcherPublicKey : Bytes
  signerPublicKey : Bytes
  payloadHash : Bytes
  deriving DecidableEq

inductive StateChange where
  | set (key : String) (value : Bytes)
  | delete (key : String)
  deriving DecidableEq

structure TransactionReceipt where
  transactionId : String
  stateChanges : List StateChange
  deriving DecidableEq

structure InvalidTransactionResult where
  transactionId : String
  errorMessage : String
  errorData : Bytes
  deriving DecidableEq

inductive TransactionExecutionResult where
  | valid (receipt : TransactionReceipt)
  | invalid (result : InvalidTransactionResult)
  deriving DecidableEq

structure ValidTransaction where
  transactionId : String
  deriving DecidableEq

inductive BatchStatus where
  | unknown
  | pending
  | invalid (transactions : List InvalidTransactionResult)
  | valid (transactions : List ValidTransaction)
  | committed (transactions : List ValidTransaction)
  deriving DecidableEq

def BatchStatus.ofResults (results : List TransactionExecutionResult) : BatchStatus :=
  let valid := results.filterMap fun
    | .valid receipt => some (ValidTransaction.mk receipt.transactionId)
    | .invalid _ => none
  let invalid := results.filterMap fun
    | .valid _ => none
    | .invalid result => some result
  if invalid ≠ [] then .invalid invalid else .valid valid

structure BatchInfo where
  id : String
  status : BatchStatus
  timestamp : Nat
  deriving DecidableEq

/-- The transaction library, with the text its debug format gives for a failed
transaction. -/
structure Machine where
  describe : InvalidTransactionResult → String
  execute : String → BatchPair → List TransactionExecutionResult
  computeStateId : String → List StateChange → String

/-- What the components around the service answer during one call. -/
structure Surroundings where
  executor : Except ErrorText Unit
  readState : Except ErrorText Unit
  commitState : String → List StateChange → Except ErrorText String
  writeStateRoot : Bytes → Except ErrorText Unit
  appendReceipts : List TransactionReceipt → Except ErrorText Unit
  storeHistory : List StateChange → Except ErrorText Unit
  send : String → Bytes → Except ServiceSendError Unit
  verify : Bytes → Bytes → Bytes → Except ErrorText Bool
  now : Nat
  oldest : TextMap BatchInfo → Option String

structure ScabbardStateError where
  reason : String
  deriving DecidableEq

def ScabbardStateError.display (error : ScabbardStateError) : ErrorText :=
  "scabbard state error: " ++ error.reason

structure BatchHistory where
  history : TextMap BatchInfo
  limit : Nat
  deriving DecidableEq

namespace BatchHistory

def default : BatchHistory where
  history := ∅
  limit := 100

/-- A full history loses its oldest batch; which one that is among several of
the same time depends on the hash map. -/
def addBatch (around : Surroundings) (signature : String) (batches : BatchHistory) : BatchHistory :=
  let history := batches.history.insert signature
    { id := signature, status := .pending, timestamp := around.now }
  if history.entries.card > batches.limit then
    match around.oldest history with
    | some oldest => { batches with history := history.erase oldest }
    | none => { batches with history := history }
  else
    { batches with history := history }

def setStatus (signature : String) (info : BatchInfo) (status : BatchStatus)
    (batches : BatchHistory) : BatchHistory :=
  { batches with history := batches.history.insert signature { info with status := status } }

def updateBatchStatus (signature : String) (status : BatchStatus)
    (batches : BatchHistory) : BatchHistory :=
  match batches.history.lookup signature with
  | some info =>
    if info.status = .pending then batches.setStatus signature info status else batches
  | none => batches

def commit (signature : String) (batches : BatchHistory) : BatchHistory :=
  match batches.history.lookup signature with
  | some info =>
    match info.status with
    | .valid transactions => batches.setStatus signature info (.committed transactions)
    | _ => batches
  | none => batches

end BatchHistory

structure ScabbardState where
  currentStateRoot : String
  transactionReceiptStore : List TransactionReceipt
  pendingChanges : Option (String × List TransactionReceipt)
  batchHistory : BatchHistory
  commitHistory : List (List StateChange)
  deriving DecidableEq

namespace ScabbardState

/-- A state on the given root, before anything has been prepared. -/
def new (currentStateRoot : String) : ScabbardState where
  currentStateRoot := currentStateRoot
  transactionReceiptStore := []
  pendingChanges := none
  batchHistory := .default
  commitHistory := []

def receiptsIntoStateChanges (receipts : List TransactionReceipt) : List StateChange :=
  receipts.flatMap TransactionReceipt.stateChanges

/-- The receipts of a batch, or the first transaction that failed. -/
def receipts (machine : Machine) : List TransactionExecutionResult →
    Except ScabbardStateError (List TransactionReceipt)
  | [] => .ok []
  | .valid receipt :: rest => do
    let remaining ← receipts machine rest
    return receipt :: remaining
  | .invalid result :: _ => .error ⟨"transaction failed: " ++ machine.describe result⟩

variable (machine : Machine) (around : Surroundings)

def prepareChange (batch : BatchPair) :
    EStateM ScabbardStateError ScabbardState String := do
  fromExcept (around.executor.mapError ScabbardStateError.mk)
  let state ← get
  let results := machine.execute state.currentStateRoot batch
  let signature := batch.batch.headerSignature
  let recorded :=
    { state with
      batchHistory := state.batchHistory.updateBatchStatus signature (.ofResults results) }
  set recorded
  let txnReceipts ← fromExcept (receipts machine results)
  fromExcept (around.readState.mapError ScabbardStateError.mk)
  set { recorded with pendingChanges := some (signature, txnReceipts) }
  return machine.computeStateId state.currentStateRoot (receiptsIntoStateChanges txnReceipts)

def writeCurrentStateRoot : EStateM ScabbardStateError ScabbardState Unit := do
  let state ← get
  let bytes ← fromExcept
    ((parseHex state.currentStateRoot).mapError fun error =>
      ⟨"The in-memory current state root is invalid: " ++ error⟩)
  fromExcept ((around.writeStateRoot bytes).mapError ScabbardStateError.mk)

def commitChanges (signature : String) (txnReceipts : List TransactionReceipt) :
    EStateM ScabbardStateError ScabbardState Unit := do
  let stateChanges := receiptsIntoStateChanges txnReceipts
  let state ← get
  let root ← fromExcept
    ((around.commitState state.currentStateRoot stateChanges).mapError ScabbardStateError.mk)
  modify fun state => { state with currentStateRoot := root }
  writeCurrentStateRoot around
  fromExcept
    ((around.appendReceipts txnReceipts).mapError fun error =>
      ⟨"failed to add transaction receipts to store: " ++ error⟩)
  modify fun state =>
    { state with transactionReceiptStore := state.transactionReceiptStore ++ txnReceipts }
  fromExcept
    ((around.storeHistory stateChanges).mapError fun error =>
      ⟨"Unable to store commit history: " ++ error⟩)
  modify fun state =>
    { state with
      commitHistory := state.commitHistory ++ [stateChanges]
      batchHistory := state.batchHistory.commit signature }

def commit : EStateM ScabbardStateError ScabbardState Unit := do
  let state ← get
  set { state with pendingChanges := none }
  match state.pendingChanges with
  | some (signature, txnReceipts) => commitChanges around signature txnReceipts
  | none => throw ⟨"no pending changes to commit"⟩

def rollback : EStateM ScabbardStateError ScabbardState Unit :=
  modify fun state => { state with pendingChanges := none }

end ScabbardState

/-! ## Batches that set an entry -/

/-- A batch with one transaction, which sets an entry of the state. -/
def entryBatch (name : UInt8) : BatchPair where
  batch := {
    header := [name]
    headerSignature := toHex [name]
    transactions := [{ header := [name], headerSignature := toHex [name], payload := [] }] }
  header := { signerPublicKey := [], transactionIds := [[name]] }

/-- Every transaction sets the same entry to the same value, which leads to the root `0a`.
There is no root for no changes. -/
def entryMachine : Machine where
  describe := InvalidTransactionResult.errorMessage
  execute _ batch := batch.batch.transactions.map fun transaction =>
    .valid ⟨transaction.headerSignature, [.set "entry" transaction.payload]⟩
  computeStateId _ changes := if changes = [] then "" else "0a"

/-- A storage that refuses only to commit no changes. -/
def workingStorage : Surroundings where
  executor := .ok ()
  readState := .ok ()
  commitState _ changes := if changes = [] then .error "no changes" else .ok "0a"
  writeStateRoot _ := .ok ()
  appendReceipts _ := .ok ()
  storeHistory _ := .ok ()
  send _ _ := .ok ()
  verify _ _ _ := .ok true
  now := 0
  oldest _ := none

end Splinter.ScabbardService
