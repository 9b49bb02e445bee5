import Splinter.Scabbard.Consensus

/-!
# Messages and commands of a scabbard service

`Scabbard::handle_message` and `Scabbard::add_batches` with the verification
of batches.
-/

namespace Splinter.ScabbardService

open Library
open Service (ErrorText ServiceError ServiceMessageContext)
open Consensus

namespace Scabbard

variable (formats : Formats) (around : Surroundings)

/-- Go on with the checks of a batch if one of them has succeeded. -/
def andAlso (check rest : Except ServiceError Bool) :
    Except ServiceError Bool := do
  if ← check then rest else return false

def verifySigned (message : Bytes) (signature : String) (publicKey : Bytes) :
    Except ServiceError Bool := do
  -- An error also where `parse_hex` panics within a character of the signature.
  let signatureBytes ← (parseHex signature).mapError .unableToHandleMessage
  (around.verify message signatureBytes publicKey).mapError .unableToHandleMessage

/-- `HashVerifier::verify`. -/
def verifyHash (message expected : Bytes) : Except ServiceError Bool :=
  match formats.sha512 message with
  | .ok digest => .ok (digest = expected)
  | .error error => .error (.unableToHandleMessage ("failed to sign message: " ++ error))

/-- The checks of one transaction, whose id in the batch header is given. -/
def verifyTransaction (batchPublicKey : Bytes) (transactionId : Bytes)
    (transaction : Transaction) : Except ServiceError Bool := do
  let header ← (formats.transactionHeader transaction.header).mapError
    .invalidMessageFormat
  let signature ← (parseHex transaction.headerSignature).mapError .unableToHandleMessage
  if signature ≠ transactionId then
    return false
  if header.batcherPublicKey ≠ batchPublicKey then
    return false
  andAlso
    (verifySigned around transaction.header transaction.headerSignature header.signerPublicKey)
    (verifyHash formats transaction.payload header.payloadHash)

def verifyTransactions (batchPublicKey : Bytes) :
    List (Bytes × Transaction) → Except ServiceError Bool
  | [] => .ok true
  | (transactionId, transaction) :: rest =>
    andAlso (verifyTransaction formats around batchPublicKey transactionId transaction)
      (verifyTransactions batchPublicKey rest)

def verifyBatch (batch : BatchPair) : Except ServiceError Bool := andAlso
    (verifySigned around batch.batch.header batch.batch.headerSignature
      batch.header.signerPublicKey)
    (if batch.header.transactionIds.length ≠
      batch.batch.transactions.length then
      .ok false
    else
      verifyTransactions formats around batch.header.signerPublicKey
        (batch.header.transactionIds.zip batch.batch.transactions))

def verifyBatches : List BatchPair → Except ServiceError Bool
  | [] => .ok true
  | batch :: rest => andAlso (verifyBatch formats around batch) (verifyBatches rest)

def queueBatch (service : Scabbard) (batch : BatchPair) : Scabbard :=
  { service with
    shared := { service.shared with
      batchQueue := service.shared.batchQueue ++ [batch]
      state := { service.shared.state with
        batchHistory := service.shared.state.batchHistory.addBatch around
          batch.batch.headerSignature } } }

/-- The link at which the status of the batches can be read: every id is
followed by a comma, then the last character is dropped. -/
def statusLink (service : Scabbard) (batches : List BatchPair) : String :=
  let link :=
    "/scabbard/" ++ service.circuitId ++ "/" ++ service.serviceId ++
      "/batch_statuses?ids=" ++
      String.join (batches.map fun batch => batch.batch.headerSignature ++ ",")
  String.ofList link.toList.dropLast

def addBatches (batches : List BatchPair) :
    EStateM ServiceError Scabbard (Option String) := do
  let service ← get
  if ← fromExcept (verifyBatches formats around batches) then
    set (batches.foldl (queueBatch around) service)
    return some (service.statusLink batches)
  else
    return none

/-- The channels to the engine, which exist once the service is started. -/
def requireConsensus : EStateM ServiceError Scabbard Unit := do
  let service ← get
  if service.consensus = none then
    throw .notStarted

/-- `ScabbardConsensusManager::handle_message`. -/
def handleConsensusMessage (context : ServiceMessageContext)
    (messageBytes : Bytes) : EStateM ServiceError Scabbard Unit := do
  match formats.consensus.consensusMessage.parse messageBytes with
  | .error error =>
    throw (.unableToHandleMessage ("scabbard consensus manager failed: " ++ error.description))
  | .ok consensusMessage =>
    modify fun service =>
      { service with consensus := service.consensus.map (·.sendMessage context consensusMessage) }

def handleProposedBatch (proposed : ProposedBatch) :
    EStateM ServiceError Scabbard Unit := do
  let proposal ← fromExcept
    ((formats.consensus.proposal.parse proposed.proposal).mapError
      fun error => .invalidMessageFormat error.description)
  let batch ← fromExcept
    ((formats.readBatch proposed.batch).mapError .unableToHandleMessage)
  addProposedBatch proposal.id batch
  requireConsensus
  sendUpdate (.proposalReceived proposal ⟨asBytes proposed.serviceId⟩)

/-- The context of the message is not used; it is only kept with the consensus
messages. -/
def handleMessage (context : ServiceMessageContext) (messageBytes : Bytes) :
    EStateM ServiceError Scabbard Unit := do
  match formats.scabbardMessage.parse messageBytes with
  | .error error => throw (.invalidMessageFormat error.description)
  | .ok message =>
    match message.messageType with
    | .consensusMessage =>
      requireConsensus
      handleConsensusMessage formats context message.consensusMessage
    | .proposedBatch => handleProposedBatch formats message.getProposedBatch
    | .unset => throw (.invalidMessageFormat "received message with unset type")

/-- What the outside can do to a scabbard service. -/
inductive Operation where
  | handleMessage (context : ServiceMessageContext) (messageBytes : Bytes)
  | addBatches (around : Surroundings) (batches : List BatchPair)

def operate (operation : Operation) (service : Scabbard) : Scabbard :=
  match operation with
  | .handleMessage context messageBytes =>
    finalState (handleMessage formats context messageBytes) service
  | .addBatches around batches => finalState (addBatches formats around batches) service

end Scabbard

end Splinter.ScabbardService
