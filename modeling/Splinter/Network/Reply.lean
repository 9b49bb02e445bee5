import Splinter.Library.Channel
import Splinter.Library.Effect
import Splinter.Library.Maps
import Splinter.Service.Types

/-!
# Replies

`InboundRouter` hands a message on to the caller that waits for a reply with its
correlation id, and to a default channel if there is none.
-/

namespace Splinter.Network

open Library
open Service (ErrorText)

abbrev Caller := Nat

/-- The caller that expects a reply, and whether its future still exists. -/
structure ExpectedReply where
  caller : Caller
  waits : Bool
  deriving DecidableEq

structure RouteError where
  source : ErrorText
  deriving DecidableEq

def RouteError.display (error : RouteError) : ErrorText :=
  "unable to route message: " ++ error.source

/-- The replies that have been sent to callers are kept in the order in which
they were sent. -/
structure InboundRouter (MessageType : Type) where
  expectedReplies : Finmap fun _ : String => ExpectedReply
  defaultSender : Channel (MessageType × Bytes)
  replies : List (Caller × (MessageType × Bytes))

namespace InboundRouter

variable {MessageType : Type}

def new : InboundRouter MessageType where
  expectedReplies := ∅
  defaultSender := .new
  replies := []

def route (correlationId : String) (message : MessageType × Bytes) :
    EStateM RouteError (InboundRouter MessageType) Unit := do
  let router ← get
  match router.expectedReplies.lookup correlationId with
  | some expected =>
    set { router with expectedReplies := router.expectedReplies.erase correlationId }
    if expected.waits then
      modify fun router =>
        { router with replies := router.replies ++ [(expected.caller, message)] }
    else
      throw ⟨"Send Error: sending on a closed channel"⟩
  | none =>
    if router.defaultSender.closed then
      throw ⟨"Send Error: sending on a disconnected channel"⟩
    else
      set { router with defaultSender := router.defaultSender.send message }

def expectReply (correlationId : String) (caller : Caller)
    (router : InboundRouter MessageType) : InboundRouter MessageType :=
  { router with expectedReplies := router.expectedReplies.insert correlationId ⟨caller, true⟩ }

/-- The caller that expects a reply drops its future. -/
def abandon (correlationId : String) (router : InboundRouter MessageType) :
    InboundRouter MessageType :=
  match router.expectedReplies.lookup correlationId with
  | some expected =>
    { router with
      expectedReplies := router.expectedReplies.insert correlationId
        { expected with waits := false } }
  | none => router

variable (router : InboundRouter MessageType)

theorem abandon_eq (correlationId : String) :
    (router.abandon correlationId).replies = router.replies ∧
      (router.abandon correlationId).defaultSender = router.defaultSender := by
  unfold abandon
  split <;> exact ⟨rfl, rfl⟩

inductive Destination where
  | caller (caller : Caller)
  | nobody
  | defaultSender
  deriving DecidableEq

def destination (router : InboundRouter MessageType) (correlationId : String) : Destination :=
  match router.expectedReplies.lookup correlationId with
  | some expected => if expected.waits then .caller expected.caller else .nobody
  | none => .defaultSender

def AllWait (router : InboundRouter MessageType) : Prop := ∀ correlationId expected,
    router.expectedReplies.lookup correlationId = some expected → expected.waits = true

inductive Routed (router : InboundRouter MessageType) (correlationId : String)
    (message : MessageType × Bytes) :
    EStateM.Result RouteError (InboundRouter MessageType) Unit → Prop
  | answered {caller : Caller} : router.destination correlationId = .caller caller →
    Routed router correlationId message
      (.ok ()
        { router with
          expectedReplies := router.expectedReplies.erase correlationId
          replies := router.replies ++ [(caller, message)] })
  | unanswered {error : RouteError} : router.destination correlationId = .nobody →
    Routed router correlationId message
      (.error error { router with expectedReplies := router.expectedReplies.erase correlationId })
  | forwarded : router.destination correlationId = .defaultSender →
    router.defaultSender.closed = false →
    Routed router correlationId message
      (.ok () { router with defaultSender := router.defaultSender.send message })
  | refused {error : RouteError} : router.destination correlationId = .defaultSender →
    router.defaultSender.closed = true →
    Routed router correlationId message (.error error router)

theorem routed (correlationId : String) (message : MessageType × Bytes) :
    Routed router correlationId message ((route correlationId message).run router) := by
  rcases found : router.expectedReplies.lookup correlationId with
    _ | ⟨caller, waits⟩
  · have goes : router.destination correlationId = .defaultSender := by
      simp only [destination, found]
    cases open_ : router.defaultSender.closed with
    | false =>
      have ran : (route correlationId message).run router = .ok ()
          { router with defaultSender := router.defaultSender.send message } := by
        simp only [route, EStateM.run_bind, EStateM.run_get, found, open_]
        rfl
      rw [ran]
      exact Routed.forwarded goes open_
    | true =>
      have ran : (route correlationId message).run router =
          .error ⟨"Send Error: sending on a disconnected channel"⟩ router := by
        simp only [route, EStateM.run_bind, EStateM.run_get, found, open_]
        rfl
      rw [ran]
      exact Routed.refused goes open_
  · cases waits with
    | true =>
      have goes : router.destination correlationId = .caller caller := by
        simp only [destination, found, if_true]
      have ran : (route correlationId message).run router = .ok ()
          { router with
            expectedReplies := router.expectedReplies.erase correlationId
            replies := router.replies ++ [(caller, message)] } := by
        simp only [route, EStateM.run_bind, EStateM.run_get, found]
        rfl
      rw [ran]
      exact Routed.answered goes
    | false =>
      have goes : router.destination correlationId = .nobody := by simp [destination, found]
      have ran : (route correlationId message).run router =
          .error ⟨"Send Error: sending on a closed channel"⟩
            { router with expectedReplies := router.expectedReplies.erase correlationId } := by
        simp only [route, EStateM.run_bind, EStateM.run_get, found]
        rfl
      rw [ran]
      exact Routed.unanswered goes

end InboundRouter

end Splinter.Network
