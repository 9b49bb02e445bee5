import Mathlib.Data.List.Basic

/-!
# Channels

A channel hands on what is sent in the same order.  It remembers what its
receiver has taken, and whether the receiver has closed it.
-/

namespace Splinter.Library

variable {Item : Type}

structure Channel (Item : Type) where
  taken : List Item
  waiting : List Item
  closed : Bool
  deriving DecidableEq

namespace Channel

def new : Channel Item where
  taken := []
  waiting := []
  closed := false

/-- Everything that has been sent. -/
def sent (channel : Channel Item) : List Item := channel.taken ++ channel.waiting

def send (item : Item) (channel : Channel Item) : Channel Item :=
  { channel with waiting := channel.waiting ++ [item] }

variable (channel : Channel Item)

/-- Take the item that has waited longest. -/
def receive : Option (Item × Channel Item) :=
  match channel.waiting with
  | [] => none
  | item :: rest =>
    some
      (item,
        { channel with
          taken := channel.taken ++ [item]
          waiting := rest })

/-- Take everything that waits. -/
def drain : Channel Item :=
  { channel with
    taken := channel.taken ++ channel.waiting
    waiting := [] }

def close : Channel Item := { channel with closed := true }

@[simp]
theorem sent_close : channel.close.sent = channel.sent := rfl

@[simp]
theorem sent_send (item : Item) (channel : Channel Item) :
    (channel.send item).sent = channel.sent ++ [item] :=
  (List.append_assoc _ _ _).symm

theorem receive_eq_none_iff (channel : Channel Item) :
    channel.receive = none ↔ channel.waiting = [] := by
  unfold receive
  split <;> simp [*]

section Received

variable {channel rest : Channel Item} {item : Item}
  (received : channel.receive = some (item, rest))

include received

theorem waiting_of_receive : channel.waiting = item :: rest.waiting := by
  unfold receive at received
  split at received
  · cases received
  · rename_i waits
    cases received
    exact waits

theorem taken_of_receive : rest.taken = channel.taken ++ [item] := by
  unfold receive at received
  split at received
  · cases received
  · cases received
    rfl

theorem closed_of_receive : rest.closed = channel.closed := by
  unfold receive at received
  split at received
  · cases received
  · cases received
    rfl

theorem sent_of_receive : rest.sent = channel.sent := by
  rw [sent, sent, taken_of_receive received, waiting_of_receive received,
    List.append_assoc, List.singleton_append]

end Received

end Channel

end Splinter.Library
