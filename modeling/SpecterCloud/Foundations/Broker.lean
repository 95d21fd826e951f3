import Mathlib.Logic.Function.Basic

/-! A publish/subscribe broker: a message goes to those who are subscribed to its topic when it
is published, and each of them reads its messages in the order of their publication.
-/

namespace SpecterCloud.Foundations

variable {Subscriber Topic Message : Type}

/-- The topic of each subscriber, and what was delivered to it that it has not read. -/
structure Broker (Subscriber Topic Message : Type) where
  topic : Subscriber → Option Topic
  unread : Subscriber → List Message

namespace Broker

/-- A broker without subscribers. -/
def empty : Broker Subscriber Topic Message where
  topic := fun _ => none
  unread := fun _ => []

/-- A message for every subscriber of the topic. -/
def publish [DecidableEq Topic] (broker : Broker Subscriber Topic Message) (topic : Topic)
    (message : Message)
    : Broker Subscriber Topic Message :=
  { broker with
    unread := fun subscriber =>
      if broker.topic subscriber = some topic then
        broker.unread subscriber ++ [message]
      else
        broker.unread subscriber }

section Subscriptions

variable [DecidableEq Subscriber]

/-- A subscription, which the broker confirms with a message. -/
def subscribe (broker : Broker Subscriber Topic Message) (subscriber : Subscriber) (topic : Topic)
    (confirmation : Message)
    : Broker Subscriber Topic Message where
  topic := Function.update broker.topic subscriber (some topic)
  unread := Function.update broker.unread subscriber (broker.unread subscriber ++ [confirmation])

/-- The end of a subscription. -/
def unsubscribe (broker : Broker Subscriber Topic Message) (subscriber : Subscriber)
    : Broker Subscriber Topic Message :=
  { broker with topic := Function.update broker.topic subscriber none }

/-- The subscriber has read what was delivered to it but for `rest`. -/
def read (broker : Broker Subscriber Topic Message) (subscriber : Subscriber)
    (rest : List Message)
    : Broker Subscriber Topic Message :=
  { broker with unread := Function.update broker.unread subscriber rest }

end Subscriptions

-----------------------------------------------------------------------------------------
-- What the operations do to one subscriber
-----------------------------------------------------------------------------------------

variable {broker : Broker Subscriber Topic Message} {subscriber other : Subscriber}
  {topic : Topic} {message : Message} {rest : List Message}

@[simp]
theorem topic_publish [DecidableEq Topic]
    : (broker.publish topic message).topic = broker.topic :=
  rfl

/-- A publication adds its message for the subscribers of its topic, and nothing for others. -/
theorem unread_publish [DecidableEq Topic]
    : (broker.publish topic message).unread subscriber
      = broker.unread subscriber
        ++ if broker.topic subscriber = some topic then [message] else [] := by
  unfold publish
  dsimp only
  split
  · rfl
  · rw [List.append_nil]

variable [DecidableEq Subscriber]

@[simp]
theorem topic_subscribe
    : (broker.subscribe subscriber topic message).topic other
      = if other = subscriber then some topic else broker.topic other :=
  Function.update_apply ..

@[simp]
theorem topic_unsubscribe
    : (broker.unsubscribe subscriber).topic other
      = if other = subscriber then none else broker.topic other :=
  Function.update_apply ..

@[simp]
theorem topic_read : (broker.read subscriber rest).topic = broker.topic := rfl

theorem unread_subscribe
    : (broker.subscribe subscriber topic message).unread other
      = broker.unread other ++ if other = subscriber then [message] else [] := by
  by_cases same : other = subscriber
  · subst same
    simp [subscribe]
  · simp [subscribe, same]

@[simp]
theorem unread_unsubscribe : (broker.unsubscribe subscriber).unread = broker.unread := rfl

@[simp]
theorem unread_read
    : (broker.read subscriber rest).unread other
      = if other = subscriber then rest else broker.unread other :=
  Function.update_apply ..

end Broker

end SpecterCloud.Foundations
