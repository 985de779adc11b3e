import Mathlib.Algebra.BigOperators.Group.Multiset.Basic
import Mathlib.Algebra.Order.BigOperators.Group.Multiset
import Mathlib.Algebra.Order.Group.Nat

/-!
# Exchanges over a lossy network

The parties of an exchange share one state, and the messages between them are a multiset: any
message in flight may be delivered next, and any may be lost. A delivery is answered with further
messages; a turn is a step of a party that takes no message. When the answers to every message
weigh less than the message itself, the weight in flight bounds the deliveries of a whole run and
the messages that are ever sent in it.
-/

namespace BlueberryIrrigation.Semantics

universe u v

structure Exchange (State : Type u) (Message : Type v) where
  /-- A party takes this message, and these are its answers. -/
  Delivers : State → Message → State → List Message → Prop
  /-- A party goes on without a message, and sends these. -/
  Turns : State → State → List Message → Prop

namespace Exchange

structure Configuration (State : Type u) (Message : Type v) where
  state : State
  flight : Multiset Message

inductive Event (Message : Type v) where
  | delivered (message : Message) (answers : List Message)
  | lost (message : Message)
  | turned (messages : List Message)

/-- The messages that an event sends. -/
def Event.sent {Message : Type v} : Event Message → List Message
  | .delivered _ answers => answers
  | .lost _ => []
  | .turned messages => messages

/-- The deliveries among these events. -/
def deliveries {Message : Type v} : List (Event Message) → Nat
  | [] => 0
  | .delivered _ _ :: rest => deliveries rest + 1
  | _ :: rest => deliveries rest

variable {State : Type u} {Message : Type v} (exchange : Exchange State Message)

inductive Step : Configuration State Message → Event Message → Configuration State Message → Prop
  | deliver {before after : State} {message : Message} {answers : List Message}
      {rest : Multiset Message} (delivers : exchange.Delivers before message after answers) :
      Step ⟨before, message ::ₘ rest⟩ (.delivered message answers) ⟨after, rest + answers⟩
  | lose {state : State} {message : Message} {rest : Multiset Message} :
      Step ⟨state, message ::ₘ rest⟩ (.lost message) ⟨state, rest⟩
  | turn {before after : State} {messages : List Message} {flight : Multiset Message}
      (turns : exchange.Turns before after messages) :
      Step ⟨before, flight⟩ (.turned messages) ⟨after, flight + messages⟩

/-- The events of a run, newest first, and where it ends. -/
inductive Run (start : Configuration State Message) :
    List (Event Message) → Configuration State Message → Prop
  | nil : Run start [] start
  | step {events : List (Event Message)} {current next : Configuration State Message}
      {event : Event Message} (prior : Run start events current)
      (transition : exchange.Step current event next) : Run start (event :: events) next

/-- The weight in flight. -/
def load (weight : Message → Nat) (c : Configuration State Message) : Nat :=
  (c.flight.map weight).sum

/-- Answers weigh less than what they answer, and the parties send nothing of their own accord. -/
structure Settles (weight : Message → Nat) (inv : State → Prop) : Prop where
  positive : ∀ message, 1 ≤ weight message
  lighter : ∀ {before after message answers}, inv before →
    exchange.Delivers before message after answers →
      ((answers : Multiset Message).map weight).sum < weight message
  delivered : ∀ {before after message answers}, inv before →
    exchange.Delivers before message after answers → inv after
  silent : ∀ {before after messages}, inv before → exchange.Turns before after messages →
    messages = []
  turned : ∀ {before after messages}, inv before → exchange.Turns before after messages →
    inv after

section

variable {exchange} {weight : Message → Nat} {inv : State → Prop}
  {start current next : Configuration State Message} {event : Event Message}
  {events : List (Event Message)}

/-- Every delivery makes the load smaller. -/
theorem Settles.deliver_load (settles : exchange.Settles weight inv) (held : inv current.state)
    {message : Message} {answers : List Message}
    (step : exchange.Step current (.delivered message answers) next) :
    load weight next < load weight current := by
  cases step with
  | deliver delivers =>
      have lighter := settles.lighter held delivers
      simp only [load, Multiset.map_add, Multiset.sum_add, Multiset.map_cons, Multiset.sum_cons]
      omega

theorem Settles.step_inv (settles : exchange.Settles weight inv) (held : inv current.state)
    (step : exchange.Step current event next) : inv next.state := by
  cases step with
  | deliver delivers => exact settles.delivered held delivers
  | lose => exact held
  | turn turns => exact settles.turned held turns

theorem Settles.run_inv (settles : exchange.Settles weight inv) (held : inv start.state)
    (run : exchange.Run start events current) : inv current.state := by
  induction run with
  | nil => exact held
  | step _ transition ih => exact settles.step_inv ih transition

/-- The load pays for every delivery of a run. -/
theorem Settles.deliveries_le (settles : exchange.Settles weight inv) (held : inv start.state)
    (run : exchange.Run start events current) :
    deliveries events + load weight current ≤ load weight start := by
  induction run with
  | nil => simp [deliveries]
  | step prior transition ih =>
      have here := settles.run_inv held prior
      cases transition with
      | deliver delivers =>
          have smaller := settles.deliver_load here (.deliver delivers)
          rw [deliveries]
          omega
      | lose =>
          simp only [load, Multiset.map_cons, Multiset.sum_cons] at ih ⊢
          rw [deliveries]
          · omega
          · simp
      | turn turns =>
          obtain rfl := settles.silent here turns
          simpa [deliveries, load] using ih

/-- It pays for every message that is sent as well. -/
theorem Settles.sent_le (settles : exchange.Settles weight inv) (held : inv start.state)
    (run : exchange.Run start events current) :
    (events.flatMap Event.sent).length + load weight current + start.flight.card ≤
      load weight start + current.flight.card := by
  induction run with
  | nil => simp
  | step prior transition ih =>
      have here := settles.run_inv held prior
      cases transition with
      | @deliver _ _ message answers rest delivers =>
          have lighter := settles.lighter here delivers
          simp only [load, Multiset.map_add, Multiset.sum_add, Multiset.map_cons,
            Multiset.sum_cons, Multiset.card_cons,
            Multiset.card_add, Multiset.coe_card, List.flatMap_cons, List.length_append,
            Event.sent] at ih ⊢
          omega
      | @lose _ message rest =>
          have positive := settles.positive message
          simp only [load, Multiset.map_cons, Multiset.sum_cons, Multiset.card_cons,
            List.flatMap_cons, List.length_append, Event.sent, List.length_nil] at ih ⊢
          omega
      | turn turns =>
          obtain rfl := settles.silent here turns
          simpa [Event.sent, load] using ih

/-- What is sent in a run comes on top of what was in flight at its start, within the same load. -/
theorem Settles.sent_total_le (settles : exchange.Settles weight inv) (held : inv start.state)
    (run : exchange.Run start events current) :
    (events.flatMap Event.sent).length + start.flight.card ≤ load weight start := by
  have sent := settles.sent_le held run
  have loaded : current.flight.card ≤ load weight current := by
    have ones : current.flight.card = (current.flight.map fun _ => 1).sum := by simp
    rw [ones]
    exact Multiset.sum_map_le_sum_map _ _ fun message _ => settles.positive message
  omega

/-- Messages of a kind that is never sent are not asked twice: where every delivery has at most one
answer of some kind, and only if its message asks for it, there are no more such answers than
messages that asked for them when the run began. -/
theorem Settles.answers_le (settles : exchange.Settles weight inv) (held : inv start.state)
    {asks isAnswer : Message → Prop} [DecidablePred asks] [DecidablePred isAnswer]
    (answered : ∀ {before after message answers}, inv before →
      exchange.Delivers before message after answers →
        answers.countP isAnswer ≤ (if asks message then 1 else 0) ∧ answers.countP asks = 0)
    (run : exchange.Run start events current) :
    (events.flatMap Event.sent).countP isAnswer + current.flight.countP asks ≤
      start.flight.countP asks := by
  induction run with
  | nil => simp
  | step prior transition ih =>
      have here := settles.run_inv held prior
      cases transition with
      | @deliver _ _ message answers rest delivers =>
          obtain ⟨few, unasked⟩ := answered here delivers
          simp only [Multiset.countP_cons, Multiset.countP_add, Multiset.coe_countP,
            List.flatMap_cons, List.countP_append, Event.sent] at ih ⊢
          omega
      | lose =>
          simp only [Multiset.countP_cons, List.flatMap_cons, List.countP_append, Event.sent,
            List.countP_nil] at ih ⊢
          omega
      | turn turns =>
          obtain rfl := settles.silent here turns
          simpa [Event.sent] using ih

end

end Exchange
end BlueberryIrrigation.Semantics
