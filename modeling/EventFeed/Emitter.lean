/-!
# Emitters

An emitter hands each published value to the listeners that are registered when the value is
published, in the order of their registration. Delivery works on that snapshot, so a listener may
register and remove others, or publish again; such changes count from the next value on. A listener
that panics is reported and skipped, and the publisher never notices.

The emitter is part of a larger state `σ` that listeners may change, and what a listener does is
given by a `Reaction`.
-/

namespace EventFeed

/-- What a subscriber keeps to remove its listener later. -/
structure Handle where
  emitter : Nat
  listener : Nat
  deriving DecidableEq, Repr

/-- A registered listener. -/
structure Listener (β : Type) where
  id : Nat
  what : β

/-- The listeners for the values of one kind. -/
structure Emitter (β : Type) where
  id : Nat
  nextId : Nat := 0
  listeners : List (Listener β) := []

/-- What a filter says about a value. -/
inductive Verdict where
  | accepted
  | refused
  | panicked (message : String)
  deriving DecidableEq, Repr

/-- How a call of a handler ends. -/
inductive Completion where
  | completed
  | panicked (message : String)
  deriving DecidableEq, Repr

/-- What listeners do to the state around the emitter when a value is published. -/
structure Reaction (σ β α : Type) where
  accepts : β → α → σ → Verdict × σ
  handle : β → α → σ → Completion × σ
  /-- Report the panic of a listener. -/
  report : Nat → String → σ → σ

namespace Reaction

variable {σ β α : Type}

/-- Offer a value to one listener; whether its handler ran to completion. -/
def offer (r : Reaction σ β α) (value : α) (listener : Listener β) (s : σ) : Bool × σ :=
  match r.accepts listener.what value s with
  | (.refused, s) => (false, s)
  | (.panicked message, s) => (false, r.report listener.id message s)
  | (.accepted, s) =>
    match r.handle listener.what value s with
    | (.completed, s) => (true, s)
    | (.panicked message, s) => (false, r.report listener.id message s)

/-- Offer a value to listeners, one after the other; how many handlers ran to completion. -/
def offerAll (r : Reaction σ β α) (value : α) : List (Listener β) → σ → Nat × σ
  | [], s => (0, s)
  | listener :: rest, s =>
    let (completed, s) := r.offer value listener s
    let (count, s) := offerAll r value rest s
    ((if completed then 1 else 0) + count, s)

end Reaction

namespace Emitter

variable {σ β α : Type}

/-- The number of registered listeners. -/
def size (emitter : Emitter β) : Nat :=
  emitter.listeners.length

/-- Register a listener. -/
def subscribe (emitter : Emitter β) (what : β) : Handle × Emitter β :=
  (⟨emitter.id, emitter.nextId⟩,
    { emitter with
      nextId := emitter.nextId + 1
      listeners := emitter.listeners ++ [⟨emitter.nextId, what⟩] })

/-- Remove a listener; whether there was one to remove. -/
def unsubscribe (emitter : Emitter β) (handle : Handle) : Bool × Emitter β :=
  if handle.emitter = emitter.id then
    let kept := emitter.listeners.filter fun listener => listener.id != handle.listener
    (kept.length != emitter.listeners.length, { emitter with listeners := kept })
  else (false, emitter)

/-- Publish a value to the listeners that are registered now; how many handlers ran
to completion. -/
def publish (view : σ → Emitter β) (r : Reaction σ β α) (value : α) (s : σ) : Nat × σ :=
  r.offerAll value (view s).listeners s

end Emitter

end EventFeed
