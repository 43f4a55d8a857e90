import EventFeed.Proofs.Settings
import EventFeed.Proofs.Feed.Steps

/-!
# Runs

A feed is reached when events lead to it, one after the other, from a feed that has not been
started. Which events there may be is part of the statement: what callers ask for, which calls they
give up, and what the subscribers do that they bring in. What every step keeps is kept by whole
runs.
-/

namespace EventFeed.Feed

variable {may : Conduct} {f f' : Feed}

/-- The operation that a caller performs with an event, if any. A reconnect or a disconnect is
performed when it first runs. -/
def operation? (f : Feed) : Event → Option Operation
  | .call (.start _) => some .start
  | .call .stop => some .stop
  | .run (.reconnect number) .first =>
    if (f.reconnects[number]?).any fun r => !r.scheduled then some .reconnect else none
  | .run (.disconnect _) .first => some .disconnect
  | _ => none

/-- Any event at all. -/
def anyEvent : Feed → Event → Prop := fun _ _ => True

/-- The feed `g` is reached from `f` by events each of which is allowed where it happens. -/
inductive Reaches (depth : Nat) (allowed : Feed → Event → Prop) (f : Feed) : Feed → Prop
  | refl : Reaches depth allowed f f
  | step {g h : Feed} {event : Event} (hg : Reaches depth allowed f g) (ha : allowed g event)
      (hs : g.step? depth event = some h) : Reaches depth allowed f h

/-- The feed is reached from one that has not been started. -/
def Reachable (depth : Nat) (allowed : Feed → Event → Prop) (f : Feed) : Prop :=
  ∃ settings refreshable f₀, ofSettings settings refreshable = .ok f₀ ∧
    Reaches depth allowed f₀ f

/-- One run goes on where another one ends. -/
lemma Reaches.trans {depth : Nat} {allowed : Feed → Event → Prop} {g h : Feed}
    (hg : Reaches depth allowed f g) (hh : Reaches depth allowed g h) :
    Reaches depth allowed f h := by
  induction hh with
  | refl => exact hg
  | step _ ha hs ih => exact ih.step ha hs

/-- A list of events that can happen one after the other, and may, is a run. -/
lemma Reaches.of_run? {depth : Nat} {allowed : Feed → Event → Prop} {events : List Event}
    (hs : f.run? depth events = some f') (ha : ∀ event ∈ events, ∀ g, allowed g event) :
    Reaches depth allowed f f' := by
  induction events generalizing f with
  | nil =>
    obtain rfl := Option.some.inj hs
    exact .refl
  | cons event rest ih =>
    obtain ⟨g, hg, hrest⟩ := Option.bind_eq_some_iff.1 hs
    have hfirst : Reaches depth allowed f g := Reaches.refl.step (ha _ List.mem_cons_self f) hg
    exact hfirst.trans (ih hrest fun e he => ha e (List.mem_cons_of_mem _ he))

/-- What is reached goes on by every event that may happen. -/
lemma Reachable.step {depth : Nat} {allowed : Feed → Event → Prop} {event : Event}
    (hr : Reachable depth allowed f) (ha : allowed f event) (hs : f.step? depth event = some f') :
    Reachable depth allowed f' := by
  obtain ⟨settings, refreshable, f₀, h₀, hreach⟩ := hr
  exact ⟨settings, refreshable, f₀, h₀, hreach.step ha hs⟩

/-- What is reached goes on by every run that may happen. -/
lemma Reachable.reaches {depth : Nat} {allowed : Feed → Event → Prop}
    (hr : Reachable depth allowed f) (h : Reaches depth allowed f f') :
    Reachable depth allowed f' := by
  obtain ⟨settings, refreshable, f₀, h₀, hreach⟩ := hr
  exact ⟨settings, refreshable, f₀, h₀, hreach.trans h⟩

/-- What every allowed step keeps, given that the bookkeeping is in order, is kept by
whole runs. -/
lemma Reaches.invariant {depth : Nat} {allowed : Feed → Event → Prop} (Inv : Feed → Prop)
    (hr : Reaches depth allowed f f') (hf : f.WellFormed may) (hi : Inv f)
    (hk : ∀ g event, allowed g event → event.Keeps may)
    (hs : ∀ g event h, g.WellFormed may → allowed g event → Inv g →
      g.step? depth event = some h → Inv h) : f'.WellFormed may ∧ Inv f' := by
  induction hr with
  | refl => exact ⟨hf, hi⟩
  | @step g h event _ ha hstep ih =>
    obtain ⟨hg, hgi⟩ := ih
    exact ⟨wellFormed_step hg (hk g event ha) hstep, hs g event h hg ha hgi hstep⟩

/-- What holds of feeds that have not been started, and is kept by every allowed step, holds of all
feeds that are reached. -/
lemma Reachable.invariant {depth : Nat} {allowed : Feed → Event → Prop} (Inv : Feed → Prop)
    (hr : Reachable depth allowed f) (hk : ∀ g event, allowed g event → event.Keeps may)
    (hi : ∀ settings refreshable f₀, ofSettings settings refreshable = .ok f₀ → Inv f₀)
    (hs : ∀ g event h, g.WellFormed may → allowed g event → Inv g →
      g.step? depth event = some h → Inv h) : f.WellFormed may ∧ Inv f := by
  obtain ⟨settings, refreshable, f₀, h₀, hreach⟩ := hr
  exact hreach.invariant Inv (.of_ofSettings h₀) (hi _ _ _ h₀) hk hs

/-- Every feed that is reached is well-formed. -/
theorem Reachable.wellFormed {depth : Nat} {allowed : Feed → Event → Prop}
    (hr : Reachable depth allowed f) (hk : ∀ g event, allowed g event → event.Keeps may) :
    f.WellFormed may :=
  (hr.invariant (fun _ => True) hk (fun _ _ _ _ => trivial)
    fun _ _ _ _ _ _ _ => trivial).1

/-- A subscriber that gives a command whenever it is told what it waits for. -/
def answering (notice : Notice) (command : Command) : Handler :=
  fun heard => if heard.head? = some notice then [command] else []

/-- The feed of the standard settings after some events, if they can happen one after the other. -/
def played? (depth : Nat) (events : List Event) : Option Feed :=
  (ofSettings .standard false).toOption.bind fun f => f.run? depth events

/-- A feed after some events that may happen is reached. -/
lemma Reachable.of_played? {depth : Nat} {allowed : Feed → Event → Prop} {events : List Event}
    (h : played? depth events = some f) (ha : ∀ event ∈ events, ∀ g, allowed g event) :
    Reachable depth allowed f := by
  obtain ⟨f₀, h₀, hs⟩ := Option.bind_eq_some_iff.1 h
  exact ⟨.standard, false, f₀, eq_ok_of_toOption h₀, .of_run? hs ha⟩

/-- Subscribers keep a conduct after some events if those that are brought in keep it. -/
lemma keeps_of_played? {depth : Nat} {events : List Event} (h : played? depth events = some f)
    (hk : ∀ event ∈ events, event.Keeps may) : f.Keeps may := by
  have hr : Reachable depth (fun _ event => event.Keeps may) f :=
    .of_played? h fun event he _ => hk event he
  exact (hr.wellFormed fun _ _ he => he).keeps

end EventFeed.Feed
