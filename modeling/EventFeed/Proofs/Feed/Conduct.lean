import Mathlib.Tactic.Lemma
import EventFeed.Feed.Step

/-!
# The conduct of subscribers

A subscriber is an arbitrary program over the feed: told something, it may start or stop the feed,
ask for a reconnect or a disconnect, and register further subscribers that do the same. What is true
of every run often depends on what subscribers refrain from, and on the notice they answer. A
`Conduct` says which operations may answer which notice, and a handler keeps a conduct when its
commands do, those of the handlers that it registers included.

Subscribers that refrain from every operation still register and remove listeners, and they are
written about in the journal. `Feed.engine` is what remains of a feed when all of that is left out.
-/

namespace EventFeed

/-! ### Operations -/

/-- What can be asked of a feed. -/
inductive Operation where
  | start
  | stop
  | reconnect
  | disconnect
  deriving DecidableEq, Repr

/-- Which operations may answer which notice. -/
abbrev Conduct := Notice → Operation → Prop

namespace Conduct

/-- Every operation may answer every notice. -/
def free : Conduct := fun _ _ => True

/-- No operation answers a notice about the status. -/
def quietOnStatus : Conduct := fun notice _ => ∃ event, notice = .event event

/-- No operation answers a notice about an event. -/
def quietOnEvents : Conduct := fun notice _ => ∃ status, notice = .status status

/-- In answer to a notice about the status, the feed is at most stopped. -/
def stopOnStatus : Conduct := fun notice operation =>
  operation = .stop ∨ ∃ event, notice = .event event

/-- Whatever the notice, the feed is at most stopped. -/
def onlyStop : Conduct := fun _ operation => operation = .stop

/-- Subscribers that are quiet on the status answer no notice about it. -/
lemma not_quietOnStatus (status : ConnectionState) (operation : Operation) :
    ¬ quietOnStatus (.status status) operation := by
  rintro ⟨event, he⟩
  exact absurd he (by simp)

end Conduct

/-! ### Keeping a conduct -/

/-- A command, given in answer to a notice, keeps a conduct. -/
inductive Command.Keeps (may : Conduct) : Notice → Command → Prop where
  | start {notice : Notice} {retries : UInt32} (h : may notice .start) :
      Keeps may notice (.start retries)
  | stop {notice : Notice} (h : may notice .stop) : Keeps may notice .stop
  | reconnect {notice : Notice} {delay : Option Duration} {retries : UInt32}
      (h : may notice .reconnect) : Keeps may notice (.reconnect delay retries)
  | disconnect {notice : Notice} (h : may notice .disconnect) : Keeps may notice .disconnect
  | subscribe {notice : Notice} {target : Target} {name : String}
      {handler : List Notice → List Command}
      (h : ∀ told heard, ∀ c ∈ handler (told :: heard), Keeps may told c) :
      Keeps may notice (.subscribe target name handler)
  | unsubscribe {notice : Notice} {name : String} : Keeps may notice (.unsubscribe name)
  | panic {notice : Notice} {message : String} : Keeps may notice (.panic message)
  | once {notice : Notice} {key : Nat} {c : Command} (h : Keeps may notice c) :
      Keeps may notice (.once key c)

/-- A handler keeps a conduct in its answer to whatever it is told last. -/
def Handler.Keeps (may : Conduct) (handler : Handler) : Prop :=
  ∀ told heard, ∀ c ∈ handler (told :: heard), c.Keeps may told

/-- Every subscriber of the feed keeps a conduct. -/
def Feed.Keeps (may : Conduct) (f : Feed) : Prop :=
  ∀ s ∈ f.subscribers, s.handler.Keeps may

/-- A subscriber that an event brings in keeps a conduct. -/
def Event.Keeps (may : Conduct) : Event → Prop
  | .call (.subscribe _ _ handler) => handler.Keeps may
  | _ => True

/-- Every command keeps the free conduct. -/
lemma Command.keeps_free (c : Command) : ∀ notice, c.Keeps Conduct.free notice :=
  -- The recursor of commands passes through lists, since a handler answers with a list.
  @Command.rec (fun c => ∀ notice, c.Keeps Conduct.free notice)
    (fun cs => ∀ c ∈ cs, ∀ notice, c.Keeps Conduct.free notice)
    (fun _ _ => .start trivial)
    (fun _ => .stop trivial)
    (fun _ _ _ => .reconnect trivial)
    (fun _ => .disconnect trivial)
    (fun _ _ _ ih _ => .subscribe fun told heard c hc => ih (told :: heard) c hc told)
    (fun _ _ => .unsubscribe)
    (fun _ _ => .panic)
    (fun _ _ ih notice => .once (ih notice))
    (fun _ hc => absurd hc List.not_mem_nil)
    (fun _ _ ih ihs c hc => by
      rcases List.mem_cons.1 hc with rfl | hc
      · exact ih
      · exact ihs c hc)
    c

/-- Every handler keeps the free conduct. -/
lemma Handler.keeps_free (handler : Handler) : handler.Keeps Conduct.free :=
  fun told _ c _ => c.keeps_free told

/-- Every event keeps the free conduct. -/
lemma Event.keeps_free (event : Event) : event.Keeps Conduct.free := by
  unfold Event.Keeps
  split
  · exact Handler.keeps_free _
  · trivial

namespace Feed

/-- Subscribers keep a conduct however the rest of the feed changes. -/
lemma Keeps.congr {may : Conduct} {f f' : Feed} (h : f.Keeps may)
    (hs : f'.subscribers = f.subscribers) : f'.Keeps may := by
  unfold Keeps
  rw [hs]
  exact h

/-- A subscriber that is new comes after all others. -/
lemma subscribers_subscribe (f : Feed) (target : Target) (name : String) (handler : Handler) :
    (f.subscribe target name handler).subscribers =
      f.subscribers ++ [({ name, handler } : Subscriber)] := by
  cases target <;> rfl

/-- A subscription keeps a conduct that its handler keeps. -/
lemma Keeps.subscribe {may : Conduct} {f : Feed} (h : f.Keeps may) (target : Target)
    (name : String) {handler : Handler} (hh : handler.Keeps may) :
    (f.subscribe target name handler).Keeps may := by
  intro s hs
  rw [subscribers_subscribe] at hs
  rcases List.mem_append.1 hs with hs | hs
  · exact h s hs
  · rw [List.mem_singleton.1 hs]
    exact hh

/-- What a subscriber remembers has no part in its conduct. -/
lemma Keeps.modify {may : Conduct} {f f' : Feed} {number : Nat}
    {change : Subscriber → Subscriber} (h : f.Keeps may)
    (hs : f'.subscribers = f.subscribers.modify number change)
    (hc : ∀ s, (change s).handler = s.handler) : f'.Keeps may := by
  intro s hmem
  rw [hs] at hmem
  obtain ⟨i, hi⟩ := List.mem_iff_getElem?.1 hmem
  rw [List.getElem?_modify] at hi
  obtain ⟨t, ht, rfl⟩ := Option.map_eq_some_iff.1 hi
  have ht' := h t (List.mem_of_getElem? ht)
  split
  · rwa [hc]
  · exact ht'

/-- A subscriber that is told something keeps its conduct. -/
lemma Keeps.tell {may : Conduct} {f : Feed} (h : f.Keeps may) (number : Nat) (notice : Notice) :
    (f.tell number notice).Keeps may :=
  h.modify rfl fun _ => rfl

/-- A subscriber that uses up a key keeps its conduct. -/
lemma Keeps.spend {may : Conduct} {f : Feed} (h : f.Keeps may) (number key : Nat) :
    (f.spend number key).2.Keeps may := by
  unfold Feed.spend
  split
  · exact h
  · exact h.modify rfl fun _ => rfl

end Feed

/-! ### What the journal tells -/

/-- The status to which a change has led. -/
def Fact.changed? : Fact → Option ConnectionState
  | .statusChanged status => some status
  | _ => none

/-- The status that has been published. -/
def Fact.published? : Fact → Option ConnectionState
  | .statusPublished status => some status
  | _ => none

/-- The event that has been published. -/
def Fact.routed? : Fact → Option RoutedEvent
  | .eventPublished event => some event
  | _ => none

namespace Feed

/-- The statuses to which the feed has gone on, the latest first. -/
def changes (f : Feed) : List ConnectionState :=
  f.journal.filterMap fun entry => entry.fact.changed?

/-- The statuses that have been published, the latest first. -/
def published (f : Feed) : List ConnectionState :=
  f.journal.filterMap fun entry => entry.fact.published?

/-- The events that have been published, the latest first. -/
def routed (f : Feed) : List RoutedEvent :=
  f.journal.filterMap fun entry => entry.fact.routed?

/-- How many times a connection has been begun. -/
def connects (f : Feed) : Nat :=
  f.journal.countP fun entry => entry.fact = .connectBegun

end Feed

/-! ### The feed without its subscribers -/

/-- The facts that the feed itself brings about. The others say what subscribers are told and what
is written to the log. -/
def Fact.isOwn : Fact → Bool
  | .told _ _ | .unsubscribed _ _ | .logged _ => false
  | _ => true

namespace Feed

/-- The feed without its subscribers, and without what the journal says of them. -/
def engine (f : Feed) : Feed :=
  { f with
    statusListeners := { id := 1 }
    eventListeners := { id := 2 }
    subscribers := []
    subscriptions := []
    journal := f.journal.filter fun entry => entry.fact.isOwn }

/-- What can be told from the engine alone is the same in feeds of one engine. -/
lemma eq_of_engine {α : Type} {f g : Feed} (h : g.engine = f.engine) (view : Feed → α)
    (hview : ∀ f, view f.engine = view f) : view g = view f := by
  rw [← hview g, h, hview f]

/-- Changes of the status are the feed's own. -/
@[simp] lemma changes_engine (f : Feed) : f.engine.changes = f.changes := by
  unfold changes engine
  rw [List.filterMap_filter]
  congr 1
  funext entry
  cases entry.fact <;> rfl

/-- What is published of the status is the feed's own. -/
@[simp] lemma published_engine (f : Feed) : f.engine.published = f.published := by
  unfold published engine
  rw [List.filterMap_filter]
  congr 1
  funext entry
  cases entry.fact <;> rfl

/-- Attempts to connect are the feed's own. -/
@[simp] lemma connects_engine (f : Feed) : f.engine.connects = f.connects := by
  unfold connects engine
  rw [List.countP_filter]
  refine List.countP_congr fun entry _ => ?_
  cases entry.fact <;> simp [Fact.isOwn]

/-- A fact that is not the feed's own leaves the engine as it is. -/
lemma engine_note {fact : Fact} (h : fact.isOwn = false) (f : Feed) :
    (f.note fact).engine = f.engine := by
  simp [engine, note, h]

/-- A line in the log leaves the engine as it is. -/
@[simp] lemma engine_log (f : Feed) (level : LogLevel) (message : String)
    (fields : List (String × String)) (error : Option String := none) :
    (f.log level message fields error).engine = f.engine :=
  engine_note rfl f

/-- Telling a subscriber something leaves the engine as it is. -/
lemma engine_tell (f : Feed) (number : Nat) (notice : Notice) :
    (f.tell number notice).engine = f.engine := by
  simp [tell, engine, note, Fact.isOwn]

/-- A new subscription leaves the engine as it is. -/
lemma engine_subscribe (f : Feed) (target : Target) (name : String) (handler : Handler) :
    (f.subscribe target name handler).engine = f.engine := by
  cases target <;> rfl

/-- Removing a subscription leaves the engine as it is. -/
lemma engine_unsubscribe (f : Feed) (handle : Handle) :
    (f.unsubscribe handle).2.engine = f.engine := by
  unfold unsubscribe
  dsimp only
  split <;> rfl

/-- Removing a subscription by its name leaves the engine as it is. -/
lemma engine_unsubscribeName (f : Feed) (name : String) :
    (f.unsubscribeName name).2.engine = f.engine := by
  unfold unsubscribeName
  split
  · rfl
  · exact engine_unsubscribe f _

/-- Using up a key leaves the engine as it is. -/
lemma engine_spend (f : Feed) (number key : Nat) : (f.spend number key).2.engine = f.engine := by
  unfold spend
  split <;> rfl

/-- Removing a subscription brings no subscriber in. -/
lemma subscribers_unsubscribe (f : Feed) (handle : Handle) :
    (f.unsubscribe handle).2.subscribers = f.subscribers := by
  unfold unsubscribe
  dsimp only
  split <;> rfl

/-- Removing a subscription by its name brings no subscriber in. -/
lemma subscribers_unsubscribeName (f : Feed) (name : String) :
    (f.unsubscribeName name).2.subscribers = f.subscribers := by
  unfold unsubscribeName
  split
  · rfl
  · exact subscribers_unsubscribe f _

end Feed

end EventFeed
