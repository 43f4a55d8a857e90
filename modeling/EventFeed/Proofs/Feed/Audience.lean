import EventFeed.Proofs.Feed.Notices
import EventFeed.Proofs.Feed.Superseded

/-!
# Who is told of events

Events come from frames, or from the caller, and no subscriber publishes one. So a subscriber that
is told of an event may operate the feed in answer, and others may be told of statuses in the midst
of it, but nobody is told of another event before all who are registered have been told of this one.

`Relayed` says what comes of a subscriber in the meantime: of which events it is told, while nothing
is taken in from frames. Operations tell nobody of any event, and neither do answers once the one
who answers has been told. A publication tells a subscriber that is registered for the topic of the
event once, whatever the others do.
-/

namespace EventFeed

/-- The event of which a notice tells. -/
def Notice.event? : Notice → Option RoutedEvent
  | .event e => some e
  | .status _ => none

/-- Whether somebody who wants to be told of a topic, or else of all, is told of an event. -/
def RoutedEvent.isFor (event : RoutedEvent) (only : Option Topic) : Bool :=
  only.all (· = event.topic)

namespace Feed

variable {f g h : Feed} {n : Nat}

/-- The events of which a subscriber has been told, the latest first. -/
def delivered (f : Feed) (n : Nat) : List RoutedEvent :=
  ((f.subscribers[n]?).elim [] Subscriber.heard).filterMap Notice.event?

/-- A subscriber is registered for the events of a topic, or for all events. -/
def Attends (f : Feed) (only : Option Topic) (n : Nat) : Prop :=
  ∃ l ∈ f.eventListeners.listeners, l.what = (only, n)

instance (f : Feed) (only : Option Topic) (n : Nat) : Decidable (f.Attends only n) :=
  inferInstanceAs (Decidable (∃ l ∈ f.eventListeners.listeners, l.what = (only, n)))

/-- Listeners for events belong to different subscribers, each of whom is known. -/
structure Assembled (f : Feed) : Prop where
  distinct : f.eventListeners.listeners.Pairwise fun l k => l.what.2 ≠ k.what.2
  known : ∀ l ∈ f.eventListeners.listeners, l.what.2 < f.subscribers.length

/-- A feed that has not been started has nobody to tell. -/
lemma assembled_of_ofSettings {settings : Settings} {refreshable : Bool}
    (h : ofSettings settings refreshable = .ok f) : f.Assembled := by
  obtain ⟨request, rfl⟩ := eq_of_ofSettings h
  exact ⟨.nil, by simp⟩

/-- Whoever is registered is known. -/
lemma Assembled.lt_length (hf : f.Assembled) {only : Option Topic} (hn : f.Attends only n) :
    n < f.subscribers.length := by
  obtain ⟨l, hl, he⟩ := hn
  have hlt := hf.known l hl
  rwa [he] at hlt

/-- A pass over the listeners can be cut where a subscriber that is registered is told: all others
belong to other subscribers. -/
lemma Assembled.cut (hf : f.Assembled) {only : Option Topic} (hn : f.Attends only n) :
    ∃ front l back, f.eventListeners.listeners = front ++ l :: back ∧ l.what = (only, n) ∧
      (∀ k ∈ front, k.what.2 ≠ n) ∧ ∀ k ∈ back, k.what.2 ≠ n := by
  obtain ⟨l, hl, he⟩ := hn
  obtain ⟨front, back, hsplit⟩ := List.append_of_mem hl
  obtain ⟨-, hback, hfront⟩ := List.pairwise_append.1 (hsplit ▸ hf.distinct)
  have hn : l.what.2 = n := by rw [he]
  exact ⟨front, l, back, hsplit, he, fun k hk => hn ▸ hfront k hk l List.mem_cons_self,
    fun k hk => hn ▸ ((List.pairwise_cons.1 hback).1 k hk).symm⟩

/-- Subscribers may have come and gone, but none of those who were there has been registered
anew. -/
structure Audience (f g : Feed) : Prop where
  assembled : g.Assembled
  length : f.subscribers.length ≤ g.subscribers.length
  attends : ∀ {i : Nat} {only : Option Topic}, i < f.subscribers.length → g.Attends only i →
    f.Attends only i

namespace Audience

lemma refl (hf : f.Assembled) : f.Audience f :=
  ⟨hf, Nat.le_refl _, fun _ => id⟩

lemma trans (hfg : f.Audience g) (hgh : g.Audience h) : f.Audience h where
  assembled := hgh.assembled
  length := Nat.le_trans hfg.length hgh.length
  attends hi hh := hfg.attends hi (hgh.attends (Nat.lt_of_lt_of_le hi hfg.length) hh)

/-- What subscribers remember changes nothing about who is told. -/
lemma of_length (hf : f.Assembled) (hl : g.eventListeners = f.eventListeners)
    (hs : g.subscribers.length = f.subscribers.length) : f.Audience g := by
  refine ⟨⟨by rw [hl]; exact hf.distinct, by rw [hl, hs]; exact hf.known⟩,
    Nat.le_of_eq hs.symm, fun _ hg => ?_⟩
  unfold Attends at hg ⊢
  rwa [hl] at hg

/-- Listeners that are left out are told no more. -/
lemma filter (hf : f.Assembled) {keep : Listener (Option Topic × Nat) → Bool}
    (hl : g.eventListeners.listeners = f.eventListeners.listeners.filter keep)
    (hs : g.subscribers = f.subscribers) : f.Audience g := by
  refine ⟨⟨by rw [hl]; exact hf.distinct.filter _, fun l hm => ?_⟩, Nat.le_of_eq (by rw [hs]),
    fun _ hg => ?_⟩
  · rw [hl] at hm
    exact hs ▸ hf.known l (List.mem_filter.1 hm).1
  · obtain ⟨l, hm, he⟩ := hg
    rw [hl] at hm
    exact ⟨l, (List.mem_filter.1 hm).1, he⟩

/-- A subscriber that is new has not been registered before. -/
lemma subscribe (hf : f.Assembled) (target : Target) (name : String) (handler : Handler) :
    f.Audience (f.subscribe target name handler) := by
  have hlength : (f.subscribe target name handler).subscribers.length =
      f.subscribers.length + 1 := by
    rw [subscribers_subscribe, List.length_append, List.length_singleton]
  cases target with
  | status =>
    refine ⟨⟨hf.distinct, fun l hl => ?_⟩, by rw [hlength]; exact Nat.le_succ _, fun _ => id⟩
    rw [hlength]
    exact Nat.lt_succ_of_lt (hf.known l hl)
  | events only =>
    have hlist : (f.subscribe (.events only) name handler).eventListeners.listeners =
        f.eventListeners.listeners ++
          [⟨f.eventListeners.nextId, (only, f.subscribers.length)⟩] := rfl
    refine ⟨⟨?_, fun l hl => ?_⟩, by rw [hlength]; exact Nat.le_succ _, fun {i only'} hi hg => ?_⟩
    · rw [hlist]
      refine List.pairwise_append.2 ⟨hf.distinct, List.pairwise_singleton _ _, fun l hl k hk => ?_⟩
      rw [List.mem_singleton.1 hk]
      exact Nat.ne_of_lt (hf.known l hl)
    · rw [hlength]
      rw [hlist] at hl
      rcases List.mem_append.1 hl with hl | hl
      · exact Nat.lt_succ_of_lt (hf.known l hl)
      · rw [List.mem_singleton.1 hl]
        exact Nat.lt_succ_self _
    · obtain ⟨l, hl, he⟩ := hg
      rw [hlist] at hl
      rcases List.mem_append.1 hl with hl | hl
      · exact ⟨l, hl, he⟩
      · rw [List.mem_singleton.1 hl] at he
        exact absurd hi (Nat.not_lt.2 (Nat.le_of_eq (congrArg Prod.snd he)))

end Audience

/-! ### Being told -/

/-- From `f` to `g` the subscriber has been told of these events, the latest first, and nothing has
been taken in from frames. -/
structure Relayed (n : Nat) (told : List RoutedEvent) (f g : Feed) : Prop
    extends Audience f g where
  intake : g.intake = f.intake
  delivered : g.delivered n = told ++ f.delivered n

namespace Relayed

variable {told told' : List RoutedEvent}

lemma refl (hf : f.Assembled) : Relayed n [] f f :=
  ⟨.refl hf, rfl, rfl⟩

lemma trans (hfg : Relayed n told f g) (hgh : Relayed n told' g h) :
    Relayed n (told' ++ told) f h where
  toAudience := hfg.toAudience.trans hgh.toAudience
  intake := hgh.intake.trans hfg.intake
  delivered := by rw [hgh.delivered, hfg.delivered, List.append_assoc]

/-- Whatever happens to the rest of the feed does not matter. -/
lemma of_eq (hf : f.Assembled) (he : (g.eventListeners, g.subscribers, g.intake) =
    (f.eventListeners, f.subscribers, f.intake)) : Relayed n [] f g := by
  simp only [Prod.mk.injEq] at he
  obtain ⟨listeners, subscribers, intake⟩ := he
  refine ⟨.of_length hf listeners (by rw [subscribers]), intake, ?_⟩
  unfold Feed.delivered
  rw [subscribers]
  rfl

/-- What has happened to a subscriber is the same however the rest of the feed goes on. -/
lemma congr (hg : Relayed n told f g) (he : (h.eventListeners, h.subscribers, h.intake) =
    (g.eventListeners, g.subscribers, g.intake)) : Relayed n told f h :=
  hg.trans (.of_eq hg.assembled he)

end Relayed

/-! ### What happens to subscribers alone -/

/-- What is told of events is no matter of the engine, but all that is taken in is. -/
lemma intake_of_engine (he : g.engine = f.engine) : g.intake = f.intake := by
  refine eq_of_engine he intake fun k => ?_
  have hrouted : k.engine.routed = k.routed := by
    unfold routed engine
    rw [List.filterMap_filter]
    congr 1
    funext entry
    cases entry.fact <;> rfl
  unfold intake
  rw [hrouted]
  rfl

/-- Registering somebody new tells nobody of an event. -/
lemma relayed_subscribe (hf : f.Assembled) (target : Target) (name : String)
    (handler : Handler) : Relayed n [] f (f.subscribe target name handler) := by
  refine ⟨.subscribe hf target name handler,
    intake_of_engine (engine_subscribe f target name handler), ?_⟩
  unfold delivered
  rw [subscribers_subscribe, List.nil_append]
  by_cases hlt : n < f.subscribers.length
  · rw [List.getElem?_append_left hlt]
  · -- The one that is new has not been told anything.
    rw [List.getElem?_append_right (Nat.le_of_not_lt hlt), List.getElem?_eq_none
      (Nat.le_of_not_lt hlt)]
    cases n - f.subscribers.length <;> rfl

/-- Removing a listener tells nobody of an event. -/
lemma relayed_unsubscribe (hf : f.Assembled) (handle : Handle) :
    Relayed n [] f (f.unsubscribe handle).2 := by
  have hsubs := subscribers_unsubscribe f handle
  obtain ⟨keep, hkeep⟩ : ∃ keep, (f.unsubscribe handle).2.eventListeners.listeners =
      f.eventListeners.listeners.filter keep := by
    have hall : f.eventListeners.listeners =
        f.eventListeners.listeners.filter fun _ => true :=
      (List.filter_eq_self.2 fun _ _ => rfl).symm
    unfold unsubscribe
    dsimp only
    split
    · unfold Emitter.unsubscribe
      split
      · exact ⟨_, rfl⟩
      · exact ⟨_, hall⟩
    · exact ⟨_, hall⟩
  refine ⟨.filter hf hkeep hsubs, intake_of_engine (engine_unsubscribe f handle), ?_⟩
  unfold delivered
  rw [hsubs]
  rfl

/-- Using up a key tells nobody of an event. -/
lemma relayed_spend (hf : f.Assembled) (m key : Nat) : Relayed n [] f (f.spend m key).2 := by
  refine ⟨?_, intake_of_engine (engine_spend f m key), ?_⟩
  · unfold spend
    split
    · exact .refl hf
    · exact .of_length hf rfl (List.length_modify ..)
  · unfold spend delivered
    split
    · rfl
    · by_cases hm : m = n
      · subst hm
        cases hs : f.subscribers[m]? <;> simp [hs]
      · simp [hm]

/-- Of which events a subscriber is told is a matter of publications and of whoever comes or goes,
as long as nothing is taken in from frames. -/
lemma outward_relayed (n : Nat) : Outward fun f g => f.Assembled → Relayed n [] f g where
  trans hfg hgh hf := (hfg hf).trans (hgh (hfg hf).assembled)
  aside {f g} he hf := by
    simp only [outward, Prod.mk.injEq] at he
    obtain ⟨-, listeners, subscribers, -, -, intake⟩ := he
    exact .of_eq hf (by rw [listeners, subscribers, intake])
  subscribe _ target name handler hf := relayed_subscribe hf target name handler
  unsubscribe _ handle hf := relayed_unsubscribe hf handle
  spend _ m key hf := relayed_spend hf m key

/-- A subscriber is told of what it is told of, and nobody else is. -/
lemma relayed_tell (hf : f.Assembled) (m : Nat) (notice : Notice) :
    Relayed n (if m = n ∧ n < f.subscribers.length then notice.event?.toList else []) f
      (f.tell m notice) := by
  refine ⟨.of_length hf rfl (List.length_modify ..), intake_of_engine (engine_tell f m notice), ?_⟩
  by_cases hm : m = n
  · subst hm
    cases hs : f.subscribers[m]? with
    | none =>
      have hlt : ¬ m < f.subscribers.length := by simpa using hs
      simp [delivered, tell, hlt]
    | some s =>
      have hlt := (List.getElem?_eq_some_iff.1 hs).1
      cases notice <;> simp [delivered, tell, hlt, Notice.event?, List.filterMap_cons]
  · simp [delivered, tell, hm]

/-- Telling of a status is telling of no event. -/
lemma relayed_tell_status (hf : f.Assembled) (m : Nat) (s : ConnectionState) :
    Relayed n [] f (f.tell m (.status s)) := by
  simpa [Notice.event?] using relayed_tell hf m (.status s)

/-! ### Publications of the status -/

/-- Once the one who answers has been told, an answer tells the subscriber of no event. -/
def Relays (n : Nat) (respond : Respond) : Prop :=
  ∀ m notice {f : Feed}, f.Assembled → Relayed n [] (f.tell m notice) (respond m notice f).2

/-- Nobody is told of an event while a status is published. -/
lemma relayed_publishStatus {respond : Respond} (hr : Relays n respond) (hf : f.Assembled)
    (s : ConnectionState) : Relayed n [] f (publishStatus respond s f).2 := by
  have hnote : Relayed n [] f (f.note (.statusPublished s)) := .of_eq hf rfl
  refine hnote.trans (publishStatus_rel (outward_relayed n).chained (fun m g hg => ?_) f
    hnote.assembled)
  exact (relayed_tell_status hg m s).trans (hr m (.status s) hg)

/-- However deep answers nest, nobody is told of an event by them. -/
theorem relays_respond (n depth : Nat) : Relays n (Feed.respond depth) := by
  have hrelays : ∀ {respond},
      Answers (fun f g => f.Assembled → Relayed n [] f g) respond → Relays n respond :=
    fun ha m notice f hf => ha m notice f (relayed_tell (n := n) hf m notice).assembled
  exact hrelays <| (outward_relayed n).answers
    (fun _ ha s f hf => relayed_publishStatus (hrelays ha) hf s) depth

/-! ### Publications of events -/

/-- What follows an answer to an event is the answer, and perhaps a line in the log. One that wants
other topics is not asked. -/
lemma offer_event (respond : Respond) (event : RoutedEvent) (l : Listener (Option Topic × Nat))
    (f : Feed) :
    ((eventReaction respond).offer event l f).2 = f ∧ event.isFor l.what.1 = false ∨
      event.isFor l.what.1 = true ∧
        (((eventReaction respond).offer event l f).2 = (respond l.what.2 (.event event) f).2 ∨
          ∃ line, ((eventReaction respond).offer event l f).2 =
            (respond l.what.2 (.event event) f).2.note (.logged line)) := by
  unfold Reaction.offer RoutedEvent.isFor
  dsimp only [eventReaction]
  cases hwants : l.what.1.all (· = event.topic)
  · exact .inl ⟨rfl, rfl⟩
  · refine .inr ⟨rfl, ?_⟩
    simp only [if_true]
    split
    · next heq => exact .inl (by rw [heq])
    · next heq => exact .inr ⟨_, by rw [heq]; rfl⟩

section Relays

variable {respond : Respond} (hr : Relays n respond)

include hr

/-- A listener that wants an event is told of it, and no other subscriber is. -/
lemma relayed_offer (hf : f.Assembled) (event : RoutedEvent)
    (l : Listener (Option Topic × Nat)) (hl : l.what.2 < f.subscribers.length) :
    Relayed n (if l.what.2 = n ∧ event.isFor l.what.1 = true then [event] else []) f
      ((eventReaction respond).offer event l f).2 := by
  rcases offer_event respond event l f with ⟨he, hwants⟩ | ⟨hwants, he⟩
  · rw [he, hwants]
    simpa using Relayed.refl hf
  · have hanswer := (relayed_tell (n := n) hf l.what.2 (.event event)).trans
      (hr l.what.2 (.event event) hf)
    have htold : (if l.what.2 = n ∧ event.isFor l.what.1 = true then [event] else []) =
        [] ++ if l.what.2 = n ∧ n < f.subscribers.length then
          (Notice.event event).event?.toList else [] := by
      by_cases hn : l.what.2 = n
      · simp [hn, hwants, hn ▸ hl, Notice.event?]
      · simp [hn]
    rw [htold]
    rcases he with he | ⟨line, he⟩ <;> rw [he]
    · exact hanswer
    · exact hanswer.congr rfl

/-- While others are told of an event, a subscriber is told of none. -/
lemma relayed_offerAll (hf : f.Assembled) (event : RoutedEvent)
    {ls : List (Listener (Option Topic × Nat))} (hne : ∀ l ∈ ls, l.what.2 ≠ n)
    (hls : ∀ l ∈ ls, l.what.2 < f.subscribers.length) :
    Relayed n [] f ((eventReaction respond).offerAll event ls f).2 := by
  induction ls generalizing f with
  | nil => exact .refl hf
  | cons l rest ih =>
    have hl : Relayed n [] f ((eventReaction respond).offer event l f).2 := by
      simpa [hne l List.mem_cons_self] using
        relayed_offer hr hf event l (hls l List.mem_cons_self)
    refine hl.trans (ih hl.assembled (fun k hk => hne k (List.mem_cons_of_mem _ hk)) fun k hk => ?_)
    exact Nat.lt_of_lt_of_le (hls k (List.mem_cons_of_mem _ hk)) hl.length

/-- A publication tells a subscriber that is registered for the topic of the event once, and
everybody else of no event at all, whatever comes of it. -/
lemma relayed_publishEvent (hf : f.Assembled) (event : RoutedEvent) {only : Option Topic}
    (hn : f.Attends only n) :
    Relayed n (if event.isFor only = true then [event] else []) (f.note (.eventPublished event))
      (publishEvent respond event f).2 := by
  let f₁ := f.note (.eventPublished event)
  have hf₁ : f₁.Assembled := ⟨hf.distinct, hf.known⟩
  obtain ⟨front, l, back, hcut, he, hfront, hback⟩ := hf.cut hn
  have hknown : ∀ k ∈ front ++ l :: back, k.what.2 < f₁.subscribers.length :=
    fun k hk => hf.known k (hcut ▸ hk)
  have hbefore : Relayed n [] f₁ ((eventReaction respond).offerAll event front f₁).2 :=
    relayed_offerAll hr hf₁ event hfront fun k hk => hknown k (List.mem_append_left _ hk)
  generalize hg : ((eventReaction respond).offerAll event front f₁).2 = g at hbefore
  have htold := relayed_offer hr (n := n) hbefore.assembled event l <|
    Nat.lt_of_lt_of_le (hknown l (by simp)) hbefore.length
  generalize hh : ((eventReaction respond).offer event l g).2 = h at htold
  have hafter : Relayed n [] h ((eventReaction respond).offerAll event back h).2 :=
    relayed_offerAll hr htold.assembled event hback fun k hk =>
      Nat.lt_of_lt_of_le (hknown k (by simp [hk])) (Nat.le_trans hbefore.length htold.length)
  have hpass : (publishEvent respond event f).2 =
      ((eventReaction respond).offerAll event back h).2 := by
    show ((eventReaction respond).offerAll event f₁.eventListeners.listeners f₁).2 = _
    rw [show f₁.eventListeners.listeners = front ++ l :: back from hcut, offerAll_append, hg,
      ← hh]
    rfl
  rw [hpass]
  simpa [he] using (hbefore.trans htold).trans hafter

/-- A subscriber that is not registered is told of no event. -/
lemma relayed_publishEvent_of_ne (hf : f.Assembled) (event : RoutedEvent)
    (hne : ∀ l ∈ f.eventListeners.listeners, l.what.2 ≠ n) :
    Relayed n [] (f.note (.eventPublished event)) (publishEvent respond event f).2 := by
  have hnote : (f.note (.eventPublished event)).Assembled := ⟨hf.distinct, hf.known⟩
  exact relayed_offerAll hr hnote event hne hf.known

end Relays

end Feed

end EventFeed
