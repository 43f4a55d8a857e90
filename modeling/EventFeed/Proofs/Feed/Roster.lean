import EventFeed.Proofs.Feed.Upkeep

/-!
# Who is told of the status

Subscribers are told of the status in the order in which they were registered. Some of them come and
some are removed, but nobody is registered anew, and nobody's handler changes. `Roster` says this of
two states, the second of which is later.

`Notified` says what it means for one subscriber: it has been told of every status that has been
published in between, and in the order of publication if nobody who is told before it operates the
feed in answer to a status.
-/

namespace EventFeed

/-- The command operates the feed, if it is carried out at all. -/
def Command.operates : Command → Bool
  | .start _ | .stop | .reconnect _ _ | .disconnect => true
  | .subscribe _ _ _ | .unsubscribe _ | .panic _ => false
  | .once _ command => command.operates

/-- A handler does not operate the feed in answer to a status. -/
def Handler.Passive (handler : Handler) : Prop :=
  ∀ status heard, ∀ c ∈ handler (.status status :: heard), c.operates = false

/-- The status of which a notice tells. -/
def Notice.status? : Notice → Option ConnectionState
  | .status s => some s
  | .event _ => none

namespace Feed

variable {f g h : Feed} {n : Nat}

/-- The statuses of which a subscriber has been told, the latest first. -/
def received (f : Feed) (n : Nat) : List ConnectionState :=
  ((f.subscribers[n]?).elim [] Subscriber.heard).filterMap Notice.status?

/-! ### Who is told, and in which order -/

/-- A subscriber is registered for the status. -/
def Listens (f : Feed) (n : Nat) : Prop :=
  ∃ l ∈ f.statusListeners.listeners, l.what = n

instance (f : Feed) (n : Nat) : Decidable (f.Listens n) :=
  inferInstanceAs (Decidable (∃ l ∈ f.statusListeners.listeners, l.what = n))

/-- Listeners for the status stand in the order of their subscribers, each of whom is known. -/
structure Enrolled (f : Feed) : Prop where
  sorted : f.statusListeners.listeners.Pairwise fun l k => l.what < k.what
  known : ∀ l ∈ f.statusListeners.listeners, l.what < f.subscribers.length

/-- There is a subscriber of that number, and it does not operate the feed in answer to a status. -/
def PassiveAt (f : Feed) (n : Nat) : Prop :=
  ∃ s, f.subscribers[n]? = some s ∧ s.handler.Passive

/-- Nobody who is told of a status before that subscriber operates the feed in answer to it. -/
def Unled (f : Feed) (n : Nat) : Prop :=
  ∀ i < n, f.Listens i → f.PassiveAt i

/-- A feed that has not been started has nobody to tell. -/
lemma enrolled_of_ofSettings {settings : Settings} {refreshable : Bool}
    (h : ofSettings settings refreshable = .ok f) : f.Enrolled := by
  obtain ⟨request, rfl⟩ := eq_of_ofSettings h
  exact ⟨.nil, by simp⟩

/-- Whoever is registered is known. -/
lemma Enrolled.lt_length (hf : f.Enrolled) (hn : f.Listens n) : n < f.subscribers.length := by
  obtain ⟨l, hl, rfl⟩ := hn
  exact hf.known l hl

/-- A pass over the listeners can be cut where a subscriber that is registered is told: the others
are told before it or after it. -/
lemma Enrolled.cut (hf : f.Enrolled) (hn : f.Listens n) :
    ∃ front l back, f.statusListeners.listeners = front ++ l :: back ∧ l.what = n ∧
      (∀ k ∈ front, k.what < n) ∧ ∀ k ∈ back, n < k.what := by
  obtain ⟨l, hl, rfl⟩ := hn
  obtain ⟨front, back, hsplit⟩ := List.append_of_mem hl
  obtain ⟨-, hback, hfront⟩ := List.pairwise_append.1 (hsplit ▸ hf.sorted)
  exact ⟨front, l, back, hsplit, rfl, fun k hk => hfront k hk l List.mem_cons_self,
    (List.pairwise_cons.1 hback).1⟩

/-- Subscribers may have come and gone, but those who were there do what they did, and none of them
has been registered anew. -/
structure Roster (f g : Feed) : Prop where
  enrolled : g.Enrolled
  handlers : ∀ {i : Nat} {s : Subscriber}, f.subscribers[i]? = some s →
    ∃ s', g.subscribers[i]? = some s' ∧ s'.handler = s.handler
  listens : ∀ {i : Nat}, i < f.subscribers.length → g.Listens i → f.Listens i

namespace Roster

lemma refl (hf : f.Enrolled) : f.Roster f :=
  ⟨hf, fun hs => ⟨_, hs, rfl⟩, fun _ => id⟩

/-- Nobody is forgotten. -/
lemma lt_length (hr : f.Roster g) (hn : n < f.subscribers.length) : n < g.subscribers.length := by
  obtain ⟨s, hs, -⟩ := hr.handlers (List.getElem?_eq_getElem hn)
  exact (List.getElem?_eq_some_iff.1 hs).1

lemma trans (hfg : f.Roster g) (hgh : g.Roster h) : f.Roster h where
  enrolled := hgh.enrolled
  handlers hs := by
    obtain ⟨s', hs', he⟩ := hfg.handlers hs
    obtain ⟨s'', hs'', he'⟩ := hgh.handlers hs'
    exact ⟨s'', hs'', he'.trans he⟩
  listens hi hh := hfg.listens hi (hgh.listens (hfg.lt_length hi) hh)

/-- Who is passive stays so. -/
lemma passiveAt (hr : f.Roster g) (hn : f.PassiveAt n) : g.PassiveAt n := by
  obtain ⟨s, hs, hp⟩ := hn
  obtain ⟨s', hs', he⟩ := hr.handlers hs
  exact ⟨s', hs', he.symm ▸ hp⟩

/-- Whoever is registered late is told late. -/
lemma unled (hr : f.Roster g) (hn : n < f.subscribers.length) (h : f.Unled n) : g.Unled n :=
  fun i hi hg => hr.passiveAt (h i hi (hr.listens (Nat.lt_trans hi hn) hg))

/-- What subscribers remember changes nothing about who is told. -/
lemma modify (hf : f.Enrolled) {i : Nat} {change : Subscriber → Subscriber}
    (hl : g.statusListeners = f.statusListeners)
    (hs : g.subscribers = f.subscribers.modify i change)
    (hc : ∀ s, (change s).handler = s.handler) : f.Roster g := by
  refine ⟨⟨by rw [hl]; exact hf.sorted, ?_⟩, fun {j s} hj => ?_, fun _ hg => ?_⟩
  · rw [hl, hs, List.length_modify]
    exact hf.known
  · refine ⟨if i = j then change s else s, ?_, ?_⟩
    · simp [hs, List.getElem?_modify, hj]
    · split
      · exact hc s
      · rfl
  · unfold Listens at hg ⊢
    rwa [hl] at hg

/-- Listeners that are left out are told no more. -/
lemma filter (hf : f.Enrolled) {keep : Listener Nat → Bool}
    (hl : g.statusListeners.listeners = f.statusListeners.listeners.filter keep)
    (hs : g.subscribers = f.subscribers) : f.Roster g := by
  refine ⟨⟨by rw [hl]; exact hf.sorted.filter _, fun l hm => ?_⟩, fun hi => ⟨_, hs ▸ hi, rfl⟩,
    fun _ hg => ?_⟩
  · rw [hl] at hm
    exact hs ▸ hf.known l (List.mem_filter.1 hm).1
  · obtain ⟨l, hm, he⟩ := hg
    rw [hl] at hm
    exact ⟨l, (List.mem_filter.1 hm).1, he⟩

/-- A subscriber that is new is told after all others. -/
lemma subscribe (hf : f.Enrolled) (target : Target) (name : String) (handler : Handler) :
    f.Roster (f.subscribe target name handler) := by
  have hsubs := subscribers_subscribe f target name handler
  have hlist : (f.subscribe target name handler).statusListeners.listeners =
        f.statusListeners.listeners ∨
      (f.subscribe target name handler).statusListeners.listeners =
        f.statusListeners.listeners ++ [⟨f.statusListeners.nextId, f.subscribers.length⟩] := by
    cases target
    · exact .inr rfl
    · exact .inl rfl
  have hmem : ∀ l ∈ (f.subscribe target name handler).statusListeners.listeners,
      l ∈ f.statusListeners.listeners ∨ l.what = f.subscribers.length := by
    intro l hl
    rcases hlist with he | he <;> rw [he] at hl
    · exact .inl hl
    · rcases List.mem_append.1 hl with hl | hl
      · exact .inl hl
      · exact .inr (by rw [List.mem_singleton.1 hl])
  refine ⟨⟨?_, fun l hl => ?_⟩, fun {i s} hi => ⟨s, ?_, rfl⟩, fun {i} hi hg => ?_⟩
  · rcases hlist with he | he <;> rw [he]
    · exact hf.sorted
    · refine List.pairwise_append.2 ⟨hf.sorted, List.pairwise_singleton _ _, fun l hl k hk => ?_⟩
      rw [List.mem_singleton.1 hk]
      exact hf.known l hl
  · rw [hsubs, List.length_append, List.length_singleton]
    rcases hmem l hl with hl | hl
    · exact Nat.lt_succ_of_lt (hf.known l hl)
    · exact hl ▸ Nat.lt_succ_self _
  · rw [hsubs]
    exact (List.getElem?_append_left (List.getElem?_eq_some_iff.1 hi).1).trans hi
  · obtain ⟨l, hl, rfl⟩ := hg
    rcases hmem l hl with hl | hl
    · exact ⟨l, hl, rfl⟩
    · exact absurd hi (by omega)

end Roster

/-! ### Being notified -/

/-- From `f` to `g` the subscriber has been told of all that was published, if it was registered
throughout; and in the order of publication, if nobody who is told before it operates the feed. -/
structure Notified (n : Nat) (f g : Feed) : Prop extends Roster f g where
  news : ∃ told news, g.received n = told ++ f.received n ∧ g.published = news ++ f.published ∧
    (f.Listens n → g.Listens n → told.Perm news ∧ (f.Unled n → told = news))

namespace Notified

/-- Where nothing is published, and nobody told of a status, there is nothing to be notified of. -/
lemma of_roster (hr : f.Roster g) (hg : g.received n = f.received n)
    (hp : g.published = f.published) : Notified n f g :=
  { hr with news := ⟨[], [], hg, hp, fun _ _ => ⟨.refl _, fun _ => rfl⟩⟩ }

lemma refl (hf : f.Enrolled) : Notified n f f :=
  .of_roster (.refl hf) rfl rfl

lemma trans (hf : f.Enrolled) (hfg : Notified n f g) (hgh : Notified n g h) : Notified n f h where
  toRoster := hfg.toRoster.trans hgh.toRoster
  news := by
    obtain ⟨told, news, hg, hp, hn⟩ := hfg.news
    obtain ⟨told', news', hg', hp', hn'⟩ := hgh.news
    refine ⟨told' ++ told, news' ++ news, by rw [hg', hg, List.append_assoc],
      by rw [hp', hp, List.append_assoc], fun hfl hhl => ?_⟩
    have hlt := hf.lt_length hfl
    have hgl := hgh.listens (hfg.lt_length hlt) hhl
    obtain ⟨hperm, horder⟩ := hn hfl hgl
    obtain ⟨hperm', horder'⟩ := hn' hgl hhl
    refine ⟨hperm'.append hperm, fun hu => ?_⟩
    rw [horder hu, horder' (hfg.unled hlt hu)]

/-- Whatever happens to the rest of the feed does not matter. -/
lemma of_eq (hf : f.Enrolled) (he : (g.statusListeners, g.subscribers, g.published) =
    (f.statusListeners, f.subscribers, f.published)) : Notified n f g := by
  simp only [Prod.mk.injEq] at he
  obtain ⟨listeners, subscribers, published⟩ := he
  have hs : g.subscribers = f.subscribers.modify 0 id := by rw [subscribers, List.modify_id]
  refine .of_roster (.modify hf listeners hs fun _ => rfl) ?_ published
  unfold received
  rw [subscribers]

/-- What has happened to a subscriber is the same however the rest of the feed goes on. -/
lemma congr (hf : f.Enrolled) (hg : Notified n f g)
    (he : (h.statusListeners, h.subscribers, h.published) =
      (g.statusListeners, g.subscribers, g.published)) : Notified n f h :=
  hg.trans hf (.of_eq hg.enrolled he)

end Notified

/-! ### What happens to subscribers alone -/

/-- Registering somebody new is nothing to be notified of. -/
lemma notified_subscribe (hf : f.Enrolled) (target : Target) (name : String)
    (handler : Handler) : Notified n f (f.subscribe target name handler) := by
  have hsubs := subscribers_subscribe f target name handler
  refine .of_roster (.subscribe hf target name handler) ?_
    (eq_of_engine (engine_subscribe f target name handler) Feed.published published_engine)
  unfold received
  rw [hsubs]
  by_cases hlt : n < f.subscribers.length
  · rw [List.getElem?_append_left hlt]
  · -- The one that is new has not been told anything.
    rw [List.getElem?_append_right (Nat.le_of_not_lt hlt), List.getElem?_eq_none
      (Nat.le_of_not_lt hlt)]
    cases n - f.subscribers.length <;> rfl

/-- Neither is removing a listener. -/
lemma notified_unsubscribe (hf : f.Enrolled) (handle : Handle) :
    Notified n f (f.unsubscribe handle).2 := by
  have hsubs := subscribers_unsubscribe f handle
  obtain ⟨keep, hkeep⟩ : ∃ keep, (f.unsubscribe handle).2.statusListeners.listeners =
      f.statusListeners.listeners.filter keep := by
    have hall : f.statusListeners.listeners =
        f.statusListeners.listeners.filter fun _ => true :=
      (List.filter_eq_self.2 fun _ _ => rfl).symm
    unfold unsubscribe
    dsimp only
    split
    · exact ⟨_, hall⟩
    · unfold Emitter.unsubscribe
      split
      · exact ⟨_, rfl⟩
      · exact ⟨_, hall⟩
  refine .of_roster (.filter hf hkeep hsubs) ?_
    (eq_of_engine (engine_unsubscribe f handle) Feed.published published_engine)
  unfold received
  rw [hsubs]

/-- Using up a key is nothing to be notified of. -/
lemma notified_spend (hf : f.Enrolled) (m key : Nat) : Notified n f (f.spend m key).2 := by
  unfold spend
  split
  · exact .refl hf
  · refine .of_roster (.modify hf rfl rfl fun _ => rfl) ?_ rfl
    by_cases hm : m = n
    · subst hm
      cases hs : f.subscribers[m]? <;> simp [received, hs]
    · simp [received, hm]

end Feed

end EventFeed
