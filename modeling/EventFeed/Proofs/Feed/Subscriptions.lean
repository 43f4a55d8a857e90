import EventFeed.Feeds
import EventFeed.Proofs.Feed.WellFormed
import Mathlib.Data.List.Nodup

/-!
# What becomes of subscriptions

A subscription returns a handle, and with the handle it can be removed. A record writes down, for a
stretch of time, which handles have been given out and what came of the attempts to remove
something. A subscription stands if its handle has been given out and has removed nothing yet.

`Deals` says how a feed comes by a record: somebody subscribes, somebody unsubscribes with a handle
of whatever origin, or something happens that touches no subscription; in any order, and no matter
who does it.

`Accounts` is the invariant: the listeners of an emitter are the standing subscriptions of that
emitter, in the order in which they were made. All that handles do follows from it.
-/

namespace EventFeed

/-- Something that is done about subscriptions, and what comes of it. -/
inductive Dealing where
  | subscribed (handle : Handle)
  | unsubscribed (handle : Handle) (removed : Bool)
  deriving DecidableEq, Repr

/-- What has been done about subscriptions, the latest first. -/
abbrev Record := List Dealing

namespace Record

variable {record : Record} {handle : Handle}

/-- The handles that have been given out, the latest first. -/
def given (record : Record) : List Handle :=
  record.filterMap fun
    | .subscribed handle => some handle
    | .unsubscribed _ _ => none

/-- The handles that have removed a subscription, the latest first. -/
def removed (record : Record) : List Handle :=
  record.filterMap fun
    | .unsubscribed handle true => some handle
    | _ => none

/-- The handles of the subscriptions that stand, with the numbers of these subscriptions, in the
order in which they were made. -/
def standing (record : Record) : List (Handle × Nat) :=
  record.given.reverse.zipIdx.filter fun entry => entry.1 ∉ record.removed

/-- A subscription stands if its handle has removed nothing. -/
lemma mem_standing {entry : Handle × Nat} :
    entry ∈ record.standing ↔
      record.given.reverse[entry.2]? = some entry.1 ∧ entry.1 ∉ record.removed := by
  rw [standing, List.mem_filter, List.mem_zipIdx_iff_getElem?, decide_eq_true_iff]

/-- Whose subscription stands has been given a handle. -/
lemma mem_given_of_mem_standing {entry : Handle × Nat} (h : entry ∈ record.standing) :
    entry.1 ∈ record.given :=
  List.mem_reverse.1 (List.mem_of_getElem? (mem_standing.1 h).1)

/-- A new subscription stands behind all others. -/
lemma standing_subscribed (h : handle ∉ record.removed) :
    standing (.subscribed handle :: record) =
      record.standing ++ [(handle, record.given.length)] := by
  have hgiven : given (.subscribed handle :: record) = handle :: record.given := rfl
  have hremoved : removed (.subscribed handle :: record) = record.removed := rfl
  simp [standing, hgiven, hremoved, List.zipIdx_append, h]

/-- Whoever removes its subscription stands no more. -/
lemma standing_removed :
    standing (.unsubscribed handle true :: record) =
      record.standing.filter fun entry => entry.1 ≠ handle := by
  have hgiven : given (.unsubscribed handle true :: record) = record.given := rfl
  have hremoved : removed (.unsubscribed handle true :: record) = handle :: record.removed := rfl
  rw [standing, hgiven, hremoved, standing, List.filter_filter]
  exact List.filter_congr fun entry _ => by simp

end Record

/-! ### Emitters and handles -/

namespace Emitter

variable {β : Type} {emitter : Emitter β} {number : β → Nat} {handle : Handle} {record : Record}

/-- The handles of the listeners, with the numbers of their subscriptions. -/
def roll (emitter : Emitter β) (number : β → Nat) : List (Handle × Nat) :=
  emitter.listeners.map fun l => (⟨emitter.id, l.id⟩, number l.what)

/-- The emitter without the listener of a handle. -/
def without (emitter : Emitter β) (handle : Handle) : Emitter β :=
  { emitter with
    listeners := emitter.listeners.filter fun l => (⟨emitter.id, l.id⟩ : Handle) ≠ handle }

/-- The emitter without the listener of a subscription. -/
def withoutNumber (emitter : Emitter β) (number : β → Nat) (k : Nat) : Emitter β :=
  { emitter with listeners := emitter.listeners.filter fun l => number l.what ≠ k }

/-- A handle that belongs to no listener leaves out none. -/
lemma without_eq_self (h : ∀ l ∈ emitter.listeners, (⟨emitter.id, l.id⟩ : Handle) ≠ handle) :
    emitter.without handle = emitter := by
  unfold without
  rw [List.filter_eq_self.2 fun l hl => decide_eq_true (h l hl)]

/-- A handle removes the listener to which it belongs, if there is one. -/
lemma unsubscribe_eq (emitter : Emitter β) (handle : Handle) :
    emitter.unsubscribe handle =
      (decide (∃ l ∈ emitter.listeners, (⟨emitter.id, l.id⟩ : Handle) = handle),
        emitter.without handle) := by
  unfold Emitter.unsubscribe
  split
  · next he =>
    have hkept : (emitter.listeners.filter fun l => l.id != handle.listener) =
        (emitter.without handle).listeners := by
      refine List.filter_congr fun l _ => Bool.eq_iff_iff.2 ?_
      obtain ⟨id, listener⟩ := handle
      obtain rfl : id = emitter.id := he
      simp
    dsimp only
    rw [hkept]
    refine Prod.ext ?_ rfl
    rw [Bool.eq_iff_iff, bne_iff_ne, decide_eq_true_iff, ne_eq, without,
      List.length_filter_eq_length_iff]
    simp
  · next he =>
    have hne : ∀ l ∈ emitter.listeners, (⟨emitter.id, l.id⟩ : Handle) ≠ handle :=
      fun l _ hl => he (congrArg Handle.emitter hl).symm
    rw [without_eq_self hne, decide_eq_false fun hex => ?_]
    obtain ⟨l, hl, heq⟩ := hex
    exact hne l hl heq

/-- The listeners of an emitter are those of a record's subscriptions that stand and belong to the
emitter, in the order in which they were made. Numbers of listeners that are yet to be given have
not been given before. -/
structure Agrees (emitter : Emitter β) (number : β → Nat) (record : Record) : Prop where
  roll : emitter.roll number = record.standing.filter fun entry => entry.1.emitter = emitter.id
  fresh : ∀ handle ∈ record.given, handle.emitter = emitter.id → handle.listener < emitter.nextId

namespace Agrees

/-- A listener belongs to a subscription that stands. -/
lemma mem_standing (h : emitter.Agrees number record) {l : Listener β}
    (hl : l ∈ emitter.listeners) : (⟨emitter.id, l.id⟩, number l.what) ∈ record.standing := by
  have hroll : (⟨emitter.id, l.id⟩, number l.what) ∈ emitter.roll number :=
    List.mem_map_of_mem hl
  rw [h.roll] at hroll
  exact (List.mem_filter.1 hroll).1

/-- A subscription that stands has a listener with its emitter. -/
lemma exists_listener (h : emitter.Agrees number record) {k : Nat}
    (hs : (handle, k) ∈ record.standing) (he : handle.emitter = emitter.id) :
    ∃ l ∈ emitter.listeners, (⟨emitter.id, l.id⟩ : Handle) = handle ∧ number l.what = k := by
  have hroll : (handle, k) ∈ emitter.roll number := by
    rw [h.roll]
    exact List.mem_filter.2 ⟨hs, decide_eq_true he⟩
  obtain ⟨l, hl, heq⟩ := List.mem_map.1 hroll
  exact ⟨l, hl, congrArg Prod.fst heq, congrArg Prod.snd heq⟩

/-- An emitter agrees with a record after a subscription of its own. -/
lemma subscribe (h : emitter.Agrees number record) (hr : record.removed ⊆ record.given) {what : β}
    (hw : number what = record.given.length) :
    (emitter.subscribe what).2.Agrees number
      (.subscribed (emitter.subscribe what).1 :: record) where
  roll := by
    -- The handle is new, so nothing has been removed with it.
    have hnew : (emitter.subscribe what).1 ∉ record.removed :=
      fun hm => Nat.lt_irrefl _ (h.fresh _ (hr hm) rfl)
    have hroll : (emitter.subscribe what).2.roll number =
        emitter.roll number ++ [((emitter.subscribe what).1, number what)] :=
      List.map_append ..
    have hown : [((emitter.subscribe what).1, record.given.length)].filter
        (fun entry => decide (entry.1.emitter = emitter.id)) =
          [((emitter.subscribe what).1, record.given.length)] := by
      simp [Emitter.subscribe]
    rw [Record.standing_subscribed hnew, List.filter_append, hroll, h.roll, hw]
    exact congrArg _ hown.symm
  fresh handle hm he := by
    rcases List.mem_cons.1 hm with rfl | hm
    · exact Nat.lt_succ_self _
    · exact Nat.lt_succ_of_lt (h.fresh handle hm he)

/-- An emitter agrees with a record after a subscription that is not its own. -/
lemma subscribe_other (h : emitter.Agrees number record) (hr : handle ∉ record.removed)
    (he : handle.emitter ≠ emitter.id) : emitter.Agrees number (.subscribed handle :: record) where
  roll := by
    rw [Record.standing_subscribed hr, List.filter_append, h.roll]
    simp [he]
  fresh other hm ho := by
    rcases List.mem_cons.1 hm with rfl | hm
    · exact absurd ho he
    · exact h.fresh other hm ho

/-- An emitter without the listener of a handle agrees with a record in which the handle has removed
its subscription. -/
lemma without (h : emitter.Agrees number record) (handle : Handle) :
    (emitter.without handle).Agrees number (.unsubscribed handle true :: record) where
  roll := by
    have hroll : (emitter.without handle).roll number =
        (emitter.roll number).filter fun entry => entry.1 ≠ handle := by
      unfold Emitter.roll
      rw [List.filter_map]
      rfl
    rw [Record.standing_removed, hroll, h.roll, List.filter_filter, List.filter_filter]
    exact List.filter_congr fun entry _ => Bool.and_comm _ _
  fresh := h.fresh

/-- What removes nothing changes nothing. -/
lemma refused (h : emitter.Agrees number record) :
    emitter.Agrees number (.unsubscribed handle false :: record) :=
  ⟨h.roll, h.fresh⟩

/-- Listeners stand in the order in which their numbers were given. -/
lemma pairwise (h : emitter.Agrees number record)
    (hg : record.given.Pairwise fun late early =>
      late.emitter = early.emitter → early.listener < late.listener) :
    emitter.listeners.Pairwise fun l k => l.id < k.id := by
  have hall : record.given.reverse.zipIdx.Pairwise fun early late =>
      early.1.emitter = late.1.emitter → early.1.listener < late.1.listener := by
    have hgiven : (record.given.reverse.zipIdx.map Prod.fst).Pairwise fun early late =>
        early.emitter = late.emitter → early.listener < late.listener := by
      rw [List.zipIdx_map_fst, List.pairwise_reverse]
      exact hg.imp fun hlt he => hlt he.symm
    exact List.pairwise_map.1 hgiven
  have hroll : (emitter.roll number).Pairwise fun early late =>
      early.1.emitter = late.1.emitter → early.1.listener < late.1.listener := by
    rw [h.roll]
    exact (hall.filter _).filter _
  exact (List.pairwise_map.1 hroll).imp fun hlt => hlt rfl

/-- Where handles are given out only once, the listener of a handle is the one of
its subscription. -/
lemma handle_eq_iff (h : emitter.Agrees number record) (hg : record.given.Nodup) {k : Nat}
    (hk : record.given.reverse[k]? = some handle) {l : Listener β} (hl : l ∈ emitter.listeners) :
    (⟨emitter.id, l.id⟩ : Handle) = handle ↔ number l.what = k := by
  have hmem := (Record.mem_standing.1 (h.mem_standing hl)).1
  constructor
  · intro he
    rw [he] at hmem
    exact (List.getElem?_inj (List.getElem?_eq_some_iff.1 hmem).1 (List.nodup_reverse.2 hg)).1
      (hmem.trans hk.symm)
  · intro he
    rw [he] at hmem
    exact Option.some.inj (hmem.symm.trans hk)

/-- So to leave out the listener of the one is to leave out the listener of the other. -/
lemma without_eq (h : emitter.Agrees number record) (hg : record.given.Nodup) {k : Nat}
    (hk : record.given.reverse[k]? = some handle) :
    emitter.without handle = emitter.withoutNumber number k := by
  unfold Emitter.without withoutNumber
  congr 1
  exact List.filter_congr fun l hl => decide_eq_decide.2 (not_congr (h.handle_eq_iff hg hk hl))

end Agrees

end Emitter

/-! ### Feeds and handles -/

namespace Feed

variable {f g h : Feed} {handle : Handle} {record later : Record}

/-- All that subscriptions are about: both emitters, the handles, and the number of the subscription
that is made next. -/
def register (f : Feed) :
    Emitter Nat × Emitter (Option Topic × Nat) × List (String × Handle) × Nat :=
  (f.statusListeners, f.eventListeners, f.subscriptions, f.subscribers.length)

/-- A record of what becomes of subscriptions while the feed goes on from `f` to `g`. -/
inductive Deals : Feed → Record → Feed → Prop
  /-- Something happens that touches no subscription. -/
  | idle {f g : Feed} (he : g.register = f.register) : Deals f [] g
  /-- Somebody subscribes, and gets the handle that the feed writes down. -/
  | subscribed {f : Feed} {target : Target} {name : String} {handler : Handler} {handle : Handle}
      (he : (f.subscribe target name handler).subscriptions = (name, handle) :: f.subscriptions) :
      Deals f [.subscribed handle] (f.subscribe target name handler)
  /-- Somebody unsubscribes with a handle of whatever origin. -/
  | unsubscribed {f : Feed} {handle : Handle} :
      Deals f [.unsubscribed handle (f.unsubscribe handle).1] (f.unsubscribe handle).2
  | trans {f g h : Feed} {record later : Record} (hfg : Deals f record g)
      (hgh : Deals g later h) : Deals f (later ++ record) h

/-- The record of a feed from the moment at which it was made. -/
def Recorded (record : Record) (f : Feed) : Prop :=
  ∃ settings refreshable status events f₀, ofSettings settings refreshable = .ok f₀ ∧
    status ≠ events ∧ (f₀.numbered status events).Deals record f

/-- The record of a feed goes on with what is done next. -/
lemma Recorded.deals (hr : Recorded record f) (hd : f.Deals later g) :
    Recorded (later ++ record) g := by
  obtain ⟨settings, refreshable, status, events, f₀, h₀, hne, hbefore⟩ := hr
  exact ⟨settings, refreshable, status, events, f₀, h₀, hne, hbefore.trans hd⟩

/-- A subscription is registered, with either emitter. -/
def IsRegistered (f : Feed) (k : Nat) : Prop :=
  (∃ l ∈ f.statusListeners.listeners, l.what = k) ∨ ∃ l ∈ f.eventListeners.listeners, l.what.2 = k

instance (f : Feed) (k : Nat) : Decidable (f.IsRegistered k) :=
  inferInstanceAs (Decidable (_ ∨ _))

/-- The feed without the listener of a subscription; all others stay as they stand. -/
def withoutNumber (f : Feed) (k : Nat) : Feed :=
  { f with
    statusListeners := f.statusListeners.withoutNumber id k
    eventListeners := f.eventListeners.withoutNumber Prod.snd k }

/-- Where the emitters can be told apart, a handle removes the listener to which it belongs from the
emitter to which it belongs. -/
lemma unsubscribe_eq (h : f.statusListeners.id ≠ f.eventListeners.id) (handle : Handle) :
    f.unsubscribe handle =
      (decide ((∃ l ∈ f.statusListeners.listeners, ⟨f.statusListeners.id, l.id⟩ = handle) ∨
          ∃ l ∈ f.eventListeners.listeners, ⟨f.eventListeners.id, l.id⟩ = handle),
        { f with
          statusListeners := f.statusListeners.without handle
          eventListeners := f.eventListeners.without handle }) := by
  unfold unsubscribe
  rw [Emitter.unsubscribe_eq, Emitter.unsubscribe_eq]
  dsimp only
  split
  · next he =>
    obtain ⟨l, hl, rfl⟩ := of_decide_eq_true he
    have hstatus : f.statusListeners.without ⟨f.eventListeners.id, l.id⟩ = f.statusListeners :=
      Emitter.without_eq_self fun k _ hk => h (congrArg Handle.emitter hk)
    rw [hstatus, decide_eq_true (.inr ⟨l, hl, rfl⟩)]
  · next he =>
    have hevents : f.eventListeners.without handle = f.eventListeners :=
      Emitter.without_eq_self fun k hk heq => he (decide_eq_true ⟨k, hk, heq⟩)
    rw [hevents]
    refine Prod.ext (decide_eq_decide.2 (or_iff_left fun hex => he (decide_eq_true hex)).symm) rfl

/-- The books of a feed agree with a record: every handle belongs to one of the two emitters, later
ones of one emitter have higher numbers, and none has removed a subscription twice. -/
structure Accounts (f : Feed) (record : Record) : Prop where
  apart : f.statusListeners.id ≠ f.eventListeners.id
  handles : f.subscriptions.map Prod.snd = record.given
  count : f.subscribers.length = record.given.length
  status : f.statusListeners.Agrees id record
  events : f.eventListeners.Agrees Prod.snd record
  own : ∀ handle ∈ record.given,
    handle.emitter = f.statusListeners.id ∨ handle.emitter = f.eventListeners.id
  increasing : record.given.Pairwise fun late early =>
    late.emitter = early.emitter → early.listener < late.listener
  removed : record.removed ⊆ record.given
  once : record.removed.Nodup

namespace Accounts

/-- A feed to which nobody has subscribed has an empty record. -/
lemma of_ofSettings {settings : Settings} {refreshable : Bool} {status events : Nat}
    (hf : ofSettings settings refreshable = .ok f) (hne : status ≠ events) :
    (f.numbered status events).Accounts [] := by
  obtain ⟨request, rfl⟩ := eq_of_ofSettings hf
  exact ⟨hne, rfl, rfl, ⟨rfl, by simp [Record.given]⟩, ⟨rfl, by simp [Record.given]⟩,
    by simp [Record.given], .nil, List.Subset.refl _, .nil⟩

/-- What touches no subscription keeps the books. -/
lemma congr (ha : f.Accounts record) (he : g.register = f.register) : g.Accounts record := by
  simp only [register, Prod.mk.injEq] at he
  obtain ⟨status, events, subscriptions, count⟩ := he
  obtain ⟨apart, handles, length, hstatus, hevents, own, increasing, removed, once⟩ := ha
  rw [← status] at apart hstatus own
  rw [← events] at apart hevents own
  exact ⟨apart, subscriptions ▸ handles, count.trans length, hstatus, hevents, own, increasing,
    removed, once⟩

/-- No handle is given out twice. -/
lemma nodup_given (ha : f.Accounts record) : record.given.Nodup := by
  have hne : record.given.Pairwise (· ≠ ·) := by
    refine ha.increasing.imp fun hlt he => ?_
    subst he
    exact Nat.lt_irrefl _ (hlt rfl)
  exact hne

/-- A handle belongs to a listener if its subscription stands. -/
lemma exists_listener_iff (ha : f.Accounts record) {k : Nat}
    (hk : record.given.reverse[k]? = some handle) :
    ((∃ l ∈ f.statusListeners.listeners, (⟨f.statusListeners.id, l.id⟩ : Handle) = handle) ∨
      ∃ l ∈ f.eventListeners.listeners, (⟨f.eventListeners.id, l.id⟩ : Handle) = handle) ↔
        handle ∉ record.removed := by
  constructor
  · rintro (⟨l, hl, rfl⟩ | ⟨l, hl, rfl⟩)
    · exact (Record.mem_standing.1 (ha.status.mem_standing hl)).2
    · exact (Record.mem_standing.1 (ha.events.mem_standing hl)).2
  · intro hr
    have hs : (handle, k) ∈ record.standing := Record.mem_standing.2 ⟨hk, hr⟩
    rcases ha.own handle (Record.mem_given_of_mem_standing hs) with he | he
    · obtain ⟨l, hl, heq, -⟩ := ha.status.exists_listener hs he
      exact .inl ⟨l, hl, heq⟩
    · obtain ⟨l, hl, heq, -⟩ := ha.events.exists_listener hs he
      exact .inr ⟨l, hl, heq⟩

/-- A handle that does not belong to a standing subscription belongs to no listener. -/
lemma unsubscribe_eq_false (ha : f.Accounts record)
    (hh : handle ∉ record.given ∨ handle ∈ record.removed) :
    f.unsubscribe handle = (false, f) := by
  have hnone : ∀ entry ∈ record.standing, entry.1 ≠ handle := by
    rintro entry he rfl
    exact hh.elim (fun hg => hg (Record.mem_given_of_mem_standing he))
      (Record.mem_standing.1 he).2
  have hstatus : ∀ l ∈ f.statusListeners.listeners,
      (⟨f.statusListeners.id, l.id⟩ : Handle) ≠ handle :=
    fun l hl => hnone _ (ha.status.mem_standing hl)
  have hevents : ∀ l ∈ f.eventListeners.listeners,
      (⟨f.eventListeners.id, l.id⟩ : Handle) ≠ handle :=
    fun l hl => hnone _ (ha.events.mem_standing hl)
  rw [Feed.unsubscribe_eq ha.apart, Emitter.without_eq_self hstatus,
    Emitter.without_eq_self hevents, decide_eq_false]
  rintro (⟨l, hl, he⟩ | ⟨l, hl, he⟩)
  · exact hstatus l hl he
  · exact hevents l hl he

/-- A subscription is registered until its handle has removed it. -/
lemma isRegistered_iff (ha : f.Accounts record) {k : Nat}
    (hk : record.given.reverse[k]? = some handle) :
    f.IsRegistered k ↔ handle ∉ record.removed := by
  rw [← ha.exists_listener_iff hk]
  refine or_congr (exists_congr fun l => and_congr_right fun hl => ?_)
    (exists_congr fun l => and_congr_right fun hl => ?_)
  · exact (ha.status.handle_eq_iff ha.nodup_given hk hl).symm
  · exact (ha.events.handle_eq_iff ha.nodup_given hk hl).symm

/-- A handle removes the subscription that returned it, if it is still registered. -/
lemma unsubscribe_eq (ha : f.Accounts record) {k : Nat}
    (hk : record.given.reverse[k]? = some handle) :
    f.unsubscribe handle = (decide (f.IsRegistered k), f.withoutNumber k) := by
  rw [Feed.unsubscribe_eq ha.apart, ha.status.without_eq ha.nodup_given hk,
    ha.events.without_eq ha.nodup_given hk]
  exact Prod.ext (decide_eq_decide.2
    ((ha.exists_listener_iff hk).trans (ha.isRegistered_iff hk).symm)) rfl

/-- A handle that is given out now has removed nothing. -/
lemma notMem_removed (ha : f.Accounts record) (hf : handle ∉ record.given) :
    handle ∉ record.removed :=
  fun hm => hf (ha.removed hm)

/-- A subscription keeps the books, whichever emitter it is made with. -/
lemma subscribe (ha : f.Accounts record) {target : Target} {name : String} {handler : Handler}
    (he : (f.subscribe target name handler).subscriptions = (name, handle) :: f.subscriptions) :
    (f.subscribe target name handler).Accounts (.subscribed handle :: record) := by
  have hcount : (f.subscribe target name handler).subscribers.length =
      record.given.length + 1 := by
    rw [subscribers_subscribe, List.length_append, List.length_singleton, ha.count]
  have hhandles : (f.subscribe target name handler).subscriptions.map Prod.snd =
      handle :: record.given := by
    rw [he, List.map_cons, ha.handles]
  have hold : ∀ other ∈ record.given, other.emitter = handle.emitter →
      other.listener < handle.listener := by
    cases target with
    | status =>
      obtain rfl : _ = handle := congrArg Prod.snd (List.cons.inj he).1
      exact ha.status.fresh
    | events only =>
      obtain rfl : _ = handle := congrArg Prod.snd (List.cons.inj he).1
      exact ha.events.fresh
  have hnew : handle ∉ record.removed :=
    ha.notMem_removed fun hm => Nat.lt_irrefl _ (hold handle hm rfl)
  have hincreasing : (handle :: record.given).Pairwise fun late early =>
      late.emitter = early.emitter → early.listener < late.listener :=
    List.pairwise_cons.2 ⟨fun other hm heq => hold other hm heq.symm, ha.increasing⟩
  have hremoved : record.removed ⊆ handle :: record.given :=
    fun other hm => List.mem_cons_of_mem _ (ha.removed hm)
  cases target with
  | status =>
    obtain rfl : _ = handle := congrArg Prod.snd (List.cons.inj he).1
    exact
      { apart := ha.apart
        handles := hhandles
        count := hcount
        status := ha.status.subscribe ha.removed ha.count
        events := ha.events.subscribe_other hnew ha.apart
        own := List.forall_mem_cons.2 ⟨.inl rfl, ha.own⟩
        increasing := hincreasing
        removed := hremoved
        once := ha.once }
  | events only =>
    obtain rfl : _ = handle := congrArg Prod.snd (List.cons.inj he).1
    exact
      { apart := ha.apart
        handles := hhandles
        count := hcount
        status := ha.status.subscribe_other hnew ha.apart.symm
        events := ha.events.subscribe ha.removed ha.count
        own := List.forall_mem_cons.2 ⟨.inr rfl, ha.own⟩
        increasing := hincreasing
        removed := hremoved
        once := ha.once }

/-- An attempt to remove a subscription keeps the books, whatever comes of it. -/
lemma unsubscribe (ha : f.Accounts record) (handle : Handle) :
    (f.unsubscribe handle).2.Accounts
      (.unsubscribed handle (f.unsubscribe handle).1 :: record) := by
  by_cases hh : handle ∉ record.given ∨ handle ∈ record.removed
  · rw [ha.unsubscribe_eq_false hh]
    exact { ha with status := ha.status.refused, events := ha.events.refused }
  · obtain ⟨hg, hr⟩ : handle ∈ record.given ∧ handle ∉ record.removed := by simpa using hh
    obtain ⟨k, hk⟩ := List.mem_iff_getElem?.1 (List.mem_reverse.2 hg)
    have htrue : (f.unsubscribe handle).1 = true := by
      rw [ha.unsubscribe_eq hk]
      exact decide_eq_true ((ha.isRegistered_iff hk).2 hr)
    rw [htrue, Feed.unsubscribe_eq ha.apart]
    exact
      { ha with
        status := ha.status.without handle
        events := ha.events.without handle
        removed := List.cons_subset.2 ⟨hg, ha.removed⟩
        once := List.nodup_cons.2 ⟨hr, ha.once⟩ }

end Accounts

/-- Whatever is done about subscriptions, the books are kept. -/
theorem Deals.accounts {before : Record} (hd : f.Deals record g) (ha : f.Accounts before) :
    g.Accounts (record ++ before) := by
  induction hd generalizing before with
  | idle he => exact ha.congr he
  | subscribed he => exact ha.subscribe he
  | @unsubscribed _ handle => exact ha.unsubscribe handle
  | trans _ _ ihfg ihgh =>
    rw [List.append_assoc]
    exact ihgh (ihfg ha)

/-- The books of a feed agree with its record. -/
theorem Recorded.accounts (hr : Recorded record f) : f.Accounts record := by
  obtain ⟨settings, refreshable, status, events, f₀, h₀, hne, hd⟩ := hr
  have ha := hd.accounts (.of_ofSettings h₀ hne)
  rwa [List.append_nil] at ha

/-- What handles do to a feed is told exactly by its record. The place of a handle among those that
have been given out is the number of the subscription that returned it. -/
structure Exact (record : Record) (f : Feed) : Prop where
  handles : f.subscriptions.map Prod.snd = record.given
  /-- With each emitter those are registered who subscribed there and have not been removed, in the
  order in which they subscribed. -/
  status : f.statusListeners.roll id =
    record.standing.filter fun entry => entry.1.emitter = f.statusListeners.id
  events : f.eventListeners.roll Prod.snd =
    record.standing.filter fun entry => entry.1.emitter = f.eventListeners.id
  statusInOrder : f.statusListeners.listeners.Pairwise fun l k => l.id < k.id
  eventsInOrder : f.eventListeners.listeners.Pairwise fun l k => l.id < k.id
  /-- In each emitter numbers increase with every subscription, also past those that have been
  removed, so none is used again. -/
  increasing : record.given.Pairwise fun late early =>
    late.emitter = early.emitter → early.listener < late.listener
  /-- A handle removes the subscription that returned it and no other, if it is registered. -/
  removes : ∀ {k : Nat} {handle : Handle}, record.given.reverse[k]? = some handle →
    f.unsubscribe handle = (decide (f.IsRegistered k), f.withoutNumber k)
  /-- It is registered until that handle has removed it. -/
  registered : ∀ {k : Nat} {handle : Handle}, record.given.reverse[k]? = some handle →
    (f.IsRegistered k ↔ handle ∉ record.removed)
  once : record.removed.Nodup
  /-- A handle that has removed its subscription, or was never given out, removes nothing. -/
  refuses : ∀ {handle : Handle}, handle ∈ record.removed ∨ handle ∉ record.given →
    f.unsubscribe handle = (false, f)

/-- What handles do follows from the books. -/
lemma Accounts.exact (ha : f.Accounts record) : Exact record f where
  handles := ha.handles
  status := ha.status.roll
  events := ha.events.roll
  statusInOrder := ha.status.pairwise ha.increasing
  eventsInOrder := ha.events.pairwise ha.increasing
  increasing := ha.increasing
  removes := ha.unsubscribe_eq
  registered := ha.isRegistered_iff
  once := ha.once
  refuses hh := ha.unsubscribe_eq_false hh.symm

/-! ### The numbers of emitters -/

/-- The numbers of both emitters. -/
def numbers (f : Feed) : Nat × Nat :=
  (f.statusListeners.id, f.eventListeners.id)

/-- Emitters keep their numbers, whatever is done about subscriptions. -/
lemma Deals.numbers_eq (hd : f.Deals record g) : g.numbers = f.numbers := by
  induction hd with
  | idle he =>
    simp only [register, Prod.mk.injEq] at he
    rw [numbers, he.1, he.2.1]
    rfl
  | @subscribed _ target => cases target <;> rfl
  | @unsubscribed f handle =>
    unfold unsubscribe
    rw [Emitter.unsubscribe_eq, Emitter.unsubscribe_eq]
    dsimp only
    split <;> rfl
  | trans _ _ ihfg ihgh => exact ihgh.trans ihfg

end Feed

end EventFeed
