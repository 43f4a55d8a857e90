import EventFeed.Proofs.Feed.Dealings

/-!
# Feeds side by side

Feeds are made one after the other, and emitters that belong to none of them in between. Numbers of
emitters are given in turn, so all emitters of all feeds have different ones, and every handle tells
from which of them it comes.

That is all that feeds have in common. The record of each of them says what its own handles do; with
a handle of another one, nothing is removed and nothing changes.
-/

namespace EventFeed.Feeds

open Feed (Dealt DealsOnly Recorded Exact numbers)

variable {depth : Nat} {feeds feeds' : Feeds} {f f' g g' : Feed}

/-! ### What is reached -/

/-- Some feeds are reached: they have been made one after the other, others have made emitters in
the meantime, and events have happened at each of them. -/
inductive Reachable (depth : Nat) : Feeds → Prop
  | none : Reachable depth {}
  | passed {feeds : Feeds} (hr : Reachable depth feeds) : Reachable depth feeds.passEmitter
  | created {feeds feeds' : Feeds} {settings : Settings} {refreshable : Bool} {between : Nat}
      (hr : Reachable depth feeds)
      (hc : feeds.create settings refreshable between = .ok feeds') : Reachable depth feeds'
  | stepped {feeds feeds' : Feeds} {place : Nat} {event : Event} (hr : Reachable depth feeds)
      (hs : feeds.step? depth place event = some feeds') : Reachable depth feeds'

/-- What it is to make a feed. -/
lemma exists_of_create {settings : Settings} {refreshable : Bool} {between : Nat}
    (hc : feeds.create settings refreshable between = .ok feeds') :
    ∃ f, Feed.ofSettings settings refreshable = .ok f ∧
      feeds' =
        { all := feeds.all ++ [f.numbered feeds.nextEmitter (feeds.nextEmitter + 1 + between)]
          nextEmitter := feeds.nextEmitter + 1 + between + 1 } := by
  unfold create at hc
  cases hf : Feed.ofSettings settings refreshable with
  | error e => rw [hf] at hc; exact absurd hc (by simp [bind, Except.bind])
  | ok f =>
    rw [hf] at hc
    exact ⟨f, rfl, (Except.ok.inj hc).symm⟩

/-- What it is for something to happen at a feed. -/
lemma exists_of_step? {place : Nat} {event : Event}
    (hs : feeds.step? depth place event = some feeds') :
    ∃ f g, feeds.all[place]? = some f ∧ f.step? depth event = some g ∧
      feeds' = { feeds with all := feeds.all.set place g } := by
  obtain ⟨f, hf, hs⟩ := Option.bind_eq_some_iff.1 hs
  obtain ⟨g, hg, hs⟩ := Option.bind_eq_some_iff.1 hs
  exact ⟨f, g, hf, hg, (Option.some.inj hs).symm⟩

/-- Events that can happen one after the other lead on. -/
lemma Reachable.run? {events : List (Nat × Event)} (hr : Reachable depth feeds)
    (hs : feeds.run? depth events = some feeds') : Reachable depth feeds' := by
  induction events generalizing feeds with
  | nil =>
    obtain rfl := Option.some.inj hs
    exact hr
  | cons event rest ih =>
    obtain ⟨next, hnext, hrest⟩ := Option.bind_eq_some_iff.1 hs
    exact ih (hr.stepped hnext) hrest

/-! ### Numbers and records -/

/-- Every feed has a record, and its emitters have numbers that have been given: the one for its
status comes first, and both come before those of later feeds. -/
structure Numbered (feeds : Feeds) : Prop where
  sound : ∀ f ∈ feeds.all, f.WellFormed Conduct.free ∧ ∃ record, Recorded record f
  given : ∀ n ∈ feeds.all.map numbers, n.1 < n.2 ∧ n.2 < feeds.nextEmitter
  apart : (feeds.all.map numbers).Pairwise fun n m => n.2 < m.1

namespace Numbered

/-- Numbers that others take are not given to feeds. -/
lemma passEmitter (hn : feeds.Numbered) : feeds.passEmitter.Numbered where
  sound := hn.sound
  given n hm := ⟨(hn.given n hm).1, Nat.lt_succ_of_lt (hn.given n hm).2⟩
  apart := hn.apart

/-- A feed that is made gets numbers that come after all others. -/
lemma create {settings : Settings} {refreshable : Bool} {between : Nat} (hn : feeds.Numbered)
    (hc : feeds.create settings refreshable between = .ok feeds') : feeds'.Numbered := by
  obtain ⟨f, hf, rfl⟩ := exists_of_create hc
  have hwf : f.WellFormed Conduct.free := .of_ofSettings hf
  have hne : feeds.nextEmitter ≠ feeds.nextEmitter + 1 + between := by omega
  refine ⟨fun g hg => ?_, fun n hm => ?_, ?_⟩
  · rcases List.mem_append.1 hg with hg | hg
    · exact hn.sound g hg
    · rw [List.mem_singleton.1 hg]
      exact ⟨hwf.of_engine rfl (hwf.keeps.congr rfl), [], _, _, _, _, f, hf, hne, .idle rfl⟩
  · rw [List.map_append] at hm
    rcases List.mem_append.1 hm with hm | hm
    · have hlt := hn.given n hm
      exact ⟨hlt.1, by dsimp only; omega⟩
    · rw [List.mem_singleton.1 hm]
      dsimp only [Feed.numbers, Feed.numbered]
      omega
  · rw [List.map_append]
    refine List.pairwise_append.2 ⟨hn.apart, List.pairwise_singleton _ _, fun n hm m hm' => ?_⟩
    rw [List.mem_singleton.1 hm']
    exact (hn.given n hm).2

/-- What happens at a feed is written into its record, and leaves all numbers as they are. -/
lemma step {place : Nat} {event : Event} (hn : feeds.Numbered)
    (hs : feeds.step? depth place event = some feeds') : feeds'.Numbered := by
  obtain ⟨f, g, hf, hg, rfl⟩ := exists_of_step? hs
  obtain ⟨hwf, record, hrecord⟩ := hn.sound f (List.mem_of_getElem? hf)
  obtain ⟨later, hlater⟩ :=
    (Feed.stepped_of_step? hwf hg).dealt (Feed.dealsOnly_respond depth)
  have hnumbers : (feeds.all.set place g).map numbers = feeds.all.map numbers := by
    obtain ⟨hlt, rfl⟩ := List.getElem?_eq_some_iff.1 hf
    rw [List.map_set, hlater.numbers_eq, ← List.map_set, List.set_getElem_self]
  refine ⟨fun k hk => ?_, ?_, ?_⟩
  · rcases List.mem_or_eq_of_mem_set hk with hk | rfl
    · exact hn.sound k hk
    · exact ⟨Feed.wellFormed_step hwf event.keeps_free hg, _, hrecord.deals hlater⟩
  · rw [hnumbers]
    exact hn.given
  · rw [hnumbers]
    exact hn.apart

/-- Different feeds have different emitters. -/
lemma ne_of_ne (hn : feeds.Numbered) {i j : Nat} (hij : i ≠ j) (hf : feeds.all[i]? = some f)
    (hg : feeds.all[j]? = some g) {handle : Handle}
    (h : handle.emitter = f.statusListeners.id ∨ handle.emitter = f.eventListeners.id) :
    handle.emitter ≠ g.statusListeners.id ∧ handle.emitter ≠ g.eventListeners.id := by
  obtain ⟨hi, rfl⟩ := List.getElem?_eq_some_iff.1 hf
  obtain ⟨hj, rfl⟩ := List.getElem?_eq_some_iff.1 hg
  have hfn := hn.given _ (List.mem_map_of_mem (List.getElem_mem hi))
  have hgn := hn.given _ (List.mem_map_of_mem (List.getElem_mem hj))
  have hapart := List.pairwise_iff_getElem.1 (List.pairwise_map.1 hn.apart)
  dsimp only [Feed.numbers] at hfn hgn hapart
  rcases Nat.lt_or_gt_of_ne hij with hlt | hlt
  · have := hapart i j hi hj hlt
    omega
  · have := hapart j i hj hi hlt
    omega

end Numbered

/-- All feeds that are reached have records and numbers of their own. -/
theorem Reachable.numbered (hr : feeds.Reachable depth) : feeds.Numbered := by
  induction hr with
  | none => exact ⟨by simp, by simp, .nil⟩
  | passed _ ih => exact ih.passEmitter
  | created _ hc ih => exact ih.create hc
  | stepped _ hs ih => exact ih.step hs

/-- A handle that one feed has given out removes nothing from another one, whatever happens at
either of them. -/
lemma Reachable.refuses (hr : feeds.Reachable depth) {i j : Nat} (hij : i ≠ j)
    (hf : feeds.all[i]? = some f) (hg : feeds.all[j]? = some g) (hf' : f.Dealt f')
    (hg' : g.Dealt g') {handle : Handle} (hh : handle ∈ f'.subscriptions.map Prod.snd) :
    g'.unsubscribe handle = (false, g') := by
  have hn := hr.numbered
  obtain ⟨-, record, hrecord⟩ := hn.sound f (List.mem_of_getElem? hf)
  obtain ⟨-, record', hrecord'⟩ := hn.sound g (List.mem_of_getElem? hg)
  obtain ⟨later, hd⟩ := hf'
  obtain ⟨later', hd'⟩ := hg'
  have hfa := hd.accounts hrecord.accounts
  have hga := hd'.accounts hrecord'.accounts
  refine hga.exact.refuses (.inr fun hgiven => ?_)
  -- The emitter of the handle would be one of either feed.
  have hown := hfa.own handle (hfa.handles ▸ hh)
  have hown' := hga.own handle hgiven
  have hfn := Prod.mk.inj hd.numbers_eq
  have hgn := Prod.mk.inj hd'.numbers_eq
  rw [hfn.1, hfn.2] at hown
  rw [hgn.1, hgn.2] at hown'
  have hne := hn.ne_of_ne hij hf hg hown
  exact hown'.elim hne.1 hne.2

/-! ### Handles -/

/-- Whatever is done with feeds, every subscription is removed at most once, and by its own handle
only.

Whoever subscribes to a feed or unsubscribes, a caller or a subscriber that is told something, and
however deep publications nest: what becomes of subscriptions can be written down in a record. The
feeds that are reached have such records, every event goes on with them, and so does a publication
to subscribers that answer in whatever way.

At every moment the record tells exactly what handles do. In each emitter listeners stand in the
order of their registration, with numbers that increase and are never used again. A handle removes
the subscription that returned it, if that is still registered, and all others in both emitters stay
as they stand; it is registered until that has happened, and it happens once. Any other handle
removes nothing and leaves the feed as it is. So does a handle of another feed, also in the midst of
what happens at either of them. -/
theorem removed_by_own_handle :
    (∀ {depth : Nat} {feeds : Feeds}, feeds.Reachable depth →
      (∀ f ∈ feeds.all, (∃ record, Recorded record f) ∧
        ∀ event g, f.step? depth event = some g → f.Dealt g) ∧
      ∀ {i j : Nat} {f g f' g' : Feed}, i ≠ j → feeds.all[i]? = some f → feeds.all[j]? = some g →
        f.Dealt f' → g.Dealt g' → ∀ handle ∈ f'.subscriptions.map Prod.snd,
          g'.unsubscribe handle = (false, g')) ∧
    (∀ {respond : Respond}, DealsOnly respond → ∀ f : Feed,
      (∀ status, f.Dealt (Feed.publishStatus respond status f).2) ∧
        ∀ event, f.Dealt (Feed.publishEvent respond event f).2) ∧
    ∀ {record : Record} {f : Feed}, Recorded record f → Exact record f := by
  refine ⟨fun {depth feeds} hr => ⟨fun f hf => ?_, ?_⟩, fun hr f => ?_, fun hr => hr.accounts.exact⟩
  · obtain ⟨hwf, hrecord⟩ := hr.numbered.sound f hf
    exact ⟨hrecord, fun event g hs =>
      (Feed.stepped_of_step? hwf hs).dealt (Feed.dealsOnly_respond depth)⟩
  · exact fun hij hf hg hf' hg' handle hh => hr.refuses hij hf hg hf' hg' hh
  · exact ⟨Feed.dealt_publishStatus hr f, Feed.dealt_publishEvent hr f⟩

/-- Two feeds of the standard settings after some events, if they can happen one after the other. -/
def played? (depth : Nat) (events : List (Nat × Event)) : Option Feeds :=
  (create .standard false 0 {}).toOption.bind fun one =>
    (one.create .standard false 0).toOption.bind fun two => two.run? depth events

/-- Two feeds after some events are reached. -/
lemma Reachable.of_played? {events : List (Nat × Event)} (h : played? depth events = some feeds) :
    Reachable depth feeds := by
  obtain ⟨one, hone, h⟩ := Option.bind_eq_some_iff.1 h
  obtain ⟨two, htwo, hrun⟩ := Option.bind_eq_some_iff.1 h
  exact ((Reachable.none.created (eq_ok_of_toOption hone)).created
    (eq_ok_of_toOption htwo)).run? hrun

/-- The first subscriber removes itself when it is told that the feed connects. Its handle has the
same number as the one of the second subscriber, to events, and as the one of a subscriber of
another feed. It removes the first subscription once, and neither of the others. -/
theorem removed_by_own_handle_instances :
    ∃ (feeds : Feeds) (f g f' : Feed), feeds.Reachable 2 ∧ feeds.all[0]? = some f ∧
      feeds.all[1]? = some g ∧ f.step? 2 (.call (.start 0)) = some f' ∧
      f.subscriptions = [("second", ⟨2, 0⟩), ("first", ⟨1, 0⟩)] ∧
      g.subscriptions = [("third", ⟨3, 0⟩)] ∧
      f.unsubscribe ⟨1, 0⟩ = (true, f.withoutNumber 0) ∧ f.IsRegistered 1 ∧
      ¬f'.IsRegistered 0 ∧ f'.IsRegistered 1 ∧ f'.unsubscribe ⟨1, 0⟩ = (false, f') ∧
      g.unsubscribe ⟨1, 0⟩ = (false, g) ∧
      f.Dealt (Feed.publishStatus (Feed.respond 2) .connected f).2 := by
  let leaves : Handler := Feed.answering (.status .initializing) (.unsubscribe "first")
  let idles : Handler := fun _ => []
  let events : List (Nat × Event) :=
    [(0, .call (.subscribe .status "first" leaves)),
      (0, .call (.subscribe (.events none) "second" idles)),
      (1, .call (.subscribe .status "third" idles))]
  obtain ⟨feeds, hp, f, hf, ⟨hfs, hstart⟩, ⟨g, hg, hgs⟩, f', hs, hfs', hend⟩ :
      ∃ feeds ∈ played? 2 events, ∃ f ∈ feeds.all[0]?,
        (f.subscriptions = [("second", ⟨2, 0⟩), ("first", ⟨1, 0⟩)] ∧
          f.IsRegistered 0 ∧ f.IsRegistered 1) ∧
        (∃ g ∈ feeds.all[1]?, g.subscriptions = [("third", ⟨3, 0⟩)]) ∧
        ∃ f' ∈ f.step? 2 (.call (.start 0)), f'.subscriptions = f.subscriptions ∧
          ¬f'.IsRegistered 0 ∧ f'.IsRegistered 1 := by
    decide +kernel
  have hr : feeds.Reachable 2 := .of_played? hp
  obtain ⟨hreached, hpublished, hexact⟩ := removed_by_own_handle
  obtain ⟨hrecords, hforeign⟩ := hreached hr
  obtain ⟨⟨record, hrecord⟩, hsteps⟩ := hrecords f (List.mem_of_getElem? hf)
  -- The record goes on from the one state to the other.
  obtain ⟨later, hlater⟩ := hsteps _ f' hs
  have hrecord' : Recorded (later ++ record) f' := hrecord.deals hlater
  have hone : record.given.reverse[0]? = some ⟨1, 0⟩ := by
    rw [← (hexact hrecord).handles, hfs]
    rfl
  have hone' : (Record.given (later ++ record)).reverse[0]? = some ⟨1, 0⟩ := by
    rw [← (hexact hrecord').handles, hfs', hfs]
    rfl
  have hremoved : ⟨1, 0⟩ ∈ Record.removed (later ++ record) := by
    by_contra hnot
    exact hend.1 (((hexact hrecord').registered hone').2 hnot)
  have hremoves := (hexact hrecord).removes hone
  rw [decide_eq_true hstart.1] at hremoves
  refine ⟨feeds, f, g, f', hr, hf, hg, hs, hfs, hgs, hremoves, hstart.2, hend.1, hend.2,
    (hexact hrecord').refuses (.inl hremoved), ?_,
    (hpublished (Feed.dealsOnly_respond 2) f).1 .connected⟩
  exact hforeign Nat.zero_ne_one hf hg (.refl f) (.refl g) ⟨1, 0⟩ (by rw [hfs]; decide)

end EventFeed.Feeds
