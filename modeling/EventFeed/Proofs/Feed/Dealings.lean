import EventFeed.Proofs.Feed.Subscriptions
import EventFeed.Proofs.Feed.Outward

/-!
# Subscriptions in the course of everything else

Whatever a feed does, it touches subscriptions only by subscribing somebody and by unsubscribing
somebody: an operation of a caller does so when it is one of the two, and everything else when
subscribers that are told something answer with one of them, however deep publications nest. So
every step of a feed has a record, and so has every run.

Feeds side by side have emitters with different numbers. A handle of one of them is therefore none
that another one has given out, and removes nothing there.
-/

namespace EventFeed.Feed

variable {respond : Respond} {f f' g h : Feed}

/-- Between two states of a feed there is a record. -/
def Dealt (f g : Feed) : Prop :=
  ∃ record, f.Deals record g

namespace Dealt

/-- Whatever happens to the rest of the feed does not matter. -/
lemma of_eq (he : g.register = f.register) : f.Dealt g :=
  ⟨[], .idle he⟩

lemma refl (f : Feed) : f.Dealt f :=
  of_eq rfl

lemma trans (hfg : f.Dealt g) (hgh : g.Dealt h) : f.Dealt h := by
  obtain ⟨record, hfg⟩ := hfg
  obtain ⟨later, hgh⟩ := hgh
  exact ⟨later ++ record, hfg.trans hgh⟩

end Dealt

/-! ### What happens to subscribers alone -/

/-- A new subscription is a dealing. -/
lemma dealt_subscribe (f : Feed) (target : Target) (name : String) (handler : Handler) :
    f.Dealt (f.subscribe target name handler) := by
  cases target with
  | status => exact ⟨_, .subscribed rfl⟩
  | events only => exact ⟨_, .subscribed rfl⟩

/-- So is the removal of one. -/
lemma dealt_unsubscribe (f : Feed) (handle : Handle) : f.Dealt (f.unsubscribe handle).2 :=
  ⟨_, .unsubscribed⟩

/-- Using up a key touches no subscription. -/
lemma dealt_spend (f : Feed) (m key : Nat) : f.Dealt (f.spend m key).2 := by
  unfold spend
  split
  · exact .refl f
  · exact .of_eq (by simp [register])

/-- Neither does telling a subscriber something. -/
lemma dealt_tell (f : Feed) (m : Nat) (notice : Notice) : f.Dealt (f.tell m notice) :=
  .of_eq (by simp [register, tell, note])

/-- A dealing is a matter of those who subscribe and unsubscribe. -/
lemma outward_dealt : Outward Dealt where
  trans := .trans
  aside {f g} he := by
    simp only [outward, Prod.mk.injEq] at he
    obtain ⟨statuses, events, subscribers, subscriptions, -⟩ := he
    exact .of_eq (by simp only [register, statuses, events, subscribers, subscriptions])
  subscribe := dealt_subscribe
  unsubscribe := dealt_unsubscribe
  spend := dealt_spend

/-! ### Publications -/

/-- Answers touch subscriptions by dealings only. -/
def DealsOnly (respond : Respond) : Prop :=
  ∀ (m : Nat) (notice : Notice) (f : Feed), f.Dealt (respond m notice f).2

section DealsOnly

variable (hr : DealsOnly respond)

include hr

/-- A publication of a status touches subscriptions by the dealings of those who are told. -/
lemma dealt_publishStatus (f : Feed) (s : ConnectionState) :
    f.Dealt (publishStatus respond s f).2 := by
  have hnote : f.Dealt (f.note (.statusPublished s)) := .of_eq rfl
  exact hnote.trans (publishStatus_rel outward_dealt.chained (fun m g => hr m _ g) f)

/-- So does the publication of an event. -/
lemma dealt_publishEvent (f : Feed) (event : RoutedEvent) :
    f.Dealt (publishEvent respond event f).2 := by
  have hnote : f.Dealt (f.note (.eventPublished event)) := .of_eq rfl
  exact hnote.trans (publishEvent_rel outward_dealt.chained (fun m g => hr m _ g) f)

end DealsOnly

/-- However deep answers nest, they touch subscriptions by dealings only. -/
theorem dealsOnly_respond (depth : Nat) : DealsOnly (Feed.respond depth) := by
  have hdeals : ∀ {respond}, Answers Dealt respond → DealsOnly respond :=
    fun ha m notice f => (dealt_tell f m notice).trans (ha m notice f)
  exact hdeals <| outward_dealt.answers
    (fun _ ha s f => dealt_publishStatus (hdeals ha) f s) depth

/-! ### Steps -/

/-- Work of read loops touches no subscription. -/
lemma Busy.dealt (hb : f.Busy g) : f.Dealt g := by
  obtain ⟨_, _, _, _, _, rfl⟩ := hb.rest
  exact .of_eq rfl

/-- Every step touches subscriptions by dealings only. -/
theorem Stepped.dealt {event : Event} (hr : DealsOnly respond)
    (hs : Stepped respond f event f') : f.Dealt f' :=
  outward_dealt.stepped (fun s f => dealt_publishStatus hr f s)
    (fun event f => dealt_publishEvent hr f event) Busy.dealt hs

end EventFeed.Feed
