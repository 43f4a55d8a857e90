import EventFeed.Proofs.Feed.Notices

/-!
# Subscribers that ask for nothing

A subscriber answers what it is told by what it remembers, and it remembers everything. So what has
been answered between two states can be read off the later one: the subscribers are those who were
there before or have come since, and whatever they remember beyond what they knew is what they have
answered. `Refrains` says that no such answer was an operation.

If so, nothing has happened to the engine of the feed while somebody was told. Then the epoch passes
only where an operation of the feed itself ends it.
-/

namespace EventFeed.Feed

variable {respond : Respond} {f g h : Feed}

/-- What a subscriber has been told, the latest first. -/
def heard (f : Feed) (m : Nat) : List Notice :=
  (f.subscribers[m]?).elim [] Subscriber.heard

/-! ### Subscribers remember -/

/-- Whoever is known stays known, answers as before and remembers what it has been told. -/
def Remembers (f g : Feed) : Prop :=
  ∀ (m : Nat) (s : Subscriber), f.subscribers[m]? = some s →
    ∃ s', g.subscribers[m]? = some s' ∧ s'.handler = s.handler ∧ s.heard <:+ s'.heard

namespace Remembers

lemma of_eq (he : g.subscribers = f.subscribers) : f.Remembers g :=
  fun _ _ hs => ⟨_, he ▸ hs, rfl, List.suffix_rfl⟩

lemma trans (hfg : f.Remembers g) (hgh : g.Remembers h) : f.Remembers h := by
  intro m s hs
  obtain ⟨s', hs', hh, hp⟩ := hfg m s hs
  obtain ⟨s'', hs'', hh', hp'⟩ := hgh m s' hs'
  exact ⟨s'', hs'', hh'.trans hh, hp.trans hp'⟩

/-- A subscriber may be told more, or use up a key. -/
lemma modify {n : Nat} {change : Subscriber → Subscriber}
    (hs : g.subscribers = f.subscribers.modify n change)
    (hc : ∀ s, (change s).handler = s.handler ∧ s.heard <:+ (change s).heard) : f.Remembers g := by
  intro m s hm
  refine ⟨if n = m then change s else s, by simp [hs, List.getElem?_modify, hm], ?_⟩
  split
  · exact hc s
  · exact ⟨rfl, List.suffix_rfl⟩

/-- Nobody remembers less than before. -/
lemma heard_le (hr : f.Remembers g) (m : Nat) : (f.heard m).length ≤ (g.heard m).length := by
  unfold heard
  cases hs : f.subscribers[m]? with
  | none => exact Nat.zero_le _
  | some s =>
    obtain ⟨s', hs', -, hp⟩ := hr m s hs
    rw [hs']
    exact hp.length_le

end Remembers

/-- Telling a subscriber something is something to remember. -/
lemma remembers_tell (f : Feed) (m : Nat) (notice : Notice) : f.Remembers (f.tell m notice) :=
  .modify rfl fun _ => ⟨rfl, List.suffix_cons _ _⟩

/-- What subscribers remember is a matter of what they are told. -/
lemma outward_remembers : Outward Remembers where
  trans := .trans
  aside he := .of_eq (congrArg (fun o => o.2.2.1) he)
  subscribe f target name handler := by
    intro m s hs
    refine ⟨s, ?_, rfl, List.suffix_rfl⟩
    rw [subscribers_subscribe]
    exact (List.getElem?_append_left (List.getElem?_eq_some_iff.1 hs).1).trans hs
  unsubscribe f handle := .of_eq (subscribers_unsubscribe f handle)
  spend f m key := by
    unfold spend
    split
    · exact .of_eq rfl
    · exact .modify rfl fun _ => ⟨rfl, List.suffix_rfl⟩

/-- While a status is published, subscribers remember if they do so when they answer. -/
lemma remembers_publishStatus (hr : ∀ m notice (f : Feed), f.Remembers (respond m notice f).2)
    (s : ConnectionState) (f : Feed) : f.Remembers (publishStatus respond s f).2 := by
  have hnote : f.Remembers (f.note (.statusPublished s)) := .of_eq rfl
  exact hnote.trans (publishStatus_rel outward_remembers.chained (fun m g => hr m _ g) f)

/-- Subscribers remember, however deep answers nest. -/
lemma remembers_respond (depth m : Nat) (notice : Notice) (f : Feed) :
    f.Remembers (Feed.respond depth m notice f).2 := by
  refine (remembers_tell f m notice).trans (outward_remembers.answers (fun depth ha => ?_)
    depth m notice f)
  exact remembers_publishStatus fun m notice f => (remembers_tell f m notice).trans (ha m notice f)

/-! ### Nobody asks for an operation -/

/-- From `f` to `g` no subscriber has answered anything with an operation. -/
def Refrains (f g : Feed) : Prop :=
  ∀ (m : Nat) (s : Subscriber), g.subscribers[m]? = some s →
    ∀ notice earlier, notice :: earlier <:+ s.heard →
    (f.heard m).length ≤ earlier.length → ∀ c ∈ s.handler (notice :: earlier), c.operates = false

/-- Where nobody has asked for an operation, nobody has in the meantime. -/
lemma Refrains.of_trans (hr : f.Refrains h) (hfg : f.Remembers g) (hgh : g.Remembers h) :
    f.Refrains g ∧ g.Refrains h := by
  refine ⟨fun m s hs notice earlier hp hle => ?_, fun m s hs notice earlier hp hle =>
    hr m s hs notice earlier hp (Nat.le_trans (hfg.heard_le m) hle)⟩
  obtain ⟨s', hs', hh, hp'⟩ := hgh m s hs
  rw [← hh]
  exact hr m s' hs' notice earlier (hp.trans hp') hle

/-- For what has been answered only subscribers count. -/
lemma Refrains.congr {f' g' : Feed} (hr : f.Refrains g) (hf : f'.subscribers = f.subscribers)
    (hg : g'.subscribers = g.subscribers) : f'.Refrains g' := by
  intro m s hs notice earlier hp hle
  refine hr m s (hg ▸ hs) notice earlier hp ?_
  unfold heard at hle ⊢
  rwa [hf] at hle

/-- Whoever has been told something may have answered it, and if nobody has asked for an operation,
the engine is as it was. -/
def Placid (f g : Feed) : Prop :=
  f.Remembers g ∧ (f.Refrains g → g.engine = f.engine)

namespace Placid

lemma trans (hfg : f.Placid g) (hgh : g.Placid h) : f.Placid h := by
  refine ⟨hfg.1.trans hgh.1, fun hr => ?_⟩
  obtain ⟨hbefore, hafter⟩ := hr.of_trans hfg.1 hgh.1
  exact (hgh.2 hafter).trans (hfg.2 hbefore)

lemma chained : Chained Placid where
  refl _ := ⟨.of_eq rfl, fun _ => rfl⟩
  trans := .trans
  logged f _ := ⟨.of_eq rfl, fun _ => engine_note rfl f⟩

end Placid

/-- An answer without an operation leaves the engine as it is. -/
lemma placid_respond (depth m : Nat) (notice : Notice) (f : Feed) :
    f.Placid (Feed.respond depth m notice f).2 := by
  refine ⟨remembers_respond depth m notice f, fun hr => ?_⟩
  cases depth with
  | zero => exact engine_tell f m notice
  | succ depth =>
    cases hs : f.subscribers[m]? with
    | none =>
      have htold : (f.tell m notice).subscribers[m]? = none := by simp [tell, hs]
      rw [Feed.respond, htold]
      exact engine_tell f m notice
    | some s =>
      have htold : (f.tell m notice).subscribers[m]? =
          some { s with heard := notice :: s.heard } := by simp [tell, hs]
      rw [respond_succ hs] at hr ⊢
      -- What it answers is among what its handler says to all that it remembers in the end.
      obtain ⟨s', hs', hh, hp⟩ := outward_remembers.obeyAll
        (remembers_publishStatus (remembers_respond depth)) m (s.handler (notice :: s.heard)) _
        m _ htold
      have hanswers : ∀ c ∈ s.handler (notice :: s.heard), c.operates = false := by
        have hans := hr m s' hs' notice s.heard hp (by simp [heard, hs])
        rwa [hh] at hans
      exact (engine_obeyAll_of_operates m hanswers _).trans (engine_tell f m notice)

/-! ### Epochs that end -/

/-- Subscribers may be told something from `f` to `g`, and if none of them asks for an operation, so
many epochs end. -/
def Ends (n : Nat) (f g : Feed) : Prop :=
  f.Remembers g ∧ (f.Refrains g → g.epoch = f.epoch + n)

namespace Ends

variable {n k : Nat}

/-- Where nobody is told anything the feed itself ends the epochs. -/
lemma of_eq (hs : g.subscribers = f.subscribers) (he : g.epoch = f.epoch + n) : Ends n f g :=
  ⟨.of_eq hs, fun _ => he⟩

lemma trans (hfg : Ends n f g) (hgh : Ends k g h) : Ends (n + k) f h := by
  refine ⟨hfg.1.trans hgh.1, fun hr => ?_⟩
  obtain ⟨hbefore, hafter⟩ := hr.of_trans hfg.1 hgh.1
  rw [hgh.2 hafter, hfg.2 hbefore, Nat.add_assoc]

/-- However the feed goes on in the same epoch without telling anybody, as many have ended. -/
lemma congr (hfg : Ends n f g) (hs : h.subscribers = g.subscribers) (he : h.epoch = g.epoch) :
    Ends n f h := by
  have hgh : Ends 0 g h := .of_eq hs he
  exact hfg.trans hgh

end Ends

/-- Where the engine is as it was, no epoch has ended. -/
lemma Placid.ends (hp : f.Placid g) : Ends 0 f g :=
  ⟨hp.1, fun hr => eq_of_engine (hp.2 hr) Feed.epoch fun _ => rfl⟩

section Ends

variable {depth : Nat}

/-- The publication of a status ends no epoch, if nobody asks for an operation. -/
lemma ends_publishStatus (s : ConnectionState) (f : Feed) :
    Ends 0 f (publishStatus (Feed.respond depth) s f).2 := by
  have hnote : Ends 0 f (f.note (.statusPublished s)) := .of_eq rfl rfl
  have hp : Placid _ (publishStatus (Feed.respond depth) s f).2 :=
    publishStatus_rel Placid.chained (fun m g => placid_respond depth m _ g) f
  exact hnote.trans hp.ends

/-- Neither does the publication of an event. -/
lemma ends_publishEvent (event : RoutedEvent) (f : Feed) :
    Ends 0 f (publishEvent (Feed.respond depth) event f).2 := by
  have hnote : Ends 0 f (f.note (.eventPublished event)) := .of_eq rfl rfl
  have hp : Placid _ (publishEvent (Feed.respond depth) event f).2 :=
    publishEvent_rel Placid.chained (fun m g => placid_respond depth m _ g) f
  exact hnote.trans hp.ends

/-- Neither does going on to a status. -/
lemma Entered.ends {s : ConnectionState} (ht : Entered (Feed.respond depth) s f g) :
    Ends 0 f g := by
  rcases ht with ⟨-, rfl⟩ | ⟨-, rfl⟩
  · exact .of_eq rfl rfl
  · have hsaid : Ends 0 f ({ f with status := s }.note (.statusChanged s)) := .of_eq rfl rfl
    exact hsaid.trans (ends_publishStatus s _)

/-- Neither does the last part of a disconnect. -/
lemma ends_endDisconnect (n : Nat) (f : Feed) :
    Ends 0 f (f.endDisconnect (Feed.respond depth) n) := by
  have hforget : Ends 0 f { f with installed := none } := .of_eq rfl rfl
  obtain ⟨k, ht, he⟩ := endDisconnect_cases (Feed.respond depth) n f
  rw [he]
  exact (hforget.trans ht.ends).congr rfl rfl

/-- The first part of a disconnect ends one epoch, if nobody asks for an operation. -/
lemma ends_beginDisconnect (n : Nat) (f : Feed) :
    Ends 1 f (f.beginDisconnect (Feed.respond depth) n) := by
  obtain ⟨k, ht, hk⟩ := beginDisconnect_cases (Feed.respond depth) n f
  have hnext : Ends 1 k { k.abortPending with slot := none, epoch := k.epoch + 1 } :=
    .of_eq (by rw [abortPending_eq]) rfl
  have hpass := ht.ends.trans hnext
  rcases hk with ⟨-, he⟩ | ⟨e, -, he⟩ <;> rw [he]
  · exact hpass.trans (ends_endDisconnect n _)
  · exact hpass.congr rfl rfl

end Ends

end EventFeed.Feed
