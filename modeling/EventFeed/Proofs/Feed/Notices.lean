import EventFeed.Proofs.Feed.Outward
import EventFeed.Proofs.Feed.Placement
import EventFeed.Proofs.Feed.Roster

/-!
# What subscribers are told of the status

A subscriber that operates the feed while it is told of a status brings about further statuses, and
of these everybody is told before the pass in whose midst it happened goes on. Those who come after
it are then told of the later status first.

So a subscriber that is registered throughout is told of every status that is published, each time
that it is published, but not always in that order. It is told of them in order if nobody who was
registered before it operates the feed in answer to a status.

Publications are opened once, in `notified_publishStatus`: the pass over the listeners is cut where
the subscriber itself is told. What an answer comes to is counted from the moment at which the one
who answers has been told.
-/

namespace EventFeed.Feed

variable {respond : Respond} {f f' g h : Feed} {n : Nat}

/-- What a subscriber is notified of is a matter of publications and of whoever comes or goes. -/
lemma outward_notified (n : Nat) : Outward fun f g => f.Enrolled → Notified n f g where
  trans hfg hgh hf := (hfg hf).trans hf (hgh (hfg hf).enrolled)
  aside {f g} he hf := by
    simp only [outward, Prod.mk.injEq] at he
    obtain ⟨listeners, -, subscribers, -, published, -⟩ := he
    exact .of_eq hf (by rw [listeners, subscribers, published])
  subscribe _ target name handler hf := notified_subscribe hf target name handler
  unsubscribe _ handle hf := notified_unsubscribe hf handle
  spend _ m key hf := notified_spend hf m key

/-! ### Telling one subscriber after the other -/

/-- Telling somebody something changes nothing about who is told. -/
lemma roster_tell (hf : f.Enrolled) (m : Nat) (notice : Notice) : f.Roster (f.tell m notice) :=
  .modify hf rfl rfl fun _ => rfl

/-- Telling somebody something publishes nothing. -/
lemma published_tell (f : Feed) (m : Nat) (notice : Notice) :
    (f.tell m notice).published = f.published :=
  eq_of_engine (engine_tell f m notice) Feed.published published_engine

/-- What others are told a subscriber does not hear. -/
lemma received_tell_of_ne {m : Nat} (hm : m ≠ n) (notice : Notice) :
    (f.tell m notice).received n = f.received n := by
  simp [received, tell, hm]

/-- Of events a subscriber hears nothing about the status. -/
lemma received_tell_event (m : Nat) (event : RoutedEvent) :
    (f.tell m (.event event)).received n = f.received n := by
  by_cases hm : m = n
  · subst hm
    cases hs : f.subscribers[m]? <;> simp [received, tell, hs, List.filterMap_cons, Notice.status?]
  · exact received_tell_of_ne hm _

/-- What a subscriber is told it hears. -/
lemma received_tell_status (hn : n < f.subscribers.length) (s : ConnectionState) :
    (f.tell n (.status s)).received n = s :: f.received n := by
  simp [received, tell, List.getElem?_eq_getElem hn, Notice.status?]

/-- Telling others of a status is nothing to be notified of. -/
lemma notified_tell_of_ne (hf : f.Enrolled) {m : Nat} (hm : m ≠ n) (notice : Notice) :
    Notified n f (f.tell m notice) :=
  .of_roster (roster_tell hf m notice) (received_tell_of_ne hm notice) (published_tell f m notice)

/-- Neither is telling anybody of an event. -/
lemma notified_tell_event (hf : f.Enrolled) (m : Nat) (event : RoutedEvent) :
    Notified n f (f.tell m (.event event)) :=
  .of_roster (roster_tell hf m _) (received_tell_event m event) (published_tell f m _)

/-- Adding a fact to the journal changes nothing about who is told. -/
lemma roster_note (hf : f.Enrolled) (fact : Fact) : f.Roster (f.note fact) :=
  ⟨⟨hf.sorted, hf.known⟩, fun hs => ⟨_, hs, rfl⟩, fun _ => id⟩

/-- What is published before a subscriber is told of a status it hears before that status, and what
is published afterwards it hears afterwards. So it hears of everything, and in order if nothing was
published before it was told. -/
lemma Notified.around {s : ConnectionState} (hf : f.Enrolled) (hn : f.Listens n)
    (hbefore : Notified n (f.note (.statusPublished s)) g)
    (hquiet : f.Unled n → g.published = s :: f.published)
    (hafter : Notified n (g.tell n (.status s)) h) : Notified n f h := by
  have hlt := hf.lt_length hn
  have hnote := roster_note hf (.statusPublished s)
  have htell := roster_tell hbefore.enrolled n (.status s)
  have hstart : f.Roster (g.tell n (.status s)) := hnote.trans (hbefore.toRoster.trans htell)
  refine { toRoster := hstart.trans hafter.toRoster, news := ?_ }
  obtain ⟨told, news, hg, hp, hearly⟩ := hbefore.news
  obtain ⟨told', news', hg', hp', hlater⟩ := hafter.news
  refine ⟨told' ++ s :: told, news' ++ (news ++ [s]), ?_, ?_, fun _ hh => ?_⟩
  · rw [hg', received_tell_status (hbefore.lt_length hlt), hg, List.append_assoc]
    rfl
  · rw [hp', published_tell, hp, List.append_assoc, List.append_assoc]
    rfl
  · have hgt := hafter.listens (hstart.lt_length hlt) hh
    have hgl := htell.listens (hbefore.lt_length hlt) hgt
    obtain ⟨hperm, -⟩ := hearly hn hgl
    obtain ⟨hperm', horder'⟩ := hlater hgt hh
    have hnews : (s :: told).Perm (news ++ [s]) :=
      (hperm.cons s).trans (List.perm_append_singleton s news).symm
    refine ⟨hperm'.append hnews, fun hu => ?_⟩
    obtain rfl : news = [] := List.append_left_eq_self.1 (hp.symm.trans (hquiet hu))
    obtain rfl : told = [] := hperm.eq_nil
    rw [horder' (hstart.unled hlt hu)]
    rfl

/-- Whatever an answer brings about once the one who answers has been told, the subscriber is
notified of it; and answers of those who are passive publish nothing. -/
structure Notifies (n : Nat) (respond : Respond) : Prop where
  notified : ∀ m notice {f}, f.Enrolled → Notified n (f.tell m notice) (respond m notice f).2
  passive : ∀ {m f}, f.PassiveAt m → ∀ s, (respond m (.status s) f).2.published = f.published

/-- What follows an answer to a status is the answer, and perhaps a line in the log. -/
lemma offer_status (respond : Respond) (s : ConnectionState) (l : Listener Nat) (f : Feed) :
    ((statusReaction respond).offer s l f).2 = (respond l.what (.status s) f).2 ∨
      ∃ line, ((statusReaction respond).offer s l f).2 =
        (respond l.what (.status s) f).2.note (.logged line) := by
  unfold Reaction.offer
  dsimp only [statusReaction]
  split
  · next heq => exact .inl (by rw [heq])
  · next heq => exact .inr ⟨_, by rw [heq]; rfl⟩

/-- Telling the listeners of two lists is telling those of the first and then those of
the second. -/
lemma offerAll_append {σ β α : Type} (r : Reaction σ β α) (value : α)
    (front back : List (Listener β)) (s : σ) :
    (r.offerAll value (front ++ back) s).2 =
      (r.offerAll value back (r.offerAll value front s).2).2 := by
  induction front generalizing s with
  | nil => rfl
  | cons l rest ih => exact ih _

section Notifies

variable (hr : Notifies n respond)

include hr

/-- Once a listener has been told of a status, the subscriber is notified of what it answers. -/
lemma notified_offer (hf : f.Enrolled) (s : ConnectionState) (l : Listener Nat) :
    Notified n (f.tell l.what (.status s)) ((statusReaction respond).offer s l f).2 := by
  have htell := (roster_tell hf l.what (.status s)).enrolled
  have hl := hr.notified l.what (.status s) hf
  rcases offer_status respond s l f with he | ⟨line, he⟩ <;> rw [he]
  · exact hl
  · exact hl.congr htell rfl

/-- A listener that is passive publishes nothing. -/
lemma published_offer {l : Listener Nat} (hp : f.PassiveAt l.what) (s : ConnectionState) :
    ((statusReaction respond).offer s l f).2.published = f.published := by
  have hl := hr.passive hp s
  rcases offer_status respond s l f with he | ⟨line, he⟩ <;> rw [he]
  · exact hl
  · exact hl

/-- While others are told of a status, the subscriber is notified of what they answer. -/
lemma notified_offerAll (hf : f.Enrolled) (s : ConnectionState) {ls : List (Listener Nat)}
    (hne : ∀ l ∈ ls, l.what ≠ n) :
    Notified n f ((statusReaction respond).offerAll s ls f).2 := by
  induction ls generalizing f with
  | nil => exact .refl hf
  | cons l rest ih =>
    have htell := notified_tell_of_ne hf (hne l List.mem_cons_self) (.status s)
    have hl := htell.trans hf (notified_offer hr hf s l)
    exact hl.trans hf (ih hl.enrolled fun k hk => hne k (List.mem_cons_of_mem _ hk))

/-- Listeners all of whom are passive publish nothing. -/
lemma published_offerAll (hf : f.Enrolled) (s : ConnectionState) {ls : List (Listener Nat)}
    (hp : ∀ l ∈ ls, f.PassiveAt l.what) :
    ((statusReaction respond).offerAll s ls f).2.published = f.published := by
  induction ls generalizing f with
  | nil => rfl
  | cons l rest ih =>
    have hroster := (roster_tell hf l.what (.status s)).trans (notified_offer hr hf s l).toRoster
    have hrest : ∀ k ∈ rest, ((statusReaction respond).offer s l f).2.PassiveAt k.what :=
      fun k hk => hroster.passiveAt (hp k (List.mem_cons_of_mem _ hk))
    exact (ih hroster.enrolled hrest).trans (published_offer hr (hp l List.mem_cons_self) s)

/-- A subscriber is notified of a status that is published, and of what comes of it. -/
lemma notified_publishStatus (hf : f.Enrolled) (s : ConnectionState) :
    Notified n f (publishStatus respond s f).2 := by
  let f₁ := f.note (.statusPublished s)
  have hroster : f.Roster f₁ := roster_note hf _
  by_cases hn : f.Listens n
  · obtain ⟨front, l, back, hcut, rfl, hfront, hback⟩ := hf.cut hn
    let f₂ := ((statusReaction respond).offerAll s front f₁).2
    let f₃ := ((statusReaction respond).offer s l f₂).2
    have hbefore : Notified l.what f₁ f₂ :=
      notified_offerAll hr hroster.enrolled s fun k hk => Nat.ne_of_lt (hfront k hk)
    have htold : Notified l.what (f₂.tell l.what (.status s)) f₃ :=
      notified_offer hr hbefore.enrolled s l
    have hafter : Notified l.what f₃ ((statusReaction respond).offerAll s back f₃).2 :=
      notified_offerAll hr htold.enrolled s fun k hk => Nat.ne_of_gt (hback k hk)
    have hquiet : f.Unled l.what → f₂.published = s :: f.published := by
      refine fun hu => published_offerAll hr hroster.enrolled s fun k hk => ?_
      exact hu k.what (hfront k hk) ⟨k, hcut ▸ List.mem_append_left _ hk, rfl⟩
    have hpass : (publishStatus respond s f).2 =
        ((statusReaction respond).offerAll s back f₃).2 := by
      show ((statusReaction respond).offerAll s f₁.statusListeners.listeners f₁).2 = _
      rw [show f₁.statusListeners.listeners = front ++ l :: back from hcut, offerAll_append]
      rfl
    have htell := roster_tell hbefore.enrolled l.what (.status s)
    rw [hpass]
    exact hbefore.around hf hn hquiet (htold.trans htell.enrolled hafter)
  · have hothers : ∀ l ∈ f.statusListeners.listeners, l.what ≠ n := fun l hl he => hn ⟨l, hl, he⟩
    have hpass : Notified n f₁ (publishStatus respond s f).2 :=
      notified_offerAll hr hroster.enrolled s hothers
    obtain ⟨told, news, hg, hp, -⟩ := hpass.news
    refine { toRoster := hroster.trans hpass.toRoster, news := ?_ }
    refine ⟨told, news ++ [s], hg, ?_, fun hfl => absurd hfl hn⟩
    rw [hp, List.append_assoc]
    rfl

/-- A subscriber is notified of an event that is published, as far as something comes of it. -/
lemma notified_publishEvent (hf : f.Enrolled) (event : RoutedEvent) :
    Notified n f (publishEvent respond event f).2 := by
  have hnote : Notified n f (f.note (.eventPublished event)) := .of_eq hf rfl
  refine hnote.trans hf (publishEvent_rel (outward_notified n).chained (fun m g hg => ?_) f
    hnote.enrolled)
  exact (notified_tell_event hg m event).trans hg (hr.notified m (.event event) hg)

end Notifies

/-! ### Answers at every depth -/

/-- A command that does not operate the feed leaves its engine as it is. -/
lemma engine_obey_of_operates (respond : Respond) (m : Nat) (c : Command)
    (hc : c.operates = false) (f : Feed) : (f.obey respond m c).2.engine = f.engine := by
  match c with
  | .subscribe target name handler => exact engine_subscribe f target name handler
  | .unsubscribe name => exact (engine_note rfl _).trans (engine_unsubscribeName f name)
  | .panic message => rfl
  | .once key command =>
    have hspend := engine_spend f m key
    unfold Feed.obey
    split
    · next heq => rw [heq] at hspend; exact hspend
    · next heq =>
      rw [heq] at hspend
      exact (engine_obey_of_operates respond m command hc _).trans hspend

/-- So do several of them. -/
lemma engine_obeyAll_of_operates (m : Nat) {cs : List Command}
    (hcs : ∀ c ∈ cs, c.operates = false) (f : Feed) :
    (f.obeyAll respond m cs).2.engine = f.engine := by
  induction cs generalizing f with
  | nil => rfl
  | cons c rest ih =>
    have hc := engine_obey_of_operates respond m c (hcs c List.mem_cons_self) f
    unfold Feed.obeyAll
    split
    · next heq =>
      rw [heq] at hc
      exact (ih (fun k hk => hcs k (List.mem_cons_of_mem _ hk)) _).trans hc
    · next heq => rw [heq] at hc; exact hc

/-- A subscriber that is passive answers a status without publishing anything. -/
lemma published_respond_of_passiveAt (depth : Nat) {m : Nat} (hp : f.PassiveAt m)
    (s : ConnectionState) : (Feed.respond depth m (.status s) f).2.published = f.published := by
  cases depth with
  | zero => exact published_tell f m _
  | succ depth =>
    obtain ⟨k, hk, hpassive⟩ := hp
    rw [respond_succ hk]
    refine Eq.trans ?_ (published_tell f m (.status s))
    exact eq_of_engine (engine_obeyAll_of_operates m (fun c hc => hpassive s k.heard c hc) _)
      Feed.published published_engine

/-- However deep answers nest, a subscriber is notified of what they bring about. -/
theorem notifies_respond (n depth : Nat) : Notifies n (Feed.respond depth) := by
  have hnotifies : ∀ depth,
      Answers (fun f g => f.Enrolled → Notified n f g) (Feed.respond depth) →
      Notifies n (Feed.respond depth) := fun depth ha =>
    ⟨fun m notice f hf => ha m notice f (roster_tell hf m notice).enrolled,
      published_respond_of_passiveAt depth⟩
  exact hnotifies depth <| (outward_notified n).answers
    (fun depth ha s f hf => notified_publishStatus (hnotifies depth ha) hf s) depth

/-! ### Steps and runs -/

/-- Work of read loops is nothing to be notified of. -/
lemma Busy.notified (hb : f.Busy g) (hf : f.Enrolled) : Notified n f g := by
  have hpublished := hb.published
  obtain ⟨_, _, _, _, _, rfl⟩ := hb.rest
  exact .of_eq hf (by rw [hpublished])

/-- A subscriber is notified of what comes of every step. -/
theorem Stepped.notified {event : Event} (hr : Notifies n respond)
    (hs : Stepped respond f event f') (hf : f.Enrolled) : Notified n f f' :=
  (outward_notified n).stepped (fun s _ hf => notified_publishStatus hr hf s)
    (fun event _ hf => notified_publishEvent hr hf event) Busy.notified hs hf

/-- A subscriber is notified of what comes of a whole run. -/
lemma Reaches.notified {depth : Nat} {allowed : Feed → Event → Prop} {may : Conduct}
    (hreach : Reaches depth allowed f f') (hw : f.WellFormed may)
    (hk : ∀ g event, allowed g event → event.Keeps may) (hf : f.Enrolled) : Notified n f f' := by
  refine (hreach.invariant (Notified n f) hw (.refl hf) hk fun g event h hg _ hn hs => ?_).2
  exact hn.trans hf ((stepped_of_step? hg hs).notified (notifies_respond n depth) hn.enrolled)

/-- In every feed that is reached, listeners stand in the order of their subscribers. -/
lemma Reachable.enrolled {depth : Nat} {allowed : Feed → Event → Prop}
    (hr : Reachable depth allowed f) : f.Enrolled := by
  obtain ⟨settings, refreshable, f₀, h₀, hreach⟩ := hr
  have hn : Notified 0 f₀ f := hreach.notified (.of_ofSettings h₀)
    (fun _ event _ => event.keeps_free) (enrolled_of_ofSettings h₀)
  exact hn.enrolled

/-- As long as the caller publishes no status past the feed, what is published during a run are the
changes of the status. -/
lemma Reaches.echoes {depth : Nat} (hr : Reachable depth anyEvent f)
    (hreach : Reaches depth (fun _ event => event.given = []) f f') :
    Reachable depth anyEvent f' ∧ f.Echoes [] f' := by
  induction hreach with
  | refl => exact ⟨hr, .of_eq rfl⟩
  | step _ ha hs ih =>
    obtain ⟨hg, hecho⟩ := ih
    exact ⟨hg.step trivial hs, hecho.trans (ha ▸ hg.echoes hs)⟩

/-- Whatever callers and subscribers ask for, and in whatever order tasks run, a subscriber that is
registered throughout is told of every status that is published, as many times as it is published;
and in the order of publication, if no subscriber that was registered before it operates the feed in
answer to a status. If the caller publishes no status past the feed, these are the changes of the
status, and a subscriber that is told in order has been told last of the status of the feed. -/
theorem notices_in_order {depth n : Nat} :
    (∀ {f f' : Feed}, Reachable depth anyEvent f → Reaches depth anyEvent f f' →
      f.Listens n → f'.Listens n →
      ∃ told news, f'.received n = told ++ f.received n ∧ f'.published = news ++ f.published ∧
        told.Perm news ∧ (f.Unled n → told = news)) ∧
    (∀ {f f' : Feed}, Reachable depth anyEvent f →
      Reaches depth (fun _ event => event.given = []) f f' → f.Listens n → f'.Listens n →
      ∃ told news, f'.received n = told ++ f.received n ∧ f'.changes = news ++ f.changes ∧
        told.Perm news ∧
        (f.Unled n → told = news ∧ ∀ s, told.head? = some s → f'.status = s)) := by
  have hwf : ∀ {f : Feed}, Reachable depth anyEvent f → f.WellFormed Conduct.free :=
    fun hr => hr.wellFormed fun _ event _ => event.keeps_free
  refine ⟨fun hr hreach hfn hfn' => ?_, fun {f f'} hr hreach hfn hfn' => ?_⟩
  · have hn := hreach.notified (n := n) (hwf hr) (fun _ event _ => event.keeps_free) hr.enrolled
    obtain ⟨told, news, hg, hp, hnews⟩ := hn.news
    exact ⟨told, news, hg, hp, hnews hfn hfn'⟩
  · have hn := hreach.notified (n := n) (hwf hr) (fun _ event _ => event.keeps_free) hr.enrolled
    obtain ⟨told, news, hg, hp, hnews⟩ := hn.news
    obtain ⟨hperm, horder⟩ := hnews hfn hfn'
    -- What has been published since are the changes made since.
    obtain ⟨hr', news', hc, hp'⟩ := hreach.echoes hr
    obtain rfl : news = news' := List.append_cancel_right (hp.symm.trans hp')
    refine ⟨told, news, hg, hc, hperm, fun hu => ⟨horder hu, fun s hs => ?_⟩⟩
    obtain ⟨-, hplaced⟩ : f'.WellFormed Conduct.free ∧ f'.Placed False := hr'.placed False.elim
    have hlatest := hplaced.lawful.latest
    rw [horder hu] at hs
    obtain ⟨rest, rfl⟩ := List.head?_eq_some_iff.1 hs
    rw [statuses, hc] at hlatest
    exact (Option.some.inj hlatest).symm

/-- A subscriber stops the feed when it connects, and the one that was registered before it does
nothing. It is told in order, and it has been told last that the feed is stopped. -/
theorem notices_in_order_instances :
    ∃ f f' : Feed, f.Unled 1 ∧ f.step? 2 (.call (.start 0)) = some f' ∧
      f'.received 1 = [.stopUpdates, .initializing] ∧ f'.status = .stopUpdates ∧
      (∃ told news, f'.received 1 = told ++ f.received 1 ∧ f'.published = news ++ f.published ∧
        told.Perm news ∧ told = news) ∧
      ∃ told news, f'.received 1 = told ++ f.received 1 ∧ f'.changes = news ++ f.changes ∧
        told = news ∧ ∀ s, told.head? = some s → f'.status = s := by
  let idles : Handler := fun _ => []
  let stops : Handler := answering (.status .initializing) .stop
  let events : List Event :=
    [.call (.subscribe .status "idles" idles), .call (.subscribe .status "stops" stops)]
  obtain ⟨f, hf, f', hs, hlisten, hlisten', hreceived, hstatus⟩ :
      ∃ f ∈ played? 2 events, ∃ f' ∈ f.step? 2 (.call (.start 0)),
        f.Listens 1 ∧ f'.Listens 1 ∧ f'.received 1 = [.stopUpdates, .initializing] ∧
          f'.status = .stopUpdates := by
    decide +kernel
  have hfirst : (played? 2 events).map (fun f => f.subscribers[0]?.map Subscriber.handler) =
      some (some idles) := rfl
  have hunled : f.Unled 1 := by
    intro i hi _
    obtain rfl : i = 0 := Nat.lt_one_iff.1 hi
    rw [hf, Option.map_some] at hfirst
    obtain ⟨s, hs, he⟩ := Option.map_eq_some_iff.1 (Option.some.inj hfirst)
    exact ⟨s, hs, fun _ _ c hc => by rw [he] at hc; exact absurd hc List.not_mem_nil⟩
  have hr : Reachable 2 anyEvent f := .of_played? hf fun _ _ _ => trivial
  obtain ⟨hpublished, hchanges⟩ := @notices_in_order 2 1
  obtain ⟨told, news, hg, hp, hperm, horder⟩ :=
    hpublished hr (Reaches.refl.step trivial hs) hlisten hlisten'
  obtain ⟨told', news', hg', hc, -, horder'⟩ :=
    hchanges hr (Reaches.refl.step rfl hs) hlisten hlisten'
  exact ⟨f, f', hunled, hs, hreceived, hstatus, ⟨told, news, hg, hp, hperm, horder hunled⟩,
    told', news', hg', hc, horder' hunled⟩

/-- A subscriber that was registered after one that stops the feed when it connects is told that the
feed is stopped before it is told that it connects, though it connected first. -/
theorem notices_out_of_order :
    ∃ f f' : Feed, Reachable 2 anyEvent f ∧ f.step? 2 (.call (.start 0)) = some f' ∧
      f.Listens 1 ∧ f'.Listens 1 ∧ f.received 1 = [] ∧ f.changes = [] ∧
      f'.changes = [.stopUpdates, .initializing] ∧
      f'.received 1 = [.initializing, .stopUpdates] ∧ f'.status = .stopUpdates := by
  let stops : Handler := answering (.status .initializing) .stop
  let idles : Handler := fun _ => []
  let events : List Event :=
    [.call (.subscribe .status "stops" stops), .call (.subscribe .status "idles" idles)]
  obtain ⟨f, hf, f', hs, hview⟩ :
      ∃ f ∈ played? 2 events, ∃ f' ∈ f.step? 2 (.call (.start 0)),
        f.Listens 1 ∧ f'.Listens 1 ∧ f.received 1 = [] ∧ f.changes = [] ∧
          f'.changes = [.stopUpdates, .initializing] ∧
          f'.received 1 = [.initializing, .stopUpdates] ∧ f'.status = .stopUpdates := by
    decide +kernel
  exact ⟨f, f', .of_played? hf fun _ _ _ => trivial, hs, hview⟩

end EventFeed.Feed
