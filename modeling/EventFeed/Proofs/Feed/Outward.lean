import EventFeed.Proofs.Feed.Runs

/-!
# What operations leave to publications

An operation is a matter of tasks and of the connection. Who is registered, what they have been
told, what has been published and what frames have said does not change by it, except for the
publication of a status in its midst, during which subscribers may come and go and operate the feed
in turn.

`outward` is all of this. A relation between states that is about nothing else has to be looked into
where a status is published and where somebody comes or goes. That is what `Outward` asks for. Then
every operation respects the relation, and so do answers, however deep they nest. A relation that
the publication of an event and the work of read loops respect too is respected by every step.
-/

namespace EventFeed.Feed

variable {Rel : Feed → Feed → Prop} {respond : Respond} {f f' g h : Feed}

/-- What frames have said so far, and what has been published of it. -/
def intake (f : Feed) :
    Option String × Option String × Bool × List Bool × List RoutedEvent :=
  (f.streamId, f.programKey, f.refreshable, f.refreshes, f.routed)

/-- What is to be seen of a feed but for its tasks and its connection: its subscribers, what has
been published of its status, and what frames have said. -/
def outward (f : Feed) :=
  (f.statusListeners, f.eventListeners, f.subscribers, f.subscriptions, f.published, f.intake)

/-- A relation between states that can be followed from one to the next, that whoever comes or goes
or uses up a key respects, and for which nothing counts that is not outward. -/
structure Outward (Rel : Feed → Feed → Prop) : Prop where
  trans : ∀ {f g h}, Rel f g → Rel g h → Rel f h
  aside : ∀ {f g}, g.outward = f.outward → Rel f g
  subscribe : ∀ (f : Feed) target name handler, Rel f (f.subscribe target name handler)
  unsubscribe : ∀ (f : Feed) handle, Rel f (f.unsubscribe handle).2
  spend : ∀ (f : Feed) number key, Rel f (f.spend number key).2

/-- Answers respect the relation once the one who answers has been told. -/
def Answers (Rel : Feed → Feed → Prop) (respond : Respond) : Prop :=
  ∀ m notice f, Rel (f.tell m notice) (respond m notice f).2

namespace Outward

section Aside

variable (hO : Outward Rel)

include hO

lemma refl (f : Feed) : Rel f f :=
  hO.aside rfl

/-- However the feed goes on without being seen to, the relation holds as it did. -/
lemma congr (hfg : Rel f g) (he : h.outward = g.outward) : Rel f h :=
  hO.trans hfg (hO.aside he)

/-- A relation of this kind can be followed from one answer to the next. -/
lemma chained : Chained Rel where
  refl := hO.refl
  trans := hO.trans
  logged _ _ := hO.aside rfl

/-- Removing a listener by its name is removing it, if there is one. -/
lemma unsubscribeName (f : Feed) (name : String) : Rel f (f.unsubscribeName name).2 := by
  unfold Feed.unsubscribeName
  split
  · exact hO.refl f
  · exact hO.unsubscribe f _

end Aside

section Publications

variable (hO : Outward Rel) (hp : ∀ s f, Rel f (publishStatus respond s f).2)

include hO hp

/-! ### Operations -/

/-- A change of the status is its publication. -/
lemma told {s : ConnectionState} (ht : Told respond s f g) : Rel f g := by
  have hs : Rel f ({ f with status := s }.note (.statusChanged s)) := hO.aside rfl
  exact ht ▸ hO.trans hs (hp s _)

/-- Going on to a status is its publication, or nothing. -/
lemma entered {s : ConnectionState} (ht : Entered respond s f g) : Rel f g := by
  rcases ht with ⟨-, rfl⟩ | ⟨-, ht⟩
  · exact hO.refl _
  · exact hO.told hp ht

/-- So is a start, whoever asks for it. -/
lemma started {retries : UInt32} (hs : Started respond retries f g) : Rel f g := by
  cases hs with
  | refused => exact hO.refl f
  | overtaken _ ht => exact hO.told hp ht
  | begun _ ht =>
    refine hO.congr (hO.told hp ht) ?_
    unfold generate
    rw [abortSlot_eq]
    rfl

/-- So is a stop. -/
lemma stop (f : Feed) : Rel f (f.stop respond) := by
  refine hO.congr (hO.entered hp (entered_setStatus respond .stopUpdates f)) ?_
  unfold Feed.stop
  rw [haltTasks_eq, abortPending_eq]
  rfl

/-- So is the first part of a reconnect. -/
lemma beginReconnect (f : Feed) (m : Nat) (r : Reconnect) :
    Rel f (f.beginReconnect respond m r) := by
  have hhalt : Rel f f.haltTasks := hO.aside (by rw [haltTasks_eq]; rfl)
  rcases beginReconnect_cases respond m r f with ⟨-, -, he⟩ | ⟨-, k, ht, he⟩ <;> rw [he]
  · exact hO.congr hhalt rfl
  · exact hO.congr (hO.trans hhalt (hO.entered hp ht)) rfl

/-- So is the second part of a reconnect. -/
lemma endReconnect (f : Feed) (m epoch : Nat) (r : Reconnect) :
    Rel f (f.endReconnect respond m epoch r) := by
  have hset : Rel f (f.setReconnect m .finished) := hO.aside rfl
  rcases endReconnect_cases respond m epoch r f with ⟨-, he⟩ | ⟨-, -, he⟩ <;> rw [he]
  · exact hset
  · exact hO.trans hset (hO.started hp (started_restart respond _ _))

/-- So is the last part of a disconnect. -/
lemma endDisconnect (f : Feed) (m : Nat) : Rel f (f.endDisconnect respond m) := by
  have hforget : Rel f { f with installed := none } := hO.aside rfl
  obtain ⟨k, ht, he⟩ := endDisconnect_cases respond m f
  rw [he]
  exact hO.congr (hO.trans hforget (hO.entered hp ht)) rfl

/-- The first part of a disconnect is one publication, or two if there is no read loop to wait
for. -/
lemma beginDisconnect (f : Feed) (m : Nat) : Rel f (f.beginDisconnect respond m) := by
  obtain ⟨k, ht, hk⟩ := beginDisconnect_cases respond m f
  have hfk := hO.entered hp ht
  rcases hk with ⟨-, he⟩ | ⟨e, -, he⟩ <;> rw [he]
  · have hlet : Rel f { k.abortPending with slot := none, epoch := k.epoch + 1 } :=
      hO.congr hfk (by rw [abortPending_eq]; rfl)
    exact hO.trans hlet (hO.endDisconnect hp _ m)
  · refine hO.congr hfk ?_
    rw [abortPending_eq]
    rfl

/-- The loss of a connection is a publication, or it is reported in vain. -/
lemma connectionLost (f : Feed) (epoch : Nat) (retries : UInt32) :
    Rel f (f.connectionLost respond epoch retries) := by
  rcases connectionLost_cases respond epoch retries f with ⟨-, he⟩ | ⟨-, -, k, ht, he⟩ <;> rw [he]
  · exact hO.refl f
  · refine hO.congr (hO.told hp ht) ?_
    rcases scheduleReconnect_cases epoch retries k with ⟨-, he⟩ | ⟨-, -, he⟩ <;> rw [he]
    rfl

/-- A guardian reports a loss at most. -/
lemma watchRun {e : Nat} (hs : WatchRun respond e f f') : Rel f f' := by
  cases hs with
  | ended => exact hO.aside rfl
  | slept => exact hO.aside rfl
  | reported =>
    have hset : Rel f (f.setWatch e .finished) := hO.aside rfl
    exact hO.trans hset (hO.connectionLost hp _ e 0)

/-! ### Answers at every depth -/

/-- A command is an operation, or somebody comes or goes. -/
lemma obey (m : Nat) (c : Command) (f : Feed) : Rel f (f.obey respond m c).2 := by
  match c with
  | .start retries => exact hO.started hp (started_start respond retries f)
  | .stop => exact hO.stop hp f
  | .reconnect delay retries =>
    have hadd : Rel f (f.addReconnect delay retries).2 := hO.aside rfl
    exact hO.trans hadd (hO.beginReconnect hp _ f.reconnects.length
      { scheduled := false, delay, retries })
  | .disconnect =>
    have hadd : Rel f f.addDisconnect.2 := hO.aside rfl
    exact hO.trans hadd (hO.beginDisconnect hp _ f.disconnects.length)
  | .subscribe target name handler => exact hO.subscribe f target name handler
  | .unsubscribe name => exact hO.congr (hO.unsubscribeName f name) rfl
  | .panic message => exact hO.refl f
  | .once key command =>
    have hspend := hO.spend f m key
    unfold Feed.obey
    split
    · next heq => rw [heq] at hspend; exact hspend
    · next heq =>
      rw [heq] at hspend
      exact hO.trans hspend (obey m command _)

/-- Several commands are carried out one after the other. -/
lemma obeyAll (m : Nat) (cs : List Command) (f : Feed) : Rel f (f.obeyAll respond m cs).2 := by
  induction cs generalizing f with
  | nil => exact hO.refl f
  | cons c rest ih =>
    have hc := hO.obey hp m c f
    unfold Feed.obeyAll
    split
    · next heq => rw [heq] at hc; exact hO.trans hc (ih _)
    · next heq => rw [heq] at hc; exact hc

end Publications

/-- Answers respect the relation however deep they nest, if publications do of which the answers
nest less deep. -/
theorem answers (hO : Outward Rel)
    (hp : ∀ depth, Answers Rel (Feed.respond depth) →
      ∀ s f, Rel f (publishStatus (Feed.respond depth) s f).2) (depth : Nat) :
    Answers Rel (Feed.respond depth) := by
  -- What is told in the midst of an answer is answered one level further down.
  induction depth with
  | zero => exact fun m notice f => hO.refl _
  | succ depth ih =>
    intro m notice f
    unfold Feed.respond
    dsimp only
    split
    · exact hO.refl _
    · exact hO.obeyAll (hp depth ih) m _ _

/-! ### Steps -/

section Steps

variable (hO : Outward Rel) (hp : ∀ s f, Rel f (publishStatus respond s f).2)
  (hevent : ∀ event f, Rel f (publishEvent respond event f).2)

include hO hp hevent

/-- A caller asks for an operation or a publication, or comes or goes. -/
lemma doCall (f : Feed) (call : Call) : Rel f (f.doCall respond call) := by
  cases call with
  | start retries => exact hO.started hp (started_start respond retries f)
  | stop => exact hO.stop hp f
  | reconnect delay retries => exact hO.aside rfl
  | disconnect => exact hO.aside rfl
  | subscribe target name handler => exact hO.subscribe f target name handler
  | unsubscribe handle => exact hO.unsubscribe f handle
  | publishStatus status => exact hp status f
  | publishEvent event => exact hevent event f
  | release =>
    refine hO.aside ?_
    unfold Feed.doCall Feed.release
    dsimp only
    rw [haltTasks_eq, abortPending_eq]
    rfl

variable (hbusy : ∀ {f g}, f.Busy g → Rel f g)

include hbusy

/-- A read loop does its own business, changes the status or publishes an event. -/
lemma loopRun {k : Generation} (hs : LoopRun respond k f f') : Rel f f' := by
  cases hs with
  | began => exact hO.aside rfl
  | ended => exact hO.aside rfl
  | worked _ _ hb => exact hbusy hb
  | opened _ socket =>
    obtain ⟨j, hb, -, hj⟩ := loopConnected_cases respond k.epoch socket f
    rcases hj with ⟨-, he⟩ | ⟨-, -, he⟩ | ⟨-, -, -, i, ht, he⟩ <;> rw [he]
    · exact hO.congr (hbusy hb) rfl
    · exact hO.congr (hbusy hb) rfl
    · have hinstall : Rel f (j.install k.epoch) := hO.congr (hbusy hb) rfl
      exact hO.congr (hO.trans hinstall (hO.told hp ht)) rfl
  | failed _ _ error =>
    obtain ⟨j, hb, -, he⟩ := failLoop_eq respond k.epoch error f
    rw [he]
    exact hO.trans (hbusy hb) (hO.connectionLost hp _ _ _)
  | published _ hb _ event =>
    exact hO.congr (hO.trans (hbusy hb) (hevent event _)) rfl

/-- Every step respects the relation. -/
theorem stepped {event : Event} (hs : Stepped respond f event f') : Rel f f' := by
  have hturn : ∀ task : Option Task, Rel f { f with current := task } := fun _ => hO.aside rfl
  cases hs with
  | called call => exact hO.trans (hturn _) (hO.doCall hp hevent _ call)
  | looped _ _ hrun => exact hO.trans (hturn _) (hO.loopRun hp hevent hbusy hrun)
  | watched _ _ hrun => exact hO.trans (hturn _) (hO.watchRun hp hrun)
  | reconnectBegan => exact hO.trans (hturn _) (hO.beginReconnect hp _ _ _)
  | reconnectEnded => exact hO.trans (hturn _) (hO.endReconnect hp _ _ _ _)
  | disconnectBegan => exact hO.trans (hturn _) (hO.beginDisconnect hp _ _)
  | disconnectJoined => exact hO.trans (hturn _) (hO.endDisconnect hp _ _)
  | @disconnectAbandoned m d epoch =>
    have habandon : Rel f ({ f with current := some (.disconnect m) }.abandonLoop epoch) :=
      hO.aside rfl
    exact hO.trans habandon (hO.endDisconnect hp _ m)
  | refreshed hb => exact hO.trans (hturn _) (hbusy hb)
  | ticked => exact hO.aside rfl
  | reconnectGivenUp => exact hO.aside rfl
  | disconnectGivenUp => exact hO.aside rfl

end Steps

end Outward

end EventFeed.Feed
