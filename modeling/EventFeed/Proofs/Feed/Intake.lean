import EventFeed.Proofs.Feed.Audience
import EventFeed.Proofs.Feed.Sessions

/-!
# What a feed takes in

Little of what happens to a feed has anything to say: frames do, and callers who publish events. It
is taken in piece by piece, each piece as `News`: an event is published, the stream id or the key of
the programs is remembered, or a call of the refresh hook is spawned.

`TakesIn` says what has become of a list of news. It is what a fold over the news comes to, read off
at its end: all the events have been published in their order, the last of the ids is remembered,
and whoever is registered throughout has been told of the events of its topic, each once and in
their order. Everything else that can happen to a feed, whatever subscribers do in the course of it,
is a step in which nothing has been taken in.
-/

namespace EventFeed

/-- What is taken in, a piece at a time. -/
inductive News where
  | event (event : RoutedEvent)
  | streamId (id : String)
  | programKey (key : String)
  /-- Programs changed. -/
  | refresh
  deriving DecidableEq, Repr

namespace News

/-- The event that is published. -/
def event? : News → Option RoutedEvent
  | event e => some e
  | _ => none

/-- The id of the stream. -/
def streamId? : News → Option String
  | streamId id => some id
  | _ => none

/-- The key of the programs. -/
def programKey? : News → Option String
  | programKey key => some key
  | _ => none

end News

/-- What the route of a frame asks to take in. -/
def Route.news (envelope : Envelope) : Route → List News
  | .publish topic => [.event ⟨topic, envelope⟩]
  | .cacheProgramKey key => [.programKey key]
  | .refreshPrograms none => [.refresh]
  | .refreshPrograms (some key) => [.programKey key, .refresh]
  | .heartbeat _ | .discard _ => []

/-- What there is to take in of a frame: the stream id, and what its route asks for. -/
def Inbound.news : Inbound → List News
  | .text raw =>
    match Envelope.classify raw with
    | .error _ => []
    | .ok envelope =>
      (envelope.streamId.map News.streamId).toList ++ (Route.ofEnvelope envelope).news envelope
  | _ => []

/-- What there is to take in when something happens to a feed. -/
def Event.news : Event → List News
  | .call (.publishEvent event) => [.event event]
  | .run (.loop _) (.frame frame) => frame.news
  | _ => []

namespace Feed

variable {f g h f' : Feed} {news more : List News}

/-- From `f` to `g` the news have been taken in, and nothing else. -/
structure TakesIn (news : List News) (f g : Feed) : Prop extends Audience f g where
  routed : g.routed = (news.filterMap News.event?).reverse ++ f.routed
  streamId : g.streamId = (news.filterMap News.streamId?).getLast?.or f.streamId
  programKey : g.programKey = (news.filterMap News.programKey?).getLast?.or f.programKey
  refreshable : g.refreshable = f.refreshable
  refreshes : g.refreshes.length =
    f.refreshes.length + if f.refreshable then news.count .refresh else 0
  delivered : ∀ {n : Nat} {only : Option Topic}, f.Attends only n → g.Attends only n →
    g.delivered n =
      ((news.filterMap News.event?).filter fun e => e.isFor only).reverse ++ f.delivered n

namespace TakesIn

/-- What has been taken in before comes first. -/
lemma trans (hf : f.Assembled) (hfg : TakesIn news f g) (hgh : TakesIn more g h) :
    TakesIn (news ++ more) f h where
  toAudience := hfg.toAudience.trans hgh.toAudience
  routed := by
    rw [hgh.routed, hfg.routed, List.filterMap_append, List.reverse_append, List.append_assoc]
  streamId := by
    rw [hgh.streamId, hfg.streamId, List.filterMap_append, List.getLast?_append, Option.or_assoc]
  programKey := by
    rw [hgh.programKey, hfg.programKey, List.filterMap_append, List.getLast?_append,
      Option.or_assoc]
  refreshable := hgh.refreshable.trans hfg.refreshable
  refreshes := by
    rw [hgh.refreshes, hfg.refreshes, hfg.refreshable, List.count_append]
    split <;> omega
  delivered {n only} hn hh := by
    have hlt := Nat.lt_of_lt_of_le (hf.lt_length hn) hfg.length
    have hg := hgh.attends hlt hh
    rw [hgh.delivered hg hh, hfg.delivered hn hg, List.filterMap_append, List.filter_append,
      List.reverse_append, List.append_assoc]

/-- Where nobody is told of an event and nothing is taken in from frames, there are no news. -/
lemma of_relayed (hr : ∀ n, Relayed n [] f g) : TakesIn [] f g := by
  have hi := (hr 0).intake
  simp only [intake, Prod.mk.injEq] at hi
  obtain ⟨streamId, programKey, refreshable, refreshes, routed⟩ := hi
  exact { (hr 0).toAudience with
    routed, refreshable
    streamId := by simpa using streamId
    programKey := by simpa using programKey
    refreshes := by simp [refreshes]
    delivered := fun {n _} _ _ => (hr n).delivered }

/-- The rest of the feed does not matter. -/
lemma of_eq (hf : f.Assembled) (he : (g.eventListeners, g.subscribers, g.intake) =
    (f.eventListeners, f.subscribers, f.intake)) : TakesIn [] f g :=
  of_relayed fun _ => .of_eq hf he

/-- However the rest of the feed goes on, the same news have been taken in. -/
lemma congr (hf : f.Assembled) (hg : TakesIn news f g)
    (he : (h.eventListeners, h.subscribers, h.intake) =
      (g.eventListeners, g.subscribers, g.intake)) : TakesIn news f h := by
  simpa using hg.trans hf (.of_eq hg.assembled he)

/-- News of which no subscriber is told are a matter of what is remembered. -/
lemma of_silent (hf : f.Assembled) (hs : news.filterMap News.event? = [])
    (he : (g.eventListeners, g.subscribers, g.routed, g.refreshable) =
      (f.eventListeners, f.subscribers, f.routed, f.refreshable))
    (hid : g.streamId = (news.filterMap News.streamId?).getLast?.or f.streamId)
    (hkey : g.programKey = (news.filterMap News.programKey?).getLast?.or f.programKey)
    (hrefresh : g.refreshes.length =
      f.refreshes.length + if f.refreshable then news.count .refresh else 0) :
    TakesIn news f g := by
  simp only [Prod.mk.injEq] at he
  obtain ⟨listeners, subscribers, routed, refreshable⟩ := he
  refine { Audience.of_length hf listeners (by rw [subscribers]) with
    routed := by rw [hs, routed]; rfl
    streamId := hid, programKey := hkey, refreshable, refreshes := hrefresh
    delivered := fun _ _ => ?_ }
  rw [hs]
  unfold Feed.delivered
  rw [subscribers]
  rfl

end TakesIn

/-- Where no frame comes in and no event is published, whether there are news is a matter of
publications of the status and of whoever comes or goes. -/
lemma outward_takesIn : Outward fun f g => f.Assembled → TakesIn [] f g where
  trans hfg hgh hf := by simpa using (hfg hf).trans hf (hgh (hfg hf).assembled)
  aside {f g} he hf := by
    simp only [outward, Prod.mk.injEq] at he
    obtain ⟨-, listeners, subscribers, -, -, intake⟩ := he
    exact .of_eq hf (by rw [listeners, subscribers, intake])
  subscribe _ target name handler hf :=
    .of_relayed fun _ => relayed_subscribe hf target name handler
  unsubscribe _ handle hf := .of_relayed fun _ => relayed_unsubscribe hf handle
  spend _ m key hf := .of_relayed fun _ => relayed_spend hf m key

/-! ### Frames -/

/-- The stream id of a frame is remembered. -/
lemma takesIn_observeStreamId (hf : f.Assembled) (id : Option String) :
    TakesIn (id.map News.streamId).toList f (f.observeStreamId id) := by
  unfold observeStreamId
  split
  · exact .of_eq hf rfl
  · next id hnone =>
    exact .of_silent hf rfl rfl (by simp [News.streamId?]) (by simp [News.programKey?])
      (by simp)
  · next id previous hprevious =>
    split
    · next heq =>
      exact .of_silent hf rfl rfl (by simp [News.streamId?, hprevious, heq])
        (by simp [News.programKey?]) (by simp)
    · exact .of_silent hf rfl rfl (by simp [News.streamId?]) (by simp [News.programKey?, log, note])
        (by simp [log, note])

/-- A key of the programs is remembered. -/
lemma takesIn_programKey (hf : f.Assembled) (key : String) :
    TakesIn [.programKey key] f { f with programKey := some key } :=
  .of_silent hf rfl rfl (by simp [News.streamId?]) (by simp [News.programKey?]) (by simp)

/-- A call of the refresh hook is spawned, if there is one. -/
lemma takesIn_requestRefresh (hf : f.Assembled) : TakesIn [.refresh] f f.requestRefresh := by
  unfold requestRefresh
  split <;> next hr =>
    exact .of_silent hf rfl rfl (by simp [News.streamId?]) (by simp [News.programKey?])
      (by simp [hr])

/-- No news have been taken in while nothing but a session has changed. -/
lemma takesIn_changeSession (hf : f.Assembled) (e : Nat) (change : Session → Session) :
    TakesIn [] f (f.changeSession e change) :=
  .of_eq hf rfl

/-- Beginning to close a socket is no news. -/
lemma takesIn_beginClose (hf : f.Assembled) (e socket : Nat) :
    TakesIn [] f (f.beginClose e socket) :=
  .of_eq hf rfl

section Relays

variable {respond : Respond} (hr : ∀ n, Relays n respond)

include hr

/-- The publication of a status is no news. -/
lemma takesIn_publishStatus (s : ConnectionState) (f : Feed) (hf : f.Assembled) :
    TakesIn [] f (publishStatus respond s f).2 :=
  .of_relayed fun n => relayed_publishStatus (hr n) hf s

/-- An event is published, and whoever is registered for its topic is told of it once. -/
lemma takesIn_publishEvent (hf : f.Assembled) (event : RoutedEvent) :
    TakesIn [.event event] f (publishEvent respond event f).2 := by
  let f₁ := f.note (.eventPublished event)
  -- Whoever has not been there yet is told of nothing.
  have hnobody : Relayed f.subscribers.length [] f₁ (publishEvent respond event f).2 :=
    relayed_publishEvent_of_ne (hr _) hf event fun l hl => Nat.ne_of_lt (hf.known l hl)
  have hnote : f.Audience f₁ := .of_length hf rfl rfl
  have hi := hnobody.intake
  simp only [intake, Prod.mk.injEq] at hi
  obtain ⟨streamId, programKey, refreshable, refreshes, routed⟩ := hi
  refine { hnote.trans hnobody.toAudience with
    routed, streamId, programKey, refreshable
    refreshes := (congrArg List.length refreshes).trans (by simp [f₁, note])
    delivered := fun {n only} hn _ => ?_ }
  rw [(relayed_publishEvent (hr n) hf event hn).delivered]
  by_cases hfor : event.isFor only <;> simp [hfor, News.event?] <;> rfl

/-- What the route of a frame asks for is taken in. -/
lemma takesIn_follow (hf : f.Assembled) (e : Nat) (envelope : Envelope) (route : Route) :
    TakesIn (route.news envelope) f (f.follow respond e envelope route) := by
  cases route with
  | heartbeat interval => exact takesIn_changeSession hf e _
  | publish topic => exact takesIn_publishEvent hr hf _
  | cacheProgramKey key => exact takesIn_programKey hf key
  | refreshPrograms key? =>
    cases key? with
    | none => exact takesIn_requestRefresh hf
    | some key =>
      have hkey := takesIn_programKey hf key
      exact hkey.trans hf (takesIn_requestRefresh hkey.assembled)
  | discard reason => exact .of_eq hf rfl

/-- What there is to take in of a text frame is taken in. -/
lemma takesIn_dispatch (hf : f.Assembled) (e : Nat) (raw : String) :
    TakesIn (Inbound.text raw).news f (f.dispatch respond e raw) := by
  have hframe := takesIn_changeSession hf e Session.recordFrame
  unfold dispatch Inbound.news
  dsimp only
  cases Envelope.classify raw with
  | error error => exact hframe.congr hf rfl
  | ok envelope =>
    have hid := takesIn_observeStreamId hframe.assembled envelope.streamId
    exact (hframe.trans hf hid).trans hf (takesIn_follow hr hid.assembled e envelope _)

/-- What there is to take in of a frame is taken in, unless the frame ends the connection. -/
lemma takesIn_loopFrame (hf : f.Assembled) (e socket : Nat) {frame : Inbound}
    (hframe : ∀ info, frame ≠ .close info) :
    TakesIn frame.news f (f.loopFrame respond e socket frame) := by
  cases frame with
  | text raw => exact (takesIn_dispatch hr hf e raw).congr hf rfl
  | close info => exact absurd rfl (hframe info)
  | _ => exact .of_eq hf rfl

/-! ### Steps and runs -/

/-- A turn of a read loop takes in what its frame has to say, if it has got one. -/
lemma LoopTurn.takesIn {k : Generation} {wake : Wake} (ht : LoopTurn respond k f wake f')
    (hf : f.Assembled) : TakesIn (Event.run (.loop k.epoch) wake).news f f' := by
  cases ht with
  | received h hframe => exact takesIn_loopFrame hr hf k.epoch _ hframe
  | opened h socket =>
    rcases loopConnected_opening respond k.epoch socket f with
      ⟨-, hc⟩ | ⟨-, -, hc⟩ | ⟨-, -, -, i, ht, hc⟩ <;> rw [hc]
    · have hopen : TakesIn [] f (f.opening k.epoch socket) := .of_eq hf rfl
      exact hopen.trans hf (takesIn_beginClose hopen.assembled k.epoch socket)
    · have hrefused : TakesIn [] f { (f.opening k.epoch socket).install k.epoch with
          installed := none } := .of_eq hf rfl
      exact hrefused.trans hf (takesIn_beginClose hrefused.assembled k.epoch socket)
    · have hopen : TakesIn [] f ((f.opening k.epoch socket).install k.epoch) := .of_eq hf rfl
      have htold := outward_takesIn.told (takesIn_publishStatus hr) ht hopen.assembled
      exact (hopen.trans hf htold).congr hf rfl
  | @failed wake error h =>
    have hfailed : TakesIn [] f (f.loopFailed k.epoch error) := by
      refine .of_eq hf ?_
      rw [intake_of_engine (engine_loopFailed k.epoch error f), subscribers_loopFailed]
      unfold loopFailed
      split <;> rfl
    have hlost := outward_takesIn.connectionLost (takesIn_publishStatus hr) _ k.epoch
      f.retry.attempt hfailed.assembled
    have hnews : (Event.run (.loop k.epoch) wake).news = [] := by
      unfold Generation.failure? at h
      split at h
      any_goals rfl
      exact absurd h (by simp)
    rw [hnews]
    exact hfailed.trans hf hlost
  | _ => exact .of_eq hf rfl

/-- Of all that callers ask for, an event that is published is the only news. -/
lemma takesIn_doCall (hf : f.Assembled) (call : Call) :
    TakesIn (Event.call call).news f (f.doCall respond call) := by
  have hp := takesIn_publishStatus hr
  cases call with
  | publishEvent event => exact takesIn_publishEvent hr hf event
  | start retries => exact outward_takesIn.started hp (started_start respond retries f) hf
  | stop => exact outward_takesIn.stop hp f hf
  | subscribe target name handler => exact outward_takesIn.subscribe f target name handler hf
  | unsubscribe handle => exact outward_takesIn.unsubscribe f handle hf
  | publishStatus status => exact hp status f hf
  | release =>
    refine .of_eq hf ?_
    unfold doCall release
    rw [haltTasks_eq, abortPending_eq]
    rfl
  | _ => exact .of_eq hf rfl

end Relays

/-- A call of the refresh hook is no news, whatever comes of it. -/
lemma takesIn_stepRefresh (hf : f.Assembled) {n : Nat} {wake : Wake}
    (hs : f.stepRefresh n wake = some f') : TakesIn [] f f' := by
  unfold stepRefresh at hs
  split at hs
  case h_2 => exact absurd hs (by simp)
  split at hs
  case isFalse => exact absurd hs (by simp)
  obtain rfl := Option.some.inj hs
  split <;>
    exact .of_silent hf rfl rfl (by simp [note, log]) (by simp [note, log]) (by simp [note, log])

/-- Every step takes in what there is to take in. -/
theorem takesIn_of_step? {may : Conduct} {depth : Nat} {event : Event} (hw : f.WellFormed may)
    (hf : f.Assembled) (hs : f.step? depth event = some f') : TakesIn event.news f f' := by
  have hr : ∀ n, Relays n (Feed.respond depth) := fun n => relays_respond n depth
  have hp := takesIn_publishStatus hr
  have hturn : ∀ current : Option Task, TakesIn [] f { f with current } := fun _ => .of_eq hf rfl
  cases stepped_of_step? hw hs with
  | called call => exact (hturn none).trans hf (takesIn_doCall hr (hturn none).assembled call)
  | looped =>
    obtain ⟨k, hk, hke, -, ht⟩ := loopTurn_of_step? hw hs
    rw [← hke] at ht ⊢
    exact (hturn _).trans hf (ht.takesIn hr (hturn _).assembled)
  | watched _ _ h =>
    exact (hturn _).trans hf (outward_takesIn.watchRun hp h (hturn _).assembled)
  | reconnectBegan =>
    exact (hturn _).trans hf (outward_takesIn.beginReconnect hp _ _ _ (hturn _).assembled)
  | reconnectEnded =>
    exact (hturn _).trans hf (outward_takesIn.endReconnect hp _ _ _ _ (hturn _).assembled)
  | disconnectBegan =>
    exact (hturn _).trans hf (outward_takesIn.beginDisconnect hp _ _ (hturn _).assembled)
  | disconnectJoined =>
    exact (hturn _).trans hf (outward_takesIn.endDisconnect hp _ _ (hturn _).assembled)
  | @disconnectAbandoned n _ epoch =>
    have habandon : TakesIn [] f ({ f with current := some (.disconnect n) }.abandonLoop epoch) :=
      .of_eq hf rfl
    exact habandon.trans hf (outward_takesIn.endDisconnect hp _ n habandon.assembled)
  | @refreshed n wake =>
    simp only [step?, runTask] at hs
    split at hs
    · exact (hturn _).trans hf (takesIn_stepRefresh (hturn _).assembled hs)
    · exact absurd hs (by simp)
  | _ => exact .of_eq hf rfl

/-- Listeners for events belong to different subscribers, whatever has happened so far. -/
lemma Reachable.assembled {depth : Nat} (hr : Reachable depth anyEvent f) :
    f.WellFormed Conduct.free ∧ f.Assembled :=
  hr.invariant Assembled (fun _ event _ => event.keeps_free)
    (fun _ _ _ h => assembled_of_ofSettings h)
    fun _ _ _ hw _ hf hs => (takesIn_of_step? hw hf hs).assembled

/-- Every run takes in what there is to take in, in its order. -/
theorem takesIn_of_run? {depth : Nat} {events : List Event} (hr : Reachable depth anyEvent f)
    (hs : f.run? depth events = some f') : TakesIn (events.flatMap Event.news) f f' := by
  obtain ⟨hw, hf⟩ := hr.assembled
  induction events generalizing f with
  | nil =>
    obtain rfl := Option.some.inj hs
    exact .of_eq hf rfl
  | cons event rest ih =>
    obtain ⟨g, hg, hrest⟩ := Option.bind_eq_some_iff.1 hs
    have hnext := hr.step trivial hg
    obtain ⟨hgw, hgf⟩ := hnext.assembled
    exact (takesIn_of_step? hw hf hg).trans hf (ih hnext hrest hgw hgf)

end Feed

end EventFeed
