import Mathlib.Tactic.Simps.Basic
import EventFeed.Proofs.Feed.Turns
import EventFeed.Proofs.Request

/-!
# What a feed does not tell

A feed keeps the password in its settings, and in the headers of its request what is made of it.
But for the request that is sent, nothing that it does depends on either. `withSecrets` gives a feed
another password and other headers; every operation, every answer of a subscriber and every step of
a task may be taken before or after that, with the same result (`step?_withSecrets`), and so may
whole runs. For the user, this is `password_concealed`: settings that differ in the password make
feeds with the same journal.

Most functions of a feed only read other fields, and then both orders are the same by definition.
What has to be proved is that functions branch in the same way, and that a publication goes the same
way as long as subscribers do. They do so at every depth (`blind_respond`), by induction: the
answers one level further down are those about which the operations have to know.
-/

namespace EventFeed

/-! ### Listeners -/

namespace Reaction

variable {σ β α : Type} {r : Reaction σ β α} {change : σ → σ}

/-- Listeners do the same whether the state is changed before or after. -/
structure Commutes (r : Reaction σ β α) (change : σ → σ) : Prop where
  accepts : ∀ what value s,
    r.accepts what value (change s) = (r.accepts what value s).map id change
  handle : ∀ what value s, r.handle what value (change s) = (r.handle what value s).map id change
  report : ∀ listener message s,
    r.report listener message (change s) = change (r.report listener message s)

/-- An offer to one listener may be made before or after the change. -/
lemma Commutes.offer (h : r.Commutes change) (value : α) (listener : Listener β) (s : σ) :
    r.offer value listener (change s) = (r.offer value listener s).map id change := by
  unfold Reaction.offer
  rw [h.accepts]
  obtain ⟨verdict, s⟩ := r.accepts listener.what value s
  cases verdict with
  | refused => rfl
  | panicked message => exact congrArg _ (h.report _ _ _)
  | accepted =>
    simp only [Prod.map_apply, id]
    rw [h.handle]
    obtain ⟨completion, s⟩ := r.handle listener.what value s
    cases completion with
    | completed => rfl
    | panicked message => exact congrArg _ (h.report _ _ _)

/-- So may the offers of a whole pass. -/
lemma Commutes.offerAll (h : r.Commutes change) (value : α) (listeners : List (Listener β))
    (s : σ) : r.offerAll value listeners (change s) =
      (r.offerAll value listeners s).map id change := by
  induction listeners generalizing s with
  | nil => rfl
  | cons listener rest ih =>
    unfold Reaction.offerAll
    rw [h.offer]
    obtain ⟨completed, s⟩ := r.offer value listener s
    simp only [Prod.map_apply, ih]
    rfl

end Reaction

/-! ### Secrets -/

/-- What a feed has been told and does not tell. -/
structure Secrets where
  password : String
  /-- The headers of its request, one of which is made of the password. -/
  headers : List (String × String)

namespace Feed

/-- A feed that has been told other secrets. -/
@[simps]
def withSecrets (secrets : Secrets) (f : Feed) : Feed :=
  { f with
    settings := { f.settings with password := secrets.password }
    request := { f.request with headers := secrets.headers } }

variable {secrets : Secrets} {respond : Respond}

/-! ### Reading the state

Fields other than the settings and the request are read as they are. -/

/-- Whether a task may run does not depend on secrets. -/
lemma withSecrets_mayRun (f : Feed) (task : Task) :
    (f.withSecrets secrets).mayRun task = f.mayRun task := by
  cases task <;> rfl

/-- Nor does whether a read loop has ended. -/
lemma withSecrets_loopEnded (f : Feed) (epoch : Nat) :
    (f.withSecrets secrets).loopEnded epoch = f.loopEnded epoch := rfl

/-- Nor does whether a generation has gone quiet. -/
lemma withSecrets_isStale (f : Feed) (epoch : Nat) :
    (f.withSecrets secrets).isStale epoch = f.isStale epoch := rfl

/-! ### Changes that nobody is told about

Each of them may be made before or after other secrets are told. -/

lemma subscribe_withSecrets (target : Target) (name : String) (handler : Handler) (f : Feed) :
    (f.withSecrets secrets).subscribe target name handler =
      (f.subscribe target name handler).withSecrets secrets := by
  cases target <;> rfl

lemma unsubscribe_withSecrets (handle : Handle) (f : Feed) :
    (f.withSecrets secrets).unsubscribe handle =
      (f.unsubscribe handle).map id (withSecrets secrets) := by
  unfold unsubscribe
  simp only [withSecrets_eventListeners, withSecrets_statusListeners]
  obtain ⟨removed, eventListeners⟩ := f.eventListeners.unsubscribe handle
  cases removed <;> rfl

lemma unsubscribeName_withSecrets (name : String) (f : Feed) :
    (f.withSecrets secrets).unsubscribeName name =
      (f.unsubscribeName name).map id (withSecrets secrets) := by
  unfold unsubscribeName
  rw [withSecrets_subscriptions]
  cases f.subscriptions.lookup name with
  | none => rfl
  | some handle =>
    simp only [unsubscribe_withSecrets]
    rfl

lemma spend_withSecrets (number key : Nat) (f : Feed) :
    (f.withSecrets secrets).spend number key =
      (f.spend number key).map id (withSecrets secrets) := by
  unfold spend
  rw [withSecrets_subscribers]
  split_ifs <;> rfl

lemma abortSlot_withSecrets (f : Feed) :
    (f.withSecrets secrets).abortSlot = f.abortSlot.withSecrets secrets := by
  unfold abortSlot
  rw [withSecrets_slot]
  cases f.slot <;> rfl

lemma haltTasks_withSecrets (f : Feed) :
    (f.withSecrets secrets).haltTasks = f.haltTasks.withSecrets secrets := by
  unfold haltTasks
  rw [abortSlot_withSecrets]
  rfl

lemma abortPending_withSecrets (f : Feed) :
    (f.withSecrets secrets).abortPending = f.abortPending.withSecrets secrets := by
  unfold abortPending
  rw [withSecrets_pending]
  cases f.pending <;> rfl

lemma release_withSecrets (f : Feed) :
    (f.withSecrets secrets).release = f.release.withSecrets secrets := by
  unfold release
  rw [abortPending_withSecrets, haltTasks_withSecrets]

lemma scheduleReconnect_withSecrets (epoch : Nat) (retries : UInt32) (f : Feed) :
    (f.withSecrets secrets).scheduleReconnect epoch retries =
      (f.scheduleReconnect epoch retries).withSecrets secrets := by
  unfold scheduleReconnect
  simp only [withSecrets_epoch, withSecrets_claim]
  split_ifs <;> rfl

lemma observeStreamId_withSecrets (id : Option String) (f : Feed) :
    (f.withSecrets secrets).observeStreamId id =
      (f.observeStreamId id).withSecrets secrets := by
  unfold observeStreamId
  rw [withSecrets_streamId]
  cases id with
  | none => rfl
  | some id =>
    cases f.streamId with
    | none => rfl
    | some previous =>
      dsimp only
      split_ifs <;> rfl

lemma requestRefresh_withSecrets (f : Feed) :
    (f.withSecrets secrets).requestRefresh = f.requestRefresh.withSecrets secrets := by
  unfold requestRefresh
  rw [withSecrets_refreshable]
  split_ifs <;> rfl

lemma loopFailed_withSecrets (epoch : Nat) (e : TransportError) (f : Feed) :
    (f.withSecrets secrets).loopFailed epoch e = (f.loopFailed epoch e).withSecrets secrets := by
  unfold loopFailed
  cases e.severity <;> rfl

/-! ### Operations

Whatever publishes a status or an event may be done before or after, if subscribers are blind to
secrets. -/

/-- Subscribers give the same answers whatever the secrets are, and leave them as they are. -/
def Blind (secrets : Secrets) (respond : Respond) : Prop :=
  ∀ number notice f, respond number notice (f.withSecrets secrets) =
    (respond number notice f).map id (withSecrets secrets)

section Blind

variable (hr : Blind secrets respond)

include hr

lemma publishStatus_withSecrets (status : ConnectionState) (f : Feed) :
    publishStatus respond status (f.withSecrets secrets) =
      (publishStatus respond status f).map id (withSecrets secrets) :=
  have hcommutes : (statusReaction respond).Commutes (withSecrets secrets) :=
    ⟨fun _ _ _ => rfl, fun _ _ _ => hr _ _ _, fun _ _ _ => rfl⟩
  hcommutes.offerAll status _ (f.note (.statusPublished status))

lemma publishEvent_withSecrets (event : RoutedEvent) (f : Feed) :
    publishEvent respond event (f.withSecrets secrets) =
      (publishEvent respond event f).map id (withSecrets secrets) :=
  have hcommutes : (eventReaction respond).Commutes (withSecrets secrets) :=
    ⟨fun _ _ _ => rfl, fun _ _ _ => hr _ _ _, fun _ _ _ => rfl⟩
  hcommutes.offerAll event _ (f.note (.eventPublished event))

/-- A transition goes the same way if what allows it does not look at secrets. -/
lemma transition_withSecrets {allowed : Feed → Bool}
    (ha : ∀ f, allowed (f.withSecrets secrets) = allowed f) (next : ConnectionState) (f : Feed) :
    transition respond allowed next (f.withSecrets secrets) =
      (transition respond allowed next f).map id (withSecrets secrets) := by
  unfold transition
  rw [withSecrets_status, ha]
  split_ifs
  · rfl
  · exact congrArg (fun published => (true, published.2))
      (publishStatus_withSecrets hr next ({ f with status := next }.note (.statusChanged next)))

lemma setStatus_withSecrets (next : ConnectionState) (f : Feed) :
    (f.withSecrets secrets).setStatus respond next =
      (f.setStatus respond next).withSecrets secrets :=
  congrArg Prod.snd (transition_withSecrets hr (fun _ => rfl) next f)

lemma stop_withSecrets (f : Feed) :
    (f.withSecrets secrets).stop respond = (f.stop respond).withSecrets secrets := by
  unfold stop
  rw [setStatus_withSecrets hr, abortPending_withSecrets, haltTasks_withSecrets]

lemma startWhere_withSecrets {allowed : Feed → Bool}
    (ha : ∀ f, allowed (f.withSecrets secrets) = allowed f) (retries : UInt32) (f : Feed) :
    startWhere respond allowed retries (f.withSecrets secrets) =
      (startWhere respond allowed retries f).map id (withSecrets secrets) := by
  unfold startWhere
  rw [transition_withSecrets hr ha]
  obtain ⟨accepted, g⟩ := transition respond allowed .initializing f
  dsimp only [Prod.map_apply, id]
  rw [withSecrets_status]
  split_ifs
  · rfl
  · rw [abortSlot_withSecrets]
    rfl

lemma start_withSecrets (retries : UInt32) (f : Feed) :
    (f.withSecrets secrets).start respond retries =
      (f.start respond retries).withSecrets secrets :=
  congrArg Prod.snd (startWhere_withSecrets hr (fun _ => rfl) retries f)

lemma restart_withSecrets (retries : UInt32) (f : Feed) :
    (f.withSecrets secrets).restart respond retries =
      (f.restart respond retries).withSecrets secrets :=
  congrArg Prod.snd (startWhere_withSecrets hr (fun _ => rfl) retries f)

lemma beginReconnect_withSecrets (number : Nat) (r : Reconnect) (f : Feed) :
    (f.withSecrets secrets).beginReconnect respond number r =
      (f.beginReconnect respond number r).withSecrets secrets := by
  unfold beginReconnect
  rw [haltTasks_withSecrets]
  dsimp only
  rw [setStatus_withSecrets hr, transition_withSecrets hr fun _ => rfl]
  obtain ⟨moved, g⟩ := transition respond _ .reconnecting f.haltTasks
  simp only [Prod.map_apply, id, withSecrets_status]
  split_ifs <;> rfl

lemma endReconnect_withSecrets (number epoch : Nat) (r : Reconnect) (f : Feed) :
    (f.withSecrets secrets).endReconnect respond number epoch r =
      (f.endReconnect respond number epoch r).withSecrets secrets := by
  have hset : (f.withSecrets secrets).setReconnect number .finished =
    (f.setReconnect number .finished).withSecrets secrets := rfl
  unfold endReconnect
  rw [hset]
  dsimp only
  rw [restart_withSecrets hr, withSecrets_epoch]
  split_ifs <;> rfl

lemma connectionLost_withSecrets (epoch : Nat) (retries : UInt32) (f : Feed) :
    (f.withSecrets secrets).connectionLost respond epoch retries =
      (f.connectionLost respond epoch retries).withSecrets secrets := by
  unfold connectionLost
  rw [transition_withSecrets hr fun _ => rfl]
  obtain ⟨lost, g⟩ := transition respond _ .lostConnection f
  cases lost with
  | false => rfl
  | true => exact scheduleReconnect_withSecrets epoch retries g

lemma sessionOpened_withSecrets (epoch : Nat) (f : Feed) :
    sessionOpened respond epoch (f.withSecrets secrets) =
      (sessionOpened respond epoch f).map id (withSecrets secrets) := by
  have hinstall : (f.withSecrets secrets).install epoch =
    (f.install epoch).withSecrets secrets := rfl
  rw [sessionOpened_eq, sessionOpened_eq, withSecrets_epoch, hinstall,
    transition_withSecrets hr fun _ => rfl]
  obtain ⟨connected, g⟩ := transition respond (isLive epoch) .connected (f.install epoch)
  dsimp only [Prod.map_apply, id]
  rw [withSecrets_installed]
  split_ifs <;> rfl

lemma endDisconnect_withSecrets (number : Nat) (f : Feed) :
    (f.withSecrets secrets).endDisconnect respond number =
      (f.endDisconnect respond number).withSecrets secrets :=
  congrArg (setDisconnect · number .finished)
    (setStatus_withSecrets hr .disconnected { f with installed := none })

lemma beginDisconnect_withSecrets (number : Nat) (f : Feed) :
    (f.withSecrets secrets).beginDisconnect respond number =
      (f.beginDisconnect respond number).withSecrets secrets := by
  unfold beginDisconnect
  rw [setStatus_withSecrets hr, abortPending_withSecrets]
  generalize (f.setStatus respond .disconnecting).abortPending = g
  dsimp only
  rw [withSecrets_slot]
  cases g.slot with
  | none => exact endDisconnect_withSecrets hr number { g with slot := none, epoch := g.epoch + 1 }
  | some epoch => rfl

lemma abandonDisconnect_withSecrets (number epoch : Nat) (f : Feed) :
    (f.withSecrets secrets).abandonDisconnect respond number epoch =
      (f.abandonDisconnect respond number epoch).withSecrets secrets :=
  endDisconnect_withSecrets hr number <|
    (f.log .warn "Read loop did not close in time, aborting"
      [("timeout_ms", toString f.settings.shutdownTimeout.millisCounter.toNat)]).changeGeneration
        epoch fun g => { g with loopAborted := true }

/-! ### Answers at every depth -/

/-- A command is carried out in the same way. -/
lemma obey_withSecrets (number : Nat) (command : Command) (f : Feed) :
    (f.withSecrets secrets).obey respond number command =
      (f.obey respond number command).map id (withSecrets secrets) := by
  match command with
  | .start retries => exact congrArg (Completion.completed, ·) (start_withSecrets hr retries f)
  | .stop => exact congrArg (Completion.completed, ·) (stop_withSecrets hr f)
  | .reconnect delay retries =>
    exact congrArg (Completion.completed, ·) (beginReconnect_withSecrets hr f.reconnects.length
      { scheduled := false, delay, retries } (f.addReconnect delay retries).2)
  | .disconnect =>
    exact congrArg (Completion.completed, ·)
      (beginDisconnect_withSecrets hr f.disconnects.length f.addDisconnect.2)
  | .subscribe target name handler =>
    exact congrArg (Completion.completed, ·) (subscribe_withSecrets target name handler f)
  | .unsubscribe name =>
    unfold obey
    rw [unsubscribeName_withSecrets]
    rfl
  | .panic message => rfl
  | .once key command =>
    unfold obey
    rw [spend_withSecrets]
    obtain ⟨fresh, g⟩ := f.spend number key
    cases fresh with
    | false => rfl
    | true => exact obey_withSecrets number command g

/-- So are several of them, up to the first panic. -/
lemma obeyAll_withSecrets (number : Nat) (commands : List Command) (f : Feed) :
    (f.withSecrets secrets).obeyAll respond number commands =
      (f.obeyAll respond number commands).map id (withSecrets secrets) := by
  induction commands generalizing f with
  | nil => rfl
  | cons command rest ih =>
    unfold obeyAll
    rw [obey_withSecrets hr]
    obtain ⟨completion, g⟩ := f.obey respond number command
    cases completion with
    | completed => exact ih g
    | panicked message => rfl

end Blind

/-- However deep answers nest, they do not depend on secrets. -/
theorem blind_respond (depth : Nat) : Blind secrets (Feed.respond depth) := by
  induction depth with
  | zero => exact fun _ _ _ => rfl
  | succ depth ih =>
    intro number notice f
    have htell : (f.withSecrets secrets).tell number notice =
      (f.tell number notice).withSecrets secrets := rfl
    unfold Feed.respond
    rw [htell]
    dsimp only
    rw [withSecrets_subscribers]
    cases (f.tell number notice).subscribers[number]? with
    | none => rfl
    | some subscriber => exact obeyAll_withSecrets ih number _ _

/-! ### Tasks -/

section Blind

variable (hr : Blind secrets respond)

include hr

lemma follow_withSecrets (epoch : Nat) (envelope : Envelope) (route : Route) (f : Feed) :
    (f.withSecrets secrets).follow respond epoch envelope route =
      (f.follow respond epoch envelope route).withSecrets secrets := by
  cases route with
  | heartbeat interval => rfl
  | publish topic => exact congrArg Prod.snd (publishEvent_withSecrets hr ⟨topic, envelope⟩ f)
  | cacheProgramKey key => rfl
  | refreshPrograms key =>
    cases key with
    | none => exact requestRefresh_withSecrets f
    | some key => exact requestRefresh_withSecrets { f with programKey := some key }
  | discard reason => rfl

lemma dispatch_withSecrets (epoch : Nat) (raw : String) (f : Feed) :
    (f.withSecrets secrets).dispatch respond epoch raw =
      (f.dispatch respond epoch raw).withSecrets secrets := by
  have hframe : (f.withSecrets secrets).changeSession epoch Session.recordFrame =
    (f.changeSession epoch Session.recordFrame).withSecrets secrets := rfl
  unfold dispatch
  dsimp only
  cases Envelope.classify raw with
  | error e => rfl
  | ok envelope =>
    dsimp only
    rw [hframe, observeStreamId_withSecrets, follow_withSecrets hr]

/-- A failure is written to the log with its kind and its text, and with nothing of the feed but
the epoch. -/
lemma failLoop_withSecrets (epoch : Nat) (e : TransportError) (f : Feed) :
    (f.withSecrets secrets).failLoop respond epoch e =
      (f.failLoop respond epoch e).withSecrets secrets := by
  rw [failLoop_eq_connectionLost, failLoop_eq_connectionLost, loopFailed_withSecrets,
    connectionLost_withSecrets hr, withSecrets_retry]

lemma loopConnected_withSecrets (epoch socket : Nat) (f : Feed) :
    (f.withSecrets secrets).loopConnected respond epoch socket =
      (f.loopConnected respond epoch socket).withSecrets secrets := by
  have hopening : (f.withSecrets secrets).opening epoch socket =
    (f.opening epoch socket).withSecrets secrets := rfl
  rw [loopConnected_eq, loopConnected_eq, hopening, sessionOpened_withSecrets hr]
  obtain ⟨opened, g⟩ := sessionOpened respond epoch (f.opening epoch socket)
  -- The line that tells of the connection shows the URL of the request and no header.
  cases opened <;> rfl

lemma loopFrame_withSecrets (epoch socket : Nat) (frame : Inbound) (f : Feed) :
    (f.withSecrets secrets).loopFrame respond epoch socket frame =
      (f.loopFrame respond epoch socket frame).withSecrets secrets := by
  cases frame with
  | text content =>
    exact congrArg (awaitFrame epoch socket) (dispatch_withSecrets hr epoch content f)
  | binary bytes => rfl
  | ping => rfl
  | pong => rfl
  | close info =>
    cases info with
    | none => exact failLoop_withSecrets hr epoch (.closed none "") f
    | some info => exact failLoop_withSecrets hr epoch (.closed (some info.code) info.reason) f

lemma watchWoke_withSecrets (epoch : Nat) (f : Feed) :
    (f.withSecrets secrets).watchWoke respond epoch =
      (f.watchWoke respond epoch).withSecrets secrets := by
  unfold watchWoke
  rw [withSecrets_epoch, withSecrets_isStale]
  split_ifs
  · rfl
  · exact connectionLost_withSecrets hr epoch 0 (f.setWatch epoch .finished)
  · rfl

/-! ### Steps -/

lemma stepLoop_withSecrets (g : Generation) (wake : Wake) (f : Feed) :
    (f.withSecrets secrets).stepLoop respond g wake =
      (f.stepLoop respond g wake).map (withSecrets secrets) := by
  cases wake with
  | first =>
    simp only [stepLoop]
    split_ifs <;> rfl
  | connected _ | connectFailed _ | frame _ | readFailed _ | ended | closed | panicked =>
    -- these look at nothing but the phase of the read loop
    simp only [stepLoop, loopConnected_withSecrets hr, failLoop_withSecrets hr,
      loopFrame_withSecrets hr]
    split <;> rfl
  | elapsed =>
    simp only [stepLoop, failLoop_withSecrets hr, withSecrets_now]
    split
    · split_ifs <;> rfl
    · split_ifs <;> rfl
    · rfl
  | shutdown =>
    simp only [stepLoop]
    split_ifs
    · split <;> rfl
    · rfl
  | joined | refreshed _ => rfl

lemma stepWatch_withSecrets (g : Generation) (wake : Wake) (f : Feed) :
    (f.withSecrets secrets).stepWatch respond g wake =
      (f.stepWatch respond g wake).map (withSecrets secrets) := by
  cases wake with
  | first =>
    simp only [stepWatch]
    split_ifs <;> rfl
  | elapsed =>
    simp only [stepWatch, watchWoke_withSecrets hr, withSecrets_now]
    split
    · split_ifs <;> rfl
    · rfl
  | _ => rfl

lemma stepReconnect_withSecrets (number : Nat) (r : Reconnect) (wake : Wake) (f : Feed) :
    (f.withSecrets secrets).stepReconnect respond number r wake =
      (f.stepReconnect respond number r wake).map (withSecrets secrets) := by
  cases wake with
  | first =>
    simp only [stepReconnect, beginReconnect_withSecrets hr]
    split_ifs <;> rfl
  | elapsed =>
    simp only [stepReconnect, endReconnect_withSecrets hr, withSecrets_now]
    split
    · split_ifs <;> rfl
    · rfl
  | _ => rfl

lemma stepDisconnect_withSecrets (number : Nat) (d : Disconnect) (wake : Wake) (f : Feed) :
    (f.withSecrets secrets).stepDisconnect respond number d wake =
      (f.stepDisconnect respond number d wake).map (withSecrets secrets) := by
  cases wake with
  | first =>
    simp only [stepDisconnect, beginDisconnect_withSecrets hr]
    split_ifs <;> rfl
  | joined =>
    simp only [stepDisconnect, endDisconnect_withSecrets hr, withSecrets_loopEnded]
    split
    · split_ifs <;> rfl
    · rfl
  | elapsed =>
    simp only [stepDisconnect, abandonDisconnect_withSecrets hr, withSecrets_now]
    split
    · split_ifs <;> rfl
    · rfl
  | _ => rfl

omit hr in
lemma stepRefresh_withSecrets (number : Nat) (wake : Wake) (f : Feed) :
    (f.withSecrets secrets).stepRefresh number wake =
      (f.stepRefresh number wake).map (withSecrets secrets) := by
  cases wake with
  | refreshed error =>
    simp only [stepRefresh, withSecrets_refreshes]
    split_ifs
    · cases error <;> rfl
    · rfl
  | _ => rfl

omit hr in
/-- Something is looked up, and the same is done with it. -/
lemma bind_withSecrets {α : Type} (found : Option α) {act act' : α → Option Feed}
    (h : ∀ a, act' a = (act a).map (withSecrets secrets)) :
    found.bind act' = (found.bind act).map (withSecrets secrets) := by
  rw [Option.map_bind]
  exact Option.bind_congr fun a _ => h a

/-- A task runs in the same way. -/
lemma runTask_withSecrets (task : Task) (wake : Wake) (f : Feed) :
    (f.withSecrets secrets).runTask respond task wake =
      (f.runTask respond task wake).map (withSecrets secrets) := by
  unfold runTask
  rw [withSecrets_mayRun]
  split_ifs
  · cases task with
    | loop epoch =>
      exact bind_withSecrets _ fun g =>
        stepLoop_withSecrets hr g wake { f with current := some (.loop epoch) }
    | watch epoch =>
      exact bind_withSecrets _ fun g =>
        stepWatch_withSecrets hr g wake { f with current := some (.watch epoch) }
    | reconnect number =>
      exact bind_withSecrets _ fun r =>
        stepReconnect_withSecrets hr number r wake { f with current := some (.reconnect number) }
    | disconnect number =>
      exact bind_withSecrets _ fun d =>
        stepDisconnect_withSecrets hr number d wake
          { f with current := some (.disconnect number) }
    | refresh number =>
      exact stepRefresh_withSecrets number wake { f with current := some (.refresh number) }
  · rfl

/-- Callers get the same. -/
lemma doCall_withSecrets (call : Call) (f : Feed) :
    (f.withSecrets secrets).doCall respond call = (f.doCall respond call).withSecrets secrets := by
  cases call with
  | start retries => exact start_withSecrets hr retries f
  | stop => exact stop_withSecrets hr f
  | reconnect delay retries => rfl
  | disconnect => rfl
  | subscribe target name handler => exact subscribe_withSecrets target name handler f
  | unsubscribe handle => exact congrArg Prod.snd (unsubscribe_withSecrets handle f)
  | publishStatus status => exact congrArg Prod.snd (publishStatus_withSecrets hr status f)
  | publishEvent event => exact congrArg Prod.snd (publishEvent_withSecrets hr event f)
  | release => exact release_withSecrets f

end Blind

lemma giveUp_withSecrets (task : Task) (f : Feed) :
    (f.withSecrets secrets).giveUp task = (f.giveUp task).map (withSecrets secrets) := by
  cases task with
  | reconnect number =>
    simp only [giveUp, withSecrets_reconnects]
    split_ifs <;> rfl
  | disconnect number =>
    simp only [giveUp, withSecrets_disconnects]
    split_ifs <;> rfl
  | _ => rfl

/-- What can happen to a feed, and what comes of it, does not depend on its secrets. -/
theorem step?_withSecrets (depth : Nat) (event : Event) (f : Feed) :
    (f.withSecrets secrets).step? depth event =
      (f.step? depth event).map (withSecrets secrets) := by
  have hr : Blind secrets (Feed.respond depth) := blind_respond depth
  cases event with
  | call call => exact congrArg some (doCall_withSecrets hr call { f with current := none })
  | run task wake => exact runTask_withSecrets hr task wake f
  | tick now =>
    simp only [step?, withSecrets_now]
    split_ifs <;> rfl
  | giveUp task => exact giveUp_withSecrets task { f with current := none }

/-- Nor does what comes of a whole run. -/
theorem run?_withSecrets (depth : Nat) (events : List Event) (f : Feed) :
    (f.withSecrets secrets).run? depth events =
      (f.run? depth events).map (withSecrets secrets) := by
  induction events generalizing f with
  | nil => rfl
  | cons event rest ih =>
    unfold run?
    rw [List.foldlM_cons, List.foldlM_cons, step?_withSecrets]
    cases f.step? depth event with
    | none => rfl
    | some g => exact ih g

/-! ### Feeds of settings with another password -/

/-- Another password makes the same feed, with other secrets, or fails in the same way. -/
lemma ofSettings_withPassword (settings : Settings) (password : String) (refreshable : Bool) :
    ofSettings { settings with password } refreshable =
      (ofSettings settings refreshable).map (withSecrets
        { password
          headers := Request.protocolHeaders ++
            Request.credentialHeaders { settings with password } }) := by
  have hvalid : Settings.validate { settings with password } = settings.validate := rfl
  unfold ofSettings
  rw [hvalid, Request.ofSettings_withPassword]
  cases settings.validate with
  | error e => rfl
  | ok _ => cases Request.ofSettings settings <;> rfl

/-- The password does not show. The text of settings is the same with another password, and so is
the text of the request that is made of them. A feed can be made of both or of neither, and then for
the same reason. Whatever callers do, in whatever order tasks run, and whatever connections and
frames come to, the one feed can go through it exactly if the other can, and their journals are the
same: what they publish about the status and about events, what subscribers are told, and every line
of the log. The text of any request at all is the same whatever stands in headers whose names spell
the word for credentials, in letters small or capital. -/
theorem password_concealed (settings : Settings) (password : String) (refreshable : Bool) :
    let other := { settings with password }
    other.text = settings.text ∧
      (Request.ofSettings other).map Request.text =
        (Request.ofSettings settings).map Request.text ∧
      ((∃ e, ofSettings settings refreshable = .error e ∧
          ofSettings other refreshable = .error e) ∨
        ∃ f g, ofSettings settings refreshable = .ok f ∧ ofSettings other refreshable = .ok g ∧
          ∀ depth events,
            (g.run? depth events).map journal = (f.run? depth events).map journal) ∧
      ∀ request request' : Request, request.url = request'.url →
        List.Forall₂ Request.ShownAlike request.headers request'.headers →
        request.text = request'.text := by
  intro other
  have hother := ofSettings_withPassword settings password refreshable
  refine ⟨rfl, Request.text_withPassword settings password, ?_,
    fun request request' hurl hheaders => Request.text_congr hurl hheaders⟩
  cases hf : ofSettings settings refreshable with
  | error e => exact .inl ⟨e, rfl, by rw [hother, hf]; rfl⟩
  | ok f =>
    refine .inr ⟨f, _, rfl, by rw [hother, hf]; rfl, fun depth events => ?_⟩
    rw [run?_withSecrets, Option.map_map]
    rfl

/-- Two users of one name and different passwords send different requests. When a connection is
refused, both of their feeds write the same about it. -/
theorem password_concealed_refused :
    let settings := { Settings.standard with username := "admin", password := "admin" }
    let other := { settings with password := "secret" }
    let events : List Event :=
      [.call (.start 0), .run (.loop 1) .first,
        .run (.loop 1) (.connectFailed (.connector "refused"))]
    (Request.ofSettings other).toOption ≠ (Request.ofSettings settings).toOption ∧
      (Request.ofSettings other).map Request.text =
        (Request.ofSettings settings).map Request.text ∧
      (∃ f g f' g', ofSettings settings false = .ok f ∧ ofSettings other false = .ok g ∧
        f.run? 0 events = some f' ∧ g.run? 0 events = some g' ∧ g'.journal = f'.journal ∧
        .logged
          { level := .error
            message := "Event stream error: Connector error: refused"
            fields := [("epoch", "1")]
            error := some "Connector(\x22refused\x22)" } ∈ g'.journal.map Entry.fact) ∧
      Request.text ⟨"ws://host/", [("aUTHORIZATION", "Basic YWRtaW46"), ("Accept", "*/*")]⟩ =
        Request.text ⟨"ws://host/", [("aUTHORIZATION", "none"), ("Accept", "*/*")]⟩ := by
  intro settings other events
  obtain ⟨-, hrequest, hfeeds, htexts⟩ := password_concealed settings "secret" false
  refine ⟨by decide +kernel, hrequest, ?_, htexts _ _ rfl ?_⟩
  · have hplay : ∃ f ∈ (ofSettings settings false).toOption, ∃ f' ∈ f.run? 0 events,
        Fact.logged
          { level := .error
            message := "Event stream error: Connector error: refused"
            fields := [("epoch", "1")]
            error := some "Connector(\x22refused\x22)" } ∈ f'.journal.map Entry.fact := by
      decide +kernel
    obtain ⟨f, hf, f', hf', hline⟩ := hplay
    have hmade : ofSettings settings false = .ok f := eq_ok_of_toOption hf
    obtain ⟨e, herror, -⟩ | ⟨k, g, hk, hg, hjournals⟩ := hfeeds
    · exact absurd (hmade.symm.trans herror) (by simp)
    · obtain rfl : f = k := Except.ok.inj (hmade.symm.trans hk)
      obtain ⟨g', hg', hjournal⟩ : ∃ g', g.run? 0 events = some g' ∧ g'.journal = f'.journal :=
        Option.map_eq_some_iff.1 ((hjournals 0 events).trans (congrArg _ hf'))
      exact ⟨f, g, f', g', hmade, hg, hf', hg', hjournal, hjournal ▸ hline⟩
  · exact .cons ⟨rfl, .inl (Request.foldName_authorization.1 (by decide))⟩
      (.cons ⟨rfl, .inr rfl⟩ .nil)

end Feed

end EventFeed
