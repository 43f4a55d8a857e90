import Mathlib.Data.List.Chain
import EventFeed.Proofs.Feed.Upkeep

/-!
# The lifecycle of a feed

Which status may follow which: a feed gets connected only from a connection that is being opened,
loses only a connection that is open or being opened, and does not connect anew while it is
connected. Six places change the status, each under a guard of its own, and some of the guards are
too weak to say this by themselves. What they leave open is settled by what is held: while a
generation is held, the feed has been started and is not waiting out a delay.

Operations keep the statuses on that path and publish every change that they make, however deep they
nest. They lead to no status that only tasks of a generation bring about: where the feed is
connected or has lost its connection after an operation, the operation was refused. So nothing that
subscribers do while they are told of such a status has to be looked at again.
-/

namespace EventFeed

/-! ### Statuses in order -/

namespace ConnectionState

/-- The status `t` may follow `s`. -/
structure Follows (s t : ConnectionState) : Prop where
  ne : t ≠ s
  connected : t = .connected → s = .initializing
  lostConnection : t = .lostConnection → s = .initializing ∨ s = .connected
  initializing : t = .initializing → s ≠ .connected
  notStarted : t ≠ .notStarted
  reconnectFailed : t ≠ .reconnectFailed

instance (s t : ConnectionState) : Decidable (s.Follows t) :=
  decidable_of_iff
    (t ≠ s ∧ (t = .connected → s = .initializing) ∧
      (t = .lostConnection → s = .initializing ∨ s = .connected) ∧
      (t = .initializing → s ≠ .connected) ∧ t ≠ .notStarted ∧ t ≠ .reconnectFailed)
    ⟨fun ⟨h₁, h₂, h₃, h₄, h₅, h₆⟩ => ⟨h₁, h₂, h₃, h₄, h₅, h₆⟩,
      fun ⟨h₁, h₂, h₃, h₄, h₅, h₆⟩ => ⟨h₁, h₂, h₃, h₄, h₅, h₆⟩⟩

/-- The statuses that only tasks of a generation bring about. -/
def isOutcome : ConnectionState → Bool
  | connected | lostConnection => true
  | _ => false

/-- The statuses to which an operation may lead from every other one. -/
def isPlain : ConnectionState → Bool
  | reconnecting | disconnecting | disconnected | stopUpdates => true
  | _ => false

/-- What an operation may lead to is not for tasks of a generation to bring about. -/
lemma isOutcome_of_isPlain {s : ConnectionState} (h : s.isPlain = true) :
    s.isOutcome = false := by
  cases s <;> first | rfl | exact absurd h (by decide)

/-- What an operation may lead to may follow every other status. -/
lemma follows_of_isPlain {s t : ConnectionState} (h : t.isPlain = true) (hne : s ≠ t) :
    s.Follows t := by
  revert h hne
  cases s <;> cases t <;> decide

end ConnectionState

namespace Feed

variable {may : Conduct} {respond : Respond} {f f' g : Feed}

/-- All statuses of the feed so far, the latest first. -/
def statuses (f : Feed) : List ConnectionState :=
  f.changes ++ [.notStarted]

/-- Each status of the feed so far follows the one before, and the status is the latest of them.
While a generation is held, the feed has been started and is not waiting out a delay. -/
structure Lawful (f : Feed) : Prop where
  latest : f.statuses.head? = some f.status
  path : f.statuses.IsChain fun t s => s.Follows t
  held : f.slot ≠ none → f.status ≠ .notStarted ∧ f.status ≠ .reconnecting

/-- A feed that has not been started is at the beginning of its lifecycle. -/
lemma lawful_of_ofSettings {settings : Settings} {refreshable : Bool}
    (h : ofSettings settings refreshable = .ok f) : f.Lawful := by
  obtain ⟨request, rfl⟩ := eq_of_ofSettings h
  exact ⟨rfl, .singleton _, fun h => absurd rfl h⟩

/-- The lifecycle is a matter of the status, the slot, and the changes made so far. -/
lemma Lawful.congr (h : f.Lawful) (he : (g.status, g.changes) = (f.status, f.changes))
    (hs : g.slot = f.slot ∨ g.slot = none) : g.Lawful := by
  simp only [Prod.mk.injEq] at he
  obtain ⟨status, changes⟩ := he
  have hstatuses : g.statuses = f.statuses := by rw [statuses, changes, statuses]
  refine ⟨by rw [hstatuses, status]; exact h.latest, by rw [hstatuses]; exact h.path, ?_⟩
  intro hg
  rw [status]
  rcases hs with hs | hs
  · exact h.held (hs ▸ hg)
  · exact absurd hs hg

/-- No feed gets to the status of those that give up. -/
lemma Lawful.ne_reconnectFailed (h : f.Lawful) : f.status ≠ .reconnectFailed := by
  have hlatest := h.latest
  have hpath := h.path
  intro hs
  unfold statuses at hlatest hpath
  cases hc : f.changes with
  | nil => simp [hc, hs] at hlatest
  | cons t rest =>
    rw [hc] at hlatest hpath
    have ht : t = .reconnectFailed := by simpa [hs] using hlatest
    have hne : rest ++ [.notStarted] ≠ [] := by simp
    obtain ⟨s, tail, htail⟩ := List.exists_cons_of_ne_nil hne
    rw [List.cons_append, htail] at hpath
    exact (List.isChain_cons_cons.1 hpath).1.reconnectFailed ht

/-- An announcement is made of a status that may follow. -/
lemma Lawful.announce (h : f.Lawful) {s : ConnectionState} (hs : f.status.Follows s)
    (hd : s = .reconnecting → f.slot = none) : (f.announce s).Lawful where
  latest := rfl
  path := by
    have hpath := h.path
    have hlatest := h.latest
    show (s :: f.statuses).IsChain _
    refine List.isChain_cons.2 ⟨fun t ht => ?_, hpath⟩
    obtain rfl : f.status = t := Option.some.inj (hlatest.symm.trans ht)
    exact hs
  held := fun hslot => ⟨hs.notStarted, fun hr => hslot (hd hr)⟩

/-! ### What operations lead to -/

/-- From `f` to `g` some statuses have been published that are given, and after them the changes of
the status, each of them once and in their order. -/
def Echoes (given : List ConnectionState) (f g : Feed) : Prop :=
  ∃ news, g.changes = news ++ f.changes ∧ g.published = news ++ (given ++ f.published)

lemma Echoes.trans {h : Feed} {given : List ConnectionState} (hf : f.Echoes given g)
    (hg : g.Echoes [] h) : f.Echoes given h := by
  obtain ⟨n, hc, hp⟩ := hf
  obtain ⟨m, hc', hp'⟩ := hg
  refine ⟨m ++ n, by rw [hc', hc, List.append_assoc], ?_⟩
  rw [hp', hp, List.nil_append, List.append_assoc]

/-- Nothing has been published, and the status has not changed. -/
lemma Echoes.of_eq (he : (g.changes, g.published) = (f.changes, f.published)) :
    f.Echoes [] g := by
  obtain ⟨changes, published⟩ := Prod.mk.inj he
  exact ⟨[], changes, published⟩

/-- From `f` to `g` every change has been published, and statuses have stayed on their path. -/
structure Traces (f g : Feed) : Prop where
  echoes : f.Echoes [] g
  lawful : f.Lawful → g.Lawful

lemma Traces.trans {h : Feed} (hf : f.Traces g) (hg : g.Traces h) : f.Traces h :=
  ⟨hf.echoes.trans hg.echoes, hg.lawful ∘ hf.lawful⟩

/-- Nothing has happened to the status, and at most what was held has been let go. -/
lemma Traces.of_eq
    (he : (g.status, g.changes, g.published) = (f.status, f.changes, f.published))
    (hs : g.slot = f.slot ∨ g.slot = none) : f.Traces g := by
  simp only [Prod.mk.injEq] at he
  obtain ⟨status, changes, published⟩ := he
  exact ⟨⟨[], changes, published⟩, fun h => h.congr (by rw [status, changes]) hs⟩

/-- On top of that, no status has been brought about that is for tasks of a generation to
bring about. -/
structure Steers (f g : Feed) : Prop extends Traces f g where
  outcome : g.status.isOutcome = true → g.engine = f.engine

lemma Steers.refl (f : Feed) : f.Steers f :=
  { Traces.of_eq rfl (.inl rfl) with outcome := fun _ => rfl }

lemma Steers.trans {h : Feed} (hf : f.Steers g) (hg : g.Steers h) : f.Steers h where
  toTraces := hf.toTraces.trans hg.toTraces
  outcome ho := by
    have heng := hg.outcome ho
    have hsame := eq_of_engine heng Feed.status fun _ => rfl
    exact heng.trans (hf.outcome (hsame ▸ ho))

/-- What happens to subscribers alone has nothing to do with the lifecycle. -/
lemma steers_of_engine (he : g.engine = f.engine) : f.Steers g where
  toTraces := by
    refine .of_eq ?_ (.inl (eq_of_engine he Feed.slot fun _ => rfl))
    rw [eq_of_engine he Feed.status fun _ => rfl,
      eq_of_engine he Feed.changes fun k => changes_engine k,
      eq_of_engine he Feed.published fun k => published_engine k]
  outcome _ := he

/-- So it can be relied on whatever subscribers register or forget. -/
lemma framed_steers (may : Conduct) : Framed may (WellFormed may) fun _ => Steers where
  keeps h := h.keeps
  refl _ := Steers.refl
  trans := Steers.trans
  aside he hk hf := ⟨hf.of_engine he hk, steers_of_engine he⟩

/-- Statuses have stayed on their path, and the one they have got to is not for tasks of a
generation to bring about. -/
structure Leads (f g : Feed) : Prop extends Traces f g where
  plain : g.status.isOutcome = false

lemma Leads.steers (h : f.Leads g) : f.Steers g :=
  { h.toTraces with outcome := fun ho => absurd (h.plain.symm.trans ho) (by simp) }

/-- What comes before has no part in where the feed has got to. -/
lemma Traces.leads {h : Feed} (hf : f.Traces g) (hg : g.Leads h) : f.Leads h :=
  ⟨hf.trans hg.toTraces, hg.plain⟩

/-- Nothing happens to the status any more, and at most what was held is let go. -/
lemma Leads.ends {h : Feed} (hf : f.Leads g)
    (he : (h.status, h.changes, h.published) = (g.status, g.changes, g.published))
    (hs : h.slot = g.slot ∨ h.slot = none) : f.Leads h :=
  ⟨hf.toTraces.trans (.of_eq he hs), (Prod.mk.inj he).1 ▸ hf.plain⟩

section Steers

variable (hr : Respects (WellFormed may) (fun _ => Steers) respond)

include hr

/-- All changes since an announcement have been published, and so has the announcement. Statuses
have stayed on their path, if the announced one is on it. -/
lemma Told.traces {s : ConnectionState} (ht : Told respond s f g) (hf : f.WellFormed may)
    (h : f.Lawful → (f.announce s).Lawful) : f.Traces g := by
  obtain ⟨-, hs⟩ := (framed_steers may).told hr ht (hf.announce s)
  have hannounce : f.Traces (f.announce s) := ⟨⟨[s], rfl, rfl⟩, h⟩
  exact hannounce.trans hs.toTraces

/-- If a feed gets to a status that is for tasks of a generation to bring about, then that is the
status that has been announced, and nothing has happened to the engine since. -/
lemma Told.outcome {s : ConnectionState} (ht : Told respond s f g) (hf : f.WellFormed may)
    (ho : g.status.isOutcome = true) : g.engine = (f.announce s).engine :=
  ((framed_steers may).told hr ht (hf.announce s)).2.outcome ho

/-- An announcement of anything else does not lead there. -/
lemma Told.not_outcome {s : ConnectionState} (ht : Told respond s f g) (hf : f.WellFormed may)
    (hs : s.isOutcome = false) : g.status.isOutcome = false := by
  by_contra ho
  have heng := ht.outcome hr hf (by simpa using ho)
  have hstatus : g.status = s := eq_of_engine heng Feed.status fun _ => rfl
  rw [hstatus] at ho
  exact ho hs

/-- Going on to a status to which operations lead keeps statuses on their path. -/
lemma Entered.leads {s : ConnectionState} (ht : Entered respond s f g) (hf : f.WellFormed may)
    (hs : s.isPlain = true) (hd : s = .reconnecting → f.slot = none) : f.Leads g := by
  have hplain := ConnectionState.isOutcome_of_isPlain hs
  rcases ht with ⟨rfl, rfl⟩ | ⟨hne, ht⟩
  · exact ⟨.of_eq rfl (.inl rfl), hplain⟩
  · have hfollows := ConnectionState.follows_of_isPlain hs hne
    exact ⟨ht.traces hr hf fun h => h.announce hfollows hd, ht.not_outcome hr hf hplain⟩

omit hr in
/-- A generation begins in a feed that connects. -/
lemma traces_generate (hs : f.status = .initializing) (retries : UInt32) :
    f.Traces (f.generate retries) := by
  have he : (f.generate retries).status = f.status ∧ (f.generate retries).journal = f.journal := by
    rw [generate, abortSlot_eq]
    exact ⟨rfl, rfl⟩
  obtain ⟨status, journal⟩ := he
  have hch : (f.generate retries).changes = f.changes := by rw [changes, journal, changes]
  have hpub : (f.generate retries).published = f.published := by
    rw [published, journal, published]
  have hall : (f.generate retries).statuses = f.statuses := by rw [statuses, hch, statuses]
  refine ⟨⟨[], hch, hpub⟩, fun h => ⟨?_, hall ▸ h.path, fun _ => ?_⟩⟩
  · rw [hall, status]
    exact h.latest
  · rw [status, hs]
    exact ⟨by simp, by simp⟩

/-- A start is refused, or statuses stay on their path if the guard has seen to it that the feed is
not connected. -/
lemma steers_startWhere {allowed : Feed → Bool} {retries : UInt32} (hf : f.WellFormed may)
    (ha : allowed f = true → f.status ≠ .connected) :
    f.Steers (startWhere respond allowed retries f).2 := by
  rcases startWhere_cases respond allowed retries f with
    ⟨-, he⟩ | ⟨hs, hal, k, ht, hk⟩
  · rw [he]
    exact .refl f
  · have hfollows : f.status.Follows .initializing := by
      have hc := ha hal
      revert hs hc
      cases f.status <;> decide
    have hfk : f.Leads k :=
      ⟨ht.traces hr hf fun h => h.announce hfollows (by simp), ht.not_outcome hr hf rfl⟩
    rcases hk with ⟨-, he⟩ | ⟨hk, he⟩
    · rw [he]
      exact hfk.steers
    · have hstatus : (k.generate retries).status = k.status := by rw [generate, abortSlot_eq]
      have hall : f.Leads (k.generate retries) :=
        ⟨hfk.toTraces.trans (traces_generate hk retries), hstatus ▸ hfk.plain⟩
      rw [he]
      exact hall.steers

/-- A stop keeps statuses on their path. -/
lemma leads_stop (hf : f.WellFormed may) : f.Leads (f.stop respond) := by
  have hl := (entered_setStatus respond .stopUpdates f).leads hr hf rfl (by simp)
  unfold stop
  refine hl.ends ?_ (.inr ?_)
  · rw [haltTasks_eq, abortPending_eq]
    rfl
  · rw [haltTasks_eq]

/-- The first part of a reconnect keeps statuses on their path. -/
lemma leads_beginReconnect (n : Nat) (r : Reconnect) (hf : f.WellFormed may) :
    f.Leads (f.beginReconnect respond n r) := by
  have hslot : f.haltTasks.slot = none := by rw [haltTasks_eq]
  have hhalt : f.Traces f.haltTasks := .of_eq (by rw [haltTasks_eq]; rfl) (.inr hslot)
  rcases beginReconnect_cases respond n r f with ⟨-, hh, he⟩ | ⟨-, k, ht, he⟩
  · have hplain : f.haltTasks.status.isOutcome = false := by
      rw [haltTasks_eq]
      revert hh
      cases f.status <;> decide
    rw [he]
    exact Leads.ends ⟨hhalt, hplain⟩ rfl (.inl rfl)
  · have hk := ht.leads hr hf.haltTasks rfl fun _ => hslot
    rw [he, sleepReconnect_eq]
    exact hhalt.leads (hk.ends rfl (.inl rfl))

/-- The last part of a disconnect keeps statuses on their path. -/
lemma leads_endDisconnect (n : Nat) (hf : f.WellFormed may) :
    f.Leads (f.endDisconnect respond n) := by
  obtain ⟨k, ht, he⟩ := endDisconnect_cases respond n f
  have hi : { f with installed := none }.WellFormed may := hf.uninstall
  have hforget : f.Traces { f with installed := none } := .of_eq rfl (.inl rfl)
  have hk := ht.leads hr hi rfl (by simp)
  rw [he]
  exact hforget.leads (hk.ends rfl (.inl rfl))

end Steers

section Orderly

variable (ho : Orderly may respond) (hr : Respects (WellFormed may) (fun _ => Steers) respond)

include ho hr

/-- The first part of a disconnect keeps statuses on their path. -/
lemma leads_beginDisconnect (n : Nat) (hf : f.WellFormed may) :
    f.Leads (f.beginDisconnect respond n) := by
  obtain ⟨k, ht, he⟩ := beginDisconnect_cases respond n f
  have hk := (ht.upkeep ho hf).1
  have hmid : f.Leads { k.abortPending with slot := none, epoch := k.epoch + 1 } :=
    (ht.leads hr hf rfl (by simp)).ends (by rw [abortPending_eq]; rfl) (.inr rfl)
  rcases he with ⟨hs, he⟩ | ⟨e, -, he⟩
  · rw [he]
    exact hmid.toTraces.leads (leads_endDisconnect hr n (hk.abortPending_passEpoch hs))
  · rw [he]
    exact hmid.ends rfl (.inl rfl)

end Orderly

/-- On top of the bookkeeping, operations keep statuses on their path. -/
theorem conducted_steers (may : Conduct) :
    Conducted may (WellFormed may) fun _ f g => f.Later g ∧ f.Steers g := by
  refine (conducted_upkeep may).and (framed_steers may) ?_ ?_ ?_ ?_
  · intro _ _ hr _ _ retries f hf
    exact steers_startWhere hr hf (by simp)
  · intro _ _ hr _ _ f hf
    exact (leads_stop hr hf).steers
  · intro _ _ hr _ _ delay retries f hf
    have hadd : f.Traces (f.addReconnect delay retries).2 := .of_eq rfl (.inl rfl)
    have hw : (f.addReconnect delay retries).2.WellFormed may := hf.appendReconnect hf.claim rfl
    exact (hadd.leads (leads_beginReconnect hr _ _ hw)).steers
  · intro _ ho hr _ _ f hf
    have hadd : f.Traces f.addDisconnect.2 := .of_eq rfl (.inl rfl)
    exact (hadd.leads (leads_beginDisconnect ho hr _ hf.addDisconnect)).steers

end EventFeed.Feed
