import EventFeed.Proofs.Feed.Parts
import EventFeed.Proofs.Feed.Turns

/-!
# Tasks keep apart

A step is the clock that moves on, or it is at most one task's turn. Whatever subscribers do in the
course of it, every other task stays where it waits: read loops in their phases and with their
sessions, guardians until their deadlines, reconnects until theirs. Operations abort tasks, and they
begin new ones, but they take no step for any task, neither for those that exist nor for those that
begin.

`Idles` says this of operations, and `Spares` of steps. Both look back from the generations there
are afterwards to those that there have been before.
-/

namespace EventFeed

/-- No task of the generation has taken a step. -/
structure Generation.Unborn (g : Generation) : Prop where
  loop : g.loop = .waiting
  watch : g.watch = .waiting
  session : g.session = none

namespace Feed

variable {may : Conduct} {respond : Respond} {task : Option Task} {f f' g : Feed}

/-! ### Operations -/

/-- From `f` to `g` no task of a generation has taken a step: generations have existed before, or
they have begun in a later epoch. -/
structure Idles (f g : Feed) : Prop where
  epoch : f.epoch ≤ g.epoch
  generations : ∀ k' ∈ g.generations,
    (∃ k ∈ f.generations, k.Later k') ∨ (f.epoch < k'.epoch ∧ k'.Unborn)

lemma Idles.trans {h : Feed} (hf : Idles f g) (hg : Idles g h) : Idles f h where
  epoch := Nat.le_trans hf.epoch hg.epoch
  generations k₂ hk₂ := by
    rcases hg.generations k₂ hk₂ with ⟨k₁, hk₁, hl⟩ | ⟨hlt, hu⟩
    · rcases hf.generations k₁ hk₁ with ⟨k, hk, hl'⟩ | ⟨hlt, hu⟩
      · exact .inl ⟨k, hk, hl'.trans hl⟩
      · exact .inr ⟨hl.epoch ▸ hlt, hl.loop.trans hu.loop, hl.watch.trans hu.watch,
          hl.session.trans hu.session⟩
    · exact .inr ⟨Nat.lt_of_le_of_lt hf.epoch hlt, hu⟩

/-- Generations whose tasks are told to end stay where they are. -/
lemma idles_map {c : Generation → Generation} (hc : ∀ k : Generation, k.Later (c k))
    (generations : g.generations = f.generations.map c) (epoch : f.epoch ≤ g.epoch) :
    Idles f g := by
  refine ⟨epoch, fun k' hk' => ?_⟩
  rw [generations] at hk'
  obtain ⟨k, hk, rfl⟩ := List.mem_map.1 hk'
  exact .inl ⟨k, hk, hc k⟩

/-- Nothing has happened to generations. -/
lemma Idles.of_eq (h : (g.generations, g.epoch) = (f.generations, f.epoch)) : Idles f g := by
  obtain ⟨generations, epoch⟩ := Prod.mk.inj h
  exact idles_map (c := id) .refl (generations.trans (List.map_id _).symm) (Nat.le_of_eq epoch.symm)

/-- What happens to subscribers alone takes no step for any task. -/
lemma idles_of_engine (he : g.engine = f.engine) : Idles f g :=
  .of_eq (eq_of_engine he (fun k => (k.generations, k.epoch)) fun _ => rfl)

/-- Aborting the tasks that are held takes no step for them. -/
lemma idles_abort {slot : Option Nat}
    (generations : g.generations = f.generations.map fun k =>
      if slot = some k.epoch then k.abort else k) (epoch : f.epoch ≤ g.epoch) : Idles f g :=
  idles_map (fun k => by split; exacts [.abort k, .refl k]) generations epoch

/-- Halting takes no step for any task. -/
lemma idles_haltTasks (f : Feed) : Idles f f.haltTasks :=
  idles_abort (by rw [haltTasks_eq]) (by rw [haltTasks_eq]; exact Nat.le_succ _)

/-- Aborting the scheduled reconnect takes no step for any task. -/
lemma idles_abortPending (f : Feed) : Idles f f.abortPending :=
  .of_eq (by rw [abortPending_eq])

/-- A generation that begins has taken no step. -/
lemma idles_generate (retries : UInt32) (f : Feed) : Idles f (f.generate retries) := by
  refine ⟨Nat.le_succ _, fun k hk => ?_⟩
  rcases List.mem_append.1 hk with hk | hk
  · have habort : Idles f f.abortSlot :=
      idles_abort (by rw [abortSlot_eq]) (Nat.le_of_eq (by rw [abortSlot_eq]))
    exact habort.generations k hk
  · rw [List.mem_singleton.1 hk]
    exact .inr ⟨Nat.lt_succ_self _, rfl, rfl, rfl⟩

/-- Letting go of a generation takes no step for its tasks. -/
lemma idles_letGo (epoch : Nat) (f : Feed) : Idles f (f.letGo epoch) := by
  refine idles_map (c := fun k => if k.epoch = epoch then
    { k with watchAborted := true, signalled := true } else k) (fun k => ?_) rfl (Nat.le_refl _)
  split
  · exact ⟨rfl, rfl, rfl, rfl, id, fun _ => rfl, fun _ => rfl⟩
  · exact .refl k

/-- No part of an operation takes a step for any generation. -/
lemma partwise_idles : Partwise Idles where
  trans := Idles.trans
  aside := idles_of_engine
  announce _ _ := .of_eq rfl
  noteStatus _ _ := .of_eq rfl
  noteEvent _ _ := .of_eq rfl
  haltTasks := idles_haltTasks
  abortPending := idles_abortPending
  generate := idles_generate
  addReconnect _ _ _ := .of_eq rfl
  setReconnect _ _ _ := .of_eq rfl
  addDisconnect _ := .of_eq rfl
  setDisconnect _ _ _ := .of_eq rfl
  uninstall _ := .of_eq rfl
  passEpoch _ := idles_map (c := id) .refl (List.map_id _).symm (Nat.le_succ _)
  letGo := idles_letGo

/-! ### Steps -/

/-- A task whose turn it is belongs to no generation to come. -/
def OnTurn (f : Feed) (task : Option Task) : Prop :=
  ∀ e, task = some (.loop e) ∨ task = some (.watch e) → e ≤ f.epoch

/-- Without a turn, nothing is asked of the feed. -/
lemma onTurn_none (f : Feed) : f.OnTurn none := by simp [OnTurn]

/-- From `f` to `g` no time has passed, and no task has gone on but the one whose turn it is. No
session has been installed but by the read loop whose turn it is, and generations that have begun
have taken no step. -/
structure Spares (task : Option Task) (f g : Feed) : Prop where
  turn : f.OnTurn task
  settings : g.settings = f.settings
  now : g.now = f.now
  epoch : f.epoch ≤ g.epoch
  installed : ∀ e, task ≠ some (.loop e) → g.installed = some e → f.installed = some e
  generations : ∀ k' ∈ g.generations,
    (∃ k ∈ f.generations, k.epoch = k'.epoch ∧
      (task ≠ some (.loop k'.epoch) → k'.loop = k.loop ∧ k'.session = k.session) ∧
      (task ≠ some (.watch k'.epoch) → k'.watch = k.watch)) ∨
    (f.epoch < k'.epoch ∧ k'.Unborn)
  reconnects : ∀ (n : Nat) r, f.reconnects[n]? = some r → task ≠ some (.reconnect n) →
    ∃ r', g.reconnects[n]? = some r' ∧ r'.phase = r.phase

lemma Spares.trans {h : Feed} (hf : Spares task f g) (hg : Spares task g h) :
    Spares task f h where
  turn := hf.turn
  settings := hg.settings.trans hf.settings
  now := hg.now.trans hf.now
  epoch := Nat.le_trans hf.epoch hg.epoch
  installed e ht hi := hf.installed e ht (hg.installed e ht hi)
  generations k₂ hk₂ := by
    rcases hg.generations k₂ hk₂ with ⟨k₁, hk₁, he₁, hl₁, hw₁⟩ | ⟨hlt, hu⟩
    · rcases hf.generations k₁ hk₁ with ⟨k, hk, he, hl, hw⟩ | ⟨hlt, hu⟩
      · rw [he₁] at he hl hw
        exact .inl ⟨k, hk, he, fun ht => ⟨(hl₁ ht).1.trans (hl ht).1, (hl₁ ht).2.trans (hl ht).2⟩,
          fun ht => (hw₁ ht).trans (hw ht)⟩
      · -- It is nobody's turn in a generation that begins in between.
        rw [he₁] at hlt
        have hno : ∀ {t}, task = some t → t = .loop k₂.epoch ∨ t = .watch k₂.epoch → False := by
          rintro t ht (rfl | rfl)
          · exact Nat.not_le.2 hlt (hf.turn _ (.inl ht))
          · exact Nat.not_le.2 hlt (hf.turn _ (.inr ht))
        obtain ⟨hloop, hsession⟩ := hl₁ fun ht => hno ht (.inl rfl)
        exact .inr ⟨hlt, hloop.trans hu.loop, (hw₁ fun ht => hno ht (.inr rfl)).trans hu.watch,
          hsession.trans hu.session⟩
    · exact .inr ⟨Nat.lt_of_le_of_lt hf.epoch hlt, hu⟩
  reconnects n r hr ht := by
    obtain ⟨r₁, hr₁, hp₁⟩ := hf.reconnects n r hr ht
    obtain ⟨r₂, hr₂, hp₂⟩ := hg.reconnects n r₁ hr₁ ht
    exact ⟨r₂, hr₂, hp₂.trans hp₁⟩

/-- The tasks of generations go on as far as it is their turn. -/
lemma spares_map {c : Generation → Generation} (ht : f.OnTurn task)
    (hc : ∀ k : Generation, (c k).epoch = k.epoch ∧
      (task ≠ some (.loop k.epoch) → (c k).loop = k.loop ∧ (c k).session = k.session) ∧
      (task ≠ some (.watch k.epoch) → (c k).watch = k.watch))
    (generations : g.generations = f.generations.map c)
    (he : (g.settings, g.now, g.epoch, g.reconnects) = (f.settings, f.now, f.epoch, f.reconnects))
    (hi : ∀ e, task ≠ some (.loop e) → g.installed = some e → f.installed = some e) :
    Spares task f g := by
  simp only [Prod.mk.injEq] at he
  obtain ⟨settings, now, epoch, reconnects⟩ := he
  refine ⟨ht, settings, now, Nat.le_of_eq epoch.symm, hi, fun k' hk' => ?_,
    fun n r hr _ => ⟨r, reconnects ▸ hr, rfl⟩⟩
  rw [generations] at hk'
  obtain ⟨k, hk, rfl⟩ := List.mem_map.1 hk'
  obtain ⟨hke, hloop, hwatch⟩ := hc k
  rw [hke]
  exact .inl ⟨k, hk, rfl, hloop, hwatch⟩

/-- Neither the clock nor a task has moved on. -/
lemma Spares.of_eq (ht : f.OnTurn task)
    (he : (g.settings, g.now, g.epoch, g.installed, g.generations, g.reconnects) =
      (f.settings, f.now, f.epoch, f.installed, f.generations, f.reconnects)) :
    Spares task f g := by
  simp only [Prod.mk.injEq] at he
  obtain ⟨settings, now, epoch, installed, generations, reconnects⟩ := he
  exact spares_map (c := id) ht (fun k => ⟨rfl, fun _ => ⟨rfl, rfl⟩, fun _ => rfl⟩)
    (generations.trans (List.map_id _).symm) (by rw [settings, now, epoch, reconnects])
    fun e _ hi => installed ▸ hi

/-- Whose turn it is may be said afterwards as well. -/
lemma OnTurn.mono (h : f.OnTurn task) (he : f.epoch ≤ g.epoch) : g.OnTurn task :=
  fun e ht => Nat.le_trans (h e ht) he

/-- It is of no account what happens to the rest of the feed. -/
lemma Spares.congr {i : Feed} (h : Spares task f g)
    (he : (i.settings, i.now, i.epoch, i.installed, i.generations, i.reconnects) =
      (g.settings, g.now, g.epoch, g.installed, g.generations, g.reconnects)) :
    Spares task f i :=
  h.trans (.of_eq (h.turn.mono h.epoch) he)

/-- What happens to subscribers alone takes no step for any task. -/
lemma spares_of_engine (ht : f.OnTurn task) (he : g.engine = f.engine) : Spares task f g :=
  .of_eq ht (eq_of_engine he
    (fun k => (k.settings, k.now, k.epoch, k.installed, k.generations, k.reconnects)) fun _ => rfl)

/-- Operations take no step for any task. -/
lemma spares_of_idles (ht : f.OnTurn task) (h : f.Later g ∧ Idles f g) : Spares task f g where
  turn := ht
  settings := h.1.settings
  now := h.1.now
  epoch := h.1.epoch
  installed e _ hi := by
    rcases h.1.installed with hs | hs
    · exact hs ▸ hi
    · exact absurd (hs.symm.trans hi) (by simp)
  generations k' hk' := by
    rcases h.2.generations k' hk' with ⟨k, hk, hl⟩ | hu
    · exact .inl ⟨k, hk, hl.epoch.symm, fun _ => ⟨hl.loop, hl.session⟩, fun _ => hl.watch⟩
    · exact .inr hu
  reconnects n r hr _ := h.1.reconnects n r hr

/-- The generation of an epoch changes in the turn of its read loop. -/
lemma spares_changeLoop {e : Nat} {c : Generation → Generation} (ht : e ≤ f.epoch)
    (hc : ∀ k, (c k).epoch = k.epoch ∧ (c k).watch = k.watch)
    (generations : g.generations = (f.changeGeneration e c).generations)
    (he : (g.settings, g.now, g.epoch, g.installed, g.reconnects) =
      (f.settings, f.now, f.epoch, f.installed, f.reconnects)) : Spares (some (.loop e)) f g := by
  simp only [Prod.mk.injEq] at he
  obtain ⟨settings, now, epoch, installed, reconnects⟩ := he
  refine spares_map (by simpa [OnTurn] using ht) (fun k => ?_) generations
    (by rw [settings, now, epoch, reconnects]) fun i _ hi => installed ▸ hi
  by_cases hke : k.epoch = e
  · rw [if_pos hke]
    exact ⟨(hc k).1, fun hne => absurd (by rw [hke]) hne, fun _ => (hc k).2⟩
  · rw [if_neg hke]
    exact ⟨rfl, fun _ => ⟨rfl, rfl⟩, fun _ => rfl⟩

/-- The read loop of an epoch goes on to a phase in its turn. -/
lemma Spares.setLoop {e : Nat} {i : Feed} {phase : LoopPhase} (h : Spares (some (.loop e)) f g)
    (he : (i.settings, i.now, i.epoch, i.installed, i.generations, i.reconnects) =
      (g.settings, g.now, g.epoch, g.installed, g.generations, g.reconnects)) :
    Spares (some (.loop e)) f (i.setLoop e phase) := by
  have hi := h.congr he
  exact hi.trans (spares_changeLoop (c := fun k => { k with loop := phase })
    (Nat.le_trans (h.turn e (.inl rfl)) hi.epoch) (fun _ => ⟨rfl, rfl⟩) rfl rfl)

/-- A session is installed in the turn of its read loop, or it is forgotten. -/
lemma Spares.install {e : Nat} {installed : Option Nat} (h : Spares (some (.loop e)) f g)
    (hi : installed = some e ∨ installed = none) (retry : RetryState) :
    Spares (some (.loop e)) f { g with installed, retry } := by
  refine h.trans (spares_map (c := id) (h.turn.mono h.epoch)
    (fun k => ⟨rfl, fun _ => ⟨rfl, rfl⟩, fun _ => rfl⟩) (List.map_id _).symm rfl
    fun i hne he => ?_)
  rcases hi with rfl | rfl
  · exact absurd (by rw [Option.some.inj he]) hne
  · exact absurd he (by simp)

/-- The guardian of an epoch goes on to a phase in its turn. -/
lemma spares_setWatch {e : Nat} (ht : e ≤ f.epoch) (phase : WatchPhase) :
    Spares (some (.watch e)) f (f.setWatch e phase) := by
  refine spares_map (c := fun k => if k.epoch = e then { k with watch := phase } else k)
    (by simpa [OnTurn] using ht) (fun k => ?_) rfl rfl fun i _ hi => hi
  by_cases hke : k.epoch = e
  · rw [if_pos hke]
    exact ⟨rfl, fun _ => ⟨rfl, rfl⟩, fun hne => absurd (by rw [hke]) hne⟩
  · rw [if_neg hke]
    exact ⟨rfl, fun _ => ⟨rfl, rfl⟩, fun _ => rfl⟩

/-- A reconnect goes on to a phase in its turn. -/
lemma Spares.setReconnect {n : Nat} {i : Feed} {phase : ReconnectPhase}
    (h : Spares (some (.reconnect n)) f g)
    (he : (i.settings, i.now, i.epoch, i.installed, i.generations, i.reconnects) =
      (g.settings, g.now, g.epoch, g.installed, g.generations, g.reconnects)) :
    Spares (some (.reconnect n)) f (i.setReconnect n phase) := by
  have hi := h.congr he
  refine hi.trans ⟨hi.turn.mono hi.epoch, rfl, rfl, Nat.le_refl _, fun _ _ hi => hi,
    fun k hk => .inl ⟨k, hk, rfl, fun _ => ⟨rfl, rfl⟩, fun _ => rfl⟩, fun m r hr ht => ⟨r, ?_, rfl⟩⟩
  have hnm : n ≠ m := fun h => ht (congrArg _ (congrArg _ h))
  simpa [Feed.setReconnect, List.getElem?_modify, hnm] using hr

/-- A reconnect that is scheduled takes no step yet. -/
lemma spares_scheduleReconnect (ht : f.OnTurn task) (epoch : Nat) (retries : UInt32) :
    Spares task f (f.scheduleReconnect epoch retries) := by
  rcases scheduleReconnect_cases epoch retries f with ⟨-, hs⟩ | ⟨-, -, hs⟩
  · rw [hs]
    exact .of_eq ht rfl
  · rw [hs]
    refine ⟨ht, rfl, rfl, Nat.le_refl _, fun _ _ hi => hi,
      fun k hk => .inl ⟨k, hk, rfl, fun _ => ⟨rfl, rfl⟩, fun _ => rfl⟩,
      fun n r hr _ => ⟨r, ?_, rfl⟩⟩
    exact (List.getElem?_append_left (List.getElem?_eq_some_iff.1 hr).1).trans hr

section Steps

variable (hr : Respects (WellFormed may) (fun _ f g => f.Later g ∧ Idles f g) respond)

include hr

/-- The report of a loss takes no step for any task. -/
lemma spares_connectionLost (ht : f.OnTurn task) (hf : f.WellFormed may) (epoch : Nat)
    (retries : UInt32) : Spares task f (f.connectionLost respond epoch retries) := by
  rcases connectionLost_cases respond epoch retries f with ⟨-, he⟩ | ⟨-, -, k, htold, he⟩
  · rw [he]
    exact .of_eq ht rfl
  · have hk := spares_of_idles ht
      ⟨(htold.upkeep hr.and.1 hf).2, partwise_idles.told hr.and.2 htold hf⟩
    rw [he]
    exact hk.trans (spares_scheduleReconnect (ht.mono hk.epoch) epoch retries)

/-- The publication of an event takes no step for any task. -/
lemma spares_publishEvent (ht : f.OnTurn task) (hf : f.WellFormed may) (event : RoutedEvent) :
    Spares task f (publishEvent respond event f).2 := by
  exact spares_of_idles ht ⟨(upkeep_publishEvent hr.and.1 hf event).2,
    partwise_idles.publishEvent hr.and.2 event hf⟩

/-- A read loop that opens a socket leaves all other tasks where they are. -/
lemma spares_loopConnected {e : Nat} (hf : f.WellFormed may) (he : e ≤ f.epoch) (socket : Nat) :
    Spares (some (.loop e)) f (f.loopConnected respond e socket) := by
  have hopen : Spares (some (.loop e)) f (f.opening e socket) :=
    spares_changeLoop
      (c := fun g =>
        { g with
          session := some
            { epoch := e, openedAt := f.now, interval := f.settings.heartbeatInterval } })
      he (fun _ => ⟨rfl, rfl⟩) rfl rfl
  rcases loopConnected_opening respond e socket f with
    ⟨-, hc⟩ | ⟨-, -, hc⟩ | ⟨-, -, -, i, ht, hc⟩
  · rw [hc]
    exact hopen.setLoop rfl
  · have hnone := hopen.install (.inr rfl) (f.opening e socket).retry.reset
    rw [hc]
    exact hnone.setLoop rfl
  · have hinst := hopen.install (.inl rfl) (f.opening e socket).retry.reset
    have hi : ((f.opening e socket).install e).WellFormed may :=
      (hf.busy (busy_opening e socket f)).install e
    have htold : Spares (some (.loop e)) ((f.opening e socket).install e) i :=
      spares_of_idles (hinst.turn.mono hinst.epoch)
        ⟨(ht.upkeep hr.and.1 hi).2, partwise_idles.told hr.and.2 ht hi⟩
    rw [hc]
    exact (hinst.trans htold).setLoop rfl

/-- A read loop leaves all other tasks where they are. -/
lemma LoopTurn.spares {k : Generation} {wake : Wake} (hs : LoopTurn respond k f wake f')
    (hf : k.loop ≠ .waiting → f.WellFormed may) (he : k.epoch ≤ f.epoch) :
    Spares (some (.loop k.epoch)) f f' := by
  have hturn : f.OnTurn (some (.loop k.epoch)) := by simpa [OnTurn] using he
  have hsame : Spares (some (.loop k.epoch)) f f := .of_eq hturn rfl
  cases hs with
  | began => exact hsame.setLoop rfl
  | opened h socket => exact spares_loopConnected hr (hf (by simp [h])) he socket
  | @failed _ e h =>
    have hw : k.loop ≠ .waiting := by
      intro hw
      simp [Generation.failure?, hw] at h
    have hlog : Spares (some (.loop k.epoch)) f (f.loopFailed k.epoch e) :=
      (hsame.setLoop rfl).trans (spares_of_engine hturn (engine_loopFailed k.epoch e f))
    have hk := (hf hw).loopFailed k.epoch e
    exact hlog.trans (spares_connectionLost hr (hturn.mono hlog.epoch) hk _ _)
  | @received socket _ _ h frame hframe =>
    obtain ⟨j, hb, hgen, hend⟩ := loopFrame_hears respond k.epoch socket hframe f
    have hj : Spares (some (.loop k.epoch)) f j := by
      obtain ⟨_, _, _, _, _, rfl⟩ := hb.rest
      exact spares_changeLoop
        (c := fun g => { g with session := g.session.map (Session.hear f.now frame) })
        he (fun _ => ⟨rfl, rfl⟩) hgen rfl
    rcases hend with hend | ⟨event, hend⟩
    · rw [hend]
      exact hj.setLoop rfl
    · have hpub := spares_publishEvent hr (hturn.mono hj.epoch) ((hf (by simp [h])).busy hb) event
      rw [hend]
      exact (hj.trans hpub).setLoop rfl
  | left => exact hsame.setLoop rfl
  | closing => exact hsame.setLoop rfl
  | closed => exact hsame.setLoop rfl
  | panicked => exact hsame.setLoop rfl

/-- A guardian leaves all other tasks where they are. -/
lemma WatchTurn.spares {k : Generation} {wake : Wake} (hs : WatchTurn respond k f wake f')
    (hf : f.WellFormed may) (he : k.epoch ≤ f.epoch) : Spares (some (.watch k.epoch)) f f' := by
  cases hs with
  | began => exact spares_setWatch he _
  | ended => exact spares_setWatch he _
  | slept => exact spares_setWatch he _
  | reported =>
    have hset : Spares (some (.watch k.epoch)) f (f.setWatch k.epoch .finished) :=
      spares_setWatch he .finished
    exact hset.trans (spares_connectionLost hr (hset.turn.mono hset.epoch)
      (hf.setWatch k.epoch .finished) _ _)

omit hr in
/-- A call of the refresh hook leaves all tasks of generations where they are. -/
lemma spares_stepRefresh {number : Nat} {wake : Wake} (ht : f.OnTurn task)
    (hs : f.stepRefresh number wake = some f') : Spares task f f' := by
  unfold stepRefresh at hs
  split at hs
  · split at hs
    · rw [← Option.some.inj hs]
      split
      · exact .of_eq ht rfl
      · exact .of_eq ht rfl
    · exact absurd hs (by simp)
  · exact absurd hs (by simp)

/-- A reconnect that begins leaves all other tasks where they are. -/
lemma spares_beginReconnect (n : Nat) (r : Reconnect) (hf : f.WellFormed may) :
    Spares (some (.reconnect n)) f (f.beginReconnect respond n r) := by
  have ht : f.OnTurn (some (.reconnect n)) := by simp [OnTurn]
  have hhalt : Spares (some (.reconnect n)) f f.haltTasks :=
    spares_of_idles ht ⟨later_haltTasks f, idles_haltTasks f⟩
  rcases beginReconnect_cases respond n r f with ⟨-, -, he⟩ | ⟨-, k, hk, he⟩
  · rw [he]
    exact hhalt.setReconnect rfl
  · have htold : Spares (some (.reconnect n)) f.haltTasks k :=
      spares_of_idles (ht.mono hhalt.epoch)
        ⟨(hk.upkeep hr.and.1 hf.haltTasks).2, partwise_idles.entered hr.and.2 hk hf.haltTasks⟩
    rw [he, sleepReconnect_eq]
    exact (hhalt.trans htold).setReconnect rfl

/-- A reconnect that wakes up leaves all other tasks where they are. -/
lemma spares_endReconnect (n epoch : Nat) (r : Reconnect) (hf : f.WellFormed may) :
    Spares (some (.reconnect n)) f (f.endReconnect respond n epoch r) := by
  have hsame : Spares (some (.reconnect n)) f f := .of_eq (by simp [OnTurn]) rfl
  have hend : Spares (some (.reconnect n)) f (f.setReconnect n .finished) := hsame.setReconnect rfl
  have hn : (f.setReconnect n .finished).WellFormed may := hf.setReconnect (by simp) n
  rcases endReconnect_cases respond n epoch r f with ⟨-, he⟩ | ⟨-, -, he⟩
  · rw [he]
    exact hend
  · have hs := started_restart respond (f.backoff.nextAttempt r.retries)
      (f.setReconnect n .finished)
    rw [he]
    exact hend.trans (spares_of_idles (hend.turn.mono hend.epoch)
      ⟨(hs.upkeep hr.and.1 hn).2, partwise_idles.started hr.and.2 hs hn⟩)

/-- The last part of a disconnect leaves all tasks of generations where they are. -/
lemma spares_endDisconnect (n : Nat) (hf : f.WellFormed may) :
    Spares (some (.disconnect n)) f (f.endDisconnect respond n) := by
  obtain ⟨k, he, -, hl⟩ := endDisconnect_eq hr.and.1 n hf
  have hk := partwise_idles.endDisconnect hr.and.2 n hf
  rw [he] at hk ⊢
  have hrest : Spares (some (.disconnect n)) f k :=
    spares_of_idles (by simp [OnTurn]) ⟨hl, hk.trans (.of_eq rfl)⟩
  exact hrest.congr rfl

/-- The first part of a disconnect leaves all tasks of generations where they are. -/
lemma spares_beginDisconnect {n : Nat} (hf : f.WellFormed may)
    (hn : ∃ d, f.disconnects[n]? = some d ∧ d.phase = .waiting) :
    Spares (some (.disconnect n)) f (f.beginDisconnect respond n) := by
  obtain ⟨-, k, phase, he, hl⟩ := upkeep_beginDisconnect hr.and.1 n hf hn
  have hk := partwise_idles.beginDisconnect hr.and.2 hr.and.1 n hf
  rw [he] at hk ⊢
  have hrest : Spares (some (.disconnect n)) f k :=
    spares_of_idles (by simp [OnTurn]) ⟨hl, hk.trans (.of_eq rfl)⟩
  exact hrest.congr rfl

end Steps

/-- A step is the clock that moves on, or at most one task's turn. -/
theorem spares_of_step? {depth : Nat} {event : Event} (hf : f.WellFormed may)
    (hs : f.step? depth event = some f') :
    (∃ now, event = .tick now ∧ f.now ≤ now ∧ f' = { f with now, current := none }) ∨
      Spares (Event.task? event) f f' := by
  have hr := (partwise_idles.conducted may).respond depth
  have hturn : ∀ {task}, f.OnTurn task → ∀ current : Option Task,
      Spares task f { f with current } := fun ht _ => .of_eq ht rfl
  cases stepped_of_step? hf hs with
  | called call =>
    have hsp := spares_of_idles (onTurn_none _)
      ⟨later_doCall hr.and.1 hf.noTurn call, partwise_idles.doCall hr.and.2 call hf.noTurn⟩
    exact .inr ((hturn hsp.turn _).trans hsp)
  | @looped g wake =>
    obtain ⟨k, hk, hke, -, ht⟩ := loopTurn_of_step? hf hs
    rw [← hke] at ht ⊢
    have hsp := ht.spares hr (fun hw => hf.setCurrentLoop hk hw) (hf.epoch_le hk)
    exact .inr ((hturn hsp.turn _).trans hsp)
  | @watched g wake =>
    obtain ⟨k, hk, hke, -, ht⟩ := watchTurn_of_step? hf hs
    rw [← hke] at ht ⊢
    have hsp := ht.spares hr (hf.turn (.watch k.epoch) (by simp)) (hf.epoch_le hk)
    exact .inr ((hturn hsp.turn _).trans hsp)
  | @reconnectBegan n r =>
    have hsp := spares_beginReconnect hr n r (hf.turn (.reconnect n) (by simp))
    exact .inr ((hturn hsp.turn _).trans hsp)
  | @reconnectEnded n r _ epoch =>
    have hsp := spares_endReconnect hr n epoch r (hf.turn (.reconnect n) (by simp))
    exact .inr ((hturn hsp.turn _).trans hsp)
  | @disconnectBegan n d hd hp =>
    have hsp := spares_beginDisconnect hr (hf.turn (.disconnect n) (by simp)) ⟨d, hd, hp⟩
    exact .inr ((hturn hsp.turn _).trans hsp)
  | @disconnectJoined n =>
    have hsp := spares_endDisconnect hr n (hf.turn (.disconnect n) (by simp))
    exact .inr ((hturn hsp.turn _).trans hsp)
  | @disconnectAbandoned n d epoch deadline hd hp =>
    have hturnf := hf.turn (.disconnect n) (by simp)
    have hab : Spares (some (.disconnect n)) { f with current := some (.disconnect n) }
        ({ f with current := some (.disconnect n) }.abandonLoop epoch) :=
      spares_map (c := fun k => if k.epoch = epoch then { k with loopAborted := true } else k)
        (by simp [OnTurn]) (fun k => by split <;> exact ⟨rfl, fun _ => ⟨rfl, rfl⟩, fun _ => rfl⟩)
        rfl rfl fun _ _ hi => hi
    have hsp := hab.trans (spares_endDisconnect hr n (hturnf.abandonLoop hd hp))
    exact .inr ((hturn (by simp [OnTurn, Event.task?]) _).trans hsp)
  | @refreshed n wake =>
    simp only [step?, runTask] at hs
    split at hs
    · have ht : { f with current := some (.refresh n) }.OnTurn (some (.refresh n)) := by
        simp [OnTurn]
      have hsp := spares_stepRefresh ht hs
      exact .inr ((hturn hsp.turn _).trans hsp)
    · exact absurd hs (by simp)
  | ticked h => exact .inl ⟨_, rfl, h, rfl⟩
  | @reconnectGivenUp n =>
    refine .inr ⟨by simp [OnTurn, Event.task?], rfl, rfl, Nat.le_refl _, fun _ _ hi => hi,
      fun k hk => .inl ⟨k, hk, rfl, fun _ => ⟨rfl, rfl⟩, fun _ => rfl⟩,
      fun m r hm _ => ⟨_, by rw [List.getElem?_modify, hm]; rfl, ?_⟩⟩
    split <;> rfl
  | disconnectGivenUp => exact .inr (.of_eq (by simp [OnTurn, Event.task?]) rfl)

end Feed

end EventFeed
