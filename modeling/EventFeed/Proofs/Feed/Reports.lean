import EventFeed.Proofs.Feed.Orders
import EventFeed.Proofs.Feed.Within

/-!
# One reconnect for each generation

The read loop of a generation reports a loss when it fails, and the guardian when it finds the
generation quiet; both may happen, in either order. The feed heeds a report of the current epoch
unless it is halted or has lost its connection already. It says so then, and after that it schedules
a reconnect, unless subscribers have ended the epoch in the meantime. Any other report is of no
consequence but that the task which makes it has come to its end.

For each epoch one report is heeded at most: from the moment at which it is, the feed has lost its
connection or is halted for as long as that epoch lasts. `Spent` says so. The claim on an epoch is
spent in the same way, which is why a reconnect is scheduled for every report that is heeded, as
long as subscribers let it be. `Ledger` is the history of reports that have been heeded in a run.
-/

namespace EventFeed

/-- A task of an epoch reports that the connection is lost. -/
structure Loss where
  reporter : Task
  epoch : Nat
  retries : UInt32
  deriving DecidableEq, Repr

namespace Feed

variable {may : Conduct} {respond : Respond} {f f' g : Feed}

/-! ### Reports -/

/-- The loss that is reported with an event that can happen, if there is one. -/
def loss? (f : Feed) : Event → Option Loss
  | .run (.loop epoch) wake =>
    ((f.generation? epoch).bind fun g => g.failure? f.settings wake).map fun _ =>
      { reporter := .loop epoch, epoch, retries := f.retry.attempt }
  | .run (.watch epoch) .elapsed =>
    if f.epoch = epoch ∧ { f with current := some (.watch epoch) }.isStale epoch = true then
      some { reporter := .watch epoch, epoch, retries := 0 }
    else none
  | _ => none

/-- The feed goes by a report: the epoch is the current one, and the feed is neither halted nor has
it lost its connection already. -/
def heeds (f : Feed) (loss : Loss) : Bool :=
  f.isLive loss.epoch && f.status != .lostConnection

/-- The feed in the turn of a task of a generation that has come to its end. -/
def ended (f : Feed) : Task → Feed
  | .loop epoch => { f with current := some (.loop epoch) }.setLoop epoch .finished
  | .watch epoch => { f with current := some (.watch epoch) }.setWatch epoch .finished
  | task => { f with current := some task }

/-- The numbers of the reconnects that the feed has scheduled, the first one first. -/
def schedules (f : Feed) : List UInt32 :=
  (f.orders.filter Reconnect.scheduled).map Reconnect.retries

/-- What has been asked for by callers and subscribers has not been scheduled. -/
lemma Asks.schedules (h : f.Asks g) : g.schedules = f.schedules := by
  obtain ⟨more, he, hno⟩ := h.asked
  have hnone : more.filter Reconnect.scheduled = [] :=
    List.filter_eq_nil_iff.2 fun r hr => by simp [hno r hr]
  rw [Feed.schedules, he, List.filter_append, hnone, List.append_nil, Feed.schedules]

/-- The task that reports a loss has come to its end, and nothing else has happened. -/
structure Reported (may : Conduct) (f : Feed) (loss : Loss) (k : Feed) : Prop where
  engine : k.engine = (f.ended loss.reporter).engine
  wellFormed : k.WellFormed may
  generation : ∃ i ∈ f.generations, i.epoch = loss.epoch

/-- A turn of a read loop is the report of a loss, or it schedules nothing. -/
lemma LoopTurn.loss_or {i : Generation} {wake : Wake} {depth : Nat}
    (hs : LoopTurn (Feed.respond depth) i { f with current := some (.loop i.epoch) } wake f')
    (hf : f.WellFormed may) (hi : i ∈ f.generations) :
    (f.loss? (.run (.loop i.epoch) wake) = none ∧ f.Asks f') ∨
      ∃ loss k, f.loss? (.run (.loop i.epoch) wake) = some loss ∧ f.Reported may loss k ∧
        f' = k.connectionLost (Feed.respond depth) loss.epoch loss.retries := by
  have hgen := hf.generation?_eq_some_iff.2 ⟨hi, rfl⟩
  cases he : i.failure? f.settings wake with
  | none =>
    have hturn : f.Asks { f with current := some (.loop i.epoch) } := .of_eq rfl
    have hasks := hs.asks (partwise_asks.answers may depth)
      (fun hw => hf.setCurrentLoop hi hw) he
    exact .inl ⟨by simp [loss?, hgen, he], hturn.trans hasks⟩
  | some error =>
    have hw : i.loop ≠ .waiting := fun hw => by simp [Generation.failure?, hw] at he
    have hloss : f.loss? (.run (.loop i.epoch) wake) =
        some { reporter := .loop i.epoch, epoch := i.epoch, retries := f.retry.attempt } := by
      simp [loss?, hgen, he]
    have heng := engine_loopFailed i.epoch error { f with current := some (.loop i.epoch) }
    have hend := (hf.setCurrentLoop hi hw).loopFailed i.epoch error
    exact .inr ⟨_, _, hloss, ⟨heng, hend, i, hi, rfl⟩, hs.eq_of_failure? he⟩

/-- A turn of a guardian is the report of a loss, or it schedules nothing. -/
lemma WatchTurn.loss_or {i : Generation} {wake : Wake}
    (hs : WatchTurn respond i { f with current := some (.watch i.epoch) } wake f')
    (hf : f.WellFormed may) (hi : i ∈ f.generations) :
    (f.loss? (.run (.watch i.epoch) wake) = none ∧ f.Asks f') ∨
      ∃ loss k, f.loss? (.run (.watch i.epoch) wake) = some loss ∧ f.Reported may loss k ∧
        f' = k.connectionLost respond loss.epoch loss.retries := by
  cases hs with
  | began => exact .inl ⟨rfl, .of_eq rfl⟩
  | ended _ _ he => exact .inl ⟨if_neg fun h => he h.1, .of_eq rfl⟩
  | reported _ _ he hst =>
    have hend := (hf.turn (.watch i.epoch) (by simp)).setWatch i.epoch .finished
    exact .inr ⟨_, _, if_pos ⟨he, hst⟩, ⟨rfl, hend, i, hi, rfl⟩, rfl⟩
  | slept _ _ _ hst => exact .inl ⟨if_neg fun h => by simp [hst] at h, .of_eq rfl⟩

/-- A step is the report of a loss, or it schedules nothing. -/
lemma loss_or_of_step? (hf : f.WellFormed may) {depth : Nat} {event : Event}
    (hs : f.step? depth event = some f') :
    (f.loss? event = none ∧ f.Asks f') ∨
      ∃ loss k, f.loss? event = some loss ∧ f.Reported may loss k ∧
        f' = k.connectionLost (Feed.respond depth) loss.epoch loss.retries := by
  have hr := partwise_asks.answers may depth
  have hturn : ∀ task : Option Task, f.Asks { f with current := task } := fun _ => .of_eq rfl
  cases stepped_of_step? hf hs with
  | called call => exact .inl ⟨rfl, (hturn none).trans (partwise_asks.doCall hr call hf.noTurn)⟩
  | looped =>
    obtain ⟨i, hi, hie, -, hloop⟩ := loopTurn_of_step? hf hs
    rw [← hie] at hloop ⊢
    exact hloop.loss_or hf hi
  | watched =>
    obtain ⟨i, hi, hie, -, hwatch⟩ := watchTurn_of_step? hf hs
    rw [← hie] at hwatch ⊢
    exact hwatch.loss_or hf hi
  | @reconnectBegan n r =>
    have hasks := partwise_asks.beginReconnect hr n r (hf.turn (.reconnect n) (by simp))
    exact .inl ⟨rfl, (hturn _).trans hasks⟩
  | @reconnectEnded n r _ epoch =>
    have hasks := partwise_asks.endReconnect hr n epoch r (hf.turn (.reconnect n) (by simp))
    exact .inl ⟨rfl, (hturn _).trans hasks⟩
  | @disconnectBegan n =>
    have hasks := partwise_asks.beginDisconnect hr (orderly_respond may depth) n
      (hf.turn (.disconnect n) (by simp))
    exact .inl ⟨rfl, (hturn _).trans hasks⟩
  | @disconnectJoined n =>
    have hasks := partwise_asks.endDisconnect hr n (hf.turn (.disconnect n) (by simp))
    exact .inl ⟨rfl, (hturn _).trans hasks⟩
  | @disconnectAbandoned n d e deadline hd hp =>
    have hab := (hf.turn (.disconnect n) (by simp)).abandonLoop hd hp
    have hsame : f.Asks ({ f with current := some (.disconnect n) }.abandonLoop e) := .of_eq rfl
    exact .inl ⟨rfl, hsame.trans (partwise_asks.endDisconnect hr n hab)⟩
  | refreshed hb => exact .inl ⟨rfl, (hturn _).trans hb.asks⟩
  | ticked => exact .inl ⟨rfl, .of_eq rfl⟩
  | @reconnectGivenUp n =>
    have hsame := map_asked_modify (c := fun r => { r with aborted := true }) (fun _ => rfl)
      f.reconnects n
    exact .inl ⟨rfl, .of_eq (congrArg (·, f.claim) hsame)⟩
  | disconnectGivenUp => exact .inl ⟨rfl, .of_eq rfl⟩

/-! ### Epochs that are spent -/

/-- No report of an epoch is heeded any more: if it still is the current one and a generation is
held, then the feed has lost its connection or is halted. -/
structure Spent (f : Feed) (e : Nat) : Prop where
  begun : e ≤ f.epoch
  lost : f.epoch = e → f.slot ≠ none → f.status = .lostConnection ∨ f.status.isHalted = true

/-- Whether an epoch is spent is a matter of the epoch, the slot and the status. -/
lemma Spent.congr {e : Nat} (h : f.Spent e)
    (he : (g.epoch, g.slot, g.status) = (f.epoch, f.slot, f.status)) : g.Spent e := by
  simp only [Prod.mk.injEq] at he
  obtain ⟨epoch, slot, status⟩ := he
  refine ⟨epoch ▸ h.begun, ?_⟩
  rw [epoch, slot, status]
  exact h.lost

/-- Every epoch that has passed is spent. -/
lemma Spent.of_lt {e : Nat} (h : e < f.epoch) : f.Spent e :=
  ⟨Nat.le_of_lt h, fun he => absurd he (Nat.ne_of_gt h)⟩

/-- An epoch that is spent stays so while epochs pass, or while nothing happens. -/
lemma Spent.passes {e : Nat} (h : f.Spent e) (hp : f.Passes g) : g.Spent e := by
  rcases hp with hlt | heng
  · exact .of_lt (Nat.lt_of_le_of_lt h.begun hlt)
  · exact h.congr (eq_of_engine heng (fun k => (k.epoch, k.slot, k.status)) fun _ => rfl)

/-- Of an epoch that is spent no report is heeded. -/
lemma Spent.not_heeds (hf : f.WellFormed may) {loss : Loss} (h : f.Spent loss.epoch)
    (hgen : ∃ i ∈ f.generations, i.epoch = loss.epoch) : f.heeds loss = false := by
  by_contra hh
  obtain ⟨hlive, hepoch, hne⟩ : f.status.isHalted = false ∧ f.epoch = loss.epoch ∧
      f.status ≠ .lostConnection := by simpa [heeds, isLive, and_assoc] using hh
  obtain ⟨i, hi, hie⟩ := hgen
  have hslot := hf.slot_of_epoch_eq hi (hie.trans hepoch.symm)
  rcases h.lost hepoch (by simp [hslot]) with hl | hl
  · exact hne hl
  · exact absurd (hlive.symm.trans hl) (by simp)

/-- A report that is heeded finds no epoch spent but those that have passed. -/
lemma Spent.lt_of_heeds {e : Nat} (h : f.Spent e) (hf : f.WellFormed may) {loss : Loss}
    (hgen : ∃ i ∈ f.generations, i.epoch = loss.epoch) (hh : f.heeds loss = true) :
    e < f.epoch := by
  refine Nat.lt_of_le_of_ne h.begun fun he => ?_
  have hepoch : f.epoch = loss.epoch := by
    simp only [heeds, isLive, Bool.and_eq_true, decide_eq_true_eq] at hh
    exact hh.1.2
  have hno := Spent.not_heeds hf (hepoch ▸ he ▸ h) hgen
  exact absurd (hno.symm.trans hh) (by simp)

/-- No step spends an epoch anew. -/
lemma Stepped.spent {event : Event} {e : Nat} (hs : Stepped respond f event f')
    (hr : Respects (WellFormed may) (fun _ f g => f.Later g ∧ f.Passes g) respond) (h : f.Spent e)
    (hp : f.Placed False) (hf : f.WellFormed may) : f'.Spent e := by
  have hbegun := h.begun
  have hle := (hs.onward hr.and.1 hf).epoch
  refine ⟨Nat.le_trans hbegun hle, fun he hslot => ?_⟩
  have hsame : f'.epoch = f.epoch := by omega
  obtain ⟨hslot', hst⟩ := hs.within hr hp hf hsame
  have hold := h.lost (hsame.symm.trans he) (hslot' ▸ hslot)
  rcases hst with hst | ⟨-, -, ⟨-, hinit⟩ | hst⟩ | ⟨hst, -⟩
  · rwa [hst]
  · rw [hinit] at hold
    exact absurd hold (by decide)
  · exact .inl hst
  · exact .inr (by rw [hst]; rfl)

/-! ### Reports that are heeded -/

section Heeded

variable {depth : Nat} {k : Feed} {loss : Loss}

/-- A report is heeded by the feed that its task leaves just as by the one that it found. -/
lemma Reported.heeds_eq (h : f.Reported may loss k) : k.heeds loss = f.heeds loss := by
  have he := eq_of_engine h.engine (fun k => (k.status, k.epoch)) fun _ => rfl
  have hsame : ((f.ended loss.reporter).status, (f.ended loss.reporter).epoch) =
      (f.status, f.epoch) := by cases loss.reporter <;> rfl
  rw [hsame] at he
  simp only [Prod.mk.injEq] at he
  simp [heeds, isLive, he]

/-- A task that reports a loss leaves alone all that the report might change. -/
lemma Reported.spares (h : f.Reported may loss k) :
    (k.status, k.epoch, k.claim, k.slot, k.pending, k.reconnects, k.session?) =
      (f.status, f.epoch, f.claim, f.slot, f.pending, f.reconnects, f.session?) := by
  have hsession : (f.ended loss.reporter).session? = f.session? := by
    cases loss.reporter with
    | loop e =>
      exact session?_changeGeneration (c := fun g => { g with loop := .finished })
        (fun _ => ⟨rfl, rfl⟩) { f with current := some (.loop e) }
    | watch e =>
      exact session?_changeGeneration (c := fun g => { g with watch := .finished })
        (fun _ => ⟨rfl, rfl⟩) { f with current := some (.watch e) }
    | _ => rfl
  rw [eq_of_engine h.engine (fun k =>
      (k.status, k.epoch, k.claim, k.slot, k.pending, k.reconnects, k.session?)) fun _ => rfl,
    hsession]
  cases loss.reporter <;> rfl

/-- A report that is not heeded changes nothing. -/
lemma connectionLost_of_not_heeds (respond : Respond) (h : f.heeds loss = false) :
    f.connectionLost respond loss.epoch loss.retries = f := by
  rcases connectionLost_cases respond loss.epoch loss.retries f with ⟨-, he⟩ | ⟨hs, hlive, -⟩
  · exact he
  · simp [heeds, hlive, hs] at h

/-- A report that is heeded is announced. Then subscribers have ended the epoch, or else a reconnect
is scheduled that carries the number of the report. -/
lemma connectionLost_of_heeds (hf : f.WellFormed may) (h : f.heeds loss = true)
    (hclaim : f.claim < f.epoch) {g : Feed}
    (hg : g = f.connectionLost (Feed.respond depth) loss.epoch loss.retries) :
    .lostConnection :: f.changes <:+ g.changes ∧ g.Spent loss.epoch ∧
      ((f.epoch < g.epoch ∧ f.Asks g) ∨
        (g.status = .lostConnection ∧ g.epoch = loss.epoch ∧ g.claim = loss.epoch ∧
          g.pending = some f.reconnects.length ∧ g.reconnects = f.reconnects ++
            [{ scheduled := true, delay := none, retries := loss.retries }])) := by
  have hpass := (conducted_passes may).respond depth
  obtain ⟨hlive, hne⟩ : f.isLive loss.epoch = true ∧ f.status ≠ .lostConnection := by
    simpa [heeds] using h
  have hepoch : f.epoch = loss.epoch := by
    have := hlive
    simp only [isLive, Bool.and_eq_true, decide_eq_true_eq] at this
    exact this.2
  rcases connectionLost_cases (Feed.respond depth) loss.epoch loss.retries f with
    ⟨hno, -⟩ | ⟨-, -, k, ht, he⟩
  · simp [hlive, hne] at hno
  have hl := ((framed_upkeep may).told hpass.and.1 ht (hf.announce _)).2
  have hsaid : (f.announce .lostConnection).Spent loss.epoch :=
    ⟨Nat.le_of_eq hepoch.symm, fun _ _ => .inl rfl⟩
  have hspent := hsaid.passes (ht.passes hpass.and.2 hf)
  have hasks := partwise_asks.told (partwise_asks.answers may depth) ht hf
  rw [he] at hg
  rcases ht.passes hpass.and.2 hf with hlt | heng
  · have hlt : f.epoch < k.epoch := hlt
    have hsame : k.scheduleReconnect loss.epoch loss.retries = k :=
      if_pos (by simp [← hepoch, Nat.ne_of_gt hlt])
    rw [hsame] at hg
    subst hg
    exact ⟨hl.changes, hspent, .inl ⟨hlt, hasks⟩⟩
  · -- Nothing has happened since the announcement, so the claim is still to be made.
    have hk := eq_of_engine heng
      (fun k => (k.status, k.epoch, k.claim, k.reconnects)) fun _ => rfl
    simp only [Prod.mk.injEq] at hk
    obtain ⟨hst, hep, hcl, hrec⟩ := hk
    have hst : k.status = .lostConnection := hst
    have hep : k.epoch = loss.epoch := hep.trans hepoch
    have hcl : k.claim < loss.epoch := by
      rw [hcl]
      exact hepoch ▸ hclaim
    have hrec : k.reconnects = f.reconnects := hrec
    rcases scheduleReconnect_cases loss.epoch loss.retries k with ⟨hno, -⟩ | ⟨-, -, hs⟩
    · rcases hno with hno | hno
      · exact absurd hep hno
      · exact absurd hcl (Nat.not_lt.2 hno)
    · rw [hs] at hg
      subst hg
      exact ⟨hl.changes, hspent.congr rfl, .inr ⟨hst, hep, rfl, by rw [hrec], by rw [hrec]⟩⟩

end Heeded

/-! ### Runs -/

/-- The reports that the feed has heeded in a run, the first one first. -/
inductive Ledger (depth : Nat) : List Loss → Feed → Prop
  | fresh {settings : Settings} {refreshable : Bool} {f : Feed}
      (h : ofSettings settings refreshable = .ok f) : Ledger depth [] f
  | step {heeded : List Loss} {f f' : Feed} {event : Event} (h : Ledger depth heeded f)
      (hs : f.step? depth event = some f') :
      Ledger depth (heeded ++ ((f.loss? event).filter f.heeds).toList) f'

/-- A run has a ledger. -/
lemma Reachable.ledger {depth : Nat} (hr : Reachable depth anyEvent f) :
    ∃ heeded, Ledger depth heeded f := by
  obtain ⟨settings, refreshable, f₀, h₀, hreach⟩ := hr
  induction hreach with
  | refl => exact ⟨[], .fresh h₀⟩
  | step _ _ hs ih =>
    obtain ⟨heeded, h⟩ := ih
    exact ⟨_, h.step hs⟩

/-- A ledger is that of a run. -/
lemma Ledger.reachable {depth : Nat} {heeded : List Loss} (h : Ledger depth heeded f) :
    Reachable depth anyEvent f := by
  induction h with
  | fresh h => exact ⟨_, _, _, h, .refl⟩
  | step _ hs ih => exact ih.step trivial hs

/-- What a step comes to in a feed whose claim is spent: it reports nothing and schedules nothing,
or its report is not heeded, or it is. -/
lemma report_cases {depth : Nat} {event : Event} (hf : f.WellFormed .free)
    (hclaim : f.Spent f.claim) (hs : f.step? depth event = some f') :
    (f.loss? event = none ∧ f.Asks f') ∨
      ∃ loss, f.loss? event = some loss ∧ (∃ i ∈ f.generations, i.epoch = loss.epoch) ∧
        ((f.heeds loss = false ∧ f'.engine = (f.ended loss.reporter).engine ∧
            (f'.status, f'.epoch, f'.claim, f'.slot, f'.pending, f'.reconnects, f'.session?) =
              (f.status, f.epoch, f.claim, f.slot, f.pending, f.reconnects, f.session?)) ∨
          (f.heeds loss = true ∧ .lostConnection :: f.changes <:+ f'.changes ∧
            f'.Spent loss.epoch ∧
            ((f.epoch < f'.epoch ∧ f.Asks f') ∨
              (f'.status = .lostConnection ∧ f'.epoch = loss.epoch ∧ f'.claim = loss.epoch ∧
                f'.pending = some f.reconnects.length ∧ f'.reconnects = f.reconnects ++
                  [{ scheduled := true, delay := none, retries := loss.retries }])))) := by
  rcases loss_or_of_step? hf hs with hno | ⟨loss, k, hloss, hrep, hk⟩
  · exact .inl hno
  refine .inr ⟨loss, hloss, hrep.generation, ?_⟩
  have hspares := hrep.spares
  have hheeds := hrep.heeds_eq
  cases hh : f.heeds loss with
  | false =>
    rw [connectionLost_of_not_heeds _ (hheeds.trans hh)] at hk
    subst hk
    exact .inl ⟨rfl, hrep.engine, hspares⟩
  | true =>
    have hlt := hclaim.lt_of_heeds hf hrep.generation hh
    have hchanges : k.changes = f.changes := by
      rw [eq_of_engine hrep.engine Feed.changes fun k => changes_engine k]
      cases loss.reporter <;> rfl
    simp only [Prod.mk.injEq] at hspares
    obtain ⟨-, hepoch, hcl, -, -, hrec, -⟩ := hspares
    have hlt' : k.claim < k.epoch := by
      rw [hcl, hepoch]
      exact hlt
    obtain ⟨hsaid, hspent, hend⟩ :=
      connectionLost_of_heeds hrep.wellFormed (hheeds.trans hh) hlt' hk
    have hsame : f.Asks k := .of_eq (by rw [orders, hrec, hcl]; rfl)
    rw [hchanges] at hsaid
    refine .inr ⟨rfl, hsaid, hspent, ?_⟩
    rw [hepoch, hrec] at hend
    exact hend.imp_left (And.imp_right hsame.trans)

/-- Between two steps of a run the claim of the feed is spent. -/
lemma Reachable.claimed {depth : Nat} (hr : Reachable depth anyEvent f) :
    f.WellFormed Conduct.free ∧ f.Placed False ∧ f.Spent f.claim := by
  refine hr.invariant (fun f => f.Placed False ∧ f.Spent f.claim)
    (fun _ event _ => event.keeps_free) (fun _ _ f₀ h => ⟨placed_of_ofSettings h, ?_⟩)
    fun g event h hg _ hi hs => ?_
  · obtain ⟨request, rfl⟩ := eq_of_ofSettings h
    exact ⟨Nat.le_refl _, fun _ hslot => absurd rfl hslot⟩
  · obtain ⟨hp, hspent⟩ := hi
    have hstep := stepped_of_step? hg hs
    have hkept := hstep.spent ((conducted_passes .free).respond depth) hspent hp hg
    refine ⟨(hstep.placed ((conducted_steers .free).respond depth) hp hg False.elim).1, ?_⟩
    rcases report_cases hg hspent hs with
      ⟨-, hasks⟩ | ⟨loss, -, -, ⟨-, -, hsame⟩ | ⟨-, -, hloss, ⟨-, hasks⟩ | ⟨-, -, hcl, -⟩⟩⟩
    · rwa [hasks.claim]
    · simp only [Prod.mk.injEq] at hsame
      rwa [hsame.2.2.1]
    · rwa [hasks.claim]
    · rwa [hcl]

/-- Reports that have been heeded have spent their epochs, each a later one than those before, and
the reconnects that have been scheduled carry the numbers of some of them. -/
lemma Ledger.spent {depth : Nat} {heeded : List Loss} (h : Ledger depth heeded f) :
    (∀ loss ∈ heeded, f.Spent loss.epoch) ∧
      heeded.Pairwise (fun loss loss' => loss.epoch < loss'.epoch) ∧
      ∃ kept : List Loss, kept.Sublist heeded ∧ f.schedules = kept.map Loss.retries := by
  induction h with
  | fresh h =>
    obtain ⟨request, rfl⟩ := eq_of_ofSettings h
    exact ⟨by simp, .nil, [], .refl _, rfl⟩
  | @step heeded f f' event h hs ih =>
    obtain ⟨hspent, hsorted, kept, hsub, hsch⟩ := ih
    obtain ⟨hf, hp, hclaim⟩ := h.reachable.claimed
    have hkept : ∀ loss ∈ heeded, f'.Spent loss.epoch := fun loss hl =>
      (stepped_of_step? hf hs).spent ((conducted_passes .free).respond depth) (hspent loss hl) hp hf
    rcases report_cases hf hclaim hs with
      ⟨hno, hasks⟩ | ⟨loss, hloss, hgen, ⟨hh, -, hsame⟩ | ⟨hh, -, hnew, hend⟩⟩
    · rw [hno]
      simpa using ⟨hkept, hsorted, kept, hsub, hasks.schedules.trans hsch⟩
    · simp only [Prod.mk.injEq] at hsame
      have hsch' : f'.schedules = f.schedules := by
        rw [schedules, orders, hsame.2.2.2.2.2.1]
        rfl
      rw [hloss]
      simpa [Option.filter, hh] using ⟨hkept, hsorted, kept, hsub, hsch'.trans hsch⟩
    · have hlt : ∀ loss' ∈ heeded, loss'.epoch < loss.epoch := fun loss' hl => by
        have hepoch : f.epoch = loss.epoch := by
          simp only [heeds, isLive, Bool.and_eq_true, decide_eq_true_eq] at hh
          exact hh.1.2
        exact hepoch ▸ (hspent loss' hl).lt_of_heeds hf hgen hh
      rw [hloss]
      simp only [Option.filter, hh, if_true, Option.toList_some]
      refine ⟨fun loss' hl => ?_, ?_, ?_⟩
      · rcases List.mem_append.1 hl with hl | hl
        · exact hkept loss' hl
        · rw [List.mem_singleton.1 hl]
          exact hnew
      · refine List.pairwise_append.2 ⟨hsorted, List.pairwise_singleton _ _, ?_⟩
        intro loss' hl loss'' hl'
        rw [List.mem_singleton.1 hl']
        exact hlt loss' hl
      · rcases hend with ⟨-, hasks⟩ | ⟨-, -, -, -, hrec⟩
        · exact ⟨kept, hsub.trans (List.sublist_append_left _ _), hasks.schedules.trans hsch⟩
        · refine ⟨kept ++ [loss], hsub.append (.refl _), ?_⟩
          rw [schedules, orders, hrec, List.map_append, List.filter_append, List.map_append,
            List.map_append, ← hsch]
          rfl

/-- A reconnect is scheduled only with the report of a loss. A report that the feed does not heed
has no consequence but that its task has come to its end: this is any report of an epoch that is not
the current one, or in a feed that is halted or has lost its connection. A report that it heeds is
announced, and then a reconnect is scheduled that carries its number, unless subscribers have ended
the epoch in the meantime. Whatever the order in which losses are reported in a run, those that are
heeded belong to different epochs, each to a later one than those before, and no report is heeded
any more of an epoch of which one has been. So the reconnects that are scheduled belong to different
epochs, and each of them carries the number of a report that has been heeded. -/
theorem losses_schedule_once {depth : Nat} :
    (∀ {f f' : Feed} {event : Event}, Reachable depth anyEvent f →
      f.step? depth event = some f' → f.loss? event = none → f'.schedules = f.schedules) ∧
    (∀ {f f' : Feed} {event : Event} {loss : Loss}, Reachable depth anyEvent f →
      f.step? depth event = some f' → f.loss? event = some loss →
      (f.heeds loss = false → f'.engine = (f.ended loss.reporter).engine ∧
        (f'.status, f'.epoch, f'.claim, f'.slot, f'.pending, f'.reconnects, f'.session?) =
          (f.status, f.epoch, f.claim, f.slot, f.pending, f.reconnects, f.session?)) ∧
      (f.heeds loss = true → .lostConnection :: f.changes <:+ f'.changes ∧
        ((f.epoch < f'.epoch ∧ f'.claim = f.claim ∧ f'.schedules = f.schedules) ∨
          (f'.status = .lostConnection ∧ f'.epoch = loss.epoch ∧ f'.claim = loss.epoch ∧
            f'.pending = some f.reconnects.length ∧ f'.reconnects = f.reconnects ++
              [{ scheduled := true, delay := none, retries := loss.retries }])))) ∧
    ∀ {heeded : List Loss} {f : Feed}, Ledger depth heeded f →
      heeded.Pairwise (fun loss loss' => loss.epoch < loss'.epoch) ∧
      (∀ {f' : Feed} {event : Event} {loss loss' : Loss}, f.step? depth event = some f' →
        f.loss? event = some loss' → loss ∈ heeded → loss'.epoch = loss.epoch →
        f.heeds loss' = false) ∧
      ∃ kept : List Loss, kept.Sublist heeded ∧ f.schedules = kept.map Loss.retries := by
  refine ⟨fun hr hs hno => ?_, fun hr hs hloss => ?_, fun {heeded f} h => ?_⟩
  · obtain ⟨hf, -, hclaim⟩ := hr.claimed
    rcases report_cases hf hclaim hs with ⟨-, hasks⟩ | ⟨loss, hloss, -⟩
    · exact hasks.schedules
    · exact absurd (hno.symm.trans hloss) (by simp)
  · obtain ⟨hf, -, hclaim⟩ := hr.claimed
    rcases report_cases hf hclaim hs with ⟨hno, -⟩ | ⟨loss', hloss', -, hcases⟩
    · exact absurd (hno.symm.trans hloss) (by simp)
    obtain rfl := Option.some.inj (hloss'.symm.trans hloss)
    refine ⟨fun hh => ?_, fun hh => ?_⟩
    · rcases hcases with ⟨-, hsame⟩ | ⟨hyes, -⟩
      · exact hsame
      · exact absurd (hyes.symm.trans hh) (by simp)
    · rcases hcases with ⟨hno, -⟩ | ⟨-, hsaid, -, hend⟩
      · exact absurd (hno.symm.trans hh) (by simp)
      · exact ⟨hsaid, hend.imp_left fun ⟨hlt, hasks⟩ => ⟨hlt, hasks.claim, hasks.schedules⟩⟩
  · obtain ⟨hspent, hsorted, hkept⟩ := h.spent
    refine ⟨hsorted, fun {f' event loss loss'} hs hloss hmem he => ?_, hkept⟩
    obtain ⟨hf, -, hclaim⟩ := h.reachable.claimed
    rcases report_cases hf hclaim hs with ⟨hno, -⟩ | ⟨loss'', hloss', hgen, -⟩
    · exact absurd (hno.symm.trans hloss) (by simp)
    · obtain rfl := Option.some.inj (hloss'.symm.trans hloss)
      exact (he ▸ hspent loss hmem).not_heeds hf hgen

/-- A read loop whose connection ends reports the loss, and the guardian of the same generation
reports it again when it wakes up: a reconnect is scheduled for the first report only. -/
theorem losses_schedule_once_instances :
    ∃ (f f' g g' : Feed) (first second : Loss),
      f.step? 0 (.run (.loop 1) .ended) = some f' ∧
      f.loss? (.run (.loop 1) .ended) = some first ∧ f'.schedules = [first.retries] ∧
      f'.step? 0 (.tick (.ofSeconds 30)) = some g ∧ g.schedules = f'.schedules ∧
      g.step? 0 (.run (.watch 1) .elapsed) = some g' ∧
      g.loss? (.run (.watch 1) .elapsed) = some second ∧ second.epoch = first.epoch ∧
      g.heeds second = false ∧ g'.reconnects = g.reconnects ∧ g'.status = g.status := by
  let events : List Event :=
    [.call (.start 0), .run (.loop 1) .first, .run (.loop 1) (.connected 0),
      .run (.watch 1) .first]
  have hplay : ((played? 0 events).bind fun f =>
      (f.step? 0 (.run (.loop 1) .ended)).bind fun f' =>
        (f'.step? 0 (.tick (.ofSeconds 30))).bind fun g =>
          (g.step? 0 (.run (.watch 1) .elapsed)).map fun _ =>
            ((f.loss? (.run (.loop 1) .ended)).map fun loss => (loss, f.heeds loss),
              (f.reconnects.length, f.epoch, f'.epoch), f'.loss? (.tick (.ofSeconds 30)),
              g.loss? (.run (.watch 1) .elapsed))) =
      some (some (⟨.loop 1, 1, 0⟩, true), (0, 1, 1), none, some ⟨.watch 1, 1, 0⟩) := by
    decide +kernel
  obtain ⟨f, hf, hplay⟩ := Option.bind_eq_some_iff.1 hplay
  obtain ⟨f', hf', hplay⟩ := Option.bind_eq_some_iff.1 hplay
  obtain ⟨g, hg, hplay⟩ := Option.bind_eq_some_iff.1 hplay
  obtain ⟨g', hg', hview⟩ := Option.map_eq_some_iff.1 hplay
  simp only [Prod.mk.injEq] at hview
  obtain ⟨hfirst, ⟨hnone, hepoch, hepoch'⟩, hquiet, hsecond⟩ := hview
  obtain ⟨first, hloss, hview⟩ := Option.map_eq_some_iff.1 hfirst
  obtain ⟨rfl, hh⟩ := Prod.mk.inj hview
  have hr : Reachable 0 anyEvent f := .of_played? hf fun _ _ _ => trivial
  have hr' : Reachable 0 anyEvent f' := hr.step trivial hf'
  have hr'' : Reachable 0 anyEvent g := hr'.step trivial hg
  obtain ⟨hplain, hreport, hledger⟩ := @losses_schedule_once 0
  -- The ledger of the run up to the second report names the first one.
  obtain ⟨heeded, hled⟩ := hr.ledger
  have hled' := (hled.step hf').step hg
  rw [hloss, hquiet] at hled'
  simp only [Option.filter, hh, if_true, Option.toList_some, Option.toList_none,
    List.append_nil] at hled'
  have hno := (hledger hled').2.1 hg' hsecond (List.mem_append_right _ List.mem_cons_self) rfl
  obtain ⟨-, hsame⟩ := (hreport hr'' hg' hsecond).1 hno
  simp only [Prod.mk.injEq] at hsame
  have hnew : f'.schedules = [0] := by
    have hf₀ : f.reconnects = [] := List.length_eq_zero_iff.1 hnone
    obtain ⟨-, ⟨hlt, -⟩ | ⟨-, -, -, -, hrec⟩⟩ := (hreport hr hf' hloss).2 hh
    · rw [hepoch, hepoch'] at hlt
      exact absurd hlt (Nat.lt_irrefl 1)
    · rw [schedules, orders, hrec, hf₀]
      rfl
  exact ⟨f, f', g, g', _, _, hf', hloss, hnew, hg, hplain hr' hg hquiet, hg', hsecond, rfl, hno,
    hsame.2.2.2.2.2.1, hsame.1⟩

end Feed

end EventFeed
