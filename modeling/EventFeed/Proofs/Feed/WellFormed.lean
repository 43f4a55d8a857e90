import Mathlib.Tactic.ByContra
import EventFeed.Proofs.Feed.Later

/-!
# Generations, epochs and tasks

Whatever callers and subscribers do, and in whatever order tasks run, the bookkeeping of a feed
stays in order. Generations carry different epochs, and the slot holds at most the generation of the
current epoch, whose tasks nobody has told to end. A generation that is out of the slot belongs to
an earlier epoch; its guardian is aborted, its read loop has been asked to end, and if that one is
neither aborted nor at its end then a disconnect waits for it. The epoch that such a disconnect
brought about has no generation. No reconnect that sleeps remembers an epoch still to come, and a
read loop that ran last has begun.

`WellFormed` states this, together with the conduct of subscribers. Every operation keeps it
provided that answers do, so answers at every depth keep it, and so does every step.
-/

namespace EventFeed

/-- Nobody has told the tasks of a generation to end. -/
structure Generation.Untouched (g : Generation) : Prop where
  loop : g.loopAborted = false
  watch : g.watchAborted = false
  signalled : g.signalled = false

namespace Feed

/-- A disconnect waits for the read loop of an epoch. -/
def Joined (f : Feed) (epoch : Nat) : Prop :=
  ∃ (n : Nat) (d : Disconnect) (t : Duration),
    f.disconnects[n]? = some d ∧ d.phase = .joining epoch t

/-- A generation has been put out of the slot: its tasks have been told to end, but for a read loop
that a disconnect waits for. -/
structure Released (f : Feed) (g : Generation) : Prop where
  epoch : g.epoch < f.epoch
  watch : g.watchAborted = true
  signalled : g.signalled = true
  loop : g.loopAborted = true ∨ g.loop = .finished ∨ f.Joined g.epoch

/-- An epoch has been ended by a disconnect: a generation goes by it, and none by the epoch that
comes next. -/
structure Ended (f : Feed) (epoch : Nat) : Prop where
  past : epoch < f.epoch
  begun : ∃ g ∈ f.generations, g.epoch = epoch
  barren : ∀ g ∈ f.generations, g.epoch ≠ epoch + 1

/-- All that the bookkeeping consists of. -/
def books (f : Feed) : List Generation × Option Nat × Nat × Nat × List Disconnect ×
    List Reconnect × Option Task :=
  (f.generations, f.slot, f.epoch, f.claim, f.disconnects, f.reconnects, f.current)

/-- The bookkeeping of generations, epochs and tasks is in order, and subscribers keep
a conduct. -/
structure WellFormed (may : Conduct) (f : Feed) : Prop where
  keeps : f.Keeps may
  sorted : f.generations.Pairwise fun g h => g.epoch < h.epoch
  slot : ∀ e, f.slot = some e → e = f.epoch ∧ ∃ g ∈ f.generations, g.epoch = e
  held : ∀ g ∈ f.generations, f.slot = some g.epoch → g.Untouched
  released : ∀ g ∈ f.generations, f.slot ≠ some g.epoch → f.Released g
  session : ∀ g ∈ f.generations, ∀ s, g.session = some s → s.epoch = g.epoch
  joining : ∀ (n : Nat) d, f.disconnects[n]? = some d → ∀ e t, d.phase = .joining e t → f.Ended e
  asleep : ∀ (n : Nat) r, f.reconnects[n]? = some r → ∀ t e, r.phase = .asleep t e → e ≤ f.epoch
  claim : f.claim ≤ f.epoch
  current : ∀ e, f.current = some (.loop e) →
    ∃ g ∈ f.generations, g.epoch = e ∧ g.loop ≠ .waiting

variable {may : Conduct} {f f' : Feed}

/-- A generation stays out of the slot while epochs pass and disconnects wait. -/
lemma Released.mono {g : Generation} (h : f.Released g) (he : f.epoch ≤ f'.epoch)
    (hj : f.Joined g.epoch → f'.Joined g.epoch) : f'.Released g where
  epoch := Nat.lt_of_lt_of_le h.epoch he
  watch := h.watch
  signalled := h.signalled
  loop := h.loop.imp_right (Or.imp_right hj)

/-- A feed that has not been started is blank but for its settings. -/
lemma eq_of_ofSettings {settings : Settings} {refreshable : Bool}
    (h : ofSettings settings refreshable = .ok f) :
    ∃ request, f = { settings, request, refreshable } := by
  unfold ofSettings at h
  cases hv : settings.validate with
  | error e => simp [hv, bind, Except.bind] at h
  | ok _ =>
    cases hr : Request.ofSettings settings with
    | error e => simp [hv, hr, bind, Except.bind] at h
    | ok request =>
      refine ⟨request, ?_⟩
      simpa [hv, hr, bind, Except.bind, pure, Except.pure, eq_comm] using h

/-- An epoch stays ended while epochs pass and generations change. -/
lemma Ended.map {e : Nat} {c : Generation → Generation} (h : f.Ended e)
    (he : f.epoch ≤ f'.epoch) (generations : f'.generations = f.generations.map c)
    (hepoch : ∀ g, (c g).epoch = g.epoch) : f'.Ended e where
  past := Nat.lt_of_lt_of_le h.past he
  begun := by
    obtain ⟨g, hg, hge⟩ := h.begun
    exact ⟨c g, generations ▸ List.mem_map_of_mem hg, (hepoch g).trans hge⟩
  barren g' hg' := by
    obtain ⟨g, hg, rfl⟩ := List.mem_map.1 (generations ▸ hg')
    rw [hepoch]
    exact h.barren g hg

/-- An epoch stays ended while epochs pass. -/
lemma Ended.mono {e : Nat} (h : f.Ended e) (he : f.epoch ≤ f'.epoch)
    (generations : f'.generations = f.generations) : f'.Ended e :=
  h.map he (generations.trans (List.map_id' _).symm) fun _ => rfl

namespace WellFormed

/-! ### Generations -/

/-- Generations go by their epochs. -/
lemma eq_of_epoch_eq (h : f.WellFormed may) {g g' : Generation} (hg : g ∈ f.generations)
    (hg' : g' ∈ f.generations) (he : g.epoch = g'.epoch) : g = g' := by
  obtain ⟨i, hi, rfl⟩ := List.getElem_of_mem hg
  obtain ⟨j, hj, rfl⟩ := List.getElem_of_mem hg'
  have hlt := List.pairwise_iff_getElem.1 h.sorted
  rcases Nat.lt_trichotomy i j with hij | rfl | hij
  · have := hlt i j hi hj hij
    omega
  · rfl
  · have := hlt j i hj hi hij
    omega

/-- The generation of an epoch is the one that carries it. -/
lemma generation?_eq_some_iff (h : f.WellFormed may) {e : Nat} {g : Generation} :
    f.generation? e = some g ↔ g ∈ f.generations ∧ g.epoch = e := by
  constructor
  · intro hg
    exact ⟨List.mem_of_find?_eq_some hg, by simpa using List.find?_some hg⟩
  · rintro ⟨hg, rfl⟩
    cases hfind : f.generation? g.epoch with
    | none =>
      have := List.find?_eq_none.1 hfind g hg
      simp at this
    | some g' =>
      have hg' : g' ∈ f.generations := List.mem_of_find?_eq_some hfind
      have he : g'.epoch = g.epoch := by simpa using List.find?_some hfind
      rw [h.eq_of_epoch_eq hg' hg he]

/-- Every generation belongs to the current epoch or to an earlier one. -/
lemma epoch_le (h : f.WellFormed may) {g : Generation} (hg : g ∈ f.generations) :
    g.epoch ≤ f.epoch := by
  by_cases hs : f.slot = some g.epoch
  · exact Nat.le_of_eq (h.slot _ hs).1
  · exact Nat.le_of_lt (h.released g hg hs).epoch

/-- Only the slot holds the generation of the current epoch. -/
lemma slot_of_epoch_eq (h : f.WellFormed may) {g : Generation} (hg : g ∈ f.generations)
    (he : g.epoch = f.epoch) : f.slot = some f.epoch := by
  by_contra hs
  rw [← he] at hs
  exact absurd he (Nat.ne_of_lt (h.released g hg hs).epoch)

/-! ### Changes that keep the bookkeeping -/

/-- Well-formedness reads nothing but the bookkeeping and the conduct. -/
lemma congr (h : f.WellFormed may) (keeps : f'.Keeps may) (hb : f'.books = f.books) :
    f'.WellFormed may := by
  simp only [books, Prod.mk.injEq] at hb
  obtain ⟨generations, slot, epoch, claim, disconnects, reconnects, current⟩ := hb
  constructor
  case keeps => exact keeps
  case sorted =>
    rw [generations]
    exact h.sorted
  case slot =>
    rw [slot, epoch, generations]
    exact h.slot
  case held =>
    rw [slot, generations]
    exact h.held
  case released =>
    rw [slot, generations]
    intro g hg hs
    refine (h.released g hg hs).mono (Nat.le_of_eq epoch.symm) fun hj => ?_
    unfold Joined
    rwa [disconnects]
  case session =>
    rw [generations]
    exact h.session
  case joining =>
    rw [disconnects]
    intro n d hd e t hp
    exact (h.joining n d hd e t hp).mono (Nat.le_of_eq epoch.symm) generations
  case asleep =>
    rw [reconnects, epoch]
    exact h.asleep
  case claim =>
    rw [claim, epoch]
    exact h.claim
  case current =>
    rw [current, generations]
    exact h.current

/-- Only the subscribers stand between one conduct and another. -/
lemma of_keeps {may' : Conduct} (h : f.WellFormed may) (hk : f.Keeps may') : f.WellFormed may' :=
  { h with keeps := hk }

/-- All generations may change at once, as long as they keep their epochs, read loops do not go back
to their beginning, and sessions go by epochs. What is left to see to is who told their tasks to
end. -/
lemma mapGenerations (h : f.WellFormed may) {c : Generation → Generation}
    (generations : f'.generations = f.generations.map c)
    (hepoch : ∀ g, (c g).epoch = g.epoch)
    (hwait : ∀ g ∈ f.generations, (c g).loop = .waiting → g.loop = .waiting)
    (hsession : ∀ g ∈ f.generations, ∀ s, (c g).session = some s → s.epoch = g.epoch)
    (slot : f'.slot = none ∨ (f'.slot = f.slot ∧ f'.epoch = f.epoch))
    (epoch : f.epoch ≤ f'.epoch)
    (held : ∀ g ∈ f.generations, f'.slot = some g.epoch → (c g).Untouched)
    (released : ∀ g ∈ f.generations, f'.slot ≠ some g.epoch → f'.Released (c g))
    (joining : ∀ (n : Nat) d, f'.disconnects[n]? = some d → ∀ e t, d.phase = .joining e t →
      f'.Ended e)
    (keeps : f'.subscribers = f.subscribers) (claim : f'.claim = f.claim)
    (reconnects : f'.reconnects = f.reconnects) (current : f'.current = f.current) :
    f'.WellFormed may := by
  -- Every generation of the later feed is a changed one of the earlier feed.
  have hold : ∀ g' ∈ f'.generations, ∃ g ∈ f.generations, c g = g' := by
    rw [generations]
    exact fun g' hg' => List.mem_map.1 hg'
  have hnew : ∀ g ∈ f.generations, c g ∈ f'.generations := by
    rw [generations]
    exact fun g hg => List.mem_map_of_mem hg
  constructor
  case keeps => exact h.keeps.congr keeps
  case sorted =>
    rw [generations]
    refine List.pairwise_map.2 (h.sorted.imp fun {g k} hgk => ?_)
    rw [hepoch, hepoch]
    exact hgk
  case slot =>
    intro e he
    rcases slot with hs | ⟨hs, hse⟩
    · rw [hs] at he
      exact absurd he (by simp)
    · rw [hs] at he
      obtain ⟨heq, g, hg, hge⟩ := h.slot e he
      exact ⟨heq.trans hse.symm, c g, hnew g hg, (hepoch g).trans hge⟩
  case held =>
    intro g' hg' hs
    obtain ⟨g, hg, rfl⟩ := hold g' hg'
    exact held g hg (by rwa [hepoch] at hs)
  case released =>
    intro g' hg' hs
    obtain ⟨g, hg, rfl⟩ := hold g' hg'
    exact released g hg (by rwa [hepoch] at hs)
  case session =>
    intro g' hg' s hs
    obtain ⟨g, hg, rfl⟩ := hold g' hg'
    rw [hepoch]
    exact hsession g hg s hs
  case joining => exact joining
  case asleep =>
    rw [reconnects]
    exact fun n r hr t e hp => Nat.le_trans (h.asleep n r hr t e hp) epoch
  case claim => exact Nat.le_trans (Nat.le_of_eq claim) (Nat.le_trans h.claim epoch)
  case current =>
    intro e he
    obtain ⟨g, hg, hge, hgw⟩ := h.current e (current ▸ he)
    exact ⟨c g, hnew g hg, (hepoch g).trans hge, fun hw => hgw (hwait g hg hw)⟩

/-- What a task of a generation does to it keeps the bookkeeping, as long as nothing is said about
who told the tasks to end, the read loop does not come back from its end or to its beginning, and a
session goes by the generation's epoch. -/
lemma changeGeneration (h : f.WellFormed may) {e : Nat} {c : Generation → Generation}
    (hepoch : ∀ g, (c g).epoch = g.epoch)
    (hflags : ∀ g, (c g).loopAborted = g.loopAborted ∧ (c g).watchAborted = g.watchAborted ∧
      (c g).signalled = g.signalled)
    (hfin : ∀ g ∈ f.generations, g.epoch = e → g.loop = .finished → (c g).loop = .finished)
    (hwait : ∀ g ∈ f.generations, g.epoch = e → (c g).loop = .waiting → g.loop = .waiting)
    (hsession : ∀ g ∈ f.generations, g.epoch = e → ∀ s, (c g).session = some s → s.epoch = e) :
    (f.changeGeneration e c).WellFormed may := by
  have hc : ∀ g, (if g.epoch = e then c g else g).epoch = g.epoch := by
    intro g
    split
    · exact hepoch g
    · rfl
  refine h.mapGenerations rfl hc ?_ ?_ (.inr ⟨rfl, rfl⟩) (Nat.le_refl _) ?_ ?_
    (fun n d hd e' t hp => (h.joining n d hd e' t hp).map (Nat.le_refl _) rfl hc)
    rfl rfl rfl rfl
  · intro g hg hw
    split at hw
    · next he => exact hwait g hg he hw
    · exact hw
  · intro g hg s hs
    split at hs
    · next he => rw [hsession g hg he s hs, he]
    · exact h.session g hg s hs
  · intro g hg hs
    obtain ⟨hl, hw, hsig⟩ := h.held g hg hs
    obtain ⟨fl, fw, fs⟩ := hflags g
    split
    · exact ⟨fl.trans hl, fw.trans hw, fs.trans hsig⟩
    · exact ⟨hl, hw, hsig⟩
  · intro g hg hs
    obtain ⟨hlt, hw, hsig, hl⟩ := h.released g hg hs
    obtain ⟨fl, fw, fs⟩ := hflags g
    split
    · next he =>
      refine ⟨(hepoch g).symm ▸ hlt, fw.trans hw, fs.trans hsig, ?_⟩
      rw [fl, hepoch]
      exact hl.imp_right (Or.imp_left (hfin g hg he))
    · exact ⟨hlt, hw, hsig, hl⟩

/-! ### Halting and starting -/

/-- Aborting the generation that is held leaves every generation out of the slot, below the epoch
that comes next. -/
lemma released_abort (h : f.WellFormed may) {g : Generation} (hg : g ∈ f.generations)
    (he : f.epoch + 1 ≤ f'.epoch) (hd : f'.disconnects = f.disconnects) :
    f'.Released (if f.slot = some g.epoch then g.abort else g) := by
  have hlt : g.epoch < f'.epoch := Nat.lt_of_le_of_lt (h.epoch_le hg) he
  split
  · exact ⟨hlt, rfl, rfl, .inl rfl⟩
  · next hs =>
    refine (h.released g hg hs).mono (Nat.le_of_lt he) fun hj => ?_
    unfold Joined
    rwa [hd]

/-- Halting keeps the bookkeeping. -/
lemma haltTasks (h : f.WellFormed may) : f.haltTasks.WellFormed may := by
  have hc : ∀ g : Generation, (if f.slot = some g.epoch then g.abort else g).epoch = g.epoch := by
    intro g
    split <;> rfl
  rw [haltTasks_eq]
  refine h.mapGenerations rfl hc ?_ ?_ (.inl rfl) (Nat.le_succ _) ?_ ?_
    (fun n d hd e' t hp => (h.joining n d hd e' t hp).map (Nat.le_succ _) rfl hc)
    rfl rfl rfl rfl
  · intro g _ hw
    split at hw <;> exact hw
  · intro g hg s hs
    exact h.session g hg s (by split at hs <;> exact hs)
  · exact fun g _ hs => absurd hs (by simp)
  · exact fun g hg _ => h.released_abort hg (Nat.le_refl _) rfl

/-- A generation that begins takes the slot of one that is aborted. -/
lemma generate (h : f.WellFormed may) (retries : UInt32) :
    (f.generate retries).WellFormed may := by
  -- The feed is halted first: then every generation that exists belongs to an earlier epoch.
  have hh := h.haltTasks
  rw [haltTasks_eq] at hh
  have hlt : ∀ g ∈ f.generations.map (fun g => if f.slot = some g.epoch then g.abort else g),
      g.epoch < f.epoch + 1 := fun g hg => (hh.released g hg (by simp)).epoch
  unfold Feed.generate
  rw [abortSlot_eq]
  constructor
  case keeps => exact hh.keeps
  case sorted =>
    refine List.pairwise_append.2 ⟨hh.sorted, List.pairwise_singleton _ _, ?_⟩
    intro g hg k hk
    rw [List.mem_singleton.1 hk]
    exact hlt g hg
  case slot =>
    intro e he
    obtain rfl := Option.some.inj he
    exact ⟨rfl, _, List.mem_append_right _ (List.mem_singleton_self _), rfl⟩
  case held =>
    intro g hg hs
    rcases List.mem_append.1 hg with hg | hg
    · exact absurd (Option.some.inj hs).symm (Nat.ne_of_lt (hlt g hg))
    · rw [List.mem_singleton.1 hg]
      exact ⟨rfl, rfl, rfl⟩
  case released =>
    intro g hg hs
    rcases List.mem_append.1 hg with hg | hg
    · exact (hh.released g hg (by simp)).mono (Nat.le_refl _) id
    · rw [List.mem_singleton.1 hg] at hs
      exact absurd rfl hs
  case session =>
    intro g hg s hs
    rcases List.mem_append.1 hg with hg | hg
    · exact hh.session g hg s hs
    · rw [List.mem_singleton.1 hg] at hs
      exact absurd hs (by simp)
  case joining =>
    intro n d hd e t hp
    have hpast := (h.joining n d hd e t hp).past
    obtain ⟨hlt, ⟨g, hg, hge⟩, hne⟩ := hh.joining n d hd e t hp
    refine ⟨hlt, ⟨g, List.mem_append_left _ hg, hge⟩, fun g hg => ?_⟩
    rcases List.mem_append.1 hg with hg | hg
    · exact hne g hg
    · rw [List.mem_singleton.1 hg]
      dsimp only
      omega
  case asleep => exact hh.asleep
  case claim => exact hh.claim
  case current =>
    intro e he
    obtain ⟨g, hg, hge, hgw⟩ := hh.current e he
    exact ⟨g, List.mem_append_left _ hg, hge, hgw⟩

/-! ### Reconnects -/

/-- Reconnects may come and go as long as those that sleep remember no epoch still to come. -/
lemma setReconnects (h : f.WellFormed may) {claim : Nat} {pending : Option Nat}
    {reconnects : List Reconnect} (hc : claim ≤ f.epoch)
    (hr : ∀ (n : Nat) r, reconnects[n]? = some r → ∀ t e, r.phase = .asleep t e →
      (∃ r', f.reconnects[n]? = some r' ∧ r'.phase = .asleep t e) ∨ e ≤ f.epoch) :
    { f with claim, pending, reconnects }.WellFormed may :=
  { h with
    joining := fun n d hd e t hp => (h.joining n d hd e t hp).mono (Nat.le_refl _) rfl
    asleep := by
      intro n r hn t e hp
      rcases hr n r hn t e hp with ⟨r', hn', hp'⟩ | he
      · exact h.asleep n r' hn' t e hp'
      · exact he
    claim := hc
    released := fun g hg hs => (h.released g hg hs).mono (Nat.le_refl _) id }

/-- Aborting the scheduled reconnect keeps the bookkeeping. -/
lemma abortPending (h : f.WellFormed may) : f.abortPending.WellFormed may := by
  rw [abortPending_eq]
  refine h.setReconnects h.claim fun n r hr t e hp => ?_
  rw [getElem?_reconnects_abortPending] at hr
  obtain ⟨r', hn', rfl⟩ := Option.map_eq_some_iff.1 hr
  refine .inl ⟨r', hn', ?_⟩
  split at hp <;> exact hp

/-- A further reconnect that waits for its turn keeps the bookkeeping. -/
lemma appendReconnect (h : f.WellFormed may) {claim : Nat} {pending : Option Nat}
    {new : Reconnect} (hc : claim ≤ f.epoch) (hnew : new.phase = .waiting) :
    { f with claim, pending, reconnects := f.reconnects ++ [new] }.WellFormed may := by
  refine h.setReconnects hc fun n r hr t e hp => ?_
  rw [List.getElem?_append] at hr
  split at hr
  · exact .inl ⟨r, hr, hp⟩
  · have : r = new := by
      have := List.mem_of_getElem? hr
      exact List.mem_singleton.1 this
    rw [this, hnew] at hp
    exact absurd hp (by simp)

/-- A reconnect that falls asleep in the current epoch, or that ends, keeps the bookkeeping. -/
lemma setReconnect (h : f.WellFormed may) {phase : ReconnectPhase}
    (hp : ∀ t e, phase = .asleep t e → e = f.epoch) (n : Nat) :
    (f.setReconnect n phase).WellFormed may := by
  refine h.setReconnects h.claim fun m r hr t e hrp => ?_
  rw [List.getElem?_modify] at hr
  obtain ⟨r', hr', rfl⟩ := Option.map_eq_some_iff.1 hr
  split at hrp
  · exact .inr (Nat.le_of_eq (hp t e hrp))
  · exact .inl ⟨r', hr', hrp⟩

/-! ### Disconnects -/

/-- A further disconnect that waits for its turn keeps the bookkeeping. -/
lemma addDisconnect (h : f.WellFormed may) : f.addDisconnect.2.WellFormed may where
  keeps := h.keeps
  sorted := h.sorted
  slot := h.slot
  held := h.held
  released := by
    intro g hg hs
    refine (h.released g hg hs).mono (Nat.le_refl _) ?_
    rintro ⟨n, d, t, hd, hp⟩
    exact ⟨n, d, t, by
      rw [Feed.addDisconnect, List.getElem?_append_left (List.getElem?_eq_some_iff.1 hd).1, hd], hp⟩
  session := h.session
  joining := by
    intro n d hd e t hp
    rw [Feed.addDisconnect, List.getElem?_append] at hd
    split at hd
    · exact (h.joining n d hd e t hp).mono (Nat.le_refl _) rfl
    · rw [List.mem_singleton.1 (List.mem_of_getElem? hd)] at hp
      exact absurd hp (by simp)
  asleep := h.asleep
  claim := h.claim
  current := h.current

/-- An epoch may pass when no generation is held. -/
lemma passEpoch (h : f.WellFormed may) (hs : f.slot = none) :
    { f with slot := none, epoch := f.epoch + 1 }.WellFormed may where
  keeps := h.keeps
  sorted := h.sorted
  slot e he := absurd he (by simp)
  held g _ he := absurd he (by simp)
  released g hg _ := (h.released g hg (by simp [hs])).mono (Nat.le_succ _) id
  session := h.session
  joining n d hd e t hp := (h.joining n d hd e t hp).mono (Nat.le_succ _) rfl
  asleep n r hr t e hp := Nat.le_succ_of_le (h.asleep n r hr t e hp)
  claim := Nat.le_succ_of_le h.claim
  current := h.current

/-- So it may once the scheduled reconnect has been aborted, which leaves the slot and the epoch
alone. This is what a disconnect does that finds nothing held. -/
lemma abortPending_passEpoch (h : f.WellFormed may) (hs : f.slot = none) :
    { f.abortPending with slot := none, epoch := f.epoch + 1 }.WellFormed may := by
  have hslot : f.abortPending.slot = none := by
    rw [abortPending_eq]
    exact hs
  have hepoch : f.abortPending.epoch = f.epoch := by rw [abortPending_eq]
  exact hepoch ▸ h.abortPending.passEpoch hslot

/-- A disconnect may let go of the generation that is held, and wait for its read loop. -/
lemma letGo (h : f.WellFormed may) {e n : Nat} {d : Disconnect} (hs : f.slot = some e)
    (hd : f.disconnects[n]? = some d) (hp : d.phase = .waiting) (t : Duration) :
    (({ f with slot := none, epoch := f.epoch + 1 }.letGo e).setDisconnect n
      (.joining e t)).WellFormed may := by
  have he : e = f.epoch := (h.slot e hs).1
  have hjoined : ∀ e', f.Joined e' ∨ e' = e →
      (({ f with slot := none, epoch := f.epoch + 1 }.letGo e).setDisconnect n
        (.joining e t)).Joined e' := by
    rintro e' (⟨m, d', t', hm, hd'⟩ | rfl)
    · have hne : n ≠ m := by
        rintro rfl
        rw [hd] at hm
        rw [Option.some.inj hm, hd'] at hp
        exact absurd hp (by simp)
      exact ⟨m, d', t', by
        simpa [Feed.setDisconnect, Feed.letGo, Feed.changeGeneration, List.getElem?_modify, hne]
          using hm, hd'⟩
    · exact ⟨n, { d with phase := .joining e' t }, t, by
        simp [Feed.setDisconnect, Feed.letGo, Feed.changeGeneration, hd], rfl⟩
  have hc : ∀ g : Generation,
      (if g.epoch = e then { g with watchAborted := true, signalled := true } else g).epoch
        = g.epoch := by
    intro g
    split <;> rfl
  refine h.mapGenerations rfl hc ?_ ?_ (.inl rfl) (Nat.le_succ _) ?_ ?_ ?_ rfl rfl rfl rfl
  · intro g _ hw
    split at hw <;> exact hw
  · intro g hg s hs'
    exact h.session g hg s (by split at hs' <;> exact hs')
  · exact fun g _ he' => absurd he' (by simp [Feed.setDisconnect, Feed.letGo,
      Feed.changeGeneration])
  · intro g hg _
    have hlt : g.epoch < f.epoch + 1 := Nat.lt_succ_of_le (h.epoch_le hg)
    split
    · next heq => exact ⟨hlt, rfl, rfl, .inr (.inr (hjoined _ (.inr heq)))⟩
    · next hne =>
      have hslot : f.slot ≠ some g.epoch := by
        rw [hs]
        exact fun hc => hne (Option.some.inj hc).symm
      exact (h.released g hg hslot).mono (Nat.le_succ _) fun hj => hjoined _ (.inl hj)
  · intro m d' hm e' t' hp'
    simp only [Feed.setDisconnect, Feed.letGo, Feed.changeGeneration, List.getElem?_modify] at hm
    obtain ⟨d₀, hd₀, rfl⟩ := Option.map_eq_some_iff.1 hm
    split at hp'
    · obtain ⟨rfl, -⟩ : e = e' ∧ t = t' := by simpa using hp'
      have hbarren : ∀ g ∈ f.generations, g.epoch ≠ e + 1 := by
        intro g hg hge
        have := h.epoch_le hg
        omega
      obtain ⟨g, hg, hge⟩ := (h.slot e hs).2
      have hended : { f with slot := none, epoch := f.epoch + 1 }.Ended e :=
        ⟨he ▸ Nat.lt_succ_self _, ⟨g, hg, hge⟩, hbarren⟩
      exact hended.map (Nat.le_refl _) rfl hc
    · exact (h.joining m d₀ hd₀ e' t' hp').map (Nat.le_succ _) rfl hc

/-- A disconnect may come to its end once the read loop that it waits for is aborted or has come to
its own. -/
lemma finishDisconnect (h : f.WellFormed may) (n : Nat)
    (hn : ∀ d, f.disconnects[n]? = some d → ∀ e t, d.phase = .joining e t →
      ∀ g ∈ f.generations, g.epoch = e → g.loopAborted = true ∨ g.loop = .finished) :
    (f.setDisconnect n .finished).WellFormed may where
  keeps := h.keeps
  sorted := h.sorted
  slot := h.slot
  held := h.held
  released := by
    intro g hg hs
    obtain ⟨hlt, hw, hsig, hl⟩ := h.released g hg hs
    refine ⟨hlt, hw, hsig, ?_⟩
    rcases hl with hl | hl | ⟨m, d, t, hd, hp⟩
    · exact .inl hl
    · exact .inr (.inl hl)
    · by_cases hmn : n = m
      · subst hmn
        rcases hn d hd _ t hp g hg rfl with hl | hl
        · exact .inl hl
        · exact .inr (.inl hl)
      · exact .inr (.inr ⟨m, d, t, by
          simpa [Feed.setDisconnect, List.getElem?_modify, hmn] using hd, hp⟩)
  session := h.session
  joining := by
    intro m d hm e t hp
    simp only [Feed.setDisconnect, List.getElem?_modify] at hm
    obtain ⟨d₀, hd₀, rfl⟩ := Option.map_eq_some_iff.1 hm
    split at hp
    · exact absurd hp (by simp)
    · exact (h.joining m d₀ hd₀ e t hp).mono (Nat.le_refl _) rfl
  asleep := h.asleep
  claim := h.claim
  current := h.current

/-- The read loop of an earlier epoch may be aborted. -/
lemma abandon (h : f.WellFormed may) {e : Nat} (he : e < f.epoch) :
    (f.changeGeneration e fun g => { g with loopAborted := true }).WellFormed may := by
  have hc : ∀ g : Generation,
      (if g.epoch = e then { g with loopAborted := true } else g).epoch = g.epoch := by
    intro g
    split <;> rfl
  refine h.mapGenerations rfl hc ?_ ?_ (.inr ⟨rfl, rfl⟩) (Nat.le_refl _) ?_ ?_
    (fun n d hd e' t hp => (h.joining n d hd e' t hp).map (Nat.le_refl _) rfl hc)
    rfl rfl rfl rfl
  · intro g _ hw
    split at hw <;> exact hw
  · intro g hg s hs
    exact h.session g hg s (by split at hs <;> exact hs)
  · intro g hg hs
    have hne : g.epoch ≠ e := by
      have : g.epoch = f.epoch := (h.slot _ hs).1
      omega
    rw [if_neg hne]
    exact h.held g hg hs
  · intro g hg hs
    have hr := h.released g hg hs
    split
    · exact ⟨hr.epoch, hr.watch, hr.signalled, .inl rfl⟩
    · exact hr.mono (Nat.le_refl _) id

/-! ### Whose turn it is -/

/-- It may be the turn of any task, except of a read loop that has not begun. -/
lemma setCurrent (h : f.WellFormed may) {task : Option Task}
    (ht : ∀ e, task = some (.loop e) → ∃ g ∈ f.generations, g.epoch = e ∧ g.loop ≠ .waiting) :
    { f with current := task }.WellFormed may :=
  { h with
    current := ht
    joining := fun n d hd e t hp => (h.joining n d hd e t hp).mono (Nat.le_refl _) rfl
    released := fun g hg hs => (h.released g hg hs).mono (Nat.le_refl _) id }

/-- It may be the turn of any task that is not a read loop. -/
lemma turn (h : f.WellFormed may) (task : Task) (ht : ∀ e, task ≠ .loop e) :
    { f with current := some task }.WellFormed may :=
  h.setCurrent fun e he => absurd (Option.some.inj he) (ht e)

/-- It may be no task's turn. -/
lemma noTurn (h : f.WellFormed may) : { f with current := none }.WellFormed may :=
  h.setCurrent (by simp)

/-- What is noted has no part in the bookkeeping. -/
lemma note (h : f.WellFormed may) (fact : Fact) : (f.note fact).WellFormed may :=
  h.congr (h.keeps.congr rfl) rfl

/-- What is logged has no part in it either. -/
lemma log (h : f.WellFormed may) (level : LogLevel) (message : String)
    (fields : List (String × String)) : (f.log level message fields).WellFormed may :=
  h.note _

/-- The session that is installed has no part in the bookkeeping. -/
lemma install (h : f.WellFormed may) (epoch : Nat) : (f.install epoch).WellFormed may :=
  h.congr (h.keeps.congr rfl) rfl

/-- Nor has it when it is forgotten. -/
lemma uninstall (h : f.WellFormed may) : { f with installed := none }.WellFormed may :=
  h.congr (h.keeps.congr rfl) rfl

/-! ### The beginning -/

/-- A feed that has not been started is in order. -/
lemma of_ofSettings {settings : Settings} {refreshable : Bool}
    (h : ofSettings settings refreshable = .ok f) : f.WellFormed may := by
  obtain ⟨request, rfl⟩ := eq_of_ofSettings h
  constructor <;> simp [Keeps]

end WellFormed

end Feed

end EventFeed
