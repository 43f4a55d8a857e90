import EventFeed.Proofs.Feed.Operations

/-!
# What operations leave alone

An operation that subscribers call for, in the middle of another operation or of a step of a task,
may halt tasks and begin new ones, but it leaves every task that exists at the point where it waits,
with the session that it has. `Later` says so, and says the same of the clock, the settings and the
facts of the journal that are the feed's own. It is what can be relied on across a publication.
-/

namespace EventFeed

/-- A generation after some operations: its tasks are where they were, and may have been told
to end. -/
structure Generation.Later (g g' : Generation) : Prop where
  epoch : g'.epoch = g.epoch
  loop : g'.loop = g.loop
  watch : g'.watch = g.watch
  session : g'.session = g.session
  loopAborted : g.loopAborted = true → g'.loopAborted = true
  watchAborted : g.watchAborted = true → g'.watchAborted = true
  signalled : g.signalled = true → g'.signalled = true

lemma Generation.Later.refl (g : Generation) : g.Later g :=
  ⟨rfl, rfl, rfl, rfl, id, id, id⟩

lemma Generation.Later.trans {g h k : Generation} (hg : g.Later h) (hh : h.Later k) :
    g.Later k where
  epoch := hh.epoch.trans hg.epoch
  loop := hh.loop.trans hg.loop
  watch := hh.watch.trans hg.watch
  session := hh.session.trans hg.session
  loopAborted h := hh.loopAborted (hg.loopAborted h)
  watchAborted h := hh.watchAborted (hg.watchAborted h)
  signalled h := hh.signalled (hg.signalled h)

lemma Generation.Later.abort (g : Generation) : g.Later g.abort :=
  ⟨rfl, rfl, rfl, rfl, fun _ => rfl, fun _ => rfl, fun _ => rfl⟩

namespace Feed

/-- A feed after some operations: tasks that existed are where they were, and what was to be seen
stays to be seen. -/
structure Later (f f' : Feed) : Prop where
  settings : f'.settings = f.settings
  now : f'.now = f.now
  current : f'.current = f.current
  claim : f'.claim = f.claim
  epoch : f.epoch ≤ f'.epoch
  installed : f'.installed = f.installed ∨ f'.installed = none
  journal : f.engine.journal <:+ f'.engine.journal
  generations : ∀ g ∈ f.generations, ∃ g' ∈ f'.generations, g.Later g'
  reconnects : ∀ (n : Nat) r, f.reconnects[n]? = some r →
    ∃ r', f'.reconnects[n]? = some r' ∧ r'.phase = r.phase
  disconnects : ∀ (n : Nat) d, f.disconnects[n]? = some d → f'.disconnects[n]? = some d

lemma Later.refl (f : Feed) : f.Later f where
  settings := rfl
  now := rfl
  current := rfl
  claim := rfl
  epoch := Nat.le_refl _
  installed := .inl rfl
  journal := List.suffix_rfl
  generations g hg := ⟨g, hg, .refl g⟩
  reconnects _ r hr := ⟨r, hr, rfl⟩
  disconnects _ _ hd := hd

lemma Later.trans {f g h : Feed} (hf : f.Later g) (hg : g.Later h) : f.Later h where
  settings := hg.settings.trans hf.settings
  now := hg.now.trans hf.now
  current := hg.current.trans hf.current
  claim := hg.claim.trans hf.claim
  epoch := Nat.le_trans hf.epoch hg.epoch
  installed := by
    rcases hg.installed with h | h
    · rw [h]; exact hf.installed
    · exact .inr h
  journal := hf.journal.trans hg.journal
  generations g hg' := by
    obtain ⟨g₁, hg₁, h₁⟩ := hf.generations g hg'
    obtain ⟨g₂, hg₂, h₂⟩ := hg.generations g₁ hg₁
    exact ⟨g₂, hg₂, h₁.trans h₂⟩
  reconnects n r hr := by
    obtain ⟨r₁, hr₁, h₁⟩ := hf.reconnects n r hr
    obtain ⟨r₂, hr₂, h₂⟩ := hg.reconnects n r₁ hr₁
    exact ⟨r₂, hr₂, h₂.trans h₁⟩
  disconnects n d hd := hg.disconnects n d (hf.disconnects n d hd)

/-- Operations that leave alone all that `Later` speaks of, but for the journal, which they only
add to. -/
lemma Later.congr {f f' : Feed} (settings : f'.settings = f.settings) (now : f'.now = f.now)
    (current : f'.current = f.current) (claim : f'.claim = f.claim) (epoch : f'.epoch = f.epoch)
    (installed : f'.installed = f.installed ∨ f'.installed = none)
    (journal : f.engine.journal <:+ f'.engine.journal)
    (generations : f'.generations = f.generations) (reconnects : f'.reconnects = f.reconnects)
    (disconnects : f'.disconnects = f.disconnects) : f.Later f' where
  settings := settings
  now := now
  current := current
  claim := claim
  epoch := Nat.le_of_eq epoch.symm
  installed := installed
  journal := journal
  generations g hg := ⟨g, by rwa [generations], .refl g⟩
  reconnects _ r hr := ⟨r, by rwa [reconnects], rfl⟩
  disconnects _ _ hd := by rwa [disconnects]

/-- A reconnect that came later has no part in what `Later` says. -/
lemma Later.setReconnect {f g : Feed} (h : f.Later g) {n : Nat} (hn : f.reconnects.length ≤ n)
    (phase : ReconnectPhase) : f.Later (g.setReconnect n phase) where
  settings := h.settings
  now := h.now
  current := h.current
  claim := h.claim
  epoch := h.epoch
  installed := h.installed
  journal := h.journal
  generations := h.generations
  reconnects m r hr := by
    obtain ⟨r', hr', hp⟩ := h.reconnects m r hr
    have hne : n ≠ m := by
      have := (List.getElem?_eq_some_iff.1 hr).1
      omega
    exact ⟨r', by simpa [Feed.setReconnect, List.getElem?_modify, hne] using hr', hp⟩
  disconnects := h.disconnects

/-- A disconnect that came later has no part in what `Later` says. -/
lemma Later.setDisconnect {f g : Feed} (h : f.Later g) {n : Nat}
    (hn : f.disconnects.length ≤ n) (phase : DisconnectPhase) :
    f.Later (g.setDisconnect n phase) where
  settings := h.settings
  now := h.now
  current := h.current
  claim := h.claim
  epoch := h.epoch
  installed := h.installed
  journal := h.journal
  generations := h.generations
  reconnects := h.reconnects
  disconnects m d hd := by
    have hne : n ≠ m := by
      have := (List.getElem?_eq_some_iff.1 hd).1
      omega
    simpa [Feed.setDisconnect, List.getElem?_modify, hne] using h.disconnects m d hd

/-- What operations leave alone stays true of the generation whose session is installed. -/
lemma Later.opened {P : Generation → Prop} {f g : Feed} (hl : f.Later g)
    (hP : ∀ {k k' : Generation}, k.Later k' → P k → P k')
    (h : ∀ e, f.installed = some e → ∃ g ∈ f.generations, g.epoch = e ∧ P g) :
    ∀ e, g.installed = some e → ∃ k ∈ g.generations, k.epoch = e ∧ P k := by
  intro e he
  have hf : f.installed = some e := by
    rcases hl.installed with hi | hi
    · exact hi ▸ he
    · rw [hi] at he
      exact absurd he (by simp)
  obtain ⟨k, hk, hke, hkP⟩ := h e hf
  obtain ⟨k', hk', hkk'⟩ := hl.generations k hk
  exact ⟨k', hk', hkk'.epoch.trans hke, hP hkk' hkP⟩

end Feed

end EventFeed
