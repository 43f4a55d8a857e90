import EventFeed.Proofs.Feed.Placement

/-!
# At most one generation is live

A feed may have begun many generations, and their tasks need not have come to their end when the
next one begins. But the tasks that nobody has told to end belong to one generation, which is the
one in the slot and the one of the current epoch, and while the feed is connected it is its session
that is installed. So no frame is read twice, and no guardian watches over the session of another.
-/

namespace EventFeed

/-- The guardian of a generation has not come to its end, and nobody has told it to. -/
structure Generation.Watching (g : Generation) : Prop where
  watch : g.watch ≠ .finished
  free : g.watchAborted = false

/-- A task of a generation runs on that nobody has told to end. -/
def Generation.Live (g : Generation) : Prop :=
  g.Running ∨ g.Watching

namespace Feed

variable {may : Conduct} {f : Feed}

/-- Only the generation in the slot is live. -/
lemma WellFormed.slot_of_live (hf : f.WellFormed may) {g : Generation} (hg : g ∈ f.generations)
    (hl : g.Live) : f.slot = some g.epoch := by
  by_contra hs
  obtain ⟨-, hwatch, hsig, -⟩ := hf.released g hg hs
  rcases hl with hrun | hlook
  · exact absurd (hsig.symm.trans hrun.unasked) (by simp)
  · exact absurd (hwatch.symm.trans hlook.free) (by simp)

/-- A session that is installed for the current epoch is a session of the current epoch. -/
lemma Placed.session {held : Prop} (h : f.Placed held) (hf : f.WellFormed may)
    (hinst : f.installed = some f.epoch) : ∃ s, f.session? = some s ∧ s.epoch = f.epoch := by
  obtain ⟨g, hg, hge, hopen⟩ := h.opened _ hinst
  obtain ⟨s, hgs⟩ := Option.isSome_iff_exists.1 hopen.session
  refine ⟨s, ?_, (hf.session g hg s hgs).trans hge⟩
  rw [session?, hinst, Option.bind_some, sessionOf?, hf.generation?_eq_some_iff.2 ⟨hg, hge⟩,
    Option.bind_some, hgs]

/-- Whatever callers and subscribers ask for, and in whatever order tasks run, the epoch never
decreases and no generation is forgotten. The slot holds at most the generation of the current
epoch. A generation that is live is the one in the slot, so that at most one is. And while a feed is
connected, a session is installed and the slot is filled, and both belong to the current epoch; or
else the caller has let go of the feed, and there is neither. -/
theorem generations_in_order {depth : Nat} :
    (∀ {f f' : Feed}, Reachable depth anyEvent f → Reaches depth anyEvent f f' →
      f.epoch ≤ f'.epoch ∧
        ∀ g ∈ f.generations, ∃ g' ∈ f'.generations, g'.epoch = g.epoch) ∧
    (∀ {f : Feed}, Reachable depth anyEvent f →
      (∀ e, f.slot = some e → e = f.epoch) ∧
      (∀ g ∈ f.generations, g.Live → f.slot = some g.epoch) ∧
      ∀ g ∈ f.generations, ∀ g' ∈ f.generations, g.Live → g'.Live → g = g') ∧
    (∀ {f : Feed}, Reachable depth (fun _ event => event ≠ .call .release) f →
      f.status = .connected →
      ∃ s, f.session? = some s ∧ s.epoch = f.epoch ∧ f.slot = some f.epoch) ∧
    (∀ {f : Feed}, Reachable depth anyEvent f → f.status = .connected →
      (∃ s, f.session? = some s ∧ s.epoch = f.epoch ∧ f.slot = some f.epoch) ∨
        (f.session? = none ∧ f.slot = none)) := by
  refine ⟨fun hr hreach => ?_, fun {f} hr => ?_, fun {f} hr hs => ?_, fun {f} hr hs => ?_⟩
  · have hf := hr.wellFormed fun _ event _ => event.keeps_free
    obtain ⟨-, honward⟩ := hreach.onward hf fun _ event _ => event.keeps_free
    refine ⟨honward.epoch, fun g hg => ?_⟩
    obtain ⟨g', hg', haged⟩ := honward.generations g hg
    exact ⟨g', hg', haged.epoch⟩
  · have hf : f.WellFormed Conduct.free := hr.wellFormed fun _ event _ => event.keeps_free
    refine ⟨fun e he => (hf.slot e he).1, fun g hg hl => hf.slot_of_live hg hl,
      fun g hg g' hg' hl hl' => hf.eq_of_epoch_eq hg hg' ?_⟩
    exact Option.some.inj ((hf.slot_of_live hg hl).symm.trans (hf.slot_of_live hg' hl'))
  · obtain ⟨hf, hp⟩ : f.WellFormed Conduct.free ∧ f.Placed True :=
      hr.placed fun _ _ _ ha => ha
    obtain ⟨hinst, hslot⟩ := (hp.seated hs).resolve_right fun hno => hno.1 trivial
    obtain ⟨s, hsession, hse⟩ := hp.session hf hinst
    exact ⟨s, hsession, hse, hslot⟩
  · obtain ⟨hf, hp⟩ : f.WellFormed Conduct.free ∧ f.Placed False := hr.placed False.elim
    rcases hp.seated hs with ⟨hinst, hslot⟩ | ⟨-, hinst, hslot⟩
    · obtain ⟨s, hsession, hse⟩ := hp.session hf hinst
      exact .inl ⟨s, hsession, hse, hslot⟩
    · exact .inr ⟨by rw [session?, hinst, Option.bind_none], hslot⟩

/-- A feed that has lost its connection and is connected again: there are two generations, and the
later one is in the slot. The caller may still stop it. -/
theorem generations_in_order_instances :
    ∃ f f' : Feed, f.status = .connected ∧ f.generations.map Generation.epoch = [1, 3] ∧
      f.step? 0 (.call .stop) = some f' ∧ f.epoch ≤ f'.epoch ∧
      (∀ g ∈ f.generations, g.Live → f.slot = some g.epoch) ∧
      ∃ s, f.session? = some s ∧ s.epoch = f.epoch ∧ f.slot = some f.epoch := by
  let events : List Event :=
    [.call (.start 0), .run (.loop 1) .first, .run (.loop 1) (.connected 0), .run (.loop 1) .ended,
      .run (.reconnect 0) .first, .tick (.ofSeconds 60), .run (.reconnect 0) .elapsed,
      .run (.loop 3) .first, .run (.loop 3) (.connected 1)]
  have hplay : (played? 0 events).map (fun f => (f.status, f.generations.map Generation.epoch,
      (f.step? 0 (.call .stop)).isSome)) = some (.connected, [1, 3], true) := by decide +kernel
  obtain ⟨f, hf, hview⟩ := Option.map_eq_some_iff.1 hplay
  simp only [Prod.mk.injEq] at hview
  obtain ⟨hstatus, hepochs, hsome⟩ := hview
  obtain ⟨f', hs⟩ := Option.isSome_iff_exists.1 hsome
  have hany : Reachable 0 anyEvent f := .of_played? hf fun _ _ _ => trivial
  have hheld : Reachable 0 (fun _ event => event ≠ .call .release) f := by
    refine .of_played? hf fun event he _ => ?_
    simp only [events, List.mem_cons, List.not_mem_nil, or_false] at he
    obtain rfl | rfl | rfl | rfl | rfl | rfl | rfl | rfl | rfl := he <;> simp
  obtain ⟨hpass, hslot, hsession, -⟩ := @generations_in_order 0
  exact ⟨f, f', hstatus, hepochs, hs, (hpass hany (Reaches.refl.step trivial hs)).1,
    (hslot hany).2.1, hsession hheld hstatus⟩

end Feed

end EventFeed
