import EventFeed.Proofs.Feed.Conduct

/-!
# Telling subscribers

A status change is published before the operation that made it goes on, and a subscriber that is
told may operate the feed itself, so that publications nest. Whatever subscribers do, it is a chain
of what each of them does, and each of them carries out a chain of operations. A relation between
states that is reflexive and transitive and that every single answer respects is therefore respected
by whole publications; and one that the four operations respect whenever answers do is respected by
answers at every depth.

`transition_cases` is how all operations are opened: a transition is refused and leaves the feed
alone, or the change is announced and subscribers are told. `Conducted.respond` is the induction
over the depth to which answers nest.
-/

namespace EventFeed.Feed

/-! ### Chains of answers -/

/-- A relation between states that can be followed from one answer to the next. -/
structure Chained (Rel : Feed → Feed → Prop) : Prop where
  refl : ∀ f, Rel f f
  trans : ∀ {f g h}, Rel f g → Rel g h → Rel f h
  /-- The panic of a listener is only written to the log. -/
  logged : ∀ f line, Rel f (f.note (.logged line))

/-- What every offer of a value respects is respected by a whole pass over listeners. -/
lemma offerAll_rel {β α : Type} {Rel : Feed → Feed → Prop} (hRel : Chained Rel)
    {r : Reaction Feed β α} {value : α} (hr : ∀ l f, Rel f (r.offer value l f).2)
    (listeners : List (Listener β)) (f : Feed) : Rel f (r.offerAll value listeners f).2 := by
  induction listeners generalizing f with
  | nil => exact hRel.refl f
  | cons l rest ih => exact hRel.trans (hr l f) (ih _)

/-- What every answer to a status respects is respected by its publication. -/
lemma publishStatus_rel {Rel : Feed → Feed → Prop} (hRel : Chained Rel) {respond : Respond}
    {s : ConnectionState} (hr : ∀ n f, Rel f (respond n (.status s) f).2) (f : Feed) :
    Rel (f.note (.statusPublished s)) (publishStatus respond s f).2 := by
  refine offerAll_rel hRel (fun l g => ?_) _ _
  have hl := hr l.what g
  unfold Reaction.offer
  dsimp only [statusReaction]
  split
  · next heq => rwa [heq] at hl
  · next heq => rw [heq] at hl; exact hRel.trans hl (hRel.logged _ _)

/-- What every answer to an event respects is respected by its publication. -/
lemma publishEvent_rel {Rel : Feed → Feed → Prop} (hRel : Chained Rel) {respond : Respond}
    {e : RoutedEvent} (hr : ∀ n f, Rel f (respond n (.event e) f).2) (f : Feed) :
    Rel (f.note (.eventPublished e)) (publishEvent respond e f).2 := by
  refine offerAll_rel hRel (fun l g => ?_) _ _
  have hl := hr l.what.2 g
  unfold Reaction.offer
  dsimp only [eventReaction]
  split
  · next heq =>
    have hg := congrArg Prod.snd heq
    dsimp only at hg
    subst hg
    exact hRel.refl g
  · next heq => split at heq <;> simp at heq
  · next heq =>
    have hg := congrArg Prod.snd heq
    dsimp only at hg
    subst hg
    split
    · next heq => rwa [heq] at hl
    · next heq => rw [heq] at hl; exact hRel.trans hl (hRel.logged _ _)

/-! ### Transitions -/

/-- The feed has gone on to a status and says so, and nobody has been told yet. -/
def announce (s : ConnectionState) (f : Feed) : Feed :=
  ({ f with status := s }.note (.statusChanged s)).note (.statusPublished s)

/-- The state `g` is the one to which listeners bring the feed `f` when it goes on to the status `s`
and they are told so. -/
def Told (respond : Respond) (s : ConnectionState) (f g : Feed) : Prop :=
  g = (publishStatus respond s ({ f with status := s }.note (.statusChanged s))).2

/-- What every answer to a status respects is respected by what follows its announcement. -/
lemma Told.rel {Rel : Feed → Feed → Prop} (hRel : Chained Rel) {respond : Respond}
    {s : ConnectionState} {f g : Feed} (ht : Told respond s f g)
    (hr : ∀ n h, Rel h (respond n (.status s) h).2) : Rel (f.announce s) g :=
  ht.symm ▸ publishStatus_rel hRel hr _

/-- A transition is refused and changes nothing, or it is announced and subscribers are told. -/
lemma transition_cases (respond : Respond) (allowed : Feed → Bool) (s : ConnectionState)
    (f : Feed) :
    ((f.status = s ∨ allowed f = false) ∧ transition respond allowed s f = (false, f)) ∨
      (f.status ≠ s ∧ allowed f = true ∧
        ∃ g, transition respond allowed s f = (true, g) ∧ Told respond s f g) := by
  unfold transition
  split
  · next h => exact .inl ⟨by simpa using h, rfl⟩
  · next h =>
    obtain ⟨hs, ha⟩ : f.status ≠ s ∧ allowed f = true := by simpa using h
    exact .inr ⟨hs, ha, _, rfl, rfl⟩

/-- The status is set already, or it is announced and subscribers are told. -/
lemma setStatus_cases (respond : Respond) (s : ConnectionState) (f : Feed) :
    (f.status = s ∧ f.setStatus respond s = f) ∨
      (f.status ≠ s ∧ Told respond s f (f.setStatus respond s)) := by
  unfold setStatus
  rcases transition_cases respond (fun _ => true) s f with ⟨h, he⟩ | ⟨hs, -, g, he, hg⟩
  · exact .inl ⟨by simpa using h, by rw [he]⟩
  · exact .inr ⟨hs, by rwa [he]⟩

/-! ### Answers at every depth -/

/-- Below the bound, a subscriber answers by carrying out what its handler says to all that it has
been told. -/
lemma respond_succ {depth n : Nat} {notice : Notice} {f : Feed} {s : Subscriber}
    (hs : f.subscribers[n]? = some s) :
    Feed.respond (depth + 1) n notice f =
      (f.tell n notice).obeyAll (Feed.respond depth) n (s.handler (notice :: s.heard)) := by
  have htold : (f.tell n notice).subscribers[n]? = some { s with heard := notice :: s.heard } := by
    simp [tell, hs]
  rw [Feed.respond, htold]

/-- Every answer keeps `K`, and respects the relation for the notice that it answers. -/
def Respects (K : Feed → Prop) (Rel : Notice → Feed → Feed → Prop) (respond : Respond) : Prop :=
  ∀ n notice f, K f → K (respond n notice f).2 ∧ Rel notice f (respond n notice f).2

/-- Answers that respect two relations together respect each of them. -/
lemma Respects.and {K : Feed → Prop} {Rel Rel' : Notice → Feed → Feed → Prop} {respond : Respond}
    (h : Respects K (fun notice f g => Rel notice f g ∧ Rel' notice f g) respond) :
    Respects K Rel respond ∧ Respects K Rel' respond :=
  ⟨fun n notice f hf => ⟨(h n notice f hf).1, (h n notice f hf).2.1⟩,
    fun n notice f hf => ⟨(h n notice f hf).1, (h n notice f hf).2.2⟩⟩

/-- What `K` and the relation have to do with whatever happens to subscribers alone. -/
structure Framed (may : Conduct) (K : Feed → Prop) (Rel : Notice → Feed → Feed → Prop) :
    Prop where
  keeps : ∀ {f}, K f → f.Keeps may
  refl : ∀ notice f, Rel notice f f
  trans : ∀ {notice f g h}, Rel notice f g → Rel notice g h → Rel notice f h
  /-- What happens to subscribers alone is of no account. -/
  aside : ∀ {notice f g}, g.engine = f.engine → g.Keeps may → K f → K g ∧ Rel notice f g

/-- What the four operations respect whenever answers do, given that subscribers keep a conduct. -/
structure Conducted (may : Conduct) (K : Feed → Prop) (Rel : Notice → Feed → Feed → Prop) : Prop
    extends Framed may K Rel where
  start : ∀ {respond}, Respects K Rel respond → ∀ {notice}, may notice .start →
    ∀ retries f, K f → K (f.start respond retries) ∧ Rel notice f (f.start respond retries)
  stop : ∀ {respond}, Respects K Rel respond → ∀ {notice}, may notice .stop →
    ∀ f, K f → K (f.stop respond) ∧ Rel notice f (f.stop respond)
  reconnect : ∀ {respond}, Respects K Rel respond → ∀ {notice}, may notice .reconnect →
    ∀ delay retries f, K f →
      let g := (f.addReconnect delay retries).2.beginReconnect respond f.reconnects.length
        { scheduled := false, delay, retries }
      K g ∧ Rel notice f g
  disconnect : ∀ {respond}, Respects K Rel respond → ∀ {notice}, may notice .disconnect →
    ∀ f, K f →
      let g := f.addDisconnect.2.beginDisconnect respond f.disconnects.length
      K g ∧ Rel notice f g

section Framed

variable {may : Conduct} {K : Feed → Prop} {Rel : Notice → Feed → Feed → Prop} {respond : Respond}

/-- Answers that keep `K` and respect a relation can be followed one after the other. -/
lemma Framed.chained (hF : Framed may K Rel) (notice : Notice) :
    Chained fun f g => K f → K g ∧ Rel notice f g where
  refl f hf := ⟨hf, hF.refl notice f⟩
  trans hfg hgh hf := ⟨(hgh (hfg hf).1).1, hF.trans (hfg hf).2 (hgh (hfg hf).1).2⟩
  logged f _ hf := hF.aside (engine_note rfl f) ((hF.keeps hf).congr rfl) hf

/-- What answers to an announcement respect is respected by the whole of them. -/
lemma Framed.told (hF : Framed may K Rel) (hr : Respects K Rel respond) {s : ConnectionState}
    {f g : Feed} (ht : Told respond s f g) (hf : K (f.announce s)) :
    K g ∧ Rel (.status s) (f.announce s) g :=
  ht.rel (hF.chained _) (fun n h hh => hr n _ h hh) hf

/-- What answers to a status respect is respected by its publication. -/
lemma Framed.publishStatus (hF : Framed may K Rel) (hr : Respects K Rel respond)
    {s : ConnectionState} {f : Feed} (hf : K (f.note (.statusPublished s))) :
    K (publishStatus respond s f).2 ∧
      Rel (.status s) (f.note (.statusPublished s)) (publishStatus respond s f).2 :=
  publishStatus_rel (hF.chained _) (fun n h hh => hr n _ h hh) f hf

/-- What answers to an event respect is respected by its publication. -/
lemma Framed.publishEvent (hF : Framed may K Rel) (hr : Respects K Rel respond)
    {e : RoutedEvent} {f : Feed} (hf : K (f.note (.eventPublished e))) :
    K (publishEvent respond e f).2 ∧
      Rel (.event e) (f.note (.eventPublished e)) (publishEvent respond e f).2 :=
  publishEvent_rel (hF.chained _) (fun n h hh => hr n _ h hh) f hf

end Framed

section Conducted

variable {may : Conduct} {K : Feed → Prop} {Rel : Notice → Feed → Feed → Prop}

/-- A command that keeps the conduct respects what the operations respect. -/
lemma Conducted.obey (hC : Conducted may K Rel) {respond : Respond}
    (hr : Respects K Rel respond) {notice : Notice} (n : Nat) {c : Command}
    (hc : c.Keeps may notice) (f : Feed) (hf : K f) :
    K (f.obey respond n c).2 ∧ Rel notice f (f.obey respond n c).2 := by
  induction hc generalizing f with
  | start h => exact hC.start hr h _ f hf
  | stop h => exact hC.stop hr h f hf
  | reconnect h => exact hC.reconnect hr h _ _ f hf
  | disconnect h => exact hC.disconnect hr h f hf
  | subscribe h =>
    exact hC.aside (engine_subscribe f _ _ _) ((hC.keeps hf).subscribe _ _ h) hf
  | unsubscribe =>
    refine hC.aside ((engine_note rfl _).trans (engine_unsubscribeName f _)) ?_ hf
    exact (hC.keeps hf).congr (subscribers_unsubscribeName f _)
  | panic => exact ⟨hf, hC.refl _ f⟩
  | @once notice key c h ih =>
    obtain ⟨hK, hR⟩ : K (f.spend n key).2 ∧ Rel notice f (f.spend n key).2 :=
      hC.aside (engine_spend f n key) ((hC.keeps hf).spend n key) hf
    unfold Feed.obey
    split
    · next heq => rw [heq] at hK hR; exact ⟨hK, hR⟩
    · next heq =>
      rw [heq] at hK hR
      obtain ⟨hK', hR'⟩ := ih _ hK
      exact ⟨hK', hC.trans hR hR'⟩

/-- So do several commands, carried out one after the other. -/
lemma Conducted.obeyAll (hC : Conducted may K Rel) {respond : Respond}
    (hr : Respects K Rel respond) {notice : Notice} (n : Nat) (cs : List Command)
    (hcs : ∀ c ∈ cs, c.Keeps may notice) (f : Feed) (hf : K f) :
    K (f.obeyAll respond n cs).2 ∧ Rel notice f (f.obeyAll respond n cs).2 := by
  induction cs generalizing f with
  | nil => exact ⟨hf, hC.refl _ f⟩
  | cons c rest ih =>
    obtain ⟨hK, hR⟩ := hC.obey hr n (hcs c List.mem_cons_self) f hf
    unfold Feed.obeyAll
    split
    · next heq =>
      rw [heq] at hK hR
      obtain ⟨hK', hR'⟩ := ih (fun c hc => hcs c (List.mem_cons_of_mem _ hc)) _ hK
      exact ⟨hK', hC.trans hR hR'⟩
    · next heq => rw [heq] at hK hR; exact ⟨hK, hR⟩

/-- Answers at every depth respect what the operations respect. -/
theorem Conducted.respond (hC : Conducted may K Rel) (depth : Nat) :
    Respects K Rel (respond depth) := by
  -- One level further down, answers are the ones about which the operations have to know.
  induction depth with
  | zero =>
    intro n notice f hf
    exact hC.aside (engine_tell f n notice) ((hC.keeps hf).tell n notice) hf
  | succ depth ih =>
    intro n notice f hf
    obtain ⟨hK, hR⟩ : K (f.tell n notice) ∧ Rel notice f (f.tell n notice) :=
      hC.aside (engine_tell f n notice) ((hC.keeps hf).tell n notice) hf
    unfold Feed.respond
    dsimp only
    split
    · exact ⟨hK, hR⟩
    · next s hs =>
      have hcs : ∀ c ∈ s.handler s.heard, c.Keeps may notice := by
        have hkeeps := hC.keeps hK s (List.mem_of_getElem? hs)
        obtain ⟨t, -, rfl⟩ : ∃ t, f.subscribers[n]? = some t ∧
            { t with heard := notice :: t.heard } = s := by
          simpa [tell, List.getElem?_modify] using hs
        exact hkeeps notice t.heard
      obtain ⟨hK', hR'⟩ := hC.obeyAll ih n _ hcs _ hK
      exact ⟨hK', hC.trans hR hR'⟩

/-- A second relation may rely on all that is known from the first one. -/
lemma Conducted.and {Rel' : Notice → Feed → Feed → Prop} (hC : Conducted may K Rel)
    (hF : Framed may K Rel')
    (start : ∀ {respond}, Respects K Rel respond → Respects K Rel' respond → ∀ {notice},
      may notice .start → ∀ retries f, K f → Rel' notice f (f.start respond retries))
    (stop : ∀ {respond}, Respects K Rel respond → Respects K Rel' respond → ∀ {notice},
      may notice .stop → ∀ f, K f → Rel' notice f (f.stop respond))
    (reconnect : ∀ {respond}, Respects K Rel respond → Respects K Rel' respond → ∀ {notice},
      may notice .reconnect → ∀ delay retries f, K f →
        Rel' notice f ((f.addReconnect delay retries).2.beginReconnect respond
          f.reconnects.length { scheduled := false, delay, retries }))
    (disconnect : ∀ {respond}, Respects K Rel respond → Respects K Rel' respond → ∀ {notice},
      may notice .disconnect → ∀ f, K f →
        Rel' notice f (f.addDisconnect.2.beginDisconnect respond f.disconnects.length)) :
    Conducted may K fun notice f g => Rel notice f g ∧ Rel' notice f g where
  keeps := hC.keeps
  refl notice f := ⟨hC.refl notice f, hF.refl notice f⟩
  trans hfg hgh := ⟨hC.trans hfg.1 hgh.1, hF.trans hfg.2 hgh.2⟩
  aside := by
    intro notice f g he hk hf
    obtain ⟨hK, hR⟩ : K g ∧ Rel notice f g := hC.aside he hk hf
    exact ⟨hK, hR, (hF.aside he hk hf).2⟩
  start hr _ hm retries f hf := by
    obtain ⟨h, h'⟩ := hr.and
    exact ⟨(hC.start h hm retries f hf).1, (hC.start h hm retries f hf).2,
      start h h' hm retries f hf⟩
  stop hr _ hm f hf := by
    obtain ⟨h, h'⟩ := hr.and
    exact ⟨(hC.stop h hm f hf).1, (hC.stop h hm f hf).2, stop h h' hm f hf⟩
  reconnect hr _ hm delay retries f hf := by
    obtain ⟨h, h'⟩ := hr.and
    exact ⟨(hC.reconnect h hm delay retries f hf).1, (hC.reconnect h hm delay retries f hf).2,
      reconnect h h' hm delay retries f hf⟩
  disconnect hr _ hm f hf := by
    obtain ⟨h, h'⟩ := hr.and
    exact ⟨(hC.disconnect h hm f hf).1, (hC.disconnect h hm f hf).2, disconnect h h' hm f hf⟩

end Conducted

end EventFeed.Feed
