import EventFeed.Proofs.Feed.Apart

/-!
# Sessions

A read loop opens the session of its generation when its socket is opened, and from then on notes
every frame in it. Nothing else happens to a session: it stays as it is when the read loop comes to
its end, and when subscribers operate the feed meanwhile. So what a session holds after a turn of
its read loop is known, and how long the read loop waits then for the next frame.
-/

namespace EventFeed

/-- What tells whether a session is alive: the interval within which a heartbeat is due, and when
the last sign of life came. -/
def Session.vital (s : Session) : Duration × Duration :=
  (s.interval, s.lastHeartbeat.getD s.openedAt)

/-- A session that notes a frame is as alive as before, unless the frame is a heartbeat. -/
lemma Session.vital_hear {frame : Inbound} (h : frame.heartbeat?.isSome = false) (now : Duration)
    (s : Session) : (s.hear now frame).vital = s.vital := by
  unfold Session.hear
  split
  · rw [Option.isSome_eq_false_iff, Option.isNone_iff_eq_none] at h
    rw [h]
    rfl
  · rfl

/-- A session that notes a heartbeat is alive now. -/
lemma Session.hear_of_isSome {frame : Inbound} (h : frame.heartbeat?.isSome = true)
    (now : Duration) (s : Session) : (s.hear now frame).lastHeartbeat = some now := by
  obtain ⟨interval, hi⟩ := Option.isSome_iff_exists.1 h
  cases frame with
  | text raw =>
    unfold Session.hear
    dsimp only
    rw [hi]
    rfl
  | _ => exact absurd hi (by simp [Inbound.heartbeat?])

namespace Feed

variable {may : Conduct} {respond : Respond} {e : Nat} {f f' : Feed}

/-- Where spans end depends on the clock alone. -/
lemma after_congr (h : f'.now = f.now) (span : Duration) : f'.after span = f.after span := by
  unfold after
  rw [h]

/-- A generation of an epoch that has changed is one of that epoch, changed. -/
lemma exists_of_mem_changeGeneration {k : Generation} {c : Generation → Generation}
    (hk : k ∈ (f.changeGeneration e c).generations) (he : k.epoch = e) :
    ∃ j ∈ f.generations, j.epoch = e ∧ k = c j := by
  obtain ⟨j, hj, rfl⟩ := List.mem_map.1 hk
  split at he
  · next hje => exact ⟨j, hj, hje, if_pos hje⟩
  · next hje => exact absurd he hje

/-- A read loop waits for the next frame for the interval of its session. -/
lemma reading_of_mem_awaitFrame (hf : f.WellFormed may) {k : Generation} {socket : Nat}
    (hk : k ∈ (f.awaitFrame e socket).generations) (he : k.epoch = e) {s : Session}
    (hs : ∀ j ∈ f.generations, j.epoch = e → j.session = some s) :
    k.session = some s ∧ k.loop = .reading socket s.interval (f.after s.interval) := by
  obtain ⟨j, hj, hje, rfl⟩ := exists_of_mem_changeGeneration hk he
  have hjs := hs j hj hje
  have hof : f.sessionOf? e = some s := by
    rw [sessionOf?, hf.generation?_eq_some_iff.2 ⟨hj, hje⟩, Option.bind_some, hjs]
  rw [hof]
  exact ⟨hjs, rfl⟩

/-- The generation of an epoch that lasts has kept its session and its guardian through
operations. -/
lemma Idles.later (h : Idles f f') {k : Generation} (hk : k ∈ f'.generations)
    (he : k.epoch ≤ f.epoch) : ∃ j ∈ f.generations, j.Later k :=
  (h.generations k hk).resolve_right fun hu => Nat.not_lt.2 he hu.1

/-- The session of the generation whose session is installed. -/
lemma WellFormed.session?_eq (hf : f.WellFormed may) {g : Generation} (hg : g ∈ f.generations)
    (hi : f.installed = some g.epoch) : f.session? = g.session := by
  rw [session?, hi, Option.bind_some, sessionOf?, hf.generation?_eq_some_iff.2 ⟨hg, rfl⟩,
    Option.bind_some]

/-! ### What a turn of a read loop leaves -/

section Turns

variable (hr : Respects (WellFormed may) (fun _ f g => f.Later g ∧ Idles f g) respond)

include hr

/-- A socket that has been opened leaves a session that has been opened now, with the interval of
the settings. Its read loop waits for the first frame, unless the session was refused. -/
lemma session_loopConnected {k : Generation} {socket : Nat} (hf : f.WellFormed may)
    (he : e ≤ f.epoch) (hk : k ∈ (f.loopConnected respond e socket).generations)
    (hke : k.epoch = e) :
    ∃ s, k.session = some s ∧ s.vital = (f.settings.heartbeatInterval, f.now) ∧
      (k.loop = .reading socket s.interval (f.after s.interval) ∨
        k.loop = .closing socket ∧
          (f.epoch ≠ e ∨ f.status = .connected ∨ f.status.isHalted = true)) := by
  have hopen : ∀ j ∈ (f.opening e socket).generations, j.epoch = e → j.session =
      some { epoch := e, openedAt := f.now, interval := f.settings.heartbeatInterval } := by
    intro j hj hje
    obtain ⟨i, -, -, rfl⟩ := exists_of_mem_changeGeneration hj hje
    rfl
  rcases loopConnected_opening respond e socket f with
    ⟨hne, hc⟩ | ⟨-, hst, hc⟩ | ⟨-, -, -, i, ht, hc⟩
  · rw [hc] at hk
    obtain ⟨j, hj, hje, rfl⟩ := exists_of_mem_changeGeneration hk hke
    exact ⟨_, hopen j hj hje, rfl, .inr ⟨rfl, .inl hne⟩⟩
  · rw [hc] at hk
    obtain ⟨j, hj, hje, rfl⟩ := exists_of_mem_changeGeneration hk hke
    exact ⟨_, hopen j hj hje, rfl, .inr ⟨rfl, .inr hst⟩⟩
  · have hi : ((f.opening e socket).install e).WellFormed may :=
      (hf.busy (busy_opening e socket f)).install e
    obtain ⟨hif, hlater⟩ := ht.upkeep hr.and.1 hi
    have hidles := partwise_idles.told hr.and.2 ht hi
    have hsession : ∀ j ∈ i.generations, j.epoch = e → j.session =
        some { epoch := e, openedAt := f.now, interval := f.settings.heartbeatInterval } := by
      intro j hj hje
      obtain ⟨j₀, hj₀, hl⟩ := hidles.later hj (Nat.le_trans (Nat.le_of_eq hje) he)
      exact hl.session.trans (hopen j₀ hj₀ (hl.epoch.symm.trans hje))
    rw [hc] at hk
    obtain ⟨hs, hl⟩ := reading_of_mem_awaitFrame (hif.log _ _ _) hk hke hsession
    have hnow : i.now = f.now := hlater.now
    exact ⟨_, hs, rfl, .inl (hl.trans (by rw [after_congr (by exact hnow)]))⟩

/-- A frame leaves a session that has noted it, and the read loop waits for the next one. -/
lemma session_loopFrame {g k : Generation} {s : Session} {socket : Nat} {frame : Inbound}
    (hframe : ∀ info, frame ≠ .close info) (hf : f.WellFormed may) (hg : g ∈ f.generations)
    (hge : g.epoch = e) (hs : g.session = some s)
    (hk : k ∈ (f.loopFrame respond e socket frame).generations) (hke : k.epoch = e) :
    k.session = some (s.hear f.now frame) ∧
      k.loop = .reading socket (s.hear f.now frame).interval
        (f.after (s.hear f.now frame).interval) ∧
      ((f.loopFrame respond e socket frame).installed = some e → f.installed = some e) := by
  obtain ⟨j, hb, hgen, hend⟩ := loopFrame_hears respond e socket hframe f
  have hj := hf.busy hb
  have hold : ∀ i ∈ j.generations, i.epoch = e → i.session = some (s.hear f.now frame) := by
    intro i hi hie
    rw [hgen] at hi
    obtain ⟨i₀, hi₀, hie₀, rfl⟩ := exists_of_mem_changeGeneration hi hie
    rw [hf.eq_of_epoch_eq hi₀ hg (hie₀.trans hge.symm)]
    exact congrArg (Option.map _) hs
  have hjf : j.now = f.now ∧ j.installed = f.installed ∧ j.epoch = f.epoch := by
    obtain ⟨_, _, _, _, _, rfl⟩ := hb.rest
    exact ⟨rfl, rfl, rfl⟩
  obtain ⟨hnow, hinst, hepoch⟩ := hjf
  rcases hend with hend | ⟨event, hend⟩
  · rw [hend] at hk ⊢
    obtain ⟨hks, hkl⟩ := reading_of_mem_awaitFrame hj hk hke hold
    rw [after_congr hnow] at hkl
    exact ⟨hks, hkl, fun hi => hinst ▸ hi⟩
  · obtain ⟨hp, hlater⟩ := upkeep_publishEvent hr.and.1 hj event
    have hidles := partwise_idles.publishEvent hr.and.2 event hj
    have hnew : ∀ i ∈ (publishEvent respond event j).2.generations, i.epoch = e →
        i.session = some (s.hear f.now frame) := by
      intro i hi hie
      have hle : i.epoch ≤ j.epoch := by
        rw [hie, hepoch, ← hge]
        exact hf.epoch_le hg
      obtain ⟨i₀, hi₀, hl⟩ := hidles.later hi hle
      exact hl.session.trans (hold i₀ hi₀ (hl.epoch.symm.trans hie))
    rw [hend] at hk ⊢
    obtain ⟨hks, hkl⟩ := reading_of_mem_awaitFrame hp hk hke hnew
    rw [after_congr (hlater.now.trans hnow)] at hkl
    refine ⟨hks, hkl, fun hi => ?_⟩
    rcases hlater.installed with h | h
    · exact hinst ▸ h ▸ hi
    · exact absurd (h.symm.trans hi) (by simp)

/-- A read loop that has failed leaves its session as it was, and installs none. -/
lemma session_failed {g k : Generation} {error : TransportError} {retries : UInt32}
    (hf : f.WellFormed may) (hg : g ∈ f.generations)
    (hs : (f.loopFailed g.epoch error).connectionLost respond g.epoch retries = f')
    (hk : k ∈ f'.generations) (hke : k.epoch = g.epoch) :
    k.session = g.session ∧ k.loop = .finished ∧
      (f'.installed = some g.epoch → f.installed = some g.epoch) := by
  have heng := engine_loopFailed g.epoch error f
  have hfail : ((f.loopFailed g.epoch error).generations, (f.loopFailed g.epoch error).epoch,
      (f.loopFailed g.epoch error).installed) =
      ((f.setLoop g.epoch .finished).generations, f.epoch, f.installed) :=
    eq_of_engine heng (fun k => (k.generations, k.epoch, k.installed)) fun _ => rfl
  simp only [Prod.mk.injEq] at hfail
  obtain ⟨hgen, hepoch, hinst⟩ := hfail
  have hsp := spares_connectionLost hr (onTurn_none _)
    (hf.loopFailed g.epoch error) g.epoch retries
  rw [hs] at hsp
  obtain ⟨j, hj, hje, hl, -⟩ := (hsp.generations k hk).resolve_right fun hu =>
    Nat.not_lt.2 (hf.epoch_le hg) (hepoch ▸ hke ▸ hu.1)
  obtain ⟨hloop, hsession⟩ := hl (by simp)
  rw [hgen] at hj
  obtain ⟨i, hi, hie, rfl⟩ := exists_of_mem_changeGeneration hj (hje.trans hke)
  rw [hf.eq_of_epoch_eq hi hg hie] at hloop hsession
  exact ⟨hsession, hloop, fun hi => hinst ▸ hsp.installed _ (by simp) hi⟩

end Turns

end Feed

end EventFeed
