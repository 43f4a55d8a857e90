import EventFeed.Proofs.Feed.Intake

/-!
# Frames, one after the other

A read loop takes in its frames in the order in which they arrive, and whatever subscribers do in
answer to one of them, it is there for the next: as long as no frame ends the connection, it reads
on. What a frame has to say is taken in once, by the feed and by the session of the read loop, and
by no other session. A frame that has nothing to say leaves no more behind than a frame that has not
been there, but for the count of frames and a line in the log.

So after any run it can be read off the frames alone what has been published, what is remembered,
and what the sessions hold.
-/

namespace EventFeed

/-- A message of the connection, well-formed or not. -/
def Inbound.isText : Inbound → Bool
  | .text _ => true
  | _ => false

/-- The interval that a frame asks for, if it is a heartbeat that asks for one. -/
def Inbound.interval? (frame : Inbound) : Option Duration :=
  frame.heartbeat?.join

/-- The frame that the read loop of an epoch takes in with an event. -/
def Event.frame? (e : Nat) : Event → Option Inbound
  | .run (.loop i) (.frame frame) => if i = e then some frame else none
  | _ => none

namespace Session

/-- A session keeps its interval until a heartbeat asks for another one. -/
lemma interval_hear (now : Duration) (frame : Inbound) (s : Session) :
    (s.hear now frame).interval = frame.interval?.getD s.interval := by
  unfold hear Inbound.interval?
  cases frame with
  | text raw =>
    dsimp only
    cases (Inbound.text raw).heartbeat? <;> rfl
  | _ => rfl

/-- A session counts messages. -/
lemma frames_hear (now : Duration) (frame : Inbound) (s : Session) :
    (s.hear now frame).frames = s.frames + if frame.isText then 1 else 0 := by
  unfold hear
  cases frame with
  | text raw =>
    dsimp only
    split <;> rfl
  | _ => rfl

/-- A frame that ends the connection is not noted. -/
lemma hear_of_failure? {g : Generation} {settings : Settings} {frame : Inbound}
    {error : TransportError} (h : g.failure? settings (.frame frame) = some error)
    (now : Duration) (s : Session) : s.hear now frame = s := by
  cases frame with
  | close info => rfl
  | _ => cases hl : g.loop <;> simp [Generation.failure?, hl] at h

end Session

namespace Feed

variable {may : Conduct} {depth : Nat} {event : Event} {f f' : Feed} {g : Generation}

/-! ### What sessions hold -/

/-- Other tasks take in no frame of a read loop. -/
lemma frame?_eq_none {e : Nat} (h : Event.task? event ≠ some (.loop e)) :
    event.frame? e = none := by
  unfold Event.frame?
  split
  · exact if_neg fun he => h (by rw [← he]; rfl)
  · rfl

/-- Other tasks and callers leave a read loop where it is, and its session as it is. -/
lemma kept_of_step? (hf : f.WellFormed may) (hs : f.step? depth event = some f')
    (hg : g ∈ f.generations) (hne : Event.task? event ≠ some (.loop g.epoch)) :
    ∃ g' ∈ f'.generations, g'.epoch = g.epoch ∧ g'.loop = g.loop ∧ g'.session = g.session := by
  obtain ⟨g', hg', haged⟩ :=
    ((stepped_of_step? hf hs).onward (orderly_respond may depth) hf).generations g hg
  rcases spares_of_step? hf hs with ⟨now, rfl, -, rfl⟩ | hsp
  · exact ⟨g, hg, rfl, rfl, rfl⟩
  rcases hsp.generations g' hg' with ⟨k, hk, hke, hl, -⟩ | ⟨hlt, -⟩
  · obtain rfl := hf.eq_of_epoch_eq hk hg (hke.trans haged.epoch)
    exact ⟨g', hg', haged.epoch, hl (haged.epoch.symm ▸ hne)⟩
  · exact absurd (haged.epoch ▸ hlt) (Nat.not_lt.2 (hf.epoch_le hg))

/-- A session that has been opened notes what its own read loop takes in, and nothing else. -/
lemma session_of_step? (hf : f.WellFormed may) (hs : f.step? depth event = some f')
    (hg : g ∈ f.generations) (ho : g.Opened) :
    ∃ g' ∈ f'.generations, g'.epoch = g.epoch ∧ g'.Opened ∧
      g'.session = g.session.map fun s => (event.frame? g.epoch).elim s (s.hear f.now) := by
  have hr := (partwise_idles.conducted may).respond depth
  obtain ⟨s, hgs⟩ := Option.isSome_iff_exists.1 ho.session
  by_cases hloop : Event.task? event = some (.loop g.epoch)
  case neg =>
    -- Others leave its session alone.
    obtain ⟨g', hg', hge, hl, hsession⟩ := kept_of_step? hf hs hg hloop
    refine ⟨g', hg', hge, ⟨hl ▸ ho.loop, hsession ▸ ho.session⟩, ?_⟩
    rw [hsession, hgs, frame?_eq_none hloop]
    rfl
  -- It is the turn of its read loop.
  obtain ⟨g', hg', haged⟩ :=
    ((stepped_of_step? hf hs).onward (orderly_respond may depth) hf).generations g hg
  have hrank : 2 ≤ g'.loop.rank := Nat.le_trans ho.loop haged.loop
  suffices hsession : g'.session = some ((event.frame? g.epoch).elim s (s.hear f.now)) from
    ⟨g', hg', haged.epoch, ⟨hrank, by rw [hsession]; rfl⟩, by rw [hsession, hgs]; rfl⟩
  cases event with
  | run task wake =>
    obtain rfl : task = .loop g.epoch := Option.some.inj hloop
    obtain ⟨k, hk, hke, -, ht⟩ := loopTurn_of_step? hf hs
    obtain rfl := hf.eq_of_epoch_eq hk hg hke
    have hpast := ho.loop
    have hturn := hf.setCurrentLoop hk fun hw => by simp [hw, LoopPhase.rank] at hpast
    have hkept : ∀ {phase i}, i ∈ (f.setLoop k.epoch phase).generations → i.epoch = k.epoch →
        i.session = some s := by
      intro phase i hi hie
      obtain ⟨j, hj, hje, rfl⟩ := exists_of_mem_changeGeneration hi hie
      rw [hf.eq_of_epoch_eq hj hk hje]
      exact hgs
    cases ht with
    | began h => simp [h, LoopPhase.rank] at hpast
    | opened h => simp [h, LoopPhase.rank] at hpast
    | left h =>
      rcases h with h | ⟨deadline, h⟩ <;> simp [h, LoopPhase.rank] at hpast
    | received h hframe =>
      have hnew := (session_loopFrame hr hframe hturn hk rfl hgs hg' haged.epoch).1
      simpa [Event.frame?] using hnew
    | @failed wake error h =>
      rw [(session_failed hr hturn hk rfl hg' haged.epoch).1, hgs]
      cases wake with
      | frame frame => simp [Event.frame?, Session.hear_of_failure? h]
      | _ => rfl
    | closing => exact hkept hg' haged.epoch
    | closed => exact hkept hg' haged.epoch
    | panicked => exact hkept hg' haged.epoch
  | _ => exact absurd hloop (by simp [Event.task?])

/-- After a run, the session of a read loop has taken over the interval of the last of its
heartbeats that asked for one, and it has counted its messages. -/
lemma session_of_run? {events : List Event} (hf : f.WellFormed Conduct.free)
    (hs : f.run? depth events = some f') (hg : g ∈ f.generations) (ho : g.Opened) :
    ∃ g' ∈ f'.generations, g'.epoch = g.epoch ∧ g'.Opened ∧
      g'.session.map (fun s => (s.interval, s.frames)) = g.session.map fun s =>
        let frames := events.filterMap (Event.frame? g.epoch)
        ((frames.filterMap Inbound.interval?).getLast?.getD s.interval,
          s.frames + frames.countP Inbound.isText) := by
  induction events generalizing f g with
  | nil =>
    obtain rfl := Option.some.inj hs
    exact ⟨g, hg, rfl, ho, rfl⟩
  | cons event rest ih =>
    obtain ⟨f₁, h₁, hrest⟩ := Option.bind_eq_some_iff.1 hs
    obtain ⟨g₁, hg₁, he₁, ho₁, hs₁⟩ := session_of_step? hf h₁ hg ho
    obtain ⟨g', hg', he', ho', hs'⟩ := ih (wellFormed_step hf event.keeps_free h₁) hrest hg₁ ho₁
    refine ⟨g', hg', he'.trans he₁, ho', ?_⟩
    obtain ⟨s, hgs⟩ := Option.isSome_iff_exists.1 ho.session
    rw [hs', hs₁, hgs, he₁]
    cases hframe : event.frame? g.epoch with
    | none => simp [hframe]
    | some frame =>
      simp only [Option.map_some, Option.elim_some, Session.interval_hear, Session.frames_hear,
        List.filterMap_cons, hframe, List.countP_cons]
      cases hi : frame.interval? <;> simp [List.getLast?_cons] <;> omega

/-- Read loops that read have opened their session. -/
def Tuned (f : Feed) : Prop :=
  ∀ g ∈ f.generations, g.loop.isReading = true → g.Opened

/-- Every step leaves it so. -/
lemma Tuned.step (h : f.Tuned) (hf : f.WellFormed may) (hs : f.step? depth event = some f') :
    f'.Tuned := by
  have hr := (partwise_idles.conducted may).respond depth
  rcases spares_of_step? hf hs with ⟨now, rfl, -, rfl⟩ | hsp
  · exact h
  intro g' hg' hread
  refine ⟨by revert hread; cases g'.loop <;> simp [LoopPhase.isReading, LoopPhase.rank], ?_⟩
  rcases hsp.generations g' hg' with ⟨g, hg, hge, hkept, -⟩ | ⟨-, hu⟩
  case inr => simp [hu.loop, LoopPhase.isReading] at hread
  by_cases hloop : Event.task? event = some (.loop g'.epoch)
  case neg =>
    obtain ⟨hphase, hsession⟩ := hkept hloop
    rw [hsession]
    exact (h g hg (hphase ▸ hread)).session
  cases event with
  | run task wake =>
    obtain rfl : task = .loop g'.epoch := Option.some.inj hloop
    obtain ⟨k, hk, hke, -, ht⟩ := loopTurn_of_step? hf hs
    obtain rfl := hf.eq_of_epoch_eq hk hg (hke.trans hge.symm)
    rw [← hge] at ht
    have hturn : ∀ hw : k.loop ≠ .waiting,
        { f with current := some (.loop k.epoch) }.WellFormed may := hf.setCurrentLoop hk
    have hgone : ∀ {phase : LoopPhase} {j : Feed}, phase.isReading = false →
        g' ∈ (j.setLoop k.epoch phase).generations → g'.session.isSome = true := by
      intro phase j hphase hmem
      obtain ⟨i, -, -, rfl⟩ := exists_of_mem_changeGeneration hmem hge.symm
      exact absurd (hread.symm.trans hphase) (by simp)
    cases ht with
    | opened hl socket =>
      obtain ⟨s, hs, -⟩ := session_loopConnected hr (hturn (by simp [hl])) (hf.epoch_le hk) hg'
        hge.symm
      rw [hs]
      rfl
    | received hl hframe =>
      have hopen := h k hk (by simp [hl, LoopPhase.isReading])
      obtain ⟨s, hks⟩ := Option.isSome_iff_exists.1 hopen.session
      rw [(session_loopFrame hr hframe (hturn (by simp [hl])) hk rfl hks hg' hge.symm).1]
      rfl
    | @failed _ error hfail =>
      have hw : k.loop ≠ .waiting := by
        intro hw
        simp [Generation.failure?, hw] at hfail
      have hfin := (session_failed hr (hturn hw) hk rfl hg' hge.symm).2.1
      simp [hfin, LoopPhase.isReading] at hread
    | _ => exact hgone rfl hg'
  | _ => exact absurd hloop (by simp [Event.task?])

/-- So it is in every feed that is reached. -/
lemma Reachable.tuned (hr : Reachable depth anyEvent f) : f.Tuned := by
  have h : f.WellFormed Conduct.free ∧ f.Tuned := by
    refine hr.invariant Tuned (fun _ event _ => event.keeps_free) ?_
      fun _ _ _ hw _ h hs => h.step hw hs
    intro settings refreshable f₀ h₀
    obtain ⟨request, rfl⟩ := eq_of_ofSettings h₀
    exact fun g hg => absurd hg (by simp)
  exact h.2

/-! ### What becomes of frames -/

/-- A frame that does not end the connection leaves the read loop reading, and it is still its
turn. -/
lemma reads_on {frame : Inbound} (hframe : ∀ info, frame ≠ .close info)
    (hf : f.WellFormed may) (ht : f.Tuned) (hg : g ∈ f.generations)
    (hread : g.loop.isReading = true)
    (hs : f.step? depth (.run (.loop g.epoch) (.frame frame)) = some f') :
    f'.current = some (.loop g.epoch) ∧
      ∃ g' ∈ f'.generations, g'.epoch = g.epoch ∧ g'.loop.isReading = true := by
  have hstep := stepped_of_step? hf hs
  refine ⟨hstep.current_eq (orderly_respond may depth) hf, ?_⟩
  obtain ⟨g', hg', haged⟩ := (hstep.onward (orderly_respond may depth) hf).generations g hg
  refine ⟨g', hg', haged.epoch, ?_⟩
  obtain ⟨k, hk, hke, -, hturn⟩ := loopTurn_of_step? hf hs
  obtain rfl := hf.eq_of_epoch_eq hk hg hke
  cases hturn with
  | received h =>
    obtain ⟨s, hks⟩ := Option.isSome_iff_exists.1 (ht k hk hread).session
    rw [(session_loopFrame ((partwise_idles.conducted may).respond depth) hframe
      (hf.setCurrentLoop hk (by simp [h])) hk rfl hks hg' haged.epoch).2.1]
    rfl
  | failed h =>
    cases frame with
    | close info => exact absurd rfl (hframe info)
    | _ => cases hl : k.loop <;> simp [Generation.failure?, hl] at h

/-- A read loop that reads takes in any number of frames that do not end the connection. -/
lemma isSome_run?_frames {frames : List Inbound} (hr : Reachable depth anyEvent f)
    (hg : g ∈ f.generations) (hread : g.loop.isReading = true)
    (hrun : g.loopAborted = false ∨ f.current = some (.loop g.epoch))
    (hframes : ∀ frame ∈ frames, ∀ info, frame ≠ .close info) :
    (f.run? depth
      (frames.map fun frame => .run (.loop g.epoch) (.frame frame))).isSome = true := by
  induction frames generalizing f g with
  | nil => rfl
  | cons frame rest ih =>
    have hf := hr.assembled.1
    obtain ⟨f₁, h₁⟩ := Option.isSome_iff_exists.1
      ((isSome_step?_frame_iff hf hg depth frame).2 ⟨hread, hrun⟩)
    obtain ⟨hturn, g₁, hg₁, he₁, hread₁⟩ :=
      reads_on (hframes frame List.mem_cons_self) hf hr.tuned hg hread h₁
    have hrest := ih (hr.step trivial h₁) hg₁ hread₁ (.inr (he₁ ▸ hturn))
      fun i hi => hframes i (List.mem_cons_of_mem _ hi)
    rw [he₁] at hrest
    unfold run? at hrest ⊢
    rw [List.map_cons, List.foldlM_cons, h₁]
    exact hrest

/-- From `f` to `g` the read loop of an epoch has done nothing but to wait for the next frame of its
socket; its session has changed, and lines have been written to the log. -/
def Rearmed (e socket : Nat) (change : Session → Session) (f g : Feed) : Prop :=
  ∃ interval deadline lines, (∀ entry ∈ lines, ∃ line, entry.fact = .logged line) ∧
    g = { f with
      current := some (.loop e)
      journal := lines ++ f.journal
      generations := f.generations.map fun k =>
        if k.epoch = e then
          { k with loop := .reading socket interval deadline, session := k.session.map change }
        else k }

/-- Waiting for the next frame is nothing else, once lines have been written to the log. -/
lemma rearmed_awaitFrame (e socket : Nat) (change : Session → Session) (lines : List Entry)
    (hlines : ∀ entry ∈ lines, ∃ line, entry.fact = .logged line) (f : Feed) :
    f.Rearmed e socket change
      ({ f.changeSession e change with
        current := some (.loop e)
        journal := lines ++ f.journal }.awaitFrame e socket) := by
  let k : Feed := { f.changeSession e change with
    current := some (.loop e)
    journal := lines ++ f.journal }
  let interval := ((k.sessionOf? e).map Session.interval).getD k.settings.heartbeatInterval
  refine ⟨interval, k.after interval, lines, hlines, ?_⟩
  have hgen : (k.awaitFrame e socket).generations = f.generations.map fun k' =>
      if k'.epoch = e then
        { k' with
          loop := .reading socket interval (k.after interval)
          session := k'.session.map change }
      else k' := by
    unfold awaitFrame setLoop changeGeneration
    dsimp only [k, changeSession, changeGeneration]
    rw [List.map_map]
    refine List.map_congr_left fun k' _ => ?_
    by_cases hk' : k'.epoch = e
    · simp only [Function.comp_apply, if_pos hk']
      rfl
    · simp only [Function.comp_apply, if_neg hk']
  rw [← hgen]
  rfl

/-- A message that is no frame changes the count of the session alone. -/
lemma rearmed_malformed {respond : Respond} {e : Nat} (socket : Nat) {raw : String}
    {error : FrameError} (h : Envelope.classify raw = .error error) (f : Feed) :
    f.Rearmed e socket Session.recordFrame
      ({ f with current := some (.loop e) }.loopFrame respond e socket (.text raw)) := by
  unfold loopFrame dispatch
  simp only [h]
  exact rearmed_awaitFrame e socket Session.recordFrame [_] (by simp) f

/-- Other frames that do not end the connection change nothing. -/
lemma rearmed_other {respond : Respond} {e : Nat} (socket : Nat) {frame : Inbound}
    (hframe : ∀ info, frame ≠ .close info) (htext : frame.isText = false) (f : Feed) :
    f.Rearmed e socket id
      ({ f with current := some (.loop e) }.loopFrame respond e socket frame) := by
  cases frame with
  | text raw => exact absurd htext (by simp [Inbound.isText])
  | close info => exact absurd rfl (hframe info)
  | binary bytes =>
    have hnext := rearmed_awaitFrame e socket id [⟨f.now, .logged ⟨.warn,
      "Ignoring unexpected binary frame",
      [epochField e, ("len", toString bytes.length)], none⟩⟩] (by simp) f
    rwa [changeSession_id] at hnext
  | _ =>
    have hnext := rearmed_awaitFrame e socket id [] (by simp) f
    rwa [changeSession_id] at hnext

/-- Wherever a feed has got, a read loop that reads has opened its session, and as long as it may
run it takes in any number of frames that do not end the connection. After any run, whatever else
has happened in it, the news of its frames and of the callers have been taken in: the events have
been published in their order and each once, and whoever has been registered throughout has been
told of those of its topic in that order; the last stream id and the last key of the programs are
remembered, and the refresh hook is called once for each time that programs changed; and a session
holds the last interval that its own frames asked for. A frame that is not read changes nothing but
the count of the session, and one that is no message changes nothing at all, other than the log and
how long the next frame is waited for. A call of the refresh hook changes nothing, even if it
fails. -/
theorem frames_taken_in (hr : Reachable depth anyEvent f) :
    (∀ g ∈ f.generations, g.loop.isReading = true → g.Opened ∧
      (g.loopAborted = false ∨ f.current = some (.loop g.epoch) → ∀ frames : List Inbound,
        (∀ frame ∈ frames, ∀ info, frame ≠ .close info) →
          (f.run? depth
            (frames.map fun frame => .run (.loop g.epoch) (.frame frame))).isSome = true)) ∧
    (∀ events f', f.run? depth events = some f' →
      TakesIn (events.flatMap Event.news) f f' ∧
      ∀ g ∈ f.generations, g.Opened →
        ∃ g' ∈ f'.generations, g'.epoch = g.epoch ∧ g'.Opened ∧
          g'.session.map (fun s => (s.interval, s.frames)) = g.session.map fun s =>
            let frames := events.filterMap (Event.frame? g.epoch)
            ((frames.filterMap Inbound.interval?).getLast?.getD s.interval,
              s.frames + frames.countP Inbound.isText)) ∧
    (∀ e frame f', f.step? depth (.run (.loop e) (.frame frame)) = some f' →
      (∀ info, frame ≠ .close info) →
      ∃ g ∈ f.generations, ∃ socket interval deadline,
        g.epoch = e ∧ g.loop = .reading socket interval deadline ∧
        (frame.isText = false → f.Rearmed e socket id f') ∧
        ∀ raw error, frame = .text raw → Envelope.classify raw = .error error →
          f.Rearmed e socket Session.recordFrame f') ∧
    ∀ n error f', f.step? depth (.run (.refresh n) (.refreshed error)) = some f' →
      f' = { f with
        current := some (.refresh n)
        refreshes := f.refreshes.set n true
        journal := f'.journal } := by
  obtain ⟨hf, hassembled⟩ := hr.assembled
  refine ⟨fun g hg hread => ⟨hr.tuned g hg hread, fun hrun frames hframes =>
      isSome_run?_frames hr hg hread hrun hframes⟩,
    fun events f' hs => ⟨takesIn_of_run? hr hs, fun g hg ho => session_of_run? hf hs hg ho⟩,
    fun e frame f' hs hframe => ?_, fun n error f' hs => ?_⟩
  · obtain ⟨g, hg, rfl, -, ht⟩ := loopTurn_of_step? hf hs
    cases ht with
    | @received socket interval deadline h =>
      refine ⟨g, hg, socket, interval, deadline, rfl, h, fun htext => ?_, ?_⟩
      · exact rearmed_other socket hframe htext f
      · rintro raw error rfl hraw
        exact rearmed_malformed socket hraw f
    | failed h =>
      cases frame with
      | close info => exact absurd rfl (hframe info)
      | _ => cases hl : g.loop <;> simp [Generation.failure?, hl] at h
  · simp only [step?, runTask, stepRefresh] at hs
    split at hs
    case isFalse => exact absurd hs (by simp)
    split at hs
    case isFalse => exact absurd hs (by simp)
    obtain rfl := Option.some.inj hs
    cases error <;> rfl

/-- Of two subscribers one wants to be told of variables alone, and panics. A controller gives its
stream id and asks for a heartbeat within five seconds, sends a message that is no frame, announces
a variable and a node, and says twice that programs changed. -/
theorem frames_taken_in_instances :
    ∃ f f' : Feed, Reachable 1 anyEvent f ∧ f.streamId = none ∧ f.programKey = none ∧
      f.Attends (some .variableUpdate) 0 ∧ f.Attends none 1 ∧
      (∃ g ∈ f.generations, g.loop.isReading = true ∧ g.Opened) ∧
      ∃ frames : List Inbound,
        f.run? 1 (frames.map fun frame => .run (.loop 1) (.frame frame)) = some f' ∧
        f'.routed.map (fun e => (e.topic, e.envelope.seqnum)) =
          [(.nodeStatus, some "3"), (.variableUpdate, some "2")] ∧
        (f'.delivered 0).map (fun e => e.envelope.seqnum) = [some "2"] ∧
        (f'.delivered 1).map (fun e => e.envelope.seqnum) = [some "3", some "2"] ∧
        (f'.streamId, f'.programKey, f'.refreshes.length) = (some "b", some "P", 2) ∧
        ∃ g' ∈ f'.generations, g'.session.map (fun s => (s.interval, s.frames)) =
          some (.ofSeconds 5, 6) := by
  let frames : List Inbound :=
    [.text "<Event sid=\"a\"><control>_0</control><action>5</action></Event>", .text "<Event",
      .text "<Event seqnum=\"2\"><control>_1</control><eventInfo><var/></eventInfo></Event>",
      .ping, .binary [0],
      .text "<Event seqnum=\"3\" sid=\"b\"><control>ST</control></Event>",
      .text "<Event><control>_1</control><action>7</action><node>P</node></Event>",
      .text "<Event><control>_1</control><action>0</action></Event>"]
  let before : List Event :=
    [.call (.subscribe (.events (some .variableUpdate)) "v" fun _ => [.panic "no"]),
      .call (.subscribe (.events none) "all" fun _ => []),
      .call (.start 0), .run (.loop 1) .first, .run (.loop 1) (.connected 0)]
  let after : List Event := frames.map fun frame => .run (.loop 1) (.frame frame)
  have hplay : ∃ f₀ ∈ (ofSettings .standard true).toOption, ∃ f ∈ f₀.run? 1 before,
      ∃ f' ∈ f.run? 1 after,
        (decide ((f.streamId, f.programKey, f.refreshable, f.refreshes.length) =
            (none, none, true, 0)) &&
          decide ((f.routed, f.delivered 0, f.delivered 1) = ([], [], [])) &&
          decide (f.generations.map (fun g => (g.epoch, g.loop.isReading)) = [(1, true)]) &&
          decide (f.generations.map (fun g => g.session.map fun s => (s.interval, s.frames)) =
            [some (.ofSeconds 30, 0)]) &&
          decide (f.Attends (some .variableUpdate) 0 ∧ f.Attends none 1 ∧
            f'.Attends (some .variableUpdate) 0 ∧ f'.Attends none 1)) = true := by decide +kernel
  have hnews :
      (((after.flatMap Event.news).filterMap News.event?).map
          (fun e => (e.topic, e.envelope.seqnum)) =
            [(.variableUpdate, some "2"), (.nodeStatus, some "3")] ∧
        (((after.flatMap Event.news).filterMap News.event?).filter fun e =>
          e.isFor (some .variableUpdate)).map (fun e => e.envelope.seqnum) = [some "2"] ∧
        (((after.flatMap Event.news).filterMap News.event?).filter fun e =>
          e.isFor none).map (fun e => e.envelope.seqnum) = [some "2", some "3"]) ∧
      ((after.flatMap Event.news).filterMap News.streamId?).getLast? = some "b" ∧
      ((after.flatMap Event.news).filterMap News.programKey?).getLast? = some "P" ∧
      (after.flatMap Event.news).count .refresh = 2 ∧
      ((after.filterMap (Event.frame? 1)).filterMap Inbound.interval?).getLast? =
        some (.ofSeconds 5) ∧
      (after.filterMap (Event.frame? 1)).countP Inbound.isText = 6 := by decide +kernel
  obtain ⟨⟨hevents, hvariables, hevery⟩, hlastId, hlastKey, hasked, hinterval, htexts⟩ := hnews
  obtain ⟨f₀, h₀, f, hf, f', hf', hview⟩ := hplay
  simp only [Bool.and_eq_true, decide_eq_true_eq, Prod.mk.injEq] at hview
  obtain ⟨⟨⟨⟨⟨hid, hkey, hrefreshable, hcount⟩, hrouted, hheard₀, hheard₁⟩, hgens⟩, hsessions⟩,
    hv, hall, hv', hall'⟩ := hview
  have hr : Reachable 1 anyEvent f :=
    ⟨.standard, true, f₀, eq_ok_of_toOption h₀, .of_run? hf fun _ _ _ => trivial⟩
  obtain ⟨hreading, hruns, -⟩ := frames_taken_in hr
  obtain ⟨htakes, hsession⟩ := hruns after f' hf'
  obtain ⟨g, hgens, hview⟩ := List.map_eq_singleton_iff.1 hgens
  obtain ⟨hepoch, hread⟩ := Prod.mk.inj hview
  have hg : g ∈ f.generations := by simp [hgens]
  have hopened := (hreading g hg hread).1
  obtain ⟨g', hg', -, -, hg's⟩ := hsession g hg hopened
  rw [hgens, List.map_singleton, List.singleton_inj] at hsessions
  refine ⟨f, f', hr, hid, hkey, hv, hall, ⟨g, hg, hread, hopened⟩, frames, hf', ?_, ?_, ?_, ?_,
    g', hg', ?_⟩
  · rw [htakes.routed, hrouted, List.append_nil, List.map_reverse, hevents]
    rfl
  · rw [htakes.delivered hv hv', hheard₀, List.append_nil, List.map_reverse, hvariables]
    rfl
  · rw [htakes.delivered hall hall', hheard₁, List.append_nil, List.map_reverse, hevery]
    rfl
  · rw [htakes.streamId, htakes.programKey, htakes.refreshes, hlastId, hlastKey, hcount,
      hrefreshable, hasked]
    rfl
  · obtain ⟨s, hs, hsv⟩ := Option.map_eq_some_iff.1 hsessions
    obtain ⟨-, hzero⟩ := Prod.mk.inj hsv
    rw [hg's, hs, hepoch, Option.map_some]
    dsimp only
    rw [hinterval, htexts, hzero]
    rfl

end Feed

end EventFeed
