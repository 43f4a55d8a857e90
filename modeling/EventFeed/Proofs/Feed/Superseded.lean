import EventFeed.Proofs.Feed.Passing

/-!
# Read loops of earlier generations

An operation that is not refused ends the epoch and with it every generation that exists, whether a
caller asks for it or a subscriber while it is being told. What becomes of the read loop of such a
generation depends on where the operation comes from. A read loop that is aborted while it waits
takes no further step. One that is aborted in its own turn, by a subscriber that answers an event
which the loop publishes, goes on until it waits again; and one that a disconnect waits for is not
aborted at all but asked to shut down. While such a loop reads, it can shut down at once, and if a
frame has arrived it can as well take in that frame: nothing in its way looks at the epoch.

So the read loop of an earlier generation takes in frames exactly as long as it has not waited since
its turn or a disconnect waits for it, and from when it begins to close its socket it never does.
-/

namespace EventFeed

/-- A read loop waits for frames. -/
def LoopPhase.isReading : LoopPhase → Bool
  | .reading _ _ _ => true
  | _ => false

/-- The operation that a subscriber performs with a command, whatever it has done before. -/
def Command.operation? : Command → Option Operation
  | .start _ => some .start
  | .stop => some .stop
  | .reconnect _ _ => some .reconnect
  | .disconnect => some .disconnect
  | _ => none

namespace Feed

variable {may : Conduct} {respond : Respond} {f f' g : Feed}

/-! ### Operations end generations -/

/-- An operation that a subscriber performs and that is not refused ends the epoch. -/
lemma lt_epoch_obey {depth n : Nat} {c : Command} {operation : Operation} (hf : f.WellFormed may)
    (ho : c.operation? = some operation) (ha : f.Accepts operation) :
    f.epoch < (f.obey (Feed.respond depth) n c).2.epoch := by
  have hr := ((conducted_passes may).respond depth).and
  cases c with
  | start retries =>
    obtain ⟨hi, hc⟩ := ha (Option.some.inj ho).symm
    exact lt_epoch_startWhere hr.2 (fun f => f.status ≠ .connected) retries hf hi
      (by simpa using hc)
  | stop => exact lt_epoch_stop hr.1 hf
  | reconnect delay retries =>
    have hadd : (f.addReconnect delay retries).2.WellFormed may := hf.appendReconnect hf.claim rfl
    exact lt_epoch_beginReconnect hr.1 _ _ hadd
  | disconnect => exact lt_epoch_beginDisconnect hr.1 _ hf.addDisconnect
  | _ => exact absurd ho (by simp [Command.operation?])

/-- An operation that a caller performs leaves the turn to none of the read loops. -/
lemma operation?_ne_loop {event : Event} {operation : Operation}
    (ho : f.operation? event = some operation) (e : Nat) : Event.task? event ≠ some (.loop e) := by
  intro ht
  cases event with
  | run task wake =>
    obtain rfl := Option.some.inj ht
    exact absurd ho (by simp [Feed.operation?])
  | _ => exact absurd ht (by simp [Event.task?])

/-! ### Read loops that have had their last turn -/

/-- The read loop of an epoch has had its last turn: it is aborted or at its end, and it has waited
since it ran. -/
def Retired (f : Feed) (e : Nat) : Prop :=
  f.current ≠ some (.loop e) ∧
    ∃ g ∈ f.generations, g.epoch = e ∧ (g.loopAborted = true ∨ g.loop = .finished)

/-- A read loop at its end takes no step. -/
lemma stepLoop_finished {g : Generation} (h : g.loop = .finished) (wake : Wake) :
    f.stepLoop respond g wake = none := by
  cases wake <;> simp [stepLoop, h]

/-- A read loop that has had its last turn takes no step. -/
lemma Retired.step?_eq_none {e : Nat} (h : f.Retired e) (hf : f.WellFormed may) (depth : Nat)
    (wake : Wake) : f.step? depth (.run (.loop e) wake) = none := by
  obtain ⟨hcur, g, hg, rfl, hend⟩ := h
  have hgen := hf.generation?_eq_some_iff.2 ⟨hg, rfl⟩
  by_cases hab : g.loopAborted = true
  · simp [step?, runTask, mayRun, isAborted, hgen, hab, hcur]
  · have hfin := hend.resolve_left hab
    have hgen' : { f with current := some (.loop g.epoch) }.generation? g.epoch = some g := hgen
    simp [step?, runTask, hgen', stepLoop_finished hfin]

/-- A read loop that has had its last turn has no other one. -/
lemma Retired.step {e depth : Nat} {event : Event} (h : f.Retired e) (hf : f.WellFormed may)
    (hs : f.step? depth event = some f') : f'.Retired e := by
  have hresp := orderly_respond may depth
  have hstep := stepped_of_step? hf hs
  refine ⟨?_, ?_⟩
  · rw [hstep.current_eq hresp hf]
    intro ht
    cases event with
    | run task wake =>
      obtain rfl : task = .loop e := Option.some.inj ht
      rw [h.step?_eq_none hf depth wake] at hs
      exact absurd hs (by simp)
    | _ => exact absurd ht (by simp [Event.task?])
  · obtain ⟨-, g, hg, rfl, hend⟩ := h
    obtain ⟨g', hg', haged⟩ := (hstep.onward hresp hf).generations g hg
    refine ⟨g', hg', haged.epoch, hend.imp haged.loopAborted fun hfin => ?_⟩
    have hrank := haged.loop
    rw [hfin] at hrank
    exact LoopPhase.eq_finished hrank

/-- It has none in all that may come. -/
lemma Retired.reaches {e depth : Nat} (h : f.Retired e) (hf : f.WellFormed Conduct.free)
    (hr : Reaches depth anyEvent f f') : f'.WellFormed Conduct.free ∧ f'.Retired e :=
  hr.invariant (Retired · e) hf h (fun _ event _ => event.keeps_free)
    fun _ _ _ hg _ hi hs => hi.step hg hs

/-- The read loop of an earlier generation has had its last turn, unless it is its turn or a
disconnect waits for it. -/
lemma WellFormed.retired (hf : f.WellFormed may) {k : Generation} (hk : k ∈ f.generations)
    (hlt : k.epoch < f.epoch) (hc : f.current ≠ some (.loop k.epoch)) (hj : ¬ f.Joined k.epoch) :
    f.Retired k.epoch := by
  have hslot : f.slot ≠ some k.epoch := fun hs => Nat.ne_of_lt hlt (hf.slot _ hs).1
  refine ⟨hc, k, hk, rfl, ?_⟩
  rcases (hf.released k hk hslot).loop with h | h | h
  · exact .inl h
  · exact .inr h
  · exact absurd h hj

/-! ### Read loops that read -/

/-- A read loop takes in a frame if it reads, and is not aborted or has not waited since. -/
lemma isSome_step?_frame_iff (hf : f.WellFormed may) {k : Generation} (hk : k ∈ f.generations)
    (depth : Nat) (frame : Inbound) :
    (f.step? depth (.run (.loop k.epoch) (.frame frame))).isSome = true ↔
      k.loop.isReading = true ∧ (k.loopAborted = false ∨ f.current = some (.loop k.epoch)) := by
  have hgen := hf.generation?_eq_some_iff.2 ⟨hk, rfl⟩
  have hgen' : { f with current := some (.loop k.epoch) }.generation? k.epoch = some k := hgen
  by_cases hrun : k.loopAborted = false ∨ f.current = some (.loop k.epoch)
  · have hmay : f.mayRun (.loop k.epoch) = true := by simpa [mayRun, isAborted, hgen] using hrun
    cases hl : k.loop <;>
      simp [step?, runTask, hmay, hgen', stepLoop, hl, LoopPhase.isReading, hrun]
  · have hmay : f.mayRun (.loop k.epoch) = false := by
      simpa [mayRun, isAborted, hgen, not_or] using hrun
    simp [step?, runTask, hmay, hrun]

/-- A read loop that is past reading takes in no frame. -/
lemma step?_frame_eq_none (hf : f.WellFormed may) {k : Generation} (hk : k ∈ f.generations)
    (hl : 3 ≤ k.loop.rank) (depth : Nat) (frame : Inbound) :
    f.step? depth (.run (.loop k.epoch) (.frame frame)) = none := by
  rw [← Option.not_isSome_iff_eq_none, isSome_step?_frame_iff hf hk]
  rintro ⟨hread, -⟩
  cases hp : k.loop <;> simp_all [LoopPhase.isReading, LoopPhase.rank]

/-- A read loop that has been asked to shut down can do so while it reads, and begins to close its
socket. -/
lemma step?_shutdown (hf : f.WellFormed may) {k : Generation} (hk : k ∈ f.generations)
    (hs : k.signalled = true) (hread : k.loop.isReading = true)
    (hrun : k.loopAborted = false ∨ f.current = some (.loop k.epoch)) (depth : Nat) :
    ∃ f' k', f.step? depth (.run (.loop k.epoch) .shutdown) = some f' ∧
      k' ∈ f'.generations ∧ k'.epoch = k.epoch ∧ 3 ≤ k'.loop.rank := by
  have hgen := hf.generation?_eq_some_iff.2 ⟨hk, rfl⟩
  have hgen' : { f with current := some (.loop k.epoch) }.generation? k.epoch = some k := hgen
  have hmay : f.mayRun (.loop k.epoch) = true := by simpa [mayRun, isAborted, hgen] using hrun
  cases hl : k.loop with
  | reading socket interval deadline =>
    refine ⟨{ f with current := some (.loop k.epoch) }.beginClose k.epoch socket,
      { k with loop := .closing socket }, ?_, ?_, rfl, Nat.le_refl _⟩
    · simp only [step?, runTask, hmay, if_true, hgen', Option.bind_some, stepLoop, hs, hl]
    · exact List.mem_map.2 ⟨k, hk, by simp⟩
  | _ => rw [hl] at hread; exact absurd hread (by simp [LoopPhase.isReading])

/-! ### What becomes of them -/

/-- An operation that is not refused ends every generation that there is, whether a caller performs
it or a subscriber. After an operation of a caller, read loops of those generations take no further
step, but for one that a disconnect waits for. As for a read loop of an earlier generation at any
time: it takes in a frame if and only if it reads, and either a disconnect waits for it or it has
not waited since it was aborted in its own turn. It has been asked to shut down, so it can do that
just as well, and from then on it takes in no frame. Once it has waited it takes no further step,
unless a disconnect waits for it. -/
theorem superseded_loops {depth : Nat} :
    (∀ {f f' : Feed} {event : Event} {operation : Operation}, Reachable depth anyEvent f →
      f.step? depth event = some f' → f.operation? event = some operation →
      f.Accepts operation → ∀ g ∈ f.generations, g.epoch < f'.epoch ∧
        (¬ f'.Joined g.epoch → ∀ {f'' : Feed}, Reaches depth anyEvent f' f'' →
          ∀ wake, f''.step? depth (.run (.loop g.epoch) wake) = none)) ∧
    (∀ {f : Feed} {n : Nat} {c : Command} {operation : Operation}, f.WellFormed Conduct.free →
      c.operation? = some operation → f.Accepts operation →
      ∀ g ∈ f.generations, g.epoch < (f.obey (Feed.respond depth) n c).2.epoch) ∧
    ∀ {f : Feed} {g : Generation}, Reachable depth anyEvent f → g ∈ f.generations →
      g.epoch < f.epoch →
      (∀ frame, (f.step? depth (.run (.loop g.epoch) (.frame frame))).isSome = true ↔
        g.loop.isReading = true ∧
          (g.loopAborted = false ∧ f.Joined g.epoch ∨ f.current = some (.loop g.epoch))) ∧
      (g.loop.isReading = true →
        g.loopAborted = false ∨ f.current = some (.loop g.epoch) →
        ∃ f', f.step? depth (.run (.loop g.epoch) .shutdown) = some f' ∧
          ∀ {f'' : Feed}, Reaches depth anyEvent f' f'' →
            ∀ frame, f''.step? depth (.run (.loop g.epoch) (.frame frame)) = none) ∧
      (f.current ≠ some (.loop g.epoch) → ¬ f.Joined g.epoch →
        ∀ {f' : Feed}, Reaches depth anyEvent f f' →
          ∀ wake, f'.step? depth (.run (.loop g.epoch) wake) = none) := by
  have hfree : ∀ {k : Feed}, Reachable depth anyEvent k → k.WellFormed Conduct.free :=
    fun hr => hr.wellFormed fun _ event _ => event.keeps_free
  refine ⟨fun {f f' event operation} hr hs ho ha g hg => ?_, fun hf ho ha g hg => ?_,
    fun {f g} hr hg hlt => ⟨fun frame => ?_, fun hread hrun => ?_, fun hc hj f' hreach wake => ?_⟩⟩
  · have hf := hfree hr
    have hresp := orderly_respond Conduct.free depth
    have hstep := stepped_of_step? hf hs
    have hf' := hstep.upkeep hresp hf event.keeps_free
    have hlt := Nat.lt_of_le_of_lt (hf.epoch_le hg) (hstep.lt_epoch hf ho ha)
    refine ⟨hlt, fun hj f'' hreach wake => ?_⟩
    obtain ⟨g', hg', haged⟩ := (hstep.onward hresp hf).generations g hg
    have hc : f'.current ≠ some (.loop g.epoch) := by
      rw [hstep.current_eq hresp hf]
      exact operation?_ne_loop ho _
    rw [← haged.epoch] at hlt hc hj ⊢
    obtain ⟨hf'', hret⟩ := (hf'.retired hg' hlt hc hj).reaches hf' hreach
    exact hret.step?_eq_none hf'' depth wake
  · exact Nat.lt_of_le_of_lt (hf.epoch_le hg) (lt_epoch_obey hf ho ha)
  · have hf := hfree hr
    have hslot : f.slot ≠ some g.epoch := fun hs => Nat.ne_of_lt hlt (hf.slot _ hs).1
    rw [isSome_step?_frame_iff hf hg]
    refine and_congr_right fun hread => or_congr_left ?_
    refine ⟨fun hab => ⟨hab, ?_⟩, And.left⟩
    rcases (hf.released g hg hslot).loop with h | h | h
    · exact absurd (hab.symm.trans h) (by simp)
    · exact absurd hread (by simp [h, LoopPhase.isReading])
    · exact h
  · have hf := hfree hr
    have hslot : f.slot ≠ some g.epoch := fun hs => Nat.ne_of_lt hlt (hf.slot _ hs).1
    obtain ⟨f', k, hs, hk, hke, hrank⟩ :=
      step?_shutdown hf hg (hf.released g hg hslot).signalled hread hrun depth
    refine ⟨f', hs, fun {f''} hreach frame => ?_⟩
    have hf' := hfree (hr.step trivial hs)
    obtain ⟨hf'', honward⟩ := hreach.onward hf' fun _ event _ => event.keeps_free
    obtain ⟨k', hk', haged⟩ := honward.generations k hk
    rw [← hke, ← haged.epoch]
    exact step?_frame_eq_none hf'' hk' (Nat.le_trans hrank haged.loop) depth frame
  · obtain ⟨hf', hret⟩ := ((hfree hr).retired hg hlt hc hj).reaches (hfree hr) hreach
    exact hret.step?_eq_none hf' depth wake

/-- A feed that is connected and that a caller stops: its read loop takes no further step. And one
that a subscriber stops when it is told of an event: the read loop has published that event in its
own turn, and it can take in another frame or shut down. -/
theorem superseded_loops_instances :
    (∃ f f' : Feed, f.step? 1 (.call .stop) = some f' ∧ ∃ g ∈ f.generations,
      g.loop.isReading = true ∧ g.epoch < f'.epoch ∧
      g.epoch < (f.obey (Feed.respond 1) 0 .stop).2.epoch ∧
      ∀ {f'' : Feed}, Reaches 1 anyEvent f' f'' →
        ∀ wake, f''.step? 1 (.run (.loop g.epoch) wake) = none) ∧
    ∃ f : Feed, f.status = .stopUpdates ∧ ∃ g ∈ f.generations, g.epoch < f.epoch ∧
      g.loopAborted = true ∧
      (∀ frame, (f.step? 1 (.run (.loop g.epoch) (.frame frame))).isSome = true) ∧
      ∃ f', f.step? 1 (.run (.loop g.epoch) .shutdown) = some f' ∧
        ∀ {f'' : Feed}, Reaches 1 anyEvent f' f'' →
          ∀ frame, f''.step? 1 (.run (.loop g.epoch) (.frame frame)) = none := by
  let connect : List Event :=
    [.call (.start 0), .run (.loop 1) .first, .run (.loop 1) (.connected 0)]
  constructor
  · have hplay : ((played? 1 connect).bind fun f =>
        (f.step? 1 (.call .stop)).map fun f' =>
          (f'.disconnects, decide (∃ g ∈ f.generations, g.loop.isReading = true))) =
        some ([], true) := by decide +kernel
    obtain ⟨f, hf, hplay⟩ := Option.bind_eq_some_iff.1 hplay
    obtain ⟨f', hs, hview⟩ := Option.map_eq_some_iff.1 hplay
    obtain ⟨hno, g, hg, hread⟩ : f'.disconnects = [] ∧
        ∃ g ∈ f.generations, g.loop.isReading = true := by
      simpa only [Prod.mk.injEq, decide_eq_true_eq] using hview
    have hr : Reachable 1 anyEvent f := .of_played? hf fun _ _ _ => trivial
    have hw : f.WellFormed Conduct.free := hr.wellFormed fun _ event _ => event.keeps_free
    have hj : ¬ f'.Joined g.epoch := by
      rintro ⟨n, d, t, hd, -⟩
      simp [hno] at hd
    obtain ⟨hcall, hanswer, -⟩ := @superseded_loops 1
    obtain ⟨hlt, hlast⟩ := hcall hr hs rfl (by simp [Accepts]) g hg
    exact ⟨f, f', hs, g, hg, hread, hlt, hanswer hw rfl (by simp [Accepts]) g hg, hlast hj⟩
  · let stops : Handler := fun _ => [.stop]
    let published : Event := .run (.loop 1)
      (.frame (.text "<Event sid=\"a\"><control>ST</control></Event>"))
    let events : List Event :=
      .call (.subscribe (.events none) "stops" stops) :: connect ++ [published]
    have hplay : (played? 1 events).map (fun f => (f.status, decide (∃ g ∈ f.generations,
        g.epoch < f.epoch ∧ g.loopAborted = true ∧ g.loop.isReading = true ∧
          f.current = some (.loop g.epoch)))) = some (.stopUpdates, true) := by decide +kernel
    obtain ⟨f, hf, hview⟩ := Option.map_eq_some_iff.1 hplay
    obtain ⟨hstatus, g, hg, hlt, hab, hread, hcur⟩ : f.status = .stopUpdates ∧
        ∃ g ∈ f.generations, g.epoch < f.epoch ∧ g.loopAborted = true ∧
          g.loop.isReading = true ∧ f.current = some (.loop g.epoch) := by
      simpa only [Prod.mk.injEq, decide_eq_true_eq] using hview
    have hr : Reachable 1 anyEvent f := .of_played? hf fun _ _ _ => trivial
    obtain ⟨hframe, hshut, -⟩ := (@superseded_loops 1).2.2 hr hg hlt
    exact ⟨f, hstatus, g, hg, hlt, hab, fun frame => (hframe frame).2 ⟨hread, .inr hcur⟩,
      hshut hread (.inr hcur)⟩

/-- A feed that has been stopped by a subscriber when it was told of an event. Its read loop takes
in the next frame all the same: it publishes another event and takes over another stream id. -/
theorem superseded_loop_dispatches :
    ∃ f f' : Feed, Reachable 1 anyEvent f ∧ f.status = .stopUpdates ∧
      (∃ g ∈ f.generations, g.epoch = 1 ∧ g.epoch < f.epoch) ∧
      f.step? 1 (.run (.loop 1)
        (.frame (.text "<Event sid=\"b\"><control>ST</control></Event>"))) = some f' ∧
      f.routed.length = 1 ∧ f'.routed.length = 2 ∧
      f.streamId = some "a" ∧ f'.streamId = some "b" := by
  let stops : Handler := fun _ => [.stop]
  let events : List Event :=
    [.call (.subscribe (.events none) "stops" stops), .call (.start 0), .run (.loop 1) .first,
      .run (.loop 1) (.connected 0),
      .run (.loop 1) (.frame (.text "<Event sid=\"a\"><control>ST</control></Event>"))]
  have hplay : ((played? 1 events).bind fun f =>
      (f.step? 1 (.run (.loop 1)
        (.frame (.text "<Event sid=\"b\"><control>ST</control></Event>")))).map fun f' =>
          (f.status, decide (∃ g ∈ f.generations, g.epoch = 1 ∧ g.epoch < f.epoch),
            (f.routed.length, f'.routed.length), (f.streamId, f'.streamId))) =
      some (.stopUpdates, true, (1, 2), (some "a", some "b")) := by decide +kernel
  obtain ⟨f, hf, hplay⟩ := Option.bind_eq_some_iff.1 hplay
  obtain ⟨f', hs, hview⟩ := Option.map_eq_some_iff.1 hplay
  simp only [Prod.mk.injEq, decide_eq_true_eq] at hview
  obtain ⟨hstatus, hgen, ⟨hold, hnew⟩, hid, hid'⟩ := hview
  exact ⟨f, f', .of_played? hf fun _ _ _ => trivial, hstatus, hgen, hs, hold, hnew, hid, hid'⟩

end Feed

end EventFeed
