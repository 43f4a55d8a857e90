import Mathlib.Tactic.Lemma
import EventFeed.Emitter.Board

/-!
# Delivery to a snapshot

A listener may do anything to the state that its emitter is part of, while a value is being
delivered: remove itself or others, register further listeners, publish again, or panic. A pass over
listeners is therefore described by the turns of the listeners, each with the state that it found
and the state that it left. `Visit.Follows` says what a turn comes to, and `Pass` puts turns one
after the other. Whatever the listeners do, the turns are those of the listeners that were
registered when the value was published, and a publication in the midst of a turn is a pass of its
own, over the listeners of the state that it finds.

Listeners are numbered when they are registered, and they stand in the order of their numbers. On a
board, where listeners follow scripts, this is kept by publications to every depth, so that no
listener gets two turns in one pass.
-/

namespace EventFeed

variable {σ β α : Type}

/-! ### One listener after the other -/

/-- What comes of offering a value to a listener. -/
inductive Outcome where
  | refused
  | filterPanicked (message : String)
  | completed
  | handlerPanicked (message : String)
  deriving DecidableEq, Repr

/-- The handler has been run, to completion or up to a panic. -/
def Outcome.ran : Outcome → Bool
  | completed | handlerPanicked _ => true
  | refused | filterPanicked _ => false

/-- The turn of a listener: the state that it finds, what comes of it, and the state that
it leaves. -/
structure Visit (σ β : Type) where
  listener : Listener β
  before : σ
  outcome : Outcome
  after : σ

/-- A listener is asked by its filter whether it wants the value, and its handler is run if it does.
A panic of the one or of the other is reported, and that is all that comes of it. -/
inductive Visit.Follows (r : Reaction σ β α) (value : α) : Visit σ β → Prop
  | refused {l : Listener β} {s t : σ} (h : r.accepts l.what value s = (.refused, t)) :
      Follows r value ⟨l, s, .refused, t⟩
  | filterPanicked {l : Listener β} {s t : σ} {message : String}
      (h : r.accepts l.what value s = (.panicked message, t)) :
      Follows r value ⟨l, s, .filterPanicked message, r.report l.id message t⟩
  | completed {l : Listener β} {s t u : σ} (h : r.accepts l.what value s = (.accepted, t))
      (hrun : r.handle l.what value t = (.completed, u)) :
      Follows r value ⟨l, s, .completed, u⟩
  | handlerPanicked {l : Listener β} {s t u : σ} {message : String}
      (h : r.accepts l.what value s = (.accepted, t))
      (hrun : r.handle l.what value t = (.panicked message, u)) :
      Follows r value ⟨l, s, .handlerPanicked message, r.report l.id message u⟩

/-- Turns follow one another from one state to another. -/
inductive Pass (r : Reaction σ β α) (value : α) : σ → List (Visit σ β) → σ → Prop
  | done (s : σ) : Pass r value s [] s
  | next {v : Visit σ β} {rest : List (Visit σ β)} {t : σ} (hv : v.Follows r value)
      (hrest : Pass r value v.after rest t) : Pass r value v.before (v :: rest) t

/-- A handler is run if and only if the filter accepts the value in the state that it finds. -/
lemma Visit.Follows.ran_iff {r : Reaction σ β α} {value : α} {v : Visit σ β}
    (hv : v.Follows r value) :
    v.outcome.ran = true ↔ (r.accepts v.listener.what value v.before).1 = .accepted := by
  cases hv with
  | refused h => simp [h, Outcome.ran]
  | filterPanicked h => simp [h, Outcome.ran]
  | completed h => simp [h, Outcome.ran]
  | handlerPanicked h => simp [h, Outcome.ran]

/-- An offer to a listener is its turn. -/
lemma Reaction.exists_visit (r : Reaction σ β α) (value : α) (l : Listener β) (s : σ) :
    ∃ v : Visit σ β, v.Follows r value ∧ v.listener = l ∧ v.before = s ∧
      r.offer value l s = (decide (v.outcome = .completed), v.after) := by
  unfold offer
  split
  · next t h => exact ⟨_, .refused h, rfl, rfl, by simp⟩
  · next message t h => exact ⟨_, .filterPanicked h, rfl, rfl, by simp⟩
  · next t h =>
    split
    · next u hrun => exact ⟨_, .completed h hrun, rfl, rfl, by simp⟩
    · next message u hrun => exact ⟨_, .handlerPanicked h hrun, rfl, rfl, by simp⟩

/-- Offers to listeners are a pass over them, and count the handlers that run to completion. -/
lemma Reaction.exists_pass (r : Reaction σ β α) (value : α) (listeners : List (Listener β))
    (s : σ) :
    ∃ visits : List (Visit σ β), Pass r value s visits (r.offerAll value listeners s).2 ∧
      visits.map Visit.listener = listeners ∧
      (r.offerAll value listeners s).1 = visits.countP fun v => v.outcome = .completed := by
  induction listeners generalizing s with
  | nil => exact ⟨[], .done s, rfl, rfl⟩
  | cons l rest ih =>
    obtain ⟨v, hv, rfl, rfl, he⟩ := r.exists_visit value l s
    obtain ⟨visits, hpass, hall, hcount⟩ := ih v.after
    unfold offerAll
    rw [he]
    refine ⟨v :: visits, .next hv hpass, by rw [List.map_cons, hall], ?_⟩
    rw [List.countP_cons, ← hcount, Nat.add_comm]

/-- A pass is made of turns that each come to what they may come to. -/
lemma Pass.follows {r : Reaction σ β α} {value : α} {s t : σ} {visits : List (Visit σ β)}
    (h : Pass r value s visits t) : ∀ v ∈ visits, v.Follows r value := by
  induction h with
  | done => exact fun v hv => absurd hv List.not_mem_nil
  | next hv _ ih =>
    intro v hmem
    rcases List.mem_cons.1 hmem with rfl | hmem
    · exact hv
    · exact ih v hmem

/-- Where filters look at nothing but the value, handlers are run of exactly those listeners whose
filters accept it. -/
lemma Pass.listeners_ran {r : Reaction σ β α} {value : α} {s t : σ} {visits : List (Visit σ β)}
    (h : Pass r value s visits t) (judge : β → Verdict)
    (hj : ∀ what s, (r.accepts what value s).1 = judge what) :
    (visits.filter fun v => v.outcome.ran).map Visit.listener =
      (visits.map Visit.listener).filter fun l => judge l.what = .accepted := by
  rw [List.filter_map]
  refine congrArg _ (List.filter_congr fun v hv => ?_)
  have hran := (h.follows v hv).ran_iff
  rw [hj] at hran
  exact Bool.eq_iff_iff.2 (hran.trans decide_eq_true_iff.symm)

/-- What filters, handlers and reports of panics keep is kept by every turn. -/
lemma Visit.Follows.keeps {r : Reaction σ β α} {value : α} {P : σ → Prop}
    (accepts : ∀ what s, P s → P (r.accepts what value s).2)
    (handle : ∀ what s, P s → P (r.handle what value s).2)
    (report : ∀ id message s, P s → P (r.report id message s)) {v : Visit σ β}
    (hv : v.Follows r value) (hs : P v.before) : P v.after := by
  have haccepts := accepts v.listener.what v.before hs
  cases hv with
  | refused h => rwa [h] at haccepts
  | filterPanicked h =>
    rw [h] at haccepts
    exact report _ _ _ haccepts
  | @completed l s t u h hrun =>
    rw [h] at haccepts
    have hhandle := handle l.what t haccepts
    rwa [hrun] at hhandle
  | @handlerPanicked l s t u message h hrun =>
    rw [h] at haccepts
    have hhandle := handle l.what t haccepts
    rw [hrun] at hhandle
    exact report _ _ _ hhandle

/-- What every turn keeps holds throughout a pass. -/
lemma Pass.keeps {r : Reaction σ β α} {value : α} {P : σ → Prop} {s t : σ}
    {visits : List (Visit σ β)} (h : Pass r value s visits t)
    (hturn : ∀ v : Visit σ β, v.Follows r value → P v.before → P v.after) (hs : P s) :
    P t ∧ ∀ v ∈ visits, P v.before ∧ P v.after := by
  induction h with
  | done => exact ⟨hs, fun v hv => absurd hv List.not_mem_nil⟩
  | @next v rest t hv _ ih =>
    have hafter := hturn v hv hs
    obtain ⟨ht, hrest⟩ := ih hafter
    refine ⟨ht, fun w hw => ?_⟩
    rcases List.mem_cons.1 hw with rfl | hw
    · exact ⟨hs, hafter⟩
    · exact hrest w hw

/-! ### The order of registration -/

namespace Emitter

variable {emitter : Emitter β}

/-- Listeners stand in the order in which they were registered, and there is no number that is yet
to be given among theirs. -/
structure InOrder (emitter : Emitter β) : Prop where
  sorted : emitter.listeners.Pairwise fun l k => l.id < k.id
  fresh : ∀ l ∈ emitter.listeners, l.id < emitter.nextId

/-- An emitter without listeners is in order. -/
lemma InOrder.of_empty (h : emitter.listeners = []) : emitter.InOrder := by
  constructor <;> simp [h]

/-- A listener that is registered comes after all others. -/
lemma InOrder.subscribe (h : emitter.InOrder) (what : β) : (emitter.subscribe what).2.InOrder where
  sorted := by
    refine List.pairwise_append.2 ⟨h.sorted, List.pairwise_singleton _ _, fun l hl k hk => ?_⟩
    rw [List.mem_singleton.1 hk]
    exact h.fresh l hl
  fresh l hl := by
    rcases List.mem_append.1 hl with hl | hl
    · exact Nat.lt_succ_of_lt (h.fresh l hl)
    · rw [List.mem_singleton.1 hl]
      exact Nat.lt_succ_self _

/-- Listeners that stay when one is removed keep their order. -/
lemma InOrder.unsubscribe (h : emitter.InOrder) (handle : Handle) :
    (emitter.unsubscribe handle).2.InOrder := by
  unfold Emitter.unsubscribe
  split
  · exact ⟨h.sorted.filter _, fun l hl => h.fresh l (List.mem_filter.1 hl).1⟩
  · exact h

end Emitter

/-! ### Boards -/

namespace Board

variable {board : Board}

/-- A board to which emitters have been added and names for them, with whose emitters listeners have
been registered and removed. What has been noted is of no account. -/
inductive Built : Board → Prop
  | empty : Built {}
  | create {board : Board} (h : Built board) (name : String) : Built (board.create name)
  | aliased {board other : Board} {first second : String} (h : Built board)
      (ha : board.alias? first second = some other) : Built other
  | subscribe {board : Board} (h : Built board) (place : Nat) (script : Script) :
      Built (board.subscribe place script)
  | unsubscribe {board : Board} (h : Built board) (place : Nat) (name : String) :
      Built (board.unsubscribe place name).2
  | noted {board : Board} (h : Built board) (notes : List BoardNote) (log : List LogLine) :
      Built { board with notes, log }

/-- An emitter of a board may change as long as it is in order. -/
lemma emitterAt_set_inOrder {other : Board} {place : Nat} {emitter : Emitter Script}
    (h : ∀ i, (board.emitterAt i).InOrder) (hem : emitter.InOrder)
    (he : other.emitters = board.emitters.set place emitter) (i : Nat) :
    (other.emitterAt i).InOrder := by
  have hi := h i
  unfold emitterAt at hi ⊢
  rw [he, List.getD_eq_getElem?_getD, List.getElem?_set]
  split
  · split
    · exact hem
    · exact .of_empty rfl
  · rwa [← List.getD_eq_getElem?_getD]

/-- A new emitter is in order. -/
lemma emitterAt_create_inOrder (h : ∀ i, (board.emitterAt i).InOrder) (name : String) (i : Nat) :
    ((board.create name).emitterAt i).InOrder := by
  have hi := h i
  unfold Board.create emitterAt at *
  dsimp only
  rw [List.getD_eq_getElem?_getD] at hi ⊢
  rw [List.getElem?_append]
  split
  · exact hi
  · cases hg : ([{ id := board.emitters.length + 1 }] : List (Emitter Script))[i - _]? with
    | none => exact .of_empty rfl
    | some emitter =>
      rw [List.mem_singleton.1 (List.mem_of_getElem? hg)]
      exact .of_empty rfl

/-- In a board that has been built the listeners of every emitter stand in the order of their
registration. -/
lemma Built.inOrder (h : Built board) (place : Nat) : (board.emitterAt place).InOrder := by
  induction h generalizing place with
  | empty => exact .of_empty rfl
  | create _ name ih => exact emitterAt_create_inOrder ih name place
  | aliased _ ha ih =>
    obtain ⟨_, -, rfl⟩ := Option.map_eq_some_iff.1 ha
    exact ih place
  | subscribe _ at_ script ih =>
    exact emitterAt_set_inOrder ih ((ih at_).subscribe script) rfl place
  | @unsubscribe board _ at_ name ih =>
    unfold Board.unsubscribe
    split
    · exact ih place
    · next handle _ => exact emitterAt_set_inOrder ih ((ih at_).unsubscribe handle) rfl place
  | noted _ notes log ih => exact ih place

section Scripts

variable {publish : Nat → Int → Board → Nat × Board}
variable (hpub : ∀ place value board, Built board → Built (publish place value board).2)

include hpub

/-- An action goes on building the board if publications do. -/
lemma Built.act (h : Built board) (action : ScriptAction) (value : Int) :
    Built (act publish action value board).2 := by
  have hnested : ∀ place next, Built ((publish place next board).2.note
      (.delivered (publish place next board).1)) :=
    fun place next => (hpub place next board h).noted _ _
  unfold Board.act
  dsimp only
  split
  · exact h
  cases action with
  | subscribe only emitter name filter actions =>
    dsimp only
    split
    · exact h
    · exact h.subscribe _ _
  | unsubscribe only emitter name =>
    dsimp only
    split
    · exact h
    · exact (h.unsubscribe _ _).noted _ _
  | publish only emitter next =>
    dsimp only
    split
    · exact h
    · exact hnested _ _
  | publishLess only emitter =>
    dsimp only
    split
    · split
      · exact h
      · exact hnested _ _
    · exact h
  | panic only message => exact h

/-- So do several actions. -/
lemma Built.actAll (h : Built board) (value : Int) (actions : List ScriptAction) :
    Built (actAll publish value actions board).2 := by
  induction actions generalizing board with
  | nil => exact h
  | cons action rest ih =>
    have hact := h.act hpub action value
    unfold Board.actAll
    split
    · next heq => rw [heq] at hact; exact ih hact
    · next heq => rwa [heq] at hact

/-- So does the turn of a listener. -/
lemma Built.visit {value : Int} (v : Visit Board Script) (hv : v.Follows (reaction publish) value)
    (h : Built v.before) : Built v.after :=
  hv.keeps (fun _ _ hb => hb)
    (fun script b hb => (hb.noted (.called script.name value :: b.notes) b.log).actAll hpub value
      script.actions)
    (fun _ _ _ hb => hb.noted _ _) h

end Scripts

/-- Publications go on building the board, however deep they are nested. -/
lemma Built.publish (h : Built board) (depth place : Nat) (value : Int) :
    Built (board.publish depth place value).2 := by
  -- One level further down, publications are the ones that listeners call for.
  induction depth generalizing board place value with
  | zero => exact h
  | succ depth ih =>
    obtain ⟨visits, hpass, -, -⟩ := (reaction (Board.publish depth)).exists_pass value
      (board.emitterAt place).listeners board
    exact (hpass.keeps (Built.visit fun place value _ hb => ih hb place value) h).1

end Board

/-! ### Publications -/

/-- A value is delivered to a snapshot. Whatever filters and handlers do to the state around an
emitter, a publication is a pass of turns over the listeners that were registered when the value was
published, in the order in which they stood. A handler is run if its filter accepts the value in the
state that it finds, a panic is reported and the next listener has its turn, and what is returned is
the number of handlers that ran to completion.

On a board listeners register and remove each other and publish again, to any depth. There the
listeners of a pass are numbered in the order of their turns, so none has two; handlers are run of
exactly those whose filters accept the value; and every state on the way is again a board that has
been built, so a publication in the midst of a turn is such a pass over the listeners of that
state. -/
theorem publish_delivers :
    (∀ {σ β α : Type} (view : σ → Emitter β) (r : Reaction σ β α) (value : α) (s : σ),
      ∃ visits : List (Visit σ β),
        Pass r value s visits (Emitter.publish view r value s).2 ∧
        visits.map Visit.listener = (view s).listeners ∧
        (∀ v ∈ visits, v.outcome.ran = true ↔
          (r.accepts v.listener.what value v.before).1 = .accepted) ∧
        (Emitter.publish view r value s).1 = visits.countP fun v => v.outcome = .completed) ∧
    ∀ (board : Board) (depth place : Nat) (value : Int), board.Built →
      ∃ visits : List (Visit Board Script),
        Pass (Board.reaction (Board.publish depth)) value board visits
          (board.publish (depth + 1) place value).2 ∧
        visits.map Visit.listener = (board.emitterAt place).listeners ∧
        visits.Pairwise (fun v w => v.listener.id < w.listener.id) ∧
        (visits.filter fun v => v.outcome.ran).map Visit.listener =
          (board.emitterAt place).listeners.filter
            (fun l => Board.judge l.what.filter value = .accepted) ∧
        (board.publish (depth + 1) place value).1 =
          visits.countP (fun v => v.outcome = .completed) ∧
        ∀ v ∈ visits, v.before.Built ∧ v.after.Built := by
  constructor
  · intro σ β α view r value s
    obtain ⟨visits, hpass, hall, hcount⟩ := r.exists_pass value (view s).listeners s
    exact ⟨visits, hpass, hall, fun v hv => (hpass.follows v hv).ran_iff, hcount⟩
  · intro board depth place value hb
    obtain ⟨visits, hpass, hall, hcount⟩ :=
      (Board.reaction (Board.publish depth)).exists_pass value (board.emitterAt place).listeners
        board
    refine ⟨visits, hpass, hall, ?_, ?_, hcount, ?_⟩
    · have hsorted := (hb.inOrder place).sorted
      rwa [← hall, List.pairwise_map] at hsorted
    · have hran := hpass.listeners_ran (fun script => Board.judge script.filter value)
        fun _ _ => rfl
      rwa [hall] at hran
    · exact (hpass.keeps
        (Board.Built.visit fun place value _ hb => hb.publish depth place value) hb).2

/-- Of four listeners, the first one removes itself, registers a fifth one and publishes again, the
second one panics, and the third one wants nothing. The fifth one has a turn in the pass that is
nested in the first turn, and none in the pass that is under way. -/
theorem publish_delivers_instances :
    ∃ (board : Board) (visits : List (Visit Board Script)), board.Built ∧
      Pass (Board.reaction (Board.publish 1)) 1 board visits (board.publish 2 0 1).2 ∧
      visits.map (fun v => v.listener.what.name) = ["first", "second", "third", "fourth"] ∧
      (visits.filter fun v => v.outcome.ran).map (fun v => v.listener.what.name) =
        ["first", "second", "fourth"] ∧
      (board.publish 2 0 1).1 = 2 ∧
      (board.publish 2 0 1).2.notes.reverse =
        [.called "first" 1, .unsubscribed "first" (some true), .called "second" 0,
          .called "fourth" 0, .called "fifth" 0, .delivered 2, .called "second" 1,
          .called "fourth" 1] := by
  let scripts : List Script :=
    [⟨"first", none, [.unsubscribe none "a" "first", .subscribe none "a" "fifth" none [],
        .publishLess none "a"]⟩,
      ⟨"second", none, [.panic none fun _ => "failure"]⟩, ⟨"third", some .never, []⟩,
      ⟨"fourth", none, []⟩]
  let board : Board := scripts.foldl (fun b script => b.subscribe 0 script) (({} : Board).create "a")
  have hbuilt : board.Built :=
    ((((Board.Built.empty.create "a").subscribe 0 _).subscribe 0 _).subscribe 0 _).subscribe 0 _
  obtain ⟨visits, hpass, hall, -, hran, -⟩ := publish_delivers.2 board 1 0 1 hbuilt
  have hnames := congrArg (List.map fun l => l.what.name) hall
  have hcalled := congrArg (List.map fun l => l.what.name) hran
  rw [List.map_map] at hnames hcalled
  exact ⟨board, visits, hbuilt, hpass, hnames, hcalled, by decide +kernel, by decide +kernel⟩

end EventFeed
