import EventFeed.Emitter
import EventFeed.Log

/-!
# Boards

A board holds emitters of whole numbers under names, and listeners that follow a script: a filter,
and actions that register and remove listeners, publish again, or panic. Several names may stand for
one emitter. Everything that happens is noted in the order in which it happens.

Listeners may publish from within a publication; `depth` bounds how deep publications are nested.
-/

namespace EventFeed

/-- Which values a scripted listener wants. -/
inductive ScriptFilter where
  | remainder (modulus rest : Int)
  | below (limit : Int)
  | never
  | panic
  deriving DecidableEq, Repr

/-- What a scripted listener does, one action after the other; an action may wait for one value. -/
inductive ScriptAction where
  | subscribe (only : Option Int) (emitter name : String) (filter : Option ScriptFilter)
      (actions : List ScriptAction)
  | unsubscribe (only : Option Int) (emitter name : String)
  | publish (only : Option Int) (emitter : String) (value : Int)
  /-- Publish one less, as long as the value is positive. -/
  | publishLess (only : Option Int) (emitter : String)
  | panic (only : Option Int) (message : Int → String)

/-- The value that an action waits for. -/
def ScriptAction.only? : ScriptAction → Option Int
  | subscribe only _ _ _ _ => only
  | unsubscribe only _ _ => only
  | publish only _ _ => only
  | publishLess only _ => only
  | panic only _ => only

/-- A scripted listener. -/
structure Script where
  name : String
  filter : Option ScriptFilter
  actions : List ScriptAction

/-- What is noted about the listeners of a board. -/
inductive BoardNote where
  | called (name : String) (value : Int)
  | unsubscribed (name : String) (removed : Option Bool)
  | delivered (count : Nat)
  deriving DecidableEq, Repr

/-- Named emitters of whole numbers. -/
structure Board where
  emitters : List (Emitter Script) := []
  /-- The places of emitters in the list, under their names. -/
  names : List (String × Nat) := []
  handles : List (String × Handle) := []
  /-- What happened, the latest first. -/
  notes : List BoardNote := []
  log : List LogLine := []

namespace Board

/-- The emitter of a place. -/
def emitterAt (board : Board) (place : Nat) : Emitter Script :=
  board.emitters.getD place { id := 0 }

/-- The place of an emitter. -/
def place? (board : Board) (name : String) : Option Nat :=
  board.names.lookup name

/-- Make a new emitter under a name. -/
def create (board : Board) (name : String) : Board :=
  { board with
    emitters := board.emitters ++ [{ id := board.emitters.length + 1 }]
    names := (name, board.emitters.length) :: board.names }

/-- Give the emitter of one name another name as well. -/
def alias? (board : Board) (name other : String) : Option Board :=
  (board.place? name).map fun place => { board with names := (other, place) :: board.names }

/-- Register a scripted listener with the emitter of a place. -/
def subscribe (board : Board) (place : Nat) (script : Script) : Board :=
  let (handle, emitter) := (board.emitterAt place).subscribe script
  { board with
    emitters := board.emitters.set place emitter
    handles := (script.name, handle) :: board.handles }

/-- Remove the listener that was registered last under a name; none when there never was one. -/
def unsubscribe (board : Board) (place : Nat) (name : String) : Option Bool × Board :=
  match board.handles.lookup name with
  | none => (none, board)
  | some handle =>
    let (removed, emitter) := (board.emitterAt place).unsubscribe handle
    (some removed, { board with emitters := board.emitters.set place emitter })

/-- Whether two names stand for the same registration. -/
def same (board : Board) (first second : String) : Bool :=
  board.handles.lookup first = board.handles.lookup second

/-- Add a note. -/
def note (board : Board) (n : BoardNote) : Board :=
  { board with notes := n :: board.notes }

/-- What a filter says about a value. -/
def judge : Option ScriptFilter → Int → Verdict
  | none, _ => .accepted
  | some (.remainder modulus rest), value =>
    if value.emod modulus = rest then .accepted else .refused
  | some (.below limit), value => if value < limit then .accepted else .refused
  | some .never, _ => .refused
  | some .panic, _ => .panicked "filter failure"

/-- Do one action of a listener that was called with `value`, given how values are published. -/
def act (publish : Nat → Int → Board → Nat × Board) (action : ScriptAction) (value : Int)
    (board : Board) : Completion × Board :=
  let publishAndNote (emitter : String) (next : Int) :=
    match board.place? emitter with
    | none => (.completed, board)
    | some place =>
      let (count, board) := publish place next board
      (.completed, board.note (.delivered count))
  if action.only?.any (· != value) then (.completed, board)
  else match action with
    | .subscribe _ emitter name filter actions =>
      match board.place? emitter with
      | none => (.completed, board)
      | some place => (.completed, board.subscribe place { name, filter, actions })
    | .unsubscribe _ emitter name =>
      match board.place? emitter with
      | none => (.completed, board)
      | some place =>
        let (removed, board) := board.unsubscribe place name
        (.completed, board.note (.unsubscribed name removed))
    | .publish _ emitter next => publishAndNote emitter next
    | .publishLess _ emitter =>
      if 0 < value then publishAndNote emitter (value - 1) else (.completed, board)
    | .panic _ message => (.panicked (message value), board)

/-- Do the actions of a listener, up to the first panic. -/
def actAll (publish : Nat → Int → Board → Nat × Board) (value : Int) :
    List ScriptAction → Board → Completion × Board
  | [], board => (.completed, board)
  | action :: rest, board =>
    match act publish action value board with
    | (.completed, board) => actAll publish value rest board
    | (.panicked message, board) => (.panicked message, board)

/-- What scripted listeners do, given how values are published. -/
def reaction (publish : Nat → Int → Board → Nat × Board) : Reaction Board Script Int where
  accepts script value board := (judge script.filter value, board)
  handle script value board :=
    actAll publish value script.actions (board.note (.called script.name value))
  report listener message board :=
    { board with log := LogLine.panicked listener message :: board.log }

/-- Publish a value on the emitter of a place; publications are nested at most `depth` deep. -/
def publish : Nat → Nat → Int → Board → Nat × Board
  | 0, _, _, board => (0, board)
  | depth + 1, place, value, board =>
    Emitter.publish (·.emitterAt place) (reaction (publish depth)) value board

end Board

end EventFeed
