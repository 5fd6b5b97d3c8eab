import Bindery.Value.Basic

/-!
Contract: timed phases of a run, and the state that records them.

Owns:
- `Phase`, a timed phase with the phases inside it;
- `Recording`, the recording: whether it is on, the readings of the timer, and the phases that are
  open, innermost first;
- opening and closing. A root phase belongs to no other; a child belongs to the innermost open
  phase. Each phase takes one reading when it opens and one when it closes.

Readings are in units of 1/1024 of a second.
-/

namespace Bindery

/-- A timed phase. An unfinished one has no end. -/
inductive Phase where
  | mk (name : String) (started : Int) (finished : Option Int) (notes : Entries)
      (children : List Phase)
deriving Repr, BEq, Inhabited

namespace Phase

def name : Phase → String
  | mk name .. => name

def started : Phase → Int
  | mk _ started .. => started

def finished : Phase → Option Int
  | mk _ _ finished .. => finished

def notes : Phase → Entries
  | mk _ _ _ notes _ => notes

/-- The phases inside a phase, in the order of their start. -/
def children : Phase → List Phase
  | mk _ _ _ _ children => children

def unitsPerSecond : Nat := 1024

def millisecondsPerSecond : Nat := 1000

def seconds (reading : Int) : Number.Binary64 :=
  .ofFraction reading unitsPerSecond

/-- The milliseconds between two readings, with two places. Readings in seconds are doubles, so a
short time between late readings may get lost. -/
def milliseconds (started finished : Int) : Number.Binary64 :=
  (((seconds finished).minus (seconds started)).times millisecondsPerSecond).rounded 2

/-- The rounded duration of a phase; an unfinished one has taken no time yet. -/
def duration (phase : Phase) : Number.Binary64 :=
  match phase.finished with
  | none => .ofInt 0
  | some finished => milliseconds phase.started finished

mutual

def toValue : Phase → Value
  | mk name started finished notes children =>
      let noteEntry : Entries := if notes.isEmpty then [] else [("annotations", .map notes)]
      let childEntry : Entries :=
        if children.isEmpty then [] else [("children", .list (toValues children))]
      let ownDuration := duration (mk name started finished [] [])
      .map ([("name", .str name), ("duration_ms", .float ownDuration)] ++ noteEntry ++ childEntry)

def toValues : List Phase → List Value
  | [] => []
  | phase :: rest => phase.toValue :: toValues rest

end

end Phase

/-- A phase that is open: its closed children are in order. -/
structure OpenPhase where
  name : String
  started : Int
  isRoot : Bool
  notes : Entries
  children : List Phase
deriving Repr, BEq

def OpenPhase.toPhase (phase : OpenPhase) (finished : Option Int) : Phase :=
  .mk phase.name phase.started finished phase.notes phase.children

structure Recording where
  enabled : Bool
  timer : Nat → Int
  taken : Nat
  active : List OpenPhase

namespace Recording

def start (enabled : Bool) (timer : Nat → Int) : Recording :=
  ⟨enabled, timer, 0, []⟩

def reading (recording : Recording) : Int :=
  recording.timer recording.taken

def push (recording : Recording) (name : String) (isRoot : Bool) : Recording :=
  { recording with
    taken := recording.taken + 1
    active := ⟨name, recording.reading, isRoot, [], []⟩ :: recording.active }

/-- Gives a closed phase to the phase around it. -/
def adopt (phase : Phase) : List OpenPhase → List OpenPhase
  | [] => []
  | outer :: rest => { outer with children := outer.children ++ [phase] } :: rest

def pop (recording : Recording) : Option Phase × Recording :=
  match recording.active with
  | [] => (none, recording)
  | inner :: rest =>
      let phase := inner.toPhase (some recording.reading)
      (some phase, { recording with
        taken := recording.taken + 1
        active := if inner.isRoot then rest else adopt phase rest })

/-- Whether a phase that opens now is recorded as a child. -/
def recordsChildren (recording : Recording) : Bool :=
  recording.enabled && !recording.active.isEmpty

def annotate (recording : Recording) (key : String) (value : Value) : Recording :=
  match recording.active with
  | [] => recording
  | inner :: rest =>
      { recording with active := { inner with notes := inner.notes.set key value } :: rest }

end Recording

end Bindery
