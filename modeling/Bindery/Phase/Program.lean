import Bindery.Phase

/-!
Contract: programs that open, annotate and close phases, and their meaning.

Owns:
- `Instruction`, the steps of a program: switching the recording, a phase around a body, a note on
  the current phase, failing and recovering, and a call that is recorded as a root phase;
- `run`, which answers the notes that a program leaves.

A phase around a body has no span while nothing is recorded, and then its body has no current phase.
The body of a recorded call always works on the innermost open phase.
-/

namespace Bindery.Phase

/-- What a recorded call returns: a result, whose record is added to its notes, or a value. -/
inductive Returned where
  | result (record : Option Entries)
  | plain (value : Value)
deriving Repr, BEq

inductive Instruction where
  | enable
  | disable
  | phase (name : String) (body : List Instruction)
  | annotate (key : String) (value : Value)
  | dump
  | fail (message : String)
  | attempt (body : List Instruction)
  | call (name : String) (body : List Instruction) (returns : Returned)
deriving Repr

inductive Note where
  | entered (name : String) (recorded : Bool)
  | dumped (phase : Option Phase)
  | caught (message : String)
  | returned (value : Value)
  | escaped (message : String)
deriving Repr, BEq

/-- The recording and the log so far. -/
structure Playback where
  recording : Recording
  notes : List Note

/-- A step of a program: it answers, or fails with a message. -/
abbrev Step := Playback → Except String Unit × Playback

def Playback.note (playback : Playback) (note : Note) : Playback :=
  { playback with notes := playback.notes ++ [note] }

def Playback.close (playback : Playback) : Option Phase × Playback :=
  let (phase, recording) := playback.recording.pop
  (phase, { playback with recording := recording })

/-- The record of a call's result, to which the tree of its phases is added. -/
def Returned.recorded (returns : Returned) (phase : Option Phase) : Value :=
  match returns with
  | .plain value => value
  | .result record =>
      match phase with
      | none => (record.map Value.map).getD .null
      | some tree => .map ((record.getD []).set "telemetry" tree.toValue)

mutual

/-- The meaning of an instruction; `hasCurrent` tells whether its body works on the innermost open
phase or on none. -/
def perform (hasCurrent : Bool) : Instruction → Step
  | .enable, playback =>
      (.ok (), { playback with recording := { playback.recording with enabled := true } })
  | .disable, playback =>
      (.ok (), { playback with recording := { playback.recording with enabled := false } })
  | .phase name body, playback =>
      if playback.recording.recordsChildren then
        let opened := { playback with recording := playback.recording.push name false }
        let (outcome, inside) := performAll true body (opened.note (.entered name true))
        (outcome, inside.close.2)
      else performAll false body (playback.note (.entered name false))
  | .annotate key value, playback =>
      if hasCurrent then
        (.ok (), { playback with recording := playback.recording.annotate key value })
      else (.ok (), playback)
  | .dump, playback =>
      let current :=
        if hasCurrent then playback.recording.active.head?.map (·.toPhase none) else none
      (.ok (), playback.note (.dumped current))
  | .fail message, playback => (.error message, playback)
  | .attempt body, playback =>
      match performAll hasCurrent body playback with
      | (.ok _, after) => (.ok (), after)
      | (.error message, after) => (.ok (), after.note (.caught message))
  | .call name body returns, playback =>
      if playback.recording.enabled then
        let opened := { playback with recording := playback.recording.push name true }
        match performAll true body opened with
        | (.ok _, inside) =>
            let (phase, after) := inside.close
            (.ok (), after.note (.returned (returns.recorded phase)))
        | (.error message, inside) => (.error message, inside.close.2)
      else
        match performAll (!playback.recording.active.isEmpty) body playback with
        | (.ok _, after) => (.ok (), after.note (.returned (returns.recorded none)))
        | (.error message, after) => (.error message, after)

/-- The meaning of a body: its instructions in order, up to the first that fails. -/
def performAll (hasCurrent : Bool) : List Instruction → Step
  | [], playback => (.ok (), playback)
  | step :: rest, playback =>
      match perform hasCurrent step playback with
      | (.ok _, after) => performAll hasCurrent rest after
      | (.error message, after) => (.error message, after)

end

def runProgram (timer : Nat → Int) (program : List Instruction) : List Note :=
  match performAll false program ⟨.start false timer, []⟩ with
  | (.ok _, after) => after.notes
  | (.error message, after) => (after.note (.escaped message)).notes

end Bindery.Phase
