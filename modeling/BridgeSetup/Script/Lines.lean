import BridgeSetup.Script.Opening
import BridgeSetup.Script.Parser

/-!
# Running text

The text of a script is read and run line by line, so that what a line does can change how
the next one is understood, and a line that is wrong keeps nothing before it from being run.
The text that is run at a signal or at the end of a script is run in the same way.
-/

namespace BridgeSetup.Script

namespace Inner

/-- Writes the text between two places of a script if that is asked for. -/
def echoText (before after : Source) : Action Unit := do
  if (← get).hasOption "verbose" then
    Action.writeAnyway 2 (before.rest.take (before.rest.length - after.rest.length))

/-- Runs the lines of a script from some place on, and tells whether any line holds a
command; `hasRun` tells it of the lines before, and `fuel` bounds the number of lines. -/
def runLines (inner : Inner) (isTested : Bool) : (fuel : Nat) → (hasRun : Bool) → Source →
    Action Bool
  | 0, hasRun, _ => return hasRun
  | fuel + 1, hasRun, source => do
    let shell ← get
    let source := { source with nextDocument := shell.nextDocument, documents := [] }
    match source.nextLine with
    | .error ⟨line, violation⟩ =>
      modify ({ · with lineRead := line })
      Action.failSyntax violation
    | .ok (line, rest) =>
      modify fun shell =>
        { shell with
          documents := rest.documents ++ shell.documents, nextDocument := rest.nextDocument
          lineRead := rest.line }
      echoText source rest
      match line with
      | .none => return hasRun
      | .empty => inner.runLines isTested fuel hasRun rest
      | .commands commands =>
        inner.run commands isTested
        inner.runLines isTested fuel true rest

/-- Runs a text. A text without commands succeeds. -/
def runText (inner : Inner) (isTested : Bool) (text : ByteText) : Action Unit := do
  let before := (← get).lineRead
  let run : Action Unit := do
    let hasRun ← inner.runLines isTested (text.length + 2) false { rest := text }
    if !hasRun then Action.setStatus 0
  Action.afterwards run (modify ({ · with lineRead := before }))

/-- Runs a text at a signal. The exit status from before is kept, except by a function or a
script that is left by the text. -/
def runAtSignal (inner : Inner) (text : ByteText) : Action Unit := do
  let shell ← get
  let status := shell.keptStatus.getD shell.status
  set { shell with keptStatus := some status }
  let departure ← Action.outcome (inner.runText false text)
  modify ({ · with keptStatus := shell.keptStatus })
  match departure with
  | none | some (.leaves _) | some (.resumes _) => Action.setStatus status
  | _ => pure ()
  Action.resume departure

/-- Runs what is to be run at the signals that have come. -/
def answerSignals (inner : Inner) : Action Unit := do
  let shell ← get
  if shell.mainTraps.isNone && !shell.pending.isEmpty then
    set { shell with pending := [] }
    let actions := shell.pending.filterMap fun number => shell.traps.lookup number
    actions.forM inner.runAtSignal

/-- Runs an action that makes up a script, and then what is to be run at its end. Only an
exit of its own or a failure gives that another exit status. -/
def finish (inner : Inner) (action : Action Unit) : Action Unit := do
  match ← Action.outcome action with
  | some (.dies signal) => Action.depart (.dies signal)
  | _ =>
    let shell ← get
    match shell.traps.lookup 0 with
    | none => return
    | some text =>
      set { shell with
        traps := shell.traps.filter (·.1 ≠ 0), keptStatus := some shell.status }
      match ← Action.outcome (inner.runText false text) with
      | some (.dies signal) => Action.depart (.dies signal)
      | some .ends | some .fails => return
      | _ => Action.setStatus shell.status

/-- Runs commands apart, and yields their exit status. -/
def apart (inner : Inner) (prepare : Shell → Shell) (action : Action Unit) : Action Nat :=
  Action.apart prepare (inner.finish action)

end Inner

end BridgeSetup.Script
