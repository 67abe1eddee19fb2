import TradeJournal.Log

/-!
# The log in use

A program has one log, which it configures, resets and puts messages on, in any order and as often
as it likes. A change is made to the log in place and one part after the other: each of its handlers
is taken off, the new ones are put on, then the level is set, and last whether messages are passed
on. What a configuration may fail at comes before the first change, but for one thing: a log file is
closed after its handler has been taken off, and lines that were held back may then turn out to have
no room. The change is given up there, and the handlers that are still on stay.
-/

namespace TradeJournal.Log

/-! ### Changes -/

/-- Takes a handler off. -/
def detach (log : Log) (h : Handler) : Log := { log with handlers := log.handlers.erase h }

/-- Puts a handler on, behind those that are there. -/
def attach (log : Log) (h : Handler) : Log := { log with handlers := log.handlers ++ [h] }

variable {m : Type → Type} [Monad m]

/-- What the host does for the log in use. -/
def onHost {α : Type} (action : ExceptT Fault m α) : ExceptT Fault (StateT Log m) α :=
  ExceptT.mk (StateT.lift action.run)

/-- Takes a handler off, and then ends adding to its file if it has one. -/
def release (host : Host m) (h : Handler) : ExceptT Fault (StateT Log m) Unit := do
  modify (·.detach h)
  match h.target with
  | .file path => onHost ((host.closeFile path).adapt .unclosed)
  | _ => pure ()

/-- **Replacing the handlers**: all that are there at the outset are taken off one by one, and then
the new ones are put on. -/
def replaceHandlers (host : Host m) (handlers : List Handler) :
    ExceptT Fault (StateT Log m) Unit := do
  (← get).handlers.forM (release host)
  handlers.forM fun h => modify (·.attach h)

/-- Makes the log in use like another. -/
def change (host : Host m) (wanted : Log) : ExceptT Fault (StateT Log m) Unit := do
  replaceHandlers host wanted.handlers
  modify fun log => { log with level := wanted.level }
  modify fun log => { log with propagates := wanted.propagates }

/-! ### Steps -/

/-- **What is done with the log in use.** -/
inductive Step
  | configure (r : Request)
  | reset
  | emit (level : Int) (message : String)
  deriving DecidableEq, Repr

/-- **One step.** The answer to a configuration is the path of the log's file, if it has one. -/
def Step.perform (host : Host m) : Step → ExceptT Fault (StateT Log m) (Option String)
  | .configure r => do
    let (wanted, file) ← onHost (Log.configure host r)
    change host wanted
    pure file
  | .reset => do
    change host silent
    pure none
  | .emit level message => do
    let log ← get
    (log.emit host level message : m Unit)
    pure none

end TradeJournal.Log
