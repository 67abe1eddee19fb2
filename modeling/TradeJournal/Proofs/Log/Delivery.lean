import TradeJournal.Log
import TradeJournal.Proofs.Host.Memory

/-!
# Messages on a machine in memory

A message goes to its targets one after the other, and each of them is changed on its own: the
console by what is put there, a file by what is added to it. So whatever neither printing nor adding
to the files of a log can undo holds after a message as it did before (`Log.emit_preserves`).
-/

namespace TradeJournal.Log

variable (coding : Text.HalfCoding)

/-- **A machine after a line has been put where it belongs.** -/
def Target.delivered (line : String) (m : Memory) : Target → Memory
  | .nowhere => m
  | .console => { m with console := m.console ++ line }
  | .file path => (((Memory.host coding).appendFile path line).run.run m).2

/-- **A message reaches its targets** in their order. -/
theorem run_emit (log : Log) (level : Int) (message : String) (m : Memory) :
    (log.emit (Memory.host coding) level message).run m =
      ((), (log.targets level).foldl
        (Target.delivered coding (log.written m.stamp level message)) m) := by
  have each (l : String) (targets : List Target) (m : Memory) :
      (targets.forM (deliver (Memory.host coding) l)).run m =
        ((), targets.foldl (Target.delivered coding l) m) := by
    induction targets generalizing m with
    | nil => rfl
    | cons target rest ih =>
      rw [List.foldl_cons, ← ih]
      cases target <;> rfl
  exact each _ _ m

/-- A file that a message comes to is that of a handler. -/
theorem exists_handler_of_file {log : Log} {level : Int} {path : String}
    (listed : .file path ∈ log.targets level) : ∃ h ∈ log.handlers, h.target = .file path := by
  rw [targets] at listed
  split at listed
  · obtain ⟨h, kept, target⟩ := List.mem_map.mp listed
    have member := (List.mem_filter.mp kept).1
    rw [reached] at member
    split at member
    · obtain rfl := List.mem_singleton.mp member
      cases target
    · exact ⟨h, member, target⟩
  · cases listed

/-- **What printing and adding to the log's files preserve is preserved by every message.** -/
theorem emit_preserves {P : Memory → Prop} {log : Log} {level : Int} {message : String} {m : Memory}
    (printed : ∀ {m : Memory} (text : String), P m → P { m with console := m.console ++ text })
    (added : ∀ {m : Memory} {path : String} (text : String),
      (∃ h ∈ log.handlers, h.target = .file path) → P m →
        P (((Memory.host coding).appendFile path text).run.run m).2)
    (before : P m) : P ((log.emit (Memory.host coding) level message).run m).2 := by
  rw [run_emit]
  refine List.foldlRecOn (log.targets level) _ before fun m holds target listed => ?_
  cases target with
  | nowhere => exact holds
  | console => exact printed _ holds
  | file path => exact added _ (exists_handler_of_file listed) holds

/-- Whether no file of a log is the one that a path leads to. -/
def WritesApart (log : Log) (m : Memory) (path : String) : Prop :=
  ∀ h ∈ log.handlers, ∀ other, h.target = .file other → m.Apart other path

/-- **Messages leave other files alone.** -/
theorem read_emit {log : Log} {m : Memory} {path : String} {bytes : List UInt8}
    (apart : log.WritesApart m path) (there : m.read path = .ok bytes) (level : Int)
    (message : String) :
    ((log.emit (Memory.host coding) level message).run m).2.read path = .ok bytes := by
  refine
    (emit_preserves coding (P := fun m => m.read path = .ok bytes ∧ log.WritesApart m path) ?_ ?_
    ⟨there, apart⟩).1
  · rintro m text ⟨there, apart⟩
    refine ⟨by rw [Memory.read_withConsole, there], fun h member other target place led => ?_⟩
    rw [Memory.place_withConsole] at led ⊢
    exact apart h member other target place led
  · rintro m other text ⟨h, member, target⟩ ⟨there, apart⟩
    rcases Memory.run_appendFile_cases m other text with same | ⟨f, changed⟩
    · rw [same]
      exact ⟨there, apart⟩
    · exact ⟨Memory.read_of_change_apart changed (apart h member other target) there,
        fun h member other target => (apart h member other target).change changed⟩

end TradeJournal.Log
