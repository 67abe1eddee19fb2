import TradeJournal.Log
import TradeJournal.Path
import TradeJournal.Report
import TradeJournal.Settings
import TradeJournal.Text.Lines

/-!
# Output

What a command finds is shown line by line on the log, collected in a report, or both. The
report is written when the command is finished: one file that holds all views so far, and
none if there were none.
-/

namespace TradeJournal

/-- **What is shown.** -/
inductive View
  | search (v : SearchView)
  | suggestions (v : SuggestionView)
  deriving DecidableEq, Repr

/-- The text of a view. -/
def View.text : View → String
  | .search v => v.text
  | .suggestions v => v.text

/-- The report on a view. -/
def View.report : View → Json.Report
  | .search v => v.report
  | .suggestions v => v.report

/-- **The report on a command**: its directory, and the views collected so far. -/
structure ReportFile where
  directory : String
  views : List View := []
  deriving DecidableEq, Repr

/-- The text of a report. -/
def ReportFile.text (r : ReportFile) : String :=
  String.ofList ((Json.Report.list (r.views.map View.report)).written 0)

/-- The path of a report at a time. -/
def ReportFile.path (r : ReportFile) (action : String) (stamp : Stamp) : String :=
  Path.under r.directory (action ++ "_" ++ stamp.reportName ++ ".json")

/-- **Where views go.** -/
structure Output where
  console : Bool
  report : Option ReportFile
  deriving DecidableEq, Repr

/-- Why there is no output. -/
inductive OutputFault
  | noFormats
  deriving DecidableEq, Repr

/-- The wording of a fault. -/
def OutputFault.message : OutputFault → String
  | .noFormats => "No output writers configured"

namespace Output

/-- **The output in some formats**; their order and repetitions mean nothing. -/
def ofFormats (formats : List Format) (baseDir : String) : Except OutputFault Output :=
  if formats = [] then .error .noFormats
  else
    .ok
      { console := Format.console ∈ formats
        report := if Format.json ∈ formats then some ⟨Path.under baseDir "json", []⟩ else none }

/-- The output that settings ask for. -/
def ofSettings (s : OutputSettings) : Except OutputFault Output := ofFormats s.formats s.baseDir

/-- The output with one more view in its report. -/
def collect (o : Output) (v : View) : Output :=
  { o with report := o.report.map fun r => { r with views := r.views ++ [v] } }

/-- The messages of a view. -/
def messages (v : View) : List String := (Text.lines v.text.toList).map String.ofList

variable {m : Type → Type} [Monad m]

/-- **Showing a view.** -/
def write (host : Host m) (log : Log) (o : Output) (v : View) : m Output := do
  if o.console then (messages v).forM (log.emit host Log.Severity.info.level)
  pure (o.collect v)

/-- Writes a report and says where. -/
def save (host : Host m) (log : Log) (action : String) (r : ReportFile) :
    ExceptT FileFault m Unit := do
  host.makeDirectories r.directory
  let path := r.path action (← host.stamp)
  host.writeFile path r.text
  (log.emit host Log.Severity.info.level ("JSON saved to " ++ path) : m Unit)

/-- **Finishing a command**: the report is written if it holds anything. -/
def finish (host : Host m) (log : Log) (action : String) (o : Output) : ExceptT FileFault m Unit :=
  match o.report with
  | some r => if r.views = [] then pure () else save host log action r
  | none => pure ()

end Output

end TradeJournal
