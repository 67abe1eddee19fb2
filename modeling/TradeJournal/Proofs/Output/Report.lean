import TradeJournal.Proofs.Log.Delivery
import TradeJournal.Proofs.View.Report

/-!
# Reports lose nothing

An output collects the views that are shown, and writes all of them each time that it is finished.
Whatever is asked of it in between, and whether or not that succeeds, its report is what has been
shown so far (`Output.report_run`). A report that is written can be read: the bytes of the file are
a text in JSON, which says what every view says, in the order in which they were shown. A half of a
pair has no bytes, though, and where a view holds one the report is not written: the file is left
empty, and finishing fails (`Output.report_loses_nothing`).
-/

namespace TradeJournal

namespace Output

/-! ### Calls -/

/-- **What is asked of an output.** -/
inductive Call
  | write (v : View)
  | finish (action : String)
  deriving DecidableEq, Repr

/-- The view that a call shows, if it shows one. -/
def Call.view? : Call → Option View
  | write v => some v
  | finish _ => none

/-- **The views that calls show**, in their order. -/
def shownBy (calls : List Call) : List View := calls.filterMap Call.view?

section

variable {σ : Type} (host : Host (StateM σ)) (log : Log)

/-- **One call.** A failure to finish is reported to the caller, who may go on. -/
def act (o : Output) : Call → StateM σ Output
  | .write v => o.write host log v
  | .finish action => do
    let _ ← (o.finish host log action).run
    pure o

/-- **Calls one after the other.** -/
def run (o : Output) (calls : List Call) : StateM σ Output := calls.foldlM (act host log) o

/-- A call that shows a view adds it to the report, and others change nothing. -/
theorem act_fst (o : Output) (call : Call) (machine : σ) :
    ((act host log o call).run machine).1 = call.view?.elim o o.collect := by
  cases call with
  | finish action => rfl
  | write v =>
    rw [act, Output.write]
    split <;> rfl

/-- **Whatever is asked of an output, its report is what has been shown.** -/
theorem report_run (o : Output) (calls : List Call) (machine : σ) :
    ((run host log o calls).run machine).1.report =
      o.report.map fun r => { r with views := r.views ++ shownBy calls } := by
  -- Along the calls, with the output and the machine as the first call leaves them.
  induction calls generalizing o machine with
  | nil =>
    have same : (fun r : ReportFile => { r with views := r.views ++ shownBy [] }) = id := by
      funext r
      simp [shownBy]
    rw [same, Option.map_id]
    rfl
  | cons call rest ih =>
    have first := act_fst host log o call machine
    rw [run, List.foldlM_cons, StateT.run_bind]
    change ((run host log ((act host log o call).run machine).1 rest).run _).1.report = _
    rw [ih, first]
    cases call with
    | finish action => rfl
    | write v => simp [Call.view?, collect, shownBy, Function.comp_def]

end

/-! ### Finishing -/

/-- **Nothing is done where nothing has been shown.** -/
theorem finish_of_no_views {m : Type → Type} [Monad m] (host : Host m) (log : Log) (action : String)
    {o : Output} {r : ReportFile} (reported : o.report = some r) (no_views : r.views = []) :
    o.finish host log action = pure () := by
  rw [finish, reported]
  exact if_pos no_views

theorem finish_of_views {m : Type → Type} [Monad m] (host : Host m) (log : Log) (action : String)
    {o : Output} {r : ReportFile} (reported : o.report = some r) (some_views : r.views ≠ []) :
    o.finish host log action = save host log action r := by
  rw [finish, reported]
  exact if_neg some_views

section

variable {coding : Text.HalfCoding} {r : ReportFile} {m m₁ : Memory} {action : String}
  (made : ((Memory.host coding).makeDirectories r.directory).run.run m = (.ok (), m₁))
  (can_write : m₁.CanWrite coding (r.path action m.stamp)) (log : Log)
include made can_write

/-- **Saving a report** on a machine in memory: once its directory is made, a file that can be
written holds the bytes of the report, and nothing else is changed before the log is told. -/
theorem run_save {bytes : List UInt8} (has_bytes : encoded coding r.text = .ok bytes) :
    ∃ m₂, Memory.Wrote m₁ m₂ (r.path action m.stamp) bytes ∧
      (save (Memory.host coding) log action r).run.run m =
        (.ok (), ((log.emit (Memory.host coding) Log.Severity.info.level
          ("JSON saved to " ++ r.path action m.stamp)).run m₂).2) := by
  obtain ⟨m₂, written, wrote⟩ := can_write.writeFile has_bytes
  refine ⟨m₂, wrote, ?_⟩
  have same_stamp : m₁.stamp = m.stamp := by rw [Memory.rest_of_makeDirectories made]
  rw [save, run_bind_of_ok made, run_bind_of_ok (Memory.run_stamp m₁), same_stamp,
    run_bind_of_ok written]
  rfl

/-- **A report without bytes is not saved**, and its file is left empty. -/
theorem run_save_of_error {fault : FileFault} (no_bytes : encoded coding r.text = .error fault) :
    ∃ m₂, Memory.Wrote m₁ m₂ (r.path action m.stamp) [] ∧
      (save (Memory.host coding) log action r).run.run m = (.error fault, m₂) := by
  obtain ⟨m₂, emptied, wrote⟩ := can_write.writeFile_of_error no_bytes
  refine ⟨m₂, wrote, ?_⟩
  have same_stamp : m₁.stamp = m.stamp := by rw [Memory.rest_of_makeDirectories made]
  rw [save, run_bind_of_ok made, run_bind_of_ok (Memory.run_stamp m₁), same_stamp,
    run_bind_of_error emptied]

end

/-- The text of a report says what its views say. -/
theorem parse_text (r : ReportFile) :
    Json.parse r.text.toList = .ok (.list (r.views.map View.value)) := by
  rw [ReportFile.text, String.toList_ofList, Json.parse_written, Json.Report.value,
    Json.valuesOf_eq_map,
    List.map_map]
  exact congrArg (Except.ok ∘ Value.list) (List.map_congr_left fun v _ => v.value_report)

/-- **Whether there is no half in the views of a report.** -/
def Whole (coding : Text.HalfCoding) (views : List View) : Prop :=
  ∀ v ∈ views, ∀ s ∈ v.texts, Text.NoHalves coding s.toList

/-- The text of a report is free of halves exactly when the texts in its views are. -/
theorem noHalves_text_iff {coding : Text.HalfCoding} (r : ReportFile) :
    Text.NoHalves coding r.text.toList ↔ Whole coding r.views := by
  rw [ReportFile.text, String.toList_ofList, Json.Report.noHalves_written_iff, Json.Report.strings,
    Json.stringsIn_eq_flatMap, List.flatMap_map, List.forall_mem_flatMap]
  simp only [View.noHalves_strings_iff, Whole]

/-- **A report loses nothing.** Take the output in formats one of which is JSON, on a machine in
memory, and call it as often as you like, to show views and to finish. If nothing has been shown,
finishing changes nothing, and there is no file. Otherwise the text of its report is JSON for the
list of what the views say, all of them in the order in which they were shown, whatever characters
are in them. Where its directory can be made and the file written, and no half of a pair is in the
views, finishing succeeds, and the bytes in the file are decoded to that text. Where there is one,
finishing fails, and the file is left empty. -/
theorem report_loses_nothing (coding : Text.HalfCoding) {formats : List Format} {baseDir : String}
    {o : Output} (made : ofFormats formats baseDir = .ok o) (json : Format.json ∈ formats)
    (log : Log)
    (calls : List Call) (m : Memory) (action : String) :
    let host := Memory.host coding
    let o' := ((run host log o calls).run m).1
    let m' := ((run host log o calls).run m).2
    let r : ReportFile := ⟨Path.under baseDir "json", shownBy calls⟩
    let path := r.path action m'.stamp
    (shownBy calls = [] → (o'.finish host log action).run.run m' = (.ok (), m')) ∧
    (shownBy calls ≠ [] →
      Json.parse r.text.toList = .ok (.list ((shownBy calls).map View.value)) ∧
      ∀ m₁, (host.makeDirectories r.directory).run.run m' = (.ok (), m₁) → m₁.CanWrite coding path →
        (Whole coding (shownBy calls) →
          ∃ m₂ bytes, m₂.read path = .ok bytes ∧ Text.decodeUtf8 bytes = .ok r.text.toList ∧
            (o'.finish host log action).run.run m' =
              (.ok (),
                ((log.emit host Log.Severity.info.level ("JSON saved to " ++ path)).run m₂).2) ∧
            (log.WritesApart m₂ path →
              ((o'.finish host log action).run.run m').2.read path = .ok bytes)) ∧
        (¬Whole coding (shownBy calls) →
          ∃ fault m₂, (o'.finish host log action).run.run m' = (.error fault, m₂) ∧
            m₂.read path = .ok [])) := by
  intro host o' m' r path
  have reported : o'.report = some r := by
    have collected := report_run host log o calls m
    rw [ofFormats] at made
    split at made
    · cases made
    · cases made
      exact collected
  refine ⟨fun none_shown => ?_, fun some_shown => ⟨parse_text r, fun m₁ directories can_write =>
    ⟨fun whole => ?_, fun half => ?_⟩⟩⟩
  · rw [finish_of_no_views host log action reported none_shown]
    rfl
  · have has_bytes := encoded_of_noHalves ((noHalves_text_iff r).mpr whole)
    obtain ⟨m₂, wrote, saved⟩ := run_save directories can_write log has_bytes
    have finished := (congrArg (fun x => x.run.run m')
      (finish_of_views host log action reported some_shown)).trans saved
    refine ⟨m₂, _, wrote.content, Text.decodeUtf8_toUTF8 r.text, finished, fun apart => ?_⟩
    rw [finished]
    exact Log.read_emit coding apart wrote.content _ _
  · obtain ⟨fault, no_bytes⟩ := exists_encoded_eq_error (half ∘ (noHalves_text_iff r).mp)
    obtain ⟨m₂, wrote, failed⟩ := run_save_of_error directories can_write log no_bytes
    refine ⟨fault, m₂, ?_, wrote.content⟩
    rw [finish_of_views host log action reported some_shown]
    exact failed

/-- Completions, after which a report is written, and a search with a quote, a backslash, a line
end, a line separator and a private character in its texts. -/
def oddCalls : List Call :=
  [.write (.suggestions ⟨none, [""]⟩), .finish "suggest",
    .write (.search ⟨some "\"a\\b\n", false, ["\u2028", String.singleton (Char.ofNat 0x10D800)], [],
      [⟨"", "é", none, some "\t", none, ["#a"], []⟩]⟩)]

/-- Where no character stands in for a half, all of them are written. -/
theorem report_loses_nothing_odd :
    let host := Memory.host .whole
    let o : Output := ⟨true, some ⟨Path.under "out" "json", []⟩⟩
    let called := (run host .silent o oddCalls).run {}
    ofFormats [.console, .json] "out" = .ok o ∧ Format.json ∈ [Format.console, .json] ∧
    ∃ bytes text,
      ((called.1.finish host .silent "search").run.run called.2).2.read "out/json/search_.json" =
        .ok bytes ∧
      Text.decodeUtf8 bytes = .ok text ∧
      Json.parse text = .ok (.list ((shownBy oddCalls).map View.value)) := by
  intro host o called
  have made : ofFormats [.console, .json] "out" = .ok o := rfl
  obtain ⟨-, written⟩ := report_loses_nothing .whole made (by decide) .silent oddCalls {} "search"
  obtain ⟨parsed, saved⟩ := written (by decide)
  have path :
      (ReportFile.mk (Path.under "out" "json") (shownBy oddCalls)).path "search" called.2.stamp =
      "out/json/search_.json" := by decide +kernel
  have succeeds : ((host.makeDirectories (Path.under "out" "json")).run.run called.2).1 = .ok () :=
    eq_ok_of_isOk (by decide +kernel)
  have can_write :
      ((host.makeDirectories (Path.under "out" "json")).run.run called.2).2.CanWrite .whole
      "out/json/search_.json" := by decide +kernel
  rw [← path] at can_write
  obtain ⟨m₂, bytes, -, decoded, -, kept⟩ := (saved _ (Prod.ext succeeds rfl) can_write).1
    fun v _ s _ => Text.noHalves_whole s.toList
  have apart : Log.silent.WritesApart m₂ "out/json/search_.json" := by
    rintro h member other target
    obtain rfl := List.mem_singleton.mp member
    cases target
  rw [← path] at apart
  refine ⟨made, by decide, bytes, _, ?_, decoded, parsed⟩
  rw [← path]
  exact kept apart

/-- **A half of a pair that stands alone is not written.** Completions of a text with a high half in
it are shown, and finishing fails. The file is there and empty, and no JSON. -/
theorem report_loses_half :
    let host := Memory.host .lastPlane
    let half := String.singleton (Text.charOfCode 0xD800)
    let calls : List Call := [.write (.suggestions ⟨some half, []⟩)]
    let o : Output := ⟨false, some ⟨Path.under "out" "json", []⟩⟩
    let called := (run host .silent o calls).run {}
    let finished := (called.1.finish host .silent "suggest").run.run called.2
    ofFormats [.json] "out" = .ok o ∧
    Text.HalfCoding.lastPlane.half? (Text.charOfCode 0xD800) = some 0xD800 ∧
    (∃ fault, finished.1 = .error fault) ∧
    finished.2.read "out/json/suggest_.json" = .ok [] ∧
    ∀ text, Text.decodeUtf8 [] = .ok text →
      Json.parse text ≠ .ok (.list ((shownBy calls).map View.value)) := by
  intro host half calls o called finished
  let r : ReportFile := ⟨Path.under "out" "json", shownBy calls⟩
  have path : r.path "suggest" called.2.stamp = "out/json/suggest_.json" := by decide +kernel
  have succeeds : ((host.makeDirectories r.directory).run.run called.2).1 = .ok () :=
    eq_ok_of_isOk (by decide +kernel)
  have can_write : ((host.makeDirectories r.directory).run.run called.2).2.CanWrite .lastPlane
      "out/json/suggest_.json" := by decide +kernel
  have inside : Text.HalfCoding.lastPlane.half? (Text.charOfCode 0xD800) = some 0xD800 :=
    Text.half?_charOfCode (by decide : Text.isHalf 0xD800 = true)
  have not_whole : ¬Text.NoHalves .lastPlane r.text.toList := by
    rw [noHalves_text_iff]
    intro whole
    have no_half : Text.NoHalves .lastPlane half.toList :=
      whole _ List.mem_cons_self half (List.mem_append_left _ List.mem_cons_self)
    have own := no_half (Text.charOfCode 0xD800) (by simp [half])
    rw [inside] at own
    cases own
  obtain ⟨fault, no_bytes⟩ := exists_encoded_eq_error not_whole
  rw [← path] at can_write
  obtain ⟨m₂, emptied, failed⟩ :=
    run_save_of_error (Prod.ext succeeds rfl) can_write .silent no_bytes
  have ended : finished = (.error fault, m₂) :=
    (congrArg (fun x => x.run.run called.2)
      (finish_of_views host .silent "suggest" (r := r) rfl
        (by simp [r, calls, shownBy, Call.view?]))).trans
      failed
  refine ⟨rfl, inside, ⟨fault, by rw [ended]⟩, ?_, fun text decoded parsed => ?_⟩
  · rw [ended, ← path]
    exact emptied.content
  · obtain rfl : [] = text := Except.ok.inj decoded
    have no_json : (Json.parse []).isOk = false := by decide +kernel
    rw [parsed] at no_json
    cases no_json

end Output

end TradeJournal
