import TradeJournal.Proofs.Log.Delivery
import TradeJournal.Proofs.Text.Bytes

/-!
# What a log keeps

A configured log has a console and a file, and three levels decide what they get: the log's own,
below which nothing is looked at, and those of the two. The log's own level is that of debug
messages or the console's, if that is lower. No name stands for a lower level, with one exception:
the name for no level gives the log none of its own, and a log without one has that of warnings. Two
more names are taken by something that is no level at all. For all other names the file gets every
message from the debug level on, and the console those of its level (`Log.file_keeps_messages`).
-/

namespace TradeJournal

namespace Log

/-! ### Names of levels -/

/-- The names of a level, in capitals. -/
def Severity.names : Severity → List String
  | .warning => ["WARNING", "WARN"]
  | .critical => ["CRITICAL", "FATAL"]
  | s => [s.name]

/-- **What a name in capitals means**: the level that it names, and that of information if it names
none. -/
def Meant (name : String) (s : Severity) : Prop :=
  name ∈ s.names ∨ s = .info ∧ ∀ other : Severity, name ∉ other.names

/-- A name in capitals. -/
def capitals (name : String) : String := String.ofList (Text.upper name.toList)

/-- The name for no level. -/
def unsetName : String := "NOTSET"

/-- Names that are taken by something else. -/
def takenNames : List String := ["BASIC_FORMAT", "_STYLES"]

theorem meant_ofName (name : String) (other : name ≠ "WARN") (another : name ≠ "FATAL") :
    ∃ s : Severity, Meant name s ∧
      (Severity.ofName? name).elim defaultLevel Severity.level = s.level := by
  cases found : Severity.ofName? name with
  | some s =>
    have named : s.name = name := by simpa using List.find?_some found
    refine ⟨s, Or.inl ?_, rfl⟩
    rw [← named]
    cases s <;> decide
  | none =>
    refine ⟨.info, Or.inr ⟨rfl, fun s listed => ?_⟩, rfl⟩
    have unnamed : s.name ≠ name := by
      have all : s ∈ Severity.all := by cases s <;> decide
      simpa using List.find?_eq_none.mp found s all
    cases s <;> simp_all [Severity.names, Severity.name]

/-- **Every name stands for a level**, the name for none stands for zero, and names that are taken
for nothing. -/
theorem levelOfName_spec (name : String) :
    (capitals name = unsetName → levelOfName name = .ok 0) ∧
    (capitals name ∈ takenNames → ∃ fault, levelOfName name = .error fault) ∧
    (capitals name ≠ unsetName → capitals name ∉ takenNames →
      ∃ s : Severity, Meant (capitals name) s ∧ levelOfName name = .ok s.level) := by
  rw [capitals, levelOfName]
  generalize String.ofList (Text.upper name.toList) = upper
  refine ⟨?_, ?_, fun set free => ?_⟩
  · rintro rfl
    rfl
  · intro taken
    simp only [takenNames, List.mem_cons, List.not_mem_nil, or_false] at taken
    rcases taken with rfl | rfl
    · exact ⟨_, rfl⟩
    · exact ⟨_, rfl⟩
  · split
    · exact absurd rfl set
    · exact ⟨.warning, Or.inl (by decide), rfl⟩
    · exact ⟨.critical, Or.inl (by decide), rfl⟩
    · exact absurd (by decide) free
    · exact absurd (by decide) free
    · next other another _ _ =>
      obtain ⟨s, meant, level⟩ := meant_ofName upper other another
      exact ⟨s, meant, congrArg Except.ok level⟩

/-! ### Messages -/

/-- **A message**: when it is logged, at which level, and its text. -/
structure Message where
  stamp : Stamp
  level : Int
  text : String
  deriving DecidableEq, Repr

/-- The line of a message. -/
def Message.line (e : Message) : String := Log.line e.stamp e.level e.text

variable (coding : Text.HalfCoding)

/-- **Whether a message can be written to a file**: there is no half in it. -/
def Message.Whole (e : Message) : Prop :=
  Text.NoHalves coding e.stamp.line.toList ∧ Text.NoHalves coding e.text.toList

instance (e : Message) : Decidable (e.Whole coding) := inferInstanceAs (Decidable (_ ∧ _))

/-- The mark of a level has four letters of its name, which are plain. -/
theorem isPlain_levelMark (level : Int) : Text.isPlain (levelMark level).toList = true := by
  have named (s : Severity) :
      Text.isPlain (String.ofList (s.name.toList.take 4)).toList = true := by
    cases s <;> decide
  rw [levelMark]
  split
  iterate 5 decide
  rw [levelName]
  split
  · decide
  split
  · exact named _
  · rw [String.toList_append, List.take_append_of_le_length (by decide)]
    decide

theorem Message.noHalves_line (e : Message) :
    Text.NoHalves coding e.line.toList ↔ e.Whole coding := by
  have plain {s : String} (all : Text.isPlain s.toList = true) : Text.NoHalves coding s.toList :=
    Text.noHalves_of_isPlain coding all
  have mark := plain (isPlain_levelMark e.level)
  have before := plain (s := "[") (by decide)
  have between := plain (s := "] ") (by decide)
  have behind := plain (s := "\n") (by decide)
  simp only [Message.line, Log.line, String.toList_append, Text.noHalves_append, Message.Whole,
    mark, before, between, behind, and_true]

/-- **The lines of the messages of a level and above**, one after the other. -/
def linesFrom (least : Int) (messages : List Message) : String :=
  String.join ((messages.filter (least ≤ ·.level)).map Message.line)

/-- A message is logged when its time has come. -/
def emitted (log : Log) (m : Memory) (e : Message) : Memory :=
  ((log.emit (Memory.host coding) e.level e.text).run { m with stamp := e.stamp }).2

/-- **The machine after messages**, logged one after the other. -/
def emitAll (log : Log) (m : Memory) (messages : List Message) : Memory :=
  messages.foldl (log.emitted coding) m

/-- **Whether a log keeps messages**: all from one level on in a file, and all from another on on
the console. A message with a half in it, which has no bytes, is on the console alone. -/
structure Keeps (log : Log) (m : Memory) (path : String) (fileLevel consoleLevel : Int) : Prop where
  file : ∀ messages, (log.emitAll coding m messages).read path =
    .ok (m.contentAt path ++
      (linesFrom fileLevel (messages.filter (·.Whole coding))).toUTF8.toList)
  console : ∀ messages,
    (log.emitAll coding m messages).console = m.console ++ linesFrom consoleLevel messages

/-- The line of the first message comes first, if the message has the level. -/
theorem linesFrom_cons (least : Int) (e : Message) (messages : List Message) :
    linesFrom least (e :: messages) =
      (if least ≤ e.level then e.line else "") ++ linesFrom least messages := by
  rw [linesFrom, List.filter_cons]
  split
  · next admitted =>
    rw [if_pos (of_decide_eq_true admitted), List.map_cons, String.join_cons]
    rfl
  · next refused =>
    rw [if_neg (by simpa using refused), String.empty_append]
    rfl

/-! ### One message -/

section

variable {coding} {m : Memory} {path : String} {content : List UInt8}

/-- **A line in a file** comes after what is there, if it has bytes, and is nowhere else. -/
theorem delivered_file (checked : checkedPath coding path = .ok ())
    (there : m.read path = .ok content) (e : Message) :
    let m' := Target.delivered coding e.line m (.file path)
    m'.read path = .ok (content ++ if e.Whole coding then e.line.toUTF8.toList else []) ∧
      m'.console = m.console := by
  intro m'
  by_cases whole : e.Whole coding
  · have can_write : m.CanWrite coding path := Memory.canWrite_of_read checked there
    have has_bytes := encoded_of_noHalves ((e.noHalves_line coding).mpr whole)
    obtain ⟨after, added, wrote⟩ := can_write.appendFile has_bytes
    obtain rfl : m' = after := congrArg Prod.snd added
    rw [if_pos whole, wrote.content, Memory.contentAt_of_read there, wrote.rest]
    exact ⟨rfl, rfl⟩
  · obtain ⟨fault, no_bytes⟩ := exists_encoded_eq_error (mt (e.noHalves_line coding).mp whole)
    have same : m' = m := congrArg Prod.snd (Memory.run_appendFile_of_error no_bytes)
    rw [same, if_neg whole, List.append_nil]
    exact ⟨there, rfl⟩

/-! ### All messages -/

/-- **Whether a log serves a console and a file**, each from a level on. -/
structure Serves (log : Log) (path : String) (fileLevel consoleLevel : Int) : Prop where
  targets : ∀ level, log.targets level =
    (if consoleLevel ≤ level then [.console] else []) ++
      if fileLevel ≤ level then [.file path] else []
  written : ∀ stamp level message, log.written stamp level message = line stamp level message

variable {log : Log} {fileLevel consoleLevel : Int}

/-- **What one message does**: the console and the file get it, each from its own level on. -/
theorem Serves.emitted (serves : log.Serves path fileLevel consoleLevel)
    (checked : checkedPath coding path = .ok ()) (there : m.read path = .ok content)
    (e : Message) :
    (log.emitted coding m e).read path =
      .ok (content ++ if fileLevel ≤ e.level ∧ e.Whole coding then e.line.toUTF8.toList else []) ∧
    (log.emitted coding m e).console =
      m.console ++ if consoleLevel ≤ e.level then e.line else "" := by
  -- The console comes first, and what is put there is in no file.
  let shown := if consoleLevel ≤ e.level then e.line else ""
  let m₁ : Memory := { m with console := m.console ++ shown, stamp := e.stamp }
  have there₁ : m₁.read path = .ok content := (Memory.read_withConsole _ _).trans there
  have reached : log.emitted coding m e =
      (if fileLevel ≤ e.level then [Target.file path] else []).foldl
        (Target.delivered coding e.line) m₁ := by
    change ((log.emit (Memory.host coding) e.level e.text).run { m with stamp := e.stamp }).2 = _
    rw [run_emit, serves.targets, serves.written, List.foldl_append]
    dsimp only [m₁, shown]
    split
    · rfl
    · rw [String.append_empty]
      rfl
  rw [reached]
  by_cases enough : fileLevel ≤ e.level
  · simp only [enough, if_true, true_and, List.foldl_cons, List.foldl_nil]
    exact delivered_file checked there₁ e
  · simp only [enough, false_and, if_false, List.append_nil, List.foldl_nil]
    exact ⟨there₁, rfl⟩

/-- **What messages do**, one after the other. -/
theorem Serves.emitAll (serves : log.Serves path fileLevel consoleLevel)
    (checked : checkedPath coding path = .ok ()) (messages : List Message)
    (there : m.read path = .ok content) :
    (log.emitAll coding m messages).read path =
      .ok (content ++ (linesFrom fileLevel (messages.filter (·.Whole coding))).toUTF8.toList) ∧
    (log.emitAll coding m messages).console = m.console ++ linesFrom consoleLevel messages := by
  -- Along the messages, with the machine and the content as the first one leaves them.
  induction messages generalizing m content with
  | nil =>
    have nothing : (linesFrom fileLevel []).toUTF8.toList = [] := Text.toList_toUTF8_empty
    rw [List.filter_nil, nothing, List.append_nil]
    exact ⟨there, String.append_empty.symm⟩
  | cons e rest ih =>
    obtain ⟨read, shown⟩ := serves.emitted checked there e
    obtain ⟨read_after, shown_after⟩ := ih read
    refine ⟨read_after.trans (congrArg Except.ok ?_), shown_after.trans ?_⟩
    · rw [List.append_assoc]
      congr 1
      -- A message with a half adds nothing to the file, whatever its level.
      by_cases whole : e.Whole coding
      · rw [List.filter_cons_of_pos (by simpa using whole), linesFrom_cons,
          Text.toList_toUTF8_append]
        by_cases enough : fileLevel ≤ e.level
        · simp [whole, enough]
        · simp [enough]
      · rw [List.filter_cons_of_neg (by simpa using whole), if_neg fun both => whole both.2,
          List.nil_append]
    · rw [shown, String.append_assoc, ← linesFrom_cons]

/-- **A log with a console and a file keeps messages.** -/
theorem Serves.keeps (serves : log.Serves path fileLevel consoleLevel)
    (checked : checkedPath coding path = .ok ()) (there : m.read path = .ok content) :
    log.Keeps coding m path fileLevel consoleLevel where
  file messages := Memory.contentAt_of_read there ▸ (serves.emitAll checked messages there).1
  console messages := (serves.emitAll checked messages there).2

/-- **The levels of a configured log**: the log's own and that of each of the two count, whichever
is higher. -/
theorem serves_configured (positive : 0 < (configured consoleLevel (some path)).threshold) :
    (configured consoleLevel (some path)).Serves path
      (max (configured consoleLevel (some path)).threshold Severity.debug.level)
      (max (configured consoleLevel (some path)).threshold consoleLevel) where
  targets level := by
    rw [targets, admits]
    generalize (configured consoleLevel (some path)).threshold = own at *
    have reached : (configured consoleLevel (some path)).reached =
      [⟨.console, consoleLevel⟩, ⟨.file path, Severity.debug.level⟩] := rfl
    by_cases admitted : own ≤ level
    · have above : 0 < level := by omega
      simp only [above, admitted, decide_true, Bool.and_self, if_true, Int.max_le, true_and,
        reached, List.filter_cons, List.filter_nil, decide_eq_true_eq]
      split <;> split <;> rfl
    · simp only [admitted, decide_false, Bool.and_false, Bool.false_eq_true, if_false, Int.max_le,
        false_and, List.append_nil]
  written _ _ _ := rfl

end

/-! ### Configuration -/

section

variable {coding} {r : Request} {m m₁ : Memory} {path : String}

/-- **A name that is taken ends a configuration** before anything has been done. -/
theorem configure_of_error {fault : Fault} (no_level : levelOfName r.levelName = .error fault) :
    (configure (Memory.host coding) r).run.run m = (.error fault, m) := by
  rw [configure]
  exact run_bind_of_error (by rw [run_known, no_level]) _

/-- **A configuration succeeds when its file can be made**, and leaves its content as it is. -/
theorem configure_of_level {level : Int} (known : levelOfName r.levelName = .ok level)
    (asked : r.file? m.stamp = some path)
    (made : ((Memory.host coding).makeDirectories r.directory).run.run m = (.ok (), m₁))
    (can_write : m₁.CanWrite coding path) :
    ∃ m₂, (configure (Memory.host coding) r).run.run m =
        (.ok (configured level (some path), some path), m₂) ∧
      Memory.Wrote m₁ m₂ path (m₁.contentAt path) := by
  have empty : encoded coding "" = .ok [] := by
    rw [encoded_of_noHalves (Text.noHalves_of_isPlain coding (by decide)), Text.toList_toUTF8_empty]
  obtain ⟨m₂, added, wrote⟩ := can_write.appendFile empty
  rw [List.append_nil] at wrote
  refine ⟨m₂, ?_, wrote⟩
  have file_made :
      ((makeFile (Memory.host coding) r.directory path).adapt Fault.file).run.run m =
        (.ok (), m₂) := by
    rw [run_adapt, makeFile, run_bind_of_ok made, added]
    rfl
  have level_known :
      (ExceptT.mk (pure (levelOfName r.levelName)) : ExceptT Fault (StateM Memory) Int).run.run m =
        (.ok level, m) := by
    rw [run_known, known]
  rw [configure, run_bind_of_ok level_known, run_bind_of_ok (Memory.run_stamp m), asked]
  dsimp only
  rw [run_bind_of_ok file_made]
  rfl

/-- **The file of a configured log is complete**, whatever name the level of the console is given
by, if the file can be made. It gets every message from the debug level on that has bytes, and the
console those of its level, which is the one that the name means. There are exceptions: the name for
no level, with which both get warnings and what is above them alone, and the names that are taken by
something else, with which there is no log. -/
theorem file_keeps_messages (asked : r.file? m.stamp = some path)
    (made : ((Memory.host coding).makeDirectories r.directory).run.run m = (.ok (), m₁))
    (can_write : m₁.CanWrite coding path) :
    (capitals r.levelName ≠ unsetName → capitals r.levelName ∉ takenNames →
      ∃ s m₂, Meant (capitals r.levelName) s ∧
      (configure (Memory.host coding) r).run.run m =
        (.ok (configured s.level (some path), some path), m₂) ∧
      Memory.Wrote m₁ m₂ path (m₁.contentAt path) ∧
      Keeps coding (configured s.level (some path)) m₂ path Severity.debug.level s.level) ∧
    (capitals r.levelName = unsetName → ∃ m₂,
      (configure (Memory.host coding) r).run.run m =
        (.ok (configured 0 (some path), some path), m₂) ∧
      Memory.Wrote m₁ m₂ path (m₁.contentAt path) ∧
      Keeps coding (configured 0 (some path)) m₂ path Severity.warning.level
        Severity.warning.level) ∧
    (capitals r.levelName ∈ takenNames →
      ∃ fault, (configure (Memory.host coding) r).run.run m = (.error fault, m)) := by
  obtain ⟨unset, taken, level⟩ := levelOfName_spec r.levelName
  have keeps (level : Int) {m₂ : Memory} (positive : 0 < (configured level (some path)).threshold)
      (wrote : Memory.Wrote m₁ m₂ path (m₁.contentAt path)) :=
    (serves_configured positive).keeps can_write.1 wrote.content
  refine ⟨fun set free => ?_, fun name => ?_, fun name => ?_⟩
  · obtain ⟨s, meant, known⟩ := level set free
    obtain ⟨m₂, done, wrote⟩ := configure_of_level known asked made can_write
    have own : (configured s.level (some path)).threshold = Severity.debug.level := by
      cases s <;> rfl
    have highest : max Severity.debug.level s.level = s.level := by cases s <;> rfl
    have positive : 0 < (configured s.level (some path)).threshold := by
      rw [own]
      decide
    have kept := keeps s.level positive wrote
    rw [own, highest, Int.max_self] at kept
    exact ⟨s, m₂, meant, done, wrote, kept⟩
  · obtain ⟨m₂, done, wrote⟩ := configure_of_level (unset name) asked made can_write
    have positive : 0 < (configured 0 (some path)).threshold := show (0 : Int) < 30 by decide
    exact ⟨m₂, done, wrote, keeps 0 positive wrote⟩
  · obtain ⟨fault, no_level⟩ := taken name
    exact ⟨fault, configure_of_error no_level⟩

end

/-- A request for a log of searches with a file, with a name for the level of its console. -/
def searchLog (levelName : String) : Request := ⟨levelName, "search", true, ""⟩

/-- The file of that log, on a machine whose clock shows nothing. -/
def searchLogPath : String := "log/search/search_.log"

/-- The host in memory of the runs below. -/
def searchHost : Host (StateM Memory) := Memory.host .lastPlane

/-- The file of that log can be made on an empty machine. -/
theorem searchLog_made (levelName : String) :
    (searchLog levelName).file? ({} : Memory).stamp = some searchLogPath ∧
    ∃ m₁, (searchHost.makeDirectories (searchLog levelName).directory).run.run {} = (.ok (), m₁) ∧
      m₁.CanWrite .lastPlane searchLogPath ∧ m₁.contentAt searchLogPath = [] ∧
      m₁.console = "" := by
  have asked : (searchLog "").file? ({} : Memory).stamp = some searchLogPath := by decide +kernel
  have succeeds :
      ((searchHost.makeDirectories (searchLog "").directory).run.run {}).1 = .ok () :=
    eq_ok_of_isOk (by decide +kernel)
  let m₁ := ((searchHost.makeDirectories (searchLog "").directory).run.run {}).2
  have can_write : m₁.CanWrite .lastPlane searchLogPath := by decide +kernel
  have nothing : m₁.contentAt searchLogPath = [] ∧ m₁.console = "" := by decide +kernel
  exact ⟨asked, m₁, Prod.ext succeeds rfl, can_write, nothing⟩

theorem file_keeps_messages_warn :
    let log := configured 30 (some searchLogPath)
    let messages : List Message := [⟨⟨"", "", ""⟩, 10, "x"⟩, ⟨⟨"", "", ""⟩, 40, "y"⟩]
    ∃ m₂, (configure searchHost (searchLog "Warn")).run.run {} =
      (.ok (log, some searchLogPath), m₂) ∧
      (log.emitAll .lastPlane m₂ messages).read searchLogPath =
        .ok "[DEBG] x\n[ERRO] y\n".toUTF8.toList ∧
      (log.emitAll .lastPlane m₂ messages).console = "[ERRO] y\n" := by
  intro log messages
  obtain ⟨asked, m₁, made, can_write, empty, quiet⟩ := searchLog_made "Warn"
  obtain ⟨s, m₂, meant, done, wrote, kept⟩ :=
    (file_keeps_messages asked made can_write).1 (by decide +kernel) (by decide +kernel)
  obtain rfl : s = .warning := by
    have name : capitals (searchLog "Warn").levelName = "WARN" := by decide +kernel
    rw [name] at meant
    rcases meant with named | ⟨-, unnamed⟩
    · cases s with
      | warning => rfl
      | _ => exact absurd named (by decide)
    · exact absurd (by decide) (unnamed .warning)
  refine ⟨m₂, done, ?_, ?_⟩
  · refine (kept.file messages).trans (congrArg Except.ok ?_)
    rw [wrote.contentAt_eq, empty, List.nil_append]
    have lines : linesFrom Severity.debug.level (messages.filter (·.Whole .lastPlane)) =
        "[DEBG] x\n[ERRO] y\n" := by
      decide +kernel
    rw [lines]
  · have lines : linesFrom Severity.warning.level messages = "[ERRO] y\n" := by decide +kernel
    have console : m₂.console = m₁.console := by rw [wrote.rest]
    refine (kept.console messages).trans ?_
    rw [console, quiet, lines, String.empty_append]

/-- **A log without a level of its own loses messages**, and a name that is taken stops the program,
though in both cases the file can be made. -/
theorem file_loses_messages_when_unset :
    ∃ m₁ m₂, (searchHost.makeDirectories (searchLog "").directory).run.run {} = (.ok (), m₁) ∧
      m₁.CanWrite .lastPlane searchLogPath ∧
      (configure searchHost (searchLog "NOTSET")).run.run {} =
        (.ok (configured 0 (some searchLogPath), some searchLogPath), m₂) ∧
      ((configured 0 (some searchLogPath)).emitAll .lastPlane
        m₂ [⟨⟨"", "", ""⟩, 20, "x"⟩]).read searchLogPath = .ok [] ∧
      ((configured 0 (some searchLogPath)).emitAll .lastPlane
        m₂ [⟨⟨"", "", ""⟩, 20, "x"⟩]).console = "" ∧
      ∃ fault, (configure searchHost (searchLog "BASIC_FORMAT")).run.run {} =
        (.error fault, {}) := by
  obtain ⟨asked, m₁, made, can_write, empty, quiet⟩ := searchLog_made "NOTSET"
  obtain ⟨m₂, done, wrote⟩ :=
    configure_of_level (r := searchLog "NOTSET") (by rfl) asked made can_write
  have threshold : 0 < (configured 0 (some searchLogPath)).threshold := by decide
  have kept := (serves_configured threshold).keeps can_write.1 wrote.content
  have console : m₂.console = "" := by rw [wrote.rest, quiet]
  refine ⟨m₁, m₂, made, can_write, done, ?_, ?_, _, configure_of_error rfl⟩
  · refine (kept.file _).trans (congrArg Except.ok ?_)
    rw [wrote.contentAt_eq, empty, List.nil_append]
    exact Text.toList_toUTF8_empty
  · refine (kept.console _).trans ?_
    rw [console]
    rfl

end Log

end TradeJournal
