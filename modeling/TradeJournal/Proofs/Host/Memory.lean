import TradeJournal.Host.Memory
import TradeJournal.Proofs.Except
import TradeJournal.Proofs.Host.Run

/-!
# Files of a machine in memory

Where a path leads depends on the directories on the way alone, so it leads to the same place after
a file has been written there. A file can be written where a path can be asked for and leads to no
directory (`Memory.CanWrite`). Then every change of its content succeeds and changes nothing but
that file (`Memory.Wrote`), so that writes can be followed one after the other.
-/

namespace TradeJournal.Memory

variable {m m' : Memory} {path : String} {place : List String}

/-! ### Places -/

theorem kindAt?_eq_file_iff : m.kindAt? place = some .file ↔
    ∃ bytes, m.bytesAt? place = some bytes := by
  rw [kindAt?, ← Option.isSome_iff_exists]
  split
  · simp_all
  · split <;> simp_all

/-- **A path leads on as long as the directories on its way are there.** -/
theorem walk_of_directories
    (kept : ∀ q, m.kindAt? q = some .directory → m'.kindAt? q = some .directory)
    {names from_ goal : List String}
    (led : m.walk from_ names = .ok goal) : m'.walk from_ names = .ok goal := by
  -- Only a place that a name leads on from has to be a directory; the goal itself may be anything.
  induction names generalizing from_ with
  | nil => exact led
  | cons name rest ih =>
    rw [walk] at led ⊢
    cases kind : m.kindAt? from_ with
    | none =>
      rw [kind] at led
      cases led
    | some entry =>
      rw [kind] at led
      cases entry with
      | file => cases led
      | directory =>
        rw [kept from_ kind]
        dsimp only at led ⊢
        split at led
        · cases led
        · next short =>
          rw [if_neg short]
          exact ih led

theorem place_of_directories
    (kept : ∀ q, m.kindAt? q = some .directory → m'.kindAt? q = some .directory)
    (same : m'.workingDirectory = m.workingDirectory) (led : m.place path = .ok place) :
    m'.place path = .ok place := by
  rw [Memory.place] at led ⊢
  split at led
  · cases led
  · next short =>
    rw [if_neg short, origin, same]
    exact walk_of_directories kept led

/-- **A file is read where a path leads to one.** -/
theorem read_eq_ok {bytes : List UInt8} :
    m.read path = .ok bytes ↔ ∃ place, m.place path = .ok place ∧
      m.bytesAt? place = some bytes := by
  rw [read, bind_eq_ok]
  refine exists_congr fun place => and_congr_right fun _ => ?_
  cases there : m.bytesAt? place with
  | some bytes' => simp
  | none =>
    rw [kindAt?, there]
    split <;> simp_all

/-! ### One file -/

/-- **A machine on which one file has a new content**, all else being as before. -/
structure Rewrites (m m' : Memory) (place : List String) (content : List UInt8) : Prop where
  bytes : m'.bytesAt? place = some content
  others : ∀ q ≠ place, m'.bytesAt? q = m.bytesAt? q
  rest : m' = { m with files := m'.files }

/-- Directories stay directories when a file is written. -/
theorem Rewrites.directories {content : List UInt8} (h : Rewrites m m' place content)
    (no_directory : m.kindAt? place ≠ some .directory) (q : List String)
    (kind : m.kindAt? q = some .directory) : m'.kindAt? q = some .directory := by
  have elsewhere : q ≠ place := by
    rintro rfl
    exact no_directory kind
  have same : m'.directories = m.directories := by rw [h.rest]
  rw [kindAt?, h.others q elsewhere, same]
  exact kind

theorem lookup_cons_eq (e : List String × List UInt8) (rest : List (List String × List UInt8))
    (q : List String) :
    (e :: rest).lookup q = if q = e.1 then some e.2 else rest.lookup q := by
  rw [List.lookup_cons]
  by_cases own : q = e.1
  · simp [own]
  · simp [own, beq_eq_false_iff_ne.mpr own]

/-- What is found after the content at one place has changed. -/
theorem lookup_map_change (files : List (List String × List UInt8)) (f : List UInt8 → List UInt8)
    (q : List String) : (files.map fun e => if e.1 = place then (e.1, f e.2) else e).lookup q =
      if q = place then (files.lookup q).map f else files.lookup q := by
  induction files with
  | nil => simp
  | cons e rest ih =>
    rw [List.map_cons, lookup_cons_eq, lookup_cons_eq, ih]
    by_cases own : e.1 = place
    · rw [if_pos own]
      by_cases asked : q = e.1
      · rw [if_pos asked, if_pos asked, if_pos (asked.trans own)]
        rfl
      · have elsewhere : q ≠ place := fun here => asked (here.trans own.symm)
        simp only [if_neg asked, if_neg elsewhere]
    · rw [if_neg own]
      by_cases asked : q = e.1
      · have elsewhere : q ≠ place := fun here => own (asked.symm.trans here)
        simp only [if_pos asked, if_neg elsewhere]
      · simp only [if_neg asked]

/-- A file is made at the end. -/
theorem lookup_append_new {files : List (List String × List UInt8)}
    (missing : files.lookup place = none)
    (bytes : List UInt8) (q : List String) : (files ++ [(place, bytes)]).lookup q =
      if q = place then some bytes else files.lookup q := by
  induction files with
  | nil => simpa using lookup_cons_eq (place, bytes) [] q
  | cons e rest ih =>
    rw [lookup_cons_eq] at missing
    split at missing
    · cases missing
    · next other =>
      rw [List.cons_append, lookup_cons_eq, lookup_cons_eq, ih missing]
      by_cases asked : q = e.1
      · have elsewhere : q ≠ place := fun here => other (here.symm.trans asked)
        simp only [if_pos asked, if_neg elsewhere]
      · simp only [if_neg asked]

/-- **What a change of a file is.** -/
theorem rewrites_of_change {f : List UInt8 → List UInt8} (changed : m.change path f = .ok m') :
    ∃ place, m.place path = .ok place ∧ m.kindAt? place ≠ some .directory ∧
      Rewrites m m' place (f ((m.bytesAt? place).getD [])) := by
  obtain ⟨place, led, changed⟩ := bind_eq_ok.mp changed
  refine ⟨place, led, ?_⟩
  cases kind : m.kindAt? place with
  | none =>
    have missing : m.bytesAt? place = none := by
      refine Option.eq_none_iff_forall_ne_some.mpr fun bytes there => ?_
      rw [kindAt?_eq_file_iff.mpr ⟨bytes, there⟩] at kind
      cases kind
    rw [kind] at changed
    cases changed
    refine ⟨nofun, ?_, ?_, rfl⟩
    · rw [missing, bytesAt?, lookup_append_new missing, if_pos rfl]
      rfl
    · intro q elsewhere
      rw [bytesAt?, lookup_append_new missing, if_neg elsewhere]
      rfl
  | some entry =>
    rw [kind] at changed
    cases entry with
    | directory => cases changed
    | file =>
      cases changed
      obtain ⟨bytes, there⟩ := kindAt?_eq_file_iff.mp kind
      refine ⟨nofun, ?_, ?_, rfl⟩
      · have found : m.files.lookup place = some bytes := there
        rw [there, bytesAt?, lookup_map_change, if_pos rfl, found]
        rfl
      · intro q elsewhere
        rw [bytesAt?, lookup_map_change, if_neg elsewhere]
        rfl

/-- A change succeeds where a path leads to no directory. -/
theorem exists_change (led : m.place path = .ok place)
    (no_directory : m.kindAt? place ≠ some .directory)
    (f : List UInt8 → List UInt8) : ∃ m', m.change path f = .ok m' := by
  rw [change, led]
  cases kind : m.kindAt? place with
  | none => exact ⟨_, by simp only [bind, Except.bind, kind]; rfl⟩
  | some entry =>
    cases entry with
    | directory => exact absurd kind no_directory
    | file => exact ⟨_, by simp only [bind, Except.bind, kind]; rfl⟩

/-! ### Writing -/

/-- The content of the file that a path leads to; a file that is missing has none. -/
def contentAt (m : Memory) (path : String) : List UInt8 := (m.read path).toOption.getD []

variable (coding : Text.HalfCoding)

/-- **Whether a file can be written**: its path can be asked for, and leads to no directory. -/
def CanWrite (m : Memory) (path : String) : Prop :=
  checkedPath coding path = .ok () ∧ ∃ place, m.place path = .ok place ∧
    m.kindAt? place ≠ some .directory

instance (m : Memory) (path : String) : Decidable (m.CanWrite coding path) :=
  match checked : checkedPath coding path, led : m.place path with
  | .ok _, .ok place =>
    decidable_of_iff (m.kindAt? place ≠ some .directory)
      ⟨fun no_directory => ⟨checked, place, led, no_directory⟩, fun ⟨_, _, led', no_directory⟩ =>
        (Except.ok.inj (led'.symm.trans led)) ▸ no_directory⟩
  | .error _, _ => isFalse fun ⟨asked, _⟩ => nomatch checked.symm.trans asked
  | .ok _, .error _ => isFalse fun ⟨_, _, led', _⟩ => nomatch led.symm.trans led'

variable {coding}

/-- **A machine on which a file has been written**, all else being as before. -/
structure Wrote (m m' : Memory) (path : String) (content : List UInt8) : Prop where
  content : m'.read path = .ok content
  rest : m' = { m with files := m'.files }

theorem contentAt_of_read {content : List UInt8} (there : m.read path = .ok content) :
    m.contentAt path = content := by
  rw [contentAt, there]
  rfl

theorem Wrote.contentAt_eq {content : List UInt8} (h : Wrote m m' path content) :
    m'.contentAt path = content :=
  contentAt_of_read h.content

/-- What has been read can be written, if its path can be asked for. -/
theorem canWrite_of_read {bytes : List UInt8} (checked : checkedPath coding path = .ok ())
    (there : m.read path = .ok bytes) : m.CanWrite coding path := by
  obtain ⟨place, led, found⟩ := read_eq_ok.mp there
  refine ⟨checked, place, led, ?_⟩
  rw [kindAt?_eq_file_iff.mpr ⟨bytes, found⟩]
  nofun

theorem Wrote.trans {m'' : Memory} {first second : List UInt8} (h : Wrote m m' path first)
    (h' : Wrote m' m'' path second) : Wrote m m'' path second :=
  ⟨h'.content, by rw [h'.rest, h.rest]⟩

/-- **What is asked for under a path that can be asked for** is done or not done at all. -/
theorem run_changing (checked : checkedPath coding path = .ok ())
    (f : Memory → Except FileFault Memory) :
    (changing coding path f).run.run m =
      match f m with
      | .ok changed => (Except.ok (), changed)
      | .error fault => (.error fault, m) := by
  rw [changing, run_bind, run_known, checked]
  rfl

theorem contentAt_of_place (led : m.place path = .ok place) :
    m.contentAt path = (m.bytesAt? place).getD [] := by
  cases there : m.bytesAt? place with
  | some bytes => exact contentAt_of_read (read_eq_ok.mpr ⟨place, led, there⟩)
  | none =>
    rw [contentAt]
    cases found : m.read path with
    | error cause => rfl
    | ok bytes =>
      obtain ⟨place', led', there'⟩ := read_eq_ok.mp found
      obtain rfl : place' = place := Except.ok.inj (led'.symm.trans led)
      cases there.symm.trans there'

namespace CanWrite

variable (h : m.CanWrite coding path)
include h

/-- **Every change of a content succeeds**, and changes that content alone. -/
theorem changingFile (f : List UInt8 → List UInt8) : ∃ m',
    (changingFile coding path f).run.run m = (.ok (), m') ∧
    Wrote m m' path (f (m.contentAt path)) := by
  obtain ⟨checked, place, led, no_directory⟩ := h
  obtain ⟨m', changed⟩ := exists_change led no_directory f
  refine ⟨m', by rw [Memory.changingFile, run_changing checked, changed]; rfl, ?_⟩
  obtain ⟨place', led', -, rewritten⟩ := rewrites_of_change changed
  obtain rfl : place' = place := Except.ok.inj (led'.symm.trans led)
  have same : m'.workingDirectory = m.workingDirectory := by rw [rewritten.rest]
  have led_again := place_of_directories (rewritten.directories no_directory) same led
  rw [contentAt_of_place led]
  exact ⟨read_eq_ok.mpr ⟨_, led_again, rewritten.bytes⟩, rewritten.rest⟩

theorem after {content : List UInt8} (wrote : Wrote m m' path content) : m'.CanWrite coding path :=
  canWrite_of_read h.1 wrote.content

/-- **A text that has bytes becomes the content of its file.** -/
theorem writeFile {content : String} {bytes : List UInt8}
    (has_bytes : encoded coding content = .ok bytes) :
    ∃ m', ((host coding).writeFile path content).run.run m = (.ok (), m') ∧
      Wrote m m' path bytes := by
  -- The file is emptied first, and can still be written then.
  obtain ⟨m₁, emptied, wrote₁⟩ := h.changingFile fun _ => []
  obtain ⟨m₂, written, wrote₂⟩ := (h.after wrote₁).changingFile fun _ => bytes
  refine ⟨m₂, ?_, wrote₁.trans wrote₂⟩
  change (Memory.changingFile coding path (fun _ => []) >>= fun _ => _).run.run m = _
  rw [run_bind_of_ok emptied, has_bytes]
  exact written

/-- A text without bytes leaves an empty file. -/
theorem writeFile_of_error {content : String} {fault : FileFault}
    (no_bytes : encoded coding content = .error fault) :
    ∃ m', ((host coding).writeFile path content).run.run m = (.error fault, m') ∧
      Wrote m m' path [] := by
  obtain ⟨m₁, emptied, wrote₁⟩ := h.changingFile fun _ => []
  refine ⟨m₁, ?_, wrote₁⟩
  change (Memory.changingFile coding path (fun _ => []) >>= fun _ => _).run.run m = _
  rw [run_bind_of_ok emptied, no_bytes]
  rfl

/-- **A text that has bytes is added to the content of its file.** -/
theorem appendFile {content : String} {bytes : List UInt8}
    (has_bytes : encoded coding content = .ok bytes) :
    ∃ m', ((host coding).appendFile path content).run.run m = (.ok (), m') ∧
      Wrote m m' path (m.contentAt path ++ bytes) := by
  obtain ⟨m', added, wrote⟩ := h.changingFile (· ++ bytes)
  refine ⟨m', ?_, wrote⟩
  change (ExceptT.mk (pure (encoded coding content)) >>= fun bytes =>
    Memory.changingFile coding path (· ++ bytes)).run.run m = _
  rw [has_bytes]
  exact added

end CanWrite

/-! ### Two files -/

/-- **Whether two paths lead to different places**, as far as they lead anywhere. -/
def Apart (m : Memory) (path other : String) : Prop :=
  ∀ place, m.place path = .ok place → m.place other ≠ .ok place

/-- No other place becomes a directory when a file is written. -/
theorem Rewrites.directories_before {content : List UInt8} (h : Rewrites m m' place content)
    (q : List String)
    (kind : m'.kindAt? q = some .directory) : m.kindAt? q = some .directory := by
  have elsewhere : q ≠ place := by
    rintro rfl
    rw [kindAt?_eq_file_iff.mpr ⟨content, h.bytes⟩] at kind
    cases kind
  have same : m'.directories = m.directories := by rw [h.rest]
  rw [kindAt?, h.others q elsewhere, same] at kind
  exact kind

/-- A text without bytes is not added to a file. -/
theorem run_appendFile_of_error {text : String} {fault : FileFault}
    (no_bytes : encoded coding text = .error fault) :
    ((host coding).appendFile path text).run.run m = (.error fault, m) := by
  change (ExceptT.mk (pure (encoded coding text)) >>= fun bytes =>
    Memory.changingFile coding path (· ++ bytes)).run.run m = _
  rw [run_bind, run_known, no_bytes]

/-- A text is added to a file or nothing is changed. -/
theorem run_appendFile_cases (m : Memory) (path text : String) :
    (((host coding).appendFile path text).run.run m).2 = m ∨
      ∃ f, m.change path f = .ok (((host coding).appendFile path text).run.run m).2 := by
  cases has_bytes : encoded coding text with
  | error fault => exact Or.inl (congrArg Prod.snd (run_appendFile_of_error has_bytes))
  | ok bytes =>
    generalize done : ((host coding).appendFile path text).run.run m = result
    change (ExceptT.mk (pure (encoded coding text)) >>= fun bytes =>
      Memory.changingFile coding path (· ++ bytes)).run.run m = result at done
    rw [run_bind, run_known, has_bytes] at done
    dsimp only [Memory.changingFile] at done
    cases checked : checkedPath coding path with
    | error fault =>
      rw [changing, run_bind, run_known, checked] at done
      exact Or.inl (congrArg Prod.snd done).symm
    | ok _ =>
      rw [run_changing checked] at done
      cases changed : m.change path (· ++ bytes) with
      | error cause =>
        rw [changed] at done
        exact Or.inl (congrArg Prod.snd done).symm
      | ok m' =>
        rw [changed] at done
        exact Or.inr ⟨_, changed.trans (congrArg Except.ok (congrArg Prod.snd done))⟩

/-- **What is added to one file is not in another.** -/
theorem read_of_change_apart {other : String} {f : List UInt8 → List UInt8} {bytes : List UInt8}
    (changed : m.change other f = .ok m') (apart : m.Apart other path)
    (there : m.read path = .ok bytes) :
    m'.read path = .ok bytes := by
  -- The path leads where it led before, since no directory has gone, and the file there is not the
  -- one changed.
  obtain ⟨q, led', no_directory, rewritten⟩ := rewrites_of_change changed
  obtain ⟨place, led, found⟩ := read_eq_ok.mp there
  have elsewhere : place ≠ q := by
    rintro rfl
    exact apart _ led' led
  have same : m'.workingDirectory = m.workingDirectory := by rw [rewritten.rest]
  exact read_eq_ok.mpr ⟨place, place_of_directories (rewritten.directories no_directory) same led,
    (rewritten.others place elsewhere).trans found⟩

/-- Paths stay apart when a file is written. -/
theorem Apart.change {one other third : String} {f : List UInt8 → List UInt8}
    (apart : m.Apart one other)
    (changed : m.change third f = .ok m') : m'.Apart one other := by
  obtain ⟨q, -, -, rewritten⟩ := rewrites_of_change changed
  have same : m.workingDirectory = m'.workingDirectory := by rw [rewritten.rest]
  intro place led led'
  exact apart place (place_of_directories rewritten.directories_before same led)
    (place_of_directories rewritten.directories_before same led')

/-! ### Directories -/

/-- **Making directories changes nothing but directories.** -/
theorem rest_of_makeAlong {made : Bool} {from_ passed names : List String}
    (done : m.makeAlong made from_ passed names = .ok m') :
    m' = { m with directories := m'.directories } := by
  induction names generalizing m made from_ passed with
  | nil =>
    cases done
    rfl
  | cons name rest ih =>
    rw [makeAlong] at done
    split at done
    · cases done
    · split at done
      · exact ih done
      · cases done
      · rw [ih done]

theorem rest_of_makeDirectories {result : Except FileFault Unit}
    (done : ((host coding).makeDirectories path).run.run m = (result, m')) :
    m' = { m with directories := m'.directories } := by
  change (changing coding path (·.makeDirectories path)).run.run m = _ at done
  cases checked : checkedPath coding path with
  | error fault =>
    rw [changing, run_bind, run_known, checked] at done
    obtain ⟨-, rfl⟩ := Prod.mk.inj done
    rfl
  | ok _ =>
    rw [run_changing checked] at done
    split at done
    · next changed made =>
      obtain ⟨-, rfl⟩ := Prod.mk.inj done
      rw [Memory.makeDirectories] at made
      split at made
      · cases made
      · cases along : m.makeAlong false (m.origin path) [] (Path.parts path) with
        | error fault =>
          rw [along] at made
          cases made
        | ok made' =>
          rw [along] at made
          cases made
          exact rest_of_makeAlong along
    · obtain ⟨-, rfl⟩ := Prod.mk.inj done
      rfl

/-! ### The console and the time -/

theorem run_stamp {ε : Type} (m : Memory) :
    (liftM (host coding).stamp : ExceptT ε (StateM Memory) Stamp).run.run m = (.ok m.stamp, m) :=
  rfl

section

variable (text : String) (stamp : Stamp)

theorem walk_withConsole (from_ names : List String) :
    { m with console := text, stamp := stamp }.walk from_ names = m.walk from_ names := by
  induction names generalizing from_ with
  | nil => rfl
  | cons name rest ih => simp only [walk, ih]; rfl

theorem place_withConsole : { m with console := text, stamp := stamp }.place path =
    m.place path := by
  rw [Memory.place, Memory.place]
  split
  · rfl
  · exact walk_withConsole text stamp _ _

/-- **What is on the console is in no file**, and neither is the time. -/
theorem read_withConsole : { m with console := text, stamp := stamp }.read path = m.read path := by
  rw [read, read, place_withConsole]
  rfl

end

end TradeJournal.Memory
