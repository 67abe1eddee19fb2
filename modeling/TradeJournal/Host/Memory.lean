import TradeJournal.Host
import TradeJournal.Path

/-!
# A host in memory

Files as a value: every place below the root of all paths holds a file, a directory, or nothing.
A place is the list of names that lead to it from the root. A path that does not begin
at the root begins in the working directory. The console is the text that was put on it.
-/

namespace TradeJournal

/-- **A machine in memory.** -/
structure Memory where
  files : List (List String × List UInt8) := []
  directories : List (List String) := []
  workingDirectory : List String := []
  console : String := ""
  stamp : Stamp := ⟨"", "", ""⟩
  deriving Repr

namespace Memory

/-- The bytes of the file at a place. -/
def bytesAt? (m : Memory) (place : List String) : Option (List UInt8) := m.files.lookup place

/-- What is at a place. -/
def kindAt? (m : Memory) (place : List String) : Option EntryKind :=
  if (m.bytesAt? place).isSome then some .file
  else if place = [] ∨ place ∈ m.directories then some .directory
  else none

/-- The most bytes that a name may have. -/
def maxNameBytes : Nat := 255

/-- The most bytes that a path may have. -/
def maxPathBytes : Nat := 4095

/-- The place that a name leads to from another; two points lead back. -/
def step (place : List String) (name : String) : List String :=
  if name = ".." then place.dropLast else place ++ [name]

/-- The place that a path begins at. -/
def origin (m : Memory) (path : String) : List String :=
  if Path.root path = "" then m.workingDirectory else []

/-- Going from a place along names; all places on the way have to be directories, the last one need
not be there. -/
def walk (m : Memory) (place : List String) : List String → Except FileCause (List String)
  | [] => .ok place
  | name :: rest =>
    match m.kindAt? place with
    | none => .error .missing
    | some .file => .error .notDirectory
    | some .directory =>
      if maxNameBytes < name.utf8ByteSize then .error .nameTooLong
      else m.walk (step place name) rest

/-- **The place that a path leads to.** -/
def place (m : Memory) (path : String) : Except FileCause (List String) :=
  if maxPathBytes < path.utf8ByteSize then .error .nameTooLong
  else m.walk (m.origin path) (Path.parts path)

/-- The bytes of the file that a path leads to. -/
def read (m : Memory) (path : String) : Except FileCause (List UInt8) := do
  let place ← m.place path
  match m.bytesAt? place, m.kindAt? place with
  | some bytes, _ => .ok bytes
  | none, some .directory => .error .directory
  | none, _ => .error .missing

/-- What a path leads to. -/
def kindOf (m : Memory) (path : String) : Option EntryKind :=
  match m.place path with
  | .ok place => m.kindAt? place
  | .error _ => none

/-- Replaces the content of the file that a path leads to by what becomes of it; a new file begins
empty. -/
def change (m : Memory) (path : String) (f : List UInt8 → List UInt8) :
    Except FileCause Memory := do
  let place ← m.place path
  match m.kindAt? place with
  | some .directory => .error .directory
  | some .file =>
    .ok { m with files := m.files.map fun e => if e.1 = place then (e.1, f e.2) else e }
  | none => .ok { m with files := m.files ++ [(place, f [])] }

/-- Makes the directories along names from a place on, as far as they are missing. A fault comes
with the names up to the one that it is found at. As long as nothing had to be made, it is one of
the whole path. -/
def makeAlong (m : Memory) (made : Bool) (place passed : List String) :
    List String → Except (FileCause × Option (List String)) Memory
  | [] => .ok m
  | name :: rest =>
    let next := step place name
    let found := if made then some (passed ++ [name]) else none
    if maxNameBytes < name.utf8ByteSize then .error (.nameTooLong, found)
    else
      match m.kindAt? next with
      | some .directory => m.makeAlong made next (passed ++ [name]) rest
      | some .file => .error (if made ∨ rest = [] then .occupied else .notDirectory, found)
      | none =>
        { m with directories := m.directories ++ [next] }.makeAlong true next
          (passed ++ [name]) rest

/-- **Makes a directory and those above it**, as far as they are missing. -/
def makeDirectories (m : Memory) (path : String) : Except FileFault Memory :=
  if maxPathBytes < path.utf8ByteSize then .error (.refused .nameTooLong path)
  else
    (m.makeAlong false (m.origin path) [] (Path.parts path)).mapError fun (cause, names) =>
      .refused cause ((names.map (Path.spell (Path.root path))).getD path)

/-- The machine with the given files, which make the directories that they lie in. -/
def ofFiles (m : Memory) (files : List (String × List UInt8)) : Except FileFault Memory :=
  files.foldlM
    (fun m file => do
      (← m.makeDirectories (Path.parent file.1)).change file.1 (fun _ => file.2)
        |>.mapError (.refused · file.1)) m

/-! ### The host -/

section

variable (coding : Text.HalfCoding)

/-- An operation that finds something out. -/
def finding {α : Type} (path : String) (f : Memory → Except FileCause α) :
    ExceptT FileFault (StateM Memory) α := do
  ExceptT.mk (pure (checkedPath coding path))
  ExceptT.mk fun m => ((f m).mapError (.refused · path), m)

/-- An operation that changes files; one that fails changes nothing. -/
def changing (path : String) (f : Memory → Except FileFault Memory) :
    ExceptT FileFault (StateM Memory) Unit := do
  ExceptT.mk (pure (checkedPath coding path))
  ExceptT.mk fun m =>
    match f m with
    | .ok changed => (.ok (), changed)
    | .error fault => (.error fault, m)

/-- Changes the content of a file. -/
def changingFile (path : String) (f : List UInt8 → List UInt8) :
    ExceptT FileFault (StateM Memory) Unit :=
  changing coding path fun m => (m.change path f).mapError (.refused · path)

/-- **The host in memory.** A file is there from the moment on that it is written to, even if the
content turns out to have no bytes. Nothing is held back, so closing a file does nothing. -/
def host : Host (StateM Memory) where
  readFile path := finding coding path (·.read path)
  kindAt path := finding coding path fun m => .ok (m.kindOf path)
  makeDirectories path := changing coding path (·.makeDirectories path)
  writeFile path content := do
    changingFile coding path fun _ => []
    let bytes ← ExceptT.mk (pure (encoded coding content))
    changingFile coding path fun _ => bytes
  appendFile path content := do
    let bytes ← ExceptT.mk (pure (encoded coding content))
    changingFile coding path (· ++ bytes)
  closeFile _ := pure ()
  print text m := ((), { m with console := m.console ++ text })
  stamp m := (m.stamp, m)

end

end Memory

end TradeJournal
