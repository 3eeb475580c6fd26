import MutantHunt.Workbench

/-!
# Workbenches on a folder

The least that a workbench needs of a machine is a folder: for each path, what the file there
holds, if there is one.  Everything that is started there is a function from the files that it is shown to
how it finishes and what it changes (`Processes`).  There is one path under which nothing is shown to
a process, except to the one that is started from there: the path of an executable that the others
do not read.

The times that are measured come from a clock of which nothing is known.

## Main results

* `run_congr` — what a process does where only the hidden file is different.
* `agreeOff_change`, `eq_of_agreeOff_change` — what the same changes leave of such a difference.
-/

namespace MutantHunt

/-- What the file under each path holds. -/
abbrev Folder := String → Option (List UInt8)

/-- What a process does to the files.  Of a path that it leaves alone nothing is said; otherwise it
is said what the file there holds afterwards, or that there is none. -/
abbrev Changes := String → Option (Option (List UInt8))

namespace Folder

/-- The folder with something else, or nothing, under a path. -/
def put (path : String) (content : Option (List UInt8)) (files : Folder) : Folder := fun name =>
  if name = path then content else files name

/-- The folder after changes. -/
def change (files : Folder) (changes : Changes) : Folder := fun name =>
  (changes name).getD (files name)

/-- The folders are the same but for what is under a path. -/
def AgreeOff (path : String) (files files' : Folder) : Prop :=
  ∀ name, name ≠ path → files name = files' name

variable {path : String} {files files' : Folder}

theorem put_eq_of_agreeOff (hagree : AgreeOff path files files')
    (content : Option (List UInt8)) : files.put path content = files'.put path content := by
  funext name
  unfold put
  split
  · rfl
  · next hname => exact hagree name hname

theorem agreeOff_change (hagree : AgreeOff path files files') (changes : Changes) :
    AgreeOff path (files.change changes) (files'.change changes) := by
  intro name hname
  rw [change, change, hagree name hname]

theorem change_of_none {changes : Changes} (huntouched : changes path = none) :
    files.change changes path = files path := by
  rw [change, huntouched]
  rfl

/-- Changes to the only file that is different leave no difference. -/
theorem eq_of_agreeOff_change (hagree : AgreeOff path files files') {changes : Changes}
    (htouched : (changes path).isSome = true) : files.change changes = files'.change changes := by
  funext name
  by_cases hname : name = path
  · obtain ⟨content, hcontent⟩ := Option.isSome_iff_exists.mp htouched
    rw [change, change, hname, hcontent]
    rfl
  · exact agreeOff_change hagree changes name hname

end Folder

/-- How a process finishes, with what it prints. -/
inductive Finish where
  | unstartable (cause : OsError)
  | timedOut
  | completed (success : Bool) (output : List UInt8)
  deriving DecidableEq, Repr

/-- The answer to who runs a process and measures its time.  What it prints is lost unless it is
asked for. -/
def Finish.answer (elapsed : Duration) (capture : Bool) : Finish → Except OsError Ending
  | unstartable cause => .error cause
  | timedOut => .ok .timedOut
  | completed success output => .ok (.completed success (if capture then output else []) elapsed)

/-- How the processes behave that are started: given a command, a time limit and the files. -/
abbrev Processes := Command → Duration → Folder → Finish × Changes

namespace Processes

variable (processes : Processes)

/-- Starts a process.  It is not shown the hidden file unless it is started from there, and for that
there must be one. -/
def run (hidden : String) (command : Command) (limit : Duration) (files : Folder) :
    Finish × Changes :=
  if command.program = hidden then
    if (files hidden).isSome then processes command limit files
    else (.unstartable .notFound, fun _ => none)
  else processes command limit (files.put hidden none)

variable {processes} {hidden : String} {command : Command} {limit : Duration}
  {files files' : Folder}

theorem run_of_ne (hprogram : command.program ≠ hidden) :
    processes.run hidden command limit files =
      processes command limit (files.put hidden none) :=
  if_neg hprogram

/-- Only what is started from the hidden file depends on it. -/
theorem run_congr (hagree : Folder.AgreeOff hidden files files')
    (hprogram : command.program ≠ hidden) :
    processes.run hidden command limit files = processes.run hidden command limit files' := by
  rw [run_of_ne hprogram, run_of_ne hprogram, Folder.put_eq_of_agreeOff hagree]

end Processes

/-- A folder with a clock, which shows one time after the other. -/
structure Site where
  files : Folder
  times : Nat → Duration

namespace Site

/-- The site after a process whose time was measured. -/
def after (s : Site) (changes : Changes) : Site where
  files := s.files.change changes
  times n := s.times (n + 1)

/-- The site with something else under a path. -/
def put (path : String) (content : Option (List UInt8)) (s : Site) : Site :=
  { s with files := s.files.put path content }

/-- What a file holds. -/
def read (path : String) : Act OsError Site (List UInt8) := fun s =>
  ((s.files path).elim (.error .notFound) .ok, s)

end Site

/-- A machine with nothing but files, on which processes behave as given. -/
def Processes.host (processes : Processes) (hidden : String) : Host Site where
  runWithin command limit capture s :=
    let (finish, changes) := processes.run hidden command limit s.files
    (finish.answer (s.times 0) capture, s.after changes)
  run command s :=
    let (finish, changes) := processes.run hidden command default s.files
    match finish with
    | .unstartable cause => (.error cause, s)
    | .timedOut => (.ok false, s.after changes)
    | .completed success _ => (.ok success, s.after changes)
  read := Site.read
  write path content s := (.ok (), s.put path (some content))
  copy source destination := do
    let content ← Site.read source
    Act.modify (Site.put destination (some content))
  remove path := do
    let _ ← Site.read path
    Act.modify (Site.put path none)
  createDirectories _ := pure ()
  makeExecutable path := do
    let _ ← Site.read path
    pure ()

/-- Where there is no file, there is none left behind either. -/
theorem Site.put_none {path : String} {s : Site} (hmissing : s.files path = none) :
    s.put path none = s := by
  have hfiles : s.files.put path none = s.files := by
    funext name
    unfold Folder.put
    split
    · next hname => rw [hname, hmissing]
    · rfl
  rw [Site.put, hfiles]

/-- Removing a file fails only if there is none. -/
theorem Processes.remove_eq (processes : Processes) (hidden path : String) (s : Site) :
    (processes.host hidden).remove path s =
      ((s.files path).elim (.error .notFound) fun _ => .ok (), s.put path none) := by
  have hread : Site.read path s = ((s.files path).elim (.error .notFound) .ok, s) := rfl
  cases hfile : s.files path with
  | none =>
      rw [hfile] at hread
      rw [Site.put_none hfile]
      exact Act.bind_of_error hread _
  | some content =>
      rw [hfile] at hread
      exact Act.bind_of_ok hread _

namespace Workbench

variable {σ : Type} (bench : Workbench σ)

/-- The same bench on a folder, where no process reads the baseline executable but the one that runs
it. -/
def onFolder (processes : Processes) : Workbench Site where
  host := processes.host bench.baselineExecutable
  tools := bench.tools
  directory := bench.directory
  timeouts := bench.timeouts
  mismatch := bench.mismatch

@[simp] theorem onFolder_baselineExecutable (processes : Processes) :
    (bench.onFolder processes).baselineExecutable = bench.baselineExecutable := rfl

/-- Processes that succeed, change nothing and print the file that they are started from. -/
def idleProcesses : Processes := fun command _ files =>
  (.completed true ((files command.program).getD []), fun _ => none)

/-- A bench for them. -/
def idleBench : Workbench Site where
  host := idleProcesses.host ""
  tools := ⟨"bin/cc", "csmith"⟩
  directory := "work"
  timeouts := {}
  mismatch := .kill

end Workbench

end MutantHunt
