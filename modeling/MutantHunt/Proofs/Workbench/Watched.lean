import MutantHunt.Workbench

/-!
# Watching a host

`Host.watched` is a host that writes down everything it is asked for, with its answers.  What a
bench does can then be told from the calls that it makes: `Does` says how an act of a bench ends, and
which calls it makes of a host that is watched.

## Main results

* `does_noting` — one call.
* `Does.bind`, `Does.bind_error` — one act after the other.
-/

namespace MutantHunt

/-- Something that a host was asked for, with the answer. -/
inductive HostCall where
  | ranWithin (command : Command) (limit : Duration) (capture : Bool)
    (answer : Except OsError Ending)
  | ran (command : Command) (answer : Except OsError Bool)
  | read (path : String) (answer : Except OsError (List UInt8))
  | wrote (path : String) (content : List UInt8) (answer : Except OsError Unit)
  | copied (source destination : String) (answer : Except OsError Unit)
  | removed (path : String) (answer : Except OsError Unit)
  | madeDirectories (path : String) (answer : Except OsError Unit)
  | madeExecutable (path : String) (answer : Except OsError Unit)

/-- A world together with the calls that were made of its host, latest first. -/
structure Watched (σ : Type) where
  world : σ
  calls : List HostCall := []

/-- Performs an act of the world and writes its answer down. -/
def Watched.noting {σ α : Type} (call : Except OsError α → HostCall) (act : Act OsError σ α) :
    Act OsError (Watched σ) α := fun s =>
  match act s.world with
  | (answer, world) => (answer, { world, calls := call answer :: s.calls })

/-- The host, with everything it is asked for written down. -/
def Host.watched {σ : Type} (host : Host σ) : Host (Watched σ) where
  runWithin command limit capture :=
    Watched.noting (.ranWithin command limit capture) (host.runWithin command limit capture)
  run command := Watched.noting (.ran command) (host.run command)
  read path := Watched.noting (.read path) (host.read path)
  write path content := Watched.noting (.wrote path content) (host.write path content)
  copy source destination :=
    Watched.noting (.copied source destination) (host.copy source destination)
  remove path := Watched.noting (.removed path) (host.remove path)
  createDirectories path := Watched.noting (.madeDirectories path) (host.createDirectories path)
  makeExecutable path := Watched.noting (.madeExecutable path) (host.makeExecutable path)

/-- The same bench, with its host watched. -/
def Workbench.watched {σ : Type} (bench : Workbench σ) : Workbench (Watched σ) where
  host := bench.host.watched
  tools := bench.tools
  directory := bench.directory
  timeouts := bench.timeouts
  mismatch := bench.mismatch

/-- How an act ends, and which calls it makes, latest first, where the host is watched. -/
structure Does {ε σ α : Type} (act : Act ε σ α) (watched : Act ε (Watched σ) α) (s : σ)
    (result : Except ε α) (t : σ) (calls : List HostCall) : Prop where
  ends : act s = (result, t)
  asks : ∀ earlier, watched ⟨s, earlier⟩ = (result, ⟨t, calls ++ earlier⟩)

section Acts

variable {ε σ α β : Type} {s t u : σ} {calls more : List HostCall}

theorem does_pure (a : α) : Does (ε := ε) (pure a) (pure a) s (.ok a) s [] :=
  ⟨rfl, fun _ => rfl⟩

theorem does_lift (result : Except ε α) : Does (Act.lift result) (Act.lift result) s result s [] :=
  ⟨rfl, fun _ => rfl⟩

/-- One call. -/
theorem does_noting {act : Act OsError σ α} {answer : Except OsError α}
    (hact : act s = (answer, t)) (call : Except OsError α → HostCall) :
    Does act (Watched.noting call act) s answer t [call answer] := by
  refine ⟨hact, fun earlier => ?_⟩
  rw [Watched.noting, hact]
  rfl

/-- One act after the other. -/
theorem Does.bind {act : Act ε σ α} {watched : Act ε (Watched σ) α} {a : α}
    (hact : Does act watched s (.ok a) t calls) {next : α → Act ε σ β}
    {watchedNext : α → Act ε (Watched σ) β} {result : Except ε β}
    (hnext : Does (next a) (watchedNext a) t result u more) :
    Does (act >>= next) (watched >>= watchedNext) s result u (more ++ calls) where
  ends := (Act.bind_of_ok hact.ends next).trans hnext.ends
  asks earlier := by
    rw [Act.bind_of_ok (hact.asks earlier), hnext.asks, List.append_assoc]

/-- One act after one that makes no calls. -/
theorem Does.bind_silent {act : Act ε σ α} {watched : Act ε (Watched σ) α} {a : α}
    (hact : Does act watched s (.ok a) t []) {next : α → Act ε σ β}
    {watchedNext : α → Act ε (Watched σ) β} {result : Except ε β}
    (hnext : Does (next a) (watchedNext a) t result u more) :
    Does (act >>= next) (watched >>= watchedNext) s result u more :=
  List.append_nil more ▸ hact.bind hnext

/-- After a failure nothing more is done. -/
theorem Does.bind_error {act : Act ε σ α} {watched : Act ε (Watched σ) α} {e : ε}
    (hact : Does act watched s (.error e) t calls) (next : α → Act ε σ β)
    (watchedNext : α → Act ε (Watched σ) β) :
    Does (act >>= next) (watched >>= watchedNext) s (.error e) t calls where
  ends := Act.bind_of_error hact.ends next
  asks earlier := Act.bind_of_error (hact.asks earlier) watchedNext

/-- Failures in another form. -/
theorem Does.mapError {ε' : Type} {act : Act ε σ α} {watched : Act ε (Watched σ) α}
    {result : Except ε α} (hact : Does act watched s result t calls) (wrap : ε → ε') :
    Does (act.mapError wrap) (watched.mapError wrap) s (result.mapError wrap) t calls where
  ends := by rw [Act.mapError, hact.ends]
  asks earlier := by rw [Act.mapError, hact.asks]

end Acts

namespace Workbench

variable {σ : Type} {bench : Workbench σ} {s t : σ}

/-- A process of the bench. -/
theorem does_runWithin {command : Command} {limit : Duration} {capture : Bool}
    {answer : Except OsError Ending}
    (hrun : bench.host.runWithin command limit capture s = (answer, t)) :
    Does (bench.runWithin command limit capture) (bench.watched.runWithin command limit capture) s
      (answer.mapError (.refused ("failed to run " ++ command.label))) t
      [.ranWithin command limit capture answer] :=
  (does_noting hrun (.ranWithin command limit capture)).mapError _

end Workbench

end MutantHunt
