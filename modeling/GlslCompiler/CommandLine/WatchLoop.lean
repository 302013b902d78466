import GlslCompiler.CommandLine.Watch

/-!
# The watch loop, step by step

The observer runs beside the loop: a report may come between any two steps of the loop, also between the
test of the pending change and its reset, and while a source is read or compiled. Here the loop is cut
into these steps. Whoever runs it mixes them with the reports and the changes of the files.
-/

namespace GlslCompiler.Watch

variable {σ ε : Type}

/-- Where the loop is. -/
inductive Phase where
  /-- A rebuild is due, and the read of its source has not begun. -/
  | committed
  | reading
  | compiling (request : Request)
  /-- The first build is over. -/
  | announcing
  | testing
  /-- The test has found a pending change. -/
  | resetting
  | sleeping
  | ended (result : Except Stop Unit)

/-- What happens: reports and changes of the files, which come at any moment, and the steps of the loop. -/
inductive LoopEvent where
  | delivered (path : String)
  | edited (files : FileTree)
  | beginRead
  | endRead
  | compile
  | announce
  | test
  | reset
  | wake
  | interrupt

/-- The step that the loop takes by itself, unless it has ended. -/
def Phase.next? : Phase → Option LoopEvent
  | .committed => some .beginRead
  | .reading => some .endRead
  | .compiling _ => some .compile
  | .announcing => some .announce
  | .testing => some .test
  | .resetting => some .reset
  | .sleeping => some .wake
  | .ended _ => none

/-- The state of the loop, with what the observer has told the watcher. -/
structure LoopState (σ ε : Type) where
  phase : Phase
  watcher : Watcher
  shell : Shell σ ε
  announced : Bool := false

namespace LoopState

/-- The loop before the first build. -/
def start (path : String) (shell : Shell σ ε) : LoopState σ ε := ⟨.committed, { path := path }, shell, false⟩

/-- The state with a line in the log. -/
def note (s : LoopState σ ε) (message : String) : LoopState σ ε :=
  { s with shell := { s.shell with console := s.shell.console.note .info message } }

/-- The state at another place of the loop. -/
def goto (s : LoopState σ ε) (phase : Phase) : LoopState σ ε := { s with phase := phase }

/-- A report reaches the watcher. -/
def deliver (s : LoopState σ ε) (path : String) : LoopState σ ε :=
  let s := if s.watcher.concerns path then s.note ("Detected changes in " ++ s.watcher.path) else s
  { s with watcher := s.watcher.notify path }

/-- The phase after a build. -/
def built (s : LoopState σ ε) : Phase := if s.announced then .sleeping else .announcing

/-- The read comes to its end. There is nothing to compile if the source cannot be read. -/
def endRead (host : Host σ ε) (options : BuildOptions) (s : LoopState σ ε) : LoopState σ ε :=
  match (Build.request host options s.watcher.path).run.run s.shell with
  | (.ok request, shell) => { s with phase := .compiling request, shell := shell }
  | (.error .failed, shell) => { s with phase := s.built, shell := shell }
  | (.error stop, shell) => { s with phase := .ended (.error stop), shell := shell }

/-- A request is compiled. -/
def compile (host : Host σ ε) (compiler : Compiler σ ε) (options : BuildOptions) (s : LoopState σ ε)
    (request : Request) : LoopState σ ε :=
  match (Build.once host compiler request { options with printText := false }).run.run s.shell with
  | (.ok _, shell) => { s with phase := s.built, shell := shell }
  | (.error stop, shell) => { s with phase := .ended (.error stop), shell := shell }

/-- One event; `none` if the loop is not at the place for it. -/
def step (host : Host σ ε) (compiler : Compiler σ ε) (options : BuildOptions) (s : LoopState σ ε)
    (event : LoopEvent) : Option (LoopState σ ε) :=
  match event, s.phase with
  | .delivered path, _ => some (s.deliver path)
  | .edited files, _ => some { s with shell := { s.shell with files := files } }
  | .beginRead, .committed => some (s.goto .reading)
  | .endRead, .reading => some (s.endRead host options)
  | .compile, .compiling request => some (s.compile host compiler options request)
  | .announce, .announcing =>
    some { s.note ("Watching " ++ options.sourceFile ++ " (Ctrl+C to stop)...") with
      phase := .testing, announced := true }
  | .test, .testing => some (s.goto (if s.watcher.pending then .resetting else .sleeping))
  | .reset, .resetting => some { s with phase := .committed, watcher := s.watcher.clear }
  | .wake, .sleeping => some (s.goto .testing)
  | .interrupt, .sleeping =>
    some ((s.note "Keyboard interrupt received, stopping...").goto (.ended (.ok ())))
  | _, _ => none

/-- A sequence of events. -/
def run (host : Host σ ε) (compiler : Compiler σ ε) (options : BuildOptions) (s : LoopState σ ε)
    (events : List LoopEvent) : Option (LoopState σ ε) :=
  events.foldlM (step host compiler options) s

end LoopState

end GlslCompiler.Watch
