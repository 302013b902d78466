import GlslCompiler.CommandLine.WatchLoop
import GlslCompiler.Proofs.CommandLine.Shell

/-!
# The watch loop among its observer's reports

A run is any sequence of the loop's steps mixed with reports and with changes of the files. The watch command is one of
these runs: its reports come while the loop sleeps.

No change is lost because the loop resets before it reads. A change that was reported since the last read began is
pending, or the loop has reset it and its next step is to read.
-/

namespace GlslCompiler

namespace Watch

variable {σ ε : Type}

def Phase.isCommitted : Phase → Bool
  | .committed => true
  | _ => false

theorem Phase.isCommitted_iff {phase : Phase} : phase.isCommitted = true ↔ phase = .committed := by
  cases phase <;> simp [isCommitted]

namespace LoopEvent

def isRead : LoopEvent → Bool
  | .beginRead => true
  | _ => false

/-- Whether an event is a report about a path. -/
def reports (path : String) : LoopEvent → Bool
  | .delivered other => other == path
  | _ => false

/-- Whether an event is a report about any other path. -/
def reportsElsewhere (path : String) : LoopEvent → Bool
  | .delivered other => other != path
  | _ => false

end LoopEvent

namespace LoopState

/-! ### What a step does to the watcher -/

section Step

variable {host : Host σ ε} {compiler : Compiler σ ε} {options : BuildOptions} {s t : LoopState σ ε} {event : LoopEvent}

theorem deliver_elsewhere {path : String} (h : path ≠ s.watcher.path) : s.deliver path = s := by
  have hconcerns : s.watcher.concerns path = false := beq_false_of_ne h
  simp [deliver, Watcher.notify, hconcerns]

/-- What an event does to the watcher and to a rebuild that is due. -/
inductive Moves : LoopEvent → LoopState σ ε → LoopState σ ε → Prop
  | report {s t : LoopState σ ε} (hphase : t.phase = s.phase)
      (hwatcher : t.watcher = ⟨s.watcher.path, true⟩) : Moves (.delivered s.watcher.path) s t
  | beginRead {s t : LoopState σ ε} (hbefore : s.phase = .committed) (hafter : t.phase = .reading)
      (hwatcher : t.watcher = s.watcher) : Moves .beginRead s t
  | reset {s t : LoopState σ ε} (hbefore : s.phase = .resetting) (hafter : t.phase = .committed)
      (hwatcher : t.watcher = ⟨s.watcher.path, false⟩) : Moves .reset s t
  /-- Neither the pending change nor the rebuild that is due is touched. -/
  | other {event : LoopEvent} {s t : LoopState σ ε} (hread : event ≠ .beginRead)
      (hreport : event ≠ .delivered s.watcher.path) (hdue : t.phase.isCommitted = s.phase.isCommitted)
      (hfound : t.phase = .resetting → s.phase = .resetting ∨ s.watcher.pending = true)
      (hwatcher : t.watcher = s.watcher) : Moves event s t

theorem Moves.watched (h : Moves event s t) : t.watcher.path = s.watcher.path := by
  cases h <;> simp_all

theorem deliver_moves (s : LoopState σ ε) (path : String) : Moves (.delivered path) s (s.deliver path) := by
  by_cases h : path = s.watcher.path
  · have hconcerns : s.watcher.concerns path = true := beq_of_eq h
    have hdeliver : s.deliver path =
        { s.note ("Detected changes in " ++ s.watcher.path) with watcher := ⟨s.watcher.path, true⟩ } := by
      simp [deliver, Watcher.notify, Watcher.concerns, note, h]
    rw [hdeliver, h]
    exact .report rfl rfl
  · rw [deliver_elsewhere h]
    exact .other (by simp) (by simpa using h) rfl .inl rfl

theorem isCommitted_built (s : LoopState σ ε) : s.built.isCommitted = false := by
  unfold built
  split <;> rfl

theorem built_ne_resetting (s : LoopState σ ε) : s.built ≠ .resetting := by
  unfold built
  split <;> simp

theorem endRead_moves (host : Host σ ε) (options : BuildOptions) (h : s.phase = .reading) :
    Moves .endRead s (s.endRead host options) := by
  unfold endRead
  split
  · exact .other (by simp) (by simp) (by rw [h]; rfl) (by simp) rfl
  · exact .other (by simp) (by simp) (by rw [h]; exact s.isCommitted_built) (absurd · s.built_ne_resetting) rfl
  · exact .other (by simp) (by simp) (by rw [h]; rfl) (by simp) rfl

theorem compile_moves (host : Host σ ε) (compiler : Compiler σ ε) (options : BuildOptions) {request : Request}
    (h : s.phase = .compiling request) : Moves .compile s (s.compile host compiler options request) := by
  unfold compile
  split
  · exact .other (by simp) (by simp) (by rw [h]; exact s.isCommitted_built) (absurd · s.built_ne_resetting) rfl
  · exact .other (by simp) (by simp) (by rw [h]; rfl) (by simp) rfl

theorem test_moves (h : s.phase = .testing) :
    Moves .test s (s.goto (if s.watcher.pending then .resetting else .sleeping)) := by
  cases hpending : s.watcher.pending with
  | true => exact .other (by simp) (by simp) (by rw [h]; rfl) (fun _ => .inr hpending) rfl
  | false => exact .other (by simp) (by simp) (by rw [h]; rfl) (by simp [goto]) rfl

theorem step_moves (h : step host compiler options s event = some t) : Moves event s t := by
  unfold step at h
  split at h <;> cases h
  case h_1 path => exact deliver_moves s path
  case h_2 => exact .other (by simp) (by simp) rfl .inl rfl
  case h_3 hphase => exact .beginRead hphase rfl rfl
  case h_4 hphase => exact endRead_moves host options hphase
  case h_5 request hphase => exact compile_moves host compiler options hphase
  case h_6 hphase => exact .other (by simp) (by simp) (by rw [hphase]; rfl) (by simp) rfl
  case h_7 hphase => exact test_moves hphase
  case h_8 hphase => exact .reset hphase rfl rfl
  case h_9 hphase => exact .other (by simp) (by simp) (by rw [hphase]; rfl) (by simp [goto]) rfl
  case h_10 hphase => exact .other (by simp) (by simp) (by rw [hphase]; rfl) (by simp [goto]) rfl

end Step

end LoopState

/-! ### Reported and not yet read -/

/-- Whether a path has been reported and no read has begun since. -/
def ReportedSinceRead (path : String) (events : List LoopEvent) : Prop :=
  ∃ before after, events = before ++ .delivered path :: after ∧ .beginRead ∉ after

namespace ReportedSinceRead

variable {path : String} {events : List LoopEvent} {event : LoopEvent}

theorem not_nil : ¬ ReportedSinceRead path [] := by
  rintro ⟨before, after, h, -⟩
  simp at h

theorem of_snoc (h : ReportedSinceRead path (events ++ [event])) (hreport : event ≠ .delivered path) :
    ReportedSinceRead path events ∧ event ≠ .beginRead := by
  obtain ⟨before, after, hevents, hafter⟩ := h
  rcases List.eq_nil_or_concat after with rfl | ⟨rest, last, rfl⟩
  · exact absurd (List.append_inj_right' hevents rfl) (by simpa using hreport)
  · rw [List.concat_eq_append, ← List.cons_append, ← List.append_assoc] at hevents
    obtain rfl : event = last := by simpa using List.append_inj_right' hevents rfl
    rw [List.concat_eq_append, List.mem_append, not_or, List.mem_singleton] at hafter
    exact ⟨⟨before, rest, List.append_inj_left' hevents rfl, hafter.1⟩, Ne.symm hafter.2⟩

end ReportedSinceRead

namespace LoopState

variable {host : Host σ ε} {compiler : Compiler σ ε} {options : BuildOptions} {s t : LoopState σ ε} {event : LoopEvent}
  {path : String} {events : List LoopEvent}

/-- The rebuilds that the loop owes: one that is due, and one for a pending change. -/
def owed (s : LoopState σ ε) : Nat := s.phase.isCommitted.toNat + s.watcher.pending.toNat

/-- The invariant of the loop after some events. -/
structure Sound (path : String) (events : List LoopEvent) (s : LoopState σ ε) : Prop where
  watched : s.watcher.path = path
  found : s.phase = .resetting → s.watcher.pending = true
  kept : ReportedSinceRead path events → s.watcher.pending = true ∨ s.phase.isCommitted = true
  reads : events.countP LoopEvent.isRead + s.owed ≤ 1 + events.countP (LoopEvent.reports path)

theorem sound_start (path : String) (shell : Shell σ ε) : Sound path [] (start path shell) where
  watched := rfl
  found := by simp [start]
  kept h := absurd h ReportedSinceRead.not_nil
  reads := by simp [start, owed, Phase.isCommitted]

theorem Sound.next (hs : Sound path events s) (h : Moves event s t) : Sound path (events ++ [event]) t := by
  obtain ⟨rfl, hfound, hkept, hreads⟩ := hs
  cases h with
  | report hphase hwatcher =>
    refine ⟨by rw [hwatcher], by simp [hwatcher], by simp [hwatcher], ?_⟩
    have hpending := Bool.toNat_le s.watcher.pending
    simp [owed, hphase, hwatcher, LoopEvent.isRead, LoopEvent.reports] at hreads ⊢
    omega
  | beginRead hbefore hafter hwatcher =>
    refine ⟨by rw [hwatcher], by simp [hafter], ?_, ?_⟩
    · intro hreported
      exact absurd rfl (hreported.of_snoc (by simp)).2
    · simp [owed, hbefore, hafter, hwatcher, LoopEvent.isRead, LoopEvent.reports, Phase.isCommitted] at hreads ⊢
      omega
  | reset hbefore hafter hwatcher =>
    have hpending := hfound hbefore
    refine ⟨by rw [hwatcher], by simp [hafter], by simp [hafter, Phase.isCommitted], ?_⟩
    simp [owed, hbefore, hafter, hpending, hwatcher, LoopEvent.isRead, LoopEvent.reports, Phase.isCommitted] at hreads ⊢
    omega
  | other hread hreport hdue hfound' hwatcher =>
    refine ⟨by rw [hwatcher], ?_, ?_, ?_⟩
    · intro hresetting
      rw [hwatcher]
      exact (hfound' hresetting).elim hfound id
    · intro hreported
      rw [hwatcher, hdue]
      exact hkept (hreported.of_snoc hreport).1
    · have hisRead : event.isRead = false := by cases event <;> simp_all [LoopEvent.isRead]
      have hreports : event.reports s.watcher.path = false := by cases event <;> simp_all [LoopEvent.reports]
      simpa [owed, hdue, hwatcher, hisRead, hreports] using hreads

theorem run_sound (hs : Sound path events s) {more : List LoopEvent} (h : run host compiler options s more = some t) :
    Sound path (events ++ more) t := by
  induction more generalizing events s with
  | nil =>
    cases h
    simpa using hs
  | cons event rest ih =>
    rw [run, List.foldlM_cons, Option.bind_eq_bind, Option.bind_eq_some_iff] at h
    obtain ⟨next, hstep, hrest⟩ := h
    simpa using ih (hs.next (step_moves hstep)) hrest

/-- Reports about other paths make no difference to any run. -/
theorem run_filter (h : s.watcher.path = path) (events : List LoopEvent) :
    run host compiler options s (events.filter fun event => !event.reportsElsewhere path) =
      run host compiler options s events := by
  induction events generalizing s with
  | nil => rfl
  | cons event rest ih =>
    by_cases helsewhere : event.reportsElsewhere path = true
    · rw [List.filter_cons_of_neg (by simp [helsewhere]), ih h]
      cases event with
      | delivered other =>
        have hother : other ≠ s.watcher.path := by simpa [LoopEvent.reportsElsewhere, h] using helsewhere
        have hstep : step host compiler options s (.delivered other) = some s :=
          congrArg some (deliver_elsewhere hother)
        rw [run, run, List.foldlM_cons, hstep]
        rfl
      | _ => cases helsewhere
    · rw [List.filter_cons_of_pos (by simp [helsewhere]), run, run, List.foldlM_cons, List.foldlM_cons]
      cases hstep : step host compiler options s event with
      | none => rfl
      | some next => exact ih ((step_moves hstep).watched.trans h)

/-- A read that fails leaves a line in the log and nothing else. -/
theorem endRead_unreadable {error : FileError}
    (hread : s.shell.files.read host.workingDirectory s.watcher.path = .error error) (hsystem : error.isSystem = true) :
    s.endRead host options = { s with
      phase := s.built
      shell := { s.shell with
        console := s.shell.console.note .error ("Failed to read shader source: " ++ error.message) } } := by
  have hrequest : (Build.request host options s.watcher.path).run.run s.shell =
      (.error .failed, { s.shell with
        console := s.shell.console.note .error ("Failed to read shader source: " ++ error.message) }) := by
    rw [Build.request, Action.run_bind, Build.readSource, Action.run_bind, Action.run_get]
    dsimp only
    rw [hread]
    dsimp only
    rw [if_pos hsystem, Action.run_bind, Shell.run_log]
    rfl
  rw [endRead, hrequest]

/-! ### The command as one of the runs -/

theorem run_singleton (h : step host compiler options s event = some t) :
    run host compiler options s [event] = some t := by
  rw [run, List.foldlM_cons, h]
  rfl

theorem run_append {u : LoopState σ ε} {more : List LoopEvent} (h : run host compiler options s events = some t)
    (hmore : run host compiler options t more = some u) : run host compiler options s (events ++ more) = some u := by
  rw [run, List.foldlM_append]
  exact (congrArg (Option.bind · _) h).trans hmore

/-- The loop after a build that was run as one action. -/
def afterBuild (s : LoopState σ ε) : Except Stop Unit × Shell σ ε → LoopState σ ε
  | (.ok _, shell) => { s with phase := s.built, shell := shell }
  | (.error stop, shell) => { s with phase := .ended (.error stop), shell := shell }

/-- One rebuild of the command, from a state where it is due: the source is read once, and compiled if that has given a
request. -/
inductive Rebuilds (host : Host σ ε) (compiler : Compiler σ ε) (options : BuildOptions) (s : LoopState σ ε) :
    List LoopEvent → LoopState σ ε → Prop
  | unread {stop : Stop} {shell : Shell σ ε}
      (h : (Build.request host options s.watcher.path).run.run s.shell = (.error stop, shell)) :
      Rebuilds host compiler options s [.beginRead, .endRead]
        (s.afterBuild ((rebuild host compiler options s.watcher.path).run.run s.shell))
  | compiled {request : Request} {shell : Shell σ ε}
      (h : (Build.request host options s.watcher.path).run.run s.shell = (.ok request, shell)) :
      Rebuilds host compiler options s [.beginRead, .endRead, .compile]
        (s.afterBuild ((rebuild host compiler options s.watcher.path).run.run s.shell))

/-- What the observer does during a sleep of the command: the files change, then the reports come. -/
def sleep (host : Host σ ε) (s : LoopState σ ε) (step : WatchStep) : List LoopEvent :=
  .edited (applyFiles host.workingDirectory step s.shell.files) ::
    step.modified.map fun path => .delivered (host.workingDirectory ++ "/" ++ path)

/-- One turn of the command's loop up to its sleep. There is a rebuild just if a change is pending. -/
inductive Turn (host : Host σ ε) (compiler : Compiler σ ε) (options : BuildOptions) (s : LoopState σ ε) :
    List LoopEvent → LoopState σ ε → Prop
  | idle (h : s.watcher.pending = false) : Turn host compiler options s [.test] (s.goto .sleeping)
  | rebuilding {events : List LoopEvent} {t : LoopState σ ε} (h : s.watcher.pending = true)
      (hbuild : Rebuilds host compiler options { s with phase := .committed, watcher := s.watcher.clear } events t) :
      Turn host compiler options s (.test :: .reset :: events) t

/-- The turns of the command's loop over the sleeps to come. -/
inductive Turns (host : Host σ ε) (compiler : Compiler σ ε) (options : BuildOptions) :
    LoopState σ ε → List WatchStep → List LoopEvent → LoopState σ ε → Prop
  | stopped {s t : LoopState σ ε} {steps : List WatchStep} {events : List LoopEvent} {stop : Stop}
      (hturn : Turn host compiler options s events t) (h : t.phase = .ended (.error stop)) :
      Turns host compiler options s steps events t
  | interrupted {s t u : LoopState σ ε} {events : List LoopEvent} (hturn : Turn host compiler options s events t)
      (h : step host compiler options t .interrupt = some u) :
      Turns host compiler options s [] (events ++ [.interrupt]) u
  | slept {s t u v : LoopState σ ε} {step : WatchStep} {rest : List WatchStep} {events more : List LoopEvent}
      (hturn : Turn host compiler options s events t)
      (hsleep : run host compiler options t (t.sleep host step ++ [.wake]) = some u)
      (hrest : Turns host compiler options u rest more v) :
      Turns host compiler options s (step :: rest) (events ++ (t.sleep host step ++ [.wake]) ++ more) v

/-- The whole command once it has its compiler: the first build and the loop. -/
inductive Watches (host : Host σ ε) (compiler : Compiler σ ε) (options : BuildOptions) (s : LoopState σ ε)
    (steps : List WatchStep) : List LoopEvent → LoopState σ ε → Prop
  | stopped {t : LoopState σ ε} {events : List LoopEvent} {stop : Stop}
      (hbuild : Rebuilds host compiler options s events t) (h : t.phase = .ended (.error stop)) :
      Watches host compiler options s steps events t
  | looping {t u v : LoopState σ ε} {events more : List LoopEvent} (hbuild : Rebuilds host compiler options s events t)
      (h : step host compiler options t .announce = some u) (hturns : Turns host compiler options u steps more v) :
      Watches host compiler options s steps (events ++ .announce :: more) v

theorem exists_rebuilds (s : LoopState σ ε) :
    ∃ events, Rebuilds host compiler options s events
      (s.afterBuild ((rebuild host compiler options s.watcher.path).run.run s.shell)) := by
  rcases h : (Build.request host options s.watcher.path).run.run s.shell with ⟨answer, shell⟩
  cases answer with
  | ok request => exact ⟨_, .compiled h⟩
  | error stop => exact ⟨_, .unread h⟩

theorem Rebuilds.run_eq (h : Rebuilds host compiler options s events t) (hphase : s.phase = .committed) :
    run host compiler options s events = some t := by
  obtain ⟨phase, watcher, shell, announced⟩ := s
  obtain rfl : phase = .committed := hphase
  have hread : run host compiler options ⟨.committed, watcher, shell, announced⟩ [.beginRead, .endRead] =
      some (endRead host options ⟨.reading, watcher, shell, announced⟩) := rfl
  cases h with
  | unread h =>
    rw [hread, rebuild, Action.run_bind, Action.run_get, endRead]
    dsimp only at h ⊢
    rw [h]
    rename_i stop after
    cases stop <;> rfl
  | compiled h =>
    rename_i request after
    have hcompiled : endRead host options ⟨.reading, watcher, shell, announced⟩ =
        ⟨.compiling request, watcher, after, announced⟩ := by
      rw [endRead, h]
    rw [hcompiled] at hread
    refine run_append hread (run_singleton (congrArg some ?_))
    rw [rebuild, Action.run_bind, Action.run_get]
    dsimp only at h ⊢
    rw [h, Action.run_bind, Action.run_set, compile]
    dsimp only
    rw [Action.run_discard]
    rcases (Build.once host compiler request { options with printText := false }).run.run after with ⟨answer, last⟩
    cases answer <;> rfl

theorem Turn.run_eq (h : Turn host compiler options s events t) (hphase : s.phase = .testing) :
    run host compiler options s events = some t := by
  cases h with
  | idle hpending =>
    apply run_singleton
    simp [step, hphase, hpending]
  | @rebuilding more _ hpending hbuild =>
    have htest : run host compiler options s [.test] = some (s.goto .resetting) := by
      apply run_singleton
      simp [step, hphase, hpending]
    have hreset : run host compiler options (s.goto .resetting) [.reset] =
        some { s with phase := .committed, watcher := s.watcher.clear } := rfl
    exact run_append htest (run_append hreset (hbuild.run_eq rfl))

theorem phase_of_wake (h : run host compiler options s (events ++ [.wake]) = some t) : t.phase = .testing := by
  rw [run, List.foldlM_append, Option.bind_eq_bind, Option.bind_eq_some_iff] at h
  obtain ⟨asleep, -, hwake⟩ := h
  rw [List.foldlM_cons, Option.bind_eq_bind, Option.bind_eq_some_iff] at hwake
  obtain ⟨next, hnext, hlast⟩ := hwake
  cases hlast
  obtain ⟨phase, watcher, shell, announced⟩ := asleep
  cases phase <;> cases hnext
  rfl

theorem Turns.run_eq {steps : List WatchStep} (h : Turns host compiler options s steps events t)
    (hphase : s.phase = .testing) : run host compiler options s events = some t := by
  induction h with
  | stopped hturn => exact hturn.run_eq hphase
  | interrupted hturn h => exact run_append (hturn.run_eq hphase) (run_singleton h)
  | slept hturn hsleep _ ih => exact run_append (run_append (hturn.run_eq hphase) hsleep) (ih (phase_of_wake hsleep))

theorem Watches.run_eq {steps : List WatchStep} (h : Watches host compiler options s steps events t)
    (hphase : s.phase = .committed) : run host compiler options s events = some t := by
  cases h with
  | stopped hbuild => exact hbuild.run_eq hphase
  | @looping built _ _ _ _ hbuild h hturns =>
    refine run_append (hbuild.run_eq hphase) (run_append (run_singleton h) (hturns.run_eq ?_))
    obtain ⟨phase, watcher, shell, announced⟩ := built
    cases phase <;> cases h
    rfl

theorem exists_turn (watcher : Watcher) (shell : Shell σ ε) :
    ∃ events, Turn host compiler options ⟨.testing, watcher, shell, true⟩ events
      (afterBuild ⟨.sleeping, watcher.clear, shell, true⟩
        (if watcher.pending then (rebuild host compiler options watcher.path).run.run shell else (.ok (), shell))) := by
  obtain ⟨path, pending⟩ := watcher
  cases pending with
  | true =>
    obtain ⟨events, hbuild⟩ :=
      @exists_rebuilds σ ε host compiler options ⟨.committed, ⟨path, false⟩, shell, true⟩
    exact ⟨_, .rebuilding rfl hbuild⟩
  | false => exact ⟨_, .idle rfl⟩

theorem run_notified (s : LoopState σ ε) (paths : List String) :
    ∃ watcher shell, (notifyAll s.watcher paths).run.run s.shell = (.ok watcher, shell) ∧
      run host compiler options s (paths.map .delivered) = some { s with watcher := watcher, shell := shell } := by
  induction paths generalizing s with
  | nil => exact ⟨_, _, rfl, rfl⟩
  | cons path rest ih =>
    obtain ⟨watcher, shell, hrest, hrun⟩ := ih (s.deliver path)
    have hsame : { s.deliver path with watcher := watcher, shell := shell } =
        { s with watcher := watcher, shell := shell } := by
      unfold deliver
      split <;> rfl
    rw [hsame] at hrun
    refine ⟨watcher, shell, ?_, hrun⟩
    rw [← hrest, notifyAll]
    unfold deliver
    split <;> rfl

theorem exists_turns (conversions : Shell σ ε → Nat) (steps : List WatchStep) (watcher : Watcher) (shell : Shell σ ε) :
    ∃ events last, Turns host compiler options ⟨.testing, watcher, shell, true⟩ steps events
      ⟨.ended (loop host compiler options conversions steps watcher shell).1.1, last,
        (loop host compiler options conversions steps watcher shell).1.2, true⟩ := by
  induction steps generalizing watcher shell with
  | nil =>
    obtain ⟨events, hturn⟩ := @exists_turn σ ε host compiler options watcher shell
    rw [loop]
    generalize (if watcher.pending then (rebuild host compiler options watcher.path).run.run shell
      else (.ok (), shell)) = outcome at hturn ⊢
    obtain ⟨built, after⟩ := outcome
    cases built with
    | error stop => exact ⟨_, _, .stopped hturn rfl⟩
    | ok => exact ⟨_, _, .interrupted hturn rfl⟩
  | cons step rest ih =>
    obtain ⟨events, hturn⟩ := @exists_turn σ ε host compiler options watcher shell
    rw [loop]
    generalize (if watcher.pending then (rebuild host compiler options watcher.path).run.run shell
      else (.ok (), shell)) = outcome at hturn ⊢
    obtain ⟨built, after⟩ := outcome
    cases built with
    | error stop => exact ⟨_, _, .stopped hturn rfl⟩
    | ok =>
      dsimp only
      let asleep : LoopState σ ε := ⟨.sleeping, watcher.clear, after, true⟩
      let edited : LoopState σ ε :=
        { asleep with shell := { after with files := applyFiles host.workingDirectory step after.files } }
      obtain ⟨watcher', after', hnotified, hreports⟩ := @run_notified σ ε host compiler options edited
        (step.modified.map fun path => host.workingDirectory ++ "/" ++ path)
      obtain ⟨more, last, hlast⟩ := ih watcher' after'
      rw [hnotified]
      have hsleep : run host compiler options asleep (asleep.sleep host step ++ [.wake]) =
          some ⟨.testing, watcher', after', true⟩ := by
        rw [List.map_map] at hreports
        have hedited : run host compiler options asleep (asleep.sleep host step) = _ := hreports
        exact run_append hedited (run_singleton rfl)
      exact ⟨_, last, .slept hturn hsleep hlast⟩

theorem exists_watches {shell loaded : Shell σ ε}
    (h : (Build.compiler host options).run.run shell = (.ok compiler, loaded)) (steps : List WatchStep)
    (conversions : Shell σ ε → Nat) :
    ∃ events last announced, Watches host compiler options
      (start (Path.absolute host.workingDirectory options.sourceFile) loaded) steps events
      ⟨.ended (Watch.run host options steps conversions shell).1.1, last,
        (Watch.run host options steps conversions shell).1.2, announced⟩ := by
  generalize hpath : Path.absolute host.workingDirectory options.sourceFile = path
  obtain ⟨events, hbuild⟩ := @exists_rebuilds σ ε host compiler options (start path loaded)
  rw [Watch.run, h]
  dsimp only
  rw [Action.run_bind, hpath]
  change Rebuilds host compiler options _ _ (afterBuild _ ((rebuild host compiler options path).run.run loaded))
    at hbuild
  generalize (rebuild host compiler options path).run.run loaded = outcome at hbuild ⊢
  obtain ⟨built, after⟩ := outcome
  cases built with
  | error stop => exact ⟨_, _, _, .stopped hbuild rfl⟩
  | ok =>
    obtain ⟨more, last, hturns⟩ := @exists_turns σ ε host compiler options conversions steps { path := path }
      { after with
        console := after.console.note .info ("Watching " ++ options.sourceFile ++ " (Ctrl+C to stop)...") }
    exact ⟨_, last, true, .looping hbuild rfl hturns⟩

end LoopState

/-- No change is lost. A change that was reported since the last read began is pending, or the rebuild that reads it
is due. Only reports about the watched file lead to rebuilds, and others make no difference. A read that fails leaves
nothing behind but its line in the log, and a change that was reported meanwhile is still pending. Whatever the command
does is one of these runs, with a read for each of its rebuilds and the reports of each of its sleeps. -/
theorem loop_keeps_changes (host : Host σ ε) (compiler : Compiler σ ε) (options : BuildOptions) (loaded : Shell σ ε) :
    let path := Path.absolute host.workingDirectory options.sourceFile
    let start := LoopState.start path loaded
    (∀ events s, LoopState.run host compiler options start events = some s →
      (ReportedSinceRead path events → s.watcher.pending = true ∨ s.phase = .committed) ∧
      events.countP LoopEvent.isRead ≤ 1 + events.countP (LoopEvent.reports path) ∧
      ∀ error, s.phase = .reading → s.shell.files.read host.workingDirectory path = .error error →
        error.isSystem = true →
        ∃ t, LoopState.step host compiler options s .endRead = some t ∧ t.watcher = s.watcher ∧
          t.shell = { s.shell with
            console := s.shell.console.note .error ("Failed to read shader source: " ++ error.message) } ∧
          (ReportedSinceRead path events → t.watcher.pending = true)) ∧
    (∀ events, LoopState.run host compiler options start (events.filter fun event => !event.reportsElsewhere path) =
      LoopState.run host compiler options start events) ∧
    ∀ shell steps conversions, (Build.compiler host options).run.run shell = (.ok compiler, loaded) →
      ∃ events last, LoopState.run host compiler options start events = some last ∧
        LoopState.Watches host compiler options start steps events last ∧
        last.phase = .ended (run host options steps conversions shell).1.1 ∧
        last.shell = (run host options steps conversions shell).1.2 := by
  intro path start
  refine ⟨?_, fun events => LoopState.run_filter rfl events, ?_⟩
  · intro events s hrun
    have hsound : LoopState.Sound path events s := LoopState.run_sound (LoopState.sound_start path loaded) hrun
    refine ⟨?_, ?_, ?_⟩
    · intro hreported
      exact (hsound.kept hreported).imp_right Phase.isCommitted_iff.1
    · have hreads := hsound.reads
      omega
    · intro error hphase hread hsystem
      rw [← hsound.watched] at hread
      refine ⟨s.endRead host options, by simp [LoopState.step, hphase], ?_⟩
      rw [LoopState.endRead_unreadable hread hsystem]
      refine ⟨rfl, rfl, ?_⟩
      intro hreported
      exact (hsound.kept hreported).resolve_right (by simp [hphase, Phase.isCommitted])
  · intro shell steps conversions hloaded
    obtain ⟨events, last, announced, hwatches⟩ := LoopState.exists_watches hloaded steps conversions
    exact ⟨events, _, hwatches.run_eq rfl, hwatches, rfl, rfl⟩

/-- The source is missing at the first read and is reported while that read is under way, after another file. -/
theorem loop_keeps_changes_missing :
    let host : Host Unit Unit :=
      ⟨"/w", "2024-01-01T00:00:00+00:00", ⟨fun _ s => (.result (some []) [], s), fun _ s => s⟩, none⟩
    let options : BuildOptions := { sourceFile := "a.glsl", converter := "" }
    let shell : Shell Unit Unit := ⟨.ofWorkingDirectory "/w", {}, ⟨(), (), [], [], [], []⟩, {}⟩
    let events : List LoopEvent := [.beginRead, .delivered "/w/b.glsl", .delivered "/w/a.glsl"]
    ReportedSinceRead "/w/a.glsl" events ∧
    ∃ s t, LoopState.run host ⟨host.converter, none⟩ options (.start "/w/a.glsl" shell) events = some s ∧
      s.shell.files.read "/w" "/w/a.glsl" = .error ⟨.notFound, "/w/a.glsl"⟩ ∧
      LoopState.step host ⟨host.converter, none⟩ options s .endRead = some t ∧ t.watcher.pending = true := by
  intro host options shell events
  have hreported : ReportedSinceRead "/w/a.glsl" events := ⟨[.beginRead, .delivered "/w/b.glsl"], [], rfl, by simp⟩
  have hpath : Path.absolute host.workingDirectory options.sourceFile = "/w/a.glsl" := by decide +kernel
  have hkeeps := (loop_keeps_changes host ⟨host.converter, none⟩ options shell).1
  rw [hpath] at hkeeps
  let s : LoopState Unit Unit := ⟨.reading, ⟨"/w/a.glsl", true⟩,
    { shell with console := { log := [⟨.info, "Detected changes in /w/a.glsl"⟩] } }, false⟩
  have hread : s.shell.files.read "/w" "/w/a.glsl" = .error ⟨.notFound, "/w/a.glsl"⟩ := rfl
  obtain ⟨-, -, hfailed⟩ := hkeeps events s rfl
  obtain ⟨t, hstep, -, -, hpending⟩ := hfailed _ rfl hread rfl
  exact ⟨hreported, s, t, rfl, hread, hstep, hpending hreported⟩

end Watch

end GlslCompiler
