import GlslCompiler.Proofs.Compile.Transparency

/-!
# What a compilation records and asks

The record of a compilation is the concatenation of what its passes record. `Compiler.Runs` says in full what one
pass may do: what it asks of the converter and of the engine, in which states it leaves them, what it adds to the
record and whether it fails. `Compiler.Executes` strings passes together, up to and including the first that fails.
A compilation that comes to an end has executed its plan in this sense, and its record is that of the execution.
-/

namespace GlslCompiler

/-- What one pass asked and recorded, and the states it left the collaborators in. -/
structure PassReport (σ ε : Type) where
  failed : Bool
  converter : σ
  engine : ε
  calls : List ConverterCall
  events : List BridgeEvent
  diagnostics : Diagnostics

/-- The stages that can be written, and as what. -/
inductive ShaderStage.WrittenAs : ShaderStage → PipelineStage → Prop where
  | vertex : WrittenAs .vertex .vertex
  | pixel : WrittenAs .pixel .pixel

/-- The stages that cannot be written, with what the error about them calls them. -/
inductive ShaderStage.Unwritable : ShaderStage → String → Prop where
  | geometry : Unwritable .geometry "Geometry"
  | hull : Unwritable .hull "Hull"
  | domain : Unwritable .domain "Domain"
  | compute : Unwritable .compute "Compute"

namespace Request

/-- The error about a stage that cannot be written. -/
def stageError (request : Request) (name : String) : Diagnostic where
  kind := .unsupportedStage
  severity := .error
  message := name ++ " stage can't be converted to OpenGL. Only Vertex and Pixel shaders are supported"
  file := request.file
  line := none

/-- What the converter is asked about a request. -/
def call (request : Request) (stage : PipelineStage) : ConverterCall :=
  ⟨request.source, request.entryPoint, stage, request.file⟩

/-- Several render targets are worth a warning in the legacy dialect. -/
def targetWarnings (request : Request) (tier : Tier) : Diagnostics :=
  if tier.constrained = true ∧ tier.modern = false ∧ 1 < request.renderTargets then
    [{ kind := .multiRenderTargetUnsupported
       severity := .warning
       message := "OpenGL ES 2 does not support multiple render targets."
       file := request.file }]
  else []

theorem targetWarnings_ofKind (request : Request) (tier : Tier) :
    (request.targetWarnings tier).ofKind .multiRenderTargetUnsupported = request.targetWarnings tier := by
  unfold targetWarnings
  split <;> rfl

end Request

/-- The errors of an answer that gives no program to work with: what was raised, every message, even if a program
came with them, or the one about the missing program. -/
inductive ConverterAnswer.Refuses (file : Option String) : ConverterAnswer → Diagnostics → Prop where
  | raised (message : String) (line : Option Int) :
      Refuses file (.refused message line) [⟨.conversionFailed, .error, message, file, line⟩]
  | reported (program : Option Program) {messages : List ConverterMessage} (h : messages ≠ []) :
      Refuses file (.result program messages)
        (messages.map fun m => ⟨.conversionFailed, .error, m.message, file, m.line⟩)
  | nothing :
      Refuses file (.result none [])
        [⟨.conversionFailed, .error, "Converter produced no program", file, none⟩]

/-- One pass, with the collaborators in the states `s` and `e`. -/
inductive Compiler.Runs {σ ε : Type} (compiler : Compiler σ ε) (request : Request) (tier : Tier) (s : σ) (e : ε) :
    PassReport σ ε → Prop where
  /-- A stage that cannot be written is an error, and nobody is asked. -/
  | unsupported {name : String} (hstage : request.stage.Unwritable name) :
      Runs compiler request tier s e ⟨true, s, e, [], [], request.targetWarnings tier ++ [request.stageError name]⟩
  /-- Nobody is asked about an empty pixel program. -/
  | emptyPixel (hpixel : request.isEmptyPixel tier) :
      Runs compiler request tier s e ⟨false, s, e, [], [], request.targetWarnings tier⟩
  /-- The converter gives no program, and the engine is not asked. -/
  | refused {stage : PipelineStage} {answer : ConverterAnswer} {s' : σ} {errors : Diagnostics}
      (hstage : request.stage.WrittenAs stage) (hpixel : ¬ request.isEmptyPixel tier)
      (hconvert : compiler.converter.convert (request.call stage) s = (answer, s'))
      (herrors : answer.Refuses request.file errors) :
      Runs compiler request tier s e ⟨true, s', e, [request.call stage], [], request.targetWarnings tier ++ errors⟩
  /-- The program is written and there is no engine. -/
  | written {stage : PipelineStage} {program : Program} {s' : σ} {body : String}
      (hstage : request.stage.WrittenAs stage) (hpixel : ¬ request.isEmptyPixel tier)
      (hconvert : compiler.converter.convert (request.call stage) s = (.result (some program) [], s'))
      (hbody : (program.normalize tier stage).text tier = .ok body) (hengine : compiler.engine = none) :
      Runs compiler request tier s e
        ⟨false, compiler.converter.retain (program.normalize tier stage) s', e, [request.call stage], [],
          request.targetWarnings tier⟩
  /-- The engine is asked about the written program, once. -/
  | offered {stage : PipelineStage} {program : Program} {s' : σ} {body : String} {engine : Engine ε} {e' : ε}
      {xs : List Exchange} {events : List BridgeEvent}
      (hstage : request.stage.WrittenAs stage) (hpixel : ¬ request.isEmptyPixel tier)
      (hconvert : compiler.converter.convert (request.call stage) s = (.result (some program) [], s'))
      (hbody : (program.normalize tier stage).text tier = .ok body) (hengine : compiler.engine = some engine)
      (hxs : Conversation ⟨Preamble.compose tier request.renderTargets stage body, tier, stage⟩ xs)
      (hhas : engine.Has e xs events e') :
      Runs compiler request tier s e
        ⟨false, compiler.converter.retain (program.normalize tier stage) s', e', [request.call stage],
          .acquire :: (events ++ [.release]), request.targetWarnings tier ++ Conversation.skipped request.file xs⟩

/-- Passes one after the other, up to and including the first that fails. -/
inductive Compiler.Executes {σ ε : Type} (compiler : Compiler σ ε) (request : Request) :
    List Pass → σ → ε → List (PassReport σ ε) → σ → ε → Prop where
  | done (s : σ) (e : ε) : Executes compiler request [] s e [] s e
  | failed {pass : Pass} {s : σ} {e : ε} {report : PassReport σ ε} (rest : List Pass)
      (h : compiler.Runs request pass.tier s e report) (hfailed : report.failed = true) :
      Executes compiler request (pass :: rest) s e [report] report.converter report.engine
  | built {pass : Pass} {rest : List Pass} {s s' : σ} {e e' : ε} {report : PassReport σ ε}
      {reports : List (PassReport σ ε)} (h : compiler.Runs request pass.tier s e report)
      (hbuilt : report.failed = false)
      (hrest : Executes compiler request rest report.converter report.engine reports s' e') :
      Executes compiler request (pass :: rest) s e (report :: reports) s' e'

/-- Only the first pass of a plan can be in the legacy dialect, and it is in the dialect of the request. -/
theorem Plan.ofTier_passes (tier : Tier) :
    ∃ first rest, (ofTier tier).passes = first :: rest ∧ first.tier = tier ∧
      ∀ pass ∈ rest, pass.tier.modern = true := by
  unfold ofTier
  split
  · split
    · exact ⟨_, [], rfl, rfl, nofun⟩
    · refine ⟨_, _, rfl, rfl, fun pass hpass => ?_⟩
      rw [List.mem_singleton.1 hpass]
      rfl
  · exact ⟨_, [], rfl, rfl, nofun⟩

/-! ### One pass -/

theorem Diagnostics.ofKind_append (ds es : Diagnostics) (kind : DiagnosticKind) :
    Diagnostics.ofKind (ds ++ es) kind = ds.ofKind kind ++ es.ofKind kind :=
  List.filter_append _ _

theorem StageCheck.renderTargetWarnings_eq (request : Request) (tier : Tier) :
    renderTargetWarnings tier request.renderTargets request.file = request.targetWarnings tier := by
  unfold renderTargetWarnings Request.targetWarnings Tier.isLegacy
  obtain ⟨constrained, modern⟩ := tier
  cases constrained <;> cases modern <;> simp

/-- A stage is checked with the warnings and, if it cannot be written, the error. -/
theorem StageCheck.run_cases (request : Request) (tier : Tier) :
    (∃ stage, request.stage.WrittenAs stage ∧
      run request.stage tier request.renderTargets request.file = (some stage, request.targetWarnings tier)) ∨
    ∃ name, request.stage.Unwritable name ∧ run request.stage tier request.renderTargets request.file =
      (none, request.targetWarnings tier ++ [request.stageError name]) := by
  rw [← renderTargetWarnings_eq]
  unfold run Request.stageError
  cases request.stage with
  | vertex => exact .inl ⟨_, .vertex, rfl⟩
  | pixel => exact .inl ⟨_, .pixel, rfl⟩
  | geometry => exact .inr ⟨_, .geometry, rfl⟩
  | hull => exact .inr ⟨_, .hull, rfl⟩
  | domain => exact .inr ⟨_, .domain, rfl⟩
  | compute => exact .inr ⟨_, .compute, rfl⟩

theorem ShaderStage.WrittenAs.pixel_iff {stage : ShaderStage} {written : PipelineStage} (h : stage.WrittenAs written) :
    stage = .pixel ↔ written = .pixel := by
  cases h <;> decide

namespace ConverterAnswer

variable {file : Option String} {answer : ConverterAnswer}

theorem refuses_of_read {errors : Diagnostics} (h : answer.read file = .ok (.error errors)) :
    answer.Refuses file errors := by
  unfold read at h
  split at h
  · cases h
  · cases h
    exact .raised _ _
  · cases h
    exact .nothing
  · cases h
  · rename_i program messages hnone hsome
    cases h
    refine .reported program ?_
    rintro rfl
    cases program with
    | none => exact hnone rfl rfl
    | some program => exact hsome program rfl rfl

theorem eq_result_of_read {program : Program} (h : answer.read file = .ok (.ok program)) :
    answer = .result (some program) [] := by
  unfold read at h
  split at h
  · cases h
  · cases h
  · cases h
  · cases h
    rfl
  · cases h

end ConverterAnswer

/-- A session after a pass, from the session before it. -/
structure PassReport.Follows {σ ε : Type} (report : PassReport σ ε) (session after : Session σ ε) : Prop where
  converter : after.converter = report.converter
  engine : after.engine = report.engine
  calls : after.calls = session.calls ++ report.calls
  events : after.events = session.events ++ report.events
  diagnostics : after.diagnostics = session.diagnostics ++ report.diagnostics

namespace Compiler

variable {σ ε : Type} (compiler : Compiler σ ε) (request : Request)

/-- A pass that was built or failed is one that `Runs` allows. -/
def Reports (tier : Tier) (session : Session σ ε) (failed : Bool) (after : Session σ ε) : Prop :=
  ∃ report, compiler.Runs request tier session.converter session.engine report ∧ report.failed = failed ∧
    report.Follows session after

theorem optimize_reports {tier : Tier} {stage : PipelineStage} {session : Session σ ε} {program : Program} {s' : σ}
    {body : String} (hstage : request.stage.WrittenAs stage) (hpixel : ¬ request.isEmptyPixel tier)
    (hconvert : compiler.converter.convert (request.call stage) session.converter = (.result (some program) [], s'))
    (hbody : (program.normalize tier stage).text tier = .ok body) (variant : Variant) :
    compiler.Reports request tier session false
      ((compiler.optimize ⟨Preamble.compose tier request.renderTargets stage body, tier, stage⟩ request.file
        (session.draft ⟨.offered ⟨Preamble.compose tier request.renderTargets stage body, tier, stage⟩,
          compiler.converter.retain (program.normalize tier stage) s', [request.call stage],
          request.targetWarnings tier⟩)).2.keep variant) := by
  obtain ⟨converter, engine⟩ := compiler
  cases engine with
  | none =>
    rw [optimize_none]
    exact ⟨_, .written hstage hpixel hconvert hbody rfl, rfl, rfl, rfl, rfl, (List.append_nil _).symm, rfl⟩
  | some engine =>
    obtain ⟨xs, events, e', hxs, hhas, heq⟩ := optimize_some converter engine
      ⟨Preamble.compose tier request.renderTargets stage body, tier, stage⟩ request.file
      (session.draft ⟨.offered ⟨Preamble.compose tier request.renderTargets stage body, tier, stage⟩,
        converter.retain (program.normalize tier stage) s', [request.call stage], request.targetWarnings tier⟩)
    rw [heq]
    refine ⟨_, .offered hstage hpixel hconvert hbody rfl hxs hhas, rfl, rfl, rfl, rfl, rfl, ?_⟩
    exact List.append_assoc _ _ _

theorem convert_reports {tier : Tier} {stage : PipelineStage} (session : Session σ ε)
    (hstage : request.stage.WrittenAs stage) (hpixel : ¬ request.isEmptyPixel tier) :
    let drafting := compiler.converter.draftConverted request tier stage (request.targetWarnings tier) session.converter
    Attempt.Ends (fun _ => compiler.Reports request tier session false) (compiler.Reports request tier session true)
      (keepBuilt request tier (compiler.optimizeDraft request.file drafting.draft (session.draft drafting))) := by
  unfold Converter.draftConverted
  dsimp only
  generalize hconvert : compiler.converter.convert ⟨request.source, request.entryPoint, stage, request.file⟩
    session.converter = answered
  obtain ⟨answer, s'⟩ := answered
  dsimp only
  cases hread : answer.read request.file with
  | error fault => trivial
  | ok result =>
    cases result with
    | error errors =>
      have hrefuses := ConverterAnswer.refuses_of_read hread
      exact ⟨_, .refused hstage hpixel hconvert hrefuses, rfl, rfl, rfl, rfl, (List.append_nil _).symm, rfl⟩
    | ok program =>
      rw [ConverterAnswer.eq_result_of_read hread] at hconvert
      unfold Converter.draftProgram
      dsimp only
      cases hbody : (program.normalize tier stage).text tier with
      | error error => trivial
      | ok body => exact compiler.optimize_reports request hstage hpixel hconvert hbody _

/-- With no error on record, a pass that comes to an end is one that `Runs` allows. -/
theorem build_reports (tier : Tier) {session : Session σ ε} (hclear : session.diagnostics.hasErrors = false) :
    Attempt.Ends (fun _ => compiler.Reports request tier session false) (compiler.Reports request tier session true)
      (compiler.build request tier session) := by
  rw [build_eq, draft, hclear]
  unfold Converter.draft
  dsimp only
  rcases StageCheck.run_cases request tier with ⟨stage, hstage, hcheck⟩ | ⟨name, hstage, hcheck⟩
  · have hpixel : request.isEmptyPixel tier ↔ request.entryPoint = none ∧ stage = .pixel ∧ tier.constrained := by
      rw [Request.isEmptyPixel, hstage.pixel_iff]
    rw [hcheck]
    dsimp only
    rw [if_neg Bool.false_ne_true]
    split
    · rename_i hempty
      exact ⟨_, .emptyPixel (hpixel.2 hempty), rfl, rfl, rfl, rfl, (List.append_nil _).symm, rfl⟩
    · rename_i hempty
      exact compiler.convert_reports request session hstage fun h => hempty (hpixel.1 h)
  · rw [hcheck]
    exact ⟨_, .unsupported hstage, rfl, rfl, rfl, rfl, (List.append_nil _).symm, rfl⟩

/-! ### A plan -/

/-- An execution with all that its passes asked and recorded, between two sessions. -/
structure Records (passes : List Pass) (reports : List (PassReport σ ε)) (session last : Session σ ε) : Prop where
  executes : compiler.Executes request passes session.converter session.engine reports last.converter last.engine
  calls : last.calls = session.calls ++ reports.flatMap PassReport.calls
  events : last.events = session.events ++ reports.flatMap PassReport.events
  diagnostics : last.diagnostics = session.diagnostics ++ reports.flatMap PassReport.diagnostics

namespace Records

variable {compiler request} {pass : Pass} {session next last : Session σ ε} {report : PassReport σ ε}

theorem refl (session : Session σ ε) : compiler.Records request [] [] session session where
  executes := .done _ _
  calls := (List.append_nil _).symm
  events := (List.append_nil _).symm
  diagnostics := (List.append_nil _).symm

theorem fail (rest : List Pass) (h : compiler.Runs request pass.tier session.converter session.engine report)
    (hfailed : report.failed = true) (hnext : report.Follows session next) :
    compiler.Records request (pass :: rest) [report] session next where
  executes := by
    rw [hnext.converter, hnext.engine]
    exact .failed rest h hfailed
  calls := by rw [hnext.calls, List.flatMap_singleton]
  events := by rw [hnext.events, List.flatMap_singleton]
  diagnostics := by rw [hnext.diagnostics, List.flatMap_singleton]

theorem cons {rest : List Pass} {reports : List (PassReport σ ε)}
    (h : compiler.Runs request pass.tier session.converter session.engine report) (hbuilt : report.failed = false)
    (hnext : report.Follows session next) (hrest : compiler.Records request rest reports next last) :
    compiler.Records request (pass :: rest) (report :: reports) session last where
  executes := by
    have hexecutes := hrest.executes
    rw [hnext.converter, hnext.engine] at hexecutes
    exact .built h hbuilt hexecutes
  calls := by rw [hrest.calls, hnext.calls, List.flatMap_cons, List.append_assoc]
  events := by rw [hrest.events, hnext.events, List.flatMap_cons, List.append_assoc]
  diagnostics := by rw [hrest.diagnostics, hnext.diagnostics, List.flatMap_cons, List.append_assoc]

end Records

theorem runFrom_records (rest : List Pass) (progress : Progress) (texts : SlotTexts) (session : Session σ ε)
    (hclear : session.diagnostics.hasErrors = false) :
    PlanResult.Ends
      (fun _ last => ∃ reports, compiler.Records request rest reports session last ∧
        ∀ report ∈ reports, report.failed = false)
      (fun last => ∃ reports, compiler.Records request rest reports session last ∧
        ∃ report ∈ reports, report.failed = true)
      (Plan.runFrom (fun _ tier => compiler.build request tier) progress rest texts session) := by
  induction rest generalizing progress texts session with
  | nil => exact ⟨[], .refl session, nofun⟩
  | cons pass rest ih =>
    have hpass := compiler.build_reports request pass.tier hclear
    have hends := compiler.build_ends request pass.tier session
    rw [Plan.runFrom]
    generalize compiler.build request pass.tier session = ended at hpass hends ⊢
    obtain ⟨attempt, next⟩ := ended
    cases attempt with
    | built text =>
      obtain ⟨report, hruns, hbuilt, hnext⟩ := hpass
      -- A pass that is built leaves no error, so that the next one starts from a clear record again.
      have hrest := ih .convertSecondary (texts ++ [(pass.slot, text)]) next hends.1
      dsimp only
      generalize Plan.runFrom _ _ rest _ next = ended at hrest ⊢
      obtain ⟨result, last⟩ := ended
      cases result with
      | complete texts =>
        obtain ⟨reports, hrecords, hall⟩ := hrest
        exact ⟨report :: reports, .cons hruns hbuilt hnext hrecords, List.forall_mem_cons.2 ⟨hbuilt, hall⟩⟩
      | failed =>
        obtain ⟨reports, hrecords, failing, hmem, hfailed⟩ := hrest
        exact ⟨report :: reports, .cons hruns hbuilt hnext hrecords, failing, List.mem_cons_of_mem _ hmem, hfailed⟩
      | escaped fault => trivial
    | failed =>
      obtain ⟨report, hruns, hfailed, hnext⟩ := hpass
      exact ⟨[report], .fail rest hruns hfailed hnext, report, List.mem_singleton_self _, hfailed⟩
    | escaped fault => trivial

/-- A compilation that comes to an end has executed its plan. -/
theorem compile_records {session after : Session σ ε} {result : CompileResult}
    (h : compiler.compile request session = (.ok result, after)) :
    ∃ reports, compiler.Records request (Plan.ofTier request.tier).passes reports
        { session with diagnostics := [], variants := [] } after ∧
      (result.artifact = none ↔ ∃ report ∈ reports, report.failed = true) := by
  have hrun := compiler.runFrom_records request (Plan.ofTier request.tier).passes .convertPrimary []
    { session with diagnostics := [], variants := [] } rfl
  have hends := compiler.run_completes request { session with diagnostics := [], variants := [] } rfl rfl
  rw [compile_eq] at h
  unfold Plan.run at h hends
  generalize Plan.runFrom _ _ _ _ _ = run at hrun hends h
  obtain ⟨run, last⟩ := run
  cases run with
  | complete texts =>
    obtain ⟨built, -, -, herrors, -⟩ := hends
    obtain ⟨reports, hrecords, hall⟩ := hrun
    rw [settle, if_neg (Bool.eq_false_iff.1 herrors)] at h
    split at h <;> cases h
    refine ⟨reports, hrecords, fun hnone => absurd hnone (Option.some_ne_none _), ?_⟩
    rintro ⟨report, hmem, hfailed⟩
    exact absurd hfailed (Bool.eq_false_iff.1 (hall report hmem))
  | failed =>
    obtain ⟨reports, hrecords, hfailed⟩ := hrun
    cases h
    exact ⟨reports, hrecords, fun _ => hfailed, fun _ => rfl⟩
  | escaped fault => cases h

/-! ### Warnings and stages that cannot be written -/

section

variable {compiler request} {tier : Tier} {s s' : σ} {e e' : ε} {report : PassReport σ ε}

theorem Runs.targetWarnings (h : compiler.Runs request tier s e report) :
    report.diagnostics.ofKind .multiRenderTargetUnsupported = request.targetWarnings tier := by
  have hnone : ∀ ds : Diagnostics, (∀ d ∈ ds, d.kind ≠ .multiRenderTargetUnsupported) →
      Diagnostics.ofKind (request.targetWarnings tier ++ ds) .multiRenderTargetUnsupported =
        request.targetWarnings tier := by
    intro ds hds
    have hempty : ds.ofKind .multiRenderTargetUnsupported = [] :=
      List.filter_eq_nil_iff.2 fun d hd => by simpa using hds d hd
    rw [Diagnostics.ofKind_append, hempty, List.append_nil, request.targetWarnings_ofKind]
  cases h with
  | unsupported hstage => exact hnone _ fun d hd => by simp [List.mem_singleton.1 hd, Request.stageError]
  | emptyPixel hpixel => exact request.targetWarnings_ofKind tier
  | refused hstage hpixel hconvert herrors =>
    refine hnone _ fun d hd => ?_
    cases herrors with
    | raised message line => simp [List.mem_singleton.1 hd]
    | reported program hne =>
      obtain ⟨m, -, rfl⟩ := List.mem_map.1 hd
      simp
    | nothing => simp [List.mem_singleton.1 hd]
  | written hstage hpixel hconvert hbody hengine => exact request.targetWarnings_ofKind tier
  | offered hstage hpixel hconvert hbody hengine hxs hhas =>
    exact hnone _ fun d hd => by simp [(Conversation.skipped_info hd).1]

theorem Executes.targetWarnings {passes : List Pass} {reports : List (PassReport σ ε)}
    (h : compiler.Executes request passes s e reports s' e')
    (hmodern : ∀ pass ∈ passes, request.targetWarnings pass.tier = []) :
    Diagnostics.ofKind (reports.flatMap PassReport.diagnostics) .multiRenderTargetUnsupported = [] := by
  induction h with
  | done => rfl
  | failed rest hruns hfailed =>
    rw [List.flatMap_singleton, hruns.targetWarnings]
    exact hmodern _ List.mem_cons_self
  | built hruns hbuilt hrest ih =>
    have hfirst := hruns.targetWarnings
    have hothers := ih fun pass hpass => hmodern pass (List.mem_cons_of_mem _ hpass)
    rw [List.flatMap_cons, Diagnostics.ofKind_append, hfirst, hothers, hmodern _ List.mem_cons_self]
    rfl

theorem Executes.targetWarnings_ofTier {reports : List (PassReport σ ε)}
    (h : compiler.Executes request (Plan.ofTier tier).passes s e reports s' e') :
    Diagnostics.ofKind (reports.flatMap PassReport.diagnostics) .multiRenderTargetUnsupported =
      request.targetWarnings tier := by
  obtain ⟨first, rest, hpasses, rfl, hmodern⟩ := Plan.ofTier_passes tier
  rw [hpasses] at h
  cases h with
  | failed rest hruns hfailed => rw [List.flatMap_singleton, hruns.targetWarnings]
  | built hruns hbuilt hrest =>
    have hfirst := hruns.targetWarnings
    have hothers := hrest.targetWarnings fun pass hpass => by simp [Request.targetWarnings, hmodern pass hpass]
    rw [List.flatMap_cons, Diagnostics.ofKind_append, hfirst, hothers, List.append_nil]

theorem Runs.of_unsupported (h : compiler.Runs request tier s e report) {name : String}
    (hstage : request.stage.Unwritable name) :
    report = ⟨true, s, e, [], [], request.targetWarnings tier ++ [request.stageError name]⟩ := by
  generalize hrequested : request.stage = stage at hstage
  cases h with
  | unsupported hname =>
    rw [hrequested] at hname
    cases hstage <;> cases hname <;> rfl
  | emptyPixel hpixel =>
    rw [← hrequested, hpixel.2.1] at hstage
    cases hstage
  | refused hwritten =>
    rw [hrequested] at hwritten
    cases hwritten <;> cases hstage
  | written hwritten =>
    rw [hrequested] at hwritten
    cases hwritten <;> cases hstage
  | offered hwritten =>
    rw [hrequested] at hwritten
    cases hwritten <;> cases hstage

/-- A stage that cannot be written ends the plan at its first pass. -/
theorem Executes.of_unsupported {reports : List (PassReport σ ε)}
    (h : compiler.Executes request (Plan.ofTier tier).passes s e reports s' e') {name : String}
    (hstage : request.stage.Unwritable name) :
    reports = [⟨true, s, e, [], [], request.targetWarnings tier ++ [request.stageError name]⟩] := by
  obtain ⟨first, rest, hpasses, rfl, -⟩ := Plan.ofTier_passes tier
  rw [hpasses] at h
  cases h with
  | failed rest hruns hfailed => rw [hruns.of_unsupported hstage]
  | built hruns hbuilt hrest =>
    rw [hruns.of_unsupported hstage] at hbuilt
    cases hbuilt

end

/-- A compilation that comes to an end has executed its plan up to the first pass that fails. Its record, and all that
the converter and the engine were asked, is that of its passes in order. It warns about render targets at most once,
and for a stage that cannot be written it says so once and asks nobody. -/
theorem compile_record {session after : Session σ ε} {result : CompileResult}
    (h : compiler.compile request session = (.ok result, after)) :
    ∃ reports,
      compiler.Executes request (Plan.ofTier request.tier).passes session.converter session.engine reports
        after.converter after.engine ∧
      result.diagnostics = reports.flatMap PassReport.diagnostics ∧
      after.calls = session.calls ++ reports.flatMap PassReport.calls ∧
      after.events = session.events ++ reports.flatMap PassReport.events ∧
      (result.artifact = none ↔ ∃ report ∈ reports, report.failed = true) ∧
      result.diagnostics.ofKind .multiRenderTargetUnsupported = request.targetWarnings request.tier ∧
      (∀ name, request.stage.Unwritable name → reports = [⟨true, session.converter, session.engine, [], [],
        request.targetWarnings request.tier ++ [request.stageError name]⟩]) := by
  obtain ⟨reports, hrecords, hartifact⟩ := compiler.compile_records request h
  have hdiagnostics : result.diagnostics = reports.flatMap PassReport.diagnostics := by
    rw [compiler.compile_diagnostics request h, hrecords.diagnostics]
    rfl
  refine ⟨reports, hrecords.executes, hdiagnostics, hrecords.calls, hrecords.events, hartifact, ?_, ?_⟩
  · rw [hdiagnostics]
    exact hrecords.executes.targetWarnings_ofTier
  · intro name hstage
    exact hrecords.executes.of_unsupported hstage

/-- A legacy request with four render targets, whose second conversion comes with two messages beside a program; and
such a request for a geometry stage. -/
theorem compile_record_messages :
    let compiler : Compiler Bool Unit :=
      ⟨⟨fun _ asked =>
          (.result (some []) (if asked then [⟨"no such type", some 3⟩, ⟨"giving up", none⟩] else []), true),
        fun _ asked => asked⟩, none⟩
    let request : Request := ⟨"", some "main", .vertex, .opengles, .level91, 4, some "a.sdsl"⟩
    let geometry : Request := { request with stage := .geometry }
    let warning : Diagnostic := ⟨.multiRenderTargetUnsupported, .warning,
      "OpenGL ES 2 does not support multiple render targets.", some "a.sdsl", none⟩
    (∃ result after reports, compiler.compile request ⟨false, (), [], [], [], []⟩ = (.ok result, after) ∧
      compiler.Executes request [⟨.legacy, .es2⟩, ⟨.modern, .es3⟩] false () reports true () ∧
      result.diagnostics = reports.flatMap PassReport.diagnostics ∧
      result.diagnostics = [warning,
        ⟨.conversionFailed, .error, "no such type", some "a.sdsl", some 3⟩,
        ⟨.conversionFailed, .error, "giving up", some "a.sdsl", none⟩] ∧
      after.calls = [request.call .vertex, request.call .vertex] ∧
      ∃ report ∈ reports, report.failed = true) ∧
    ∃ result after, compiler.compile geometry ⟨false, (), [], [], [], []⟩ = (.ok result, after) ∧
      result.diagnostics = [warning, ⟨.unsupportedStage, .error,
        "Geometry stage can't be converted to OpenGL. Only Vertex and Pixel shaders are supported",
        some "a.sdsl", none⟩] ∧
      after.calls = [] ∧ after.converter = false := by
  intro compiler request geometry warning
  constructor
  · have hcompile : compiler.compile request ⟨false, (), [], [], [], []⟩ = (.ok _, _) := rfl
    obtain ⟨reports, hexecutes, hdiagnostics, -, -, hartifact, -, -⟩ := compile_record compiler request hcompile
    exact ⟨_, _, reports, hcompile, hexecutes, hdiagnostics, rfl, rfl, hartifact.1 rfl⟩
  · have hcompile : compiler.compile geometry ⟨false, (), [], [], [], []⟩ = (.ok _, _) := rfl
    obtain ⟨reports, -, hdiagnostics, -, -, -, -, hunsupported⟩ := compile_record compiler geometry hcompile
    rw [hunsupported _ .geometry] at hdiagnostics
    exact ⟨_, _, hcompile, hdiagnostics, rfl, rfl⟩

end Compiler

end GlslCompiler
