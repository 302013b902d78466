import GlslCompiler.Proofs.Compile.Contents
import GlslCompiler.Proofs.Compile.Sharing
import GlslCompiler.Proofs.Writer.Dialects

/-!
# What an artifact depends on

Two compilations are run side by side. Their requests want the same stage of the same source in the same dialect;
the name of the file and the profile may differ, and so may the number of render targets where no fragment output is
declared. Their collaborators may be of different make, as long as related states give the same answers, whatever
the file is called. The two compilations then go alike pass by pass: `Session.Matches` is what their sessions have in
common, and the records are compared only as to whether they hold an error, since file names and warnings show up
there and nowhere else.

An ES pixel request without an entry point depends on less. Nobody is asked about it, so its result can be written
down without the source and the collaborators.
-/

namespace GlslCompiler

/-! ### Dialects and requests -/

/-- Tiers of one name are the same or both desktop. -/
theorem Tier.name_eq_iff {tier tier' : Tier} :
    tier.name = tier'.name ↔ tier = tier' ∨ (tier.constrained = false ∧ tier'.constrained = false) := by
  obtain ⟨constrained, modern⟩ := tier
  obtain ⟨constrained', modern'⟩ := tier'
  cases constrained <;> cases modern <;> cases constrained' <;> cases modern' <;> decide

theorem Tier.constrained_of_name {tier tier' : Tier} (h : tier.name = tier'.name) :
    tier.constrained = tier'.constrained := by
  rcases Tier.name_eq_iff.1 h with rfl | ⟨hfirst, hsecond⟩
  · rfl
  · rw [hfirst, hsecond]

/-- Whether two requests want the same: the file's name and the profile within a dialect do not matter, and the
number of render targets does not where no output is declared. -/
structure Request.Interchangeable (request other : Request) : Prop where
  source : request.source = other.source
  entryPoint : request.entryPoint = other.entryPoint
  stage : request.stage = other.stage
  dialect : request.tier.name = other.tier.name
  targets : request.renderTargets = other.renderTargets ∨ request.tier.constrained = true ∨ request.stage = .vertex

theorem Preamble.compose_congr {tier tier' : Tier} {count count' : Int} {stage : PipelineStage}
    (hname : tier.name = tier'.name) (h : count = count' ∨ tier.constrained = true ∨ stage = .vertex) (body : String) :
    compose tier count stage body = compose tier' count' stage body := by
  have hlines : lines tier count stage = lines tier' count' stage := by
    obtain ⟨constrained, modern⟩ := tier
    obtain ⟨constrained', modern'⟩ := tier'
    rcases Tier.name_eq_iff.1 hname with heq | ⟨rfl, rfl⟩
    · cases heq
      rcases h with rfl | rfl | rfl
      · rfl
      · simp [lines, outputs]
      · simp [lines, outputs]
    · rcases h with rfl | h | rfl
      · simp [lines, version, extensions, precision, outputs]
      · cases h
      · simp [lines, version, extensions, precision, outputs]
  unfold compose text
  rw [hlines]

theorem Program.normalize_congr {tier tier' : Tier} (h : tier.name = tier'.name) (stage : PipelineStage)
    (program : Program) : program.normalize tier stage = program.normalize tier' stage := by
  unfold Program.normalize
  rw [Tier.constrained_of_name h]

theorem Program.text_of_name {tier tier' : Tier} (h : tier.name = tier'.name) (program : Program) :
    program.text tier = program.text tier' := by
  rcases Tier.name_eq_iff.1 h with rfl | ⟨hfirst, hsecond⟩
  · rfl
  · apply Program.text_congr
    · simp [Tier.trimsFloatSuffix, hfirst, hsecond]
    · simp [Tier.hasUniformBlocks, hfirst, hsecond]

/-! ### Collaborators that answer alike -/

section Collaborators

variable {σ τ ε ζ : Type}

/-- Two engine calls that answer alike in related states and leave related states. What they do to a library is not
compared. -/
def EngineAction.Agrees {α : Type} (Q : ε → ζ → Prop) (action : EngineAction ε α) (action' : EngineAction ζ α) : Prop :=
  ∀ s t, Q s t → (action s).1 = (action' t).1 ∧ Q (action s).2.2 (action' t).2.2

structure Engine.Bisimilar (Q : ε → ζ → Prop) (engine : Engine ε) (engine' : Engine ζ) : Prop where
  createContext : ∀ target, EngineAction.Agrees Q (engine.createContext target) (engine'.createContext target)
  optimize : ∀ context shaderType source options, EngineAction.Agrees Q
    (engine.optimize context shaderType source options) (engine'.optimize context shaderType source options)
  status : ∀ shader, EngineAction.Agrees Q (engine.status shader) (engine'.status shader)
  output : ∀ shader, EngineAction.Agrees Q (engine.output shader) (engine'.output shader)
  deleteShader : ∀ shader, EngineAction.Agrees Q (engine.deleteShader shader) (engine'.deleteShader shader)
  cleanup : ∀ context, EngineAction.Agrees Q (engine.cleanup context) (engine'.cleanup context)

/-- Two converters that answer every call alike, even if the file has another name. -/
structure Converter.Bisimilar (R : σ → τ → Prop) (converter : Converter σ) (converter' : Converter τ) : Prop where
  answer : ∀ (call : ConverterCall) (file : Option String) s t, R s t →
    (converter.convert call s).1 = (converter'.convert { call with file := file } t).1
  convert : ∀ (call : ConverterCall) (file : Option String) s t, R s t →
    R (converter.convert call s).2 (converter'.convert { call with file := file } t).2
  retain : ∀ changed s t, R s t → R (converter.retain changed s) (converter'.retain changed t)

structure Compiler.Bisimilar (R : σ → τ → Prop) (Q : ε → ζ → Prop) (compiler : Compiler σ ε)
    (compiler' : Compiler τ ζ) : Prop where
  converter : compiler.converter.Bisimilar R compiler'.converter
  engine : Option.Rel (Engine.Bisimilar Q) compiler.engine compiler'.engine

end Collaborators

/-! ### The bridge -/

namespace Bridge

variable {ε ζ : Type} {Q : ε → ζ → Prop} {engine : Engine ε} {engine' : Engine ζ} {run : Run ε} {run' : Run ζ}

/-- The same answer, and related states of the engines. -/
def Agrees {α : Type} (Q : ε → ζ → Prop) (ended : Except Fault α × Run ε) (ended' : Except Fault α × Run ζ) : Prop :=
  ended.1 = ended'.1 ∧ Q ended.2.state ended'.2.state

theorem Agrees.cases {α : Type} {ended : Except Fault α × Run ε} {ended' : Except Fault α × Run ζ}
    (h : Agrees Q ended ended') :
    ∃ answer run run', ended = (answer, run) ∧ ended' = (answer, run') ∧ Q run.state run'.state :=
  ⟨ended.1, ended.2, ended'.2, rfl, Prod.ext h.1.symm rfl, h.2⟩

theorem perform_agrees {α : Type} {action : EngineAction ε α} {action' : EngineAction ζ α}
    (h : EngineAction.Agrees Q action action') (call : EngineCall) (hQ : Q run.state run'.state) :
    Agrees Q (perform call action run) (perform call action' run') :=
  h run.state run'.state hQ

theorem releasing_agrees {α : Type} {release : EngineAction ε Unit} {release' : EngineAction ζ Unit}
    {used : Except Fault α × Run ε} {used' : Except Fault α × Run ζ} (h : EngineAction.Agrees Q release release')
    (call : EngineCall) (hused : Agrees Q used used') :
    Agrees Q (releasing call release used) (releasing call release' used') := by
  obtain ⟨answer, after, after', hfirst, hsecond, hQ⟩ := (perform_agrees h call hused.2).cases
  rw [releasing, releasing, hfirst, hsecond]
  cases answer with
  | ok => exact ⟨hused.1, hQ⟩
  | error fault => exact ⟨rfl, hQ⟩

variable (h : engine.Bisimilar Q engine')

include h

theorem readOutput_agrees (shader : Handle) (hQ : Q run.state run'.state) :
    Agrees Q (readOutput engine shader run) (readOutput engine' shader run') := by
  obtain ⟨status, after, after', hfirst, hsecond, hQ⟩ := (perform_agrees (h.status shader) .status hQ).cases
  rw [readOutput, readOutput, hfirst, hsecond]
  match status with
  | .error fault => exact ⟨rfl, hQ⟩
  | .ok false => exact ⟨rfl, hQ⟩
  | .ok true =>
    obtain ⟨output, last, last', hfirst, hsecond, hQ⟩ := (perform_agrees (h.output shader) .output hQ).cases
    dsimp only
    rw [hfirst, hsecond]
    cases output <;> exact ⟨rfl, hQ⟩

/-- Two jobs that an engine cannot tell apart. -/
theorem withContext_agrees {job job' : OptimizerJob} (htarget : optimizerTarget job.tier = optimizerTarget job'.tier)
    (htype : job.shaderType = job'.shaderType) (hinput : job.input = job'.input) (hQ : Q run.state run'.state) :
    Agrees Q (withContext engine job run) (withContext engine' job' run') := by
  obtain ⟨context, after, after', hfirst, hsecond, hQ⟩ :=
    (perform_agrees (h.createContext (optimizerTarget job.tier)) (.createContext (optimizerTarget job.tier)) hQ).cases
  rw [withContext, withContext, ← htarget, hfirst, hsecond]
  cases context with
  | error fault => exact ⟨rfl, hQ⟩
  | ok context =>
    apply releasing_agrees (h.cleanup context)
    obtain ⟨shader, last, last', hfirst, hsecond, hQ⟩ :=
      (perform_agrees (h.optimize context job.shaderType job.input defaultOptimizerOptions)
        (.optimize job.shaderType job.input defaultOptimizerOptions) hQ).cases
    rw [withShader, withShader, ← htype, ← hinput, hfirst, hsecond]
    cases shader with
    | error fault => exact ⟨rfl, hQ⟩
    | ok shader => exact releasing_agrees (h.deleteShader shader) _ (readOutput_agrees h shader hQ)

end Bridge

/-- Jobs for the same text in the same dialect. -/
structure OptimizerJob.Matches (job job' : OptimizerJob) : Prop where
  source : job.source = job'.source
  stage : job.stage = job'.stage
  dialect : job.tier.name = job'.tier.name

/-! ### Two compilations -/

/-- What the sessions of the two compilations have in common. -/
structure Session.Matches {σ τ ε ζ : Type} (R : σ → τ → Prop) (Q : ε → ζ → Prop) (session : Session σ ε)
    (other : Session τ ζ) : Prop where
  converter : R session.converter other.converter
  engine : Q session.engine other.engine
  hasErrors : session.diagnostics.hasErrors = other.diagnostics.hasErrors
  texts : session.variants.map Variant.text = other.variants.map Variant.text

inductive Draft.Matches : Draft → Draft → Prop where
  | failed : Matches .failed .failed
  | escaped (fault : Escape) : Matches (.escaped fault) (.escaped fault)
  | fixed (text : String) : Matches (.fixed text) (.fixed text)
  | offered {job job' : OptimizerJob} (h : job.Matches job') : Matches (.offered job) (.offered job')

structure Drafting.Matches {σ τ : Type} (R : σ → τ → Prop) (drafting : Drafting σ) (other : Drafting τ) : Prop where
  draft : drafting.draft.Matches other.draft
  converter : R drafting.converter other.converter
  hasErrors : drafting.diagnostics.hasErrors = other.diagnostics.hasErrors

/-- How an answer is read does not depend on the file, which is only named in the errors. -/
theorem ConverterAnswer.read_cases (answer : ConverterAnswer) :
    (∃ fault, ∀ file, answer.read file = .error fault) ∨
    (∀ file, ∃ errors, answer.read file = .ok (.error errors)) ∨
    ∃ program, ∀ file, answer.read file = .ok (.ok program) := by
  match answer with
  | .crashed fault => exact .inl ⟨fault, fun _ => rfl⟩
  | .refused message line => exact .inr (.inl fun _ => ⟨_, rfl⟩)
  | .result none [] => exact .inr (.inl fun _ => ⟨_, rfl⟩)
  | .result (some program) [] => exact .inr (.inr ⟨program, fun _ => rfl⟩)
  | .result none (message :: rest) => exact .inr (.inl fun _ => ⟨_, rfl⟩)
  | .result (some program) (message :: rest) => exact .inr (.inl fun _ => ⟨_, rfl⟩)

section Drafts

variable {σ τ : Type} {R : σ → τ → Prop} {converter : Converter σ} {converter' : Converter τ}
  {request other : Request} {tier tier' : Tier}

theorem Converter.draftConverted_matches (h : converter.Bisimilar R converter')
    (hrequests : request.Interchangeable other) (htier : tier.name = tier'.name) {stage : PipelineStage}
    (htargets : request.renderTargets = other.renderTargets ∨ tier.constrained = true ∨ stage = .vertex)
    {ds ds' : Diagnostics} (hds : ds.hasErrors = ds'.hasErrors) {s : σ} {t : τ} (hR : R s t) :
    (converter.draftConverted request tier stage ds s).Matches R
      (converter'.draftConverted other tier' stage ds' t) := by
  have hanswer := h.answer ⟨request.source, request.entryPoint, stage, request.file⟩ other.file s t hR
  have hstates := h.convert ⟨request.source, request.entryPoint, stage, request.file⟩ other.file s t hR
  dsimp only at hanswer hstates
  unfold Converter.draftConverted
  dsimp only
  rw [hrequests.source, hrequests.entryPoint] at hanswer hstates ⊢
  rw [hanswer]
  generalize (converter'.convert ⟨other.source, other.entryPoint, stage, other.file⟩ t).1 = answer
  rcases answer.read_cases with ⟨fault, hread⟩ | hread | ⟨program, hread⟩
  · rw [hread, hread]
    exact ⟨.escaped _, hstates, hds⟩
  · obtain ⟨errors, hfirst⟩ := hread request.file
    obtain ⟨errors', hsecond⟩ := hread other.file
    rw [hfirst, hsecond]
    refine ⟨.failed, hstates, ?_⟩
    rw [Diagnostics.hasErrors_append, Diagnostics.hasErrors_append, hds, (ConverterAnswer.read_errors hfirst).1,
      (ConverterAnswer.read_errors hsecond).1]
  · rw [hread, hread]
    dsimp only
    unfold Converter.draftProgram
    dsimp only
    rw [Program.normalize_congr htier, Program.text_of_name htier]
    cases (program.normalize tier' stage).text tier' with
    | error error => exact ⟨.escaped _, h.retain _ _ _ hstates, hds⟩
    | ok body =>
      refine ⟨.offered ⟨?_, rfl, htier⟩, h.retain _ _ _ hstates, hds⟩
      exact Preamble.compose_congr htier htargets body

theorem Converter.draft_matches (h : converter.Bisimilar R converter') (hrequests : request.Interchangeable other)
    (htier : tier.name = tier'.name) (hes : tier.constrained = request.tier.constrained) (blocked : Bool) {s : σ}
    {t : τ} (hR : R s t) :
    (converter.draft request tier blocked s).Matches R (converter'.draft other tier' blocked t) := by
  have hcheck := StageCheck.run_hasErrors request.stage tier request.renderTargets request.file
  have hcheck' := StageCheck.run_hasErrors other.stage tier' other.renderTargets other.file
  unfold Converter.draft
  dsimp only
  rw [StageCheck.run_fst, StageCheck.run_fst, ← hrequests.entryPoint, ← Tier.constrained_of_name htier]
  rw [← hrequests.stage] at hcheck' ⊢
  have hds := hcheck.trans hcheck'.symm
  cases hstage : request.stage.pipeline? with
  | none => exact ⟨.failed, hR, hds⟩
  | some stage =>
    have htargets : request.renderTargets = other.renderTargets ∨ tier.constrained = true ∨ stage = .vertex := by
      rw [hes]
      refine hrequests.targets.imp id (Or.imp id ?_)
      intro hvertex
      rw [hvertex] at hstage
      exact (Option.some.inj hstage).symm
    dsimp only
    split
    · exact ⟨.failed, hR, hds⟩
    · split
      · rw [Preamble.compose_congr htier htargets]
        exact ⟨.fixed _, hR, hds⟩
      · exact Converter.draftConverted_matches h hrequests htier htargets hds hR

end Drafts

namespace Compiler

variable {σ τ ε ζ : Type} {R : σ → τ → Prop} {Q : ε → ζ → Prop} {compiler : Compiler σ ε} {compiler' : Compiler τ ζ}
  {request other : Request}

theorem optimize_matches (h : compiler.Bisimilar R Q compiler') {job job' : OptimizerJob} (hjobs : job.Matches job')
    (file file' : Option String) {s : Session σ ε} {t : Session τ ζ} (hst : s.Matches R Q t) :
    (compiler.optimize job file s).1 = (compiler'.optimize job' file' t).1 ∧
      (compiler.optimize job file s).2.Matches R Q (compiler'.optimize job' file' t).2 := by
  have hrecord : (compiler.optimize job file s).2.diagnostics.hasErrors =
      (compiler'.optimize job' file' t).2.diagnostics.hasErrors := by
    rw [optimize_hasErrors, optimize_hasErrors, hst.hasErrors]
  have hoffer : (Bridge.offer compiler.engine job file ⟨s.engine, s.events⟩).1 =
      (Bridge.offer compiler'.engine job' file' ⟨t.engine, t.events⟩).1 ∧
      Q (Bridge.offer compiler.engine job file ⟨s.engine, s.events⟩).2.2.state
        (Bridge.offer compiler'.engine job' file' ⟨t.engine, t.events⟩).2.2.state := by
    generalize compiler.engine = engine, compiler'.engine = engine', h.engine = hengines
    cases hengines with
    | none => exact ⟨rfl, hst.engine⟩
    | @some engine engine' hengine =>
      have htarget : optimizerTarget job.tier = optimizerTarget job'.tier := by
        rcases Tier.name_eq_iff.1 hjobs.dialect with heq | ⟨hfirst, hsecond⟩
        · rw [heq]
        · simp [optimizerTarget, hfirst, hsecond]
      have htype : job.shaderType = job'.shaderType := by
        unfold OptimizerJob.shaderType
        rw [hjobs.stage]
      have hinput : job.input = job'.input := by
        unfold OptimizerJob.input
        rw [Tier.constrained_of_name hjobs.dialect, hjobs.stage, hjobs.source]
      have hacquired : Q (⟨s.engine, s.events ++ [.acquire]⟩ : Bridge.Run ε).state
          (⟨t.engine, t.events ++ [.acquire]⟩ : Bridge.Run ζ).state := hst.engine
      obtain ⟨hanswer, hQ⟩ := Bridge.withContext_agrees hengine htarget htype hinput hacquired
      exact ⟨congrArg (fun answer => (Verdict.ofAnswer answer).text?) hanswer, hQ⟩
  refine ⟨?_, hst.converter, hoffer.2, hrecord, hst.texts⟩
  unfold optimize
  dsimp only
  rw [hoffer.1, hjobs.source]

theorem build_matches (h : compiler.Bisimilar R Q compiler') (hrequests : request.Interchangeable other)
    {tier tier' : Tier} (htier : tier.name = tier'.name) (hes : tier.constrained = request.tier.constrained)
    {s : Session σ ε} {t : Session τ ζ} (hst : s.Matches R Q t) :
    (compiler.build request tier s).1 = (compiler'.build other tier' t).1 ∧
      (compiler.build request tier s).2.Matches R Q (compiler'.build other tier' t).2 := by
  have hdrafts := Converter.draft_matches h.converter hrequests htier hes s.diagnostics.hasErrors hst.converter
  rw [build_eq, build_eq]
  unfold draft
  rw [← hst.hasErrors]
  generalize compiler.converter.draft request tier s.diagnostics.hasErrors s.converter = drafting at hdrafts ⊢
  generalize compiler'.converter.draft other tier' s.diagnostics.hasErrors t.converter = drafting' at hdrafts ⊢
  have hdrafted : (s.draft drafting).Matches R Q (t.draft drafting') := by
    refine ⟨hdrafts.converter, hst.engine, ?_, hst.texts⟩
    simp only [Session.draft, Diagnostics.hasErrors_append, hst.hasErrors, hdrafts.hasErrors]
  have hkeep : ∀ {s : Session σ ε} {t : Session τ ζ} (text : String), s.Matches R Q t →
      (s.keep ⟨text, request.stage, tier⟩).Matches R Q (t.keep ⟨text, other.stage, tier'⟩) := by
    intro s t text hst
    refine ⟨hst.converter, hst.engine, hst.hasErrors, ?_⟩
    simp only [Session.keep, List.map_append, hst.texts, List.map_cons, List.map_nil]
  generalize drafting.draft = first, drafting'.draft = second, hdrafts.draft = hdraft
  cases hdraft with
  | failed => exact ⟨rfl, hdrafted⟩
  | escaped fault => exact ⟨rfl, hdrafted⟩
  | fixed text => exact ⟨rfl, hkeep text hdrafted⟩
  | offered hjobs =>
    obtain ⟨htext, hmatches⟩ := optimize_matches h hjobs request.file other.file hdrafted
    rw [optimizeDraft, optimizeDraft, keepBuilt, keepBuilt, htext]
    exact ⟨rfl, hkeep _ hmatches⟩

end Compiler

/-- A plan for another tier of the same dialect has the same passes, each for a tier of its own. -/
theorem Plan.ofTier_of_name {tier tier' : Tier} (h : tier.name = tier'.name) :
    (ofTier tier').dual = (ofTier tier).dual ∧
    ∃ f : Tier → Tier, (∀ pass ∈ (ofTier tier).passes, pass.tier.name = (f pass.tier).name) ∧
      (ofTier tier').passes = (ofTier tier).passes.map fun pass => ⟨pass.slot, f pass.tier⟩ := by
  obtain ⟨constrained, modern⟩ := tier
  obtain ⟨constrained', modern'⟩ := tier'
  rcases Tier.name_eq_iff.1 h with heq | ⟨rfl, rfl⟩
  · cases heq
    exact ⟨rfl, id, fun _ _ => rfl, by simp⟩
  · refine ⟨rfl, fun _ => ⟨false, modern'⟩, ?_, rfl⟩
    intro pass hpass
    rw [List.mem_singleton.1 hpass]
    exact h

theorem Plan.runFrom_map {φ σ : Type} (build : Progress → Tier → σ → Attempt φ × σ) (f : Tier → Tier)
    (passes : List Pass) (progress : Progress) (texts : SlotTexts) (s : σ) :
    runFrom build progress (passes.map fun pass => ⟨pass.slot, f pass.tier⟩) texts s =
      runFrom (fun progress tier => build progress (f tier)) progress passes texts s := by
  induction passes generalizing progress texts s with
  | nil => rfl
  | cons pass rest ih =>
    rw [List.map_cons, runFrom, runFrom]
    generalize build progress (f pass.tier) s = ended
    obtain ⟨attempt, s'⟩ := ended
    cases attempt with
    | built text => exact ih _ _ _
    | failed => rfl
    | escaped fault => rfl

/-- What a result holds: its artifact and the texts of its variants. -/
def CompileResult.product (result : CompileResult) : Option Artifact × List String :=
  (result.artifact, result.variants.map Variant.text)

namespace Compiler

section Matching

variable {σ τ ε ζ : Type} {R : σ → τ → Prop} {Q : ε → ζ → Prop} {compiler : Compiler σ ε} {compiler' : Compiler τ ζ}
  {request other : Request}

theorem settle_matches (hrequests : request.Interchangeable other) {ended : PlanResult Escape × Session σ ε}
    {ended' : PlanResult Escape × Session τ ζ} (hresult : ended.1 = ended'.1) (h : ended.2.Matches R Q ended'.2) :
    (settle request ended).1.map CompileResult.product = (settle other ended').1.map CompileResult.product ∧
      (settle request ended).2.Matches R Q (settle other ended').2 := by
  obtain ⟨result, s⟩ := ended
  obtain ⟨result', t⟩ := ended'
  obtain rfl : result = result' := hresult
  rw [settle_session, settle_session]
  refine ⟨?_, h⟩
  dsimp only at h
  cases result with
  | failed => rfl
  | escaped fault => rfl
  | complete texts =>
    have hpackage : package (Plan.ofTier request.tier) texts request.stage =
        package (Plan.ofTier other.tier) texts other.stage := by
      unfold package
      rw [(Plan.ofTier_of_name hrequests.dialect).1, hrequests.stage]
    rw [settle, settle, h.hasErrors, hpackage]
    split
    · rfl
    · split
      · rfl
      · dsimp only [Except.map, CompileResult.product]
        rw [h.texts]

/-- Two compilations that go alike. -/
theorem compile_matches (h : compiler.Bisimilar R Q compiler') (hrequests : request.Interchangeable other)
    {s : Session σ ε} {t : Session τ ζ} (hR : R s.converter t.converter) (hQ : Q s.engine t.engine) :
    (compiler.compile request s).1.map CompileResult.product =
        (compiler'.compile other t).1.map CompileResult.product ∧
      (compiler.compile request s).2.Matches R Q (compiler'.compile other t).2 := by
  obtain ⟨-, f, hnames, hpasses⟩ := Plan.ofTier_of_name hrequests.dialect
  have hstart : Session.Matches R Q { s with diagnostics := [], variants := [] }
      { t with diagnostics := [], variants := [] } := ⟨hR, hQ, rfl, rfl⟩
  have hrun := @Plan.runFrom_lockstep _ _ _ (Session.Matches R Q) (fun _ tier => compiler.build request tier)
    (fun _ tier => compiler'.build other (f tier)) (Plan.ofTier request.tier).passes
    (fun pass hpass _ _ _ hst =>
      build_matches h hrequests (hnames pass hpass) (Plan.constrained_of_mem hpass) hst)
    .convertPrimary [] _ _ hstart
  rw [← Plan.runFrom_map (fun _ tier => compiler'.build other tier), ← hpasses] at hrun
  rw [compile_eq, compile_eq]
  exact settle_matches hrequests hrun.1 hrun.2

end Matching

end Compiler

/-! ### A request nobody is asked about -/

/-- The variant of an ES pixel request without an entry point. -/
def Request.emptyVariant (request : Request) (tier : Tier) : Variant :=
  ⟨Preamble.compose tier request.renderTargets .pixel emptyPixelProgram, request.stage, tier⟩

/-- What is built for an ES pixel request without an entry point. -/
def Request.emptyBuilt (request : Request) : List (Pass × String) :=
  (Plan.ofTier request.tier).passes.map fun pass => (pass, (request.emptyVariant pass.tier).text)

/-- The result of an ES pixel request without an entry point, with its artifact. -/
def Request.emptyResult (request : Request) (artifact : Artifact) : CompileResult :=
  let plan := Plan.ofTier request.tier
  { artifact := some artifact
    diagnostics := plan.passes.flatMap fun pass =>
      StageCheck.renderTargetWarnings pass.tier request.renderTargets request.file
    variants := plan.passes.map fun pass => request.emptyVariant pass.tier }

/-- An ES program declares no outputs, so that there are only two such texts. -/
theorem Request.length_emptyVariant_lt (request : Request) {tier : Tier} (hes : tier.constrained = true) :
    (request.emptyVariant tier).text.length < 2 ^ 32 := by
  change (Preamble.compose tier request.renderTargets .pixel emptyPixelProgram).length < 2 ^ 32
  rw [@Preamble.compose_congr tier tier request.renderTargets 1 .pixel rfl (.inr (.inl hes))]
  obtain ⟨constrained, modern⟩ := tier
  obtain rfl : constrained = true := hes
  cases modern <;> decide

namespace Compiler

section EmptyPixel

variable {σ ε : Type} (compiler : Compiler σ ε) {request : Request}

theorem build_emptyPixel {tier : Tier} (hpixel : request.isEmptyPixel tier) {session : Session σ ε}
    (hclear : session.diagnostics.hasErrors = false) :
    compiler.build request tier session =
      (.built (request.emptyVariant tier).text,
        (session.record (StageCheck.renderTargetWarnings tier request.renderTargets request.file)).keep
          (request.emptyVariant tier)) := by
  obtain ⟨hentry, hstage, hes⟩ := hpixel
  have hwarnings := StageCheck.renderTargetWarnings_hasErrors tier request.renderTargets request.file
  have hcheck : StageCheck.run request.stage tier request.renderTargets request.file =
      (some .pixel, StageCheck.renderTargetWarnings tier request.renderTargets request.file) := by
    rw [hstage]
    rfl
  have hrecord : (session.record
      (StageCheck.renderTargetWarnings tier request.renderTargets request.file)).diagnostics.hasErrors = false := by
    rw [Session.record, Diagnostics.hasErrors_append, hclear, hwarnings, Bool.or_false]
  unfold build buildText
  rw [hcheck]
  dsimp only
  rw [hrecord, if_neg Bool.false_ne_true, if_pos ⟨hentry, rfl, hes⟩]
  rfl

theorem runFrom_emptyPixel {passes : List Pass} (hpixel : ∀ pass ∈ passes, request.isEmptyPixel pass.tier)
    (progress : Progress) (texts : SlotTexts) {session : Session σ ε}
    (hclear : session.diagnostics.hasErrors = false) :
    Plan.runFrom (fun _ tier => compiler.build request tier) progress passes texts session =
      (.complete (texts ++ passes.map fun pass => (pass.slot, (request.emptyVariant pass.tier).text)),
        { session with
          diagnostics := session.diagnostics ++ passes.flatMap fun pass =>
            StageCheck.renderTargetWarnings pass.tier request.renderTargets request.file
          variants := session.variants ++ passes.map fun pass => request.emptyVariant pass.tier }) := by
  induction passes generalizing progress texts session with
  | nil => simp [Plan.runFrom]
  | cons pass rest ih =>
    have hwarnings := StageCheck.renderTargetWarnings_hasErrors pass.tier request.renderTargets request.file
    rw [Plan.runFrom, build_emptyPixel compiler (hpixel pass List.mem_cons_self) hclear]
    dsimp only
    rw [ih fun own hown => hpixel own (List.mem_cons_of_mem pass hown)]
    · simp [Session.keep, Session.record]
    · rw [Session.keep, Session.record, Diagnostics.hasErrors_append, hclear, hwarnings, Bool.or_false]

theorem emptyPixel_of_mem (hpixel : request.isEmptyPixel request.tier) {pass : Pass}
    (hpass : pass ∈ (Plan.ofTier request.tier).passes) : request.isEmptyPixel pass.tier := by
  refine ⟨hpixel.1, hpixel.2.1, ?_⟩
  rw [Plan.constrained_of_mem hpass]
  exact hpixel.2.2

theorem package_emptyPixel (hpixel : request.isEmptyPixel request.tier) :
    ∃ artifact, package (Plan.ofTier request.tier) (Plan.slotTexts request.emptyBuilt) request.stage =
      .ok artifact := by
  have hfits : (Plan.slotTexts request.emptyBuilt).dualVariants.Fits := by
    intro text htext
    obtain ⟨b, hb, rfl⟩ := htext.elim Plan.exists_of_get? Plan.exists_of_get?
    obtain ⟨pass, hpass, rfl⟩ := List.mem_map.1 hb
    exact request.length_emptyVariant_lt (emptyPixel_of_mem hpixel hpass).2.2
  obtain ⟨bytes, hbytes⟩ := DualVariants.encode_ok_iff.2 hfits
  rw [package, Plan.dual_ofTier, if_pos hpixel.2.2, Artifact.dual, hbytes]
  exact ⟨_, rfl⟩

theorem compile_emptyPixel (hpixel : request.isEmptyPixel request.tier) {artifact : Artifact}
    (hpackage : package (Plan.ofTier request.tier) (Plan.slotTexts request.emptyBuilt) request.stage = .ok artifact)
    (session : Session σ ε) : (compiler.compile request session).1 = .ok (request.emptyResult artifact) := by
  have hwarnings : (request.emptyResult artifact).diagnostics.hasErrors = false := by
    rw [Request.emptyResult, Diagnostics.hasErrors, List.any_flatMap, List.any_eq_false]
    intro pass _
    exact Bool.eq_false_iff.1 (StageCheck.renderTargetWarnings_hasErrors pass.tier request.renderTargets request.file)
  have htexts : ([] ++ (Plan.ofTier request.tier).passes.map fun pass =>
      (pass.slot, (request.emptyVariant pass.tier).text)) = Plan.slotTexts request.emptyBuilt := by
    rw [List.nil_append, Plan.slotTexts, Request.emptyBuilt, List.map_map]
    rfl
  rw [compile_eq, Plan.run,
    runFrom_emptyPixel compiler (fun pass hpass => emptyPixel_of_mem hpixel hpass) .convertPrimary [] (by rfl), htexts,
    settle, hpackage]
  change (if Diagnostics.hasErrors ([] ++ (request.emptyResult artifact).diagnostics) then _ else _ :
    _ × Session σ ε).1 = _
  rw [List.nil_append, hwarnings, if_neg Bool.false_ne_true]
  rfl

end EmptyPixel

/-- Interchangeable requests, compiled with collaborators that answer alike, end alike and give the same artifact and
the same texts. A pixel request without an entry point has one result in the ES family, whatever the source and
whoever the collaborators. -/
theorem compile_independent (request : Request) :
    (∀ {σ τ ε ζ : Type} {R : σ → τ → Prop} {Q : ε → ζ → Prop} {compiler : Compiler σ ε} {compiler' : Compiler τ ζ}
      {other : Request} {s : Session σ ε} {t : Session τ ζ}, compiler.Bisimilar R Q compiler' →
      request.Interchangeable other → R s.converter t.converter → Q s.engine t.engine →
      (compiler.compile request s).1.map CompileResult.product =
        (compiler'.compile other t).1.map CompileResult.product ∧
      R (compiler.compile request s).2.converter (compiler'.compile other t).2.converter ∧
      Q (compiler.compile request s).2.engine (compiler'.compile other t).2.engine) ∧
    (request.entryPoint = none → request.stage = .pixel → request.tier.constrained = true →
      ∃ result : CompileResult, result.succeeded = true ∧
        ∀ (σ ε : Type) (compiler : Compiler σ ε) (session : Session σ ε) (source : String),
          (compiler.compile { request with source := source } session).1 = .ok result) := by
  refine ⟨?_, ?_⟩
  · intro σ τ ε ζ R Q compiler compiler' other s t hcompilers hrequests hR hQ
    obtain ⟨hproducts, hmatches⟩ := compile_matches hcompilers hrequests hR hQ
    exact ⟨hproducts, hmatches.converter, hmatches.engine⟩
  · intro hentry hstage hes
    obtain ⟨artifact, hpackage⟩ := @package_emptyPixel request ⟨hentry, hstage, hes⟩
    refine ⟨request.emptyResult artifact, rfl, ?_⟩
    intro σ ε compiler session source
    have hpixel : Request.isEmptyPixel { request with source := source } request.tier := ⟨hentry, hstage, hes⟩
    exact compile_emptyPixel compiler hpixel hpackage session

/-- A legacy vertex request and one with another profile, another file and more render targets, each compiled with a
converter and an engine of its own; and a pixel request that needs neither. -/
theorem compile_independent_vertex :
    let compiler : Compiler Unit Unit :=
      ⟨⟨fun _ s => (.result (some []) [], s), fun _ s => s⟩,
        some ⟨fun _ s => (.ok (some 1), [], s), fun _ _ _ _ s => (.ok (some 2), [], s),
          fun _ s => (.ok true, [], s), fun _ s => (.ok (some "//"), [], s), fun _ s => (.ok (), [], s),
          fun _ s => (.ok (), [], s)⟩⟩
    let counting : Compiler Nat Nat :=
      ⟨⟨fun _ n => (.result (some []) [], n + 1), fun _ n => n⟩,
        some ⟨fun _ n => (.ok (some 1), [], n), fun _ _ _ _ n => (.ok (some 2), [], n + 1),
          fun _ n => (.ok true, [], n), fun _ n => (.ok (some "//"), [], n), fun _ n => (.ok (), [], n),
          fun _ n => (.ok (), [], n)⟩⟩
    let request : Request := ⟨"", some "main", .vertex, .opengles, .level91, 1, some "a.sdsl"⟩
    let other : Request := ⟨"", some "main", .vertex, .opengles, .level93, 4, none⟩
    let pixel : Request := ⟨"", none, .pixel, .opengles, .level100, 1, none⟩
    (∃ artifact, (compiler.compile request ⟨(), (), [], [], [], []⟩).1.map CompileResult.product =
        .ok (some artifact, ["//", "//"]) ∧
      (counting.compile other ⟨0, 0, [], [], [], []⟩).1.map CompileResult.product =
        .ok (some artifact, ["//", "//"])) ∧
    ∃ result, (compiler.compile pixel ⟨(), (), [], [], [], []⟩).1 = .ok result ∧
      (counting.compile { pixel with source := "void main" } ⟨7, 7, [], [], [], []⟩).1 = .ok result := by
  intro compiler counting request other pixel
  have hcompilers : compiler.Bisimilar (fun _ _ => True) (fun _ _ => True) counting := by
    refine ⟨⟨fun _ _ _ _ _ => rfl, fun _ _ _ _ _ => trivial, fun _ _ _ _ => trivial⟩, .some ?_⟩
    constructor <;> intros <;> intro s n _ <;> exact ⟨rfl, trivial⟩
  have hrequests : request.Interchangeable other := ⟨rfl, rfl, rfl, by decide, .inr (.inl rfl)⟩
  let start : Session Unit Unit := ⟨(), (), [], [], [], []⟩
  have hrun : (Plan.ofTier request.tier).run (fun _ tier => compiler.build request tier) start = (.complete _, _) := rfl
  obtain ⟨artifact, hartifact⟩ := @exists_compile_of_fits _ _ compiler request start _ _ hrun (by decide)
  have hcompile : (compiler.compile request start).1.map CompileResult.product =
      .ok (some artifact, ["//", "//"]) := by
    rw [hartifact]
    rfl
  obtain ⟨hproducts, -⟩ := (compile_independent request).1 hcompilers hrequests trivial trivial
  obtain ⟨result, -, hpixel⟩ := (compile_independent pixel).2 rfl rfl rfl
  exact ⟨⟨artifact, hcompile, hproducts.symm.trans hcompile⟩, result, hpixel _ _ compiler _ "",
    hpixel _ _ counting _ "void main"⟩

end Compiler

end GlslCompiler
