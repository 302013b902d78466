import GlslCompiler.Compile

/-!
# Drafts of variants

Building a variant falls into two parts. The first checks the stage, asks the converter and writes the
program; it depends on the session only through the state of the converter and through whether an error is
already on record. Its result is a draft. The second part, for a draft that is a job, is the optimizer.
`Compiler.buildText_eq` is this decomposition, and what a variant leaves on record is read off the draft.
-/

namespace GlslCompiler

/-- How far a variant comes without the optimizer. A `fixed` text is not offered to it. -/
inductive Draft where
  | failed
  | escaped (fault : Escape)
  | fixed (text : String)
  | offered (job : OptimizerJob)

/-- A draft, the state it leaves the converter in, and what it adds to the session. -/
structure Drafting (σ : Type) where
  draft : Draft
  converter : σ
  calls : List ConverterCall
  diagnostics : Diagnostics

/-- An ES pixel request without an entry point is not converted. -/
def Request.isEmptyPixel (request : Request) (tier : Tier) : Prop :=
  request.entryPoint = none ∧ request.stage = .pixel ∧ tier.constrained = true

namespace Converter

variable {σ : Type}

/-- The draft of a program that the converter has handed out. -/
def draftProgram (converter : Converter σ) (request : Request) (tier : Tier) (stage : PipelineStage)
    (program : Program) (state : σ) : Draft × σ :=
  let normal := program.normalize tier stage
  let draft :=
    match normal.text tier with
    | .error error => .escaped (.literal error)
    | .ok body => .offered ⟨Preamble.compose tier request.renderTargets stage body, tier, stage⟩
  (draft, converter.retain normal state)

/-- The draft of a request that is converted, with `ds` on record. -/
def draftConverted (converter : Converter σ) (request : Request) (tier : Tier) (stage : PipelineStage)
    (ds : Diagnostics) (state : σ) : Drafting σ :=
  let call : ConverterCall := ⟨request.source, request.entryPoint, stage, request.file⟩
  let answered := converter.convert call state
  match answered.1.read request.file with
  | .error fault => ⟨.escaped (.converter fault), answered.2, [call], ds⟩
  | .ok (.error errors) => ⟨.failed, answered.2, [call], ds ++ errors⟩
  | .ok (.ok program) =>
    let drafted := converter.draftProgram request tier stage program answered.2
    ⟨drafted.1, drafted.2, [call], ds⟩

/-- Drafts a variant. An error that is already on record blocks it. -/
def draft (converter : Converter σ) (request : Request) (tier : Tier) (blocked : Bool) (state : σ) :
    Drafting σ :=
  let check := StageCheck.run request.stage tier request.renderTargets request.file
  match check.1 with
  | none => ⟨.failed, state, [], check.2⟩
  | some stage =>
    if blocked then ⟨.failed, state, [], check.2⟩
    else if request.entryPoint = none ∧ stage = .pixel ∧ tier.constrained then
      ⟨.fixed (Preamble.compose tier request.renderTargets stage emptyPixelProgram), state, [], check.2⟩
    else converter.draftConverted request tier stage check.2 state

end Converter

namespace StageCheck

theorem run_fst (stage : ShaderStage) (tier : Tier) (renderTargets : Int) (file : Option String) :
    (run stage tier renderTargets file).1 = stage.pipeline? := by
  unfold run
  cases stage.pipeline? <;> rfl

theorem renderTargetWarnings_hasErrors (tier : Tier) (renderTargets : Int) (file : Option String) :
    (renderTargetWarnings tier renderTargets file).hasErrors = false := by
  unfold renderTargetWarnings
  split <;> rfl

theorem run_hasErrors (stage : ShaderStage) (tier : Tier) (renderTargets : Int) (file : Option String) :
    (run stage tier renderTargets file).2.hasErrors = stage.pipeline?.isNone := by
  have hwarnings := renderTargetWarnings_hasErrors tier renderTargets file
  unfold run
  cases stage.pipeline? with
  | some pipeline => exact hwarnings
  | none =>
    change Diagnostics.hasErrors (_ ++ [unsupported stage file]) = true
    rw [Diagnostics.hasErrors, List.any_append]
    exact Bool.or_eq_true_iff.2 (.inr rfl)

theorem run_kind {stage : ShaderStage} {tier : Tier} {renderTargets : Int} {file : Option String} {d : Diagnostic}
    (h : d ∈ (run stage tier renderTargets file).2) : d.kind ≠ .optimizationSkipped := by
  have hwarning : ∀ d ∈ renderTargetWarnings tier renderTargets file, d.kind ≠ .optimizationSkipped := by
    unfold renderTargetWarnings
    split <;> simp
  unfold run at h
  cases hpipeline : stage.pipeline? with
  | some pipeline =>
    rw [hpipeline] at h
    exact hwarning d h
  | none =>
    rw [hpipeline] at h
    rcases List.mem_append.1 h with h | h
    · exact hwarning d h
    · rw [List.mem_singleton.1 h]
      simp [unsupported]

end StageCheck

namespace Diagnostics

theorem hasErrors_append (ds es : Diagnostics) : (ds ++ es).hasErrors = (ds.hasErrors || es.hasErrors) :=
  List.any_append

end Diagnostics

/-- An answer without a program is at least one error about the conversion. -/
theorem ConverterAnswer.read_errors {file : Option String} {answer : ConverterAnswer} {errors : Diagnostics}
    (h : answer.read file = .ok (.error errors)) :
    errors.hasErrors = true ∧ ∀ d ∈ errors, d.kind = .conversionFailed := by
  have hmap : ∀ messages : List ConverterMessage, messages ≠ [] →
      Diagnostics.hasErrors (messages.map fun m => conversionError file m.message m.line) = true ∧
        ∀ d ∈ messages.map fun m => conversionError file m.message m.line, d.kind = .conversionFailed := by
    intro messages hne
    obtain ⟨first, rest, rfl⟩ := List.exists_cons_of_ne_nil hne
    refine ⟨rfl, fun d hd => ?_⟩
    obtain ⟨m, -, rfl⟩ := List.mem_map.1 hd
    rfl
  unfold read at h
  split at h
  · cases h
  · cases h
    exact ⟨rfl, by simp [conversionError]⟩
  · cases h
    exact ⟨rfl, by simp [conversionError]⟩
  · cases h
  · rename_i program messages hnone hsome
    cases h
    refine hmap messages ?_
    rintro rfl
    cases program with
    | none => exact hnone rfl rfl
    | some program => exact hsome program rfl rfl

/-- What a draft says about the request and about the record. -/
structure Drafting.Faithful {σ : Type} (drafting : Drafting σ) (request : Request) (tier : Tier) (blocked : Bool) :
    Prop where
  failed : drafting.draft = .failed → blocked = true ∨ drafting.diagnostics.hasErrors = true
  fixed : ∀ text, drafting.draft = .fixed text →
    (blocked = false ∧ drafting.diagnostics.hasErrors = false) ∧ request.isEmptyPixel tier
  offered : ∀ job, drafting.draft = .offered job →
    (blocked = false ∧ drafting.diagnostics.hasErrors = false) ∧ ¬ request.isEmptyPixel tier ∧
      job.tier = tier ∧ request.stage.pipeline? = some job.stage
  kinds : ∀ d ∈ drafting.diagnostics, d.kind ≠ .optimizationSkipped

theorem ShaderStage.pipeline?_eq_pixel {stage : ShaderStage} : stage.pipeline? = some .pixel ↔ stage = .pixel := by
  cases stage <;> decide

namespace Converter

variable {σ : Type}

theorem draftConverted_faithful (converter : Converter σ) {request : Request} {tier : Tier} {stage : PipelineStage}
    {ds : Diagnostics} (state : σ) (hstage : request.stage.pipeline? = some stage)
    (hpixel : ¬ request.isEmptyPixel tier) (hds : ds.hasErrors = false)
    (hkinds : ∀ d ∈ ds, d.kind ≠ .optimizationSkipped) :
    (converter.draftConverted request tier stage ds state).Faithful request tier false := by
  unfold draftConverted
  dsimp only
  split
  · exact ⟨nofun, nofun, nofun, hkinds⟩
  · rename_i errors hread
    obtain ⟨herrors, hfailed⟩ := ConverterAnswer.read_errors hread
    refine ⟨fun _ => .inr ?_, nofun, nofun, fun d hd => ?_⟩
    · rw [Diagnostics.hasErrors_append, herrors, Bool.or_true]
    · rcases List.mem_append.1 hd with hd | hd
      · exact hkinds d hd
      · rw [hfailed d hd]
        nofun
  · rename_i program hread
    unfold draftProgram
    dsimp only
    cases (program.normalize tier stage).text tier with
    | error error => exact ⟨nofun, nofun, nofun, hkinds⟩
    | ok body =>
      refine ⟨nofun, nofun, fun job hjob => ?_, hkinds⟩
      cases hjob
      exact ⟨⟨rfl, hds⟩, hpixel, rfl, hstage⟩

theorem draft_faithful (converter : Converter σ) (request : Request) (tier : Tier) (blocked : Bool) (state : σ) :
    (converter.draft request tier blocked state).Faithful request tier blocked := by
  have hcheck := StageCheck.run_hasErrors request.stage tier request.renderTargets request.file
  have hkinds := fun d => @StageCheck.run_kind request.stage tier request.renderTargets request.file d
  unfold draft
  dsimp only
  rw [StageCheck.run_fst]
  cases hstage : request.stage.pipeline? with
  | none =>
    rw [hstage] at hcheck
    exact ⟨fun _ => .inr hcheck, nofun, nofun, hkinds⟩
  | some stage =>
    rw [hstage, Option.isNone_some] at hcheck
    have hpixel : request.isEmptyPixel tier ↔ request.entryPoint = none ∧ stage = .pixel ∧ tier.constrained := by
      rw [Request.isEmptyPixel, ← ShaderStage.pipeline?_eq_pixel, hstage, Option.some_inj]
    cases blocked with
    | true => exact ⟨fun _ => .inl rfl, nofun, nofun, hkinds⟩
    | false =>
      dsimp only
      rw [if_neg Bool.false_ne_true]
      split
      · rename_i hempty
        exact ⟨nofun, fun _ _ => ⟨⟨rfl, hcheck⟩, hpixel.2 hempty⟩, nofun, hkinds⟩
      · rename_i hempty
        exact draftConverted_faithful converter state hstage (fun h => hempty (hpixel.1 h)) hcheck hkinds

end Converter

namespace Session

variable {σ ε : Type}

/-- A session after a draft. -/
def draft (session : Session σ ε) (drafting : Drafting σ) : Session σ ε :=
  { session with
    converter := drafting.converter
    calls := session.calls ++ drafting.calls
    diagnostics := session.diagnostics ++ drafting.diagnostics }

/-- A session with one more variant. -/
def keep (session : Session σ ε) (variant : Variant) : Session σ ε :=
  { session with variants := session.variants ++ [variant] }

end Session

namespace Compiler

variable {σ ε : Type}

/-- What follows a draft: a job is optimized. -/
def optimizeDraft (compiler : Compiler σ ε) (file : Option String) (draft : Draft) (session : Session σ ε) :
    Attempt Escape × Session σ ε :=
  match draft with
  | .failed => (.failed, session)
  | .escaped fault => (.escaped fault, session)
  | .fixed text => (.built text, session)
  | .offered job =>
    let optimized := compiler.optimize job file session
    (.built optimized.1, optimized.2)

theorem finish_eq (compiler : Compiler σ ε) (request : Request) (tier : Tier) (stage : PipelineStage)
    (program : Program) (session : Session σ ε) :
    compiler.finish request tier stage program session =
      let drafted := compiler.converter.draftProgram request tier stage program session.converter
      compiler.optimizeDraft request.file drafted.1 { session with converter := drafted.2 } := by
  unfold finish Converter.draftProgram
  dsimp only
  cases (program.normalize tier stage).text tier <;> rfl

theorem convert_eq (compiler : Compiler σ ε) (request : Request) (stage : PipelineStage) (session : Session σ ε) :
    compiler.convert request stage session =
      let call : ConverterCall := ⟨request.source, request.entryPoint, stage, request.file⟩
      let answered := compiler.converter.convert call session.converter
      (answered.1.read request.file,
        { session with converter := answered.2, calls := session.calls ++ [call] }) := rfl

def draft (compiler : Compiler σ ε) (request : Request) (tier : Tier) (session : Session σ ε) : Drafting σ :=
  compiler.converter.draft request tier session.diagnostics.hasErrors session.converter

/-- A variant is built by drafting it and optimizing the draft. -/
theorem buildText_eq (compiler : Compiler σ ε) (request : Request) (tier : Tier) (session : Session σ ε) :
    compiler.buildText request tier session =
      let drafting := compiler.draft request tier session
      compiler.optimizeDraft request.file drafting.draft (session.draft drafting) := by
  have hcheck := StageCheck.run_hasErrors request.stage tier request.renderTargets request.file
  have hstage := StageCheck.run_fst request.stage tier request.renderTargets request.file
  unfold buildText draft Converter.draft
  generalize StageCheck.run request.stage tier request.renderTargets request.file = check at hcheck hstage ⊢
  obtain ⟨pipeline, ds⟩ := check
  cases pipeline with
  | none => simp [Session.draft, Session.record, optimizeDraft]
  | some stage =>
    rw [← hstage, Option.isNone_some] at hcheck
    -- A check that finds a stage records warnings only, so that only what was on record before can block.
    have hblocked : (session.record ds).diagnostics.hasErrors = session.diagnostics.hasErrors := by
      rw [Session.record, Diagnostics.hasErrors_append, hcheck, Bool.or_false]
    simp only [hblocked]
    split
    · simp [Session.draft, Session.record, optimizeDraft]
    · split
      · simp [Session.draft, Session.record, optimizeDraft]
      · rw [convert_eq]
        unfold Converter.draftConverted
        dsimp only [Session.record]
        cases (compiler.converter.convert ⟨request.source, request.entryPoint, stage, request.file⟩
          session.converter).1.read request.file with
        | error fault => rfl
        | ok result =>
          cases result with
          | error errors => simp [Session.draft, optimizeDraft]
          | ok program =>
            dsimp only
            rw [finish_eq]
            rfl

theorem draft_faithful (compiler : Compiler σ ε) (request : Request) (tier : Tier) (session : Session σ ε) :
    (compiler.draft request tier session).Faithful request tier session.diagnostics.hasErrors :=
  compiler.converter.draft_faithful request tier session.diagnostics.hasErrors session.converter

/-- A text that was built is kept with the variants built before. -/
def keepBuilt (request : Request) (tier : Tier) : Attempt Escape × Session σ ε → Attempt Escape × Session σ ε
  | (.built text, session) => (.built text, session.keep ⟨text, request.stage, tier⟩)
  | ended => ended

theorem build_eq (compiler : Compiler σ ε) (request : Request) (tier : Tier) (session : Session σ ε) :
    compiler.build request tier session =
      keepBuilt request tier (compiler.optimizeDraft request.file (compiler.draft request tier session).draft
        (session.draft (compiler.draft request tier session))) := by
  rw [build, buildText_eq]
  rfl

end Compiler

end GlslCompiler
