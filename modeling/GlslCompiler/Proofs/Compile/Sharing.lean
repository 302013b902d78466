import GlslCompiler.Converter.Playback
import GlslCompiler.Proofs.Compile.Outcome
import GlslCompiler.Proofs.Program.Passes

/-!
# Programs that are handed out again

The passes change the program they are given, and a converter may hand the changed program out again, to the next
pass of a request or to the next request. A program takes the form of a dialect as if it had never been changed,
unless it had the form of the ES family and is now wanted for the desktop. So a converter that shares one program
cannot be told from one that copies it, as long as the stage stays the same and no desktop request follows an ES
request. The two are run side by side: `Sharing` relates the sessions of the two runs, which differ in nothing but
the states of their converters.
-/

namespace GlslCompiler

/-! ### Forms of forms -/

/-- A declaration in the form its dialect wants. -/
def Decl.normalize (tier : Tier) (stage : PipelineStage) (d : Decl) : Decl :=
  (if tier.constrained then d.assignStorage stage else d).annotateLayout

theorem Decl.normalize_normalize {tier tier' : Tier} (h : tier.constrained = true → tier'.constrained = true)
    (stage : PipelineStage) (d : Decl) : (d.normalize tier stage).normalize tier' stage = d.normalize tier' stage := by
  unfold normalize
  by_cases hes : tier'.constrained = true
  · rw [if_pos hes, if_pos hes, ← annotateLayout_assignStorage, annotateLayout_annotateLayout]
    by_cases hfirst : tier.constrained = true
    · rw [if_pos hfirst, assignStorage_assignStorage]
    · rw [if_neg hfirst]
  · rw [if_neg hes, if_neg hes, if_neg fun hfirst => hes (h hfirst), annotateLayout_annotateLayout]

namespace Program

theorem normalize_eq_map (tier : Tier) (stage : PipelineStage) (program : Program) :
    program.normalize tier stage = program.map (Decl.normalize tier stage) := by
  unfold normalize assignStorage annotateLayouts Decl.normalize
  cases tier.constrained <;> simp

theorem normalize_normalize {tier tier' : Tier} (h : tier.constrained = true → tier'.constrained = true)
    (stage : PipelineStage) (program : Program) :
    (program.normalize tier stage).normalize tier' stage = program.normalize tier' stage := by
  rw [normalize_eq_map, normalize_eq_map, normalize_eq_map, List.map_map]
  apply List.map_congr_left
  intro d _
  exact d.normalize_normalize h stage

/-- Whether a program takes the same forms as another, in every dialect or, with `es`, in the ES family. -/
def SameForms (es : Bool) (stage : PipelineStage) (program other : Program) : Prop :=
  ∀ tier : Tier, (es = true → tier.constrained = true) → program.normalize tier stage = other.normalize tier stage

theorem SameForms.weaken {es es' : Bool} {stage : PipelineStage} {program other : Program}
    (h : SameForms es stage program other) (hes : es = true → es' = true) : SameForms es' stage program other :=
  fun tier htier => h tier fun hfirst => htier (hes hfirst)

/-- A program that was changed takes the same forms as before, those of the same kind at least. -/
theorem SameForms.normalize (tier : Tier) (stage : PipelineStage) (program : Program) :
    SameForms tier.constrained stage (program.normalize tier stage) program :=
  fun _ htier => normalize_normalize htier stage program

end Program

/-! ### Converters with one program -/

namespace Converter

variable {σ : Type}

/-- Every call is answered with the program that the converter holds. -/
structure HandsOut (converter : Converter σ) (holds : σ → Program → Prop) : Prop where
  answer : ∀ {s : σ} {program : Program} (call : ConverterCall), holds s program →
    (converter.convert call s).1 = .result (some program) []
  keep : ∀ {s : σ} {program : Program} (call : ConverterCall), holds s program →
    holds (converter.convert call s).2 program

/-- A converter whose program is one object: it holds what the passes have made of it. -/
structure Shares (converter : Converter σ) (holds : σ → Program → Prop) : Prop extends
    HandsOut converter holds where
  retain : ∀ {s : σ} {program : Program} (changed : Program), holds s program →
    holds (converter.retain changed s) changed

/-- A converter that hands out a new copy each time: what happens to a copy does not concern it. -/
structure Copies (converter : Converter σ) (holds : σ → Program → Prop) : Prop extends
    HandsOut converter holds where
  retain : ∀ {s : σ} {program : Program} (changed : Program), holds s program →
    holds (converter.retain changed s) program

/-- The draft of a request that is converted to the program in hand. -/
theorem HandsOut.draftConverted {converter : Converter σ} {holds : σ → Program → Prop}
    (h : converter.HandsOut holds) {s : σ} {program : Program} (hs : holds s program) (request : Request) (tier : Tier)
    (stage : PipelineStage) (ds : Diagnostics) :
    let call : ConverterCall := ⟨request.source, request.entryPoint, stage, request.file⟩
    let drafted := converter.draftProgram request tier stage program (converter.convert call s).2
    converter.draftConverted request tier stage ds s = ⟨drafted.1, drafted.2, [call], ds⟩ := by
  unfold Converter.draftConverted
  dsimp only
  rw [h.answer _ hs]
  rfl

end Converter

namespace ConverterScript

/-- What a script with one prepared answer holds: the program of that answer. -/
def Holds (shared : Bool) (script : ConverterScript) (program : Program) : Prop :=
  script.shared = shared ∧ script.answers = [.result (some program) []]

theorem handsOut (shared : Bool) : converter.HandsOut (Holds shared) where
  answer call h := by simp [converter, h.2, position]
  keep call h := h

theorem shares : converter.Shares (Holds true) where
  toHandsOut := handsOut true
  retain changed h := by constructor <;> simp [converter, h.1, h.2, position, withProgram]

theorem copies : converter.Copies (Holds false) where
  toHandsOut := handsOut false
  retain changed h := by simpa [converter, h.1] using h

end ConverterScript

/-! ### Two runs side by side -/

/-- A session with another state of the converter, which may be another converter. -/
def Session.withConverter {σ τ ε : Type} (session : Session σ ε) (state : τ) : Session τ ε :=
  ⟨state, session.engine, session.calls, session.events, session.diagnostics, session.variants⟩

/-- Two runs of a plan that go alike step by step, from related states. -/
theorem Plan.runFrom_lockstep {φ σ τ : Type} {R : σ → τ → Prop} {build : Progress → Tier → σ → Attempt φ × σ}
    {build' : Progress → Tier → τ → Attempt φ × τ} (passes : List Pass)
    (hstep : ∀ pass ∈ passes, ∀ progress s t, R s t →
      (build progress pass.tier s).1 = (build' progress pass.tier t).1 ∧
      R (build progress pass.tier s).2 (build' progress pass.tier t).2)
    (progress : Progress) (texts : SlotTexts) {s : σ} {t : τ} (h : R s t) :
    (runFrom build progress passes texts s).1 = (runFrom build' progress passes texts t).1 ∧
      R (runFrom build progress passes texts s).2 (runFrom build' progress passes texts t).2 := by
  induction passes generalizing progress texts s t with
  | nil => exact ⟨rfl, h⟩
  | cons pass rest ih =>
    obtain ⟨hattempt, hnext⟩ := hstep pass List.mem_cons_self progress s t h
    rw [runFrom, runFrom]
    generalize build progress pass.tier s = first at hattempt hnext ⊢
    generalize build' progress pass.tier t = second at hattempt hnext ⊢
    obtain ⟨attempt, s'⟩ := first
    obtain ⟨attempt', t'⟩ := second
    obtain rfl : attempt = attempt' := hattempt
    cases attempt with
    | built text => exact ih (fun own hown => hstep own (List.mem_cons_of_mem pass hown)) _ _ hnext
    | failed => exact ⟨rfl, hnext⟩
    | escaped fault => exact ⟨rfl, hnext⟩

theorem Plan.constrained_of_mem {tier : Tier} {pass : Pass} (h : pass ∈ (ofTier tier).passes) :
    pass.tier.constrained = tier.constrained := by
  unfold ofTier at h
  split at h
  · rename_i hes
    split at h <;> simp only [List.mem_cons, List.not_mem_nil, or_false] at h
    · rw [h]
    · rcases h with rfl | rfl
      · rfl
      · exact hes.symm
  · rw [List.mem_singleton.1 h]

section

variable {σ τ ε : Type} {shared : Converter σ} {copied : Converter τ} {holds : σ → Program → Prop}
  {holds' : τ → Program → Prop} {es : Bool} {stage : PipelineStage} {program : Program}

/-- The states of the two converters: one holds the program, the other a program that takes the same forms. -/
def Alike (holds : σ → Program → Prop) (holds' : τ → Program → Prop) (es : Bool) (stage : PipelineStage)
    (program : Program) (s : σ) (t : τ) : Prop :=
  (∃ changed, holds s changed ∧ changed.SameForms es stage program) ∧ holds' t program

/-- The sessions of the two runs. -/
def Sharing (holds : σ → Program → Prop) (holds' : τ → Program → Prop) (es : Bool) (stage : PipelineStage)
    (program : Program) (s : Session σ ε) (t : Session τ ε) : Prop :=
  ∃ state, t = s.withConverter state ∧ Alike holds holds' es stage program s.converter state

theorem Sharing.weaken {es' : Bool} {s : Session σ ε} {t : Session τ ε} (h : Sharing holds holds' es stage program s t)
    (hes : es = true → es' = true) : Sharing holds holds' es' stage program s t := by
  obtain ⟨state, rfl, ⟨changed, hs, hforms⟩, ht⟩ := h
  exact ⟨state, rfl, ⟨changed, hs, hforms.weaken hes⟩, ht⟩

theorem settle_sharing (request : Request) {first : PlanResult Escape × Session σ ε}
    {second : PlanResult Escape × Session τ ε} (hresult : first.1 = second.1)
    (h : Sharing holds holds' es stage program first.2 second.2) :
    (Compiler.settle request first).1 = (Compiler.settle request second).1 ∧
      Sharing holds holds' es stage program (Compiler.settle request first).2 (Compiler.settle request second).2 := by
  obtain ⟨result, s⟩ := first
  obtain ⟨result', t⟩ := second
  obtain rfl : result = result' := hresult
  rw [Compiler.settle_session, Compiler.settle_session]
  refine ⟨?_, h⟩
  obtain ⟨state, rfl, halike⟩ := h
  cases result with
  | complete texts =>
    unfold Compiler.settle Session.withConverter
    dsimp only
    split
    · rfl
    · split <;> rfl
  | failed => rfl
  | escaped fault => rfl

variable (hshared : shared.Shares holds) (hcopied : copied.Copies holds') (engine : Option (Engine ε))
  {request : Request} (hstage : request.stage.pipeline? = some stage)

include hshared hcopied hstage

/-- The drafts of a variant are the same, and leave the converters alike. -/
theorem draft_alike (tier : Tier) (blocked : Bool) {s : σ} {t : τ}
    (h : Alike holds holds' tier.constrained stage program s t) :
    ∃ draft s' t' calls ds, shared.draft request tier blocked s = ⟨draft, s', calls, ds⟩ ∧
      copied.draft request tier blocked t = ⟨draft, t', calls, ds⟩ ∧
      Alike holds holds' tier.constrained stage program s' t' := by
  obtain ⟨⟨changed, hs, hforms⟩, ht⟩ := id h
  unfold Converter.draft
  dsimp only
  rw [StageCheck.run_fst, hstage]
  dsimp only
  split
  · exact ⟨_, _, _, _, _, rfl, rfl, h⟩
  · split
    · exact ⟨_, _, _, _, _, rfl, rfl, h⟩
    · rw [hshared.toHandsOut.draftConverted hs, hcopied.toHandsOut.draftConverted ht]
      unfold Converter.draftProgram
      rw [hforms tier id]
      refine ⟨_, _, _, _, _, rfl, rfl, ⟨_, hshared.retain _ (hshared.keep _ hs), ?_⟩, ?_⟩
      · exact Program.SameForms.normalize tier stage program
      · exact hcopied.retain _ (hcopied.keep _ ht)

theorem build_sharing (tier : Tier) {s : Session σ ε} {t : Session τ ε}
    (h : Sharing holds holds' tier.constrained stage program s t) :
    ((⟨shared, engine⟩ : Compiler σ ε).build request tier s).1 =
        ((⟨copied, engine⟩ : Compiler τ ε).build request tier t).1 ∧
      Sharing holds holds' tier.constrained stage program ((⟨shared, engine⟩ : Compiler σ ε).build request tier s).2
        ((⟨copied, engine⟩ : Compiler τ ε).build request tier t).2 := by
  obtain ⟨state, rfl, halike⟩ := h
  obtain ⟨draft, s', t', calls, ds, hdraft, hdraft', halike'⟩ :=
    draft_alike hshared hcopied hstage tier s.diagnostics.hasErrors halike
  rw [Compiler.build_eq, Compiler.build_eq]
  unfold Compiler.draft Session.withConverter
  dsimp only
  rw [hdraft, hdraft']
  -- What follows a draft does not look at the converter.
  cases draft with
  | failed => exact ⟨rfl, t', rfl, halike'⟩
  | escaped fault => exact ⟨rfl, t', rfl, halike'⟩
  | fixed text => exact ⟨rfl, t', rfl, halike'⟩
  | offered job => exact ⟨rfl, t', rfl, halike'⟩

/-- One request, compiled by both. -/
theorem compile_sharing (hes : es = true → request.tier.constrained = true) {s : Session σ ε} {t : Session τ ε}
    (h : Sharing holds holds' es stage program s t) :
    ((⟨shared, engine⟩ : Compiler σ ε).compile request s).1 =
        ((⟨copied, engine⟩ : Compiler τ ε).compile request t).1 ∧
      Sharing holds holds' request.tier.constrained stage program
        ((⟨shared, engine⟩ : Compiler σ ε).compile request s).2
        ((⟨copied, engine⟩ : Compiler τ ε).compile request t).2 := by
  obtain ⟨state, rfl, halike⟩ := h.weaken hes
  have hstart : Sharing holds holds' request.tier.constrained stage program
      { s with diagnostics := [], variants := [] }
      { s.withConverter state with diagnostics := [], variants := [] } := ⟨state, rfl, halike⟩
  have hrun := Plan.runFrom_lockstep (Plan.ofTier request.tier).passes
    (fun pass hpass (_ : Progress) s t hst => by
      rw [← Plan.constrained_of_mem hpass] at hst ⊢
      exact build_sharing hshared hcopied engine hstage pass.tier hst)
    .convertPrimary [] hstart
  exact settle_sharing request hrun.1 hrun.2

end

namespace Compiler

variable {σ τ ε : Type}

/-- Compiles requests one after the other. A fault that leaves one compilation does not keep the next from being
made. -/
def compileAll (compiler : Compiler σ ε) :
    List Request → Session σ ε → List (Except Escape CompileResult) × Session σ ε
  | [], session => ([], session)
  | request :: requests, session =>
    let (outcome, session) := compiler.compile request session
    let (outcomes, session) := compiler.compileAll requests session
    (outcome :: outcomes, session)

theorem compileAll_session (compiler : Compiler σ ε) (request : Request) (requests : List Request)
    (session : Session σ ε) :
    (compiler.compileAll (request :: requests) session).2 =
      (compiler.compileAll requests (compiler.compile request session).2).2 := rfl

/-- Requests that are compiled by both, after some that were: from the first ES request on there is no other. -/
theorem compileAll_sharing {shared : Converter σ} {copied : Converter τ} {holds : σ → Program → Prop}
    {holds' : τ → Program → Prop} {stage : PipelineStage} {program : Program} (hshared : shared.Shares holds)
    (hcopied : copied.Copies holds') (engine : Option (Engine ε)) {requests : List Request}
    (hstage : ∀ request ∈ requests, request.stage.pipeline? = some stage)
    (horder : requests.Pairwise fun first later => first.tier.constrained = true → later.tier.constrained = true)
    {es : Bool} (hes : ∀ request ∈ requests, es = true → request.tier.constrained = true) {s : Session σ ε}
    {t : Session τ ε} (h : Sharing holds holds' es stage program s t) :
    ((⟨shared, engine⟩ : Compiler σ ε).compileAll requests s).1 =
      ((⟨copied, engine⟩ : Compiler τ ε).compileAll requests t).1 := by
  induction requests generalizing es s t with
  | nil => rfl
  | cons request requests ih =>
    obtain ⟨hlater, horder⟩ := List.pairwise_cons.1 horder
    obtain ⟨houtcome, hnext⟩ := compile_sharing hshared hcopied engine (hstage request List.mem_cons_self)
      (hes request List.mem_cons_self) h
    have houtcomes := ih (fun later hmem => hstage later (List.mem_cons_of_mem request hmem)) horder hlater hnext
    rw [compileAll, compileAll]
    dsimp only
    rw [houtcome, houtcomes]

/-- Whether the converter hands out one program, which the passes change, or a copy of it each time, every request
has the same outcome, if all are for the same stage and no desktop request follows an ES request. -/
theorem compileAll_shared_eq_copied {shared : Converter σ} {copied : Converter τ} {holds : σ → Program → Prop}
    {holds' : τ → Program → Prop} (hshared : shared.Shares holds) (hcopied : copied.Copies holds')
    (engine : Option (Engine ε)) (state : ε) {program : Program} {s : σ} {t : τ} (hs : holds s program)
    (ht : holds' t program) (stage : PipelineStage) {requests : List Request}
    (hstage : ∀ request ∈ requests, request.stage.pipeline? = some stage)
    (horder : requests.Pairwise fun first later =>
      first.tier.constrained = true → later.tier.constrained = true) :
    ((⟨shared, engine⟩ : Compiler σ ε).compileAll requests ⟨s, state, [], [], [], []⟩).1 =
      ((⟨copied, engine⟩ : Compiler τ ε).compileAll requests ⟨t, state, [], [], [], []⟩).1 := by
  have hstart : Sharing holds holds' false stage program (⟨s, state, [], [], [], []⟩ : Session σ ε)
      (⟨t, state, [], [], [], []⟩ : Session τ ε) := ⟨t, rfl, ⟨program, hs, fun _ _ => rfl⟩, ht⟩
  refine compileAll_sharing hshared hcopied engine hstage horder ?_ hstart
  intro request _ hfalse
  cases hfalse

/-- A desktop request and a legacy one, with a program that the passes change. -/
theorem compileAll_shared_eq_copied_attribute :
    let program : Program := [.global ⟨"position", ⟨"vec4", none⟩, [.input], {}, none⟩,
      .block ⟨"Globals", [⟨"time", ⟨"float", none⟩, [], {}, none⟩], {}, none⟩]
    let changed : Program := [.global ⟨"position", ⟨"vec4", none⟩, [.attrib], {}, none⟩,
      .block ⟨"Globals", [⟨"time", ⟨"float", none⟩, [], {}, none⟩], ⟨[("std140", none)]⟩, none⟩]
    let requests : List Request := [⟨"", some "main", .vertex, .opengl, .level110, 1, none⟩,
      ⟨"", some "main", .vertex, .opengles, .level91, 1, none⟩]
    let compiler : Compiler ConverterScript Unit := ⟨ConverterScript.converter, none⟩
    let start (shared : Bool) : Session ConverterScript Unit :=
      ⟨⟨[.result (some program) []], shared, []⟩, (), [], [], [], []⟩
    (compiler.compileAll requests (start true)).2.converter.answers = [.result (some changed) []] ∧
      (compiler.compileAll requests (start true)).1 = (compiler.compileAll requests (start false)).1 := by
  intro program changed requests compiler start
  constructor
  · rw [compileAll_session, compileAll_session, compile_session, compile_session]
    rfl
  · exact compileAll_shared_eq_copied ConverterScript.shares ConverterScript.copies none () ⟨rfl, rfl⟩ ⟨rfl, rfl⟩
      .vertex (by decide) (by decide)

end Compiler

end GlslCompiler
