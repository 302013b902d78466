import GlslCompiler.Proofs.Compile.Draft

/-!
# The outcome of a compilation

A compilation that comes to an end either packages one variant for each pass of its plan and has no error on
record, or it has an error on record and gives nothing. It is left at the packaging if a text does not fit. The step
is one variant: built without an error, or failed with one. `Plan.runFrom_ends` carries a fact about steps through a
plan, and `Compiler.compile_cases` is what follows for a whole compilation.
-/

namespace GlslCompiler

/-- What holds when an attempt has ended, unless by a fault. -/
def Attempt.Ends {φ σ : Type} (built : String → σ → Prop) (failed : σ → Prop) : Attempt φ × σ → Prop
  | (.built text, s) => built text s
  | (.failed, s) => failed s
  | (.escaped _, _) => True

/-- What holds when a plan has ended, unless by a fault. -/
def PlanResult.Ends {φ σ : Type} (complete : SlotTexts → σ → Prop) (failed : σ → Prop) : PlanResult φ × σ → Prop
  | (.complete texts, s) => complete texts s
  | (.failed, s) => failed s
  | (.escaped _, _) => True

namespace Plan

variable {φ σ : Type} {build : Progress → Tier → σ → Attempt φ × σ}

/-- The texts of passes by slot. -/
def slotTexts (built : List (Pass × String)) : SlotTexts := built.map fun b => (b.1.slot, b.2)

theorem slotTexts_append (before : List (Pass × String)) (pass : Pass) (text : String) :
    slotTexts before ++ [(pass.slot, text)] = slotTexts (before ++ [(pass, text)]) := by
  simp [slotTexts]

/-- What each step adds to, with the passes built so far, is what the whole run ends with. -/
theorem runFrom_ends (done : List (Pass × String) → σ → Prop) (failed : σ → Prop)
    (hstep : ∀ progress pass before s, done before s →
      Attempt.Ends (fun text => done (before ++ [(pass, text)])) failed (build progress pass.tier s))
    (rest : List Pass) (progress : Progress) (before : List (Pass × String)) (s : σ) (hdone : done before s) :
    PlanResult.Ends (fun texts s' => ∃ built, built.map Prod.fst = rest ∧ texts = slotTexts (before ++ built) ∧
      done (before ++ built) s') failed (runFrom build progress rest (slotTexts before) s) := by
  induction rest generalizing progress before s with
  | nil => exact ⟨[], rfl, by rw [List.append_nil], by rwa [List.append_nil]⟩
  | cons pass rest ih =>
    have hpass := hstep progress pass before s hdone
    rw [runFrom]
    generalize build progress pass.tier s = ended at hpass ⊢
    obtain ⟨attempt, s'⟩ := ended
    cases attempt with
    | built text =>
      have hrest := ih .convertSecondary _ s' hpass
      rw [← slotTexts_append] at hrest
      dsimp only
      generalize runFrom build .convertSecondary rest (slotTexts before ++ [(pass.slot, text)]) s' = ended at hrest ⊢
      obtain ⟨result, last⟩ := ended
      cases result with
      | complete texts =>
        obtain ⟨built, hpasses, htexts, hlast⟩ := hrest
        rw [List.append_assoc, List.singleton_append] at htexts hlast
        exact ⟨(pass, text) :: built, by rw [List.map_cons, hpasses], htexts, hlast⟩
      | failed => exact hrest
      | escaped fault => trivial
    | failed => exact hpass
    | escaped fault => trivial

end Plan

theorem Diagnostics.hasErrors_eq_false {ds : Diagnostics} :
    ds.hasErrors = false ↔ ∀ d ∈ ds, d.severity ≠ .error := by
  simp [hasErrors, Diagnostic.isError]

theorem CompilationError.ofDiagnostics_first {ds : Diagnostics} (h : ds.hasErrors = true) :
    ∃ before first rest, ds = before ++ first :: rest ∧ (∀ d ∈ before, d.severity ≠ .error) ∧
      first.severity = .error ∧ ofDiagnostics ds = ⟨first.message, first.file, first.line, ds⟩ := by
  obtain ⟨first, hfirst⟩ := Option.isSome_iff_exists.1 (List.find?_isSome.2 (List.any_eq_true.1 h))
  obtain ⟨herror, before, rest, hsplit, hbefore⟩ := List.find?_eq_some_iff_append.1 hfirst
  have herrors : ds.errors = first :: Diagnostics.errors rest := by
    have hnone : before.filter Diagnostic.isError = [] := List.filter_eq_nil_iff.2 (by simpa using hbefore)
    rw [Diagnostics.errors, hsplit, List.filter_append, hnone, List.filter_cons_of_pos herror]
    rfl
  refine ⟨before, first, rest, hsplit, ?_, by simpa [Diagnostic.isError] using herror, ?_⟩
  · simpa [Diagnostic.isError] using hbefore
  · rw [ofDiagnostics, herrors]

theorem Verdict.diagnostics_hasErrors (verdict : Verdict) (file : Option String) :
    (verdict.diagnostics file).hasErrors = false := by
  cases verdict <;> rfl

namespace Compiler

variable {σ ε : Type} (compiler : Compiler σ ε) (request : Request)

theorem optimize_hasErrors (job : OptimizerJob) (file : Option String) (session : Session σ ε) :
    (compiler.optimize job file session).2.diagnostics.hasErrors = session.diagnostics.hasErrors := by
  change Diagnostics.hasErrors (session.diagnostics ++ (Bridge.offer compiler.engine job file _).2.1) = _
  rw [Diagnostics.hasErrors_append]
  unfold Bridge.offer
  cases compiler.engine with
  | none => exact Bool.or_false _
  | some engine =>
    dsimp only
    rw [Verdict.diagnostics_hasErrors, Bool.or_false]

/-- The variant of a pass. -/
def variant (built : Pass × String) : Variant := ⟨built.2, request.stage, built.1.tier⟩

/-- A variant that is built is kept and leaves no error on record; one that fails leaves an error. -/
theorem build_ends (tier : Tier) (session : Session σ ε) :
    Attempt.Ends
      (fun text after =>
        after.diagnostics.hasErrors = false ∧ after.variants = session.variants ++ [⟨text, request.stage, tier⟩])
      (fun after => after.diagnostics.hasErrors = true) (compiler.build request tier session) := by
  have hfaithful := compiler.draft_faithful request tier session
  have hrecord : ∀ drafting : Drafting σ, (session.draft drafting).diagnostics.hasErrors =
      (session.diagnostics.hasErrors || drafting.diagnostics.hasErrors) :=
    fun _ => Diagnostics.hasErrors_append _ _
  rw [build_eq]
  generalize compiler.draft request tier session = drafting at hfaithful ⊢
  cases hdraft : drafting.draft with
  | failed => exact (hrecord drafting).trans (Bool.or_eq_true_iff.2 (hfaithful.failed hdraft))
  | escaped fault => trivial
  | fixed text =>
    obtain ⟨⟨hbefore, hclear⟩, -⟩ := hfaithful.fixed text hdraft
    refine ⟨(hrecord drafting).trans ?_, rfl⟩
    rw [hbefore, hclear, Bool.or_false]
  | offered job =>
    obtain ⟨⟨hbefore, hclear⟩, -⟩ := hfaithful.offered job hdraft
    refine ⟨(compiler.optimize_hasErrors job request.file _).trans ((hrecord drafting).trans ?_), rfl⟩
    rw [hbefore, hclear, Bool.or_false]

/-- How the plan of a request ends, unless by a fault: with a variant for each pass and no error on record, or with an
error. -/
def Completes (ended : PlanResult Escape × Session σ ε) : Prop :=
  PlanResult.Ends
    (fun texts last => ∃ built, built.map Prod.fst = (Plan.ofTier request.tier).passes ∧ texts = Plan.slotTexts built ∧
      last.diagnostics.hasErrors = false ∧ last.variants = built.map (variant request))
    (fun last => last.diagnostics.hasErrors = true) ended

/-- A plan that is run from a clear record. -/
theorem run_completes (start : Session σ ε) (herrors : start.diagnostics.hasErrors = false)
    (hvariants : start.variants = []) :
    Completes request ((Plan.ofTier request.tier).run (fun _ tier => compiler.build request tier) start) := by
  refine Plan.runFrom_ends
    (fun built s => s.diagnostics.hasErrors = false ∧ s.variants = built.map (variant request)) _ ?_
    (Plan.ofTier request.tier).passes .convertPrimary [] start ⟨herrors, hvariants⟩
  intro progress pass before s hdone
  have hpass := compiler.build_ends request pass.tier s
  generalize compiler.build request pass.tier s = ended at hpass ⊢
  obtain ⟨attempt, s'⟩ := ended
  cases attempt with
  | built text =>
    refine ⟨hpass.1, ?_⟩
    rw [hpass.2, hdone.2, List.map_append]
    rfl
  | failed => exact hpass
  | escaped fault => trivial

/-- The end of a compilation, from the end of its plan. -/
def settle : PlanResult Escape × Session σ ε → Except Escape CompileResult × Session σ ε
  | (.escaped fault, session) => (.error fault, session)
  | (.failed, session) => (.ok ⟨none, session.diagnostics, []⟩, session)
  | (.complete texts, session) =>
    if session.diagnostics.hasErrors then (.ok ⟨none, session.diagnostics, []⟩, session)
    else
      match package (Plan.ofTier request.tier) texts request.stage with
      | .error error => (.error (.packaging error), session)
      | .ok artifact => (.ok ⟨some artifact, session.diagnostics, session.variants⟩, session)

theorem settle_session (ended : PlanResult Escape × Session σ ε) : (settle request ended).2 = ended.2 := by
  obtain ⟨result, last⟩ := ended
  cases result with
  | escaped fault => rfl
  | failed => rfl
  | complete texts =>
    rw [settle]
    split
    · rfl
    · split <;> rfl

theorem compile_eq (session : Session σ ε) :
    compiler.compile request session =
      settle request ((Plan.ofTier request.tier).run (fun _ tier => compiler.build request tier)
        { session with diagnostics := [], variants := [] }) := rfl

theorem compile_session (session : Session σ ε) :
    (compiler.compile request session).2 =
      ((Plan.ofTier request.tier).run (fun _ tier => compiler.build request tier)
        { session with diagnostics := [], variants := [] }).2 := by
  rw [compile_eq, settle_session]

/-- A compilation that comes to an end has an error and gives nothing, or has none and gives every variant of
its plan. -/
theorem compile_cases {session after : Session σ ε} {result : CompileResult}
    (h : compiler.compile request session = (.ok result, after)) :
    (after.diagnostics.hasErrors = true ∧ result = ⟨none, after.diagnostics, []⟩) ∨
    (after.diagnostics.hasErrors = false ∧ ∃ built artifact,
      built.map Prod.fst = (Plan.ofTier request.tier).passes ∧ after.variants = built.map (variant request) ∧
      package (Plan.ofTier request.tier) (Plan.slotTexts built) request.stage = .ok artifact ∧
      result = ⟨some artifact, after.diagnostics, after.variants⟩) := by
  have hrun := compiler.run_completes request { session with diagnostics := [], variants := [] } rfl rfl
  rw [compile_eq] at h
  generalize (Plan.ofTier request.tier).run (fun _ tier => compiler.build request tier) _ = run at hrun h
  obtain ⟨run, last⟩ := run
  cases run with
  | complete texts =>
    obtain ⟨built, hpasses, rfl, herrors, hvariants⟩ := hrun
    rw [settle, if_neg (Bool.eq_false_iff.1 herrors)] at h
    cases hpackage : package (Plan.ofTier request.tier) (Plan.slotTexts built) request.stage with
    | error error =>
      rw [hpackage] at h
      cases h
    | ok artifact =>
      rw [hpackage] at h
      cases h
      exact .inr ⟨herrors, built, artifact, hpasses, hvariants, hpackage, rfl⟩
  | failed =>
    cases h
    exact .inl ⟨hrun, rfl⟩
  | escaped fault => cases h

theorem compile_diagnostics {session after : Session σ ε} {result : CompileResult}
    (h : compiler.compile request session = (.ok result, after)) : result.diagnostics = after.diagnostics := by
  rcases compiler.compile_cases request h with ⟨-, rfl⟩ | ⟨-, built, artifact, -, -, -, rfl⟩ <;> rfl

/-- The texts of variants in the slots of their plan. -/
def variantTexts (tier : Tier) (variants : List Variant) : SlotTexts :=
  ((Plan.ofTier tier).passes.map Pass.slot).zip (variants.map Variant.text)

theorem slotTexts_eq {built : List (Pass × String)} {tier : Tier}
    (h : built.map Prod.fst = (Plan.ofTier tier).passes) :
    Plan.slotTexts built = variantTexts tier (built.map (variant request)) := by
  have htexts : Plan.slotTexts built = (built.map fun b => b.1.slot).zip (built.map fun b => b.2) := by
    rw [Plan.slotTexts, List.zip_map']
  rw [htexts, variantTexts, ← h, List.map_map, List.map_map]
  rfl

/-- An artifact holds the texts of the variants, in the slots of the plan. -/
theorem compile_artifact {session after : Session σ ε} {result : CompileResult}
    (h : compiler.compile request session = (.ok result, after)) {artifact : Artifact}
    (hartifact : result.artifact = some artifact) :
    result.variants = after.variants ∧
      package (Plan.ofTier request.tier) (variantTexts request.tier after.variants) request.stage = .ok artifact := by
  rcases compiler.compile_cases request h with ⟨-, rfl⟩ | ⟨-, built, packed, hpasses, hvariants, hpackage, rfl⟩
  · cases hartifact
  · cases hartifact
    rw [hvariants, ← slotTexts_eq request hpasses]
    exact ⟨rfl, hpackage⟩

/-- There is an artifact just when no error is on record. Without one nothing is given, and the failure is that of
the first error; with one there is a variant for each pass. -/
theorem compile_all_or_nothing {session after : Session σ ε} {result : CompileResult}
    (h : compiler.compile request session = (.ok result, after)) :
    (result.artifact.isSome = true ↔ ∀ d ∈ result.diagnostics, d.severity ≠ .error) ∧
    (result.artifact = none → result.variants = [] ∧ ∃ before first rest,
      result.diagnostics = before ++ first :: rest ∧ (∀ d ∈ before, d.severity ≠ .error) ∧
      first.severity = .error ∧
      result.unwrap = .error ⟨first.message, first.file, first.line, result.diagnostics⟩) ∧
    (∀ artifact, result.artifact = some artifact → result.unwrap = .ok artifact ∧
      result.variants.map Variant.tier = (Plan.ofTier request.tier).passes.map Pass.tier) := by
  rcases compiler.compile_cases request h with ⟨herrors, rfl⟩ | ⟨herrors, built, packed, hpasses, hvariants, -, rfl⟩
  · obtain ⟨before, first, rest, hsplit, hbefore, hfirst, herror⟩ := CompilationError.ofDiagnostics_first herrors
    refine ⟨?_, fun _ => ⟨rfl, before, first, rest, hsplit, hbefore, hfirst, congrArg Except.error herror⟩, nofun⟩
    rw [← Diagnostics.hasErrors_eq_false, herrors]
    exact ⟨nofun, nofun⟩
  · refine ⟨?_, nofun, fun artifact hsome => ⟨congrArg Except.ok (Option.some.inj hsome), ?_⟩⟩
    · rw [← Diagnostics.hasErrors_eq_false, herrors]
      exact ⟨fun _ => rfl, fun _ => rfl⟩
    · rw [hvariants, ← hpasses, List.map_map, List.map_map]
      rfl

/-- The converter gives a program for the first pass of a legacy request and refuses the second. -/
theorem compile_all_or_nothing_secondPass :
    let compiler : Compiler Bool Unit :=
      ⟨⟨fun _ asked => (if asked then .refused "no second program" (some 3) else .result (some []) [], true),
        fun _ asked => asked⟩, none⟩
    let request : Request := ⟨"", some "main", .vertex, .opengles, .level91, 1, some "a.sdsl"⟩
    ∃ result after, compiler.compile request ⟨false, (), [], [], [], []⟩ = (.ok result, after) ∧
      after.variants.length = 1 ∧ result.variants = [] ∧
      result.unwrap = .error ⟨"no second program", some "a.sdsl", some 3, result.diagnostics⟩ := by
  intro compiler request
  have hcompile : compiler.compile request ⟨false, (), [], [], [], []⟩ = (.ok _, _) := rfl
  obtain ⟨-, hnone, -⟩ := compile_all_or_nothing compiler request hcompile
  obtain ⟨hvariants, -⟩ := hnone rfl
  exact ⟨_, _, hcompile, rfl, hvariants, rfl⟩

end Compiler

end GlslCompiler
