import GlslCompiler.Proofs.Artifact.Format
import GlslCompiler.Proofs.Compile.Outcome

/-!
# What an artifact holds

The texts of a compilation are kept three times: as variants, by slot, and packed into bytes. The three agree.
A plan has one pass for each slot, so the slots are the variants in the order of the passes; and the format keeps
each slot apart, so that decoding an artifact gives the texts back, as far as ASCII can hold them.
-/

namespace GlslCompiler

namespace Plan

/-- What a plan with one pass has built. -/
theorem exists_of_map_fst_singleton {built : List (Pass × String)} {pass : Pass}
    (h : built.map Prod.fst = [pass]) : ∃ text, built = [(pass, text)] := by
  obtain ⟨⟨own, text⟩, rfl, rfl⟩ := List.map_eq_singleton_iff.1 h
  exact ⟨text, rfl⟩

/-- What a plan with two passes has built. -/
theorem exists_of_map_fst_pair {built : List (Pass × String)} {first second : Pass}
    (h : built.map Prod.fst = [first, second]) :
    ∃ text text', built = [(first, text), (second, text')] := by
  obtain ⟨⟨own, text⟩, rest, rfl, rfl, hrest⟩ := List.map_eq_cons_iff.1 h
  obtain ⟨text', rfl⟩ := exists_of_map_fst_singleton hrest
  exact ⟨text, text', rfl⟩

theorem exists_of_get? {built : List (Pass × String)} {slot : Slot} {text : String}
    (h : (slotTexts built).get? slot = some text) : ∃ b ∈ built, b.2 = text := by
  obtain ⟨before, after, hsplit, -⟩ := List.lookup_eq_some_iff.1 h
  have hmem : (slot, text) ∈ slotTexts built := by simp [hsplit]
  obtain ⟨b, hb, hslot⟩ := List.mem_map.1 hmem
  exact ⟨b, hb, congrArg Prod.snd hslot⟩

/-- Whatever is built for an ES request has a slot of its own. -/
theorem dualVariants_of_mem {tier : Tier} {built : List (Pass × String)}
    (h : built.map Prod.fst = (ofTier tier).passes) (hconstrained : tier.constrained = true) {b : Pass × String}
    (hb : b ∈ built) :
    (slotTexts built).dualVariants.legacy = some b.2 ∨ (slotTexts built).dualVariants.modern = some b.2 := by
  obtain ⟨constrained, modern⟩ := tier
  obtain rfl : constrained = true := hconstrained
  cases modern with
  | true =>
    obtain ⟨text, rfl⟩ := exists_of_map_fst_singleton h
    rw [List.mem_singleton.1 hb]
    exact .inr rfl
  | false =>
    obtain ⟨text, text', rfl⟩ := exists_of_map_fst_pair h
    rcases List.mem_pair.1 hb with rfl | rfl
    · exact .inl rfl
    · exact .inr rfl

theorem dual_ofTier (tier : Tier) : (ofTier tier).dual = tier.constrained := by
  obtain ⟨constrained, modern⟩ := tier
  cases constrained <;> cases modern <;> rfl

end Plan

namespace Compiler

variable {σ ε : Type} (compiler : Compiler σ ε) (request : Request)

theorem compile_built {session after : Session σ ε} {result : CompileResult} {artifact : Artifact}
    (h : compiler.compile request session = (.ok result, after)) (hartifact : result.artifact = some artifact) :
    ∃ built, built.map Prod.fst = (Plan.ofTier request.tier).passes ∧
      result.variants = built.map (variant request) ∧
      package (Plan.ofTier request.tier) (Plan.slotTexts built) request.stage = .ok artifact := by
  rcases compiler.compile_cases request h with ⟨-, rfl⟩ | ⟨-, built, packed, hpasses, hvariants, hpackage, rfl⟩
  · cases hartifact
  · cases hartifact
    exact ⟨built, hpasses, hvariants, hpackage⟩

/-- How a compilation ends that has built its variants without an error. An ES artifact is made only of texts that
fit into it; a text that does not is the end of the compilation. -/
inductive Packs (last : Session σ ε) : Except Escape CompileResult → Prop
  | packed {artifact : Artifact}
      (hfits : request.tier.constrained = true → ∀ variant ∈ last.variants, variant.text.length < 2 ^ 32) :
      Packs last (.ok ⟨some artifact, last.diagnostics, last.variants⟩)
  | oversized {variant : Variant} (hconstrained : request.tier.constrained = true)
      (hvariant : variant ∈ last.variants) (hlong : 2 ^ 32 ≤ variant.text.length) :
      Packs last (.error (.packaging ⟨variant.text.length⟩))

theorem settle_packs {last : Session σ ε} {built : List (Pass × String)}
    (hpasses : built.map Prod.fst = (Plan.ofTier request.tier).passes)
    (herrors : last.diagnostics.hasErrors = false) (hvariants : last.variants = built.map (variant request)) :
    Packs request last (settle request (.complete (Plan.slotTexts built), last)).1 := by
  have hmem : ∀ b ∈ built, variant request b ∈ last.variants := fun b hb => hvariants ▸ List.mem_map_of_mem hb
  rw [settle, if_neg (Bool.eq_false_iff.1 herrors), package, Plan.dual_ofTier]
  cases hconstrained : request.tier.constrained with
  | false =>
    refine .packed fun hes => ?_
    rw [hconstrained] at hes
    cases hes
  | true =>
    rw [if_pos rfl, Artifact.dual]
    cases hencode : (Plan.slotTexts built).dualVariants.encode with
    | error error =>
      obtain ⟨text, hslot, hlong, rfl⟩ := DualVariants.encode_error hencode
      obtain ⟨b, hb, rfl⟩ := hslot.elim Plan.exists_of_get? Plan.exists_of_get?
      exact .oversized hconstrained (hmem b hb) hlong
    | ok bytes =>
      refine .packed fun _ => ?_
      rw [hvariants]
      intro own hown
      obtain ⟨b, hb, rfl⟩ := List.mem_map.1 hown
      exact DualVariants.fits_of_encode hencode b.2 (Plan.dualVariants_of_mem hpasses hconstrained hb)

/-- A compilation that has built its variants without an error gives an artifact if their texts fit. -/
theorem exists_compile_of_fits {session last : Session σ ε} {texts : SlotTexts}
    (hrun : (Plan.ofTier request.tier).run (fun _ tier => compiler.build request tier)
      { session with diagnostics := [], variants := [] } = (.complete texts, last))
    (hfits : ∀ variant ∈ last.variants, variant.text.length < 2 ^ 32) :
    ∃ artifact, compiler.compile request session = (.ok ⟨some artifact, last.diagnostics, last.variants⟩, last) := by
  have hends := compiler.run_completes request { session with diagnostics := [], variants := [] } rfl rfl
  rw [hrun] at hends
  obtain ⟨built, hpasses, rfl, herrors, hvariants⟩ := hends
  have hpacks := settle_packs request hpasses herrors hvariants
  have hlast : (settle request (.complete (Plan.slotTexts built), last)).2 = last := settle_session request _
  rw [compile_eq, hrun]
  generalize settle request (.complete (Plan.slotTexts built), last) = settled at hpacks hlast ⊢
  obtain ⟨result, after⟩ := settled
  obtain rfl : after = last := hlast
  cases hpacks with
  | packed => exact ⟨_, rfl⟩
  | oversized _ hvariant hlong => exact absurd (hfits _ hvariant) (Nat.not_lt.2 hlong)

theorem exists_bytes_of_package {plan : Plan} {texts : SlotTexts} {stage : ShaderStage} {artifact : Artifact}
    (h : package plan texts stage = .ok artifact) : ∃ bytes, artifact = .ofBytes bytes stage := by
  unfold package at h
  split at h
  · obtain ⟨bytes, -, rfl⟩ := Artifact.exists_of_dual h
    exact ⟨bytes, rfl⟩
  · cases h
    exact ⟨_, rfl⟩

/-- The artifact of a plan for an ES request decodes to the texts of the plan. -/
theorem decode_package {plan : Plan} {texts : SlotTexts} {stage : ShaderStage} {artifact : Artifact}
    (h : package plan texts stage = .ok artifact) (hdual : plan.dual = true) :
    DualVariants.decode artifact.data = .ok texts.dualVariants.ascii := by
  rw [package, if_pos hdual] at h
  obtain ⟨bytes, hbytes, rfl⟩ := Artifact.exists_of_dual h
  exact DualVariants.decode_encode hbytes

theorem compile_id {session after : Session σ ε} {result : CompileResult} {artifact : Artifact}
    (h : compiler.compile request session = (.ok result, after)) (hartifact : result.artifact = some artifact) :
    artifact.id = ObjectId.ofBytes artifact.data := by
  obtain ⟨built, -, -, hpackage⟩ := compiler.compile_built request h hartifact
  obtain ⟨bytes, rfl⟩ := exists_bytes_of_package hpackage
  rfl

/-- A desktop artifact is the text of its only variant. An ES artifact decodes to its variants, each in the slot
of its own tier; only a request for the legacy tier has a legacy variant. -/
theorem compile_artifact_contents {session after : Session σ ε} {result : CompileResult} {artifact : Artifact}
    (h : compiler.compile request session = (.ok result, after)) (hartifact : result.artifact = some artifact) :
    (artifact.id = ObjectId.ofBytes artifact.data ∧ artifact.stage = request.stage) ∧
    (request.tier.constrained = false → ∃ variant, result.variants = [variant] ∧
      variant.tier = request.tier ∧ artifact.data = Bytes.ofText variant.text) ∧
    (request.tier.constrained = true →
      (request.tier.modern = true → ∃ modern, result.variants = [modern] ∧ modern.tier = .es3 ∧
        DualVariants.decode artifact.data = .ok ⟨none, some (asciiText modern.text)⟩) ∧
      (request.tier.modern = false → ∃ legacy modern, result.variants = [legacy, modern] ∧
        legacy.tier = .es2 ∧ modern.tier = .es3 ∧
        DualVariants.decode artifact.data = .ok ⟨some (asciiText legacy.text), some (asciiText modern.text)⟩)) := by
  obtain ⟨built, hpasses, hvariants, hpackage⟩ := compiler.compile_built request h hartifact
  rw [hvariants]
  generalize request.tier = tier at hpasses hpackage ⊢
  obtain ⟨constrained, modern⟩ := tier
  refine ⟨?_, ?_, ?_⟩
  · obtain ⟨bytes, rfl⟩ := exists_bytes_of_package hpackage
    exact ⟨rfl, rfl⟩
  · rintro rfl
    obtain ⟨text, rfl⟩ := Plan.exists_of_map_fst_singleton hpasses
    cases hpackage
    exact ⟨_, rfl, rfl, rfl⟩
  · rintro rfl
    constructor
    · rintro rfl
      obtain ⟨text, rfl⟩ := Plan.exists_of_map_fst_singleton hpasses
      exact ⟨_, rfl, rfl, decode_package hpackage rfl⟩
    · rintro rfl
      obtain ⟨text, text', rfl⟩ := Plan.exists_of_map_fst_pair hpasses
      exact ⟨_, _, rfl, rfl, rfl, decode_package hpackage rfl⟩

/-- A legacy request without a pixel program holds the empty program of each dialect. -/
theorem compile_artifact_contents_emptyPixel :
    let compiler : Compiler Unit Unit := ⟨⟨fun _ s => (.result none [], s), fun _ s => s⟩, none⟩
    let request : Request := ⟨"", none, .pixel, .opengles, .level93, 1, none⟩
    ∃ result after artifact, compiler.compile request ⟨(), (), [], [], [], []⟩ = (.ok result, after) ∧
      result.artifact = some artifact ∧
      DualVariants.decode artifact.data = .ok ⟨some "precision highp float;\n\nvoid main()\x7b\x7d",
        some ("#version 300 es\n\n#extension GL_ARB_gpu_shader5 : enable\n\nprecision highp float;\n\n"
          ++ "void main()\x7b\x7d")⟩ := by
  intro compiler request
  let start : Session Unit Unit := ⟨(), (), [], [], [], []⟩
  have hrun : (Plan.ofTier request.tier).run (fun _ tier => compiler.build request tier) start = (.complete _, _) := rfl
  obtain ⟨artifact, hcompile⟩ := @exists_compile_of_fits _ _ compiler request start _ _ hrun (by decide)
  obtain ⟨-, -, hes⟩ := compile_artifact_contents compiler request hcompile rfl
  obtain ⟨-, hlegacy⟩ := hes rfl
  obtain ⟨legacy, modern, hvariants, -, -, hdecode⟩ := hlegacy rfl
  cases hvariants
  exact ⟨_, _, artifact, hcompile, rfl, hdecode.trans (by decide)⟩

end Compiler

end GlslCompiler
