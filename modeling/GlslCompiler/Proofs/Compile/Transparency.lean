import GlslCompiler.Proofs.Compile.Contents
import GlslCompiler.Proofs.Optimizer.Protocol

/-!
# A compilation with the optimizer and without

A compilation with an engine is set beside the compilation of the same request without one. The two run
alongside each other, variant by variant: their converters are asked the same and answer the same, they fail and
escape together, and the records differ only in the entries about programs that the engine left as they are.
`Alongside` is the relation between the two sessions. It comes with the list of offers, one for each variant
that was built: the variant without the engine, and the conversation the engine had about it.

The two part ways only at the packaging, where each has its own texts. An engine that delivers a text too long for an
ES artifact breaks a compilation that would have had an artifact without it.
-/

namespace GlslCompiler

/-- What is said about a fault. -/
def Fault.account : Fault → String
  | .unavailable message => message
  | .exhausted name message => "optimizer raised " ++ name ++ ": " ++ message
  | .raised name message => "optimizer raised " ++ name ++ ": " ++ message

/-- What is said about a fault of a call that enters or leaves a scope. -/
def Fault.scopeAccount : Fault → String
  | .exhausted _ _ => "optimizer raised RuntimeError: generator raised StopIteration"
  | fault => fault.account

/-- What is said about an exchange that went wrong. -/
def Exchange.account? : Exchange → Option String
  | .createContext _ (.error fault) => some fault.scopeAccount
  | .optimize _ _ _ _ (.error fault) => some fault.scopeAccount
  | .status _ (.error fault) => some fault.account
  | .output _ (.error fault) => some fault.account
  | .deleteShader _ (.error fault) => some fault.scopeAccount
  | .cleanup _ (.error fault) => some fault.scopeAccount
  | _ => none

theorem Fault.faultReason_eq (fault : Fault) : Verdict.faultReason fault = fault.account := by
  cases fault <;> rfl

theorem Fault.account_leavingScope (fault : Fault) : fault.leavingScope.account = fault.scopeAccount := by
  cases fault <;> rfl

theorem Exchange.account?_eq (x : Exchange) : x.account? = x.surfaced?.map Verdict.faultReason := by
  rcases x with ⟨_, _ | _⟩ | ⟨_, _, _, _, _ | _⟩ | ⟨_, _ | _⟩ | ⟨_, _ | _⟩ | ⟨_, _ | _⟩ | ⟨_, _ | _⟩ <;>
    simp [account?, surfaced?, fault?, Fault.faultReason_eq, Fault.account_leavingScope]

namespace Conversation

/-- The text that a conversation delivers: every call returned, the status was good and the output not empty. -/
def delivered? : List Exchange → Option String
  | [.createContext _ (.ok _), .optimize _ _ _ _ (.ok _), .status _ (.ok true), .output _ (.ok (some text)),
      .deleteShader _ (.ok _), .cleanup _ (.ok _)] => if text = "" then none else some text
  | _ => none

/-- Why a conversation delivers nothing: the last exchange that went wrong, if there was one. -/
def reason (xs : List Exchange) : String :=
  ((xs.filterMap Exchange.account?).getLast?).getD "optimizer reported a failure"

theorem reason_eq (xs : List Exchange) :
    reason xs = ((xs.filterMap Exchange.surfaced?).getLast?.map Verdict.faultReason).getD
      "optimizer reported a failure" := by
  have haccount : xs.filterMap Exchange.account? = (xs.filterMap Exchange.surfaced?).map Verdict.faultReason := by
    rw [List.map_filterMap]
    exact List.filterMap_congr fun x _ => x.account?_eq
  rw [reason, haccount, List.getLast?_map]

/-- The entry about a program that was kept. -/
def skipped (file : Option String) (xs : List Exchange) : Diagnostics :=
  match delivered? xs with
  | some _ => []
  | none =>
    [{ kind := .optimizationSkipped
       severity := .info
       message := "Optimization skipped, keeping unoptimized program: " ++ reason xs
       file := file }]

theorem verdict_eq {job : OptimizerJob} {xs : List Exchange} (h : Conversation job xs) :
    Verdict.ofAnswer (outcome xs) =
      match delivered? xs with
      | some text => .optimized text
      | none => .kept (reason xs) := by
  rw [reason_eq]
  rcases h with fault | ⟨context, fault | ⟨shader, fault | _ | output, deleted⟩, cleaned⟩
  · rfl
  · cases cleaned <;> rfl
  · cases deleted <;> cases cleaned <;> rfl
  · cases deleted <;> cases cleaned <;> rfl
  · -- Only here may there be a text, and only if neither release raises a fault.
    rcases output with fault | _ | text
    · cases deleted <;> cases cleaned <;> rfl
    · cases deleted <;> cases cleaned <;> rfl
    · cases deleted with
      | error fault => cases cleaned <;> rfl
      | ok =>
        cases cleaned with
        | error fault => rfl
        | ok =>
          by_cases htext : text = "" <;>
            simp [outcome, delivered?, htext, Exchange.surfaced?, Exchange.fault?, Exchange.text?, Verdict.ofAnswer,
              List.findSome?]

theorem skipped_info {file : Option String} {xs : List Exchange} {d : Diagnostic} (h : d ∈ skipped file xs) :
    d.kind = .optimizationSkipped ∧ d.severity = .info := by
  unfold skipped at h
  split at h
  · cases h
  · rw [List.mem_singleton.1 h]
    exact ⟨rfl, rfl⟩

end Conversation

/-- A variant as it is without an engine, and the conversation about it, if it was offered to the engine. -/
structure Offer where
  plain : Variant
  talk : Option (PipelineStage × List Exchange)

namespace Offer

def job? (offer : Offer) : Option OptimizerJob :=
  offer.talk.map fun t => ⟨offer.plain.text, offer.plain.tier, t.1⟩

def conversation? (offer : Offer) : Option (List Exchange) := offer.talk.map Prod.snd

/-- The text that the engine made of the variant. -/
def delivered? (offer : Offer) : Option String := offer.conversation?.bind Conversation.delivered?

/-- The variant of the compilation with the engine. -/
def variant (offer : Offer) : Variant := { offer.plain with text := offer.delivered?.getD offer.plain.text }

def skipped (file : Option String) (offer : Offer) : Diagnostics :=
  offer.conversation?.elim [] (Conversation.skipped file)

/-- Every variant is offered but the empty pixel program. -/
def Valid (request : Request) (offer : Offer) : Prop :=
  offer.plain.stage = request.stage ∧
    match offer.talk with
    | none => request.isEmptyPixel offer.plain.tier
    | some (stage, _) => ¬ request.isEmptyPixel offer.plain.tier ∧ request.stage.pipeline? = some stage

end Offer

/-- Two sessions that were one, `start`, one of a compilation with an engine and one of a compilation without. -/
structure Alongside {σ ε : Type} (engine : Engine ε) (request : Request) (start : Session σ ε) (offers : List Offer)
    (events : List BridgeEvent) (optimized plain : Session σ ε) : Prop where
  valid : ∀ offer ∈ offers, offer.Valid request
  served : Bridge.Serves engine (offers.filterMap Offer.job?) start.engine (offers.filterMap Offer.conversation?)
    events optimized.engine
  events : optimized.events = start.events ++ events
  optimizedVariants : optimized.variants = offers.map Offer.variant
  plainVariants : plain.variants = offers.map Offer.plain
  recorded : optimized.diagnostics.filter (·.kind ≠ .optimizationSkipped) = plain.diagnostics
  skipped : optimized.diagnostics.ofKind .optimizationSkipped = offers.flatMap (Offer.skipped request.file)
  converter : optimized.converter = plain.converter
  calls : optimized.calls = plain.calls
  idle : plain.engine = start.engine ∧ plain.events = start.events

namespace Alongside

variable {σ ε : Type} {engine : Engine ε} {request : Request} {start optimized plain : Session σ ε}
  {offers : List Offer} {events : List BridgeEvent}

theorem errors (h : Alongside engine request start offers events optimized plain) :
    optimized.diagnostics.errors = plain.diagnostics.errors := by
  have hinfo : ∀ d ∈ optimized.diagnostics, d.kind = .optimizationSkipped → d.isError = false := by
    intro d hd hkind
    have hskipped : d ∈ optimized.diagnostics.ofKind .optimizationSkipped := by
      simpa [Diagnostics.ofKind, hkind] using hd
    rw [h.skipped] at hskipped
    obtain ⟨offer, -, hoffer⟩ := List.mem_flatMap.1 hskipped
    unfold Offer.skipped at hoffer
    cases htalk : offer.conversation? with
    | none =>
      rw [htalk] at hoffer
      cases hoffer
    | some xs =>
      rw [htalk] at hoffer
      simp [Diagnostic.isError, (Conversation.skipped_info hoffer).2]
  rw [← h.recorded, Diagnostics.errors, Diagnostics.errors, List.filter_filter]
  apply List.filter_congr
  intro d hd
  by_cases hkind : d.kind = .optimizationSkipped
  · simp [hkind, hinfo d hd hkind]
  · simp [hkind]

theorem hasErrors (h : Alongside engine request start offers events optimized plain) :
    optimized.diagnostics.hasErrors = plain.diagnostics.hasErrors := by
  have hany : ∀ ds : Diagnostics, ds.hasErrors = ds.errors.any fun _ => true := by
    intro ds
    rw [Diagnostics.hasErrors, Diagnostics.errors, List.any_filter]
    simp
  rw [hany, hany, h.errors]

theorem refl (session : Session σ ε) :
    Alongside engine request session [] []
      { session with diagnostics := [], variants := [] } { session with diagnostics := [], variants := [] } where
  valid := nofun
  served := .nil session.engine
  events := by simp
  optimizedVariants := rfl
  plainVariants := rfl
  recorded := rfl
  skipped := rfl
  converter := rfl
  calls := rfl
  idle := ⟨rfl, rfl⟩

theorem variants_eq (h : Alongside engine request start offers events optimized plain)
    (hnone : ∀ offer ∈ offers, offer.delivered? = none) : optimized.variants = plain.variants := by
  rw [h.optimizedVariants, h.plainVariants]
  apply List.map_congr_left
  intro offer hoffer
  rw [Offer.variant, hnone offer hoffer]
  rfl

/-- What is drafted does not depend on the engine. -/
theorem draft (h : Alongside engine request start offers events optimized plain) {drafting : Drafting σ}
    (hkinds : ∀ d ∈ drafting.diagnostics, d.kind ≠ .optimizationSkipped) :
    Alongside engine request start offers events (optimized.draft drafting) (plain.draft drafting) where
  valid := h.valid
  served := h.served
  events := h.events
  optimizedVariants := h.optimizedVariants
  plainVariants := h.plainVariants
  recorded := by
    have hkept : drafting.diagnostics.filter (·.kind ≠ .optimizationSkipped) = drafting.diagnostics :=
      List.filter_eq_self.2 fun d hd => by simpa using hkinds d hd
    simp only [Session.draft, List.filter_append, h.recorded, hkept]
  skipped := by
    have hnone : drafting.diagnostics.filter (·.kind = .optimizationSkipped) = [] :=
      List.filter_eq_nil_iff.2 fun d hd => by simpa using hkinds d hd
    have hskipped := h.skipped
    unfold Diagnostics.ofKind at hskipped ⊢
    simp only [Session.draft, List.filter_append, hskipped, hnone, List.append_nil]
  converter := rfl
  calls := by simp only [Session.draft, h.calls]
  idle := h.idle

/-- A text that is not offered to the engine. -/
theorem keepFixed (h : Alongside engine request start offers events optimized plain) {text : String} {tier : Tier}
    (hpixel : request.isEmptyPixel tier) :
    Alongside engine request start (offers ++ [⟨⟨text, request.stage, tier⟩, none⟩]) events
      (optimized.keep ⟨text, request.stage, tier⟩) (plain.keep ⟨text, request.stage, tier⟩) where
  valid offer hoffer := by
    rcases List.mem_append.1 hoffer with hoffer | hoffer
    · exact h.valid offer hoffer
    · rw [List.mem_singleton.1 hoffer]
      exact ⟨rfl, hpixel⟩
  served := by
    rw [List.filterMap_append, List.filterMap_append]
    simpa [Session.keep, List.filterMap_cons, Offer.job?, Offer.conversation?] using h.served
  events := h.events
  optimizedVariants := by
    simp [Session.keep, h.optimizedVariants, Offer.variant, Offer.delivered?, Offer.conversation?]
  plainVariants := by simp [Session.keep, h.plainVariants]
  recorded := h.recorded
  skipped := by
    rw [List.flatMap_append]
    simpa [Session.keep, Offer.skipped, Offer.conversation?] using h.skipped
  converter := h.converter
  calls := h.calls
  idle := h.idle

/-- A job that the engine had a conversation about. -/
theorem keepOffered (h : Alongside engine request start offers events optimized plain) {job : OptimizerJob}
    {xs : List Exchange} {more : List BridgeEvent} {s : ε} (hxs : Conversation job xs)
    (hhas : engine.Has optimized.engine xs more s) (hpixel : ¬ request.isEmptyPixel job.tier)
    (hstage : request.stage.pipeline? = some job.stage) :
    Alongside engine request start (offers ++ [⟨⟨job.source, request.stage, job.tier⟩, some (job.stage, xs)⟩])
      (events ++ .acquire :: (more ++ [.release]))
      (Session.keep
        { optimized with
          engine := s
          events := optimized.events ++ .acquire :: (more ++ [.release])
          diagnostics := optimized.diagnostics ++ Conversation.skipped request.file xs }
        ⟨(Conversation.delivered? xs).getD job.source, request.stage, job.tier⟩)
      (plain.keep ⟨job.source, request.stage, job.tier⟩) where
  valid offer hoffer := by
    rcases List.mem_append.1 hoffer with hoffer | hoffer
    · exact h.valid offer hoffer
    · rw [List.mem_singleton.1 hoffer]
      exact ⟨rfl, hpixel, hstage⟩
  served := by
    rw [List.filterMap_append, List.filterMap_append]
    exact h.served.append_singleton hxs hhas
  events := by simp [Session.keep, h.events]
  optimizedVariants := by
    simp [Session.keep, h.optimizedVariants, Offer.variant, Offer.delivered?, Offer.conversation?]
  plainVariants := by simp [Session.keep, h.plainVariants]
  recorded := by
    have hnone : (Conversation.skipped request.file xs).filter (·.kind ≠ .optimizationSkipped) = [] :=
      List.filter_eq_nil_iff.2 fun d hd => by simp [(Conversation.skipped_info hd).1]
    simp only [Session.keep, List.filter_append, h.recorded, hnone, List.append_nil]
  skipped := by
    have hkept : (Conversation.skipped request.file xs).filter (·.kind = .optimizationSkipped) =
        Conversation.skipped request.file xs :=
      List.filter_eq_self.2 fun d hd => by simp [(Conversation.skipped_info hd).1]
    have hskipped := h.skipped
    unfold Diagnostics.ofKind at hskipped ⊢
    simp only [Session.keep, List.filter_append, hskipped, hkept, List.flatMap_append]
    simp [Offer.skipped, Offer.conversation?]
  converter := h.converter
  calls := h.calls
  idle := h.idle

end Alongside

/-! ### Two runs of one plan -/

/-- Two attempts that end alike, in related states. -/
inductive Attempt.Related {φ σ τ : Type} (R : σ → τ → Prop) : Attempt φ × σ → Attempt φ × τ → Prop where
  | built {s : σ} {t : τ} (text text' : String) (h : R s t) : Related R (.built text, s) (.built text', t)
  | failed {s : σ} {t : τ} (h : R s t) : Related R (.failed, s) (.failed, t)
  | escaped {s : σ} {t : τ} (fault : φ) (h : R s t) : Related R (.escaped fault, s) (.escaped fault, t)

/-- Two runs that end alike, in related states. -/
inductive PlanResult.Related {φ σ τ : Type} (R : σ → τ → Prop) : PlanResult φ × σ → PlanResult φ × τ → Prop where
  | complete {s : σ} {t : τ} (texts texts' : SlotTexts) (h : R s t) :
      Related R (.complete texts, s) (.complete texts', t)
  | failed {s : σ} {t : τ} (h : R s t) : Related R (.failed, s) (.failed, t)
  | escaped {s : σ} {t : τ} (fault : φ) (h : R s t) : Related R (.escaped fault, s) (.escaped fault, t)

theorem PlanResult.Related.states {φ σ τ : Type} {R : σ → τ → Prop} {ended : PlanResult φ × σ}
    {ended' : PlanResult φ × τ} (h : PlanResult.Related R ended ended') : R ended.2 ended'.2 := by
  cases h with
  | complete _ _ h => exact h
  | failed h => exact h
  | escaped _ h => exact h

theorem Plan.runFrom_related {φ σ τ : Type} {R : σ → τ → Prop} {build : Progress → Tier → σ → Attempt φ × σ}
    {build' : Progress → Tier → τ → Attempt φ × τ}
    (hstep : ∀ progress tier s t, R s t → Attempt.Related R (build progress tier s) (build' progress tier t))
    (rest : List Pass) (progress : Progress) (texts texts' : SlotTexts) {s : σ} {t : τ} (h : R s t) :
    PlanResult.Related R (runFrom build progress rest texts s) (runFrom build' progress rest texts' t) := by
  induction rest generalizing progress texts texts' s t with
  | nil => exact .complete texts texts' h
  | cons pass rest ih =>
    have hpass := hstep progress pass.tier s t h
    rw [runFrom, runFrom]
    generalize build progress pass.tier s = ended at hpass ⊢
    generalize build' progress pass.tier t = ended' at hpass ⊢
    cases hpass with
    | built text text' hnext => exact ih _ _ _ hnext
    | failed hnext => exact .failed hnext
    | escaped fault hnext => exact .escaped fault hnext

namespace Compiler

variable {σ ε : Type} (converter : Converter σ) (engine : Engine ε)

/-- What an engine does to a session. -/
theorem optimize_some (job : OptimizerJob) (file : Option String) (session : Session σ ε) :
    ∃ xs events s, Conversation job xs ∧ engine.Has session.engine xs events s ∧
      (⟨converter, some engine⟩ : Compiler σ ε).optimize job file session =
        ((Conversation.delivered? xs).getD job.source,
          { session with
            engine := s
            events := session.events ++ .acquire :: (events ++ [.release])
            diagnostics := session.diagnostics ++ Conversation.skipped file xs }) := by
  obtain ⟨xs, events, s, hxs, hhas, heq⟩ := Bridge.optimize_converses engine job ⟨session.engine, session.events⟩
  refine ⟨xs, events, s, hxs, hhas, ?_⟩
  rw [optimize, Bridge.offer]
  dsimp only
  rw [heq, hxs.verdict_eq]
  unfold Conversation.skipped
  cases Conversation.delivered? xs <;> rfl

theorem optimize_none (job : OptimizerJob) (file : Option String) (session : Session σ ε) :
    (⟨converter, none⟩ : Compiler σ ε).optimize job file session = (job.source, session) := by
  simp [optimize, Bridge.offer, Session.record]

/-- The sessions of two compilations that have come equally far. -/
def Beside (request : Request) (start optimized plain : Session σ ε) : Prop :=
  ∃ offers events, Alongside engine request start offers events optimized plain

/-- One variant with the engine and one without. -/
theorem build_related (request : Request) (start : Session σ ε) (tier : Tier) {optimized plain : Session σ ε}
    (h : Beside engine request start optimized plain) :
    Attempt.Related (Beside engine request start)
      ((⟨converter, some engine⟩ : Compiler σ ε).build request tier optimized)
      ((⟨converter, none⟩ : Compiler σ ε).build request tier plain) := by
  obtain ⟨offers, events, h⟩ := h
  -- A draft depends on the converter's state and on whether there is an error, and these the sessions share.
  have hsame : (⟨converter, some engine⟩ : Compiler σ ε).draft request tier optimized =
      (⟨converter, none⟩ : Compiler σ ε).draft request tier plain := by
    rw [draft, draft, h.hasErrors, h.converter]
  have hfaithful := (⟨converter, none⟩ : Compiler σ ε).draft_faithful request tier plain
  rw [build_eq, build_eq, hsame]
  generalize (⟨converter, none⟩ : Compiler σ ε).draft request tier plain = drafting at hfaithful ⊢
  have hdrafted := h.draft hfaithful.kinds
  cases hdraft : drafting.draft with
  | failed => exact .failed ⟨offers, events, hdrafted⟩
  | escaped fault => exact .escaped fault ⟨offers, events, hdrafted⟩
  | fixed text => exact .built text text ⟨_, events, hdrafted.keepFixed (hfaithful.fixed text hdraft).2⟩
  | offered job =>
    obtain ⟨-, hpixel, rfl, hstage⟩ := hfaithful.offered job hdraft
    obtain ⟨xs, more, s, hxs, hhas, heq⟩ :=
      optimize_some converter engine job request.file (optimized.draft drafting)
    rw [optimizeDraft, optimizeDraft, heq, optimize_none]
    exact .built _ _ ⟨_, _, hdrafted.keepOffered hxs hhas hpixel hstage⟩

/-- The ends of two compilations that have come equally far. Where both have built their variants, each is packaged on
its own. -/
inductive EndsAlike (request : Request) :
    Except Escape CompileResult × Session σ ε → Except Escape CompileResult × Session σ ε → Prop
  | escaped {s t : Session σ ε} (escape : Escape) : EndsAlike request (.error escape, s) (.error escape, t)
  | failed {s t : Session σ ε} (herrors : s.diagnostics.errors = t.diagnostics.errors) :
      EndsAlike request (.ok ⟨none, s.diagnostics, []⟩, s) (.ok ⟨none, t.diagnostics, []⟩, t)
  | packaged {ended ended' : Except Escape CompileResult × Session σ ε} (h : Packs request ended.2 ended.1)
      (h' : Packs request ended'.2 ended'.1) : EndsAlike request ended ended'

section Settle

variable {engine} {request : Request} {start : Session σ ε} {optimized plain : PlanResult Escape × Session σ ε}

theorem settle_endsAlike (h : PlanResult.Related (Beside engine request start) optimized plain)
    (hoptimized : Completes request optimized) (hplain : Completes request plain) :
    EndsAlike request (settle request optimized) (settle request plain) := by
  cases h with
  | complete =>
    obtain ⟨built, hpasses, rfl, herrors, hvariants⟩ := hoptimized
    obtain ⟨built', hpasses', rfl, herrors', hvariants'⟩ := hplain
    apply EndsAlike.packaged
    · rw [settle_session]
      exact settle_packs request hpasses herrors hvariants
    · rw [settle_session]
      exact settle_packs request hpasses' herrors' hvariants'
  | failed h =>
    obtain ⟨offers, events, hbeside⟩ := h
    exact .failed hbeside.errors
  | escaped fault h => exact .escaped fault

/-- Two compilations with the same variants have the same artifact. -/
theorem settle_eq_of_variants (h : PlanResult.Related (Beside engine request start) optimized plain)
    (hoptimized : Completes request optimized) (hplain : Completes request plain)
    (hsame : optimized.2.variants = plain.2.variants) :
    (settle request optimized).1.map (fun r => (r.artifact, r.variants)) =
      (settle request plain).1.map fun r => (r.artifact, r.variants) := by
  cases h with
  | complete =>
    obtain ⟨built, hpasses, rfl, herrors, hvariants⟩ := hoptimized
    obtain ⟨built', hpasses', rfl, herrors', hvariants'⟩ := hplain
    dsimp only at hsame
    rw [settle, settle, herrors, herrors', slotTexts_eq request hpasses, slotTexts_eq request hpasses', ← hvariants,
      ← hvariants', hsame]
    cases package (Plan.ofTier request.tier) (variantTexts request.tier _) request.stage <;> rfl
  | failed => rfl
  | escaped => rfl

end Settle

/-- A compilation with an engine and one without fail together and escape together, and where both have built their
variants each is packaged. A variant is either what the engine delivered for it or the variant without the engine; if
nothing is delivered at all, the artifact is the same. -/
theorem compile_transparent (request : Request) (session : Session σ ε) :
    let optimized := (⟨converter, some engine⟩ : Compiler σ ε).compile request session
    let plain := (⟨converter, none⟩ : Compiler σ ε).compile request session
    EndsAlike request optimized plain ∧
    ∃ offers events, Alongside engine request session offers events optimized.2 plain.2 ∧
      ((∀ offer ∈ offers, offer.delivered? = none) →
        optimized.1.map (fun r => (r.artifact, r.variants)) = plain.1.map fun r => (r.artifact, r.variants)) := by
  intro optimized plain
  have hrelated := Plan.runFrom_related
    (fun (_ : Progress) tier _ _ h => build_related converter engine request session tier h)
    (Plan.ofTier request.tier).passes .convertPrimary [] [] ⟨[], [], Alongside.refl session⟩
  have hoptimized := (⟨converter, some engine⟩ : Compiler σ ε).run_completes request
    { session with diagnostics := [], variants := [] } rfl rfl
  have hplain := (⟨converter, none⟩ : Compiler σ ε).run_completes request
    { session with diagnostics := [], variants := [] } rfl rfl
  refine ⟨settle_endsAlike hrelated hoptimized hplain, ?_⟩
  obtain ⟨offers, events, hbeside⟩ := hrelated.states
  have halongside : Alongside engine request session offers events optimized.2 plain.2 := by
    rw [compile_session, compile_session]
    exact hbeside
  refine ⟨offers, events, halongside, ?_⟩
  intro hnone
  exact settle_eq_of_variants hrelated hoptimized hplain (hbeside.variants_eq hnone)

end Compiler

/-- An engine that answers every call and always delivers the same. -/
def Engine.delivering (text : String) : Engine Unit where
  createContext _ s := (.ok (some 1), [], s)
  optimize _ _ _ _ s := (.ok (some 2), [], s)
  status _ s := (.ok true, [], s)
  output _ s := (.ok (some text), [], s)
  deleteShader _ s := (.ok (), [], s)
  cleanup _ s := (.ok (), [], s)

namespace Compiler

theorem optimize_delivering {σ : Type} (converter : Converter σ) {text : String} (h : text ≠ "") (job : OptimizerJob)
    (file : Option String) (session : Session σ Unit) :
    ∃ events, (⟨converter, some (.delivering text)⟩ : Compiler σ Unit).optimize job file session =
      (text, { session with events := events }) := by
  have hfilter : (some text).filter (fun text => !text.isEmpty) = some text := by simp [Option.filter, h]
  simp [optimize, Bridge.offer, Bridge.optimize, Bridge.withContext, Bridge.withShader, Bridge.readOutput,
    Bridge.releasing, Bridge.perform, Engine.delivering, Session.record, Verdict.ofAnswer, Verdict.text?,
    Verdict.diagnostics]
  rw [hfilter]
  exact ⟨rfl, rfl⟩

/-- A text that is too long for an ES artifact breaks the compilation that it is delivered to. -/
theorem compile_oversized {text : String} (h : 2 ^ 32 ≤ text.length) :
    let converter : Converter Unit := ⟨fun _ s => (.result (some []) [], s), fun _ s => s⟩
    let request : Request := ⟨"", some "main", .vertex, .opengles, .level100, 1, none⟩
    let session : Session Unit Unit := ⟨(), (), [], [], [], []⟩
    ((⟨converter, some (.delivering text)⟩ : Compiler Unit Unit).compile request session).1 =
        .error (.packaging ⟨text.length⟩) ∧
      ∃ result, ((⟨converter, none⟩ : Compiler Unit Unit).compile request session).1 = .ok result ∧
        result.succeeded = true := by
  intro converter request session
  have hne : text ≠ "" := by
    rintro rfl
    exact absurd h (by decide)
  constructor
  · let drafted : Session Unit Unit := ⟨(), (), [⟨"", some "main", .vertex, none⟩], [], [], []⟩
    let job : OptimizerJob := ⟨Preamble.compose .es3 1 .vertex "", .es3, .vertex⟩
    obtain ⟨events, hoptimize⟩ := optimize_delivering converter hne job none drafted
    have hbuild : (⟨converter, some (.delivering text)⟩ : Compiler Unit Unit).build request .es3 session =
        (.built text, { drafted with events := events, variants := [⟨text, .vertex, .es3⟩] }) := by
      rw [build_eq]
      change keepBuilt request .es3 (.built (optimize _ job none drafted).1, (optimize _ job none drafted).2) = _
      rw [hoptimize]
      rfl
    have hpackage : package (Plan.ofTier request.tier) [(.modern, text)] request.stage = .error ⟨text.length⟩ := by
      change Artifact.dual ⟨none, some text⟩ .vertex = _
      rw [Artifact.dual, DualVariants.encode_eq, DualVariants.encodeSlot_oversized h]
      rfl
    have hrun : (Plan.ofTier request.tier).run
        (fun _ tier => (⟨converter, some (.delivering text)⟩ : Compiler Unit Unit).build request tier) session =
        (.complete [(.modern, text)], { drafted with events := events, variants := [⟨text, .vertex, .es3⟩] }) := by
      change Plan.runFrom _ _ [⟨.modern, .es3⟩] [] session = _
      rw [Plan.runFrom, hbuild]
      rfl
    rw [compile_eq, hrun, settle, hpackage]
    rfl
  · have hrun : (Plan.ofTier request.tier).run
        (fun _ tier => (⟨converter, none⟩ : Compiler Unit Unit).build request tier) session = (.complete _, _) := rfl
    obtain ⟨artifact, hcompile⟩ := @exists_compile_of_fits _ _ _ request session _ _ hrun (by decide)
    rw [hcompile]
    exact ⟨_, rfl, rfl⟩

end Compiler

end GlslCompiler
