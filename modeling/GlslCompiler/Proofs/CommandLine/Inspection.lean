import GlslCompiler.CommandLine.Arguments
import GlslCompiler.CommandLine.Run
import GlslCompiler.Proofs.CommandLine.Shell
import GlslCompiler.Proofs.Compile.Transparency

/-!
# Inspecting what was compiled

The two layouts of an artifact carry no mark, and `inspect` tells them apart by whether the bytes can be decoded. That
is right for everything a compilation packages. The bytes of ES variants always decode; a desktop program would have to
begin with a flag byte to be taken for ES variants, and a program that comes from the writer begins with its version
directive. Only an optimizer could deliver a text that begins otherwise.
-/

namespace GlslCompiler

/-! ### Texts that the writer composed -/

theorem Preamble.compose_desktop {tier : Tier} (h : tier.constrained = false) (count : Int) (stage : PipelineStage)
    (body : String) : (compose tier count stage body).toList.head? = some '#' := by
  have hversion : version tier = ["#version 420"] := by simp [version, h]
  simp [compose, text, lines, hversion, String.toList_join]

/-- The text of a draft, as it is without an engine. -/
def Draft.text? : Draft → Option String
  | .fixed text => some text
  | .offered job => some job.source
  | _ => none

/-- A text is composed for a request if it is a preamble in front of some body. -/
def Variant.Composed (request : Request) (variant : Variant) : Prop :=
  ∃ stage body, variant.text = Preamble.compose variant.tier request.renderTargets stage body

theorem Converter.draft_composed {σ : Type} (converter : Converter σ) (request : Request) (tier : Tier)
    (blocked : Bool) (state : σ) {text : String}
    (h : (converter.draft request tier blocked state).draft.text? = some text) :
    ∃ stage body, text = Preamble.compose tier request.renderTargets stage body := by
  unfold Converter.draft at h
  dsimp only at h
  split at h
  · cases h
  · rename_i stage _
    split at h
    · cases h
    · split at h
      · exact ⟨stage, _, (Option.some.inj h).symm⟩
      · unfold Converter.draftConverted at h
        dsimp only at h
        split at h
        · cases h
        · cases h
        · unfold Converter.draftProgram at h
          dsimp only at h
          split at h
          · cases h
          · exact ⟨stage, _, (Option.some.inj h).symm⟩

theorem Offer.delivered?_of_skipped (offer : Offer) {file : Option String} {d : Diagnostic}
    (h : d ∈ offer.skipped file) : offer.delivered? = none := by
  unfold skipped at h
  unfold delivered?
  cases htalk : offer.conversation? with
  | none => rfl
  | some xs =>
    rw [htalk, Option.elim_some, Conversation.skipped] at h
    split at h
    · cases h
    · assumption

namespace Compiler

variable {σ ε : Type}

section Plain

variable (converter : Converter σ) (request : Request)

theorem build_composed (tier : Tier) (session : Session σ ε) :
    Attempt.Ends
      (fun text after => after.variants = session.variants ++ [⟨text, request.stage, tier⟩] ∧
        ∃ stage body, text = Preamble.compose tier request.renderTargets stage body)
      (fun _ => True) ((⟨converter, none⟩ : Compiler σ ε).build request tier session) := by
  have hcomposed := fun text => @Converter.draft_composed _ converter request tier session.diagnostics.hasErrors
    session.converter text
  rw [build_eq]
  unfold draft
  generalize converter.draft request tier session.diagnostics.hasErrors session.converter = drafting at hcomposed ⊢
  cases hdraft : drafting.draft with
  | failed => trivial
  | escaped fault => trivial
  | fixed text => exact ⟨rfl, hcomposed text (by rw [hdraft]; rfl)⟩
  | offered job =>
    rw [optimizeDraft, optimize_none]
    exact ⟨rfl, hcomposed job.source (by rw [hdraft]; rfl)⟩

theorem run_composed (plan : Plan) (start : Session σ ε) (hvariants : start.variants = []) :
    PlanResult.Ends
      (fun texts last => ∃ built, built.map Prod.fst = plan.passes ∧ texts = Plan.slotTexts built ∧
        ∀ variant ∈ last.variants, variant.Composed request)
      (fun _ => True) (plan.run (fun _ tier => (⟨converter, none⟩ : Compiler σ ε).build request tier) start) := by
  refine Plan.runFrom_ends (fun _ s => ∀ variant ∈ s.variants, variant.Composed request) _ ?_
    plan.passes .convertPrimary [] start (by simp [hvariants])
  intro progress pass before s hdone
  have hpass := build_composed converter request pass.tier s
  generalize (⟨converter, none⟩ : Compiler σ ε).build request pass.tier s = ended at hpass ⊢
  obtain ⟨attempt, s'⟩ := ended
  cases attempt with
  | built text =>
    intro variant hvariant
    rw [hpass.1, List.mem_append, List.mem_singleton] at hvariant
    rcases hvariant with hvariant | rfl
    · exact hdone variant hvariant
    · exact hpass.2
  | failed => trivial
  | escaped fault => trivial

theorem compile_composed {session after : Session σ ε} {result : CompileResult}
    (h : (⟨converter, none⟩ : Compiler σ ε).compile request session = (.ok result, after))
    (hsome : result.artifact.isSome = true) : ∀ variant ∈ result.variants, variant.Composed request := by
  have hrun := run_composed converter request (Plan.ofTier request.tier)
    { session with diagnostics := [], variants := [] } rfl
  rw [compile_eq] at h
  generalize (Plan.ofTier request.tier).run _ _ = run at hrun h
  obtain ⟨run, last⟩ := run
  cases run with
  | complete texts =>
    obtain ⟨-, -, -, hlast⟩ := hrun
    rw [settle] at h
    split at h
    · cases h
      cases hsome
    · split at h <;> cases h
      exact hlast
  | failed =>
    cases h
    cases hsome
  | escaped fault => cases h

end Plain

variable (compiler : Compiler σ ε) (request : Request)

variable {compiler request} in
/-- A desktop program is packaged whatever its length. -/
theorem EndsAlike.exists_plain {result : CompileResult} {after : Session σ ε}
    {plain : Except Escape CompileResult × Session σ ε} (h : EndsAlike request (.ok result, after) plain)
    (hsome : result.artifact.isSome = true) (hdesktop : request.tier.constrained = false) :
    ∃ artifact, plain = (.ok ⟨some artifact, plain.2.diagnostics, plain.2.variants⟩, plain.2) := by
  cases h with
  | failed => cases hsome
  | packaged _ hplain =>
    obtain ⟨ended, last⟩ := plain
    dsimp only at hplain
    cases hplain with
    | packed => exact ⟨_, rfl⟩
    | oversized hconstrained =>
      rw [hdesktop] at hconstrained
      cases hconstrained

/-- A desktop compilation without an engine, or with one that left the program as it is. -/
theorem compile_unoptimized {session after : Session σ ε} {result : CompileResult} {artifact : Artifact}
    {variant : Variant} (h : compiler.compile request session = (.ok result, after))
    (hartifact : result.artifact = some artifact) (hdesktop : request.tier.constrained = false)
    (hvariants : result.variants = [variant])
    (hkept : compiler.engine = none ∨ ∃ d ∈ result.diagnostics, d.kind = .optimizationSkipped) :
    variant.Composed request := by
  have hsome : result.artifact.isSome = true := by rw [hartifact, Option.isSome_some]
  obtain ⟨converter, engine⟩ := compiler
  cases engine with
  | none => exact compile_composed converter request h hsome variant (by rw [hvariants]; exact List.mem_cons_self)
  | some engine =>
    rcases hkept with hnone | ⟨d, hd, hkind⟩
    · cases hnone
    · obtain ⟨hends, offers, events, hbeside, -⟩ := compile_transparent converter engine request session
      rw [h] at hends hbeside
      obtain ⟨plainArtifact, hplain⟩ := hends.exists_plain hsome hdesktop
      -- There is one variant, so there was one offer, and the entry about a program that was kept is about it.
      have hoffers := hbeside.optimizedVariants
      dsimp only at hoffers
      rw [← (compile_artifact _ request h hartifact).1, hvariants] at hoffers
      obtain ⟨offer, rfl, hoffer⟩ := List.map_eq_singleton_iff.1 hoffers.symm
      have hskipped : d ∈ offer.skipped request.file := by
        have hmem : d ∈ after.diagnostics.ofKind .optimizationSkipped := by
          rw [← compile_diagnostics _ request h]
          simpa [Diagnostics.ofKind, hkind] using hd
        rw [hbeside.skipped] at hmem
        simpa using hmem
      have hsame : variant = offer.plain := by
        rw [← hoffer, Offer.variant, offer.delivered?_of_skipped hskipped]
        rfl
      apply compile_composed converter request hplain rfl
      rw [hsame, hbeside.plainVariants]
      exact List.mem_cons_self

end Compiler

/-! ### Telling the layouts apart -/

/-- Whether a text begins with a character whose byte is a flag. -/
def BeginsWithFlag (text : String) : Prop := text.toList.head? = some '\x00' ∨ text.toList.head? = some '\x01'

instance : DecidablePred BeginsWithFlag := fun _ => inferInstanceAs (Decidable (_ ∨ _))

theorem Bytes.one_lt_ofChar {c : Char} (hzero : c ≠ '\x00') (hone : c ≠ '\x01') : 1 < ofChar c := by
  have hzero' : c.toNat ≠ 0 := fun h => hzero (Char.toNat_inj.1 h)
  have hone' : c.toNat ≠ 1 := fun h => hone (Char.toNat_inj.1 h)
  unfold ofChar
  split
  · rename_i hlow
    rw [UInt8.lt_iff_toNat_lt, Nat.toUInt8_eq, UInt8.toNat_ofNat']
    change 1 < _
    omega
  · decide

theorem DualVariants.decode_ofText {text : String} (h : ¬ BeginsWithFlag text) :
    ∃ error, decode (Bytes.ofText text) = .error error := by
  unfold BeginsWithFlag at h
  unfold Bytes.ofText
  match hchars : text.toList with
  | [] => exact ⟨_, rfl⟩
  | [c] => exact ⟨_, rfl⟩
  | c :: c' :: rest =>
    rw [hchars, List.head?_cons, Option.some_inj, Option.some_inj, not_or] at h
    have hflag := Bytes.one_lt_ofChar h.1 h.2
    exact ⟨_, if_pos (.inl hflag)⟩

namespace CompileResult

/-- The variant that was built for a tier. -/
def variantFor? (result : CompileResult) (tier : Tier) : Option Variant := result.variants.find? (·.tier = tier)

end CompileResult

namespace Compiler

variable {σ ε : Type} (compiler : Compiler σ ε) (request : Request)

/-- An ES artifact decodes to the variants that were built, each in the slot of its tier. -/
theorem compile_dual {session after : Session σ ε} {result : CompileResult} {artifact : Artifact}
    (h : compiler.compile request session = (.ok result, after)) (hartifact : result.artifact = some artifact)
    (hes : request.tier.constrained = true) :
    result.variants = (result.variantFor? .es2).toList ++ (result.variantFor? .es3).toList ∧
    DualVariants.decode artifact.data =
      .ok ⟨(result.variantFor? .es2).map fun variant => asciiText variant.text,
        (result.variantFor? .es3).map fun variant => asciiText variant.text⟩ := by
  obtain ⟨built, hpasses, hvariants, hpackage⟩ := compiler.compile_built request h hartifact
  unfold CompileResult.variantFor?
  rw [hvariants]
  generalize request.tier = tier at hpasses hpackage hes ⊢
  obtain ⟨constrained, modern⟩ := tier
  obtain rfl : constrained = true := hes
  cases modern with
  | true =>
    obtain ⟨text, rfl⟩ := Plan.exists_of_map_fst_singleton hpasses
    exact ⟨rfl, decode_package hpackage rfl⟩
  | false =>
    obtain ⟨text, text', rfl⟩ := Plan.exists_of_map_fst_pair hpasses
    exact ⟨rfl, decode_package hpackage rfl⟩

theorem compile_single {session after : Session σ ε} {result : CompileResult} {artifact : Artifact}
    (h : compiler.compile request session = (.ok result, after)) (hartifact : result.artifact = some artifact)
    (hdesktop : request.tier.constrained = false) :
    ∃ variant, result.variants = [variant] ∧ variant.tier.constrained = false ∧
      artifact.data = Bytes.ofText variant.text := by
  obtain ⟨built, hpasses, hvariants, hpackage⟩ := compiler.compile_built request h hartifact
  rw [hvariants]
  generalize request.tier = tier at hpasses hpackage hdesktop ⊢
  obtain ⟨constrained, modern⟩ := tier
  obtain rfl : constrained = false := hdesktop
  obtain ⟨text, rfl⟩ := Plan.exists_of_map_fst_singleton hpasses
  cases hpackage
  exact ⟨_, rfl, rfl, rfl⟩

end Compiler

/-! ### The command -/

namespace Inspect

variable {σ ε : Type}

/-- What is given out about a slot: whether a variant was built for it, its size and its text. -/
def slotReport (label : String) : Option Variant → List String
  | none => ["// " ++ label ++ ": absent"]
  | some variant =>
    ["// " ++ label ++ ": " ++ toString variant.text.length ++ " bytes", asciiText variant.text]

/-- How that is shown. The text of a program may have control sequences in it, and nothing else has. -/
def slotShown (echo : String → String) (label : String) : Option Variant → String
  | none => "// " ++ label ++ ": absent\n"
  | some variant =>
    "// " ++ label ++ ": " ++ toString variant.text.length ++ " bytes\n" ++ echo (asciiText variant.text)

theorem slotLines_eq (label : String) (variant : Option Variant) :
    slotLines label (variant.map fun variant => asciiText variant.text) = slotReport label variant := by
  cases variant with
  | none => rfl
  | some variant => rw [Option.map_some, slotLines, length_asciiText, slotReport]

section Shown

variable {echo : String → String} (hecho : Echoes echo) {label : String} (hlabel : '\x1b' ∉ label.toList)

include hecho hlabel

theorem shown_size (size : Nat) (text : String) :
    String.join (["// " ++ label ++ ": " ++ toString size ++ " bytes", text].map echo) =
      "// " ++ label ++ ": " ++ toString size ++ " bytes\n" ++ echo text := by
  have hsize := Text.escape_not_mem_toString size
  have hline : '\x1b' ∉ ("// " ++ label ++ ": " ++ toString size ++ " bytes").toList := by
    simpa [hlabel] using hsize
  rw [List.map_cons, String.join_cons, hecho _ hline]
  simp [← String.toList_inj]

theorem shown_slotReport (variant : Option Variant) :
    String.join ((slotReport label variant).map echo) = slotShown echo label variant := by
  cases variant with
  | none =>
    have hline : '\x1b' ∉ ("// " ++ label ++ ": absent").toList := by simp [hlabel]
    simp [slotReport, slotShown, hecho _ hline, ← String.toList_inj]
  | some variant => exact shown_size hecho hlabel variant.text.length (asciiText variant.text)

end Shown

theorem lines_detect_ok {data : Bytes} {variants : DualVariants} (h : DualVariants.decode data = .ok variants) :
    lines .detect data = .ok (dualLines variants) := by
  rw [lines, h]

theorem lines_detect_error {data : Bytes} {error : FormatError} (h : DualVariants.decode data = .error error) :
    lines .detect data = .ok (singleLines data) := by
  rw [lines, h]

theorem lines_dual_error {data : Bytes} {error : FormatError} (h : DualVariants.decode data = .error error) :
    lines .dual data = .error error := by
  rw [lines, h]
  rfl

theorem run_of_read (host : Host σ ε) {shell : Shell σ ε} {file : String} {data : Bytes}
    (hfile : shell.files.read host.workingDirectory (Path.tidy file) = .ok data) (layout : ArtifactLayout) :
    (run host file layout).run.run shell = (present layout data).run.run shell := by
  rw [run, Action.run_bind, Action.run_get]
  dsimp only
  rw [hfile]

/-- A shell after the id of some bytes and then some texts have been given out. -/
def reported (shell : Shell σ ε) (data : Bytes) (texts : List String) : Shell σ ε :=
  { shell with
    console := { shell.console with
      output := shell.console.output ++ ("id: " ++ (ObjectId.ofBytes data).text) :: texts } }

theorem present_ok (shell : Shell σ ε) {layout : ArtifactLayout} {data : Bytes} {texts : List String}
    (h : lines layout data = .ok texts) :
    (present layout data).run.run shell = (.ok (), reported shell data texts) := by
  rw [present, Action.run_bind, Shell.run_onConsole]
  dsimp only
  rw [h, Shell.run_onConsole, Console.printAll_eq]
  simp [reported, Console.print]

theorem shown_reported {echo : String → String} (hecho : Echoes echo) (shell : Shell σ ε) (data : Bytes)
    (texts : List String) :
    (reported shell data texts).console.shown echo =
      shell.console.shown echo ++ "id: " ++ (ObjectId.ofBytes data).text ++ "\n" ++ String.join (texts.map echo) := by
  have hid : '\x1b' ∉ ("id: " ++ (ObjectId.ofBytes data).text).toList := by
    simpa using (ObjectId.ofBytes data).escape_not_mem_text
  rw [reported, Console.shown_append, List.map_cons, String.join_cons, hecho _ hid]
  simp only [String.append_assoc]

theorem present_error (shell : Shell σ ε) {layout : ArtifactLayout} {data : Bytes} {error : FormatError}
    (h : lines layout data = .error error) :
    ∃ after, (present layout data).run.run shell = (.error .failed, after) := by
  rw [present, Action.run_bind, Shell.run_onConsole]
  dsimp only
  rw [h, Action.run_bind, Shell.run_log]
  exact ⟨_, rfl⟩

end Inspect

namespace CommandLine

variable {σ ε α β : Type}

section Words

variable {understand : List String → Option Command} (host : Host α β) (steps : List WatchStep)
  (conversions : Shell α β → Nat) {words : List String} {shell : Shell α β} {file : String} {layout : ArtifactLayout}
  {data : Bytes}

theorem run_inspect_ok (hwords : understand words = some (.inspect file layout))
    (hfile : shell.files.read host.workingDirectory (Path.tidy file) = .ok data) {texts : List String}
    (hlines : Inspect.lines layout data = .ok texts) :
    run understand host steps conversions words shell =
      { ending := .success, shell := Inspect.reported shell data texts } := by
  rw [run, hwords]
  dsimp only
  rw [Inspect.run_of_read host hfile, Inspect.present_ok shell hlines]
  rfl

theorem run_inspect_error (hwords : understand words = some (.inspect file layout))
    (hfile : shell.files.read host.workingDirectory (Path.tidy file) = .ok data) {error : FormatError}
    (hlines : Inspect.lines layout data = .error error) :
    (run understand host steps conversions words shell).ending.exitCode = 1 := by
  obtain ⟨after, hpresent⟩ := Inspect.present_error shell hlines
  rw [run, hwords]
  dsimp only
  rw [Inspect.run_of_read host hfile, hpresent]
  rfl

end Words

/-- A command has succeeded and has given out an id and then some texts, which are shown as `stream`. -/
structure Outcome.Reports (echo : String → String) (shell : Shell α β) (id : ObjectId) (texts : List String)
    (stream : String) (outcome : Outcome α β) : Prop where
  ending : outcome.ending = .success
  output : outcome.shell.console.output = shell.console.output ++ ("id: " ++ id.text) :: texts
  shown : outcome.shell.console.shown echo = shell.console.shown echo ++ "id: " ++ id.text ++ "\n" ++ stream

theorem Outcome.Reports.output_eq {echo : String → String} {shell : Shell α β} {id : ObjectId}
    {texts texts' : List String} {stream : String} {outcome : Outcome α β}
    (h : Reports echo shell id texts stream outcome) (hnone : shell.console.output = []) (htexts : texts = texts') :
    outcome.shell.console.output = ("id: " ++ id.text) :: texts' := by
  rw [h.output, hnone, htexts, List.nil_append]

theorem Outcome.reports_reported {echo : String → String} (hecho : Echoes echo) (shell : Shell α β)
    {artifact : Artifact} (hid : artifact.id = ObjectId.ofBytes artifact.data) (texts : List String) :
    Reports echo shell artifact.id texts (String.join (texts.map echo))
      { ending := .success, shell := Inspect.reported shell artifact.data texts } where
  ending := rfl
  output := by
    rw [hid]
    rfl
  shown := by
    rw [hid]
    exact Inspect.shown_reported hecho shell artifact.data texts

/-- An artifact is shown for what it is. ES variants are recognised, and each slot is shown with the variant that was
built for it. A desktop program is recognised unless it begins with a flag byte, which no program does that the
optimizer left as it is, and it cannot be read as ES variants. Texts are given out with a question mark for every
character outside ASCII. -/
theorem inspect_compiled (compiler : Compiler σ ε) (request : Request) {session after : Session σ ε}
    {result : CompileResult} {artifact : Artifact} (h : compiler.compile request session = (.ok result, after))
    (hartifact : result.artifact = some artifact) (understand : List String → Option Command) (host : Host α β)
    (steps : List WatchStep) (conversions : Shell α β → Nat) {shell : Shell α β} {file : String}
    (hfile : shell.files.read host.workingDirectory (Path.tidy file) = .ok artifact.data) {echo : String → String}
    (hecho : Echoes echo) :
    (request.tier.constrained = true →
      (∃ variants, DualVariants.decode artifact.data = .ok variants) ∧
      result.variants = (result.variantFor? .es2).toList ++ (result.variantFor? .es3).toList ∧
      ∀ words, understand words = some (.inspect file .detect) →
        Outcome.Reports echo shell artifact.id
          (Inspect.slotReport "legacy" (result.variantFor? .es2) ++
            Inspect.slotReport "modern" (result.variantFor? .es3))
          (Inspect.slotShown echo "legacy" (result.variantFor? .es2) ++
            Inspect.slotShown echo "modern" (result.variantFor? .es3))
          (run understand host steps conversions words shell)) ∧
    (request.tier.constrained = false → ∃ variant, result.variants = [variant] ∧
      (compiler.engine = none ∨ (∃ d ∈ result.diagnostics, d.kind = .optimizationSkipped) →
        ¬ BeginsWithFlag variant.text) ∧
      (¬ BeginsWithFlag variant.text →
        (¬ ∃ variants, DualVariants.decode artifact.data = .ok variants) ∧
        (∀ words, understand words = some (.inspect file .detect) →
          Outcome.Reports echo shell artifact.id
            ["// single: " ++ toString artifact.data.length ++ " bytes", asciiText variant.text]
            ("// single: " ++ toString artifact.data.length ++ " bytes\n" ++ echo (asciiText variant.text))
            (run understand host steps conversions words shell)) ∧
        ∀ words, understand words = some (.inspect file .dual) →
          (run understand host steps conversions words shell).ending.exitCode = 1)) := by
  have hreports := Outcome.reports_reported hecho shell (compiler.compile_id request h hartifact)
  constructor
  · intro hes
    obtain ⟨hvariants, hdecode⟩ := compiler.compile_dual request h hartifact hes
    refine ⟨⟨_, hdecode⟩, hvariants, ?_⟩
    intro words hwords
    rw [run_inspect_ok host steps conversions hwords hfile (Inspect.lines_detect_ok hdecode), Inspect.dualLines,
      Inspect.slotLines_eq, Inspect.slotLines_eq, ← Inspect.shown_slotReport hecho (by decide),
      ← Inspect.shown_slotReport hecho (by decide), ← String.join_append, ← List.map_append]
    exact hreports _
  · intro hdesktop
    obtain ⟨variant, hvariants, htier, hdata⟩ := compiler.compile_single request h hartifact hdesktop
    refine ⟨variant, hvariants, ?_, ?_⟩
    · intro hkept
      obtain ⟨stage, body, htext⟩ := compiler.compile_unoptimized request h hartifact hdesktop hvariants hkept
      rw [BeginsWithFlag, htext, Preamble.compose_desktop htier]
      decide
    · intro hflag
      obtain ⟨error, hdecode⟩ := DualVariants.decode_ofText hflag
      rw [← hdata] at hdecode
      refine ⟨?_, ?_, ?_⟩
      · rintro ⟨variants, hvariants⟩
        rw [hdecode] at hvariants
        cases hvariants
      · intro words hwords
        have htext : Bytes.toText artifact.data = asciiText variant.text := by rw [hdata, Bytes.toText_ofText]
        have hlabel : "// single: " = "// " ++ "single" ++ ": " := by decide
        rw [run_inspect_ok host steps conversions hwords hfile (Inspect.lines_detect_error hdecode),
          Inspect.singleLines, htext, hlabel, ← Inspect.shown_size hecho (by decide)]
        exact hreports _
      · intro words hwords
        exact run_inspect_error host steps conversions hwords hfile (Inspect.lines_dual_error hdecode)

/-- A desktop program and an ES program, each with a name outside ASCII. -/
theorem inspect_compiled_accented :
    let compiler : Compiler Unit Unit :=
      ⟨⟨fun _ s => (.result (some [.global ⟨"é", ⟨"float", none⟩, [], {}, none⟩]) [], s), fun _ s => s⟩, none⟩
    let compiled (platform : Platform) : Except Escape CompileResult :=
      (compiler.compile ⟨"", some "main", .vertex, platform, .level100, 1, none⟩ ⟨(), (), [], [], [], []⟩).1
    let host : Host Unit Unit := ⟨"/", "2024-01-01T00:00:00+00:00", compiler.converter, none⟩
    let shell (data : Bytes) : Shell Unit Unit := ⟨⟨[], [(["a.bin"], data)]⟩, {}, ⟨(), (), [], [], [], []⟩, {}⟩
    ∃ single dual : Artifact,
      (compiled .opengl).map CompileResult.artifact = .ok (some single) ∧
      (run Command.parse host [] (fun _ => 0) ["inspect", "a.bin"] (shell single.data)).shell.console.output =
        ["id: " ++ single.id.text, "// single: 23 bytes", "#version 420\n\nfloat ?;\n"] ∧
      (run Command.parse host [] (fun _ => 0) ["inspect", "--dual", "a.bin"] (shell single.data)).ending.exitCode = 1 ∧
      (compiled .opengles).map CompileResult.artifact = .ok (some dual) ∧
      (run Command.parse host [] (fun _ => 0) ["inspect", "a.bin"] (shell dual.data)).shell.console.output =
        ["id: " ++ dual.id.text, "// legacy: absent", "// modern: 66 bytes",
          "#version 300 es\n\n#extension GL_ARB_gpu_shader5 : enable\n\nfloat ?;\n"] := by
  intro compiler compiled host shell
  let desktop : Request := ⟨"", some "main", .vertex, .opengl, .level100, 1, none⟩
  let es : Request := ⟨"", some "main", .vertex, .opengles, .level100, 1, none⟩
  let start : Session Unit Unit := ⟨(), (), [], [], [], []⟩
  let accented := "#version 420\n\nfloat é;\n"
  let single : Artifact := .ofBytes (Bytes.ofText accented) .vertex
  have hread : ∀ data, (shell data).files.read "/" (Path.tidy "a.bin") = .ok data := fun _ => rfl
  have hecho : Echoes (· ++ "\n") := fun _ _ => rfl
  have hsingle : compiler.compile desktop start = (.ok ⟨some single, [], [⟨accented, .vertex, .desktop⟩]⟩, _) := rfl
  let modern : Variant :=
    ⟨"#version 300 es\n\n#extension GL_ARB_gpu_shader5 : enable\n\nfloat é;\n", .vertex, .es3⟩
  have hrun : (Plan.ofTier es.tier).run (fun _ tier => compiler.build es tier) start =
    (.complete _, ⟨(), (), _, [], [], [modern]⟩) := rfl
  obtain ⟨dual, hdual⟩ := @Compiler.exists_compile_of_fits _ _ compiler es start _ _ hrun (by decide)
  obtain ⟨variant, hvariants, hkept, hshown⟩ :=
    (inspect_compiled compiler desktop hsingle rfl Command.parse host [] (fun _ => 0) (hread _) hecho).2 rfl
  obtain rfl := List.singleton_injective hvariants
  obtain ⟨-, hdetect, hforced⟩ := hshown (hkept (.inl rfl))
  obtain ⟨-, -, hslots⟩ :=
    (inspect_compiled compiler es hdual rfl Command.parse host [] (fun _ => 0) (hread _) hecho).1 rfl
  refine ⟨single, dual, congrArg (fun r => r.1.map CompileResult.artifact) hsingle, ?_, hforced _ rfl,
    congrArg (fun r => r.1.map CompileResult.artifact) hdual, ?_⟩
  · exact (hdetect _ rfl).output_eq rfl (by decide +kernel)
  · refine (hslots _ rfl).output_eq rfl ?_
    change Inspect.slotReport "legacy" none ++ Inspect.slotReport "modern" (some modern) = _
    decide +kernel

end CommandLine

end GlslCompiler
