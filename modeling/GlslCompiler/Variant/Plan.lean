import GlslCompiler.Artifact.Basic
import GlslCompiler.Tier

/-!
# Variant plans

How many variants a request needs. A desktop request needs one; a modern ES request needs the modern
variant; a legacy ES request needs the legacy variant and then a modern one. ES variants are always
packed together, an absent one leaving its slot empty. A plan is run pass by pass and stops at the first
pass that fails.
-/

namespace GlslCompiler

/-- Where a variant goes in the artifact. -/
inductive Slot where
  | single
  | legacy
  | modern
  deriving DecidableEq

/-- One variant to build. -/
structure Pass where
  slot : Slot
  tier : Tier
  deriving DecidableEq

/-- The passes of a request, in order, and whether their results are packed together. -/
structure Plan where
  passes : List Pass
  dual : Bool
  deriving DecidableEq

/-- How far a plan has been run. -/
inductive Progress where
  | start
  | convertPrimary
  | convertSecondary
  | packaged
  | failed
  deriving DecidableEq

/-- How building one variant ends: with its text, with an error on record, or with a fault that leaves
the whole compilation. -/
inductive Attempt (φ : Type) where
  | built (text : String)
  | failed
  | escaped (fault : φ)

/-- The texts of a completed plan, by slot. -/
abbrev SlotTexts := List (Slot × String)

/-- How running a plan ends. -/
inductive PlanResult (φ : Type) where
  | complete (texts : SlotTexts)
  | failed
  | escaped (fault : φ)

namespace Plan

/-- The plan of a tier. -/
def ofTier (tier : Tier) : Plan :=
  if tier.constrained then
    if tier.modern then ⟨[⟨.modern, tier⟩], true⟩
    else ⟨[⟨.legacy, tier⟩, ⟨.modern, .es3⟩], true⟩
  else ⟨[⟨.single, tier⟩], false⟩

/-- Runs the remaining passes. `build` is told how far the plan has come. -/
def runFrom {φ σ : Type} (build : Progress → Tier → σ → Attempt φ × σ) :
    Progress → List Pass → SlotTexts → σ → PlanResult φ × σ
  | _, [], texts, s => (.complete texts, s)
  | progress, pass :: rest, texts, s =>
    match build progress pass.tier s with
    | (.built text, s) => runFrom build .convertSecondary rest (texts ++ [(pass.slot, text)]) s
    | (.failed, s) => (.failed, s)
    | (.escaped fault, s) => (.escaped fault, s)

/-- Runs every pass, stopping at the first that fails. -/
def run {φ σ : Type} (plan : Plan) (build : Progress → Tier → σ → Attempt φ × σ) (s : σ) :
    PlanResult φ × σ :=
  runFrom build .convertPrimary plan.passes [] s

end Plan

/-- How far a plan has come when its run has ended. -/
def PlanResult.progress {φ : Type} : PlanResult φ → Progress
  | .complete _ => .packaged
  | .failed => .failed
  | .escaped _ => .failed

namespace SlotTexts

def get? (texts : SlotTexts) (slot : Slot) : Option String := texts.lookup slot

/-- The variants of an ES artifact. -/
def dualVariants (texts : SlotTexts) : DualVariants := ⟨texts.get? .legacy, texts.get? .modern⟩

/-- The text of the desktop variant. -/
def singleText (texts : SlotTexts) : String := (texts.get? .single).getD ""

end SlotTexts

end GlslCompiler
