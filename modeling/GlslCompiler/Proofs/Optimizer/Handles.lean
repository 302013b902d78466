import GlslCompiler.Optimizer.Playback
import GlslCompiler.Proofs.Optimizer.Loading

/-!
# The handles of the optimizer library

A use of the bridge passes contexts and shaders back to the library that gave them. Each handle that it passes has been
given in the same use and has not been released since. A null context is never passed, and a null shader is never
deleted; but its status is asked for, and its output too if the status is good. So all handles are valid just if the
library makes no null shader.
-/

namespace GlslCompiler

/-! ### Handles in use -/

namespace HostCall

/-- The context that is passed to the library. -/
def context? : HostCall → Option Handle
  | .optimize _ context _ _ _ _ => some context
  | .cleanup _ context => some context
  | _ => none

/-- The shader that is passed to the library. -/
def shader? : HostCall → Option Handle
  | .status _ shader _ => some shader
  | .output _ shader _ => some shader
  | .deleteShader _ shader => some shader
  | _ => none

/-- The shader that the library makes. -/
def madeShader? : HostCall → Option Handle
  | .optimize _ _ _ _ _ answer => some answer
  | _ => none

def deletedShader? : HostCall → Option Handle
  | .deleteShader _ shader => some shader
  | _ => none

end HostCall

/-- The handles that a library has given and that have not been released. -/
structure LiveHandles where
  contexts : List Handle := []
  shaders : List Handle := []

namespace LiveHandles

def after (live : LiveHandles) : HostCall → LiveHandles
  | .createContext _ _ answer => { live with contexts := answer :: live.contexts }
  | .optimize _ _ _ _ _ answer => { live with shaders := answer :: live.shaders }
  | .deleteShader _ shader => { live with shaders := live.shaders.erase shader }
  | .cleanup _ context => { live with contexts := live.contexts.erase context }
  | _ => live

/-- The handles that the calls pass are live when they are passed. -/
def Cover : LiveHandles → List HostCall → Prop
  | _, [] => True
  | live, call :: rest =>
    (∀ context ∈ call.context?, context ∈ live.contexts) ∧ (∀ shader ∈ call.shader?, shader ∈ live.shaders) ∧
      (live.after call).Cover rest

end LiveHandles

/-- What the bridge asks of the library, as far as it concerns the library. -/
def BridgeEvent.library? : BridgeEvent → Option LibraryEvent
  | .library event => some event
  | _ => none

namespace Native

open Conversation

/-! ### The calls of a conversation -/

/-- A conversation with the engine and all that it asks of the host. -/
inductive Conversing (path : Option String) :
    Option Library → List Exchange → List HostCall → Option Library → Prop where
  | nil (loaded : Option Library) : Conversing path loaded [] [] loaded
  | cons {loaded loaded' loaded'' : Option Library} {x : Exchange} {xs : List Exchange} {calls more : List HostCall}
      (h : Moves path loaded ⟨x, calls⟩ loaded') (hrest : Conversing path loaded' xs more loaded'') :
      Conversing path loaded (x :: xs) (calls ++ more) loaded''

variable {η : Type} {host : NativeHost η} {path : Option String} {library : Library}

theorem filterMap_library_map (events : List LibraryEvent) :
    (events.map BridgeEvent.library).filterMap BridgeEvent.library? = events := by
  rw [List.filterMap_map]
  exact List.filterMap_some

theorem has_conversing {s s' : State η} {xs : List Exchange} {events : List BridgeEvent}
    (h : (engine host path).Has s xs events s') :
    ∃ calls, Conversing path s.library xs calls s'.library ∧ host.Makes s.host calls s'.host ∧
      events.filterMap BridgeEvent.library? = calls.filterMap HostCall.event? := by
  induction h with
  | nil s => exact ⟨[], .nil s.library, .nil s.host, rfl⟩
  | @cons s s' s'' x xs asked events hhappens _ ih =>
    obtain ⟨calls, rfl, hmakes, hmoves⟩ := happens_moves hhappens
    obtain ⟨more, hconversing, hmore, hevents⟩ := ih
    refine ⟨calls ++ more, .cons hmoves hconversing, hmakes.append hmore, ?_⟩
    change ((calls.filterMap HostCall.event?).map BridgeEvent.library ++ events).filterMap BridgeEvent.library? = _
    rw [List.filterMap_append, filterMap_library_map, hevents, List.filterMap_append]

theorem Conversing.split {loaded loaded' : Option Library} {xs ys : List Exchange} {calls : List HostCall}
    (h : Conversing path loaded (xs ++ ys) calls loaded') :
    ∃ between first second, calls = first ++ second ∧ Conversing path loaded xs first between ∧
      Conversing path between ys second loaded' := by
  induction xs generalizing loaded calls with
  | nil => exact ⟨loaded, [], calls, rfl, .nil loaded, h⟩
  | cons x xs ih =>
    cases h with
    | cons hmoves hrest =>
      obtain ⟨between, first, second, rfl, hfirst, hsecond⟩ := ih hrest
      exact ⟨between, _, second, (List.append_assoc ..).symm, .cons hmoves hfirst, hsecond⟩

/-- Once the library is loaded, a call that needs it is one call of it. -/
theorem Moves.asks {step : Step} {loaded : Option Library} (h : Moves path (some library) step loaded)
    (hneeds : step.exchange.needsLibrary = true) :
    loaded = some library ∧ ∃ call, step.exchange.Asks library call ∧ step.calls = [call] := by
  cases h with
  | idle hidle =>
    rw [hidle.1] at hneeds
    cases hneeds
  | calls hcalls => exact ⟨rfl, hcalls⟩

/-- Reading the output of a shader. -/
theorem reading_calls {shader : Handle} {xs : List Exchange} {calls : List HostCall} {loaded : Option Library}
    (hxs : Reading shader xs) (h : Conversing path (some library) xs calls loaded) :
    loaded = some library ∧ (calls = [.status library shader false] ∨
      ∃ output, calls = [.status library shader true, .output library shader output]) := by
  cases hxs with
  | raised fault =>
    cases h with
    | cons hmoves _ =>
      obtain ⟨-, call, hasks, -⟩ := hmoves.asks rfl
      cases hasks
  | bad =>
    cases h with
    | cons hmoves hrest =>
      obtain ⟨rfl, call, hasks, rfl⟩ := hmoves.asks rfl
      cases hasks
      cases hrest
      exact ⟨rfl, .inl rfl⟩
  | good answer =>
    cases h with
    | cons hmoves hrest =>
      obtain ⟨rfl, call, hasks, rfl⟩ := hmoves.asks rfl
      cases hasks
      cases hrest with
      | cons hmoves hrest =>
        obtain ⟨rfl, call, hasks, rfl⟩ := hmoves.asks rfl
        cases hasks
        cases hrest
        exact ⟨rfl, .inr ⟨_, rfl⟩⟩

/-- The deletion of a shader at the end of its use. -/
def deletion (library : Library) (shader : Handle) : List HostCall :=
  if shader.isNull then [] else [.deleteShader library shader]

theorem deletion_calls {shader : Handle} {answer : Except Fault Unit} {calls : List HostCall} {loaded : Option Library}
    (h : Conversing path (some library) [.deleteShader shader answer] calls loaded) :
    loaded = some library ∧ calls = deletion library shader := by
  cases h with
  | cons hmoves hrest =>
    cases hrest
    cases hmoves with
    | idle hidle =>
      obtain ⟨hneeds, -, rfl⟩ := hidle
      have hnull : shader.isNull = true := by simpa [Exchange.needsLibrary] using hneeds
      exact ⟨rfl, by simp [deletion, hnull]⟩
    | calls hcalls =>
      obtain ⟨call, hasks, rfl⟩ := hcalls
      cases hasks with
      | deleteShader hnull => exact ⟨rfl, by simp [deletion, hnull]⟩

/-- What is asked of a library within a context: a shader is made, read, and deleted unless it is null. -/
inductive Shading (library : Library) (context : Handle) : List HostCall → Prop where
  | made {shaderType options : Int} {source : Bytes} {shader : Handle} {reading : List HostCall}
      (h : reading = [.status library shader false] ∨
        ∃ output, reading = [.status library shader true, .output library shader output]) :
      Shading library context
        (.optimize library context shaderType source options shader :: (reading ++ deletion library shader))

theorem shading_calls {job : OptimizerJob} {context : Handle} {xs : List Exchange} {calls : List HostCall}
    {loaded : Option Library} (hxs : Conversation.Shading job context xs)
    (h : Conversing path (some library) xs calls loaded) :
    loaded = some library ∧ Shading library context calls := by
  cases hxs with
  | raised fault =>
    cases h with
    | cons hmoves _ =>
      obtain ⟨-, call, hasks, -⟩ := hmoves.asks rfl
      cases hasks
  | made shader hreading answer =>
    cases h with
    | cons hmoves hrest =>
      obtain ⟨rfl, call, hasks, rfl⟩ := hmoves.asks rfl
      cases hasks
      obtain ⟨between, reading, deleted, rfl, hread, hdelete⟩ := hrest.split
      obtain ⟨rfl, hcalls⟩ := reading_calls hreading hread
      obtain ⟨rfl, rfl⟩ := deletion_calls hdelete
      exact ⟨rfl, .made hcalls⟩

/-- Calls of the loader only. -/
def Loading (calls : List HostCall) : Prop := ∀ call ∈ calls, call.isLoader = true

/-- What a use of the bridge asks of the host: it loads the library if need be, and unless that fails or there is no
context, makes a shader in the context and cleans the context up. -/
inductive Usage : List HostCall → Prop where
  | unavailable {calls : List HostCall} (h : Loading calls) : Usage calls
  | noContext {before : List HostCall} {library : Library} {target : Int} {context : Handle} (h : Loading before) :
      Usage (before ++ [.createContext library target context])
  | opened {before : List HostCall} {library : Library} {target : Int} {context : Handle} {shading : List HostCall}
      (h : Loading before) (hcontext : context.isNull = false) (hshading : Shading library context shading) :
      Usage (before ++ .createContext library target context :: (shading ++ [.cleanup library context]))

/-- A call that was answered by a function of the library. -/
theorem Moves.exists_asks {step : Step} {loaded loaded' : Option Library} (h : Moves path loaded step loaded')
    (hneeds : step.exchange.needsLibrary = true) :
    (step.exchange.fault? ≠ none ∧ Loading step.calls) ∨
    ∃ (before : List HostCall) (library : Library) (call : HostCall), Loading before ∧ loaded' = some library ∧
      step.exchange.Asks library call ∧ step.calls = before ++ [call] := by
  cases h with
  | idle hidle =>
    rw [hidle.1] at hneeds
    cases hneeds
  | failed hfailed =>
    obtain ⟨-, fault, hattempt, hfault⟩ := hfailed
    exact .inl ⟨by simp [hfault], hattempt.isLoader⟩
  | loads hloads =>
    obtain ⟨before, call, hattempt, hasks, hcalls⟩ := hloads
    exact .inr ⟨before, _, call, hattempt.isLoader, rfl, hasks, hcalls⟩
  | calls hcalls =>
    obtain ⟨call, hasks, hcalls⟩ := hcalls
    exact .inr ⟨[], _, call, by simp [Loading], rfl, hasks, hcalls⟩

theorem conversation_calls {job : OptimizerJob} {xs : List Exchange} {calls : List HostCall}
    {loaded loaded' : Option Library} (hxs : Conversation job xs) (h : Conversing path loaded xs calls loaded') :
    Usage calls := by
  cases hxs with
  | raised fault =>
    cases h with
    | cons hmoves hrest =>
      cases hrest
      rw [List.append_nil]
      rcases hmoves.exists_asks rfl with ⟨-, hloading⟩ | ⟨before, library, call, hloading, rfl, hasks, rfl⟩
      · exact .unavailable hloading
      · cases hasks
        exact .noContext hloading
  | opened context hshading answer =>
    cases h with
    | cons hmoves hrest =>
      rcases hmoves.exists_asks rfl with ⟨hfault, -⟩ | ⟨before, library, call, hloading, rfl, hasks, rfl⟩
      · exact absurd rfl hfault
      · obtain ⟨between, shading, closing, rfl, hwithin, hclose⟩ := hrest.split
        obtain ⟨rfl, hcalls⟩ := shading_calls hshading hwithin
        cases hclose with
        | cons hcleanup hnone =>
          obtain ⟨-, closed, hcloses, rfl⟩ := hcleanup.asks rfl
          cases hcloses
          cases hnone
          cases hasks with
          | createContext hcontext =>
            rw [List.append_assoc]
            exact .opened hloading hcontext hcalls

/-! ### Valid handles -/

/-- The handles that are passed are live. Contexts and deleted shaders are not null, and the shaders that are passed are
those that were made. -/
structure HandlesPassed (calls : List HostCall) : Prop where
  live : LiveHandles.Cover {} calls
  contexts : ∀ context ∈ calls.filterMap HostCall.context?, context.isNull = false
  deleted : ∀ shader ∈ calls.filterMap HostCall.deletedShader?, shader.isNull = false
  shaders : ∀ shader, shader ∈ calls.filterMap HostCall.shader? ↔ shader ∈ calls.filterMap HostCall.madeShader?

/-- The loader gives no handles and takes none. -/
theorem HandlesPassed.after_loading {before rest : List HostCall} (hbefore : Loading before) (h : HandlesPassed rest) :
    HandlesPassed (before ++ rest) := by
  induction before with
  | nil => exact h
  | cons call before ih =>
    obtain ⟨hloader, hbefore⟩ := List.forall_mem_cons.1 hbefore
    obtain ⟨hlive, hcontexts, hdeleted, hshaders⟩ := ih hbefore
    have hcover : LiveHandles.Cover {} (call :: (before ++ rest)) := by
      cases call with
      | findLibrary | load | lookUp => exact ⟨by simp [HostCall.context?], by simp [HostCall.shader?], hlive⟩
      | _ => cases hloader
    cases call with
    | findLibrary | load | lookUp => exact ⟨hcover, hcontexts, hdeleted, hshaders⟩
    | _ => cases hloader

theorem Shading.handlesPassed {context : Handle} {shading : List HostCall} (h : Shading library context shading)
    (hcontext : context.isNull = false) (target : Int) :
    HandlesPassed (.createContext library target context :: (shading ++ [.cleanup library context])) := by
  cases h with
  | @made shaderType options source shader reading hreading =>
    by_cases hnull : shader.isNull = true <;> rcases hreading with rfl | ⟨output, rfl⟩
    all_goals
      constructor <;>
        simp [deletion, hnull, hcontext, LiveHandles.Cover, LiveHandles.after, HostCall.context?, HostCall.shader?,
          HostCall.deletedShader?, HostCall.madeShader?]

theorem Usage.handlesPassed {calls : List HostCall} (h : Usage calls) : HandlesPassed calls := by
  cases h with
  | unavailable hloading =>
    have hnone : HandlesPassed [] := ⟨trivial, by simp, by simp, by simp⟩
    have hpassed := hnone.after_loading hloading
    rwa [List.append_nil] at hpassed
  | noContext hloading =>
    refine .after_loading hloading ?_
    constructor <;>
      simp [LiveHandles.Cover, HostCall.context?, HostCall.shader?, HostCall.deletedShader?, HostCall.madeShader?]
  | opened hloading hcontext hshading => exact .after_loading hloading (hshading.handlesPassed hcontext _)

/-- Every handle that a use of the bridge passes was given in this use and has not been released. Contexts and deleted
shaders are not null; the other shaders are not null just if the library makes no null shader. -/
theorem optimize_handles (host : NativeHost η) (path : Option String) (job : OptimizerJob)
    (run : Bridge.Run (State η)) :
    ∃ calls events s, (Bridge.optimize (engine host path) job run).2 = ⟨s, run.events ++ events⟩ ∧
      events.filterMap BridgeEvent.library? = calls.filterMap HostCall.event? ∧ host.Makes run.state.host calls s.host ∧
      LiveHandles.Cover {} calls ∧
      (∀ context ∈ calls.filterMap HostCall.context?, context.isNull = false) ∧
      (∀ shader ∈ calls.filterMap HostCall.deletedShader?, shader.isNull = false) ∧
      ((∀ shader ∈ calls.filterMap HostCall.shader?, shader.isNull = false) ↔
        ∀ shader ∈ calls.filterMap HostCall.madeShader?, shader.isNull = false) := by
  obtain ⟨xs, events, s, hxs, hhas, hrun⟩ := Bridge.optimize_converses (engine host path) job run
  obtain ⟨calls, hconversing, hmakes, hevents⟩ := has_conversing hhas
  obtain ⟨hlive, hcontexts, hdeleted, hshaders⟩ := (conversation_calls hxs hconversing).handlesPassed
  refine ⟨calls, .acquire :: (events ++ [.release]), s, by rw [hrun], ?_, hmakes, hlive, hcontexts, hdeleted, ?_⟩
  · change (events ++ [BridgeEvent.release]).filterMap BridgeEvent.library? = _
    rw [List.filterMap_append, hevents]
    exact List.append_nil _
  · simp only [hshaders]

/-- A library that makes a null shader is asked for the status and the output of it. -/
theorem null_shader_read :
    let host := FixedHost.host { shader := none }
    let run := (Bridge.optimize (engine host (some "lib.so")) ⟨"x", .desktop, .pixel⟩ ⟨{ host := () }, []⟩).2
    run.events.filterMap BridgeEvent.library? =
        [.load "lib.so", .createContext 0, .optimize (some 11) 1 (Bytes.ofText "x") 0, .status none,
          .output none, .cleanup (some 11)]
      ∧ Handle.isNull none = true :=
  ⟨rfl, rfl⟩

end Native

end GlslCompiler
