import GlslCompiler.Optimizer.Native
import GlslCompiler.Proofs.Optimizer.Protocol

/-!
# Loading the optimizer library

Every call on the native engine needs the library, but for the deletion of a null shader. An attempt to get it finds
the path, loads the library and looks up its functions, and may fail at each of these. `Moves` says what a call does as
the library is or is not there: it makes one attempt, or one call of one of the library's functions, or both. Which of
these it is depends on nothing but whether there has been an attempt that succeeded, so that over any number of calls
there are failed attempts first, then one that succeeds, and from there on only functions of the library that it gave.

A library that was loaded but lacks a function is not kept. Each call then loads it again, and fails in a way that does
not say that there is no optimizer.
-/

namespace GlslCompiler

/-! ### What is asked of the host -/

/-- A call of the loader or of a function of a loaded library, with the answer. -/
inductive HostCall where
  | findLibrary (name : String) (answer : Option String)
  | load (path : String) (answer : Except LibraryFailure Library)
  | lookUp (library : Library) (function : String) (answer : Except String Unit)
  | createContext (library : Library) (target : Int) (answer : Handle)
  | optimize (library : Library) (context : Handle) (shaderType : Int) (source : Bytes) (options : Int)
      (answer : Handle)
  | status (library : Library) (shader : Handle) (answer : Bool)
  | output (library : Library) (shader : Handle) (answer : Option Bytes)
  | deleteShader (library : Library) (shader : Handle)
  | cleanup (library : Library) (context : Handle)

namespace HostCall

/-- The event that is recorded of a call. Looking up a function leaves none. -/
def event? : HostCall → Option LibraryEvent
  | .findLibrary name _ => some (.findLibrary name)
  | .load path _ => some (.load path)
  | .lookUp _ _ _ => none
  | .createContext _ target _ => some (.createContext target)
  | .optimize _ context shaderType source options _ => some (.optimize context shaderType source options)
  | .status _ shader _ => some (.status shader)
  | .output _ shader _ => some (.output shader)
  | .deleteShader _ shader => some (.deleteShader shader)
  | .cleanup _ context => some (.cleanup context)

/-- Whether the loader is called, and not a function of a library. -/
def isLoader : HostCall → Bool
  | .findLibrary _ _ => true
  | .load _ _ => true
  | .lookUp _ _ _ => true
  | _ => false

/-- Whether the answer is a failure of another kind than that there is no library: a path that cannot be one, or a
library without one of its functions. -/
def isDefect : HostCall → Bool
  | .load _ (.error (.unusable _)) => true
  | .lookUp _ _ (.error _) => true
  | _ => false

/-- The host answers so in the state `h`, and is then in the state `h'`. -/
def Happens {η : Type} (host : NativeHost η) (h h' : η) : HostCall → Prop
  | .findLibrary name answer => host.findLibrary name h = (answer, h')
  | .load path answer => host.load path h = (answer, h')
  | .lookUp library function answer => host.lookUp library function h = (answer, h')
  | .createContext library target answer => host.createContext library target h = (answer, h')
  | .optimize library context shaderType source options answer =>
    host.optimize library context shaderType source options h = (answer, h')
  | .status library shader answer => host.status library shader h = (answer, h')
  | .output library shader answer => host.output library shader h = (answer, h')
  | .deleteShader library shader => host.deleteShader library shader h = h'
  | .cleanup library context => host.cleanup library context h = h'

end HostCall

/-- The host answers the calls one after the other. -/
inductive NativeHost.Makes {η : Type} (host : NativeHost η) : η → List HostCall → η → Prop where
  | nil (h : η) : Makes host h [] h
  | cons {h h' h'' : η} {call : HostCall} {calls : List HostCall} (hcall : call.Happens host h h')
      (hrest : Makes host h' calls h'') : Makes host h (call :: calls) h''

namespace NativeHost.Makes

variable {η : Type} {host : NativeHost η}

theorem single {h h' : η} {call : HostCall} (hcall : call.Happens host h h') : host.Makes h [call] h' :=
  .cons hcall (.nil h')

theorem append {h h' h'' : η} {calls more : List HostCall} (hcalls : host.Makes h calls h')
    (hmore : host.Makes h' more h'') : host.Makes h (calls ++ more) h'' := by
  induction hcalls with
  | nil h => exact hmore
  | cons hcall _ ih => exact .cons hcall (ih hmore)

theorem happens {h h' : η} {calls : List HostCall} (hcalls : host.Makes h calls h') :
    ∀ call ∈ calls, ∃ before after, call.Happens host before after := by
  induction hcalls with
  | nil => simp
  | cons hcall _ ih => exact List.forall_mem_cons.2 ⟨⟨_, _, hcall⟩, ih⟩

end NativeHost.Makes

/-! ### Attempts to load -/

namespace Native

/-- The functions that a library must have, in the order in which they are looked up. -/
def needed : List String :=
  ["glslopt_initialize", "glslopt_optimize", "glslopt_get_status", "glslopt_get_output", "glslopt_shader_delete",
    "glslopt_cleanup"]

/-- Finding the path: the loader is asked just if none is configured. -/
inductive Locates (configured : Option String) : List HostCall → Option String → Prop where
  | configured {path : String} (h : configured = some path) (hpath : path ≠ "") : Locates configured [] (some path)
  | found {path : String} (h : configured = none ∨ configured = some "") (hpath : path ≠ "") :
      Locates configured [.findLibrary "glsl_optimizer" (some path)] (some path)
  | nowhere {answer : Option String} (h : configured = none ∨ configured = some "")
      (hanswer : answer = none ∨ answer = some "") : Locates configured [.findLibrary "glsl_optimizer" answer] none

/-- Looking up functions: all of them are there, or the first that is missing ends it. -/
inductive SetsUp (library : Library) : List String → List HostCall → Except Fault Unit → Prop where
  | complete : SetsUp library [] [] (.ok ())
  | there {function : String} {rest : List String} {calls : List HostCall} {outcome : Except Fault Unit}
      (h : SetsUp library rest calls outcome) :
      SetsUp library (function :: rest) (.lookUp library function (.ok ()) :: calls) outcome
  | missing {function message : String} {rest : List String} :
      SetsUp library (function :: rest) [.lookUp library function (.error message)]
        (.error (.raised "AttributeError" message))

/-- An attempt to get the library, with what it asks of the host and what comes of it. -/
inductive Attempt (configured : Option String) : List HostCall → Except Fault Library → Prop where
  | noPath {calls : List HostCall} (h : Locates configured calls none) :
      Attempt configured calls (.error (.unavailable "Could not locate the glsl_optimizer library"))
  | refused {calls : List HostCall} {path message : String} (h : Locates configured calls (some path)) :
      Attempt configured (calls ++ [.load path (.error (.refused message))])
        (.error (.unavailable ("Failed to load " ++ path ++ ": " ++ message)))
  | unusable {calls : List HostCall} {path : String} {fault : Fault} (h : Locates configured calls (some path)) :
      Attempt configured (calls ++ [.load path (.error (.unusable fault))]) (.error fault)
  | incomplete {calls lookUps : List HostCall} {path : String} {library : Library} {fault : Fault}
      (h : Locates configured calls (some path)) (hlookUps : SetsUp library needed lookUps (.error fault)) :
      Attempt configured (calls ++ .load path (.ok library) :: lookUps) (.error fault)
  | complete {calls lookUps : List HostCall} {path : String} {library : Library}
      (h : Locates configured calls (some path)) (hlookUps : SetsUp library needed lookUps (.ok ())) :
      Attempt configured (calls ++ .load path (.ok library) :: lookUps) (.ok library)

theorem Locates.isLoader {configured path : Option String} {calls : List HostCall}
    (h : Locates configured calls path) : ∀ call ∈ calls, call.isLoader = true := by
  cases h <;> simp [HostCall.isLoader]

theorem SetsUp.isLoader {library : Library} {functions : List String} {calls : List HostCall}
    {outcome : Except Fault Unit} (h : SetsUp library functions calls outcome) :
    ∀ call ∈ calls, call.isLoader = true := by
  induction h with
  | complete => simp
  | there _ ih => exact List.forall_mem_cons.2 ⟨rfl, ih⟩
  | missing => simp [HostCall.isLoader]

/-- An attempt calls no function of a library. -/
theorem Attempt.isLoader {configured : Option String} {calls : List HostCall} {outcome : Except Fault Library}
    (h : Attempt configured calls outcome) : ∀ call ∈ calls, call.isLoader = true := by
  cases h with
  | noPath h => exact h.isLoader
  | refused h => exact List.forall_mem_append.2 ⟨h.isLoader, by simp [HostCall.isLoader]⟩
  | unusable h => exact List.forall_mem_append.2 ⟨h.isLoader, by simp [HostCall.isLoader]⟩
  | incomplete h hlookUps =>
    exact List.forall_mem_append.2 ⟨h.isLoader, List.forall_mem_cons.2 ⟨rfl, hlookUps.isLoader⟩⟩
  | complete h hlookUps =>
    exact List.forall_mem_append.2 ⟨h.isLoader, List.forall_mem_cons.2 ⟨rfl, hlookUps.isLoader⟩⟩

theorem SetsUp.exists_missing {library : Library} {functions : List String} {calls : List HostCall} {fault : Fault}
    (h : SetsUp library functions calls (.error fault)) :
    ∃ function message, HostCall.lookUp library function (.error message) ∈ calls ∧
      fault = .raised "AttributeError" message := by
  generalize houtcome : Except.error fault = outcome at h
  induction h with
  | complete => cases houtcome
  | there _ ih =>
    obtain ⟨function, message, hmem, hfault⟩ := ih houtcome
    exact ⟨function, message, List.mem_cons_of_mem _ hmem, hfault⟩
  | missing =>
    cases houtcome
    exact ⟨_, _, List.mem_singleton_self _, rfl⟩

theorem Locates.not_load {configured located : Option String} {calls : List HostCall}
    (h : Locates configured calls located) (path : String) (answer : Except LibraryFailure Library) :
    HostCall.load path answer ∉ calls := by
  cases h <;> simp

/-- Without a defect, an attempt that fails says that there is no optimizer, and has loaded nothing. -/
theorem Attempt.unavailable {configured : Option String} {calls : List HostCall} {fault : Fault}
    (h : Attempt configured calls (.error fault)) (hsound : ∀ call ∈ calls, call.isDefect = false) :
    (∃ message, fault = .unavailable message) ∧ ∀ path library, HostCall.load path (.ok library) ∉ calls := by
  cases h with
  | noPath h => exact ⟨⟨_, rfl⟩, fun path library => h.not_load path _⟩
  | refused h =>
    refine ⟨⟨_, rfl⟩, fun path library hmem => ?_⟩
    rcases List.mem_append.1 hmem with hmem | hmem
    · exact h.not_load path _ hmem
    · simp at hmem
  | unusable h => exact absurd (hsound _ (List.mem_append_right _ List.mem_cons_self)) Bool.true_eq_false.mp
  | incomplete h hlookUps =>
    obtain ⟨function, message, hmem, -⟩ := hlookUps.exists_missing
    exact absurd (hsound _ (List.mem_append_right _ (List.mem_cons_of_mem _ hmem))) Bool.true_eq_false.mp

end Native

/-! ### One call on the engine -/

namespace Exchange

/-- Only the deletion of a null shader can do without the library. -/
def needsLibrary : Exchange → Bool
  | .deleteShader shader _ => !shader.isNull
  | _ => true

/-- The call is answered by one function of the library. -/
inductive Asks (library : Library) : Exchange → HostCall → Prop where
  | createContext {target : Int} {context : Handle} (h : context.isNull = false) :
      Asks library (.createContext target (.ok context)) (.createContext library target context)
  | noContext {target : Int} {context : Handle} (h : context.isNull = true) :
      Asks library
        (.createContext target
          (.error (.unavailable ("glslopt_initialize returned no context for target " ++ toString target))))
        (.createContext library target context)
  | optimize {context shader : Handle} {shaderType options : Int} {source : String} :
      Asks library (.optimize context shaderType source options (.ok shader))
        (.optimize library context shaderType (Bytes.ofText source) options shader)
  | status {shader : Handle} {answer : Bool} :
      Asks library (.status shader (.ok answer)) (.status library shader answer)
  | output {shader : Handle} {answer : Option Bytes} :
      Asks library (.output shader (.ok (answer.map Bytes.toText))) (.output library shader answer)
  | deleteShader {shader : Handle} (h : shader.isNull = false) :
      Asks library (.deleteShader shader (.ok ())) (.deleteShader library shader)
  | cleanup {context : Handle} : Asks library (.cleanup context (.ok ())) (.cleanup library context)

end Exchange

namespace Native

/-- A call on the engine with its answer, and what it asked of the host. -/
structure Step where
  exchange : Exchange
  calls : List HostCall

namespace Step

/-- Deletes a null shader, and asks for nothing. -/
def Idle (step : Step) : Prop :=
  step.exchange.needsLibrary = false ∧ step.exchange.fault? = none ∧ step.calls = []

/-- Makes one attempt and raises what came of it. -/
def Failed (path : Option String) (step : Step) : Prop :=
  step.exchange.needsLibrary = true ∧ ∃ fault, Attempt path step.calls (.error fault) ∧
    step.exchange.fault? = some fault

/-- Gets the library with one attempt and calls one function of it. -/
def Loads (path : Option String) (library : Library) (step : Step) : Prop :=
  ∃ (calls : List HostCall) (call : HostCall), Attempt path calls (.ok library) ∧
    step.exchange.Asks library call ∧ step.calls = calls ++ [call]

/-- Calls one function of the library. -/
def Calls (library : Library) (step : Step) : Prop :=
  ∃ call, step.exchange.Asks library call ∧ step.calls = [call]

end Step

/-- What a step may be as the library is or is not loaded, and whether it is loaded afterwards. -/
inductive Moves (path : Option String) : Option Library → Step → Option Library → Prop where
  | idle {loaded : Option Library} {step : Step} (h : step.Idle) : Moves path loaded step loaded
  | failed {step : Step} (h : step.Failed path) : Moves path none step none
  | loads {library : Library} {step : Step} (h : step.Loads path library) : Moves path none step (some library)
  | calls {library : Library} {step : Step} (h : step.Calls library) : Moves path (some library) step (some library)

variable {η : Type} {host : NativeHost η} {path : Option String}

theorem filter_nonempty_eq_none {text? : Option String} :
    text?.filter (!·.isEmpty) = none ↔ text? = none ∨ text? = some "" := by
  cases text? with
  | none => simp
  | some text => simp

theorem filter_nonempty_eq_some {text? : Option String} {text : String} :
    text?.filter (!·.isEmpty) = some text ↔ text? = some text ∧ text ≠ "" := by
  simp [Option.filter_eq_some_iff]

theorem locate_spec {h h' : η} {located : Option String} {events : List LibraryEvent}
    (hlocate : locate host path h = (located, events, h')) :
    ∃ calls, Locates path calls located ∧ events = calls.filterMap HostCall.event? ∧ host.Makes h calls h' := by
  unfold locate at hlocate
  cases hpath : path.filter (!·.isEmpty) with
  | some configured =>
    rw [hpath] at hlocate
    cases hlocate
    obtain ⟨hconfigured, hnonempty⟩ := filter_nonempty_eq_some.1 hpath
    exact ⟨[], .configured hconfigured hnonempty, rfl, .nil h⟩
  | none =>
    rcases hfound : host.findLibrary libraryName h with ⟨found, after⟩
    rw [hpath, hfound] at hlocate
    cases hlocate
    refine ⟨[.findLibrary libraryName found], ?_, rfl, .single hfound⟩
    cases hanswer : found.filter (!·.isEmpty) with
    | none => exact .nowhere (filter_nonempty_eq_none.1 hpath) (filter_nonempty_eq_none.1 hanswer)
    | some answer =>
      obtain ⟨rfl, hnonempty⟩ := filter_nonempty_eq_some.1 hanswer
      exact .found (filter_nonempty_eq_none.1 hpath) hnonempty

theorem lookUpAll_spec {library : Library} {functions : List String} {h h' : η} {answer : Except Fault Unit}
    (hlookUps : lookUpAll host library functions h = (answer, h')) :
    ∃ calls, SetsUp library functions calls answer ∧ calls.filterMap HostCall.event? = [] ∧
      host.Makes h calls h' := by
  induction functions generalizing h with
  | nil =>
    cases hlookUps
    exact ⟨[], .complete, rfl, .nil _⟩
  | cons function rest ih =>
    rcases hlookUp : host.lookUp library function h with ⟨found, between⟩
    rw [lookUpAll, hlookUp] at hlookUps
    cases found with
    | ok =>
      obtain ⟨calls, hrest, hevents, hmakes⟩ := ih hlookUps
      exact ⟨_, .there hrest, hevents, .cons hlookUp hmakes⟩
    | error message =>
      cases hlookUps
      exact ⟨_, .missing, rfl, .single hlookUp⟩

theorem loadFrom_spec {configured : String} {calls : List HostCall} {h between h' : η}
    {answer : Except Fault Library} (hlocates : Locates path calls (some configured))
    (hmakes : host.Makes h calls between) (hload : loadFrom host configured between = (answer, h')) :
    ∃ more, Attempt path (calls ++ more) answer ∧ more.filterMap HostCall.event? = [.load configured] ∧
      host.Makes h (calls ++ more) h' := by
  rcases hloaded : host.load configured between with ⟨result, after⟩
  rw [loadFrom, hloaded] at hload
  match result with
  | .error (.refused message) =>
    cases hload
    exact ⟨_, .refused hlocates, rfl, hmakes.append (.single hloaded)⟩
  | .error (.unusable fault) =>
    cases hload
    exact ⟨_, .unusable hlocates, rfl, hmakes.append (.single hloaded)⟩
  | .ok library =>
    rcases hall : lookUpAll host library functionNames after with ⟨complete, last⟩
    obtain ⟨lookUps, hsetsUp, hevents, hlookUps⟩ := lookUpAll_spec hall
    have hhappens : (HostCall.load configured (.ok library)).Happens host between after := hloaded
    have hmade := hmakes.append (.cons hhappens hlookUps)
    have hrecorded : (HostCall.load configured (.ok library) :: lookUps).filterMap HostCall.event? =
        [.load configured] := by
      simp [HostCall.event?, hevents]
    dsimp only at hload
    rw [hall] at hload
    cases complete with
    | ok =>
      cases hload
      exact ⟨_, .complete hlocates hsetsUp, hrecorded, hmade⟩
    | error fault =>
      cases hload
      exact ⟨_, .incomplete hlocates hsetsUp, hrecorded, hmade⟩

/-- Obtaining the library either finds it there or makes one attempt. -/
theorem obtain_spec {s s' : State η} {answer : Except Fault Library} {events : List LibraryEvent}
    (h : obtain host path s = (answer, events, s')) :
    (∃ library, s.library = some library ∧ answer = .ok library ∧ events = [] ∧ s' = s) ∨
    (s.library = none ∧ ∃ calls, Attempt path calls answer ∧ events = calls.filterMap HostCall.event? ∧
      host.Makes s.host calls s'.host ∧ s'.library = answer.toOption) := by
  obtain ⟨kept, hs⟩ := s
  cases kept with
  | some library =>
    cases h
    exact .inl ⟨library, rfl, rfl, rfl, rfl⟩
  | none =>
    refine .inr ⟨rfl, ?_⟩
    rcases hlocate : locate host path hs with ⟨located, asked, between⟩
    obtain ⟨calls, hlocates, rfl, hmakes⟩ := locate_spec hlocate
    unfold obtain at h
    simp only [hlocate] at h
    cases located with
    | none =>
      cases h
      exact ⟨calls, .noPath hlocates, rfl, hmakes, rfl⟩
    | some configured =>
      rcases hload : loadFrom host configured between with ⟨result, after⟩
      obtain ⟨more, hattempt, hevents, hmade⟩ := loadFrom_spec hlocates hmakes hload
      have hrecorded : calls.filterMap HostCall.event? ++ [.load configured] =
          (calls ++ more).filterMap HostCall.event? := by
        rw [List.filterMap_append, hevents]
      simp only [hload] at h
      cases result with
      | error fault =>
        cases h
        exact ⟨_, hattempt, hrecorded, hmade, rfl⟩
      | ok library =>
        cases h
        exact ⟨_, hattempt, hrecorded, hmade, rfl⟩

/-- A call that needs the library. The exchange is given as a function of the answer. -/
theorem callLibrary_moves {α : Type} {event : LibraryEvent} {function : Library → η → Except Fault α × η}
    {s s' : State η} {answer : Except Fault α} {events : List LibraryEvent}
    (h : callLibrary host path event function s = (answer, events, s')) (x : Except Fault α → Exchange)
    (hneeds : ∀ answer, (x answer).needsLibrary = true) (hfault : ∀ fault, (x (.error fault)).fault? = some fault)
    (hcall : ∀ library h, ∃ call : HostCall, call.event? = some event ∧ call.Happens host h (function library h).2 ∧
      (x (function library h).1).Asks library call) :
    ∃ calls : List HostCall, events = calls.filterMap HostCall.event? ∧ host.Makes s.host calls s'.host ∧
      Moves path s.library ⟨x answer, calls⟩ s'.library := by
  rcases hobtain : obtain host path s with ⟨obtained, asked, t⟩
  unfold callLibrary at h
  rw [hobtain] at h
  rcases obtain_spec hobtain with ⟨library, hlibrary, rfl, rfl, rfl⟩ | ⟨hnone, attempt, hattempt, rfl, hmakes, ht⟩
  · obtain ⟨call, hevent, hhappens, hasks⟩ := hcall library t.host
    cases h
    refine ⟨[call], by simp [hevent], .single hhappens, ?_⟩
    rw [hlibrary]
    exact .calls ⟨call, hasks, rfl⟩
  · cases obtained with
    | error fault =>
      cases h
      refine ⟨attempt, rfl, hmakes, ?_⟩
      rw [hnone, ht]
      exact .failed ⟨hneeds _, fault, hattempt, hfault fault⟩
    | ok library =>
      obtain ⟨call, hevent, hhappens, hasks⟩ := hcall library t.host
      cases h
      refine ⟨attempt ++ [call], by simp [hevent], hmakes.append (.single hhappens), ?_⟩
      rw [hnone, ht]
      exact .loads ⟨attempt, call, hattempt, hasks, rfl⟩

/-- What a call on the engine does, whichever it is. -/
theorem happens_moves {s s' : State η} {x : Exchange} {events : List LibraryEvent}
    (h : x.Happens (engine host path) s events s') :
    ∃ calls : List HostCall, events = calls.filterMap HostCall.event? ∧ host.Makes s.host calls s'.host ∧
      Moves path s.library ⟨x, calls⟩ s'.library := by
  cases x with
  | createContext target answer =>
    simp only [Exchange.Happens, engine] at h
    refine callLibrary_moves h (.createContext target) (fun _ => rfl) (fun _ => rfl) fun library h => ?_
    rcases hcreate : host.createContext library target h with ⟨context, h'⟩
    refine ⟨.createContext library target context, rfl, ?_⟩
    simp only [hcreate]
    by_cases hnull : context.isNull = true
    · rw [if_pos hnull]
      exact ⟨hcreate, .noContext hnull⟩
    · rw [if_neg hnull]
      exact ⟨hcreate, .createContext (Bool.eq_false_iff.2 hnull)⟩
  | optimize context shaderType source options answer =>
    simp only [Exchange.Happens, engine] at h
    exact callLibrary_moves h (.optimize context shaderType source options) (fun _ => rfl) (fun _ => rfl)
      fun library h => ⟨.optimize library context shaderType (Bytes.ofText source) options _, rfl, rfl, .optimize⟩
  | status shader answer =>
    simp only [Exchange.Happens, engine] at h
    exact callLibrary_moves h (.status shader) (fun _ => rfl) (fun _ => rfl)
      fun library h => ⟨.status library shader _, rfl, rfl, .status⟩
  | output shader answer =>
    simp only [Exchange.Happens, engine] at h
    exact callLibrary_moves h (.output shader) (fun _ => rfl) (fun _ => rfl)
      fun library h => ⟨.output library shader _, rfl, rfl, .output⟩
  | deleteShader shader answer =>
    by_cases hnull : shader.isNull = true
    · have hidle : (Except.ok (), [], s) = (answer, events, s') := by
        simpa [Exchange.Happens, engine, hnull] using h
      cases hidle
      exact ⟨[], rfl, .nil s.host, .idle ⟨by simp [Exchange.needsLibrary, hnull], rfl, rfl⟩⟩
    · simp only [Exchange.Happens, engine, hnull, Bool.false_eq_true, if_false] at h
      exact callLibrary_moves h (.deleteShader shader) (fun _ => by simp [Exchange.needsLibrary, hnull]) (fun _ => rfl)
        fun library h => ⟨.deleteShader library shader, rfl, rfl, .deleteShader (Bool.eq_false_iff.2 hnull)⟩
  | cleanup context answer =>
    simp only [Exchange.Happens, engine] at h
    exact callLibrary_moves h (.cleanup context) (fun _ => rfl) (fun _ => rfl)
      fun library h => ⟨.cleanup library context, rfl, rfl, .cleanup⟩

end Native

/-! ### Any number of calls -/

/-- A call on an engine. -/
inductive EngineMethod where
  | createContext (target : Int)
  | optimize (context : Handle) (shaderType : Int) (source : String) (options : Int)
  | status (shader : Handle)
  | output (shader : Handle)
  | deleteShader (shader : Handle)
  | cleanup (context : Handle)

namespace EngineMethod

/-- The call with the engine's answer, the library events and the next state. -/
def perform {ε : Type} (engine : Engine ε) (s : ε) : EngineMethod → Exchange × List LibraryEvent × ε
  | .createContext target =>
    let (answer, events, s) := engine.createContext target s
    (.createContext target answer, events, s)
  | .optimize context shaderType source options =>
    let (answer, events, s) := engine.optimize context shaderType source options s
    (.optimize context shaderType source options answer, events, s)
  | .status shader =>
    let (answer, events, s) := engine.status shader s
    (.status shader answer, events, s)
  | .output shader =>
    let (answer, events, s) := engine.output shader s
    (.output shader answer, events, s)
  | .deleteShader shader =>
    let (answer, events, s) := engine.deleteShader shader s
    (.deleteShader shader answer, events, s)
  | .cleanup context =>
    let (answer, events, s) := engine.cleanup context s
    (.cleanup context answer, events, s)

theorem perform_happens {ε : Type} (engine : Engine ε) (s : ε) (method : EngineMethod) :
    (method.perform engine s).1.Happens engine s (method.perform engine s).2.1 (method.perform engine s).2.2 := by
  cases method <;> rfl

end EngineMethod

namespace Native

variable {η : Type} {host : NativeHost η} {path : Option String}

/-- The calls are made on the engine one after the other, and the steps are what happens. -/
inductive Session (host : NativeHost η) (path : Option String) :
    State η → List EngineMethod → List Step → State η → Prop where
  | nil (s : State η) : Session host path s [] [] s
  | cons {s s' s'' : State η} {method : EngineMethod} {methods : List EngineMethod} {step : Step} {steps : List Step}
      (h : method.perform (engine host path) s = (step.exchange, step.calls.filterMap HostCall.event?, s'))
      (hmakes : host.Makes s.host step.calls s'.host) (hrest : Session host path s' methods steps s'') :
      Session host path s (method :: methods) (step :: steps) s''

/-- Steps one after the other, with the library before and after them. -/
inductive Moving (path : Option String) : Option Library → List Step → Option Library → Prop where
  | nil (loaded : Option Library) : Moving path loaded [] loaded
  | cons {loaded loaded' loaded'' : Option Library} {step : Step} {steps : List Step}
      (h : Moves path loaded step loaded') (hrest : Moving path loaded' steps loaded'') :
      Moving path loaded (step :: steps) loaded''

theorem exists_session (host : NativeHost η) (path : Option String) (methods : List EngineMethod) (s : State η) :
    ∃ steps s', Session host path s methods steps s' ∧ Moving path s.library steps s'.library := by
  induction methods generalizing s with
  | nil => exact ⟨[], s, .nil s, .nil s.library⟩
  | cons method methods ih =>
    obtain ⟨calls, hevents, hmakes, hmoves⟩ := happens_moves (method.perform_happens (engine host path) s)
    obtain ⟨steps, s', hsession, hmoving⟩ := ih (method.perform (engine host path) s).2.2
    refine ⟨⟨_, calls⟩ :: steps, s', .cons ?_ hmakes hsession, .cons hmoves hmoving⟩
    rw [← hevents]

theorem Moving.loaded {library : Library} {steps : List Step} {after : Option Library}
    (h : Moving path (some library) steps after) : ∀ step ∈ steps, step.Idle ∨ step.Calls library := by
  generalize hloaded : some library = loaded at h
  induction h with
  | nil => simp
  | @cons loaded loaded' loaded'' step steps hmove hrest ih =>
    subst hloaded
    intro other hother
    cases hmove with
    | idle hidle =>
      rcases List.mem_cons.1 hother with rfl | hother
      · exact .inl hidle
      · exact ih rfl other hother
    | calls hcalls =>
      rcases List.mem_cons.1 hother with rfl | hother
      · exact .inr hcalls
      · exact ih rfl other hother

theorem Moving.unloaded {steps : List Step} {after : Option Library} (h : Moving path none steps after) :
    ∃ before rest, steps = before ++ rest ∧ (∀ step ∈ before, step.Idle ∨ step.Failed path) ∧
      (rest = [] ∨ ∃ library first more, rest = first :: more ∧ first.Loads path library ∧
        ∀ step ∈ more, step.Idle ∨ step.Calls library) := by
  generalize hloaded : none = loaded at h
  induction h with
  | nil => exact ⟨[], [], rfl, by simp, .inl rfl⟩
  | @cons loaded loaded' loaded'' step steps hmove hrest ih =>
    subst hloaded
    cases hmove with
    | idle hidle =>
      obtain ⟨before, rest, rfl, hbefore, hafter⟩ := ih rfl
      exact ⟨step :: before, rest, rfl, List.forall_mem_cons.2 ⟨.inl hidle, hbefore⟩, hafter⟩
    | failed hfailed =>
      obtain ⟨before, rest, rfl, hbefore, hafter⟩ := ih rfl
      exact ⟨step :: before, rest, rfl, List.forall_mem_cons.2 ⟨.inr hfailed, hbefore⟩, hafter⟩
    | loads hloads => exact ⟨[], step :: steps, rfl, by simp, .inr ⟨_, step, steps, rfl, hloads, hrest.loaded⟩⟩

/-- Whatever is called on a new engine and however the loader behaves: until an attempt succeeds each call that needs
the library makes one attempt and raises what came of it, which is that there is no optimizer unless the path or the
library has a defect; and from then on each such call makes one call of that library and asks nothing of the
loader. -/
theorem session_loads_once (host : NativeHost η) (path : Option String) (methods : List EngineMethod) (h : η) :
    ∃ steps s, Session host path { host := h } methods steps s ∧
      ∃ before rest, steps = before ++ rest ∧
        (∀ step ∈ before, step.Idle ∨ step.Failed path) ∧
        (∀ step ∈ before, (∀ call ∈ step.calls, call.isDefect = false) →
          (∀ fault, step.exchange.fault? = some fault → ∃ message, fault = .unavailable message) ∧
          ∀ path library, HostCall.load path (.ok library) ∉ step.calls) ∧
        (rest = [] ∨ ∃ library first more, rest = first :: more ∧ first.Loads path library ∧
          ∀ step ∈ more, step.Idle ∨ step.Calls library) := by
  obtain ⟨steps, s, hsession, hmoving⟩ := exists_session host path methods { host := h }
  obtain ⟨before, rest, hsteps, hbefore, hrest⟩ := hmoving.unloaded
  refine ⟨steps, s, hsession, before, rest, hsteps, hbefore, ?_, hrest⟩
  intro step hstep hsound
  rcases hbefore step hstep with ⟨-, hnone, hcalls⟩ | ⟨-, fault, hattempt, hfault⟩
  · exact ⟨fun fault hfault => absurd (hnone.symm.trans hfault) (Option.some_ne_none fault).symm, by simp [hcalls]⟩
  · obtain ⟨hunavailable, hloads⟩ := hattempt.unavailable hsound
    refine ⟨fun other hother => ?_, hloads⟩
    obtain rfl : fault = other := Option.some.inj (hfault.symm.trans hother)
    exact hunavailable

/-! ### A library without one of its functions -/

theorem SetsUp.lookUp_mem {library : Library} {functions : List String} {calls : List HostCall}
    (h : SetsUp library functions calls (.ok ())) {function : String} (hmem : function ∈ functions) :
    HostCall.lookUp library function (.ok ()) ∈ calls := by
  generalize houtcome : Except.ok () = outcome at h
  induction h with
  | complete => cases hmem
  | there _ ih =>
    rcases List.mem_cons.1 hmem with rfl | hmem
    · exact List.mem_cons_self
    · exact List.mem_cons_of_mem _ (ih hmem houtcome)
  | missing => cases houtcome

theorem Session.makes {s s' : State η} {methods : List EngineMethod} {steps : List Step}
    (h : Session host path s methods steps s') :
    ∀ step ∈ steps, ∃ before after, host.Makes before step.calls after := by
  induction h with
  | nil => simp
  | cons _ hmakes _ ih => exact List.forall_mem_cons.2 ⟨⟨_, _, hmakes⟩, ih⟩

/-- A library that is loaded from the configured path every time, and in which a function is never found. -/
structure Lacking (host : NativeHost η) (file function : String) : Prop where
  needed : function ∈ needed
  loads : ∀ h, ∃ library, (host.load file h).1 = .ok library
  lacks : ∀ library h, ∃ message, (host.lookUp library function h).1 = .error message

namespace Lacking

variable {file function : String} {calls : List HostCall} {h h' : η}

theorem lookUp_not_mem (hlacking : Lacking host file function) (hmakes : host.Makes h calls h') (library : Library) :
    HostCall.lookUp library function (.ok ()) ∉ calls := by
  intro hmem
  obtain ⟨before, after, hhappens⟩ := hmakes.happens _ hmem
  obtain ⟨message, hmissing⟩ := hlacking.lacks library before
  rw [show host.lookUp library function before = (.ok (), after) from hhappens] at hmissing
  cases hmissing

theorem load_not_mem (hlacking : Lacking host file function) (hmakes : host.Makes h calls h')
    (failure : LibraryFailure) : HostCall.load file (.error failure) ∉ calls := by
  intro hmem
  obtain ⟨before, after, hhappens⟩ := hmakes.happens _ hmem
  obtain ⟨library, hloaded⟩ := hlacking.loads before
  rw [show host.load file before = (.error failure, after) from hhappens] at hloaded
  cases hloaded

theorem attempt_fails (hlacking : Lacking host file function) (hfile : file ≠ "") (hmakes : host.Makes h calls h')
    {outcome : Except Fault Library} {attempt more : List HostCall} (hcalls : calls = attempt ++ more)
    (hattempt : Attempt (some file) attempt outcome) :
    ∃ library message, HostCall.load file (.ok library) ∈ attempt ∧
      outcome = .error (.raised "AttributeError" message) := by
  have hlocated : ∀ {path : String} {asked : List HostCall}, Locates (some file) asked (some path) → path = file := by
    rintro path asked (⟨hconfigured, -⟩ | ⟨hnone | hempty, -⟩)
    · exact (Option.some.inj hconfigured).symm
    · cases hnone
    · exact absurd (Option.some.inj hempty) hfile
  cases hattempt with
  | noPath hlocates =>
    rcases hlocates with _ | _ | ⟨hnone | hempty, -⟩
    · cases hnone
    · exact absurd (Option.some.inj hempty) hfile
  | @refused asked path message hlocates =>
    obtain rfl := hlocated hlocates
    exact absurd (by simp [hcalls]) (hlacking.load_not_mem hmakes (.refused message))
  | @unusable asked path fault hlocates =>
    obtain rfl := hlocated hlocates
    exact absurd (by simp [hcalls]) (hlacking.load_not_mem hmakes (.unusable fault))
  | @incomplete asked lookUps path library fault hlocates hlookUps =>
    obtain rfl := hlocated hlocates
    obtain ⟨-, message, -, rfl⟩ := hlookUps.exists_missing
    exact ⟨library, message, by simp, rfl⟩
  | @complete asked lookUps path library hlocates hlookUps =>
    have hfound := hlookUps.lookUp_mem hlacking.needed
    exact absurd (by simp [hcalls, hfound]) (hlacking.lookUp_not_mem hmakes library)

end Lacking

/-- A library that lacks a function is never kept: each call that needs it loads it again, and fails in a way that does
not say that there is no optimizer. -/
theorem session_reloads {file function : String} (hlacking : Lacking host file function) (hfile : file ≠ "")
    (methods : List EngineMethod) (h : η) :
    ∃ steps s, Session host (some file) { host := h } methods steps s ∧
      ∀ step ∈ steps, step.Idle ∨ ∃ library message, HostCall.load file (.ok library) ∈ step.calls ∧
        step.exchange.fault? = some (.raised "AttributeError" message) := by
  obtain ⟨steps, s, hsession, hmoving⟩ := exists_session host (some file) methods { host := h }
  obtain ⟨before, rest, rfl, hbefore, hrest⟩ := hmoving.unloaded
  have hmakes := hsession.makes
  have hnothing : rest = [] := by
    rcases hrest with hnil | ⟨library, first, more, rfl, ⟨attempt, call, hattempt, -, hcalls⟩, -⟩
    · exact hnil
    · obtain ⟨start, last, hfirst⟩ := hmakes first (List.mem_append_right _ List.mem_cons_self)
      obtain ⟨-, message, -, hfailed⟩ := hlacking.attempt_fails hfile hfirst hcalls hattempt
      cases hfailed
  refine ⟨_, s, hsession, ?_⟩
  rw [hnothing, List.append_nil]
  intro step hstep
  refine (hbefore step hstep).imp_right ?_
  rintro ⟨-, fault, hattempt, hfault⟩
  obtain ⟨start, last, hcalls⟩ := hmakes step (List.mem_append_left _ hstep)
  obtain ⟨library, message, hload, hraised⟩ :=
    hlacking.attempt_fails hfile hcalls (List.append_nil _).symm hattempt
  exact ⟨library, message, hload, hfault.trans (congrArg some (Except.error.inj hraised))⟩

end Native

end GlslCompiler
