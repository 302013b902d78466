import GlslCompiler.Optimizer.Bridge

/-!
# The protocol of the optimizer bridge

What the bridge says to an engine is a conversation: a list of exchanges, each a call with the answer it got.
`Conversation` gives the conversations the bridge may have about a job. It opens a context and, if it got one,
closes it last; within the context it makes a shader and, if it got one, deletes it last; and it asks a shader
for its output only after a good status. A fault may be the answer to any call.

A use of the bridge is a conversation of this kind that the engine really has, between an acquisition and a
release of the lock. What holds of any number of uses, that no call happens without the lock and that what is
made is released, follows from the shape of the conversations.
-/

namespace GlslCompiler

/-- A call of an engine with what it is about, and the answer. -/
inductive Exchange where
  | createContext (target : Int) (answer : Except Fault Handle)
  | optimize (context : Handle) (shaderType : Int) (source : String) (options : Int)
      (answer : Except Fault Handle)
  | status (shader : Handle) (answer : Except Fault Bool)
  | output (shader : Handle) (answer : Except Fault (Option String))
  | deleteShader (shader : Handle) (answer : Except Fault Unit)
  | cleanup (context : Handle) (answer : Except Fault Unit)

namespace Exchange

def call : Exchange → EngineCall
  | .createContext target _ => .createContext target
  | .optimize _ shaderType source options _ => .optimize shaderType source options
  | .status _ _ => .status
  | .output _ _ => .output
  | .deleteShader _ _ => .deleteShader
  | .cleanup _ _ => .cleanup

/-- The engine answers so in the state `s`, using the library, and is then in the state `s'`. -/
def Happens {ε : Type} (engine : Engine ε) (s : ε) (library : List LibraryEvent) (s' : ε) : Exchange → Prop
  | .createContext target answer => engine.createContext target s = (answer, library, s')
  | .optimize context shaderType source options answer =>
    engine.optimize context shaderType source options s = (answer, library, s')
  | .status shader answer => engine.status shader s = (answer, library, s')
  | .output shader answer => engine.output shader s = (answer, library, s')
  | .deleteShader shader answer => engine.deleteShader shader s = (answer, library, s')
  | .cleanup context answer => engine.cleanup context s = (answer, library, s')

def createdContext? : Exchange → Option Handle
  | .createContext _ (.ok context) => some context
  | _ => none

def cleanedContext? : Exchange → Option Handle
  | .cleanup context _ => some context
  | _ => none

def madeShader? : Exchange → Option Handle
  | .optimize _ _ _ _ (.ok shader) => some shader
  | _ => none

def deletedShader? : Exchange → Option Handle
  | .deleteShader shader _ => some shader
  | _ => none

/-- The fault that a call raised. -/
def fault? : Exchange → Option Fault
  | .createContext _ (.error fault) => some fault
  | .optimize _ _ _ _ (.error fault) => some fault
  | .status _ (.error fault) => some fault
  | .output _ (.error fault) => some fault
  | .deleteShader _ (.error fault) => some fault
  | .cleanup _ (.error fault) => some fault
  | _ => none

/-- The fault of a call as it arrives behind it. What is done with a shader is no part of its scope; the other calls are
part of the scope that they enter or leave. -/
def surfaced? (x : Exchange) : Option Fault :=
  match x with
  | .status _ _ => x.fault?
  | .output _ _ => x.fault?
  | _ => x.fault?.map Fault.leavingScope

/-- The text that a shader gave, unless it is empty. -/
def text? : Exchange → Option String
  | .output _ (.ok (some text)) => if text = "" then none else some text
  | _ => none

end Exchange

/-- The engine has the exchanges one after the other, and the events are what happens. -/
inductive Engine.Has {ε : Type} (engine : Engine ε) : ε → List Exchange → List BridgeEvent → ε → Prop where
  | nil (s : ε) : Has engine s [] [] s
  | cons {s s' s'' : ε} {x : Exchange} {xs : List Exchange} {library : List LibraryEvent} {events : List BridgeEvent}
      (h : x.Happens engine s library s') (hrest : Has engine s' xs events s'') :
      Has engine s (x :: xs) (.call x.call :: (library.map .library ++ events)) s''

/-! ### Conversations -/

namespace Conversation

/-- Reading the output of a shader. -/
inductive Reading (shader : Handle) : List Exchange → Prop where
  | raised (fault : Fault) : Reading shader [.status shader (.error fault)]
  | bad : Reading shader [.status shader (.ok false)]
  | good (answer : Except Fault (Option String)) :
      Reading shader [.status shader (.ok true), .output shader answer]

/-- Making a shader within a context. -/
inductive Shading (job : OptimizerJob) (context : Handle) : List Exchange → Prop where
  | raised (fault : Fault) :
      Shading job context [.optimize context job.shaderType job.input defaultOptimizerOptions (.error fault)]
  | made (shader : Handle) {reading : List Exchange} (h : Reading shader reading) (answer : Except Fault Unit) :
      Shading job context
        (.optimize context job.shaderType job.input defaultOptimizerOptions (.ok shader)
          :: (reading ++ [.deleteShader shader answer]))

end Conversation

/-- The conversations about a job. -/
inductive Conversation (job : OptimizerJob) : List Exchange → Prop where
  | raised (fault : Fault) : Conversation job [.createContext (optimizerTarget job.tier) (.error fault)]
  | opened (context : Handle) {shading : List Exchange} (h : Conversation.Shading job context shading)
      (answer : Except Fault Unit) :
      Conversation job
        (.createContext (optimizerTarget job.tier) (.ok context) :: (shading ++ [.cleanup context answer]))

namespace Conversation

/-- What a conversation comes to: the last fault raised, or the text that was read. -/
def outcome (xs : List Exchange) : Except Fault (Option String) :=
  match (xs.filterMap Exchange.surfaced?).getLast? with
  | some fault => .error fault
  | none => .ok (xs.findSome? Exchange.text?)

theorem outcome_cons {x : Exchange} (hfault : x.surfaced? = none) (htext : x.text? = none) (xs : List Exchange) :
    outcome (x :: xs) = outcome xs := by
  rw [outcome, List.filterMap_cons_none hfault, List.findSome?_cons_of_isNone (by rw [htext]; rfl)]
  rfl

theorem outcome_append_singleton {x : Exchange} (htext : x.text? = none) (xs : List Exchange) :
    outcome (xs ++ [x]) = (x.surfaced?.map .error).getD (outcome xs) := by
  cases hfault : x.surfaced? with
  | none =>
    rw [outcome, List.filterMap_append, List.filterMap_cons_none hfault, List.findSome?_append]
    simp [htext, outcome]
  | some fault =>
    rw [outcome, List.filterMap_append, List.filterMap_cons_some hfault]
    simp

end Conversation

/-! ### The bridge has a conversation -/

namespace Engine.Has

variable {ε : Type} {engine : Engine ε}

theorem single {s s' : ε} {x : Exchange} {library : List LibraryEvent} (h : x.Happens engine s library s') :
    engine.Has s [x] (.call x.call :: library.map .library) s' := by
  have hcons := Has.cons h (.nil s')
  rwa [List.append_nil] at hcons

theorem append {s s' s'' : ε} {xs ys : List Exchange} {events more : List BridgeEvent}
    (hxs : engine.Has s xs events s') (hys : engine.Has s' ys more s'') :
    engine.Has s (xs ++ ys) (events ++ more) s'' := by
  induction hxs with
  | nil s => exact hys
  | cons h _ ih =>
    have hcons := Has.cons h (ih hys)
    simpa using hcons

end Engine.Has

namespace Bridge

open Conversation

variable {ε : Type} {engine : Engine ε}

theorem perform_eq {α : Type} {action : EngineAction ε α} {run : Run ε} {answer : Except Fault α}
    {library : List LibraryEvent} {s : ε} (h : action run.state = (answer, library, s)) (call : EngineCall) :
    perform call action run = (answer, ⟨s, run.events ++ .call call :: library.map .library⟩) := by
  rw [perform, h]

/-- A part of the bridge has had a conversation of some shape, and answers with what it came to. -/
def Converses (engine : Engine ε) (run : Run ε) (shape : List Exchange → Prop)
    (ended : Except Fault (Option String) × Run ε) : Prop :=
  ∃ xs events, shape xs ∧ engine.Has run.state xs events ended.2.state ∧
    ended.2.events = run.events ++ events ∧ ended.1 = outcome xs

/-- A first exchange that neither fails nor gives a text. -/
theorem Converses.cons {run : Run ε} (shape : List Exchange → Prop) {shape' : List Exchange → Prop} {x : Exchange}
    {library : List LibraryEvent} {s : ε} {ended : Except Fault (Option String) × Run ε}
    (h : x.Happens engine run.state library s) (hfault : x.surfaced? = none) (htext : x.text? = none)
    (hshape : ∀ xs, shape xs → shape' (x :: xs))
    (hrest : Converses engine ⟨s, run.events ++ .call x.call :: library.map .library⟩ shape ended) :
    Converses engine run shape' ended := by
  obtain ⟨xs, events, hxs, hhas, hevents, houtcome⟩ := hrest
  refine ⟨x :: xs, _, hshape xs hxs, .cons h hhas, ?_, ?_⟩
  · rw [hevents, List.append_assoc, List.cons_append]
  · rw [houtcome, outcome_cons hfault htext]

theorem Converses.single {run : Run ε} {shape : List Exchange → Prop} {x : Exchange} {library : List LibraryEvent}
    {s : ε} {answer : Except Fault (Option String)} (h : x.Happens engine run.state library s) (hshape : shape [x])
    (hanswer : answer = outcome [x]) :
    Converses engine run shape (answer, ⟨s, run.events ++ .call x.call :: library.map .library⟩) :=
  ⟨[x], _, hshape, .single h, rfl, hanswer⟩

/-- A release ends a conversation, whatever came before it, and its own fault is what counts. -/
theorem Converses.releasing {run : Run ε} {shape : List Exchange → Prop}
    {used : Except Fault (Option String) × Run ε} {call : EngineCall} {release : EngineAction ε Unit}
    (h : Converses engine run shape used) (x : Except Fault Unit → Exchange)
    (hcall : ∀ answer, (x answer).call = call)
    (hhappens : ∀ s answer library s', release s = (answer, library, s') → (x answer).Happens engine s library s')
    (hok : ∀ u, (x (.ok u)).surfaced? = none)
    (herror : ∀ fault, (x (.error fault)).surfaced? = some fault.leavingScope)
    (htext : ∀ answer, (x answer).text? = none) :
    Converses engine run (fun xs => ∃ before answer, shape before ∧ xs = before ++ [x answer])
      (Bridge.releasing call release used) := by
  obtain ⟨xs, events, hxs, hhas, hevents, houtcome⟩ := h
  rcases hrelease : release used.2.state with ⟨answer, library, s⟩
  have hlast := hhas.append (Engine.Has.single (hhappens _ _ _ _ hrelease))
  rw [Bridge.releasing, perform_eq hrelease]
  cases answer with
  | ok u =>
    refine ⟨_, _, ⟨xs, _, hxs, rfl⟩, hlast, ?_, ?_⟩
    · rw [hevents, hcall, List.append_assoc]
    · rw [outcome_append_singleton (htext _), hok]
      exact houtcome
  | error fault =>
    refine ⟨_, _, ⟨xs, _, hxs, rfl⟩, hlast, ?_, ?_⟩
    · rw [hevents, hcall, List.append_assoc]
    · rw [outcome_append_singleton (htext _), herror]
      rfl

variable (engine)

theorem output_converses (shader : Handle) (run : Run ε) :
    Converses engine run (fun xs => ∃ answer, xs = [.output shader answer])
      (match perform .output (engine.output shader) run with
      | (.error fault, run) => (.error fault, run)
      | (.ok output, run) => (.ok (output.filter fun text => !text.isEmpty), run)) := by
  rcases houtput : engine.output shader run.state with ⟨answer, library, s⟩
  have hhappens : (Exchange.output shader answer).Happens engine run.state library s := houtput
  rw [perform_eq houtput]
  match answer with
  | .error fault => exact .single hhappens ⟨_, rfl⟩ rfl
  | .ok none => exact .single hhappens ⟨_, rfl⟩ rfl
  | .ok (some text) =>
    refine .single hhappens ⟨_, rfl⟩ ?_
    by_cases hempty : text = "" <;> simp [outcome, Exchange.surfaced?, Exchange.fault?, Exchange.text?, hempty]

theorem readOutput_converses (shader : Handle) (run : Run ε) :
    Converses engine run (Reading shader) (readOutput engine shader run) := by
  rcases hstatus : engine.status shader run.state with ⟨answer, library, s⟩
  have hhappens : (Exchange.status shader answer).Happens engine run.state library s := hstatus
  rw [readOutput, perform_eq hstatus]
  match answer with
  | .error fault => exact .single hhappens (.raised fault) rfl
  | .ok false => exact .single hhappens .bad rfl
  | .ok true =>
    refine .cons _ hhappens rfl rfl ?_ (output_converses engine shader _)
    rintro xs ⟨answer, rfl⟩
    exact .good answer

theorem withShader_converses (job : OptimizerJob) (context : Handle) (run : Run ε) :
    Converses engine run (Shading job context) (withShader engine job context run) := by
  rcases hoptimize : engine.optimize context job.shaderType job.input defaultOptimizerOptions run.state
    with ⟨answer, library, s⟩
  have hhappens : (Exchange.optimize context job.shaderType job.input defaultOptimizerOptions answer).Happens
      engine run.state library s := hoptimize
  rw [withShader, perform_eq hoptimize]
  cases answer with
  | error fault => exact .single hhappens (.raised fault) rfl
  | ok shader =>
    refine .cons _ hhappens rfl rfl ?_ ((readOutput_converses engine shader _).releasing (.deleteShader shader)
      (fun _ => rfl) (fun _ _ _ _ h => h) (fun _ => rfl) (fun _ => rfl) fun _ => rfl)
    rintro xs ⟨reading, answer, hreading, rfl⟩
    exact .made shader hreading answer

theorem withContext_converses (job : OptimizerJob) (run : Run ε) :
    Converses engine run (Conversation job) (withContext engine job run) := by
  rcases hcreate : engine.createContext (optimizerTarget job.tier) run.state with ⟨answer, library, s⟩
  have hhappens : (Exchange.createContext (optimizerTarget job.tier) answer).Happens engine run.state library s :=
    hcreate
  rw [withContext, perform_eq hcreate]
  cases answer with
  | error fault => exact .single hhappens (.raised fault) rfl
  | ok context =>
    refine .cons _ hhappens rfl rfl ?_ ((withShader_converses engine job context _).releasing (.cleanup context)
      (fun _ => rfl) (fun _ _ _ _ h => h) (fun _ => rfl) (fun _ => rfl) fun _ => rfl)
    rintro xs ⟨shading, answer, hshading, rfl⟩
    exact .opened context hshading answer

/-- One use of the bridge. -/
theorem optimize_converses (job : OptimizerJob) (run : Run ε) :
    ∃ xs events s, Conversation job xs ∧ engine.Has run.state xs events s ∧
      optimize engine job run =
        (Verdict.ofAnswer (outcome xs), ⟨s, run.events ++ .acquire :: (events ++ [.release])⟩) := by
  obtain ⟨xs, events, hxs, hhas, hevents, houtcome⟩ :=
    withContext_converses engine job ⟨run.state, run.events ++ [.acquire]⟩
  refine ⟨xs, events, _, hxs, hhas, ?_⟩
  rw [optimize]
  dsimp only
  rw [houtcome, hevents]
  simp

/-! ### Many uses of one bridge -/

/-- Runs jobs one after the other. -/
def optimizeAll : List OptimizerJob → Run ε → List Verdict × Run ε
  | [], run => ([], run)
  | job :: jobs, run =>
    let (verdict, run) := optimize engine job run
    let (verdicts, run) := optimizeAll jobs run
    (verdict :: verdicts, run)

/-- Each job has a conversation of its own, under the lock. -/
inductive Serves : List OptimizerJob → ε → List (List Exchange) → List BridgeEvent → ε → Prop where
  | nil (s : ε) : Serves [] s [] [] s
  | cons {job : OptimizerJob} {jobs : List OptimizerJob} {s s' s'' : ε} {xs : List Exchange}
      {xss : List (List Exchange)} {events more : List BridgeEvent} (h : Conversation job xs)
      (hhas : engine.Has s xs events s') (hrest : Serves jobs s' xss more s'') :
      Serves (job :: jobs) s (xs :: xss) (.acquire :: (events ++ .release :: more)) s''

theorem optimizeAll_serves (jobs : List OptimizerJob) (run : Run ε) :
    ∃ xss events s, Serves engine jobs run.state xss events s ∧
      optimizeAll engine jobs run =
        (xss.map fun xs => Verdict.ofAnswer (outcome xs), ⟨s, run.events ++ events⟩) := by
  induction jobs generalizing run with
  | nil => exact ⟨[], [], run.state, .nil run.state, by simp [optimizeAll]⟩
  | cons job jobs ih =>
    obtain ⟨xs, events, s, hxs, hhas, hjob⟩ := optimize_converses engine job run
    obtain ⟨xss, more, s', hserves, hjobs⟩ := ih ⟨s, run.events ++ .acquire :: (events ++ [.release])⟩
    refine ⟨xs :: xss, _, s', .cons hxs hhas hserves, ?_⟩
    rw [optimizeAll, hjob]
    dsimp only
    rw [hjobs]
    simp

end Bridge

/-- What an event makes of the lock: `none` where the lock is taken twice, or used or released without being
held. -/
def BridgeEvent.lock (held : Bool) : BridgeEvent → Option Bool
  | .acquire => if held then none else some true
  | .call _ => if held then some true else none
  | .library _ => if held then some true else none
  | .release => if held then some false else none

theorem BridgeEvent.lock_library (library : List LibraryEvent) :
    (library.map BridgeEvent.library).foldlM BridgeEvent.lock true = some true := by
  induction library with
  | nil => rfl
  | cons event library ih => exact ih

theorem Engine.Has.lock {ε : Type} {engine : Engine ε} {s s' : ε} {xs : List Exchange} {events : List BridgeEvent}
    (h : engine.Has s xs events s') : events.foldlM BridgeEvent.lock true = some true := by
  induction h with
  | nil s => rfl
  | @cons s s' s'' x xs library events _ _ ih =>
    change (library.map BridgeEvent.library ++ events).foldlM BridgeEvent.lock true = some true
    rw [List.foldlM_append, BridgeEvent.lock_library]
    exact ih

namespace Conversation

variable {job : OptimizerJob} {xs : List Exchange}

theorem contexts_released (h : Conversation job xs) :
    xs.filterMap Exchange.createdContext? = xs.filterMap Exchange.cleanedContext? := by
  rcases h with fault | ⟨context, fault | ⟨shader, fault | _ | answer, deleted⟩, cleaned⟩ <;> rfl

theorem shaders_released (h : Conversation job xs) :
    xs.filterMap Exchange.madeShader? = xs.filterMap Exchange.deletedShader? := by
  rcases h with fault | ⟨context, fault | ⟨shader, fault | _ | answer, deleted⟩, cleaned⟩ <;> rfl

end Conversation

namespace Bridge

open Conversation

variable {ε : Type} {engine : Engine ε}

namespace Serves

variable {jobs : List OptimizerJob} {s s' : ε} {xss : List (List Exchange)} {events : List BridgeEvent}

theorem lock (h : Serves engine jobs s xss events s') : events.foldlM BridgeEvent.lock false = some false := by
  induction h with
  | nil s => rfl
  | @cons job jobs s s' s'' xs xss events more _ hhas _ ih =>
    change (events ++ BridgeEvent.release :: more).foldlM BridgeEvent.lock true = some false
    rw [List.foldlM_append, hhas.lock]
    exact ih

theorem append_singleton {job : OptimizerJob} {xs : List Exchange} {more : List BridgeEvent} {s'' : ε}
    (h : Serves engine jobs s xss events s') (hxs : Conversation job xs) (hhas : engine.Has s' xs more s'') :
    Serves engine (jobs ++ [job]) s (xss ++ [xs]) (events ++ .acquire :: (more ++ [.release])) s'' := by
  induction h with
  | nil s => exact .cons hxs hhas (.nil s'')
  | cons hfirst hfirstHas _ ih =>
    have hcons := Serves.cons hfirst hfirstHas (ih hhas)
    simpa using hcons

/-- What holds of each conversation about what it makes and releases holds of all of them together. -/
theorem filterMap_flatten {f g : Exchange → Option Handle} (h : Serves engine jobs s xss events s')
    (heach : ∀ job xs, Conversation job xs → xs.filterMap f = xs.filterMap g) :
    xss.flatten.filterMap f = xss.flatten.filterMap g := by
  induction h with
  | nil s => rfl
  | cons hxs _ _ ih => rw [List.flatten_cons, List.filterMap_append, List.filterMap_append, heach _ _ hxs, ih]

end Serves

/-- Any number of uses of a bridge, whatever the engine does. -/
theorem optimizeAll_protocol (engine : Engine ε) (jobs : List OptimizerJob) (run : Run ε) :
    ∃ conversations events s,
      optimizeAll engine jobs run =
        (conversations.map fun xs => Verdict.ofAnswer (outcome xs), ⟨s, run.events ++ events⟩) ∧
      Serves engine jobs run.state conversations events s ∧
      events.foldlM BridgeEvent.lock false = some false ∧
      conversations.flatten.filterMap Exchange.createdContext? =
        conversations.flatten.filterMap Exchange.cleanedContext? ∧
      conversations.flatten.filterMap Exchange.madeShader? =
        conversations.flatten.filterMap Exchange.deletedShader? := by
  obtain ⟨xss, events, s, hserves, heq⟩ := optimizeAll_serves engine jobs run
  exact ⟨xss, events, s, heq, hserves, hserves.lock, hserves.filterMap_flatten fun _ _ h => h.contexts_released,
    hserves.filterMap_flatten fun _ _ h => h.shaders_released⟩

end Bridge

end GlslCompiler
