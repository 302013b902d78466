import GlslCompiler.CommandLine.Shell

/-!
# Running actions

An action is run on a shell, step by step; an action that stops leaves what comes after it undone. What it gives out is
added to what has been given out before. Ids and numbers have no escape character and are shown as they are.
-/

namespace GlslCompiler

namespace Action

variable {σ ε α β : Type}

theorem run_bind (x : Action σ ε α) (f : α → Action σ ε β) (shell : Shell σ ε) :
    (x >>= f).run.run shell =
      match x.run.run shell with
      | (.ok a, after) => (f a).run.run after
      | (.error stop, after) => (.error stop, after) := by
  change (ExceptT.bindCont f (x.run.run shell).1).run (x.run.run shell).2 = _
  rcases x.run.run shell with ⟨answer, after⟩
  cases answer <;> rfl

theorem run_discard (x : Action σ ε α) (shell : Shell σ ε) :
    (discard x).run.run shell =
      match x.run.run shell with
      | (.ok _, after) => (.ok (), after)
      | (.error stop, after) => (.error stop, after) :=
  run_bind x (fun _ => pure ()) shell

theorem run_get (shell : Shell σ ε) : (get : Action σ ε (Shell σ ε)).run.run shell = (.ok shell, shell) := rfl

theorem run_set (next shell : Shell σ ε) : (set next : Action σ ε PUnit).run.run shell = (.ok (), next) := rfl

end Action

namespace Shell

variable {σ ε : Type}

theorem run_onConsole (change : Console → Console) (shell : Shell σ ε) :
    (onConsole change).run.run shell = (.ok (), { shell with console := change shell.console }) := rfl

theorem run_log (level : LogLevel) (message : String) (shell : Shell σ ε) :
    (log level message).run.run shell = (.ok (), { shell with console := shell.console.note level message }) := rfl

end Shell

/-- The text of an id is made of hexadecimal digits. -/
theorem ObjectId.exists_of_mem_text {id : ObjectId} {c : Char} (h : c ∈ id.text.toList) :
    ∃ n < 16, c = Nat.digitChar n := by
  rw [text, Bytes.hex, String.toList_ofList, List.mem_flatMap] at h
  obtain ⟨b, -, hb⟩ := h
  have hbyte := b.toNat_lt
  simp only [Bytes.hexDigits, List.mem_cons, List.not_mem_nil, or_false] at hb
  rcases hb with hb | hb
  · exact ⟨b.toNat / 16, by omega, hb⟩
  · exact ⟨b.toNat % 16, by omega, hb⟩

theorem ObjectId.escape_not_mem_text (id : ObjectId) : '\x1b' ∉ id.text.toList := by
  intro h
  obtain ⟨n, hn, heq⟩ := exists_of_mem_text h
  exact (by decide : ∀ n < 16, '\x1b' ≠ Nat.digitChar n) n hn heq

theorem Text.escape_not_mem_toString (n : Nat) : '\x1b' ∉ (toString n).toList := by
  rw [Nat.toString_eq_ofList_toDigits, String.toList_ofList]
  intro h
  exact absurd (Nat.isDigit_of_mem_toDigits (by omega) (Nat.le_refl 10) h) (by decide)

/-- What is documented of echoing a text: unless there are escape characters in it, it is shown as it is, and the line
is ended. How control sequences are shown depends on where they are shown. -/
def Echoes (echo : String → String) : Prop := ∀ text, '\x1b' ∉ text.toList → echo text = text ++ "\n"

namespace Console

/-- What the output stream shows, text by text. -/
def shown (echo : String → String) (console : Console) : String := String.join (console.output.map echo)

theorem shown_append (echo : String → String) (console : Console) (texts : List String) :
    shown echo { console with output := console.output ++ texts } =
      console.shown echo ++ String.join (texts.map echo) := by
  rw [shown, List.map_append, String.join_append]
  rfl

theorem printAll_eq (console : Console) (texts : List String) :
    console.printAll texts = { console with output := console.output ++ texts } := by
  induction texts generalizing console with
  | nil => simp [printAll]
  | cons text texts ih =>
    change (console.print text).printAll texts = _
    rw [ih]
    simp [print]

end Console

end GlslCompiler
