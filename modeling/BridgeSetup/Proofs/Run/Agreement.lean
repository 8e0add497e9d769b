import BridgeSetup.Proofs.Run.Tasks

/-!
# Steps that do not look at the log

Two sessions may differ in what has been logged and called so far and still have the same
files, but for the log. From such sessions a step that does not look at the log comes to the
same result, makes the same calls and leaves the same files again (`Task.Blind`).
-/

namespace BridgeSetup

/-- Two replies of an installer are the same, but for what the log holds and what is to be
added to it. -/
structure Reply.Alike {α : Type} (apart : Location → Prop) (first second : Reply α) : Prop where
  result : second.result = first.result
  started : second.started = first.started
  files : first.files.Alike apart second.files

namespace Task

variable {ε α β : Type} {env : Environment}

/-- Two outcomes of a step agree, seen from the sessions before: they have the same result, the
same calls have been made, and the files are the same, but for the log. -/
structure Agree (env : Environment) (before before' : Session)
    (outcome outcome' : Except ε α × Session) : Prop where
  result : outcome'.1 = outcome.1
  calls : ∃ made, outcome.2.calls = before.calls ++ made ∧
    outcome'.2.calls = before'.calls ++ made
  files : outcome.2.files.Alike env.LogsAt outcome'.2.files

/-- A step does not look at the log. -/
def Blind (env : Environment) (task : Task ε α) : Prop :=
  ∀ first second : Session, first.files.Alike env.LogsAt second.files →
    Agree env first second (task.runOn first) (task.runOn second)

namespace Blind

theorem pure (value : α) : Blind env (Pure.pure value : Task ε α) :=
  fun _ _ alike => ⟨rfl, ⟨[], by simp⟩, alike⟩

theorem look {question : FileTree → α}
    (same : ∀ first second : FileTree, first.Alike env.LogsAt second →
      question second = question first) : Blind env (Task.look question : Task ε α) :=
  fun first second alike => ⟨congrArg Except.ok (same _ _ alike), ⟨[], by simp⟩, alike⟩

theorem sayAll (entries : List Entry) :
    Blind env (Task.sayAll env entries : Task ε Unit) := by
  intro first second alike
  refine ⟨rfl, ⟨[], ?_⟩, ?_⟩
  · simp
  · exact (first.recordAll_alike env entries).symm.trans
      (alike.trans (second.recordAll_alike env entries))

theorem say (level : Level) (message : String) :
    Blind env (Task.say env level message : Task ε Unit) :=
  sayAll [⟨level, message⟩]

theorem note (calls : List Call) : Blind env (Task.note calls : Task ε Unit) :=
  fun _ _ alike => ⟨rfl, ⟨calls, rfl, rfl⟩, alike⟩

theorem ofReply (wrap : BridgeError → ε) {ask : FileTree → Reply α}
    (same : ∀ first second : FileTree, first.Alike env.LogsAt second →
      (ask first).Alike env.LogsAt (ask second)) :
    Blind env (Task.ofReply env wrap ask) := by
  intro first second alike
  have reply := same _ _ alike
  rw [runOn_ofReply, runOn_ofReply]
  refine ⟨congrArg (Except.mapError wrap) reply.result, ?_, ?_⟩
  · refine ⟨(ask first.files).started.map .start, ?_⟩
    simp [Session.afterReply, reply.started]
  · exact (first.afterReply_alike env _).symm.trans
      (reply.files.trans (second.afterReply_alike env _))

/-- The second of two steps need only be blind with values that the first yields. -/
theorem bind_of_ok {task : Task ε α} {next : α → Task ε β} (earlier : Blind env task)
    (later : ∀ session value left, task.runOn session = (.ok value, left) →
      Blind env (next value)) : Blind env (task >>= next) := by
  intro first second alike
  have agree := earlier first second alike
  rw [runOn_bind, runOn_bind]
  rcases run : task.runOn first with ⟨result, left⟩
  rcases runAgain : task.runOn second with ⟨resultAgain, leftAgain⟩
  rw [run, runAgain] at agree
  cases agree.result
  rcases agree.calls with ⟨made, calls, callsAgain⟩
  rcases result with error | value
  · exact ⟨rfl, ⟨made, calls, callsAgain⟩, agree.files⟩
  · have onward := later first value left run left leftAgain agree.files
    rcases onward.calls with ⟨more, moreCalls, moreCallsAgain⟩
    refine ⟨onward.result, ⟨made ++ more, ?_, ?_⟩, onward.files⟩
    · rw [moreCalls, calls, List.append_assoc]
    · rw [moreCallsAgain, callsAgain, List.append_assoc]

theorem bind {task : Task ε α} {next : α → Task ε β} (earlier : Blind env task)
    (later : ∀ value, Blind env (next value)) : Blind env (task >>= next) :=
  bind_of_ok earlier fun _ value _ _ => later value

end Blind

end Task

end BridgeSetup
