import Automation.Library.Builder

/-!
# Journals

`Builder.journaled` writes down every call to a builder with the library that it is about and with
its outcome.
-/

namespace Automation.Library

/-- A call about a library, with its outcome. -/
inductive Call where
  /-- A further library is begun beside this one. It gets the number. -/
  | begun (library : Nat)
  | request {kind : ReplyKind} (request : Request kind) (outcome : Except BuildError kind.Answer)
  | commit (outcome : Except BuildError Unit)

/-- The calls to a builder in order, each with the number of the library that it is about. -/
structure Journal (World : Type) where
  world : World
  calls : List (Nat × Call) := []
  /-- The number of libraries so far. -/
  libraries : Nat := 1

/-- The builder that does what `b` does and keeps a journal. The first library has the number zero,
and further ones are numbered as they are begun. -/
def Builder.journaled {World Draft Committed : Type} (b : Builder World Draft Committed) :
    Builder (Journal World) (Nat × Draft) Committed where
  newLibrary journal draft :=
    let (world, fresh) := b.newLibrary journal.world draft.2
    ({ world := world, calls := journal.calls ++ [(draft.1, .begun journal.libraries)]
       libraries := journal.libraries + 1 }, (journal.libraries, fresh))
  answer request journal draft :=
    let (outcome, world, changed) := b.answer request journal.world draft.2
    (outcome, { journal with
        world := world, calls := journal.calls ++ [(draft.1, .request request outcome)] },
      (draft.1, changed))
  commit journal draft :=
    let (outcome, world) := b.commit journal.world draft.2
    (outcome, { journal with
        world := world
        calls := journal.calls ++ [(draft.1, .commit (outcome.map fun _ => ()))] })

end Automation.Library
