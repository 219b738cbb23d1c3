import Automation.Library.Builder

/-!
# Builders under watch

`Builder.watched` does what a builder does and keeps what a run is judged by: the libraries that were
committed, and the drafts as they were whenever the layout of a type was asked for.
-/

namespace Automation.Library

variable {World Draft Committed : Type}

/-- What is seen of a builder. -/
structure Watch (World Draft Committed : Type) where
  world : World
  /-- The drafts in which a type was to be laid out, in order. -/
  drafts : List Draft := []
  /-- The libraries that were written out, in order. -/
  committed : List Committed := []

/-- Whether a type is to be laid out. -/
def Request.isLayOut {kind : ReplyKind} : Request kind → Bool
  | .layOut _ => true
  | _ => false

/-- The builder that does what `b` does and is watched. -/
def Builder.watched (b : Builder World Draft Committed) :
    Builder (Watch World Draft Committed) Draft Committed where
  newLibrary w draft :=
    let (world, fresh) := b.newLibrary w.world draft
    ({ w with world := world }, fresh)
  answer request w draft :=
    let (outcome, world, changed) := b.answer request w.world draft
    let seen := if request.isLayOut then [draft] else []
    (outcome, { w with world := world, drafts := w.drafts ++ seen }, changed)
  commit w draft :=
    let (outcome, world) := b.commit w.world draft
    let written := match outcome with
      | .ok library => [library]
      | .error _ => []
    (outcome, { w with world := world, committed := w.committed ++ written })

end Automation.Library
