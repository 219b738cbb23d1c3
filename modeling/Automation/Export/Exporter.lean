import Automation.Export.Contents
import Automation.Library.Draft

/-!
# Exports

`Job.run` exports a unit into a library of a builder. First the types are sorted out, the units that
they need are exported if that is asked for, and every type gets its name and its place; from there
on the export follows a script. Any failure ends the run: nothing more is asked of the builder.
-/

namespace Automation.Export

open Library Source

/-! ## Results -/

/-- A library that was written out. -/
structure ExportedLibrary (Committed : Type) where
  library : Committed
  /-- The name of the unit. -/
  unit : String
  attributes : Attributes
  /-- The types, in library order. -/
  exported : List ExportedType
  /-- The diagnostics, in the order in which they were raised. -/
  diagnostics : List Diagnostic

/-- A successful run: the library of the unit, and those that were made on demand, in the order in
which they were written out. -/
structure Output (Committed : Type) where
  main : ExportedLibrary Committed
  dependencies : List (ExportedLibrary Committed)

namespace ExportedLibrary

variable {Committed : Type}

/-- The type exported from a qualified name. -/
def find? (l : ExportedLibrary Committed) (qualified : String) : Option ExportedType :=
  l.exported.find? fun t => t.source == some qualified

/-- Whether a diagnostic with the code was raised. -/
def hasDiagnostic (l : ExportedLibrary Committed) (code : Diagnostic.Code) : Bool :=
  l.diagnostics.any fun d => d.code == code

/-- A type as units that refer to the library see it. -/
def referencedType (l : ExportedLibrary Committed) (t : ExportedType) : ReferencedType where
  name := t.name
  kind := ReferencedKind.ofTypeKind t.kind
  source := t.source
  defaultInterface := t.defaultInterface.bind fun handle =>
    l.exported.findIdx? fun other => other.handle == handle

/-- The library as units that refer to it see it. -/
def reference (l : ExportedLibrary Committed) : ReferencedLibrary where
  unit := l.unit
  name := l.attributes.name
  guid := l.attributes.guid
  version := l.attributes.version
  locale := l.attributes.locale
  types := l.exported.map l.referencedType

end ExportedLibrary

/-! ## Runs -/

/-- What the libraries of one run share. -/
structure Session (World Committed : Type) where
  /-- What the builder remembers. -/
  world : World
  /-- The questions for names, in order. -/
  questions : List NameQuestion := []
  /-- The libraries that types of other units resolve against. -/
  references : List ReferencedLibrary
  /-- The libraries that were made on demand. -/
  generated : List (ExportedLibrary Committed) := []

/-- The state of the export of one library. -/
structure Progress (World Draft Committed : Type) where
  session : Session World Committed
  draft : Draft
  queue : Diagnostic.Queue

/-- A part of the export of one library. -/
abbrev ExportM (World Draft Committed : Type) :=
  EStateM ExportError (Progress World Draft Committed)

variable {World Draft Committed : Type}

/-- The state after a remark. -/
def Progress.note (p : Progress World Draft Committed) : Remark → Progress World Draft Committed
  | .asked question =>
    { p with session := { p.session with questions := p.session.questions ++ [question] } }
  | .raised d => { p with queue := p.queue.raise d }

/-- A remark. -/
def remark (r : Remark) : ExportM World Draft Committed Unit := modify (·.note r)

/-- A request to the builder: its rejection ends the export. -/
def request (b : Builder World Draft Committed) (context : String) {kind : ReplyKind}
    (r : Request kind) : ExportM World Draft Committed kind.Answer := fun p =>
  let (outcome, world, draft) := b.answer r p.session.world p.draft
  let p := { p with session := { p.session with world := world }, draft := draft }
  match outcome with
  | .ok answer => .ok answer p
  | .error error => .error (.build context error) p

/-- A script, up to its end or the first rejection. -/
def perform (b : Builder World Draft Committed) : List Step → ExportM World Draft Committed Unit
  | [] => pure ()
  | .remark r :: later => do
    remark r
    perform b later
  | .request context r :: later => do
    request b context r
    perform b later
  | .abort error :: _ => throw error

/-! ## Types and imports -/

/-- The types of a unit that are exported, or the first listed type that the unit does not have. -/
def classify (unit : Reflection) : List TypeId → Except ExportError (List Classified)
  | [] => .ok []
  | id :: later =>
    match unit.type? id with
    | none => .error (.missingType id)
    | some decl =>
      match classify unit later with
      | .error error => .error error
      | .ok rest =>
        match target? decl with
        | some target => .ok ({ id := id, decl := decl, target := target } :: rest)
        | none => .ok rest

/-- The error that the identifier of a library is that of one it may refer to. -/
def identityError? (guid : Guid) (references : List ReferencedLibrary) : Option ExportError :=
  if guid = Standard.guid then some (.duplicateLibrary guid Standard.name)
  else (references.find? fun l => l.guid == guid).map fun l => .duplicateLibrary guid l.name

/-- A type that is about to get its place. -/
structure Placeholder where
  name : String
  kind : TypeKind
  guid : Guid
  flags : TypeFlags
  doc : Option String

/-- The identifier of what declares none. -/
def derivedGuid (qualified : String) : Guid := Guid.derive Guid.exportNamespace qualified

/-- The place of the interface made from the members of a class. -/
def classPlaceholder (c : Classified) (name : String) (binding : Binding) : Placeholder where
  name := name
  kind := binding.typeKind
  guid := derivedGuid ("_" ++ c.decl.qualified)
  flags := classInterfaceFlags c.decl binding
  doc := c.decl.help

/-- The place of a type. -/
def typePlaceholder (c : Classified) (name : String) : Placeholder where
  name := name
  kind := c.target.typeKind
  guid := c.decl.guid.getD (derivedGuid c.decl.qualified)
  flags := typeFlags c.decl c.target
  doc := c.decl.help

/-- The identifiers in use, with the names of their types. -/
abbrev GuidUses := List (Guid × String)

/-- A type in its place, with its identity. -/
def createType (b : Builder World Draft Committed) (version : Version) (uses : GuidUses)
    (p : Placeholder) : ExportM World Draft Committed (Handle × GuidUses) := do
  match uses.lookup p.guid with
  | some first => throw (.duplicateType p.guid first p.name)
  | none =>
    let context := typeContext p.name
    let handle ← request b context (.createType p.name p.kind)
    request b context (.setGuid handle p.guid)
    request b context (.setVersion handle version)
    request b context (.setFlags handle p.flags)
    match p.doc with
    | some doc => request b context (.setDoc handle doc)
    | none => pure ()
    return (handle, (p.guid, p.name) :: uses)

/-- The interface made from the members of a class in its place, right before its class. -/
def createClassInterface (b : Builder World Draft Committed) (version : Version) (uses : GuidUses)
    (n : NamedType) : ExportM World Draft Committed (Option ClassInterface × GuidUses) := do
  match n.type.target.classInterface?, n.classInterface with
  | some binding, some name =>
    let (handle, uses) ← createType b version uses (classPlaceholder n.type name binding)
    return (some { name := name, handle := handle, binding := binding }, uses)
  | _, _ => return (none, uses)

/-- The named types in their places. -/
def createTypes (b : Builder World Draft Committed) (version : Version) (uses : GuidUses) :
    List NamedType → ExportM World Draft Committed (List Placed)
  | [] => return []
  | n :: later => do
    let (classInterface, uses) ← createClassInterface b version uses n
    let (handle, uses) ← createType b version uses (typePlaceholder n.type n.name)
    let rest ← createTypes b version uses later
    return { type := n.type, name := n.name, handle := handle, classInterface := classInterface,
             constants := n.constants } :: rest

/-- The reference table with the placed types, and the standard library if it is imported. -/
def ownReferences (placed : List Placed) (standard : Option ImportId) : ReferenceTable :=
  placed.foldl
    (fun refs p => refs.insertOwn p.type.id { handle := p.handle, target := p.type.target })
    { standard := standard }

/-- The standard library in the import table, if it is needed. -/
def importStandard (b : Builder World Draft Committed) (isNeeded : Bool) :
    ExportM World Draft Committed (Option ImportId) := do
  if isNeeded then
    let id ← request b (importContext Standard.name) (.addImport Standard.library)
    return some id
  else return none

/-- The reference to a type of an imported library. -/
def externalRef (id : ImportId) (index : Nat) (t : ReferencedType) : ExternalRef where
  ref := .imported id index
  kind := t.kind
  default := t.defaultInterface.map (.imported id)

/-- The reference table with the types of other units that a library covers. A library is imported
the first time that one of its types is used; `imported` holds the places of those that are. -/
def importTypes (b : Builder World Draft Committed) (references : List ReferencedLibrary)
    (imported : List (Nat × ImportId)) (refs : ReferenceTable) :
    List ExternalType → ExportM World Draft Committed ReferenceTable
  | [] => return refs
  | type :: later => do
    match lookup? references type with
    | none => importTypes b references imported refs later
    | some (place, index, found) =>
      match imported.lookup place with
      | some id =>
        importTypes b references imported
          (refs.insertExternal type (externalRef id index found)) later
      | none =>
        match references[place]? with
        | none => importTypes b references imported refs later
        | some library =>
          let id ← request b (importContext library.name) (.addImport library.toImport)
          importTypes b references ((place, id) :: imported)
            (refs.insertExternal type (externalRef id index found)) later

/-! ## Units that are needed -/

/-- The note that a unit was exported on demand. -/
def dependencyExported (unit library : String) : Diagnostic where
  code := .dependencyExported
  severity := .note
  message := s!"dependency exported as library `{library}`"
  subject := some unit

/-- The outcome of the export of one library. -/
abbrev UnitOutcome (World Committed : Type) :=
  Except Failure (ExportedLibrary Committed) × Session World Committed

/-- The export of the unit of a type, if it is available and has no library yet. -/
def exportNeeded (b : Builder World Draft Committed) (available : List Reflection)
    (exportUnit : (unit : Reflection) → unit ∈ available → Session World Committed → Draft →
      UnitOutcome World Committed)
    (type : ExternalType) : ExportM World Draft Committed Unit := do
  let p ← get
  let isCovered := p.session.generated.any (fun l => l.unit == type.unit)
    || p.session.references.any fun l => l.unit == type.unit
  if isCovered then return
  match h : available.find? fun unit => unit.identity.name == type.unit with
  | none => return
  | some unit =>
    let (world, draft) := b.newLibrary p.session.world p.draft
    let (outcome, session) :=
      exportUnit unit (List.mem_of_find?_eq_some h) { p.session with world := world } draft
    set { p with session := session }
    match outcome with
    | .error failure => throw (.dependency type.unit failure.error failure.diagnostics)
    | .ok library =>
      remark (.raised (dependencyExported type.unit library.attributes.name))
      modify fun p => { p with session := { p.session with
        references := p.session.references ++ [library.reference]
        generated := p.session.generated ++ [library] } }

/-- The export of the units of several types. -/
def exportAllNeeded (b : Builder World Draft Committed) (available : List Reflection)
    (exportUnit : (unit : Reflection) → unit ∈ available → Session World Committed → Draft →
      UnitOutcome World Committed) :
    List ExternalType → ExportM World Draft Committed Unit
  | [] => pure ()
  | type :: later => do
    exportNeeded b available exportUnit type
    exportAllNeeded b available exportUnit later

/-! ## One library -/

/-- The exports of the units that the types of a library need, if that is asked for: those of the
types that no referenced library covers. -/
def exportUncovered (b : Builder World Draft Committed) (settings : Settings) (needs : Needs)
    (available : List Reflection)
    (exportUnit : (unit : Reflection) → unit ∈ available → Session World Committed → Draft →
      UnitOutcome World Committed) : ExportM World Draft Committed Unit := do
  if settings.generateReferences then
    let references := (← get).session.references
    let uncovered := needs.external.filter fun type => (lookup? references type).isNone
    exportAllNeeded b available exportUnit uncovered

/-- The identity of the library, unless it may be taken for one that it can refer to. -/
def checkIdentity (guid : Guid) (references : List ReferencedLibrary) :
    ExportM World Draft Committed Unit :=
  match identityError? guid references with
  | some error => throw error
  | none => pure ()

/-- The types of the library in their places, and where references find their targets. -/
def placeTypes (b : Builder World Draft Committed) (resolver : Resolver) (attributes : Attributes)
    (references : List ReferencedLibrary) (classified : List Classified) (needs : Needs) :
    ExportM World Draft Committed (List Placed × ReferenceTable) := do
  let (named, naming) := nameTypes resolver classified
  perform b naming
  request b (libraryContext attributes.name) (.setAttributes attributes)
  let placed ← createTypes b attributes.version [] named
  let standard ← importStandard b needs.standard
  let refs ← importTypes b references [] (ownReferences placed standard) needs.external
  return (placed, refs)

/-- Everything up to the commit: the types of the library. -/
def build (b : Builder World Draft Committed) (resolver : Resolver) (settings : Settings)
    (unit : Reflection) (available : List Reflection)
    (exportUnit : (unit : Reflection) → unit ∈ available → Session World Committed → Draft →
      UnitOutcome World Committed) :
    ExportM World Draft Committed (List ExportedType) := do
  let attributes := settings.attributes unit.identity
  let classified ← MonadExcept.ofExcept (classify unit unit.ids)
  let needs := Needs.scan classified
  exportUncovered b settings needs available exportUnit
  let references := (← get).session.references
  checkIdentity attributes.guid references
  let (placed, refs) ← placeTypes b resolver attributes references classified needs
  let scope : Scope := { type? := unit.type?, refs := refs, width := settings.pointerWidth }
  let (exported, script) :=
    contents { scope := scope, resolver := resolver, settings := settings } placed
  perform b script
  return exported

/-- The failure with an error as its last diagnostic. -/
def failure (queue : Diagnostic.Queue) (error : ExportError) : Failure where
  error := error
  diagnostics := (queue.raise error.diagnostic).diagnostics

/-- The commit of a library, unless it failed before. -/
def finish (b : Builder World Draft Committed) (unit : UnitIdentity) (attributes : Attributes) :
    EStateM.Result ExportError (Progress World Draft Committed) (List ExportedType) →
      UnitOutcome World Committed
  | .error error p => (.error (failure p.queue error), p.session)
  | .ok exported p =>
    let (outcome, world) := b.commit p.session.world p.draft
    let session := { p.session with world := world }
    match outcome with
    | .ok library =>
      (.ok { library := library, unit := unit.name, attributes := attributes, exported := exported
             diagnostics := p.queue.diagnostics }, session)
    | .error error =>
      (.error (failure p.queue (.build (commitContext attributes.name) error)), session)

/-- The units that are still available while a unit is exported: those with another name. -/
def without (available : List Reflection) (unit : Reflection) : List Reflection :=
  available.filter fun other => other.identity.name != unit.identity.name

theorem length_without_lt {available : List Reflection} {unit : Reflection} (h : unit ∈ available) :
    (without available unit).length < available.length :=
  List.length_filter_lt_length_iff_exists.mpr ⟨unit, h, by simp⟩

/-- The export of a unit into a draft. A unit that is needed is exported with the others that are
still available, which no longer include it, so the exports on demand come to an end. -/
def exportUnit (b : Builder World Draft Committed) (resolver : Resolver) (settings : Settings)
    (available : List Reflection) (unit : Reflection) (session : Session World Committed)
    (draft : Draft) : UnitOutcome World Committed :=
  let progress : Progress World Draft Committed :=
    { session := session, draft := draft, queue := Diagnostic.Queue.empty settings.diagnostics }
  let exportNeeded (needed : Reflection) (_ : needed ∈ available) :=
    exportUnit b resolver settings.forDependency (without available needed) needed
  finish b unit.identity (settings.attributes unit.identity)
    ((build b resolver settings unit available exportNeeded).run progress)
termination_by available.length
decreasing_by exact length_without_lt ‹_›

/-! ## Jobs -/

/-- What is to be exported, and how. -/
structure Job where
  unit : Reflection
  settings : Settings := {}
  resolver : Resolver := Resolver.keep
  /-- The units that can be exported on demand. -/
  dependencies : List Reflection := []

/-- The outcome of a job: its output or its failure, and what its libraries shared. -/
def Job.run (job : Job) (b : Builder World Draft Committed) (world : World) (draft : Draft) :
    Except Failure (Output Committed) × Session World Committed :=
  let (outcome, session) := exportUnit b job.resolver job.settings
    (without job.dependencies job.unit) job.unit
    { world := world, references := job.settings.references } draft
  (outcome.map fun main => { main := main, dependencies := session.generated }, session)

/-- The output of a job whose libraries are kept in memory, or its failure. -/
def Job.toMemory (job : Job) : Except Failure (Output Library) :=
  (job.run Library.Draft.builder () {}).1

end Automation.Export
