import Automation.Proofs.Export.Sites

/-!
# Losses

No reference loses its type without a word: where the descriptor of a reference to an interface, a class
or an enum does not refer to a type of a library, it is the generic object or the underlying integer, and
the diagnostics say so of the member or field. Of no others do they say it. `lossesSaid_run` says so of
all libraries of a successful run without a limit on warnings.
-/

namespace Automation.Export

open Library Source Diagnostic

/-- Remarks on losses that say the same of the same entity are the same. -/
theorem degraded_eq {subject subject' : String} {loss loss' : Degradation}
    (hcode : (degraded subject loss).code = (degraded subject' loss').code)
    (hsubject : (degraded subject loss).subject = (degraded subject' loss').subject)
    (hmessage : (degraded subject loss).message = (degraded subject' loss').message) :
    degraded subject loss = degraded subject' loss' := by
  have hfields : ∀ subject loss, degraded subject loss =
      { code := (degraded subject loss).code, severity := .warning
        message := (degraded subject loss).message, subject := (degraded subject loss).subject } :=
    fun _ loss => by cases loss <;> rfl
  rw [hfields subject, hfields subject', hcode, hsubject, hmessage]

/-- Where something is lost in a library, it is said. Every function and every variable of a record has
its sites: it was made from the member or field whose sites they are. -/
structure LossesSaid (unit : Reflection) (resolver : Resolver) (settings : Settings)
    (references : List ReferencedLibrary) (l : ExportedLibrary Library) : Prop where
  /-- A reference to an interface or class is a pointer to a type of a library, or the generic object. -/
  objects : ∀ site ∈ l.sites unit settings references, IsReference site.core.1 →
    (l.scope unit references).isObjectRef site.core.1 = true → KeepsObject site.form →
      (∃ ref, site.coreDescriptor = some (.pointer (.userDefined ref))) ∨
        ∃ name, site.Lost (l.scope unit references) (.genericObject name) ∧
          degraded site.subject (.genericObject name) ∈ l.diagnostics
  /-- A reference to an enum is a type of a library, or the underlying integer. -/
  enums : ∀ site ∈ l.sites unit settings references, ∀ underlying,
    (l.scope unit references).underlying? site.core.1 = some underlying → site.form = none →
      (∃ ref, site.coreDescriptor = some (.userDefined ref)) ∨
        ∃ name, site.Lost (l.scope unit references) (.enumAsInteger name) ∧
          degraded site.subject (.enumAsInteger name) ∈ l.diagnostics
  /-- What is said to be lost is lost at a site of that member or field. -/
  remarks : ∀ e ∈ l.diagnostics, e.code ∈ degradedCodes →
    ∃ site ∈ l.sites unit settings references, ∃ loss, e = degraded site.subject loss ∧
      site.Lost (l.scope unit references) loss
  interfaces : ∀ id ∈ unit.ids, ∀ decl binding, unit.type? id = some decl →
    target? decl = some (.interface binding) → ∃ info, l.info? id = some info ∧
      MadeFrom (l.synthesis unit resolver settings references binding) decl
        (decl.members.filter fun m => m.isExportable && (l.scope unit references).describes m)
        info.functions
  classes : ∀ id ∈ unit.ids, ∀ decl creatable binding, unit.type? id = some decl →
    target? decl = some (.coClass creatable (some binding)) →
      ∃ info, l.classInterfaceInfo? id = some info ∧
        MadeFrom (l.synthesis unit resolver settings references binding) decl
          (decl.members.filter fun m => m.isExportable && (l.scope unit references).describes m)
          info.functions
  records : ∀ id ∈ unit.ids, ∀ decl, unit.type? id = some decl → target? decl = some .record →
    ∃ info, l.info? id = some info ∧ FieldsFrom (l.scope unit references) decl info.vars

namespace ExportedFrom

variable {unit : Reflection} {resolver : Resolver} {settings : Settings}
  {references : List ReferencedLibrary} {placed : List Placed} {refs : ReferenceTable} {d : Draft}
  {l : ExportedLibrary Library}

/-- Without a limit, what is lost at a site is among the diagnostics. -/
theorem degraded_mem (h : ExportedFrom unit resolver settings references placed refs d l)
    (hlimit : settings.diagnostics.warningLimit = 0) {site : Site}
    (hsite : site ∈ l.sites unit settings references) {loss : Degradation}
    (hlost : Loses (l.scope unit references) site loss) :
    degraded site.subject loss ∈ l.diagnostics := by
  obtain ⟨e, he, hcode, hsubject, hmessage⟩ := h.exists_kept hlimit (h.said_of_loses hsite hlost)
  -- What was kept in its place is a remark on a loss, too.
  obtain ⟨other, -, loss', rfl, -⟩ := h.exists_loses he (hcode ▸ (isMild_degraded _ _).1)
  rwa [← degraded_eq hcode hsubject hmessage]

/-- What stands in the place of the core of a site, and what is lost there. -/
theorem exists_referred (h : ExportedFrom unit resolver settings references placed refs d l)
    {site : Site} (hsite : site ∈ l.sites unit settings references) (hcore : IsReference site.core.1) :
    ∃ core, site.coreDescriptor = some core.type ∧
      IsReferred (l.scope unit references) site.core.1 site.form core ∧
      ∀ loss ∈ core.degradations, Loses (l.scope unit references) site loss := by
  obtain ⟨described, position, hdescribed, hdescriptor⟩ := h.isDescribed site hsite hcore
  obtain ⟨core, position', hfound, htype, hsame⟩ := exists_core hdescribed hcore
  refine ⟨core, ?_, isReferred_describeValue hcore hfound, fun loss hloss =>
    ⟨described, position, hdescribed, hsame ▸ hloss⟩⟩
  unfold Site.coreDescriptor
  rw [hdescriptor]
  exact htype

/-- **Nothing is lost in a library without a word.** -/
theorem lossesSaid (h : ExportedFrom unit resolver settings references placed refs d l)
    (hlimit : settings.diagnostics.warningLimit = 0) : LossesSaid unit resolver settings references l := by
  obtain ⟨classified, d₀, hbuilt⟩ := h.built
  have hsaid : ∀ site ∈ l.sites unit settings references, ∀ loss,
      Loses (l.scope unit references) site loss →
        site.Lost (l.scope unit references) loss ∧ degraded site.subject loss ∈ l.diagnostics :=
    fun site hsite loss hlost =>
      ⟨(h.isDescribed site hsite).of_loses hlost, h.degraded_mem hlimit hsite hlost⟩
  refine ⟨fun site hsite href hobject hform => ?_, fun site hsite underlying hunderlying hform => ?_,
    fun e he hcode => ?_, fun id hid decl binding hdecl htarget => ?_,
    fun id hid decl creatable binding hdecl htarget => ?_, fun id hid decl hdecl htarget => ?_⟩
  · obtain ⟨core, hdescriptor, hreferred, hlost⟩ := h.exists_referred hsite href
    rcases hreferred.object hobject hform with ⟨ref, htype⟩ | ⟨name, hloss⟩
    · exact .inl ⟨ref, hdescriptor.trans (congrArg some htype)⟩
    · exact .inr ⟨name, hsaid site hsite _ (hlost _ hloss)⟩
  · have href : IsReference site.core.1 := by
      cases hsame : site.core.1 with
      | named | external => trivial
      | _ =>
        rw [hsame] at hunderlying
        exact Option.noConfusion rfl (heq_of_eq hunderlying)
    obtain ⟨core, hdescriptor, hreferred, hlost⟩ := h.exists_referred hsite href
    rcases hreferred.enumeration underlying hunderlying hform with ⟨ref, htype⟩ | ⟨name, hloss⟩
    · exact .inl ⟨ref, hdescriptor.trans (congrArg some htype)⟩
    · exact .inr ⟨name, hsaid site hsite _ (hlost _ hloss)⟩
  · obtain ⟨site, hsite, loss, heq, hlost⟩ := h.exists_loses he hcode
    exact ⟨site, hsite, loss, heq, (h.isDescribed site hsite).of_loses hlost⟩
  · obtain ⟨p, hp, htype⟩ := h.exists_placed hid hdecl htarget
    obtain ⟨base, hfilled⟩ := isFilled_of_interface
      (s := (settingOf unit resolver settings refs).withDefaults placed) hp (by rw [htype])
    obtain ⟨info, hinfo, hmade⟩ := h.madeFrom hfilled
    rw [← h.info?_eq hp, htype] at hinfo
    rw [htype] at hmade
    exact ⟨info, hinfo, hmade⟩
  · obtain ⟨p, hp, htype⟩ := h.exists_placed hid hdecl htarget
    obtain ⟨c, hc, rfl⟩ := hbuilt.prepared.exists_classInterface hp (by rw [htype])
    obtain ⟨info, hinfo, hmade⟩ := h.madeFrom (.classInterface hp hc)
    rw [← h.classInterfaceInfo?_eq hp hc, htype] at hinfo
    rw [htype] at hmade
    exact ⟨info, hinfo, hmade⟩
  · obtain ⟨p, hp, htype⟩ := h.exists_placed hid hdecl htarget
    obtain ⟨info, hinfo, hfields⟩ := h.fieldsFrom hp (by rw [htype])
    rw [← h.info?_eq hp, htype] at hinfo
    rw [htype] at hfields
    exact ⟨info, hinfo, hfields⟩

end ExportedFrom

/-- **Nothing is lost without a word.** In every library that a successful run without a limit on
warnings writes out, a reference to an interface or class that no override changes is a pointer to a type
of a library, or the generic object; one to an enum is a type of a library, or the underlying integer.
Where a type was lost so, the diagnostics name it, with the member or field as their subject, and nowhere
else. -/
theorem lossesSaid_run {job : Job} {out : Output Library} (h : job.toMemory = .ok out)
    (hlimit : job.settings.diagnostics.warningLimit = 0) :
    out.Forall job fun unit => LossesSaid unit job.resolver := by
  obtain ⟨hdependencies, -, unit, hunit, placed, refs, d, hmain⟩ := madeInTurn_run h
  obtain rfl := List.mem_singleton.mp hunit
  refine ⟨hmain.lossesSaid hlimit, fun k l hl => ?_⟩
  obtain ⟨-, unit, hunit, placed, refs, d, hexported⟩ := hdependencies k l hl
  exact ⟨unit, hunit, hexported.unitName, hexported.lossesSaid hlimit⟩

/-- A unit with an interface that refers to itself and to a class that is not public, and with a record
that refers to an enum of an unknown unit. -/
def attic : Job where
  unit := SourceUnit.reflection
    { identity := { name := "Attic", version := { major := 1 }, guid := some (Guid.ofBytes [9]) }
      types :=
        [{ space := "N", name := "IAttic", guid := some (Guid.ofBytes [1]), body := .interface none
           members :=
             [(Member.method "Store" (.named 0)).addParameter
               { name := "boxes", type := .array (.named 1) }] },
         { space := "N", name := "Box", isPublic := false, body := .objectClass {} },
         { space := "N", name := "Shelf", guid := some (Guid.ofBytes [2])
           body := .record
             [{ name := "state"
                type := .external { unit := "Cellar", space := "M", name := "State"
                                    kind := .enumeration .i32 } }] }] }

/-- The elements of the array are generic objects and the field is an integer. It is said so. -/
theorem attic_lossesSaid : ∃ out, attic.toMemory = .ok out ∧
    (out.main.sites attic.unit attic.settings []).filterMap (fun site =>
      site.coreDescriptor.map fun core => (site.subject, core)) =
        [("N.IAttic.Store", .base .unknown), ("N.IAttic.Store", .pointer (.userDefined (.own ⟨0⟩))),
          ("N.Shelf.state", .base .i4)] ∧
    out.main.diagnostics = [degraded "N.IAttic.Store" (.genericObject "N.Box"),
      degraded "N.Shelf.state" (.enumAsInteger "M.State")] ∧
    LossesSaid attic.unit attic.resolver attic.settings [] out.main := by
  obtain ⟨out, h, hview⟩ : ∃ out, attic.toMemory = .ok out ∧
      ((out.main.sites attic.unit attic.settings []).filterMap (fun site =>
          site.coreDescriptor.map fun core => (site.subject, core)),
        out.main.diagnostics, out.dependencies.length) =
      ([("N.IAttic.Store", .base .unknown), ("N.IAttic.Store", .pointer (.userDefined (.own ⟨0⟩))),
          ("N.Shelf.state", .base .i4)],
        [degraded "N.IAttic.Store" (.genericObject "N.Box"),
          degraded "N.Shelf.state" (.enumAsInteger "M.State")], 0) :=
    Job.exists_output (by decide +kernel)
  simp only [Prod.mk.injEq, List.length_eq_zero_iff] at hview
  obtain ⟨hsites, hdiagnostics, hnone⟩ := hview
  have hsaid := (lossesSaid_run h rfl).1
  rw [hnone] at hsaid
  exact ⟨out, h, hsites, hdiagnostics, hsaid⟩

end Automation.Export
