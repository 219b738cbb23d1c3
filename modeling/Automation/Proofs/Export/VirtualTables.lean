import Automation.Proofs.Export.Libraries
import Automation.Proofs.Export.Tables

/-!
# Virtual tables of a library

In every library that a successful run writes out, the functions of an interface fill the slots after
those of the standard contracts and of the base chain, one after the other: `offset_eq`. The layout
has found no fault, so no base chain crosses a cut, and the tables have counted what the layout
counts.
-/

namespace Automation.Export

open Library Source

/-- **Virtual tables have no gap and no overlap.** In every library that a successful run writes out,
the functions of a type come one after the other, after the slots of the standard contracts and those
of its base chain. -/
theorem offset_eq {job : Job} {out : Output Library} (h : job.toMemory = .ok out)
    {l : ExportedLibrary Library} (hl : l ∈ out.main :: out.dependencies)
    (hfew : (l.library.types.map (·.functions.length)).sum < 2 ^ 28) {i j : Nat} {t : TypeInfo}
    {f : FunctionInfo} (ht : l.library.types[i]? = some t) (hf : t.functions[j]? = some f) :
    f.desc.offset =
      (reservedSlots t.kind t.flags + inheritedSlots l.library.types i + j) *
        l.library.attributes.pointerWidth.bytes := by
  obtain ⟨unit, -, settings, references, placed, refs, d, -, hexported⟩ :=
    exists_exportedFrom h l hl
  obtain ⟨classified, d₀, hbuilt⟩ := hexported.built
  have hfunctions : t.functions ≠ [] := by
    rintro hnone
    rw [hnone] at hf
    exact nomatch hf
  have htype : d.infos[i]? = some t := hexported.types ▸ ht
  have hkind := hbuilt.isInterface_of_functions htype hfunctions
  have htable := hbuilt.tabledAt htype hkind
  have hfault := hexported.interfaceFault? ht hkind
  rw [hexported.attributes, hexported.types] at hfault
  rw [hexported.types] at hfew
  rw [hexported.attributes, hexported.types]
  exact htable.offset hfew ((htable.interfaceFault?_eq_none hfew).mp hfault) hf

/-- A unit with three interfaces, each of which is declared before its base. -/
def alarms : Job where
  unit := SourceUnit.reflection
    { identity := { name := "Clocks", version := { major := 1 }, guid := some (Guid.ofBytes [9]) }
      types :=
        [{ space := "N", name := "IAlarm", guid := some (Guid.ofBytes [1])
           body := .interface none, interfaces := [.named 1]
           members := [Member.method "Ring" .void, Member.method "Snooze" .void] },
         { space := "N", name := "IClock", guid := some (Guid.ofBytes [2])
           body := .interface none, interfaces := [.named 2]
           members := [Member.getter "Time" (.scalar .i32), Member.setter "Time" (.scalar .i32)] },
         { space := "N", name := "IDevice", guid := some (Guid.ofBytes [3])
           body := .interface none, members := [Member.method "Reset" .void] }] }

/-- The second function of the first interface comes after seven reserved slots, three of its bases
and its first function. -/
theorem alarms_offset : ∃ out t f, alarms.toMemory = .ok out ∧
    (out.main.library.types.map (·.functions.length)).sum < 2 ^ 28 ∧
    out.main.library.types[0]? = some t ∧ t.functions[1]? = some f ∧
    f.desc.offset = (7 + 3 + 1) * 8 := by
  have hview : alarms.toMemory.toOption.map (fun out =>
      ((out.main.library.types.map (·.functions.length)).sum,
        out.main.library.types[0]?.map fun t =>
          (t.functions.length, reservedSlots t.kind t.flags),
        inheritedSlots out.main.library.types 0, out.main.library.attributes.pointerWidth.bytes)) =
      some (5, some (2, 7), 3, 8) := by
    decide +kernel
  cases h : alarms.toMemory with
  | error e =>
    rw [h] at hview
    exact Option.noConfusion rfl (heq_of_eq hview)
  | ok out =>
    rw [h] at hview
    obtain ⟨hsum, htype, hinherited, hbytes⟩ :
        _ ∧ _ ∧ inheritedSlots out.main.library.types 0 = 3 ∧ _ := by
      simpa only [Prod.mk.injEq] using Option.some.inj hview
    obtain ⟨t, ht, hshape⟩ := Option.map_eq_some_iff.mp htype
    obtain ⟨hlength, hreserved⟩ := Prod.mk.inj hshape
    have hlt : 1 < t.functions.length := hlength ▸ Nat.lt_succ_self 1
    have hf : t.functions[1]? = some t.functions[1] := List.getElem?_eq_getElem hlt
    have hfew : (out.main.library.types.map (·.functions.length)).sum < 2 ^ 28 := by
      rw [hsum]
      decide
    refine ⟨out, t, t.functions[1], rfl, hfew, ht, hf, ?_⟩
    rw [offset_eq h List.mem_cons_self hfew ht hf, hreserved, hinherited, hbytes]

end Automation.Export
