import Automation.Proofs.Export.Makers
import Automation.Proofs.Export.Overloads

/-!
# Names of accessors

Functions share a dispatch id as accessors of one property, but each of them asks for its name on its
own, with the alias that its member declares. `names_of_memid` says what an id tells about names: names
that the resolver makes alike for the accessors stay alike when names are told apart. So it is for
accessors that spell the property alike and declare one alias or none, and however they spell it if the
resolver keeps names. An accessor with an alias of its own has a name of its own (`gauge_misnamed`).
-/

namespace Automation.Export

open Library Source

/-- The name that the function of a member is given, before names are told apart. -/
def mappedName (y : Synthesis) (owner : TypeDecl) (m : Member) : String :=
  y.resolver (memberQuestion owner m)

variable {y : Synthesis} {owner : TypeDecl} {base : Inherited} {m m' : Member} {i j : Nat}
  {f g s t : SynthesizedFunction}

/-- The question for the name of a member depends on its property and its alias only. -/
theorem mappedName_congr {property : String} (hm : m.property? = some property)
    (hm' : m'.property? = some property) (halias : m.exportName = m'.exportName) :
    mappedName y owner m = mappedName y owner m' := by
  unfold mappedName memberQuestion
  rw [hm, hm', halias]
  rfl

/-- A resolver that keeps names gives an accessor its alias, or else the name of its property. -/
theorem mappedName_keep {property : String} (hkeep : y.resolver = Resolver.keep)
    (hm : m.property? = some property) : mappedName y owner m = m.exportName.getD property := by
  unfold mappedName memberQuestion
  rw [hkeep, hm]
  rfl

/-- **What a dispatch id tells about names.** Functions with one id are one function, or functions of
different kinds that accessors of one property make, whatever the case of its name. Their names differ
at most in case if those do that the accessors are mapped to. So it is for accessors that spell the
property alike and declare one alias or none, and, if the resolver keeps names, for all accessors that
declare none or aliases that differ at most in case. -/
theorem names_of_memid (hf : (interfaceFunctions y owner base).functions[i]? = some f)
    (hg : (interfaceFunctions y owner base).functions[j]? = some g)
    (hmemid : f.desc.memid = g.desc.memid) :
    ∃ m m', (makers y owner)[i]? = some m ∧ (makers y owner)[j]? = some m' ∧
      (i ≠ j → f.desc.invoke ≠ g.desc.invoke ∧ ShareProperty m m') ∧
      (Text.nameKey (mappedName y owner m) = Text.nameKey (mappedName y owner m') →
        Text.nameKey f.name = Text.nameKey g.name) ∧
      (m.property? = m'.property? → m.exportName = m'.exportName →
        Text.nameKey f.name = Text.nameKey g.name) ∧
      (y.resolver = Resolver.keep →
        m.exportName.map Text.nameKey = m'.exportName.map Text.nameKey →
          Text.nameKey f.name = Text.nameKey g.name) := by
  obtain ⟨s, -, -, -, hs, -⟩ := getElem?_functions hf
  obtain ⟨t, -, -, -, ht, -⟩ := getElem?_functions hg
  obtain ⟨m, hm, hmade⟩ := exists_maker hs
  obtain ⟨m', hm', hmade'⟩ := exists_maker ht
  have hmapped (hkey : Text.nameKey (mappedName y owner m) = Text.nameKey (mappedName y owner m')) :
      Text.nameKey f.name = Text.nameKey g.name := by
    unfold mappedName at hkey
    rw [← name_of_synthesize hmade, ← name_of_synthesize hmade'] at hkey
    exact nameKey_name_congr hf hg hs ht (places_of_memid hf hg hmemid) hkey
  have hshare (hij : i ≠ j) : f.desc.invoke ≠ g.desc.invoke ∧ ShareProperty m m' := by
    obtain ⟨hinvoke, n, n', hn, hn', hsame⟩ := makers_of_memid hij hf hg hmemid
    obtain rfl := Option.some.inj (hm.symm.trans hn)
    obtain rfl := Option.some.inj (hm'.symm.trans hn')
    exact ⟨hinvoke, hsame⟩
  refine ⟨m, m', hm, hm', hshare, hmapped, fun hspelled halias => ?_, fun hkeep halias => ?_⟩
  all_goals
    by_cases hij : i = j
    · subst hij
      rw [Option.some.inj (hf.symm.trans hg)]
    obtain ⟨-, property, property', hp, hp', hkey⟩ := hshare hij
  · exact hmapped (congrArg _ (mappedName_congr hp (hspelled ▸ hp) halias))
  · refine hmapped ?_
    rw [mappedName_keep hkeep hp, mappedName_keep hkeep hp', ← Option.getD_map Text.nameKey,
      ← Option.getD_map Text.nameKey, halias, hkey]

/-- The accessors of the property of a lamp are called alike, though they do not spell it alike. -/
theorem lamp_named : ∃ f g, (interfaceFunctions .plain lamp {}).functions[3]? = some f ∧
    (interfaceFunctions .plain lamp {}).functions[4]? = some g ∧ f.desc.memid = g.desc.memid ∧
    Text.nameKey f.name = Text.nameKey g.name := by
  obtain ⟨f, g, hf, hg⟩ := exists_lamp_accessors
  have hmemid : f.desc.memid = g.desc.memid := by
    have hsame : (interfaceFunctions .plain lamp {}).functions[3]?.map (·.desc.memid) =
        (interfaceFunctions .plain lamp {}).functions[4]?.map (·.desc.memid) := by
      decide +kernel
    rw [hf, hg] at hsame
    exact Option.some.inj hsame
  have haliases : (makers .plain lamp).map (·.exportName) = List.replicate 5 none := by
    decide +kernel
  obtain ⟨m, m', hm, hm', -, -, -, hkeep⟩ := names_of_memid hf hg hmemid
  have halias (n : Member) (hn : n ∈ makers .plain lamp) : n.exportName = none :=
    List.eq_of_mem_replicate (haliases ▸ List.mem_map_of_mem hn)
  exact ⟨f, g, hf, hg, hmemid, hkeep rfl (by
    rw [halias m (List.mem_of_getElem? hm), halias m' (List.mem_of_getElem? hm')])⟩

/-- An interface whose property goes by one alias when it is read, and by another when it is written. -/
def gauge : TypeDecl where
  space := "N"
  name := "IGauge"
  body := .interface none
  members :=
    [{ Member.getter "Level" (.scalar .i32) with exportName := some "Reading" },
      { Member.setter "Level" (.scalar .i32) with exportName := some "Setting" }]

/-- The accessors of the property share an id, but no name. -/
theorem gauge_misnamed : ∃ f g, (interfaceFunctions .plain gauge {}).functions[0]? = some f ∧
    (interfaceFunctions .plain gauge {}).functions[1]? = some g ∧ f.desc.memid = g.desc.memid ∧
    Text.nameKey f.name ≠ Text.nameKey g.name :=
  ⟨_, _, rfl, rfl, by decide +kernel, by decide +kernel⟩

end Automation.Export
