import Automation.Proofs.Export.NameRequests

/-!
# Names do not depend on the order of types

A type that shares its name with another one goes by its alternative in the end, and any other type by
its plain name: `typeName?_register_of_perm`. This needs alternatives that are told apart and that
nobody asks for. Those of types in a namespace are the names behind it. A type without a namespace has
nothing to stand behind, so its alternative is the second form of its name, and it is this one that has
to be free: `rivals_disordered`.
-/

namespace Automation.Export

open Source

variable {present all all' order : List Candidate} {c c' holder : Candidate}

namespace Candidate

/-- Another candidate asks for the same name, whatever the case. -/
def Shares (c : Candidate) (all : List Candidate) : Prop :=
  ∃ other ∈ all, other.id ≠ c.id ∧ Text.nameKey other.name = Text.nameKey c.name

instance (c : Candidate) (all : List Candidate) : Decidable (c.Shares all) :=
  inferInstanceAs (Decidable (∃ other ∈ all, _))

/-- The namespace with underscores for dots, an underscore, and the name. -/
def behindSpace (c : Candidate) : String :=
  String.ofList (c.space.toList.map fun ch => if ch = '.' then '_' else ch) ++ "_" ++ c.name

/-- The name of a candidate that cannot have its plain name: that behind its namespace, or the second
form of its name where there is no namespace. -/
def alternative (c : Candidate) : String :=
  if c.space.isEmpty then Text.numbered c.name 2 else c.behindSpace

/-- The name that a candidate has in the end, if those that share a name get the given ones. -/
def settledName (alternative : Candidate → String) (all : List Candidate) (c : Candidate) : String :=
  if c.Shares all then alternative c else c.name

theorem Shares.mono (h : c.Shares all) (hsub : all ⊆ all') : c.Shares all' :=
  let ⟨other, hother, hshare⟩ := h
  ⟨other, hsub hother, hshare⟩

theorem shares_congr (h : ∀ other, other ∈ all ↔ other ∈ all') : c.Shares all ↔ c.Shares all' :=
  exists_congr fun _ => and_congr_left fun _ => h _

/-- A further candidate only matters to those that ask for its name. -/
theorem shares_append_singleton (hid : c.id ≠ c'.id) :
    c'.Shares (all ++ [c]) ↔ c'.Shares all ∨ Text.nameKey c.name = Text.nameKey c'.name := by
  unfold Shares
  simp only [List.mem_append, List.mem_singleton, or_and_right, exists_or, exists_eq_left]
  exact or_congr_right (and_iff_right hid)

theorem shares_append_singleton_of_ne (hid : c.id ≠ c'.id)
    (hne : Text.nameKey c'.name ≠ Text.nameKey c.name) :
    c'.Shares (all ++ [c]) ↔ c'.Shares all := by
  rw [shares_append_singleton hid]
  exact or_iff_left hne.symm

end Candidate

/-- The candidates are told apart by their identifiers, and those that share a name by their
alternatives, which nobody asks for. -/
structure Separable (alternative : Candidate → String) (all : List Candidate) : Prop where
  ids : (all.map (·.id)).Nodup
  apart : ∀ c ∈ all, c.Shares all → ∀ c' ∈ all, c'.Shares all → c.id ≠ c'.id →
    Text.nameKey (alternative c) ≠ Text.nameKey (alternative c')
  free : ∀ c ∈ all, c.Shares all → ∀ c' ∈ all,
    Text.nameKey (alternative c) ≠ Text.nameKey c'.name

variable {alternative : Candidate → String}

theorem Separable.sublist (h : Separable alternative all') (hsub : all.Sublist all') :
    Separable alternative all where
  ids := h.ids.sublist (hsub.map _)
  apart c hc hs c' hc' hs' :=
    h.apart c (hsub.subset hc) (hs.mono hsub.subset) c' (hsub.subset hc') (hs'.mono hsub.subset)
  free c hc hs c' hc' := h.free c (hsub.subset hc) (hs.mono hsub.subset) c' (hsub.subset hc')

theorem Separable.perm (h : Separable alternative all) (hperm : order.Perm all) :
    Separable alternative order where
  ids := (hperm.map _).nodup_iff.mpr h.ids
  apart c hc hs c' hc' hs' := h.apart c (hperm.subset hc) (hs.mono hperm.subset) c'
    (hperm.subset hc') (hs'.mono hperm.subset)
  free c hc hs c' hc' := h.free c (hperm.subset hc) (hs.mono hperm.subset) c' (hperm.subset hc')

/-- Candidates that ask for one name share it, unless they are the same. -/
theorem Separable.shares_of_nameKey (h : Separable alternative all) (hc : c ∈ all) (hc' : c' ∈ all)
    (hne : c ≠ c') (hkey : Text.nameKey c'.name = Text.nameKey c.name) : c.Shares all :=
  ⟨c', hc', fun hid => hne (NameRegistry.eq_of_id h.ids hc hc' hid.symm), hkey⟩

/-- The last candidate has an identifier of its own. -/
theorem Separable.ne_last (h : Separable alternative (all ++ [c])) (hc' : c' ∈ all) : c.id ≠ c'.id := by
  have hids := h.ids
  rw [List.map_append] at hids
  exact ((List.nodup_append.mp hids).2.2 _ (List.mem_map_of_mem hc') _ List.mem_cons_self).symm

namespace NameRegistry

/-- The registry in which the candidates have registered, in order. -/
def register (order : List Candidate) : NameRegistry := after {} (order.map .type)

variable {r : NameRegistry}

theorem register_append_singleton (order : List Candidate) (c : Candidate) :
    register (order ++ [c]) = ((register order).addType c).1 := by
  unfold register
  rw [List.map_append, after_append]
  rfl

theorem lookup_assign (r : NameRegistry) (id : TypeId) (name : String) (use : NameUse)
    (key : String) : (r.assign id name use).uses.lookup key =
      if key = Text.nameKey name then some use else r.uses.lookup key :=
  lookup_record r name use key

/-! ## One more type -/

theorem addType_of_free (h : Text.nameKey c.name ∉ r.keys) :
    (r.addType c).1 = r.assign c.id c.name (.held c) := by
  have hnone : r.uses.lookup (Text.nameKey c.name) = none := by
    rw [← Option.not_isSome_iff_eq_none]
    exact fun htaken => h (isTaken_iff.mp htaken)
  unfold addType
  rw [hnone]
  rfl

theorem addType_of_held (h : r.uses.lookup (Text.nameKey c.name) = some (.held holder)) :
    (r.addType c).1 = (((r.record c.name .contested).rename holder).1.rename c).1 := by
  unfold addType
  rw [h]

theorem addType_of_contested (h : r.uses.lookup (Text.nameKey c.name) = some .contested) :
    (r.addType c).1 = (r.rename c).1 := by
  unfold addType
  rw [h]

theorem freeName_of_free {wanted : String} (h : Text.nameKey wanted ∉ r.keys) :
    r.freeName wanted = wanted := by
  have hfree : ¬r.isTaken (Text.numbered wanted 1) = true := fun htaken => h (isTaken_iff.mp htaken)
  rw [freeName, firstFree, if_neg hfree]
  rfl

theorem freeName_of_taken {wanted : String} (htaken : Text.nameKey wanted ∈ r.keys)
    (h : Text.nameKey (Text.numbered wanted 2) ∉ r.keys) :
    r.freeName wanted = Text.numbered wanted 2 := by
  have hfirst : r.isTaken (Text.numbered wanted 1) = true := isTaken_iff.mpr htaken
  have hsecond : ¬r.isTaken (Text.numbered wanted 2) = true := fun htaken => h (isTaken_iff.mp htaken)
  obtain ⟨bound, hbound⟩ : ∃ bound, r.uses.length = bound + 1 :=
    Nat.exists_eq_succ_of_ne_zero fun hnone => by
      rw [keys, List.length_eq_zero_iff.mp hnone] at htaken
      exact List.not_mem_nil htaken
  rw [freeName, hbound, firstFree, if_pos hfirst, firstFree, if_neg hsecond]

/-- A type whose plain name is taken gets its alternative, if that is free. -/
theorem rename_of_free (htaken : Text.nameKey c.name ∈ r.keys)
    (h : Text.nameKey c.alternative ∉ r.keys) :
    (r.rename c).1 = r.assign c.id c.alternative .reserved := by
  have hname : r.freeName c.prefixed = c.alternative := by
    unfold Candidate.alternative Candidate.prefixed at *
    split at h
    · next hspace =>
      rw [if_pos hspace, if_pos hspace]
      exact freeName_of_taken htaken h
    · next hspace =>
      rw [if_neg hspace, if_neg hspace]
      exact freeName_of_free h
  rw [rename_eq, hname]

/-! ## Types that have their names -/

/-- Those of the candidates that are present have the names that they end up with. They hold their plain
names or have left them to nobody, and nothing else is in use but alternatives of those that share
names. -/
structure Settled (present all : List Candidate) (r : NameRegistry) : Prop where
  named : ∀ c ∈ present, r.typeName? c.id = some (c.settledName Candidate.alternative all)
  held : ∀ c ∈ present, ¬c.Shares all → r.uses.lookup (Text.nameKey c.name) = some (.held c)
  contested : ∀ c ∈ present, c.Shares all → r.uses.lookup (Text.nameKey c.name) = some .contested
  keys : ∀ key ∈ r.keys, (∃ c ∈ present, Text.nameKey c.name = key) ∨
    ∃ c ∈ present, c.Shares all ∧ Text.nameKey c.alternative = key

theorem settled_empty : Settled [] [] {} :=
  ⟨fun _ h => (nomatch h), fun _ h => (nomatch h), fun _ h => (nomatch h), fun _ h => (nomatch h)⟩

theorem Settled.congr (h : Settled present all r)
    (hshares : ∀ c ∈ present, (c.Shares all ↔ c.Shares all')) : Settled present all' r where
  named c hc := by
    rw [h.named c hc]
    simp only [Candidate.settledName, hshares c hc]
  held c hc hs := h.held c hc fun hs' => hs ((hshares c hc).mp hs')
  contested c hc hs := h.contested c hc ((hshares c hc).mpr hs)
  keys key hkey := (h.keys key hkey).imp_right fun ⟨c, hc, hs, hkey⟩ =>
    ⟨c, hc, (hshares c hc).mp hs, hkey⟩

/-- The alternative of a candidate is free until the candidate has to take it. -/
theorem Settled.alternative_free (h : Settled present all r)
    (hsep : Separable Candidate.alternative all') (hpresent : present ⊆ all) (hsub : all ⊆ all')
    (hc : c ∈ all') (hshares : c.Shares all') (hnew : c ∈ present → ¬c.Shares all) :
    Text.nameKey c.alternative ∉ r.keys := by
  intro hmem
  rcases h.keys _ hmem with ⟨d, hd, hkey⟩ | ⟨d, hd, hdshares, hkey⟩
  · exact hsep.free c hc hshares d (hsub (hpresent hd)) hkey.symm
  · have hd' : d ∈ all' := hsub (hpresent hd)
    refine hsep.apart c hc hshares d hd' (hdshares.mono hsub) (fun hid => ?_) hkey.symm
    obtain rfl := eq_of_id hsep.ids hc hd' hid
    exact hnew hd hdshares

/-- A type arrives and gets the name that it ends up with. -/
theorem Settled.arrive (h : Settled present all r) (hsep : Separable Candidate.alternative all)
    (hpresent : present ⊆ all) (hc : c ∈ all) (hnew : c ∉ present) {use : NameUse}
    (huse : ¬c.Shares all ∧ use = .held c ∨
      c.Shares all ∧ r.uses.lookup (Text.nameKey c.name) = some .contested) :
    Settled (present ++ [c]) all
      (r.assign c.id (c.settledName Candidate.alternative all) use) := by
  have hne : ∀ c' ∈ present, c' ≠ c := fun c' hc' hsame => hnew (hsame ▸ hc')
  have hkeys : ∀ c' ∈ present, Text.nameKey c'.name ≠
      Text.nameKey (c.settledName Candidate.alternative all) := by
    intro c' hc' hkey
    unfold Candidate.settledName at hkey
    split at hkey
    · next hs => exact hsep.free c hc hs c' (hpresent hc') hkey.symm
    · next hs => exact hs (hsep.shares_of_nameKey hc (hpresent hc') (hne c' hc').symm hkey)
  refine ⟨?named, ?held, ?contested, ?keys⟩
  case named =>
    refine List.forall_mem_append.mpr ⟨fun c' hc' => ?_, List.forall_mem_singleton.mpr ?_⟩
    · have hid : c'.id ≠ c.id := fun hid =>
        hne c' hc' (eq_of_id hsep.ids (hpresent hc') hc hid)
      rw [typeName?_assign, if_neg hid, h.named c' hc']
    · rw [typeName?_assign, if_pos rfl]
  case held =>
    refine List.forall_mem_append.mpr ⟨fun c' hc' hs => ?_,
      List.forall_mem_singleton.mpr fun hs => ?_⟩
    · rw [lookup_assign, if_neg (hkeys c' hc'), h.held c' hc' hs]
    · obtain ⟨-, rfl⟩ := huse.resolve_right fun hshared => hs hshared.1
      rw [lookup_assign, Candidate.settledName, if_neg hs, if_pos rfl]
  case contested =>
    refine List.forall_mem_append.mpr ⟨fun c' hc' hs => ?_,
      List.forall_mem_singleton.mpr fun hs => ?_⟩
    · rw [lookup_assign, if_neg (hkeys c' hc'), h.contested c' hc' hs]
    · obtain ⟨-, hcontested⟩ := huse.resolve_left fun halone => halone.1 hs
      rw [lookup_assign, Candidate.settledName, if_pos hs, if_neg (hsep.free c hc hs c hc).symm,
        hcontested]
  case keys =>
    have hmem : c ∈ present ++ [c] := List.mem_append_right _ List.mem_cons_self
    refine List.forall_mem_cons.mpr ⟨?_, fun key hkey => ?_⟩
    · by_cases hs : c.Shares all
      · exact .inr ⟨c, hmem, hs, by rw [Candidate.settledName, if_pos hs]⟩
      · exact .inl ⟨c, hmem, by rw [Candidate.settledName, if_neg hs]⟩
    · rcases h.keys key hkey with ⟨c', hc', hkey⟩ | ⟨c', hc', hs, hkey⟩
      · exact .inl ⟨c', List.mem_append_left _ hc', hkey⟩
      · exact .inr ⟨c', List.mem_append_left _ hc', hs, hkey⟩

/-- The type that holds a name leaves it when another one asks for it. -/
theorem Settled.displace (h : Settled all all r)
    (hsep : Separable Candidate.alternative (all ++ [c])) (hholder : holder ∈ all)
    (halone : ¬holder.Shares all) (hkey : Text.nameKey holder.name = Text.nameKey c.name) :
    Settled all (all ++ [c]) ((r.record c.name .contested).rename holder).1 := by
  have hsub : all ⊆ all ++ [c] := List.subset_append_left _ _
  have hinit := hsep.sublist (List.sublist_append_left all [c])
  have hshares : holder.Shares (all ++ [c]) :=
    (Candidate.shares_append_singleton (hsep.ne_last hholder)).mpr (.inr hkey.symm)
  have hothers : ∀ c' ∈ all, c' ≠ holder → Text.nameKey c'.name ≠ Text.nameKey c.name :=
    fun c' hc' hne hsame =>
      halone (hinit.shares_of_nameKey hholder hc' hne.symm (hsame.trans hkey.symm))
  have hiff : ∀ c' ∈ all, c' ≠ holder → (c'.Shares (all ++ [c]) ↔ c'.Shares all) :=
    fun c' hc' hne =>
      Candidate.shares_append_singleton_of_ne (hsep.ne_last hc') (hothers c' hc' hne)
  have hfree : Text.nameKey holder.alternative ∉ (r.record c.name .contested).keys := by
    refine List.not_mem_cons_of_ne_of_not_mem ?_ ?_
    · exact hsep.free holder (hsub hholder) hshares c (List.mem_append_right _ List.mem_cons_self)
    · exact h.alternative_free hsep (List.Subset.refl _) hsub (hsub hholder) hshares fun _ => halone
  rw [rename_of_free (hkey ▸ List.mem_cons_self) hfree]
  have hlookup : ∀ c' ∈ all,
      ((r.record c.name .contested).assign holder.id holder.alternative .reserved).uses.lookup
        (Text.nameKey c'.name) =
      if Text.nameKey c'.name = Text.nameKey c.name then some .contested
      else r.uses.lookup (Text.nameKey c'.name) := by
    intro c' hc'
    rw [lookup_assign, if_neg (hsep.free holder (hsub hholder) hshares c' (hsub hc')).symm,
      lookup_record]
  refine ⟨fun c' hc' => ?named, fun c' hc' hs => ?held, fun c' hc' hs => ?contested, ?keys⟩
  case named =>
    rw [typeName?_assign, typeName?_record]
    by_cases hne : c' = holder
    · rw [hne, if_pos rfl, Candidate.settledName, if_pos hshares]
    · rw [if_neg fun hid => hne (eq_of_id hinit.ids hc' hholder hid), h.named c' hc']
      simp only [Candidate.settledName, hiff c' hc' hne]
  case held =>
    have hne : c' ≠ holder := fun hsame => hs (hsame ▸ hshares)
    rw [hlookup c' hc', if_neg (hothers c' hc' hne)]
    exact h.held c' hc' fun hs' => hs ((hiff c' hc' hne).mpr hs')
  case contested =>
    rw [hlookup c' hc']
    by_cases hne : c' = holder
    · rw [if_pos (hne ▸ hkey)]
    · rw [if_neg (hothers c' hc' hne)]
      exact h.contested c' hc' ((hiff c' hc' hne).mp hs)
  case keys =>
    refine List.forall_mem_cons.mpr ⟨.inr ⟨holder, hholder, hshares, rfl⟩,
      List.forall_mem_cons.mpr ⟨.inl ⟨holder, hholder, hkey⟩, fun key hmem => ?_⟩⟩
    exact (h.keys key hmem).imp_right fun ⟨c', hc', hs, hkey⟩ => ⟨c', hc', hs.mono hsub, hkey⟩

/-- A type that asks for a name that nobody has any more gets its alternative. -/
theorem Settled.arrive_late (h : Settled all (all ++ [c]) r)
    (hsep : Separable Candidate.alternative (all ++ [c])) (hc' : c' ∈ all)
    (hkey : Text.nameKey c'.name = Text.nameKey c.name) :
    Settled (all ++ [c]) (all ++ [c]) (r.rename c).1 := by
  have hsub : all ⊆ all ++ [c] := List.subset_append_left _ _
  have hc : c ∈ all ++ [c] := List.mem_append_right _ List.mem_cons_self
  have hnew : c ∉ all := fun hmem => hsep.ne_last hmem rfl
  have hshares : c.Shares (all ++ [c]) := ⟨c', hsub hc', (hsep.ne_last hc').symm, hkey⟩
  have hcontested : r.uses.lookup (Text.nameKey c.name) = some .contested :=
    hkey ▸ h.contested c' hc' ⟨c, hc, hsep.ne_last hc', hkey.symm⟩
  have htaken : Text.nameKey c.name ∈ r.keys :=
    isTaken_iff.mp (by rw [isTaken, hcontested]; rfl)
  have hfree := h.alternative_free hsep hsub (List.Subset.refl _) hc hshares fun hmem =>
    (hnew hmem).elim
  have harrived : Settled (all ++ [c]) (all ++ [c])
      (r.assign c.id (c.settledName Candidate.alternative (all ++ [c])) .reserved) :=
    h.arrive hsep hsub hc hnew (.inr ⟨hshares, hcontested⟩)
  rw [Candidate.settledName, if_pos hshares] at harrived
  rw [rename_of_free htaken hfree]
  exact harrived

/-- A type that asks for a name that nobody else asks for gets it. -/
theorem Settled.arrive_alone (h : Settled all all r)
    (hsep : Separable Candidate.alternative (all ++ [c]))
    (hfirst : ∀ c' ∈ all, Text.nameKey c'.name ≠ Text.nameKey c.name) :
    Settled (all ++ [c]) (all ++ [c]) (r.addType c).1 := by
  have hsub : all ⊆ all ++ [c] := List.subset_append_left _ _
  have hc : c ∈ all ++ [c] := List.mem_append_right _ List.mem_cons_self
  have halone : ¬c.Shares (all ++ [c]) := by
    rintro ⟨c', hc', hid, hkey⟩
    rcases List.mem_append.mp hc' with hc' | hc'
    · exact hfirst c' hc' hkey
    · exact hid (congrArg _ (List.mem_singleton.mp hc'))
  have hfree : Text.nameKey c.name ∉ r.keys := by
    intro hmem
    rcases h.keys _ hmem with ⟨c', hc', hkey⟩ | ⟨c', hc', hs, hkey⟩
    · exact hfirst c' hc' hkey
    · exact hsep.free c' (hsub hc') (hs.mono hsub) c hc hkey
  have hcongr : Settled all (all ++ [c]) r := h.congr fun c' hc' =>
    (Candidate.shares_append_singleton_of_ne (hsep.ne_last hc') (hfirst c' hc')).symm
  have harrived := hcongr.arrive hsep hsub hc (fun hmem => hsep.ne_last hmem rfl)
    (.inl ⟨halone, rfl⟩)
  rw [Candidate.settledName, if_neg halone] at harrived
  rw [addType_of_free hfree]
  exact harrived

/-- **One more type leaves all types with the names that they end up with.** -/
theorem Settled.addType (h : Settled all all r)
    (hsep : Separable Candidate.alternative (all ++ [c])) :
    Settled (all ++ [c]) (all ++ [c]) (r.addType c).1 := by
  by_cases hfirst : ∀ c' ∈ all, Text.nameKey c'.name ≠ Text.nameKey c.name
  case pos => exact h.arrive_alone hsep hfirst
  case neg =>
    push Not at hfirst
    obtain ⟨c', hc', hkey⟩ := hfirst
    by_cases hs : c'.Shares all
    · -- A third type finds the name contested, and nobody else is concerned.
      have hinit := hsep.sublist (List.sublist_append_left all [c])
      have hcongr : Settled all (all ++ [c]) r := h.congr fun d hd => by
        rw [Candidate.shares_append_singleton (hsep.ne_last hd)]
        refine (or_iff_left_of_imp fun hsame => ?_).symm
        by_cases hne : d = c'
        · exact hne ▸ hs
        · exact hinit.shares_of_nameKey hd hc' hne (hkey.trans hsame)
      rw [addType_of_contested (hkey ▸ h.contested c' hc' hs)]
      exact hcongr.arrive_late hsep hc' hkey
    · rw [addType_of_held (hkey ▸ h.held c' hc' hs)]
      exact (h.displace hsep hc' hs hkey).arrive_late hsep hc' hkey

theorem settled_register (h : Separable Candidate.alternative all) :
    Settled all all (register all) := by
  induction all using List.reverseRecOn with
  | nil => exact settled_empty
  | append_singleton init c ih =>
    rw [register_append_singleton]
    exact (ih (h.sublist (List.sublist_append_left init [c]))).addType h

/-- **Names do not depend on the order of types.** In whatever order the candidates register, each of
them goes by its plain name in the end, or by its alternative if it shares its plain name. -/
theorem typeName?_register_of_perm (h : Separable Candidate.alternative all)
    (horder : order.Perm all) : ∀ c ∈ all,
      (register order).typeName? c.id = some (c.settledName Candidate.alternative all) := by
  intro c hc
  rw [(settled_register (h.perm horder)).named c (horder.mem_iff.mpr hc)]
  simp only [Candidate.settledName, Candidate.shares_congr fun _ => horder.mem_iff]

/-- Three types that ask for one name, one of them without a namespace, and a type that asks for
another. -/
def lamps : List Candidate :=
  [{ id := 0, space := "Hall.Low", qualified := "Hall.Low.Lamp", name := "Lamp" },
    { id := 1, space := "", qualified := "LAMP", name := "LAMP" },
    { id := 2, space := "Shop", qualified := "Shop.lamp", name := "lamp" },
    { id := 3, space := "Shop", qualified := "Shop.Desk", name := "Desk" }]

theorem lamps_settled :
    Separable Candidate.alternative lamps ∧ lamps.reverse.Perm lamps ∧
      lamps.map (Candidate.settledName Candidate.alternative lamps) =
        ["Hall_Low_Lamp", "LAMP_2", "Shop_lamp", "Desk"] ∧
      ∀ c ∈ lamps, (register lamps.reverse).typeName? c.id =
        some (c.settledName Candidate.alternative lamps) := by
  have hsep : Separable Candidate.alternative lamps :=
    ⟨by decide, by decide +kernel, by decide +kernel⟩
  have horder : lamps.reverse.Perm lamps := List.reverse_perm lamps
  exact ⟨hsep, horder, by decide +kernel, typeName?_register_of_perm hsep horder⟩

/-- Two types that ask for one name, one of them without a namespace, and a type that asks for the
second form of that name. -/
def rivals : List Candidate :=
  [{ id := 0, space := "", qualified := "Lamp", name := "Lamp" },
    { id := 1, space := "Hall", qualified := "Hall.Lamp", name := "Lamp" },
    { id := 2, space := "Shop", qualified := "Shop.Lamp_2", name := "Lamp_2" }]

/-- Names that only differ from each other behind namespaces depend on the order, as a type without a
namespace takes a number instead of standing behind it. -/
theorem rivals_disordered :
    Separable Candidate.behindSpace rivals ∧ rivals.reverse.Perm rivals ∧
      rivals.map (Candidate.settledName Candidate.behindSpace rivals) =
        ["_Lamp", "Hall_Lamp", "Lamp_2"] ∧
      rivals.map (fun c => (register rivals).typeName? c.id) =
        [some "Lamp_2", some "Hall_Lamp", some "Shop_Lamp_2"] ∧
      rivals.map (fun c => (register rivals.reverse).typeName? c.id) =
        [some "Lamp_3", some "Hall_Lamp", some "Lamp_2"] :=
  ⟨⟨by decide, by decide +kernel, by decide +kernel⟩, List.reverse_perm rivals, by decide +kernel,
    by decide +kernel, by decide +kernel⟩

end NameRegistry

end Automation.Export
