import Automation.Proofs.Source.Loading

/-!
# Qualified names

A qualified name joins a namespace and a name with a dot, and does not say which dot that was:
`qualify_eq_iff`. A unit that is loaded has types with different pairs of namespace and name, so their
qualified names differ unless two of them cut one name at different dots (`TypeDecl.SharesName`).
-/

namespace Automation.Source

/-- The second namespace and name are the first ones cut at a later dot: the name has lost its front to
the namespace. An empty namespace is joined without a dot, so the second is not empty. -/
def IsRecut (space name space' name' : String) : Prop :=
  space' ≠ "" ∧ ∃ rest, name = rest ++ "." ++ name' ∧ space' = qualify space rest

variable {space name space' name' : String}

theorem IsRecut.dot_mem (h : IsRecut space name space' name') : '.' ∈ name.toList := by
  obtain ⟨-, rest, rfl, -⟩ := h
  simp

theorem qualify_empty (name : String) : qualify "" name = name := rfl

theorem qualify_of_ne (h : space ≠ "") (name : String) : qualify space name = space ++ "." ++ name :=
  if_neg (by simpa using h)

theorem IsRecut.qualify_eq (h : IsRecut space name space' name') :
    qualify space name = qualify space' name' := by
  obtain ⟨hne, rest, rfl, rfl⟩ := h
  rw [qualify_of_ne hne]
  by_cases hspace : space = ""
  · rw [hspace, qualify_empty, qualify_empty]
  · simp only [qualify_of_ne hspace, String.append_assoc]

/-- A namespace that goes on where another one ends is the same one, or it goes on after a dot. -/
theorem isRecut_of_append (hspace : space ≠ "") {between : List Char}
    (hlonger : space'.toList = space.toList ++ between)
    (hrest : '.' :: name.toList = between ++ '.' :: name'.toList) :
    (space, name) = (space', name') ∨ IsRecut space name space' name' := by
  cases between with
  | nil =>
    have hsame : space' = space := String.toList_inj.mp (by simpa using hlonger)
    have hname : name = name' := String.toList_inj.mp (by simpa using hrest)
    exact .inl (Prod.ext hsame.symm hname)
  | cons c rest =>
    obtain ⟨rfl, hname⟩ := List.cons.inj hrest
    refine .inr ⟨fun hempty => ?_, String.ofList rest, String.toList_inj.mp ?_, ?_⟩
    · simp [hempty] at hlonger
    · simp [hname]
    · rw [qualify_of_ne hspace]
      exact String.toList_inj.mp (by simp [hlonger])

/-- **Equal qualified names** are those of one type, or one name is cut at different dots. -/
theorem qualify_eq_iff : qualify space name = qualify space' name' ↔
    (space, name) = (space', name') ∨ IsRecut space name space' name' ∨
      IsRecut space' name' space name := by
  refine ⟨fun h => ?_, ?_⟩
  · by_cases hspace : space = "" <;> by_cases hspace' : space' = ""
    · subst hspace hspace'
      exact .inl (congrArg (Prod.mk "") h)
    · subst hspace
      rw [qualify_empty, qualify_of_ne hspace'] at h
      exact .inr (.inl ⟨hspace', space', h, rfl⟩)
    · subst hspace'
      rw [qualify_empty, qualify_of_ne hspace] at h
      exact .inr (.inr ⟨hspace, space, h.symm, rfl⟩)
    · rw [qualify_of_ne hspace, qualify_of_ne hspace'] at h
      have hlist := congrArg String.toList h
      simp only [String.toList_append, List.append_assoc] at hlist
      rcases List.append_eq_append_iff.mp hlist with ⟨between, hlonger, hrest⟩ | ⟨between, hlonger, hrest⟩
      · exact (isRecut_of_append hspace hlonger hrest).imp_right .inl
      · exact (isRecut_of_append hspace' hlonger hrest).imp Eq.symm .inr
  · rintro (h | h | h)
    · rw [(Prod.mk.inj h).1, (Prod.mk.inj h).2]
    · exact h.qualify_eq
    · exact h.qualify_eq.symm

/-- Qualified names tell types apart whose names have no dot. -/
theorem qualify_inj (hname : '.' ∉ name.toList) (hname' : '.' ∉ name'.toList)
    (h : qualify space name = qualify space' name') : space = space' ∧ name = name' := by
  rcases qualify_eq_iff.mp h with h | h | h
  · exact Prod.mk.inj h
  · exact (hname h.dot_mem).elim
  · exact (hname' h.dot_mem).elim

namespace TypeDecl

variable {t t' : TypeDecl}

/-- The types have one qualified name, cut into namespace and name at different dots. -/
def SharesName (t t' : TypeDecl) : Prop :=
  IsRecut t.space t.name t'.space t'.name ∨ IsRecut t'.space t'.name t.space t.name

theorem qualified_eq_iff :
    t.qualified = t'.qualified ↔ (t.space, t.name) = (t'.space, t'.name) ∨ t.SharesName t' :=
  qualify_eq_iff

theorem not_sharesName (h : '.' ∉ t.name.toList) (h' : '.' ∉ t'.name.toList) :
    ¬t.SharesName t' :=
  fun hshares => hshares.elim (fun hrecut => h hrecut.dot_mem) fun hrecut => h' hrecut.dot_mem

end TypeDecl

namespace SourceUnit

variable {identity : UnitIdentity} {types : List TypeDecl} {u : SourceUnit}

/-- A unit that is loaded has types that differ in their namespaces or in their names. -/
theorem pairwise_of_load (h : load identity types = .ok u) :
    u.types.Pairwise fun t t' => (t.space, t.name) ≠ (t'.space, t'.name) := by
  obtain ⟨hclosed, rfl⟩ := load_eq_ok_iff.mp h
  exact hclosed.apart

/-- The types of a unit that is loaded have different qualified names, unless some share one. -/
theorem nodup_qualified_iff (h : load identity types = .ok u) :
    (u.types.map (·.qualified)).Nodup ↔ u.types.Pairwise fun t t' => ¬t.SharesName t' := by
  have happart := pairwise_of_load h
  refine List.pairwise_map.trans ⟨fun hnames => ?_, fun hnames => ?_⟩
  · exact hnames.imp fun hne hshares => hne (TypeDecl.qualified_eq_iff.mpr (.inr hshares))
  · refine (happart.and hnames).imp fun ⟨hne, hshares⟩ hsame => ?_
    exact (TypeDecl.qualified_eq_iff.mp hsame).elim hne hshares

end SourceUnit

end Automation.Source
