import Automation.Proofs.Export.Faults
import Automation.Proofs.Export.Sites
import Automation.Proofs.Export.Widths
import Automation.Proofs.Library.Likeness

/-!
# Contents for another target

`Settings.retarget` changes the width of pointers, and whether the members of dual interfaces return
status codes. Nothing is said differently then. A member makes a function that looks like the other one
(`synthesize_like`), and so it goes for the functions of an interface (`interfaceFunctions_like`) and
for all interfaces of a library (`filling_like`), as long as the offsets of functions are exact.
-/

namespace Automation.Export

open Library Source

/-- The settings with another width of pointers and another choice about status codes. -/
def Settings.retarget (s : Settings) (width : PointerWidth) (dual : Bool) : Settings :=
  { s with pointerWidth := width, dualStatusCodes := dual }

/-- What functions are made with, for another target. -/
def Synthesis.retarget (y : Synthesis) (width : PointerWidth) (dual : Bool) : Synthesis :=
  { y with scope := y.scope.sized width, settings := y.settings.retarget width dual }

/-- What the contents of a library are made with, for another target. -/
def Setting.retarget (s : Setting) (width : PointerWidth) (dual : Bool) : Setting :=
  { s with scope := s.scope.sized width, settings := s.settings.retarget width dual }

/-! ## Signatures -/

/-- The integer of the size of a pointer in a parameter. -/
def Scope.parameterWord? (s : Scope) (p : Parameter) : Option Word := s.word? p.type p.marshal

/-- The integer of the size of a pointer in the result of a member. -/
def Scope.resultWord? (s : Scope) (m : Member) : Option Word := s.word? m.ret m.retMarshal

/-- Described parameters at a width. -/
def Scope.resized (s : Scope) (width : PointerWidth) (params : List Parameter)
    (described : List Described) : List Described :=
  List.zipWith (fun p d => d.sized width (s.parameterWord? p)) params described

/-- The signature of a member at a width. -/
def Signature.sized (s : Scope) (width : PointerWidth) (m : Member) (g : Signature) : Signature where
  params := s.resized width m.params g.params
  ret := g.ret.sized width (s.resultWord? m)

section Signatures

variable (s : Scope) (width : PointerWidth)

theorem describeParameter_sized (p : Parameter) : describeParameter (s.sized width) p =
    (describeParameter s p).map (·.sized width (s.parameterWord? p)) := describe_sized _ _ _ _ _

theorem describeParameters_sized (params : List Parameter) :
    describeParameters (s.sized width) params =
      (describeParameters s params).map (s.resized width params) := by
  induction params with
  | nil => rfl
  | cons p later ih =>
    rw [describeParameters, describeParameters, describeParameter_sized, ih]
    cases describeParameter s p with
    | error e => rfl
    | ok described => cases describeParameters s later <;> rfl

theorem describeSignature_sized (m : Member) : describeSignature (s.sized width) m =
    (describeSignature s m).map (Signature.sized s width m) := by
  unfold describeSignature
  rw [describeParameters_sized]
  cases describeParameters s m.params with
  | error e => rfl
  | ok params =>
    rw [show _ = _ from describe_sized s width m.ret m.retMarshal returnPosition]
    cases s.describe m.ret m.retMarshal returnPosition <;> rfl

variable {s} in
/-- A signature is the same at its own width. -/
theorem Signature.sized_self {m : Member} {g : Signature} (h : describeSignature s m = .ok g) :
    g.sized s s.width m = g := by
  have hsame : describeSignature (s.sized s.width) m = describeSignature s m := rfl
  rw [describeSignature_sized, h] at hsame
  exact Except.ok.inj hsame

theorem toBool_map {ε α β : Type} (f : α → β) (x : Except ε α) : (x.map f).toBool = x.toBool := by
  cases x <;> rfl

/-- What can be described can be described at any width. -/
theorem describes_sized (m : Member) : (s.sized width).describes m = s.describes m := by
  rw [← toBool_describeSignature, describeSignature_sized, toBool_map, toBool_describeSignature]

theorem memberQuestions_sized (owner : TypeDecl) (m : Member) :
    memberQuestions (s.sized width) owner m = memberQuestions s owner m := by
  unfold memberQuestions
  simp only [describeParameter_sized, toBool_map]

theorem degradations_resized {params : List Parameter} {described : List Described}
    (h : described.length = params.length) :
    (s.resized width params described).flatMap (·.degradations) =
      described.flatMap (·.degradations) := by
  have hmap : (s.resized width params described).map (·.degradations) =
      described.map (·.degradations) := by
    unfold Scope.resized
    rw [List.map_zipWith]
    refine List.ext_getElem (by simp [h]) fun i hi hi' => ?_
    rw [List.getElem_zipWith, List.getElem_map]
    rfl
  rw [List.flatMap_def, List.flatMap_def, hmap]

/-- Nothing else is lost in a signature at another width. -/
theorem degradations_sized {m : Member} {g : Signature} (h : describeSignature s m = .ok g) :
    (g.sized s width m).degradations = g.degradations := by
  unfold Signature.degradations
  have hlength : g.params.length = m.params.length :=
    length_describeParameters (describeSignature_eq_ok h).1
  exact congrArg (· ++ _) (degradations_resized s width hlength)

theorem map_type_resized_ref? (params : List Parameter) (described : List Described) :
    (List.zipWith parameterElement params (s.resized width params described)).map (·.type.ref?) =
      (List.zipWith parameterElement params described).map (·.type.ref?) := by
  have htype : ∀ p d, (parameterElement p d).type = d.type := by
    intro p d
    unfold parameterElement
    split <;> rfl
  unfold Scope.resized
  refine List.ext_getElem (by simp) fun i hi hi' => ?_
  simp only [List.getElem_map, List.getElem_zipWith, htype]
  exact Descriptor.ref?_sized _ _ _

end Signatures

/-! ## Functions that look alike -/

/-- Two functions look alike before they are written. -/
structure SynthesizedFunction.Like (w w' : PointerWidth) (f f' : SynthesizedFunction) : Prop where
  desc : f.desc.Like w w' f'.desc
  name : f'.names.head? = f.names.head?
  doc : f'.doc = f.doc
  property : f'.property = f.property
  requested : f'.requested = f.requested

/-- A function names no more parameters than it has. -/
def SynthesizedFunction.Fits (f : SynthesizedFunction) : Prop :=
  f.names.length ≤ f.desc.params.length + 1

/-- The functions of two interfaces look alike, and nothing is said differently. -/
structure InterfaceFunctions.Like (w w' : PointerWidth) (made made' : InterfaceFunctions) :
    Prop where
  functions : List.Forall₂ (fun f f' => f.Like w w' f' ∧ f.Fits ∧ f'.Fits) made.functions
    made'.functions
  inherited : made'.inherited = made.inherited
  remarks : made'.remarks = made.remarks

namespace SynthesizedFunction.Like

variable {w w' : PointerWidth} {f f' : SynthesizedFunction}

theorem claimant (h : f.Like w w' f') : f'.claimant = f.claimant := by
  unfold SynthesizedFunction.claimant
  rw [h.property, h.desc.invoke, h.requested]

theorem ownName (h : f.Like w w' f') : f'.name = f.name := by
  unfold SynthesizedFunction.name
  rw [List.headD_eq_head?_getD, List.headD_eq_head?_getD, h.name]

theorem placed (h : f.Like w w' f') (memid : MemberId) (name : String) {offset offset' : Nat}
    (hoffset : offset * w'.bytes = offset' * w.bytes) :
    (f.placed memid offset name).Like w w' (f'.placed memid offset' name) where
  desc :=
    { memid := rfl, invoke := h.desc.invoke, kind := h.desc.kind, flags := h.desc.flags
      refs := h.desc.refs, offset := hoffset }
  name := rfl
  doc := h.doc
  property := h.property
  requested := h.requested

theorem written (h : f.Like w w' f') : f.written.Like w w' f'.written := ⟨h.desc, h.name, h.doc⟩

end SynthesizedFunction.Like

variable {y : Synthesis} {owner : TypeDecl} {base : Inherited}

variable (y owner) in
theorem assemble_like (width w w' : PointerWidth) (dual : Bool) (m : Member) (invoke : InvokeKind)
    (g : Signature) : (assemble y owner m invoke g).Like w w'
      (assemble (y.retarget width dual) owner m invoke (g.sized y.scope width m)) where
  desc :=
    { memid := rfl, invoke := rfl, kind := rfl, flags := rfl
      refs := by
        rw [refs_assemble, refs_assemble]
        have hparams := map_type_resized_ref? y.scope width m.params g.params
        have hret : (g.sized y.scope width m).ret.type.ref? = g.ret.type.ref? :=
          Descriptor.ref?_sized _ _ _
        rw [hret]
        exact congrArg (fun refs => refs.filterMap id ++ _) hparams
      offset := (Nat.zero_mul _).trans (Nat.zero_mul _).symm }
  name := by
    rw [head?_names_assemble, head?_names_assemble]
    rfl
  doc := rfl
  property := rfl
  requested := rfl

/-- **Nothing is said differently about a member** for another target. -/
theorem snd_synthesize_retarget (width : PointerWidth) (dual : Bool) (m : Member) :
    (synthesize (y.retarget width dual) owner m).2 = (synthesize y owner m).2 := by
  have hinvoke : invokeKind? (y.retarget width dual).scope m = invokeKind? y.scope m :=
    invokeKind?_congr rfl m
  have hquestions : memberQuestions (y.retarget width dual).scope owner m =
      memberQuestions y.scope owner m := memberQuestions_sized _ _ _ _
  have hsignature : describeSignature (y.retarget width dual).scope m = _ :=
    describeSignature_sized y.scope width m
  unfold synthesize
  rw [hinvoke, hquestions, hsignature]
  cases invokeKind? y.scope m with
  | none => rfl
  | some invoke =>
    cases hdescribed : describeSignature y.scope m with
    | error e => rfl
    | ok g =>
      dsimp only [Except.map]
      rw [degradations_sized y.scope width hdescribed]

/-- The function of a member for another target, if it has one, has its signature at that width. -/
theorem fst_synthesize_retarget (width : PointerWidth) (dual : Bool) (m : Member) :
    (synthesize (y.retarget width dual) owner m).1 =
      (invokeKind? y.scope m).bind fun invoke => (describeSignature y.scope m).toOption.map fun g =>
        assemble (y.retarget width dual) owner m invoke (g.sized y.scope width m) := by
  have hinvoke : invokeKind? (y.retarget width dual).scope m = invokeKind? y.scope m :=
    invokeKind?_congr rfl m
  have hsignature : describeSignature (y.retarget width dual).scope m = _ :=
    describeSignature_sized y.scope width m
  rw [fst_synthesize, hinvoke, hsignature]
  cases describeSignature y.scope m <;> rfl

/-- **A member makes functions that look alike** for two targets. -/
theorem synthesize_like (w w' width : PointerWidth) (dual : Bool) (m : Member) :
    Option.Rel (SynthesizedFunction.Like w w') (synthesize y owner m).1
      (synthesize (y.retarget width dual) owner m).1 := by
  rw [fst_synthesize, fst_synthesize_retarget]
  cases invokeKind? y.scope m with
  | none => exact .none
  | some invoke =>
    cases describeSignature y.scope m with
    | error e => exact .none
    | ok g => exact .some (assemble_like y owner width w w' dual m invoke g)

/-! ## Interfaces -/

theorem forall₂_zip {α α' β : Type} {R : α → α' → Prop} {l : List α} {l' : List α'}
    (h : List.Forall₂ R l l') (items : List β) :
    List.Forall₂ (fun x x' => R x.1 x'.1 ∧ x.2 = x'.2) (l.zip items) (l'.zip items) := by
  induction h generalizing items with
  | nil => exact .nil
  | cons hab _ ih =>
    cases items with
    | nil => exact .nil
    | cons item later => exact .cons ⟨hab, rfl⟩ (ih later)

theorem forall₂_zipIdx {α α' : Type} {R : α → α' → Prop} {l : List α} {l' : List α'}
    (h : List.Forall₂ R l l') (n : Nat) :
    List.Forall₂ (fun x x' => R x.1 x'.1 ∧ x.2 = x'.2 ∧ x.2 < n + l.length) (l.zipIdx n)
      (l'.zipIdx n) := by
  induction h generalizing n with
  | nil => exact .nil
  | @cons a b l l' hab _ ih =>
    refine .cons ⟨hab, rfl, by simp⟩ ((ih (n + 1)).imp fun x x' hx => ⟨hx.1, hx.2.1, ?_⟩)
    have := hx.2.2
    rw [List.length_cons]
    omega

section Interfaces

variable (y owner) (width : PointerWidth) (dual : Bool)

theorem memberFunctions_like (w w' : PointerWidth) :
    List.Forall₂ (SynthesizedFunction.Like w w') (memberFunctions y owner)
      (memberFunctions (y.retarget width dual) owner) := by
  refine List.rel_filterMap (R := Eq) ?_ (List.forall₂_refl _)
  rintro m _ rfl
  exact synthesize_like w w' width dual m

theorem memberGrouping_retarget :
    memberGrouping (y.retarget width dual) owner = memberGrouping y owner := by
  unfold memberGrouping
  rw [map_eq_of_forall₂ (memberFunctions_like y owner width dual width width)
    fun _ _ h => h.claimant]

theorem memberIds_retarget (base : Inherited) :
    memberIds (y.retarget width dual) owner base = memberIds y owner base := by
  unfold memberIds
  rw [memberGrouping_retarget]
  rfl

theorem map_name_retarget : (memberFunctions (y.retarget width dual) owner).map (·.name) =
    (memberFunctions y owner).map (·.name) :=
  map_eq_of_forall₂ (memberFunctions_like y owner width dual width width) fun _ _ h => h.ownName

variable {y owner width} in
/-- Offsets count the same slots for two targets, unless they are too large. -/
theorem memberTable_retarget {base : Inherited} {index : Nat}
    (hfew : y.settings.pointerWidth = width ∨ base.slots + index < 2 ^ 28) :
    (memberTable y base).offset index * width.bytes =
      (memberTable (y.retarget width dual) base).offset index * y.settings.pointerWidth.bytes := by
  rcases hfew with rfl | hfew
  · rfl
  · rw [VirtualTable.offset_of_lt (reservedSlots_le _ _) (bytes_le _).2 hfew,
      VirtualTable.offset_of_lt (reservedSlots_le _ _) (bytes_le _).2 hfew]
    exact Nat.mul_right_comm _ _ _

theorem memberRequests_retarget :
    memberRequests (y.retarget width dual) owner = memberRequests y owner := by
  unfold memberRequests
  rw [memberGrouping_retarget]

theorem memberAssignment_retarget (base : Inherited) :
    memberAssignment (y.retarget width dual) owner base = memberAssignment y owner base := by
  unfold memberAssignment
  rw [memberRequests_retarget]
  rfl

theorem identityName_retarget (place : Nat) :
    identityName (y.retarget width dual) owner place = identityName y owner place := by
  unfold identityName
  rw [memberGrouping_retarget, map_name_retarget]

theorem made_retarget :
    ((owner.members.filter Member.isExportable).map (synthesize (y.retarget width dual) owner)).flatMap
        (·.2) =
      ((owner.members.filter Member.isExportable).map (synthesize y owner)).flatMap (·.2) := by
  rw [List.flatMap_map, List.flatMap_map]
  exact List.flatMap_congr fun m _ => snd_synthesize_retarget width dual m

variable {y owner width} in
/-- **The functions of an interface look alike** for two targets, and nothing is said differently. -/
theorem interfaceFunctions_like {base : Inherited}
    (hfew : y.settings.pointerWidth = width ∨
      base.slots + (memberFunctions y owner).length ≤ 2 ^ 28) :
    (interfaceFunctions y owner base).Like y.settings.pointerWidth width
      (interfaceFunctions (y.retarget width dual) owner base) := by
  have hmembers := memberFunctions_like y owner width dual y.settings.pointerWidth width
  have hfunctions : List.Forall₂ (SynthesizedFunction.Like y.settings.pointerWidth width)
      (interfaceFunctions y owner base).functions
      (interfaceFunctions (y.retarget width dual) owner base).functions := by
    rw [functions_eq, functions_eq, memberGrouping_retarget, memberIds_retarget, map_name_retarget,
      List.forall₂_map_left_iff, List.forall₂_map_right_iff]
    refine (forall₂_zipIdx (forall₂_zip (forall₂_zip hmembers _) _) 0).imp ?_
    rintro ⟨⟨⟨f, place⟩, name⟩, index⟩ ⟨⟨⟨f', place'⟩, name'⟩, index'⟩ ⟨⟨⟨hf, hplace⟩, hname⟩, hindex, hlt⟩
    obtain rfl : place = place' := hplace
    obtain rfl : name = name' := hname
    obtain rfl : index = index' := hindex
    refine hf.placed _ _ (memberTable_retarget dual (hfew.imp_right fun hfew => ?_))
    simp only [List.length_zip] at hlt
    omega
  have hids := map_eq_of_forall₂ hfunctions fun _ _ h => h.desc.memid
  refine ⟨List.forall₂_iff_zip.mpr ⟨hfunctions.length_eq, fun {f f'} hmem => ?_⟩, ?_, ?_⟩
  · obtain ⟨hf, hf'⟩ := List.of_mem_zip hmem
    exact ⟨(List.forall₂_iff_zip.mp hfunctions).2 hmem, length_names hf, length_names hf'⟩
  · rw [inherited_mk, inherited_mk, memberRequests_retarget, hids, hfunctions.length_eq]
  · simp only [remarks_eq, made_retarget, memberAssignment_retarget, identityName_retarget]

end Interfaces

/-! ## Few functions -/

/-- The binding of the functions that the members of a type get. -/
def Target.functionBinding? (t : Target) : Option Binding := t.binding? <|> t.classInterface?

/-- The number of members of a type that can become functions. -/
def functionCount (t : TypeDecl) : Nat :=
  match (target? t).bind Target.functionBinding? with
  | some _ => (t.members.filter Member.isExportable).length
  | none => 0

theorem length_memberFunctions_le_functionCount {target : Target} {binding : Binding}
    (htarget : target? owner = some target) (hbinding : target.functionBinding? = some binding) :
    (memberFunctions y owner).length ≤ functionCount owner := by
  unfold functionCount
  rw [htarget, Option.bind_some, hbinding]
  exact List.length_filterMap_le _ _

/-- The number of members of a unit that can become functions. -/
def unitFunctionCount (unit : Reflection) : Nat :=
  (unit.ids.map fun id => ((unit.type? id).map functionCount).getD 0).sum

/-- The exported types have no more functions than the unit. -/
theorem sum_functionCount_le {unit : Reflection} {classified : List Classified}
    (h : classify unit unit.ids = .ok classified) :
    (classified.map fun c => functionCount c.decl).sum ≤ unitFunctionCount unit := by
  have hdecl := classify_type? h
  have hclassified : (classified.map fun c => functionCount c.decl) =
      (classified.map (·.id)).map fun id => ((unit.type? id).map functionCount).getD 0 := by
    rw [List.map_map]
    refine List.map_congr_left fun c hc => ?_
    simp [(hdecl c hc).1]
  rw [hclassified]
  exact ((sublist_of_classify h).map _).sum_le_sum fun _ _ => Nat.zero_le _

/-! ## All interfaces of a library -/

variable {s : Setting} {width : PointerWidth} {placed order : List Placed}
  {passedOn : List (TypeId × Inherited)}

/-- Placed types know what they become. -/
def AreClassified (placed : List Placed) : Prop :=
  ∀ p ∈ placed, target? p.type.decl = some p.type.target

/-- The number of functions that the members of placed types can become. -/
def placedFunctionCount (placed : List Placed) : Nat :=
  (placed.map fun p => functionCount p.type.decl).sum

/-- The same interface with functions that look alike. -/
def FilledAlike (w w' : PointerWidth) (f f' : Placed × InterfaceFunctions) : Prop :=
  f.1 = f'.1 ∧ f.2.Like w w' f'.2

/-- An interface derives from the same for two targets, and from no more slots than are passed on. -/
theorem exists_base (s : Setting) (width : PointerWidth) (dual : Bool) (p : Placed) (binding : Binding)
    (passedOn : List (TypeId × Inherited)) :
    ∃ base, (∀ n, (∀ x ∈ passedOn, x.2.slots ≤ n) → base.slots ≤ n) ∧
      p.interfaceFunctions s binding passedOn =
        interfaceFunctions (s.synthesis binding) p.type.decl base ∧
      p.interfaceFunctions (s.retarget width dual) binding passedOn =
        interfaceFunctions ((s.synthesis binding).retarget width dual) p.type.decl base := by
  refine ⟨_, fun n hn => ?_, rfl, rfl⟩
  split
  · next id hid =>
    cases hlookup : passedOn.lookup id with
    | none => exact Nat.zero_le n
    | some base => exact hn _ (mem_of_lookup hlookup)
  · exact Nat.zero_le n

/-- The interfaces in a given order look alike, if there are few functions: no more than `n` slots are
passed on. -/
theorem fills_like (dual : Bool) (horder : AreClassified order) {n : Nat}
    (hfew : s.settings.pointerWidth = width ∨
      (∀ x ∈ passedOn, x.2.slots ≤ n) ∧ n + placedFunctionCount order ≤ 2 ^ 28) :
    List.Forall₂ (FilledAlike s.settings.pointerWidth width) (fills s passedOn order)
      (fills (s.retarget width dual) passedOn order) := by
  induction order generalizing passedOn n with
  | nil => exact .nil
  | cons p later ih =>
    obtain ⟨hp, hlater⟩ := List.forall_mem_cons.mp horder
    have hcount : placedFunctionCount (p :: later) =
        functionCount p.type.decl + placedFunctionCount later := by
      simp [placedFunctionCount]
    rw [hcount] at hfew
    unfold fills
    cases hbinding : p.type.target.binding? with
    | none => exact ih hlater (hfew.imp_right fun hfew => ⟨hfew.1, by omega⟩)
    | some binding =>
      have hown : (memberFunctions (s.synthesis binding) p.type.decl).length ≤
          functionCount p.type.decl :=
        length_memberFunctions_le_functionCount hp (by rw [Target.functionBinding?, hbinding]; rfl)
      obtain ⟨base, hslots, hmade, hmade'⟩ := exists_base s width dual p binding passedOn
      have hlike : (interfaceFunctions (s.synthesis binding) p.type.decl base).Like
          s.settings.pointerWidth width
          (interfaceFunctions ((s.synthesis binding).retarget width dual) p.type.decl base) := by
        have hexact : (s.synthesis binding).settings.pointerWidth = width ∨
            base.slots + (memberFunctions (s.synthesis binding) p.type.decl).length ≤ 2 ^ 28 :=
          hfew.imp_right fun hfew => by have := hslots n hfew.1; omega
        exact interfaceFunctions_like dual hexact
      have hinherited : (interfaceFunctions (s.synthesis binding) p.type.decl base).inherited.slots =
          base.slots + (memberFunctions (s.synthesis binding) p.type.decl).length := by
        rw [inherited_eq.2, length_functions]
      dsimp only
      rw [hmade, hmade', hlike.inherited]
      refine .cons ⟨rfl, hlike⟩ (@ih _ hlater (n + functionCount p.type.decl)
        (hfew.imp_right fun hfew => ⟨List.forall_mem_cons.mpr ⟨?_, fun x hx => ?_⟩, by omega⟩))
      · have := hslots n hfew.1
        dsimp only
        omega
      · have := hfew.1 x hx
        omega

theorem sum_map_filterMap {α β : Type} (f : α → Option β) (count : β → Nat) (l : List α) :
    ((l.filterMap f).map count).sum = (l.map fun a => ((f a).map count).getD 0).sum := by
  induction l with
  | nil => rfl
  | cons a later ih =>
    rw [List.filterMap_cons, List.map_cons, List.sum_cons, ← ih]
    cases f a with
    | none => exact (Nat.zero_add _).symm
    | some b => rfl

/-- The interfaces to be filled are some of the placed types. -/
theorem placedFunctionCount_fillOrder_le (refs : ReferenceTable) (placed : List Placed) :
    placedFunctionCount (fillOrder refs placed) ≤ placedFunctionCount placed := by
  have hsub := baseFirst_subperm (placed.map fun p => p.link refs)
  rw [List.length_map] at hsub
  obtain ⟨places, hperm, hsub⟩ := hsub
  have hall : (List.range placed.length).map
      (fun place => ((placed[place]?).map fun p => functionCount p.type.decl).getD 0) =
        placed.map fun p => functionCount p.type.decl := by
    refine List.ext_getElem (by simp) fun i hi hi' => ?_
    rw [List.length_map] at hi'
    simp [hi']
  unfold placedFunctionCount fillOrder
  rw [sum_map_filterMap, ← hall, ← (hperm.map _).sum_eq]
  exact (hsub.map _).sum_le_sum fun _ _ => Nat.zero_le _

/-- **The interfaces of a library look alike** for two targets, if there are few functions. -/
theorem filling_like (dual : Bool) (hplaced : AreClassified placed)
    (hfew : s.settings.pointerWidth = width ∨ placedFunctionCount placed ≤ 2 ^ 28) :
    List.Forall₂ (FilledAlike s.settings.pointerWidth width) (filling s placed)
      (filling (s.retarget width dual) placed) := by
  have hcount := placedFunctionCount_fillOrder_le s.scope.refs placed
  have hnone : ∀ x ∈ ([] : List (TypeId × Inherited)), x.2.slots ≤ 0 := fun _ hx => nomatch hx
  exact fills_like dual (fun p hp => hplaced p (mem_fillOrder.mp hp).1)
    (hfew.imp_right fun hfew => ⟨hnone, by omega⟩)

end Automation.Export
