import Automation.Proofs.Export.Cores
import Automation.Proofs.Export.Functions

/-!
# Descriptors at another width

What a type expression is described as depends on the width of pointers in one place only: an integer
of the size of a pointer at its core, without an override. `Scope.word?` finds it, and
`describe_sized` says that at another width the descriptor has the integer of that width there and is
the same otherwise.
-/

namespace Automation

open Library Source

/-! ## Integers of the size of a pointer -/

/-- An integer of the size of a pointer. -/
inductive Source.Word where
  | signed
  | unsigned
  deriving DecidableEq, Repr

/-- The scalar as an integer of the size of a pointer, if it is one. -/
def Source.Scalar.word? : Scalar → Option Word
  | .isize => some .signed
  | .usize => some .unsigned
  | _ => none

/-- The elemental type of an integer of the size of a pointer. -/
def Library.PointerWidth.word : PointerWidth → Word → ElementType
  | .bits32, .signed => .i4
  | .bits32, .unsigned => .ui4
  | .bits64, .signed => .i8
  | .bits64, .unsigned => .ui8

namespace Library.Descriptor

/-- The elemental type at the core of a descriptor. -/
def base? : Descriptor → Option ElementType
  | base type => some type
  | pointer inner | safeArray inner | cArray inner _ => inner.base?
  | userDefined _ => none

/-- The descriptor with another elemental type at its core. -/
def withBase (type : ElementType) : Descriptor → Descriptor
  | base _ => base type
  | pointer inner => pointer (inner.withBase type)
  | safeArray inner => safeArray (inner.withBase type)
  | cArray inner bounds => cArray (inner.withBase type) bounds
  | userDefined ref => userDefined ref

/-- The descriptor at a width, if there is an integer of the size of a pointer at its core. -/
def sized (width : PointerWidth) (word : Option Word) (d : Descriptor) : Descriptor :=
  match word with
  | some word => d.withBase (width.word word)
  | none => d

theorem base?_of_inner? {d inner : Descriptor} (h : d.inner? = some inner) : d.base? = inner.base? := by
  cases d with
  | base | userDefined => exact Option.noConfusion rfl (heq_of_eq h)
  | pointer other | safeArray other | cArray other bounds =>
    obtain rfl : other = inner := Option.some.inj h
    rfl

theorem ref?_withBase (d : Descriptor) (type : ElementType) : (d.withBase type).ref? = d.ref? := by
  induction d with
  | base other => rfl
  | pointer inner ih | safeArray inner ih | cArray inner bounds ih => exact ih
  | userDefined ref => rfl

/-- Descriptors have the same references at any width. -/
theorem ref?_sized (width : PointerWidth) (word : Option Word) (d : Descriptor) :
    (d.sized width word).ref? = d.ref? := by
  cases word with
  | none => rfl
  | some word => exact ref?_withBase _ _

theorem pointer_sized (width : PointerWidth) (word : Option Word) (d : Descriptor) :
    (pointer d).sized width word = pointer (d.sized width word) := by
  cases word <;> rfl

end Library.Descriptor

namespace Export

/-- What is described, at a width. -/
def Described.sized (width : PointerWidth) (word : Option Word) (d : Described) : Described :=
  { d with type := d.type.sized width word }

/-- The scope at another width. -/
def Scope.sized (s : Scope) (width : PointerWidth) : Scope := { s with width := width }

/-- An enum that has no descriptor is described as the integer that it sits on. -/
def enumWord? (underlying : Scalar) (target : Option TypeRef) : Option Word :=
  if target.isNone then underlying.word? else none

/-- The integer of the size of a pointer that a core is described as. -/
def Scope.coreWord? (s : Scope) : TypeExpr → Option Word
  | .scalar scalar => scalar.word?
  | .named id =>
    (s.type? id).bind fun t =>
      match t.body with
      | .enumeration underlying _ =>
        enumWord? underlying ((s.refs.own? id).map fun r => .own r.handle)
      | .interface _ | .objectClass _ | .record _ => none
  | .external type =>
    match type.kind with
    | .enumeration underlying => enumWord? underlying ((s.refs.external? type).map (·.ref))
    | .interface | .objectClass | .record => none
  | _ => none

/-- The integer of the size of a pointer at the core of an expression, if no override asks for another
form there. -/
def Scope.word? (s : Scope) (type : TypeExpr) (marshal : Option MarshalOverride) : Option Word :=
  let core := type.core marshal
  if core.2.isNone then s.coreWord? core.1 else none

variable {s : Scope} {described : Described}

/-! ## The integer stands at the core -/

theorem scalarType?_word {scalar : Scalar} {word : Word} (h : scalar.word? = some word)
    (width : PointerWidth) : scalarType? width scalar none = some (width.word word) := by
  cases scalar <;> cases width <;> first | exact Option.noConfusion rfl (heq_of_eq h) | skip
  all_goals
    obtain rfl := Option.some.inj h
    rfl

/-- Overrides do not ask for the width of a pointer. -/
theorem scalarType?_form (width width' : PointerWidth) (scalar : Scalar) (form : NativeForm) :
    scalarType? width' scalar (some form) = scalarType? width scalar (some form) := by
  cases scalar <;> cases form <;> rfl

theorem scalarType?_fixed {scalar : Scalar} (h : scalar.word? = none) (width width' : PointerWidth) :
    scalarType? width' scalar none = scalarType? width scalar none := by
  cases scalar <;> first | rfl | exact Option.noConfusion rfl (heq_of_eq h)

theorem base?_describeEnum {width : PointerWidth} {qualified : String} {underlying : Scalar}
    {target : Option TypeRef} {word : Word} (hword : enumWord? underlying target = some word)
    (h : describeEnum width qualified underlying none target = .ok described) :
    described.type.base? = some (width.word word) := by
  unfold enumWord? at hword
  cases target with
  | some ref => exact Option.noConfusion rfl (heq_of_eq hword)
  | none =>
    unfold describeEnum at h
    rw [scalarType?_word hword] at h
    obtain rfl := Except.ok.inj h
    rfl

theorem base?_describeNamed {id : TypeId} {word : Word} (hword : s.coreWord? (.named id) = some word)
    (h : s.describeNamed id none = .ok described) :
    described.type.base? = some (s.width.word word) := by
  obtain ⟨t, ht, hword⟩ := Option.bind_eq_some_iff.mp hword
  unfold Scope.describeNamed at h
  rw [ht] at h
  dsimp only at h
  split at hword
  · next hbody =>
    rw [hbody] at h
    exact base?_describeEnum hword h
  all_goals exact Option.noConfusion rfl (heq_of_eq hword)

theorem base?_describeExternal {type : ExternalType} {word : Word}
    (hword : s.coreWord? (.external type) = some word)
    (h : s.describeExternal type none = .ok described) :
    described.type.base? = some (s.width.word word) := by
  unfold Scope.describeExternal at h
  unfold Scope.coreWord? at hword
  dsimp only at h hword
  split at hword
  · next hkind =>
    rw [hkind] at h
    exact base?_describeEnum hword h
  all_goals exact Option.noConfusion rfl (heq_of_eq hword)

/-- An expression that is its own core has no override where it is described as such an integer. -/
theorem coreWord?_of_word? {type : TypeExpr} {marshal : Option MarshalOverride} {word : Word}
    (hcore : type.core marshal = (type, marshal)) (h : s.word? type marshal = some word) :
    marshal = none ∧ s.coreWord? type = some word := by
  unfold Scope.word? at h
  rw [hcore] at h
  cases marshal with
  | none => exact ⟨rfl, h⟩
  | some marshal => exact Option.noConfusion rfl (heq_of_eq h)

/-- **The integer of the size of a pointer stands at the core** of what is described. -/
theorem base?_describeValue {type : TypeExpr} {marshal : Option MarshalOverride}
    {position : Position} {word : Word} (hword : s.word? type marshal = some word)
    (h : s.describeValue type marshal position = .ok described) :
    described.type.base? = some (s.width.word word) := by
  induction type generalizing marshal position described with
  | scalar scalar =>
    obtain ⟨rfl, hword⟩ := coreWord?_of_word? rfl hword
    unfold Scope.describeValue at h
    dsimp only [Option.map_none] at h
    rw [scalarType?_word hword] at h
    obtain rfl := Except.ok.inj h
    rfl
  | array element ih =>
    unfold Scope.describeValue at h
    split at h
    · exact Except.noConfusion rfl rfl (heq_of_eq h)
    · obtain ⟨inner, hinner, h⟩ := exists_of_bind h
      have hlayer := (inner?_describeArray h).1
      rw [Descriptor.base?_of_inner? hlayer]
      exact ih hword hinner
  | pointer target ih =>
    unfold Scope.describeValue at h
    split at h
    · exact Except.noConfusion rfl rfl (heq_of_eq h)
    · split at h
      · next hvoid =>
        cases target <;> first
          | exact Option.noConfusion rfl (heq_of_eq hword)
          | exact Bool.noConfusion hvoid
      · obtain ⟨inner, hinner, h⟩ := exists_of_bind h
        obtain rfl := Except.ok.inj h
        have hbase : inner.type.base? = some (s.width.word word) := ih hword hinner
        exact hbase
  | named id =>
    obtain ⟨rfl, hword⟩ := coreWord?_of_word? rfl hword
    exact base?_describeNamed hword h
  | external type =>
    obtain ⟨rfl, hword⟩ := coreWord?_of_word? rfl hword
    exact base?_describeExternal hword h
  | _ => exact Option.noConfusion rfl (heq_of_eq (coreWord?_of_word? rfl hword).2)

/-! ## The same elsewhere -/

theorem describeEnum_sized (width width' : PointerWidth) (qualified : String) (underlying : Scalar)
    (target : Option TypeRef) : describeEnum width' qualified underlying none target =
      (describeEnum width qualified underlying none target).map
        (·.sized width' (enumWord? underlying target)) := by
  cases target with
  | some ref => rfl
  | none =>
    unfold describeEnum enumWord?
    dsimp only
    cases hword : underlying.word? with
    | none =>
      rw [scalarType?_fixed hword width width']
      cases scalarType? width underlying none <;> rfl
    | some word =>
      rw [scalarType?_word hword, scalarType?_word hword]
      rfl

/-- With an override, an enum is described alike at any width. -/
theorem describeEnum_form (width width' : PointerWidth) (qualified : String) (underlying : Scalar)
    (form : NativeForm) (target : Option TypeRef) :
    describeEnum width' qualified underlying (some form) target =
      describeEnum width qualified underlying (some form) target := by
  unfold describeEnum
  dsimp only
  rw [scalarType?_form width width']

/-- Nothing is described otherwise where there is no integer of the size of a pointer. -/
theorem map_sized_none (width : PointerWidth) (x : Except DescribeError Described) :
    x.map (·.sized width none) = x := by
  cases x <;> rfl

theorem describeNamed_sized (s : Scope) (width : PointerWidth) (id : TypeId) :
    (s.sized width).describeNamed id none =
      (s.describeNamed id none).map (·.sized width (s.coreWord? (.named id))) := by
  unfold Scope.describeNamed Scope.coreWord? Scope.sized
  dsimp only
  cases s.type? id with
  | none => rfl
  | some t =>
    dsimp only [Option.bind_some]
    cases t.body with
    | enumeration underlying constants => exact describeEnum_sized _ _ _ _ _
    | _ => exact (map_sized_none width _).symm

theorem describeExternal_sized (s : Scope) (width : PointerWidth) (type : ExternalType) :
    (s.sized width).describeExternal type none =
      (s.describeExternal type none).map (·.sized width (s.coreWord? (.external type))) := by
  unfold Scope.describeExternal Scope.coreWord? Scope.sized
  dsimp only
  cases type.kind with
  | enumeration underlying => exact describeEnum_sized _ _ _ _ _
  | _ => exact (map_sized_none width _).symm

theorem describeNamed_form (s : Scope) (width : PointerWidth) (id : TypeId) (form : NativeForm) :
    (s.sized width).describeNamed id (some form) = s.describeNamed id (some form) := by
  unfold Scope.describeNamed Scope.sized
  dsimp only
  cases s.type? id with
  | none => rfl
  | some t =>
    dsimp only
    cases t.body with
    | enumeration underlying constants => exact describeEnum_form _ _ _ _ _ _
    | _ => rfl

theorem describeExternal_form (s : Scope) (width : PointerWidth) (type : ExternalType)
    (form : NativeForm) :
    (s.sized width).describeExternal type (some form) = s.describeExternal type (some form) := by
  unfold Scope.describeExternal Scope.sized
  dsimp only
  cases type.kind with
  | enumeration underlying => exact describeEnum_form _ _ _ _ _ _
  | _ => rfl

/-- What an array can hold does not depend on the width. -/
theorem isSafeArrayElement_sized {width width' : PointerWidth} {word : Option Word} {d : Descriptor}
    (h : ∀ w ∈ word, d.base? = some (width.word w)) :
    isSafeArrayElement (d.sized width' word) = isSafeArrayElement d := by
  cases word with
  | none => rfl
  | some word =>
    have hbase := h word rfl
    cases d with
    | base type =>
      obtain rfl : type = width.word word := Option.some.inj hbase
      cases width <;> cases width' <;> cases word <;> rfl
    | pointer inner => cases inner <;> rfl
    | _ => rfl

theorem describeArray_sized {width width' : PointerWidth} {word : Option Word} {inner : Described}
    (h : ∀ w ∈ word, inner.type.base? = some (width.word w)) (element : TypeExpr)
    (marshal : Option MarshalOverride) (position : Position) :
    describeArray element marshal position (inner.sized width' word) =
      (describeArray element marshal position inner).map (·.sized width' word) := by
  cases word with
  | none => exact (map_sized_none width' _).symm
  | some word =>
    have hsafe : isSafeArrayElement (inner.sized width' (some word)).type =
        isSafeArrayElement inner.type := isSafeArrayElement_sized h
    unfold describeArray
    rw [hsafe]
    cases marshal with
    | none => cases isSafeArrayElement inner.type <;> rfl
    | some m =>
      dsimp only
      cases m.form with
      | safeArray => cases isSafeArrayElement inner.type <;> rfl
      | byValArray =>
        cases position.isField with
        | false => rfl
        | true => cases m.count <;> rfl
      | _ => rfl

/-- **Descriptors at another width** have its integer where there is one of the size of a pointer, and
are the same otherwise. -/
theorem describeValue_sized (s : Scope) (width : PointerWidth) (type : TypeExpr)
    (marshal : Option MarshalOverride) (position : Position) :
    (s.sized width).describeValue type marshal position =
      (s.describeValue type marshal position).map (·.sized width (s.word? type marshal)) := by
  induction type generalizing marshal position with
  | scalar scalar =>
    unfold Scope.describeValue Scope.sized
    cases marshal with
    | none =>
      have hcore : s.word? (.scalar scalar) none = scalar.word? := rfl
      rw [hcore]
      dsimp only [Option.map_none]
      cases hword : scalar.word? with
      | none => rw [scalarType?_fixed hword s.width width, map_sized_none]
      | some word =>
        rw [scalarType?_word hword, scalarType?_word hword]
        rfl
    | some marshal =>
      dsimp only [Option.map_some]
      rw [scalarType?_form s.width width]
      exact (map_sized_none width _).symm
  | array element ih =>
    unfold Scope.describeValue
    split
    · rfl
    · rw [ih]
      cases hinner : s.describeValue element (marshal.bind MarshalOverride.element)
        { arrayElement := true } with
      | error e => rfl
      | ok inner =>
        exact describeArray_sized (fun word hword => base?_describeValue hword hinner) element marshal
          position
  | pointer target ih =>
    unfold Scope.describeValue
    cases marshal with
    | some marshal => rfl
    | none =>
      dsimp only
      split
      · next hvoid =>
        cases target <;> first | rfl | exact Bool.noConfusion hvoid
      · rw [ih]
        cases s.describeValue target none {} with
        | error e => rfl
        | ok inner =>
          have hpointer := Descriptor.pointer_sized width (s.word? target none) inner.type
          exact congrArg (fun type => Except.ok (Described.mk type inner.degradations)) hpointer.symm
  | named id =>
    cases marshal with
    | none => exact describeNamed_sized s width id
    | some marshal =>
      exact (describeNamed_form s width id marshal.form).trans (map_sized_none width _).symm
  | external type =>
    cases marshal with
    | none => exact describeExternal_sized s width type
    | some marshal =>
      exact (describeExternal_form s width type marshal.form).trans (map_sized_none width _).symm
  | generic name => rfl
  | void | text | textBuffer | object | builtin _ =>
    cases marshal <;> exact (map_sized_none width _).symm

theorem describe_sized (s : Scope) (width : PointerWidth) (type : TypeExpr)
    (marshal : Option MarshalOverride) (position : Position) :
    (s.sized width).describe type marshal position =
      (s.describe type marshal position).map (·.sized width (s.word? type marshal)) := by
  unfold Scope.describe
  rw [describeValue_sized]
  cases s.describeValue type marshal position with
  | error e => rfl
  | ok value =>
    cases position.byRef with
    | false => rfl
    | true =>
      have hpointer := Descriptor.pointer_sized width (s.word? type marshal) value.type
      exact congrArg (fun type => Except.ok (Described.mk type value.degradations)) hpointer.symm

/-- At its own width, what is described is the same. -/
theorem sized_self {type : TypeExpr} {marshal : Option MarshalOverride} {position : Position}
    (h : s.describe type marshal position = .ok described) :
    described.sized s.width (s.word? type marshal) = described := by
  have hsized := describe_sized s s.width type marshal position
  have hself : s.sized s.width = s := rfl
  rw [hself, h] at hsized
  exact (Except.ok.inj hsized).symm

theorem base?_describe {type : TypeExpr} {marshal : Option MarshalOverride} {position : Position}
    {word : Word} (hword : s.word? type marshal = some word)
    (h : s.describe type marshal position = .ok described) :
    described.type.base? = some (s.width.word word) := by
  obtain ⟨value, hvalue, htype, -⟩ := exists_of_describe h
  have hbase := base?_describeValue hword hvalue
  rw [htype]
  split
  · exact hbase
  · exact hbase

end Export

end Automation
